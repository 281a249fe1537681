import VerticalPodAutoscaler.Api.Core
import Mathlib.Data.List.Perm.Basic

/-!
# Merging the limit ranges of a namespace

`limitsChecker.getLimitRangeItem` folds every item of the given type over one result item.
The result's `Default` is overwritten by each item that has one, while its cpu and memory
`Max` (`Min`) entries keep the smaller (larger) quantity, the first map being copied whole.
So each merged cpu or memory bound is one of the items' bounds and has the extreme amount;
among bounds of equal amount the later one wins, and the format it keeps can then depend on
the order in which the lister returns the limit ranges.  Any other resource keeps the entry of
the first map, whatever later items set.
-/

namespace VerticalPodAutoscaler.Limitrange

open Api

/-- The `updatedResult` closure: merges one resource of an item's map into the result. -/
def updatedResult (result lrItem : Option ResourceList) (resourceName : ResourceName)
    (picker : Quantity → Quantity → Quantity) : Option ResourceList :=
  match lrItem with
  | none => result
  | some lrItem =>
      match result with
      | none => some lrItem
      | some result =>
          match lrItem.lookup resourceName with
          | none => some result
          | some lrResource =>
              match result.lookup resourceName with
              | none => some (result.insert resourceName lrResource)
              | some resultResource =>
                  some (result.insert resourceName (picker resultResource lrResource))

/-- The `pickLowerMax` closure. -/
def pickLowerMax (q1 q2 : Quantity) : Quantity :=
  if q1.cmp q2 < 0 then q1 else q2

/-- The `chooseHigherMin` closure. -/
def chooseHigherMin (q1 q2 : Quantity) : Quantity :=
  if q1.cmp q2 > 0 then q1 else q2

/-- The loop body over one `LimitRangeItem`. -/
def mergeItem (limitType : LimitType) (result lri : LimitRangeItem) : LimitRangeItem :=
  if lri.type = limitType ∧ (lri.max.isSome ∨ lri.default.isSome ∨ lri.min.isSome) then
    let result := if lri.default.isSome then { result with default := lri.default } else result
    let max := updatedResult result.max lri.max resourceCPU pickLowerMax
    let max := updatedResult max lri.max resourceMemory pickLowerMax
    let min := updatedResult result.min lri.min resourceCPU chooseHigherMin
    let min := updatedResult min lri.min resourceMemory chooseHigherMin
    { result with max := max, min := min }
  else result

/-- `limitsChecker.getLimitRangeItem`, given what the lister returned for the namespace. -/
def getLimitRangeItem (limitRanges : Except String (List LimitRange))
    (limitType : LimitType) : Except String (Option LimitRangeItem) :=
  match limitRanges with
  | .error err => .error ("error loading limit ranges: " ++ err)
  | .ok limitRanges =>
      let result := limitRanges.foldl (fun result lr => lr.limits.foldl (mergeItem limitType) result)
        ⟨limitType, none, none, none⟩
      if result.min.isSome ∨ result.max.isSome ∨ result.default.isSome then .ok (some result)
      else .ok none

/-- `LimitRangeCalculator`, by the answers of its two methods for each namespace. -/
structure LimitRangeCalculator where
  getContainerLimitRangeItem : String → Except String (Option LimitRangeItem)
  getPodLimitRangeItem : String → Except String (Option LimitRangeItem)

/-- `noopLimitsRangeCalculator`, which `NewNoopLimitsCalculator` returns: no limits anywhere. -/
def noopLimitsRangeCalculator : LimitRangeCalculator :=
  ⟨fun _ => .ok none, fun _ => .ok none⟩

/-- `limitsChecker`, by what its lister returns for each namespace. -/
def limitsChecker (limitRangeLister : String → Except String (List LimitRange)) :
    LimitRangeCalculator :=
  ⟨fun «namespace» => getLimitRangeItem (limitRangeLister «namespace») limitTypeContainer,
    fun «namespace» => getLimitRangeItem (limitRangeLister «namespace») limitTypePod⟩

/-- A `SharedInformerFactory`, by what `NewLimitsRangeCalculator` reads of it: the limit range
lister, what `WaitForCacheSync` reports for each started informer, and whether the limit range
informer has synced when first asked, which it stays once it has. -/
structure SharedInformerFactory where
  limitRangeLister : String → Except String (List LimitRange)
  waitForCacheSync : List Bool
  limitRangesHasSynced : Bool

/-- `NewLimitsRangeCalculator`: its loop fails at the first informer that did not sync when the
limit range informer has not synced either. -/
def newLimitsRangeCalculator : Option SharedInformerFactory → Except String LimitRangeCalculator
  | none => .error "NewLimitsRangeCalculator requires a SharedInformerFactory but got nil"
  | some f =>
      if f.waitForCacheSync.any (! ·) && !f.limitRangesHasSynced then
        .error "informer did not sync"
      else .ok (limitsChecker f.limitRangeLister)

/-- The calculator the updater's `main` caps with: the noop one when `NewLimitsRangeCalculator`
fails. -/
def updaterLimitRangeCalculator (factory : Option SharedInformerFactory) : LimitRangeCalculator :=
  match newLimitsRangeCalculator factory with
  | .ok limitRangeCalculator => limitRangeCalculator
  | .error _ => noopLimitsRangeCalculator

/-! ## One resource of a merged bound -/

/-- How the merged value of one resource evolves: an item without the resource keeps it,
the first item with it sets it, and later ones are merged with the picker. -/
def mergeValue (picker : Quantity → Quantity → Quantity) :
    Option Quantity → Option Quantity → Option Quantity
  | merged, none => merged
  | none, some q => some q
  | some merged, some q => some (picker merged q)

theorem resourceCPU_ne_resourceMemory : resourceCPU ≠ resourceMemory := by decide

theorem mergeValue_none_left (picker : Quantity → Quantity → Quantity) (value : Option Quantity) :
    mergeValue picker none value = value := by
  cases value <;> rfl

theorem mergeValue_self {picker : Quantity → Quantity → Quantity} (idem : ∀ q, picker q q = q)
    (value : Option Quantity) : mergeValue picker value value = value := by
  cases value <;> simp [mergeValue, idem]

/-- One `updatedResult` call into a result map: the resource it names is merged, the others
stay. -/
theorem updatedResult_lookup (result lrItem : ResourceList) (resourceName other : ResourceName)
    (picker : Quantity → Quantity → Quantity) :
    (updatedResult (some result) (some lrItem) resourceName picker).bind (·.lookup other) =
      if other = resourceName then
        mergeValue picker (result.lookup resourceName) (lrItem.lookup resourceName)
      else result.lookup other := by
  simp only [updatedResult]
  split_ifs with same
  · subst same
    cases found : lrItem.lookup other <;> cases current : result.lookup other <;>
      simp [found, current, mergeValue]
  · cases found : lrItem.lookup resourceName <;> cases current : result.lookup resourceName <;>
      simp [found, current, AList.lookup_insert_ne same]

theorem updatedResult_some (result lrItem : ResourceList) (resourceName : ResourceName)
    (picker : Quantity → Quantity → Quantity) :
    ∃ merged, updatedResult (some result) (some lrItem) resourceName picker = some merged := by
  simp only [updatedResult]
  split <;> (try split) <;> exact ⟨_, rfl⟩

/-- The two `updatedResult` calls for cpu and memory merge each of the two resources. -/
theorem updatedResult_pair_lookup (result lrItem : Option ResourceList)
    (picker : Quantity → Quantity → Quantity) (idem : ∀ q, picker q q = q)
    {resourceName : ResourceName} (tracked : resourceName ∈ [resourceCPU, resourceMemory]) :
    (updatedResult (updatedResult result lrItem resourceCPU picker) lrItem resourceMemory
        picker).bind (·.lookup resourceName) =
      mergeValue picker (result.bind (·.lookup resourceName))
        (lrItem.bind (·.lookup resourceName)) := by
  have distinct := resourceCPU_ne_resourceMemory
  cases lrItem with
  | none => simp [updatedResult, mergeValue]
  | some lrItem =>
      cases result with
      | none =>
          rw [show updatedResult none (some lrItem) resourceCPU picker = some lrItem from rfl,
            updatedResult_lookup, Option.none_bind, mergeValue_none_left]
          split_ifs with memory
          · rw [memory, mergeValue_self idem, Option.some_bind]
          · rfl
      | some result =>
          obtain ⟨merged, first⟩ := updatedResult_some result lrItem resourceCPU picker
          have mergedLookup := fun other =>
            updatedResult_lookup result lrItem resourceCPU other picker
          simp only [first, Option.some_bind] at mergedLookup
          rw [first, updatedResult_lookup, mergedLookup, mergedLookup]
          rcases List.mem_pair.mp tracked with rfl | rfl
          · simp [distinct]
          · simp [Ne.symm distinct]

theorem pickLowerMax_self (q : Quantity) : pickLowerMax q q = q := by
  simp [pickLowerMax]

theorem chooseHigherMin_self (q : Quantity) : chooseHigherMin q q = q := by
  simp [chooseHigherMin]

/-! ## One step of the merge -/

section Step

variable (limitType : LimitType) (result lri : LimitRangeItem)

/-- The loop body with its `let`s inlined. -/
theorem mergeItem_eq :
    mergeItem limitType result lri =
      if lri.type = limitType ∧ (lri.max.isSome ∨ lri.default.isSome ∨ lri.min.isSome) then
        { type := result.type
          max := updatedResult (updatedResult result.max lri.max resourceCPU pickLowerMax)
            lri.max resourceMemory pickLowerMax
          min := updatedResult (updatedResult result.min lri.min resourceCPU chooseHigherMin)
            lri.min resourceMemory chooseHigherMin
          default := if lri.default.isSome then lri.default else result.default }
      else result := by
  unfold mergeItem
  split_ifs <;> rfl

theorem mergeItem_type : (mergeItem limitType result lri).type = result.type := by
  rw [mergeItem_eq]
  split_ifs <;> rfl

theorem mergeItem_default :
    (mergeItem limitType result lri).default =
      if lri.type = limitType ∧ lri.default.isSome then lri.default else result.default := by
  rw [mergeItem_eq]
  split_ifs <;> simp_all

theorem updatedResult_isSome (result lrItem : Option ResourceList) (resourceName : ResourceName)
    (picker : Quantity → Quantity → Quantity) :
    (updatedResult result lrItem resourceName picker).isSome =
      (result.isSome || lrItem.isSome) := by
  unfold updatedResult
  cases lrItem <;> cases result <;> simp
  split <;> [rfl; split <;> rfl]

theorem mergeItem_max_isSome :
    (mergeItem limitType result lri).max.isSome =
      (result.max.isSome || decide (lri.type = limitType) && lri.max.isSome) := by
  rw [mergeItem_eq]
  split_ifs with qualifies <;> simp_all [updatedResult_isSome]

theorem mergeItem_min_isSome :
    (mergeItem limitType result lri).min.isSome =
      (result.min.isSome || decide (lri.type = limitType) && lri.min.isSome) := by
  rw [mergeItem_eq]
  split_ifs with qualifies <;> simp_all [updatedResult_isSome]

/-- An item of the type merges its cpu or memory maximum into the result; others do not. -/
theorem mergeItem_max_lookup {resourceName : ResourceName}
    (tracked : resourceName ∈ [resourceCPU, resourceMemory]) :
    (mergeItem limitType result lri).max.bind (·.lookup resourceName) =
      mergeValue pickLowerMax (result.max.bind (·.lookup resourceName))
        (if lri.type = limitType then lri.max.bind (·.lookup resourceName) else none) := by
  by_cases qualifies :
      lri.type = limitType ∧ (lri.max.isSome ∨ lri.default.isSome ∨ lri.min.isSome)
  · rw [mergeItem_eq, if_pos qualifies, if_pos qualifies.1]
    exact updatedResult_pair_lookup _ _ _ pickLowerMax_self tracked
  · rw [mergeItem_eq, if_neg qualifies]
    by_cases typed : lri.type = limitType
    · have absent : lri.max = none := by
        cases present : lri.max
        · rfl
        · exact absurd ⟨typed, .inl (by simp [present])⟩ qualifies
      simp [typed, absent, mergeValue]
    · simp [typed, mergeValue]

/-- An item of the type merges its cpu or memory minimum into the result; others do not. -/
theorem mergeItem_min_lookup {resourceName : ResourceName}
    (tracked : resourceName ∈ [resourceCPU, resourceMemory]) :
    (mergeItem limitType result lri).min.bind (·.lookup resourceName) =
      mergeValue chooseHigherMin (result.min.bind (·.lookup resourceName))
        (if lri.type = limitType then lri.min.bind (·.lookup resourceName) else none) := by
  by_cases qualifies :
      lri.type = limitType ∧ (lri.max.isSome ∨ lri.default.isSome ∨ lri.min.isSome)
  · rw [mergeItem_eq, if_pos qualifies, if_pos qualifies.1]
    exact updatedResult_pair_lookup _ _ _ chooseHigherMin_self tracked
  · rw [mergeItem_eq, if_neg qualifies]
    by_cases typed : lri.type = limitType
    · have absent : lri.min = none := by
        cases present : lri.min
        · rfl
        · exact absurd ⟨typed, .inr (.inr (by simp [present]))⟩ qualifies
      simp [typed, absent, mergeValue]
    · simp [typed, mergeValue]

end Step

/-! ## The merged value of one resource -/

/-- `chosen` is the last, in list order, of the `values` with the least `key`, and is absent
exactly when there are none. -/
def IsLastLeast (key : Quantity → Int) (chosen : Option Quantity) (values : List Quantity) :
    Prop :=
  (chosen = none ↔ values = []) ∧
    ∀ q, chosen = some q → (∀ v ∈ values, key q ≤ key v) ∧
      ∃ before after, values = before ++ q :: after ∧ ∀ v ∈ after, key q < key v

theorem pickLowerMax_picks (q1 q2 : Quantity) :
    pickLowerMax q1 q2 = if q1.nanos < q2.nanos then q1 else q2 := by
  simp [pickLowerMax]

theorem chooseHigherMin_picks (q1 q2 : Quantity) :
    chooseHigherMin q1 q2 = if -q1.nanos < -q2.nanos then q1 else q2 := by
  have flipped : -q1.nanos < -q2.nanos ↔ q2.nanos < q1.nanos := by omega
  simp [chooseHigherMin, flipped]

theorem IsLastLeast.nil (key : Quantity → Int) : IsLastLeast key none [] := by
  simp [IsLastLeast]

section Fold

variable {key : Quantity → Int} {picker : Quantity → Quantity → Quantity}
  (picks : ∀ q1 q2, picker q1 q2 = if key q1 < key q2 then q1 else q2)
include picks

/-- A picker that keeps the first argument only when its key is strictly smaller keeps the
last of the least values seen. -/
theorem IsLastLeast.mergeValue {chosen : Option Quantity} {values : List Quantity}
    (least : IsLastLeast key chosen values) (next : Option Quantity) :
    IsLastLeast key (mergeValue picker chosen next) (values ++ next.toList) := by
  obtain ⟨empty, last⟩ := least
  cases next with
  | none => simpa [Limitrange.mergeValue] using And.intro empty last
  | some x =>
      cases chosen with
      | none =>
          obtain rfl : values = [] := empty.mp rfl
          exact ⟨by simp [Limitrange.mergeValue], fun q chosen => by
            simp only [Limitrange.mergeValue, Option.some.injEq] at chosen
            exact ⟨by simp [chosen], [], [], by simp [chosen], by simp⟩⟩
      | some a =>
          obtain ⟨smallest, before, after, split, later⟩ := last a rfl
          refine ⟨by simp [Limitrange.mergeValue], fun q chosen => ?_⟩
          simp only [Limitrange.mergeValue, Option.some.injEq, picks] at chosen
          by_cases kept : key a < key x
          · rw [if_pos kept] at chosen
            subst chosen
            refine ⟨fun v member => ?_, before, after ++ [x], by simp [split], fun v member => ?_⟩
            · rcases List.mem_append.mp member with old | new
              · exact smallest v old
              · exact (List.mem_singleton.mp new) ▸ kept.le
            · rcases List.mem_append.mp member with old | new
              · exact later v old
              · exact (List.mem_singleton.mp new) ▸ kept
          · rw [if_neg kept] at chosen
            subst chosen
            refine ⟨fun v member => ?_, values, [], by simp, by simp⟩
            rcases List.mem_append.mp member with old | new
            · exact (not_lt.mp kept).trans (smallest v old)
            · exact (List.mem_singleton.mp new) ▸ le_rfl

/-- The run of `mergeValue` over the resource's value in each item. -/
theorem IsLastLeast.foldl {chosen : Option Quantity} {values : List Quantity}
    (least : IsLastLeast key chosen values) (nexts : List (Option Quantity)) :
    IsLastLeast key (nexts.foldl (Limitrange.mergeValue picker) chosen)
      (values ++ nexts.filterMap id) := by
  induction nexts generalizing chosen values with
  | nil => simpa using least
  | cons next rest ih =>
      have step := ih (least.mergeValue picks next)
      cases next <;> simpa using step

/-- Merging one value per item, from none, keeps the last least of the items' values. -/
theorem isLastLeast_foldl_map {α : Type} (items : List α) (value : α → Option Quantity) :
    IsLastLeast key ((items.map value).foldl (Limitrange.mergeValue picker) none)
      (items.filterMap value) := by
  simpa [List.filterMap_map] using (IsLastLeast.nil key).foldl picks (items.map value)

end Fold

theorem IsLastLeast.mem {key : Quantity → Int} {chosen : Option Quantity}
    {values : List Quantity} (least : IsLastLeast key chosen values) {q : Quantity}
    (isChosen : chosen = some q) : q ∈ values := by
  obtain ⟨-, before, after, split, -⟩ := least.2 q isChosen
  simp [split]

/-- The least key of some values does not depend on their order. -/
theorem IsLastLeast.key_eq {key : Quantity → Int} {first second : Option Quantity}
    {values reordered : List Quantity} (least : IsLastLeast key first values)
    (least' : IsLastLeast key second reordered) (perm : reordered.Perm values) :
    first.map key = second.map key := by
  cases firstChosen : first with
  | none =>
      have empty : reordered = [] := by simpa [least.1.mp firstChosen] using perm
      rw [least'.1.mpr empty]
  | some q =>
      cases secondChosen : second with
      | none =>
          have empty : values = [] := by simpa [least'.1.mp secondChosen] using perm
          simp [least.1.mpr empty] at firstChosen
      | some q' =>
          have below := (least.2 q firstChosen).1 q' (perm.subset (least'.mem secondChosen))
          have above := (least'.2 q' secondChosen).1 q (perm.symm.subset (least.mem firstChosen))
          simp only [Option.map_some', Option.some.injEq]
          omega

/-! ## The whole merge -/

section Run

variable (limitType : LimitType)

/-- The two loops visit the items of every limit range in turn. -/
theorem foldl_limits (limitRanges : List LimitRange) (result : LimitRangeItem) :
    limitRanges.foldl (fun result lr => lr.limits.foldl (mergeItem limitType) result) result =
      (limitRanges.flatMap (·.limits)).foldl (mergeItem limitType) result := by
  induction limitRanges generalizing result with
  | nil => rfl
  | cons lr rest ih => simp [ih]

theorem foldl_type (items : List LimitRangeItem) (result : LimitRangeItem) :
    (items.foldl (mergeItem limitType) result).type = result.type := by
  induction items generalizing result with
  | nil => rfl
  | cons lri rest ih => rw [List.foldl_cons, ih, mergeItem_type]

/-- The merged `Default` is the last one set by an item of the type. -/
theorem foldl_default (items : List LimitRangeItem) (result : LimitRangeItem) :
    (items.foldl (mergeItem limitType) result).default =
      (items.filterMap fun lri => if lri.type = limitType then lri.default else none).getLast?.or
        result.default := by
  induction items generalizing result with
  | nil => simp
  | cons lri rest ih =>
      rw [List.foldl_cons, ih, mergeItem_default]
      by_cases typed : lri.type = limitType
      · cases default : lri.default with
        | none => simp [typed, default]
        | some set =>
            cases last : (rest.filterMap fun lri => if lri.type = limitType then lri.default
              else none).getLast? <;>
              simp only [typed, default, last, List.filterMap_cons, List.getLast?_cons,
                if_true, Option.or, Option.getD_some, Option.getD_none, Option.isSome_some, and_self]
      · simp [typed]

theorem foldl_max_isSome (items : List LimitRangeItem) (result : LimitRangeItem) :
    (items.foldl (mergeItem limitType) result).max.isSome =
      (result.max.isSome || items.any fun lri => decide (lri.type = limitType) && lri.max.isSome) := by
  induction items generalizing result with
  | nil => simp
  | cons lri rest ih => simp [ih, mergeItem_max_isSome, Bool.or_assoc]

theorem foldl_min_isSome (items : List LimitRangeItem) (result : LimitRangeItem) :
    (items.foldl (mergeItem limitType) result).min.isSome =
      (result.min.isSome || items.any fun lri => decide (lri.type = limitType) && lri.min.isSome) := by
  induction items generalizing result with
  | nil => simp
  | cons lri rest ih => simp [ih, mergeItem_min_isSome, Bool.or_assoc]

variable {resourceName : ResourceName} (tracked : resourceName ∈ [resourceCPU, resourceMemory])
include tracked

theorem foldl_max_lookup (items : List LimitRangeItem) (result : LimitRangeItem) :
    (items.foldl (mergeItem limitType) result).max.bind (·.lookup resourceName) =
      (items.map fun lri => if lri.type = limitType then lri.max.bind (·.lookup resourceName)
        else none).foldl (mergeValue pickLowerMax) (result.max.bind (·.lookup resourceName)) := by
  induction items generalizing result with
  | nil => rfl
  | cons lri rest ih => rw [List.foldl_cons, ih, mergeItem_max_lookup _ _ _ tracked]; rfl

theorem foldl_min_lookup (items : List LimitRangeItem) (result : LimitRangeItem) :
    (items.foldl (mergeItem limitType) result).min.bind (·.lookup resourceName) =
      (items.map fun lri => if lri.type = limitType then lri.min.bind (·.lookup resourceName)
        else none).foldl (mergeValue chooseHigherMin) (result.min.bind (·.lookup resourceName)) := by
  induction items generalizing result with
  | nil => rfl
  | cons lri rest ih => rw [List.foldl_cons, ih, mergeItem_min_lookup _ _ _ tracked]; rfl

end Run

theorem mergeItem_of_type_ne {limitType : LimitType} {lri : LimitRangeItem}
    (other : lri.type ≠ limitType) (result : LimitRangeItem) :
    mergeItem limitType result lri = result := by
  simp [mergeItem, other]

/-- The loop over one limit range skips the items of other types. -/
theorem foldl_mergeItem_filter (limitType : LimitType) (limits : List LimitRangeItem)
    (result : LimitRangeItem) :
    (limits.filter (·.type = limitType)).foldl (mergeItem limitType) result =
      limits.foldl (mergeItem limitType) result := by
  induction limits generalizing result with
  | nil => rfl
  | cons lri rest ih =>
      by_cases typed : lri.type = limitType
      · simp [List.filter_cons, typed, ih]
      · simp [List.filter_cons, typed, ih, mergeItem_of_type_ne typed]

/-- Only the items of the requested type matter: dropping all others from every limit range
gives the same answer. -/
theorem getLimitRangeItem_filter_type (limitRanges : List LimitRange) (limitType : LimitType) :
    getLimitRangeItem (.ok (limitRanges.map fun lr => ⟨lr.limits.filter (·.type = limitType)⟩))
        limitType =
      getLimitRangeItem (.ok limitRanges) limitType := by
  simp only [getLimitRangeItem, List.foldl_map, foldl_mergeItem_filter]

/-- The items of one type, in the order the two loops visit them. -/
def itemsOfType (limitRanges : List LimitRange) (limitType : LimitType) :
    List LimitRangeItem :=
  (limitRanges.flatMap (·.limits)).filter (·.type = limitType)

/-- A bound of the merged item for one resource, when the item and its map have it. -/
def mergedBound (bound : LimitRangeItem → Option ResourceList)
    (merged : Option LimitRangeItem) (resourceName : ResourceName) : Option Quantity :=
  (merged.bind bound).bind (·.lookup resourceName)

section Merged

variable (limitRanges : List LimitRange) (limitType : LimitType)

/-- The item the loops build for the limit ranges. -/
abbrev mergedItem : LimitRangeItem :=
  (limitRanges.flatMap (·.limits)).foldl (mergeItem limitType) ⟨limitType, none, none, none⟩

theorem mergedItem_default :
    (mergedItem limitRanges limitType).default =
      ((itemsOfType limitRanges limitType).filterMap (·.default)).getLast? := by
  rw [foldl_default, itemsOfType, List.filterMap_filter]
  simp

theorem mergedItem_max_isSome :
    (mergedItem limitRanges limitType).max.isSome =
      (itemsOfType limitRanges limitType).any (·.max.isSome) := by
  simp [foldl_max_isSome, itemsOfType]

theorem mergedItem_min_isSome :
    (mergedItem limitRanges limitType).min.isSome =
      (itemsOfType limitRanges limitType).any (·.min.isSome) := by
  simp [foldl_min_isSome, itemsOfType]

variable {resourceName : ResourceName} (tracked : resourceName ∈ [resourceCPU, resourceMemory])
include tracked

theorem mergedItem_max :
    IsLastLeast (·.nanos) ((mergedItem limitRanges limitType).max.bind (·.lookup resourceName))
      ((itemsOfType limitRanges limitType).filterMap (·.max.bind (·.lookup resourceName))) := by
  rw [foldl_max_lookup _ tracked, itemsOfType, List.filterMap_filter]
  simpa using isLastLeast_foldl_map pickLowerMax_picks _ _

theorem mergedItem_min :
    IsLastLeast (-·.nanos) ((mergedItem limitRanges limitType).min.bind (·.lookup resourceName))
      ((itemsOfType limitRanges limitType).filterMap (·.min.bind (·.lookup resourceName))) := by
  rw [foldl_min_lookup _ tracked, itemsOfType, List.filterMap_filter]
  simpa using isLastLeast_foldl_map chooseHigherMin_picks _ _

end Merged

/-- `getLimitRangeItem` returns the merged item exactly when an item of the type has a
bound or a default, and its cpu and memory bounds are the last extreme ones. -/
theorem getLimitRangeItem_characterized (limitRanges : List LimitRange)
    (limitType : LimitType) :
    ∃ merged, getLimitRangeItem (.ok limitRanges) limitType = .ok merged ∧
      (merged = none ↔ ∀ lri ∈ itemsOfType limitRanges limitType,
        lri.max = none ∧ lri.min = none ∧ lri.default = none) ∧
      (∀ result ∈ merged, result.type = limitType) ∧
      (∀ resourceName ∈ [resourceCPU, resourceMemory],
        IsLastLeast (·.nanos) (mergedBound (·.max) merged resourceName)
          ((itemsOfType limitRanges limitType).filterMap (·.max.bind (·.lookup resourceName))) ∧
        IsLastLeast (-·.nanos) (mergedBound (·.min) merged resourceName)
          ((itemsOfType limitRanges limitType).filterMap (·.min.bind (·.lookup resourceName)))) ∧
      merged.bind (·.default) =
        ((itemsOfType limitRanges limitType).filterMap (·.default)).getLast? := by
  set item := mergedItem limitRanges limitType
  set found := item.min.isSome ∨ item.max.isSome ∨ item.default.isSome
  have field : ∀ {bound : LimitRangeItem → Option ResourceList},
      ((bound item).isSome → found) →
        (if found then some item else none).bind bound = bound item := by
    intro bound present
    split_ifs with kept
    · rfl
    · exact (Option.not_isSome_iff_eq_none.mp (mt present kept)).symm
  have unfolded : getLimitRangeItem (.ok limitRanges) limitType =
      .ok (if found then some item else none) := by
    simp only [getLimitRangeItem, foldl_limits]
    split_ifs <;> rfl
  refine ⟨_, unfolded, ?_, ?_, fun resourceName tracked => ?_, ?_⟩
  · simp only [ite_eq_right_iff, reduceCtorEq, imp_false, found, mergedItem_min_isSome,
      mergedItem_max_isSome, mergedItem_default, item]
    simp [List.getLast?_isSome, List.filterMap_eq_nil_iff, forall_and, and_comm, and_left_comm]
  · intro result member
    split_ifs at member
    · simp only [Option.mem_def, Option.some.injEq] at member
      rw [← member, foldl_type]
    · simp at member
  · simp only [mergedBound]
    rw [field fun present => .inr (.inl present), field fun present => .inl present]
    exact ⟨mergedItem_max _ _ tracked, mergedItem_min _ _ tracked⟩
  · rw [field fun present => .inr (.inr present), mergedItem_default]

/-- The amounts of the merged cpu and memory bounds of one resource. -/
def boundAmounts (merged : Option LimitRangeItem) (resourceName : ResourceName) :
    Option Int × Option Int :=
  ((mergedBound (·.max) merged resourceName).map (·.nanos),
    (mergedBound (·.min) merged resourceName).map (·.nanos))

/-- `getLimitRangeItem` merges the items of the type: no item is returned exactly when none
has a bound or a default; the cpu and memory `Max` (`Min`) is the last, in list order, of
the items' smallest (largest) ones by `Cmp`, and the `Default` the last one set.  So the
amounts of those bounds do not depend on the order of the limit ranges. -/
theorem getLimitRangeItem_merges (limitRanges : List LimitRange) (limitType : LimitType) :
    ∃ merged, getLimitRangeItem (.ok limitRanges) limitType = .ok merged ∧
      (merged = none ↔ ∀ lri ∈ itemsOfType limitRanges limitType,
        lri.max = none ∧ lri.min = none ∧ lri.default = none) ∧
      (∀ result ∈ merged, result.type = limitType) ∧
      (∀ resourceName ∈ [resourceCPU, resourceMemory],
        IsLastLeast (·.nanos) (mergedBound (·.max) merged resourceName)
          ((itemsOfType limitRanges limitType).filterMap (·.max.bind (·.lookup resourceName))) ∧
        IsLastLeast (-·.nanos) (mergedBound (·.min) merged resourceName)
          ((itemsOfType limitRanges limitType).filterMap (·.min.bind (·.lookup resourceName)))) ∧
      merged.bind (·.default) =
        ((itemsOfType limitRanges limitType).filterMap (·.default)).getLast? ∧
      ∀ reordered, reordered.Perm limitRanges → ∀ resourceName ∈ [resourceCPU, resourceMemory],
        (getLimitRangeItem (.ok reordered) limitType).map (boundAmounts · resourceName) =
          .ok (boundAmounts merged resourceName) := by
  obtain ⟨merged, returned, empty, typed, bounds, default⟩ :=
    getLimitRangeItem_characterized limitRanges limitType
  refine ⟨merged, returned, empty, typed, bounds, default, fun reordered perm resourceName
    tracked => ?_⟩
  obtain ⟨other, returned', -, -, bounds', -⟩ := getLimitRangeItem_characterized reordered limitType
  have items : (itemsOfType reordered limitType).Perm (itemsOfType limitRanges limitType) :=
    (perm.flatMap_right _).filter _
  have maxAmount := (bounds' resourceName tracked).1.key_eq (bounds resourceName tracked).1
    (items.filterMap _).symm
  have minAmount := (bounds' resourceName tracked).2.key_eq (bounds resourceName tracked).2
    (items.filterMap _).symm
  rw [returned']
  simp only [Except.map, boundAmounts, maxAmount, Prod.mk.injEq, true_and]
  simpa [Option.map_map, Function.comp_def] using congrArg (Option.map Neg.neg) minAmount

/-- A limit range whose only item caps container memory at `1Gi`. -/
def gibiMemoryMax : LimitRange :=
  ⟨[⟨limitTypeContainer, some (AList.insert resourceMemory ⟨1073741824000000000, .binarySI⟩ ∅),
    none, none⟩]⟩

/-- A limit range whose only item caps container memory at `1073741824`, the same amount. -/
def byteMemoryMax : LimitRange :=
  ⟨[⟨limitTypeContainer, some (AList.insert resourceMemory ⟨1073741824000000000, .decimalSI⟩ ∅),
    none, none⟩]⟩

/-- Of two memory maxima of equal amount the later one is kept, so the merged quantity, and
with it the format it is printed in, follows the order the lister returns. -/
theorem tied_memory_max_follows_order :
    [byteMemoryMax, gibiMemoryMax].Perm [gibiMemoryMax, byteMemoryMax] ∧
      (getLimitRangeItem (.ok [gibiMemoryMax, byteMemoryMax]) limitTypeContainer).map
          (mergedBound (·.max) · resourceMemory) =
        .ok (some ⟨1073741824000000000, .decimalSI⟩) ∧
      (getLimitRangeItem (.ok [byteMemoryMax, gibiMemoryMax]) limitTypeContainer).map
          (mergedBound (·.max) · resourceMemory) =
        .ok (some ⟨1073741824000000000, .binarySI⟩) :=
  ⟨.swap _ _ _, rfl, rfl⟩

/-! ## Resources other than cpu and memory

The first map of a bound is copied whole, and later items merge only cpu and memory into it.
So for any other resource the merged bound is the first map's entry, whatever later items set.
-/

section Untracked

variable {resourceName : ResourceName}

/-- A call for another resource keeps the result's entry, or copies the item's map when the
result has none. -/
theorem updatedResult_bind_other (result lrItem : Option ResourceList) {named : ResourceName}
    (picker : Quantity → Quantity → Quantity) (other : resourceName ≠ named) :
    (updatedResult result lrItem named picker).bind (·.lookup resourceName) =
      (result.or lrItem).bind (·.lookup resourceName) := by
  cases lrItem with
  | none => cases result <;> rfl
  | some lrItem =>
      cases result with
      | none => rfl
      | some result => rw [updatedResult_lookup, if_neg other]; rfl

/-- Maps that agree on being there and on one entry still agree after the same fallback. -/
theorem or_bind_lookup_congr {first second : Option ResourceList} (fallback : Option ResourceList)
    (present : first.isSome = second.isSome)
    (entry : first.bind (·.lookup resourceName) = second.bind (·.lookup resourceName)) :
    (first.or fallback).bind (·.lookup resourceName) =
      (second.or fallback).bind (·.lookup resourceName) := by
  cases first <;> cases second <;> simp_all

variable (untracked : resourceName ∉ [resourceCPU, resourceMemory])
include untracked

/-- The calls for cpu and memory leave every other entry of a map that is there, and copy the
item's map when none is. -/
theorem updatedResult_pair_other (result lrItem : Option ResourceList)
    (picker : Quantity → Quantity → Quantity) :
    (updatedResult (updatedResult result lrItem resourceCPU picker) lrItem resourceMemory
        picker).bind (·.lookup resourceName) =
      (result.or lrItem).bind (·.lookup resourceName) := by
  obtain ⟨cpu, memory⟩ : resourceName ≠ resourceCPU ∧ resourceName ≠ resourceMemory := by
    simpa [not_or] using untracked
  rw [updatedResult_bind_other _ _ _ memory,
    or_bind_lookup_congr lrItem (by rw [updatedResult_isSome, Option.isSome_or])
      (updatedResult_bind_other _ _ _ cpu),
    Option.or_assoc, Option.or_self]

variable (limitType : LimitType)

/-- An item of the type gives its maximum map to a result that has none; another resource's
entry of a map that is there never changes. -/
theorem mergeItem_max_bind_other (result lri : LimitRangeItem) :
    (mergeItem limitType result lri).max.bind (·.lookup resourceName) =
      (result.max.or (if lri.type = limitType then lri.max else none)).bind
        (·.lookup resourceName) := by
  by_cases qualifies :
      lri.type = limitType ∧ (lri.max.isSome ∨ lri.default.isSome ∨ lri.min.isSome)
  · rw [mergeItem_eq, if_pos qualifies, if_pos qualifies.1]
    exact updatedResult_pair_other untracked _ _ _
  · rw [mergeItem_eq, if_neg qualifies]
    split_ifs <;> simp_all

/-- An item of the type gives its minimum map to a result that has none; another resource's
entry of a map that is there never changes. -/
theorem mergeItem_min_bind_other (result lri : LimitRangeItem) :
    (mergeItem limitType result lri).min.bind (·.lookup resourceName) =
      (result.min.or (if lri.type = limitType then lri.min else none)).bind
        (·.lookup resourceName) := by
  by_cases qualifies :
      lri.type = limitType ∧ (lri.max.isSome ∨ lri.default.isSome ∨ lri.min.isSome)
  · rw [mergeItem_eq, if_pos qualifies, if_pos qualifies.1]
    exact updatedResult_pair_other untracked _ _ _
  · rw [mergeItem_eq, if_neg qualifies]
    split_ifs <;> simp_all

theorem foldl_max_bind_other (items : List LimitRangeItem) (result : LimitRangeItem) :
    (items.foldl (mergeItem limitType) result).max.bind (·.lookup resourceName) =
      (result.max.or (items.filterMap fun lri => if lri.type = limitType then lri.max
        else none).head?).bind (·.lookup resourceName) := by
  induction items generalizing result with
  | nil => simp
  | cons lri rest ih =>
      rw [List.foldl_cons, ih, or_bind_lookup_congr _
        (by rw [mergeItem_max_isSome, Option.isSome_or]; split_ifs with typed <;> simp [typed])
        (mergeItem_max_bind_other untracked _ _ _), Option.or_assoc]
      cases first : (if lri.type = limitType then lri.max else none) <;>
        simp [List.filterMap_cons, first]

theorem foldl_min_bind_other (items : List LimitRangeItem) (result : LimitRangeItem) :
    (items.foldl (mergeItem limitType) result).min.bind (·.lookup resourceName) =
      (result.min.or (items.filterMap fun lri => if lri.type = limitType then lri.min
        else none).head?).bind (·.lookup resourceName) := by
  induction items generalizing result with
  | nil => simp
  | cons lri rest ih =>
      rw [List.foldl_cons, ih, or_bind_lookup_congr _
        (by rw [mergeItem_min_isSome, Option.isSome_or]; split_ifs with typed <;> simp [typed])
        (mergeItem_min_bind_other untracked _ _ _), Option.or_assoc]
      cases first : (if lri.type = limitType then lri.min else none) <;>
        simp [List.filterMap_cons, first]

variable (limitRanges : List LimitRange)

theorem mergedItem_max_other :
    (mergedItem limitRanges limitType).max.bind (·.lookup resourceName) =
      ((itemsOfType limitRanges limitType).filterMap (·.max)).head?.bind
        (·.lookup resourceName) := by
  rw [foldl_max_bind_other untracked, itemsOfType, List.filterMap_filter]
  simp

theorem mergedItem_min_other :
    (mergedItem limitRanges limitType).min.bind (·.lookup resourceName) =
      ((itemsOfType limitRanges limitType).filterMap (·.min)).head?.bind
        (·.lookup resourceName) := by
  rw [foldl_min_bind_other untracked, itemsOfType, List.filterMap_filter]
  simp

end Untracked

/-- The answer for listed limit ranges: the merged item, kept when it has a bound or a
default. -/
theorem getLimitRangeItem_ok (limitRanges : List LimitRange) (limitType : LimitType) :
    getLimitRangeItem (.ok limitRanges) limitType =
      .ok (if (mergedItem limitRanges limitType).min.isSome ∨
          (mergedItem limitRanges limitType).max.isSome ∨
          (mergedItem limitRanges limitType).default.isSome then
        some (mergedItem limitRanges limitType) else none) := by
  simp only [getLimitRangeItem, foldl_limits]
  split_ifs <;> rfl

/-- A bound of the answer is the merged item's, since a bound that is there keeps the item. -/
theorem mergedBound_kept {item : LimitRangeItem} {found : Prop} [Decidable found]
    {bound : LimitRangeItem → Option ResourceList} (present : (bound item).isSome → found)
    (resourceName : ResourceName) :
    mergedBound bound (if found then some item else none) resourceName =
      (bound item).bind (·.lookup resourceName) := by
  split_ifs with kept
  · rfl
  · simp [mergedBound, Option.not_isSome_iff_eq_none.mp (mt present kept)]

/-- For a resource other than cpu and memory, the merged `Max` (`Min`) is the entry of the
first item of the type that has a `Max` (`Min`) map: later items never add, lower or raise it,
and when that first map lacks the resource no later item can set one. -/
theorem getLimitRangeItem_other_resource (limitRanges : List LimitRange) (limitType : LimitType)
    {resourceName : ResourceName} (untracked : resourceName ∉ [resourceCPU, resourceMemory]) :
    ∃ merged, getLimitRangeItem (.ok limitRanges) limitType = .ok merged ∧
      mergedBound (·.max) merged resourceName =
        ((itemsOfType limitRanges limitType).filterMap (·.max)).head?.bind
          (·.lookup resourceName) ∧
      mergedBound (·.min) merged resourceName =
        ((itemsOfType limitRanges limitType).filterMap (·.min)).head?.bind
          (·.lookup resourceName) := by
  refine ⟨_, getLimitRangeItem_ok limitRanges limitType, ?_, ?_⟩
  · rw [mergedBound_kept fun present => .inr (.inl present), mergedItem_max_other untracked]
  · rw [mergedBound_kept fun present => .inl present, mergedItem_min_other untracked]

/-- A limit range that caps container cpu at `2`. -/
def cpuMax : LimitRange :=
  ⟨[⟨limitTypeContainer, some (AList.insert resourceCPU ⟨2000000000, .decimalSI⟩ ∅), none, none⟩]⟩

/-- A limit range that caps container ephemeral storage at `1Gi`. -/
def ephemeralStorageMax : LimitRange :=
  ⟨[⟨limitTypeContainer,
    some (AList.insert "ephemeral-storage" ⟨1073741824000000000, .binarySI⟩ ∅), none, none⟩]⟩

theorem ephemeralStorage_max_first_map :
    "ephemeral-storage" ∉ [resourceCPU, resourceMemory] ∧
      ∃ merged, getLimitRangeItem (.ok [cpuMax, ephemeralStorageMax]) limitTypeContainer =
          .ok merged ∧
        mergedBound (·.max) merged "ephemeral-storage" =
          ((itemsOfType [cpuMax, ephemeralStorageMax] limitTypeContainer).filterMap
            (·.max)).head?.bind (·.lookup "ephemeral-storage") ∧
        mergedBound (·.min) merged "ephemeral-storage" =
          ((itemsOfType [cpuMax, ephemeralStorageMax] limitTypeContainer).filterMap
            (·.min)).head?.bind (·.lookup "ephemeral-storage") :=
  ⟨by decide, getLimitRangeItem_other_resource _ _ (by decide)⟩

/-- The storage cap is dropped when a cpu cap comes first, and kept when it comes first. -/
example :
    (getLimitRangeItem (.ok [cpuMax, ephemeralStorageMax]) limitTypeContainer).map
        (mergedBound (·.max) · "ephemeral-storage") = .ok none ∧
      (getLimitRangeItem (.ok [ephemeralStorageMax, cpuMax]) limitTypeContainer).map
        (mergedBound (·.max) · "ephemeral-storage") =
        .ok (some ⟨1073741824000000000, .binarySI⟩) :=
  ⟨rfl, rfl⟩

end VerticalPodAutoscaler.Limitrange
