import VerticalPodAutoscaler.Updater.PrioritySpec
import Mathlib.Algebra.Order.BigOperators.Group.Finset

/-!
# The resource difference of a pod

In exact arithmetic, the per-resource totals of `getUpdatePriority` are sums over the visits
of its inner loop, and its last loop adds one relative difference per resource of the totals
map.  So `resourceDiff` is a sum over the recommended resources of a function of the two
totals, whatever order the last loop visits the map in.  The total request enters that
function raised to at least one, in the numerator as well as in the denominator.
-/

namespace VerticalPodAutoscaler.Updater

open Api

/-- The milli-value a visit adds to the total request: its request's, or none. -/
def ResourceEntry.requestMilli (entry : ResourceEntry) : Int :=
  ((requestFor entry.container entry.resourceName).map (·.milliValue)).getD 0

/-- The visits of the inner loop for one resource. -/
def entriesFor (pod : Pod) (recommendation : Option RecommendedPodResources)
    (resourceName : ResourceName) : List ResourceEntry :=
  (recommendedResourceEntries pod recommendation).filter (·.resourceName = resourceName)

/-- The sum of the target milli-values for a resource, over the containers whose
recommendation's target has it. -/
def totalRecommended (pod : Pod) (recommendation : Option RecommendedPodResources)
    (resourceName : ResourceName) : Int :=
  ((entriesFor pod recommendation resourceName).map (·.recommended.milliValue)).sum

/-- The sum of the request milli-values for a resource, over the same containers, a missing
request counting zero. -/
def totalRequest (pod : Pod) (recommendation : Option RecommendedPodResources)
    (resourceName : ResourceName) : Int :=
  ((entriesFor pod recommendation resourceName).map (·.requestMilli)).sum

/-- The resources in the target of some recommended container. -/
def recommendedResources (pod : Pod) (recommendation : Option RecommendedPodResources) :
    Finset ResourceName :=
  ((recommendedResourceEntries pod recommendation).map (·.resourceName)).toFinset

/-! ## The totals maps -/

theorem accumulateEntry_totalRecommended (acc : PriorityAccumulator) (entry : ResourceEntry) :
    (accumulateEntry exactArithmetic.addInt64 acc entry).totalRecommendedPerResource =
      addTotal exactArithmetic.addInt64 acc.totalRecommendedPerResource entry.resourceName
        entry.recommended.milliValue := by
  simp only [accumulateEntry, accumulateResource]
  cases requestFor entry.container entry.resourceName <;> rfl

theorem accumulateEntry_totalRequest (acc : PriorityAccumulator) (entry : ResourceEntry)
    (resourceName : ResourceName) :
    ((accumulateEntry exactArithmetic.addInt64 acc entry).totalRequestPerResource.lookup
        resourceName).getD 0 =
      (acc.totalRequestPerResource.lookup resourceName).getD 0 +
        if resourceName = entry.resourceName then entry.requestMilli else 0 := by
  simp only [accumulateEntry, accumulateResource, ResourceEntry.requestMilli]
  cases requestFor entry.container entry.resourceName with
  | none => simp
  | some request =>
      simp only [lookup_addTotal]
      split_ifs with same
      · subst same
        simp
      · simp

/-- Over a run of visits, a resource's recommended total gains the visits' target
milli-values, and the resource enters the map at its first visit. -/
theorem foldl_totalRecommended (entries : List ResourceEntry) (acc : PriorityAccumulator)
    (resourceName : ResourceName) :
    (entries.foldl (accumulateEntry exactArithmetic.addInt64)
        acc).totalRecommendedPerResource.lookup resourceName =
      if resourceName ∈ entries.map (·.resourceName) then
        some ((acc.totalRecommendedPerResource.lookup resourceName).getD 0 +
          ((entries.filter (·.resourceName = resourceName)).map
            (·.recommended.milliValue)).sum)
      else acc.totalRecommendedPerResource.lookup resourceName := by
  induction entries generalizing acc with
  | nil => simp
  | cons entry rest ih =>
      rw [List.foldl_cons, ih, accumulateEntry_totalRecommended, lookup_addTotal]
      by_cases same : resourceName = entry.resourceName
      · subst same
        by_cases later : entry.resourceName ∈ rest.map (·.resourceName)
        · simp [later, List.filter_cons, add_assoc]
        · have none : rest.filter (·.resourceName = entry.resourceName) = [] :=
            List.filter_eq_nil_iff.mpr (by simpa using later)
          simp [later, List.filter_cons, none]
      · have other : entry.resourceName ≠ resourceName := Ne.symm same
        simp [same, other, List.filter_cons]

theorem foldl_totalRequest (entries : List ResourceEntry) (acc : PriorityAccumulator)
    (resourceName : ResourceName) :
    ((entries.foldl (accumulateEntry exactArithmetic.addInt64)
        acc).totalRequestPerResource.lookup resourceName).getD 0 =
      (acc.totalRequestPerResource.lookup resourceName).getD 0 +
        ((entries.filter (·.resourceName = resourceName)).map (·.requestMilli)).sum := by
  induction entries generalizing acc with
  | nil => simp
  | cons entry rest ih =>
      rw [List.foldl_cons, ih, accumulateEntry_totalRequest]
      by_cases same : resourceName = entry.resourceName
      · subst same
        simp [add_assoc]
      · have other : entry.resourceName ≠ resourceName := Ne.symm same
        simp [same, other, List.filter_cons]

/-! ## The last loop -/

/-- The term the last loop adds for one resource, from its two totals. -/
def relativeDiff (totalRequestPerResource : Totals) (resourceName : ResourceName)
    (totalRecommended : Int) : ℚ :=
  |max ((totalRequestPerResource.lookup resourceName).getD 0 : ℚ) 1 - totalRecommended| /
    max ((totalRequestPerResource.lookup resourceName).getD 0 : ℚ) 1

/-- One pass of the last loop adds the term of its entry. -/
theorem addResourceDiff_exact (requests : Totals) (resourceDiff : ℚ)
    (entry : ResourceName × Int) :
    addResourceDiff exactArithmetic requests resourceDiff entry =
      resourceDiff + relativeDiff requests entry.1 entry.2 := rfl

/-- The last loop adds the term of every key of the recommended totals once, in whatever
order it visits them. -/
theorem foldl_addResourceDiff (order : TotalsOrder) (requests totals : Totals) (start : ℚ) :
    (order.entries totals).foldl (addResourceDiff exactArithmetic requests) start =
      start + ∑ name ∈ totals.keys.toFinset,
        relativeDiff requests name ((totals.lookup name).getD 0) := by
  have values : ∀ entry ∈ totals.entries, relativeDiff requests entry.1 entry.2 =
      relativeDiff requests entry.1 ((totals.lookup entry.1).getD 0) := by
    intro entry member
    rw [(AList.mem_lookup_iff.mpr member : totals.lookup entry.1 = some entry.2)]
    rfl
  have foldSum : ∀ (pairs : List (ResourceName × Int)) (start : ℚ),
      pairs.foldl (addResourceDiff exactArithmetic requests) start =
        start + (pairs.map fun entry => relativeDiff requests entry.1 entry.2).sum := by
    intro pairs
    induction pairs with
    | nil => simp
    | cons entry rest ih =>
        intro start
        rw [List.foldl_cons, ih, addResourceDiff_exact, List.map_cons, List.sum_cons, add_assoc]
  rw [foldSum, ((order.perm totals).map _).sum_eq, List.sum_toFinset _ totals.keys_nodup,
    List.map_map]
  simp only [AList.keys, List.keys, List.map_map, Function.comp_def]
  exact congrArg (start + List.sum ·) (List.map_congr_left values)

/-- `resourceDiff` is the sum, over the recommended resources, of the relative difference of
the total target and the total request, that total request raised to at least one in the
numerator and in the denominator alike. -/
theorem getUpdatePriority_resourceDiff (order : TotalsOrder) (pod : Pod)
    (recommendation : Option RecommendedPodResources) :
    (getUpdatePriority exactArithmetic order pod recommendation).resourceDiff =
      ∑ resourceName ∈ recommendedResources pod recommendation,
        |max (totalRequest pod recommendation resourceName : ℚ) 1 -
            totalRecommended pod recommendation resourceName| /
          max (totalRequest pod recommendation resourceName : ℚ) 1 := by
  simp only [getUpdatePriority]
  rw [getUpdatePriority_accumulator]
  set acc := (recommendedResourceEntries pod recommendation).foldl
    (accumulateEntry exactArithmetic.addInt64) .initial
  have keys : acc.totalRecommendedPerResource.keys.toFinset =
      recommendedResources pod recommendation := by
    ext resourceName
    rw [List.mem_toFinset, ← AList.mem_keys, ← AList.lookup_isSome, foldl_totalRecommended]
    simp [recommendedResources, PriorityAccumulator.initial]
  rw [foldl_addResourceDiff, exactArithmetic_float64, zero_add, keys]
  refine Finset.sum_congr rfl fun resourceName member => ?_
  have present : resourceName ∈ (recommendedResourceEntries pod recommendation).map
      (·.resourceName) := List.mem_toFinset.mp member
  simp only [relativeDiff, acc, foldl_totalRecommended, foldl_totalRequest, present, if_true]
  simp [PriorityAccumulator.initial, totalRequest, totalRecommended, entriesFor]

/-- `resourceDiff` is never negative, whatever the requests and the targets. -/
theorem getUpdatePriority_resourceDiff_nonneg (order : TotalsOrder) (pod : Pod)
    (recommendation : Option RecommendedPodResources) :
    0 ≤ (getUpdatePriority exactArithmetic order pod recommendation).resourceDiff := by
  simp only [getUpdatePriority]
  rw [getUpdatePriority_accumulator, foldl_addResourceDiff, exactArithmetic_float64, zero_add]
  exact Finset.sum_nonneg fun _ _ =>
    div_nonneg (abs_nonneg _) (le_max_of_le_right zero_le_one)

/-- A recommendation for `app` with a 100m cpu target, and no bounds or uncapped target. -/
def tenthCpuRecommendation : Option RecommendedPodResources :=
  some ⟨[⟨"app", AList.insert resourceCPU ⟨100000000, .decimalSI⟩ ∅, ∅, ∅, ∅⟩]⟩

/-- With no request and a 100m target, `resourceDiff` is `|1 - 100| / 1 = 99`, in whatever
order the last loop runs, not the `|0 - 100| / 1 = 100` of an unshifted numerator. -/
theorem resourceDiff_ne_unshifted (order : TotalsOrder) :
    (getUpdatePriority exactArithmetic order requestlessPod tenthCpuRecommendation).resourceDiff ≠
      ∑ resourceName ∈ recommendedResources requestlessPod tenthCpuRecommendation,
        |(totalRequest requestlessPod tenthCpuRecommendation resourceName : ℚ) -
            totalRecommended requestlessPod tenthCpuRecommendation resourceName| /
          max (totalRequest requestlessPod tenthCpuRecommendation resourceName : ℚ) 1 := by
  have entries : recommendedResourceEntries requestlessPod tenthCpuRecommendation =
      [⟨⟨"app", ⟨none, none⟩⟩, ⟨"app", AList.insert resourceCPU ⟨100000000, .decimalSI⟩ ∅, ∅, ∅, ∅⟩,
        resourceCPU, ⟨100000000, .decimalSI⟩⟩] := rfl
  have acc : requestlessPod.containers.foldl
      (accumulateContainer exactArithmetic.addInt64 tenthCpuRecommendation) .initial =
        ⟨true, true, ∅, AList.insert resourceCPU 100 ∅⟩ := rfl
  have visited : order.entries (AList.insert resourceCPU 100 ∅) = [(resourceCPU, 100)] :=
    List.perm_singleton.mp (order.perm _)
  simp only [getUpdatePriority, acc, visited, List.foldl_cons, List.foldl_nil,
    addResourceDiff_exact, relativeDiff, recommendedResources, totalRequest, totalRecommended,
    entriesFor, entries]
  norm_num [ResourceEntry.requestMilli, requestFor, Quantity.milliValue]

/-- The same pod in the order the totals are stored. -/
theorem resourceDiff_shifts_zero_request :
    (getUpdatePriority exactArithmetic .stored requestlessPod tenthCpuRecommendation).resourceDiff ≠
      ∑ resourceName ∈ recommendedResources requestlessPod tenthCpuRecommendation,
        |(totalRequest requestlessPod tenthCpuRecommendation resourceName : ℚ) -
            totalRecommended requestlessPod tenthCpuRecommendation resourceName| /
          max (totalRequest requestlessPod tenthCpuRecommendation resourceName : ℚ) 1 :=
  resourceDiff_ne_unshifted .stored

end VerticalPodAutoscaler.Updater
