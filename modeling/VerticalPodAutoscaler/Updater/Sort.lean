import VerticalPodAutoscaler.Updater.Priority
import Mathlib.Data.List.Chain

/-!
# `sort.Sort`

The standard library's `sort.Sort` is known by its documented contract: when `Less` is a
strict weak order (irreflexive, transitive, and with a transitive negation) it permutes the
data so that no element is `Less` than the one before it.  On at most twelve elements it runs
`insertionSort`, which is modelled here and meets the contract.  `byPriority.Less` is such an
order, so a sorted list of pod priorities is ordered pairwise, not only between neighbours.
-/

namespace VerticalPodAutoscaler.Updater

/-- The requirement `sort.Interface` states for `Less`. -/
structure StrictWeakOrder {α : Type} (less : α → α → Bool) : Prop where
  irrefl : ∀ a, less a a = false
  trans : ∀ {a b c}, less a b = true → less b c = true → less a c = true
  notTrans : ∀ {a b c}, less a b = false → less b c = false → less a c = false

theorem StrictWeakOrder.asymm {α : Type} {less : α → α → Bool} (order : StrictWeakOrder less)
    {a b : α} (before : less a b = true) : less b a = false := by
  cases after : less b a
  · rfl
  · simpa [order.irrefl a] using order.trans before after

/-- `sort.IsSorted`: no element is `Less` than the one before it. -/
def IsSorted {α : Type} (less : α → α → Bool) (data : List α) : Prop :=
  data.Chain' fun before after => less after before = false

/-- Under a strict weak order, sorted neighbours make a pairwise sorted list. -/
theorem IsSorted.pairwise {α : Type} {less : α → α → Bool} {data : List α}
    (order : StrictWeakOrder less) (sorted : IsSorted less data) :
    data.Pairwise fun before after => less after before = false := by
  have : IsTrans α fun before after => less after before = false :=
    ⟨fun _ _ _ first second => order.notTrans second first⟩
  exact List.chain'_iff_pairwise.mp sorted

/-- `sort.Sort`, by its documented contract. -/
structure SortAlgorithm where
  sort : {α : Type} → (α → α → Bool) → List α → List α
  perm : ∀ {α : Type} (less : α → α → Bool) (data : List α), (sort less data).Perm data
  sorted : ∀ {α : Type} (less : α → α → Bool) (data : List α),
    StrictWeakOrder less → IsSorted less (sort less data)

/-! ## Insertion sort -/

/-- The inner loop of `insertionSort` on the reversed prefix: the new element is swapped
back past every element it is `Less` than. -/
def insertBack {α : Type} (less : α → α → Bool) (element : α) : List α → List α
  | [] => [element]
  | before :: rest =>
      if less element before then before :: insertBack less element rest
      else element :: before :: rest

/-- `insertionSort` over the whole data. -/
def insertionSort {α : Type} (less : α → α → Bool) (data : List α) : List α :=
  (data.foldl (fun reversed element => insertBack less element reversed) []).reverse

theorem insertBack_perm {α : Type} (less : α → α → Bool) (element : α) (reversed : List α) :
    (insertBack less element reversed).Perm (element :: reversed) := by
  induction reversed with
  | nil => rfl
  | cons before rest ih =>
      unfold insertBack
      split
      · exact ((ih.cons before).trans (List.Perm.swap element before rest))
      · rfl

theorem insertionSort_perm {α : Type} (less : α → α → Bool) (data : List α) :
    (insertionSort less data).Perm data := by
  have run : ∀ (items reversed : List α),
      (items.foldl (fun reversed element => insertBack less element reversed) reversed).Perm
        (items.reverse ++ reversed) := by
    intro items
    induction items with
    | nil => intro reversed; rfl
    | cons element rest ih =>
        intro reversed
        refine (ih _).trans ?_
        simpa using ((insertBack_perm less element reversed).append_left rest.reverse)
  exact ((List.reverse_perm _).trans (run data [])).trans (by simp)

/-- The reversed prefix stays sorted from right to left when one element is inserted after
a neighbour it is not `Less` than. -/
theorem insertBack_chain {α : Type} {less : α → α → Bool} (order : StrictWeakOrder less)
    (element : α) :
    ∀ (neighbour : α) (reversed : List α), less neighbour element = false →
      (neighbour :: reversed).Chain' (fun after before => less after before = false) →
      (neighbour :: insertBack less element reversed).Chain'
        (fun after before => less after before = false)
  | neighbour, [], fresh, _ => List.chain'_pair.mpr fresh
  | neighbour, before :: rest, fresh, chain => by
      obtain ⟨first, tail⟩ := List.chain'_cons.mp chain
      unfold insertBack
      split
      · exact List.Chain'.cons first
          (insertBack_chain order element before rest (order.asymm ‹_›) tail)
      · exact List.Chain'.cons fresh (List.Chain'.cons (Bool.eq_false_iff.mpr ‹_›) tail)

theorem insertionSort_sorted {α : Type} (less : α → α → Bool) (data : List α)
    (order : StrictWeakOrder less) : IsSorted less (insertionSort less data) := by
  have step : ∀ (element : α) (reversed : List α),
      reversed.Chain' (fun after before => less after before = false) →
      (insertBack less element reversed).Chain'
        (fun after before => less after before = false) := by
    intro element reversed chain
    cases reversed with
    | nil => exact List.chain'_singleton _
    | cons before rest =>
        unfold insertBack
        split
        · exact insertBack_chain order element before rest (order.asymm ‹_›) chain
        · exact List.Chain'.cons (Bool.eq_false_iff.mpr ‹_›) chain
  have run : ∀ (items reversed : List α),
      reversed.Chain' (fun after before => less after before = false) →
      (items.foldl (fun reversed element => insertBack less element reversed)
        reversed).Chain' (fun after before => less after before = false) := by
    intro items
    induction items with
    | nil => exact fun _ chain => chain
    | cons element rest ih => exact fun reversed chain => ih _ (step element reversed chain)
  unfold IsSorted insertionSort
  rw [List.chain'_reverse]
  exact run data [] List.chain'_nil

/-- Go's `insertionSort`, which meets the contract of `sort.Sort`. -/
def insertionSortAlgorithm : SortAlgorithm :=
  ⟨insertionSort, insertionSort_perm, insertionSort_sorted⟩

/-! ## The order of pod priorities -/

/-- `<` on rationals is a strict weak order.  So is `<` on the `float64` numbers that are not
NaN, the only ones `getUpdatePriority` computes: it divides by a total of at least one. -/
theorem exactArithmetic_strictWeakOrder : StrictWeakOrder exactArithmetic.lt where
  irrefl a := by simp [exactArithmetic]
  trans {a b c} first second := by
    simp only [exactArithmetic, decide_eq_true_eq] at first second ⊢
    exact first.trans second
  notTrans {a b c} first second := by
    simp only [exactArithmetic, decide_eq_false_iff_not, not_lt] at first second ⊢
    exact second.trans first

/-- `byPriority.Less` meets the requirement of `sort.Interface` whenever `<` on the
`resourceDiff`s does. -/
theorem ByPriority.strictWeakOrder {F : Type} {lt : F → F → Bool} (order : StrictWeakOrder lt) :
    StrictWeakOrder (ByPriority.less lt) where
  irrefl priority := by simp [ByPriority.less, order.irrefl]
  trans {first second third} firstLess secondLess := by
    rw [ByPriority.less_eq_true_iff] at firstLess secondLess ⊢
    rcases firstLess with ⟨up, down⟩ | ⟨same, smaller⟩ <;>
      rcases secondLess with ⟨up', down'⟩ | ⟨same', smaller'⟩
    · simp_all
    · exact Or.inl ⟨up, same' ▸ down⟩
    · exact Or.inl ⟨same ▸ up', down'⟩
    · exact Or.inr ⟨same.trans same', order.trans smaller' smaller⟩
  notTrans {first second third} firstNot secondNot := by
    rw [ByPriority.less_eq_false_iff] at firstNot secondNot ⊢
    obtain ⟨upFirst, diffFirst⟩ := firstNot
    obtain ⟨upSecond, diffSecond⟩ := secondNot
    refine ⟨fun up => upSecond (upFirst up), fun same => ?_⟩
    have middle : first.scaleUp = second.scaleUp := by
      revert upFirst upSecond same
      cases first.scaleUp <;> cases second.scaleUp <;> cases third.scaleUp <;> simp
    exact order.notTrans (diffSecond (middle.symm.trans same)) (diffFirst middle)

end VerticalPodAutoscaler.Updater
