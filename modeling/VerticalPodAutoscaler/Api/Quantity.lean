import Mathlib.Data.List.AList

/-!
# Resource quantities and resource lists

A `resource.Quantity` parsed from the API is rounded up to nano precision, so it is kept
here as its exact amount in units of `10⁻⁹` together with the format it serialises in.
Two quantities can compare equal under `Cmp` and still differ in format, as `1Gi` and
`1073741824` do.  A `v1.ResourceList` is a Go map; it is an association list with distinct
keys, and the order of its entries is one iteration order of the map.
-/

namespace VerticalPodAutoscaler.Api

/-- The serialisation formats of `resource.Quantity`. -/
inductive Format where
  | decimalExponent
  | binarySI
  | decimalSI
  deriving DecidableEq, Repr

/-- A parsed `resource.Quantity`: its amount in nano-units and its format. -/
structure Quantity where
  nanos : Int
  format : Format
  deriving DecidableEq, Repr

namespace Quantity

/-- `Quantity.Cmp`: `-1`, `0` or `1` as the exact amount is smaller, equal or larger. -/
def cmp (q1 q2 : Quantity) : Int :=
  if q1.nanos < q2.nanos then -1 else if q2.nanos < q1.nanos then 1 else 0

/-- `Quantity.MilliValue`: the amount in milli-units, rounded away from zero as
`negativeScaleInt64` rounds it. -/
def milliValue (q : Quantity) : Int :=
  if 0 ≤ q.nanos then (q.nanos + 999999) / 1000000
  else -((-q.nanos + 999999) / 1000000)

@[simp] theorem cmp_neg {q1 q2 : Quantity} : q1.cmp q2 < 0 ↔ q1.nanos < q2.nanos := by
  unfold cmp
  split_ifs <;> omega

@[simp] theorem cmp_pos {q1 q2 : Quantity} : 0 < q1.cmp q2 ↔ q2.nanos < q1.nanos := by
  unfold cmp
  split_ifs <;> omega

/-- Milli-values are monotone in the amount. -/
theorem milliValue_mono {q1 q2 : Quantity} (le : q1.nanos ≤ q2.nanos) :
    q1.milliValue ≤ q2.milliValue := by
  unfold milliValue
  split_ifs <;> omega

/-- The quantity in nano-units, `<nanos>n`, a text `ParseQuantity` reads back exactly; it
stands in for `Quantity.String` on concrete inputs. -/
def nanoString (q : Quantity) : String := toString q.nanos ++ "n"

end Quantity

/-- `v1.ResourceName`. -/
abbrev ResourceName := String

/-- `v1.ResourceCPU`. -/
def resourceCPU : ResourceName := "cpu"

/-- `v1.ResourceMemory`. -/
def resourceMemory : ResourceName := "memory"

/-- `v1.ResourceList`, a Go map from resource names to quantities. -/
abbrev ResourceList := AList (fun _ : ResourceName => Quantity)

/-- Lookup in a one-entry map, as the simp set reads it. -/
@[simp] theorem lookup_singleton {β : Type} (key other : String) (value : β) :
    (AList.singleton key value : AList (fun _ : String => β)).lookup other =
      if other = key then some value else none := by
  unfold AList.lookup AList.singleton
  split_ifs with same
  · subst same
    exact List.dlookup_cons_eq _ _ _
  · exact List.dlookup_cons_ne _ _ same

namespace ResourceList

/-- The map's entries as pairs, in the iteration order the list stores. -/
def pairs (list : ResourceList) : List (ResourceName × Quantity) :=
  list.entries.map fun entry => (entry.1, entry.2)

theorem mem_pairs {list : ResourceList} {name : ResourceName} {q : Quantity} :
    (name, q) ∈ list.pairs ↔ list.lookup name = some q := by
  rw [← Option.mem_def, AList.mem_lookup_iff]
  simp only [pairs, List.mem_map]
  constructor
  · rintro ⟨⟨key, value⟩, member, equal⟩
    cases equal
    exact member
  · exact fun member => ⟨_, member, rfl⟩

end ResourceList

/-- The order in which one `range` over a `ResourceList` visits its entries: some order of
the map's entries, which Go leaves unspecified. -/
structure MapOrder where
  entries : ResourceList → List (ResourceName × Quantity)
  perm : ∀ list, (entries list).Perm list.pairs

/-- The order the model stores the entries in. -/
def MapOrder.stored : MapOrder := ⟨ResourceList.pairs, fun _ => .refl _⟩

/-- The reverse of the stored order. -/
def MapOrder.reversed : MapOrder := ⟨fun list => list.pairs.reverse, fun _ => List.reverse_perm _⟩

/-- A map of at most one entry is visited in its only order. -/
theorem MapOrder.entries_eq_pairs (order : MapOrder) {list : ResourceList}
    (small : list.entries.length ≤ 1) : order.entries list = list.pairs := by
  have same := order.perm list
  match pairs : list.pairs, small with
  | [], _ => simpa [pairs] using same
  | [entry], _ => simpa [pairs] using same
  | _ :: _ :: _, small =>
      have lengths := congrArg List.length pairs
      simp only [ResourceList.pairs, List.length_map, List.length_cons] at lengths
      omega

end VerticalPodAutoscaler.Api
