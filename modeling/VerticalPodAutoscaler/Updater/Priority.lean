import VerticalPodAutoscaler.Api.Core
import Mathlib.Algebra.Order.Field.Rat

/-!
# Update priority of one pod

`UpdatePriorityCalculator.getUpdatePriority` walks the pod's containers and, for each one
that has a recommendation, the resources of that recommendation's target.  It raises the
`outsideRecommendedRange` and `scaleUp` flags and sums requests and targets per resource in
milli-units, on `int64`; the relative difference of the sums is then added up over the
resources, on `float64`.

The arithmetic is a parameter, `Arithmetic`: Go's wrapping `int64` and rounding `float64` are
one instance, exact integers and rationals (`exactArithmetic`) another.  The last loop ranges
over a map, in an order Go leaves open and that a `float64` sum depends on, so that order is a
parameter too.  The loop over a target visits it in stored order: the flags are disjunctions
and Go's `int64` sums are sums modulo `2^64`, and neither depends on the order.
-/

namespace VerticalPodAutoscaler.Updater

open Api

/-- The arithmetic of `getUpdatePriority` and `AddPod`: `+=` on an `int64` total, the
conversion `float64(·)` and the constants `0.0`, `1.0` and `0.10` as the `float64` nearest to
a rational, `+`, `-` and `/` on `float64`, `math.Abs`, `math.Max`, and `<`. -/
structure Arithmetic (F : Type) where
  addInt64 : Int → Int → Int
  float64 : ℚ → F
  add : F → F → F
  sub : F → F → F
  div : F → F → F
  abs : F → F
  max : F → F → F
  lt : F → F → Bool

/-- Exact integer and rational arithmetic. -/
def exactArithmetic : Arithmetic ℚ :=
  ⟨(· + ·), id, (· + ·), (· - ·), (· / ·), abs, max, fun a b => decide (a < b)⟩

@[simp] theorem exactArithmetic_addInt64 (a b : Int) : exactArithmetic.addInt64 a b = a + b := rfl

@[simp] theorem exactArithmetic_float64 (q : ℚ) : exactArithmetic.float64 q = q := rfl

/-- `podPriority`. -/
structure PodPriority (F : Type) where
  pod : Pod
  outsideRecommendedRange : Bool
  scaleUp : Bool
  resourceDiff : F
  recommendation : Option RecommendedPodResources
  deriving DecidableEq

/-- A `map[ResourceName]int64` of per-resource totals. -/
abbrev Totals := AList (fun _ : ResourceName => Int)

/-- The order in which a `range` over a totals map visits its entries. -/
structure TotalsOrder where
  entries : Totals → List (ResourceName × Int)
  perm : ∀ totals, (entries totals).Perm (totals.entries.map fun entry => (entry.1, entry.2))

/-- The order in which the entries are stored. -/
def TotalsOrder.stored : TotalsOrder :=
  ⟨fun totals => totals.entries.map fun entry => (entry.1, entry.2), fun _ => .refl _⟩

section Accumulator

variable (addInt64 : Int → Int → Int)

/-- `totals[name] += amount`, where a missing entry reads as zero. -/
def addTotal (totals : Totals) (name : ResourceName) (amount : Int) : Totals :=
  totals.insert name (addInt64 ((totals.lookup name).getD 0) amount)

theorem lookup_addTotal (totals : Totals) (name other : ResourceName) (amount : Int) :
    (addTotal addInt64 totals name amount).lookup other =
      if other = name then some (addInt64 ((totals.lookup name).getD 0) amount)
      else totals.lookup other := by
  unfold addTotal
  split_ifs with same
  · subst same
    exact AList.lookup_insert _
  · exact AList.lookup_insert_ne same

/-- The variables of the container loop of `getUpdatePriority`. -/
structure PriorityAccumulator where
  outsideRecommendedRange : Bool
  scaleUp : Bool
  totalRequestPerResource : Totals
  totalRecommendedPerResource : Totals

/-- The loop variables before the first container. -/
def PriorityAccumulator.initial : PriorityAccumulator := ⟨false, false, ∅, ∅⟩

/-- The request of a container for one resource; a nil map has none. -/
def requestFor (container : Container) (resourceName : ResourceName) : Option Quantity :=
  container.resources.requests.bind (·.lookup resourceName)

/-- The bound test of the loop body: the request lies below the lower bound or above the
upper bound of the resource, where such a bound is set. -/
def outsideBounds (recommendedRequest : RecommendedContainerResources)
    (resourceName : ResourceName) (request : Quantity) : Bool :=
  (recommendedRequest.lowerBound.lookup resourceName).any (fun lowerBound =>
      decide (request.cmp lowerBound < 0)) ||
    (recommendedRequest.upperBound.lookup resourceName).any (fun upperBound =>
      decide (request.cmp upperBound > 0))

/-- One pass of the inner loop, over one `(resourceName, recommended)` of the target. -/
def accumulateResource (container : Container)
    (recommendedRequest : RecommendedContainerResources) (acc : PriorityAccumulator)
    (entry : ResourceName × Quantity) : PriorityAccumulator :=
  let resourceName := entry.1
  let recommended := entry.2
  let acc := { acc with
    totalRecommendedPerResource :=
      addTotal addInt64 acc.totalRecommendedPerResource resourceName recommended.milliValue }
  match requestFor container resourceName with
  | some request =>
      { acc with
        totalRequestPerResource :=
          addTotal addInt64 acc.totalRequestPerResource resourceName request.milliValue
        scaleUp := acc.scaleUp || decide (request.milliValue < recommended.milliValue)
        outsideRecommendedRange := acc.outsideRecommendedRange ||
          outsideBounds recommendedRequest resourceName request }
  | none => { acc with scaleUp := true, outsideRecommendedRange := true }

/-- One pass of the container loop. -/
def accumulateContainer (recommendation : Option RecommendedPodResources)
    (acc : PriorityAccumulator) (container : Container) : PriorityAccumulator :=
  match getRecommendationForContainer container.name recommendation with
  | none => acc
  | some recommendedRequest =>
      recommendedRequest.target.pairs.foldl
        (accumulateResource addInt64 container recommendedRequest) acc

end Accumulator

section Priority

variable {F : Type} (arithmetic : Arithmetic F)

/-- One pass of the last loop: the relative difference of one resource's totals, with the
total request raised to at least one. -/
def addResourceDiff (totalRequestPerResource : Totals) (resourceDiff : F)
    (entry : ResourceName × Int) : F :=
  let totalRequest := arithmetic.max
    (arithmetic.float64 ((totalRequestPerResource.lookup entry.1).getD 0)) (arithmetic.float64 1)
  arithmetic.add resourceDiff (arithmetic.div
    (arithmetic.abs (arithmetic.sub totalRequest (arithmetic.float64 entry.2))) totalRequest)

/-- `UpdatePriorityCalculator.getUpdatePriority`, its last `range` visiting the totals in the
order given. -/
def getUpdatePriority (order : TotalsOrder) (pod : Pod)
    (recommendation : Option RecommendedPodResources) : PodPriority F :=
  let acc := pod.containers.foldl (accumulateContainer arithmetic.addInt64 recommendation) .initial
  let resourceDiff := (order.entries acc.totalRecommendedPerResource).foldl
    (addResourceDiff arithmetic acc.totalRequestPerResource) (arithmetic.float64 0)
  { pod := pod
    outsideRecommendedRange := acc.outsideRecommendedRange
    scaleUp := acc.scaleUp
    resourceDiff := resourceDiff
    recommendation := recommendation }

@[simp] theorem getUpdatePriority_pod (order : TotalsOrder) (pod : Pod)
    (recommendation : Option RecommendedPodResources) :
    (getUpdatePriority arithmetic order pod recommendation).pod = pod := rfl

@[simp] theorem getUpdatePriority_recommendation (order : TotalsOrder) (pod : Pod)
    (recommendation : Option RecommendedPodResources) :
    (getUpdatePriority arithmetic order pod recommendation).recommendation = recommendation := rfl

end Priority

/-! ## Order of the sorted list -/

/-- `byPriority.Less`: a pod that scales up comes first, then the larger `resourceDiff`. -/
def ByPriority.less {F : Type} (lt : F → F → Bool) (first second : PodPriority F) : Bool :=
  if first.scaleUp ≠ second.scaleUp then first.scaleUp
  else lt second.resourceDiff first.resourceDiff

section Less

variable {F : Type} {lt : F → F → Bool} {first second : PodPriority F}

theorem ByPriority.less_eq_true_iff :
    ByPriority.less lt first second = true ↔
      (first.scaleUp = true ∧ second.scaleUp = false) ∨
        (first.scaleUp = second.scaleUp ∧ lt second.resourceDiff first.resourceDiff = true) := by
  unfold ByPriority.less
  cases first.scaleUp <;> cases second.scaleUp <;> simp

theorem ByPriority.less_eq_false_iff :
    ByPriority.less lt first second = false ↔
      (first.scaleUp = true → second.scaleUp = true) ∧
        (first.scaleUp = second.scaleUp → lt second.resourceDiff first.resourceDiff = false) := by
  unfold ByPriority.less
  cases first.scaleUp <;> cases second.scaleUp <;> simp

end Less

end VerticalPodAutoscaler.Updater
