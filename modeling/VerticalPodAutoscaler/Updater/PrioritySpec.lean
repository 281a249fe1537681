import VerticalPodAutoscaler.Updater.Priority
import Mathlib.Algebra.BigOperators.Group.Finset
import Mathlib.Tactic.NormNum

/-!
# What the update priority of a pod says

The two nested loops of `getUpdatePriority` visit one entry per pair of a container that has
a recommendation and a resource of that recommendation's target.  Listing these entries
once, the flags become existential statements over them and the totals become sums over
them; `resourceDiff` is then a sum over the recommended resources.
-/

namespace VerticalPodAutoscaler.Updater

open Api

/-- One visit of the inner loop of `getUpdatePriority`. -/
structure ResourceEntry where
  container : Container
  recommendedRequest : RecommendedContainerResources
  resourceName : ResourceName
  recommended : Quantity

/-- The visits of the inner loop that one container contributes. -/
def containerEntries (recommendation : Option RecommendedPodResources) (container : Container) :
    List ResourceEntry :=
  match getRecommendationForContainer container.name recommendation with
  | none => []
  | some recommendedRequest =>
      recommendedRequest.target.pairs.map fun entry =>
        ⟨container, recommendedRequest, entry.1, entry.2⟩

/-- All visits of the inner loop, in loop order. -/
def recommendedResourceEntries (pod : Pod) (recommendation : Option RecommendedPodResources) :
    List ResourceEntry :=
  pod.containers.flatMap (containerEntries recommendation)

theorem mem_recommendedResourceEntries {pod : Pod}
    {recommendation : Option RecommendedPodResources} {entry : ResourceEntry} :
    entry ∈ recommendedResourceEntries pod recommendation ↔
      entry.container ∈ pod.containers ∧
        getRecommendationForContainer entry.container.name recommendation =
          some entry.recommendedRequest ∧
        entry.recommendedRequest.target.lookup entry.resourceName = some entry.recommended := by
  obtain ⟨container, recommendedRequest, resourceName, recommended⟩ := entry
  simp only [recommendedResourceEntries, List.mem_flatMap, containerEntries]
  constructor
  · rintro ⟨owner, member, visit⟩
    split at visit
    · simp at visit
    · obtain ⟨⟨name, quantity⟩, pair, equal⟩ := List.mem_map.mp visit
      cases equal
      exact ⟨member, ‹_›, ResourceList.mem_pairs.mp pair⟩
  · rintro ⟨member, found, target⟩
    refine ⟨container, member, ?_⟩
    simp only [found]
    exact List.mem_map.mpr ⟨(resourceName, recommended), ResourceList.mem_pairs.mpr target, rfl⟩

section Accumulator

variable (addInt64 : Int → Int → Int)

/-- The inner loop body, on one visit. -/
def accumulateEntry (acc : PriorityAccumulator) (entry : ResourceEntry) : PriorityAccumulator :=
  accumulateResource addInt64 entry.container entry.recommendedRequest acc
    (entry.resourceName, entry.recommended)

/-- The two nested loops are one loop over the visits. -/
theorem foldl_accumulateContainer (recommendation : Option RecommendedPodResources)
    (containers : List Container) (acc : PriorityAccumulator) :
    containers.foldl (accumulateContainer addInt64 recommendation) acc =
      (containers.flatMap (containerEntries recommendation)).foldl (accumulateEntry addInt64)
        acc := by
  induction containers generalizing acc with
  | nil => rfl
  | cons container rest ih =>
      simp only [List.foldl_cons, List.flatMap_cons, List.foldl_append, ih,
        accumulateContainer, containerEntries]
      cases getRecommendationForContainer container.name recommendation <;>
        simp [List.foldl_map, accumulateEntry]

/-! ## The two flags -/

/-- The visit raises `outsideRecommendedRange`: its request is missing or out of bounds. -/
def ResourceEntry.outside (entry : ResourceEntry) : Bool :=
  match requestFor entry.container entry.resourceName with
  | some request => outsideBounds entry.recommendedRequest entry.resourceName request
  | none => true

/-- The visit raises `scaleUp`: its request is missing or its milli-value is below the
target's. -/
def ResourceEntry.scalesUp (entry : ResourceEntry) : Bool :=
  match requestFor entry.container entry.resourceName with
  | some request => decide (request.milliValue < entry.recommended.milliValue)
  | none => true

theorem accumulateEntry_outside (acc : PriorityAccumulator) (entry : ResourceEntry) :
    (accumulateEntry addInt64 acc entry).outsideRecommendedRange =
      (acc.outsideRecommendedRange || entry.outside) := by
  simp only [accumulateEntry, accumulateResource, ResourceEntry.outside]
  cases requestFor entry.container entry.resourceName <;> simp

theorem accumulateEntry_scaleUp (acc : PriorityAccumulator) (entry : ResourceEntry) :
    (accumulateEntry addInt64 acc entry).scaleUp = (acc.scaleUp || entry.scalesUp) := by
  simp only [accumulateEntry, accumulateResource, ResourceEntry.scalesUp]
  cases requestFor entry.container entry.resourceName <;> simp

theorem foldl_outside (entries : List ResourceEntry) (acc : PriorityAccumulator) :
    (entries.foldl (accumulateEntry addInt64) acc).outsideRecommendedRange =
      (acc.outsideRecommendedRange || entries.any (·.outside)) := by
  induction entries generalizing acc with
  | nil => simp
  | cons entry rest ih => simp [ih, accumulateEntry_outside, Bool.or_assoc]

theorem foldl_scaleUp (entries : List ResourceEntry) (acc : PriorityAccumulator) :
    (entries.foldl (accumulateEntry addInt64) acc).scaleUp =
      (acc.scaleUp || entries.any (·.scalesUp)) := by
  induction entries generalizing acc with
  | nil => simp
  | cons entry rest ih => simp [ih, accumulateEntry_scaleUp, Bool.or_assoc]

/-- The loop variables of `getUpdatePriority` are those of one loop over the visits. -/
theorem getUpdatePriority_accumulator (pod : Pod)
    (recommendation : Option RecommendedPodResources) :
    pod.containers.foldl (accumulateContainer addInt64 recommendation) .initial =
      (recommendedResourceEntries pod recommendation).foldl (accumulateEntry addInt64) .initial :=
  foldl_accumulateContainer addInt64 recommendation pod.containers _

end Accumulator

section Flags

variable {F : Type} (arithmetic : Arithmetic F) (order : TotalsOrder)

theorem getUpdatePriority_outside_eq_any (pod : Pod)
    (recommendation : Option RecommendedPodResources) :
    (getUpdatePriority arithmetic order pod recommendation).outsideRecommendedRange =
      (recommendedResourceEntries pod recommendation).any (·.outside) := by
  simp only [getUpdatePriority]
  rw [getUpdatePriority_accumulator, foldl_outside]
  rfl

theorem getUpdatePriority_scaleUp_eq_any (pod : Pod)
    (recommendation : Option RecommendedPodResources) :
    (getUpdatePriority arithmetic order pod recommendation).scaleUp =
      (recommendedResourceEntries pod recommendation).any (·.scalesUp) := by
  simp only [getUpdatePriority]
  rw [getUpdatePriority_accumulator, foldl_scaleUp]
  rfl

end Flags

theorem exists_recommendedResourceEntry {pod : Pod}
    {recommendation : Option RecommendedPodResources} {property : ResourceEntry → Prop} :
    (∃ entry ∈ recommendedResourceEntries pod recommendation, property entry) ↔
      ∃ container ∈ pod.containers, ∃ recommendedRequest,
        getRecommendationForContainer container.name recommendation = some recommendedRequest ∧
        ∃ resourceName recommended,
          recommendedRequest.target.lookup resourceName = some recommended ∧
          property ⟨container, recommendedRequest, resourceName, recommended⟩ := by
  constructor
  · rintro ⟨⟨container, recommendedRequest, resourceName, recommended⟩, member, holds⟩
    obtain ⟨owner, found, target⟩ := mem_recommendedResourceEntries.mp member
    exact ⟨container, owner, recommendedRequest, found, resourceName, recommended, target, holds⟩
  · rintro ⟨container, owner, recommendedRequest, found, resourceName, recommended, target, holds⟩
    exact ⟨_, mem_recommendedResourceEntries.mpr ⟨owner, found, target⟩, holds⟩

theorem outsideBounds_eq_true {recommendedRequest : RecommendedContainerResources}
    {resourceName : ResourceName} {request : Quantity} :
    outsideBounds recommendedRequest resourceName request = true ↔
      (∃ lowerBound, recommendedRequest.lowerBound.lookup resourceName = some lowerBound ∧
          request.nanos < lowerBound.nanos) ∨
        (∃ upperBound, recommendedRequest.upperBound.lookup resourceName = some upperBound ∧
          upperBound.nanos < request.nanos) := by
  unfold outsideBounds
  cases recommendedRequest.lowerBound.lookup resourceName <;>
    cases recommendedRequest.upperBound.lookup resourceName <;> simp

theorem ResourceEntry.outside_eq_true {entry : ResourceEntry} :
    entry.outside = true ↔
      requestFor entry.container entry.resourceName = none ∨
        ∃ request, requestFor entry.container entry.resourceName = some request ∧
          outsideBounds entry.recommendedRequest entry.resourceName request = true := by
  unfold ResourceEntry.outside
  cases requestFor entry.container entry.resourceName <;> simp

theorem ResourceEntry.scalesUp_eq_true {entry : ResourceEntry} :
    entry.scalesUp = true ↔
      requestFor entry.container entry.resourceName = none ∨
        ∃ request, requestFor entry.container entry.resourceName = some request ∧
          request.milliValue < entry.recommended.milliValue := by
  unfold ResourceEntry.scalesUp
  cases requestFor entry.container entry.resourceName <;> simp

/-- The flags of `getUpdatePriority`, container by container and resource by resource: a
missing request raises both, a present one raises `outsideRecommendedRange` when it lies
outside a set bound (by `Cmp`) and `scaleUp` when its milli-value is below the target's. -/
theorem getUpdatePriority_flags {F : Type} (arithmetic : Arithmetic F) (order : TotalsOrder)
    (pod : Pod) (recommendation : Option RecommendedPodResources) :
    ((getUpdatePriority arithmetic order pod recommendation).outsideRecommendedRange = true ↔
      ∃ container ∈ pod.containers, ∃ recommendedRequest,
        getRecommendationForContainer container.name recommendation = some recommendedRequest ∧
        ∃ resourceName recommended,
          recommendedRequest.target.lookup resourceName = some recommended ∧
          (requestFor container resourceName = none ∨
            ∃ request, requestFor container resourceName = some request ∧
              ((∃ lowerBound, recommendedRequest.lowerBound.lookup resourceName = some lowerBound ∧
                  request.nanos < lowerBound.nanos) ∨
                (∃ upperBound, recommendedRequest.upperBound.lookup resourceName = some upperBound ∧
                  upperBound.nanos < request.nanos)))) ∧
    ((getUpdatePriority arithmetic order pod recommendation).scaleUp = true ↔
      ∃ container ∈ pod.containers, ∃ recommendedRequest,
        getRecommendationForContainer container.name recommendation = some recommendedRequest ∧
        ∃ resourceName recommended,
          recommendedRequest.target.lookup resourceName = some recommended ∧
          (requestFor container resourceName = none ∨
            ∃ request, requestFor container resourceName = some request ∧
              request.milliValue < recommended.milliValue)) := by
  rw [getUpdatePriority_outside_eq_any, getUpdatePriority_scaleUp_eq_any, List.any_eq_true,
    List.any_eq_true, exists_recommendedResourceEntry, exists_recommendedResourceEntry]
  simp only [ResourceEntry.outside_eq_true, ResourceEntry.scalesUp_eq_true,
    outsideBounds_eq_true, and_self]

/-- The request a zero-request reading takes: a missing request reads as zero. -/
def requestOrZero (container : Container) (resourceName : ResourceName) : Int :=
  ((requestFor container resourceName).map (·.nanos)).getD 0

/-- Some recommended resource has its request, read as zero when missing, outside a set
bound. -/
def ZeroRequestOutside (pod : Pod) (recommendation : Option RecommendedPodResources) : Prop :=
  ∃ container ∈ pod.containers, ∃ recommendedRequest,
    getRecommendationForContainer container.name recommendation = some recommendedRequest ∧
    ∃ resourceName recommended,
      recommendedRequest.target.lookup resourceName = some recommended ∧
      ((∃ lowerBound, recommendedRequest.lowerBound.lookup resourceName = some lowerBound ∧
          requestOrZero container resourceName < lowerBound.nanos) ∨
        (∃ upperBound, recommendedRequest.upperBound.lookup resourceName = some upperBound ∧
          upperBound.nanos < requestOrZero container resourceName))

/-- Some recommended target exceeds its request, read as zero when missing. -/
def ZeroRequestScaleUp (pod : Pod) (recommendation : Option RecommendedPodResources) : Prop :=
  ∃ container ∈ pod.containers, ∃ recommendedRequest,
    getRecommendationForContainer container.name recommendation = some recommendedRequest ∧
    ∃ resourceName recommended,
      recommendedRequest.target.lookup resourceName = some recommended ∧
      requestOrZero container resourceName < recommended.nanos

/-- A pod with one container `app` that requests nothing. -/
def requestlessPod : Pod :=
  ⟨"app-0", "", "default", none, [⟨"app", ⟨none, none⟩⟩], none, []⟩

/-- A recommendation for `app` with a zero cpu target, and no bounds or uncapped target. -/
def zeroTargetRecommendation : Option RecommendedPodResources :=
  some ⟨[⟨"app", AList.insert resourceCPU ⟨0, .decimalSI⟩ ∅, ∅, ∅, ∅⟩]⟩

/-- The source reads a missing request as a zero request.  Yet with a missing request, a zero
target and no bounds, both flags are raised, whatever the arithmetic, although no zero request
lies outside a bound or below a target. -/
theorem missing_request_raises_flags {F : Type} (arithmetic : Arithmetic F)
    (order : TotalsOrder) :
    (getUpdatePriority arithmetic order requestlessPod
      zeroTargetRecommendation).outsideRecommendedRange = true ∧
    (getUpdatePriority arithmetic order requestlessPod zeroTargetRecommendation).scaleUp = true ∧
    ¬ ZeroRequestOutside requestlessPod zeroTargetRecommendation ∧
    ¬ ZeroRequestScaleUp requestlessPod zeroTargetRecommendation := by
  refine ⟨rfl, rfl, ?_, ?_⟩ <;>
    simp [ZeroRequestOutside, ZeroRequestScaleUp, requestlessPod, zeroTargetRecommendation,
      getRecommendationForContainer, requestOrZero, requestFor]

end VerticalPodAutoscaler.Updater
