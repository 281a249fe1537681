import VerticalPodAutoscaler.Admission.Decode
import VerticalPodAutoscaler.Admission.Provider

/-!
# The patches of a pod admission

`getPatchesForPodResourceRequest` decodes the pod, asks the recommendation provider for the
resources of each container, and builds one block of `add` operations per container: an
empty `resources` object when the container has neither requests nor limits, then for the
requests and for the limits an empty map when the pod has none and some are recommended,
followed by one operation per recommended resource in the order the `range` visits the map.
A last operation records the containers' updates in the `vpaUpdates` annotation.  The loop
runs over the provider's entries and indexes the pre-processed pod's containers with their
positions, so an entry past the last container makes it panic.
-/

namespace VerticalPodAutoscaler.Admission

open Api

/-- `PodPreProcessor.Process`. -/
abbrev PodPreProcessor := Pod → Except String Pod

/-! ## The operations -/

/-- The path of a container's `resources`. -/
def resourcesPath (i : Nat) : String :=
  "/spec/containers/" ++ toString i ++ "/resources"

/-- `getPatchInitializingEmptyResources`. -/
def getPatchInitializingEmptyResources (i : Nat) : PatchRecord :=
  ⟨"add", resourcesPath i, .obj []⟩

/-- `getPatchInitializingEmptyResourcesSubfield`. -/
def getPatchInitializingEmptyResourcesSubfield (i : Nat) (kind : String) : PatchRecord :=
  ⟨"add", resourcesPath i ++ "/" ++ kind, .obj []⟩

/-- `getAddResourceRequirementValuePatch`; the value is `quantity.String()`. -/
def getAddResourceRequirementValuePatch (quantityString : Quantity → String) (i : Nat)
    (kind : String) (resource : ResourceName) (quantity : Quantity) : PatchRecord :=
  ⟨"add", resourcesPath i ++ "/" ++ kind ++ "/" ++ resource, .str (quantityString quantity)⟩

section Patches

variable (quantityString : Quantity → String)

/-- The loop of `appendPatchesAndAnnotations` over the entries in the order visited. -/
def appendResourcePatches (containerIndex : Nat) (fieldName resourceName : String) :
    List PatchRecord × List String → List (ResourceName × Quantity) →
      List PatchRecord × List String
  | done, [] => done
  | (patches, annotations), (resource, request) :: rest =>
      appendResourcePatches containerIndex fieldName resourceName
        (patches ++ [getAddResourceRequirementValuePatch quantityString containerIndex fieldName
          resource request], annotations ++ [resource ++ " " ++ resourceName]) rest

theorem appendResourcePatches_eq (containerIndex : Nat) (fieldName resourceName : String)
    (patches : List PatchRecord) (annotations : List String)
    (visit : List (ResourceName × Quantity)) :
    appendResourcePatches quantityString containerIndex fieldName resourceName
        (patches, annotations) visit =
      (patches ++ visit.map (fun entry => getAddResourceRequirementValuePatch quantityString
          containerIndex fieldName entry.1 entry.2),
        annotations ++ visit.map (fun entry => entry.1 ++ " " ++ resourceName)) := by
  induction visit generalizing patches annotations with
  | nil => simp [appendResourcePatches]
  | cons entry rest ih => simp [appendResourcePatches, ih]

/-- `appendPatchesAndAnnotations`, its `range` visiting the entries in the order given. -/
def appendPatchesAndAnnotations (order : MapOrder) (patches : List PatchRecord)
    (annotations : List String) (current : Option ResourceList) (containerIndex : Nat)
    (resources : Option ResourceList) (fieldName resourceName : String) :
    List PatchRecord × List String :=
  let patches :=
    if current.isNone ∧ 0 < (resources.map (·.entries.length)).getD 0 then
      patches ++ [getPatchInitializingEmptyResourcesSubfield containerIndex fieldName]
    else patches
  appendResourcePatches quantityString containerIndex fieldName resourceName
    (patches, annotations) ((resources.map order.entries).getD [])

/-- The order of each `range` over a resource list, by container and field. -/
abbrev RangeOrder := Nat → String → MapOrder

/-- `AdmissionServer.getContainerPatch`; indexing past the pod's containers panics. -/
def getContainerPatch (order : RangeOrder) (pod : Pod) (i : Nat)
    (annotationsPerContainer : ContainerToAnnotationsMap)
    (containerResources : ContainerResources) : GoResult (List PatchRecord × String) :=
  match pod.containers[i]? with
  | none => .panic (indexOutOfRange i pod.containers.length)
  | some container =>
      let patches := if container.resources.limits.isNone ∧ container.resources.requests.isNone
        then [getPatchInitializingEmptyResources i] else []
      let annotations := (annotationsPerContainer.lookup container.name).getD []
      let (patches, annotations) := appendPatchesAndAnnotations quantityString
        (order i "requests") patches annotations container.resources.requests i
        containerResources.requests "requests" "request"
      let (patches, annotations) := appendPatchesAndAnnotations quantityString
        (order i "limits") patches annotations container.resources.limits i
        containerResources.limits "limits" "limit"
      .ok (patches, "container " ++ toString i ++ ": " ++ ", ".intercalate annotations)

/-- The container loop of `getPatchesForPodResourceRequest`, from container `i` on. -/
def containerPatches (order : RangeOrder) (pod : Pod)
    (annotationsPerContainer : ContainerToAnnotationsMap) :
    Nat → List ContainerResources → GoResult (List PatchRecord × List String)
  | _, [] => .ok ([], [])
  | i, containerResources :: rest => do
      let (newPatches, newUpdatesAnnotation) ←
        getContainerPatch quantityString order pod i annotationsPerContainer containerResources
      let (patches, updatesAnnotation) ←
        containerPatches order pod annotationsPerContainer (i + 1) rest
      pure (newPatches ++ patches, newUpdatesAnnotation :: updatesAnnotation)

/-- The pod `getPatchesForPodResourceRequest` asks the provider about: a pod without a name is
named after its generated name with `%` appended, in the request's namespace. -/
def podWithName («namespace» : String) (pod : Pod) : Pod :=
  if pod.name.length = 0 then { pod with name := pod.generateName ++ "%", «namespace» := «namespace» }
  else pod

/-- The annotation operation: the whole map when the pod has no annotations. -/
def vpaUpdatesPatch (pod : Pod) (vpaAnnotationValue : String) : PatchRecord :=
  match pod.annotations with
  | none => ⟨"add", "/metadata/annotations", .obj [("vpaUpdates", .str vpaAnnotationValue)]⟩
  | some _ => ⟨"add", "/metadata/annotations/vpaUpdates", .str vpaAnnotationValue⟩

/-- `AdmissionServer.getPatchesForPodResourceRequest`, on the request's raw object, which is
missing when it was absent or `null`. -/
def getPatchesForPodResourceRequest (unmarshalQuantity : Json → Except String Quantity)
    (order : RangeOrder) (recommendationProvider : RecommendationProvider)
    (podPreProcessor : PodPreProcessor) (raw : Option Json) («namespace» : String) :
    GoResult (List PatchRecord) := do
  let pod ← decodePod unmarshalQuantity (← rawObject raw)
  let pod := podWithName «namespace» pod
  let (containersResources, annotationsPerContainer, vpaName) ← recommendationProvider pod
  let pod ← podPreProcessor pod
  let annotationsPerContainer := annotationsPerContainer.getD ∅
  let (patches, updatesAnnotation) ←
    containerPatches quantityString order pod annotationsPerContainer 0 containersResources
  if updatesAnnotation.length > 0 then
    let vpaAnnotationValue :=
      "Pod resources updated by " ++ vpaName ++ ": " ++ "; ".intercalate updatesAnnotation
    pure (patches ++ [vpaUpdatesPatch pod vpaAnnotationValue])
  else pure patches

/-! ## When the patches panic -/

section Panics

variable (order : RangeOrder) (pod : Pod) (annotationsPerContainer : ContainerToAnnotationsMap)

/-- The container loop from container `k` on, `k` at most the number of containers, panics
exactly when it has more entries than containers left, at the index one past the last. -/
theorem containerPatches_eq_panic_iff (message : String)
    (containersResources : List ContainerResources) (k : Nat)
    (within : k ≤ pod.containers.length) :
    containerPatches quantityString order pod annotationsPerContainer k containersResources =
        .panic message ↔
      pod.containers.length < k + containersResources.length ∧
        message = indexOutOfRange pod.containers.length pod.containers.length := by
  induction containersResources generalizing k with
  | nil => simp [containerPatches, within]
  | cons containerResources rest ih =>
      rcases within.lt_or_eq with inside | rfl
      · have next := ih (k + 1) inside
        simp only [containerPatches, getContainerPatch, List.getElem?_eq_getElem inside,
          GoResult.ok_bind, GoResult.bind_eq_panic, GoResult.pure_eq_ok, reduceCtorEq, and_false,
          exists_false, or_false, next, List.length_cons, Nat.add_assoc, Nat.add_comm 1]
      · simp [containerPatches, getContainerPatch, eq_comm]

end Panics

/-- `getPatchesForPodResourceRequest` panics exactly when the object decodes to a pod on which
the provider panics, or gives more entries than the pre-processed pod has containers, which the
loop then indexes one past the last. -/
theorem getPatchesForPodResourceRequest_eq_panic_iff
    (unmarshalQuantity : Json → Except String Quantity) (order : RangeOrder)
    (recommendationProvider : RecommendationProvider) (podPreProcessor : PodPreProcessor)
    (raw : Option Json) («namespace» : String) (message : String) :
    getPatchesForPodResourceRequest quantityString unmarshalQuantity order recommendationProvider
        podPreProcessor raw «namespace» = .panic message ↔
      ∃ rawJson pod, raw = some rawJson ∧ decodePod unmarshalQuantity rawJson = .ok pod ∧
        (recommendationProvider (podWithName «namespace» pod) = .panic message ∨
          ∃ containersResources annotations vpaName processed,
            recommendationProvider (podWithName «namespace» pod) =
              .ok (containersResources, annotations, vpaName) ∧
            podPreProcessor (podWithName «namespace» pod) = .ok processed ∧
            processed.containers.length < containersResources.length ∧
            message = indexOutOfRange processed.containers.length processed.containers.length) := by
  unfold getPatchesForPodResourceRequest
  cases raw with
  | none => simp [rawObject]
  | some rawJson =>
      simp only [rawObject, GoResult.lift_ok, GoResult.ok_bind, Option.some.injEq, exists_and_left,
        exists_eq_left']
      cases decodePod unmarshalQuantity rawJson with
      | error => simp
      | ok pod =>
          simp only [GoResult.lift_ok, GoResult.ok_bind, Except.ok.injEq, exists_eq_left']
          cases recommendationProvider (podWithName «namespace» pod) with
          | error => simp
          | panic => simp
          | ok result =>
              obtain ⟨containersResources, annotations, vpaName⟩ := result
              cases podPreProcessor (podWithName «namespace» pod) with
              | error => simp
              | ok processedPod =>
                  simp only [GoResult.ok_bind, GoResult.lift_ok, GoResult.bind_eq_panic,
                    containerPatches_eq_panic_iff quantityString order processedPod _ message _ 0
                      (Nat.zero_le _)]
                  constructor
                  · rintro (⟨lt, rfl⟩ | ⟨_, _, impossible⟩)
                    · exact .inr ⟨_, _, _, rfl, _, rfl, by simpa using lt, rfl⟩
                    · split_ifs at impossible
                  · rintro (impossible | ⟨_, _, _, ⟨⟩, _, ⟨⟩, lt, rfl⟩)
                    · cases impossible
                    · exact .inl ⟨by simpa using lt, rfl⟩

/-- On the program's provider, which gives no more entries than the pod has containers, and
with a pre-processor that keeps the containers, the pod patches never index out of range, and
they do not panic at all when the processor returns a recommendation and an annotation map
whenever it succeeds. -/
theorem getPatchesForPodResourceRequest_ne_panic {Selector : Type}
    (unmarshalQuantity : Json → Except String Quantity) (order : RangeOrder)
    (vpaApiUtil : VpaApiUtil Selector) (limitsRangeCalculator : Limitrange.LimitRangeCalculator)
    (recommendationProcessor : RecommendationProcessor)
    (selectorFetcher : VerticalPodAutoscaler → Except String (Option Selector))
    (vpaLister : String → Except String (List VerticalPodAutoscaler))
    (processes : ∀ recommendation policy conditions pod processed annotations,
      recommendationProcessor (some recommendation) policy conditions pod =
          .ok (processed, annotations) →
        processed.isSome ∧ annotations.isSome)
    (podPreProcessor : PodPreProcessor)
    (keeps : ∀ pod processed, podPreProcessor pod = .ok processed →
      processed.containers = pod.containers)
    (raw : Option Json) («namespace» : String) (message : String) :
    getPatchesForPodResourceRequest quantityString unmarshalQuantity order
      (newRecommendationProvider vpaApiUtil limitsRangeCalculator recommendationProcessor
        selectorFetcher vpaLister) podPreProcessor raw «namespace» ≠ .panic message := by
  intro panicked
  obtain ⟨_, pod, -, -, panics | ⟨containersResources, _, _, processed, provided, preprocessed,
    more, -⟩⟩ := (getPatchesForPodResourceRequest_eq_panic_iff _ _ _ _ _ _ _ _).mp panicked
  · exact getContainersResourcesForPod_ne_panic vpaApiUtil limitsRangeCalculator
      recommendationProcessor selectorFetcher vpaLister processes _ _ panics
  · have fewer := (getContainersResourcesForPod_entries vpaApiUtil limitsRangeCalculator
      recommendationProcessor selectorFetcher vpaLister provided).1
    rw [keeps _ _ preprocessed] at more
    omega

end Patches

end VerticalPodAutoscaler.Admission
