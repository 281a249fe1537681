import VerticalPodAutoscaler.Admission.PatchSteps
import VerticalPodAutoscaler.Admission.PatchOrder

/-!
# Applying the patches of a pod admission

The API server applies the patch list to the pod's JSON, operation after operation.  When every
recommended resource name is a plain JSON-Pointer token, the whole list applies, and the pod read
back is the recommended one: each container the provider recommends for has its requests and
limits patched in the order their `range`s visit them, and the pod is annotated.  The proof
follows the builders' loops: the value operations of one map, the three stages of one container,
then the containers from an index on.

Each value operation's path is formatted with the resource name inserted as it is.  A name with
a `/` in it, as extended resources such as `nvidia.com/gpu` have, therefore becomes two pointer
tokens, and the operation's parent is an object the patch never creates.
-/

namespace VerticalPodAutoscaler.Admission

open Api Json

/-! ## The pod the patch is meant to make -/

/-- The requests or limits of a container once the patch is applied and read back: each
recommended quantity, as the API server reads its text back, set in the container's map in the
order the `range` visits them, in a new map when the container had none. -/
def patchedResourceList (canonical : Quantity → Quantity) (order : MapOrder)
    (current recommended : Option ResourceList) : Option ResourceList :=
  match recommended with
  | some list =>
      if list.entries = [] then current
      else some ((order.entries list).foldl
        (fun result entry => result.insert entry.1 (canonical entry.2)) (current.getD ∅))
  | none => current

/-- Resource names that a JSON Pointer spells as they are. -/
def PlainNames (resources : Option ResourceList) : Prop :=
  ∀ list ∈ resources, ∀ name ∈ list.keys, PlainToken name

theorem PlainNames.visit {list : ResourceList} (plain : PlainNames (some list)) (order : MapOrder) :
    ∀ entry ∈ order.entries list, PlainToken entry.1 := by
  intro entry member
  have paired : (entry.1, entry.2) ∈ list.pairs := (order.perm list).subset member
  rw [ResourceList.mem_pairs] at paired
  exact plain list rfl entry.1 (AList.mem_keys.mpr (AList.lookup_isSome.mp (by simp [paired])))

theorem appendPatchesAndAnnotations_fst (quantityString : Quantity → String) (order : MapOrder)
    (patches : List PatchRecord) (annotations : List String) (current : Option ResourceList)
    (i : Nat) (resources : Option ResourceList) (fieldName resourceName : String) :
    (appendPatchesAndAnnotations quantityString order patches annotations current i resources
        fieldName resourceName).1 =
      patches ++ (appendPatchesAndAnnotations quantityString order [] [] current i resources
        fieldName resourceName).1 := by
  simp only [appendPatchesAndAnnotations, appendResourcePatches_eq]
  split_ifs <;> simp

/-- A container once the patch is applied and read back: its requests and limits patched with
the recommended ones, each map in the order its own `range` visits it. -/
def recommendedContainer (canonical : Quantity → Quantity) (order : RangeOrder) (i : Nat)
    (container : Container) (containerResources : ContainerResources) : Container :=
  { container with
    resources :=
      { limits := patchedResourceList canonical (order i "limits") container.resources.limits
          containerResources.limits
        requests := patchedResourceList canonical (order i "requests") container.resources.requests
          containerResources.requests } }

theorem containerPatches_notes_length (quantityString : Quantity → String) (order : RangeOrder)
    (pod : Pod) (annotationsPerContainer : ContainerToAnnotationsMap) (k : Nat)
    (containersResources : List ContainerResources) {patches : List PatchRecord}
    {notes : List String}
    (built : containerPatches quantityString order pod annotationsPerContainer k
      containersResources = .ok (patches, notes)) :
    notes.length = containersResources.length := by
  induction containersResources generalizing k patches notes with
  | nil => cases built; rfl
  | cons containerResources rest ih =>
      obtain ⟨⟨first, note⟩, -, more⟩ := GoResult.bind_eq_ok.mp built
      obtain ⟨⟨others, otherNotes⟩, restBuilt, same⟩ := GoResult.bind_eq_ok.mp more
      simp only [GoResult.pure_eq_ok, GoResult.ok.injEq, Prod.mk.injEq] at same
      obtain ⟨-, rfl⟩ := same
      simp [ih _ restBuilt]

/-- The pod the patch is meant to make, as the API server reads it back: every container that
has recommended resources is the recommended container, and the `vpaUpdates` annotation holds
the given note when there is a container. -/
def recommendedPod (canonical : Quantity → Quantity) (order : RangeOrder) (pod : Pod)
    (containersResources : List ContainerResources) (vpaAnnotationValue : String) : Pod :=
  { pod with
    containers := pod.containers.mapIdx fun i container =>
      match containersResources[i]? with
      | some containerResources =>
          recommendedContainer canonical order i container containerResources
      | none => container
    annotations := if containersResources.isEmpty then pod.annotations
      else some ((pod.annotations.getD ∅).insert "vpaUpdates" vpaAnnotationValue) }

/-! ## Runs of operations -/

section Runs

variable (unmarshalQuantity : Json → Except String Quantity)
  (quantityString : Quantity → String) (canonical : Quantity → Quantity)
  (rereads : ∀ q, unmarshalQuantity (.str (quantityString q)) = .ok (canonical q))

include rereads

/-- The value operations of one requests or limits map, run one after another: the decoded map
gains the recommended quantities in the order visited. -/
theorem applyPatch_values (field : ResourceField) (i : Nat)
    (visit : List (ResourceName × Quantity))
    (plain : ∀ entry ∈ visit, PlainToken entry.1) {doc : Json} {pod : Pod}
    (decoded : decodePod unmarshalQuantity doc = .ok pod) (shape : PodDocument doc)
    {container : Container} (present : pod.containers[i]? = some container) {list : ResourceList}
    (current : field.get container.resources = some list) {fieldMembers : List (String × Json)}
    (fieldFound :
      doc.getAt (containerPath i ++ ["resources", field.name]) = some (.obj fieldMembers))
    (resourcesFound :
      ∃ resources, doc.getAt (containerPath i ++ ["resources"]) = some (.obj resources)) :
    ∃ doc', applyPatch doc (visit.map fun entry =>
        getAddResourceRequirementValuePatch quantityString i field.name entry.1 entry.2) =
          .ok doc' ∧
      decodePod unmarshalQuantity doc' = .ok { pod with containers := (pod.containers.set i
        { container with resources := (field.set container.resources
          (some (visit.foldl (fun list entry => list.insert entry.1 (canonical entry.2))
            list))) }) } ∧
      PodDocument doc' ∧
      ∃ resources, doc'.getAt (containerPath i ++ ["resources"]) = some (.obj resources) := by
  induction visit generalizing doc pod container list fieldMembers with
  | nil =>
      refine ⟨doc, rfl, ?_, shape, resourcesFound⟩
      simpa [← current, field.set_get, set_of_getElem? present] using decoded
  | cons entry rest ih =>
      obtain ⟨doc₁, applied, decoded₁, shape₁, fieldFound₁, resourcesFound₁⟩ :=
        applyOperation_value unmarshalQuantity quantityString field decoded shape present current
          fieldFound (plain entry (List.mem_cons_self _ _)) entry.2 (rereads entry.2)
      obtain ⟨doc₂, applied₂, decoded₂, shape₂, found₂⟩ :=
        ih (fun other member => plain other (List.mem_cons_of_mem _ member)) decoded₁ shape₁
          (getElem?_set_of_getElem? present _) (field.get_set _ _) fieldFound₁ resourcesFound₁
      refine ⟨doc₂, by rw [List.map_cons, applyPatch_cons, applied]; exact applied₂, ?_,
        shape₂, found₂⟩
      simpa [List.set_set, field.set_set] using decoded₂

/-- The operations of one requests or limits map: the decoded map is the patched one. -/
theorem applyPatch_field (field : ResourceField) (order : MapOrder) (i : Nat)
    {recommended : Option ResourceList} (plain : PlainNames recommended) {doc : Json} {pod : Pod}
    (decoded : decodePod unmarshalQuantity doc = .ok pod) (shape : PodDocument doc)
    {container : Container} (present : pod.containers[i]? = some container)
    (resourcesFound :
      ∃ resources, doc.getAt (containerPath i ++ ["resources"]) = some (.obj resources))
    (resourceName : String) :
    ∃ doc', applyPatch doc (appendPatchesAndAnnotations quantityString order [] []
        (field.get container.resources) i recommended field.name resourceName).1 = .ok doc' ∧
      decodePod unmarshalQuantity doc' = .ok { pod with containers := (pod.containers.set i
        { container with resources := (field.set container.resources
          (patchedResourceList canonical order (field.get container.resources)
            recommended)) }) } ∧
      PodDocument doc' ∧
      ∃ resources, doc'.getAt (containerPath i ++ ["resources"]) = some (.obj resources) := by
  have unchanged : decodePod unmarshalQuantity doc = .ok { pod with containers :=
      (pod.containers.set i { container with
        resources := (field.set container.resources (field.get container.resources)) }) } := by
    simpa [field.set_get, set_of_getElem? present] using decoded
  simp only [appendPatchesAndAnnotations, appendResourcePatches_eq, List.nil_append]
  cases recommended with
  | none =>
      refine ⟨doc, ?_, by simpa [patchedResourceList] using unchanged, shape, resourcesFound⟩
      simp only [Option.map_none', Option.getD_none, lt_self_iff_false, and_false, if_false,
        List.map_nil, List.append_nil, applyPatch_nil]
  | some list =>
      by_cases empty : list.entries = []
      · have visitEmpty : order.entries list = [] := List.eq_nil_of_length_eq_zero
          ((order.perm list).length_eq.trans (by simp [ResourceList.pairs, empty]))
        refine ⟨doc, ?_, by simpa [patchedResourceList, empty] using unchanged, shape,
          resourcesFound⟩
        simp only [Option.map_some', Option.getD_some, empty, List.length_nil, lt_self_iff_false,
          and_false, if_false, visitEmpty, List.map_nil, List.append_nil, applyPatch_nil]
      · have visitPlain := PlainNames.visit plain order
        have nonempty : 0 < list.entries.length := List.length_pos.mpr empty
        cases current : field.get container.resources with
        | none =>
            simp only [Option.isNone_none, Option.map_some', Option.getD_some, nonempty, and_self,
              if_true, List.singleton_append, applyPatch_cons]
            obtain ⟨resources, resourcesFound⟩ := resourcesFound
            obtain ⟨doc₁, applied₁, decoded₁, shape₁, fieldFound₁, resourcesFound₁⟩ :=
              applyOperation_initField unmarshalQuantity field decoded shape present resourcesFound
            obtain ⟨doc₂, applied₂, decoded₂, shape₂, found₂⟩ :=
              applyPatch_values unmarshalQuantity quantityString canonical rereads field i _
                visitPlain decoded₁ shape₁ (getElem?_set_of_getElem? present _)
                (field.get_set _ _) fieldFound₁ resourcesFound₁
            refine ⟨doc₂, by rw [applied₁]; exact applied₂, ?_, shape₂, found₂⟩
            simpa [patchedResourceList, empty, List.set_set, field.set_set] using decoded₂
        | some currentList =>
            simp only [Option.isNone_some, Bool.false_eq_true, false_and, if_false, List.nil_append,
              Option.map_some', Option.getD_some]
            obtain ⟨resources, resourcesFound⟩ := resourcesFound
            obtain ⟨fieldMembers, fieldFound⟩ :=
              fieldObject unmarshalQuantity field decoded shape present current resourcesFound
            obtain ⟨doc', applied, decoded', shape', found'⟩ :=
              applyPatch_values unmarshalQuantity quantityString canonical rereads field i _
                visitPlain decoded shape present current fieldFound ⟨resources, resourcesFound⟩
            exact ⟨doc', applied, by simpa [patchedResourceList, empty] using decoded', shape',
              found'⟩

/-- All the operations of one container: the decoded container is the recommended one. -/
theorem applyPatch_getContainerPatch (order : RangeOrder) {podPatch : Pod} {i : Nat}
    {annotationsPerContainer : ContainerToAnnotationsMap} {containerResources : ContainerResources}
    (plain : PlainNames containerResources.requests ∧ PlainNames containerResources.limits)
    {patches : List PatchRecord} {note : String}
    (built : getContainerPatch quantityString order podPatch i annotationsPerContainer
      containerResources = .ok (patches, note))
    {container : Container} (inPatchPod : podPatch.containers[i]? = some container) {doc : Json}
    {pod : Pod} (decoded : decodePod unmarshalQuantity doc = .ok pod) (shape : PodDocument doc)
    (present : pod.containers[i]? = some container) :
    ∃ doc', applyPatch doc patches = .ok doc' ∧
      decodePod unmarshalQuantity doc' = .ok { pod with containers := (pod.containers.set i
        (recommendedContainer canonical order i container containerResources)) } ∧
      PodDocument doc' := by
  simp only [getContainerPatch, inPatchPod, GoResult.ok.injEq, Prod.mk.injEq] at built
  obtain ⟨rfl, -⟩ := built
  rw [appendPatchesAndAnnotations_fst, appendPatchesAndAnnotations_fst, applyPatch_append,
    applyPatch_append]
  obtain ⟨doc₁, applied₁, decoded₁, shape₁, resourcesFound₁⟩ :
      ∃ doc₁, applyPatch doc (if container.resources.limits.isNone ∧
          container.resources.requests.isNone then [getPatchInitializingEmptyResources i]
          else []) = .ok doc₁ ∧
        decodePod unmarshalQuantity doc₁ = .ok pod ∧ PodDocument doc₁ ∧
        ∃ resources, doc₁.getAt (containerPath i ++ ["resources"]) = some (.obj resources) := by
    split_ifs with empty
    · obtain ⟨doc₁, applied, decoded₁, shape₁, found⟩ :=
        applyOperation_initResources unmarshalQuantity decoded shape present
          (by obtain ⟨_, _, _⟩ := container; simp_all)
      exact ⟨doc₁, by rw [applyPatch_cons, applied]; rfl, decoded₁, shape₁, _, found⟩
    · obtain ⟨members, found, itemDecoded⟩ :=
        containerObject unmarshalQuantity decoded shape present
      obtain ⟨resources, inResources⟩ := decodeResources_ok unmarshalQuantity
        (decodeContainer_resources unmarshalQuantity itemDecoded)
        (by simp only [Option.isSome_iff_ne_none, Option.isNone_iff_eq_none] at empty ⊢; tauto)
      refine ⟨doc, rfl, decoded, shape, resources, ?_⟩
      rw [getAt_append, found]
      simp [getAt, getChild, inResources]
  obtain ⟨doc₂, applied₂, decoded₂, shape₂, resourcesFound₂⟩ :=
    applyPatch_field unmarshalQuantity quantityString canonical rereads ResourceField.requests
      (order i "requests") i plain.1 decoded₁ shape₁ present resourcesFound₁ "request"
  obtain ⟨doc₃, applied₃, decoded₃, shape₃, -⟩ :=
    applyPatch_field unmarshalQuantity quantityString canonical rereads ResourceField.limits
      (order i "limits") i plain.2 decoded₂ shape₂ (getElem?_set_of_getElem? present _)
      resourcesFound₂ "limit"
  have requestsApplied : applyPatch doc₁ (appendPatchesAndAnnotations quantityString
      (order i "requests") [] [] container.resources.requests i containerResources.requests
      "requests" "request").1 = .ok doc₂ := applied₂
  have limitsApplied : applyPatch doc₂ (appendPatchesAndAnnotations quantityString
      (order i "limits") [] [] container.resources.limits i containerResources.limits
      "limits" "limit").1 = .ok doc₃ := applied₃
  refine ⟨doc₃, ?_, ?_, shape₃⟩
  · rw [applied₁, ok_bind, requestsApplied, ok_bind, limitsApplied]
  · simpa [List.set_set, recommendedContainer, ResourceField.requests, ResourceField.limits]
      using decoded₃

/-- The container loop from container `k` on: each container it reaches is the recommended
one. -/
theorem applyPatch_containerPatches (order : RangeOrder) (podPatch : Pod)
    (annotationsPerContainer : ContainerToAnnotationsMap)
    (containersResources : List ContainerResources)
    (plain : ∀ containerResources ∈ containersResources,
      PlainNames containerResources.requests ∧ PlainNames containerResources.limits)
    (k : Nat) {patches : List PatchRecord} {notes : List String}
    (built : containerPatches quantityString order podPatch annotationsPerContainer k
      containersResources = .ok (patches, notes))
    {doc : Json} {pod : Pod} (decoded : decodePod unmarshalQuantity doc = .ok pod)
    (shape : PodDocument doc)
    (agree : ∀ j, k ≤ j → pod.containers[j]? = podPatch.containers[j]?) :
    ∃ doc', applyPatch doc patches = .ok doc' ∧
      decodePod unmarshalQuantity doc' = .ok { pod with containers := (pod.containers.mapIdx
        fun j container => if k ≤ j then
          match containersResources[j - k]? with
          | some containerResources =>
              recommendedContainer canonical order j container containerResources
          | none => container
        else container) } ∧
      PodDocument doc' := by
  induction containersResources generalizing k patches notes doc pod with
  | nil =>
      cases built
      refine ⟨doc, rfl, ?_, shape⟩
      have same : pod.containers.mapIdx (fun j container => if k ≤ j then
          match ([] : List ContainerResources)[j - k]? with
          | some containerResources =>
              recommendedContainer canonical order j container containerResources
          | none => container
        else container) = pod.containers :=
        List.ext_getElem? fun j => by simp
      rw [same]
      exact decoded
  | cons containerResources rest ih =>
      obtain ⟨⟨first, note⟩, firstBuilt, more⟩ := GoResult.bind_eq_ok.mp built
      obtain ⟨⟨others, otherNotes⟩, restBuilt, same⟩ := GoResult.bind_eq_ok.mp more
      simp only [GoResult.pure_eq_ok, GoResult.ok.injEq, Prod.mk.injEq] at same
      obtain ⟨rfl, rfl⟩ := same
      obtain ⟨container, inPatchPod⟩ :
          ∃ container, podPatch.containers[k]? = some container := by
        unfold getContainerPatch at firstBuilt
        cases inPatch : podPatch.containers[k]? with
        | none => simp [inPatch] at firstBuilt
        | some container => exact ⟨container, rfl⟩
      obtain ⟨doc₁, applied₁, decoded₁, shape₁⟩ :=
        applyPatch_getContainerPatch unmarshalQuantity quantityString canonical rereads order
          (plain _ (List.mem_cons_self _ _)) firstBuilt inPatchPod decoded shape
          ((agree k le_rfl).trans inPatchPod)
      obtain ⟨doc₂, applied₂, decoded₂, shape₂⟩ :=
        ih (fun other member => plain other (List.mem_cons_of_mem _ member)) (k + 1) restBuilt
          decoded₁ shape₁ fun j later => by
            rw [← agree j (by omega)]
            simp [List.getElem?_set, show k ≠ j by omega]
      refine ⟨doc₂, by rw [applyPatch_append, applied₁, ok_bind, applied₂], ?_, shape₂⟩
      rw [decoded₂]
      congr 2
      refine List.ext_getElem? fun j => ?_
      rcases lt_trichotomy j k with before | rfl | after
      · simp [List.getElem?_set, show k ≠ j by omega, show ¬ k ≤ j by omega,
          show ¬ k + 1 ≤ j by omega]
      · have inPod := (agree j le_rfl).trans inPatchPod
        obtain ⟨bound, element⟩ := List.getElem?_eq_some_iff.mp inPod
        simp [List.getElem?_set, inPod, bound, element]
      · obtain ⟨gap, rfl⟩ : ∃ gap, j = k + 1 + gap := ⟨j - (k + 1), by omega⟩
        simp [List.getElem?_set, show k ≠ k + 1 + gap by omega, show k ≤ k + 1 + gap by omega,
          show k + 1 + gap - k = gap + 1 by omega]

end Runs

/-- Applied with JSON-Patch semantics to the pod's JSON, the patch that
`getPatchesForPodResourceRequest` builds goes through, and the pod read back is the recommended
one: every container that the provider recommends resources for has each recommended request
and limit set, at its value as read back, and the `vpaUpdates` annotation is added.  This holds
when the provider names no resource with a `/` or a `~` in it, when the pre-processor keeps the
containers and the annotations, when the pod's `metadata` and containers are objects, and when
reading a written quantity back succeeds. -/
theorem getPatchesForPodResourceRequest_apply (quantityString : Quantity → String)
    (unmarshalQuantity : Json → Except String Quantity) (canonical : Quantity → Quantity)
    (rereads : ∀ q, unmarshalQuantity (.str (quantityString q)) = .ok (canonical q))
    (order : RangeOrder) (recommendationProvider : RecommendationProvider)
    (plain : ∀ pod containersResources annotations vpaName,
      recommendationProvider pod = .ok (containersResources, annotations, vpaName) →
        ∀ containerResources ∈ containersResources,
          PlainNames containerResources.requests ∧ PlainNames containerResources.limits)
    (podPreProcessor : PodPreProcessor)
    (keeps : ∀ pod processed, podPreProcessor pod = .ok processed →
      processed.containers = pod.containers ∧ processed.annotations = pod.annotations)
    {raw : Json} (shape : PodDocument raw) {«namespace» : String} {patches : List PatchRecord}
    (built : getPatchesForPodResourceRequest quantityString unmarshalQuantity order
      recommendationProvider podPreProcessor (some raw) «namespace» = .ok patches) :
    ∃ pod containersResources annotations vpaName,
      decodePod unmarshalQuantity raw = .ok pod ∧
      recommendationProvider (podWithName «namespace» pod) =
        .ok (containersResources, annotations, vpaName) ∧
      ∃ doc value, applyPatch raw patches = .ok doc ∧
        decodePod unmarshalQuantity doc =
          .ok (recommendedPod canonical order pod containersResources value) := by
  obtain ⟨rawJson, rawFound, rest⟩ := GoResult.bind_eq_ok.mp built
  cases GoResult.lift_eq_ok.mp rawFound
  obtain ⟨pod, decoded, rest⟩ := GoResult.bind_eq_ok.mp rest
  replace decoded := GoResult.lift_eq_ok.mp decoded
  obtain ⟨⟨containersResources, annotations, vpaName⟩, provided, rest⟩ := GoResult.bind_eq_ok.mp rest
  obtain ⟨podPatch, preprocessed, rest⟩ := GoResult.bind_eq_ok.mp rest
  replace preprocessed := GoResult.lift_eq_ok.mp preprocessed
  obtain ⟨sameContainers, sameAnnotations⟩ := keeps _ _ preprocessed
  obtain ⟨⟨containerOps, notes⟩, containersBuilt, rest⟩ := GoResult.bind_eq_ok.mp rest
  refine ⟨pod, containersResources, annotations, vpaName, decoded, provided, ?_⟩
  have agree : ∀ j, 0 ≤ j → pod.containers[j]? = podPatch.containers[j]? :=
    fun _ _ => by rw [sameContainers, podWithName_containers]
  obtain ⟨doc₁, applied₁, decoded₁, shape₁⟩ :=
    applyPatch_containerPatches unmarshalQuantity quantityString canonical rereads order _ _
      containersResources (plain _ _ _ _ provided) 0 containersBuilt decoded shape agree
  have lengths := containerPatches_notes_length quantityString order _ _ 0 containersResources
    containersBuilt
  simp only [Nat.zero_le, if_true, Nat.sub_zero] at decoded₁
  dsimp only at rest
  split_ifs at rest with some
  · simp only [GoResult.pure_eq_ok, GoResult.ok.injEq] at rest
    subst rest
    obtain ⟨doc₂, applied₂, decoded₂⟩ :=
      applyOperation_vpaUpdatesPatch unmarshalQuantity decoded₁ shape₁
        (sameAnnotations.trans (podWithName_annotations «namespace» pod)) _
    refine ⟨doc₂, "Pod resources updated by " ++ vpaName ++ ": " ++ "; ".intercalate notes,
      by rw [applyPatch_append, applied₁, ok_bind, applyPatch_cons, applied₂]; rfl, ?_⟩
    have nonempty : containersResources ≠ [] := List.ne_nil_of_length_pos (lengths ▸ some)
    simpa [recommendedPod, nonempty] using decoded₂
  · simp only [GoResult.pure_eq_ok, GoResult.ok.injEq] at rest
    subst rest
    have empty : containersResources = [] := List.length_eq_zero.mp (by omega)
    refine ⟨doc₁, "", applied₁, ?_⟩
    simpa [recommendedPod, empty] using decoded₁

/-! ## Names that are not plain tokens -/

/-- A pod with one container, `app`, that sets no resources. -/
def gpuPodJson : Json :=
  .obj [("metadata", .obj [("name", .str "gpu-pod")]),
    ("spec", .obj [("containers", .arr [.obj [("name", .str "app")]])])]

/-- A recommended request of one GPU. -/
def gpuTarget : ResourceList := AList.insert "nvidia.com/gpu" ⟨1000000000, .decimalSI⟩ ∅

/-- The provider's answer for a recommendation whose target for `app` is one GPU, with no
limits. -/
def gpuProvider : RecommendationProvider := fun _ =>
  .ok ([⟨none, some gpuTarget⟩], some ∅, "gpu-vpa")

/-- The patch built for the GPU request cannot be applied: its path has a `nvidia.com` token
under `requests`, and no such object exists, whatever order the `range`s take. -/
theorem gpu_request_patch_misses_parent (quantityString : Quantity → String)
    (unmarshalQuantity : Json → Except String Quantity) (order : RangeOrder) :
    ∃ patches, getPatchesForPodResourceRequest quantityString unmarshalQuantity order
        gpuProvider .ok (some gpuPodJson) "default" = .ok patches ∧
      applyPatch gpuPodJson patches = .error "missing path element: nvidia.com" := by
  rw [getPatchesForPodResourceRequest_eq_of_single quantityString unmarshalQuantity order
    (fun _ _ => .stored) gpuProvider .ok (fun _ _ _ _ provided => by
      cases provided
      simp [SingleEntries, gpuTarget])]
  exact ⟨_, rfl, rfl⟩

end VerticalPodAutoscaler.Admission
