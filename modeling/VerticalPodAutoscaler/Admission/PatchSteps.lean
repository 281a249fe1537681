import VerticalPodAutoscaler.Admission.PodDocument
import VerticalPodAutoscaler.Admission.Patches

/-!
# What one operation of the admission patch does to the pod

Each operation `getPatchesForPodResourceRequest` builds is an RFC 6902 `add`.  Applied to a pod
document, the API server's JSON of a pod with a `metadata` object and container objects, it
leaves a pod document, and the pod read back from it changes as follows: creating an empty
`resources` object changes nothing, creating an empty requests or limits map sets that map, a
value operation inserts one quantity into it as the API server reads its text back, and the
annotation operation inserts the `vpaUpdates` note.  The paths are those the builders format,
so each step needs the resource name to be a plain pointer token.
-/

namespace VerticalPodAutoscaler.Admission

open Api Json

/-! ## The paths of the operations -/

theorem containerPath_plain (i : Nat) : ∀ token ∈ containerPath i, PlainToken token := by
  simp only [containerPath, List.mem_cons, List.mem_singleton, List.not_mem_nil, or_false]
  rintro token (rfl | rfl | rfl)
  · decide
  · decide
  · exact plainToken_toString i

theorem parsePointer_container {i : Nat} {path : String} {rest : List String}
    (plain : ∀ token ∈ rest, PlainToken token)
    (spelled : path.toList =
      '/' :: ['/'].intercalate ((containerPath i ++ rest).map String.toList)) :
    parsePointer path = .ok (containerPath i ++ rest) :=
  parsePointer_of_tokens (by simp [containerPath])
    (fun token member =>
      (List.mem_append.mp member).elim (containerPath_plain i token) (plain token))
    spelled

theorem parsePointer_initResources (i : Nat) :
    parsePointer (getPatchInitializingEmptyResources i).path =
      .ok (containerPath i ++ ["resources"]) :=
  parsePointer_container (by decide)
    (by simp [getPatchInitializingEmptyResources, resourcesPath, containerPath, List.intercalate])

theorem parsePointer_initSubfield (i : Nat) {kind : String} (plain : PlainToken kind) :
    parsePointer (getPatchInitializingEmptyResourcesSubfield i kind).path =
      .ok (containerPath i ++ ["resources", kind]) :=
  parsePointer_container (by simpa using ⟨by decide, plain⟩)
    (by simp [getPatchInitializingEmptyResourcesSubfield, resourcesPath, containerPath,
      List.intercalate])

theorem parsePointer_value (quantityString : Quantity → String) (i : Nat) {kind resource : String}
    (plainKind : PlainToken kind) (plainResource : PlainToken resource) (q : Quantity) :
    parsePointer (getAddResourceRequirementValuePatch quantityString i kind resource q).path =
      .ok (containerPath i ++ ["resources", kind, resource]) :=
  parsePointer_container (by simpa using ⟨by decide, plainKind, plainResource⟩)
    (by simp [getAddResourceRequirementValuePatch, resourcesPath, containerPath, List.intercalate])


section Steps

variable (unmarshalQuantity : Json → Except String Quantity)

/-- A decoded container's resources are those its `resources` member decodes to. -/
theorem decodeContainer_resources {members : List (String × Json)} {container : Container}
    (decoded : decodeContainer unmarshalQuantity (.obj members) = .ok container) :
    decodeResources unmarshalQuantity (members.lookup "resources") = .ok container.resources := by
  obtain ⟨name, -, rest⟩ := bind_eq_ok.mp decoded
  obtain ⟨resources, resourcesDecoded, containerEq⟩ := bind_eq_ok.mp rest
  cases containerEq
  exact resourcesDecoded

/-- An operation inside container `i`: the container's object is replaced by the object the
`add` makes of it, and the pod's container by what that decodes to. -/
theorem applyOperation_container {doc : Json} {pod : Pod}
    (decoded : decodePod unmarshalQuantity doc = .ok pod) (shape : PodDocument doc) {i : Nat}
    {container : Container} (present : pod.containers[i]? = some container)
    {members : List (String × Json)} (found : doc.getAt (containerPath i) = some (.obj members))
    {op : PatchRecord} {rest : List String} (isAdd : op.op = "add")
    (parsed : parsePointer op.path = .ok (containerPath i ++ rest)) (nonempty : rest ≠ [])
    {updated : List (String × Json)}
    (added : addAt op.value (.obj members) rest = .ok (.obj updated)) {container' : Container}
    (updatedDecoded : decodeContainer unmarshalQuantity (.obj updated) = .ok container') :
    ∃ doc', applyOperation doc op = .ok doc' ∧
      decodePod unmarshalQuantity doc' =
        .ok { pod with containers := pod.containers.set i container' } ∧
      PodDocument doc' ∧ doc'.getAt (containerPath i) = some (.obj updated) :=
  ⟨_, by simp [applyOperation, isAdd, parsed, addAt_append found _ nonempty, added],
    decodePod_setAt_container unmarshalQuantity decoded present updatedDecoded,
    shape.setAt_container found updated, getAt_setAt found _⟩

/-- In a pod document, each container of the decoded pod comes from an object. -/
theorem containerObject {doc : Json} {pod : Pod}
    (decoded : decodePod unmarshalQuantity doc = .ok pod) (shape : PodDocument doc) {i : Nat}
    {container : Container} (present : pod.containers[i]? = some container) :
    ∃ members, doc.getAt (containerPath i) = some (.obj members) ∧
      decodeContainer unmarshalQuantity (.obj members) = .ok container := by
  obtain ⟨item, found, itemDecoded⟩ := decodePod_container unmarshalQuantity decoded present
  obtain ⟨members, rfl⟩ := shape.2 i item found
  exact ⟨members, found, itemDecoded⟩

theorem getElem?_set_of_getElem? {α : Type} {l : List α} {i : Nat} {a : α}
    (present : l[i]? = some a) (b : α) : (l.set i b)[i]? = some b := by
  simp [List.getElem?_set, (List.getElem?_eq_some_iff.mp present).1]

theorem set_of_getElem? {α : Type} {l : List α} {i : Nat} {a : α} (present : l[i]? = some a) :
    l.set i a = l :=
  List.ext_getElem? fun j => by
    by_cases same : i = j
    · subst same
      simp [List.getElem?_set, present, (List.getElem?_eq_some_iff.mp present).1]
    · simp [List.getElem?_set, same]

/-- The operation that creates an empty `resources` object, for a container that has neither
requests nor limits: the decoded pod does not change. -/
theorem applyOperation_initResources {doc : Json} {pod : Pod}
    (decoded : decodePod unmarshalQuantity doc = .ok pod) (shape : PodDocument doc) {i : Nat}
    {container : Container} (present : pod.containers[i]? = some container)
    (empty : container.resources = ⟨none, none⟩) :
    ∃ doc', applyOperation doc (getPatchInitializingEmptyResources i) = .ok doc' ∧
      decodePod unmarshalQuantity doc' = .ok pod ∧ PodDocument doc' ∧
      doc'.getAt (containerPath i ++ ["resources"]) = some (.obj []) := by
  obtain ⟨members, found, itemDecoded⟩ :=
    containerObject unmarshalQuantity decoded shape present
  have updatedDecoded := decodeContainer_setMember_resources unmarshalQuantity itemDecoded (.obj [])
  rw [show decodeResources unmarshalQuantity (some (.obj [])) = .ok container.resources by
    rw [empty]; rfl] at updatedDecoded
  obtain ⟨doc', applied, docDecoded, docShape, docFound⟩ :=
    applyOperation_container unmarshalQuantity decoded shape present found rfl
      (parsePointer_initResources i) (by simp) rfl updatedDecoded
  refine ⟨doc', applied, ?_, docShape, ?_⟩
  · simpa [set_of_getElem? present] using docDecoded
  · rw [getAt_append, docFound]
    simp [getAt, getChild, lookup_setMember, getPatchInitializingEmptyResources]

/-- The `resources` object at a container's path is its `resources` member. -/
theorem resourcesObject {doc : Json} {i : Nat} {members resources : List (String × Json)}
    (found : doc.getAt (containerPath i) = some (.obj members))
    (resourcesFound : doc.getAt (containerPath i ++ ["resources"]) = some (.obj resources)) :
    members.lookup "resources" = some (.obj resources) := by
  rw [getAt_append, found] at resourcesFound
  simpa [getAt, getChild] using resourcesFound

/-- A container whose requests or limits are set has an object for them in a pod document
that has its `resources` object. -/
theorem fieldObject (field : ResourceField) {doc : Json} {pod : Pod}
    (decoded : decodePod unmarshalQuantity doc = .ok pod) (shape : PodDocument doc) {i : Nat}
    {container : Container} (present : pod.containers[i]? = some container)
    {list : ResourceList} (current : field.get container.resources = some list)
    {resources : List (String × Json)}
    (resourcesFound : doc.getAt (containerPath i ++ ["resources"]) = some (.obj resources)) :
    ∃ fieldMembers,
      doc.getAt (containerPath i ++ ["resources", field.name]) = some (.obj fieldMembers) := by
  obtain ⟨members, found, itemDecoded⟩ :=
    containerObject unmarshalQuantity decoded shape present
  have inResources := resourcesObject found resourcesFound
  have resourcesDecoded := decodeContainer_resources unmarshalQuantity itemDecoded
  rw [inResources] at resourcesDecoded
  have listDecoded := field.decode_get unmarshalQuantity resources _ resourcesDecoded
  rw [current] at listDecoded
  obtain ⟨fieldMembers, inField, -⟩ := decodeResourceList_ok unmarshalQuantity listDecoded
  refine ⟨fieldMembers, ?_⟩
  rw [getAt_append, found]
  simp [getAt, getChild, inResources, inField]

/-- The operation that creates an empty requests or limits map in a `resources` object. -/
theorem applyOperation_initField (field : ResourceField) {doc : Json} {pod : Pod}
    (decoded : decodePod unmarshalQuantity doc = .ok pod) (shape : PodDocument doc) {i : Nat}
    {container : Container} (present : pod.containers[i]? = some container)
    {resources : List (String × Json)}
    (resourcesFound : doc.getAt (containerPath i ++ ["resources"]) = some (.obj resources)) :
    ∃ doc', applyOperation doc (getPatchInitializingEmptyResourcesSubfield i field.name) =
        .ok doc' ∧
      decodePod unmarshalQuantity doc' = .ok { pod with containers := (pod.containers.set i
        { container with resources := field.set container.resources (some ∅) }) } ∧
      PodDocument doc' ∧
      doc'.getAt (containerPath i ++ ["resources", field.name]) = some (.obj []) ∧
      ∃ resources', doc'.getAt (containerPath i ++ ["resources"]) = some (.obj resources') := by
  obtain ⟨members, found, itemDecoded⟩ :=
    containerObject unmarshalQuantity decoded shape present
  have inResources := resourcesObject found resourcesFound
  have resourcesDecoded := decodeContainer_resources unmarshalQuantity itemDecoded
  rw [inResources] at resourcesDecoded
  have updatedDecoded := decodeContainer_setMember_resources unmarshalQuantity itemDecoded
    (.obj (setMember resources field.name (.obj [])))
  rw [field.decode_set unmarshalQuantity resources _ _ resourcesDecoded] at updatedDecoded
  obtain ⟨doc', applied, docDecoded, docShape, docFound⟩ :=
    applyOperation_container unmarshalQuantity decoded shape present found rfl
      (parsePointer_initSubfield i field.name_plain) (by simp)
      (by simp [addAt_cons_cons, getChild, inResources, addAt, addChild, setChild,
        getPatchInitializingEmptyResourcesSubfield]) updatedDecoded
  refine ⟨doc', applied, docDecoded, docShape, ?_, setMember resources field.name (.obj []), ?_⟩
  all_goals
    rw [getAt_append, docFound]
    simp [getAt, getChild, lookup_setMember]

/-- The operation that sets one recommended quantity in a requests or limits map: the decoded
map gains that quantity, as the API server reads its text back. -/
theorem applyOperation_value (quantityString : Quantity → String) (field : ResourceField)
    {doc : Json} {pod : Pod} (decoded : decodePod unmarshalQuantity doc = .ok pod)
    (shape : PodDocument doc) {i : Nat} {container : Container}
    (present : pod.containers[i]? = some container) {list : ResourceList}
    (current : field.get container.resources = some list) {fieldMembers : List (String × Json)}
    (fieldFound :
      doc.getAt (containerPath i ++ ["resources", field.name]) = some (.obj fieldMembers))
    {resource : ResourceName} (plain : PlainToken resource) (q : Quantity) {reread : Quantity}
    (rereads : unmarshalQuantity (.str (quantityString q)) = .ok reread) :
    ∃ doc', applyOperation doc
        (getAddResourceRequirementValuePatch quantityString i field.name resource q) = .ok doc' ∧
      decodePod unmarshalQuantity doc' = .ok { pod with containers := (pod.containers.set i
        { container with
          resources := field.set container.resources (some (list.insert resource reread)) }) } ∧
      PodDocument doc' ∧
      doc'.getAt (containerPath i ++ ["resources", field.name]) =
        some (.obj (setMember fieldMembers resource (.str (quantityString q)))) ∧
      ∃ resources', doc'.getAt (containerPath i ++ ["resources"]) = some (.obj resources') := by
  obtain ⟨members, found, itemDecoded⟩ :=
    containerObject unmarshalQuantity decoded shape present
  rw [getAt_append, found, Option.some_bind] at fieldFound
  simp only [getAt, Option.bind_eq_some, Option.some.injEq, exists_eq_right] at fieldFound
  obtain ⟨resourcesJson, inResources, inField⟩ := fieldFound
  simp only [getChild] at inResources
  have resourcesDecoded := decodeContainer_resources unmarshalQuantity itemDecoded
  rw [inResources] at resourcesDecoded
  cases resourcesJson with
  | obj resources =>
      simp only [getChild] at inField
      have listDecoded := field.decode_get unmarshalQuantity resources _ resourcesDecoded
      rw [inField, current] at listDecoded
      have updatedDecoded := decodeContainer_setMember_resources unmarshalQuantity itemDecoded
        (.obj (setMember resources field.name
          (.obj (setMember fieldMembers resource (.str (quantityString q))))))
      rw [field.decode_set unmarshalQuantity resources _ _ resourcesDecoded,
        decodeResourceList_setMember unmarshalQuantity listDecoded resource rereads]
        at updatedDecoded
      obtain ⟨doc', applied, docDecoded, docShape, docFound⟩ :=
        applyOperation_container unmarshalQuantity decoded shape present found rfl
          (parsePointer_value quantityString i field.name_plain plain q) (by simp)
          (by simp [addAt_cons_cons, getChild, inResources, inField, addAt, addChild, setChild,
            getAddResourceRequirementValuePatch]) updatedDecoded
      refine ⟨doc', applied, docDecoded, docShape, ?_, setMember resources field.name
        (.obj (setMember fieldMembers resource (.str (quantityString q)))), ?_⟩
      all_goals
        rw [getAt_append, docFound]
        simp [getAt, getChild, lookup_setMember]
  | null => simp [getChild] at inField
  | _ => cases resourcesDecoded

end Steps

theorem applyPatch_nil (doc : Json) : applyPatch doc [] = .ok doc := rfl

theorem applyPatch_cons (doc : Json) (patch : PatchRecord) (rest : List PatchRecord) :
    applyPatch doc (patch :: rest) = applyOperation doc patch >>= (applyPatch · rest) := rfl

theorem applyPatch_append (doc : Json) (first rest : List PatchRecord) :
    applyPatch doc (first ++ rest) = applyPatch doc first >>= (applyPatch · rest) := by
  simp [applyPatch, List.foldlM_append]

/-- The annotation operation: the decoded annotations gain the `vpaUpdates` note, in a new map
when the pod had none. -/
theorem applyOperation_vpaUpdatesPatch (unmarshalQuantity : Json → Except String Quantity)
    {doc : Json} {pod : Pod} (decoded : decodePod unmarshalQuantity doc = .ok pod)
    (shape : PodDocument doc) {podPatch : Pod} (same : podPatch.annotations = pod.annotations)
    (value : String) :
    ∃ doc', applyOperation doc (vpaUpdatesPatch podPatch value) = .ok doc' ∧
      decodePod unmarshalQuantity doc' = .ok { pod with
        annotations := some ((pod.annotations.getD ∅).insert "vpaUpdates" value) } := by
  obtain ⟨metadata, found⟩ := shape.1
  cases present : pod.annotations with
  | none =>
      have parsed : parsePointer "/metadata/annotations" = .ok (["metadata"] ++ ["annotations"]) :=
        rfl
      refine ⟨_, ?_, (decodePod_setAt_annotations unmarshalQuantity decoded found
        (.obj [("vpaUpdates", .str value)])).trans rfl⟩
      simp only [vpaUpdatesPatch, same, present, applyOperation, if_pos, parsed, ok_bind]
      rw [addAt_append found _ (by simp)]
      rfl
  | some annotations =>
      obtain ⟨members, inMetadata, annotationsDecoded⟩ :=
        decodePod_annotations unmarshalQuantity decoded found present
      have parsed : parsePointer "/metadata/annotations/vpaUpdates" =
          .ok (["metadata"] ++ ["annotations", "vpaUpdates"]) := rfl
      refine ⟨_, ?_, (decodePod_setAt_annotations unmarshalQuantity decoded found
        (.obj (setMember members "vpaUpdates" (.str value)))).trans ?_⟩
      · simp only [vpaUpdatesPatch, same, present, applyOperation, if_pos, parsed, ok_bind]
        rw [addAt_append found _ (by simp)]
        simp [addAt_cons_cons, getChild, inMetadata, addAt, addChild, setChild]
      · simp [decodeStringMap_setMember annotationsDecoded]

@[simp]
theorem podWithName_containers («namespace» : String) (pod : Pod) :
    (podWithName «namespace» pod).containers = pod.containers := by
  unfold podWithName
  split_ifs <;> rfl

@[simp]
theorem podWithName_annotations («namespace» : String) (pod : Pod) :
    (podWithName «namespace» pod).annotations = pod.annotations := by
  unfold podWithName
  split_ifs <;> rfl

end VerticalPodAutoscaler.Admission
