import VerticalPodAutoscaler.Admission.Pointer
import VerticalPodAutoscaler.Admission.Decode

/-!
# A pod's JSON document, and the pod read back after an edit

The API server applies the patch to the pod's JSON and decodes the result.  This module says
what each edit the patch makes does to the decoded pod: a member set in an object decoded into
a map is an insertion into the map, a `resources` block or a requests or limits map replaced
in a container's object is that field of the container replaced, and an object replaced at a
container's location is that container replaced in the pod.  A quantity written as
`Quantity.nanoString` writes it is read back at its amount.
-/

namespace VerticalPodAutoscaler.Admission

open Api Json

section Maps

variable {β : Type}

theorem entries_erase (map : AList fun _ : String => β) (key : String) :
    (map.erase key).entries = map.entries.kerase key := rfl

theorem erase_insert_same (map : AList fun _ : String => β) (key : String) (value : β) :
    (map.insert key value).erase key = map.erase key :=
  AList.ext (by simp [entries_erase, List.kerase_cons_eq])

theorem erase_insert_other (map : AList fun _ : String => β) {key other : String} (value : β)
    (distinct : key ≠ other) :
    (map.insert key value).erase other = (map.erase other).insert key value :=
  AList.ext (by simp [entries_erase, List.kerase_cons_ne, Ne.symm distinct, List.kerase_comm])

theorem insert_erase_same (map : AList fun _ : String => β) (key : String) (value : β) :
    (map.erase key).insert key value = map.insert key value :=
  AList.ext (by rw [AList.insert_entries_of_neg (by simp)]; rfl)

variable (decodeValue : Json → Except String β)

theorem foldlM_insertMember_filter (key : String) (members : List (String × Json))
    {start map : AList fun _ : String => β}
    (folded : members.foldlM (insertMember decodeValue) start = .ok map) :
    (members.filter (·.1 ≠ key)).foldlM (insertMember decodeValue) (start.erase key) =
      .ok (map.erase key) := by
  induction members generalizing start with
  | nil => cases folded; rfl
  | cons member rest ih =>
      obtain ⟨name, value⟩ := member
      cases decoded : decodeValue value with
      | error => simp [insertMember, decoded, Functor.map, Except.map, bind, Except.bind] at folded
      | ok result =>
          have next : rest.foldlM (insertMember decodeValue) (start.insert name result) = .ok map := by
            simpa [insertMember, decoded] using folded
          by_cases same : name = key
          · subst same
            simpa [List.filter_cons, erase_insert_same] using ih next
          · have rest := ih next
            rw [erase_insert_other _ _ same] at rest
            simpa [List.filter_cons, same, insertMember, decoded] using rest

/-- Setting a member of an object that decodes into a map stores the member's decoded value
under its name, whatever members of that name there were. -/
theorem foldlM_insertMember_setMember (members : List (String × Json)) (key : String)
    {value : Json} {map : AList fun _ : String => β} {decoded : β}
    (folded : members.foldlM (insertMember decodeValue) ∅ = .ok map)
    (valueDecoded : decodeValue value = .ok decoded) :
    (setMember members key value).foldlM (insertMember decodeValue) ∅ =
      .ok (map.insert key decoded) := by
  have filtered := foldlM_insertMember_filter decodeValue key members folded
  rw [setMember, List.foldlM_append]
  rw [show (∅ : AList fun _ : String => β).erase key = ∅ from rfl] at filtered
  rw [filtered]
  simp only [List.foldlM_cons, List.foldlM_nil, insertMember, valueDecoded]
  exact congrArg Except.ok (insert_erase_same map key decoded)

end Maps

theorem unmarshalNanoQuantity_nanoString (q : Quantity) :
    unmarshalNanoQuantity (.str q.nanoString) = .ok ⟨q.nanos, .decimalSI⟩ := by
  obtain ⟨nanos, format⟩ := q
  cases nanos with
  | ofNat m =>
      obtain ⟨value, digits, nonempty, _⟩ := toDigitsCore_spec (m + 1) m (by omega)
      have text : (Quantity.nanoString ⟨.ofNat m, format⟩).toList =
          Nat.toDigitsCore 10 (m + 1) m [] ++ ['n'] := rfl
      have notMinus : (Nat.toDigitsCore 10 (m + 1) m [] ++ ['n']).head? ≠ some '-' := by
        rw [List.head?_append_of_ne_nil _ nonempty]
        intro minus
        have := List.all_eq_true.mp digits _ (List.mem_of_mem_head? minus)
        contradiction
      simp only [unmarshalNanoQuantity, text, notMinus, if_false, nanoQuantity, List.getLast?_concat,
        List.dropLast_concat]
      simp [nonempty, digits, value]
  | negSucc m =>
      obtain ⟨value, digits, nonempty, _⟩ := toDigitsCore_spec (m + 2) (m + 1) (by omega)
      have text : (Quantity.nanoString ⟨.negSucc m, format⟩).toList =
          '-' :: (Nat.toDigitsCore 10 (m + 2) (m + 1) [] ++ ['n']) := rfl
      simp only [unmarshalNanoQuantity, text, List.head?_cons, if_true, List.tail_cons, nanoQuantity,
        List.getLast?_concat, List.dropLast_concat]
      simp [nonempty, digits, value, Int.negSucc_eq]

/-! ## Lists decoded element by element -/

section Elements

variable {α β : Type} (f : α → Except String β)

theorem mapM_cons_eq_ok {item : α} {rest : List α} {results : List β} :
    (item :: rest).mapM f = .ok results ↔
      ∃ first others, f item = .ok first ∧ rest.mapM f = .ok others ∧ results = first :: others := by
  rw [List.mapM_cons]
  cases f item <;> cases rest.mapM f <;> simp [eq_comm]

theorem mapM_ok_length {items : List α} {results : List β} (mapped : items.mapM f = .ok results) :
    results.length = items.length := by
  induction items generalizing results with
  | nil => cases mapped; rfl
  | cons item rest ih =>
      obtain ⟨first, others, -, restMapped, rfl⟩ := (mapM_cons_eq_ok f).mp mapped
      simp [ih restMapped]

theorem mapM_ok_getElem? {items : List α} {results : List β} (mapped : items.mapM f = .ok results)
    {i : Nat} {result : β} (present : results[i]? = some result) :
    ∃ item, items[i]? = some item ∧ f item = .ok result := by
  induction items generalizing results i with
  | nil => cases mapped; simp at present
  | cons item rest ih =>
      obtain ⟨first, others, itemMapped, restMapped, rfl⟩ := (mapM_cons_eq_ok f).mp mapped
      cases i with
      | zero =>
          simp only [List.getElem?_cons_zero, Option.some.injEq] at present
          exact ⟨item, by simp, present ▸ itemMapped⟩
      | succ i => simpa using ih restMapped (by simpa using present)

theorem mapM_set {items : List α} {results : List β} (mapped : items.mapM f = .ok results)
    (i : Nat) {item : α} {result : β} (itemMapped : f item = .ok result) :
    (items.set i item).mapM f = .ok (results.set i result) := by
  induction items generalizing results i with
  | nil => cases mapped; rfl
  | cons first rest ih =>
      obtain ⟨head, others, firstMapped, restMapped, rfl⟩ := (mapM_cons_eq_ok f).mp mapped
      cases i with
      | zero => exact (mapM_cons_eq_ok f).mpr ⟨_, _, itemMapped, restMapped, rfl⟩
      | succ i => exact (mapM_cons_eq_ok f).mpr ⟨_, _, firstMapped, ih restMapped i, rfl⟩

end Elements

/-! ## Containers in a pod's JSON -/

/-- The tokens of the location of container `i` in a pod's JSON. -/
def containerPath (i : Nat) : List String := ["spec", "containers", toString i]

section Pod

variable (unmarshalQuantity : Json → Except String Quantity)

theorem decodeContainers_ok {json : Option Json} {containers : List Container}
    (decoded : decodeContainers unmarshalQuantity json = .ok containers) (nonempty : containers ≠ []) :
    ∃ items, json = some (.arr items) ∧
      items.mapM (decodeContainer unmarshalQuantity) = .ok containers := by
  match json, decoded with
  | none, decoded | some .null, decoded => cases decoded; contradiction
  | some (.arr items), decoded => exact ⟨items, rfl, decoded⟩
  | some (.bool _), decoded | some (.num _), decoded | some (.str _), decoded
  | some (.obj _), decoded => cases decoded

/-- A decoded pod with containers: its JSON is an object whose `spec` is an object whose
`containers` is an array, decoded element by element into the containers. -/
theorem decodePod_layout {doc : Json} {pod : Pod}
    (decoded : decodePod unmarshalQuantity doc = .ok pod) (nonempty : pod.containers ≠ []) :
    ∃ members spec items, doc = .obj members ∧ members.lookup "spec" = some (.obj spec) ∧
      spec.lookup "containers" = some (.arr items) ∧
      items.mapM (decodeContainer unmarshalQuantity) = .ok pod.containers := by
  match doc, decoded with
  | .null, decoded => cases decoded; contradiction
  | .obj members, decoded =>
      obtain ⟨metadata, -, rest⟩ := bind_eq_ok.mp decoded
      obtain ⟨containers, specDecoded, podEq⟩ := bind_eq_ok.mp rest
      simp only [pure_eq_ok, Except.ok.injEq] at podEq
      subst podEq
      match spec : members.lookup "spec", specDecoded with
      | none, specDecoded | some .null, specDecoded => cases specDecoded; contradiction
      | some (.obj specMembers), specDecoded =>
          obtain ⟨items, itemsFound, mapped⟩ :=
            decodeContainers_ok unmarshalQuantity specDecoded nonempty
          exact ⟨members, specMembers, items, rfl, spec, itemsFound, mapped⟩
      | some (.bool _), specDecoded | some (.num _), specDecoded | some (.str _), specDecoded
      | some (.arr _), specDecoded => cases specDecoded
  | .bool _, decoded | .num _, decoded | .str _, decoded | .arr _, decoded => cases decoded

theorem decodePod_container {doc : Json} {pod : Pod}
    (decoded : decodePod unmarshalQuantity doc = .ok pod) {i : Nat} {container : Container}
    (present : pod.containers[i]? = some container) :
    ∃ item, doc.getAt (containerPath i) = some item ∧
      decodeContainer unmarshalQuantity item = .ok container := by
  obtain ⟨members, spec, items, rfl, specFound, itemsFound, mapped⟩ :=
    decodePod_layout unmarshalQuantity decoded (by rintro empty; simp [empty] at present)
  obtain ⟨item, itemFound, itemDecoded⟩ := mapM_ok_getElem? _ mapped present
  exact ⟨item, by simp [containerPath, getAt, getChild, specFound, itemsFound,
    parseIndex_toString, itemFound], itemDecoded⟩

/-- Replacing a pod's `spec` leaves what its `metadata` decodes to. -/
theorem decodePod_setMember_spec {members : List (String × Json)} {pod : Pod}
    (decoded : decodePod unmarshalQuantity (.obj members) = .ok pod) (spec : Json) :
    decodePod unmarshalQuantity (.obj (setMember members "spec" spec)) =
      (fun containers => { pod with containers }) <$>
        decodePodSpec unmarshalQuantity (some spec) := by
  obtain ⟨metadata, metadataDecoded, rest⟩ := bind_eq_ok.mp decoded
  obtain ⟨containers, -, podEq⟩ := bind_eq_ok.mp rest
  simp only [pure_eq_ok, Except.ok.injEq] at podEq
  subst podEq
  simp only [decodePod, lookup_setMember, if_pos, show ("metadata" : String) ≠ "spec" by decide,
    if_false, metadataDecoded, ok_bind]
  cases decodePodSpec unmarshalQuantity (some spec) <;> rfl

/-- Replacing the object at container `i`'s location replaces that container in the decoded
pod by what the new object decodes to. -/
theorem decodePod_setAt_container {doc : Json} {pod : Pod}
    (decoded : decodePod unmarshalQuantity doc = .ok pod) {i : Nat} {container : Container}
    (present : pod.containers[i]? = some container) {item : Json} {updated : Container}
    (itemDecoded : decodeContainer unmarshalQuantity item = .ok updated) :
    decodePod unmarshalQuantity (doc.setAt (containerPath i) item) =
      .ok { pod with containers := pod.containers.set i updated } := by
  obtain ⟨members, spec, items, rfl, specFound, itemsFound, mapped⟩ :=
    decodePod_layout unmarshalQuantity decoded (by rintro empty; simp [empty] at present)
  obtain ⟨old, oldFound, -⟩ := mapM_ok_getElem? _ mapped present
  have located : (Json.obj members).setAt (containerPath i) item =
      .obj (setMember members "spec"
        (.obj (setMember spec "containers" (.arr (items.set i item))))) := by
    simp [containerPath, setAt, getChild, setChild, specFound, itemsFound, parseIndex_toString,
      oldFound]
  rw [located, decodePod_setMember_spec unmarshalQuantity decoded]
  simp only [decodePodSpec, decodeContainers, lookup_setMember, if_true]
  rw [mapM_set _ mapped i itemDecoded]
  rfl

/-! ## Resources of a container -/

theorem decodeResourceList_ok {field : String} {json : Option Json} {list : ResourceList}
    (decoded : decodeResourceList unmarshalQuantity field json = .ok (some list)) :
    ∃ members, json = some (.obj members) ∧
      members.foldlM (insertMember unmarshalQuantity) ∅ = .ok list := by
  match json, decoded with
  | none, decoded | some .null, decoded => cases decoded
  | some (.obj members), decoded =>
      obtain ⟨folded, foldedOk, same⟩ := map_eq_ok.mp decoded
      exact ⟨members, rfl, Option.some.inj same ▸ foldedOk⟩
  | some (.bool _), decoded | some (.num _), decoded | some (.str _), decoded
  | some (.arr _), decoded => cases decoded

/-- Setting a member of a decoded resource list inserts its quantity. -/
theorem decodeResourceList_setMember {field : String} {members : List (String × Json)}
    {list : ResourceList}
    (decoded : decodeResourceList unmarshalQuantity field (some (.obj members)) = .ok (some list))
    (name : ResourceName) {value : Json} {q : Quantity}
    (valueDecoded : unmarshalQuantity value = .ok q) :
    decodeResourceList unmarshalQuantity field (some (.obj (setMember members name value))) =
      .ok (some (list.insert name q)) := by
  obtain ⟨_, found, folded⟩ := decodeResourceList_ok unmarshalQuantity decoded
  cases found
  simp [decodeResourceList, foldlM_insertMember_setMember _ members name folded valueDecoded]

theorem decodeResources_ok {json : Option Json} {resources : ResourceRequirements}
    (decoded : decodeResources unmarshalQuantity json = .ok resources)
    (some : resources.limits.isSome ∨ resources.requests.isSome) :
    ∃ members, json = .some (.obj members) := by
  match json, decoded with
  | none, decoded | .some .null, decoded => cases decoded; simp at some
  | .some (.obj members), _ => exact ⟨members, rfl⟩
  | .some (.bool _), decoded | .some (.num _), decoded | .some (.str _), decoded
  | .some (.arr _), decoded => cases decoded

/-- Replacing a container's `resources` replaces what they decode to. -/
theorem decodeContainer_setMember_resources {members : List (String × Json)}
    {container : Container} (decoded : decodeContainer unmarshalQuantity (.obj members) = .ok container)
    (resources : Json) :
    decodeContainer unmarshalQuantity (.obj (setMember members "resources" resources)) =
      (fun resources => { container with resources }) <$>
        decodeResources unmarshalQuantity (some resources) := by
  obtain ⟨name, nameDecoded, rest⟩ := bind_eq_ok.mp decoded
  obtain ⟨old, -, containerEq⟩ := bind_eq_ok.mp rest
  simp only [pure_eq_ok, Except.ok.injEq] at containerEq
  subst containerEq
  simp only [decodeContainer, lookup_setMember, show ("name" : String) ≠ "resources" by decide,
    if_false, if_true, nameDecoded, ok_bind]
  cases decodeResources unmarshalQuantity (some resources) <;> rfl

/-! ## Metadata -/

theorem decodeStringMap_setMember {field : String} {members : List (String × Json)}
    {map : Annotations}
    (decoded : decodeStringMap field (some (.obj members)) = .ok (some map)) (key value : String) :
    decodeStringMap field (some (.obj (setMember members key (.str value)))) =
      .ok (some (map.insert key value)) := by
  obtain ⟨folded, foldedOk, same⟩ := map_eq_ok.mp decoded
  cases Option.some.inj same
  simp [decodeStringMap, foldlM_insertMember_setMember _ members key foldedOk
    (show (decodeString field ∘ some) (.str value) = .ok value from rfl)]

/-- Replacing the `annotations` of a pod's `metadata` replaces what they decode to. -/
theorem decodePod_setAt_annotations {doc : Json} {pod : Pod}
    (decoded : decodePod unmarshalQuantity doc = .ok pod) {metadata : List (String × Json)}
    (found : doc.getAt ["metadata"] = some (.obj metadata)) (annotations : Json) :
    decodePod unmarshalQuantity
        (doc.setAt ["metadata"] (.obj (setMember metadata "annotations" annotations))) =
      (fun annotations => { pod with annotations }) <$>
        decodeStringMap "metadata.annotations" (some annotations) := by
  match doc, decoded, found with
  | .obj members, decoded, found =>
      simp only [getAt, getChild, Option.bind_eq_some, Option.some.injEq, exists_eq_right]
        at found
      obtain ⟨meta, metaDecoded, rest⟩ := bind_eq_ok.mp decoded
      obtain ⟨containers, specDecoded, podEq⟩ := bind_eq_ok.mp rest
      simp only [pure_eq_ok, Except.ok.injEq] at podEq
      subst podEq
      rw [found] at metaDecoded
      obtain ⟨name, nameDecoded, rest⟩ := bind_eq_ok.mp metaDecoded
      obtain ⟨generateName, generateNameDecoded, rest⟩ := bind_eq_ok.mp rest
      obtain ⟨«namespace», namespaceDecoded, rest⟩ := bind_eq_ok.mp rest
      obtain ⟨old, -, metaEq⟩ := bind_eq_ok.mp rest
      simp only [pure_eq_ok, Except.ok.injEq] at metaEq
      subst metaEq
      simp only [setAt, getChild, found, setChild, decodePod, decodeObjectMeta, lookup_setMember,
        if_true, show ("spec" : String) ≠ "metadata" by decide,
        show ("name" : String) ≠ "annotations" by decide,
        show ("generateName" : String) ≠ "annotations" by decide,
        show ("namespace" : String) ≠ "annotations" by decide, if_false, nameDecoded,
        generateNameDecoded, namespaceDecoded, specDecoded, ok_bind]
      cases decodeStringMap "metadata.annotations" (some annotations) <;> rfl
  | .arr _, _, found => simp [getAt, getChild, parseIndex] at found

/-- A decoded pod with annotations: its `metadata` has an `annotations` object, decoded into
them. -/
theorem decodePod_annotations {doc : Json} {pod : Pod}
    (decoded : decodePod unmarshalQuantity doc = .ok pod) {metadata : List (String × Json)}
    (found : doc.getAt ["metadata"] = some (.obj metadata)) {annotations : Annotations}
    (present : pod.annotations = some annotations) :
    ∃ members, metadata.lookup "annotations" = some (.obj members) ∧
      decodeStringMap "metadata.annotations" (some (.obj members)) = .ok (some annotations) := by
  match doc, decoded, found with
  | .obj members, decoded, found =>
      simp only [getAt, getChild, Option.bind_eq_some, Option.some.injEq, exists_eq_right]
        at found
      obtain ⟨meta, metaDecoded, rest⟩ := bind_eq_ok.mp decoded
      obtain ⟨containers, -, podEq⟩ := bind_eq_ok.mp rest
      simp only [pure_eq_ok, Except.ok.injEq] at podEq
      subst podEq
      rw [found] at metaDecoded
      obtain ⟨name, -, rest⟩ := bind_eq_ok.mp metaDecoded
      obtain ⟨generateName, -, rest⟩ := bind_eq_ok.mp rest
      obtain ⟨«namespace», -, rest⟩ := bind_eq_ok.mp rest
      obtain ⟨decodedAnnotations, annotationsDecoded, metaEq⟩ := bind_eq_ok.mp rest
      simp only [pure_eq_ok, Except.ok.injEq] at metaEq
      subst metaEq
      cases present
      match inMetadata : metadata.lookup "annotations", annotationsDecoded with
      | some (.obj annotationMembers), annotationsDecoded =>
          exact ⟨annotationMembers, rfl, annotationsDecoded⟩
      | none, annotationsDecoded | some .null, annotationsDecoded => cases annotationsDecoded
      | some (.bool _), annotationsDecoded | some (.num _), annotationsDecoded
      | some (.str _), annotationsDecoded | some (.arr _), annotationsDecoded =>
          cases annotationsDecoded
  | .arr _, _, found => simp [getAt, getChild, parseIndex] at found

/-! ## The shape the patch relies on -/

/-- A pod's JSON whose `metadata` is an object, and so is every container. -/
def PodDocument (doc : Json) : Prop :=
  (∃ metadata, doc.getAt ["metadata"] = some (.obj metadata)) ∧
    ∀ i item, doc.getAt (containerPath i) = some item → ∃ members, item = .obj members

theorem getAt_setAt_container_metadata (doc : Json) (i : Nat) (item : Json) :
    (doc.setAt (containerPath i) item).getAt ["metadata"] = doc.getAt ["metadata"] :=
  getAt_setAt_of_ne doc (by decide) (.inl (by decide)) _ _ item

theorem getAt_setAt_container_ne (doc : Json) {i j : Nat} (distinct : j ≠ i) (item : Json) :
    (doc.setAt (containerPath i) item).getAt (containerPath j) = doc.getAt (containerPath j) := by
  have indices : parseIndex (toString j) ≠ parseIndex (toString i) := by
    simp [parseIndex_toString, distinct]
  have names : toString j ≠ toString i := fun same => indices (congrArg parseIndex same)
  cases spec : doc.getChild "spec" with
  | none => simp [containerPath, setAt, spec]
  | some specJson =>
      cases containers : specJson.getChild "containers" with
      | none => simp [containerPath, setAt, spec, containers, getAt, getChild_setChild spec]
      | some containersJson =>
          simp only [containerPath, getAt_setAt_cons spec, getAt_setAt_cons containers,
            getAt_setAt_of_ne containersJson names (.inr indices)]
          simp [getAt, spec, containers]

/-- Replacing a container by an object keeps the shape. -/
theorem PodDocument.setAt_container {doc : Json} (shape : PodDocument doc) {i : Nat}
    {item : Json} (found : doc.getAt (containerPath i) = some item)
    (members : List (String × Json)) :
    PodDocument (doc.setAt (containerPath i) (.obj members)) := by
  refine ⟨by simpa [getAt_setAt_container_metadata] using shape.1, fun j other present => ?_⟩
  by_cases same : j = i
  · subst same
    rw [getAt_setAt found] at present
    exact ⟨members, (Option.some.inj present).symm⟩
  · rw [getAt_setAt_container_ne doc same] at present
    exact shape.2 j other present

end Pod

/-- One of the two maps of `v1.ResourceRequirements`: the member it is stored under, the path
its decoding errors name, and how the decoded requirements read and replace it. -/
structure ResourceField where
  name : String
  path : String
  name_plain : Json.PlainToken name
  get : ResourceRequirements → Option ResourceList
  set : ResourceRequirements → Option ResourceList → ResourceRequirements
  get_set : ∀ resources list, get (set resources list) = list
  set_get : ∀ resources, set resources (get resources) = resources
  set_set : ∀ resources first second, set (set resources first) second = set resources second
  decode_get : ∀ unmarshalQuantity members resources,
    decodeResources unmarshalQuantity (some (.obj members)) = .ok resources →
      decodeResourceList unmarshalQuantity path (members.lookup name) = .ok (get resources)
  decode_set : ∀ unmarshalQuantity members resources value,
    decodeResources unmarshalQuantity (some (.obj members)) = .ok resources →
      decodeResources unmarshalQuantity (some (.obj (setMember members name value))) =
        (set resources ·) <$> decodeResourceList unmarshalQuantity path (some value)

/-- The requests of a container. -/
def ResourceField.requests : ResourceField where
  name := "requests"
  path := "resources.requests"
  name_plain := by decide
  get := (·.requests)
  set resources list := { resources with requests := list }
  get_set _ _ := rfl
  set_get _ := rfl
  set_set _ _ _ := rfl
  decode_get unmarshalQuantity members resources decoded := by
    obtain ⟨limits, -, rest⟩ := bind_eq_ok.mp decoded
    obtain ⟨requests, requestsDecoded, resourcesEq⟩ := bind_eq_ok.mp rest
    cases resourcesEq
    exact requestsDecoded
  decode_set unmarshalQuantity members resources value decoded := by
    obtain ⟨limits, limitsDecoded, rest⟩ := bind_eq_ok.mp decoded
    obtain ⟨requests, -, resourcesEq⟩ := bind_eq_ok.mp rest
    cases resourcesEq
    simp only [decodeResources, lookup_setMember, show ("limits" : String) ≠ "requests" by decide,
      if_false, if_true, limitsDecoded, ok_bind]
    cases decodeResourceList unmarshalQuantity "resources.requests" (some value) <;> rfl

/-- The limits of a container. -/
def ResourceField.limits : ResourceField where
  name := "limits"
  path := "resources.limits"
  name_plain := by decide
  get := (·.limits)
  set resources list := { resources with limits := list }
  get_set _ _ := rfl
  set_get _ := rfl
  set_set _ _ _ := rfl
  decode_get unmarshalQuantity members resources decoded := by
    obtain ⟨limits, limitsDecoded, rest⟩ := bind_eq_ok.mp decoded
    obtain ⟨requests, -, resourcesEq⟩ := bind_eq_ok.mp rest
    cases resourcesEq
    exact limitsDecoded
  decode_set unmarshalQuantity members resources value decoded := by
    obtain ⟨limits, -, rest⟩ := bind_eq_ok.mp decoded
    obtain ⟨requests, requestsDecoded, resourcesEq⟩ := bind_eq_ok.mp rest
    cases resourcesEq
    simp only [decodeResources, lookup_setMember, show ("requests" : String) ≠ "limits" by decide,
      if_false, if_true]
    cases decodeResourceList unmarshalQuantity "resources.limits" (some value) <;>
      simp [requestsDecoded]

end VerticalPodAutoscaler.Admission
