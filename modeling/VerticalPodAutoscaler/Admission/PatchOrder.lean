import VerticalPodAutoscaler.Admission.Patches

/-!
# How the patches depend on the order of map iteration

`appendPatchesAndAnnotations` ranges over a Go map, whose iteration order is unspecified and
changes from run to run.  Two admissions of the same pod therefore build the value operations
of each requests or limits block in possibly different orders, and list the resources in the
`vpaUpdates` annotation in those orders.  Everything else agrees: the two runs fail or panic
alike, and otherwise before the annotation the two patch lists are permutations of each other,
and the annotation operation has the same path in both.
-/

namespace VerticalPodAutoscaler.Admission

open Api

/-- Two results that fail alike, panic alike, or succeed with values related by `rel`. -/
def Agree {α : Type} (rel : α → α → Prop) : GoResult α → GoResult α → Prop
  | .ok first, .ok second => rel first second
  | .error first, .error second => first = second
  | .panic first, .panic second => first = second
  | _, _ => False

theorem Agree.bind {α β : Type} {rel : α → α → Prop} {rel' : β → β → Prop}
    {first second : GoResult α} (agree : Agree rel first second)
    {next next' : α → GoResult β} (step : ∀ a b, rel a b → Agree rel' (next a) (next' b)) :
    Agree rel' (first >>= next) (second >>= next') := by
  cases first <;> cases second <;> first | exact agree | exact step _ _ agree | cases agree

theorem Agree.bind_same {α β : Type} {rel' : β → β → Prop} (first : GoResult α)
    {next next' : α → GoResult β}
    (step : ∀ a, first = .ok a → Agree rel' (next a) (next' a)) :
    Agree rel' (first >>= next) (first >>= next') := by
  cases first with
  | ok a => exact step a rfl
  | error => rfl
  | panic => rfl

theorem Agree.refl {α : Type} (result : GoResult α) : Agree Eq result result := by
  cases result <;> rfl

theorem Agree.eq {α : Type} {first second : GoResult α} (agree : Agree Eq first second) :
    first = second := by
  cases first <;> cases second <;> cases agree <;> rfl

/-- Two `range`s over the same map visit its entries in orders that are permutations of each
other. -/
theorem visit_perm (first second : MapOrder) (resources : Option ResourceList) :
    ((resources.map first.entries).getD []).Perm ((resources.map second.entries).getD []) := by
  cases resources with
  | none => rfl
  | some list => exact (first.perm list).trans (second.perm list).symm

section Orders

variable (quantityString : Quantity → String)

theorem appendPatchesAndAnnotations_perm (first second : MapOrder)
    {patches patches' : List PatchRecord} (perm : patches.Perm patches')
    (annotations annotations' : List String) (current : Option ResourceList)
    (containerIndex : Nat) (resources : Option ResourceList) (fieldName resourceName : String) :
    (appendPatchesAndAnnotations quantityString first patches annotations current containerIndex
        resources fieldName resourceName).1.Perm
      (appendPatchesAndAnnotations quantityString second patches' annotations' current
        containerIndex resources fieldName resourceName).1 := by
  simp only [appendPatchesAndAnnotations, appendResourcePatches_eq]
  split_ifs
  · exact (perm.append_right _).append ((visit_perm first second resources).map _)
  · exact perm.append ((visit_perm first second resources).map _)

/-- One container's operations under two orders are permutations of each other. -/
theorem getContainerPatch_agree (first second : RangeOrder) (pod : Pod) (i : Nat)
    (annotationsPerContainer : ContainerToAnnotationsMap)
    (containerResources : ContainerResources) :
    Agree (fun first second => first.1.Perm second.1)
      (getContainerPatch quantityString first pod i annotationsPerContainer containerResources)
      (getContainerPatch quantityString second pod i annotationsPerContainer
        containerResources) := by
  unfold getContainerPatch
  cases pod.containers[i]? with
  | none => rfl
  | some container =>
      exact appendPatchesAndAnnotations_perm quantityString _ _
        (appendPatchesAndAnnotations_perm quantityString _ _ (.refl _) _ _ _ _ _ _ _) _ _ _ _
        _ _ _

/-- The container loop under two orders: the operations are permutations of each other, one
update note per container, and no operation without a container. -/
theorem containerPatches_agree (first second : RangeOrder) (pod : Pod)
    (annotationsPerContainer : ContainerToAnnotationsMap) (i : Nat)
    (containersResources : List ContainerResources) :
    Agree (fun first second => first.1.Perm second.1 ∧ first.2.length = second.2.length ∧
        (first.2 = [] → first.1 = [] ∧ second.1 = []))
      (containerPatches quantityString first pod annotationsPerContainer i containersResources)
      (containerPatches quantityString second pod annotationsPerContainer i
        containersResources) := by
  induction containersResources generalizing i with
  | nil => exact ⟨.refl _, rfl, fun _ => ⟨rfl, rfl⟩⟩
  | cons containerResources rest ih =>
      refine (getContainerPatch_agree quantityString first second pod i _ _).bind
        fun ⟨patches, _⟩ ⟨patches', _⟩ perm => (ih (i + 1)).bind
          fun ⟨rest, notes⟩ ⟨rest', notes'⟩ ⟨restPerm, lengths, _⟩ => ?_
      exact ⟨perm.append restPerm, by simpa using lengths, by simp⟩

end Orders

theorem vpaUpdatesPatch_path (pod : Pod) (first second : String) :
    ((vpaUpdatesPatch pod first).op, (vpaUpdatesPatch pod first).path) =
      ((vpaUpdatesPatch pod second).op, (vpaUpdatesPatch pod second).path) := by
  unfold vpaUpdatesPatch
  cases pod.annotations <;> rfl

/-- Two patch lists that agree up to the iteration order of the maps: before their last
operation they are permutations of each other, and their last operations have the same op
and path. -/
def SameUpToOrder (first second : List PatchRecord) : Prop :=
  first.dropLast.Perm second.dropLast ∧
    first.getLast?.map (fun patch => (patch.op, patch.path)) =
      second.getLast?.map (fun patch => (patch.op, patch.path))

/-- Two runs of `getPatchesForPodResourceRequest` under any two orders fail or panic alike, or
agree up to the order of the operations before the last. -/
theorem getPatchesForPodResourceRequest_agree (quantityString : Quantity → String)
    (unmarshalQuantity : Json → Except String Quantity) (first second : RangeOrder)
    (recommendationProvider : RecommendationProvider) (podPreProcessor : PodPreProcessor)
    (raw : Option Json) («namespace» : String) :
    Agree SameUpToOrder
      (getPatchesForPodResourceRequest quantityString unmarshalQuantity first
        recommendationProvider podPreProcessor raw «namespace»)
      (getPatchesForPodResourceRequest quantityString unmarshalQuantity second
        recommendationProvider podPreProcessor raw «namespace») := by
  unfold getPatchesForPodResourceRequest
  refine Agree.bind_same _ fun raw _ => Agree.bind_same _ fun pod _ => Agree.bind_same _
    fun ⟨containersResources, annotationsPerContainer, vpaName⟩ _ => Agree.bind_same _
      fun pod _ => ?_
  simp only
  refine (containerPatches_agree quantityString first second pod _ 0 containersResources).bind
    fun ⟨patches, notes⟩ ⟨patches', notes'⟩ ⟨perm, lengths, empty⟩ => ?_
  dsimp only at perm lengths empty ⊢
  rw [← lengths]
  split_ifs with some
  · exact ⟨by simpa using perm, by simpa using vpaUpdatesPatch_path pod _ _⟩
  · obtain ⟨rfl, rfl⟩ := empty (List.length_eq_zero.mp (by omega))
    exact ⟨.refl _, rfl⟩

/-! ## Maps of at most one entry -/

/-- The recommended requests and limits of a container have at most one entry each. -/
def SingleEntries (containerResources : ContainerResources) : Prop :=
  (containerResources.requests.map (·.entries.length)).getD 0 ≤ 1 ∧
    (containerResources.limits.map (·.entries.length)).getD 0 ≤ 1

theorem visit_eq_pairs (order : MapOrder) {resources : Option ResourceList}
    (small : (resources.map (·.entries.length)).getD 0 ≤ 1) :
    (resources.map order.entries).getD [] = (resources.map ResourceList.pairs).getD [] := by
  cases resources with
  | none => rfl
  | some list => exact congrArg (Option.getD · []) (congrArg some (order.entries_eq_pairs small))

theorem getContainerPatch_eq_of_single (quantityString : Quantity → String)
    (first second : RangeOrder) (pod : Pod) (i : Nat)
    (annotationsPerContainer : ContainerToAnnotationsMap)
    {containerResources : ContainerResources} (single : SingleEntries containerResources) :
    getContainerPatch quantityString first pod i annotationsPerContainer containerResources =
      getContainerPatch quantityString second pod i annotationsPerContainer
        containerResources := by
  simp only [getContainerPatch, appendPatchesAndAnnotations, visit_eq_pairs _ single.1,
    visit_eq_pairs _ single.2]

theorem containerPatches_eq_of_single (quantityString : Quantity → String)
    (first second : RangeOrder) (pod : Pod)
    (annotationsPerContainer : ContainerToAnnotationsMap) (i : Nat)
    {containersResources : List ContainerResources}
    (single : ∀ containerResources ∈ containersResources, SingleEntries containerResources) :
    containerPatches quantityString first pod annotationsPerContainer i containersResources =
      containerPatches quantityString second pod annotationsPerContainer i
        containersResources := by
  induction containersResources generalizing i with
  | nil => rfl
  | cons containerResources rest ih =>
      simp only [containerPatches, List.mem_cons] at single ⊢
      rw [getContainerPatch_eq_of_single quantityString first second pod i _
        (single _ (.inl rfl)), ih _ fun other member => single other (.inr member)]

/-- When the provider recommends at most one request and one limit per container, the
iteration order does not matter. -/
theorem getPatchesForPodResourceRequest_eq_of_single (quantityString : Quantity → String)
    (unmarshalQuantity : Json → Except String Quantity) (first second : RangeOrder)
    (recommendationProvider : RecommendationProvider) (podPreProcessor : PodPreProcessor)
    (single : ∀ pod containersResources annotations vpaName,
      recommendationProvider pod = .ok (containersResources, annotations, vpaName) →
        ∀ containerResources ∈ containersResources, SingleEntries containerResources)
    (raw : Option Json) («namespace» : String) :
    getPatchesForPodResourceRequest quantityString unmarshalQuantity first
        recommendationProvider podPreProcessor raw «namespace» =
      getPatchesForPodResourceRequest quantityString unmarshalQuantity second
        recommendationProvider podPreProcessor raw «namespace» := by
  refine Agree.eq ?_
  unfold getPatchesForPodResourceRequest
  refine Agree.bind_same _ fun raw _ => Agree.bind_same _ fun pod _ => Agree.bind_same _
    fun ⟨containersResources, annotationsPerContainer, vpaName⟩ provided => ?_
  refine Agree.bind_same _ fun pod' _ => ?_
  dsimp only
  rw [containerPatches_eq_of_single quantityString first second pod' _ 0
    (single _ _ _ _ provided)]
  exact .refl _

/-- Whatever orders the `range`s over the recommended resources visit them in, two runs of
`getPatchesForPodResourceRequest` on the same pod and the same recommendation fail or panic
alike, or build patch lists that are permutations of each other before the annotation operation, which
has the same path in both; and when no container is recommended more than one request and
one limit, the two runs build the same list. -/
theorem getPatchesForPodResourceRequest_same_up_to_order (quantityString : Quantity → String)
    (unmarshalQuantity : Json → Except String Quantity) (first second : RangeOrder)
    (recommendationProvider : RecommendationProvider) (podPreProcessor : PodPreProcessor)
    (raw : Option Json) («namespace» : String) :
    Agree SameUpToOrder
        (getPatchesForPodResourceRequest quantityString unmarshalQuantity first
          recommendationProvider podPreProcessor raw «namespace»)
        (getPatchesForPodResourceRequest quantityString unmarshalQuantity second
          recommendationProvider podPreProcessor raw «namespace») ∧
      ((∀ pod containersResources annotations vpaName,
        recommendationProvider pod = .ok (containersResources, annotations, vpaName) →
          ∀ containerResources ∈ containersResources, SingleEntries containerResources) →
        getPatchesForPodResourceRequest quantityString unmarshalQuantity first
            recommendationProvider podPreProcessor raw «namespace» =
          getPatchesForPodResourceRequest quantityString unmarshalQuantity second
            recommendationProvider podPreProcessor raw «namespace») :=
  ⟨getPatchesForPodResourceRequest_agree quantityString unmarshalQuantity first second
      recommendationProvider podPreProcessor raw «namespace»,
    fun single => getPatchesForPodResourceRequest_eq_of_single quantityString unmarshalQuantity
      first second recommendationProvider podPreProcessor single raw «namespace»⟩

/-- A pod with one container, `app`, that sets no resources. -/
def webPodJson : Json :=
  .obj [("metadata", .obj [("name", .str "web")]),
    ("spec", .obj [("containers", .arr [.obj [("name", .str "app")]])])]

/-- A provider that recommends requests of 300m cpu and 200Mi memory for `app`. -/
def cpuMemoryProvider : RecommendationProvider := fun _ =>
  .ok ([⟨none, some ((AList.insert resourceCPU ⟨300000000, .decimalSI⟩ ∅).insert resourceMemory
    ⟨209715200000000000, .binarySI⟩)⟩], none, "web-vpa")

/-- Two admissions of the same pod whose `range`s visit the two requests in opposite orders
build different patch lists. -/
theorem patches_follow_iteration_order :
    ((getPatchesForPodResourceRequest Quantity.nanoString unmarshalNanoQuantity
        (fun _ _ => .stored) cpuMemoryProvider .ok (some webPodJson) "default").map
          (·.map (·.path))).toOption =
      some ["/spec/containers/0/resources", "/spec/containers/0/resources/requests",
        "/spec/containers/0/resources/requests/memory",
        "/spec/containers/0/resources/requests/cpu", "/metadata/annotations"] ∧
    ((getPatchesForPodResourceRequest Quantity.nanoString unmarshalNanoQuantity
        (fun _ _ => .reversed) cpuMemoryProvider .ok (some webPodJson) "default").map
          (·.map (·.path))).toOption =
      some ["/spec/containers/0/resources", "/spec/containers/0/resources/requests",
        "/spec/containers/0/resources/requests/cpu",
        "/spec/containers/0/resources/requests/memory", "/metadata/annotations"] := by
  constructor <;> decide

end VerticalPodAutoscaler.Admission
