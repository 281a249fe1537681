import VerticalPodAutoscaler.Limitrange.Calculator

/-!
# The recommendation provider

`recommendationProvider.GetContainersResourcesForPod` takes the VPA that controls the pod among
the VPAs of its namespace whose update mode is not `Off` and whose selector can be fetched,
processes that VPA's recommendation, and gives each container of the pod its resources: the
target of the container's recommendation as the requests, and as the limits what
`vpa_api_util.GetProportionalLimit` derives from the container's limits and requests, the
target and the limit range's default.  The result has one entry per container, in order.  The
annotations of the limits are appended to the map the processor returned, which panics when
that map is nil, and a processor that returns a nil recommendation makes the provider
dereference a nil pointer.
-/

namespace VerticalPodAutoscaler.Admission

open Api Limitrange

/-- `vpa_api_util.ContainerResources`. -/
structure ContainerResources where
  limits : Option ResourceList
  requests : Option ResourceList

/-- `vpa_api_util.GetProportionalLimit`: the limits for the original limits, the original
requests, the recommended requests and the default limits, with annotations. -/
abbrev ProportionalLimit :=
  Option ResourceList → Option ResourceList → Option ResourceList → Option ResourceList →
    Option ResourceList × List String

/-- `vpa_api_util.VpaWithSelector`. -/
structure VpaWithSelector (Selector : Type) where
  vpa : VerticalPodAutoscaler
  selector : Option Selector

/-- The functions of `vpa_api_util` that the provider calls, absent from the source:
`GetUpdateMode`, `GetControllingVPAForPod` and `GetProportionalLimit`. -/
structure VpaApiUtil (Selector : Type) where
  getUpdateMode : VerticalPodAutoscaler → UpdateMode
  getControllingVPAForPod :
    Pod → List (VpaWithSelector Selector) → Option (VpaWithSelector Selector)
  getProportionalLimit : ProportionalLimit

/-! ## The resources of each container -/

/-- The body of the loop of `GetContainersResources` for one container: its resources, and the
annotations of its limits. -/
def getContainerResources (getProportionalLimit : ProportionalLimit)
    (podRecommendation : RecommendedPodResources) (limitRange : Option LimitRangeItem)
    (container : Container) : ContainerResources × List String :=
  match getRecommendationForContainer container.name (some podRecommendation) with
  | none => (⟨none, none⟩, [])
  | some recommendation =>
      let defaultLimit := match limitRange with
        | none => some ∅
        | some limitRange => limitRange.default
      match getProportionalLimit container.resources.limits container.resources.requests
          (some recommendation.target) defaultLimit with
      | (none, _) => (⟨none, some recommendation.target⟩, [])
      | (some proportionalLimits, limitAnnotations) =>
          (⟨some proportionalLimits, some recommendation.target⟩, limitAnnotations)

/-- `annotations[name] = append(annotations[name], more...)`, skipped when there is nothing to
append; assigning to a nil map panics. -/
def appendContainerAnnotations (annotations : Option ContainerToAnnotationsMap)
    (name : String) (more : List String) : GoResult (Option ContainerToAnnotationsMap) :=
  if more.isEmpty then .ok annotations
  else
    match annotations with
    | none => .panic assignmentToEntryInNilMap
    | some map => .ok (some (map.insert name ((map.lookup name).getD [] ++ more)))

section Resources

variable (getProportionalLimit : ProportionalLimit) (podRecommendation : RecommendedPodResources)
  (limitRange : Option LimitRangeItem)

/-- One pass of the loop of `GetContainersResources`: the container's entry is appended, and
its limits' annotations are added to the map. -/
def appendContainerResources
    (acc : List ContainerResources × Option ContainerToAnnotationsMap) (container : Container) :
    GoResult (List ContainerResources × Option ContainerToAnnotationsMap) := do
  let (containerResources, limitAnnotations) :=
    getContainerResources getProportionalLimit podRecommendation limitRange container
  let annotations ← appendContainerAnnotations acc.2 container.name limitAnnotations
  pure (acc.1 ++ [containerResources], annotations)

/-- `GetContainersResources`: the resources of every container, in order, and the annotation
map it appended to, which the caller sees since Go maps are shared. -/
def getContainersResources (pod : Pod) (annotations : Option ContainerToAnnotationsMap) :
    GoResult (List ContainerResources × Option ContainerToAnnotationsMap) :=
  pod.containers.foldlM
    (appendContainerResources getProportionalLimit podRecommendation limitRange) ([], annotations)

/-- An entry of `GetContainersResources`: empty for a container without a recommendation, and
otherwise the target of one of the recommendations as its requests, with the limits that
`GetProportionalLimit` derives for that target, if any. -/
def RecommendedEntry (containerResources : ContainerResources) : Prop :=
  (containerResources.requests = none ∧ containerResources.limits = none) ∨
    ∃ recommendation ∈ podRecommendation.containerRecommendations,
      containerResources.requests = some recommendation.target ∧
      ∀ limits ∈ containerResources.limits, ∃ originalLimits originalRequests defaultLimit
        limitAnnotations, getProportionalLimit originalLimits originalRequests
          (some recommendation.target) defaultLimit = (some limits, limitAnnotations)

theorem getContainerResources_entry (container : Container) :
    RecommendedEntry getProportionalLimit podRecommendation
      (getContainerResources getProportionalLimit podRecommendation limitRange container).1 := by
  unfold getContainerResources
  cases found : getRecommendationForContainer container.name (some podRecommendation) with
  | none => exact .inl ⟨rfl, rfl⟩
  | some recommendation =>
      have member : recommendation ∈ podRecommendation.containerRecommendations :=
        List.mem_of_find?_eq_some found
      dsimp only
      split
      · exact .inr ⟨_, member, rfl, nofun⟩
      · rename_i limited
        exact .inr ⟨_, member, rfl, fun _ same => ⟨_, _, _, _, (Option.some.inj same) ▸ limited⟩⟩

/-- The annotations of a container without a recommendation are empty. -/
theorem getContainerResources_annotations_of_none {container : Container}
    (none : getRecommendationForContainer container.name (some podRecommendation) = none) :
    (getContainerResources getProportionalLimit podRecommendation limitRange container).2 = [] := by
  simp [getContainerResources, none]

/-- Appending to a map that is not nil, or appending nothing, does not panic, and keeps a map
that was not nil. -/
theorem appendContainerAnnotations_ok {annotations : Option ContainerToAnnotationsMap}
    {more : List String} (safe : annotations.isSome ∨ more = []) (name : String) :
    ∃ updated, appendContainerAnnotations annotations name more = .ok updated ∧
      (annotations.isSome → updated.isSome) := by
  unfold appendContainerAnnotations
  cases more with
  | nil => exact ⟨_, rfl, id⟩
  | cons note notes =>
      obtain ⟨map, rfl⟩ := Option.isSome_iff_exists.mp (safe.resolve_right (List.cons_ne_nil _ _))
      exact ⟨_, rfl, fun _ => rfl⟩

/-- The loop from any accumulator: one entry per container is appended, each a recommended
entry. -/
theorem foldlM_appendContainerResources (containers : List Container)
    {acc result : List ContainerResources × Option ContainerToAnnotationsMap}
    (done : containers.foldlM (appendContainerResources getProportionalLimit podRecommendation
      limitRange) acc = .ok result) :
    result.1.length = acc.1.length + containers.length ∧
      ∀ entry ∈ result.1, entry ∈ acc.1 ∨ RecommendedEntry getProportionalLimit podRecommendation entry := by
  induction containers generalizing acc with
  | nil =>
      cases done
      exact ⟨rfl, fun _ member => .inl member⟩
  | cons container rest ih =>
      rw [List.foldlM_cons] at done
      obtain ⟨next, step, more⟩ := GoResult.bind_eq_ok.mp done
      obtain ⟨lengths, entries⟩ := ih more
      obtain ⟨annotations, -, appended⟩ := GoResult.bind_eq_ok.mp step
      cases appended
      refine ⟨by simp [lengths]; omega, fun entry member => ?_⟩
      rcases entries entry member with old | recommended
      · simp only [List.mem_append, List.mem_singleton] at old
        rcases old with old | rfl
        · exact .inl old
        · exact .inr (getContainerResources_entry _ _ _ _)
      · exact .inr recommended

/-- The loop does not panic when the map is not nil, or when no container has a
recommendation. -/
theorem foldlM_appendContainerResources_ok (containers : List Container)
    (acc : List ContainerResources × Option ContainerToAnnotationsMap)
    (safe : acc.2.isSome ∨ podRecommendation.containerRecommendations = []) :
    ∃ result, containers.foldlM (appendContainerResources getProportionalLimit podRecommendation
      limitRange) acc = .ok result := by
  induction containers generalizing acc with
  | nil => exact ⟨acc, rfl⟩
  | cons container rest ih =>
      have noted : acc.2.isSome ∨
          (getContainerResources getProportionalLimit podRecommendation limitRange container).2 = [] :=
        safe.imp_right fun empty => getContainerResources_annotations_of_none _ _ _ (by
          simp [getRecommendationForContainer, empty])
      obtain ⟨annotations, appended, kept⟩ := appendContainerAnnotations_ok noted container.name
      have next := ih (acc.1 ++ [(getContainerResources getProportionalLimit
        podRecommendation limitRange container).1], annotations) (safe.imp_left kept)
      simpa [List.foldlM_cons, appendContainerResources, appended] using next

end Resources

/-! ## The provider -/

/-- `RecommendationProvider`, an interface, by its `GetContainersResourcesForPod`: the resources
of each container, the annotations per container and the VPA's name. -/
abbrev RecommendationProvider :=
  Pod → GoResult (List ContainerResources × Option ContainerToAnnotationsMap × String)

section Provider

variable {Selector : Type} (vpaApiUtil : VpaApiUtil Selector)
  (limitsRangeCalculator : LimitRangeCalculator) (recommendationProcessor : RecommendationProcessor)
  (selectorFetcher : VerticalPodAutoscaler → Except String (Option Selector))
  (vpaLister : String → Except String (List VerticalPodAutoscaler))

/-- `recommendationProvider.getMatchingVPA`: the controlling VPA among those of the pod's
namespace whose update mode is not `Off` and whose selector can be fetched; none when the
lister fails. -/
def getMatchingVPA (pod : Pod) : Option VerticalPodAutoscaler :=
  match vpaLister pod.«namespace» with
  | .error _ => none
  | .ok configs =>
      let onConfigs := configs.filterMap fun vpaConfig =>
        if vpaApiUtil.getUpdateMode vpaConfig = updateModeOff then none
        else
          match selectorFetcher vpaConfig with
          | .error _ => none
          | .ok selector => some ⟨vpaConfig, selector⟩
      (vpaApiUtil.getControllingVPAForPod pod onConfigs).map (·.vpa)

/-- The processed recommendation and the annotations: an empty recommendation and a nil map
when the VPA has no recommendation. -/
def processRecommendation (pod : Pod) (vpaConfig : VerticalPodAutoscaler) :
    Except String (Option RecommendedPodResources × Option ContainerToAnnotationsMap) :=
  match vpaConfig.status.recommendation with
  | none => .ok (some ⟨[]⟩, none)
  | some recommendation =>
      recommendationProcessor (some recommendation) vpaConfig.resourcePolicy
        vpaConfig.status.conditions pod

/-- `recommendationProvider.GetContainersResourcesForPod`: nothing when no VPA matches. -/
def getContainersResourcesForPod (pod : Pod) :
    GoResult (List ContainerResources × Option ContainerToAnnotationsMap × String) :=
  match getMatchingVPA vpaApiUtil selectorFetcher vpaLister pod with
  | none => .ok ([], none, "")
  | some vpaConfig => do
      let (recommendedPodResources, annotations) ←
        processRecommendation recommendationProcessor pod vpaConfig
      let containerLimitRange ← (limitsRangeCalculator.getContainerLimitRangeItem
        pod.«namespace»).mapError ("error getting containerLimitRange: " ++ ·)
      let recommendedPodResources ← GoResult.dereference recommendedPodResources
      let (containerResources, annotations) ←
        getContainersResources vpaApiUtil.getProportionalLimit recommendedPodResources
          containerLimitRange pod annotations
      pure (containerResources, annotations, vpaConfig.name)

/-- `NewRecommendationProvider`: the provider, by its `GetContainersResourcesForPod`. -/
def newRecommendationProvider : RecommendationProvider :=
  getContainersResourcesForPod vpaApiUtil limitsRangeCalculator recommendationProcessor
    selectorFetcher vpaLister

/-- What the provider returns: no entry when no VPA matches, and otherwise one entry per
container, each a recommended entry of the recommendation the matching VPA's processing gave. -/
theorem getContainersResourcesForPod_entries {pod : Pod}
    {containersResources : List ContainerResources}
    {annotations : Option ContainerToAnnotationsMap} {vpaName : String}
    (provided : getContainersResourcesForPod vpaApiUtil limitsRangeCalculator
      recommendationProcessor selectorFetcher vpaLister pod =
        .ok (containersResources, annotations, vpaName)) :
    containersResources.length ≤ pod.containers.length ∧
      (containersResources = [] ∨ ∃ vpaConfig processed processedAnnotations,
        getMatchingVPA vpaApiUtil selectorFetcher vpaLister pod = some vpaConfig ∧
        processRecommendation recommendationProcessor pod vpaConfig =
          .ok (some processed, processedAnnotations) ∧
        ∀ entry ∈ containersResources,
          RecommendedEntry vpaApiUtil.getProportionalLimit processed entry) := by
  unfold getContainersResourcesForPod at provided
  split at provided
  · cases provided
    simp
  · rename_i vpaConfig matching
    obtain ⟨⟨recommended, processedAnnotations⟩, processed, rest⟩ :=
      GoResult.bind_eq_ok.mp provided
    obtain ⟨containerLimitRange, -, rest⟩ := GoResult.bind_eq_ok.mp rest
    obtain ⟨recommendedPodResources, dereferenced, rest⟩ := GoResult.bind_eq_ok.mp rest
    obtain ⟨⟨entries, entryAnnotations⟩, built, same⟩ := GoResult.bind_eq_ok.mp rest
    cases recommended with
    | none => cases dereferenced
    | some processedRecommendation =>
        cases dereferenced
        simp only [GoResult.pure_eq_ok, GoResult.ok.injEq, Prod.mk.injEq] at same
        obtain ⟨rfl, -⟩ := same
        obtain ⟨lengths, recommendedEntries⟩ :=
          foldlM_appendContainerResources _ _ _ pod.containers built
        exact ⟨by simp [lengths], .inr ⟨vpaConfig, _, _, matching, GoResult.lift_eq_ok.mp processed,
          fun entry member => (recommendedEntries entry member).resolve_left (List.not_mem_nil _)⟩⟩

/-- The provider panics only through its processor: when the processor returns a recommendation
and an annotation map whenever it succeeds, the provider never panics. -/
theorem getContainersResourcesForPod_ne_panic
    (processes : ∀ recommendation policy conditions pod processed annotations,
      recommendationProcessor (some recommendation) policy conditions pod =
          .ok (processed, annotations) →
        processed.isSome ∧ annotations.isSome)
    (pod : Pod) (message : String) :
    getContainersResourcesForPod vpaApiUtil limitsRangeCalculator recommendationProcessor
      selectorFetcher vpaLister pod ≠ .panic message := by
  unfold getContainersResourcesForPod
  cases getMatchingVPA vpaApiUtil selectorFetcher vpaLister pod with
  | none => nofun
  | some vpaConfig =>
      cases processed : processRecommendation recommendationProcessor pod vpaConfig with
      | error err => simp [processed]
      | ok result =>
          obtain ⟨recommendedPodResources, annotations⟩ := result
          obtain ⟨podRecommendation, rfl, safe⟩ : ∃ podRecommendation,
              recommendedPodResources = some podRecommendation ∧
              (annotations.isSome ∨ podRecommendation.containerRecommendations = []) := by
            unfold processRecommendation at processed
            split at processed
            · cases processed
              exact ⟨_, rfl, .inr rfl⟩
            · obtain ⟨some, annotated⟩ := processes _ _ _ _ _ _ processed
              obtain ⟨podRecommendation, rfl⟩ := Option.isSome_iff_exists.mp some
              exact ⟨_, rfl, .inl annotated⟩
          cases limits : limitsRangeCalculator.getContainerLimitRangeItem pod.«namespace» with
          | error err => simp [processed, limits, Except.mapError]
          | ok containerLimitRange =>
              obtain ⟨result, built⟩ := foldlM_appendContainerResources_ok
                vpaApiUtil.getProportionalLimit podRecommendation containerLimitRange
                pod.containers ([], annotations) safe
              simp [processed, limits, Except.mapError, GoResult.dereference, getContainersResources,
                built]

end Provider

end VerticalPodAutoscaler.Admission
