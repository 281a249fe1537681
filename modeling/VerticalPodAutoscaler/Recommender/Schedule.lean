import Mathlib.Data.List.Chain
import VerticalPodAutoscaler.Recommender.Routines

/-!
# What the recommender's runs do

Every step of `RunOnce` is described once, by the calls it appends and the fields it changes;
the properties of whole runs follow.  A run loads the cluster state, and sends one status
update per observed object that the model has a `Vpa` for, whatever the collaborators answer:
the status of that `Vpa` once it holds the capped recommendation and its matching-pods
condition.  It stores checkpoints once per tick under the tick's deadline when checkpoints are
in use, and garbage collects the aggregate container states: from the recommender's creation
on, the collections are more than an hour apart, and none is ever more than an hour overdue
when a run ends.  `UpdateVPAs` keeps the keys of the model's `Vpa`s and stores under each
observed one the `Vpa` whose status it sends.  Over the recommender's life the `storage` flag
decides the checkpoint calls: one store per tick, or none with `prometheus`.
-/

namespace VerticalPodAutoscaler.Recommender

open Api

/-! ## Kinds of calls -/

namespace Action

/-- The time of a garbage collection of the aggregate container states. -/
def collectionTime : Action → Option Time
  | .garbageCollectAggregateCollectionStates now => some now
  | _ => none

/-- The VPA and the observed status of a status update. -/
def statusUpdate : Action → Option (VpaID × VerticalPodAutoscalerStatus)
  | .updateVpaStatusIfNeeded vpaID _ oldStatus => some (vpaID, oldStatus)
  | _ => none

/-- A status update. -/
def isStatusUpdate : Action → Bool
  | .updateVpaStatusIfNeeded .. => true
  | _ => false

/-- A call to the checkpoint writer or the checkpoint garbage collection. -/
def isCheckpointCall : Action → Bool
  | .storeCheckpoints .. | .garbageCollectCheckpoints => true
  | _ => false

end Action

/-- The times of the garbage collections of the aggregate container states. -/
def collectionTimes (actions : List Action) : List Time :=
  actions.filterMap Action.collectionTime

/-- The VPA and observed status of each status update. -/
def statusUpdates (actions : List Action) : List (VpaID × VerticalPodAutoscalerStatus) :=
  actions.filterMap Action.statusUpdate

@[simp]
theorem collectionTimes_append (first rest : List Action) :
    collectionTimes (first ++ rest) = collectionTimes first ++ collectionTimes rest :=
  List.filterMap_append _ _ _

@[simp]
theorem statusUpdates_append (first rest : List Action) :
    statusUpdates (first ++ rest) = statusUpdates first ++ statusUpdates rest :=
  List.filterMap_append _ _ _

theorem collectionTimes_eq_nil {actions : List Action}
    (none : ∀ a ∈ actions, a.collectionTime = none) : collectionTimes actions = [] :=
  List.filterMap_eq_nil_iff.mpr none

theorem collectionTime_of_isStatusUpdate {a : Action} (update : a.isStatusUpdate) :
    a.collectionTime = none := by
  cases a <;> simp_all [Action.isStatusUpdate, Action.collectionTime]

/-! ## Capping -/

section Capping

variable {ρ : Type} (resourcesAsResourceList : ρ → ResourceList)

/-- Each entry of a `range` is an entry of the map. -/
theorem MapRange.lookup_of_mem {β : Type} (order : MapRange β) {map : AList fun _ : String => β}
    {name : String} {value : β} (member : (name, value) ∈ order.entries map) :
    map.lookup name = some value := by
  obtain ⟨entry, inMap, same⟩ := List.mem_map.mp ((order.perm map).subset member)
  cases same
  exact AList.mem_lookup_iff.mpr inMap

/-- `getCappedRecommendation` returns what the policy makes of the uncapped recommendation, or
that recommendation when the policy fails.  The uncapped recommendation has one container
recommendation per estimate, named like its container, with the estimate's target and bounds
as resource lists and an uncapped target equal to its target. -/
theorem getCappedRecommendation_spec
    (applyVPAPolicy : Option RecommendedPodResources → Option PodResourcePolicy →
      Except String (Option RecommendedPodResources))
    (order : MapRange (Logic.RecommendedContainerResources ρ))
    (resources : Logic.RecommendedPodResources ρ) (policy : Option PodResourcePolicy) :
    let recommendation := uncappedRecommendation resourcesAsResourceList order resources
    (recommendation.containerRecommendations.map (·.containerName)).Perm resources.keys ∧
      (∀ containerRecommendation ∈ recommendation.containerRecommendations,
        ∃ estimate, resources.lookup containerRecommendation.containerName = some estimate ∧
          containerRecommendation.target = resourcesAsResourceList estimate.target ∧
          containerRecommendation.lowerBound = resourcesAsResourceList estimate.lowerBound ∧
          containerRecommendation.upperBound = resourcesAsResourceList estimate.upperBound ∧
          containerRecommendation.uncappedTarget = containerRecommendation.target) ∧
      getCappedRecommendation resourcesAsResourceList applyVPAPolicy order resources policy =
        match applyVPAPolicy (some recommendation) policy with
        | .ok cappedRecommendation => cappedRecommendation
        | .error _ => some recommendation := by
  refine ⟨?_, fun containerRecommendation member => ?_, rfl⟩
  · have names := (order.perm resources).map Prod.fst
    simpa [uncappedRecommendation, List.map_map, Function.comp_def, AList.keys, List.keys]
      using names
  · obtain ⟨⟨name, estimate⟩, visited, rfl⟩ := List.mem_map.mp member
    exact ⟨estimate, order.lookup_of_mem visited, rfl, rfl, rfl, rfl⟩

end Capping

section Loop

variable {ν κ α ρ : Type} (c : Collaborators ν κ α ρ) (clock : Nat → Time)
  (orders : Nat → MapRange (Logic.RecommendedContainerResources ρ))

/-! ## One step at a time -/

/-- One iteration of `UpdateVPAs` keeps the recommender's fields and appends at most a status
update. -/
theorem updateVPA_frame (w : World ν κ) (observedVpa : VerticalPodAutoscaler) :
    (updateVPA c clock orders w observedVpa).recommender = w.recommender ∧
      ∃ updates, (updateVPA c clock orders w observedVpa).actions = w.actions ++ updates ∧
        ∀ a ∈ updates, a.isStatusUpdate := by
  simp only [updateVPA]
  cases w.clusterState.vpas.lookup (vpaKey observedVpa) with
  | none => exact ⟨rfl, [], by simp, by simp⟩
  | some vpa => exact ⟨rfl, _, rfl, by simp [Action.isStatusUpdate]⟩

/-- `UpdateVPAs` keeps the recommender's fields and appends only status updates. -/
theorem updateVPAs_frame (w : World ν κ) :
    (updateVPAs c clock orders w).recommender = w.recommender ∧
      ∃ updates, (updateVPAs c clock orders w).actions = w.actions ++ updates ∧
        ∀ a ∈ updates, a.isStatusUpdate := by
  unfold updateVPAs
  induction w.clusterState.observedVpas generalizing w with
  | nil => exact ⟨rfl, [], by simp, by simp⟩
  | cons observedVpa rest ih =>
      obtain ⟨sameState, first, appended, firstUpdates⟩ :=
        updateVPA_frame c clock orders w observedVpa
      obtain ⟨sameState', more, appended', moreUpdates⟩ :=
        ih (updateVPA c clock orders w observedVpa)
      refine ⟨sameState'.trans sameState, first ++ more, ?_, ?_⟩
      · rw [List.foldl_cons, appended', appended, List.append_assoc]
      · simpa [or_imp, forall_and] using And.intro firstUpdates moreUpdates

section Ids

variable (keepsId : ∀ vpa recommendation matching,
  c.id (c.updateConditions (c.updateRecommendation vpa recommendation) matching) = c.id vpa)

include keepsId

/-- One iteration of `UpdateVPAs` sends the status update of its object, against the object's
own status, when the model has a `Vpa` for it; the ids of the model's `Vpa`s stay. -/
theorem updateVPA_statusUpdates (w : World ν κ) (observedVpa : VerticalPodAutoscaler) :
    (∀ key, ((updateVPA c clock orders w observedVpa).clusterState.vpas.lookup key).map c.id =
      (w.clusterState.vpas.lookup key).map c.id) ∧
      statusUpdates (updateVPA c clock orders w observedVpa).actions = statusUpdates w.actions ++
        ((w.clusterState.vpas.lookup (vpaKey observedVpa)).map
          fun vpa => (c.id vpa, observedVpa.status)).toList := by
  simp only [updateVPA]
  cases found : w.clusterState.vpas.lookup (vpaKey observedVpa) with
  | none => exact ⟨fun _ => rfl, by simp⟩
  | some vpa =>
      refine ⟨fun key => ?_, ?_⟩
      · by_cases same : key = vpaKey observedVpa
        · subst same
          simp [World.now, found, keepsId]
        · simp [World.now, AList.lookup_insert_ne same]
      · simp [World.now, statusUpdates, Action.statusUpdate, keepsId]

/-- `UpdateVPAs` sends one status update per observed object that the model has a `Vpa` for, in
order, each against the object's own status, whatever the cluster state records. -/
theorem updateVPAs_statusUpdates (w : World ν κ) :
    statusUpdates (updateVPAs c clock orders w).actions = statusUpdates w.actions ++
      w.clusterState.observedVpas.filterMap fun observedVpa =>
        (w.clusterState.vpas.lookup (vpaKey observedVpa)).map
          fun vpa => (c.id vpa, observedVpa.status) := by
  unfold updateVPAs
  induction w.clusterState.observedVpas generalizing w with
  | nil => simp
  | cons observedVpa rest ih =>
      obtain ⟨sameIds, firstStatus⟩ :=
        updateVPA_statusUpdates c clock orders keepsId w observedVpa
      have sameUpdates : ∀ other : VerticalPodAutoscaler,
          ((updateVPA c clock orders w observedVpa).clusterState.vpas.lookup (vpaKey other)).map
            (fun vpa => (c.id vpa, other.status)) =
          (w.clusterState.vpas.lookup (vpaKey other)).map fun vpa => (c.id vpa, other.status) :=
        fun other => by
          simpa only [Option.map_map, Function.comp_def] using
            congrArg (Option.map (·, other.status)) (sameIds (vpaKey other))
      rw [List.foldl_cons, ih, firstStatus, List.filterMap_cons, List.append_assoc]
      simp only [sameUpdates]
      cases w.clusterState.vpas.lookup (vpaKey observedVpa) <;> rfl

end Ids

/-- `MaintainCheckpoints` reads the clock once, and with checkpoints in use stores them and
reads it again; it leaves the time of the last aggregate collection. -/
theorem maintainCheckpoints_effect (deadline : Time) (minCheckpointsPerRun : Int)
    (w : World ν κ) :
    let w' := maintainCheckpoints clock deadline minCheckpointsPerRun w
    w'.recommender.lastAggregateContainerStateGC = w.recommender.lastAggregateContainerStateGC ∧
      w'.actions = w.actions ++
        if w.recommender.useCheckpoints then
          .storeCheckpoints deadline (clock w.readings) minCheckpointsPerRun ::
            if w.recommender.checkpointsGCInterval < (clock (w.readings + 1)).sub
                w.recommender.lastCheckpointGC then [.garbageCollectCheckpoints] else []
        else [] := by
  simp only [maintainCheckpoints, World.now]
  by_cases use : w.recommender.useCheckpoints
  · simp only [use, if_true]
    split_ifs <;> simp [use]
  · simp [use]

/-- `GarbageCollect` reads the clock once and collects when the reading is more than an hour
past the last collection, which it then records. -/
theorem garbageCollect_effect (w : World ν κ) :
    let w' := garbageCollect c clock w
    let due := aggregateContainerStateGCInterval <
      (clock w.readings).sub w.recommender.lastAggregateContainerStateGC
    w'.readings = w.readings + 1 ∧
      w'.recommender.lastAggregateContainerStateGC =
        (if due then clock w.readings else w.recommender.lastAggregateContainerStateGC) ∧
      w'.actions = w.actions ++
        if due then [.garbageCollectAggregateCollectionStates (clock w.readings)] else [] := by
  simp only [garbageCollect, World.now]
  split_ifs <;> simp [*]

/-! ## One run -/

/-- `RunOnce` reads the clock to set its deadline, loads the cluster state and goes through
its three phases. -/
theorem runOnce_eq (flags : Flags) (w : World ν κ) :
    runOnce c clock orders flags w =
      garbageCollect c clock (maintainCheckpoints clock
        ((clock w.readings).add flags.checkpointsWriteTimeout) flags.minCheckpointsPerRun
        (updateVPAs c clock orders
          { w with
            readings := w.readings + 1
            clusterState := c.loadRealTimeMetrics (c.loadPods (c.loadVPAs w.clusterState))
            actions := w.actions ++ [.loadVPAs, .loadPods, .loadRealTimeMetrics] })) := by
  simp [runOnce, World.now, load]

/-- The calls of one run, in order: the three loads, the status updates, the checkpoint calls
(only with checkpoints in use: a store under the deadline set at the start, with the flag's
minimum, and maybe a checkpoint collection), and at most one aggregate collection. -/
theorem runOnce_calls (keepsId : ∀ vpa recommendation matching,
      c.id (c.updateConditions (c.updateRecommendation vpa recommendation) matching) = c.id vpa)
    (flags : Flags) (w : World ν κ) :
    let loaded := c.loadRealTimeMetrics (c.loadPods (c.loadVPAs w.clusterState))
    ∃ updates checkpointing collecting,
      (runOnce c clock orders flags w).actions = w.actions ++
        [.loadVPAs, .loadPods, .loadRealTimeMetrics] ++ updates ++ checkpointing ++ collecting ∧
      (∀ a ∈ updates, a.isStatusUpdate) ∧
      statusUpdates updates = loaded.observedVpas.filterMap (fun observedVpa =>
        (loaded.vpas.lookup (vpaKey observedVpa)).map fun vpa => (c.id vpa, observedVpa.status)) ∧
      (∃ now, ∃ collects : Bool, checkpointing =
        if w.recommender.useCheckpoints then
          .storeCheckpoints ((clock w.readings).add flags.checkpointsWriteTimeout) now
            flags.minCheckpointsPerRun :: if collects then [.garbageCollectCheckpoints] else []
        else []) ∧
      ∃ collected : Option Time,
        collecting = collected.toList.map .garbageCollectAggregateCollectionStates := by
  intro loaded
  rw [runOnce_eq]
  generalize loadedWorld : ({ w with
    readings := w.readings + 1
    clusterState := loaded
    actions := w.actions ++ [.loadVPAs, .loadPods, .loadRealTimeMetrics] } : World ν κ) = w₁
  have statuses := updateVPAs_statusUpdates c clock orders keepsId w₁
  obtain ⟨sameState, updates, updated, onlyUpdates⟩ := updateVPAs_frame c clock orders w₁
  generalize updateVPAs c clock orders w₁ = w₂ at statuses sameState updated
  obtain ⟨-, checkpointed⟩ := maintainCheckpoints_effect clock
    ((clock w.readings).add flags.checkpointsWriteTimeout) flags.minCheckpointsPerRun w₂
  generalize maintainCheckpoints clock _ _ w₂ = w₃ at checkpointed
  obtain ⟨-, -, collected⟩ := garbageCollect_effect c clock w₃
  subst loadedWorld
  refine ⟨updates, _, _, by rw [collected, checkpointed, updated, List.append_assoc],
    onlyUpdates, ?_, ⟨clock w₂.readings, decide (w₂.recommender.checkpointsGCInterval <
      (clock (w₂.readings + 1)).sub w₂.recommender.lastCheckpointGC), by simp [sameState]⟩,
    ?_⟩
  · simpa [updated] using statuses
  · split_ifs
    · exact ⟨some _, rfl⟩
    · exact ⟨none, rfl⟩

/-- A recommender whose model `Vpa` is its id and whose collaborators change nothing. -/
def idleCollaborators : Collaborators VpaID Unit Unit Unit where
  loadVPAs := fun state => state
  loadPods := fun state => state
  loadRealTimeMetrics := fun state => state
  getContainerNameToAggregateStateMap := fun _ => ()
  getRecommendedPodResources := fun _ => ∅
  resourcesAsResourceList := fun _ => ∅
  applyVPAPolicy := fun recommendation _ => .ok recommendation
  id := fun vpa => vpa
  updateRecommendation := fun vpa _ => vpa
  updateConditions := fun vpa _ => vpa
  asStatus := fun _ => ⟨none, []⟩
  recordRecommendation := fun rest _ _ => rest
  garbageCollectAggregateCollectionStates := fun state _ => state

/-- The observed `web-vpa` object, with no status. -/
def webVpa : VerticalPodAutoscaler := ⟨"web-vpa", "default", none, none, none, none, []⟩

/-- A recommender with checkpoints in use that observes `web-vpa` and models it. -/
def webWorld : World VpaID Unit :=
  { recommender := ⟨600000000000, ⟨0⟩, true, ⟨0⟩⟩
    clusterState := ⟨[webVpa], AList.insert (vpaKey webVpa) (vpaKey webVpa) ∅, ∅, ()⟩
    readings := 0
    ranges := 0
    actions := [] }

/-- A run of the `web-vpa` recommender, reading a minute per reading. -/
theorem webWorld_runOnce_calls :
    (∀ vpa recommendation matching, idleCollaborators.id (idleCollaborators.updateConditions
      (idleCollaborators.updateRecommendation vpa recommendation) matching) =
        idleCollaborators.id vpa) ∧
    let clock : Nat → Time := fun n => ⟨n * 60000000000⟩
    let loaded := idleCollaborators.loadRealTimeMetrics
      (idleCollaborators.loadPods (idleCollaborators.loadVPAs webWorld.clusterState))
    ∃ updates checkpointing collecting,
      (runOnce idleCollaborators clock (fun _ => .stored) defaultFlags webWorld).actions =
        webWorld.actions ++ [.loadVPAs, .loadPods, .loadRealTimeMetrics] ++ updates ++
          checkpointing ++ collecting ∧
      (∀ a ∈ updates, a.isStatusUpdate) ∧
      statusUpdates updates = loaded.observedVpas.filterMap (fun observedVpa =>
        (loaded.vpas.lookup (vpaKey observedVpa)).map
          fun vpa => (idleCollaborators.id vpa, observedVpa.status)) ∧
      (∃ now, ∃ collects : Bool, checkpointing =
        if webWorld.recommender.useCheckpoints then
          .storeCheckpoints ((clock webWorld.readings).add defaultFlags.checkpointsWriteTimeout)
            now defaultFlags.minCheckpointsPerRun ::
              if collects then [.garbageCollectCheckpoints] else []
        else []) ∧
      ∃ collected : Option Time,
        collecting = collected.toList.map .garbageCollectAggregateCollectionStates :=
  ⟨fun _ _ _ => rfl, runOnce_calls idleCollaborators (fun n => ⟨n * 60000000000⟩)
    (fun _ => .stored) (fun _ _ _ => rfl) defaultFlags webWorld⟩

/-! ## What the status updates say -/

/-- The model `Vpa` that one iteration of `UpdateVPAs` makes for an observed object: the
recommendation of its aggregate states, capped under the object's resource policy with the
estimates visited in `order`, and its conditions set from whether it has matching pods. -/
def recommendedVpa (order : MapRange (Logic.RecommendedContainerResources ρ))
    (vpasWithMatchingPods : AList fun _ : VpaID => Bool) (observedVpa : VerticalPodAutoscaler)
    (vpa : ν) : ν :=
  let vpa := c.updateRecommendation vpa (getCappedRecommendation c.resourcesAsResourceList
    c.applyVPAPolicy order
    (c.getRecommendedPodResources (c.getContainerNameToAggregateStateMap vpa))
    observedVpa.resourcePolicy)
  c.updateConditions vpa ((vpasWithMatchingPods.lookup (c.id vpa)).getD false)

/-- The status update sent for an observed object whose model `Vpa` becomes `vpa`. -/
def statusUpdateOf (observedVpa : VerticalPodAutoscaler) (vpa : ν) : Action :=
  .updateVpaStatusIfNeeded (c.id vpa) (c.asStatus vpa) observedVpa.status

/-- An iteration for an object the model has a `Vpa` for sends that `Vpa`'s recommended status,
uses one map order, and stores the recommended `Vpa` under the object's key. -/
theorem updateVPA_found (w : World ν κ) (observedVpa : VerticalPodAutoscaler) {vpa : ν}
    (found : w.clusterState.vpas.lookup (vpaKey observedVpa) = some vpa) :
    let updated := recommendedVpa c (orders w.ranges) w.clusterState.vpasWithMatchingPods
      observedVpa vpa
    let w' := updateVPA c clock orders w observedVpa
    w'.actions = w.actions ++ [statusUpdateOf c observedVpa updated] ∧
      w'.ranges = w.ranges + 1 ∧
      w'.clusterState.vpasWithMatchingPods = w.clusterState.vpasWithMatchingPods ∧
      w'.clusterState.vpas = w.clusterState.vpas.insert (vpaKey observedVpa) updated := by
  refine ⟨?_, ?_, ?_, ?_⟩ <;> simp [updateVPA, found, World.now, recommendedVpa, statusUpdateOf]

theorem updateVPA_notFound (w : World ν κ) (observedVpa : VerticalPodAutoscaler)
    (notFound : w.clusterState.vpas.lookup (vpaKey observedVpa) = none) :
    updateVPA c clock orders w observedVpa = w := by
  simp only [updateVPA, notFound]

/-- The loop of `UpdateVPAs` over objects with distinct keys: each object the model has a `Vpa`
for gets, in order, the status of its recommended `Vpa`, capped in the next map order. -/
theorem foldl_updateVPA_actions (observed : List VerticalPodAutoscaler)
    (distinct : (observed.map vpaKey).Nodup) (w : World ν κ) :
    (observed.foldl (updateVPA c clock orders) w).actions = w.actions ++
      ((observed.filterMap fun observedVpa =>
          (w.clusterState.vpas.lookup (vpaKey observedVpa)).map (observedVpa, ·)).enumFrom
            w.ranges).map fun (k, observedVpa, vpa) => statusUpdateOf c observedVpa
              (recommendedVpa c (orders k) w.clusterState.vpasWithMatchingPods observedVpa
                vpa) := by
  induction observed generalizing w with
  | nil => simp
  | cons observedVpa rest ih =>
      obtain ⟨fresh, restDistinct⟩ := List.nodup_cons.mp distinct
      rw [List.foldl_cons, List.filterMap_cons]
      cases found : w.clusterState.vpas.lookup (vpaKey observedVpa) with
      | none => rw [updateVPA_notFound c clock orders w observedVpa found, ih restDistinct]; rfl
      | some vpa =>
          obtain ⟨actions, ranges, matching, vpas⟩ :=
            updateVPA_found c clock orders w observedVpa found
          have sameRest : ∀ other ∈ rest,
              ((updateVPA c clock orders w observedVpa).clusterState.vpas.lookup
                (vpaKey other)).map (other, ·) =
              (w.clusterState.vpas.lookup (vpaKey other)).map (other, ·) := fun other member => by
            have other_ne : vpaKey other ≠ vpaKey observedVpa := fun same =>
              fresh (same ▸ List.mem_map_of_mem vpaKey member)
            rw [vpas, AList.lookup_insert_ne other_ne]
          rw [ih restDistinct, actions, ranges, matching, List.filterMap_congr sameRest]
          simp [List.enumFrom_cons]

/-- When the observed objects have distinct keys, as objects of the API server do, `UpdateVPAs`
sends one status update per observed object that the model has a `Vpa` for, in the order of the
observed objects and against the object's observed status.  The status sent is that of the
object's `Vpa` with the recommendation of its aggregate states capped under the object's own
resource policy, each in the next map order, and with its conditions set from whether it has
matching pods. -/
theorem updateVPAs_sends (w : World ν κ)
    (distinct : (w.clusterState.observedVpas.map vpaKey).Nodup) :
    (updateVPAs c clock orders w).actions = w.actions ++
      ((w.clusterState.observedVpas.filterMap fun observedVpa =>
          (w.clusterState.vpas.lookup (vpaKey observedVpa)).map (observedVpa, ·)).enumFrom
            w.ranges).map fun (k, observedVpa, vpa) => statusUpdateOf c observedVpa
              (recommendedVpa c (orders k) w.clusterState.vpasWithMatchingPods observedVpa vpa) :=
  foldl_updateVPA_actions c clock orders _ distinct w

/-- The order that visits a map's entries from the last stored to the first. -/
def MapRange.reversed {β : Type} : MapRange β :=
  ⟨fun map => (map.entries.map fun entry => (entry.1, entry.2)).reverse, fun _ => List.reverse_perm _⟩

/-- Map orders that alternate between the stored and the reversed one. -/
def alternatingOrders {β : Type} (k : Nat) : MapRange β :=
  if k % 2 = 0 then .stored else .reversed

/-- A model `Vpa` that is its id, its recommendation and whether it has matching pods. -/
abbrev TrackedVpa := VpaID × Option RecommendedPodResources × Bool

/-- Collaborators whose model `Vpa` records its recommendation and conditions, and whose
recommender estimates 100m of cpu for `app` and `10 * n` millicores for `sidecar`, where `n` is
the length of the VPA's name, each within 0 and 1000 millicores. -/
def trackingCollaborators : Collaborators TrackedVpa Unit VpaID Int where
  loadVPAs := fun state => state
  loadPods := fun state => state
  loadRealTimeMetrics := fun state => state
  getContainerNameToAggregateStateMap := fun vpa => vpa.1
  getRecommendedPodResources := fun id =>
    (AList.insert "app" ⟨100, 0, 1000⟩ ∅).insert "sidecar" ⟨10 * id.vpaName.length, 0, 1000⟩
  resourcesAsResourceList := fun milli => AList.insert resourceCPU ⟨milli * 1000000, .decimalSI⟩ ∅
  applyVPAPolicy := fun recommendation _ => .ok recommendation
  id := fun vpa => vpa.1
  updateRecommendation := fun vpa recommendation => (vpa.1, recommendation, vpa.2.2)
  updateConditions := fun vpa matching => (vpa.1, vpa.2.1, matching)
  asStatus := fun vpa => ⟨vpa.2.1, [⟨"HasMatchingPods", if vpa.2.2 then "True" else "False"⟩]⟩
  recordRecommendation := fun rest _ _ => rest
  garbageCollectAggregateCollectionStates := fun state _ => state

/-- The observed `api-vpa` object, with no status. -/
def apiVpa : VerticalPodAutoscaler := ⟨"api-vpa", "default", none, none, none, none, []⟩

/-- The observed `orphan-vpa` object, which the model has no `Vpa` for. -/
def orphanVpa : VerticalPodAutoscaler := ⟨"orphan-vpa", "default", none, none, none, none, []⟩

/-- A recommender that observes `web-vpa`, `orphan-vpa` and `api-vpa` and models the first and
the last, with no recommendation yet; only `web-vpa` has matching pods. -/
def trackingWorld : World TrackedVpa Unit :=
  { recommender := ⟨600000000000, ⟨0⟩, true, ⟨0⟩⟩
    clusterState :=
      ⟨[webVpa, orphanVpa, apiVpa],
        (AList.insert (vpaKey webVpa) (vpaKey webVpa, none, false) ∅).insert (vpaKey apiVpa)
          (vpaKey apiVpa, none, false),
        AList.insert (vpaKey webVpa) true ∅, ()⟩
    readings := 0
    ranges := 0
    actions := [] }

/-- `UpdateVPAs` of that recommender sends the recommended statuses of `web-vpa` and `api-vpa`,
in alternating map orders, and none for `orphan-vpa`. -/
theorem trackingWorld_updateVPAs_sends :
    (trackingWorld.clusterState.observedVpas.map vpaKey).Nodup ∧
    (updateVPAs trackingCollaborators (fun n => ⟨n * 60000000000⟩) alternatingOrders
      trackingWorld).actions =
      trackingWorld.actions ++
        ((trackingWorld.clusterState.observedVpas.filterMap fun observedVpa =>
            (trackingWorld.clusterState.vpas.lookup (vpaKey observedVpa)).map
              (observedVpa, ·)).enumFrom trackingWorld.ranges).map fun (k, observedVpa, vpa) =>
          statusUpdateOf trackingCollaborators observedVpa (recommendedVpa trackingCollaborators
            (alternatingOrders k) trackingWorld.clusterState.vpasWithMatchingPods observedVpa vpa) :=
  have distinct : (trackingWorld.clusterState.observedVpas.map vpaKey).Nodup := by decide
  ⟨distinct, updateVPAs_sends trackingCollaborators _ _ trackingWorld distinct⟩

/-! ## What the model's `Vpa`s become -/

/-- The observed objects the model has a `Vpa` for, each with that `Vpa`, in the loop's
order. -/
def foundVpas (vpas : AList fun _ : VpaID => ν) (observed : List VerticalPodAutoscaler) :
    List (VerticalPodAutoscaler × ν) :=
  observed.filterMap fun observedVpa => (vpas.lookup (vpaKey observedVpa)).map (observedVpa, ·)

/-- One iteration of `UpdateVPAs` on the model's `Vpa`s: the object's key, when the model has
a `Vpa` under it, gets the recommended `Vpa`; every other key reads as before. -/
theorem updateVPA_lookup (w : World ν κ) (observedVpa : VerticalPodAutoscaler) (key : VpaID) :
    (updateVPA c clock orders w observedVpa).clusterState.vpas.lookup key =
      if key = vpaKey observedVpa then
        (w.clusterState.vpas.lookup key).map
          (recommendedVpa c (orders w.ranges) w.clusterState.vpasWithMatchingPods observedVpa)
      else w.clusterState.vpas.lookup key := by
  cases found : w.clusterState.vpas.lookup (vpaKey observedVpa) with
  | none =>
      rw [updateVPA_notFound c clock orders w observedVpa found]
      split_ifs with same
      · rw [same, found, Option.map_none']
      · rfl
  | some vpa =>
      rw [(updateVPA_found c clock orders w observedVpa found).2.2.2]
      split_ifs with same
      · rw [same, found, AList.lookup_insert, Option.map_some']
      · rw [AList.lookup_insert_ne same]

/-- One iteration keeps the observed objects and which `Vpa`s have matching pods. -/
theorem updateVPA_keeps (w : World ν κ) (observedVpa : VerticalPodAutoscaler) :
    (updateVPA c clock orders w observedVpa).clusterState.observedVpas =
        w.clusterState.observedVpas ∧
      (updateVPA c clock orders w observedVpa).clusterState.vpasWithMatchingPods =
        w.clusterState.vpasWithMatchingPods := by
  simp only [updateVPA]
  cases w.clusterState.vpas.lookup (vpaKey observedVpa) <;> exact ⟨rfl, rfl⟩

/-- An iteration changes only its own object's key, so the later objects, whose keys differ,
find the `Vpa`s they found before. -/
theorem foundVpas_updateVPA (w : World ν κ) (observedVpa : VerticalPodAutoscaler)
    {rest : List VerticalPodAutoscaler} (fresh : vpaKey observedVpa ∉ rest.map vpaKey) :
    foundVpas (updateVPA c clock orders w observedVpa).clusterState.vpas rest =
      foundVpas w.clusterState.vpas rest := by
  refine List.filterMap_congr fun other member => ?_
  have other_ne : vpaKey other ≠ vpaKey observedVpa := fun same =>
    fresh (same ▸ List.mem_map_of_mem vpaKey member)
  rw [updateVPA_lookup, if_neg other_ne]

theorem foldl_updateVPA_keeps (observed : List VerticalPodAutoscaler) (w : World ν κ) :
    (observed.foldl (updateVPA c clock orders) w).clusterState.observedVpas =
        w.clusterState.observedVpas ∧
      (observed.foldl (updateVPA c clock orders) w).clusterState.vpasWithMatchingPods =
        w.clusterState.vpasWithMatchingPods := by
  induction observed generalizing w with
  | nil => exact ⟨rfl, rfl⟩
  | cons observedVpa rest ih =>
      obtain ⟨sameObserved, sameMatching⟩ := updateVPA_keeps c clock orders w observedVpa
      obtain ⟨sameObserved', sameMatching'⟩ := ih (updateVPA c clock orders w observedVpa)
      exact ⟨sameObserved'.trans sameObserved, sameMatching'.trans sameMatching⟩

/-- The loop neither adds nor drops a key of the model's `Vpa`s. -/
theorem foldl_updateVPA_isSome (observed : List VerticalPodAutoscaler) (w : World ν κ)
    (key : VpaID) :
    ((observed.foldl (updateVPA c clock orders) w).clusterState.vpas.lookup key).isSome =
      (w.clusterState.vpas.lookup key).isSome := by
  induction observed generalizing w with
  | nil => rfl
  | cons observedVpa rest ih =>
      rw [List.foldl_cons, ih, updateVPA_lookup]
      split_ifs <;> simp

/-- A key that no object of the loop has reads as before. -/
theorem foldl_updateVPA_lookup_other (observed : List VerticalPodAutoscaler) (w : World ν κ)
    {key : VpaID} (unobserved : key ∉ observed.map vpaKey) :
    (observed.foldl (updateVPA c clock orders) w).clusterState.vpas.lookup key =
      w.clusterState.vpas.lookup key := by
  induction observed generalizing w with
  | nil => rfl
  | cons observedVpa rest ih =>
      rw [List.map_cons, List.mem_cons, not_or] at unobserved
      rw [List.foldl_cons, ih _ unobserved.2, updateVPA_lookup, if_neg unobserved.1]

/-- Over objects with distinct keys, the `k`-th object the model has a `Vpa` for ends with its
recommended `Vpa`, capped in the `k`-th map order. -/
theorem foldl_updateVPA_lookup_found (observed : List VerticalPodAutoscaler)
    (distinct : (observed.map vpaKey).Nodup) (w : World ν κ) :
    ∀ k observedVpa vpa, (k, observedVpa, vpa) ∈
        (foundVpas w.clusterState.vpas observed).enumFrom w.ranges →
      (observed.foldl (updateVPA c clock orders) w).clusterState.vpas.lookup
          (vpaKey observedVpa) =
        some (recommendedVpa c (orders k) w.clusterState.vpasWithMatchingPods observedVpa vpa) := by
  induction observed generalizing w with
  | nil => simp [foundVpas]
  | cons observedVpa rest ih =>
      obtain ⟨fresh, restDistinct⟩ := List.nodup_cons.mp distinct
      intro k other vpa' member
      rw [List.foldl_cons]
      cases found : w.clusterState.vpas.lookup (vpaKey observedVpa) with
      | none =>
          rw [updateVPA_notFound c clock orders w observedVpa found]
          exact ih restDistinct w k other vpa' (by simpa [foundVpas, found] using member)
      | some vpa =>
          obtain ⟨-, ranges, matching, -⟩ := updateVPA_found c clock orders w observedVpa found
          simp only [foundVpas, List.filterMap_cons, found, Option.map_some',
            List.enumFrom_cons, List.mem_cons, Prod.mk.injEq] at member
          rcases member with ⟨rfl, rfl, rfl⟩ | later
          · rw [foldl_updateVPA_lookup_other c clock orders rest _ fresh, updateVPA_lookup,
              if_pos rfl, found, Option.map_some']
          · rw [ih restDistinct _ k other vpa'
              (by rwa [foundVpas_updateVPA c clock orders w observedVpa fresh, ranges]), matching]

/-- When the observed objects have distinct keys, `UpdateVPAs` leaves the model's `Vpa`s with
the same keys: under the key of each object it has a `Vpa` for, the `Vpa` whose status it sent,
with the object's recommendation capped in the object's map order; under every other key the
`Vpa` it had.  The observed objects and which `Vpa`s have matching pods are kept. -/
theorem updateVPAs_stores (w : World ν κ)
    (distinct : (w.clusterState.observedVpas.map vpaKey).Nodup) :
    let w' := updateVPAs c clock orders w
    w'.clusterState.observedVpas = w.clusterState.observedVpas ∧
      w'.clusterState.vpasWithMatchingPods = w.clusterState.vpasWithMatchingPods ∧
      (∀ key, (w'.clusterState.vpas.lookup key).isSome =
        (w.clusterState.vpas.lookup key).isSome) ∧
      (∀ key ∉ w.clusterState.observedVpas.map vpaKey,
        w'.clusterState.vpas.lookup key = w.clusterState.vpas.lookup key) ∧
      ∀ k observedVpa vpa, (k, observedVpa, vpa) ∈
          (foundVpas w.clusterState.vpas w.clusterState.observedVpas).enumFrom w.ranges →
        w'.clusterState.vpas.lookup (vpaKey observedVpa) =
          some (recommendedVpa c (orders k) w.clusterState.vpasWithMatchingPods observedVpa
            vpa) :=
  ⟨(foldl_updateVPA_keeps c clock orders _ w).1, (foldl_updateVPA_keeps c clock orders _ w).2,
    foldl_updateVPA_isSome c clock orders _ w,
    fun _ unobserved => foldl_updateVPA_lookup_other c clock orders _ w unobserved,
    foldl_updateVPA_lookup_found c clock orders _ distinct w⟩

/-- `UpdateVPAs` of the tracking recommender stores the recommended `web-vpa` and `api-vpa`, and
adds no `Vpa` for `orphan-vpa`. -/
theorem trackingWorld_updateVPAs_stores :
    (trackingWorld.clusterState.observedVpas.map vpaKey).Nodup ∧
      let w' := updateVPAs trackingCollaborators (fun n => ⟨n * 60000000000⟩) alternatingOrders
        trackingWorld
      w'.clusterState.observedVpas = trackingWorld.clusterState.observedVpas ∧
        w'.clusterState.vpasWithMatchingPods = trackingWorld.clusterState.vpasWithMatchingPods ∧
        (∀ key, (w'.clusterState.vpas.lookup key).isSome =
          (trackingWorld.clusterState.vpas.lookup key).isSome) ∧
        (∀ key ∉ trackingWorld.clusterState.observedVpas.map vpaKey,
          w'.clusterState.vpas.lookup key = trackingWorld.clusterState.vpas.lookup key) ∧
        ∀ k observedVpa vpa, (k, observedVpa, vpa) ∈
            (foundVpas trackingWorld.clusterState.vpas
              trackingWorld.clusterState.observedVpas).enumFrom trackingWorld.ranges →
          w'.clusterState.vpas.lookup (vpaKey observedVpa) =
            some (recommendedVpa trackingCollaborators (alternatingOrders k)
              trackingWorld.clusterState.vpasWithMatchingPods observedVpa vpa) :=
  have distinct : (trackingWorld.clusterState.observedVpas.map vpaKey).Nodup := by decide
  ⟨distinct, updateVPAs_stores trackingCollaborators _ _ trackingWorld distinct⟩

/-- One run garbage collects the aggregate container states at most once, more than an hour
after the last time, and ends with its last reading at most an hour after the last collection. -/
theorem runOnce_collection (flags : Flags) (w : World ν κ) :
    let w' := runOnce c clock orders flags w
    let last := w.recommender.lastAggregateContainerStateGC
    ((collectionTimes w'.actions = collectionTimes w.actions ∧
        w'.recommender.lastAggregateContainerStateGC = last) ∨
      ∃ gcTime, aggregateContainerStateGCInterval < gcTime.nanos - last.nanos ∧
        collectionTimes w'.actions = collectionTimes w.actions ++ [gcTime] ∧
        w'.recommender.lastAggregateContainerStateGC = gcTime) ∧
    (clock (w'.readings - 1)).sub w'.recommender.lastAggregateContainerStateGC ≤
      aggregateContainerStateGCInterval := by
  intro w' last
  rw [show w' = _ from runOnce_eq c clock orders flags w]
  generalize loadedWorld : ({ w with
    readings := w.readings + 1
    clusterState := c.loadRealTimeMetrics (c.loadPods (c.loadVPAs w.clusterState))
    actions := w.actions ++ [.loadVPAs, .loadPods, .loadRealTimeMetrics] } : World ν κ) = w₁
  have sameRecommender₁ : w₁.recommender = w.recommender := by rw [← loadedWorld]
  have sameTimes₁ : collectionTimes w₁.actions = collectionTimes w.actions := by
    rw [← loadedWorld]
    simp [collectionTimes, Action.collectionTime]
  obtain ⟨sameRecommender₂, updates, updated, onlyUpdates⟩ :=
    updateVPAs_frame c clock orders w₁
  generalize updateVPAs c clock orders w₁ = w₂ at sameRecommender₂ updated
  obtain ⟨sameLast₃, checkpointed⟩ := maintainCheckpoints_effect clock
    ((clock w.readings).add flags.checkpointsWriteTimeout) flags.minCheckpointsPerRun w₂
  generalize maintainCheckpoints clock _ _ w₂ = w₃ at sameLast₃ checkpointed
  have sameTimes₃ : collectionTimes w₃.actions = collectionTimes w.actions := by
    rw [checkpointed, updated, collectionTimes_append, collectionTimes_append, sameTimes₁,
      collectionTimes_eq_nil fun a member =>
        collectionTime_of_isStatusUpdate (onlyUpdates a member)]
    split_ifs <;> simp [collectionTimes, Action.collectionTime]
  have sameLast : w₃.recommender.lastAggregateContainerStateGC = last := by
    rw [sameLast₃, sameRecommender₂, sameRecommender₁]
  obtain ⟨readings, collectedLast, collected⟩ := garbageCollect_effect c clock w₃
  rw [readings, Nat.add_sub_cancel, collectedLast, collected, collectionTimes_append, sameTimes₃,
    sameLast]
  by_cases due : aggregateContainerStateGCInterval < (clock w₃.readings).sub last
  · simp only [if_pos due]
    have positive : (0 : Int) ≤ aggregateContainerStateGCInterval := by
      unfold aggregateContainerStateGCInterval
      omega
    refine ⟨.inr ⟨_, Time.lt_nanos_sub_of_lt_sub positive due,
      by simp [collectionTimes, Action.collectionTime], rfl⟩, ?_⟩
    simp [aggregateContainerStateGCInterval]
  · simp only [if_neg due]
    exact ⟨.inl ⟨by simp [collectionTimes], by simp⟩, le_of_not_lt due⟩

/-! ## Whole runs -/

theorem run_succ (flags : Flags) (ticks : Nat) (w : World ν κ) :
    run c clock orders flags (ticks + 1) w =
      runOnce c clock orders flags (run c clock orders flags ticks w) :=
  Function.iterate_succ_apply' _ _ _

/-- Over any run, the aggregate container states are garbage collected at times more than an
hour apart, the first more than an hour after the last collection before the run, and the last
is the one the recommender records. -/
theorem run_collections (flags : Flags) (ticks : Nat) (w : World ν κ) :
    ∃ times, collectionTimes (run c clock orders flags ticks w).actions =
        collectionTimes w.actions ++ times ∧
      (w.recommender.lastAggregateContainerStateGC :: times).Chain'
        (fun earlier later => aggregateContainerStateGCInterval < later.nanos - earlier.nanos) ∧
      (run c clock orders flags ticks w).recommender.lastAggregateContainerStateGC =
        (w.recommender.lastAggregateContainerStateGC :: times).getLast (List.cons_ne_nil _ _) := by
  induction ticks with
  | zero => exact ⟨[], by simp [run], List.chain'_singleton _, rfl⟩
  | succ ticks ih =>
      obtain ⟨times, collected, spaced, last⟩ := ih
      rw [run_succ]
      rcases (runOnce_collection c clock orders flags (run c clock orders flags ticks w)).1 with
        ⟨none, same⟩ | ⟨gcTime, later, some, recorded⟩
      · exact ⟨times, none.trans collected, spaced, same.trans last⟩
      · refine ⟨times ++ [gcTime], by rw [some, collected, List.append_assoc], ?_, ?_⟩
        · rw [← List.cons_append]
          exact spaced.append (List.chain'_singleton _) fun earlier found next first => by
            rw [List.getLast?_eq_getLast _ (List.cons_ne_nil _ _), Option.mem_some_iff] at found
            rw [List.head?_cons, Option.mem_some_iff] at first
            rw [← found, ← first, ← last]
            exact later
        · rw [recorded]
          simp

/-- From its creation on, a recommender garbage collects the aggregate container states at
clock readings more than an hour apart, the first more than an hour after it was made, and no
run ends with its last reading more than an hour after the last collection, or the creation. -/
theorem garbageCollect_hourly (flags : Flags) (factory : RecommenderFactory ν κ)
    (readings : Nat) :
    (∀ ticks, (clock readings :: collectionTimes
        (run c clock orders flags ticks (factory.make clock readings)).actions).Chain'
          fun earlier later =>
            aggregateContainerStateGCInterval < later.nanos - earlier.nanos) ∧
    ∀ ticks, let w := run c clock orders flags (ticks + 1) (factory.make clock readings)
      (clock (w.readings - 1)).sub w.recommender.lastAggregateContainerStateGC ≤
        aggregateContainerStateGCInterval := by
  refine ⟨fun ticks => ?_, fun ticks => ?_⟩
  · obtain ⟨times, collected, spaced, -⟩ :=
      run_collections c clock orders flags ticks (factory.make clock readings)
    rw [collected]
    simpa [RecommenderFactory.make, collectionTimes] using spaced
  · rw [run_succ]
    exact (runOnce_collection c clock orders flags _).2

/-! ## Checkpoints over the recommender's life -/

/-- The checkpoint calls of one run with checkpoints in use: a store under the run's deadline,
maybe followed by a checkpoint collection. -/
def checkpointCalls (minCheckpointsPerRun : Int) : Time × Time × Bool → List Action
  | (deadline, now, collects) =>
      .storeCheckpoints deadline now minCheckpointsPerRun ::
        if collects then [.garbageCollectCheckpoints] else []

theorem maintainCheckpoints_useCheckpoints (deadline : Time) (minCheckpointsPerRun : Int)
    (w : World ν κ) :
    (maintainCheckpoints clock deadline minCheckpointsPerRun w).recommender.useCheckpoints =
      w.recommender.useCheckpoints := by
  simp only [maintainCheckpoints, World.now]
  split_ifs <;> rfl

theorem garbageCollect_useCheckpoints (w : World ν κ) :
    (garbageCollect c clock w).recommender.useCheckpoints = w.recommender.useCheckpoints := by
  simp only [garbageCollect, World.now]
  split_ifs <;> rfl

theorem filter_isCheckpointCall_updates {updates : List Action}
    (onlyUpdates : ∀ a ∈ updates, a.isStatusUpdate) :
    updates.filter Action.isCheckpointCall = [] :=
  List.filter_eq_nil_iff.mpr fun a member => by
    have := onlyUpdates a member
    cases a <;> simp_all [Action.isStatusUpdate, Action.isCheckpointCall]

/-- One run keeps whether checkpoints are in use; its checkpoint calls are a store under the
deadline set at its start, maybe followed by a collection, or none without checkpoints. -/
theorem runOnce_checkpointCalls (flags : Flags) (w : World ν κ) :
    (runOnce c clock orders flags w).recommender.useCheckpoints = w.recommender.useCheckpoints ∧
      ∃ now, ∃ collects : Bool,
        (runOnce c clock orders flags w).actions.filter Action.isCheckpointCall =
          w.actions.filter Action.isCheckpointCall ++
            if w.recommender.useCheckpoints then
              checkpointCalls flags.minCheckpointsPerRun
                ((clock w.readings).add flags.checkpointsWriteTimeout, now, collects)
            else [] := by
  rw [runOnce_eq]
  generalize loadedWorld : ({ w with
    readings := w.readings + 1
    clusterState := c.loadRealTimeMetrics (c.loadPods (c.loadVPAs w.clusterState))
    actions := w.actions ++ [.loadVPAs, .loadPods, .loadRealTimeMetrics] } : World ν κ) = w₁
  have sameRecommender₁ : w₁.recommender = w.recommender := by rw [← loadedWorld]
  have loadedCalls : w₁.actions.filter Action.isCheckpointCall =
      w.actions.filter Action.isCheckpointCall := by
    rw [← loadedWorld]
    simp [Action.isCheckpointCall]
  obtain ⟨sameRecommender₂, updates, updated, onlyUpdates⟩ :=
    updateVPAs_frame c clock orders w₁
  generalize updateVPAs c clock orders w₁ = w₂ at sameRecommender₂ updated
  obtain ⟨-, checkpointed⟩ := maintainCheckpoints_effect clock
    ((clock w.readings).add flags.checkpointsWriteTimeout) flags.minCheckpointsPerRun w₂
  have sameUse₃ := maintainCheckpoints_useCheckpoints clock
    ((clock w.readings).add flags.checkpointsWriteTimeout) flags.minCheckpointsPerRun w₂
  generalize maintainCheckpoints clock _ _ w₂ = w₃ at checkpointed sameUse₃
  obtain ⟨-, -, collected⟩ := garbageCollect_effect c clock w₃
  refine ⟨by rw [garbageCollect_useCheckpoints, sameUse₃, sameRecommender₂, sameRecommender₁],
    clock w₂.readings, decide (w₂.recommender.checkpointsGCInterval <
      (clock (w₂.readings + 1)).sub w₂.recommender.lastCheckpointGC), ?_⟩
  rw [collected, checkpointed, updated, sameRecommender₂, sameRecommender₁]
  simp only [List.filter_append, loadedCalls, filter_isCheckpointCall_updates onlyUpdates]
  split_ifs <;> simp_all [Action.isCheckpointCall, checkpointCalls]

/-- Over any number of ticks, whether checkpoints are in use stays, and the checkpoint calls are
one store per tick, each maybe followed by a collection, or none without checkpoints. -/
theorem run_checkpointCalls (flags : Flags) (ticks : Nat) (w : World ν κ) :
    (run c clock orders flags ticks w).recommender.useCheckpoints = w.recommender.useCheckpoints ∧
      ∃ stores : List (Time × Time × Bool),
        stores.length = (if w.recommender.useCheckpoints then ticks else 0) ∧
        (run c clock orders flags ticks w).actions.filter Action.isCheckpointCall =
          w.actions.filter Action.isCheckpointCall ++
            stores.flatMap (checkpointCalls flags.minCheckpointsPerRun) := by
  induction ticks with
  | zero => exact ⟨rfl, [], by simp, by simp [run]⟩
  | succ ticks ih =>
      obtain ⟨sameUse, stores, counted, called⟩ := ih
      obtain ⟨sameUse', now, collects, ran⟩ :=
        runOnce_checkpointCalls c clock orders flags (run c clock orders flags ticks w)
      rw [run_succ]
      refine ⟨sameUse'.trans sameUse, stores ++ if w.recommender.useCheckpoints then
        [((clock (run c clock orders flags ticks w).readings).add flags.checkpointsWriteTimeout,
          now, collects)] else [], ?_, ?_⟩
      · split_ifs <;> simp_all
      · rw [ran, called, sameUse]
        split_ifs <;> simp

/-- Over the recommender's life, whatever its collaborators, clock and other flags, it calls the
checkpoint writer once per tick, each store maybe followed by a checkpoint collection, and makes
no other checkpoint call; with the `storage` flag `prometheus` it makes none at all. -/
theorem main_checkpointCalls (storage : String) (checkpointsGCInterval : Duration)
    (clusterState : ClusterState ν κ)
    (initFromCheckpoints initFromHistoryProvider : ClusterState ν κ → ClusterState ν κ)
    (flags : Flags) (readings ticks : Nat) :
    ∃ stores : List (Time × Time × Bool),
      stores.length = (if storage = "prometheus" then 0 else ticks) ∧
      (main c clock orders storage checkpointsGCInterval clusterState initFromCheckpoints
          initFromHistoryProvider flags readings ticks).actions.filter Action.isCheckpointCall =
        stores.flatMap (checkpointCalls flags.minCheckpointsPerRun) := by
  obtain ⟨-, stores, counted, called⟩ := run_checkpointCalls c clock orders flags ticks
    { newRecommender clock clusterState checkpointsGCInterval (storage != "prometheus") readings
      with clusterState := (if storage != "prometheus" then initFromCheckpoints
        else initFromHistoryProvider) clusterState }
  refine ⟨stores, ?_, by simpa [main, newRecommender, RecommenderFactory.make] using called⟩
  rw [counted]
  by_cases prometheus : storage = "prometheus" <;>
    simp [newRecommender, RecommenderFactory.make, prometheus]

end Loop

end VerticalPodAutoscaler.Recommender
