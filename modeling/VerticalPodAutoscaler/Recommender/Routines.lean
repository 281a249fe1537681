import VerticalPodAutoscaler.Api.Core

/-!
# The recommender's main loop

`recommender.RunOnce` loads the cluster state, computes a capped recommendation for every
observed vertical pod autoscaler and sends its status, stores checkpoints, and garbage collects
the aggregate container states once an hour.  What it calls outside `routines` is a
collaborator: the cluster state feeder, the checkpoint writer, the pod resource recommender,
the model `Vpa`'s methods, `model.ResourcesAsResourceList` and `vpa_utils.ApplyVPAPolicy`.
A run records, in order, the calls whose effect lies outside the recommender's own state.
The recommender's `main` makes one with `NewRecommender`, has the feeder initialise the cluster
state, and runs `RunOnce` on every tick.

`time.Now()` reads a clock: the `n`-th reading is `clock n`, for any clock.  The readings are
those `routines` computes with: `RunOnce`'s deadline, the time `UpdateVPAs` records a
recommendation at, the two of `MaintainCheckpoints`, `GarbageCollect`'s, and the two of `Make`.
The execution timer of `metrics_recommender` (`NewExecutionTimer`, `ObserveStep` and the
deferred `ObserveTotal`) and `ObserveRecommendationLatency` read the clock too, for metrics
only; their readings are left out, so a run's first and last readings here are its first and
last among those `routines` computes with.  Go chooses the order of every `range` over a map
anew, so the `k`-th `range` of a run visits in order `k`.
-/

namespace VerticalPodAutoscaler.Recommender

open Api

/-- `AggregateContainerStateGCInterval`, one hour. -/
def aggregateContainerStateGCInterval : Duration := 3600000000000

/-- The flags `RunOnce` reads: `checkpoints-timeout` and `min-checkpoints`. -/
structure Flags where
  checkpointsWriteTimeout : Duration
  minCheckpointsPerRun : Int

/-- The flags' defaults, a minute and 10. -/
def defaultFlags : Flags := ⟨60000000000, 10⟩

/-- `model.VpaID`. -/
structure VpaID where
  «namespace» : String
  vpaName : String
  deriving DecidableEq, Repr

/-- The key `UpdateVPAs` looks an observed object up by. -/
def vpaKey (observedVpa : VerticalPodAutoscaler) : VpaID :=
  ⟨observedVpa.«namespace», observedVpa.name⟩

namespace Logic

/-- `logic.RecommendedContainerResources`, in the model's resource amounts `ρ`. -/
structure RecommendedContainerResources (ρ : Type) where
  target : ρ
  lowerBound : ρ
  upperBound : ρ

/-- `logic.RecommendedPodResources`, by container name. -/
abbrev RecommendedPodResources (ρ : Type) :=
  AList fun _ : String => RecommendedContainerResources ρ

end Logic

/-- The order in which one `range` over a map keyed by strings visits its entries: some order
of the entries, which Go leaves unspecified. -/
structure MapRange (β : Type) where
  entries : (AList fun _ : String => β) → List (String × β)
  perm : ∀ map, (entries map).Perm (map.entries.map fun entry => (entry.1, entry.2))

/-- The order the model stores a map's entries in. -/
def MapRange.stored {β : Type} : MapRange β :=
  ⟨fun map => map.entries.map fun entry => (entry.1, entry.2), fun _ => .refl _⟩

/-! ## Capping -/

section Capping

variable {ρ : Type} (resourcesAsResourceList : ρ → ResourceList)
  (applyVPAPolicy : Option RecommendedPodResources → Option PodResourcePolicy →
    Except String (Option RecommendedPodResources))

/-- The recommendation `getCappedRecommendation` builds before capping: one container
recommendation per estimate, in the order the `range` visits them, whose uncapped target is its
target. -/
def uncappedRecommendation (order : MapRange (Logic.RecommendedContainerResources ρ))
    (resources : Logic.RecommendedPodResources ρ) : RecommendedPodResources :=
  ⟨(order.entries resources).map fun (containerName, res) =>
    { containerName
      target := resourcesAsResourceList res.target
      lowerBound := resourcesAsResourceList res.lowerBound
      upperBound := resourcesAsResourceList res.upperBound
      uncappedTarget := resourcesAsResourceList res.target }⟩

/-- `getCappedRecommendation`: the recommendation capped by the resource policy, or the uncapped
one when the policy cannot be applied. -/
def getCappedRecommendation (order : MapRange (Logic.RecommendedContainerResources ρ))
    (resources : Logic.RecommendedPodResources ρ) (policy : Option PodResourcePolicy) :
    Option RecommendedPodResources :=
  let recommendation := uncappedRecommendation resourcesAsResourceList order resources
  match applyVPAPolicy (some recommendation) policy with
  | .ok cappedRecommendation => cappedRecommendation
  | .error _ => some recommendation

end Capping

/-! ## The recommender's state -/

/-- `model.ClusterState`, by what `routines` reads: the observed objects, the model `Vpa`s by
id, which of them have matching pods, and the rest `κ` (pods, aggregate container states,
empty VPAs), which only the collaborators read. -/
structure ClusterState (ν κ : Type) where
  observedVpas : List VerticalPodAutoscaler
  vpas : AList fun _ : VpaID => ν
  vpasWithMatchingPods : AList fun _ : VpaID => Bool
  rest : κ

/-- What `RunOnce` calls outside `routines`.  `ν` is `model.Vpa`, `α` a
`model.ContainerNameToAggregateStateMap` and `ρ` a `model.Resources`. -/
structure Collaborators (ν κ α ρ : Type) where
  /-- `ClusterStateFeeder.LoadVPAs`, `LoadPods` and `LoadRealTimeMetrics`. -/
  loadVPAs : ClusterState ν κ → ClusterState ν κ
  loadPods : ClusterState ν κ → ClusterState ν κ
  loadRealTimeMetrics : ClusterState ν κ → ClusterState ν κ
  /-- `GetContainerNameToAggregateStateMap` and
  `PodResourceRecommender.GetRecommendedPodResources`. -/
  getContainerNameToAggregateStateMap : ν → α
  getRecommendedPodResources : α → Logic.RecommendedPodResources ρ
  /-- `model.ResourcesAsResourceList` and `vpa_utils.ApplyVPAPolicy`. -/
  resourcesAsResourceList : ρ → ResourceList
  applyVPAPolicy : Option RecommendedPodResources → Option PodResourcePolicy →
    Except String (Option RecommendedPodResources)
  /-- The model `Vpa`'s `ID`, `UpdateRecommendation`, `UpdateConditions` and `AsStatus`. -/
  id : ν → VpaID
  updateRecommendation : ν → Option RecommendedPodResources → ν
  updateConditions : ν → Bool → ν
  asStatus : ν → VerticalPodAutoscalerStatus
  /-- `ClusterState.RecordRecommendation`, which keeps its empty VPAs among the rest; its error
  is only logged. -/
  recordRecommendation : κ → ν → Time → κ
  /-- `ClusterState.GarbageCollectAggregateCollectionStates`. -/
  garbageCollectAggregateCollectionStates : ClusterState ν κ → Time → ClusterState ν κ

/-- The fields of `recommender` that are not collaborators. -/
structure RecommenderState where
  checkpointsGCInterval : Duration
  lastCheckpointGC : Time
  useCheckpoints : Bool
  lastAggregateContainerStateGC : Time

/-- A call of a run whose effect lies outside the recommender's own state. -/
inductive Action where
  | loadVPAs
  | loadPods
  | loadRealTimeMetrics
  /-- `vpa_utils.UpdateVpaStatusIfNeeded` for a VPA, with its new and its observed status. -/
  | updateVpaStatusIfNeeded (vpaID : VpaID) (newStatus oldStatus : VerticalPodAutoscalerStatus)
  /-- `CheckpointWriter.StoreCheckpoints` under a deadline. -/
  | storeCheckpoints (deadline now : Time) (minCheckpoints : Int)
  | garbageCollectCheckpoints
  | garbageCollectAggregateCollectionStates (now : Time)
  deriving DecidableEq

/-- The recommender, its cluster state, how many clock readings and map `range`s there have
been, and the calls made so far. -/
structure World (ν κ : Type) where
  recommender : RecommenderState
  clusterState : ClusterState ν κ
  readings : Nat
  ranges : Nat
  actions : List Action

/-! ## The loop -/

section Loop

variable {ν κ α ρ : Type} (c : Collaborators ν κ α ρ) (clock : Nat → Time)
  (orders : Nat → MapRange (Logic.RecommendedContainerResources ρ))

/-- `time.Now()`. -/
def World.now (w : World ν κ) : Time × World ν κ :=
  (clock w.readings, { w with readings := w.readings + 1 })

/-- One iteration of `UpdateVPAs`: an observed object that the model has no `Vpa` for is
skipped; otherwise its `Vpa` gets the capped recommendation and its conditions, the cluster
state records it, and its status is sent.  Neither error stops the loop. -/
def updateVPA (w : World ν κ) (observedVpa : VerticalPodAutoscaler) : World ν κ :=
  let key := vpaKey observedVpa
  match w.clusterState.vpas.lookup key with
  | none => w
  | some vpa =>
      let resources := c.getRecommendedPodResources (c.getContainerNameToAggregateStateMap vpa)
      let vpa := c.updateRecommendation vpa (getCappedRecommendation c.resourcesAsResourceList
        c.applyVPAPolicy (orders w.ranges) resources observedVpa.resourcePolicy)
      let hasMatchingPods := (w.clusterState.vpasWithMatchingPods.lookup (c.id vpa)).getD false
      let vpa := c.updateConditions vpa hasMatchingPods
      let (now, w) := w.now clock
      { w with
        clusterState := { w.clusterState with
          vpas := w.clusterState.vpas.insert key vpa
          rest := c.recordRecommendation w.clusterState.rest vpa now }
        ranges := w.ranges + 1
        actions := w.actions ++ [.updateVpaStatusIfNeeded (c.id vpa) (c.asStatus vpa)
          observedVpa.status] }

/-- `recommender.UpdateVPAs`, over the observed objects as the loop starts. -/
def updateVPAs (w : World ν κ) : World ν κ :=
  w.clusterState.observedVpas.foldl (updateVPA c clock orders) w

/-- `recommender.MaintainCheckpoints`: with checkpoints in use, store them, and garbage collect
them when the clock, read again after storing, is more than the interval past the last such
collection; the time recorded is the one read before storing. -/
def maintainCheckpoints (deadline : Time) (minCheckpointsPerRun : Int) (w : World ν κ) :
    World ν κ :=
  let (now, w) := w.now clock
  if w.recommender.useCheckpoints then
    let w := { w with
      actions := w.actions ++ [Action.storeCheckpoints deadline now minCheckpointsPerRun] }
    let (later, w) := w.now clock
    if later.sub w.recommender.lastCheckpointGC > w.recommender.checkpointsGCInterval then
      { w with
        recommender := { w.recommender with lastCheckpointGC := now }
        actions := w.actions ++ [Action.garbageCollectCheckpoints] }
    else w
  else w

/-- `recommender.GarbageCollect`: garbage collect the aggregate container states when more than
an hour has passed since the last time. -/
def garbageCollect (w : World ν κ) : World ν κ :=
  let (gcTime, w) := w.now clock
  if gcTime.sub w.recommender.lastAggregateContainerStateGC >
      aggregateContainerStateGCInterval then
    { w with
      clusterState := c.garbageCollectAggregateCollectionStates w.clusterState gcTime
      recommender := { w.recommender with lastAggregateContainerStateGC := gcTime }
      actions := w.actions ++ [.garbageCollectAggregateCollectionStates gcTime] }
  else w

/-- Loading the cluster state, one feeder call. -/
def load (feed : ClusterState ν κ → ClusterState ν κ) (action : Action) (w : World ν κ) :
    World ν κ :=
  { w with clusterState := feed w.clusterState, actions := w.actions ++ [action] }

/-- `recommender.RunOnce`, whose checkpoints are written before a deadline set when it starts. -/
def runOnce (flags : Flags) (w : World ν κ) : World ν κ :=
  let (start, w) := w.now clock
  let w := load c.loadVPAs .loadVPAs w
  let w := load c.loadPods .loadPods w
  let w := load c.loadRealTimeMetrics .loadRealTimeMetrics w
  let w := updateVPAs c clock orders w
  let w := maintainCheckpoints clock (start.add flags.checkpointsWriteTimeout)
    flags.minCheckpointsPerRun w
  garbageCollect c clock w

/-- The recommender's ticker loop: `RunOnce` on every tick. -/
def run (flags : Flags) (ticks : Nat) (w : World ν κ) : World ν κ :=
  (runOnce c clock orders flags)^[ticks] w

/-- `RecommenderFactory`, by the fields that are not collaborators. -/
structure RecommenderFactory (ν κ : Type) where
  clusterState : ClusterState ν κ
  checkpointsGCInterval : Duration
  useCheckpoints : Bool

/-- `RecommenderFactory.Make`, from the clock's `readings`-th reading: the last aggregate
garbage collection is the first reading and the last checkpoint garbage collection the second. -/
def RecommenderFactory.make (factory : RecommenderFactory ν κ) (readings : Nat) : World ν κ :=
  { recommender :=
      { checkpointsGCInterval := factory.checkpointsGCInterval
        lastCheckpointGC := clock (readings + 1)
        useCheckpoints := factory.useCheckpoints
        lastAggregateContainerStateGC := clock readings }
    clusterState := factory.clusterState
    readings := readings + 2
    ranges := 0
    actions := [] }

/-- `NewRecommender`, over a new cluster state: the factory's `Make`. -/
def newRecommender (clusterState : ClusterState ν κ) (checkpointsGCInterval : Duration)
    (useCheckpoints : Bool) (readings : Nat) : World ν κ :=
  RecommenderFactory.make clock ⟨clusterState, checkpointsGCInterval, useCheckpoints⟩ readings

/-- The recommender's `main` once its flags are read, for its first `ticks` ticks: checkpoints
are used unless the `storage` flag is `prometheus`, the feeder initialises the cluster state
from the checkpoints or from the history provider, and every tick runs `RunOnce`. -/
def main (storage : String) (checkpointsGCInterval : Duration) (clusterState : ClusterState ν κ)
    (initFromCheckpoints initFromHistoryProvider : ClusterState ν κ → ClusterState ν κ)
    (flags : Flags) (readings ticks : Nat) : World ν κ :=
  let useCheckpoints := storage != "prometheus"
  let recommender := newRecommender clock clusterState checkpointsGCInterval useCheckpoints readings
  let init := if useCheckpoints then initFromCheckpoints else initFromHistoryProvider
  run c clock orders flags ticks { recommender with clusterState := init recommender.clusterState }

end Loop

end VerticalPodAutoscaler.Recommender
