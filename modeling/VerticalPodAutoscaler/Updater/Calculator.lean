import VerticalPodAutoscaler.Updater.Sort

/-!
# The update priority calculator

`UpdatePriorityCalculator` collects the pods that may be updated, one `AddPod` at a time, and
`GetSortedPods` sorts them in place by `byPriority` and keeps those the eviction admission
lets through.  `AddPod` appends the priority of a pod exactly when the recommendation
processor succeeds and the pod may be updated: a request lies outside the recommended range,
its only container was killed out of memory soon after it started, or it has lived for twelve
hours and its resource difference is not below the threshold.  So after any run of additions
the sorted answer holds those of the added pods the admission lets through, each as often as
it was added: the pods that scale up first, and within either group by non-increasing
resource difference, in whatever arithmetic `<` is a strict weak order.
-/

namespace VerticalPodAutoscaler.Updater

open Api

/-- `defaultUpdateThreshold`: a change priority below 10% is ignored. -/
def defaultUpdateThreshold {F : Type} (arithmetic : Arithmetic F) : F :=
  arithmetic.float64 (1 / 10)

/-- `podLifetimeUpdateThreshold`: twelve hours. -/
def podLifetimeUpdateThreshold : Duration := 12 * 3600 * 1000000000

/-- `UpdateConfig`. -/
structure UpdateConfig (F : Type) where
  minChangePriority : F

/-- `PodEvictionAdmission`, a stateless one, by its `Admit`. -/
abbrev PodEvictionAdmission := Pod → Option RecommendedPodResources → Bool

/-- `UpdatePriorityCalculator`. -/
structure UpdatePriorityCalculator (F : Type) where
  resourcesPolicy : Option PodResourcePolicy
  conditions : List VerticalPodAutoscalerCondition
  pods : List (PodPriority F)
  config : UpdateConfig F
  recommendationProcessor : RecommendationProcessor

/-- `NewUpdatePriorityCalculator`; a nil config stands for the default threshold. -/
def newUpdatePriorityCalculator {F : Type} (arithmetic : Arithmetic F)
    (policy : Option PodResourcePolicy) (conditions : List VerticalPodAutoscalerCondition)
    (config : Option (UpdateConfig F)) (processor : RecommendationProcessor) :
    UpdatePriorityCalculator F :=
  { resourcesPolicy := policy
    conditions := conditions
    pods := []
    config := config.getD ⟨defaultUpdateThreshold arithmetic⟩
    recommendationProcessor := processor }

/-- The `quickOOM` test of `AddPod`: the pod has one container status, whose last
termination was an OOM kill sooner than `evictAfterOOMThreshold` after its start. -/
def quickOOM (evictAfterOOMThreshold : Duration) (pod : Pod) : Bool :=
  match pod.containerStatuses with
  | [status] =>
      match status.lastTerminated with
      | some terminated =>
          terminated.reason == "OOMKilled" &&
            decide (terminated.finishedAt.sub terminated.startedAt < evictAfterOOMThreshold)
      | none => false
  | _ => false

theorem quickOOM_eq_true_iff (evictAfterOOMThreshold : Duration) (pod : Pod) :
    quickOOM evictAfterOOMThreshold pod = true ↔
      ∃ status ∈ pod.containerStatuses, pod.containerStatuses.length = 1 ∧
        ∃ terminated ∈ status.lastTerminated, terminated.reason = "OOMKilled" ∧
          terminated.finishedAt.sub terminated.startedAt < evictAfterOOMThreshold := by
  unfold quickOOM
  rcases pod.containerStatuses with _ | ⟨status, _ | ⟨other, rest⟩⟩
  · simp
  · cases terminated : status.lastTerminated <;> simp [terminated]
  · simp

/-- One `AddPod` call: its pod, recommendation and time, and the order in which the last
`range` of its `getUpdatePriority` visits the recommended totals. -/
structure Addition where
  pod : Pod
  recommendation : Option RecommendedPodResources
  now : Time
  totalsOrder : TotalsOrder

section Operations

variable {F : Type} (arithmetic : Arithmetic F) (evictAfterOOMThreshold : Duration)

/-- `UpdatePriorityCalculator.AddPod`, its `getUpdatePriority` visiting the totals in the
order given. -/
def addPod (calculator : UpdatePriorityCalculator F) (order : TotalsOrder) (pod : Pod)
    (recommendation : Option RecommendedPodResources) (now : Time) :
    UpdatePriorityCalculator F :=
  match calculator.recommendationProcessor recommendation calculator.resourcesPolicy
      calculator.conditions pod with
  | .error _ => calculator
  | .ok (processedRecommendation, _) =>
      let updatePriority := getUpdatePriority arithmetic order pod processedRecommendation
      if !updatePriority.outsideRecommendedRange && !quickOOM evictAfterOOMThreshold pod then
        match pod.startTime with
        | none => calculator
        | some startTime =>
            if now.before (startTime.add podLifetimeUpdateThreshold) then calculator
            else if arithmetic.lt updatePriority.resourceDiff calculator.config.minChangePriority
            then calculator
            else { calculator with pods := calculator.pods ++ [updatePriority] }
      else { calculator with pods := calculator.pods ++ [updatePriority] }

/-- `admission == nil || admission.Admit(pod, recommendation)`. -/
def admits (admission : Option PodEvictionAdmission) (podPrio : PodPriority F) : Bool :=
  match admission with
  | none => true
  | some admitPod => admitPod podPrio.pod podPrio.recommendation

theorem admits_eq_true_iff (admission : Option PodEvictionAdmission) (podPrio : PodPriority F) :
    admits admission podPrio = true ↔
      ∀ admitPod ∈ admission, admitPod podPrio.pod podPrio.recommendation = true := by
  cases admission <;> simp [admits]

/-- `UpdatePriorityCalculator.GetSortedPods`: the calculator with its pods sorted, and the
admitted pods in sorted order. -/
def getSortedPods (sortAlgorithm : SortAlgorithm) (calculator : UpdatePriorityCalculator F)
    (admission : Option PodEvictionAdmission) : UpdatePriorityCalculator F × List Pod :=
  let sorted := sortAlgorithm.sort (ByPriority.less arithmetic.lt) calculator.pods
  ({ calculator with pods := sorted }, (sorted.filter (admits admission)).map (·.pod))

/-- A run of `AddPod` calls. -/
def addPods (calculator : UpdatePriorityCalculator F) (additions : List Addition) :
    UpdatePriorityCalculator F :=
  additions.foldl (fun calculator addition =>
    addPod arithmetic evictAfterOOMThreshold calculator addition.totalsOrder addition.pod
      addition.recommendation addition.now) calculator

/-! ## Which additions are kept -/

/-- A pod may be updated when its request is outside the recommended range, when it was
killed out of memory soon after start, or when it has lived at least twelve hours and its
resource difference is not below the threshold. -/
def updateAllowed (minChangePriority : F) (pod : Pod) (now : Time) (priority : PodPriority F) :
    Bool :=
  priority.outsideRecommendedRange || quickOOM evictAfterOOMThreshold pod ||
    pod.startTime.any fun startTime =>
      decide (startTime.nanos + podLifetimeUpdateThreshold ≤ now.nanos) &&
        !arithmetic.lt priority.resourceDiff minChangePriority

theorem updateAllowed_eq_true_iff (minChangePriority : F) (pod : Pod) (now : Time)
    (priority : PodPriority F) :
    updateAllowed arithmetic evictAfterOOMThreshold minChangePriority pod now priority = true ↔
      priority.outsideRecommendedRange = true ∨
        (∃ status ∈ pod.containerStatuses, pod.containerStatuses.length = 1 ∧
          ∃ terminated ∈ status.lastTerminated, terminated.reason = "OOMKilled" ∧
            terminated.finishedAt.sub terminated.startedAt < evictAfterOOMThreshold) ∨
        ∃ startTime ∈ pod.startTime, startTime.nanos + 12 * 3600 * 1000000000 ≤ now.nanos ∧
          arithmetic.lt priority.resourceDiff minChangePriority = false := by
  cases startTime : pod.startTime <;>
    simp [updateAllowed, quickOOM_eq_true_iff, podLifetimeUpdateThreshold, startTime, or_assoc]

/-- The priority one addition leaves in the calculator: the processed recommendation's,
when processing succeeds and the pod may be updated. -/
def acceptedPriority (processor : RecommendationProcessor) (policy : Option PodResourcePolicy)
    (conditions : List VerticalPodAutoscalerCondition) (minChangePriority : F)
    (addition : Addition) : Option (PodPriority F) :=
  match processor addition.recommendation policy conditions addition.pod with
  | .error _ => none
  | .ok (processedRecommendation, _) =>
      let priority := getUpdatePriority arithmetic addition.totalsOrder addition.pod
        processedRecommendation
      if updateAllowed arithmetic evictAfterOOMThreshold minChangePriority addition.pod
        addition.now priority
      then some priority else none

/-- `AddPod` appends the accepted priority, if any, and changes nothing else. -/
theorem addPod_eq (calculator : UpdatePriorityCalculator F) (order : TotalsOrder) (pod : Pod)
    (recommendation : Option RecommendedPodResources) (now : Time) :
    addPod arithmetic evictAfterOOMThreshold calculator order pod recommendation now =
      { calculator with pods := calculator.pods ++ (acceptedPriority arithmetic
          evictAfterOOMThreshold calculator.recommendationProcessor calculator.resourcesPolicy
          calculator.conditions calculator.config.minChangePriority
          ⟨pod, recommendation, now, order⟩).toList } := by
  unfold addPod acceptedPriority
  cases calculator.recommendationProcessor recommendation calculator.resourcesPolicy
    calculator.conditions pod with
  | error => simp
  | ok result =>
    obtain ⟨processed, annotations⟩ := result
    simp only [updateAllowed]
    cases outside : (getUpdatePriority arithmetic order pod processed).outsideRecommendedRange <;>
      cases oom : quickOOM evictAfterOOMThreshold pod <;> simp
    cases startTime : pod.startTime with
    | none => simp
    | some start =>
        by_cases old : start.nanos + podLifetimeUpdateThreshold ≤ now.nanos
        · cases arithmetic.lt (getUpdatePriority arithmetic order pod processed).resourceDiff
              calculator.config.minChangePriority <;>
            simp [Time.before, Time.add, old, not_lt.mpr old]
        · simp [Time.before, Time.add, old, lt_of_not_le old]

/-- After a run of additions the calculator holds the accepted priorities in order. -/
theorem addPods_eq (calculator : UpdatePriorityCalculator F) (additions : List Addition) :
    addPods arithmetic evictAfterOOMThreshold calculator additions =
      { calculator with pods := calculator.pods ++ additions.filterMap (acceptedPriority
          arithmetic evictAfterOOMThreshold calculator.recommendationProcessor
          calculator.resourcesPolicy calculator.conditions calculator.config.minChangePriority) } := by
  induction additions generalizing calculator with
  | nil => simp [addPods]
  | cons addition rest ih =>
      simp only [addPods, List.foldl_cons] at ih ⊢
      rw [addPod_eq, ih]
      cases accepted : acceptedPriority arithmetic evictAfterOOMThreshold
          calculator.recommendationProcessor calculator.resourcesPolicy calculator.conditions
          calculator.config.minChangePriority addition <;>
        simp [List.filterMap_cons, accepted]

/-- Any run of `AddPod` calls on a new calculator followed by `GetSortedPods` returns the pods
of those additions whose recommendation the processor accepts, that may be updated (a request
outside the recommended range, a quick OOM kill of the only container, or twelve hours of life
and a resource difference not below the threshold, by default 0.10) and that the admission, if
any, admits: each as often as it was added, scale-up pods first, and within either group by
non-increasing `resourceDiff`.  This holds in any arithmetic whose `<` is a strict weak order. -/
theorem getSortedPods_after_addPods (order : StrictWeakOrder arithmetic.lt)
    (sortAlgorithm : SortAlgorithm) (policy : Option PodResourcePolicy)
    (conditions : List VerticalPodAutoscalerCondition) (config : Option (UpdateConfig F))
    (processor : RecommendationProcessor) (additions : List Addition)
    (admission : Option PodEvictionAdmission) :
    ∃ ordered : List (PodPriority F),
      ordered.Perm (additions.filterMap fun addition =>
        (processor addition.recommendation policy conditions addition.pod).toOption.bind
          fun processed =>
            let priority := getUpdatePriority arithmetic addition.totalsOrder addition.pod
              processed.1
            if (priority.outsideRecommendedRange = true ∨
                (∃ status ∈ addition.pod.containerStatuses,
                  addition.pod.containerStatuses.length = 1 ∧
                  ∃ terminated ∈ status.lastTerminated, terminated.reason = "OOMKilled" ∧
                    terminated.finishedAt.sub terminated.startedAt < evictAfterOOMThreshold) ∨
                ∃ startTime ∈ addition.pod.startTime,
                  startTime.nanos + 12 * 3600 * 1000000000 ≤ addition.now.nanos ∧
                  arithmetic.lt priority.resourceDiff
                    (config.getD ⟨arithmetic.float64 (1 / 10)⟩).minChangePriority = false) ∧
              ∀ admitPod ∈ admission, admitPod addition.pod processed.1 = true
            then some priority else none) ∧
      ordered.Pairwise (fun first second =>
        (first.scaleUp = false → second.scaleUp = false) ∧
          (first.scaleUp = second.scaleUp →
            arithmetic.lt first.resourceDiff second.resourceDiff = false)) ∧
      (getSortedPods arithmetic sortAlgorithm (addPods arithmetic evictAfterOOMThreshold
        (newUpdatePriorityCalculator arithmetic policy conditions config processor) additions)
          admission).2 = ordered.map (·.pod) := by
  rw [addPods_eq]
  set accepted := additions.filterMap (acceptedPriority arithmetic evictAfterOOMThreshold
    processor policy conditions (config.getD ⟨defaultUpdateThreshold arithmetic⟩).minChangePriority)
  set sorted := sortAlgorithm.sort (ByPriority.less arithmetic.lt) accepted
  have ordered : sorted.Pairwise fun before after =>
      ByPriority.less arithmetic.lt after before = false :=
    (sortAlgorithm.sorted _ _ (ByPriority.strictWeakOrder order)).pairwise
      (ByPriority.strictWeakOrder order)
  refine ⟨sorted.filter (admits admission), ((sortAlgorithm.perm _ _).filter _).trans
    (.of_eq ?_), (ordered.filter _).imp fun {before after} notLess => ?_, rfl⟩
  · rw [List.filter_filterMap]
    refine List.filterMap_congr fun addition _ => ?_
    unfold acceptedPriority
    cases processor addition.recommendation policy conditions addition.pod with
    | error => rfl
    | ok processed =>
        have allowed := updateAllowed_eq_true_iff arithmetic evictAfterOOMThreshold
          (config.getD ⟨defaultUpdateThreshold arithmetic⟩).minChangePriority addition.pod
          addition.now (getUpdatePriority arithmetic addition.totalsOrder addition.pod processed.1)
        have admitted := admits_eq_true_iff admission
          (getUpdatePriority arithmetic addition.totalsOrder addition.pod processed.1)
        rw [getUpdatePriority_pod, getUpdatePriority_recommendation] at admitted
        rw [show arithmetic.float64 (1 / 10) = defaultUpdateThreshold arithmetic from rfl]
        simp only [Except.toOption, Option.some_bind, ← allowed, ← admitted]
        split_ifs <;> simp_all [Option.filter]
  · rw [ByPriority.less_eq_false_iff] at notLess
    refine ⟨fun down => ?_, fun same => notLess.2 same.symm⟩
    cases up : after.scaleUp
    · rfl
    · simpa [down] using notLess.1 up

end Operations

/-! ## A run of four additions -/

/-- A cpu request or target of `milli` millicores. -/
def milliCpu (milli : Int) : ResourceList := AList.insert resourceCPU ⟨milli * 1000000, .decimalSI⟩ ∅

/-- The recommendation for `app`: 300m of cpu, within 200m and 400m. -/
def appRecommendation : Option RecommendedPodResources :=
  some ⟨[⟨"app", milliCpu 300, milliCpu 200, milliCpu 400, milliCpu 300⟩]⟩

/-- A pod whose one container `app` requests `milli` millicores. -/
def appPod (name : String) (milli : Int) (startTime : Option Time)
    (statuses : List ContainerStatus) : Pod :=
  ⟨name, "", "default", none, [⟨"app", ⟨none, some (milliCpu milli)⟩⟩], startTime, statuses⟩

/-- Four additions, at twelve hours and a minute: `web-0` requests 100m, below the range;
`worker-0` was killed out of memory a minute after it started; `api-0` is a day old and
requests 350m; `batch-0` is an hour old and requests 300m. -/
def fourAdditions : List Addition :=
  let now : Time := ⟨43260000000000⟩
  [⟨appPod "web-0" 100 none [], appRecommendation, now, .stored⟩,
    ⟨appPod "worker-0" 350 (some ⟨0⟩)
      [⟨some ⟨"OOMKilled", ⟨43200000000000⟩, ⟨43260000000000⟩⟩⟩], appRecommendation, now, .stored⟩,
    ⟨appPod "api-0" 350 (some ⟨-43200000000000⟩) [], appRecommendation, now, .stored⟩,
    ⟨appPod "batch-0" 300 (some ⟨39660000000000⟩) [], appRecommendation, now, .stored⟩]

/-- A recommendation processor that passes the recommendation through, with no annotations. -/
def passThroughProcessor : RecommendationProcessor := fun recommendation _ _ _ =>
  .ok (recommendation, none)

/-- The four additions in exact arithmetic, with a ten-minute OOM threshold, the default
threshold and an admission that refuses `worker-0`. -/
theorem fourAdditions_sorted :
    StrictWeakOrder exactArithmetic.lt ∧
    ∃ ordered : List (PodPriority ℚ),
      ordered.Perm (fourAdditions.filterMap fun addition =>
        (passThroughProcessor addition.recommendation none [] addition.pod).toOption.bind
          fun processed =>
            let priority := getUpdatePriority exactArithmetic addition.totalsOrder addition.pod
              processed.1
            if (priority.outsideRecommendedRange = true ∨
                (∃ status ∈ addition.pod.containerStatuses,
                  addition.pod.containerStatuses.length = 1 ∧
                  ∃ terminated ∈ status.lastTerminated, terminated.reason = "OOMKilled" ∧
                    terminated.finishedAt.sub terminated.startedAt < 600000000000) ∨
                ∃ startTime ∈ addition.pod.startTime,
                  startTime.nanos + 12 * 3600 * 1000000000 ≤ addition.now.nanos ∧
                  exactArithmetic.lt priority.resourceDiff ((none : Option (UpdateConfig ℚ)).getD
                    ⟨exactArithmetic.float64 (1 / 10)⟩).minChangePriority = false) ∧
              ∀ admitPod ∈ (some fun pod _ => pod.name != "worker-0" : Option PodEvictionAdmission),
                admitPod addition.pod processed.1 = true
            then some priority else none) ∧
      ordered.Pairwise (fun first second =>
        (first.scaleUp = false → second.scaleUp = false) ∧
          (first.scaleUp = second.scaleUp →
            exactArithmetic.lt first.resourceDiff second.resourceDiff = false)) ∧
      (getSortedPods exactArithmetic insertionSortAlgorithm (addPods exactArithmetic 600000000000
        (newUpdatePriorityCalculator exactArithmetic none [] none passThroughProcessor)
          fourAdditions) (some fun pod _ => pod.name != "worker-0")).2 =
        ordered.map (·.pod) :=
  ⟨exactArithmetic_strictWeakOrder,
    getSortedPods_after_addPods exactArithmetic 600000000000 exactArithmetic_strictWeakOrder
      insertionSortAlgorithm none [] none passThroughProcessor fourAdditions
      (some fun pod _ => pod.name != "worker-0")⟩

end VerticalPodAutoscaler.Updater
