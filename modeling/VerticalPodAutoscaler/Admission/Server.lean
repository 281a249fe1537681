import VerticalPodAutoscaler.Admission.Patches
import VerticalPodAutoscaler.Admission.Review

/-!
# The admission server

`AdmissionServer.admit` decodes an admission review and dispatches on the resource of its
request: a pod gets the resource patches, a VPA is validated and gets a default update policy,
and anything else is an error.  Only a VPA that fails its checks is denied; every other error
leaves the response allowed, as does a body that does not decode.  The request itself is
dereferenced without a check, so a review that decodes without one makes `admit` panic, and a
panic of the pod patches, in the provider or in indexing the pod's containers, goes through
`admit` as well.
`Serve` hands `admit` the body of a request whose `Content-Type` is exactly
`application/json`, writes the answer back, and observes the status `admit` reports.
-/

namespace VerticalPodAutoscaler.Admission

open Api

/-- The library calls and the map iteration orders an admission runs with: the quantity codec,
`json.Unmarshal` into a VPA, the order of each `range` over a recommended resource list, and
the order of the `range` over a container policy's `MinAllowed`. -/
structure AdmissionEnvironment where
  unmarshalQuantity : Json → Except String Quantity
  quantityString : Quantity → String
  unmarshalVpa : Json → Except String VerticalPodAutoscaler
  patchOrder : RangeOrder
  minAllowedOrder : MapOrder

/-- `AdmissionServer`, by the collaborators `admit` calls; its `limitsChecker` is not one of
them.  The VPA pre-processor returns a VPA whenever it returns no error. -/
structure AdmissionServer where
  recommendationProvider : RecommendationProvider
  podPreProcessor : PodPreProcessor
  vpaPreProcessor : VerticalPodAutoscaler → Bool → Except String VerticalPodAutoscaler

/-- `parseVPA`. -/
def parseVPA (unmarshalVpa : Json → Except String VerticalPodAutoscaler) (raw : Option Json) :
    Except String VerticalPodAutoscaler :=
  rawObject raw >>= unmarshalVpa

/-- The keys of `possibleUpdateModes`. -/
def possibleUpdateModes : List UpdateMode :=
  [updateModeOff, updateModeInitial, updateModeRecreate, updateModeAuto]

/-- The keys of `possibleScalingModes`. -/
def possibleScalingModes : List ContainerScalingMode :=
  [containerScalingModeAuto, containerScalingModeOff]

/-- The `MinAllowed` loop of `validateVPA`: no resource's maximum is below its minimum. -/
def validateMinAllowed (maxAllowed : ResourceList) :
    List (ResourceName × Quantity) → Except String Unit
  | [] => .ok ()
  | (resource, min) :: rest =>
      match maxAllowed.lookup resource with
      | some max =>
          if max.cmp min < 0 then .error ("max resource for " ++ resource ++ " is lower than min")
          else validateMinAllowed maxAllowed rest
      | none => validateMinAllowed maxAllowed rest

/-- The body of `validateVPA`'s loop over the container policies. -/
def validateContainerPolicy (minAllowedOrder : MapOrder) (policy : ContainerResourcePolicy) :
    Except String Unit :=
  if policy.containerName = "" then .error "ContainerPolicies.ContainerName is required"
  else
    match policy.mode with
    | some mode =>
        if mode ∈ possibleScalingModes then
          validateMinAllowed policy.maxAllowed (minAllowedOrder.entries policy.minAllowed)
        else .error ("unexpected Mode value " ++ mode)
    | none => validateMinAllowed policy.maxAllowed (minAllowedOrder.entries policy.minAllowed)

/-- The update-policy check of `validateVPA`. -/
def validateUpdatePolicy : Option PodUpdatePolicy → Except String Unit
  | some policy =>
      match policy.updateMode with
      | none => .error "UpdateMode is required if UpdatePolicy is used"
      | some mode =>
          if mode ∈ possibleUpdateModes then .ok () else .error ("unexpected UpdateMode value " ++ mode)
  | none => .ok ()

/-- The loop of `validateVPA` over the container policies. -/
def validateResourcePolicy (minAllowedOrder : MapOrder) :
    Option PodResourcePolicy → Except String Unit
  | some resourcePolicy =>
      resourcePolicy.containerPolicies.forM (validateContainerPolicy minAllowedOrder)
  | none => .ok ()

/-- `validateVPA`. -/
def validateVPA (minAllowedOrder : MapOrder) (vpa : VerticalPodAutoscaler) (isCreate : Bool) :
    Except String Unit := do
  validateUpdatePolicy vpa.updatePolicy
  validateResourcePolicy minAllowedOrder vpa.resourcePolicy
  if isCreate ∧ vpa.targetRef.isNone then
    throw "TargetRef is required. If you're using v1beta1 version of the API, please migrate to v1."

/-- `AdmissionServer.getPatchesForVPADefaults`. -/
def getPatchesForVPADefaults (environment : AdmissionEnvironment) (server : AdmissionServer)
    (raw : Option Json) (isCreate : Bool) : Except String (List PatchRecord) := do
  let vpa ← parseVPA environment.unmarshalVpa raw
  let vpa ← server.vpaPreProcessor vpa isCreate
  validateVPA environment.minAllowedOrder vpa isCreate
  if vpa.updatePolicy.isNone then
    pure [⟨"add", "/spec/updatePolicy", .obj [("updateMode", .str updateModeAuto)]⟩]
  else pure []

/-- `v1beta1.AdmissionResponse`, by the fields `admit` sets; `Result` is the status and
message of a `metav1.Status`. -/
structure AdmissionResponse where
  allowed : Bool
  result : Option (String × String)
  patchType : Option String
  patch : Option Json

/-- `metrics_admission.AdmissionStatus`. -/
inductive AdmissionStatus where
  | error
  | applied
  | skipped
  deriving DecidableEq, Repr

/-- `metrics_admission.AdmissionResource`. -/
inductive AdmissionResource where
  | unknown
  | pod
  | vpa
  deriving DecidableEq, Repr

/-- The `podResource` of `admit`. -/
def podResource : GroupVersionResource := ⟨"", "v1", "pods"⟩

/-- The `vpaGroupResource` of `admit`, as a group and a resource. -/
def vpaGroupResource : String × String := ("autoscaling.k8s.io", "verticalpodautoscalers")

/-- `json.Marshal(patches)`. -/
def marshalPatches (patches : List PatchRecord) : Json :=
  .arr (patches.map fun patch =>
    .obj [("op", .str patch.op), ("path", .str patch.path), ("value", patch.value)])

/-- The dispatch of `admit` on the request's resource: the patches, the response so far and
the resource for the metrics. -/
def admitRequest (environment : AdmissionEnvironment) (server : AdmissionServer)
    (request : AdmissionRequest) :
    GoResult (List PatchRecord) × AdmissionResponse × AdmissionResource :=
  let response : AdmissionResponse := ⟨true, none, none, none⟩
  if request.resource = podResource then
    (getPatchesForPodResourceRequest environment.quantityString environment.unmarshalQuantity
      environment.patchOrder server.recommendationProvider server.podPreProcessor request.object
      request.«namespace», response, .pod)
  else if (request.resource.group, request.resource.resource) = vpaGroupResource then
    match getPatchesForVPADefaults environment server request.object
        (request.operation = "CREATE") with
    | .error err => (.error err, { response with result := some ("Failure", err), allowed := false },
        .vpa)
    | .ok patches => (.ok patches, response, .vpa)
  else
    (.error ("expected the resource to be one of: \x7b v1 pods\x7d, " ++
      "\x7bautoscaling.k8s.io verticalpodautoscalers\x7d"),
      response, .unknown)

/-- `AdmissionServer.admit`, on the request body as the JSON scanner reads it: a syntax error,
or a JSON value.  `admit` returns no error, so an error here is the message it panics with. -/
def admitReview (environment : AdmissionEnvironment) (server : AdmissionServer)
    (data : Except String Json) :
    Except String (AdmissionResponse × AdmissionStatus × AdmissionResource) :=
  match data >>= decodeAdmissionReview with
  | .error _ => .ok (⟨true, none, none, none⟩, .error, .unknown)
  | .ok review =>
      match review.request with
      | none => .error nilPointerDereference
      | some request =>
          match admitRequest environment server request with
          | (.panic message, _, _) => .error message
          | (.error _, response, resource) => .ok (response, .error, resource)
          | (.ok patches, response, resource) =>
              if patches.length > 0 then
                let response := { response with
                  patchType := some "JSONPatch"
                  patch := some (marshalPatches patches) }
                .ok (response, .applied, resource)
              else .ok (response, .skipped, resource)

/-- The body `{}` decodes to a review with no request, and `admit` dereferences the missing
request: it panics instead of answering, whatever its collaborators. -/
theorem admit_panics_on_review_without_request (environment : AdmissionEnvironment)
    (server : AdmissionServer) :
    admitReview environment server (.ok (.obj [])) = .error nilPointerDereference :=
  rfl

/-! ## Which VPAs are refused -/

/-- The checks of `validateVPA`, as the spec lists them: an update policy without a mode or
with an unknown one; a container policy without a name, with an unknown mode, or with a
maximum below its minimum for some resource; or a create without a target. -/
def InvalidVpa (vpa : VerticalPodAutoscaler) (isCreate : Bool) : Prop :=
  (∃ policy, vpa.updatePolicy = some policy ∧
    (policy.updateMode = none ∨ ∃ mode, policy.updateMode = some mode ∧ mode ∉ possibleUpdateModes)) ∨
  (∃ resourcePolicy, vpa.resourcePolicy = some resourcePolicy ∧
    ∃ policy ∈ resourcePolicy.containerPolicies, policy.containerName = "" ∨
      (∃ mode, policy.mode = some mode ∧ mode ∉ possibleScalingModes) ∨
      ∃ resource min max, policy.minAllowed.lookup resource = some min ∧
        policy.maxAllowed.lookup resource = some max ∧ max.nanos < min.nanos) ∨
  (isCreate = true ∧ vpa.targetRef = none)

@[simp] theorem isOk_bind {α β : Type} (first : Except String α) (next : α → Except String β) :
    (first >>= next).isOk = false ↔
      first.isOk = false ∨ ∃ a, first = .ok a ∧ (next a).isOk = false := by
  cases first <;> simp [bind, Except.bind, Except.isOk, Except.toBool]

theorem isOk_bind_unit {β : Type} (first : Except String Unit) (next : Unit → Except String β) :
    (first >>= next).isOk = false ↔ first.isOk = false ∨ (next ()).isOk = false := by
  cases first <;> simp [bind, Except.bind, Except.isOk, Except.toBool]

theorem validateMinAllowed_isOk (maxAllowed : ResourceList) (visit : List (ResourceName × Quantity)) :
    (validateMinAllowed maxAllowed visit).isOk = false ↔
      ∃ entry ∈ visit, ∃ max, maxAllowed.lookup entry.1 = some max ∧ max.nanos < entry.2.nanos := by
  induction visit with
  | nil => simp [validateMinAllowed, Except.isOk, Except.toBool]
  | cons entry rest ih =>
      obtain ⟨resource, min⟩ := entry
      simp only [validateMinAllowed, List.mem_cons, exists_eq_or_imp]
      cases bound : maxAllowed.lookup resource with
      | none => simp [ih]
      | some max =>
          by_cases below : max.nanos < min.nanos
          · simp [below, Except.isOk, Except.toBool]
          · simp [below, ih]

theorem validateContainerPolicy_isOk (minAllowedOrder : MapOrder)
    (policy : ContainerResourcePolicy) :
    (validateContainerPolicy minAllowedOrder policy).isOk = false ↔
      policy.containerName = "" ∨ (∃ mode, policy.mode = some mode ∧ mode ∉ possibleScalingModes) ∨
        ∃ resource min max, policy.minAllowed.lookup resource = some min ∧
          policy.maxAllowed.lookup resource = some max ∧ max.nanos < min.nanos := by
  have minMax : (validateMinAllowed policy.maxAllowed
      (minAllowedOrder.entries policy.minAllowed)).isOk = false ↔
        ∃ resource min max, policy.minAllowed.lookup resource = some min ∧
          policy.maxAllowed.lookup resource = some max ∧ max.nanos < min.nanos := by
    rw [validateMinAllowed_isOk]
    constructor
    · rintro ⟨⟨resource, min⟩, member, max, bound, below⟩
      exact ⟨resource, min, max,
        ResourceList.mem_pairs.mp ((minAllowedOrder.perm _).subset member), bound, below⟩
    · rintro ⟨resource, min, max, entry, bound, below⟩
      exact ⟨(resource, min),
        (minAllowedOrder.perm _).symm.subset (ResourceList.mem_pairs.mpr entry), max, bound, below⟩
  unfold validateContainerPolicy
  split_ifs with unnamed
  · simp [unnamed, Except.isOk, Except.toBool]
  · cases given : policy.mode with
    | none => simp [unnamed, minMax]
    | some mode =>
        by_cases known : mode ∈ possibleScalingModes
        · simp [unnamed, known, minMax]
        · simp [unnamed, known, Except.isOk, Except.toBool]

theorem forM_isOk {α : Type} (items : List α) (check : α → Except String Unit) :
    (items.forM check).isOk = false ↔ ∃ item ∈ items, (check item).isOk = false := by
  induction items with
  | nil => simp [Except.isOk, Except.toBool, pure, Except.pure]
  | cons item rest ih =>
      simp only [List.forM, List.mem_cons, exists_eq_or_imp]
      cases checked : check item with
      | error => simp [bind, Except.bind, Except.isOk, Except.toBool]
      | ok =>
          simp only [bind, Except.bind]
          rw [ih]
          simp [Except.isOk, Except.toBool]

/-- `validateVPA` refuses exactly the VPAs with one of the listed defects. -/
theorem validateVPA_isOk (minAllowedOrder : MapOrder) (vpa : VerticalPodAutoscaler)
    (isCreate : Bool) :
    (validateVPA minAllowedOrder vpa isCreate).isOk = false ↔ InvalidVpa vpa isCreate := by
  have update : (validateUpdatePolicy vpa.updatePolicy).isOk = false ↔
      ∃ policy, vpa.updatePolicy = some policy ∧ (policy.updateMode = none ∨
        ∃ mode, policy.updateMode = some mode ∧ mode ∉ possibleUpdateModes) := by
    cases vpa.updatePolicy with
    | none => simp [validateUpdatePolicy, Except.isOk, Except.toBool]
    | some policy =>
        obtain ⟨_ | mode⟩ := policy
        · simp [validateUpdatePolicy, Except.isOk, Except.toBool]
        · by_cases known : mode ∈ possibleUpdateModes <;>
            simp [validateUpdatePolicy, known, Except.isOk, Except.toBool]
  have resources : (validateResourcePolicy minAllowedOrder vpa.resourcePolicy).isOk = false ↔
      ∃ resourcePolicy, vpa.resourcePolicy = some resourcePolicy ∧
        ∃ policy ∈ resourcePolicy.containerPolicies, policy.containerName = "" ∨
          (∃ mode, policy.mode = some mode ∧ mode ∉ possibleScalingModes) ∨
          ∃ resource min max, policy.minAllowed.lookup resource = some min ∧
            policy.maxAllowed.lookup resource = some max ∧ max.nanos < min.nanos := by
    cases vpa.resourcePolicy with
    | none => exact iff_of_false nofun (by simp)
    | some resourcePolicy =>
        simp only [validateResourcePolicy, forM_isOk, validateContainerPolicy_isOk,
          Option.some.injEq, exists_eq_left']
  have target : (if isCreate = true ∧ vpa.targetRef.isNone = true then
      (throw "TargetRef is required. If you're using v1beta1 version of the API, please migrate to v1." :
        Except String Unit) else pure ()).isOk = false ↔ isCreate = true ∧ vpa.targetRef = none := by
    simp only [Option.isNone_iff_eq_none]
    split_ifs with missing
    · exact iff_of_true rfl missing
    · exact iff_of_false nofun missing
  simp only [validateVPA, isOk_bind_unit, update, resources, target, InvalidVpa]

/-- `getPatchesForVPADefaults` fails exactly when the object does not decode, the VPA
preprocessor fails, or the processed VPA has one of the defects `validateVPA` checks. -/
theorem getPatchesForVPADefaults_isOk (environment : AdmissionEnvironment)
    (server : AdmissionServer) (raw : Option Json) (isCreate : Bool) :
    (getPatchesForVPADefaults environment server raw isCreate).isOk = false ↔
      (parseVPA environment.unmarshalVpa raw).isOk = false ∨
        ∃ vpa, parseVPA environment.unmarshalVpa raw = .ok vpa ∧
          ((server.vpaPreProcessor vpa isCreate).isOk = false ∨
            ∃ processed, server.vpaPreProcessor vpa isCreate = .ok processed ∧
              InvalidVpa processed isCreate) := by
  have defaults : ∀ vpa : VerticalPodAutoscaler, ((if vpa.updatePolicy.isNone then
      pure [⟨"add", "/spec/updatePolicy", .obj [("updateMode", .str updateModeAuto)]⟩]
      else pure []) : Except String (List PatchRecord)).isOk = false ↔ False := fun vpa => by
    split_ifs <;> simp [pure, Except.pure, Except.isOk, Except.toBool]
  simp only [getPatchesForVPADefaults, isOk_bind, isOk_bind_unit, defaults, validateVPA_isOk,
    and_false, exists_false, or_false]

/-! ## When a response is denied -/

/-- The dispatch denies exactly a VPA request whose defaults cannot be computed. -/
theorem admitRequest_allowed_eq_false_iff (environment : AdmissionEnvironment)
    (server : AdmissionServer) (request : AdmissionRequest) :
    (admitRequest environment server request).2.1.allowed = false ↔
      request.resource ≠ podResource ∧
        (request.resource.group, request.resource.resource) = vpaGroupResource ∧
        (getPatchesForVPADefaults environment server request.object
          (request.operation = "CREATE")).isOk = false := by
  unfold admitRequest
  split_ifs with pod vpa
  · simp [pod]
  · cases getPatchesForVPADefaults environment server request.object
      (request.operation = "CREATE") <;> simp [pod, vpa, Except.isOk, Except.toBool]
  · simp [pod, vpa]

/-- The dispatch panics exactly on a pod request whose patches panic. -/
theorem admitRequest_eq_panic_iff (environment : AdmissionEnvironment)
    (server : AdmissionServer) (request : AdmissionRequest) (message : String) :
    (admitRequest environment server request).1 = .panic message ↔
      request.resource = podResource ∧
        getPatchesForPodResourceRequest environment.quantityString environment.unmarshalQuantity
          environment.patchOrder server.recommendationProvider server.podPreProcessor
          request.object request.«namespace» = .panic message := by
  unfold admitRequest
  split_ifs with pod vpa
  · simp [pod]
  · cases getPatchesForVPADefaults environment server request.object
      (request.operation = "CREATE") <;> simp [pod]
  · simp [pod]

/-- `admit` panics exactly on a review without a request and on a pod request whose patches
panic. -/
theorem admitReview_eq_error_iff (environment : AdmissionEnvironment) (server : AdmissionServer)
    (data : Except String Json) (message : String) :
    admitReview environment server data = .error message ↔
      ∃ review, (data >>= decodeAdmissionReview) = .ok review ∧
        (review.request = none ∧ message = nilPointerDereference ∨
          ∃ request, review.request = some request ∧ request.resource = podResource ∧
            getPatchesForPodResourceRequest environment.quantityString environment.unmarshalQuantity
              environment.patchOrder server.recommendationProvider server.podPreProcessor
              request.object request.«namespace» = .panic message) := by
  unfold admitReview
  cases data >>= decodeAdmissionReview with
  | error => simp
  | ok review =>
      obtain ⟨_ | request⟩ := review
      · simp [eq_comm]
      · simp only [Except.ok.injEq, exists_eq_left', Option.some.injEq, reduceCtorEq, false_and,
          false_or]
        rw [← admitRequest_eq_panic_iff]
        generalize admitRequest environment server request = dispatched
        obtain ⟨_ | _ | _, _, _⟩ := dispatched
        · dsimp only
          split_ifs <;> simp
        · simp
        · simp

/-- The dispatch sets neither a patch nor its type, and allows every request it has patches
for. -/
theorem admitRequest_response (environment : AdmissionEnvironment) (server : AdmissionServer)
    (request : AdmissionRequest) :
    (admitRequest environment server request).2.1.patchType = none ∧
      (admitRequest environment server request).2.1.patch = none ∧
      ∀ patches, (admitRequest environment server request).1 = .ok patches →
        (admitRequest environment server request).2.1.allowed = true := by
  unfold admitRequest
  split_ifs
  · simp
  · cases getPatchesForVPADefaults environment server request.object
      (request.operation = "CREATE") <;> simp
  · simp

/-- The status `admit` reports agrees with its response: applied exactly when the response has
a patch, which is then allowed and typed `JSONPatch`, and an error whenever it is denied. -/
theorem admitReview_status_agrees (environment : AdmissionEnvironment) (server : AdmissionServer)
    (data : Except String Json) {response : AdmissionResponse} {status : AdmissionStatus}
    {resource : AdmissionResource}
    (answered : admitReview environment server data = .ok (response, status, resource)) :
    (status = .applied ↔ response.patch.isSome) ∧
      (response.patch.isSome → response.allowed = true ∧ response.patchType = some "JSONPatch") ∧
      (response.allowed = false → status = .error) := by
  unfold admitReview at answered
  cases decoded : data >>= decodeAdmissionReview with
  | error =>
      simp only [decoded, Except.ok.injEq, Prod.mk.injEq] at answered
      obtain ⟨rfl, rfl, rfl⟩ := answered
      simp
  | ok review =>
      obtain ⟨_ | request⟩ := review
      · simp [decoded] at answered
      · obtain ⟨noType, noPatch, allowed⟩ := admitRequest_response environment server request
        simp only [decoded] at answered
        generalize admitRequest environment server request = dispatched at *
        obtain ⟨_ | _ | _, dispatchedResponse, dispatchedResource⟩ := dispatched <;>
          dsimp only at noType noPatch allowed answered
        · split_ifs at answered <;> simp only [Except.ok.injEq, Prod.mk.injEq] at answered <;>
            obtain ⟨rfl, rfl, rfl⟩ := answered <;> simp [noPatch, allowed _ rfl]
        · simp only [Except.ok.injEq, Prod.mk.injEq] at answered
          obtain ⟨rfl, rfl, rfl⟩ := answered
          simp [noPatch]
        · cases answered

/-- What `Serve` did with one request: the response of the review it writes, when it gets that
far, and the status and resource it observes the admission latency under. -/
structure Served where
  answer : Option AdmissionResponse
  observed : AdmissionStatus × AdmissionResource

/-- `AdmissionServer.Serve`, on the body as the JSON scanner reads it (`none` when the request
has no body or reading it fails, which leaves the body empty), the `Content-Type` header, and
what `w.Write` returns.  A panic of `admit` is an error. -/
def serve (environment : AdmissionEnvironment) (server : AdmissionServer)
    (body : Option (Except String Json)) (contentType : String) (write : Except String Unit) :
    Except String Served :=
  if contentType ≠ "application/json" then .ok ⟨none, .error, .unknown⟩
  else
    (admitReview environment server (body.getD (.error "unexpected end of JSON input"))).map
      fun (response, status, resource) =>
        match write with
        | .error _ => ⟨some response, .error, resource⟩
        | .ok () => ⟨some response, status, resource⟩

end VerticalPodAutoscaler.Admission
