import VerticalPodAutoscaler.Api.Core

/-!
# The target selector fetcher

`vpaTargetSelectorFetcher.Fetch` reads the label selector of a VPA's target.  For the seven
well-known controller kinds it reads the object from that kind's informer store; for any
other kind it asks the REST mapper for the kind's resources and tries the scale subresource
of each until one answers.  The informer stores, the mapper and the scale client are the
fetcher's environment and range over every answer; the `labels` library calls return a
non-nil selector whenever they succeed.  Go's `(labels.Selector, error)` results become
`Except String (Option Selector)`, where `none` is a nil selector: every `return` of the
source with an error has a nil selector.

The fetcher's mapper may answer a kind with no mapping and no error, and `Fetch` then returns
a nil selector with a nil error.  The mapper `NewVpaTargetSelectorFetcher` builds never does:
it reports a kind that nothing maps as an error, so the fetchers the program builds return a
non-nil selector whenever they return no error.
-/

namespace VerticalPodAutoscaler.Target

open Api

/-- `wellKnownController`. -/
abbrev WellKnownController := String

def daemonSet : WellKnownController := "DaemonSet"
def deployment : WellKnownController := "Deployment"
def replicaSet : WellKnownController := "ReplicaSet"
def statefulSet : WellKnownController := "StatefulSet"
def replicationController : WellKnownController := "ReplicationController"
def job : WellKnownController := "Job"
def cronJob : WellKnownController := "CronJob"

/-- The keys of `informersMap`, in the order `NewVpaTargetSelectorFetcher` lists them. -/
def wellKnownControllers : List WellKnownController :=
  [daemonSet, deployment, replicaSet, statefulSet, replicationController, job, cronJob]

/-- A `labels.Set`, a `map[string]string`. -/
abbrev Labels := AList (fun _ : String => String)

/-- An object of an informer store, by the field `getLabelSelector` reads from it. -/
inductive StoredObject (LabelSelector : Type) where
  | daemonSet (selector : Option LabelSelector)
  | deployment (selector : Option LabelSelector)
  | statefulSet (selector : Option LabelSelector)
  | replicaSet (selector : Option LabelSelector)
  | job (selector : Option LabelSelector)
  | cronJob (templateLabels : Option Labels)
  | replicationController (selector : Option Labels)
  | other

/-- `cache.SharedIndexInformer`, by its store's `GetByKey`: the object under the key, if it
exists. -/
abbrev Informer (LabelSelector : Type) := String → Except String (Option (StoredObject LabelSelector))

/-- `schema.GroupVersion`. -/
structure GroupVersion where
  group : String
  version : String
  deriving DecidableEq, Repr

/-- `schema.GroupKind`. -/
structure GroupKind where
  group : String
  kind : String
  deriving DecidableEq, Repr

/-- `schema.GroupResource`. -/
structure GroupResource where
  group : String
  resource : String
  deriving DecidableEq, Repr

/-- `meta.RESTMapping`, by its resource's `GroupResource()`. -/
structure RESTMapping where
  groupResource : GroupResource

/-- The `labels` and `metav1` calls `getLabelSelector` and `getLabelSelectorFromResource`
make.  Each returns a non-nil selector when it succeeds. -/
structure LabelsLibrary (Selector LabelSelector : Type) where
  labelSelectorAsSelector : Option LabelSelector → Except String Selector
  setAsLabelSelector : Option Labels → Option LabelSelector
  parse : String → Except String Selector

/-- `vpaTargetSelectorFetcher`: the scale client, by the status selector of the scale that
`Scales(namespace).Get(groupResource, name)` returns, the mapper's `RESTMappings`, and the
informer of each well-known kind. -/
structure VpaTargetSelectorFetcher (LabelSelector : Type) where
  scaleNamespacer : String → GroupResource → String → Except String String
  mapper : GroupKind → Except String (List RESTMapping)
  informersMap : AList (fun _ : WellKnownController => Informer LabelSelector)

/-- The `RESTMappings` of the mapper `restmapper.NewDeferredDiscoveryRESTMapper` builds, absent
from the source: it answers a kind that nothing maps with a `NoKindMatchError`, never with an
empty list. -/
structure DeferredDiscoveryRESTMapper where
  restMappings : GroupKind → Except String (List RESTMapping)
  nonempty : ∀ groupKind, restMappings groupKind ≠ .ok []

/-- `NewVpaTargetSelectorFetcher`, given the informer of each kind, the mapper and the scale
client it builds. -/
def newVpaTargetSelectorFetcher {LabelSelector : Type}
    (informers : WellKnownController → Informer LabelSelector)
    (mapper : DeferredDiscoveryRESTMapper)
    (scaleNamespacer : String → GroupResource → String → Except String String) :
    VpaTargetSelectorFetcher LabelSelector :=
  { scaleNamespacer := scaleNamespacer
    mapper := mapper.restMappings
    informersMap := wellKnownControllers.foldr (fun kind map => map.insert kind (informers kind)) ∅ }

/-- `schema.ParseGroupVersion`: no slash gives the core group, one slash separates the group
from the version. -/
def parseGroupVersion (gv : String) : Except String GroupVersion :=
  if gv.isEmpty || gv == "/" then .ok ⟨"", ""⟩
  else
    match gv.toList.splitOn '/' with
    | [version] => .ok ⟨"", String.mk version⟩
    | [group, version] => .ok ⟨String.mk group, String.mk version⟩
    | _ => .error ("unexpected GroupVersion string: " ++ gv)

section Fetch

variable {Selector LabelSelector : Type} (library : LabelsLibrary Selector LabelSelector)

/-- `getLabelSelector`. -/
def getLabelSelector (informer : Informer LabelSelector) (kind «namespace» name : String) :
    Except String (Option Selector) :=
  match informer («namespace» ++ "/" ++ name) with
  | .error err => .error err
  | .ok none => .error (kind ++ " " ++ «namespace» ++ "/" ++ name ++ " does not exist")
  | .ok (some obj) =>
      match obj with
      | .daemonSet selector | .deployment selector | .statefulSet selector
      | .replicaSet selector | .job selector =>
          some <$> library.labelSelectorAsSelector selector
      | .cronJob templateLabels =>
          some <$> library.labelSelectorAsSelector (library.setAsLabelSelector templateLabels)
      | .replicationController selector =>
          some <$> library.labelSelectorAsSelector (library.setAsLabelSelector selector)
      | .other => .error "Don't know how to read label seletor"

/-- The loop of `getLabelSelectorFromResource` over the mappings, with the last error seen:
the first scale that answers gives the selector, and when none does the last error is
returned, with a nil selector. -/
def selectorFromMappings
    (scaleNamespacer : String → GroupResource → String → Except String String)
    («namespace» name : String) (lastError : Option String) :
    List RESTMapping → Except String (Option Selector)
  | [] =>
      match lastError with
      | none => .ok none
      | some err => .error err
  | mapping :: rest =>
      match scaleNamespacer «namespace» mapping.groupResource name with
      | .ok selector =>
          match library.parse selector with
          | .error err => .error err
          | .ok selector => .ok (some selector)
      | .error err => selectorFromMappings scaleNamespacer «namespace» name (some err) rest

/-- `vpaTargetSelectorFetcher.getLabelSelectorFromResource`. -/
def getLabelSelectorFromResource (fetcher : VpaTargetSelectorFetcher LabelSelector)
    (groupKind : GroupKind) («namespace» name : String) : Except String (Option Selector) :=
  match fetcher.mapper groupKind with
  | .error err => .error err
  | .ok mappings => selectorFromMappings library fetcher.scaleNamespacer «namespace» name none mappings

/-- `vpaTargetSelectorFetcher.Fetch`. -/
def fetch (fetcher : VpaTargetSelectorFetcher LabelSelector) (vpa : VerticalPodAutoscaler) :
    Except String (Option Selector) :=
  match vpa.targetRef with
  | none => .error "targetRef not defined. If this is a v1beta1 object switch to v1beta2."
  | some targetRef =>
      match fetcher.informersMap.lookup targetRef.kind with
      | some informer =>
          getLabelSelector library informer targetRef.kind vpa.«namespace» targetRef.name
      | none =>
          match parseGroupVersion targetRef.apiVersion with
          | .error err => .error err
          | .ok groupVersion =>
              match getLabelSelectorFromResource library fetcher
                  ⟨groupVersion.group, targetRef.kind⟩ vpa.«namespace» targetRef.name with
              | .error err =>
                  .error ("Unhandled targetRef " ++ targetRef.apiVersion ++ " / " ++
                    targetRef.kind ++ " / " ++ targetRef.name ++ ", last error " ++ err)
              | .ok selector => .ok selector

/-! ## When a nil selector comes back without an error -/

theorem map_some_ok {result : Except String Selector} {selector : Option Selector}
    (ok : some <$> result = .ok selector) : selector.isSome := by
  cases result with
  | error => cases ok
  | ok value => cases ok; rfl

/-- A well-known kind's object gives a non-nil selector whenever it gives no error. -/
theorem getLabelSelector_ok_isSome {informer : Informer LabelSelector}
    {kind «namespace» name : String} {selector : Option Selector}
    (ok : getLabelSelector library informer kind «namespace» name = .ok selector) :
    selector.isSome := by
  unfold getLabelSelector at ok
  split at ok
  · cases ok
  · cases ok
  · split at ok <;> first | exact map_some_ok ok | cases ok

/-- The loop returns a nil selector without an error only when it has no mapping to try and
has seen no error. -/
theorem selectorFromMappings_ok_none_iff
    (scaleNamespacer : String → GroupResource → String → Except String String)
    («namespace» name : String) (lastError : Option String) (mappings : List RESTMapping) :
    selectorFromMappings library scaleNamespacer «namespace» name lastError mappings = .ok none ↔
      mappings = [] ∧ lastError = none := by
  induction mappings generalizing lastError with
  | nil => cases lastError <;> simp [selectorFromMappings]
  | cons mapping rest ih =>
      simp only [selectorFromMappings, reduceCtorEq, false_and, iff_false]
      split
      · split <;> simp
      · simp [ih]

/-- `Fetch` returns a nil selector and no error exactly when the target is of a kind without
an informer, its API version parses, and the mapper answers with no mapping. -/
theorem fetch_ok_none_iff (fetcher : VpaTargetSelectorFetcher LabelSelector)
    (vpa : VerticalPodAutoscaler) :
    fetch library fetcher vpa = .ok none ↔
      ∃ targetRef, vpa.targetRef = some targetRef ∧
        fetcher.informersMap.lookup targetRef.kind = none ∧
        ∃ groupVersion, parseGroupVersion targetRef.apiVersion = .ok groupVersion ∧
          fetcher.mapper ⟨groupVersion.group, targetRef.kind⟩ = .ok [] := by
  unfold fetch
  cases vpa.targetRef with
  | none => simp
  | some targetRef =>
      simp only [Option.some.injEq, exists_eq_left']
      cases fetcher.informersMap.lookup targetRef.kind with
      | some informer =>
          simp only [reduceCtorEq, false_and, iff_false]
          intro ok
          simpa using getLabelSelector_ok_isSome library ok
      | none =>
          simp only [true_and]
          cases parseGroupVersion targetRef.apiVersion with
          | error => simp
          | ok groupVersion =>
              simp only [Except.ok.injEq, exists_eq_left']
              unfold getLabelSelectorFromResource
              cases fetcher.mapper ⟨groupVersion.group, targetRef.kind⟩ with
              | error => simp
              | ok mappings =>
                  have loop := selectorFromMappings_ok_none_iff library fetcher.scaleNamespacer
                    vpa.«namespace» targetRef.name none mappings
                  simp only [and_true] at loop
                  simp only [Except.ok.injEq, ← loop]
                  split <;> simp_all

/-! ## The scale subresources of a kind without an informer -/

/-- Mappings whose scale subresource does not answer are passed over, each leaving its error as
the last one seen. -/
theorem selectorFromMappings_skip
    (scaleNamespacer : String → GroupResource → String → Except String String)
    («namespace» name : String) (lastError : Option String) {before : List RESTMapping}
    (rest : List RESTMapping)
    (failed : ∀ mapping ∈ before,
      ∃ err, scaleNamespacer «namespace» mapping.groupResource name = .error err) :
    ∃ lastError', selectorFromMappings library scaleNamespacer «namespace» name lastError
        (before ++ rest) =
      selectorFromMappings library scaleNamespacer «namespace» name lastError' rest := by
  induction before generalizing lastError with
  | nil => exact ⟨lastError, rfl⟩
  | cons mapping before ih =>
      obtain ⟨err, refused⟩ := failed mapping (List.mem_cons_self _ _)
      simp only [List.cons_append, selectorFromMappings, refused]
      exact ih (some err) fun other member => failed other (List.mem_cons_of_mem _ member)

/-- For a target of a kind without an informer, `Fetch` is the loop over the kind's mappings,
with the loop's error reported as an unhandled target. -/
theorem fetch_eq_fromMappings (fetcher : VpaTargetSelectorFetcher LabelSelector)
    {vpa : VerticalPodAutoscaler} {targetRef : CrossVersionObjectReference}
    (target : vpa.targetRef = some targetRef)
    (noInformer : fetcher.informersMap.lookup targetRef.kind = none)
    {groupVersion : GroupVersion}
    (parsed : parseGroupVersion targetRef.apiVersion = .ok groupVersion)
    {mappings : List RESTMapping}
    (mapped : fetcher.mapper ⟨groupVersion.group, targetRef.kind⟩ = .ok mappings) :
    fetch library fetcher vpa =
      (selectorFromMappings library fetcher.scaleNamespacer vpa.«namespace» targetRef.name none
        mappings).mapError fun err => "Unhandled targetRef " ++ targetRef.apiVersion ++ " / " ++
          targetRef.kind ++ " / " ++ targetRef.name ++ ", last error " ++ err := by
  simp only [fetch, target, noInformer, parsed, getLabelSelectorFromResource, mapped]
  cases selectorFromMappings library fetcher.scaleNamespacer vpa.«namespace» targetRef.name none
    mappings <;> rfl

end Fetch

/-- The informers map `NewVpaTargetSelectorFetcher` builds has an informer for exactly the
well-known kinds. -/
theorem informersMap_lookup {LabelSelector : Type}
    (informers : WellKnownController → Informer LabelSelector)
    (mapper : DeferredDiscoveryRESTMapper)
    (scaleNamespacer : String → GroupResource → String → Except String String)
    (kind : WellKnownController) :
    (newVpaTargetSelectorFetcher informers mapper scaleNamespacer).informersMap.lookup kind =
      if kind ∈ wellKnownControllers then some (informers kind) else none := by
  unfold newVpaTargetSelectorFetcher
  induction wellKnownControllers with
  | nil => simp
  | cons known rest ih =>
      simp only [List.foldr_cons, List.mem_cons]
      by_cases same : kind = known
      · subst same
        simp [AList.lookup_insert]
      · simp [AList.lookup_insert_ne same, same, ih]

/-- A VPA targeting a well-known kind is answered from that kind's informer. -/
theorem fetch_wellKnown {Selector LabelSelector : Type}
    (library : LabelsLibrary Selector LabelSelector)
    (informers : WellKnownController → Informer LabelSelector)
    (mapper : DeferredDiscoveryRESTMapper)
    (scaleNamespacer : String → GroupResource → String → Except String String)
    {vpa : VerticalPodAutoscaler} {targetRef : CrossVersionObjectReference}
    (target : vpa.targetRef = some targetRef) (known : targetRef.kind ∈ wellKnownControllers) :
    fetch library (newVpaTargetSelectorFetcher informers mapper scaleNamespacer) vpa =
      getLabelSelector library (informers targetRef.kind) targetRef.kind vpa.«namespace»
        targetRef.name := by
  simp [fetch, target, informersMap_lookup, known]

/-- A label library whose selectors carry nothing, for concrete runs. -/
def unitLabels : LabelsLibrary Unit Unit := ⟨fun _ => .ok (), fun _ => none, fun _ => .ok ()⟩

/-- An informer whose store is empty. -/
def emptyInformer : Informer Unit := fun _ => .ok none

/-- A VPA whose target is a custom resource, of a kind with no informer. -/
def customTargetVpa : VerticalPodAutoscaler :=
  { name := "custom"
    «namespace» := "default"
    targetRef := some ⟨"Foo", "foo", "example.com/v1"⟩
    updatePolicy := none
    resourcePolicy := none
    recommendation := none
    conditions := [] }

/-- A fetcher built as `NewVpaTargetSelectorFetcher` builds one, but whose mapper finds no
mapping for the custom kind and reports no error, returns a nil selector with a nil error,
whatever the informers, the scale client and the label library are. -/
theorem fetch_emptyMappings_eq_ok_none {Selector LabelSelector : Type}
    (library : LabelsLibrary Selector LabelSelector)
    (informers : WellKnownController → Informer LabelSelector)
    (mapper : DeferredDiscoveryRESTMapper)
    (scaleNamespacer : String → GroupResource → String → Except String String) :
    fetch library { newVpaTargetSelectorFetcher informers mapper scaleNamespacer with
      mapper := fun _ => .ok [] } customTargetVpa = .ok none :=
  rfl

/-- A fetcher whose mapper never answers with an empty list never returns a nil selector with
a nil error. -/
theorem fetch_ne_ok_none_of_nonempty {Selector LabelSelector : Type}
    (library : LabelsLibrary Selector LabelSelector) (fetcher : VpaTargetSelectorFetcher LabelSelector)
    (nonempty : ∀ groupKind, fetcher.mapper groupKind ≠ .ok []) (vpa : VerticalPodAutoscaler) :
    fetch library fetcher vpa ≠ .ok none := by
  intro nil
  cases target : vpa.targetRef with
  | none => simp [fetch, target] at nil
  | some targetRef =>
      cases informer : fetcher.informersMap.lookup targetRef.kind with
      | some informer' =>
          simp only [fetch, target, informer] at nil
          simpa using getLabelSelector_ok_isSome library nil
      | none =>
          cases parsed : parseGroupVersion targetRef.apiVersion with
          | error => simp [fetch, target, informer, parsed] at nil
          | ok groupVersion =>
              cases mapped : fetcher.mapper ⟨groupVersion.group, targetRef.kind⟩ with
              | error =>
                  simp [fetch, target, informer, parsed, getLabelSelectorFromResource, mapped] at nil
              | ok mappings =>
                  rw [fetch_eq_fromMappings library fetcher target informer parsed mapped] at nil
                  cases loop : selectorFromMappings library fetcher.scaleNamespacer vpa.«namespace»
                      targetRef.name none mappings with
                  | error => simp [loop, Except.mapError] at nil
                  | ok selector =>
                      simp only [loop, Except.mapError, Except.ok.injEq] at nil
                      subst nil
                      exact nonempty _ (mapped.trans (congrArg _
                        ((selectorFromMappings_ok_none_iff library _ _ _ _ _).mp loop).1))

/-- A fetcher built by `NewVpaTargetSelectorFetcher` never returns a nil selector with a nil
error, for every VPA, informer store, mapper answer and scale answer: a well-known kind's
selector comes from a successful `labels` call, and the mapper gives any other kind at least
one mapping to try, whose failure is an error. -/
theorem fetch_ne_ok_none {Selector LabelSelector : Type}
    (library : LabelsLibrary Selector LabelSelector)
    (informers : WellKnownController → Informer LabelSelector)
    (mapper : DeferredDiscoveryRESTMapper)
    (scaleNamespacer : String → GroupResource → String → Except String String)
    (vpa : VerticalPodAutoscaler) :
    fetch library (newVpaTargetSelectorFetcher informers mapper scaleNamespacer) vpa ≠
      .ok none :=
  fetch_ne_ok_none_of_nonempty library _ mapper.nonempty vpa

/-- For a target of a kind without an informer whose API version parses and whose mapper
answers, `Fetch` asks the scale subresource of each mapping in turn.  The first that answers
gives the selector, parsed from its status; when none answers, the last error is reported; both
errors are reported as an unhandled target; and with no mapping at all the selector is nil and
there is no error. -/
theorem fetch_firstAnsweringScale {Selector LabelSelector : Type}
    (library : LabelsLibrary Selector LabelSelector)
    (fetcher : VpaTargetSelectorFetcher LabelSelector)
    {vpa : VerticalPodAutoscaler} {targetRef : CrossVersionObjectReference}
    (target : vpa.targetRef = some targetRef)
    (noInformer : fetcher.informersMap.lookup targetRef.kind = none)
    {groupVersion : GroupVersion}
    (parsed : parseGroupVersion targetRef.apiVersion = .ok groupVersion)
    {mappings : List RESTMapping}
    (mapped : fetcher.mapper ⟨groupVersion.group, targetRef.kind⟩ = .ok mappings) :
    let scale := fun mapping : RESTMapping =>
      fetcher.scaleNamespacer vpa.«namespace» mapping.groupResource targetRef.name
    let unhandled := fun err => "Unhandled targetRef " ++ targetRef.apiVersion ++ " / " ++
      targetRef.kind ++ " / " ++ targetRef.name ++ ", last error " ++ err
    (∀ before mapping after status, mappings = before ++ mapping :: after →
      (∀ other ∈ before, ∃ err, scale other = .error err) → scale mapping = .ok status →
        fetch library fetcher vpa = (some <$> library.parse status).mapError unhandled) ∧
    (∀ before last err, mappings = before ++ [last] →
      (∀ other ∈ before, ∃ err, scale other = .error err) → scale last = .error err →
        fetch library fetcher vpa = .error (unhandled err)) ∧
    (mappings = [] → fetch library fetcher vpa = .ok none) := by
  dsimp only
  rw [fetch_eq_fromMappings library fetcher target noInformer parsed mapped]
  refine ⟨fun before mapping after status split failed answered => ?_,
    fun before last err split failed refused => ?_, fun none => by subst none; rfl⟩
  · obtain ⟨lastError, skipped⟩ := selectorFromMappings_skip library fetcher.scaleNamespacer
      vpa.«namespace» targetRef.name none (mapping :: after) failed
    rw [split, skipped]
    simp only [selectorFromMappings, answered]
    cases library.parse status <;> rfl
  · obtain ⟨lastError, skipped⟩ := selectorFromMappings_skip library fetcher.scaleNamespacer
      vpa.«namespace» targetRef.name none [last] failed
    rw [split, skipped]
    simp only [selectorFromMappings, refused]
    rfl

/-- Two resources of the custom kind `Foo`. -/
def fooMappings : List RESTMapping :=
  [⟨⟨"example.com", "foos"⟩⟩, ⟨⟨"example.com", "foosets"⟩⟩]

/-- A mapper that maps every kind to `fooMappings`. -/
def fooMapper : DeferredDiscoveryRESTMapper := ⟨fun _ => .ok fooMappings, by simp [fooMappings]⟩

/-- A fetcher with empty informers whose mapper maps every kind to `fooMappings`, and whose scale
client answers only for `foosets`, with the selector `app=foo`. -/
def fooFetcher : VpaTargetSelectorFetcher Unit :=
  newVpaTargetSelectorFetcher (fun _ => emptyInformer) fooMapper
    fun _ groupResource _ =>
      if groupResource.resource = "foosets" then .ok "app=foo" else .error "not found"

/-- The custom target is looked up through the scale subresources of `foos` and `foosets`. -/
theorem customTarget_firstAnsweringScale :
    customTargetVpa.targetRef = some ⟨"Foo", "foo", "example.com/v1"⟩ ∧
    fooFetcher.informersMap.lookup "Foo" = none ∧
    parseGroupVersion "example.com/v1" = .ok ⟨"example.com", "v1"⟩ ∧
    fooFetcher.mapper ⟨"example.com", "Foo"⟩ = .ok fooMappings ∧
    let scale := fun mapping : RESTMapping =>
      fooFetcher.scaleNamespacer customTargetVpa.«namespace» mapping.groupResource "foo"
    let unhandled := fun err => "Unhandled targetRef " ++ "example.com/v1" ++ " / " ++ "Foo" ++
      " / " ++ "foo" ++ ", last error " ++ err
    (∀ before mapping after status, fooMappings = before ++ mapping :: after →
      (∀ other ∈ before, ∃ err, scale other = .error err) → scale mapping = .ok status →
        fetch unitLabels fooFetcher customTargetVpa =
          (some <$> unitLabels.parse status).mapError unhandled) ∧
    (∀ before last err, fooMappings = before ++ [last] →
      (∀ other ∈ before, ∃ err, scale other = .error err) → scale last = .error err →
        fetch unitLabels fooFetcher customTargetVpa = .error (unhandled err)) ∧
    (fooMappings = [] → fetch unitLabels fooFetcher customTargetVpa = .ok none) :=
  have target : customTargetVpa.targetRef = some ⟨"Foo", "foo", "example.com/v1"⟩ := rfl
  have noInformer : fooFetcher.informersMap.lookup "Foo" = none := by
    simp [fooFetcher, informersMap_lookup, wellKnownControllers, daemonSet, deployment, replicaSet,
      statefulSet, replicationController, job, cronJob]
  have parsed : parseGroupVersion "example.com/v1" = .ok ⟨"example.com", "v1"⟩ := rfl
  ⟨target, noInformer, parsed, rfl,
    fetch_firstAnsweringScale unitLabels fooFetcher target noInformer parsed rfl⟩

/-- The fetcher above, with a mapper that answers the custom kind with no mapping and no
error, returns a nil selector with a nil error. -/
theorem fetch_without_mappings_returns_nil :
    fetch unitLabels { fooFetcher with mapper := fun _ => .ok [] } customTargetVpa = .ok none :=
  fetch_emptyMappings_eq_ok_none unitLabels _ fooMapper _

end VerticalPodAutoscaler.Target
