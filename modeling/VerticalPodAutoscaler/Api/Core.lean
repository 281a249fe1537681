import VerticalPodAutoscaler.Api.Quantity

/-!
# The API objects the autoscaler reads

Pods, vertical pod autoscaler objects and limit ranges, with the fields that the modelled
functions read.  Go's nil-able maps and pointers are `Option`s; string enumerations of the
API (`UpdateMode`, `LimitType`) stay strings, since an object may carry any value there.
A Go call that can panic returns a `GoResult`: a value, an error, or the runtime error it
panics with, which unwinds every caller.
-/

namespace VerticalPodAutoscaler.Api

/-! ## Calls that can panic -/

/-- The runtime error of dereferencing a nil pointer. -/
def nilPointerDereference : String :=
  "runtime error: invalid memory address or nil pointer dereference"

/-- The runtime error of indexing a slice of `length` elements at `index`. -/
def indexOutOfRange (index length : Nat) : String :=
  "runtime error: index out of range [" ++ toString index ++ "] with length " ++ toString length

/-- The runtime error of assigning to an entry of a nil map. -/
def assignmentToEntryInNilMap : String := "assignment to entry in nil map"

/-- What a Go call with an `error` result does: it returns a value, returns an error, or
panics. -/
inductive GoResult (α : Type) where
  | ok (value : α)
  | error (err : String)
  | panic (message : String)
  deriving DecidableEq, Repr

namespace GoResult

variable {α β : Type}

/-- Sequencing: a returned error, or a panic, ends the computation. -/
def bind : GoResult α → (α → GoResult β) → GoResult β
  | ok a, next => next a
  | error err, _ => error err
  | panic message, _ => panic message

def map (f : α → β) : GoResult α → GoResult β
  | ok a => ok (f a)
  | error err => error err
  | panic message => panic message

instance : Monad GoResult where
  pure := ok
  bind := bind
  map := map

/-- A call that returns an error but never panics. -/
def ofExcept : Except String α → GoResult α
  | .ok a => ok a
  | .error err => error err

instance : MonadLift (Except String) GoResult := ⟨ofExcept⟩

/-- The value returned, if any. -/
def toOption : GoResult α → Option α
  | ok a => some a
  | _ => none

/-- Dereferencing a pointer, which is nil when `none`. -/
def dereference : Option α → GoResult α
  | some a => ok a
  | none => panic nilPointerDereference

@[simp] theorem pure_eq_ok (a : α) : (pure a : GoResult α) = ok a := rfl

@[simp] theorem ok_bind (a : α) (next : α → GoResult β) : (ok a >>= next) = next a := rfl

@[simp] theorem error_bind (err : String) (next : α → GoResult β) :
    (error err >>= next) = error err := rfl

@[simp] theorem panic_bind (message : String) (next : α → GoResult β) :
    (panic message >>= next) = panic message := rfl

@[simp] theorem lift_ok (a : α) : (monadLift (Except.ok a : Except String α) : GoResult α) = ok a :=
  rfl

@[simp] theorem lift_error (err : String) :
    (monadLift (Except.error err : Except String α) : GoResult α) = error err := rfl

theorem bind_eq_ok {first : GoResult α} {next : α → GoResult β} {b : β} :
    (first >>= next) = ok b ↔ ∃ a, first = ok a ∧ next a = ok b := by
  cases first <;> simp

theorem bind_eq_panic {first : GoResult α} {next : α → GoResult β} {message : String} :
    (first >>= next) = panic message ↔
      first = panic message ∨ ∃ a, first = ok a ∧ next a = panic message := by
  cases first <;> simp

theorem lift_eq_ok {result : Except String α} {a : α} :
    (monadLift result : GoResult α) = ok a ↔ result = .ok a := by
  cases result <;> simp

theorem lift_ne_panic (result : Except String α) (message : String) :
    (monadLift result : GoResult α) ≠ panic message := by
  cases result <;> simp

end GoResult

/-! ## Time -/

/-- `time.Duration`, in nanoseconds. -/
abbrev Duration := Int

/-- The smallest and largest `time.Duration`. -/
def minDuration : Duration := -9223372036854775808
def maxDuration : Duration := 9223372036854775807

/-- A point in time, in nanoseconds. -/
structure Time where
  nanos : Int
  deriving DecidableEq, Repr

namespace Time

/-- `Time.Add`. -/
def add (t : Time) (d : Duration) : Time := ⟨t.nanos + d⟩

/-- `Time.Before`. -/
def before (t u : Time) : Bool := t.nanos < u.nanos

/-- `Time.Sub`, which saturates at the bounds of `time.Duration`. -/
def sub (t u : Time) : Duration := max minDuration (min maxDuration (t.nanos - u.nanos))

/-- Two times are further apart than a duration that is not negative when their `Sub` is. -/
theorem lt_nanos_sub_of_lt_sub {t u : Time} {d : Int} (nonnegative : 0 ≤ d) (below : d < t.sub u) :
    d < t.nanos - u.nanos := by
  simp only [sub, minDuration, maxDuration] at below
  omega

@[simp]
theorem sub_self (t : Time) : t.sub t = 0 := by
  simp [sub, minDuration, maxDuration]

end Time

/-! ## Pods -/

/-- `v1.ResourceRequirements`; a missing map is `none`. -/
structure ResourceRequirements where
  limits : Option ResourceList
  requests : Option ResourceList
  deriving DecidableEq

/-- `v1.Container`, by its name and resources. -/
structure Container where
  name : String
  resources : ResourceRequirements
  deriving DecidableEq

/-- `v1.ContainerStateTerminated`. -/
structure ContainerStateTerminated where
  reason : String
  startedAt : Time
  finishedAt : Time
  deriving DecidableEq

/-- `v1.ContainerStatus`, by its last termination state. -/
structure ContainerStatus where
  lastTerminated : Option ContainerStateTerminated
  deriving DecidableEq

/-- `map[string]string`, as the pod's annotations. -/
abbrev Annotations := AList (fun _ : String => String)

/-- `v1.Pod`. -/
structure Pod where
  name : String
  generateName : String
  «namespace» : String
  annotations : Option Annotations
  containers : List Container
  startTime : Option Time
  containerStatuses : List ContainerStatus
  deriving DecidableEq

/-! ## Vertical pod autoscaler objects -/

/-- `vpa_types.RecommendedContainerResources`. -/
structure RecommendedContainerResources where
  containerName : String
  target : ResourceList
  lowerBound : ResourceList
  upperBound : ResourceList
  uncappedTarget : ResourceList
  deriving DecidableEq

/-- `vpa_types.RecommendedPodResources`. -/
structure RecommendedPodResources where
  containerRecommendations : List RecommendedContainerResources
  deriving DecidableEq

/-- Modelled from the spec: `vpa_api_util.GetRecommendationForContainer`, absent from the
source, gives the recommendation named like the container, the first one if several are;
a nil recommendation has none. -/
def getRecommendationForContainer (containerName : String)
    (recommendation : Option RecommendedPodResources) :
    Option RecommendedContainerResources :=
  recommendation.bind fun pod =>
    pod.containerRecommendations.find? (·.containerName == containerName)

/-- `vpa_api_util.ContainerToAnnotationsMap`. -/
abbrev ContainerToAnnotationsMap := AList (fun _ : String => List String)

/-- `vpa_types.UpdateMode`. -/
abbrev UpdateMode := String

def updateModeOff : UpdateMode := "Off"
def updateModeInitial : UpdateMode := "Initial"
def updateModeRecreate : UpdateMode := "Recreate"
def updateModeAuto : UpdateMode := "Auto"

/-- `vpa_types.ContainerScalingMode`. -/
abbrev ContainerScalingMode := String

def containerScalingModeAuto : ContainerScalingMode := "Auto"
def containerScalingModeOff : ContainerScalingMode := "Off"

/-- `vpa_types.ContainerResourcePolicy`. -/
structure ContainerResourcePolicy where
  containerName : String
  mode : Option ContainerScalingMode
  minAllowed : ResourceList
  maxAllowed : ResourceList
  deriving DecidableEq

/-- `vpa_types.PodResourcePolicy`. -/
structure PodResourcePolicy where
  containerPolicies : List ContainerResourcePolicy
  deriving DecidableEq

/-- `vpa_types.PodUpdatePolicy`. -/
structure PodUpdatePolicy where
  updateMode : Option UpdateMode
  deriving DecidableEq

/-- `autoscaling.CrossVersionObjectReference`. -/
structure CrossVersionObjectReference where
  kind : String
  name : String
  apiVersion : String
  deriving DecidableEq

/-- `vpa_types.VerticalPodAutoscalerCondition`, by its type and status. -/
structure VerticalPodAutoscalerCondition where
  conditionType : String
  status : String
  deriving DecidableEq

/-- `vpa_types.VerticalPodAutoscaler`. -/
structure VerticalPodAutoscaler where
  name : String
  «namespace» : String
  targetRef : Option CrossVersionObjectReference
  updatePolicy : Option PodUpdatePolicy
  resourcePolicy : Option PodResourcePolicy
  recommendation : Option RecommendedPodResources
  conditions : List VerticalPodAutoscalerCondition
  deriving DecidableEq

/-- `vpa_types.VerticalPodAutoscalerStatus`. -/
structure VerticalPodAutoscalerStatus where
  recommendation : Option RecommendedPodResources
  conditions : List VerticalPodAutoscalerCondition
  deriving DecidableEq

/-- `VerticalPodAutoscaler.Status`. -/
def VerticalPodAutoscaler.status (vpa : VerticalPodAutoscaler) : VerticalPodAutoscalerStatus :=
  ⟨vpa.recommendation, vpa.conditions⟩

/-- `vpa_api_util.RecommendationProcessor`, an interface, by its `Apply`: the processed
recommendation and the annotations per container, each of which may be nil. -/
abbrev RecommendationProcessor :=
  Option RecommendedPodResources → Option PodResourcePolicy →
    List VerticalPodAutoscalerCondition → Pod →
    Except String (Option RecommendedPodResources × Option ContainerToAnnotationsMap)

/-! ## Limit ranges -/

/-- `v1.LimitType`. -/
abbrev LimitType := String

def limitTypePod : LimitType := "Pod"
def limitTypeContainer : LimitType := "Container"

/-- `v1.LimitRangeItem`, by the fields the limit range calculator merges. -/
structure LimitRangeItem where
  type : LimitType
  max : Option ResourceList
  min : Option ResourceList
  default : Option ResourceList
  deriving DecidableEq

/-- `v1.LimitRange`, by its spec's items. -/
structure LimitRange where
  limits : List LimitRangeItem
  deriving DecidableEq

end VerticalPodAutoscaler.Api
