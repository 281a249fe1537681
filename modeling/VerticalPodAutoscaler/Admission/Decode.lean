import VerticalPodAutoscaler.Admission.Json
import VerticalPodAutoscaler.Api.Core

/-!
# Decoding the pod the admission server reads

`json.Unmarshal` into `v1.Pod`, by the fields the admission server reads.  A missing member or
a `null` leaves a field at its zero value, a nil map or a nil pointer included; a value of the
wrong kind for a field that is read is an error.  Members are matched by their exact name.  A
quantity is decoded by `Quantity.UnmarshalJSON`, which is a parameter.
-/

namespace VerticalPodAutoscaler.Admission

open Api

/-- The error `json.Unmarshal` reports for a value of the wrong kind. -/
def typeError (field type : String) : String :=
  "json: cannot unmarshal into Go struct field " ++ field ++ " of type " ++ type

/-- A `string` field. -/
def decodeString (field : String) : Option Json → Except String String
  | none | some .null => .ok ""
  | some (.str value) => .ok value
  | some _ => .error (typeError field "string")

/-- One member of an object decoded into a map: its value is decoded and stored under its
name, replacing what an earlier member of that name stored. -/
def insertMember {β : Type} (decodeValue : Json → Except String β)
    (map : AList fun _ : String => β) (member : String × Json) :
    Except String (AList fun _ : String => β) :=
  (map.insert member.1 ·) <$> decodeValue member.2

/-- A `map[string]string` field; `null` leaves it nil, and a `null` value is the empty string. -/
def decodeStringMap (field : String) :
    Option Json → Except String (Option (AList fun _ : String => String))
  | none | some .null => .ok none
  | some (.obj members) =>
      some <$> members.foldlM (insertMember (decodeString field ∘ some)) ∅
  | some _ => .error (typeError field "map[string]string")

/-- The nano-unit quantity of a sign and a text of decimal digits ending in `n`. -/
def nanoQuantity (sign : Int) (chars : List Char) : Except String Quantity :=
  if chars.getLast? = some 'n' ∧ chars.dropLast ≠ [] ∧ chars.dropLast.all Char.isDigit then
    .ok ⟨sign * Json.digitsValue chars.dropLast, .decimalSI⟩
  else .error "quantities must match the regular expression"

/-- `Quantity.UnmarshalJSON` on the nano-unit texts `Quantity.nanoString` writes: an optional
`-`, decimal digits and `n`.  It stands in for the library call on concrete inputs and refuses
other texts. -/
def unmarshalNanoQuantity : Json → Except String Quantity
  | .str text =>
      if text.toList.head? = some '-' then nanoQuantity (-1) text.toList.tail
      else nanoQuantity 1 text.toList
  | _ => .error "quantities must match the regular expression"

section Pod

variable (unmarshalQuantity : Json → Except String Quantity)

/-- A `v1.ResourceList` field; `null` leaves it nil. -/
def decodeResourceList (field : String) : Option Json → Except String (Option ResourceList)
  | none | some .null => .ok none
  | some (.obj members) =>
      some <$> members.foldlM (insertMember unmarshalQuantity) ∅
  | some _ => .error (typeError field "v1.ResourceList")

/-- `v1.ResourceRequirements`. -/
def decodeResources : Option Json → Except String ResourceRequirements
  | none | some .null => .ok ⟨none, none⟩
  | some (.obj members) => do
      let limits ← decodeResourceList unmarshalQuantity "resources.limits" (members.lookup "limits")
      let requests ←
        decodeResourceList unmarshalQuantity "resources.requests" (members.lookup "requests")
      pure ⟨limits, requests⟩
  | some _ => .error (typeError "resources" "v1.ResourceRequirements")

/-- `v1.Container`. -/
def decodeContainer : Json → Except String Container
  | .null => .ok ⟨"", ⟨none, none⟩⟩
  | .obj members => do
      let name ← decodeString "name" (members.lookup "name")
      let resources ← decodeResources unmarshalQuantity (members.lookup "resources")
      pure ⟨name, resources⟩
  | _ => .error (typeError "spec.containers" "v1.Container")

/-- `PodSpec.Containers`. -/
def decodeContainers : Option Json → Except String (List Container)
  | none | some .null => .ok []
  | some (.arr items) => items.mapM (decodeContainer unmarshalQuantity)
  | some _ => .error (typeError "spec.containers" "[]v1.Container")

/-- `metav1.ObjectMeta`, by the fields the admission server reads. -/
structure ObjectMeta where
  name : String
  generateName : String
  «namespace» : String
  annotations : Option Annotations

/-- `metav1.ObjectMeta`. -/
def decodeObjectMeta : Option Json → Except String ObjectMeta
  | none | some .null => .ok ⟨"", "", "", none⟩
  | some (.obj metadata) => do
      let name ← decodeString "metadata.name" (metadata.lookup "name")
      let generateName ← decodeString "metadata.generateName" (metadata.lookup "generateName")
      let «namespace» ← decodeString "metadata.namespace" (metadata.lookup "namespace")
      let annotations ← decodeStringMap "metadata.annotations" (metadata.lookup "annotations")
      pure ⟨name, generateName, «namespace», annotations⟩
  | some _ => .error (typeError "metadata" "v1.ObjectMeta")

/-- `v1.PodSpec`, by its containers. -/
def decodePodSpec : Option Json → Except String (List Container)
  | none | some .null => .ok []
  | some (.obj spec) => decodeContainers unmarshalQuantity (spec.lookup "containers")
  | some _ => .error (typeError "spec" "v1.PodSpec")

/-- `v1.Pod`, by its name, generated name, namespace, annotations and containers. -/
def decodePod : Json → Except String Pod
  | .null => .ok ⟨"", "", "", none, [], none, []⟩
  | .obj members => do
      let metadata ← decodeObjectMeta (members.lookup "metadata")
      let containers ← decodePodSpec unmarshalQuantity (members.lookup "spec")
      pure ⟨metadata.name, metadata.generateName, metadata.«namespace», metadata.annotations,
        containers, none, []⟩
  | _ => .error "json: cannot unmarshal into Go value of type v1.Pod"

end Pod

/-- The raw object of a request, which `json.Unmarshal` cannot decode when it is nil. -/
def rawObject : Option Json → Except String Json
  | none => .error "unexpected end of JSON input"
  | some raw => .ok raw

end VerticalPodAutoscaler.Admission
