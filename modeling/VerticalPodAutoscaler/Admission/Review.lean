import VerticalPodAutoscaler.Admission.Json
import Mathlib.Algebra.Group.Int

/-!
# Decoding the admission review

`admit` decodes the request body with `json.Unmarshal` into a `v1beta1.AdmissionReview`.  The
decoder walks the body against the Go type.  For each member of an object it takes the struct
field of exactly that name, or else the first field whose name equals the key under Unicode
case folding, and decodes the member's value into that field; a member that names no field is
skipped.  Every occurrence of a member is decoded in turn, so a later string replaces an
earlier one, while a later object is decoded into the struct the earlier one filled.

A value of the wrong kind for its field, a number out of its type's range and a `[]byte` that
is not base64 are errors wherever they stand, in the fields `admit` reads and in those it does
not, and `json.Unmarshal` returns the first of them.  `null` leaves a string, a number, a
boolean or a struct as it was, and makes a pointer, a slice or a map nil.  A
`runtime.RawExtension` keeps the raw text of any value but `null`.

The types are the `v1beta1` admission types with the `metav1` and `authentication/v1` types
they hold.  The decoded review keeps the fields `admit` reads; the others are decoded and
dropped.  An error names the field by its struct and JSON name.
-/

namespace VerticalPodAutoscaler.Admission

/-! ## Field names -/

/-- Whether a key's character equals a field name's ASCII character under Unicode simple case
folding: a letter in either case, and for `k` and `s` also the Kelvin sign and the long s. -/
def foldsTo (c k : Char) : Bool :=
  k.toLower == c.toLower || (c.toLower == 'k' && k == Char.ofNat 0x212A) ||
    (c.toLower == 's' && k == Char.ofNat 0x17F)

/-- `bytes.EqualFold` of a field name, in ASCII, and a key. -/
def equalFold : List Char → List Char → Bool
  | [], [] => true
  | c :: name, k :: key => foldsTo c k && equalFold name key
  | _, _ => false

/-- The field a member's key names: the field of exactly that name, or else the first whose
name folds to the key. -/
def fieldFor {β : Type} (fields : List (String × β)) (key : String) : Option β :=
  match fields.lookup key with
  | some field => some field
  | none => (fields.find? fun field => equalFold field.1.toList key.toList).map (·.2)

/-! ## Decoders -/

/-- The kind of a JSON value, as `json.Unmarshal` names it in an error. -/
def Json.kind : Json → String
  | .null => "null"
  | .bool _ => "bool"
  | .num _ => "number"
  | .str _ => "string"
  | .arr _ => "array"
  | .obj _ => "object"

/-- `UnmarshalTypeError.Error`: a value that a field of the type cannot hold; at the top level
there is no field. -/
def unmarshalTypeError (value field type : String) : String :=
  if field.isEmpty then "json: cannot unmarshal " ++ value ++ " into Go value of type " ++ type
  else "json: cannot unmarshal " ++ value ++ " into Go struct field " ++ field ++ " of type " ++ type

/-- How `json.Unmarshal` decodes a JSON value into a Go variable of some type: from what the
variable holds, what it holds after, or the first error. -/
abbrev Decoder (α : Type) := α → Json → Except String α

/-- A field of a struct, decoded with the decoder of its type. -/
def Decoder.field {α β : Type} (get : α → β) (set : α → β → α) (decode : Decoder β) :
    Decoder α :=
  fun current value => set current <$> decode (get current) value

/-- A field that the decoded struct does not keep: its value is decoded, from the zero value,
and dropped. -/
def Decoder.skip {α β : Type} (decode : Decoder β) (zero : β) : Decoder α :=
  fun current value => (fun _ => current) <$> decode zero value

/-- A field of a string type. -/
def unmarshalString (field type : String) : Decoder String
  | current, .null => .ok current
  | _, .str value => .ok value
  | _, value => .error (unmarshalTypeError value.kind field type)

/-- A `bool` field. -/
def checkBool (field : String) : Decoder Unit
  | _, .null | _, .bool _ => .ok ()
  | _, value => .error (unmarshalTypeError value.kind field "bool")

/-- `strconv.ParseInt(s, 10, 64)` on a JSON number literal: an optional `-` and decimal digits,
with no fraction or exponent, within the range of `int64`. -/
def parseInt (literal : String) : Option Int :=
  match literal.toList with
  | '-' :: digits =>
      if digits ≠ [] ∧ digits.all Char.isDigit ∧ Json.digitsValue digits ≤ 2 ^ 63 then
        some (-(Json.digitsValue digits : Int))
      else none
  | digits =>
      if digits ≠ [] ∧ digits.all Char.isDigit ∧ Json.digitsValue digits < 2 ^ 63 then
        some (Json.digitsValue digits)
      else none

/-- `strconv.ParseUint(s, 10, 64)`: decimal digits below `2^64`. -/
def parseUint (literal : String) : Option Nat :=
  let digits := literal.toList
  if digits ≠ [] ∧ digits.all Char.isDigit ∧ Json.digitsValue digits < 2 ^ 64 then
    some (Json.digitsValue digits)
  else none

/-- A field of a signed integer type of `bits` bits: `strconv.ParseInt`, then `OverflowInt`. -/
def checkInt (bits : Nat) (field type : String) : Decoder Unit
  | _, .null => .ok ()
  | _, .num literal =>
      if (parseInt literal).any fun n => -2 ^ (bits - 1) ≤ n ∧ n < 2 ^ (bits - 1) then .ok ()
      else .error (unmarshalTypeError ("number " ++ literal) field type)
  | _, value => .error (unmarshalTypeError value.kind field type)

/-- An item of a `[]byte` given as an array: `strconv.ParseUint`, then `OverflowUint`. -/
def checkUint8 (field : String) : Decoder Unit
  | _, .null => .ok ()
  | _, .num literal =>
      if (parseUint literal).any (· < 2 ^ 8) then .ok ()
      else .error (unmarshalTypeError ("number " ++ literal) field "uint8")
  | _, value => .error (unmarshalTypeError value.kind field "uint8")

/-! ## Base64 -/

/-- A character of `base64.StdEncoding`'s alphabet. -/
def isBase64 (c : Char) : Bool := c.isAlphanum || c == '+' || c == '/'

/-- A line break, which the base64 decoder skips. -/
def isNewline (c : Char) : Bool := c == '\n' || c == '\r'

/-- The characters from position `si` on with the leading line breaks skipped, and the position
reached. -/
def skipNewlines : Nat → List Char → Nat × List Char
  | si, c :: rest => if isNewline c then skipNewlines (si + 1) rest else (si, c :: rest)
  | si, [] => (si, [])

/-- The offset reported for anything but line breaks after the padding. -/
def trailingGarbage : Nat × List Char → Option Nat
  | (_, []) => none
  | (si, _ :: _) => some si

/-- What `Encoding.decodeQuantum` does after a `=` at place `j` of a quantum, `si` being the
position after it: two places read need a second `=`, and only line breaks may follow. -/
def base64Padding (length j si : Nat) (rest : List Char) : Option Nat :=
  if j = 2 then
    match skipNewlines si rest with
    | (_, []) => some length
    | (si, c :: rest) => if c = '=' then trailingGarbage (skipNewlines (si + 1) rest) else some (si - 1)
  else trailingGarbage (skipNewlines si rest)

/-- `base64.StdEncoding.Decode`, by the offset of the corrupt input it reports, if any: `j` is
the place in the current quantum and `si` the position in the text. -/
def base64Corrupt (length : Nat) : Nat → Nat → List Char → Option Nat
  | 0, _, [] => none
  | j, si, [] => some (si - j)
  | j, si, c :: rest =>
      if isBase64 c then base64Corrupt length ((j + 1) % 4) (si + 1) rest
      else if isNewline c then base64Corrupt length j (si + 1) rest
      else if c = '=' ∧ 2 ≤ j then base64Padding length j (si + 1) rest
      else some si

/-- A `[]byte` field: a string holds the bytes in base64, an array holds them as numbers. -/
def checkBytes (field : String) : Decoder Unit
  | _, .null => .ok ()
  | _, .str text =>
      match base64Corrupt text.length 0 0 text.toList with
      | none => .ok ()
      | some offset => .error ("illegal base64 data at input byte " ++ toString offset)
  | _, .arr items => items.forM (checkUint8 field ())
  | _, value => .error (unmarshalTypeError value.kind field "[]uint8")

/-! ## Structs, pointers, slices and maps -/

/-- A struct, given the decoder of each field by its JSON name, in the order the struct
declares them: the members of an object are decoded into their fields one after another. -/
def decodeStruct {α : Type} (fields : List (String × Decoder α)) (field type : String) :
    Decoder α
  | current, .null => .ok current
  | current, .obj members =>
      members.foldlM (fun current member =>
        match fieldFor fields member.1 with
        | some decode => decode current member.2
        | none => .ok current) current
  | _, value => .error (unmarshalTypeError value.kind field type)

/-- A pointer: `null` makes it nil, and any other value is decoded into what it points to, a
new zero value when it was nil. -/
def decodePointer {α : Type} (zero : α) (decode : Decoder α) : Decoder (Option α)
  | _, .null => .ok none
  | current, value => some <$> decode (current.getD zero) value

/-- A slice: `null` makes it nil, and each item of an array is decoded. -/
def checkSlice (item : Decoder Unit) (field type : String) : Decoder Unit
  | _, .null => .ok ()
  | _, .arr items => items.forM (item ())
  | _, value => .error (unmarshalTypeError value.kind field type)

/-- A map with string keys: `null` makes it nil, and each member's value is decoded. -/
def checkMap (element : Decoder Unit) (field type : String) : Decoder Unit
  | _, .null => .ok ()
  | _, .obj members => members.forM fun member => element () member.2
  | _, value => .error (unmarshalTypeError value.kind field type)

/-- `runtime.RawExtension.UnmarshalJSON`: the raw text of any value but `null`, which leaves it
as it was. -/
def decodeRawExtension : Decoder (Option Json)
  | current, .null => .ok current
  | _, value => .ok (some value)

/-- A string field the decoded struct does not keep. -/
def skipString {α : Type} (field type : String) : Decoder α :=
  (unmarshalString field type).skip ""

/-! ## The types of the review -/

/-- `metav1.GroupVersionKind`. -/
def checkGroupVersionKind (field : String) : Decoder Unit :=
  decodeStruct [("group", skipString "GroupVersionKind.group" "string"),
    ("version", skipString "GroupVersionKind.version" "string"),
    ("kind", skipString "GroupVersionKind.kind" "string")] field "v1.GroupVersionKind"

/-- `metav1.GroupVersionResource`. -/
structure GroupVersionResource where
  group : String
  version : String
  resource : String
  deriving DecidableEq, Repr

/-- `metav1.GroupVersionResource`. -/
def decodeGroupVersionResource (field : String) : Decoder GroupVersionResource :=
  decodeStruct
    [("group", .field (·.group) (fun gvr group => { gvr with group })
        (unmarshalString "GroupVersionResource.group" "string")),
      ("version", .field (·.version) (fun gvr version => { gvr with version })
        (unmarshalString "GroupVersionResource.version" "string")),
      ("resource", .field (·.resource) (fun gvr resource => { gvr with resource })
        (unmarshalString "GroupVersionResource.resource" "string"))]
    field "v1.GroupVersionResource"

/-- `authenticationv1.UserInfo`. -/
def checkUserInfo (field : String) : Decoder Unit :=
  decodeStruct [("username", skipString "UserInfo.username" "string"),
    ("uid", skipString "UserInfo.uid" "string"),
    ("groups", checkSlice (skipString "UserInfo.groups" "string") "UserInfo.groups" "[]string"),
    ("extra", checkMap (checkSlice (skipString "UserInfo.extra" "string") "UserInfo.extra"
      "v1.ExtraValue") "UserInfo.extra" "map[string]v1.ExtraValue")] field "v1.UserInfo"

/-- `metav1.StatusCause`. -/
def checkStatusCause (field : String) : Decoder Unit :=
  decodeStruct [("reason", skipString "StatusCause.reason" "v1.CauseType"),
    ("message", skipString "StatusCause.message" "string"),
    ("field", skipString "StatusCause.field" "string")] field "v1.StatusCause"

/-- `metav1.StatusDetails`. -/
def checkStatusDetails (field : String) : Decoder Unit :=
  decodeStruct [("name", skipString "StatusDetails.name" "string"),
    ("group", skipString "StatusDetails.group" "string"),
    ("kind", skipString "StatusDetails.kind" "string"),
    ("uid", skipString "StatusDetails.uid" "types.UID"),
    ("causes", checkSlice (checkStatusCause "StatusDetails.causes") "StatusDetails.causes"
      "[]v1.StatusCause"),
    ("retryAfterSeconds", checkInt 32 "StatusDetails.retryAfterSeconds" "int32")]
    field "v1.StatusDetails"

/-- `metav1.ListMeta`. -/
def checkListMeta (field : String) : Decoder Unit :=
  decodeStruct [("selfLink", skipString "ListMeta.selfLink" "string"),
    ("resourceVersion", skipString "ListMeta.resourceVersion" "string"),
    ("continue", skipString "ListMeta.continue" "string"),
    ("remainingItemCount", (decodePointer () (checkInt 64 "ListMeta.remainingItemCount"
      "int64")).skip none)] field "v1.ListMeta"

/-- `metav1.Status`, with the fields of its `TypeMeta`. -/
def checkStatus (field : String) : Decoder Unit :=
  decodeStruct [("kind", skipString "Status.kind" "string"),
    ("apiVersion", skipString "Status.apiVersion" "string"),
    ("metadata", checkListMeta "Status.metadata"),
    ("status", skipString "Status.status" "string"),
    ("message", skipString "Status.message" "string"),
    ("reason", skipString "Status.reason" "v1.StatusReason"),
    ("details", (decodePointer () (checkStatusDetails "Status.details")).skip none),
    ("code", checkInt 32 "Status.code" "int32")] field "v1.Status"

/-- `v1beta1.AdmissionResponse`. -/
def checkAdmissionResponse (field : String) : Decoder Unit :=
  decodeStruct [("uid", skipString "AdmissionResponse.uid" "types.UID"),
    ("allowed", checkBool "AdmissionResponse.allowed"),
    ("status", (decodePointer () (checkStatus "AdmissionResponse.status")).skip none),
    ("patch", checkBytes "AdmissionResponse.patch"),
    ("patchType", (decodePointer "" (unmarshalString "AdmissionResponse.patchType"
      "v1beta1.PatchType")).skip none),
    ("auditAnnotations", checkMap (skipString "AdmissionResponse.auditAnnotations" "string")
      "AdmissionResponse.auditAnnotations" "map[string]string")] field "v1beta1.AdmissionResponse"

/-- `v1beta1.AdmissionRequest`, by the fields `admit` reads.  `Object.Raw` is nil when the
object is missing or `null`. -/
structure AdmissionRequest where
  resource : GroupVersionResource
  «namespace» : String
  operation : String
  object : Option Json

/-- The zero `AdmissionRequest`. -/
def emptyAdmissionRequest : AdmissionRequest := ⟨⟨"", "", ""⟩, "", "", none⟩

/-- `v1beta1.AdmissionRequest`. -/
def decodeAdmissionRequest (field : String) : Decoder AdmissionRequest :=
  decodeStruct
    [("uid", skipString "AdmissionRequest.uid" "types.UID"),
      ("kind", (checkGroupVersionKind "AdmissionRequest.kind").skip ()),
      ("resource", .field (·.resource) (fun request resource => { request with resource })
        (decodeGroupVersionResource "AdmissionRequest.resource")),
      ("subResource", skipString "AdmissionRequest.subResource" "string"),
      ("requestKind", (decodePointer () (checkGroupVersionKind "AdmissionRequest.requestKind")).skip
        none),
      ("requestResource", (decodePointer ⟨"", "", ""⟩
        (decodeGroupVersionResource "AdmissionRequest.requestResource")).skip none),
      ("requestSubResource", skipString "AdmissionRequest.requestSubResource" "string"),
      ("name", skipString "AdmissionRequest.name" "string"),
      ("namespace", .field (·.«namespace») (fun request «namespace» => { request with «namespace» })
        (unmarshalString "AdmissionRequest.namespace" "string")),
      ("operation", .field (·.operation) (fun request operation => { request with operation })
        (unmarshalString "AdmissionRequest.operation" "v1beta1.Operation")),
      ("userInfo", (checkUserInfo "AdmissionRequest.userInfo").skip ()),
      ("object", .field (·.object) (fun request object => { request with object })
        decodeRawExtension),
      ("oldObject", decodeRawExtension.skip none),
      ("dryRun", (decodePointer () (checkBool "AdmissionRequest.dryRun")).skip none),
      ("options", decodeRawExtension.skip none)]
    field "v1beta1.AdmissionRequest"

/-- `v1beta1.AdmissionReview`, by its `Request`, a pointer. -/
structure AdmissionReview where
  request : Option AdmissionRequest

/-- `json.Unmarshal` into a zero `v1beta1.AdmissionReview`. -/
def decodeAdmissionReview : Json → Except String AdmissionReview :=
  decodeStruct
    [("kind", skipString "AdmissionReview.kind" "string"),
      ("apiVersion", skipString "AdmissionReview.apiVersion" "string"),
      ("request", .field (·.request) (fun _ request => ⟨request⟩)
        (decodePointer emptyAdmissionRequest (decodeAdmissionRequest "AdmissionReview.request"))),
      ("response", (decodePointer () (checkAdmissionResponse "AdmissionReview.response")).skip
        none)]
    "" "v1beta1.AdmissionReview" ⟨none⟩

end VerticalPodAutoscaler.Admission
