import Mathlib.Data.List.Basic

/-!
# JSON documents, JSON Pointers and the JSON-patch `add` operation

The admission server answers with a JSON patch, a list of `patchRecord`s, that the API
server applies to the object in order.  Only `add` occurs.  A path is a JSON Pointer: it
starts with `/`, its tokens are separated by `/`, and `~1` and `~0` in a token stand for `/`
and `~`.  `add` replaces the whole document at the empty path; otherwise the parent the
path names must exist and be an object, where the last token names the member to set, or an
array, where it names the index to insert at (`-` appends).  Objects are member lists,
looked up by the first member of a name; setting a member replaces every member of that name.
-/

namespace VerticalPodAutoscaler.Admission

/-- A JSON value.  A number is kept as its literal, which Go's decoder parses for the type of
the field it is decoded into. -/
inductive Json where
  | null
  | bool (value : Bool)
  | num (literal : String)
  | str (value : String)
  | arr (items : List Json)
  | obj (members : List (String × Json))
  deriving Inhabited

/-- `patchRecord`: one JSON-patch operation. -/
structure PatchRecord where
  op : String
  path : String
  value : Json

namespace Json

/-- Sets a member of an object as the API server sets a key of the map it decodes the object
into: the members of that name are dropped and the new one is added last. -/
def setMember (members : List (String × Json)) (key : String) (value : Json) :
    List (String × Json) :=
  members.filter (·.1 ≠ key) ++ [(key, value)]

/-- The value of a list of decimal digits. -/
def digitsValue (digits : List Char) : Nat :=
  digits.foldl (fun value digit => 10 * value + (digit.toNat - '0'.toNat)) 0

/-- An array index token: `0`, or decimal digits without a leading zero. -/
def parseIndex (token : String) : Option Nat :=
  match token.toList with
  | [] => none
  | '0' :: _ :: _ => none
  | digits => if digits.all Char.isDigit then some (digitsValue digits) else none

/-- The child a pointer token names, if it exists. -/
def getChild : Json → String → Option Json
  | .obj members, key => members.lookup key
  | .arr items, token => (parseIndex token).bind (items[·]?)
  | _, _ => none

/-- Replaces the existing child a token names. -/
def setChild : Json → String → Json → Json
  | .obj members, key, child => .obj (setMember members key child)
  | .arr items, token, child =>
      match parseIndex token with
      | some index => .arr (items.set index child)
      | none => .arr items
  | doc, _, _ => doc

/-- The value a JSON Pointer's tokens reach. -/
def getAt : Json → List String → Option Json
  | doc, [] => some doc
  | doc, token :: rest => (doc.getChild token).bind (getAt · rest)

/-- `add` at the last token of a path, in the parent it names. -/
def addChild (value : Json) : Json → String → Except String Json
  | .obj members, key => .ok (.obj (setMember members key value))
  | .arr items, token =>
      if token = "-" then .ok (.arr (items ++ [value]))
      else
        match parseIndex token with
        | some index =>
            if index ≤ items.length then .ok (.arr (items.insertIdx index value))
            else .error ("index out of range: " ++ token)
        | none => .error ("not an array index: " ++ token)
  | _, token => .error ("parent of " ++ token ++ " is not a container")

/-- `add` of `value` at the location the tokens name. -/
def addAt (value : Json) : Json → List String → Except String Json
  | _, [] => .ok value
  | doc, [token] => addChild value doc token
  | doc, token :: rest =>
      match doc.getChild token with
      | some child => (doc.setChild token ·) <$> addAt value child rest
      | none => .error ("missing path element: " ++ token)

end Json

/-- One token of a JSON Pointer, with `~0` and `~1` decoded. -/
def unescapeToken : List Char → Except String (List Char)
  | [] => .ok []
  | '~' :: '0' :: rest => ('~' :: ·) <$> unescapeToken rest
  | '~' :: '1' :: rest => ('/' :: ·) <$> unescapeToken rest
  | '~' :: _ => .error "invalid escape in JSON pointer"
  | c :: rest => (c :: ·) <$> unescapeToken rest

/-- The tokens of a JSON Pointer. -/
def parsePointer (path : String) : Except String (List String) :=
  match path.toList with
  | [] => .ok []
  | '/' :: rest => (rest.splitOn '/').mapM fun token => String.mk <$> unescapeToken token
  | _ => .error ("JSON pointer does not start with /: " ++ path)

/-- Applies one operation of a JSON patch. -/
def applyOperation (doc : Json) (operation : PatchRecord) : Except String Json :=
  if operation.op = "add" then do
    let tokens ← parsePointer operation.path
    Json.addAt operation.value doc tokens
  else .error ("unsupported operation: " ++ operation.op)

/-- Applies a JSON patch, operation after operation, stopping at the first that fails. -/
def applyPatch (doc : Json) (patches : List PatchRecord) : Except String Json :=
  patches.foldlM applyOperation doc

/-- One operation of a JSON patch document: an object with a string `op`, a string `path` and a
`value`. -/
def readOperation : Json → Except String PatchRecord
  | .obj members =>
      match members.lookup "op", members.lookup "path", members.lookup "value" with
      | some (.str op), some (.str path), some value => .ok ⟨op, path, value⟩
      | _, _, _ => .error "invalid JSON patch operation"
  | _ => .error "invalid JSON patch operation"

/-- A JSON patch document, an array of operations, as the API server reads it. -/
def readPatch : Json → Except String (List PatchRecord)
  | .arr operations => operations.mapM readOperation
  | _ => .error "a JSON patch is an array of operations"

end VerticalPodAutoscaler.Admission
