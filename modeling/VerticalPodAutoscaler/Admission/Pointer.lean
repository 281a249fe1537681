import Mathlib.Data.Nat.Digits
import VerticalPodAutoscaler.Admission.Json

/-!
# Reading and writing along JSON Pointers

The laws of the JSON model that the patch proofs use.  A member set by `setMember` is the one
a lookup then finds, and no other member changes; the pointer spelled from plain tokens, with
neither `/` nor `~` in them, parses back to those tokens, and the token `toString` writes for
an index names that index; and an `add` below a location that exists is an `add` in the value
found there, put back in place by `setAt`.  The last law is what lets an operation deep in a
pod be followed in the container, the resources or the map it changes.
-/

namespace VerticalPodAutoscaler.Admission

/-! ## Results -/

section Results

variable {ε α β : Type}

@[simp] theorem ok_bind (a : α) (next : α → Except ε β) : (Except.ok a >>= next) = next a := rfl

@[simp] theorem error_bind (e : ε) (next : α → Except ε β) :
    (Except.error e >>= next) = Except.error e := rfl

@[simp] theorem map_ok (f : α → β) (a : α) : (f <$> Except.ok a : Except ε β) = .ok (f a) := rfl

@[simp] theorem map_error (f : α → β) (e : ε) :
    (f <$> Except.error e : Except ε β) = .error e := rfl

@[simp] theorem pure_eq_ok (a : α) : (pure a : Except ε α) = .ok a := rfl

theorem bind_eq_ok {first : Except ε α} {next : α → Except ε β} {b : β} :
    (first >>= next) = .ok b ↔ ∃ a, first = .ok a ∧ next a = .ok b := by
  cases first <;> simp

theorem map_eq_ok {first : Except ε α} {f : α → β} {b : β} :
    (f <$> first) = .ok b ↔ ∃ a, first = .ok a ∧ f a = b := by
  cases first <;> simp

end Results

namespace Json

/-! ## Members -/

theorem lookup_cons_ite (key name : String) (value : Json) (rest : List (String × Json)) :
    ((key, value) :: rest).lookup name = if name = key then some value else rest.lookup name := by
  by_cases same : name = key
  · simp [List.lookup_cons, same]
  · simp [List.lookup_cons, same, beq_false_of_ne same]

theorem lookup_setMember (members : List (String × Json)) (key name : String) (value : Json) :
    (setMember members key value).lookup name =
      if name = key then some value else members.lookup name := by
  induction members with
  | nil => simp [setMember, lookup_cons_ite]
  | cons member rest ih =>
      obtain ⟨other, old⟩ := member
      by_cases dropped : other = key
      · subst dropped
        by_cases found : name = other <;> simp_all [setMember, List.filter_cons, lookup_cons_ite]
      · by_cases found : name = other <;> simp_all [setMember, List.filter_cons, lookup_cons_ite]

theorem setMember_setMember (members : List (String × Json)) (key : String) (first second : Json) :
    setMember (setMember members key first) key second = setMember members key second := by
  simp [setMember, List.filter_append, List.filter_filter]

/-! ## Decimal indices -/

theorem digitsValue_append_singleton (digits : List Char) (digit : Char) :
    digitsValue (digits ++ [digit]) = 10 * digitsValue digits + (digit.toNat - '0'.toNat) := by
  simp [digitsValue, List.foldl_append]

theorem toDigitsCore_append (fuel n : Nat) (digits : List Char) :
    Nat.toDigitsCore 10 fuel n digits = Nat.toDigitsCore 10 fuel n [] ++ digits := by
  induction fuel generalizing n digits with
  | zero => rfl
  | succ fuel ih =>
      simp only [Nat.toDigitsCore]
      split_ifs
      · rfl
      · rw [ih _ (_ :: digits), ih _ [_]]
        simp

theorem digitChar_spec : ∀ m < 10, (Nat.digitChar m).toNat - '0'.toNat = m ∧
    (Nat.digitChar m).isDigit ∧ (Nat.digitChar m = '0' → m = 0) := by
  decide

/-- The digits `toString` writes for a number: decimal digits, of that value, with no leading
zero. -/
theorem toDigitsCore_spec (fuel n : Nat) (enough : n < fuel) :
    digitsValue (Nat.toDigitsCore 10 fuel n []) = n ∧
      (Nat.toDigitsCore 10 fuel n []).all Char.isDigit ∧
      Nat.toDigitsCore 10 fuel n [] ≠ [] ∧
      ((Nat.toDigitsCore 10 fuel n []).head? = some '0' → n = 0) := by
  induction fuel generalizing n with
  | zero => omega
  | succ fuel ih =>
      have digit := digitChar_spec (n % 10) (Nat.mod_lt _ (by decide))
      simp only [Nat.toDigitsCore]
      split_ifs with small
      · rw [Nat.mod_eq_of_lt (by omega : n < 10)] at digit ⊢
        simpa [digitsValue] using digit
      · rw [toDigitsCore_append]
        obtain ⟨value, digits, nonempty, leading⟩ := ih (n / 10) (by omega)
        refine ⟨?_, ?_, by simp, ?_⟩
        · rw [digitsValue_append_singleton, value, digit.1]
          exact Nat.div_add_mod n 10
        · simp [digits, digit.2.1]
        · intro zero
          rw [List.head?_append_of_ne_nil _ nonempty] at zero
          exact absurd (leading zero) small

theorem toString_toList (n : Nat) : (toString n).toList = Nat.toDigitsCore 10 (n + 1) n [] :=
  rfl

theorem parseIndex_toString (n : Nat) : parseIndex (toString n) = some n := by
  obtain ⟨value, digits, nonempty, leading⟩ := toDigitsCore_spec (n + 1) n (by omega)
  unfold parseIndex
  rw [toString_toList]
  split
  · contradiction
  · rename_i spelled
    have : n = 0 := leading (by simp [spelled])
    subst this
    cases spelled
  · simp [digits, value]

/-! ## Pointers -/

/-- A token that a pointer spells as it is: it has no `/` and no `~`. -/
def PlainToken (token : String) : Prop :=
  '/' ∉ token.toList ∧ '~' ∉ token.toList

instance (token : String) : Decidable (PlainToken token) :=
  inferInstanceAs (Decidable (_ ∧ _))

theorem plainToken_toString (n : Nat) : PlainToken (toString n) := by
  have digits := (toDigitsCore_spec (n + 1) n (by omega)).2.1
  rw [← toString_toList, List.all_eq_true] at digits
  exact ⟨fun slash => absurd (digits _ slash) (by decide),
    fun tilde => absurd (digits _ tilde) (by decide)⟩

end Json

theorem unescapeToken_plain (token : List Char) (plain : '~' ∉ token) :
    unescapeToken token = .ok token := by
  induction token with
  | nil => rfl
  | cons c rest ih =>
      have other : c ≠ '~' := fun same => plain (same ▸ List.mem_cons_self _ _)
      rw [unescapeToken.eq_5 _ _ (fun _ same _ => other same) (fun _ same _ => other same) other,
        ih (fun tilde => plain (List.mem_cons_of_mem _ tilde))]
      rfl

theorem mapM_unescapeToken (tokens : List String)
    (plain : ∀ token ∈ tokens, Json.PlainToken token) :
    (tokens.map String.toList).mapM (fun token => String.mk <$> unescapeToken token) =
      .ok tokens := by
  induction tokens with
  | nil => rfl
  | cons token rest ih =>
      rw [List.map_cons, List.mapM_cons,
        unescapeToken_plain _ (plain token (List.mem_cons_self _ _)).2,
        ih fun other member => plain other (List.mem_cons_of_mem _ member)]
      rfl

/-- A pointer spelled from plain tokens parses back to them. -/
theorem parsePointer_of_tokens {path : String} {tokens : List String} (nonempty : tokens ≠ [])
    (plain : ∀ token ∈ tokens, Json.PlainToken token)
    (spelled : path.toList = '/' :: ['/'].intercalate (tokens.map String.toList)) :
    parsePointer path = .ok tokens := by
  unfold parsePointer
  simp only [spelled]
  rw [List.splitOn_intercalate _ _ (by simpa using fun token member => (plain token member).1)
    (by simpa using nonempty)]
  exact mapM_unescapeToken tokens plain

/-! ## Locations -/

namespace Json

/-- Replaces the value at a location that exists; elsewhere the document is left as it is. -/
def setAt : Json → List String → Json → Json
  | _, [], value => value
  | doc, token :: rest, value =>
      match doc.getChild token with
      | some child => doc.setChild token (setAt child rest value)
      | none => doc

theorem getChild_setChild {doc child : Json} {token : String}
    (found : doc.getChild token = some child) (value : Json) :
    (doc.setChild token value).getChild token = some value := by
  cases doc with
  | obj members => simp [getChild, setChild, lookup_setMember]
  | arr items =>
      simp only [getChild, Option.bind_eq_some] at found
      obtain ⟨index, parsed, present⟩ := found
      simp [getChild, setChild, parsed, List.getElem?_set, (List.getElem?_eq_some_iff.mp present).1]
  | _ => cases found

/-- Setting one child leaves a child of another name, and of another index, as it was. -/
theorem getChild_setChild_of_ne (doc : Json) {token other : String} (names : other ≠ token)
    (indices : parseIndex other = none ∨ parseIndex other ≠ parseIndex token) (value : Json) :
    (doc.setChild token value).getChild other = doc.getChild other := by
  cases doc with
  | obj members => simp [getChild, setChild, lookup_setMember, names]
  | arr items =>
      cases index : parseIndex token with
      | none => simp [setChild, index]
      | some n =>
          cases otherIndex : parseIndex other with
          | none => simp [setChild, getChild, index, otherIndex]
          | some m =>
              have : n ≠ m := fun same => by simp [index, otherIndex, same] at indices
              simp [setChild, getChild, index, otherIndex, List.getElem?_set_ne this]
  | _ => rfl

theorem setChild_setChild (doc : Json) (token : String) (first second : Json) :
    (doc.setChild token first).setChild token second = doc.setChild token second := by
  cases doc with
  | obj members => simp [setChild, setMember_setMember]
  | arr items => cases index : parseIndex token <;> simp [setChild, index]
  | _ => rfl

theorem getAt_append (doc : Json) (path rest : List String) :
    doc.getAt (path ++ rest) = (doc.getAt path).bind (getAt · rest) := by
  induction path generalizing doc with
  | nil => rfl
  | cons token path ih => simp [getAt, ih, Option.bind_assoc]

theorem getAt_setAt {doc child : Json} {path : List String} (found : doc.getAt path = some child)
    (value : Json) : (doc.setAt path value).getAt path = some value := by
  induction path generalizing doc with
  | nil => rfl
  | cons token path ih =>
      simp only [getAt, Option.bind_eq_some] at found
      obtain ⟨next, present, below⟩ := found
      simp [setAt, present, getAt, getChild_setChild present, ih below]

theorem setAt_setAt (doc : Json) (path : List String) (first second : Json) :
    (doc.setAt path first).setAt path second = doc.setAt path second := by
  induction path generalizing doc with
  | nil => rfl
  | cons token path ih =>
      cases present : doc.getChild token with
      | none => simp [setAt, present]
      | some next => simp [setAt, present, getChild_setChild present, setChild_setChild, ih]

theorem getAt_setAt_of_ne (doc : Json) {token other : String} (names : other ≠ token)
    (indices : parseIndex other = none ∨ parseIndex other ≠ parseIndex token)
    (path rest : List String) (value : Json) :
    (doc.setAt (token :: path) value).getAt (other :: rest) = doc.getAt (other :: rest) := by
  cases present : doc.getChild token with
  | none => simp [setAt, present]
  | some child => simp [setAt, present, getAt, getChild_setChild_of_ne doc names indices]

theorem getAt_setAt_cons {doc child : Json} {token : String}
    (found : doc.getChild token = some child) (path rest : List String) (value : Json) :
    (doc.setAt (token :: path) value).getAt (token :: rest) = (child.setAt path value).getAt rest := by
  simp [setAt, found, getAt, getChild_setChild found]

theorem setAt_append {doc child : Json} {path : List String} (found : doc.getAt path = some child)
    (rest : List String) (value : Json) :
    doc.setAt (path ++ rest) value = doc.setAt path (child.setAt rest value) := by
  induction path generalizing doc with
  | nil => cases found; rfl
  | cons token path ih =>
      simp only [getAt, Option.bind_eq_some] at found
      obtain ⟨next, present, below⟩ := found
      simp [setAt, present, ih below]

theorem addAt_cons_cons (value doc : Json) (token next : String) (rest : List String) :
    addAt value doc (token :: next :: rest) =
      match doc.getChild token with
      | some child => (doc.setChild token ·) <$> addAt value child (next :: rest)
      | none => .error ("missing path element: " ++ token) := rfl

/-- An `add` below a location that exists is an `add` in the value there, put back in place. -/
theorem addAt_append {doc child : Json} {path : List String} (found : doc.getAt path = some child)
    (value : Json) {rest : List String} (nonempty : rest ≠ []) :
    addAt value doc (path ++ rest) = (doc.setAt path ·) <$> addAt value child rest := by
  induction path generalizing doc with
  | nil => cases found; simp [setAt]
  | cons token path ih =>
      simp only [getAt, Option.bind_eq_some] at found
      obtain ⟨next, present, below⟩ := found
      obtain ⟨first, more, split⟩ := List.exists_cons_of_ne_nil
        (List.append_ne_nil_of_right_ne_nil path nonempty)
      rw [List.cons_append, split, addAt_cons_cons]
      simp only [present]
      rw [← split, ih below, Functor.map_map]
      simp [setAt, present]

end Json

end VerticalPodAutoscaler.Admission
