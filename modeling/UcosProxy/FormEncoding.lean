import UcosProxy.CgiAccess

/-!
# Forms as the pages submit them

The pages submit with `$.post`, which encodes an object by jQuery's `param`: names and
values go through `encodeURIComponent`, an equals sign joins the two of a pair, an
ampersand joins the pairs, and a blank becomes a plus. The server cuts the text at
those signs and never decodes it.

A text in a browser is a list of characters here, that is one without halves of
surrogate pairs; `encodeURIComponent` throws on the others, so that nothing is sent.
-/

namespace UcosProxy.FormEncoding

open Bytes UriParameters CgiAccess

/-- The characters that `encodeURIComponent` leaves as they are: letters, digits and
nine marks. -/
def isUnreserved (letter : Char) : Bool :=
  letter.isAlphanum || [33, 39, 40, 41, 42, 45, 46, 95, 126].contains letter.toNat

/-- A digit of an escape. -/
def hexDigit (value : Nat) : Byte := BitVec.ofNat 8 (if value < 10 then 48 + value else 55 + value)

/-- The escape of a byte. -/
def percentEscape (byte : Byte) : List Byte :=
  [37, hexDigit (byte.toNat / 16), hexDigit (byte.toNat % 16)]

/-- A character of a form. -/
def formLetter (letter : Char) : List Byte :=
  if letter = ' ' then [43]
  else if isUnreserved letter then [BitVec.ofNat 8 letter.toNat]
  else (String.utf8EncodeChar letter).flatMap fun byte => percentEscape byte.toBitVec

/-- A value of a form. -/
def formValue (value : List Char) : List Byte := value.flatMap formLetter

/-- A field of a form. Its name needs no escape. Its value is any text, and it is escaped as
a browser does it. -/
structure Field where
  name : String
  value : List Char

/-- `jQuery.param` -/
def param : List Field → List Byte
  | [] => []
  | [field] => ascii field.name ++ 61 :: formValue field.value
  | field :: rest => ascii field.name ++ 61 :: formValue field.value ++ 38 :: param rest

/-- The bytes that occur in an encoded text. -/
def isFormByte (byte : Byte) : Bool :=
  isUnreserved (Char.ofNat byte.toNat) || byte = 43 || byte = 37

/-- A field as the server reads it. -/
def Field.read (field : Field) : Param := ⟨ascii field.name, some (formValue field.value)⟩

/-! ## Encoded texts -/

/-- The unreserved characters are printed ones of ASCII. -/
theorem isUnreserved_printed {letter : Char} (unreserved : isUnreserved letter = true) :
    33 ≤ letter.toNat ∧ letter.toNat ≤ 126 := by
  have firstUpper : 'A'.val.toNat = 65 := rfl
  have firstLower : 'a'.val.toNat = 97 := rfl
  have firstDigit : '0'.val.toNat = 48 := rfl
  have lastUpper : 'Z'.val.toNat = 90 := rfl
  have lastLower : 'z'.val.toNat = 122 := rfl
  have lastDigit : '9'.val.toNat = 57 := rfl
  simp only [isUnreserved, Char.isAlphanum, Char.isAlpha, Char.isUpper, Char.isLower, Char.isDigit,
    Bool.or_eq_true, Bool.and_eq_true, decide_eq_true_eq, List.contains_eq_mem, List.mem_cons,
    List.not_mem_nil, or_false, Char.toNat, ge_iff_le, UInt32.le_iff_toNat_le] at unreserved ⊢
  omega

/-- So are the bytes of an encoded text. -/
theorem isFormByte_printed {byte : Byte} (form : isFormByte byte = true) :
    33 ≤ byte.toNat ∧ byte.toNat ≤ 126 := by
  simp only [isFormByte, Bool.or_eq_true, decide_eq_true_eq] at form
  rcases form with (unreserved | rfl) | rfl
  · have printed := isUnreserved_printed unreserved
    have valid : byte.toNat.isValidChar := Or.inl (Nat.lt_trans byte.isLt (by decide))
    have code : (Char.ofNat byte.toNat).toNat = byte.toNat := by
      rw [Char.ofNat, dif_pos valid]
      rfl
    rwa [code] at printed
  · decide
  · decide

/-- An ASCII character is read back from its byte. -/
theorem ofNat_byte {letter : Char} (small : letter.toNat < 256) :
    Char.ofNat (BitVec.ofNat 8 letter.toNat).toNat = letter := by
  rw [BitVec.toNat_ofNat, Nat.mod_eq_of_lt small, Char.ofNat_toNat]

/-- An unreserved character is one byte of a form. -/
theorem formLetter_unreserved {letter : Char} (unreserved : isUnreserved letter = true) :
    formLetter letter = [BitVec.ofNat 8 letter.toNat] := by
  have printed := isUnreserved_printed unreserved
  have notBlank : letter ≠ ' ' := by
    rintro rfl
    exact absurd printed.1 (by decide)
  rw [formLetter, if_neg notBlank, if_pos unreserved]

/-- A digit of an escape is a form byte. -/
theorem hexDigit_formByte (value : Nat) (digit : value < 16) : isFormByte (hexDigit value) = true := by
  have all : ∀ value : Fin 16, isFormByte (hexDigit value) = true := by decide
  exact all ⟨value, digit⟩

/-- Every byte of an encoded text is a form byte. -/
theorem formValue_formByte (value : List Char) : ∀ byte ∈ formValue value, isFormByte byte = true := by
  have letters (letter : Char) : ∀ byte ∈ formLetter letter, isFormByte byte = true := by
    intro byte member
    unfold formLetter at member
    split at member
    · obtain rfl := List.mem_singleton.mp member
      decide
    · split at member
      · rename_i unreserved
        obtain rfl := List.mem_singleton.mp member
        have printed := isUnreserved_printed unreserved
        simp only [isFormByte, ofNat_byte (Nat.lt_of_le_of_lt printed.2 (by decide)), unreserved,
          Bool.true_or]
      · obtain ⟨unit, _, digit⟩ := List.mem_flatMap.mp member
        have low : unit.toBitVec.toNat < 256 := unit.toBitVec.isLt
        simp only [percentEscape, List.mem_cons, List.not_mem_nil, or_false] at digit
        rcases digit with rfl | rfl | rfl
        · decide
        · exact hexDigit_formByte _ (by omega)
        · exact hexDigit_formByte _ (Nat.mod_lt _ (by decide))
  intro byte member
  obtain ⟨letter, _, inside⟩ := List.mem_flatMap.mp member
  exact letters letter byte inside

/-- A byte that no encoded text has. -/
theorem not_mem_formValue (value : List Char) {byte : Byte} (other : isFormByte byte = false) :
    byte ∉ formValue value := by
  intro member
  have inside := formValue_formByte value byte member
  rw [other] at inside
  cases inside

/-! ## What the server reads -/

/-- None of the signs that the server cuts at is in the text. Such a text comes through the
parser of parameters as one piece. -/
structure Uncut (text : List Byte) : Prop where
  blank : (32 : Byte) ∉ text
  ampersand : (38 : Byte) ∉ text
  equals : (61 : Byte) ∉ text

instance (text : List Byte) : Decidable (Uncut text) :=
  decidable_of_iff (text.contains 32 = false ∧ text.contains 38 = false ∧ text.contains 61 = false)
    ⟨fun ⟨blank, ampersand, equals⟩ =>
        ⟨by simpa using blank, by simpa using ampersand, by simpa using equals⟩,
      fun uncut =>
        ⟨by simpa using uncut.blank, by simpa using uncut.ampersand, by simpa using uncut.equals⟩⟩

/-- An encoded text is not cut. -/
theorem formValue_uncut (value : List Char) : Uncut (formValue value) where
  blank := not_mem_formValue value (by decide)
  ampersand := not_mem_formValue value (by decide)
  equals := not_mem_formValue value (by decide)

/-- A name and a value make one pair, cut at the equals sign only. -/
theorem pairParam_split {name value : List Byte} (uncut : Uncut name) :
    pairParam (name ++ 61 :: value) = ⟨name, some value⟩ := by
  rw [pairParam, strchr_append uncut.equals]

/-- A sign other than the equals sign is in no pair. -/
theorem not_mem_pair {name value : List Byte} {sign : Byte} (inName : sign ∉ name)
    (inValue : sign ∉ value) (other : sign ≠ 61) : sign ∉ name ++ 61 :: value := by
  simp only [List.mem_append, List.mem_cons, not_or]
  exact ⟨inName, other, inValue⟩

/-- The server reads the fields of a form in their order, with their encoded values. -/
theorem extractPairs_param (fields : List Field) (left : Nat) (room : fields.length ≤ left)
    (present : fields ≠ []) (names : ∀ field ∈ fields, Uncut (ascii field.name)) :
    extractPairs left (param fields) = fields.map Field.read := by
  induction fields generalizing left with
  | nil => exact absurd rfl present
  | cons field rest inductionHypothesis =>
    have name := names field List.mem_cons_self
    have value := formValue_uncut field.value
    have noAmpersand := not_mem_pair name.ampersand value.ampersand (by decide)
    cases left with
    | zero => simp at room
    | succ left =>
      cases rest with
      | nil =>
        have noBlank := not_mem_pair name.blank value.blank (by decide)
        rw [param, extractPairs, strchr_none noAmpersand, strchr_none noBlank]
        simp only [pairParam_split name, List.map_cons, List.map_nil, Field.read]
      | cons next rest =>
        have further := inductionHypothesis left (Nat.le_of_succ_le_succ room) (by simp)
          fun field member => names field (List.mem_cons_of_mem _ member)
        rw [param, extractPairs, strchr_append noAmpersand]
        · simp only [pairParam_split name, further, List.map_cons, Field.read]
        · simp

/-- `extract_uri_parameters` on a form of at most sixteen fields. -/
theorem extractUriParameters_param (fields : List Field) (room : fields.length ≤ maxCgiParameters)
    (present : fields ≠ []) (names : ∀ field ∈ fields, Uncut (ascii field.name)) :
    extractUriParameters (param fields) = fields.map Field.read := by
  have submitted : param fields ≠ [] := by
    cases fields with
    | nil => exact absurd rfl present
    | cons field rest => cases rest <;> simp [param]
  rw [extractUriParameters, if_neg submitted]
  exact extractPairs_param fields maxCgiParameters room present names

/-- A handler finds the first field of a name with its encoded value. -/
theorem valueOf_form (name : String) (index : Nat) {fields : List Field} {names : List String}
    {field : Field} (named : fields.map Field.name = names)
    (first : (names.findIdx? fun other => ascii other = ascii name) = some index)
    (here : fields[index]? = some field) :
    valueOf name (fields.map Field.read) = .ok (formValue field.value) := by
  have found : findCgiParameter (ascii name) (fields.map Field.read) = some index := by
    rw [findCgiParameter, List.findIdx?_map]
    rw [← named, List.findIdx?_map] at first
    exact first
  simp only [valueOf, pcValue, found, Option.bind_some, List.getElem?_map, here, Option.map_some,
    Field.read]

end UcosProxy.FormEncoding
