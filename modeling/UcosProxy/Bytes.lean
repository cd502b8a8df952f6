import Mathlib

/-!
# Bytes, C strings and byte sums

Memory is a list of bytes. A C string is the bytes before the first NUL of the
region it starts in; a region without a NUL holds no string, so a reader of it
runs past its end and the result here is `none`, never a clipped text.

The library functions follow their documented behaviour on such lists: `strchr`
and `strcmp` become list splitting and equality because a text contains no NUL,
`strnstr` is bounded by a count and stops at a NUL, `strncmp` against a fixed
word is a prefix test, and `atoi` skips white space, takes one sign and the
digits behind it, and saturates at the ends of a 32-bit integer as `strtol` does.

Sums of bytes are unbounded natural numbers; a caller that keeps a machine word
reduces them itself.
-/

namespace UcosProxy

/-- An eight-bit `char` or `u8`. -/
abbrev Byte := BitVec 8

namespace Bytes

/-- The bytes of a string literal of the C source, without its NUL. -/
def ascii (literal : String) : List Byte :=
  literal.toList.map fun letter => BitVec.ofNat 8 letter.toNat

/-- The bytes before the first NUL. -/
def text (memory : List Byte) : List Byte := memory.takeWhile (· ≠ 0)

/-- The C string that starts at the head of a region, when the region ends it. -/
def cString? (memory : List Byte) : Option (List Byte) :=
  if (0 : Byte) ∈ memory then some (text memory) else none

/-- `memcpy` of a source over a region, from an offset on. -/
def overwrite (memory : List Byte) (offset : Nat) (source : List Byte) : List Byte :=
  memory.take offset ++ source ++ memory.drop (offset + source.length)

/-- `strnstr`: the offset of a word within the first `count` bytes of a region,
searched up to a NUL. -/
def strnstr (word : List Byte) : Nat → List Byte → Option Nat
  | _, [] => none
  | count, byte :: rest =>
    if byte = 0 ∨ count < word.length then none
    else if word.isPrefixOf (byte :: rest) then some 0
    else (strnstr word (count - 1) rest).map (· + 1)

/-- `isspace` of the C locale. -/
def isSpace (byte : Byte) : Bool :=
  byte = 32 || (9 ≤ byte.toNat && byte.toNat ≤ 13)

/-- `isdigit` of the C locale. -/
def isDigit (byte : Byte) : Bool := 48 ≤ byte.toNat && byte.toNat ≤ 57

/-- Value of a run of decimal digits, first digit most significant. -/
def digitsValue (digits : List Byte) : Nat :=
  digits.foldl (fun value digit => 10 * value + (digit.toNat - 48)) 0

/-- `atoi`: white space, an optional sign, the digits up to the first other
byte, saturated to the range of a 32-bit `int`. -/
def atoi (source : List Byte) : Int :=
  let body := source.dropWhile isSpace
  let magnitude := fun digits => digitsValue (digits.takeWhile isDigit)
  match body with
  | [] => 0
  | sign :: digits =>
    if sign = 45 then max (-(magnitude digits : Int)) (-2147483648)
    else if sign = 43 then min (magnitude digits : Int) 2147483647
    else min (magnitude body : Int) 2147483647

/-- Sum of a list of bytes, as a natural number. -/
def byteSum (bytes : List Byte) : Nat := (bytes.map BitVec.toNat).sum

@[simp] theorem text_zero (rest : List Byte) : text (0 :: rest) = [] := by
  simp [text]

/-- A byte that is not NUL belongs to the text. -/
theorem text_cons (byte : Byte) (rest : List Byte) (letter : byte ≠ 0) :
    text (byte :: rest) = byte :: text rest :=
  List.takeWhile_cons_of_pos (by simpa using letter)

@[simp] theorem byteSum_nil : byteSum [] = 0 := rfl

@[simp] theorem byteSum_cons (byte : Byte) (rest : List Byte) :
    byteSum (byte :: rest) = byte.toNat + byteSum rest := by
  simp [byteSum]

@[simp] theorem byteSum_append (left right : List Byte) :
    byteSum (left ++ right) = byteSum left + byteSum right := by
  simp [byteSum]

/-- Cutting a list in two keeps its sum. -/
theorem byteSum_take_drop (count : Nat) (bytes : List Byte) :
    byteSum (bytes.take count) + byteSum (bytes.drop count) = byteSum bytes := by
  rw [← byteSum_append, List.take_append_drop]

/-- A byte is at most 255, so a sum is at most 255 times the length. -/
theorem byteSum_le (bytes : List Byte) : byteSum bytes ≤ 255 * bytes.length := by
  induction bytes with
  | nil => simp
  | cons byte rest inductionHypothesis =>
    have bound : byte.toNat < 256 := byte.isLt
    simp only [byteSum_cons, List.length_cons]
    omega

/-! ## Copies -/

/-- A write inside the buffer keeps its length. -/
theorem overwrite_length (memory source : List Byte) (offset : Nat)
    (inside : offset + source.length ≤ memory.length) :
    (overwrite memory offset source).length = memory.length := by
  simp only [overwrite, List.length_append, List.length_take, List.length_drop]
  omega

/-- A byte behind a write: of what was written inside the written region, and the byte
before outside. -/
theorem getD_overwrite (memory source : List Byte) (offset index : Nat)
    (fits : offset + source.length ≤ memory.length) :
    (overwrite memory offset source).getD index 0 =
      if offset ≤ index ∧ index < offset + source.length then source.getD (index - offset) 0
      else memory.getD index 0 := by
  have length : (memory.take offset).length = offset := by
    rw [List.length_take]
    omega
  simp only [overwrite, List.getD_eq_getElem?_getD, List.append_assoc]
  by_cases before : index < offset
  · rw [List.getElem?_append_left (by omega), List.getElem?_take_of_lt before,
      if_neg (by omega)]
  · rw [List.getElem?_append_right (by omega), length]
    by_cases within : index < offset + source.length
    · rw [List.getElem?_append_left (by omega), if_pos ⟨by omega, within⟩]
    · rw [List.getElem?_append_right (by omega), List.getElem?_drop, if_neg (by omega)]
      congr 2
      omega

/-- Memory is at least as long as what was copied to its head. -/
theorem overwrite_length_le (memory source : List Byte) :
    source.length ≤ (overwrite memory 0 source).length := by
  simp [overwrite]

/-- What stands behind a packet that is copied to the head stays. -/
theorem overwrite_drop (memory packet : List Byte) :
    (overwrite memory 0 packet).drop packet.length = memory.drop packet.length := by
  simp [overwrite]

/-- A packet is read back from the head, without the bytes behind it. -/
theorem overwrite_take (memory packet behind : List Byte) :
    (overwrite memory 0 (packet ++ behind)).take packet.length = packet := by
  simp [overwrite]

/-- A text and its NUL over the first zero leave one zero less for each letter. -/
theorem overwrite_zeros (written text : List Byte) {free : Nat} (room : text.length < free) :
    overwrite (written ++ List.replicate free 0) written.length (text ++ [0]) =
      (written ++ text) ++ List.replicate (free - text.length) 0 := by
  have ended : free - text.length = 1 + (free - (text.length + 1)) := by omega
  rw [overwrite, List.take_left' rfl, List.drop_length_add_append, List.drop_replicate,
    List.length_append, List.length_singleton, ended, List.replicate_add]
  simp only [List.replicate_one, List.append_assoc]

end Bytes

end UcosProxy
