import Mathlib

/-!
# Assignments to the bits of a word

An assignment names some bits of a word and the bits to store there; everything
else in the word stays. The stored bits lie inside the named ones by construction,
so two words give the same result exactly when they agree outside the mask, and
storing twice is storing once. Assignments compose, the later one winning where
both name a bit.

The last part lifts an assignment to one entry of an array of words. Nothing here
knows what the bits mean.
-/

namespace UcosProxy.BitFields

variable {width count : Nat}

/-- Bits of a word to store, and what to store there. The value has no bits outside the
mask, so that an assignment to one field cannot reach another one by its value. -/
structure Assignment (width : Nat) where
  mask : BitVec width
  value : BitVec width
  inside : value &&& ~~~mask = 0
deriving DecidableEq

namespace Assignment

/-- Store the named bits and leave the others. -/
def apply (assignment : Assignment width) (word : BitVec width) : BitVec width :=
  word &&& ~~~assignment.mask ||| assignment.value

/-- Store nothing. -/
def keep : Assignment width where
  mask := 0
  value := 0
  inside := by simp

/-- Store both, the second over the first. -/
def andThen (first second : Assignment width) : Assignment width where
  mask := first.mask ||| second.mask
  value := first.value &&& ~~~second.mask ||| second.value
  inside := by
    ext index bound
    have firstInside := congrArg (fun word => word.getLsbD index) first.inside
    have secondInside := congrArg (fun word => word.getLsbD index) second.inside
    simp only [BitVec.getLsbD_and, BitVec.getLsbD_not, bound] at firstInside secondInside
    simp only [BitVec.getElem_and, BitVec.getElem_or, BitVec.getElem_not]
    simp only [← BitVec.getLsbD_eq_getElem]
    grind

/-- Store a number into `size` bits from `offset` on, as a C bit-field does. -/
def field (width offset size content : Nat) : Assignment width where
  mask := BitVec.ofNat width ((2 ^ size - 1) <<< offset)
  value := BitVec.ofNat width (content <<< offset) &&& BitVec.ofNat width ((2 ^ size - 1) <<< offset)
  inside := by
    simp only [BitVec.and_assoc, BitVec.and_not_self]
    exact BitVec.and_zero

/-- A stored bit comes from the assignment, every other one from the word. -/
theorem getLsbD_apply (assignment : Assignment width) (word : BitVec width) (index : Nat) :
    (assignment.apply word).getLsbD index =
      if assignment.mask.getLsbD index then assignment.value.getLsbD index
      else word.getLsbD index := by
  have inside := congrArg (fun bits => bits.getLsbD index) assignment.inside
  simp only [BitVec.getLsbD_and, BitVec.getLsbD_not] at inside
  simp only [apply, BitVec.getLsbD_or, BitVec.getLsbD_and, BitVec.getLsbD_not]
  by_cases bound : index < width
  · grind
  · simp [BitVec.getLsbD_of_ge, Nat.le_of_not_lt bound]

@[simp] theorem keep_apply (word : BitVec width) : (keep : Assignment width).apply word = word := by
  simp [apply, keep]

/-- One assignment after the other is their composition. -/
theorem andThen_apply (first second : Assignment width) (word : BitVec width) :
    (first.andThen second).apply word = second.apply (first.apply word) := by
  apply BitVec.eq_of_getLsbD_eq
  intro index bound
  have inside := congrArg (fun bits => bits.getLsbD index) second.inside
  simp only [BitVec.getLsbD_and, BitVec.getLsbD_not, bound] at inside
  simp only [getLsbD_apply, andThen, BitVec.getLsbD_or, BitVec.getLsbD_and, BitVec.getLsbD_not, bound]
  grind

/-- Two words give the same result exactly when they agree outside the mask. -/
theorem apply_eq_apply_iff (assignment : Assignment width) (left right : BitVec width) :
    assignment.apply left = assignment.apply right ↔
      left &&& ~~~assignment.mask = right &&& ~~~assignment.mask := by
  constructor
  · intro same
    apply BitVec.eq_of_getLsbD_eq
    intro index bound
    have bits := congrArg (fun word => word.getLsbD index) same
    simp only [getLsbD_apply] at bits
    simp only [BitVec.getLsbD_and, BitVec.getLsbD_not, bound]
    grind
  · intro same
    simp only [apply, same]

end Assignment

/-- What a C bit-field of `size` bits from `offset` on reads. -/
def content (offset size : Nat) (word : BitVec width) : Nat := word.toNat / 2 ^ offset % 2 ^ size

/-- A bit of a bit-field is one of its word. -/
theorem testBit_content (offset size : Nat) (word : BitVec width) (index : Nat) :
    (content offset size word).testBit index =
      (decide (index < size) && word.getLsbD (offset + index)) := by
  rw [content, Nat.testBit_mod_two_pow, Nat.testBit_div_two_pow, BitVec.testBit_toNat, Nat.add_comm]

/-- A bit-field of one bit reads that bit. -/
theorem content_one (offset : Nat) (word : BitVec width) :
    content offset 1 word = (word.getLsbD offset).toNat := by
  apply Nat.eq_of_testBit_eq
  intro index
  rw [testBit_content, Nat.testBit_bool_toNat]
  by_cases first : index = 0
  · subst first
    simp
  · have beyond : ¬ index < 1 := by omega
    simp [first, beyond]

/-- A bit behind a store into a bit-field. -/
theorem Assignment.getLsbD_field_apply (offset size number : Nat) (word : BitVec width) (index : Nat)
    (bound : index < width) :
    ((Assignment.field width offset size number).apply word).getLsbD index =
      if offset ≤ index ∧ index < offset + size then number.testBit (index - offset)
      else word.getLsbD index := by
  rw [getLsbD_apply]
  simp only [Assignment.field, BitVec.getLsbD_and, BitVec.getLsbD_ofNat, bound, decide_true,
    Bool.true_and, Nat.testBit_shiftLeft, Nat.testBit_two_pow_sub_one]
  by_cases behind : offset ≤ index
  · by_cases within : index < offset + size
    · have inner : index - offset < size := by omega
      simp [behind, within, inner]
    · have beyond : ¬ index - offset < size := by omega
      simp [within, beyond]
  · simp [behind]

/-- Storing what a bit-field reads changes nothing. -/
theorem Assignment.field_content (offset size : Nat) (word : BitVec width) :
    (Assignment.field width offset size (content offset size word)).apply word = word := by
  apply BitVec.eq_of_getLsbD_eq
  intro index bound
  rw [getLsbD_field_apply _ _ _ _ _ bound, testBit_content]
  by_cases within : offset ≤ index ∧ index < offset + size
  · have inner : index - offset < size := by omega
    simp [within, inner]
  · simp [within]

/-- Two words that agree on the bits of a bit-field read the same in it. -/
theorem content_congr {offset size : Nat} {left right : BitVec width}
    (same : ∀ index, offset ≤ index → index < offset + size →
      left.getLsbD index = right.getLsbD index) :
    content offset size left = content offset size right := by
  apply Nat.eq_of_testBit_eq
  intro index
  rw [testBit_content, testBit_content]
  by_cases inside : index < size
  · rw [same (offset + index) (by omega) (by omega)]
  · simp [inside]

/-- A bit-field reads the number that was stored into it. -/
theorem content_field_same {offset size number : Nat} (word : BitVec width)
    (inside : offset + size ≤ width) (small : number < 2 ^ size) :
    content offset size ((Assignment.field width offset size number).apply word) = number := by
  apply Nat.eq_of_testBit_eq
  intro index
  rw [testBit_content]
  by_cases within : index < size
  · rw [Assignment.getLsbD_field_apply _ _ _ _ _ (by omega)]
    have here : offset ≤ offset + index ∧ offset + index < offset + size := by omega
    simp [within]
  · have beyond : number < 2 ^ index :=
      Nat.lt_of_lt_of_le small (Nat.pow_le_pow_right (by decide) (Nat.le_of_not_lt within))
    simp [within, Nat.testBit_lt_two_pow beyond]

/-- Apply an assignment to one entry of an array. -/
def assignAt (assignment : Assignment width) (port : Nat) (array : Fin count → BitVec width) :
    Fin count → BitVec width :=
  fun index => if index.val = port then assignment.apply (array index) else array index

/-- Two arrays agree on all that an assignment to one entry leaves as it was. The bits that
the assignment sets may differ in that entry, and nothing else may differ at all. -/
def AgreeOutside (assignment : Assignment width) (port : Nat) (left right : Fin count → BitVec width) :
    Prop :=
  ∀ index : Fin count,
    if index.val = port then left index &&& ~~~assignment.mask = right index &&& ~~~assignment.mask
    else left index = right index

instance (assignment : Assignment width) (port : Nat) (left right : Fin count → BitVec width) :
    Decidable (AgreeOutside assignment port left right) :=
  inferInstanceAs (Decidable (∀ index : Fin count,
    if index.val = port then left index &&& ~~~assignment.mask = right index &&& ~~~assignment.mask
    else left index = right index))

/-- Two arrays become one under an assignment exactly when they agree outside it. -/
theorem assignAt_eq_iff (assignment : Assignment width) (port : Nat)
    (left right : Fin count → BitVec width) :
    assignAt assignment port left = assignAt assignment port right ↔
      AgreeOutside assignment port left right := by
  rw [funext_iff]
  apply forall_congr'
  intro index
  unfold assignAt
  by_cases same : index.val = port
  · simp only [same, if_true]
    exact assignment.apply_eq_apply_iff _ _
  · simp only [same, if_false]

/-- Assignments to one entry compose. -/
theorem assignAt_andThen (first second : Assignment width) (port : Nat)
    (array : Fin count → BitVec width) :
    assignAt second port (assignAt first port array) = assignAt (first.andThen second) port array := by
  funext index
  unfold assignAt
  by_cases same : index.val = port
  · simp only [same, if_true, Assignment.andThen_apply]
  · simp only [same, if_false]

/-- An assignment that keeps the words of its entry keeps the array. -/
theorem assignAt_of_apply_eq {assignment : Assignment width} {port : Nat}
    {array : Fin count → BitVec width}
    (kept : ∀ index : Fin count, index.val = port → assignment.apply (array index) = array index) :
    assignAt assignment port array = array := by
  funext index
  unfold assignAt
  split
  · rename_i same
    exact kept index same
  · rfl

@[simp] theorem assignAt_keep (port : Nat) (array : Fin count → BitVec width) :
    assignAt Assignment.keep port array = array := by
  funext index
  simp [assignAt]

end UcosProxy.BitFields
