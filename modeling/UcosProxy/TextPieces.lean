import Mathlib

/-!
# Places and pieces of a text

A text is a list of letters of any type. `place` is the first position at which a
text starts with a word; an occurrence found in the head of a text stays the first one
when the text goes on, and a head that keeps apart from the word is passed over.
`between` is what stands between two positions. A row of pieces of one length is cut
into its pieces again by counting, whatever stands before and behind it.

The laws here ask nothing of the letters but that they can be compared.
-/

namespace UcosProxy.TextPieces

universe u
variable {Letter : Type u}

section places
variable [DecidableEq Letter]

/-- The first position at which the text starts with the word. -/
def place (word : List Letter) : List Letter → Option Nat
  | [] => if word = [] then some 0 else none
  | letter :: rest =>
    if word <+: letter :: rest then some 0 else (place word rest).map (· + 1)

/-- No occurrence of the word begins in the text, whatever follows the text. -/
def Apart (word : List Letter) : List Letter → Prop
  | [] => True
  | letter :: rest =>
    (¬ word <+: letter :: rest ∧ ¬ letter :: rest <+: word) ∧ Apart word rest

instance apartDecidable (word : List Letter) : ∀ text, Decidable (Apart word text)
  | [] => isTrue trivial
  | letter :: rest =>
    have := apartDecidable word rest
    inferInstanceAs (Decidable ((¬ word <+: letter :: rest ∧ ¬ letter :: rest <+: word) ∧
      Apart word rest))

/-- A text starts with its own head. -/
theorem place_append_self (word rest : List Letter) : place word (word ++ rest) = some 0 := by
  cases text : word ++ rest with
  | nil =>
    have empty : word = [] := (List.append_eq_nil_iff.mp text).1
    rw [place, if_pos empty]
  | cons letter others =>
    have starts : word <+: letter :: others := text ▸ List.prefix_append word rest
    rw [place, if_pos starts]

/-- An occurrence lies inside the text. -/
theorem place_inside {word text : List Letter} {index : Nat} (found : place word text = some index) :
    index + word.length ≤ text.length := by
  induction text generalizing index with
  | nil =>
    rw [place] at found
    split at found
    · rename_i empty
      obtain rfl := Option.some.inj found
      simp [empty]
    · cases found
  | cons letter rest inductionHypothesis =>
    rw [place] at found
    split at found
    · rename_i starts
      obtain rfl := Option.some.inj found
      simpa using starts.length_le
    · obtain ⟨before, further, rfl⟩ := Option.map_eq_some_iff.mp found
      have inside := inductionHypothesis further
      rw [List.length_cons]
      omega

/-- An occurrence stays the first one when the text goes on. -/
theorem place_append {word text : List Letter} {index : Nat} (rest : List Letter)
    (found : place word text = some index) : place word (text ++ rest) = some index := by
  induction text generalizing index with
  | nil =>
    have inside := place_inside found
    rw [List.length_nil] at inside
    obtain rfl : word = [] := List.length_eq_zero_iff.mp (by omega)
    obtain rfl : 0 = index := Option.some.inj found
    exact place_append_self [] rest
  | cons letter others inductionHypothesis =>
    rw [place] at found
    rw [List.cons_append, place]
    split at found
    · rename_i starts
      obtain rfl := Option.some.inj found
      have stillHere : word <+: letter :: (others ++ rest) := List.prefix_append_of_prefix starts
      rw [if_pos stillHere]
    · rename_i notHere
      obtain ⟨before, further, rfl⟩ := Option.map_eq_some_iff.mp found
      -- A later occurrence leaves no room for one that only the added text completes.
      have stillNotHere : ¬ word <+: letter :: (others ++ rest) := by
        intro starts
        have inside := place_inside further
        have short : word.length ≤ (letter :: others).length := by
          rw [List.length_cons]
          omega
        exact notHere (List.prefix_of_prefix_length_le starts
          (List.prefix_append (letter :: others) rest) short)
      rw [if_neg stillNotHere, inductionHypothesis further, Option.map_some]

/-- A head that keeps apart from the word is passed over. -/
theorem place_behind {word head : List Letter} (rest : List Letter) (apart : Apart word head) :
    place word (head ++ rest) = (place word rest).map (head.length + ·) := by
  induction head with
  | nil => simp
  | cons letter others inductionHypothesis =>
    obtain ⟨⟨notHere, notLonger⟩, further⟩ := apart
    have notStarting : ¬ word <+: letter :: (others ++ rest) := by
      intro starts
      rcases List.prefix_or_prefix_of_prefix starts
        (List.prefix_append (letter :: others) rest) with inside | beyond
      · exact notHere inside
      · exact notLonger beyond
    rw [List.cons_append, place, if_neg notStarting, inductionHypothesis further, Option.map_map]
    congr 1
    funext index
    simp only [Function.comp_apply, List.length_cons]
    omega

omit [DecidableEq Letter] in
/-- A text without the first letter of a word keeps apart from the word. -/
theorem apart_of_not_mem {letter : Letter} {word text : List Letter} (absent : letter ∉ text) :
    Apart (letter :: word) text := by
  induction text with
  | nil => trivial
  | cons head rest inductionHypothesis =>
    obtain ⟨other, further⟩ := not_or.mp (mt List.mem_cons.mpr absent)
    refine ⟨⟨?_, ?_⟩, inductionHypothesis further⟩
    · intro starts
      exact other (List.cons_prefix_cons.mp starts).1
    · intro starts
      exact other (List.cons_prefix_cons.mp starts).1.symm

/-- A word with a letter that the text lacks is nowhere in it. -/
theorem place_eq_none {letter : Letter} {word text : List Letter} (inside : letter ∈ word)
    (absent : letter ∉ text) : place word text = none := by
  induction text with
  | nil =>
    rw [place, if_neg (List.ne_nil_of_mem inside)]
  | cons head rest inductionHypothesis =>
    have notHere : ¬ word <+: head :: rest := fun starts => absent (starts.subset inside)
    rw [place, if_neg notHere, inductionHypothesis fun member =>
      absent (List.mem_cons_of_mem _ member), Option.map_none]

end places

section pieces

/-- What stands from one position up to another. -/
def between (text : List Letter) (start stop : Nat) : List Letter := (text.take stop).drop start

/-- What stands behind a head, counted from its end. -/
theorem between_append (head text : List Letter) (start stop : Nat) :
    between (head ++ text) (head.length + start) (head.length + stop) = between text start stop := by
  rw [between, List.take_length_add_append, List.drop_length_add_append, between]

/-- Pieces of one length make up their number times that length. -/
theorem length_flatten_pieces {pieces : List (List Letter)} {size : Nat}
    (equal : ∀ piece ∈ pieces, piece.length = size) : pieces.flatten.length = pieces.length * size := by
  induction pieces with
  | nil => simp
  | cons piece rest inductionHypothesis =>
    have further := inductionHypothesis fun other member => equal other (List.mem_cons_of_mem _ member)
    rw [List.flatten_cons, List.length_append, equal piece List.mem_cons_self, further,
      List.length_cons, Nat.succ_mul, Nat.add_comm]

/-- Counting by their length finds each of the pieces in a row. -/
theorem between_piece {pieces : List (List Letter)} {size line : Nat}
    (equal : ∀ piece ∈ pieces, piece.length = size) (behind : List Letter)
    (inside : line < pieces.length) :
    between (pieces.flatten ++ behind) (line * size) ((line + 1) * size) = pieces[line] := by
  induction pieces generalizing line with
  | nil => cases inside
  | cons piece rest inductionHypothesis =>
    have first : piece.length = size := equal piece List.mem_cons_self
    rw [List.flatten_cons, List.append_assoc]
    cases line with
    | zero =>
      rw [between, Nat.zero_add, Nat.one_mul, Nat.zero_mul, List.take_left' first, List.drop_zero,
        List.getElem_cons_zero]
    | succ line =>
      have start : (line + 1) * size = piece.length + line * size := by
        rw [first, Nat.succ_mul, Nat.add_comm]
      have stop : (line + 1 + 1) * size = piece.length + (line + 1) * size := by
        rw [first, Nat.succ_mul, Nat.add_comm]
      rw [stop, start, between_append, ← start, List.getElem_cons_succ]
      exact inductionHypothesis (fun other member => equal other (List.mem_cons_of_mem _ member))
        (Nat.lt_of_succ_lt_succ inside)

end pieces

end UcosProxy.TextPieces
