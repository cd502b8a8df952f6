import Mathlib

/-!
# Texts woven into a stream

A scanner reads a stream letter by letter and completes a mark at some of them. The
woven stream has, behind each letter that completes a mark, a text: the first mark
takes the first text of a list, the second the next, and a mark without a text gets
nothing.

The laws are about a stream that is read in pieces. The state, the marks and the
woven stream of two pieces are those of the first and, from the state it leaves, of
the second, so a reader that stops anywhere has woven a prefix of the whole, and what
it has woven depends on the texts of the marks it has passed and on no later one.

Nothing here says what a letter, a mark or a text is.
-/

namespace UcosProxy.Weaving

universe u v w
variable {State : Type u} {Letter : Type v} {Mark : Type w}
variable (scan : State → Letter → State × Option Mark)

/-- The state behind some letters. -/
def after : State → List Letter → State
  | state, [] => state
  | state, letter :: rest => after (scan state letter).1 rest

/-- The marks that some letters complete. -/
def marks : State → List Letter → List Mark
  | _, [] => []
  | state, letter :: rest =>
    (scan state letter).2.toList ++ marks (scan state letter).1 rest

/-- The letters, with a text behind each that completes a mark. -/
def weave : State → List Letter → List (List Letter) → List Letter
  | _, [], _ => []
  | state, letter :: rest, texts =>
    match (scan state letter).2 with
    | none => letter :: weave (scan state letter).1 rest texts
    | some _ => letter :: (texts.headD [] ++ weave (scan state letter).1 rest texts.tail)

@[simp] theorem after_nil (state : State) : after scan state [] = state := rfl

@[simp] theorem marks_nil (state : State) : marks scan state [] = [] := rfl

@[simp] theorem weave_nil (state : State) (texts : List (List Letter)) :
    weave scan state [] texts = [] := rfl

theorem after_append (state : State) (first second : List Letter) :
    after scan state (first ++ second) = after scan (after scan state first) second := by
  induction first generalizing state with
  | nil => rfl
  | cons letter rest inductionHypothesis => exact inductionHypothesis _

theorem marks_append (state : State) (first second : List Letter) :
    marks scan state (first ++ second) =
      marks scan state first ++ marks scan (after scan state first) second := by
  induction first generalizing state with
  | nil => rfl
  | cons letter rest inductionHypothesis =>
    simp only [List.cons_append, marks, after, inductionHypothesis, List.append_assoc]

/-- A letter is woven with the text of its mark. -/
theorem weave_singleton (state : State) (letter : Letter) (texts : List (List Letter)) :
    weave scan state [letter] texts =
      letter :: (if (scan state letter).2.isSome then texts.headD [] else []) := by
  cases completed : (scan state letter).2 with
  | none => simp [weave, completed]
  | some mark => simp [weave, completed]

/-- Two pieces are woven one after the other, the second with the texts that the marks
of the first have left. -/
theorem weave_append (state : State) (first second : List Letter)
    (texts : List (List Letter)) :
    weave scan state (first ++ second) texts =
      weave scan state first texts ++
        weave scan (after scan state first) second
          (texts.drop (marks scan state first).length) := by
  induction first generalizing state texts with
  | nil => rfl
  | cons letter rest inductionHypothesis =>
    cases completed : (scan state letter).2 with
    | none =>
      simp only [List.cons_append, weave, completed, marks, after, inductionHypothesis,
        Option.toList_none, List.nil_append]
    | some mark =>
      simp only [List.cons_append, List.nil_append, weave, completed, marks, after,
        inductionHypothesis, Option.toList_some, List.length_cons, List.append_assoc,
        List.drop_tail]

/-- Texts behind those of the marks are not looked at. -/
theorem weave_texts (state : State) (letters : List Letter) (texts more : List (List Letter))
    (enough : (marks scan state letters).length ≤ texts.length) :
    weave scan state letters (texts ++ more) = weave scan state letters texts := by
  induction letters generalizing state texts with
  | nil => rfl
  | cons letter rest inductionHypothesis =>
    cases completed : (scan state letter).2 with
    | none =>
      simp only [marks, completed, Option.toList_none, List.nil_append] at enough
      simp only [weave, completed, inductionHypothesis _ _ enough]
    | some mark =>
      cases texts with
      | nil => simp [marks, completed] at enough
      | cons text texts =>
        simp only [marks, completed, Option.toList_some, List.singleton_append,
          List.length_cons, Nat.add_le_add_iff_right] at enough
        simp only [weave, completed, List.cons_append, List.headD_cons, List.tail_cons,
          inductionHypothesis _ _ enough]

/-- The letters so far are woven the same in every stream that goes on behind them, with
any texts for the marks to come. -/
theorem weave_prefix (state : State) (first second : List Letter)
    {texts later : List (List Letter)}
    (enough : (marks scan state first).length ≤ texts.length) (begun : texts <+: later) :
    weave scan state first texts <+: weave scan state (first ++ second) later := by
  obtain ⟨more, rfl⟩ := begun
  rw [weave_append, weave_texts scan state first texts more enough]
  exact List.prefix_append _ _

/-- The woven stream is as long as the letters and the texts of their marks. -/
theorem weave_length (state : State) (letters : List Letter) (texts : List (List Letter))
    (each : texts.length = (marks scan state letters).length) :
    (weave scan state letters texts).length =
      letters.length + (texts.map List.length).sum := by
  induction letters generalizing state texts with
  | nil =>
    obtain rfl := List.eq_nil_of_length_eq_zero each
    rfl
  | cons letter rest inductionHypothesis =>
    cases completed : (scan state letter).2 with
    | none =>
      simp only [marks, completed, Option.toList_none, List.nil_append] at each
      simp only [weave, completed, List.length_cons, inductionHypothesis _ _ each]
      omega
    | some mark =>
      cases texts with
      | nil => simp [marks, completed] at each
      | cons text texts =>
        simp only [marks, completed, Option.toList_some, List.singleton_append,
          List.length_cons, Nat.add_right_cancel_iff] at each
        simp only [weave, completed, List.headD_cons, List.tail_cons, List.length_cons,
          List.length_append, List.map_cons, List.sum_cons, inductionHypothesis _ _ each]
        omega

section one
variable {state : State} {letters : List Letter} {letter : Letter}

theorem after_concat (state : State) (letters : List Letter) (letter : Letter) :
    after scan state (letters ++ [letter]) = (scan (after scan state letters) letter).1 := by
  simp only [after_append, after]

theorem marks_concat (state : State) (letters : List Letter) (letter : Letter) :
    marks scan state (letters ++ [letter]) =
      marks scan state letters ++ (scan (after scan state letters) letter).2.toList := by
  simp only [marks_append, marks, List.append_nil]

/-- A letter that completes no mark is woven as it is. -/
theorem weave_concat_none (texts : List (List Letter))
    (unmarked : (scan (after scan state letters) letter).2 = none) :
    weave scan state (letters ++ [letter]) texts = weave scan state letters texts ++ [letter] := by
  rw [weave_append, weave_singleton, unmarked]
  rfl

/-- A letter that completes a mark is woven with the next text. -/
theorem weave_concat_some {texts : List (List Letter)} {mark : Mark} (text : List Letter)
    (completed : (scan (after scan state letters) letter).2 = some mark)
    (each : texts.length = (marks scan state letters).length) :
    weave scan state (letters ++ [letter]) (texts ++ [text]) =
      weave scan state letters texts ++ letter :: text := by
  rw [weave_append, weave_singleton, completed, weave_texts scan _ _ _ _ each.ge, ← each,
    List.drop_left]
  rfl

/-- The last mark's text stands at the end, so without it the rest is the same. -/
theorem weave_concat_without {texts : List (List Letter)} {mark : Mark} (text : List Letter)
    (completed : (scan (after scan state letters) letter).2 = some mark)
    (each : texts.length = (marks scan state letters).length) :
    weave scan state (letters ++ [letter]) (texts ++ [text]) =
      weave scan state (letters ++ [letter]) texts ++ text := by
  rw [weave_concat_some scan text completed each, weave_append, weave_singleton, completed, ← each,
    List.drop_length]
  simp

end one

end UcosProxy.Weaving
