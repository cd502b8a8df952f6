import UcosProxy.Bytes

/-!
# Parameters of a request

`extract_uri_parameters` cuts a string into name and value pairs where it stands:
an ampersand ends a pair, a space ends the last one, and the first equals sign of
a pair ends its name. At most sixteen pairs are taken and the rest of the string
is left as it is. A pair without an equals sign has no value; its pointer is NULL
and here its value is `none`.

The function is given twice, because later calls meet its traces: the parameters
it finds, as texts, and the memory it leaves behind with a NUL in the place of
every separator it cut.
-/

namespace UcosProxy.UriParameters

open Bytes

/-- `LWIP_HTTPD_MAX_CGI_PARAMETERS` -/
def maxCgiParameters : Nat := 16

/-- A parameter as the handlers receive it. One without an equals sign has no value, and the
handlers get a null pointer for it. -/
structure Param where
  name : List Byte
  value : Option (List Byte)
deriving DecidableEq

/-- `strchr`, as the text before the letter and the text behind it. -/
def strchr (letter : Byte) (string : List Byte) : Option (List Byte × List Byte) :=
  match string.dropWhile (· ≠ letter) with
  | [] => none
  | _ :: rest => some (string.takeWhile (· ≠ letter), rest)

/-- The parameter in a pair. -/
def pairParam (pair : List Byte) : Param :=
  match strchr 61 pair with
  | some (name, value) => ⟨name, some value⟩
  | none => ⟨pair, none⟩

/-- The parameters of a string, up to a number of pairs. -/
def extractPairs : Nat → List Byte → List Param
  | 0, _ => []
  | left + 1, string =>
    match strchr 38 string with
    | some (pair, rest) => pairParam pair :: extractPairs left rest
    | none =>
      match strchr 32 string with
      | some (pair, _) => [pairParam pair]
      | none => [pairParam string]

/-- `extract_uri_parameters`: the parameters found. They are at most sixteen, and an empty
text has none. -/
def extractUriParameters (params : List Byte) : List Param :=
  if params = [] then [] else extractPairs maxCgiParameters params

/-- A pair behind the cut of its equals sign. -/
def cutPair (pair : List Byte) : List Byte :=
  match strchr 61 pair with
  | some (name, value) => name ++ 0 :: value
  | none => pair

/-- A string behind the cuts of its pairs. -/
def cutPairs : Nat → List Byte → List Byte
  | 0, string => string
  | left + 1, string =>
    match strchr 38 string with
    | some (pair, rest) => cutPair pair ++ 0 :: cutPairs left rest
    | none =>
      match strchr 32 string with
      | some (pair, rest) => cutPair pair ++ 0 :: rest
      | none => cutPair string

/-- `extract_uri_parameters`: the memory it leaves. The separators become zeros, and what
stands behind the text is left alone. -/
def cutSeparators (memory : List Byte) : List Byte :=
  cutPairs maxCgiParameters (text memory) ++ memory.drop (text memory).length

/-- What `strchr` finds. -/
theorem strchr_eq_some {letter : Byte} {string before behind : List Byte}
    (found : strchr letter string = some (before, behind)) : string = before ++ letter :: behind := by
  have whole : string.takeWhile (· ≠ letter) ++ string.dropWhile (· ≠ letter) = string :=
    List.takeWhile_append_dropWhile
  have head := List.head?_dropWhile_not (fun byte => decide (byte ≠ letter)) string
  unfold strchr at found
  split at found
  · simp at found
  · rename_i first rest reached
    simp only [Option.some.injEq, Prod.mk.injEq] at found
    obtain ⟨rfl, rfl⟩ := found
    rw [reached] at whole head
    have isLetter : first = letter := by simpa using head
    rw [isLetter] at whole
    exact whole.symm

/-- The first occurrence of a letter cuts a string. -/
theorem strchr_append {letter : Byte} {before behind : List Byte} (first : letter ∉ before) :
    strchr letter (before ++ letter :: behind) = some (before, behind) := by
  have differ : ∀ byte ∈ before, decide (byte ≠ letter) = true := by
    intro byte member
    exact decide_eq_true fun same => first (same ▸ member)
  simp only [strchr, List.dropWhile_append_of_pos differ, List.takeWhile_append_of_pos differ]
  simp

/-- A letter that does not occur is not found. -/
theorem strchr_none {letter : Byte} {string : List Byte} (absent : letter ∉ string) :
    strchr letter string = none := by
  cases found : strchr letter string with
  | none => rfl
  | some cut =>
    have whole := strchr_eq_some found
    exact absurd (whole ▸ List.mem_append_right cut.1 List.mem_cons_self) absent

/-- At most sixteen parameters are found. -/
theorem extractUriParameters_length (params : List Byte) :
    (extractUriParameters params).length ≤ maxCgiParameters := by
  have pairs (left : Nat) (string : List Byte) : (extractPairs left string).length ≤ left := by
    induction left generalizing string with
    | zero => exact Nat.le_refl 0
    | succ left inductionHypothesis =>
      rw [extractPairs]
      split
      · rename_i pair rest _
        exact Nat.succ_le_succ (inductionHypothesis rest)
      · split <;> simp
  unfold extractUriParameters
  split
  · exact Nat.zero_le _
  · exact pairs _ params

/-- A cut overwrites a separator and moves nothing. -/
theorem cutSeparators_length (memory : List Byte) :
    (cutSeparators memory).length = memory.length := by
  have pair (string : List Byte) : (cutPair string).length = string.length := by
    unfold cutPair
    split
    · rename_i name value found
      rw [strchr_eq_some found]
      simp
    · rfl
  have pairs (left : Nat) (string : List Byte) : (cutPairs left string).length = string.length := by
    induction left generalizing string with
    | zero => rfl
    | succ left inductionHypothesis =>
      rw [cutPairs]
      split
      · rename_i first rest found
        rw [strchr_eq_some found]
        simp [pair, inductionHypothesis]
      · split
        · rename_i last rest found
          rw [strchr_eq_some found]
          simp [pair]
        · exact pair string
  have inside : (text memory).length ≤ memory.length := by
    exact (List.takeWhile_prefix _).length_le
  simp only [cutSeparators, List.length_append, pairs, List.length_drop]
  omega

example : extractUriParameters (ascii "usrname=a&passwd&x=1 HTTP") =
    [⟨ascii "usrname", some (ascii "a")⟩, ⟨ascii "passwd", none⟩, ⟨ascii "x", some (ascii "1")⟩] := by
  decide

end UcosProxy.UriParameters
