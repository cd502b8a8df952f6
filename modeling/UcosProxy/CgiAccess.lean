import UcosProxy.UriParameters

/-!
# What a handler reads from its request

A handler receives two arrays of pointers, the names and the values, and their
length. `FindCGIParameter` looks a name up and answers -1 when it is not there; the
handlers use its answer as an index, mostly without a look. Every access that the
arrays or a table do not cover is a fault here, and the rest of the handler has no
result behind it.
-/

namespace UcosProxy.CgiAccess

open Bytes UriParameters

/-- An access outside what the source provides.

`badIndex` is `pcValue` at a position that holds no parameter, `nullValue` the text
behind a NULL value, `overrun` a copy longer than its buffer, `badBoard` and `badPort`
a table or a port array outside its entries. -/
inductive Fault
  | badIndex
  | nullValue
  | overrun
  | badBoard
  | badPort
deriving DecidableEq

/-- An access with a result reads or writes only what is there. The accesses of a handler
are followed in its own order, so the first one that is not covered ends it. -/
def Safe {α : Type} (access : Except Fault α) : Prop := ∃ result, access = .ok result

/-- `FindCGIParameter`; `none` is -1. The first parameter of that name counts, whatever
comes behind it. -/
def findCgiParameter (pcToFind : List Byte) (params : List Param) : Option Nat :=
  params.findIdx? fun param => param.name = pcToFind

/-- The text that `pcValue[iIndex]` points to. -/
def pcValue (params : List Param) (iIndex : Option Nat) : Except Fault (List Byte) :=
  match iIndex.bind (params[·]?) with
  | none => .error .badIndex
  | some param =>
    match param.value with
    | none => .error .nullValue
    | some value => .ok value

/-- `pcValue[FindCGIParameter(name, pcParam, iNumParams)]`. A name that is not there gives
the index -1, and reading at it is a fault and not a default. -/
def valueOf (name : String) (params : List Param) : Except Fault (List Byte) :=
  pcValue params (findCgiParameter (ascii name) params)

/-- `mystrncmp` finds no difference: the text starts with the fixed string. -/
def mystrncmp (text fixStr : List Byte) : Bool := fixStr.isPrefixOf text

/-- The index of a table with `size` entries. -/
def tableIndex (fault : Fault) (size : Nat) (index : Int) : Except Fault (Fin size) :=
  if inside : 0 ≤ index ∧ index < size then .ok ⟨index.toNat, by omega⟩ else .error fault

/-- The parameter that a lookup finds, as the list has it. -/
def namedParam (name : String) (params : List Param) : Option Param :=
  params.find? fun param => param.name = ascii name

/-- A parameter of the name is there, and it has a value. The lookup returns -1 for a name
that is missing, and the handlers index with it; a parameter without `=` has NULL for its
value. -/
def HasValue (name : String) (params : List Param) : Prop :=
  ∃ value, (namedParam name params).bind Param.value = some value

/-- The index that `FindCGIParameter` answers is that of the first parameter so
named. -/
theorem findCgiParameter_bind (name : String) (params : List Param) :
    (findCgiParameter (ascii name) params).bind (params[·]?) = namedParam name params :=
  (List.find?_eq_bind_findIdx?_getElem?).symm

/-- No parameter is found when none is so named. -/
theorem findCgiParameter_eq_none_iff (name : String) (params : List Param) :
    findCgiParameter (ascii name) params = none ↔ namedParam name params = none := by
  unfold findCgiParameter namedParam
  rw [List.findIdx?_eq_none_iff, List.find?_eq_none]
  simp

/-- What follows an access has a result when the access has one. -/
theorem bind_eq_ok {α β : Type} {access : Except Fault α} {next : α → Except Fault β} {result : β} :
    access >>= next = .ok result ↔ ∃ value, access = .ok value ∧ next value = .ok result := by
  cases access with
  | error fault => simp [Bind.bind, Except.bind]
  | ok value => simp [Bind.bind, Except.bind]

@[simp] theorem ok_bind {α β : Type} (value : α) (next : α → Except Fault β) :
    (Except.ok value >>= next : Except Fault β) = next value := rfl

/-- A sequence of accesses is safe when each one is where it is reached. -/
theorem safe_bind {α β : Type} {access : Except Fault α} {next : α → Except Fault β} :
    Safe (access >>= next) ↔ ∃ value, access = .ok value ∧ Safe (next value) := by
  unfold Safe
  simp only [bind_eq_ok]
  constructor
  · rintro ⟨result, value, first, rest⟩
    exact ⟨value, first, result, rest⟩
  · rintro ⟨value, first, result, rest⟩
    exact ⟨result, value, first, rest⟩

@[simp] theorem safe_ok {α : Type} (result : α) : Safe (Except.ok result : Except Fault α) :=
  ⟨result, rfl⟩

@[simp] theorem not_safe_error {α : Type} (fault : Fault) :
    ¬ Safe (Except.error fault : Except Fault α) := by
  rintro ⟨result, same⟩
  cases same

/-- Reading a named value. -/
theorem valueOf_eq_ok_iff (name : String) (params : List Param) (value : List Byte) :
    valueOf name params = .ok value ↔ (namedParam name params).bind Param.value = some value := by
  unfold valueOf pcValue
  rw [findCgiParameter_bind]
  cases namedParam name params with
  | none => simp
  | some param =>
    cases present : param.value with
    | none => simp [present]
    | some text => simp [present]

/-- Only a parameter that is there has a value. -/
theorem named_of_valueOf {name : String} {params : List Param} {value : List Byte}
    (read : valueOf name params = .ok value) : ascii name ∈ params.map Param.name := by
  obtain ⟨param, found, _⟩ := Option.bind_eq_some_iff.mp ((valueOf_eq_ok_iff _ _ _).mp read)
  have named : param.name = ascii name := by simpa using List.find?_some found
  exact List.mem_map.mpr ⟨param, List.mem_of_find?_eq_some found, named⟩

/-- Two names that are there are those of two parameters. -/
theorem two_le_length {params : List Param} {first second : List Byte}
    (hasFirst : first ∈ params.map Param.name) (hasSecond : second ∈ params.map Param.name)
    (apart : first ≠ second) : 2 ≤ params.length := by
  have both : [first, second] ⊆ params.map Param.name := by simp [hasFirst, hasSecond]
  have nodup : [first, second].Nodup := by simp [apart]
  have shorter := (nodup.subperm both).length_le
  rwa [List.length_map] at shorter

/-- A named value is read safely exactly when it is there and not NULL. -/
theorem safe_valueOf_iff (name : String) (params : List Param) :
    Safe (valueOf name params) ↔ HasValue name params := by
  unfold Safe HasValue
  simp only [valueOf_eq_ok_iff]

theorem tableIndex_eq_ok_iff (fault : Fault) (size : Nat) (index : Int) (entry : Fin size) :
    tableIndex fault size index = .ok entry ↔ index = entry.val := by
  unfold tableIndex
  have bound := entry.isLt
  by_cases inside : 0 ≤ index ∧ index < size
  · simp only [inside, and_self, dif_pos, Except.ok.injEq, Fin.ext_iff]
    omega
  · simp only [inside, dif_neg, not_false_iff, false_iff, reduceCtorEq]
    omega

end UcosProxy.CgiAccess
