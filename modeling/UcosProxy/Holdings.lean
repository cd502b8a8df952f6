import Mathlib.Logic.Function.Basic
import Mathlib.Tactic.Choose

/-!
# Places and their holders

A table of places that are in use or free, and holders that have a place each or none.
The table is exact when the places in use are the ones that somebody holds, and nobody
shares one: nothing is lost when its holder goes, and nothing is given to two of them.
-/

namespace UcosProxy.Holdings

variable {Place Holder : Type*}

/-- The places in use are the ones that are held, each by one holder. It is a statement
about a table of bits and a partial map into it, and names nothing of a server. -/
structure Exact (used : Place → Bool) (held : Holder → Option Place) : Prop where
  used_iff : ∀ place, used place = true ↔ ∃ holder, held holder = some place
  apart : ∀ {one other : Holder} {place : Place},
    held one = some place → held other = some place → one = other

variable {used : Place → Bool} {held : Holder → Option Place} {holder : Holder} {place : Place}

theorem exact_empty : Exact (fun _ : Place => false) (fun _ : Holder => none) where
  used_iff := by
    intro place
    constructor
    · exact fun never => Bool.noConfusion never
    · rintro ⟨_, holds⟩
      cases holds
  apart := by
    intro _ _ _ holds
    cases holds

/-- When no place is free, every place has a holder of its own. -/
theorem Exact.holders (exact : Exact used held) (full : ∀ place, used place = true) :
    ∃ who : Place → Holder, Function.Injective who ∧ ∀ place, held (who place) = some place := by
  choose who holds using fun place => (exact.used_iff place).mp (full place)
  refine ⟨who, ?_, holds⟩
  intro one other same
  have both := holds one
  rw [same, holds other] at both
  exact (Option.some.inj both).symm

/-- When nobody holds anything, every place is free. -/
theorem Exact.free (exact : Exact used held) (nobody : ∀ holder, held holder = none)
    (place : Place) : used place = false := by
  rw [← Bool.not_eq_true, exact.used_iff]
  rintro ⟨holder, holds⟩
  cases (nobody holder).symm.trans holds

variable [DecidableEq Holder]

/-- A holder that keeps what it has. -/
theorem Exact.keep (exact : Exact used held) {what : Option Place} (same : held holder = what) :
    Exact used (Function.update held holder what) := by
  rwa [← same, Function.update_eq_self]

variable [DecidableEq Place]

/-- A free place is given to a holder without one. -/
theorem Exact.take (exact : Exact used held) (free : used place = false)
    (without : held holder = none) :
    Exact (Function.update used place true) (Function.update held holder (some place)) := by
  have unheld (other : Holder) : held other ≠ some place := fun holds =>
    Bool.noConfusion (free.symm.trans ((exact.used_iff place).mpr ⟨other, holds⟩))
  constructor
  case used_iff =>
    intro other
    by_cases same : other = place
    · subst same
      rw [Function.update_self]
      exact ⟨fun _ => ⟨holder, Function.update_self ..⟩, fun _ => rfl⟩
    · rw [Function.update_of_ne same, exact.used_iff]
      constructor
      · rintro ⟨who, holds⟩
        have differs : who ≠ holder := by
          rintro rfl
          cases without.symm.trans holds
        exact ⟨who, (Function.update_of_ne differs _ _).trans holds⟩
      · rintro ⟨who, holds⟩
        by_cases new : who = holder
        · subst new
          rw [Function.update_self] at holds
          exact absurd (Option.some.inj holds).symm same
        · exact ⟨who, (Function.update_of_ne new _ _).symm.trans holds⟩
  case apart =>
    intro one other shared first second
    by_cases new : one = holder
    · subst new
      rw [Function.update_self] at first
      obtain rfl := Option.some.inj first
      by_contra differs
      rw [Function.update_of_ne (Ne.symm differs)] at second
      exact unheld other second
    · rw [Function.update_of_ne new] at first
      by_cases late : other = holder
      · subst late
        rw [Function.update_self] at second
        obtain rfl := Option.some.inj second
        exact absurd first (unheld one)
      · rw [Function.update_of_ne late] at second
        exact exact.apart first second

/-- A holder gives its place back. -/
theorem Exact.release (exact : Exact used held) (holds : held holder = some place) :
    Exact (Function.update used place false) (Function.update held holder none) := by
  have still {who : Holder} {what : Place} (kept : Function.update held holder none who = some what) :
      held who = some what := by
    by_cases gone : who = holder
    · subst gone
      rw [Function.update_self] at kept
      cases kept
    · rwa [Function.update_of_ne gone] at kept
  constructor
  case used_iff =>
    intro other
    by_cases same : other = place
    · subst same
      rw [Function.update_self]
      refine ⟨fun never => Bool.noConfusion never, ?_⟩
      rintro ⟨who, kept⟩
      obtain rfl := exact.apart (still kept) holds
      rw [Function.update_self] at kept
      cases kept
    · rw [Function.update_of_ne same, exact.used_iff]
      constructor
      · rintro ⟨who, kept⟩
        have differs : who ≠ holder := by
          rintro rfl
          exact same (Option.some.inj (kept.symm.trans holds))
        exact ⟨who, (Function.update_of_ne differs _ _).trans kept⟩
      · rintro ⟨who, kept⟩
        exact ⟨who, still kept⟩
  case apart => exact fun first second => exact.apart (still first) (still second)

end UcosProxy.Holdings
