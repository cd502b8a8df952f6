import Mathlib

/-!
# Runs of a partial labelled step

A system is a partial step function: a label that is not enabled in a state has
no successor. A run takes a list of labels in order, so a statement about every
list of labels is a statement about every interleaving of the parties that own
them, and every prefix of a run is itself a run.

A guard is a condition on a label and the state before it. `Guarded` says that
every step a list of labels really takes meets the guard, `Always` that every
state it reaches has a property; a disabled label ends the run and asks nothing
more. The rules below are the only inductions over runs in this development: a
system supplies what one step preserves and obtains what a whole run preserves,
and `always_iff_guarded` makes a guard the exact condition for a property.

Nothing here names a protocol. Fairness, timing and unbounded runs are outside
these laws: every list of labels is finite.
-/

namespace UcosProxy.Runs

universe u v
variable {State : Type u} {Label : Type v}

/-- Take the labels in order. A disabled label leaves no final state. -/
def run (step : State → Label → Option State) : State → List Label → Option State
  | state, [] => some state
  | state, label :: rest =>
    match step state label with
    | none => none
    | some next => run step next rest

/-- Every step that the labels take meets the guard in the state before it. -/
def Guarded (step : State → Label → Option State) (guard : State → Label → Prop) :
    State → List Label → Prop
  | _, [] => True
  | state, label :: rest =>
    match step state label with
    | none => True
    | some next => guard state label ∧ Guarded step guard next rest

/-- Every state that the labels reach, the first one included, has the property. -/
def Always (step : State → Label → Option State) (property : State → Prop) :
    State → List Label → Prop
  | state, [] => property state
  | state, label :: rest =>
    property state ∧
      match step state label with
      | none => True
      | some next => Always step property next rest

/-- A decidable guard makes the guarded runs decidable, so that a concrete run
can be checked by evaluation. -/
instance guardedDecidable (step : State → Label → Option State) (guard : State → Label → Prop)
    [∀ state label, Decidable (guard state label)] :
    ∀ (state : State) (labels : List Label), Decidable (Guarded step guard state labels)
  | _, [] => isTrue trivial
  | state, label :: rest =>
    match decided : step state label with
    | none => isTrue (by simp [Guarded, decided])
    | some next =>
      have := guardedDecidable step guard next rest
      decidable_of_iff (guard state label ∧ Guarded step guard next rest)
        (by simp [Guarded, decided])

variable {step : State → Label → Option State} {guard : State → Label → Prop}

/-- A completed run over a first label takes that label's step. -/
theorem run_cons_some {state final : State} {label : Label} {rest : List Label}
    (completed : run step state (label :: rest) = some final) :
    ∃ next, step state label = some next ∧ run step next rest = some final := by
  simp only [run] at completed
  cases taken : step state label with
  | none => simp [taken] at completed
  | some next => exact ⟨next, rfl, by simpa only [taken] using completed⟩

/-- Two runs, one behind the other. -/
theorem run_append {state middle : State} {first : List Label}
    (completed : run step state first = some middle) (second : List Label) :
    run step state (first ++ second) = run step middle second := by
  induction first generalizing state with
  | nil =>
    obtain rfl := Option.some.inj completed
    rfl
  | cons label rest inductionHypothesis =>
    obtain ⟨next, taken, remaining⟩ := run_cons_some completed
    simp only [List.cons_append, run, taken]
    exact inductionHypothesis remaining

/-- What a guarded run asks behind a step that was taken. -/
theorem guarded_cons {state next : State} {label : Label} {rest : List Label}
    (guarded : Guarded step guard state (label :: rest)) (taken : step state label = some next) :
    guard state label ∧ Guarded step guard next rest := by
  simp only [Guarded, taken] at guarded
  exact guarded

/-- Two guarded runs, one behind the other. -/
theorem guarded_append {state middle : State} {first second : List Label}
    (completed : run step state first = some middle) (before : Guarded step guard state first)
    (behind : Guarded step guard middle second) : Guarded step guard state (first ++ second) := by
  induction first generalizing state with
  | nil =>
    obtain rfl := Option.some.inj completed
    exact behind
  | cons label rest inductionHypothesis =>
    obtain ⟨next, taken, remaining⟩ := run_cons_some completed
    obtain ⟨met, further⟩ := guarded_cons before taken
    simp only [List.cons_append, Guarded, taken]
    exact ⟨met, inductionHypothesis remaining further⟩

/-- A run whose steps meet a guard also meets any weaker one. -/
theorem guarded_mono {stronger weaker : State → Label → Prop}
    (implied : ∀ state label, stronger state label → weaker state label)
    {state : State} {labels : List Label} (guarded : Guarded step stronger state labels) :
    Guarded step weaker state labels := by
  induction labels generalizing state with
  | nil => trivial
  | cons label rest inductionHypothesis =>
    simp only [Guarded] at guarded ⊢
    split
    · trivial
    · rename_i next taken
      simp only [taken] at guarded
      exact ⟨implied state label guarded.1, inductionHypothesis guarded.2⟩

/-- A guard that asks something of the labels alone. -/
theorem guarded_of_forall (allowed : Label → Prop) {state : State} (labels : List Label)
    (all : ∀ label ∈ labels, allowed label) :
    Guarded step (fun _ label => allowed label) state labels := by
  induction labels generalizing state with
  | nil => trivial
  | cons label rest inductionHypothesis =>
    simp only [Guarded]
    split
    · trivial
    · exact ⟨all label List.mem_cons_self,
        inductionHypothesis fun other member => all other (List.mem_cons_of_mem _ member)⟩

/-- A guard that asks nothing is met by every run. -/
theorem guarded_true (step : State → Label → Option State) (state : State) (labels : List Label) :
    Guarded step (fun _ _ => True) state labels := by
  induction labels generalizing state with
  | nil => trivial
  | cons label rest inductionHypothesis =>
    simp only [Guarded]
    split
    · trivial
    · exact ⟨trivial, inductionHypothesis _⟩

/-- A property of every state along a run is one of its last state. -/
theorem always_final {property : State → Prop} {state final : State} {labels : List Label}
    (along : Always step property state labels) (completed : run step state labels = some final) :
    property final := by
  induction labels generalizing state with
  | nil =>
    have same : state = final := Option.some.inj completed
    exact same ▸ along
  | cons label rest inductionHypothesis =>
    obtain ⟨next, taken, remaining⟩ := run_cons_some completed
    simp only [Always, taken] at along
    exact inductionHypothesis along.2 remaining

/-- A property that an invariant implies holds along every guarded run. -/
theorem always_of_guarded (invariant property : State → Prop)
    (implied : ∀ state, invariant state → property state)
    (keeps : ∀ state label next, invariant state → guard state label →
      step state label = some next → invariant next)
    {state : State} (holds : invariant state) (labels : List Label)
    (guarded : Guarded step guard state labels) : Always step property state labels := by
  induction labels generalizing state with
  | nil => exact implied state holds
  | cons label rest inductionHypothesis =>
    refine ⟨implied state holds, ?_⟩
    cases taken : step state label with
    | none => trivial
    | some next =>
      obtain ⟨met, guardedRest⟩ := guarded_cons guarded taken
      exact inductionHypothesis (keeps state label next holds met taken) guardedRest

/-- A property along a run implies any weaker one. -/
theorem always_mono {stronger weaker : State → Prop}
    (implied : ∀ state, stronger state → weaker state) {state : State} {labels : List Label}
    (along : Always step stronger state labels) : Always step weaker state labels := by
  induction labels generalizing state with
  | nil => exact implied state along
  | cons label rest inductionHypothesis =>
    refine ⟨implied state along.1, ?_⟩
    have further := along.2
    split
    · trivial
    · rename_i next taken
      simp only [taken] at further
      exact inductionHypothesis further

/-- The property holds along every guarded run, and along no other, when an
invariant that implies it is kept by guarded steps and every step into a state
with the property was a guarded one. -/
theorem always_iff_guarded (invariant property : State → Prop)
    (implied : ∀ state, invariant state → property state)
    (keeps : ∀ state label next, invariant state → guard state label →
      step state label = some next → invariant next)
    (needed : ∀ state label next, invariant state → step state label = some next →
      property next → guard state label)
    {state : State} (holds : invariant state) (labels : List Label) :
    Always step property state labels ↔ Guarded step guard state labels := by
  refine ⟨fun along => ?_, always_of_guarded invariant property implied keeps holds labels⟩
  induction labels generalizing state with
  | nil => trivial
  | cons label rest inductionHypothesis =>
    cases taken : step state label with
    | none => simp only [Guarded, taken]
    | some next =>
      simp only [Always, taken] at along
      simp only [Guarded, taken]
      have first : property next := by
        have further := along.2
        cases rest with
        | nil => exact further
        | cons _ _ => exact further.1
      have met : guard state label := needed state label next holds taken first
      exact ⟨met, inductionHypothesis (keeps state label next holds met taken) along.2⟩

/-- A run that comes to an end: when every step from a state of the invariant is enabled
and ends it or raises a measure that has a bound, no more labels than the bound are taken
before it has ended. -/
theorem ends_of_measure (invariant done : State → Prop) (measure : State → Nat) (bound : Nat)
    (allowed : Label → Prop) (bounded : ∀ state, invariant state → measure state ≤ bound)
    (advances : ∀ state label, invariant state → ¬ done state → allowed label →
      ∃ next, step state label = some next ∧ invariant next ∧
        (done next ∨ measure state < measure next))
    {state : State} (holds : invariant state) (labels : List Label)
    (all : ∀ label ∈ labels, allowed label) (many : bound < measure state + labels.length) :
    ∃ count final, run step state (labels.take count) = some final ∧ invariant final ∧
      done final := by
  by_cases ended : done state
  · exact ⟨0, state, rfl, holds, ended⟩
  · induction labels generalizing state with
    | nil =>
      have := bounded state holds
      simp only [List.length_nil] at many
      omega
    | cons label rest inductionHypothesis =>
      obtain ⟨next, taken, kept, further⟩ :=
        advances state label holds ended (all label List.mem_cons_self)
      by_cases stops : done next
      · refine ⟨1, next, ?_, kept, stops⟩
        simp only [List.take_succ_cons, List.take_zero, run, taken]
      · have raised := further.resolve_left stops
        simp only [List.length_cons] at many
        obtain ⟨count, final, completed, last, finished⟩ := inductionHypothesis kept
          (fun other member => all other (List.mem_cons_of_mem _ member)) (by omega) stops
        refine ⟨count + 1, final, ?_, last, finished⟩
        simp only [List.take_succ_cons, run, taken]
        exact completed

end UcosProxy.Runs
