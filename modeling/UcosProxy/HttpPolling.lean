import UcosProxy.HttpServing
import Mathlib.Data.Fintype.Card
import Mathlib.Data.Finset.Card

/-!
# Connections that nothing happens to

The stack polls every connection from time to time. `http_poll` counts its calls and closes
the connection at the fourth, unless an acknowledgement, a new file or body bytes of a POST
have set the count back. What the other connections do meanwhile does not matter.

So a client that goes silent keeps an entry of the table of open files for four polls at the
most, and from every state that the server can reach, polls alone lead to an empty table.
-/

namespace UcosProxy.HttpServer

open Bytes Runs HttpSend Holdings

section polling
variable {Pcb World : Type}

/-- The connection that a call is about. -/
def Event.number : Event Pcb World → Nat
  | .accept number _ _ _ => number
  | .recv number _ _ _ _ => number
  | .sent number _ _ => number
  | .poll number _ _ => number
  | .err number => number

/-- A poll. -/
def Event.IsPoll : Event Pcb World → Prop
  | .poll _ _ _ => True
  | _ => False

variable (tcp : Tcp Pcb) (ssi : Ssi World) (cgis : Cgis World) (image : Image)
  {server next : Server Pcb World} {number other : Nat} {connection : Connection Pcb World}
  {outcome : Outcome Pcb World}

/-! ## One call -/

theorem close_other (apart : other ≠ number) :
    (server.close number connection outcome).connections other = server.connections other :=
  Function.update_of_ne apart _ _

theorem settle_other (apart : other ≠ number) :
    (server.settle number connection outcome).connections other = server.connections other := by
  unfold Server.settle
  split
  · exact close_other apart
  · exact Function.update_of_ne apart _ _

theorem recv_other (apart : other ≠ number) {hs : HttpPost.HttpState} {chain : List (List Byte)}
    {response : List Byte} {pcb : Pcb} {world : World}
    (taken : server.recv tcp ssi cgis image number connection hs chain response pcb world =
      some next) : next.connections other = server.connections other := by
  obtain ⟨post, _, rfl⟩ := Option.map_eq_some_iff.mp taken
  simp only
  split
  · exact close_other apart
  · split
    · exact (settle_other apart).trans (Function.update_of_ne apart _ _)
    · exact Function.update_of_ne apart _ _

/-- A call leaves every other connection alone. -/
theorem step_other {event : Event Pcb World} (apart : event.number ≠ number)
    (taken : step tcp ssi cgis image server event = some next) :
    next.connections number = server.connections number := by
  cases event with
  | accept other allocated pcb world =>
    simp only [step] at taken
    split at taken
    · cases taken
    · obtain rfl := Option.some.inj taken
      rfl
    · obtain ⟨post, _, rfl⟩ := Option.map_eq_some_iff.mp taken
      exact Function.update_of_ne apart.symm _ _
  | recv other chain response pcb world =>
    simp only [step] at taken
    split at taken
    · exact recv_other tcp ssi cgis image apart.symm taken
    · cases taken
  | sent other pcb world =>
    simp only [step] at taken
    split at taken
    · cases taken
    · obtain ⟨outcome, _, rfl⟩ := Option.map_eq_some_iff.mp taken
      exact settle_other apart.symm
  | poll other pcb world =>
    simp only [step] at taken
    split at taken
    · cases taken
    · obtain ⟨outcome, _, rfl⟩ := Option.map_eq_some_iff.mp taken
      exact settle_other apart.symm
  | err other =>
    obtain ⟨connection, _, rfl⟩ := Option.map_eq_some_iff.mp taken
    exact close_other apart.symm

/-- A call that sends takes no entry of the table. -/
theorem settle_memory {entry : Fin maxOpenFiles}
    (used : (server.settle number connection outcome).memory entry = true) :
    server.memory entry = true := by
  unfold Server.settle at used
  cases ended : outcome.ended with
  | none =>
    rw [ended] at used
    exact used
  | some ending =>
    rw [ended] at used
    cases held : connection.entry with
    | none =>
      simp only [Server.close, held] at used
      exact used
    | some place =>
      simp only [Server.close, held, fsFree] at used
      by_cases same : entry = place
      · subst same
        rw [Function.update_self] at used
        cases used
      · rwa [Function.update_of_ne same] at used

/-- A poll closes its connection, or counts. -/
theorem step_poll (there : server.connections number = some connection) (pcb : Pcb)
    (world : World) :
    ∃ next, step tcp ssi cgis image server (.poll number pcb world) = some next ∧
      (∀ entry, next.memory entry = true → server.memory entry = true) ∧
      (next.connections number = none ∨
        connection.scene.hs.retries + 1 ≠ maxRetries ∧
        ∃ behind, next.connections number = some behind ∧
          behind.scene.hs.retries = connection.scene.hs.retries + 1) := by
  obtain ⟨outcome, called, counted⟩ : ∃ outcome,
      HttpSend.step tcp ssi ⟨connection.scene, none, false⟩ (.poll pcb world) = some outcome ∧
        (outcome.ended = none → connection.scene.hs.retries + 1 ≠ maxRetries ∧
          outcome.scene.hs.retries = connection.scene.hs.retries + 1) := by
    unfold HttpSend.step
    rw [if_neg fun ended => ended rfl]
    simp only
    split
    · exact ⟨_, rfl, fun open_ => by cases open_⟩
    · rename_i early
      split
      · exact ⟨_, rfl, fun _ => ⟨early, rfl⟩⟩
      · exact ⟨_, rfl, fun _ => ⟨early, (Prod.mk.inj (httpSendData_standing tcp ssi _)).2⟩⟩
  refine ⟨server.settle number connection outcome, ?_, fun _ => settle_memory, ?_⟩
  · simp only [step, there, called, Option.map_some]
  · unfold Server.settle
    split
    · exact .inl (Function.update_self ..)
    · rename_i open_
      obtain ⟨early, same⟩ := counted open_
      exact .inr ⟨early, _, Function.update_self .., same⟩

/-! ## Runs -/

/-- The server is coherent at the end of a run. -/
theorem coherent_of_run {events : List (Event Pcb World)}
    (coherent : Coherent ssi cgis image (fun _ => True) server)
    (completed : run (step tcp ssi cgis image) server events = some next) :
    Coherent ssi cgis image (fun _ => True) next := by
  induction events generalizing server with
  | nil =>
    obtain rfl := Option.some.inj completed
    exact coherent
  | cons event rest inductionHypothesis =>
    obtain ⟨middle, taken, remaining⟩ := run_cons_some completed
    refine inductionHypothesis (coherent.event tcp (fun _ _ => id) (fun _ _ _ => id) ?_ taken)
      remaining
    cases event <;> trivial

/-- A connection that is only polled is closed, or has as many retries more as polls. -/
theorem polled (number : Nat) {events : List (Event Pcb World)}
    (coherent : Coherent ssi cgis image (fun _ => True) server)
    (completed : run (step tcp ssi cgis image) server events = some next)
    (alone : ∀ event ∈ events, event.number = number → event.IsPoll) :
    match server.connections number with
    | none => next.connections number = none ∧ events.countP (·.number = number) = 0
    | some connection => next.connections number = none ∨
      connection.scene.hs.retries + events.countP (·.number = number) < maxRetries := by
  induction events generalizing server with
  | nil =>
    obtain rfl := Option.some.inj completed
    cases there : server.connections number with
    | none => exact ⟨rfl, rfl⟩
    | some connection =>
      obtain ⟨_, _, agrees⟩ := coherent.agrees there
      exact .inr agrees.retries
  | cons event rest inductionHypothesis =>
    obtain ⟨middle, taken, remaining⟩ := run_cons_some completed
    have further := inductionHypothesis
      (coherent.event tcp (fun _ _ => id) (fun _ _ _ => id) (by cases event <;> trivial) taken)
      remaining fun later member => alone later (List.mem_cons_of_mem _ member)
    by_cases about : event.number = number
    · rw [List.countP_cons_of_pos (by simpa using about)]
      have poll := alone event List.mem_cons_self about
      cases event with
      | poll same pcb world =>
        obtain rfl : same = number := about
        cases there : server.connections same with
        | none =>
          simp only [step, there] at taken
          cases taken
        | some connection =>
          obtain ⟨_, called, _, gone | ⟨_, behind, still, counted⟩⟩ :=
            step_poll tcp ssi cgis image there pcb world
          · obtain rfl := Option.some.inj (called.symm.trans taken)
            rw [gone] at further
            exact .inl further.1
          · obtain rfl := Option.some.inj (called.symm.trans taken)
            rw [still] at further
            refine further.imp id fun few => ?_
            omega
      | accept => cases poll
      | recv => cases poll
      | sent => cases poll
      | err => cases poll
    · rw [List.countP_cons_of_neg (by simpa using about)]
      rwa [step_other tcp ssi cgis image about taken] at further

/-- A connection that nothing happens to but polls is closed by the fourth of them, whatever
the other connections do. The calls on the others may be any, in any number and between any
two of the polls; the counter of a connection is its own. -/
theorem fourth_poll_closes (before events : List (Event Pcb World))
    (reached : run (step tcp ssi cgis image) httpdInit before = some server)
    (completed : run (step tcp ssi cgis image) server events = some next) (number : Nat)
    (alone : ∀ event ∈ events, event.number = number → event.IsPoll)
    (four : maxRetries ≤ events.countP (·.number = number)) :
    next.connections number = none := by
  have counted := polled tcp ssi cgis image number
    (coherent_of_run tcp ssi cgis image coherent_httpdInit reached) completed alone
  split at counted
  · exact counted.1
  · exact counted.resolve_right (by omega)

/-- A client asks for the page and another one for nothing. The first is polled with room
for ten bytes each time, the second acknowledges in between. -/
theorem silent_client_is_closed :
    ∃ server next : Server Nat Unit,
      run (step narrowTcp centralSsi noCgis pageImage) httpdInit
        [.accept 0 true 0 (), .accept 1 true 0 (),
          .recv 0 [ascii "GET /page.ssi HTTP/1.0\r\n\r\n"] [] 10 ()] = some server ∧
      run (step narrowTcp centralSsi noCgis pageImage) server
        [.poll 0 10 (), .poll 0 10 (), .sent 1 10 (), .poll 0 10 (), .poll 0 10 ()] = some next ∧
      next.connections 0 = none := by
  have ends : ((run (step narrowTcp centralSsi noCgis pageImage) httpdInit
      [.accept 0 true 0 (), .accept 1 true 0 (),
        .recv 0 [ascii "GET /page.ssi HTTP/1.0\r\n\r\n"] [] 10 ()]).bind fun server =>
      run (step narrowTcp centralSsi noCgis pageImage) server
        [.poll 0 10 (), .poll 0 10 (), .sent 1 10 (), .poll 0 10 (), .poll 0 10 ()]).isSome := by
    decide +kernel
  obtain ⟨next, both⟩ := Option.isSome_iff_exists.mp ends
  obtain ⟨server, reached, completed⟩ := Option.bind_eq_some_iff.mp both
  exact ⟨server, next, reached, completed, fourth_poll_closes narrowTcp centralSsi noCgis pageImage _ _
    reached completed 0 (by simp [Event.number, Event.IsPoll]) (by decide)⟩

/-! ## An empty table -/

/-- Polls of some connections one behind the other. Each has its own answer of the stack,
and its own world of the handlers. -/
def pollsFrom (answers : Nat → Pcb × World) : Nat → List Nat → List (Event Pcb World)
  | _, [] => []
  | start, number :: rest =>
    .poll number (answers start).1 (answers start).2 :: pollsFrom answers (start + 1) rest

variable (answers : Nat → Pcb × World)

theorem pollsFrom_append (start : Nat) (first second : List Nat) :
    pollsFrom answers start (first ++ second) =
      pollsFrom answers start first ++ pollsFrom answers (start + first.length) second := by
  induction first generalizing start with
  | nil => rfl
  | cons number rest inductionHypothesis =>
    simp only [List.cons_append, pollsFrom, inductionHypothesis, List.length_cons, Nat.add_assoc,
      Nat.add_comm 1]

/-- A connection is closed by polls alone, at most four of them, whatever they are answered.
The induction is on the retries that are left. -/
theorem polls_close (coherent : Coherent ssi cgis image (fun _ => True) server)
    (there : server.connections number = some connection) (start : Nat) :
    ∃ count next, count + connection.scene.hs.retries ≤ maxRetries ∧
      run (step tcp ssi cgis image) server
        (pollsFrom answers start (List.replicate count number)) = some next ∧
      next.connections number = none ∧
      ∀ entry, next.memory entry = true → server.memory entry = true := by
  induction left : maxRetries - connection.scene.hs.retries
    generalizing server connection start with
  | zero =>
    obtain ⟨_, _, agrees⟩ := coherent.agrees there
    have few := agrees.retries
    omega
  | succ left inductionHypothesis =>
    obtain ⟨_, _, agrees⟩ := coherent.agrees there
    have few := agrees.retries
    obtain ⟨middle, taken, inUse, gone | ⟨_, behind, still, counted⟩⟩ :=
      step_poll tcp ssi cgis image there (answers start).1 (answers start).2
    · refine ⟨1, middle, by omega, ?_, gone, inUse⟩
      simp only [List.replicate_one, pollsFrom, run, taken]
    · have kept : (Event.poll number (answers start).1 (answers start).2).Held fun _ => True :=
        trivial
      have further := coherent.event tcp (fun _ _ => id) (fun _ _ _ => id) kept taken
      obtain ⟨count, next, most, completed, gone, fewer⟩ :=
        inductionHypothesis further still (start + 1) (by omega)
      refine ⟨count + 1, next, by omega, ?_, gone, fun entry used => inUse entry (fewer entry used)⟩
      simp only [List.replicate_succ, pollsFrom, run, taken]
      exact completed

/-- The entries in use. -/
def Server.used (server : Server Pcb World) : Finset (Fin maxOpenFiles) :=
  Finset.univ.filter fun entry => server.memory entry = true

/-- Polls of one connection leave the others alone. -/
theorem polls_other {count start : Nat}
    (completed : run (step tcp ssi cgis image) server
      (pollsFrom answers start (List.replicate count number)) = some next)
    (apart : other ≠ number) : next.connections other = server.connections other := by
  induction count generalizing server start with
  | zero =>
    obtain rfl := Option.some.inj completed
    rfl
  | succ count inductionHypothesis =>
    obtain ⟨middle, taken, remaining⟩ := run_cons_some completed
    have about : (Event.poll number (answers start).1 (answers start).2).number ≠ other :=
      apart.symm
    exact (inductionHypothesis remaining).trans (step_other tcp ssi cgis image about taken)

/-- While an entry is in use, at most four polls give one back. -/
theorem polls_free (coherent : Coherent ssi cgis image (fun _ => True) server)
    {entry : Fin maxOpenFiles} (used : server.memory entry = true) (start : Nat) :
    ∃ number count next, count ≤ maxRetries ∧
      run (step tcp ssi cgis image) server
        (pollsFrom answers start (List.replicate count number)) = some next ∧
      next.used ⊂ server.used := by
  obtain ⟨number, holds⟩ := (coherent.table.used_iff entry).mp used
  obtain ⟨connection, there, held⟩ := Option.bind_eq_some_iff.mp holds
  obtain ⟨count, next, most, completed, gone, fewer⟩ :=
    polls_close tcp ssi cgis image answers coherent there start
  refine ⟨number, count, next, by omega, completed, ?_⟩
  have further := coherent_of_run tcp ssi cgis image coherent completed
  rw [Finset.ssubset_iff_of_subset]
  · refine ⟨entry, Finset.mem_filter.mpr ⟨Finset.mem_univ _, used⟩, ?_⟩
    intro still
    obtain ⟨other, holdsStill⟩ :=
      (further.table.used_iff entry).mp (Finset.mem_filter.mp still).2
    have apart : other ≠ number := by
      rintro rfl
      rw [Server.holds, gone] at holdsStill
      cases holdsStill
    rw [Server.holds, polls_other tcp ssi cgis image answers completed apart] at holdsStill
    exact apart (coherent.table.apart holdsStill holds)
  · intro place still
    have before := fewer place (Finset.mem_filter.mp still).2
    exact Finset.mem_filter.mpr ⟨Finset.mem_univ _, before⟩

/-- Polls alone empty the table of open files, at most four for each entry in use. The
induction is on the number of entries in use. -/
theorem polls_empty (coherent : Coherent ssi cgis image (fun _ => True) server) (start : Nat) :
    ∃ numbers next, numbers.length ≤ maxRetries * server.used.card ∧
      run (step tcp ssi cgis image) server (pollsFrom answers start numbers) = some next ∧
      ∀ entry, next.memory entry = false := by
  induction size : server.used.card using Nat.strong_induction_on generalizing server start with
  | _ bound inductionHypothesis =>
    by_cases none : ∀ entry, server.memory entry = false
    · exact ⟨[], server, Nat.zero_le _, rfl, none⟩
    · obtain ⟨entry, used⟩ := not_forall.mp none
      obtain ⟨number, count, middle, few, completed, fewer⟩ := polls_free tcp ssi cgis image answers
        coherent (Bool.of_not_eq_false used) start
      have smaller := Finset.card_lt_card fewer
      obtain ⟨numbers, next, length, further, free⟩ := inductionHypothesis _ (by omega)
        (coherent_of_run tcp ssi cgis image coherent completed) (start + count) rfl
      refine ⟨List.replicate count number ++ numbers, next, ?_, ?_, free⟩
      · have one : maxRetries * (middle.used.card + 1) ≤ maxRetries * bound :=
          Nat.mul_le_mul_left _ (by omega)
        rw [List.length_append, List.length_replicate]
        rw [Nat.mul_succ] at one
        omega
      · rw [pollsFrom_append, List.length_replicate, run_append completed]
        exact further

/-- From every state that the server can reach, at most forty polls empty the table of open
files, whatever the stack and the handlers answer to each of them. The answers are given in
advance, one for each poll, and the connections are polled in an order that depends on them.
The proof closes the holder of one entry after the other. -/
theorem table_can_be_emptied (before : List (Event Pcb World))
    (reached : run (step tcp ssi cgis image) httpdInit before = some server) :
    ∃ numbers next, numbers.length ≤ maxRetries * maxOpenFiles ∧
      run (step tcp ssi cgis image) server (pollsFrom answers 0 numbers) = some next ∧
      ∀ entry, next.memory entry = false := by
  obtain ⟨numbers, next, length, completed, free⟩ := polls_empty tcp ssi cgis image answers
    (coherent_of_run tcp ssi cgis image coherent_httpdInit reached) 0
  refine ⟨numbers, next, length.trans (Nat.mul_le_mul_left _ ?_), completed, free⟩
  exact (Finset.card_le_univ _).trans_eq (Fintype.card_fin _)

end polling

/-- Two clients ask for the page, and read no more than ten bytes of it. -/
def silentClients : List (Event Nat Unit) :=
  [.accept 0 true 0 (), .accept 1 true 0 (),
    .recv 0 [ascii "GET /page.ssi HTTP/1.0\r\n\r\n"] [] 10 (),
    .recv 1 [ascii "GET /page.ssi HTTP/1.0\r\n\r\n"] [] 0 ()]

/-- They hold an entry each, and polls that find more room and less of it in turns give both
back. -/
theorem silent_clients_free_the_table :
    ∃ server numbers next,
      run (step narrowTcp centralSsi noCgis pageImage) httpdInit silentClients = some server ∧
      (∃ first second, first ≠ second ∧ server.memory first = true ∧ server.memory second = true) ∧
      numbers.length ≤ maxRetries * maxOpenFiles ∧
      run (step narrowTcp centralSsi noCgis pageImage) server
        (pollsFrom (fun index => (index % 2, ())) 0 numbers) = some next ∧
      ∀ entry, next.memory entry = false := by
  have ends : (run (step narrowTcp centralSsi noCgis pageImage) httpdInit silentClients).map
      (fun server => (server.memory ⟨0, by decide⟩, server.memory ⟨1, by decide⟩)) =
        some (true, true) := by
    decide +kernel
  obtain ⟨server, reached, used⟩ := Option.map_eq_some_iff.mp ends
  obtain ⟨first, second⟩ := Prod.mk.inj used
  obtain ⟨numbers, next, length, completed, free⟩ :=
    table_can_be_emptied narrowTcp centralSsi noCgis pageImage (fun index => (index % 2, ()))
      silentClients reached
  exact ⟨server, numbers, next, reached, ⟨_, _, by decide, first, second⟩, length, completed,
    free⟩

end UcosProxy.HttpServer
