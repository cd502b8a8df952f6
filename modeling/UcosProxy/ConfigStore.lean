import UcosProxy.PortFrames
import UcosProxy.Runs

/-!
# The board's configuration behind the port pages

The control board is a store with one configuration array for each board and port
kind, and a configuration frame replaces a whole array. A handler builds that array
from the cached one, which a refresh by any browser may have filled at any earlier
time, and which a write does not touch.

`meant` is the purpose of the pages: the array as it would be if every write that
was reported successful had changed the fields it names and nothing else.
`fields_kept_iff` compares the two along whole runs: they stay the same exactly when
every successful write finds a cached array that differs from the board's only in the
fields that this write sets.

Replies are matched: a configuration that is read is the board's, and a write is
answered with status zero exactly when the board took it. A write whose answer is
lost may have been taken or not.
-/

namespace UcosProxy.ConfigStore

open UriParameters CgiAccess BitFields ControlRequire ControlTables PortArrays PortCgi PortFrames Runs

/-- One configuration array for each board and port kind. -/
abbrev Store := (kind : PortKind) → Board → PortArray kind

/-- Replace one array. -/
def Store.put (store : Store) (kind : PortKind) (board : Board) (array : PortArray kind) : Store :=
  Function.update store kind (Function.update (store kind) board array)

/-- The web state, the board's configuration, and the configuration that the
successful writes add up to. -/
structure System where
  web : WebState
  store : Store
  meant : Store

/-- A refresh with what the link gives to it, or a request of a port page with the
board's answer and whether the board took the frame. -/
inductive Call
  | refresh (reader : Reader) (link : Link)
  | port (page : PortPage) (params : List Param) (reply : Option Reply) (taken : Bool)

/-- Power on in front of a configured board. -/
def powerOn (store : Store) : System := ⟨zeroState, store, store⟩

section model
variable (codes : Codes)

/-- The configurations that a refresh reads are the board's. A refresh that is not answered,
or answered for some boards only, promises nothing for the rest. -/
def Matched (link : Link) (crRemoteChosen : Bool) (store : Store) : Prop :=
  ∀ heard ∈ heardBoards codes link crRemoteChosen, ∀ kind, ∀ board,
    ∀ reply ∈ link (configArg codes heard.1 kind board), kind.decode reply.body = store kind board

instance (link : Link) (crRemoteChosen : Bool) (store : Store) :
    Decidable (Matched codes link crRemoteChosen store) :=
  inferInstanceAs (Decidable (∀ heard ∈ heardBoards codes link crRemoteChosen,
    ∀ kind, ∀ board, ∀ reply ∈ link (configArg codes heard.1 kind board),
      kind.decode reply.body = store kind board))

/-- What a request assigns to the port that it addresses. -/
def requested (params : List Param) (kind : PortKind) (array : PortArray kind) : PortArray kind :=
  assignAt (assigned params (kindFields kind)) (portOf params).toNat array

/-- The board and the purpose behind a configuration frame. -/
def System.write (system : System) (params : List Param) (taken : Bool) (write : ConfigWrite) :
    System :=
  { system with
    store := if taken then
        system.store.put write.kind write.board (write.kind.decode (ctrlSendDybFrame write.arg).body)
      else system.store
    meant := if write.ret = 0 then
        system.meant.put write.kind write.board
          (requested params write.kind (system.meant write.kind write.board))
      else system.meant }

/-- Serve one call, if its replies are matched. -/
def storeStep (system : System) : Call → Option System
  | .refresh reader link =>
    if Matched codes link system.web.crRemoteChosen system.store then
      some { system with
        web := { system.web with
          control := (reader.read codes link system.web.crRemoteChosen system.web.control).2 } }
    else none
  | .port page params reply taken =>
    if ∀ answer ∈ reply, answer.cmdStatus = 0 ↔ taken = true then
      match page.cgi codes (fun _ => reply) params system.web with
      | .error _ => none
      | .ok served =>
        match served.write with
        | none => some { system with web := served.web }
        | some write => some { system.write params taken write with web := served.web }
    else none

/-- Every bit of every port is as the successful writes left it. `meant` is the history that
each successful write extends by its own fields, so an older value that comes back is seen. -/
def FieldsKept (system : System) : Prop :=
  ∀ kind board, system.store kind board = system.meant kind board

/-- The cached array that a successful write starts from differs from the board's only
in the fields that it sets. A write that the board takes without an answer puts back
what is there. -/
def UpToDate (system : System) : Call → Prop
  | .port page params reply taken =>
    taken = true → 2 ≤ params.length → ∀ board : Board, boardOf params = board.val →
      if reply.isSome then
        AgreeOutside (assigned params (kindFields (page.kind params))) (portOf params).toNat
          (cached system.web.control (page.kind params) board).words
          (system.store (page.kind params) board)
      else
        requested params (page.kind params) (cached system.web.control (page.kind params) board).words =
          system.store (page.kind params) board
  | _ => True

variable {codes}

@[simp] theorem put_same (store : Store) (kind : PortKind) (board : Board) (array : PortArray kind) :
    store.put kind board array kind board = array := by
  simp [Store.put]

/-- Two stores that agree still agree behind a put of one array. -/
theorem put_agrees_iff {left right : Store} (agree : ∀ kind board, left kind board = right kind board)
    (kind : PortKind) (board : Board) (array other : PortArray kind) :
    (∀ at' place, left.put kind board array at' place = right.put kind board other at' place) ↔
      array = other := by
  constructor
  · intro same
    simpa using same kind board
  · rintro rfl at' place
    by_cases same : at' = kind
    · subst same
      by_cases here : place = board
      · subst here
        simp
      · simp [Store.put, here, agree]
    · simp [Store.put, same, agree]

/-- Putting back what is there. -/
theorem put_back_iff {left right : Store} (agree : ∀ kind board, left kind board = right kind board)
    (kind : PortKind) (board : Board) (array : PortArray kind) :
    (∀ at' place, left.put kind board array at' place = right at' place) ↔
      array = left kind board := by
  have unchanged : right.put kind board (right kind board) = right := by
    simp [Store.put]
  rw [← put_agrees_iff agree kind board array (left kind board), agree kind board, unchanged]

/-- A write keeps every field exactly when the cached array was up to date. -/
theorem write_kept_iff {system : System} (kept : FieldsKept system) {kind : PortKind}
    {params : List Param} {reply : Option Reply} {taken : Bool} {write : ConfigWrite}
    (matched : ∀ answer ∈ reply, answer.cmdStatus = 0 ↔ taken = true)
    (sends : Sends kind (fun _ => reply) params system.web.control write) :
    FieldsKept (system.write params taken write) ↔
      (taken = true →
        if reply.isSome then
          AgreeOutside (assigned params (kindFields kind)) (portOf params).toNat
            (cached system.web.control kind write.board).words (system.store kind write.board)
        else
          requested params kind (cached system.web.control kind write.board).words =
            system.store kind write.board) := by
  obtain ⟨rfl, _, _, ret, array⟩ := sends
  unfold FieldsKept System.write
  rw [array, ret]
  cases reply with
  | none =>
    -- Without an answer nothing was meant to change.
    cases taken with
    | false => simpa [writeStatus, FieldsKept] using kept
    | true => simpa [writeStatus, requested] using put_back_iff kept write.kind write.board _
  | some answer =>
    have status := matched answer rfl
    cases taken with
    | false =>
      have refused : answer.cmdStatus ≠ 0 := by simpa using status
      simpa [writeStatus, refused, FieldsKept] using kept
    | true =>
      have accepted : answer.cmdStatus = 0 := status.mpr rfl
      simp only [writeStatus, accepted, ne_eq, not_true_eq_false, if_false, if_true,
        Option.isSome_some, forall_const]
      rw [put_agrees_iff kept, requested, ← kept, assignAt_eq_iff]

/-- What a step that serves a port page can do. -/
theorem storeStep_port {system next : System} {page : PortPage} {params : List Param}
    {reply : Option Reply} {taken : Bool}
    (step : storeStep codes system (.port page params reply taken) = some next) :
    (∀ answer ∈ reply, answer.cmdStatus = 0 ↔ taken = true) ∧
      ∃ served, Configured (page.kind params) (fun _ => reply) params system.web served ∧
        (served.write = none ∧ next = { system with web := served.web } ∨
          ∃ write, served.write = some write ∧
            next = { system.write params taken write with web := served.web }) := by
  obtain ⟨matched, answered⟩ := Option.ite_none_right_eq_some.mp step
  refine ⟨matched, ?_⟩
  cases ok : page.cgi codes (fun _ => reply) params system.web with
  | error fault => simp [ok] at answered
  | ok served =>
    refine ⟨served, page.cgi_configured ok, ?_⟩
    simp only [ok] at answered
    cases written : served.write with
    | none =>
      simp only [written] at answered
      exact Or.inl ⟨rfl, (Option.some.inj answered).symm⟩
    | some write =>
      simp only [written] at answered
      exact Or.inr ⟨write, rfl, (Option.some.inj answered).symm⟩

/-- Every call keeps every field under the guard. -/
theorem fieldsKept_keeps (system : System) (call : Call) (next : System) (kept : FieldsKept system)
    (upToDate : UpToDate system call) (step : storeStep codes system call = some next) :
    FieldsKept next := by
  cases call with
  | refresh reader link =>
    obtain ⟨_, read⟩ := Option.ite_none_right_eq_some.mp step
    obtain rfl := Option.some.inj read
    exact kept
  | port page params reply taken =>
    obtain ⟨matched, served, configured, ⟨_, rfl⟩ | ⟨write, written, rfl⟩⟩ := storeStep_port step
    · exact kept
    · have sends := configured.sends write written
      have long : 2 ≤ params.length := configured.writes.mp (by rw [written]; rfl)
      exact (write_kept_iff kept matched sends).mpr
        (fun took => upToDate took long write.board sends.board)

/-- A call behind which every field is kept met the guard. -/
theorem fieldsKept_needed (system : System) (call : Call) (next : System) (kept : FieldsKept system)
    (step : storeStep codes system call = some next) (keptNext : FieldsKept next) :
    UpToDate system call := by
  cases call with
  | refresh reader link => trivial
  | port page params reply taken =>
    intro took long board number
    obtain ⟨matched, served, configured, moved⟩ := storeStep_port step
    obtain ⟨write, written, own, sends⟩ := configured.sent long number
    rcases moved with ⟨none, _⟩ | ⟨other, same, rfl⟩
    · simp [none] at written
    · obtain rfl := Option.some.inj (same.symm.trans written)
      exact own ▸ (write_kept_iff kept matched sends).mp keptNext took

/-- Along every run, every field of every port is as the last successful write to it left it
exactly when every write the board takes starts from a cached array that is up to date
outside the fields it sets (a write that is taken but not answered: puts back what is
there). The condition is on the state before a write. What it excludes is a write that
carries stale fields along, since a frame holds the whole array. -/
theorem fields_kept_iff (store : Store) (calls : List Call) :
    Always (storeStep codes) FieldsKept (powerOn store) calls ↔
      Guarded (storeStep codes) UpToDate (powerOn store) calls :=
  always_iff_guarded FieldsKept FieldsKept (fun _ kept => kept) fieldsKept_keeps fieldsKept_needed
    (fun _ _ => rfl) calls

end model

/-- The main board in the first slot, and zeros for everything else. -/
def sampleLink : Link := fun arg =>
  if arg.cmdExt = 3 then some ⟨0, [1, 0, 0x32, 0x01, 0x06, 0x80]⟩ else some ⟨0, []⟩

/-- A request that switches a gigabit port of the first board on. -/
def switchOn (portno : String) : Call :=
  .port .eth
    [⟨Bytes.ascii "ge", some (Bytes.ascii "G")⟩, ⟨Bytes.ascii "board", some (Bytes.ascii "0")⟩,
      ⟨Bytes.ascii "portno", some (Bytes.ascii portno)⟩,
      ⟨Bytes.ascii "eth_switch", some (Bytes.ascii cgistrEnable)⟩]
    (some ⟨0, []⟩) true

/-- One refresh, and a successful write to each of two ports behind it. -/
def twoWrites : List Call := [.refresh .eth sampleLink, switchOn "0", switchOn "1"]

/-- The second write switches the first port off again. -/
theorem twoWrites_revert :
    (run (storeStep sampleCodes) (powerOn fun _ _ _ => 0) twoWrites).map
        (fun final => (final.store .ge 0 ⟨0, by decide⟩, final.meant .ge 0 ⟨0, by decide⟩)) =
      some (0, 0x8000) := by
  decide

/-- Some run loses a successful write. -/
theorem fields_not_always_kept :
    ¬ ∀ calls, Always (storeStep sampleCodes) FieldsKept (powerOn fun _ _ _ => 0) calls := by
  intro always
  obtain ⟨final, completed, words⟩ := Option.map_eq_some_iff.mp twoWrites_revert
  have kept : FieldsKept final := always_final (always twoWrites) completed
  obtain ⟨store, meant⟩ := Prod.mk.inj words
  rw [kept .ge 0, meant] at store
  exact absurd store (by decide)

end UcosProxy.ConfigStore
