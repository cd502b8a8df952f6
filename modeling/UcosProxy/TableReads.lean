import UcosProxy.PortRecords

/-!
# What one call of a reader leaves

Each of the four readers of a table asks for the device id, for the list of boards and
then, board by board, for what its table holds. This module says what is in the table
behind one call, for any state before it and any pattern of timeouts and replies.

When one of the first two requests fails the call fails and the table is zero. Otherwise
each board stands for itself: it has its ports, or its version, exactly when it is listed
with a matching type and all of its own requests were answered, and then its arrays are
those answers. A board that is gone, or one whose reply got lost, has no ports whatever
its arrays still hold. A reader touches no other table, so between any calls an amount
is zero or that of the board's type.
-/

namespace UcosProxy.TableReads

open Bytes ControlRequire ControlTables PortArrays PortRecords Runs

/-- The device-id request fails, or the request for the boards of the device that answered.
The list is asked of the device that has just answered, so a new device id counts even where
the second request fails. -/
def Unheard (codes : Codes) (link : Link) (crRemoteChosen : Bool) : Prop :=
  link (deviceIdArg codes crRemoteChosen) = none ∨
    ∃ reply, link (deviceIdArg codes crRemoteChosen) = some reply ∧
      link (boardExistArg codes (word16 reply.body 0)) = none

/-- The board is in the list, with a type of the table. Both come from the reply to the
board-exist request; the bit alone would admit boards of other types. -/
def Listed (boards : WebBoardsExist) (board : Board) (tab : List (BitVec 32)) : Prop :=
  boards.exist.getLsbD board = true ∧ boards.type board ∈ tab

section entries
variable (codes : Codes) (link : Link) (control : WebControl)

/-- The request for the versions of a board. -/
def bulbVerArg (devId : BitVec 16) (board : Board) : WebDybArg :=
  getArg codes devId (BitVec.ofNat 8 board) codes.bulbVer

/-- The request for the states of a board's optical ports. -/
def optStateArg (devId : BitVec 16) (board : Board) : WebDybArg :=
  getArg codes devId (BitVec.ofNat 8 board) codes.optState

/-- The requests that fill the arrays counted by an amount. -/
def requests (devId : BitVec 16) : PortKind → Board → List WebDybArg
  | .opt, board => [configArg codes devId .opt board, optStateArg codes devId board]
  | .ge, board => [configArg codes devId .ge board]
  | .fe, board => [configArg codes devId .fe board]
  | .e1, board => [configArg codes devId .e1 board]

/-- The states of a board's ports are those of a reply. An E1 board sends them behind the
configuration, and an Ethernet port has none. -/
def StateRead : PortKind → Board → Prop
  | .opt, board => ∃ reply, link (optStateArg codes control.devId board) = some reply ∧
      (control.opt board).state = octets 8 reply.body
  | .e1, board => ∃ reply, link (configArg codes control.devId .e1 board) = some reply ∧
      (control.e1 board).state = octets 8 (reply.body.drop 8)
  | _, _ => True

/-- The ports of one kind on one board behind a call that got as far as this table. `shown`
is an equivalence, so a board that has no ports has lost one of its own requests or is not
listed. What its arrays then hold is left open. -/
structure PortsRead (kind : PortKind) (board : Board) : Prop where
  shown : amount control kind board ≠ 0 ↔ Listed control.boardsExist board kind.tab ∧
    ∀ arg ∈ requests codes control.devId kind board, link arg ≠ none
  fixed : amount control kind board = 0 ∨ amount control kind board = maxAmount kind
  config : amount control kind board ≠ 0 →
    ∃ reply, link (configArg codes control.devId kind board) = some reply ∧
      (cached control kind board).words = kind.decode reply.body
  state : amount control kind board ≠ 0 → StateRead codes link control kind board

/-- The versions of one board. It is the same for the one reply that a board's versions
take. -/
structure VersionRead (board : Board) : Prop where
  shown : (control.bulbVer board).set ≠ 0 ↔
    Listed control.boardsExist board boardsContainBoardsMng ∧
      link (bulbVerArg codes control.devId board) ≠ none
  fixed : (control.bulbVer board).set = 0 ∨ (control.bulbVer board).set = 1
  frame : (control.bulbVer board).set ≠ 0 →
    ∃ reply, link (bulbVerArg codes control.devId board) = some reply ∧
      control.bulbVer board =
        ⟨word16 reply.body 0, reply.body.getD 6 0, reply.body.getD 7 0, word16 reply.body 8,
          reply.body.getD 10 0, 1⟩

/-- The table of a reader behind a call that fails. -/
def Cleared (control : WebControl) : Reader → Prop
  | .opt => control.opt = fun _ => zeroOpt
  | .eth => control.eth = fun _ => zeroEth
  | .e1 => control.e1 = fun _ => zeroE1
  | .boardsVersion => control.bulbVer = fun _ => zeroBulbVer
  | .panel => control.bulbVer = fun _ => zeroBulbVer

/-- The table of a reader behind a call that gets through. The panel's reader fills one
entry of another one's table, and is none of the four. -/
def Filled : Reader → Prop
  | .opt => ∀ board, PortsRead codes link control .opt board
  | .eth => ∀ board, PortsRead codes link control .ge board ∧ PortsRead codes link control .fe board
  | .e1 => ∀ board, PortsRead codes link control .e1 board
  | .boardsVersion => ∀ board, VersionRead codes link control board
  | .panel => True

end entries

/-- The tables that a reader does not own. The panel shares the table of versions with its
reader, and is therefore named beside it. -/
structure OthersKept (reader : Reader) (before after : WebControl) : Prop where
  opt : reader ≠ .opt → after.opt = before.opt
  eth : reader ≠ .eth → after.eth = before.eth
  e1 : reader ≠ .e1 → after.e1 = before.e1
  bulbVer : reader ≠ .boardsVersion → reader ≠ .panel → after.bulbVer = before.bulbVer

/-- One call of a reader. Nothing is said about the tables before it: a call that fails
clears its own table, and one that gets through answers for itself. The device id and the
list of boards that `filled` speaks of are by `heard` those of this call's own replies,
and not what an earlier call left. -/
structure CallLaw (codes : Codes) (link : Link) (crRemoteChosen : Bool) (reader : Reader)
    (before : WebControl) (ret : Int) (after : WebControl) : Prop where
  fails : ret = -1 ↔ Unheard codes link crRemoteChosen
  succeeds : ret ≠ -1 → ret = 0
  cleared : ret = -1 → Cleared after reader
  heard : ret = 0 → heardBoards codes link crRemoteChosen = some (after.devId, after.boardsExist)
  filled : ret = 0 → Filled codes link after reader
  others : OthersKept reader before after

/-- Every amount is that of its type or zero, and every flag is one or zero. The zeroed
tables at power-on are among them. -/
structure AmountsFixed (control : WebControl) : Prop where
  ports : ∀ kind board, amount control kind board = 0 ∨ amount control kind board = maxAmount kind
  set : ∀ board, (control.bulbVer board).set = 0 ∨ (control.bulbVer board).set = 1

/-! ## One board -/

section rounds
variable {codes : Codes} {link : Link}

/-- The test at the head of a loop. -/
theorem boardContains_iff (boards : WebBoardsExist) (board : Board) (tab : List (BitVec 32)) :
    boardContains boards board tab = true ↔ Listed boards board tab := by
  simp only [boardContains, ctrlCheckContainIftype, Listed, Bool.and_eq_true, List.contains_iff_mem]

/-- A board without ports: it is not listed, or a request of its own was not answered. -/
theorem PortsRead.absent {control : WebControl} {kind : PortKind} {board : Board}
    (zero : amount control kind board = 0)
    (missing : ¬ (Listed control.boardsExist board kind.tab ∧
      ∀ arg ∈ requests codes control.devId kind board, link arg ≠ none)) :
    PortsRead codes link control kind board where
  shown := ⟨fun shown => absurd zero shown, fun here => absurd here missing⟩
  fixed := Or.inl zero
  config := fun shown => absurd zero shown
  state := fun shown => absurd zero shown

/-- A board with all its ports. -/
theorem PortsRead.present {control : WebControl} {kind : PortKind} {board : Board}
    (all : amount control kind board = maxAmount kind)
    (listed : Listed control.boardsExist board kind.tab)
    (answered : ∀ arg ∈ requests codes control.devId kind board, link arg ≠ none)
    (config : ∃ reply, link (configArg codes control.devId kind board) = some reply ∧
      (cached control kind board).words = kind.decode reply.body)
    (state : StateRead codes link control kind board) : PortsRead codes link control kind board where
  shown := by
    have some_ports : amount control kind board ≠ 0 := by
      rw [all]
      cases kind <;> decide
    exact ⟨fun _ => ⟨listed, answered⟩, fun _ => some_ports⟩
  fixed := Or.inr all
  config := fun _ => config
  state := fun _ => state

variable {control : WebControl} {board : Board}

/-- Ports that one request fills: the round has three ways through. -/
theorem PortsRead.single {kind : PortKind}
    (only : requests codes control.devId kind board = [configArg codes control.devId kind board])
    (unlisted : ¬ Listed control.boardsExist board kind.tab → amount control kind board = 0)
    (lost : link (configArg codes control.devId kind board) = none → amount control kind board = 0)
    (came : Listed control.boardsExist board kind.tab →
      ∀ reply, link (configArg codes control.devId kind board) = some reply →
        amount control kind board = maxAmount kind ∧
          (cached control kind board).words = kind.decode reply.body ∧
            StateRead codes link control kind board) :
    PortsRead codes link control kind board := by
  by_cases listed : Listed control.boardsExist board kind.tab
  · rcases Option.eq_none_or_eq_some (link (configArg codes control.devId kind board)) with
      silent | ⟨reply, answered⟩
    · apply PortsRead.absent (lost silent)
      rintro ⟨_, all⟩
      exact all _ (by simp [only]) silent
    · obtain ⟨full, words, state⟩ := came listed reply answered
      apply PortsRead.present full listed _ ⟨reply, answered, words⟩ state
      simp [only, answered]
  · apply PortsRead.absent (unlisted listed)
    rintro ⟨inList, _⟩
    exact listed inList

/-- The optical ports of a board behind its round. -/
theorem optRound_read (entry : WebOpt)
    (here : control.opt board = optRound codes link control board entry) :
    PortsRead codes link control .opt board := by
  have listed := boardContains_iff control.boardsExist board boardsContainOpt
  have configs : getArg codes control.devId (BitVec.ofNat 8 board) codes.optConfig =
      configArg codes control.devId .opt board := rfl
  have states : getArg codes control.devId (BitVec.ofNat 8 board) codes.optState =
      optStateArg codes control.devId board := rfl
  unfold optRound webReadOptConfigOneBoard webReadOptStateOneBoard at here
  rw [configs, states] at here
  split at here
  case isFalse unlisted =>
    have zero : amount control .opt board = 0 := congrArg WebOpt.amount here
    apply PortsRead.absent zero
    rintro ⟨inList, _⟩
    exact unlisted (listed.mpr inList)
  case isTrue contains =>
    rcases Option.eq_none_or_eq_some (link (configArg codes control.devId .opt board)) with
      lost | ⟨config, came⟩
    · rw [lost] at here
      have zero : amount control .opt board = 0 := congrArg WebOpt.amount here
      apply PortsRead.absent zero
      rintro ⟨_, answered⟩
      exact answered _ (by simp [requests]) lost
    · rw [came] at here
      rcases Option.eq_none_or_eq_some (link (optStateArg codes control.devId board)) with
        lost | ⟨state, arrived⟩
      · rw [lost] at here
        have zero : amount control .opt board = 0 := congrArg WebOpt.amount here
        apply PortsRead.absent zero
        rintro ⟨_, answered⟩
        exact answered _ (by simp [requests]) lost
      · rw [arrived] at here
        have full : amount control .opt board = maxAmount .opt := congrArg WebOpt.amount here
        apply PortsRead.present full (listed.mp contains)
        · simp [requests, came, arrived]
        · exact ⟨config, came, congrArg (fun entry => entry.config.words) here⟩
        · exact ⟨state, arrived, congrArg WebOpt.state here⟩

/-- The gigabit ports of a board behind both rounds. -/
theorem geRound_read (entry : WebEth)
    (here : control.eth board =
      feRound codes link control board (geRound codes link control board entry)) :
    PortsRead codes link control .ge board := by
  have listed := boardContains_iff control.boardsExist board boardsContainEthGe
  have count : amount control .ge board = (geRound codes link control board entry).geAmount := by
    rw [← feRound_geAmount codes link control board, ← here]
    rfl
  have words : (cached control .ge board).words = (geRound codes link control board entry).ge.words := by
    rw [← feRound_ge codes link control board, ← here]
    rfl
  have configs : getArg codes control.devId (BitVec.ofNat 8 board) codes.ethGeConfig =
      configArg codes control.devId .ge board := rfl
  unfold geRound webReadEthGeOneBoard at count words
  rw [configs] at count words
  apply PortsRead.single rfl
  case unlisted =>
    intro unlisted
    rw [count, if_neg fun contains => unlisted (listed.mp contains)]
  case lost =>
    intro lost
    rw [count, lost]
    split <;> rfl
  case came =>
    intro inList reply came
    rw [if_pos (listed.mpr inList), came] at count words
    exact ⟨count, words, trivial⟩

/-- The other Ethernet ports of a board behind both rounds. -/
theorem feRound_read (entry : WebEth)
    (here : control.eth board = feRound codes link control board entry) :
    PortsRead codes link control .fe board := by
  have listed := boardContains_iff control.boardsExist board boardsContainEthFe
  have configs : getArg codes control.devId (BitVec.ofNat 8 board) codes.ethFeConfig =
      configArg codes control.devId .fe board := rfl
  unfold feRound webReadEthFeOneBoard at here
  rw [configs] at here
  apply PortsRead.single rfl
  case unlisted =>
    intro unlisted
    rw [if_neg fun contains => unlisted (listed.mp contains)] at here
    exact congrArg WebEth.feAmount here
  case lost =>
    intro lost
    rw [lost] at here
    simp only [amount, here]
    split <;> rfl
  case came =>
    intro inList reply came
    rw [if_pos (listed.mpr inList), came] at here
    exact ⟨congrArg WebEth.feAmount here, congrArg (fun entry => entry.fe.words) here, trivial⟩

/-- The E1 ports of a board behind its round. -/
theorem e1Round_read (entry : WebE1)
    (here : control.e1 board = e1Round codes link control board entry) :
    PortsRead codes link control .e1 board := by
  have listed := boardContains_iff control.boardsExist board boardsContainE1
  have configs : getArg codes control.devId (BitVec.ofNat 8 board) codes.e1ConfigState =
      configArg codes control.devId .e1 board := rfl
  unfold e1Round webReadE1OneBoard at here
  rw [configs] at here
  apply PortsRead.single rfl
  case unlisted =>
    intro unlisted
    rw [if_neg fun contains => unlisted (listed.mp contains)] at here
    exact congrArg WebE1.amount here
  case lost =>
    intro lost
    rw [lost] at here
    simp only [amount, here]
    split <;> rfl
  case came =>
    intro inList reply came
    rw [if_pos (listed.mpr inList), came] at here
    exact ⟨congrArg WebE1.amount here, congrArg (fun entry => entry.config.words) here,
      reply, came, congrArg WebE1.state here⟩

/-- The versions of a board behind its round. -/
theorem bulbVerRound_read (entry : WebBulbVer)
    (here : control.bulbVer board = bulbVerRound codes link control board entry) :
    VersionRead codes link control board := by
  have listed := boardContains_iff control.boardsExist board boardsContainBoardsMng
  have versions : getArg codes control.devId (BitVec.ofNat 8 board) codes.bulbVer =
      bulbVerArg codes control.devId board := rfl
  have unset (zero : (control.bulbVer board).set = 0)
      (missing : ¬ (Listed control.boardsExist board boardsContainBoardsMng ∧
        link (bulbVerArg codes control.devId board) ≠ none)) :
      VersionRead codes link control board :=
    ⟨⟨fun set => absurd zero set, fun both => absurd both missing⟩, Or.inl zero,
      fun set => absurd zero set⟩
  unfold bulbVerRound webReadBulbVerOneBoard at here
  rw [versions] at here
  split at here
  case isFalse unlisted =>
    apply unset (congrArg WebBulbVer.set here)
    rintro ⟨inList, _⟩
    exact unlisted (listed.mpr inList)
  case isTrue contains =>
    rcases Option.eq_none_or_eq_some (link (bulbVerArg codes control.devId board)) with
      lost | ⟨reply, came⟩
    · rw [lost] at here
      apply unset (congrArg WebBulbVer.set here)
      rintro ⟨_, answered⟩
      exact answered lost
    · rw [came] at here
      have one : (control.bulbVer board).set = 1 := congrArg WebBulbVer.set here
      have set : (control.bulbVer board).set ≠ 0 := by
        rw [one]
        decide
      refine ⟨⟨fun _ => ⟨listed.mp contains, ?_⟩, fun _ => set⟩, Or.inr one,
        fun _ => ⟨reply, came, here⟩⟩
      simp [came]

end rounds

/-! ## One call -/

section call
variable {codes : Codes} {link : Link} {crRemoteChosen : Bool} {reader : Reader}
  {before after : WebControl} {ret : Int}

/-- No list of boards is heard exactly when one of the two requests fails. -/
theorem heardBoards_eq_none_iff :
    heardBoards codes link crRemoteChosen = none ↔ Unheard codes link crRemoteChosen := by
  unfold heardBoards heardDevice Unheard
  cases link (deviceIdArg codes crRemoteChosen) with
  | none => simp
  | some reply => simp

/-- A reader that clears or fills its own table obeys the law. -/
theorem webReadTable_law {clear fill : WebControl → WebControl} (before : WebControl)
    (clears : ∀ control, Cleared (clear control) reader ∧ OthersKept reader control (clear control))
    (fills : ∀ control, Filled codes link (fill control) reader ∧
      ((fill control).devId, (fill control).boardsExist) = (control.devId, control.boardsExist) ∧
      OthersKept reader control (fill control)) :
    CallLaw codes link crRemoteChosen reader before
      (webReadTable codes clear fill link crRemoteChosen before).1
      (webReadTable codes clear fill link crRemoteChosen before).2 := by
  have unheard := @heardBoards_eq_none_iff codes link crRemoteChosen
  have apart : (-1 : Int) ≠ 0 := by decide
  rw [webReadTable_eq]
  cases heard : heardBoards codes link crRemoteChosen with
  | none =>
    have kept := (clears { before with
      devId := (heardDevice codes link crRemoteChosen).getD before.devId }).2
    exact {
      fails := ⟨fun _ => unheard.mp heard, fun _ => rfl⟩
      succeeds := fun other => absurd rfl other
      cleared := fun _ => (clears _).1
      heard := fun zero => absurd zero apart
      filled := fun zero => absurd zero apart
      others := ⟨kept.opt, kept.eth, kept.e1, kept.bulbVer⟩ }
  | some found =>
    obtain ⟨devId, boards⟩ := found
    obtain ⟨_, own, kept⟩ := fills { before with devId := devId, boardsExist := boards }
    have listened : ¬ Unheard codes link crRemoteChosen := by
      intro silent
      rw [unheard.mpr silent] at heard
      cases heard
    exact {
      fails := ⟨fun failed => absurd failed.symm apart, fun silent => absurd silent listened⟩
      succeeds := fun _ => rfl
      cleared := fun failed => absurd failed.symm apart
      heard := fun _ => heard.trans (congrArg some own.symm)
      filled := fun _ => (fills _).1
      others := ⟨kept.opt, kept.eth, kept.e1, kept.bulbVer⟩ }

/-- Each of the four readers obeys the law, whatever the tables held. -/
theorem read_law (four : reader ≠ .panel) (before : WebControl) :
    CallLaw codes link crRemoteChosen reader before (reader.read codes link crRemoteChosen before).1
      (reader.read codes link crRemoteChosen before).2 := by
  cases reader with
  | panel => exact absurd rfl four
  | boardsVersion =>
    apply webReadTable_law
    · exact fun control => ⟨rfl, fun _ => rfl, fun _ => rfl, fun _ => rfl, fun own => absurd rfl own⟩
    · refine fun control => ⟨fun board => ?_, rfl, fun _ => rfl, fun _ => rfl, fun _ => rfl,
        fun own => absurd rfl own⟩
      exact bulbVerRound_read (control.bulbVer board) (forBoards_apply _ _ board)
  | opt =>
    apply webReadTable_law
    · exact fun control => ⟨rfl, fun own => absurd rfl own, fun _ => rfl, fun _ => rfl, fun _ _ => rfl⟩
    · refine fun control => ⟨fun board => ?_, rfl, fun own => absurd rfl own, fun _ => rfl, fun _ => rfl,
        fun _ _ => rfl⟩
      exact optRound_read (control.opt board) (forBoards_apply _ _ board)
  | eth =>
    apply webReadTable_law
    · exact fun control => ⟨rfl, fun _ => rfl, fun own => absurd rfl own, fun _ => rfl, fun _ _ => rfl⟩
    · refine fun control => ⟨fun board => ?_, rfl, fun _ => rfl, fun own => absurd rfl own, fun _ => rfl,
        fun _ _ => rfl⟩
      constructor
      · apply geRound_read (control.eth board)
        simp only [forBoards_apply]
        rfl
      · apply feRound_read (geRound codes link control board (control.eth board))
        simp only [forBoards_apply]
        rfl
  | e1 =>
    apply webReadTable_law
    · exact fun control => ⟨rfl, fun _ => rfl, fun _ => rfl, fun own => absurd rfl own, fun _ _ => rfl⟩
    · refine fun control => ⟨fun board => ?_, rfl, fun _ => rfl, fun _ => rfl, fun own => absurd rfl own,
        fun _ _ => rfl⟩
      exact e1Round_read (control.e1 board) (forBoards_apply _ _ board)

/-- The amounts of another reader's ports stay. -/
theorem OthersKept.amount_eq (kept : OthersKept reader before after) {kind : PortKind}
    (aside : reader.reads kind = false) (board : Board) :
    amount after kind board = amount before kind board := by
  have other (owner : Reader) (reads : owner.reads kind = true) : reader ≠ owner := by
    rintro rfl
    rw [aside] at reads
    cases reads
  cases kind with
  | opt => exact congrArg (fun table => (table board).amount) (kept.opt (other .opt rfl))
  | ge => exact congrArg (fun table => (table board).geAmount) (kept.eth (other .eth rfl))
  | fe => exact congrArg (fun table => (table board).feAmount) (kept.eth (other .eth rfl))
  | e1 => exact congrArg (fun table => (table board).amount) (kept.e1 (other .e1 rfl))

/-- A cleared table has no ports. -/
theorem Cleared.amount_eq (cleared : Cleared after reader) {kind : PortKind}
    (own : reader.reads kind = true) (board : Board) : amount after kind board = 0 := by
  cases reader with
  | panel | boardsVersion => cases own
  | opt =>
    cases kind with
    | opt => exact congrArg (fun table => (table board).amount) cleared
    | ge | fe | e1 => cases own
  | eth =>
    cases kind with
    | ge => exact congrArg (fun table => (table board).geAmount) cleared
    | fe => exact congrArg (fun table => (table board).feAmount) cleared
    | opt | e1 => cases own
  | e1 =>
    cases kind with
    | e1 => exact congrArg (fun table => (table board).amount) cleared
    | opt | ge | fe => cases own

/-- A filled table has what was read. -/
theorem Filled.portsRead (filled : Filled codes link after reader) {kind : PortKind}
    (own : reader.reads kind = true) (board : Board) : PortsRead codes link after kind board := by
  cases reader with
  | panel | boardsVersion => cases own
  | opt =>
    cases kind with
    | opt => exact filled board
    | ge | fe | e1 => cases own
  | eth =>
    cases kind with
    | ge => exact (filled board).1
    | fe => exact (filled board).2
    | opt | e1 => cases own
  | e1 =>
    cases kind with
    | e1 => exact filled board
    | opt | ge | fe => cases own

/-- A call of one of the four readers keeps every amount zero or that of its type. -/
theorem CallLaw.amountsFixed (law : CallLaw codes link crRemoteChosen reader before ret after)
    (four : reader ≠ .panel) (fixed : AmountsFixed before) : AmountsFixed after := by
  have outcome : ret = -1 ∨ ret = 0 := by
    by_cases failed : ret = -1
    · exact Or.inl failed
    · exact Or.inr (law.succeeds failed)
  constructor
  · intro kind board
    cases own : reader.reads kind with
    | false =>
      rw [law.others.amount_eq own board]
      exact fixed.ports kind board
    | true =>
      rcases outcome with failed | succeeded
      · exact Or.inl ((law.cleared failed).amount_eq own board)
      · exact ((law.filled succeeded).portsRead own board).fixed
  · intro board
    by_cases own : reader = .boardsVersion
    · subst own
      rcases outcome with failed | succeeded
      · exact Or.inl (congrArg (fun table => (table board).set) (law.cleared failed))
      · exact (law.filled succeeded board).fixed
    · rw [law.others.bulbVer own four]
      exact fixed.set board

/-- The panel's reader keeps the flags of the boards or clears them. -/
theorem webReadPanel_set (control : WebControl) (board : Board) :
    ((webReadPanel codes link crRemoteChosen control).2.bulbVer board).set = 0 ∨
      ((webReadPanel codes link crRemoteChosen control).2.bulbVer board).set =
        (control.bulbVer board).set := by
  unfold webReadPanel webReadDeviceId webReadBulbVerOneBoard
  cases link (deviceIdArg codes crRemoteChosen) with
  | none => exact Or.inl rfl
  | some reply =>
    rcases Option.eq_none_or_eq_some
      (link (getArg codes (word16 reply.body 0) (BitVec.ofNat 8 (0 : Board)) codes.bulbVer)) with
      lost | ⟨version, came⟩
    · simp only [lost]
      exact Or.inl rfl
    · simp only [came]
      right
      by_cases first : board = 0
      · subst first
        rfl
      · exact congrArg WebBulbVer.set (Function.update_of_ne first _ _)

/-- Every reader keeps the amounts. -/
theorem AmountsFixed.read (fixed : AmountsFixed before) (reader : Reader) :
    AmountsFixed (reader.read codes link crRemoteChosen before).2 := by
  by_cases panel : reader = .panel
  · subst panel
    constructor
    · intro kind board
      obtain ⟨bulbVer, moved⟩ := webReadPanel_moved codes link crRemoteChosen before
      simp only [Reader.read, moved]
      exact fixed.ports kind board
    · intro board
      rcases @webReadPanel_set codes link crRemoteChosen before board with zero | same
      · exact Or.inl zero
      · simp only [Reader.read, same]
        exact fixed.set board
  · exact (read_law panel before).amountsFixed panel fixed

end call

/-- Before any call nothing is there. -/
theorem zeroControl_amountsFixed : AmountsFixed zeroControl where
  ports := by
    intro kind board
    left
    cases kind <;> rfl
  set := fun _ => Or.inl rfl

/-- Each call of one of the four readers obeys the law, from any state and for any pattern
of timeouts and replies, and along any sequence of calls the amounts are zero or those of
their types. The first half is about one call and asks nothing of the tables before it; the
second is the run over any such calls, the panel's among them. -/
theorem readers_obey_law (codes : Codes) :
    (∀ link crRemoteChosen reader before, reader ≠ .panel →
      CallLaw codes link crRemoteChosen reader before
        (reader.read codes link crRemoteChosen before).1
        (reader.read codes link crRemoteChosen before).2) ∧
    ∀ calls, Always (refresh codes) AmountsFixed zeroControl calls := by
  constructor
  · intro link crRemoteChosen reader before four
    exact read_law four before
  · intro calls
    apply always_of_guarded AmountsFixed AmountsFixed (fun _ fixed => fixed) _
      zeroControl_amountsFixed calls (guarded_true _ _ _)
    intro control call next fixed _ taken
    obtain rfl := Option.some.inj taken
    exact fixed.read call.reader

/-- A main board whose gigabit ports do not answer. -/
def halfLink : Link := fun arg =>
  if arg.cmdExt = sampleCodes.ethGeConfig then none
  else some ⟨0, [1, 0, 0x32, 0x01, 0x06, 0x80] ++ List.replicate 34 0⟩

/-- Its other Ethernet ports are read. -/
theorem halfLink_read :
    CallLaw sampleCodes halfLink false .eth zeroControl
        (Reader.eth.read sampleCodes halfLink false zeroControl).1
        (Reader.eth.read sampleCodes halfLink false zeroControl).2 ∧
      Always (refresh sampleCodes) AmountsFixed zeroControl [⟨.eth, halfLink, false⟩] :=
  ⟨(readers_obey_law sampleCodes).1 halfLink false .eth zeroControl (by decide),
    (readers_obey_law sampleCodes).2 [⟨.eth, halfLink, false⟩]⟩

/-- The first board has six of them and no gigabit port. -/
example : (amount (Reader.eth.read sampleCodes halfLink false zeroControl).2 .ge 0,
    amount (Reader.eth.read sampleCodes halfLink false zeroControl).2 .fe 0) = (0, 6) := by
  decide

end UcosProxy.TableReads
