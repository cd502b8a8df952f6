import UcosProxy.PortCgi

/-!
# The frames of the port pages

Behind a served configuration request stands one fact, the same for all three pages:
the frame is addressed to `web_control->dev_id`, and the array in its body is the
cached array of the board with the request's assignment at the addressed port. The
byte order and the padding of the buffers cancel out between the handler and the
board, so the fact is stated on arrays.
-/

namespace UcosProxy.PortFrames

open UriParameters CgiAccess BitFields ControlRequire ControlTables PortArrays PortCgi

/-- An array of bytes at the head of a frame is read back as it is. -/
theorem octets_ofFn {size : Nat} (count : Nat) (buf : Fin size → Byte) (rest : List Byte) (len : Nat)
    (fits : count ≤ size) (long : count ≤ len) :
    octets count ((List.ofFn buf ++ rest).take len) = fun index => buf (index.castLE fits) := by
  funext index
  have bound := index.isLt
  have inside : index.val < size := by omega
  have kept : index.val < len := by omega
  simp [octets, List.getElem?_append, kept, inside, Fin.castLE]

/-- The two bytes of a half-word. -/
theorem halfWordBytes_getElem? (words : List (BitVec 16)) (index : Nat) :
    (halfWordBytes words)[2 * index]? = words[index]?.map (·.setWidth 8) ∧
      (halfWordBytes words)[2 * index + 1]? = words[index]?.map fun word : BitVec 16 => (word >>> 8).setWidth 8 := by
  induction words generalizing index with
  | nil => simp [halfWordBytes]
  | cons word rest inductionHypothesis =>
    cases index with
    | zero => simp [halfWordBytes]
    | succ index =>
      have double : 2 * (index + 1) = 2 * index + 1 + 1 := by omega
      simpa [halfWordBytes, double] using inductionHypothesis index

/-- A half-word is its high byte over its low byte. -/
theorem halfWord_append (word : BitVec 16) :
    (word >>> 8).setWidth 8 ++ word.setWidth 8 = word := by
  apply BitVec.eq_of_getLsbD_eq
  intro index bound
  simp only [BitVec.getLsbD_append, BitVec.getLsbD_setWidth, BitVec.getLsbD_ushiftRight]
  by_cases low : index < 8
  · simp [low]
  · have high : index - 8 < 8 := by omega
    simp [low, high, Nat.add_sub_cancel' (Nat.le_of_not_lt low)]

/-- An array of half-words at the head of a frame is read back as it is. -/
theorem halfWords_ofFn {size : Nat} (count : Nat) (buf : Fin size → BitVec 16) (len : Nat)
    (fits : count ≤ size) (long : 2 * count ≤ len) :
    halfWords count ((halfWordBytes (List.ofFn buf)).take len) =
      fun index => buf (index.castLE fits) := by
  funext index
  have bound := index.isLt
  have inside : index.val < size := by omega
  obtain ⟨low, high⟩ := halfWordBytes_getElem? (List.ofFn buf) index
  have lowKept : 2 * index.val < len := by omega
  have highKept : 2 * index.val + 1 < len := by omega
  simp only [halfWords, word16, List.getD_eq_getElem?_getD, List.getElem?_take, lowKept, highKept,
    if_true, low, high]
  simp [inside, halfWord_append, Fin.castLE]

/-- Copying an array over the head of a buffer and cutting the head off again. -/
theorem padded_head {width size count : Nat} (words : Fin count → BitVec width) (fits : count ≤ size)
    (assignment : Assignment width) (port : Nat) :
    (fun index : Fin count => assignAt assignment port (padded size words) (index.castLE fits)) =
      assignAt assignment port words := by
  funext index
  simp [assignAt, padded]

/-- What a configuration request sends: which array, whom the frame addresses, what the
writer makes of the outcome, and the words in the frame. The array is compared as a device
decodes it from the frame's body. -/
structure Sends (kind : PortKind) (link : Link) (params : List Param) (control : WebControl)
    (write : ConfigWrite) : Prop where
  kind : write.kind = kind
  device : write.arg.devId = control.devId
  board : boardOf params = write.board.val
  ret : write.ret = writeStatus (link write.arg)
  array : write.kind.decode (ctrlSendDybFrame write.arg).body =
    assignAt (assigned params (kindFields write.kind)) (portOf params).toNat
      (cached control write.kind write.board).words

/-- A served request of a port page: it sends a frame unless it is a read, and the tables
stay as they are, whatever was sent and answered. A write leaves the tables as they are
until the next refresh, so a page may show an old value behind a new one. -/
structure Configured (kind : PortKind) (link : Link) (params : List Param) (web : WebState)
    (served : Served) : Prop where
  control : served.web.control = web.control
  chosen : served.web.crRemoteChosen = web.crRemoteChosen
  writes : served.write.isSome ↔ 2 ≤ params.length
  sends : ∀ write ∈ served.write, Sends kind link params web.control write

/-- The pages whose requests may write. The page of the Ethernet ports writes one of two
kinds, according to its parameter. -/
inductive PortPage
  | opt
  | eth
  | e1
deriving DecidableEq

/-- The kind of ports that a request addresses. -/
def PortPage.kind (params : List Param) : PortPage → PortKind
  | .opt => .opt
  | .eth => if (textOf "ge" params).head? == some 71 then .ge else .fe
  | .e1 => .e1

/-- The handler of a page. -/
def PortPage.cgi (codes : Codes) : PortPage → Link → List Param → WebState → Except Fault Served
  | .opt => optCgiInterface codes
  | .eth => ethCgiInterface codes
  | .e1 => e1CgiInterface codes

section handlers
variable {codes : Codes} {link : Link} {params : List Param} {web : WebState} {served : Served}

theorem optCgiInterface_configured (ok : optCgiInterface codes link params web = .ok served) :
    Configured .opt link params web served := by
  unfold optCgiInterface at ok
  split at ok
  case isTrue short =>
    obtain rfl := Except.ok.inj ok
    exact ⟨rfl, rfl, by simp [short], by simp⟩
  case isFalse long =>
    obtain ⟨⟨board, arg⟩, planned, sent⟩ := bind_eq_ok.mp ok
    obtain ⟨⟨_, _, number, _⟩, rfl⟩ := (configure_eq_ok_iff _ _ _ _ _ _).mp planned
    obtain rfl := Except.ok.inj sent
    refine ⟨rfl, rfl, by simp [Nat.le_of_not_lt long], ?_⟩
    rintro write ⟨⟩
    refine ⟨rfl, rfl, number, rfl, ?_⟩
    have decoded := octets_ofFn 8 (assignAt (assigned params optFields) (portOf params).toNat
      (padded 16 (web.control.opt board).config.words)) [] 8 (by decide) (Nat.le_refl _)
    rw [List.append_nil, padded_head] at decoded
    exact decoded

theorem e1CgiInterface_configured (ok : e1CgiInterface codes link params web = .ok served) :
    Configured .e1 link params web served := by
  unfold e1CgiInterface at ok
  split at ok
  case isTrue short =>
    obtain rfl := Except.ok.inj ok
    exact ⟨rfl, rfl, by simp [short], by simp⟩
  case isFalse long =>
    obtain ⟨⟨board, arg⟩, planned, sent⟩ := bind_eq_ok.mp ok
    obtain ⟨⟨_, _, number, _⟩, rfl⟩ := (configure_eq_ok_iff _ _ _ _ _ _).mp planned
    obtain rfl := Except.ok.inj sent
    refine ⟨rfl, rfl, by simp [Nat.le_of_not_lt long], ?_⟩
    rintro write ⟨⟩
    refine ⟨rfl, rfl, number, rfl, ?_⟩
    exact octets_ofFn 8 (assignAt (assigned params e1Fields) (portOf params).toNat
      (web.control.e1 board).config.words) (List.replicate 24 0) 32 (Nat.le_refl _) (by decide)

theorem ethCgiInterface_configured (ok : ethCgiInterface codes link params web = .ok served) :
    Configured (PortPage.eth.kind params) link params web served := by
  unfold ethCgiInterface at ok
  split at ok
  case isTrue short =>
    obtain rfl := Except.ok.inj ok
    exact ⟨rfl, rfl, by simp [short], by simp⟩
  case isFalse long =>
    obtain ⟨ge, named, chosen⟩ := bind_eq_ok.mp ok
    have side : textOf "ge" params = ge := by
      rw [textOf, (valueOf_eq_ok_iff _ _ _).mp named, Option.getD_some]
    obtain ⟨⟨board, arg⟩, planned, sent⟩ := bind_eq_ok.mp chosen
    obtain ⟨⟨_, _, number, _⟩, rfl⟩ := (configure_eq_ok_iff _ _ _ _ _ _).mp planned
    obtain rfl := Except.ok.inj sent
    refine ⟨rfl, rfl, by simp [Nat.le_of_not_lt long], ?_⟩
    rintro write ⟨⟩
    unfold PortPage.kind
    rw [side]
    cases ge.head? == some 71 with
    | true =>
      refine ⟨rfl, rfl, number, rfl, ?_⟩
      have decoded := halfWords_ofFn 4 (assignAt (assigned params ethFields)
        (portOf params).toNat (padded 16 (web.control.eth board).ge.words)) 8 (by decide) (by decide)
      rw [padded_head] at decoded
      exact decoded
    | false =>
      refine ⟨rfl, rfl, number, rfl, ?_⟩
      have decoded := halfWords_ofFn 16 (assignAt (assigned params ethFields)
        (portOf params).toNat (padded 16 (web.control.eth board).fe.words)) 32 (by decide) (by decide)
      rw [padded_head] at decoded
      exact decoded

/-- Every page sends the cached array with the request's assignment, to the device
in `web_control->dev_id`. -/
theorem PortPage.cgi_configured (page : PortPage) (ok : page.cgi codes link params web = .ok served) :
    Configured (page.kind params) link params web served := by
  cases page with
  | opt => exact optCgiInterface_configured ok
  | eth => exact ethCgiInterface_configured ok
  | e1 => exact e1CgiInterface_configured ok

/-- A served request for a board of the tables that is not a read sends one frame, about
that board. -/
theorem Configured.sent {kind : PortKind} (configured : Configured kind link params web served)
    (long : 2 ≤ params.length) {board : Board} (number : boardOf params = board.val) :
    ∃ write, served.write = some write ∧ write.board = board ∧
      Sends kind link params web.control write := by
  obtain ⟨write, sent⟩ := Option.isSome_iff_exists.mp (configured.writes.mpr long)
  have sends := configured.sends write sent
  have own : write.board = board := by
    have same := sends.board
    apply Fin.ext
    omega
  exact ⟨write, sent, own, sends⟩

/-- The choice of a side touches nothing else. -/
theorem centRmtCgiInterface_control (ok : centRmtCgiInterface params web = .ok served) :
    served.web.control = web.control ∧ served.write = none := by
  unfold centRmtCgiInterface at ok
  split at ok
  · obtain rfl := Except.ok.inj ok
    exact ⟨rfl, rfl⟩
  · obtain ⟨side, _, chosen⟩ := bind_eq_ok.mp ok
    obtain rfl := Except.ok.inj chosen
    exact ⟨rfl, rfl⟩

end handlers

end UcosProxy.PortFrames
