import UcosProxy.CgiHandlers

/-!
# Which requests the handlers survive

A handler survives a request when every access it makes is covered: `pcValue` only at
a position that holds a parameter, no text behind a NULL value, no copy over the end
of its buffer, no table or port array outside its entries. This module says for each
registered handler exactly which parameter lists these are. Lists of any length and
texts of any length are allowed, so the sixteen parameters and the 512 bytes of a body
are no assumption.

The conditions follow the source's own short cuts: a password is looked up only behind
the right name, and a port number counts only where some field's value is recognised.
-/

namespace UcosProxy.CgiSafety

open Bytes UriParameters CgiAccess PortCgi UpdateThread CgiHandlers

/-- A named value is there and its text fits a buffer. -/
def Fits (size : Nat) (name : String) (params : List Param) : Prop :=
  HasValue name params ∧ (textOf name params).length < size

/-- The lookups of a port page: the board is one of the table, every named field has a
value, and the port is inside the buffer when some value is recognised. A value that is not
recognised is compared and dropped, so the port is asked for only where something is stored. -/
def PortRequest {width : Nat} (size : Nat) (fields : List (PortField width)) (params : List Param) :
    Prop :=
  HasValue "board" params ∧ HasValue "portno" params ∧
    (0 ≤ boardOf params ∧ boardOf params < ControlTables.maxBoardNo) ∧
    ∀ field ∈ fields, FieldSafe size params (portOf params) field

/-- The lookups of an account request. Whether the new strings are looked up depends on the
old ones, which are compared with the account at hand. -/
def AccountRequest (account : WebAccount) (params : List Param) : Prop :=
  HasValue "cur_user" params ∧
    (textOf "cur_user" params = account.username →
      HasValue "cur_passwd" params ∧
        (textOf "cur_passwd" params = account.passwd →
          Fits 64 "new_user" params ∧ Fits 64 "new_passwd" params))

/-- The lookups of a configuration of the network. -/
def NetRequest (params : List Param) : Prop :=
  HasValue "dev_ip" params ∧ HasValue "dev_mask" params ∧ HasValue "dev_gateway" params ∧
    HasValue "mng_ip" params

/-- The lookups of an update: the whole value fits 128 bytes, the name in it 64. The copy of
the value comes first, so a long value overruns `tmp` whatever the name in it. -/
def UpdateRequest (params : List Param) : Prop :=
  Fits 128 "filename" params ∧ (updateFilenameCrop (textOf "filename" params)).length < 64

/-- What a handler asks of a request. One of less than two parameters is a read and
looks nothing up. -/
def Covered (account : WebAccount) (params : List Param) : Cgi → Prop
  | .login => True
  | .panel => True
  | .reboot => True
  | .centRmt => 2 ≤ params.length → HasValue "cent_rmt" params
  | .account => 2 ≤ params.length → AccountRequest account params
  | .net => 2 ≤ params.length → NetRequest params
  | .update => 2 ≤ params.length → UpdateRequest params
  | .opt => 2 ≤ params.length → PortRequest 16 optFields params
  | .eth => 2 ≤ params.length → HasValue "ge" params ∧ PortRequest 16 ethFields params
  | .e1 => 2 ≤ params.length → PortRequest 8 e1Fields params

section accesses
variable {params : List Param}

/-- A named value is its text. -/
theorem valueOf_eq_text (name : String) (value : List Byte) (read : valueOf name params = .ok value) :
    textOf name params = value := by
  rw [textOf, (valueOf_eq_ok_iff _ _ _).mp read, Option.getD_some]

/-- Reading a named value and going on. -/
theorem safe_value_bind_iff {α : Type} (name : String) (next : List Byte → Except Fault α) :
    Safe (valueOf name params >>= next) ↔ HasValue name params ∧ Safe (next (textOf name params)) := by
  rw [safe_bind, ← safe_valueOf_iff]
  constructor
  · rintro ⟨value, read, rest⟩
    rw [valueOf_eq_text name value read]
    exact ⟨⟨value, read⟩, rest⟩
  · rintro ⟨⟨value, read⟩, rest⟩
    rw [valueOf_eq_text name value read] at rest
    exact ⟨value, read, rest⟩

/-- Copying a text and going on. -/
theorem safe_strcpy_bind_iff {α : Type} (size : Nat) (source : List Byte)
    (next : List Byte → Except Fault α) :
    Safe (strcpy size source >>= next) ↔ source.length < size ∧ Safe (next source) := by
  unfold strcpy
  by_cases fits : source.length < size
  · simp only [fits, if_true, true_and, ok_bind]
  · simp only [fits, if_false, false_and, iff_false]
    exact not_safe_error Fault.overrun

/-- A read request is safe, and any other one exactly when what it does is. -/
theorem safe_unless_short_iff {α : Type} (short : Prop) [Decidable short] (page : α)
    (access : Except Fault α) (covered : Prop) (safe : Safe access ↔ covered) :
    Safe (if short then .ok page else access) ↔ (¬ short → covered) := by
  by_cases isShort : short
  · simp [isShort]
  · simp [isShort, safe]

end accesses

section handlers
variable {env : Environment} {params : List Param} {state : CgiState}

/-- A port page is safe exactly when its plan goes through. -/
theorem safe_configure_iff {width count : Nat} (fields : List (PortField width))
    (load : ControlTables.Board → Fin count → BitVec width)
    (frame : ControlTables.Board → (Fin count → BitVec width) → ControlRequire.WebDybArg) :
    Safe (configure fields load frame params) ↔ PortRequest count fields params := by
  unfold PortRequest
  constructor
  · rintro ⟨⟨board, arg⟩, planned⟩
    obtain ⟨⟨hasBoard, hasPort, number, fieldsSafe⟩, _⟩ :=
      (configure_eq_ok_iff _ _ _ _ _ _).mp planned
    have bound := board.isLt
    exact ⟨hasBoard, hasPort, by omega, fieldsSafe⟩
  · rintro ⟨hasBoard, hasPort, inside, fieldsSafe⟩
    obtain ⟨number, bound⟩ : boardOf params = (boardOf params).toNat ∧
        (boardOf params).toNat < ControlTables.maxBoardNo := by omega
    exact ⟨(⟨_, bound⟩, _), (configure_eq_ok_iff _ _ _ _ _ _).mpr
      ⟨⟨hasBoard, hasPort, number, fieldsSafe⟩, rfl⟩⟩

/-- What only fills in a page behind an access is safe when the access is. -/
theorem safe_bind_ok_iff {α β : Type} (access : Except Fault α) (page : α → β) :
    Safe (access >>= fun value => .ok (page value)) ↔ Safe access := by
  rw [safe_bind]
  constructor
  · rintro ⟨value, first, _⟩
    exact ⟨value, first⟩
  · rintro ⟨value, first⟩
    exact ⟨value, first, safe_ok _⟩

theorem safe_overWeb_iff (served : WebState → Except Fault Served) :
    Safe (overWeb served state) ↔ Safe (served state.web) := safe_bind_ok_iff _ _

theorem safe_centRmt_iff (web : WebState) :
    Safe (centRmtCgiInterface params web) ↔ (2 ≤ params.length → HasValue "cent_rmt" params) := by
  rw [← Nat.not_lt]
  apply safe_unless_short_iff
  rw [safe_value_bind_iff]
  simp

theorem safe_opt_iff (web : WebState) :
    Safe (optCgiInterface env.codes env.link params web) ↔
      (2 ≤ params.length → PortRequest 16 optFields params) := by
  rw [← Nat.not_lt]
  apply safe_unless_short_iff
  rw [← safe_configure_iff]
  exact safe_bind_ok_iff _ _

theorem safe_e1_iff (web : WebState) :
    Safe (e1CgiInterface env.codes env.link params web) ↔
      (2 ≤ params.length → PortRequest 8 e1Fields params) := by
  rw [← Nat.not_lt]
  apply safe_unless_short_iff
  rw [← safe_configure_iff]
  exact safe_bind_ok_iff _ _

theorem safe_eth_iff (web : WebState) :
    Safe (ethCgiInterface env.codes env.link params web) ↔
      (2 ≤ params.length → HasValue "ge" params ∧ PortRequest 16 ethFields params) := by
  rw [← Nat.not_lt]
  apply safe_unless_short_iff
  rw [safe_value_bind_iff]
  apply and_congr_right
  intro _
  rw [← safe_configure_iff]
  exact safe_bind_ok_iff _ _

theorem safe_net_iff :
    Safe (netCgiInterface env params state) ↔ (2 ≤ params.length → NetRequest params) := by
  rw [← Nat.not_lt]
  apply safe_unless_short_iff
  simp only [safe_value_bind_iff, NetRequest]
  have stored {α : Type} (condition : Prop) [Decidable condition] (failed done : α) :
      Safe (if condition then Except.ok failed else .ok done) := by
    split <;> exact safe_ok _
  simp [stored]

theorem safe_update_iff (env : Environment) :
    Safe (updateCgiInterface env params state) ↔ (2 ≤ params.length → UpdateRequest params) := by
  rw [← Nat.not_lt]
  apply safe_unless_short_iff
  simp only [safe_value_bind_iff, safe_strcpy_bind_iff, safe_ok, UpdateRequest, Fits]
  tauto

/-- The new account is copied behind both comparisons, and each of them behind the one
before it. -/
theorem safe_account_iff (env : Environment) :
    Safe (accountCgiInterface env params state) ↔
      (2 ≤ params.length → AccountRequest state.account params) := by
  rw [← Nat.not_lt]
  apply safe_unless_short_iff
  unfold accountMatches AccountRequest
  rw [bind_assoc, safe_value_bind_iff]
  apply and_congr_right
  intro _
  by_cases user : textOf "cur_user" params = state.account.username
  · simp only [user, ne_eq, not_true_eq_false, if_false, forall_const]
    rw [bind_assoc, safe_value_bind_iff]
    apply and_congr_right
    intro _
    by_cases passwd : textOf "cur_passwd" params = state.account.passwd
    · have copied : Safe (valueOf "new_user" params >>= fun newUser =>
          strcpy 64 newUser >>= fun username =>
          valueOf "new_passwd" params >>= fun newPasswd =>
          strcpy 64 newPasswd >>= fun passwd =>
          Except.ok ("/assets/ajax/account.ajax",
            { state with account := ⟨username, passwd⟩, accountStatus := 0 })) ↔
          Fits 64 "new_user" params ∧ Fits 64 "new_passwd" params := by
        simp only [safe_value_bind_iff, safe_strcpy_bind_iff, safe_ok, Fits]
        tauto
      simpa [passwd] using copied
    · simp [passwd]
  · simp [user]

/-- A registered handler survives a request exactly when the request is covered. It covers
every handler, every list of parameters and every state. The handlers do not ask for what
`Covered` lists, so a client decides. -/
theorem handler_safe_iff (cgi : Cgi) (env : Environment) (params : List Param) (state : CgiState) :
    Safe (cgi.pfnCgiHandler env params state) ↔ Covered state.account params cgi := by
  cases cgi with
  | login => exact iff_of_true (safe_ok _) trivial
  | panel => exact iff_of_true (safe_ok _) trivial
  | reboot =>
    refine iff_of_true ?_ trivial
    unfold Cgi.pfnCgiHandler rebootCgiInterface
    simp only
    split <;> exact safe_ok _
  | centRmt => exact (safe_overWeb_iff _).trans (safe_centRmt_iff _)
  | account => exact safe_account_iff env
  | net => exact safe_net_iff
  | update => exact safe_update_iff env
  | opt => exact (safe_overWeb_iff _).trans (safe_opt_iff _)
  | eth => exact (safe_overWeb_iff _).trans (safe_eth_iff _)
  | e1 => exact (safe_overWeb_iff _).trans (safe_e1_iff _)

end handlers

/-- A silent link, and a network stack that refuses everything. -/
def sampleEnvironment : Environment where
  codes := ControlTables.sampleCodes
  link := fun _ => none
  inetAddr := fun _ => 0
  ipMskGwValidation := fun _ _ _ => false

/-- The server before its first request. -/
def sampleState : CgiState where
  web := zeroState
  account := ⟨ascii "admin", ascii "admin"⟩
  accountStatus := 0
  net := ⟨⟨0, 0, 0, 0⟩, 0, 0, 0, 0⟩
  rebootSet := false
  update := ⟨0, 0, [], false, 0⟩

/-- The fault of a request with a body, if it has one. -/
def bodyFault (cgi : Cgi) (body : String) : Option Fault :=
  match cgi.pfnCgiHandler sampleEnvironment (extractUriParameters (ascii body)) sampleState with
  | .ok _ => none
  | .error fault => some fault

/-- One body for each kind of fault: a name that is missing, a pair without an equals
sign, a name of seventy letters, a board and a port that no table has. -/
theorem bodies_fault :
    bodyFault .eth "board=0&portno=0" = some .badIndex ∧
      bodyFault .opt "board&portno=0" = some .nullValue ∧
      bodyFault .update
        ("filename=01234567890123456789012345678901234567890123456789012345678901234567890" ++
          "&end=NULL") = some .overrun ∧
      bodyFault .opt "board=9&portno=0" = some .badBoard ∧
      bodyFault .e1 "board=0&portno=8&e1_switch=%E5%90%AF" = some .badPort := by
  decide

/-- Some registered handler does not survive some request of at most sixteen
parameters. -/
theorem handlers_not_always_safe :
    ¬ ∀ (cgi : Cgi) (env : Environment) (params : List Param) (state : CgiState),
      params.length ≤ 16 → Safe (cgi.pfnCgiHandler env params state) := by
  intro safe
  have fault := bodies_fault.1
  obtain ⟨result, survived⟩ := safe .eth sampleEnvironment
    (extractUriParameters (ascii "board=0&portno=0")) sampleState (by decide)
  rw [bodyFault, survived] at fault
  cases fault

end UcosProxy.CgiSafety
