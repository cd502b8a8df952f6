import UcosProxy.BoardsPage
import UcosProxy.CgiSafety
import UcosProxy.PortArrays
import UcosProxy.Runs
import UcosProxy.TagScan

/-!
# The outcome that a configuration request is told

A configuration request runs its handler, which leaves the outcome in one variable of
its page, and is answered with a small file with a tag. The tag stays in what is sent,
and the text of that variable stands behind it. The text is made when `http_send_data`
parses the tag. When the send buffer has no room that is a later callback, and other
handlers may have run in between.

A response keeps as history which page was configured and the text that the variable
had behind its own handler. What it is told is that text as long as no other handler
of the same page leaves another outcome while the tag is still to come. Handlers of
other pages have variables of their own.

The files that are sent stay a parameter; a status tag may stand in them at any place
and any number of times.
-/

namespace UcosProxy.OutcomeTexts

open Bytes Runs UriParameters CgiAccess ControlTables PortArrays PortCgi CgiHandlers CgiSafety
  BoardsPage TagScan

/-- `SUCCESS_STR` -/
def successStr : List Byte := ascii "success"

/-- `FAIL_STR` -/
def failStr : List Byte := ascii "fail"

/-- `INCORRECT_STR` -/
def incorrectStr : List Byte := ascii "incorrect"

/-- `opt_config_status_ssi_handler` -/
def optConfigStatusSsiHandler (state : CgiState) : List Byte :=
  if state.web.optConfigState < 0 then failStr else successStr

/-- `eth_config_status_ssi_handler` -/
def ethConfigStatusSsiHandler (state : CgiState) : List Byte :=
  if state.web.ethConfigState < 0 then failStr else successStr

/-- `e1_config_status_ssi_handler` -/
def e1ConfigStatusSsiHandler (state : CgiState) : List Byte :=
  if state.web.e1ConfigState < 0 then failStr else successStr

/-- `net_config_status_ssi_handler` -/
def netConfigStatusSsiHandler (state : CgiState) : List Byte :=
  if state.net.netConfigStatus = 0 then successStr else failStr

/-- `account_status_ssi_handler`. Any status but the two of a failure is a success. -/
def accountStatusSsiHandler (state : CgiState) : List Byte :=
  if state.accountStatus = 1 then failStr
  else if state.accountStatus = 2 then incorrectStr
  else successStr

/-- The pages whose requests configure something. Each of them has a status of its own, and
a page that shows it. -/
inductive Config where
  | opt
  | eth
  | e1
  | net
  | account
deriving DecidableEq

/-- The handler that fills in the outcome of a page. -/
def Config.handler : Config → SsiHandler
  | .opt => .optConfigStatus
  | .eth => .ethConfigStatus
  | .e1 => .e1ConfigStatus
  | .net => .netConfigStatus
  | .account => .accountStatus

/-- The outcome of a page as it would be told now. -/
def Config.text (state : CgiState) : Config → List Byte
  | .opt => optConfigStatusSsiHandler state
  | .eth => ethConfigStatusSsiHandler state
  | .e1 => e1ConfigStatusSsiHandler state
  | .net => netConfigStatusSsiHandler state
  | .account => accountStatusSsiHandler state

/-- What a request configures. With fewer than two parameters the port and network
pages are read, while the account page refuses. -/
def configOf (cgi : Cgi) (params : List Param) : Option Config :=
  match cgi with
  | .opt => if params.length < 2 then none else some .opt
  | .eth => if params.length < 2 then none else some .eth
  | .e1 => if params.length < 2 then none else some .e1
  | .net => if params.length < 2 then none else some .net
  | .account => some .account
  | _ => none

/-- A configuration and the text of its outcome. What a request was told is right when it is
this, of its own configuration and its own result. -/
structure Outcome where
  config : Config
  text : List Byte
deriving DecidableEq

/-- A response on its way: what is left to parse, the outcome of its own handler if it
configured something, and the texts of that page that it was told. -/
structure Response where
  rest : List Byte
  state : TagState
  own : Option Outcome
  told : List (List Byte)

/-- The state of the handlers and the responses of all connections. The status variables are
shared by the handlers of all requests, and the responses are sent a piece at a time. -/
structure Serving where
  cgi : CgiState
  responses : List Response

/-- What can happen between two bytes of a response. The pieces of one response may have
other requests between them. -/
inductive Event where
  /-- A connection's request runs its handler. -/
  | request (cgi : Cgi) (env : Environment) (params : List Param)
  /-- `http_send_data` parses one more byte of a response. -/
  | send (response : Nat)
  /-- A connection with a response on its way goes down. -/
  | close (response : Nat)
  /-- The tag of another page reads the panel, the boards or the ports. -/
  | read (reader : Reader) (codes : Codes) (link : Link)

/-- A response behind its next byte. -/
def Response.parse (cgi : CgiState) (response : Response) (byte : Byte) : Response where
  rest := response.rest.tail
  state := (scanByte response.state byte).1
  own := response.own
  told :=
    match response.own, (scanByte response.state byte).2.bind findSsi with
    | some own, some handler =>
      if handler = own.config.handler then response.told ++ [own.config.text cgi] else response.told
    | _, _ => response.told

section serving
variable (files : String → List Byte)

/-- The response to a request behind its handler. -/
def respond (cgi : Cgi) (params : List Param) (page : String) (after : CgiState) : Response where
  rest := files page
  state := .none
  own := (configOf cgi params).map fun config => ⟨config, config.text after⟩
  told := []

/-- One event. A handler that faults leaves no next state. -/
def step (serving : Serving) : Event → Option Serving
  | .request cgi env params =>
    match cgi.pfnCgiHandler env params serving.cgi with
    | .error _ => none
    | .ok (page, after) =>
      some ⟨after, serving.responses ++ [respond files cgi params page after]⟩
  | .send index =>
    serving.responses[index]?.bind fun response =>
      response.rest.head?.map fun byte =>
        { serving with responses := serving.responses.set index (response.parse serving.cgi byte) }
  | .close index =>
    serving.responses[index]?.map fun response =>
      { serving with responses := serving.responses.set index { response with rest := [] } }
  | .read reader codes link =>
    let web := serving.cgi.web
    some { serving with
      cgi := { serving.cgi with
        web := { web with control := (reader.read codes link web.crRemoteChosen web.control).2 } } }

/-- Every response was told the outcome of its own handler and nothing else. It is asked of
all texts that a response was told, since a file may carry its tag more than once. -/
def OwnOutcome (serving : Serving) : Prop :=
  ∀ response ∈ serving.responses, ∀ own ∈ response.own, ∀ text ∈ response.told, text = own.text

instance (serving : Serving) : Decidable (OwnOutcome serving) :=
  inferInstanceAs (Decidable (∀ response ∈ serving.responses, ∀ own ∈ response.own,
    ∀ text ∈ response.told, text = own.text))

/-- The status tag of a response is still to come. A response whose file names no status tag
never waits. -/
def Response.Waits (response : Response) (config : Config) : Prop :=
  ∃ tag ∈ scanTags response.state response.rest, findSsi tag = some config.handler

instance (response : Response) (config : Config) : Decidable (response.Waits config) :=
  inferInstanceAs (Decidable (∃ tag ∈ scanTags response.state response.rest, _))

/-- A handler leaves no other outcome for a page whose earlier request still waits to be
told. -/
def LeavesOutcomes (serving : Serving) : Event → Prop
  | .request cgi env params =>
    ∀ config ∈ configOf cgi params, ∀ response ∈ serving.responses, ∀ own ∈ response.own,
      own.config = config → response.Waits config →
        ∀ served ∈ (cgi.pfnCgiHandler env params serving.cgi).toOption,
          config.text served.2 = own.text
  | _ => True

instance (serving : Serving) : ∀ event, Decidable (LeavesOutcomes serving event)
  | .request _ _ _ => inferInstanceAs (Decidable (∀ config ∈ _, ∀ response ∈ _, ∀ own ∈ _, _))
  | .send _ => isTrue trivial
  | .close _ => isTrue trivial
  | .read _ _ _ => isTrue trivial

/-! ## Handlers and the outcomes of other pages -/

/-- The handlers of the port pages and of the choice of a side leave the account and the
network alone. -/
theorem overWeb_ok {served : WebState → Except Fault Served} {state after : CgiState}
    {page : String} (handled : overWeb served state = .ok (page, after)) :
    ∃ result, served state.web = .ok result ∧ after = { state with web := result.web } := by
  obtain ⟨result, serves, same⟩ := bind_eq_ok.mp handled
  obtain ⟨_, rfl⟩ := Prod.mk.inj (Except.ok.inj same)
  exact ⟨result, serves, rfl⟩

/-- The choice of a side changes no outcome. -/
theorem centRmt_states {params : List Param} {web : WebState} {result : Served}
    (served : centRmtCgiInterface params web = .ok result) :
    result.web.optConfigState = web.optConfigState ∧
      result.web.ethConfigState = web.ethConfigState ∧
      result.web.e1ConfigState = web.e1ConfigState := by
  simp only [centRmtCgiInterface] at served
  split at served
  · obtain rfl := Except.ok.inj served
    exact ⟨rfl, rfl, rfl⟩
  · obtain ⟨side, _, same⟩ := bind_eq_ok.mp served
    obtain rfl := Except.ok.inj same
    exact ⟨rfl, rfl, rfl⟩

/-- The optical page changes its own outcome at most, and only for a configuration. -/
theorem opt_states {codes : Codes} {link : Link} {params : List Param} {web : WebState}
    {result : Served} (served : optCgiInterface codes link params web = .ok result) :
    (params.length < 2 → result.web.optConfigState = web.optConfigState) ∧
      result.web.ethConfigState = web.ethConfigState ∧
      result.web.e1ConfigState = web.e1ConfigState := by
  simp only [optCgiInterface] at served
  split at served
  case isTrue =>
    obtain rfl := Except.ok.inj served
    exact ⟨fun _ => rfl, rfl, rfl⟩
  case isFalse long =>
    obtain ⟨configured, _, same⟩ := bind_eq_ok.mp served
    obtain rfl := Except.ok.inj same
    exact ⟨fun short => absurd short long, rfl, rfl⟩

/-- The Ethernet page changes its own outcome at most, and only for a configuration. -/
theorem eth_states {codes : Codes} {link : Link} {params : List Param} {web : WebState}
    {result : Served} (served : ethCgiInterface codes link params web = .ok result) :
    (params.length < 2 → result.web.ethConfigState = web.ethConfigState) ∧
      result.web.optConfigState = web.optConfigState ∧
      result.web.e1ConfigState = web.e1ConfigState := by
  simp only [ethCgiInterface] at served
  split at served
  case isTrue =>
    obtain rfl := Except.ok.inj served
    exact ⟨fun _ => rfl, rfl, rfl⟩
  case isFalse long =>
    obtain ⟨ge, _, further⟩ := bind_eq_ok.mp served
    obtain ⟨configured, _, same⟩ := bind_eq_ok.mp further
    obtain rfl := Except.ok.inj same
    exact ⟨fun short => absurd short long, rfl, rfl⟩

/-- The E1 page changes its own outcome at most, and only for a configuration. -/
theorem e1_states {codes : Codes} {link : Link} {params : List Param} {web : WebState}
    {result : Served} (served : e1CgiInterface codes link params web = .ok result) :
    (params.length < 2 → result.web.e1ConfigState = web.e1ConfigState) ∧
      result.web.optConfigState = web.optConfigState ∧
      result.web.ethConfigState = web.ethConfigState := by
  simp only [e1CgiInterface] at served
  split at served
  case isTrue =>
    obtain rfl := Except.ok.inj served
    exact ⟨fun _ => rfl, rfl, rfl⟩
  case isFalse long =>
    obtain ⟨configured, _, same⟩ := bind_eq_ok.mp served
    obtain rfl := Except.ok.inj same
    exact ⟨fun short => absurd short long, rfl, rfl⟩

/-- The account page leaves the ports and the network alone. -/
theorem account_parts (env : Environment) {params : List Param} {state after : CgiState}
    {page : String} (handled : accountCgiInterface env params state = .ok (page, after)) :
    after.web = state.web ∧ after.net = state.net := by
  simp only [accountCgiInterface] at handled
  split at handled
  · obtain ⟨_, rfl⟩ := Prod.mk.inj (Except.ok.inj handled)
    exact ⟨rfl, rfl⟩
  · obtain ⟨same, _, branch⟩ := bind_eq_ok.mp handled
    split at branch
    · obtain ⟨_, rfl⟩ := Prod.mk.inj (Except.ok.inj branch)
      exact ⟨rfl, rfl⟩
    · simp only [bind_eq_ok] at branch
      obtain ⟨_, _, _, _, _, _, _, _, stored⟩ := branch
      obtain ⟨_, rfl⟩ := Prod.mk.inj (Except.ok.inj stored)
      exact ⟨rfl, rfl⟩

/-- The network page leaves the ports and the account alone, and a reader of it changes
nothing. -/
theorem net_parts (env : Environment) {params : List Param} {state after : CgiState}
    {page : String} (handled : netCgiInterface env params state = .ok (page, after)) :
    after.web = state.web ∧ after.accountStatus = state.accountStatus ∧
      (params.length < 2 → after.net = state.net) := by
  simp only [netCgiInterface] at handled
  split at handled
  case isTrue =>
    obtain ⟨_, rfl⟩ := Prod.mk.inj (Except.ok.inj handled)
    exact ⟨rfl, rfl, fun _ => rfl⟩
  case isFalse long =>
    simp only [bind_eq_ok] at handled
    obtain ⟨_, _, _, _, _, _, _, _, branch⟩ := handled
    split at branch
    · obtain ⟨_, rfl⟩ := Prod.mk.inj (Except.ok.inj branch)
      exact ⟨rfl, rfl, fun short => absurd short long⟩
    · obtain ⟨_, rfl⟩ := Prod.mk.inj (Except.ok.inj branch)
      exact ⟨rfl, rfl, fun short => absurd short long⟩

/-- The update page leaves all outcomes alone. -/
theorem update_parts (env : Environment) {params : List Param} {state after : CgiState}
    {page : String} (handled : updateCgiInterface env params state = .ok (page, after)) :
    after.web = state.web ∧ after.net = state.net ∧ after.accountStatus = state.accountStatus := by
  simp only [updateCgiInterface] at handled
  split at handled
  · obtain ⟨_, rfl⟩ := Prod.mk.inj (Except.ok.inj handled)
    exact ⟨rfl, rfl, rfl⟩
  · simp only [bind_eq_ok] at handled
    obtain ⟨_, _, _, _, _, _, _, _, stored⟩ := handled
    obtain ⟨_, rfl⟩ := Prod.mk.inj (Except.ok.inj stored)
    exact ⟨rfl, rfl, rfl⟩

/-- A request to a port or network page that does not configure it has fewer than two
parameters. -/
theorem reads_of_others {params : List Param} {config : Config}
    (others : (if params.length < 2 then none else some config) ≠ some config) :
    params.length < 2 := by
  by_contra long
  exact others (if_neg long)

/-- A handler leaves the outcome of every page alone that its request does not configure. -/
theorem handler_text {cgi : Cgi} {env : Environment} {params : List Param} {state after : CgiState}
    {page : String} (handled : cgi.pfnCgiHandler env params state = .ok (page, after))
    (config : Config) (others : configOf cgi params ≠ some config) :
    config.text after = config.text state := by
  cases cgi with
  | login =>
    obtain ⟨_, rfl⟩ := Prod.mk.inj (Except.ok.inj handled)
    rfl
  | panel =>
    obtain ⟨_, rfl⟩ := Prod.mk.inj (Except.ok.inj handled)
    rfl
  | reboot =>
    simp only [Cgi.pfnCgiHandler, rebootCgiInterface] at handled
    split at handled
    · obtain ⟨_, rfl⟩ := Prod.mk.inj (Except.ok.inj handled)
      cases config <;> rfl
    · obtain ⟨_, rfl⟩ := Prod.mk.inj (Except.ok.inj handled)
      rfl
  | update =>
    obtain ⟨web, net, account⟩ := update_parts env handled
    cases config with
    | _ =>
      simp only [Config.text, optConfigStatusSsiHandler, ethConfigStatusSsiHandler,
        e1ConfigStatusSsiHandler, netConfigStatusSsiHandler, accountStatusSsiHandler, web, net, account]
  | account =>
    obtain ⟨web, net⟩ := account_parts env handled
    cases config with
    | account => exact absurd rfl others
    | _ =>
      simp only [Config.text, optConfigStatusSsiHandler, ethConfigStatusSsiHandler,
        e1ConfigStatusSsiHandler, netConfigStatusSsiHandler, web, net]
  | net =>
    obtain ⟨web, account, reads⟩ := net_parts env handled
    cases config with
    | net =>
      simp only [Config.text, netConfigStatusSsiHandler, reads (reads_of_others others)]
    | _ =>
      simp only [Config.text, optConfigStatusSsiHandler, ethConfigStatusSsiHandler,
        e1ConfigStatusSsiHandler, accountStatusSsiHandler, web, account]
  | centRmt =>
    obtain ⟨result, served, rfl⟩ := overWeb_ok handled
    obtain ⟨opt, eth, e1⟩ := centRmt_states served
    cases config with
    | _ =>
      simp only [Config.text, optConfigStatusSsiHandler, ethConfigStatusSsiHandler,
        e1ConfigStatusSsiHandler, netConfigStatusSsiHandler, accountStatusSsiHandler, opt, eth, e1]
  | opt =>
    obtain ⟨result, served, rfl⟩ := overWeb_ok handled
    obtain ⟨reads, eth, e1⟩ := opt_states served
    cases config with
    | opt =>
      simp only [Config.text, optConfigStatusSsiHandler, reads (reads_of_others others)]
    | _ =>
      simp only [Config.text, ethConfigStatusSsiHandler, e1ConfigStatusSsiHandler,
        netConfigStatusSsiHandler, accountStatusSsiHandler, eth, e1]
  | eth =>
    obtain ⟨result, served, rfl⟩ := overWeb_ok handled
    obtain ⟨reads, opt, e1⟩ := eth_states served
    cases config with
    | eth =>
      simp only [Config.text, ethConfigStatusSsiHandler, reads (reads_of_others others)]
    | _ =>
      simp only [Config.text, optConfigStatusSsiHandler, e1ConfigStatusSsiHandler,
        netConfigStatusSsiHandler, accountStatusSsiHandler, opt, e1]
  | e1 =>
    obtain ⟨result, served, rfl⟩ := overWeb_ok handled
    obtain ⟨reads, opt, eth⟩ := e1_states served
    cases config with
    | e1 =>
      simp only [Config.text, e1ConfigStatusSsiHandler, reads (reads_of_others others)]
    | _ =>
      simp only [Config.text, optConfigStatusSsiHandler, ethConfigStatusSsiHandler,
        netConfigStatusSsiHandler, accountStatusSsiHandler, opt, eth]

/-! ## The law -/

/-- What a response can rely on between two steps: it was told its own outcome, and the
variable of its page still says so as long as the tag is to come. A page that was not
configured by this response relies on nothing. -/
structure Response.Kept (cgi : CgiState) (response : Response) : Prop where
  told : ∀ own ∈ response.own, ∀ text ∈ response.told, text = own.text
  current : ∀ own ∈ response.own, response.Waits own.config → own.config.text cgi = own.text

/-- Every response is kept. -/
def Kept (serving : Serving) : Prop :=
  ∀ response ∈ serving.responses, response.Kept serving.cgi

/-- The next byte of a response tells it what its variable says. -/
theorem Response.Kept.parse {cgi : CgiState} {response : Response} {byte : Byte} {rest : List Byte}
    (kept : response.Kept cgi) (bytes : response.rest = byte :: rest) :
    (response.parse cgi byte).Kept cgi := by
  have tail : response.rest.tail = rest := congrArg List.tail bytes
  constructor
  · intro own known text member
    have known : response.own = some own := known
    simp only [Response.parse, known] at member
    cases found : (scanByte response.state byte).2.bind findSsi with
    | none =>
      simp only [found] at member
      exact kept.told own known text member
    | some handler =>
      simp only [found] at member
      by_cases status : handler = own.config.handler
      · rw [if_pos status] at member
        rcases List.mem_append.mp member with earlier | new
        · exact kept.told own known text earlier
        · obtain ⟨tag, completed, sent⟩ := Option.bind_eq_some_iff.mp found
          have waits : response.Waits own.config := by
            refine ⟨tag, ?_, by rw [sent, status]⟩
            rw [bytes, scanTags_cons_some rest (Prod.ext rfl completed)]
            exact List.mem_cons_self
          rw [List.mem_singleton.mp new]
          exact kept.current own known waits
      · rw [if_neg status] at member
        exact kept.told own known text member
  · intro own known ⟨tag, later, found⟩
    refine kept.current own known ⟨tag, ?_, found⟩
    simp only [Response.parse, tail] at later
    rw [bytes]
    cases completed : (scanByte response.state byte).2 with
    | none =>
      rw [scanTags_cons_none rest (Prod.ext rfl completed)]
      exact later
    | some other =>
      rw [scanTags_cons_some rest (Prod.ext rfl completed)]
      exact List.mem_cons_of_mem _ later

/-- Every event keeps the responses when no handler leaves another outcome for them. -/
theorem Kept.keeps (serving : Serving) (event : Event) (next : Serving) (kept : Kept serving)
    (leaves : LeavesOutcomes serving event) (taken : step files serving event = some next) :
    Kept next := by
  cases event with
  | request cgi env params =>
    simp only [step] at taken
    cases handled : cgi.pfnCgiHandler env params serving.cgi with
    | error fault => simp [handled] at taken
    | ok served =>
      obtain ⟨page, after⟩ := served
      simp only [handled] at taken
      obtain rfl := Option.some.inj taken
      intro response member
      rcases List.mem_append.mp member with earlier | new
      · have before := kept response earlier
        refine ⟨before.told, fun own known waits => ?_⟩
        by_cases same : configOf cgi params = some own.config
        · exact leaves own.config same response earlier own known rfl waits (page, after)
            (by rw [handled]; rfl)
        · exact (handler_text handled own.config same).trans (before.current own known waits)
      · obtain rfl := List.mem_singleton.mp new
        refine ⟨fun _ _ _ told => (List.not_mem_nil told).elim, fun own known _ => ?_⟩
        obtain ⟨config, _, rfl⟩ := Option.map_eq_some_iff.mp known
        rfl
  | send index =>
    obtain ⟨response, here, parsed⟩ := Option.bind_eq_some_iff.mp taken
    obtain ⟨byte, first, rfl⟩ := Option.map_eq_some_iff.mp parsed
    obtain ⟨rest, bytes⟩ := List.head?_eq_some_iff.mp first
    intro other member
    rcases List.mem_or_eq_of_mem_set member with before | rfl
    · exact kept other before
    · exact (kept response (List.mem_of_getElem? here)).parse bytes
  | close index =>
    obtain ⟨response, here, rfl⟩ := Option.map_eq_some_iff.mp taken
    intro other member
    rcases List.mem_or_eq_of_mem_set member with before | rfl
    · exact kept other before
    · refine ⟨(kept response (List.mem_of_getElem? here)).told, fun own _ ⟨tag, later, _⟩ => ?_⟩
      cases later
  | read reader codes link =>
    obtain rfl := Option.some.inj taken
    intro response member
    have before := kept response member
    refine ⟨before.told, fun own known waits => ?_⟩
    have same := before.current own known waits
    cases config : own.config with
    | _ =>
      rw [config] at same
      exact same

/-- No request was served yet. -/
def unserved (cgi : CgiState) : Serving := ⟨cgi, []⟩

/-- For every interleaving of requests, byte-wise responses and reads: a configuration
request is told the outcome of its own handler and no other, as long as no handler of the
same page leaves another outcome while an earlier response of that page still waits for its
tag. The condition is on the requests alone: reads, closed connections and responses of
other pages may come at any time. That it cannot be dropped is shown below. -/
theorem outcomes_are_own (cgi : CgiState) (events : List Event)
    (leaves : Guarded (step files) LeavesOutcomes (unserved cgi) events) :
    Always (step files) OwnOutcome (unserved cgi) events :=
  always_of_guarded Kept OwnOutcome
    (fun _ kept response member own known => (kept response member).told own known)
    (Kept.keeps files) (fun _ member => by cases member) events leaves

end serving

/-- `assets/ajax/account.ajax`, whatever page is asked for. -/
def accountFile : String → List Byte := fun _ => ascii "\n<!--#account_status-->\n"

/-- A request to the account page. -/
def accountRequest (body : String) : Event :=
  .request .account sampleEnvironment (extractUriParameters (ascii body))

/-- A change of the account. -/
def changeAccount : Event :=
  accountRequest "cur_user=admin&cur_passwd=admin&new_user=user&new_passwd=pass"

/-- A request with the wrong password. -/
def wrongAccount : Event :=
  accountRequest "cur_user=user&cur_passwd=wrong&new_user=root&new_passwd=root"

/-- The first response is told its outcome before the second request is served. -/
def inTurn : List Event :=
  [changeAccount] ++ List.replicate 24 (.send 0) ++ [wrongAccount] ++ List.replicate 24 (.send 1)

/-- The run rule on two requests with different outcomes that do not overlap. -/
theorem inTurn_own :
    Always (step accountFile) OwnOutcome (unserved sampleState) inTurn ∧
      (run (step accountFile) (unserved sampleState) inTurn).map
        (fun serving => serving.responses.map Response.told) = some [[successStr], [incorrectStr]] :=
  ⟨outcomes_are_own accountFile sampleState inTurn (by decide), by decide⟩

/-- The guard cannot be dropped: the next byte that completes the tag tells whatever the
variable of the page says. -/
theorem other_outcome_is_told (files : String → List Byte) (serving : Serving) (response : Response)
    (index : Nat) (byte : Byte) (rest tag : List Byte) (own : Outcome)
    (here : serving.responses[index]? = some response) (bytes : response.rest = byte :: rest)
    (completes : (scanByte response.state byte).2 = some tag) (known : response.own = some own)
    (status : findSsi tag = some own.config.handler)
    (differs : own.config.text serving.cgi ≠ own.text) :
    ∃ next, step files serving (.send index) = some next ∧ ¬ OwnOutcome next := by
  have stepped : step files serving (.send index) =
      some { serving with
        responses := serving.responses.set index (response.parse serving.cgi byte) } := by
    simp only [step, here, Option.bind_some, bytes, List.head?_cons, Option.map_some]
  refine ⟨_, stepped, ?_⟩
  intro outcomes
  have inside : index < serving.responses.length := (List.getElem?_eq_some_iff.mp here).choose
  have told : own.config.text serving.cgi ∈ (response.parse serving.cgi byte).told := by
    simp only [Response.parse, known, completes, Option.bind_some, status, if_true]
    exact List.mem_append_right _ (List.mem_singleton.mpr rfl)
  exact differs (outcomes _ (List.mem_set inside _) own known _ told)

/-- The second request is served before the first response is told. -/
def overlapping : List Event := [changeAccount, wrongAccount] ++ List.replicate 24 (.send 0)

/-- The first response is told the outcome of the second request. -/
theorem overlapping_told :
    (run (step accountFile) (unserved sampleState) overlapping).map
      (fun serving => decide (OwnOutcome serving)) = some false := by
  decide

/-- Some request is told the outcome of another. -/
theorem outcomes_are_not_always_own :
    ¬ ∀ (files : String → List Byte) (cgi : CgiState) (events : List Event),
      Always (step files) OwnOutcome (unserved cgi) events := by
  intro own
  obtain ⟨final, completed, fails⟩ := Option.map_eq_some_iff.mp overlapping_told
  have holds : OwnOutcome final :=
    always_final (own accountFile sampleState overlapping) completed
  exact of_decide_eq_false fails holds

end UcosProxy.OutcomeTexts
