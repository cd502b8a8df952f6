import UcosProxy.FileTable
import UcosProxy.HttpClient
import UcosProxy.HttpPost

/-!
# The web server with all its connections

The receive side of `httpd.c` with many connections and the send side with one file each,
put together over the table of open files. A chain that completes a request has its file
looked for, which takes an entry of the table while one is free, and the first bytes of the
response are sent at once. `http_sent` and `http_poll` send the rest. A connection ends with
its response, with the peer's close or reset, with a request that is refused, and with its
fourth poll in a row. Each way out gives its entry back.

A connection whose response has no file, the built-in error page, takes the next request
before that page is out, and drops the rest of it.

Each event comes with the control block and the world as they are when the tags and the CGI
handlers are called. A connection that could not be closed is polled again with no state to
its name, through which `http_close_conn` reads: such a poll has no next state here. What
`tcp_recved` is told and the pbufs' lives are left out.

What was asked for, the response it has, and the responses that are over are history.
-/

namespace UcosProxy.HttpServer

open Bytes TagScan Runs HttpSend Holdings

/-- History: what was asked for, if anything, with whether it was by HTTP/0.9, whether no
entry of the table was free then, and the response it has. -/
structure Exchange where
  asked : Option (List Byte × Bool)
  full : Bool
  response : Response

/-- A connection as it sends. The receiving half of it is kept beside the other connections,
under the same number. -/
structure Connection (Pcb World : Type) where
  scene : Scene Pcb World
  /-- The entry of the table that `handle` points to. -/
  entry : Option (Fin maxOpenFiles)
  exchange : Exchange

/-- History: a response that is over, or that another one has taken the place of. It keeps
what the client was sent, so that the law can speak of responses whose connection is gone. -/
structure Past (Pcb World : Type) where
  number : Nat
  exchange : Exchange
  outcome : Outcome Pcb World

/-- Both halves of every connection, and the table of open files. A step of either half
leaves the other one of the connection in agreement with it, which is an invariant and not a
definition. -/
structure Server (Pcb World : Type) where
  post : HttpPost.Server
  connections : Nat → Option (Connection Pcb World)
  memory : FsMemory
  past : List (Past Pcb World)

/-- The server at its start. -/
def httpdInit {Pcb World : Type} : Server Pcb World where
  post := HttpPost.fresh
  connections := fun _ => none
  memory := fun _ => false
  past := []

/-- The calls of the stack. Each brings the control block and the handlers' world as they
are by then, since other threads may have changed both. -/
inductive Event (Pcb World : Type) where
  /-- `http_accept`, and whether there is memory for a connection -/
  | accept (number : Nat) (allocated : Bool) (pcb : Pcb) (world : World)
  /-- `http_recv`, with what the handler of a POST returns should it be called -/
  | recv (number : Nat) (chain : List (List Byte)) (response : List Byte) (pcb : Pcb) (world : World)
  /-- `http_sent` -/
  | sent (number : Nat) (pcb : Pcb) (world : World)
  /-- `http_poll` -/
  | poll (number : Nat) (pcb : Pcb) (world : World)
  /-- `http_err` -/
  | err (number : Nat)

/-- A request line without a second space. -/
def isV09 (queue : List (List Byte)) : Bool :=
  let data := HttpPost.requestData queue
  (strnstr [32] (data.length - 4) (data.drop 4)).isNone

/-- The file that a finished POST asks for. -/
def postFinished (behind : HttpPost.HttpState) : Option (List Byte × Bool) :=
  if behind.postContentLenLeft = 0 then
    some ((behind.responseFile.getD []).take HttpPost.maxResponseUriLen, false)
  else none

/-- What `http_recv` calls `http_find_file` with for a chain, if it does. -/
def askedFor (site : HttpPost.Site) (hs : HttpPost.HttpState) (chain : List (List Byte))
    (behind : HttpPost.HttpState) : Option (List Byte × Bool) :=
  if 0 < hs.postContentLenLeft then postFinished behind
  else if hs.sending then none
  else
    match HttpPost.httpParseRequest (hs.req ++ chain) with
    | .inProgress | .refused => none
    | .file uri => some (uri, isV09 (hs.req ++ chain))
    | .post uri _ _ =>
      if (HttpPost.httpdPostBegin site uri hs).2 then postFinished behind else some ([], false)

section server
variable {Pcb World : Type} (tcp : Tcp Pcb) (ssi : Ssi World) (cgis : Cgis World) (image : Image)

/-- `http_state_free`, and the end of the connection. The entry of the open file is given
back on every way out, and what the client was sent goes to the history. -/
def Server.close (server : Server Pcb World) (number : Nat) (connection : Connection Pcb World)
    (outcome : Outcome Pcb World) : Server Pcb World where
  post := server.post.remove number
  connections := Function.update server.connections number none
  memory :=
    match connection.entry with
    | some entry => fsFree server.memory entry
    | none => server.memory
  past := server.past ++ [⟨number, connection.exchange, outcome⟩]

/-- What a call that sends leaves of a connection. -/
def Server.settle (server : Server Pcb World) (number : Nat) (connection : Connection Pcb World)
    (outcome : Outcome Pcb World) : Server Pcb World :=
  match outcome.ended with
  | some _ => server.close number connection outcome
  | none =>
    { server with
      connections := Function.update server.connections number
        (some { connection with scene := outcome.scene }) }

/-- The connection that `http_find_file` leaves. -/
def Connection.opened (connection : Connection Pcb World) (memory : FsMemory)
    (asked : List Byte × Bool) (pcb : Pcb) (world : World) : Connection Pcb World :=
  let found :=
    httpFindFile (fsOpenIn image memory) cgis connection.scene.hs world asked.1 asked.2
  { scene := ⟨found.1, pcb, found.2, [], []⟩
    entry := (openNames image memory (namesFor cgis world asked.1)).1.map Prod.snd
    exchange := ⟨some asked, decide (fsMalloc memory = none), found.1.response⟩ }

/-- The file is looked for and takes its entry. -/
def Server.find (server : Server Pcb World) (number : Nat) (connection : Connection Pcb World)
    (asked : List Byte × Bool) (pcb : Pcb) (world : World) : Server Pcb World :=
  { server with
    connections := Function.update server.connections number
      (some (connection.opened cgis image server.memory asked pcb world))
    memory := (openNames image server.memory (namesFor cgis world asked.1)).2
    past := server.past ++ [⟨number, connection.exchange, ⟨connection.scene, none, false⟩⟩] }

/-- `http_find_file`, and the first call of `http_send_data`. The response has its first
call before the next event. -/
def Server.answer (server : Server Pcb World) (number : Nat) (connection : Connection Pcb World)
    (asked : List Byte × Bool) (pcb : Pcb) (world : World) : Server Pcb World :=
  let opened := connection.opened cgis image server.memory asked pcb world
  (server.find cgis image number connection asked pcb world).settle number opened
    (httpSendData tcp ssi opened.scene)

/-- Body bytes of a POST set the retries back. -/
def Connection.fed (connection : Connection Pcb World) (hs : HttpPost.HttpState) :
    Connection Pcb World :=
  if 0 < hs.postContentLenLeft then
    { connection with
      scene := { connection.scene with hs := { connection.scene.hs with retries := 0 } } }
  else connection

/-- The CGI names, and which URIs have a file that can be opened by now. -/
def Server.site (server : Server Pcb World) (world : World) : HttpPost.Site where
  cgiNames := cgis.names
  opens := fun uri =>
    (openFirst (fsOpenIn image server.memory) (namesFor cgis world uri)).isSome

/-- `http_recv`. What the receiving half makes of the chain decides: the connection is gone,
or has a request to answer, or waits for more. -/
def Server.recv (server : Server Pcb World) (number : Nat) (connection : Connection Pcb World)
    (hs : HttpPost.HttpState) (chain : List (List Byte)) (response : List Byte) (pcb : Pcb)
    (world : World) : Option (Server Pcb World) :=
  let site := server.site cgis image world
  (HttpPost.step site server.post (.recv number chain response)).map fun post =>
    let received := { server with post := post }
    match post.connections number with
    | none => received.close number connection ⟨connection.scene, none, false⟩
    | some behind =>
      match askedFor site hs chain behind with
      | some asked => received.answer tcp ssi cgis image number connection asked pcb world
      | none => { received with
          connections := Function.update server.connections number (some (connection.fed hs)) }

/-- One call of the stack. -/
def step (server : Server Pcb World) : Event Pcb World → Option (Server Pcb World)
  | .accept number allocated pcb world =>
    match server.connections number, allocated with
    | some _, _ => none
    | none, false => some server
    | none, true =>
      (HttpPost.step (server.site cgis image world) server.post (.accept number)).map fun post =>
        { server with
          post := post
          connections := Function.update server.connections number
            (some ⟨⟨httpStateAlloc, pcb, world, [], []⟩, none, ⟨none, false, httpStateAlloc.response⟩⟩) }
  | .recv number chain response pcb world =>
    match server.connections number, server.post.connections number with
    | some connection, some hs =>
      server.recv tcp ssi cgis image number connection hs chain response pcb world
    | _, _ => none
  | .sent number pcb world =>
    match server.connections number with
    | none => none
    | some connection =>
      (HttpSend.step tcp ssi ⟨connection.scene, none, false⟩ (.sent pcb world)).map
        (server.settle number connection)
  | .poll number pcb world =>
    match server.connections number with
    | none => none
    | some connection =>
      (HttpSend.step tcp ssi ⟨connection.scene, none, false⟩ (.poll pcb world)).map
        (server.settle number connection)
  | .err number =>
    (server.connections number).map fun connection =>
      server.close number connection ⟨connection.scene, none, false⟩

end server

/-! ## What sending leaves alone -/

section standing
variable {Pcb World : Type} (tcp : Tcp Pcb) (ssi : Ssi World) {turn behind : Turn Pcb World}

/-- The file and the retries of a connection. -/
def standing (hs : HttpState) : Option FsFile × Nat := (hs.handle, hs.retries)

theorem sendFile_standing (turn : Turn Pcb World) :
    standing (sendFile tcp turn).scene.hs = standing turn.scene.hs := by
  have sent := fileSent tcp turn
  generalize sendFile tcp turn = behind at sent
  cases sent <;> rfl

theorem sendInsert_standing (turn : Turn Pcb World) :
    standing (sendInsert tcp turn).scene.hs = standing turn.scene.hs := by
  have sent := insertSent tcp turn
  generalize sendInsert tcp turn = behind at sent
  cases sent <;> rfl

theorem tagNone_standing (hs : HttpState) : standing (tagNone hs) = standing hs := by
  unfold tagNone
  split <;> rfl

theorem tagLeadin_standing (hs : HttpState) : standing (tagLeadin hs) = standing hs := by
  unfold tagLeadin
  split
  · rfl
  · split <;> rfl

theorem tagFound_standing (hs : HttpState) : standing (tagFound hs) = standing hs := by
  unfold tagFound
  repeat' split
  all_goals rfl

theorem tagComplete_standing (turn : Turn Pcb World) :
    standing (tagComplete tcp ssi turn).scene.hs = standing turn.scene.hs := by
  simp only [tagComplete]
  split
  · exact sendFile_standing tcp _
  · rfl

theorem tagLeadout_standing (turn : Turn Pcb World) :
    standing (tagLeadout tcp ssi turn).scene.hs = standing turn.scene.hs := by
  simp only [tagLeadout]
  split
  · rfl
  · split
    · split
      · exact tagComplete_standing tcp ssi turn
      · rfl
    · rfl

theorem tagSending_standing (turn : Turn Pcb World) :
    standing (tagSending tcp turn).scene.hs = standing turn.scene.hs := by
  simp only [tagSending]
  split
  · exact sendFile_standing tcp _
  · split
    · exact sendInsert_standing tcp _
    · rfl

theorem switchTag_standing (turn : Turn Pcb World) :
    standing (switchTag tcp ssi turn).scene.hs = standing turn.scene.hs := by
  unfold switchTag
  cases turn.scene.hs.tagState with
  | none => exact tagNone_standing _
  | leadin => exact tagLeadin_standing _
  | found => exact tagFound_standing _
  | leadout => exact tagLeadout_standing tcp ssi turn
  | sending => exact tagSending_standing tcp turn

theorem parseTags_standing (turn : Turn Pcb World) :
    standing (parseTags tcp ssi turn).1.scene.hs = standing turn.scene.hs := by
  fun_induction parseTags tcp ssi turn with
  | case1 => rfl
  | case2 turn _ _ inductionHypothesis =>
    exact inductionHypothesis.trans (switchTag_standing tcp ssi turn)
  | case3 => rfl

theorem parsePage_standing (turn : Turn Pcb World) :
    standing (parsePage tcp ssi turn).scene.hs = standing turn.scene.hs := by
  have parsed := parseTags_standing tcp ssi turn
  simp only [parsePage]
  split <;> rename_i behind same <;> rw [same] at parsed
  · exact parsed
  · split <;> rw [finishSending_scene]
    · exact (sendFile_standing tcp _).trans parsed
    · exact parsed

theorem sendPage_standing (turn : Turn Pcb World) :
    standing (sendPage tcp ssi turn).scene.hs = standing turn.scene.hs := by
  have first := sendFile_standing tcp { turn with
    len := roomFor tcp turn.scene.pcb (turn.scene.hs.parsed - turn.scene.hs.file) }
  simp only [sendPage]
  split
  · split
    · exact first
    · exact (parsePage_standing tcp ssi _).trans first
  · exact parsePage_standing tcp ssi _

theorem sendData_standing (turn : Turn Pcb World) :
    standing (sendData tcp ssi turn).scene.hs = standing turn.scene.hs := by
  simp only [sendData]
  split
  · rfl
  · split
    · rw [finishSending_scene]
      exact sendFile_standing tcp _
    · exact sendPage_standing tcp ssi turn

/-- The header strings are sent without regard to the page. -/
theorem sendHeader_page (turn : Turn Pcb World) :
    ∃ index pos, (sendHeader tcp turn).1.scene.hs =
      { turn.scene.hs with hdrIndex := index, hdrPos := pos } := by
  have moved : (sendHeader tcp turn).1.scene.hs =
      if turn.scene.hs.hdrPos + (sendHeader tcp turn).2 = turn.scene.hs.hdr.length then
        { turn.scene.hs with hdrIndex := turn.scene.hs.hdrIndex + 1, hdrPos := 0 }
      else { turn.scene.hs with hdrPos := turn.scene.hs.hdrPos + (sendHeader tcp turn).2 } := rfl
  rw [moved]
  split <;> exact ⟨_, _, rfl⟩

theorem sendHeaders_page (turn : Turn Pcb World) (sendlen : Nat) :
    ∃ index pos, (sendHeaders tcp turn sendlen).scene.hs =
      { turn.scene.hs with hdrIndex := index, hdrPos := pos } := by
  fun_induction sendHeaders tcp turn sendlen with
  | case1 turn => exact ⟨turn.scene.hs.hdrIndex, turn.scene.hs.hdrPos, rfl⟩
  | case2 turn sendlen going inductionHypothesis =>
    obtain ⟨index, pos, same⟩ := inductionHypothesis
    obtain ⟨_, _, first⟩ := sendHeader_page tcp turn
    exact ⟨index, pos, by rw [same, first]⟩

/-- `http_send_data` keeps the file and the retries. -/
theorem httpSendData_standing (scene : Scene Pcb World) :
    standing (httpSendData tcp ssi scene).scene.hs = standing scene.hs := by
  simp only [httpSendData]
  split
  · obtain ⟨_, _, headers⟩ :=
      sendHeaders_page tcp ⟨scene, tcp.sndbuf scene.pcb, .ok, false⟩ (tcp.sndbuf scene.pcb)
    split
    · rw [headers]
      rfl
    · rw [sendData_standing, headers]
      rfl
  · exact sendData_standing tcp ssi ⟨scene, 0, .ok, false⟩

/-- Without anything left of a file, the tag's buffer stays as it is. -/
theorem httpSendData_tagName (scene : Scene Pcb World) (left : scene.hs.left = 0) :
    (httpSendData tcp ssi scene).scene.hs.tagName = scene.hs.tagName := by
  simp only [httpSendData]
  split
  · obtain ⟨_, _, headers⟩ :=
      sendHeaders_page tcp ⟨scene, tcp.sndbuf scene.pcb, .ok, false⟩ (tcp.sndbuf scene.pcb)
    split
    · rw [headers]
    · rw [sendData, if_pos (by rw [headers]; exact left), headers]
  · rw [sendData, if_pos left]

end standing

/-! ## What a chain does to its connection -/

section receive
variable {site : HttpPost.Site} {post next : HttpPost.Server} {number : Nat}
  {hs behind : HttpPost.HttpState} {chain : List (List Byte)} {response : List Byte}

/-- Whether a file is open, behind a chain that asks for one or none. -/
def Opens (site : HttpPost.Site) (hs : HttpPost.HttpState) (asked : Option (List Byte × Bool))
    (behind : HttpPost.HttpState) : Prop :=
  match asked with
  | some asked =>
    hs.sending = false ∧ behind.sending = site.opens asked.1 ∧ behind.postContentLenLeft = 0
  | none => behind.sending = hs.sending ∧ (behind.sending = true → behind.postContentLenLeft = 0)

theorem httpdPostReceiveData_frame (server : HttpPost.Server) (hs : HttpPost.HttpState)
    (chain : List (List Byte)) (response : List Byte) :
    (HttpPost.httpdPostReceiveData server hs chain response).1.connections = server.connections ∧
      (HttpPost.httpdPostReceiveData server hs chain response).2.sending = hs.sending := by
  unfold HttpPost.httpdPostReceiveData
  split
  · exact ⟨rfl, rfl⟩
  · split
    · split <;> exact ⟨rfl, rfl⟩
    · exact ⟨rfl, rfl⟩

/-- Body bytes open a file exactly when they are the last ones. -/
theorem httpPostRxpbuf_opens (server : HttpPost.Server) (hs : HttpPost.HttpState)
    (idle : hs.sending = false) :
    ∃ behind, (HttpPost.httpPostRxpbuf site server number hs chain response).connections =
        Function.update server.connections number (some behind) ∧
      Opens site hs (postFinished behind) behind := by
  obtain ⟨received, ⟨connections, sending⟩, stored⟩ :
      ∃ received : HttpPost.Server × HttpPost.HttpState,
        (received.1.connections = server.connections ∧ received.2.sending = hs.sending) ∧
        (HttpPost.httpPostRxpbuf site server number hs chain response).connections =
          Function.update received.1.connections number
            (some (if received.2.postContentLenLeft = 0 then
              HttpPost.httpHandlePostFinished site received.2 else received.2)) :=
    ⟨HttpPost.httpdPostReceiveData
        { server with owner := if server.payloadLen = 0 then hs.request else server.owner }
        (HttpPost.countChain hs chain) chain response,
      httpdPostReceiveData_frame _ (HttpPost.countChain hs chain) chain response, rfl⟩
  refine ⟨_, by rw [stored, connections], ?_⟩
  by_cases last : received.2.postContentLenLeft = 0
  · rw [if_pos last]
    have finished : postFinished (HttpPost.httpHandlePostFinished site received.2) =
        some ((received.2.responseFile.getD []).take HttpPost.maxResponseUriLen, false) := if_pos last
    rw [finished]
    exact ⟨idle, rfl, last⟩
  · rw [if_neg last, postFinished, if_neg last]
    exact ⟨sending, fun open_ => Bool.noConfusion (idle.symm.trans (sending.symm.trans open_))⟩

/-- A POST that is taken keeps its connection's file and length. -/
theorem httpdPostBegin_frame (site : HttpPost.Site) (uri : List Byte) (hs : HttpPost.HttpState) :
    (HttpPost.httpdPostBegin site uri hs).1.sending = hs.sending ∧
      (HttpPost.httpdPostBegin site uri hs).1.postContentLenLeft = hs.postContentLenLeft := by
  unfold HttpPost.httpdPostBegin
  split
  · exact ⟨rfl, rfl⟩
  · split <;> exact ⟨rfl, rfl⟩

/-- A POST has a length. -/
theorem httpPostRequest_length {data uri name : List Byte} {uriEnd headerLen contentLen : Nat}
    (parsed : HttpPost.httpPostRequest data uri uriEnd = .post name headerLen contentLen) :
    0 < contentLen := by
  simp only [HttpPost.httpPostRequest] at parsed
  split at parsed
  · cases parsed
  · split at parsed
    · cases parsed
    · split at parsed
      · cases parsed
      · split at parsed
        · rename_i positive
          obtain ⟨_, _, rfl⟩ := HttpPost.Parsed.post.inj parsed
          omega
        · cases parsed

theorem httpQueued_ne_post (queue : List (List Byte)) (name : List Byte) (headerLen contentLen : Nat) :
    HttpPost.httpQueued queue ≠ .post name headerLen contentLen := by
  unfold HttpPost.httpQueued
  split <;> exact HttpPost.Parsed.noConfusion

theorem httpParseRequest_length {queue : List (List Byte)} {name : List Byte}
    {headerLen contentLen : Nat}
    (parsed : HttpPost.httpParseRequest queue = .post name headerLen contentLen) :
    0 < contentLen := by
  have uriParsed {data : List Byte} {methodEnd : Nat} {isPost : Bool}
      (found : HttpPost.httpParseUri data methodEnd isPost queue = .post name headerLen contentLen) :
      0 < contentLen := by
    unfold HttpPost.httpParseUri at found
    simp only at found
    split at found
    · split at found
      · exact httpPostRequest_length found
      · cases found
    · split at found
      · cases found
      · split at found
        · cases found
        · exact absurd found (httpQueued_ne_post _ _ _ _)
  unfold HttpPost.httpParseRequest at parsed
  simp only at parsed
  split at parsed
  · exact absurd parsed (httpQueued_ne_post _ _ _ _)
  · split at parsed
    · exact absurd parsed (httpQueued_ne_post _ _ _ _)
    · split at parsed
      · exact uriParsed parsed
      · split at parsed
        · exact uriParsed parsed
        · cases parsed

/-- A chain ends its connection, or changes it and no other. It opens a file exactly when
one is asked for and can be opened. -/
theorem recv_opens (there : post.connections number = some hs)
    (idle : hs.sending = true → hs.postContentLenLeft = 0)
    (taken : HttpPost.step site post (.recv number chain response) = some next) :
    next.connections = Function.update post.connections number none ∨
    ∃ behind, next.connections = Function.update post.connections number (some behind) ∧
      Opens site hs (askedFor site hs chain behind) behind := by
  simp only [HttpPost.step, there, HttpPost.httpRecv] at taken
  by_cases closed : chain = []
  · rw [if_pos closed] at taken
    obtain rfl := Option.some.inj taken
    exact .inl rfl
  rw [if_neg closed] at taken
  by_cases body : 0 < hs.postContentLenLeft
  · rw [if_pos body] at taken
    obtain rfl := Option.some.inj taken
    have quiet : hs.sending = false := by
      rw [← Bool.not_eq_true]
      exact fun sending => Nat.ne_of_gt body (idle sending)
    obtain ⟨behind, stored, opens⟩ := httpPostRxpbuf_opens
      { post with nextRequest := post.nextRequest + 1 } hs quiet
    refine .inr ⟨behind, stored, ?_⟩
    rwa [askedFor, if_pos body]
  rw [if_neg body] at taken
  by_cases sending : hs.sending = true
  · rw [if_pos sending] at taken
    obtain rfl := Option.some.inj taken
    refine .inr ⟨_, rfl, ?_⟩
    rw [askedFor, if_neg body, if_pos sending]
    exact ⟨rfl, idle⟩
  rw [if_neg sending] at taken
  have quiet : hs.sending = false := Bool.of_not_eq_true sending
  have none : hs.postContentLenLeft = 0 := Nat.eq_zero_of_not_pos body
  cases parsed : HttpPost.httpParseRequest (hs.req ++ chain) with
  | inProgress =>
    rw [parsed] at taken
    obtain rfl := Option.some.inj taken
    refine .inr ⟨_, rfl, ?_⟩
    rw [askedFor, if_neg body, if_neg sending, parsed]
    exact ⟨rfl, idle⟩
  | refused =>
    rw [parsed] at taken
    obtain rfl := Option.some.inj taken
    exact .inl rfl
  | file uri =>
    rw [parsed] at taken
    obtain rfl := Option.some.inj taken
    refine .inr ⟨_, rfl, ?_⟩
    rw [askedFor, if_neg body, if_neg sending, parsed]
    exact ⟨quiet, rfl, none⟩
  | post uri headerLen contentLen =>
    have length := httpParseRequest_length parsed
    have frame := httpdPostBegin_frame site uri hs
    simp only [parsed] at taken
    have asked (behind : HttpPost.HttpState) : askedFor site hs chain behind =
        if (HttpPost.httpdPostBegin site uri hs).2 then postFinished behind else some ([], false) := by
      rw [askedFor, if_neg body, if_neg sending, parsed]
    generalize HttpPost.httpdPostBegin site uri hs = begun at taken frame asked
    obtain ⟨begun, accepted⟩ := begun
    cases accepted with
    | false =>
      obtain rfl := Option.some.inj taken
      refine .inr ⟨_, rfl, ?_⟩
      rw [asked]
      exact ⟨quiet, rfl, frame.2.trans none⟩
    | true =>
      have idleStill : begun.sending = false := frame.1.trans quiet
      simp only at taken
      cases behindHeader : HttpPost.dropHeader headerLen (hs.req ++ chain) with
      | nil =>
        rw [behindHeader] at taken
        obtain rfl := Option.some.inj taken
        refine .inr ⟨_, rfl, ?_⟩
        rw [asked, if_pos rfl, postFinished, if_neg (Nat.ne_of_gt length)]
        exact ⟨frame.1, fun open_ => Bool.noConfusion (idleStill.symm.trans open_)⟩
      | cons pbuf rest =>
        rw [behindHeader] at taken
        obtain rfl := Option.some.inj taken
        obtain ⟨behind, stored, opens⟩ := httpPostRxpbuf_opens
          { post with nextRequest := post.nextRequest + 1 }
          { begun with
            req := []
            postContentLenLeft := contentLen
            request := post.nextRequest
            contentLen := contentLen
            received := [] } idleStill
        refine .inr ⟨behind, stored, ?_⟩
        rw [asked, if_pos rfl]
        unfold Opens at opens ⊢
        split <;> rename_i same <;> rw [same] at opens
        · exact ⟨quiet, opens.2⟩
        · exact ⟨opens.1.trans frame.1, opens.2⟩

end receive

end UcosProxy.HttpServer
