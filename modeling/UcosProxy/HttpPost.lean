import UcosProxy.Runs
import UcosProxy.UriParameters

/-!
# POST requests on many connections

The receive side of `httpd.c` as a step function over any number of connections:
`http_accept`, `http_recv` on a chain of pbufs, and the two ways a connection ends.
A connection queues pbufs until `http_parse_request` finds a whole header in them;
a POST for a registered CGI name then hands the rest of the chain, and every later
chain up to its Content-Length, to `http_post_rxpbuf`. There the bytes go into one
payload buffer that all connections share, and the request that completes its
length has the buffer parsed and its handler called.

A pbuf is a list of bytes and a chain is a list of pbufs. The parser works on the
first pbuf in place or on a copy of at most 1023 bytes, and writes NULs into it
only in front of the body. What is sent back is reduced to whether a response file
is open. GET requests end in the file system here, and the response that a handler
returns comes with the event.

Five things are history: the number of a request, its Content-Length and the body
bytes received for it, the owner of the bytes in the shared buffer, and the calls
made.
-/

namespace UcosProxy.HttpPost

open Bytes UriParameters

/-- `LWIP_HTTPD_MAX_REQ_LENGTH`, also the limit of the request queue. -/
def maxReqLength : Nat := 1023

/-- `LWIP_HTTPD_REQ_QUEUELEN` -/
def reqQueueLen : Nat := 10

/-- `MIN_REQ_LEN` -/
def minReqLen : Nat := 7

/-- `HTTP_HDR_CONTENT_LEN_DIGIT_MAX_LEN` -/
def contentLenDigitMaxLen : Nat := 10

/-- `LWIP_HTTPD_POST_MAX_PAYLOAD_LEN` -/
def maxPayloadLen : Nat := 512

/-- `LWIP_HTTPD_POST_MAX_RESPONSE_URI_LEN` -/
def maxResponseUriLen : Nat := 63

/-- `CRLF` -/
def crlf : List Byte := [13, 10]

/-- The registered CGI names, and which URIs have a response file. These two decide how far
a request goes, and the handlers themselves are left open. -/
structure Site where
  cgiNames : List (List Byte)
  opens : List Byte → Bool

/-- `struct http_state`, as far as a request is received. What a response needs beyond this
belongs to the sending half, which has a record of its own. -/
structure HttpState where
  /-- `hs->req`, the queued pbufs -/
  req : List (List Byte)
  /-- `hs->handle` is set: a response file is open. -/
  sending : Bool
  postContentLenLeft : Nat
  cgiHandlerIndex : Option Nat
  responseFile : Option (List Byte)
  /-- History: the number of the request at hand. -/
  request : Nat
  /-- History: its Content-Length. -/
  contentLen : Nat
  /-- History: the body bytes handed over for it. -/
  received : List Byte
deriving DecidableEq

/-- `http_state_alloc` -/
def httpStateAlloc : HttpState := ⟨[], false, 0, some 0, none, 0, 0, []⟩

/-- A call of a CGI handler by `httpd_post_receive_data`. No parameters means that
the parser ran past the end of the payload buffer. -/
structure Call where
  request : Nat
  handler : Nat
  body : List Byte
  params : Option (List Param)
deriving DecidableEq

/-- What `http_parse_request` finds in the queue. A queue that has no whole header yet is
not refused, but waits for more. -/
inductive Parsed where
  | inProgress
  | refused
  | file (uri : List Byte)
  | post (uri : List Byte) (headerLen contentLen : Nat)
deriving DecidableEq

/-- `http_post_request` up to `httpd_post_begin`: the end of the header and the
Content-Length in it. -/
def httpPostRequest (data uri : List Byte) (uriEnd : Nat) : Parsed :=
  let rest := data.drop (uriEnd + 1)
  match strnstr (crlf ++ crlf) (data.length - (uriEnd + 1)) rest with
  | none => .inProgress
  | some headerEnd =>
    match strnstr (ascii "Content-Length: ") headerEnd rest with
    | none => .inProgress
    | some field =>
      let digits := rest.drop (field + (ascii "Content-Length: ").length)
      match strnstr crlf contentLenDigitMaxLen digits with
      | none => .inProgress
      | some digitsEnd =>
        if 0 < atoi (digits.take digitsEnd) then
          .post uri (min data.length (uriEnd + 1 + headerEnd + 4)) (atoi (digits.take digitsEnd)).toNat
        else .refused

/-- What a queue without a whole request comes to: it waits for more, unless it
has grown too long. -/
def httpQueued (queue : List (List Byte)) : Parsed :=
  if queue.flatten.length ≤ maxReqLength ∧ queue.length ≤ reqQueueLen then .inProgress else .refused

/-- The URI behind the method, which ends before the letter at an offset. A line
without a second space is HTTP 0.9, which has no POST. -/
def httpParseUri (data : List Byte) (methodEnd : Nat) (isPost : Bool) (queue : List (List Byte)) :
    Parsed :=
  let line := data.drop (methodEnd + 1)
  match strnstr [32] (data.length - (methodEnd + 1)) line with
  | some uriLen =>
    if isPost then httpPostRequest data (line.take uriLen) (methodEnd + 1 + uriLen)
    else .file (line.take uriLen)
  | none =>
    if isPost then .refused
    else
      match strnstr crlf (data.length - (methodEnd + 1)) line with
      | some uriLen => .file (line.take uriLen)
      | none => httpQueued queue

/-- The bytes that the parser reads. -/
def requestData : List (List Byte) → List Byte
  | [pbuf] => pbuf
  | queue => queue.flatten.take maxReqLength

/-- `http_parse_request` on the queue with the new chain at its end. A request that is not
yet long enough, or has no line end, is queued; one that is neither of the two methods is
refused. -/
def httpParseRequest (queue : List (List Byte)) : Parsed :=
  let data := requestData queue
  if data.length < minReqLen then httpQueued queue
  else
    match strnstr crlf data.length data with
    | none => httpQueued queue
    | some _ =>
      if (ascii "GET ").isPrefixOf data then httpParseUri data 3 false queue
      else if (ascii "POST ").isPrefixOf data then httpParseUri data 4 true queue
      else .refused

/-- `httpd_post_begin`: look the URI up among the CGI names. What an earlier request has
left in the connection is cleared, but only for a URI that is not empty. -/
def httpdPostBegin (site : Site) (uri : List Byte) (hs : HttpState) : HttpState × Bool :=
  if uri = [] then (hs, false)
  else
    let cleared := { hs with cgiHandlerIndex := none, responseFile := none }
    match site.cgiNames.findIdx? (· = uri) with
    | none => (cleared, false)
    | some index => ({ cleared with cgiHandlerIndex := some index }, true)

/-- The chain behind a header: whole pbufs are freed and the rest of the header is
hidden. -/
def dropHeader : Nat → List (List Byte) → List (List Byte)
  | _, [] => []
  | offset, pbuf :: rest =>
    if pbuf.length ≤ offset then dropHeader (offset - pbuf.length) rest
    else pbuf.drop offset :: rest

/-- What `http_recv` does with a chain: body bytes of a request, nothing for a
body, or the end of the connection. -/
inductive Reception where
  | body (hs : HttpState) (chain : List (List Byte))
  | rest (hs : HttpState)
  | closed
deriving DecidableEq

/-- `http_recv` up to `http_post_rxpbuf`, with a number for a request that begins
here. An empty chain is the peer's close. -/
def httpRecv (site : Site) (fresh : Nat) (hs : HttpState) (chain : List (List Byte)) : Reception :=
  if chain = [] then .closed
  else if 0 < hs.postContentLenLeft then .body hs chain
  else if hs.sending then .rest { hs with req := [] }
  else
    match httpParseRequest (hs.req ++ chain) with
    | .inProgress => .rest { hs with req := hs.req ++ chain }
    | .refused => .closed
    | .file uri => .rest { hs with req := [], sending := site.opens uri }
    | .post uri headerLen contentLen =>
      match httpdPostBegin site uri hs with
      | (denied, false) => .rest { denied with req := [], sending := site.opens [] }
      | (begun, true) =>
        let started := { begun with
          req := []
          postContentLenLeft := contentLen
          request := fresh
          contentLen := contentLen
          received := [] }
        match dropHeader headerLen (hs.req ++ chain) with
        | [] => .rest started
        | body => .body started body

/-- All connections and the shared payload buffer. The payload buffer is one for all
connections, which is what the law of bodies is about. -/
structure Server where
  connections : Nat → Option HttpState
  /-- `http_post_payload` -/
  payload : List Byte
  /-- `http_post_payload_len` -/
  payloadLen : Nat
  /-- History: the number of the next request. -/
  nextRequest : Nat
  /-- History: the request that stored the first bytes now in the buffer. -/
  owner : Nat
  /-- History: the handler calls. -/
  calls : List Call

/-- The buffer behind a chain, its fill count, and whether a pbuf did not fit. The
pbufs before that one are stored. -/
def storeChain : List Byte → Nat → List (List Byte) → List Byte × Nat × Bool
  | payload, len, [] => (payload, len, false)
  | payload, len, pbuf :: rest =>
    if len + pbuf.length ≤ maxPayloadLen then
      storeChain (overwrite payload len pbuf) (len + pbuf.length) rest
    else (payload, len, true)

/-- `httpd_post_receive_data`, with what the handler returns should it be called. A body
that does not fit is dropped with the index of its handler. A body that is complete is
parsed in place, behind whatever the buffer held before. -/
def httpdPostReceiveData (server : Server) (hs : HttpState) (chain : List (List Byte))
    (response : List Byte) : Server × HttpState :=
  match storeChain server.payload server.payloadLen chain with
  | (payload, _, true) =>
    ({ server with payload := payload, payloadLen := 0 },
      { hs with cgiHandlerIndex := none, responseFile := none })
  | (payload, len, false) =>
    if hs.postContentLenLeft = 0 then
      match hs.cgiHandlerIndex with
      | some index =>
        ({ server with
            payload := cutSeparators payload
            payloadLen := 0
            calls := server.calls ++ [⟨hs.request, index, hs.received.take hs.contentLen,
              (cString? payload).map extractUriParameters⟩] },
          { hs with responseFile := some response })
      | none => ({ server with payload := payload, payloadLen := 0 }, { hs with responseFile := none })
    else ({ server with payload := payload, payloadLen := len }, hs)

/-- `http_handle_post_finished`: open the response file, cut to its buffer. -/
def httpHandlePostFinished (site : Site) (hs : HttpState) : HttpState :=
  { hs with sending := site.opens ((hs.responseFile.getD []).take maxResponseUriLen) }

/-- The Content-Length left behind a chain. -/
def countChain (hs : HttpState) (chain : List (List Byte)) : HttpState :=
  { hs with
    postContentLenLeft :=
      if hs.postContentLenLeft < chain.flatten.length then 0
      else hs.postContentLenLeft - chain.flatten.length
    received := hs.received ++ chain.flatten }

/-- `http_post_rxpbuf` for a connection. The owner of the buffer is history: it is the
request whose bytes are its first ones. -/
def httpPostRxpbuf (site : Site) (server : Server) (connection : Nat) (hs : HttpState)
    (chain : List (List Byte)) (response : List Byte) : Server :=
  let owned := { server with
    owner := if server.payloadLen = 0 then hs.request else server.owner }
  match httpdPostReceiveData owned (countChain hs chain) chain response with
  | (behind, received) =>
    { behind with
      connections := Function.update behind.connections connection
        (some (if received.postContentLenLeft = 0 then httpHandlePostFinished site received
          else received)) }

/-- The events of the web server's thread. A segment comes as the chain of buffers that it
was received in. -/
inductive Event where
  | accept (connection : Nat)
  | recv (connection : Nat) (chain : List (List Byte)) (response : List Byte)
  | close (connection : Nat)
  | reset (connection : Nat)
deriving DecidableEq

/-- A connection is gone. Nothing of the shared buffer changes. -/
def Server.remove (server : Server) (connection : Nat) : Server :=
  { server with connections := Function.update server.connections connection none }

/-- One event. -/
def step (site : Site) (server : Server) : Event → Option Server
  | .accept connection =>
    match server.connections connection with
    | some _ => none
    | none => some { server with
        connections := Function.update server.connections connection (some httpStateAlloc) }
  | .recv connection chain response =>
    match server.connections connection with
    | none => none
    | some hs =>
      let counted := { server with nextRequest := server.nextRequest + 1 }
      match httpRecv site server.nextRequest hs chain with
      | .body started body => some (httpPostRxpbuf site counted connection started body response)
      | .rest other => some { counted with
          connections := Function.update counted.connections connection (some other) }
      | .closed => some (counted.remove connection)
  | .close connection =>
    match server.connections connection with
    | none => none
    | some _ => some (server.remove connection)
  | .reset connection =>
    match server.connections connection with
    | none => none
    | some _ => some (server.remove connection)

/-- The server at its start, with its static buffer of zeros. -/
def fresh : Server where
  connections := fun _ => none
  payload := List.replicate maxPayloadLen 0
  payloadLen := 0
  nextRequest := 1
  owner := 0
  calls := []

/-! ## Chains -/

/-- Dropping the header drops its bytes from the chain. -/
theorem dropHeader_flatten (offset : Nat) (chain : List (List Byte)) :
    (dropHeader offset chain).flatten = chain.flatten.drop offset := by
  induction chain generalizing offset with
  | nil => simp [dropHeader]
  | cons pbuf rest inductionHypothesis =>
    rw [dropHeader]
    by_cases whole : pbuf.length ≤ offset
    · rw [if_pos whole, inductionHypothesis, List.flatten_cons, List.drop_append,
        List.drop_eq_nil_of_le whole, List.nil_append]
    · rw [if_neg whole, List.flatten_cons, List.flatten_cons,
        List.drop_append_of_le_length (Nat.le_of_not_le whole)]

/-- Storing a chain keeps the length of the buffer. -/
theorem storeChain_length (chain : List (List Byte)) (payload : List Byte) (len : Nat)
    (whole : payload.length = maxPayloadLen) :
    (storeChain payload len chain).1.length = maxPayloadLen := by
  induction chain generalizing payload len with
  | nil => exact whole
  | cons pbuf rest inductionHypothesis =>
    rw [storeChain]
    split
    · rename_i fits
      exact inductionHypothesis _ _ ((overwrite_length _ _ _ (whole ▸ fits)).trans whole)
    · exact whole

/-- A chain that fits is stored behind the bytes already there, and the buffer
behind it stays as it was. -/
theorem storeChain_fits (chain : List (List Byte)) (payload : List Byte) (len : Nat)
    (whole : payload.length = maxPayloadLen) (inside : len ≤ maxPayloadLen)
    (fits : (storeChain payload len chain).2.2 = false) :
    (storeChain payload len chain).2.1 = len + chain.flatten.length ∧
      len + chain.flatten.length ≤ maxPayloadLen ∧
      (storeChain payload len chain).1 =
        payload.take len ++ chain.flatten ++ payload.drop (len + chain.flatten.length) := by
  induction chain generalizing payload len with
  | nil => simpa [storeChain] using inside
  | cons pbuf rest inductionHypothesis =>
    rw [storeChain] at fits ⊢
    by_cases room : len + pbuf.length ≤ maxPayloadLen
    · rw [if_pos room] at fits ⊢
      have length := (overwrite_length payload pbuf len (whole ▸ room)).trans whole
      obtain ⟨count, bound, stored⟩ := inductionHypothesis _ _ length room fits
      have front : (payload.take len).length = len := by
        rw [List.length_take]
        omega
      have head : (overwrite payload len pbuf).take (len + pbuf.length) = payload.take len ++ pbuf := by
        rw [overwrite, List.take_left' (by rw [List.length_append, front])]
      have tail : (overwrite payload len pbuf).drop (len + pbuf.length + rest.flatten.length) =
          payload.drop (len + pbuf.length + rest.flatten.length) := by
        rw [overwrite, ← List.drop_drop, List.drop_left' (by rw [List.length_append, front]),
          List.drop_drop]
      rw [List.flatten_cons, List.length_append, ← Nat.add_assoc]
      refine ⟨count, bound, ?_⟩
      rw [stored, head, tail]
      simp only [List.append_assoc]
    · rw [if_neg room] at fits
      simp at fits

end UcosProxy.HttpPost
