import UcosProxy.PostIsolation

/-!
# A body in any number of segments

One connection posts a request to a registered name, and its body comes in any number
of TCP segments, each of them a chain of any number of pbufs; the first may bring the
end of the header and the head of the body. Nothing else arrives in between.

Until a pbuf does not fit, the buffer holds what was received so far over what it held
at the beginning, so it says nothing about the cuts. A pbuf that does not fit takes the
handler away from the request for good, whatever is stored behind it; and some pbuf
does not fit exactly when the whole body does not, wherever it is cut. So the outcome is
a function of the body alone.
-/

namespace UcosProxy.BodySplits

open Bytes Runs UriParameters HttpPost PostIsolation

/-- An idle connection is sent a POST for a registered name, whose header ends in the first
chain, and its body of Content-Length bytes up to the last chain. The chains may be cut
anywhere, also between the two halves of the empty line, and the body may already begin in
the first one. -/
structure Delivered (site : Site) (hs : HttpState) (index : Nat) (body : List Byte)
    (first : List (List Byte)) (rest : List (List (List Byte))) : Prop where
  idle : hs.postContentLenLeft = 0
  unanswered : hs.sending = false
  post : ∃ uri headerLen, httpParseRequest (hs.req ++ first) = .post uri headerLen body.length ∧
    uri ≠ [] ∧ site.cgiNames.findIdx? (· = uri) = some index ∧
      (hs.req ++ first).flatten.drop headerLen ++ rest.flatten.flatten = body
  arrives : first ≠ []
  segments : ∀ chain ∈ rest, chain.flatten ≠ []

/-- The arrivals on one connection, with what the handler returns should it be called. -/
def arrivals (connection : Nat) (response : List Byte) (chains : List (List (List Byte))) :
    List Event :=
  chains.map fun chain => .recv connection chain response

/-- The connection behind the whole body: the response file is the handler's for a body
that fits the buffer, and none for any other. -/
def answered (site : Site) (hs : HttpState) (request index : Nat) (body response : List Byte) :
    HttpState :=
  httpHandlePostFinished site
    { hs with
      req := []
      postContentLenLeft := 0
      cgiHandlerIndex := if body.length ≤ maxPayloadLen then some index else none
      responseFile := if body.length ≤ maxPayloadLen then some response else none
      request := request
      contentLen := body.length
      received := body }

/-- The handler's call for a body that fits, with what it reads out of the buffer. -/
def bodyCalls (request index : Nat) (payload body : List Byte) : List Call :=
  if body.length ≤ maxPayloadLen then
    [⟨request, index, body,
      (cString? (body ++ payload.drop body.length)).map extractUriParameters⟩]
  else []

/-- What the body leads to. The call, the state of the connection and the length of the
buffer are what a later request can see. -/
structure Outcome (site : Site) (server : Server) (connection : Nat) (hs : HttpState) (index : Nat)
    (body response : List Byte) (after : Server) : Prop where
  calls : after.calls =
    server.calls ++ bodyCalls server.nextRequest index server.payload body
  connections : after.connections = Function.update server.connections connection
    (some (answered site hs server.nextRequest index body response))
  payloadLen : after.payloadLen = 0

/-- Nothing is called until the last of the chains has come. -/
def Quiet (site : Site) (server : Server) (connection : Nat) (response : List Byte)
    (calls : List Call) (chains : List (List (List Byte))) : Prop :=
  ∀ count < chains.length, ∃ mid,
    run (step site) server (arrivals connection response (chains.take count)) = some mid ∧
      mid.calls = calls

/-! ## A chain that fits, and one that does not -/

/-- A chain overflows the buffer exactly when its bytes together do. -/
theorem storeChain_overflow_iff (chain : List (List Byte)) (payload : List Byte) (len : Nat)
    (inside : len ≤ maxPayloadLen) :
    (storeChain payload len chain).2.2 = true ↔ maxPayloadLen < len + chain.flatten.length := by
  induction chain generalizing payload len with
  | nil => simpa [storeChain] using inside
  | cons pbuf rest inductionHypothesis =>
    rw [storeChain, List.flatten_cons, List.length_append, ← Nat.add_assoc]
    by_cases room : len + pbuf.length ≤ maxPayloadLen
    · rw [if_pos room]
      exact inductionHypothesis _ _ room
    · rw [if_neg room]
      simp only [true_iff]
      omega

/-- A chain that does not fit takes the handler away. -/
theorem receive_overflow (server : Server) (hs : HttpState) (chain : List (List Byte))
    (response : List Byte) (whole : server.payload.length = maxPayloadLen)
    (inside : server.payloadLen ≤ maxPayloadLen)
    (excess : maxPayloadLen < server.payloadLen + chain.flatten.length) :
    ∃ payload, payload.length = maxPayloadLen ∧ httpdPostReceiveData server hs chain response =
      ({ server with payload := payload, payloadLen := 0 },
        { hs with cgiHandlerIndex := none, responseFile := none }) := by
  have length := storeChain_length chain server.payload server.payloadLen whole
  have overflow := (storeChain_overflow_iff chain server.payload server.payloadLen inside).mpr excess
  unfold httpdPostReceiveData
  cases stored : storeChain server.payload server.payloadLen chain with
  | mk payload rest =>
    obtain ⟨len, overflows⟩ := rest
    rw [stored] at length overflow
    cases overflow
    exact ⟨payload, length, rfl⟩

/-- A chain that fits is stored, and the last one calls the handler that is left. -/
theorem receive_fits (server : Server) (hs : HttpState) (chain : List (List Byte))
    (response : List Byte) (whole : server.payload.length = maxPayloadLen)
    (inside : server.payloadLen ≤ maxPayloadLen)
    (fits : server.payloadLen + chain.flatten.length ≤ maxPayloadLen) :
    httpdPostReceiveData server hs chain response =
      if hs.postContentLenLeft = 0 then
        match hs.cgiHandlerIndex with
        | some index =>
          ({ server with
              payload := cutSeparators (filled server chain)
              payloadLen := 0
              calls := server.calls ++ [⟨hs.request, index, hs.received.take hs.contentLen,
                (cString? (filled server chain)).map extractUriParameters⟩] },
            { hs with responseFile := some response })
        | none => ({ server with payload := filled server chain, payloadLen := 0 },
            { hs with responseFile := none })
      else ({ server with
          payload := filled server chain
          payloadLen := server.payloadLen + chain.flatten.length }, hs) := by
  have stores := storeChain_fits chain server.payload server.payloadLen whole inside
  have overflow := storeChain_overflow_iff chain server.payload server.payloadLen inside
  unfold httpdPostReceiveData
  cases stored : storeChain server.payload server.payloadLen chain with
  | mk payload rest =>
    obtain ⟨len, overflows⟩ := rest
    rw [stored] at stores overflow
    cases overflows with
    | true => exact absurd (overflow.mp rfl) (Nat.not_lt_of_le fits)
    | false =>
      obtain ⟨count, _, same⟩ := stores rfl
      obtain rfl : payload = filled server chain := same
      obtain rfl : len = server.payloadLen + chain.flatten.length := count
      rfl

/-! ## In the middle of a body -/

/-- How the buffer stands behind some bytes of a body: they are all in it over what it
held at the beginning, or the body is too long and its handler is gone. -/
inductive Buffered (payload : List Byte) (index total : Nat) (received : List Byte) :
    Server → Option Nat → Prop where
  | filling (server : Server) (fits : received.length ≤ maxPayloadLen)
      (count : server.payloadLen = received.length)
      (bytes : server.payload = received ++ payload.drop received.length) :
      Buffered payload index total received server (some index)
  | overflowed (server : Server) (long : maxPayloadLen < total)
      (inside : server.payloadLen ≤ maxPayloadLen) :
      Buffered payload index total received server none

/-- The server and the connection behind some bytes of a body. Everything but the filled
part of the buffer is a function of how many bytes have come, and not of how they were cut. -/
structure Midway (start : Server) (base : HttpState) (index : Nat) (received : List Byte)
    (server : Server) (hs : HttpState) : Prop where
  silent : base.responseFile = none
  state : hs = { base with
    postContentLenLeft := base.contentLen - received.length
    cgiHandlerIndex := hs.cgiHandlerIndex
    received := received }
  calls : server.calls = start.calls
  whole : server.payload.length = maxPayloadLen
  buffer : Buffered start.payload index base.contentLen received server hs.cgiHandlerIndex

/-- A chain that fits keeps the length of the buffer. -/
theorem filled_length (server : Server) (chain : List (List Byte))
    (whole : server.payload.length = maxPayloadLen) (inside : server.payloadLen ≤ maxPayloadLen)
    (fits : server.payloadLen + chain.flatten.length ≤ maxPayloadLen) :
    (filled server chain).length = maxPayloadLen := by
  simp only [filled, List.length_append, List.length_take, List.length_drop, whole]
  omega

/-- The buffer behind one more chain that fits. -/
theorem filled_filling {server : Server} {payload received : List Byte} (chain : List (List Byte))
    (count : server.payloadLen = received.length)
    (bytes : server.payload = received ++ payload.drop received.length) :
    filled server chain =
      (received ++ chain.flatten) ++ payload.drop (received ++ chain.flatten).length := by
  rw [filled, count, bytes, List.take_left' rfl, List.length_append, ← List.drop_drop,
    List.drop_left' rfl, List.drop_drop]

section chain
variable {start server : Server} {base hs : HttpState} {index : Nat} {received : List Byte}
  (site : Site) (connection : Nat) (chain : List (List Byte)) (response : List Byte)

/-- What is left of the Content-Length behind a chain of the body. -/
theorem Midway.counted (midway : Midway start base index received server hs)
    (room : (received ++ chain.flatten).length ≤ base.contentLen) :
    countChain hs chain = { base with
      postContentLenLeft := base.contentLen - (received ++ chain.flatten).length
      cgiHandlerIndex := hs.cgiHandlerIndex
      received := received ++ chain.flatten } := by
  rw [List.length_append] at room
  have left : ¬ base.contentLen - received.length < chain.flatten.length := by omega
  have state := midway.state
  rw [state, countChain]
  simp only [left, if_false, List.length_append, Nat.sub_sub]

/-- What `httpd_post_receive_data` makes of a chain that leaves bytes to come. -/
theorem Midway.receives (midway : Midway start base index received server hs)
    (more : (received ++ chain.flatten).length < base.contentLen) :
    ∃ behind next, httpdPostReceiveData server (countChain hs chain) chain response = (behind, next) ∧
      behind.connections = server.connections ∧ next.postContentLenLeft ≠ 0 ∧
        Midway start base index (received ++ chain.flatten) behind next := by
  have unfinished : base.contentLen - (received ++ chain.flatten).length ≠ 0 := by omega
  have longer : (received ++ chain.flatten).length = received.length + chain.flatten.length :=
    List.length_append
  have silent := midway.silent
  rw [midway.counted chain (Nat.le_of_lt more)]
  obtain ⟨_, _, calls, whole, buffer⟩ := midway
  generalize hs.cgiHandlerIndex = handler at buffer ⊢
  -- An overflow takes the handler away, whether or not it was still there.
  have overflows (long : maxPayloadLen < base.contentLen)
      (inside : server.payloadLen ≤ maxPayloadLen)
      (excess : maxPayloadLen < server.payloadLen + chain.flatten.length) :
      ∃ behind next, httpdPostReceiveData server
          { base with
            postContentLenLeft := base.contentLen - (received ++ chain.flatten).length
            cgiHandlerIndex := handler
            received := received ++ chain.flatten } chain response = (behind, next) ∧
        behind.connections = server.connections ∧ next.postContentLenLeft ≠ 0 ∧
          Midway start base index (received ++ chain.flatten) behind next := by
    obtain ⟨payload, length, result⟩ := receive_overflow server _ chain response whole inside excess
    refine ⟨_, _, result, rfl, unfinished, silent, ?_, calls, length, .overflowed _ long ?_⟩
    · simp only [silent]
    · exact Nat.zero_le _
  cases buffer with
  | filling fits count bytes =>
    have inside : server.payloadLen ≤ maxPayloadLen := by omega
    by_cases room : server.payloadLen + chain.flatten.length ≤ maxPayloadLen
    · have result := receive_fits server { base with
          postContentLenLeft := base.contentLen - (received ++ chain.flatten).length
          cgiHandlerIndex := some index
          received := received ++ chain.flatten } chain response whole inside room
      rw [if_neg unfinished] at result
      refine ⟨_, _, result, rfl, unfinished, silent, rfl, calls,
        filled_length server chain whole inside room,
        .filling _ (by omega) ?_ (filled_filling chain count bytes)⟩
      rw [count, longer]
    · exact overflows (by omega) inside (Nat.lt_of_not_le room)
  | overflowed long inside =>
    by_cases room : server.payloadLen + chain.flatten.length ≤ maxPayloadLen
    · have result := receive_fits server { base with
          postContentLenLeft := base.contentLen - (received ++ chain.flatten).length
          cgiHandlerIndex := none
          received := received ++ chain.flatten } chain response whole inside room
      rw [if_neg unfinished] at result
      exact ⟨_, _, result, rfl, unfinished, silent, rfl, calls,
        filled_length server chain whole inside room, .overflowed _ long room⟩
    · exact overflows long inside (Nat.lt_of_not_le room)

/-- The connection that a whole body is received on, before its response is opened. -/
def complete (base : HttpState) (index : Nat) (body response : List Byte) : HttpState :=
  { base with
    postContentLenLeft := 0
    cgiHandlerIndex := if body.length ≤ maxPayloadLen then some index else none
    responseFile := if body.length ≤ maxPayloadLen then some response else none
    received := body }

/-- What `httpd_post_receive_data` makes of the last chain of a body. -/
theorem Midway.finishes (midway : Midway start base index received server hs)
    (last : (received ++ chain.flatten).length = base.contentLen) :
    ∃ behind, httpdPostReceiveData server (countChain hs chain) chain response =
        (behind, complete base index (received ++ chain.flatten) response) ∧
      behind.connections = server.connections ∧ behind.payloadLen = 0 ∧
        behind.calls = start.calls ++
          bodyCalls base.request index start.payload (received ++ chain.flatten) := by
  have longer : (received ++ chain.flatten).length = received.length + chain.flatten.length :=
    List.length_append
  rw [midway.counted chain (Nat.le_of_eq last)]
  obtain ⟨_, _, calls, whole, buffer⟩ := midway
  generalize hs.cgiHandlerIndex = handler at buffer ⊢
  have nothing : base.contentLen - (received ++ chain.flatten).length = 0 := by omega
  rw [nothing]
  -- Where the body is too long, there is no call, whichever way it ends.
  have ignored (long : ¬ (received ++ chain.flatten).length ≤ maxPayloadLen) (payload : List Byte)
      (result : httpdPostReceiveData server
          { base with
            postContentLenLeft := 0
            cgiHandlerIndex := handler
            received := received ++ chain.flatten } chain response =
        ({ server with payload := payload, payloadLen := 0 },
          { base with
            postContentLenLeft := 0
            cgiHandlerIndex := none
            responseFile := none
            received := received ++ chain.flatten })) :
      ∃ behind, httpdPostReceiveData server
          { base with
            postContentLenLeft := 0
            cgiHandlerIndex := handler
            received := received ++ chain.flatten } chain response =
          (behind, complete base index (received ++ chain.flatten) response) ∧
        behind.connections = server.connections ∧ behind.payloadLen = 0 ∧
          behind.calls = start.calls ++
            bodyCalls base.request index start.payload (received ++ chain.flatten) := by
    refine ⟨{ server with payload := payload, payloadLen := 0 }, ?_, rfl, rfl, ?_⟩
    · rw [result, complete, if_neg long, if_neg long]
    · rw [bodyCalls, if_neg long, List.append_nil]
      exact calls
  cases buffer with
  | filling fits count bytes =>
    have inside : server.payloadLen ≤ maxPayloadLen := by omega
    by_cases room : server.payloadLen + chain.flatten.length ≤ maxPayloadLen
    · have short : (received ++ chain.flatten).length ≤ maxPayloadLen := by omega
      have result := receive_fits server { base with
          postContentLenLeft := 0
          cgiHandlerIndex := some index
          received := received ++ chain.flatten } chain response whole inside room
      rw [complete, if_pos short, if_pos short]
      refine ⟨_, result, rfl, rfl, ?_⟩
      simp only
      rw [bodyCalls, if_pos short, calls, filled_filling chain count bytes, ← last, List.take_length]
    · have long : ¬ (received ++ chain.flatten).length ≤ maxPayloadLen := by omega
      obtain ⟨payload, _, result⟩ :=
        receive_overflow server _ chain response whole inside (Nat.lt_of_not_le room)
      exact ignored long payload result
  | overflowed tooLong inside =>
    have long : ¬ (received ++ chain.flatten).length ≤ maxPayloadLen := by omega
    by_cases room : server.payloadLen + chain.flatten.length ≤ maxPayloadLen
    · exact ignored long _ (receive_fits server _ chain response whole inside room)
    · obtain ⟨payload, _, result⟩ :=
        receive_overflow server _ chain response whole inside (Nat.lt_of_not_le room)
      exact ignored long payload result

/-- The middle of a body is one of the buffer and the calls, not of the histories. -/
theorem Midway.same {other : Server} (midway : Midway start base index received server hs)
    (payload : other.payload = server.payload) (payloadLen : other.payloadLen = server.payloadLen)
    (calls : other.calls = server.calls) : Midway start base index received other hs where
  silent := midway.silent
  state := midway.state
  calls := calls.trans midway.calls
  whole := (congrArg List.length payload).trans midway.whole
  buffer := by
    have buffer := midway.buffer
    generalize hs.cgiHandlerIndex = handler at buffer ⊢
    cases buffer with
    | filling fits count bytes =>
      exact .filling other fits (payloadLen.trans count) (payload.trans bytes)
    | overflowed long inside => exact .overflowed other long (payloadLen ▸ inside)

/-- `http_post_rxpbuf` on a chain that leaves bytes to come. -/
theorem Midway.rxpbuf_more (midway : Midway start base index received server hs)
    (more : (received ++ chain.flatten).length < base.contentLen) :
    ∃ next, (httpPostRxpbuf site server connection hs chain response).connections =
        Function.update server.connections connection (some next) ∧
      Midway start base index (received ++ chain.flatten)
        (httpPostRxpbuf site server connection hs chain response) next := by
  unfold httpPostRxpbuf
  dsimp only
  generalize holder : (if server.payloadLen = 0 then hs.request else server.owner) = owner
  have owned : Midway start base index received { server with owner := owner } hs :=
    midway.same rfl rfl rfl
  obtain ⟨behind, next, result, connections, unfinished, further⟩ :=
    owned.receives chain response more
  rw [result]
  simp only [unfinished, if_false]
  exact ⟨next, by rw [connections], further.same rfl rfl rfl⟩

/-- `http_post_rxpbuf` on the last chain of a body. -/
theorem Midway.rxpbuf_last (midway : Midway start base index received server hs)
    (last : (received ++ chain.flatten).length = base.contentLen) :
    let after := httpPostRxpbuf site server connection hs chain response
    after.calls = start.calls ++
        bodyCalls base.request index start.payload (received ++ chain.flatten) ∧
      after.connections = Function.update server.connections connection
        (some (httpHandlePostFinished site
          (complete base index (received ++ chain.flatten) response))) ∧
      after.payloadLen = 0 := by
  unfold httpPostRxpbuf
  dsimp only
  generalize holder : (if server.payloadLen = 0 then hs.request else server.owner) = owner
  have owned : Midway start base index received { server with owner := owner } hs :=
    midway.same rfl rfl rfl
  obtain ⟨behind, result, connections, payloadLen, calls⟩ := owned.finishes chain response last
  rw [result]
  exact ⟨calls, by rw [connections]; rfl, payloadLen⟩

/-- In the middle of a body a chain is handed to `http_post_rxpbuf`. -/
theorem Midway.recv (midway : Midway start base index received server hs)
    (found : server.connections connection = some hs) (arrives : chain.flatten ≠ [])
    (room : (received ++ chain.flatten).length ≤ base.contentLen) :
    step site server (.recv connection chain response) =
      some (httpPostRxpbuf site { server with nextRequest := server.nextRequest + 1 } connection hs
        chain response) := by
  have some_bytes : 0 < chain.flatten.length := List.length_pos_iff.mpr arrives
  have pbufs : chain ≠ [] := by
    rintro rfl
    exact arrives rfl
  have pending : 0 < hs.postContentLenLeft := by
    rw [List.length_append] at room
    rw [midway.state]
    simp only
    omega
  simp only [step, found, httpRecv, pbufs, if_false, pending, if_true]

end chain

/-! ## The whole body -/

/-- The chains behind the first one: the handler is not called before the last. -/
theorem Midway.runs {start server : Server} {base hs : HttpState} {index : Nat}
    {received : List Byte} (site : Site) (connection : Nat) (response : List Byte)
    (rest : List (List (List Byte))) (midway : Midway start base index received server hs)
    (found : server.connections connection = some hs) (pending : received.length < base.contentLen)
    (segments : ∀ chain ∈ rest, chain.flatten ≠ [])
    (total : (received ++ rest.flatten.flatten).length = base.contentLen) :
    (∃ after, run (step site) server (arrivals connection response rest) = some after ∧
      after.calls = start.calls ++
        bodyCalls base.request index start.payload (received ++ rest.flatten.flatten) ∧
      after.connections = Function.update server.connections connection
        (some (httpHandlePostFinished site
          (complete base index (received ++ rest.flatten.flatten) response))) ∧
      after.payloadLen = 0) ∧
    Quiet site server connection response start.calls rest := by
  induction rest generalizing server hs received with
  | nil =>
    simp only [List.flatten_nil, List.append_nil] at total
    omega
  | cons chain rest inductionHypothesis =>
    have cut : received ++ (chain :: rest).flatten.flatten =
        received ++ chain.flatten ++ rest.flatten.flatten := by simp
    rw [cut] at total ⊢
    have arrives := segments chain List.mem_cons_self
    have later : ∀ other ∈ rest, other.flatten ≠ [] := fun other member =>
      segments other (List.mem_cons_of_mem _ member)
    have room : (received ++ chain.flatten).length ≤ base.contentLen := by
      rw [← total]
      exact (List.sublist_append_left _ _).length_le
    have taken := midway.recv site connection chain response found arrives room
    have counted : Midway start base index received
        { server with nextRequest := server.nextRequest + 1 } hs := midway.same rfl rfl rfl
    have steps (chains : List (List (List Byte))) :
        run (step site) server (arrivals connection response (chain :: chains)) =
          run (step site) (httpPostRxpbuf site { server with nextRequest := server.nextRequest + 1 }
            connection hs chain response) (arrivals connection response chains) := by
      simp only [arrivals, List.map_cons, run, taken]
    cases rest with
    | nil =>
      simp only [List.flatten_nil, List.append_nil] at total ⊢
      obtain ⟨calls, connections, payloadLen⟩ :=
        counted.rxpbuf_last site connection chain response total
      refine ⟨⟨_, steps [], calls, connections, payloadLen⟩, ?_⟩
      intro count few
      obtain rfl : count = 0 := by simpa using few
      exact ⟨server, rfl, midway.calls⟩
    | cons next others =>
      have more : (received ++ chain.flatten).length < base.contentLen := by
        have bytes := List.length_pos_iff.mpr (later next List.mem_cons_self)
        have whole : (next :: others).flatten.flatten.length =
            next.flatten.length + others.flatten.flatten.length := by simp
        rw [List.length_append, whole] at total
        omega
      obtain ⟨following, connections, further⟩ :=
        counted.rxpbuf_more site connection chain response more
      have reached := inductionHypothesis further (by rw [connections]; simp) more later total
      obtain ⟨⟨after, ran, calls, behind, payloadLen⟩, earlier⟩ := reached
      refine ⟨⟨after, (steps _).trans ran, calls, ?_, payloadLen⟩, ?_⟩
      · rw [behind, connections, Function.update_idem]
      · intro count few
        cases count with
        | zero => exact ⟨server, rfl, midway.calls⟩
        | succ count =>
          obtain ⟨mid, ran, quiet⟩ := earlier count (Nat.lt_of_succ_lt_succ few)
          exact ⟨mid, (steps _).trans ran, quiet⟩

/-- The connection that the request begins on, before any byte of its body. -/
def begun (hs : HttpState) (request index total : Nat) : HttpState :=
  { hs with
    req := []
    postContentLenLeft := total
    cgiHandlerIndex := some index
    responseFile := none
    request := request
    contentLen := total
    received := [] }

/-- The response of a body is opened on the connection that it began on. -/
theorem finished_begun (site : Site) (hs : HttpState) (request index : Nat) (body response : List Byte) :
    httpHandlePostFinished site (complete (begun hs request index body.length) index body response) =
      answered site hs request index body response := rfl

/-- What the first chain leads to: the request has begun, and the bytes behind its header
are those of its body. -/
theorem Delivered.begins {site : Site} {server : Server} {connection index : Nat} {hs : HttpState}
    {body : List Byte} {first : List (List Byte)} {rest : List (List (List Byte))}
    (delivered : Delivered site hs index body first rest) (response : List Byte)
    (found : server.connections connection = some hs) :
    ∃ chain, chain.flatten ++ rest.flatten.flatten = body ∧
      step site server (.recv connection first response) =
        if chain = [] then some { server with
          nextRequest := server.nextRequest + 1
          connections := Function.update server.connections connection
            (some (begun hs server.nextRequest index body.length)) }
        else some (httpPostRxpbuf site { server with nextRequest := server.nextRequest + 1 } connection
          (begun hs server.nextRequest index body.length) chain response) := by
  obtain ⟨uri, headerLen, parsed, named, registered, bytes⟩ := delivered.post
  have waits : ¬ 0 < hs.postContentLenLeft := by simp [delivered.idle]
  have begins : httpdPostBegin site uri hs =
      ({ hs with cgiHandlerIndex := some index, responseFile := none }, true) := by
    simp only [httpdPostBegin, named, if_false, registered]
  refine ⟨dropHeader headerLen (hs.req ++ first), ?_, ?_⟩
  · rw [dropHeader_flatten]
    exact bytes
  · simp only [step, found, httpRecv, delivered.arrives, if_false, waits, delivered.unanswered, parsed,
      begins]
    cases dropHeader headerLen (hs.req ++ first) with
    | nil => simp [begun, delivered.unanswered]
    | cons pbuf chain => simp [begun, delivered.unanswered]

/-- An accepted POST announces at least one byte. -/
theorem parsed_positive {queue : List (List Byte)} {uri : List Byte} {headerLen contentLen : Nat}
    (parsed : httpParseRequest queue = .post uri headerLen contentLen) : 0 < contentLen := by
  have waits : httpQueued queue ≠ .post uri headerLen contentLen := by
    unfold httpQueued
    split <;> simp
  have header (data uri' : List Byte) (uriEnd : Nat)
      (post : httpPostRequest data uri' uriEnd = .post uri headerLen contentLen) : 0 < contentLen := by
    simp only [httpPostRequest] at post
    split at post
    · cases post
    · split at post
      · cases post
      · split at post
        · cases post
        · split at post
          · rename_i positive
            simp only [Parsed.post.injEq] at post
            omega
          · cases post
  have line (methodEnd : Nat) (isPost : Bool)
      (post : httpParseUri (requestData queue) methodEnd isPost queue =
        .post uri headerLen contentLen) : 0 < contentLen := by
    simp only [httpParseUri] at post
    split at post
    · split at post
      · exact header _ _ _ post
      · cases post
    · split at post
      · cases post
      · split at post
        · cases post
        · exact absurd post waits
  simp only [httpParseRequest] at parsed
  split at parsed
  · exact absurd parsed waits
  · split at parsed
    · exact absurd parsed waits
    · split at parsed
      · exact line _ _ parsed
      · split at parsed
        · exact line _ _ parsed
        · cases parsed

/-- However a body is cut, its outcome is the one that the body says, and it comes with
the last chain. -/
theorem Delivered.outcome {site : Site} {server : Server} {connection index : Nat} {hs : HttpState}
    {body : List Byte} {first : List (List Byte)} {rest : List (List (List Byte))}
    (delivered : Delivered site hs index body first rest) (response : List Byte)
    (found : server.connections connection = some hs) (empty : server.payloadLen = 0)
    (whole : server.payload.length = maxPayloadLen) :
    (∃ after, run (step site) server (arrivals connection response (first :: rest)) = some after ∧
      Outcome site server connection hs index body response after) ∧
    Quiet site server connection response server.calls (first :: rest) := by
  obtain ⟨chain, bytes, taken⟩ := delivered.begins response found
  have started (other : Server) (payload : other.payload = server.payload)
      (payloadLen : other.payloadLen = server.payloadLen) (calls : other.calls = server.calls) :
      Midway server (begun hs server.nextRequest index body.length) index [] other
        (begun hs server.nextRequest index body.length) :=
    ⟨rfl, rfl, calls, (congrArg List.length payload).trans whole,
      .filling other (Nat.zero_le _) (payloadLen.trans empty) payload⟩
  have positive : 0 < body.length := by
    obtain ⟨uri, headerLen, parsed, _⟩ := delivered.post
    exact parsed_positive parsed
  have quiet (after : Server)
      (first_step : step site server (.recv connection first response) = some after)
      (later : Quiet site after connection response server.calls rest) :
      Quiet site server connection response server.calls (first :: rest) := by
    intro count few
    cases count with
    | zero => exact ⟨server, rfl, rfl⟩
    | succ count =>
      obtain ⟨mid, ran, calls⟩ := later count (Nat.lt_of_succ_lt_succ few)
      refine ⟨mid, ?_, calls⟩
      simpa only [arrivals, List.take_succ_cons, List.map_cons, run, first_step] using ran
  by_cases header : chain = []
  · rw [if_pos header] at taken
    rw [header] at bytes
    have body_bytes : [] ++ rest.flatten.flatten = body := bytes
    have waiting := started { server with
      nextRequest := server.nextRequest + 1
      connections := Function.update server.connections connection
        (some (begun hs server.nextRequest index body.length)) } rfl rfl rfl
    obtain ⟨⟨after, ran, calls, connections, payloadLen⟩, earlier⟩ :=
      waiting.runs site connection response rest (Function.update_self _ _ _) positive
        delivered.segments (congrArg List.length body_bytes)
    rw [body_bytes] at calls connections
    refine ⟨⟨after, ?_, calls, ?_, payloadLen⟩, quiet _ taken earlier⟩
    · simpa only [arrivals, List.map_cons, run, taken] using ran
    · rw [connections, Function.update_idem, finished_begun]
  · rw [if_neg header] at taken
    have counted := started { server with nextRequest := server.nextRequest + 1 } rfl rfl rfl
    cases rest with
    | nil =>
      have last : [] ++ chain.flatten = body := by simpa using bytes
      obtain ⟨calls, connections, payloadLen⟩ :=
        counted.rxpbuf_last site connection chain response (congrArg List.length last)
      rw [last] at calls connections
      refine ⟨⟨_, ?_, calls, connections, payloadLen⟩, quiet _ taken ?_⟩
      · simp only [arrivals, List.map_cons, List.map_nil, run, taken]
      · intro count few
        cases few
    | cons next others =>
      have body_bytes : ([] ++ chain.flatten) ++ (next :: others).flatten.flatten = body := bytes
      have more : ([] ++ chain.flatten).length < body.length := by
        have arrives := List.length_pos_iff.mpr (delivered.segments next List.mem_cons_self)
        have length := congrArg List.length body_bytes
        simp only [List.length_append, List.flatten_cons, List.flatten_append] at length ⊢
        omega
      obtain ⟨following, behind, further⟩ :=
        counted.rxpbuf_more site connection chain response more
      obtain ⟨⟨after, ran, calls, connections, payloadLen⟩, earlier⟩ :=
        further.runs site connection response (next :: others) (by rw [behind]; simp) more
          delivered.segments (congrArg List.length body_bytes)
      rw [body_bytes] at calls connections
      refine ⟨⟨after, ?_, calls, ?_, payloadLen⟩, quiet _ taken earlier⟩
      · simpa only [arrivals, List.map_cons, run, taken] using ran
      · rw [connections, behind, Function.update_idem, finished_begun]

/-- Two ways of cutting one body lead to the same call, the same connection and an empty
buffer, and in neither of them is anything called before the last byte. Both runs are
complete: that a delivered request is taken to its end is part of the statement. The proof
compares each of them with the bytes alone. -/
theorem splits_agree {site : Site} {server : Server} {connection index : Nat} {hs : HttpState}
    {body : List Byte} {first first' : List (List Byte)} {rest rest' : List (List (List Byte))}
    (response : List Byte) (found : server.connections connection = some hs)
    (empty : server.payloadLen = 0) (whole : server.payload.length = maxPayloadLen)
    (delivered : Delivered site hs index body first rest)
    (delivered' : Delivered site hs index body first' rest') :
    (∃ after after',
      run (step site) server (arrivals connection response (first :: rest)) = some after ∧
      run (step site) server (arrivals connection response (first' :: rest')) = some after' ∧
      after.calls = after'.calls ∧ after.connections = after'.connections ∧
      Outcome site server connection hs index body response after ∧
      Outcome site server connection hs index body response after') ∧
    Quiet site server connection response server.calls (first :: rest) ∧
    Quiet site server connection response server.calls (first' :: rest') := by
  obtain ⟨⟨after, ran, outcome⟩, quiet⟩ := delivered.outcome response found empty whole
  obtain ⟨⟨after', ran', outcome'⟩, quiet'⟩ := delivered'.outcome response found empty whole
  refine ⟨⟨after, after', ran, ran', ?_, ?_, outcome, outcome'⟩, quiet, quiet'⟩
  · exact outcome.calls.trans outcome'.calls.symm
  · exact outcome.connections.trans outcome'.connections.symm

/-- A server with one idle connection. -/
def listening : Server :=
  { fresh with connections := Function.update fresh.connections 0 (some httpStateAlloc) }

/-- A login whose body comes with its header, and one whose body comes in three segments
behind the first of its bytes. -/
theorem login_splits_agree :
    (∃ after after',
      run (step sampleSite) listening
        (arrivals 0 [] [[sampleHeader "9" ++ ascii "usrname=a"]]) = some after ∧
      run (step sampleSite) listening
        (arrivals 0 [] [[sampleHeader "9", ascii "u"], [ascii "sr", ascii "na"], [ascii "me=a"]]) =
          some after' ∧
      after.calls = after'.calls ∧ after.connections = after'.connections ∧
      Outcome sampleSite listening 0 httpStateAlloc 0 (ascii "usrname=a") [] after ∧
      Outcome sampleSite listening 0 httpStateAlloc 0 (ascii "usrname=a") [] after') ∧
    Quiet sampleSite listening 0 [] [] [[sampleHeader "9" ++ ascii "usrname=a"]] ∧
    Quiet sampleSite listening 0 [] []
      [[sampleHeader "9", ascii "u"], [ascii "sr", ascii "na"], [ascii "me=a"]] :=
  splits_agree [] (by simp [listening]) rfl List.length_replicate
    { idle := rfl
      unanswered := rfl
      post := ⟨ascii "/login.cgi", (sampleHeader "9").length, by decide⟩
      arrives := by decide
      segments := by decide }
    { idle := rfl
      unanswered := rfl
      post := ⟨ascii "/login.cgi", (sampleHeader "9").length, by decide⟩
      arrives := by decide
      segments := by decide }

end UcosProxy.BodySplits
