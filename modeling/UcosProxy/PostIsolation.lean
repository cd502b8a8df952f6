import UcosProxy.HttpPost

/-!
# Whose bytes a handler sees

All connections share one payload buffer. This module states what keeps a handler
call to the body of its own request, for any number of connections and any order
of their segments, closes and resets.

Three conditions on the steps that hand body bytes over are enough. The buffer is
empty or holds bytes of the same request, so nothing of another connection or of
an aborted request stands in front. The segments that complete a length bring no
byte beyond it. And the completed body ends at a NUL, its own or one that already
stands behind it, because the buffer is parsed as a string and never terminated.

The invariant ties the buffer to the connections: a request in progress that still
has its handler either owns the buffer, whose filled part is then exactly what the
request has received, or has received nothing yet.
-/

namespace UcosProxy.PostIsolation

open Bytes UriParameters HttpPost Runs

/-- The call's parameters are those of its own body, at most sixteen. A body is text up to
its first NUL, as the parser reads it. -/
def Call.own (call : Call) : Prop :=
  ∃ params, call.params = some params ∧ params = extractUriParameters (text call.body) ∧
    params.length ≤ maxCgiParameters

/-- Every handler call so far got the parameters of its own request's body. The calls are
history, so the calls of connections that have ended are in it. -/
def OwnBodies (server : Server) : Prop := ∀ call ∈ server.calls, Call.own call

/-- Body bytes come while the buffer holds nothing else, and a request that still has its
handler is completed without surplus bytes and in front of a NUL. One buffer serves all
connections and is not cleared between them; these are the two ways in which that shows. -/
def UndisturbedBody (server : Server) (started : HttpState) (body : List (List Byte)) : Prop :=
  (server.payloadLen = 0 ∨ server.owner = started.request) ∧
    (started.cgiHandlerIndex ≠ none → started.postContentLenLeft ≤ body.flatten.length →
      body.flatten.length = started.postContentLenLeft ∧
        (0 ∈ started.received ++ body.flatten ∨ server.payload[started.contentLen]? = some 0))

instance (server : Server) (started : HttpState) (body : List (List Byte)) :
    Decidable (UndisturbedBody server started body) :=
  inferInstanceAs (Decidable (_ ∧ (_ → _ → _ ∧ (_ ∨ _))))

/-- The condition on a step: it hands over no body bytes, or undisturbed ones. -/
def Undisturbed (site : Site) (server : Server) : Event → Prop
  | .recv connection chain _ => ∀ hs, server.connections connection = some hs →
      ∀ started body, httpRecv site server.nextRequest hs chain = .body started body →
        UndisturbedBody server started body
  | _ => True

instance undisturbedDecidable (site : Site) (server : Server) :
    ∀ event, Decidable (Undisturbed site server event)
  | .accept _ => isTrue trivial
  | .close _ => isTrue trivial
  | .reset _ => isTrue trivial
  | .recv connection chain _ =>
    match found : server.connections connection with
    | none => isTrue (by simp [Undisturbed, found])
    | some hs =>
      match received : httpRecv site server.nextRequest hs chain with
      | .body started body => decidable_of_iff (UndisturbedBody server started body)
          (by simp [Undisturbed, found, received])
      | .rest _ => isTrue (by simp [Undisturbed, found, received])
      | .closed => isTrue (by simp [Undisturbed, found, received])

/-- A request in progress and its share of the buffer. `owner` is the request whose bytes
are in the buffer, which the source does not keep; it is history. -/
structure Holds (server : Server) (hs : HttpState) : Prop where
  numbered : hs.request < server.nextRequest
  counted : hs.received.length + hs.postContentLenLeft = hs.contentLen
  owned : hs.cgiHandlerIndex ≠ none → server.owner = hs.request →
    server.payload.take server.payloadLen = hs.received
  waiting : hs.cgiHandlerIndex ≠ none → server.owner ≠ hs.request → hs.received = []

/-- What holds between any two undisturbed steps. Where a connection is not at a body,
nothing is asked of it. -/
structure Isolated (server : Server) : Prop where
  calls : OwnBodies server
  whole : server.payload.length = maxPayloadLen
  inside : server.payloadLen ≤ maxPayloadLen
  owner : server.owner < server.nextRequest
  holds : ∀ connection hs, server.connections connection = some hs → 0 < hs.postContentLenLeft →
    Holds server hs
  distinct : ∀ one other hs hs', server.connections one = some hs →
    server.connections other = some hs' → 0 < hs.postContentLenLeft → 0 < hs'.postContentLenLeft →
    hs.request = hs'.request → one = other

/-! ## Strings in the buffer -/

/-- A text that ends before a NUL of its own does not see what follows. -/
theorem text_append_of_mem (front back : List Byte) (ended : (0 : Byte) ∈ front) :
    text (front ++ back) = text front := by
  induction front with
  | nil => simp at ended
  | cons byte rest inductionHypothesis =>
    by_cases zero : byte = 0
    · rw [zero, List.cons_append, text_zero, text_zero]
    · have later : (0 : Byte) ∈ rest := by
        rcases List.mem_cons.mp ended with same | later
        · exact absurd same.symm zero
        · exact later
      rw [List.cons_append, text_cons _ _ zero, text_cons _ _ zero, inductionHypothesis later]

/-- A NUL behind bytes ends their text. -/
theorem text_append_zero (front back : List Byte) : text (front ++ 0 :: back) = text front := by
  induction front with
  | nil => exact text_zero back
  | cons byte rest inductionHypothesis =>
    by_cases zero : byte = 0
    · rw [zero, List.cons_append, text_zero, text_zero]
    · rw [List.cons_append, text_cons _ _ zero, text_cons _ _ zero, inductionHypothesis]

/-- A completed body is the string the parser reads, when it holds a NUL or stands
in front of one. -/
theorem cString_body (body behind : List Byte)
    (ended : (0 : Byte) ∈ body ∨ behind.head? = some 0) :
    cString? (body ++ behind) = some (text body) := by
  rcases ended with inside | after
  · have member : (0 : Byte) ∈ body ++ behind := List.mem_append_left _ inside
    rw [cString?, if_pos member, text_append_of_mem body behind inside]
  · cases behind with
    | nil => simp at after
    | cons first rest =>
      obtain rfl : first = 0 := by simpa using after
      have member : (0 : Byte) ∈ body ++ 0 :: rest := by simp
      rw [cString?, if_pos member, text_append_zero body rest]

/-! ## One step -/

/-- Where body bytes come from: a request in progress, or one that begins with
this chain. -/
theorem httpRecv_body {site : Site} {fresh : Nat} {hs started : HttpState}
    {chain body : List (List Byte)} (received : httpRecv site fresh hs chain = .body started body) :
    started = hs ∧ 0 < hs.postContentLenLeft ∨
      started.request = fresh ∧ started.received = [] ∧
        started.postContentLenLeft = started.contentLen ∧ ¬ 0 < hs.postContentLenLeft := by
  unfold httpRecv at received
  split at received
  · simp at received
  · split at received
    · rename_i progress
      simp only [Reception.body.injEq] at received
      exact Or.inl ⟨received.1.symm, progress⟩
    · rename_i idle
      right
      split at received
      · simp at received
      · split at received
        · simp at received
        · simp at received
        · simp at received
        · split at received
          · simp at received
          · split at received
            · simp at received
            · simp only [Reception.body.injEq] at received
              obtain ⟨rfl, _⟩ := received
              exact ⟨rfl, rfl, rfl, idle⟩

/-- What a chain without body bytes leaves: no request in progress, or one that
has received nothing. -/
theorem httpRecv_rest {site : Site} {fresh : Nat} {hs other : HttpState}
    {chain : List (List Byte)} (received : httpRecv site fresh hs chain = .rest other)
    (progress : 0 < other.postContentLenLeft) :
    other.request = fresh ∧ other.received = [] ∧ other.postContentLenLeft = other.contentLen := by
  unfold httpRecv at received
  split at received
  · simp at received
  · split at received
    · simp at received
    · rename_i idle
      split at received
      · simp only [Reception.rest.injEq] at received
        subst received
        exact absurd progress idle
      · split at received
        · simp only [Reception.rest.injEq] at received
          subst received
          exact absurd progress idle
        · simp at received
        · simp only [Reception.rest.injEq] at received
          subst received
          exact absurd progress idle
        · rename_i uri _ _ _
          split at received
          · rename_i denied begun
            simp only [Reception.rest.injEq] at received
            subst received
            have same : denied.postContentLenLeft = hs.postContentLenLeft := by
              unfold httpdPostBegin at begun
              split at begun
              · rw [← (Prod.mk.inj begun).1]
              · split at begun
                · rw [← (Prod.mk.inj begun).1]
                · simp at begun
            exact absurd (same ▸ progress) idle
          · split at received
            · simp only [Reception.rest.injEq] at received
              subst received
              exact ⟨rfl, rfl, rfl⟩
            · simp at received

/-- The buffer behind a chain that fits. -/
def filled (server : Server) (chain : List (List Byte)) : List Byte :=
  server.payload.take server.payloadLen ++ chain.flatten ++
    server.payload.drop (server.payloadLen + chain.flatten.length)

/-- The results of `httpd_post_receive_data`. Each says what is left in the shared buffer,
which the invariant of the connections needs to know. -/
inductive Received (server : Server) (hs : HttpState) (chain : List (List Byte))
    (response : List Byte) : Server × HttpState → Prop where
  | overflow (payload : List Byte) (whole : payload.length = maxPayloadLen) :
      Received server hs chain response ({ server with payload := payload, payloadLen := 0 },
        { hs with cgiHandlerIndex := none, responseFile := none })
  | more (unfinished : hs.postContentLenLeft ≠ 0)
      (fits : server.payloadLen + chain.flatten.length ≤ maxPayloadLen)
      (whole : (filled server chain).length = maxPayloadLen) :
      Received server hs chain response
        ({ server with
            payload := filled server chain
            payloadLen := server.payloadLen + chain.flatten.length }, hs)
  | called (index : Nat) (finished : hs.postContentLenLeft = 0)
      (registered : hs.cgiHandlerIndex = some index)
      (whole : (filled server chain).length = maxPayloadLen) :
      Received server hs chain response
        ({ server with
            payload := cutSeparators (filled server chain)
            payloadLen := 0
            calls := server.calls ++ [⟨hs.request, index, hs.received.take hs.contentLen,
              (cString? (filled server chain)).map extractUriParameters⟩] },
          { hs with responseFile := some response })
  | ignored (finished : hs.postContentLenLeft = 0)
      (whole : (filled server chain).length = maxPayloadLen) :
      Received server hs chain response
        ({ server with payload := filled server chain, payloadLen := 0 },
          { hs with responseFile := none })

/-- `httpd_post_receive_data` on any chain. -/
theorem received (server : Server) (hs : HttpState) (chain : List (List Byte))
    (response : List Byte) (whole : server.payload.length = maxPayloadLen)
    (inside : server.payloadLen ≤ maxPayloadLen) :
    Received server hs chain response (httpdPostReceiveData server hs chain response) := by
  have length := storeChain_length chain server.payload server.payloadLen whole
  have stores := storeChain_fits chain server.payload server.payloadLen whole inside
  unfold httpdPostReceiveData
  cases stored : storeChain server.payload server.payloadLen chain with
  | mk payload rest =>
    obtain ⟨len, overflow⟩ := rest
    rw [stored] at length stores
    cases overflow with
    | true => exact .overflow payload length
    | false =>
      obtain ⟨count, fits, same⟩ := stores rfl
      obtain rfl : payload = filled server chain := same
      obtain rfl : len = server.payloadLen + chain.flatten.length := count
      dsimp only
      by_cases finished : hs.postContentLenLeft = 0
      · rw [if_pos finished]
        split
        · rename_i index registered
          exact .called index finished registered length
        · exact .ignored finished length
      · rw [if_neg finished]
        exact .more finished fits length

/-- A step that replaces one connection keeps the isolation, when the replaced
connection and all others hold their share of the new buffer. -/
theorem Isolated.update {server after : Server} {connection : Nat} {final : HttpState}
    (isolated : Isolated server) (calls : OwnBodies after)
    (whole : after.payload.length = maxPayloadLen) (inside : after.payloadLen ≤ maxPayloadLen)
    (owner : after.owner < after.nextRequest)
    (connections : after.connections = Function.update server.connections connection (some final))
    (own : 0 < final.postContentLenLeft → Holds after final)
    (others : ∀ other hs, other ≠ connection → server.connections other = some hs →
      0 < hs.postContentLenLeft → Holds after hs)
    (apart : ∀ other hs, other ≠ connection → server.connections other = some hs →
      0 < hs.postContentLenLeft → 0 < final.postContentLenLeft → hs.request ≠ final.request) :
    Isolated after where
  calls := calls
  whole := whole
  inside := inside
  owner := owner
  holds := by
    intro other hs found progress
    rw [connections, Function.update_apply] at found
    by_cases same : other = connection
    · rw [if_pos same] at found
      obtain rfl := Option.some.inj found
      exact own progress
    · rw [if_neg same] at found
      exact others other hs same found progress
  distinct := by
    intro one other hs hs' found found' progress progress' same
    rw [connections, Function.update_apply] at found found'
    by_cases first : one = connection
    · by_cases second : other = connection
      · exact first.trans second.symm
      · rw [if_pos first] at found
        rw [if_neg second] at found'
        obtain rfl := Option.some.inj found
        exact absurd same.symm (apart other hs' second found' progress' progress)
    · by_cases second : other = connection
      · rw [if_neg first] at found
        rw [if_pos second] at found'
        obtain rfl := Option.some.inj found'
        exact absurd same (apart one hs first found progress progress')
      · rw [if_neg first] at found
        rw [if_neg second] at found'
        exact isolated.distinct one other hs hs' found found' progress progress' same

/-- What a request must bring when its body bytes reach the buffer: it is no other
connection's, and the filled part is what it has received. -/
structure Brings (server : Server) (connection : Nat) (started : HttpState) : Prop where
  numbered : started.request ≤ server.nextRequest
  counted : started.received.length + started.postContentLenLeft = started.contentLen
  filledPart : started.cgiHandlerIndex ≠ none →
    server.payload.take server.payloadLen = started.received
  apart : ∀ other hs, other ≠ connection → server.connections other = some hs →
    0 < hs.postContentLenLeft → hs.request ≠ started.request

/-- A request in progress, or a new one, brings this when the buffer is its own or
empty. -/
theorem Isolated.brings {site : Site} {server : Server} {connection : Nat}
    {hs started : HttpState} {chain body : List (List Byte)} (isolated : Isolated server)
    (found : server.connections connection = some hs)
    (reception : httpRecv site server.nextRequest hs chain = .body started body)
    (free : server.payloadLen = 0 ∨ server.owner = started.request) :
    Brings server connection started := by
  rcases httpRecv_body reception with ⟨rfl, progress⟩ | ⟨request, nothing, length, _⟩
  · have holds := isolated.holds connection started found progress
    refine ⟨Nat.le_of_lt holds.numbered, holds.counted, fun live => ?_, ?_⟩
    · by_cases owned : server.owner = started.request
      · exact holds.owned live owned
      · rcases free with empty | mine
        · rw [empty, List.take_zero, holds.waiting live owned]
        · exact absurd mine owned
    · intro other hs differs present going same
      exact differs (isolated.distinct other connection hs started present found going progress same)
  · refine ⟨Nat.le_of_eq request, ?_, fun _ => ?_, ?_⟩
    · rw [nothing, List.length_nil, Nat.zero_add, length]
    · rcases free with empty | mine
      · rw [empty, List.take_zero, nothing]
      · have owner := isolated.owner
        omega
    · intro other hs differs present going
      have numbered := (isolated.holds other hs present going).numbered
      omega

/-- The other requests in progress that still have their handlers have received
nothing while a request brings its bytes. -/
theorem Isolated.others {server after : Server} {connection : Nat} {started : HttpState}
    (isolated : Isolated server) (brings : Brings server connection started)
    (free : server.payloadLen = 0 ∨ server.owner = started.request)
    (owner : after.owner = started.request)
    (next : after.nextRequest = server.nextRequest + 1) (other : Nat) (hs : HttpState)
    (differs : other ≠ connection) (found : server.connections other = some hs)
    (progress : 0 < hs.postContentLenLeft) : Holds after hs := by
  have holds := isolated.holds other hs found progress
  have apart := brings.apart other hs differs found progress
  refine ⟨?_, holds.counted, ?_, ?_⟩
  · rw [next]
    exact Nat.lt_succ_of_lt holds.numbered
  · intro _ mine
    exact absurd (mine.symm.trans owner) apart
  · intro live _
    by_cases owned : server.owner = hs.request
    · have same := holds.owned live owned
      rcases free with empty | theirs
      · rw [empty, List.take_zero] at same
        exact same.symm
      · exact absurd (owned.symm.trans theirs) apart
    · exact holds.waiting live owned

/-- A request without bytes to come is not in progress, finished or not. -/
theorem nothing_left (site : Site) {hs : HttpState} (done : hs.postContentLenLeft = 0) :
    ¬ 0 < (if hs.postContentLenLeft = 0 then httpHandlePostFinished site hs
      else hs).postContentLenLeft := by
  intro progress
  rw [if_pos done] at progress
  exact absurd done (Nat.ne_of_gt progress)

/-- The last bytes of a request complete its body: the buffer holds it as a string. -/
theorem Brings.completed {server : Server} {connection : Nat} {started : HttpState}
    {body : List (List Byte)} (brings : Brings server connection started)
    (whole : server.payload.length = maxPayloadLen) (inside : server.payloadLen ≤ maxPayloadLen)
    (live : started.cgiHandlerIndex ≠ none)
    (last : body.flatten.length = started.postContentLenLeft)
    (ended : (0 : Byte) ∈ started.received ++ body.flatten ∨
      server.payload[started.contentLen]? = some 0) :
    (countChain started body).received.take (countChain started body).contentLen =
        started.received ++ body.flatten ∧
      cString? (filled server body) = some (text (started.received ++ body.flatten)) := by
  have front : (server.payload.take server.payloadLen).length = server.payloadLen := by
    rw [List.length_take, whole]
    exact Nat.min_eq_left inside
  have filledPart := brings.filledPart live
  have length : (started.received ++ body.flatten).length = started.contentLen := by
    rw [List.length_append, last, brings.counted]
  have place : server.payloadLen + body.flatten.length = started.contentLen := by
    rw [← length, List.length_append, ← filledPart, front]
  constructor
  · change (started.received ++ body.flatten).take started.contentLen = _
    rw [← length, List.take_length]
  · simp only [filled]
    rw [filledPart, place]
    refine cString_body _ _ (ended.imp_right fun zero => ?_)
    rw [List.head?_drop]
    exact zero

/-- Body bytes that reach the buffer undisturbed keep the isolation. -/
theorem Isolated.rxpbuf {site : Site} {server : Server} {connection : Nat} {started : HttpState}
    {body : List (List Byte)} {response : List Byte} (isolated : Isolated server)
    (brings : Brings server connection started) (undisturbed : UndisturbedBody server started body) :
    Isolated (httpPostRxpbuf site { server with nextRequest := server.nextRequest + 1 } connection
      started body response) := by
  obtain ⟨free, completes⟩ := undisturbed
  have owner : (if server.payloadLen = 0 then started.request else server.owner) =
      started.request := by
    split
    · rfl
    · rename_i some
      exact free.resolve_left some
  have numbered : started.request < server.nextRequest + 1 := Nat.lt_succ_of_le brings.numbered
  have others (after : Server) (same : after.owner = started.request)
      (next : after.nextRequest = server.nextRequest + 1) :=
    isolated.others brings free same next
  have front : (server.payload.take server.payloadLen).length = server.payloadLen := by
    rw [List.length_take, isolated.whole]
    exact Nat.min_eq_left isolated.inside
  unfold httpPostRxpbuf
  dsimp only
  rw [owner]
  have outcome := received
    { server with nextRequest := server.nextRequest + 1, owner := started.request }
    (countChain started body) body response isolated.whole isolated.inside
  have counted (unfinished : (countChain started body).postContentLenLeft ≠ 0) :
      (countChain started body).received.length + (countChain started body).postContentLenLeft =
        started.contentLen := by
    have total := brings.counted
    simp only [countChain, List.length_append] at unfinished ⊢
    split at unfinished
    · exact absurd rfl unfinished
    · rename_i long
      rw [if_neg long]
      omega
  cases ran : httpdPostReceiveData
      { server with nextRequest := server.nextRequest + 1, owner := started.request }
      (countChain started body) body response with
  | mk behind finished =>
    rw [ran] at outcome
    dsimp only
    cases outcome with
    | overflow payload whole =>
      refine isolated.update isolated.calls whole (Nat.zero_le _) numbered rfl ?_
        (others _ rfl rfl) ?_
      · intro progress
        split at progress
        · rename_i done
          exact absurd done (Nat.ne_of_gt progress)
        · rename_i unfinished
          rw [if_neg unfinished]
          exact ⟨numbered, counted unfinished, fun live => absurd rfl live,
            fun live => absurd rfl live⟩
      · intro other hs differs found going _
        split <;> exact brings.apart other hs differs found going
    | more unfinished fits whole =>
      refine isolated.update isolated.calls whole fits numbered rfl ?_ (others _ rfl rfl) ?_
      · intro _
        rw [if_neg unfinished]
        refine ⟨numbered, counted unfinished, fun live _ => ?_, fun _ foreign => absurd rfl foreign⟩
        have filledPart := brings.filledPart live
        simp only [filled, countChain]
        rw [← filledPart, List.take_left' (by rw [List.length_append, front])]
      · intro other hs differs found going _
        split <;> exact brings.apart other hs differs found going
    | called index done registered whole =>
      refine isolated.update ?_ ((cutSeparators_length _).trans whole) (Nat.zero_le _) numbered rfl
        (fun progress => absurd progress (nothing_left site done)) (others _ rfl rfl)
        (fun _ _ _ _ _ progress => absurd progress (nothing_left site done))
      · have live : started.cgiHandlerIndex ≠ none := by
          have same : started.cgiHandlerIndex = some index := registered
          rw [same]
          simp
        have enough : started.postContentLenLeft ≤ body.flatten.length := by
          simp only [countChain] at done
          split at done <;> omega
        obtain ⟨last, ended⟩ := completes live enough
        obtain ⟨bytes, string⟩ := brings.completed isolated.whole isolated.inside live last ended
        intro call member
        rcases List.mem_append.mp member with earlier | new
        · exact isolated.calls call earlier
        · obtain rfl := List.mem_singleton.mp new
          refine ⟨extractUriParameters (text (started.received ++ body.flatten)), ?_, ?_,
            extractUriParameters_length _⟩
          · exact congrArg (Option.map extractUriParameters) string
          · rw [← bytes]
    | ignored done whole =>
      exact isolated.update isolated.calls whole (Nat.zero_le _) numbered rfl
        (fun progress => absurd progress (nothing_left site done)) (others _ rfl rfl)
        (fun _ _ _ _ _ progress => absurd progress (nothing_left site done))

/-- A connection that ends leaves the others and the buffer alone. -/
theorem Isolated.remove {server : Server} (isolated : Isolated server) (connection : Nat) :
    Isolated (server.remove connection) where
  calls := isolated.calls
  whole := isolated.whole
  inside := isolated.inside
  owner := isolated.owner
  holds := by
    intro other hs found progress
    simp only [Server.remove, Function.update_apply] at found
    split at found
    · simp at found
    · have holds := isolated.holds other hs found progress
      exact ⟨holds.numbered, holds.counted, holds.owned, holds.waiting⟩
  distinct := by
    intro one other hs hs' found found'
    simp only [Server.remove, Function.update_apply] at found found'
    split at found
    · simp at found
    · split at found'
      · simp at found'
      · exact isolated.distinct one other hs hs' found found'

/-- A request number given away does not disturb the isolation. -/
theorem Isolated.number {server : Server} (isolated : Isolated server) :
    Isolated { server with nextRequest := server.nextRequest + 1 } where
  calls := isolated.calls
  whole := isolated.whole
  inside := isolated.inside
  owner := Nat.lt_succ_of_lt isolated.owner
  holds := by
    intro connection hs found progress
    have holds := isolated.holds connection hs found progress
    exact ⟨Nat.lt_succ_of_lt holds.numbered, holds.counted, holds.owned, holds.waiting⟩
  distinct := isolated.distinct

/-- Every undisturbed step keeps the isolation. -/
theorem Isolated.keeps {site : Site} (server : Server) (event : Event) (next : Server)
    (isolated : Isolated server) (undisturbed : Undisturbed site server event)
    (taken : step site server event = some next) : Isolated next := by
  cases event with
  | accept connection =>
    simp only [step] at taken
    split at taken
    · simp at taken
    · obtain rfl := Option.some.inj taken
      refine isolated.update isolated.calls isolated.whole isolated.inside isolated.owner rfl
        (fun progress => absurd progress (by decide)) (fun other hs _ found progress => ?_)
        (fun _ _ _ _ _ progress => absurd progress (by decide))
      have holds := isolated.holds other hs found progress
      exact ⟨holds.numbered, holds.counted, holds.owned, holds.waiting⟩
  | recv connection chain response =>
    simp only [step] at taken
    split at taken
    · simp at taken
    · rename_i hs found
      split at taken
      · rename_i started body reception
        obtain rfl := Option.some.inj taken
        have met := undisturbed hs found started body reception
        exact isolated.rxpbuf (isolated.brings found reception met.1) met
      · rename_i other reception
        obtain rfl := Option.some.inj taken
        have begins := httpRecv_rest reception
        have owner := isolated.owner
        refine isolated.number.update isolated.calls isolated.whole isolated.inside
          (Nat.lt_succ_of_lt owner) rfl (fun progress => ?_) (fun peer hs' _ present progress => ?_)
          (fun peer hs' _ present progress going => ?_)
        · obtain ⟨request, nothing, length⟩ := begins progress
          refine ⟨request ▸ Nat.lt_succ_self _, ?_, fun _ mine => ?_, fun _ _ => nothing⟩
          · rw [nothing, List.length_nil, Nat.zero_add, length]
          · exact absurd (mine.trans request) (Nat.ne_of_lt owner)
        · have holds := isolated.number.holds peer hs' present progress
          exact ⟨holds.numbered, holds.counted, holds.owned, holds.waiting⟩
        · have numbered := (isolated.holds peer hs' present progress).numbered
          rw [(begins going).1]
          exact Nat.ne_of_lt numbered
      · obtain rfl := Option.some.inj taken
        exact isolated.number.remove connection
  | close connection =>
    simp only [step] at taken
    split at taken
    · simp at taken
    · obtain rfl := Option.some.inj taken
      exact isolated.remove connection
  | reset connection =>
    simp only [step] at taken
    split at taken
    · simp at taken
    · obtain rfl := Option.some.inj taken
      exact isolated.remove connection

/-- The server begins isolated. -/
theorem fresh_isolated : Isolated fresh where
  calls := by
    intro call member
    simp [fresh] at member
  whole := by simp [fresh]
  inside := Nat.zero_le _
  owner := by decide
  holds := by
    intro connection hs found
    simp [fresh] at found
  distinct := by
    intro one other hs hs' found
    simp [fresh] at found

/-- In every undisturbed interleaving of any number of connections, every handler call gets
the parameters of its own request's body. A run is any interleaving of any number of
connections, and every call of it is covered. That the condition cannot be spared is shown
behind it. -/
theorem handler_parameters_own (site : Site) (events : List Event)
    (undisturbed : Guarded (step site) (Undisturbed site) fresh events) :
    Always (step site) OwnBodies fresh events :=
  always_of_guarded Isolated OwnBodies (fun _ isolated => isolated.calls) Isolated.keeps
    fresh_isolated events undisturbed

/-- A site with one handler. -/
def sampleSite : Site := ⟨[ascii "/login.cgi"], fun _ => true⟩

/-- The header of a request with a body of a given length. -/
def sampleHeader (contentLength : String) : List Byte :=
  ascii "POST /login.cgi HTTP/1.1\r\nContent-Length: " ++ ascii contentLength ++ crlf ++ crlf

/-- Two requests on two connections. The second body comes behind the first and is
longer, so a NUL stands behind it. -/
def inTurn : List Event :=
  [.accept 0, .accept 1, .recv 0 [sampleHeader "9"] [], .recv 1 [sampleHeader "11"] [],
    .recv 0 [ascii "usr", ascii "name=a"] [], .recv 1 [ascii "usrname=bcd"] []]

/-- Requests whose bodies come in turn are served from their own bodies. -/
theorem in_turn_own : Always (step sampleSite) OwnBodies fresh inTurn :=
  handler_parameters_own sampleSite inTurn (by decide)

/-- A request is aborted behind the first bytes of its body, and another one
follows. -/
def abortedBody : List Event :=
  [.accept 0, .recv 0 [sampleHeader "9" ++ ascii "usrn"] [], .close 0, .accept 1,
    .recv 1 [sampleHeader "3" ++ ascii "x=1"] []]

/-- The second request's handler is called with bytes of the aborted one. -/
theorem aborted_body_leaks : ¬ Always (step sampleSite) OwnBodies fresh abortedBody := by
  intro along
  have ends : (run (step sampleSite) fresh abortedBody).map Server.calls =
      some [⟨2, 0, ascii "x=1", some [⟨ascii "usrnx", some (ascii "1")⟩]⟩] := by
    decide
  obtain ⟨final, completed, calls⟩ := Option.map_eq_some_iff.mp ends
  obtain ⟨params, given, own, _⟩ := always_final along completed _ (calls ▸ List.mem_singleton_self _)
  obtain rfl := Option.some.inj given
  revert own
  decide

end UcosProxy.PostIsolation
