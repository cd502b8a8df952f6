import UcosProxy.FirmwareImage
import UcosProxy.TftpReceive

/-!
# The update thread beside the web server

`user_tftp_client_thread` waits for an update request, runs one transfer and waits
again. The web server lives in another thread: `http_accept` writes the address of
every accepted connection into the client's control block, and
`update_cgi_interface` stores the sizes and the file name, shows the status and
posts `start_sem`, one after the other. Here the two threads take their steps in
any order; the receive callback belongs to the web server's thread, so it does not
fall inside a request, and the request's own steps may be cut anywhere by the
update thread.

The semaphore `start_sem` is kept as the hosts whose requests posted it, oldest
first, so its count is a length and the host whose request started a transfer is
known. Two laws follow. The length counter of a transfer counts the stored bytes
exactly as long as no request's zero is written into a transfer that has counted
bytes. Every packet of a transfer goes to the requesting host exactly as long as
that host's connection is the last one accepted whenever the client sends.

A file name is a text here. That the buffers of the request hold it, as they do for
values of less than 128 bytes and names of less than 64, is not asked. The priorities
of the two threads are not used: every order is allowed.
-/

namespace UcosProxy.UpdateThread

open Bytes RestartingSum TftpClient TftpSteps FirmwareImage TftpReceive Runs

variable {Flash : Type}

/-- The text behind the last `%5C` at or before an offset, else the whole text. -/
def cropAt (raw : List Byte) : Nat → List Byte
  | 0 => if (ascii "%5C").isPrefixOf raw then raw.drop 3 else raw
  | offset + 1 =>
    if (ascii "%5C").isPrefixOf (raw.drop (offset + 1)) then raw.drop (offset + 1 + 3)
    else cropAt raw offset

/-- `update_filename_crop` -/
def updateFilenameCrop (raw : List Byte) : List Byte := cropAt raw raw.length

/-- Where `user_tftp_client_thread` stands. The failing way out takes two steps, between
which the web server may begin a request. -/
inductive ThreadPhase where
  | clearStart
  | waitStart
  | init
  | running
  | failName
  | failStatus
deriving DecidableEq

/-- Where `update_cgi_interface` stands, with the host of its connection. A request has
stored its sizes, then its name, then its status, and posts `start_sem` last. -/
inductive WebPhase where
  | idle
  | sized (host : IpAddr) (value : List Byte)
  | named (host : IpAddr)
  | shown (host : IpAddr)
deriving DecidableEq

/-- The two threads and what they share. The transfer itself, with its frame buffer and its
receive semaphore, is the loop. The hosts are what the source does not keep: it has one
address for whoever connected last. -/
structure World (Flash : Type) where
  loop : Loop Flash
  thread : ThreadPhase
  web : WebPhase
  /-- `start_sem`, as the hosts whose requests posted it. -/
  posts : List IpAddr
  /-- History: the hosts of the accepted connections. -/
  accepted : List IpAddr
  /-- History: the host whose request started the transfer. -/
  transferHost : IpAddr

/-- The events of the system. A request names its connection by its place among the accepted
ones, and comes from a connection that was accepted before. -/
inductive Event where
  | accept (ip : IpAddr)
  | updateRequest (connection : Nat) (value : List Byte)
  | updateContinue
  | thread
  | timeout
  | callback (bytes : List Byte) (port : Nat)
deriving DecidableEq

/-- A change of the client's control block. -/
def World.modify (world : World Flash) (change : Tftp Flash → Tftp Flash) : World Flash :=
  { world with loop := { world.loop with tftp := change world.loop.tftp } }

/-- The first assignments of `update_cgi_interface`. -/
def storeSizes (value : List Byte) (tftp : Tftp Flash) : Tftp Flash :=
  { tftp with
    totalFileLen := (atoi value % u32Modulus).toNat
    fileLen := 0 }

/-- The next step of a request that has begun. -/
def continueRequest (world : World Flash) : Option (World Flash) :=
  match world.web with
  | .idle => none
  | .sized host value => some { world.modify fun tftp =>
      { tftp with updateFilename := updateFilenameCrop value } with web := .named host }
  | .named host => some { world.modify fun tftp =>
      { tftp with updateSsiStatus := .updateDoing } with web := .shown host }
  | .shown host => some { world with
      posts := if world.posts.length < 65535 then world.posts ++ [host] else world.posts
      web := .idle }

/-- The next step of `user_tftp_client_thread`. -/
def threadStep (platform : Platform Flash) (world : World Flash) : Option (World Flash) :=
  match world.thread with
  | .clearStart => some { world with posts := [], thread := .waitStart }
  | .waitStart =>
    match world.posts with
    | [] => none
    | host :: rest => some { world with posts := rest, transferHost := host, thread := .init }
  | .init => some { world with
      loop := { world.loop with
        tftp := tftpFirmwareUpdateInit platform world.loop.tftp
        phase := .request }
      thread := .running }
  | .running =>
    match world.loop.phase with
    | .done .failed => some { world with thread := .failName }
    | .done .succeeded => some { world with thread := .clearStart }
    | _ => (world.loop.advance platform).map fun loop => { world with loop := loop }
  | .failName => some { world.modify fun tftp => { tftp with updateFilename := [] } with
      thread := .failStatus }
  | .failStatus => some { world.modify fun tftp => { tftp with updateSsiStatus := .updateFailed } with
      thread := .clearStart }

/-- One step of the system. The web server's thread does one thing at a time. -/
def step (platform : Platform Flash) (world : World Flash) : Event → Option (World Flash)
  | .accept ip =>
    if world.web = .idle then
      some { world.modify fun tftp => { tftp with serverIp := ip } with
        accepted := world.accepted ++ [ip] }
    else none
  | .updateRequest connection value =>
    if world.web = .idle then
      match world.accepted[connection]? with
      | none => none
      | some host => some { world.modify (storeSizes value) with web := .sized host value }
    else none
  | .updateContinue => continueRequest world
  | .thread => threadStep platform world
  | .timeout =>
    if world.thread = .running then
      world.loop.timeout.map fun loop => { world with loop := loop }
    else none
  | .callback bytes port =>
    if world.web = .idle then some { world with loop := world.loop.callback bytes port } else none

/-- The system behind the creation of its threads. -/
def boot (tftp : Tftp Flash) : World Flash where
  loop := ⟨{ tftp with stored := [], sent := [], recvLen := 0 }, 0, .done .failed⟩
  thread := .clearStart
  web := .idle
  posts := []
  accepted := []
  transferHost := 0

/-- A transfer has begun and not yet left its loop. A loop that has come out holds its
client until the thread has looked at the verdict, and is no transfer any more. -/
def World.transferring (world : World Flash) : Prop :=
  world.thread = .running ∧ ∀ exit, world.loop.phase ≠ .done exit

/-! ## What a step can do -/

/-- The steps of the system: where the two threads stood, and the state behind. The
invariants of the system are proved along these cases, so that no later proof takes the step
function apart. -/
inductive Stepped (platform : Platform Flash) (world : World Flash) : Event → World Flash → Prop where
  | accept (ip : IpAddr) (idle : world.web = .idle) :
      Stepped platform world (.accept ip)
        { world.modify fun tftp => { tftp with serverIp := ip } with
          accepted := world.accepted ++ [ip] }
  | updateRequest (connection : Nat) (value : List Byte) (host : IpAddr) (idle : world.web = .idle)
      (found : world.accepted[connection]? = some host) :
      Stepped platform world (.updateRequest connection value)
        { world.modify (storeSizes value) with web := .sized host value }
  | sized (host : IpAddr) (value : List Byte) (web : world.web = .sized host value) :
      Stepped platform world .updateContinue
        { world.modify fun tftp => { tftp with updateFilename := updateFilenameCrop value } with
          web := .named host }
  | named (host : IpAddr) (web : world.web = .named host) :
      Stepped platform world .updateContinue
        { world.modify fun tftp => { tftp with updateSsiStatus := .updateDoing } with
          web := .shown host }
  | shown (host : IpAddr) (web : world.web = .shown host) :
      Stepped platform world .updateContinue
        { world with
          posts := if world.posts.length < 65535 then world.posts ++ [host] else world.posts
          web := .idle }
  | clearStart (thread : world.thread = .clearStart) :
      Stepped platform world .thread { world with posts := [], thread := .waitStart }
  | waitStart (host : IpAddr) (rest : List IpAddr) (thread : world.thread = .waitStart)
      (posts : world.posts = host :: rest) :
      Stepped platform world .thread
        { world with posts := rest, transferHost := host, thread := .init }
  | init (thread : world.thread = .init) :
      Stepped platform world .thread
        { world with
          loop := { world.loop with
            tftp := tftpFirmwareUpdateInit platform world.loop.tftp
            phase := .request }
          thread := .running }
  | failed (thread : world.thread = .running) (phase : world.loop.phase = .done .failed) :
      Stepped platform world .thread { world with thread := .failName }
  | succeeded (thread : world.thread = .running) (phase : world.loop.phase = .done .succeeded) :
      Stepped platform world .thread { world with thread := .clearStart }
  | advance (loop : Loop Flash) (thread : world.thread = .running)
      (advanced : world.loop.advance platform = some loop) :
      Stepped platform world .thread { world with loop := loop }
  | failName (thread : world.thread = .failName) :
      Stepped platform world .thread
        { world.modify fun tftp => { tftp with updateFilename := [] } with thread := .failStatus }
  | failStatus (thread : world.thread = .failStatus) :
      Stepped platform world .thread
        { world.modify fun tftp => { tftp with updateSsiStatus := .updateFailed } with
          thread := .clearStart }
  | timeout (thread : world.thread = .running)
      (waits : world.loop.phase = .pend ∧ world.loop.recvSem = 0) :
      Stepped platform world .timeout
        { world with loop := { world.loop with phase := .done .failed } }
  | callback (bytes : List Byte) (port : Nat) (idle : world.web = .idle) :
      Stepped platform world (.callback bytes port)
        { world with loop := world.loop.callback bytes port }

/-- A step that the update thread took is one of its own. -/
theorem threadStepped {platform : Platform Flash} {world next : World Flash}
    (taken : threadStep platform world = some next) : Stepped platform world .thread next := by
  unfold threadStep at taken
  cases thread : world.thread with
  | clearStart =>
    simp only [thread] at taken
    obtain rfl := Option.some.inj taken
    exact .clearStart thread
  | waitStart =>
    simp only [thread] at taken
    cases posts : world.posts with
    | nil => simp [posts] at taken
    | cons host rest =>
      simp only [posts] at taken
      obtain rfl := Option.some.inj taken
      exact .waitStart host rest thread posts
  | init =>
    simp only [thread] at taken
    obtain rfl := Option.some.inj taken
    exact .init thread
  | running =>
    simp only [thread] at taken
    cases phase : world.loop.phase with
    | done exit =>
      cases exit with
      | failed =>
        simp only [phase] at taken
        obtain rfl := Option.some.inj taken
        exact .failed thread phase
      | succeeded =>
        simp only [phase] at taken
        obtain rfl := Option.some.inj taken
        exact .succeeded thread phase
    | _ =>
      simp only [phase] at taken
      obtain ⟨loop, advanced, rfl⟩ := Option.map_eq_some_iff.mp taken
      exact thread ▸ .advance loop thread advanced
  | failName =>
    simp only [thread] at taken
    obtain rfl := Option.some.inj taken
    exact .failName thread
  | failStatus =>
    simp only [thread] at taken
    obtain rfl := Option.some.inj taken
    exact .failStatus thread

/-- A step that was taken is one of these. -/
theorem stepped {platform : Platform Flash} {world next : World Flash} {event : Event}
    (taken : step platform world event = some next) : Stepped platform world event next := by
  cases event with
  | accept ip =>
    simp only [step, Option.ite_none_right_eq_some, Option.some.injEq] at taken
    obtain ⟨idle, rfl⟩ := taken
    exact .accept ip idle
  | updateRequest connection value =>
    simp only [step, Option.ite_none_right_eq_some] at taken
    obtain ⟨idle, taken⟩ := taken
    cases found : world.accepted[connection]? with
    | none => simp [found] at taken
    | some host =>
      simp only [found, Option.some.injEq] at taken
      obtain rfl := taken
      exact .updateRequest connection value host idle found
  | updateContinue =>
    simp only [step] at taken
    unfold continueRequest at taken
    cases web : world.web with
    | idle => simp [web] at taken
    | sized host value =>
      simp only [web, Option.some.injEq] at taken
      obtain rfl := taken
      exact .sized host value web
    | named host =>
      simp only [web, Option.some.injEq] at taken
      obtain rfl := taken
      exact .named host web
    | shown host =>
      simp only [web, Option.some.injEq] at taken
      obtain rfl := taken
      exact .shown host web
  | thread => exact threadStepped taken
  | timeout =>
    simp only [step, Option.ite_none_right_eq_some] at taken
    obtain ⟨runs, taken⟩ := taken
    obtain ⟨loop, left, rfl⟩ := Option.map_eq_some_iff.mp taken
    obtain ⟨waits, rfl⟩ := timeout_eq_some left
    exact .timeout runs waits
  | callback bytes port =>
    simp only [step, Option.ite_none_right_eq_some, Option.some.injEq] at taken
    obtain ⟨idle, rfl⟩ := taken
    exact .callback bytes port idle

/-- Only a transfer goes on. -/
theorem transferring_of_advance {platform : Platform Flash} {world : World Flash}
    {loop : Loop Flash} (runs : world.thread = .running)
    (advanced : world.loop.advance platform = some loop) : world.transferring := by
  refine ⟨runs, ?_⟩
  intro exit done
  simp [Loop.advance, done] at advanced

/-! ## The length of the image -/

/-- The length counter counts the stored bytes while the transfer runs, no stored page went
past the size of the update area, and a commit states the length of the stored image. The
limit is on what is stored and not on the counter, because the counter is raised before it
is compared. -/
structure Accounted (platform : Platform Flash) (world : World Flash) : Prop where
  counted : world.transferring → world.loop.tftp.fileLen = (storedImage world.loop.tftp).length
  limit : (storedImage world.loop.tftp).length ≤ platform.updateFlashMemorySize
  committed : world.thread = .running → world.loop.phase = .done .succeeded →
    world.loop.tftp.updateCfg.updateSize = (storedImage world.loop.tftp).length

/-- A request writes its zero outside transfers, or over a zero. -/
def ZeroOutsideTransfers (world : World Flash) : Event → Prop
  | .updateRequest _ _ => world.transferring → world.loop.tftp.fileLen = 0
  | _ => True

/-- What holds between any two steps of such runs. The number of the last block counts the
stored ones, which bounds the image and keeps its counter from wrapping. -/
structure Books (platform : Platform Flash) (world : World Flash) : Prop
    extends Accounted platform world where
  whole : world.loop.tftp.recvLen ≤ world.loop.tftp.frameBuffer.length
  blocks : world.transferring → world.loop.tftp.prevBlock = world.loop.tftp.stored.length
  pages : ∀ page ∈ world.loop.tftp.stored, page.payload.length ≤ tftpBlockSize

/-- Pages of at most a block make an image of at most as many blocks. -/
theorem file_length_le (pages : List Page)
    (bounded : ∀ page ∈ pages, page.payload.length ≤ tftpBlockSize) :
    (file pages).length ≤ tftpBlockSize * pages.length := by
  induction pages with
  | nil => exact Nat.le_refl 0
  | cons page rest inductionHypothesis =>
    have first := bounded page List.mem_cons_self
    have later := inductionHypothesis fun other member =>
      bounded other (List.mem_cons_of_mem page member)
    simp only [file, List.flatMap_cons, List.length_append, List.length_cons] at later ⊢
    rw [Nat.mul_succ]
    omega

/-- What the accounts read of the client. A step that leaves these alone leaves every
account alone. -/
structure SameAccounts (before after : Tftp Flash) : Prop where
  stored : after.stored = before.stored
  fileLen : after.fileLen = before.fileLen
  prevBlock : after.prevBlock = before.prevBlock
  updateCfg : after.updateCfg = before.updateCfg
  whole : before.recvLen ≤ before.frameBuffer.length → after.recvLen ≤ after.frameBuffer.length

/-- Nothing that the accounts read has changed, and the transfer stands where it
stood or began to stand outside. -/
theorem Books.same {platform : Platform Flash} {world next : World Flash}
    (books : Books platform world) (same : SameAccounts world.loop.tftp next.loop.tftp)
    (transferring : next.transferring → world.transferring)
    (succeeded : next.thread = .running → next.loop.phase = .done .succeeded →
      world.thread = .running ∧ world.loop.phase = .done .succeeded) : Books platform next where
  counted := by
    intro runs
    rw [storedImage, same.fileLen, same.stored]
    exact books.counted (transferring runs)
  limit := by
    rw [storedImage, same.stored]
    exact books.limit
  committed := by
    intro runs done
    obtain ⟨ran, was⟩ := succeeded runs done
    rw [storedImage, same.updateCfg, same.stored]
    exact books.committed ran was
  whole := same.whole books.whole
  blocks := by
    intro runs
    rw [same.prevBlock, same.stored]
    exact books.blocks (transferring runs)
  pages := same.stored ▸ books.pages

/-- What the accounts say of the client once a block is stored. It is what the step that
stores gives back to the accounts, with the counter equal to the image again. -/
structure Grown (platform : Platform Flash) (tftp : Tftp Flash) : Prop where
  counted : tftp.fileLen = (storedImage tftp).length
  limit : (storedImage tftp).length ≤ platform.updateFlashMemorySize
  blocks : tftp.prevBlock = tftp.stored.length
  pages : ∀ page ∈ tftp.stored, page.payload.length ≤ tftpBlockSize

/-- A stored block is counted: the block number has sixteen bits, so that the length of
the image stays below the wrap of its counter. -/
theorem Books.stores {platform : Platform Flash} {world : World Flash} {after : Tftp Flash}
    {len : Nat} (books : Books platform world) (ran : world.transferring)
    (stores : Stores platform len world.loop.tftp after) : Grown platform after := by
  have pageLength : (framePage world.loop.tftp len).payload.length = len :=
    framePage_length world.loop.tftp len (stores.recvLen ▸ books.whole) stores.inside
  have grown := storedImage_snoc world.loop.tftp after _ stores.stored
  have counted := books.counted ran
  have blocks := books.blocks ran
  have small : world.loop.tftp.fileLen + len < u32Modulus := by
    have total := file_length_le world.loop.tftp.stored books.pages
    have bound := wordAt_le world.loop.tftp.frameBuffer 2
    have inside := stores.inside
    rw [stores.next, blocks] at bound
    rw [counted, storedImage]
    simp only [tftpBlockSize, u32Modulus] at total inside ⊢
    omega
  have fileLen : after.fileLen = (storedImage after).length := by
    rw [stores.fileLen, Nat.mod_eq_of_lt small, grown, pageLength, counted]
  refine ⟨fileLen, ?_, ?_, ?_⟩
  · rw [← fileLen, stores.fileLen]
    exact stores.fits
  · rw [stores.prevBlock, stores.stored, List.length_append, List.length_singleton, blocks]
  · intro page member
    rw [stores.stored] at member
    rcases List.mem_append.mp member with earlier | last
    · exact books.pages page earlier
    · rw [List.mem_singleton.mp last, pageLength]
      exact stores.inside

/-- A step of the receive loop inside a transfer keeps the accounts. -/
theorem Books.advance {platform : Platform Flash} {world : World Flash} {loop : Loop Flash}
    (books : Books platform world) (runs : world.thread = .running)
    (advanced : world.loop.advance platform = some loop) :
    Books platform { world with loop := loop } := by
  cases advances advanced with
  | request phase =>
    have sends := tftpSendto_addressed (readfileRequest world.loop.tftp.updateFilename ++ [0])
      (readfileRequest world.loop.tftp.updateFilename).length world.loop.tftp
    exact books.same ⟨rfl, rfl, rfl, rfl, fun whole => Nat.le_trans whole sends.frame⟩
      (fun _ => ⟨runs, by simp [phase]⟩) (fun _ done => by simp at done)
  | clear phase =>
    exact books.same ⟨rfl, rfl, rfl, rfl, id⟩ (fun _ => ⟨runs, by simp [phase]⟩)
      (fun _ done => by simp at done)
  | pend left phase woken =>
    exact books.same ⟨rfl, rfl, rfl, rfl, id⟩ (fun _ => ⟨runs, by simp [phase]⟩)
      (fun _ done => by simp at done)
  | process after verdict phase body =>
    have ran : world.transferring := ⟨runs, by simp [phase]⟩
    have outcome := processed platform world.loop.tftp
    have frame := tftpProcess_addressed platform world.loop.tftp
    rw [body] at outcome frame
    have kept : after.recvLen ≤ after.frameBuffer.length := by
      rw [frame.recvLen]
      exact Nat.le_trans books.whole frame.frame
    cases outcome with
    | again _ quiet =>
      exact books.same ⟨quiet.stored, quiet.fileLen, quiet.prevBlock, quiet.updateCfg, fun _ => kept⟩
        (fun _ => ran) (fun _ done => by simp [Loop.follow] at done)
    | leave _ same =>
      have untouched : (storedImage after).length = (storedImage world.loop.tftp).length := by
        rw [storedImage, same.stored, storedImage]
      refine ⟨⟨fun still => absurd rfl (still.2 .failed), ?_, fun _ done => ?_⟩, kept,
        fun still => absurd rfl (still.2 .failed), same.stored ▸ books.pages⟩
      · exact untouched ▸ books.limit
      · simp [Loop.follow] at done
    | store _ len stores =>
      have grown := books.stores ran stores
      refine ⟨⟨fun _ => grown.counted, grown.limit, fun _ done => ?_⟩, kept,
        fun _ => grown.blocks, grown.pages⟩
      simp [Loop.follow] at done
  | acknowledge len after exit phase body =>
    have ran : world.transferring := ⟨runs, by simp [phase]⟩
    have outcome := acknowledged platform len world.loop.tftp
    have frame := tftpAcknowledge_addressed platform len world.loop.tftp
    rw [body] at outcome frame
    have kept : after.recvLen ≤ after.frameBuffer.length := by
      rw [frame.recvLen]
      exact Nat.le_trans books.whole frame.frame
    cases outcome with
    | more _ quiet _ =>
      exact books.same ⟨quiet.stored, quiet.fileLen, quiet.prevBlock, quiet.updateCfg, fun _ => kept⟩
        (fun _ => ran) (fun _ done => by simp [Loop.conclude] at done)
    | refused _ quiet _ _ =>
      exact books.same ⟨quiet.stored, quiet.fileLen, quiet.prevBlock, quiet.updateCfg, fun _ => kept⟩
        (fun _ => ran) (fun _ done => by simp [Loop.conclude] at done)
    | committed _ _ _ sameStored _ cfg _ =>
      have image : (storedImage after).length = (storedImage world.loop.tftp).length := by
        rw [storedImage, sameStored, storedImage]
      refine ⟨⟨fun still => absurd rfl (still.2 .succeeded), ?_, fun _ _ => ?_⟩, kept,
        fun still => absurd rfl (still.2 .succeeded), ?_⟩
      · exact image ▸ books.limit
      · change after.updateCfg.updateSize = (storedImage after).length
        rw [cfg, committedCfg, image]
        exact books.counted ran
      · exact sameStored ▸ books.pages

/-- A step that leaves thread and loop phase alone keeps the accounts with the
client's part of them. -/
theorem Books.aside {platform : Platform Flash} {world next : World Flash}
    (books : Books platform world) (same : SameAccounts world.loop.tftp next.loop.tftp)
    (thread : next.thread = world.thread) (phase : next.loop.phase = world.loop.phase) :
    Books platform next := by
  refine books.same same ?_ ?_
  · rintro ⟨runs, goes⟩
    exact ⟨thread ▸ runs, phase ▸ goes⟩
  · intro runs done
    exact ⟨thread ▸ runs, phase ▸ done⟩

/-- Every step keeps the accounts, provided that a request's zero does no harm. -/
theorem Books.keeps {platform : Platform Flash} (world : World Flash) (event : Event)
    (next : World Flash) (books : Books platform world) (zero : ZeroOutsideTransfers world event)
    (taken : step platform world event = some next) : Books platform next := by
  -- outside a transfer no counter is read, and only a loop that succeeded committed
  have rests (other : World Flash) (same : SameAccounts world.loop.tftp other.loop.tftp)
      (outside : other.thread ≠ .running) : Books platform other :=
    books.same same (fun ran => absurd ran.1 outside) (fun runs => absurd runs outside)
  cases stepped taken with
  | accept ip idle => exact books.aside ⟨rfl, rfl, rfl, rfl, id⟩ rfl rfl
  | updateRequest connection value host idle found =>
    refine ⟨⟨?_, books.limit, books.committed⟩, books.whole, books.blocks, books.pages⟩
    intro ran
    have nothing : world.loop.tftp.fileLen = 0 := zero ran
    have counted := books.counted ran
    exact nothing.symm.trans counted
  | sized host value web => exact books.aside ⟨rfl, rfl, rfl, rfl, id⟩ rfl rfl
  | named host web => exact books.aside ⟨rfl, rfl, rfl, rfl, id⟩ rfl rfl
  | shown host web => exact books.aside ⟨rfl, rfl, rfl, rfl, id⟩ rfl rfl
  | clearStart thread => exact rests _ ⟨rfl, rfl, rfl, rfl, id⟩ (by simp)
  | waitStart host rest thread posts => exact rests _ ⟨rfl, rfl, rfl, rfl, id⟩ (by simp)
  | init thread =>
    refine ⟨⟨fun _ => rfl, Nat.zero_le _, fun _ done => by simp at done⟩, books.whole,
      fun _ => rfl, ?_⟩
    intro page member
    simp [tftpFirmwareUpdateInit] at member
  | failed thread phase => exact rests _ ⟨rfl, rfl, rfl, rfl, id⟩ (by simp)
  | succeeded thread phase => exact rests _ ⟨rfl, rfl, rfl, rfl, id⟩ (by simp)
  | advance loop thread advanced => exact books.advance thread advanced
  | failName thread => exact rests _ ⟨rfl, rfl, rfl, rfl, id⟩ (by simp)
  | failStatus thread => exact rests _ ⟨rfl, rfl, rfl, rfl, id⟩ (by simp)
  | timeout thread waits =>
    exact books.same ⟨rfl, rfl, rfl, rfl, id⟩ (fun ran => absurd rfl (ran.2 .failed))
      (fun _ done => by simp at done)
  | callback bytes port idle =>
    exact books.aside ⟨rfl, rfl, rfl, rfl, fun _ => overwrite_length_le _ _⟩ rfl rfl

/-- A zero written into a transfer that has counted bytes breaks the account. -/
theorem Books.needed {platform : Platform Flash} (world : World Flash) (event : Event)
    (next : World Flash) (books : Books platform world)
    (taken : step platform world event = some next) (accounted : Accounted platform next) :
    ZeroOutsideTransfers world event := by
  cases stepped taken with
  | updateRequest connection value host idle found =>
    intro ran
    have zero : 0 = (storedImage world.loop.tftp).length := accounted.counted ran
    rw [books.counted ran, ← zero]
  | _ => trivial

/-- The accounts are in order behind the creation of the threads. -/
theorem boot_books (platform : Platform Flash) (tftp : Tftp Flash) :
    Books platform (boot tftp) where
  counted := fun ran => absurd ran.1 (by simp [boot])
  limit := Nat.zero_le _
  committed := fun runs => absurd runs (by simp [boot])
  whole := Nat.zero_le _
  blocks := fun ran => absurd ran.1 (by simp [boot])
  pages := by
    intro page member
    simp [boot] at member

/-- In every interleaving of requests with transfers the counter is the stored length, the
limit is kept and the committed size is the image's, exactly when no request writes its zero
into a transfer that has counted bytes. A request that comes between two blocks zeroes the
counter of a transfer that goes on, and the next block makes the difference last. -/
theorem image_length_counted (platform : Platform Flash) (tftp : Tftp Flash) (events : List Event) :
    Always (step platform) (Accounted platform) (boot tftp) events ↔
      Guarded (step platform) ZeroOutsideTransfers (boot tftp) events :=
  always_iff_guarded (Books platform) (Accounted platform) (fun _ books => books.toAccounted)
    Books.keeps Books.needed (boot_books platform tftp) events

/-- A host opens a connection, and an update request comes from there in its four steps. The
server closes the connection behind its answer, so the next request needs another one. -/
def requestUpdate (connection : Nat) (value : List Byte) : List Event :=
  [.accept 0xc0a80002, .updateRequest connection value, .updateContinue, .updateContinue,
    .updateContinue]

/-- The thread takes some steps. -/
def threadSteps (count : Nat) : List Event := List.replicate count .thread

/-- A transfer that stores one full block, a second request, and the last block. -/
def secondRequest : List Event :=
  [.thread] ++ requestUpdate 0 (ascii "a.bin") ++ threadSteps 4 ++
    [.callback (dataPacket 1 (zeroSumHead ++ List.replicate 244 1)) 5000] ++ threadSteps 4 ++
    requestUpdate 1 (ascii "a.bin")

/-- The second request makes the transfer forget the bytes it has stored. -/
theorem second_request_miscounts :
    ¬ Always (step samplePlatform) (Accounted samplePlatform) (boot sampleClient)
      secondRequest := by
  intro along
  have ends : (run (step samplePlatform) (boot sampleClient) secondRequest).map (fun world =>
      (world.thread, world.loop.phase, world.loop.tftp.fileLen,
        (storedImage world.loop.tftp).length)) = some (.running, .pend, 0, 256) := by
    decide +kernel
  obtain ⟨final, completed, facts⟩ := Option.map_eq_some_iff.mp ends
  simp only [Prod.mk.injEq] at facts
  obtain ⟨runs, phase, fileLen, length⟩ := facts
  have counted := (always_final along completed).counted ⟨runs, by simp [phase]⟩
  omega

end UcosProxy.UpdateThread
