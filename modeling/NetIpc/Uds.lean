/-
This file models a Unix socket session (`transport/posix.rs`): sending a message,
cutting it into packets when it is too long for one, and receiving a message,
waiting for packets with an optional deadline and an optional abort flag.

The session talks to the outside through five system calls. They are operations of
an arbitrary environment `Os σ` on a state `σ` of its own, so whatever holds of a
session holds for every peer, every clock and every schedule. A session keeps a
trace of what it saw; no decision of the code reads it.
-/

import Mathlib.Data.Finset.Insert
import Mathlib.Data.Finset.Erase
import NetIpc.Batch
import NetIpc.Protocol

namespace NetIpc

/-! ### The environment -/

/-- What `poll` answers. -/
inductive Polled where
  | ready
  | expired
  | failed (errno : Int)
  deriving Repr, DecidableEq

/-- What `recv` answers. -/
inductive Received where
  | data (packet : Bytes)
  | failed (errno : Int)
  deriving Repr, DecidableEq

/-- What of a packet fits into `size` bytes: the rest is lost. -/
def Received.cut (size : Nat) : Received → Received
  | .data packet => .data (packet.take size)
  | .failed errno => .failed errno

/-- The system calls of a session: `sendmsg` returns its result and the error number, `recv` gets
the size of the buffer, `poll` a timeout in milliseconds, `now` reads the clock in nanoseconds and
`load` the abort flag. -/
structure Os (σ : Type) where
  sendmsg : Bytes → σ → (Int × Int) × σ
  recv : Nat → σ → Received × σ
  poll : Int → σ → Polled × σ
  now : σ → Nat × σ
  load : σ → Bool × σ

/-- A connection as a queue of packets, which are delivered whole and in order. There is always time
left and nobody aborts; `recv` from an empty queue would block, so it fails with `EAGAIN`. -/
def queueOs : Os (List Bytes) where
  sendmsg packet queue := ((packet.length, 0), queue ++ [packet])
  recv _ queue :=
    match queue with
    | [] => (.failed 11, [])
    | packet :: rest => (.data packet, rest)
  poll _ queue := (.ready, queue)
  now queue := (0, queue)
  load queue := (false, queue)

/-- What a session saw. -/
inductive Event where
  | sent (packet : Bytes)
  | received (answer : Received)
  | polled (timeout : Int) (answer : Polled)
  | clock (instant : Nat)
  | loaded (flag : Bool)
  deriving Repr, DecidableEq

/-- The packet an event delivers. -/
def Event.packet? : Event → Option Bytes
  | .received (.data packet) => some packet
  | _ => none

/-! ### Errors and sessions -/

/-- The members of `UdsError` that sending and receiving return. -/
inductive UdsError where
  | send (errno : Int)
  | recv (errno : Int)
  | timeout
  | aborted
  | protocol (text : String)
  | chunk (text : String)
  | limitExceeded
  | badParam (text : String)
  | duplicateMsgId (id : UInt64)
  | unknownMsgId (id : UInt64)
  deriving Repr, DecidableEq

inductive Role where
  | client
  | server
  deriving Repr, DecidableEq

/-- `UdsSession`. -/
structure UdsSession where
  fd : Int
  role : Role
  maxRequestPayloadBytes : UInt32
  maxRequestBatchItems : UInt32
  maxResponsePayloadBytes : UInt32
  maxResponseBatchItems : UInt32
  packetSize : UInt32
  recvBuf : Bytes
  pktBuf : Bytes
  inflightIds : Finset UInt64
  deriving DecidableEq

/-- A session for messages of up to `limit` bytes, one item each, with nothing in flight. -/
def UdsSession.fresh (role : Role) (limit packetSize : UInt32) : UdsSession where
  fd := 3
  role := role
  maxRequestPayloadBytes := limit
  maxRequestBatchItems := 1
  maxResponsePayloadBytes := limit
  maxResponseBatchItems := 1
  packetSize := packetSize
  recvBuf := []
  pktBuf := []
  inflightIds := ∅

/-- A session, the state of its environment, and what it saw. -/
structure Endpoint (σ : Type) where
  session : UdsSession
  os : σ
  trace : List Event

/-- A program of a session. -/
abbrev UdsProg (σ α : Type) := Prog UdsError (Endpoint σ) α

namespace Uds

variable {σ α : Type}

/-! ### System calls -/

/-- One system call, with the event it leaves in the trace. -/
def call (step : σ → α × σ) (event : α → Event) : UdsProg σ α := fun endpoint =>
  let (answer, os) := step endpoint.os
  (.ok answer, { endpoint with os, trace := endpoint.trace ++ [event answer] })

/-- Change the session. -/
def modifySession (change : UdsSession → UdsSession) : UdsProg σ Unit :=
  Prog.modify fun endpoint => { endpoint with session := change endpoint.session }

/-- Read the session. -/
def getSession : UdsProg σ UdsSession := do
  let endpoint ← Prog.get
  return endpoint.session

/-- Work on the buffer for reassembly. -/
def onRecvBuf (program : Prog UdsError Bytes α) : UdsProg σ α :=
  Prog.zoom (fun endpoint => endpoint.session.recvBuf)
    (fun recvBuf endpoint => { endpoint with session := { endpoint.session with recvBuf } }) program

/-- `raw_send_iov`: one packet of a header and a payload. -/
def rawSendIov (os : Os σ) (hdr payload : Bytes) : UdsProg σ Unit := do
  let (n, errno) ← call (os.sendmsg (hdr ++ payload)) fun _ => .sent (hdr ++ payload)
  if n < 0 ∨ n.toNat ≠ hdr.length + payload.length then
    Prog.fail (.send errno)
  else pure ()

/-- `raw_recv`, with the buffer after it. -/
def rawRecv (os : Os σ) (buf : Bytes) : UdsProg σ (Nat × Bytes) := do
  let size := buf.length
  match ← call (fun state => (os.recv size state).map (Received.cut size) id) .received with
  | .failed errno => Prog.fail (.recv errno)
  | .data packet =>
    if packet.length = 0 then Prog.fail (.recv 0)
    else return (packet.length, splice buf 0 packet)

/-! ### Waiting -/

/-- `ReceiveWait`: the deadline in nanoseconds, and whether there is an abort flag. -/
structure ReceiveWait where
  deadline : Option Nat
  abort : Bool
  deriving Repr, DecidableEq

def nanosPerMilli : Nat := 1000000

def i32Max : Nat := 2147483647

def eintr : Int := 4

/-- `ReceiveWait::new`. -/
def ReceiveWait.new (os : Os σ) (timeoutMs : UInt32) (abort : Bool) : UdsProg σ ReceiveWait := do
  if timeoutMs ≠ 0 then
    let now ← call os.now .clock
    return ⟨some (now + timeoutMs.toNat * nanosPerMilli), abort⟩
  else return ⟨none, abort⟩

/-- `ReceiveWait::aborted`. -/
def ReceiveWait.aborted (os : Os σ) (self : ReceiveWait) : UdsProg σ Bool :=
  if self.abort then call os.load .loaded else pure false

/-- The part of `poll_timeout_ms` that looks at the deadline: the milliseconds left, if any. -/
def ReceiveWait.remainingMs (os : Os σ) (self : ReceiveWait) : UdsProg σ (Option Nat) :=
  match self.deadline with
  | none => return none
  | some deadline => do
    let now ← call os.now .clock
    if now ≥ deadline then Prog.fail .timeout
    else return some (min ((deadline - now) / nanosPerMilli) i32Max)

/-- `ReceiveWait::poll_timeout_ms`. -/
def ReceiveWait.pollTimeoutMs (os : Os σ) (self : ReceiveWait) : UdsProg σ Int := do
  if ← self.aborted os then
    Prog.fail .aborted
  else
    let waitMs ← self.remainingMs os
    let waitMs := if self.abort then some ((waitMs.map (min · 100)).getD 100) else waitMs
    return (waitMs.map Int.ofNat).getD (-1)

/-- `wait_fd_readable`; the loop goes on after an interrupted `poll`. -/
def waitFdReadable (os : Os σ) (fuel : Nat) (wait : ReceiveWait) : UdsProg σ Unit :=
  Prog.loop (fun _ => do
    let timeout ← wait.pollTimeoutMs os
    match ← call (os.poll timeout) (.polled timeout) with
    | .failed errno => if errno = eintr then return .inl () else Prog.fail (.recv errno)
    | .expired => if ← wait.aborted os then Prog.fail .aborted else Prog.fail .timeout
    | .ready => if ← wait.aborted os then Prog.fail .aborted else return .inr ()) fuel ()

/-- `raw_recv_control`. -/
def rawRecvControl (os : Os σ) (fuel : Nat) (buf : Bytes) (controlled : Bool)
    (wait : ReceiveWait) : UdsProg σ (Nat × Bytes) := do
  if controlled then waitFdReadable os fuel wait else pure ()
  rawRecv os buf

/-! ### Sending -/

/-- `fail_all_inflight`. -/
def failAllInflight : UdsProg σ Unit :=
  modifySession fun self =>
    if self.role = .client then { self with inflightIds := ∅ } else self

/-- The header of a message, as `encode` leaves it in a zeroed buffer. -/
def encodeHeader (hdr : Header) : Bytes := (hdr.encode.run (zeros headerSize)).2

/-- The header of a continuation packet. -/
def encodeChunkHeader (chk : ChunkHeader) : Bytes := (chk.encode.run (zeros headerSize)).2

/-- The continuation chunks of `send_inner`, from chunk `ci` and payload offset `offset` on. -/
def sendChunks (os : Os σ) (hdr : Header) (payload : Bytes) (budget : Nat) (chunkCount : UInt32) :
    Nat → UInt32 → Nat → UdsProg σ Unit
  | 0, _, _ => pure ()
  | count + 1, ci, offset => do
    let thisChunk := min (payload.length - offset) budget
    let chk : ChunkHeader := {
      magic := magicChunk
      version := NetIpc.version
      flags := 0
      messageId := hdr.messageId
      totalMessageLen := UInt32.ofNat (headerSize + payload.length)
      chunkIndex := ci
      chunkCount := chunkCount
      chunkPayloadLen := UInt32.ofNat thisChunk }
    rawSendIov os (encodeChunkHeader chk) (slice payload offset thisChunk)
    sendChunks os hdr payload budget chunkCount count (ci + 1) (offset + thisChunk)

def u32Max : Nat := 4294967295

/-- How many continuation chunks carry `remaining` bytes. -/
def continuationChunks (remaining budget : Nat) : Nat :=
  if remaining > 0 ∧ budget > 0 then 1 + (remaining - 1) / budget else 0

/-- `send_inner`; a packet size below the header size is a failed subtraction. -/
def sendInner (os : Os σ) (hdr : Header) (payload : Bytes) : UdsProg σ Unit := do
  let self ← getSession
  let totalMsg := headerSize + payload.length
  if totalMsg > u32Max then
    Prog.fail (.badParam "total message length exceeds protocol limit")
  else if totalMsg ≤ self.packetSize.toNat then
    rawSendIov os (encodeHeader hdr) payload
  else if self.packetSize.toNat < headerSize then
    Prog.stop .panic
  else
    let budget := self.packetSize.toNat - headerSize
    if budget = 0 then
      Prog.fail (.badParam "packet_size too small")
    else
      let firstChunk := min payload.length budget
      let continuations := continuationChunks (payload.length - firstChunk) budget
      rawSendIov os (encodeHeader hdr) (slice payload 0 firstChunk)
      let chunkCount := 1 + UInt32.ofNat continuations
      sendChunks os hdr payload budget chunkCount (chunkCount.toNat - 1) 1 firstChunk

/-- The limits on what this side sends. -/
def sendLimits (self : UdsSession) : UInt32 × UInt32 :=
  if self.role = .client then (self.maxRequestPayloadBytes, self.maxRequestBatchItems)
  else (self.maxResponsePayloadBytes, self.maxResponseBatchItems)

/-- The header with the fields `send` fills in. -/
def fillEnvelope (hdr : Header) (payload : Bytes) : Header :=
  { hdr with
    magic := magicMsg
    version := NetIpc.version
    headerLen := NetIpc.headerLen
    payloadLen := UInt32.ofNat payload.length }

/-- A failed request is not in flight any more; a failed system call drops all of them. -/
def rollback (tracked : Bool) (messageId : UInt64) (error : UdsError) : UdsProg σ Unit :=
  if tracked then
    match error with
    | .send _ => failAllInflight
    | _ => modifySession fun self => { self with inflightIds := self.inflightIds.erase messageId }
  else pure ()

/-- `send`; the result is the header as the caller has it afterwards. -/
def send (os : Os σ) (hdr : Header) (payload : Bytes) : UdsProg σ Header := do
  let self ← getSession
  let tracked : Bool := self.role = .client ∧ hdr.kind = kindRequest
  if self.fd < 0 then
    Prog.fail (.badParam "session closed")
  else if payload.length > (sendLimits self).1.toNat ∨ payload.length > u32Max - headerSize then
    Prog.fail .limitExceeded
  else if hdr.itemCount > (sendLimits self).2 then
    Prog.fail .limitExceeded
  else if tracked = true ∧ hdr.messageId ∈ self.inflightIds then
    Prog.fail (.duplicateMsgId hdr.messageId)
  else
    modifySession fun self =>
      if tracked then { self with inflightIds := insert hdr.messageId self.inflightIds } else self
    Prog.inspect (sendInner os (fillEnvelope hdr payload) payload) fun
      | .ok () => return fillEnvelope hdr payload
      | .error (.err error) => do
        rollback tracked hdr.messageId error
        Prog.fail error
      | .error reason => Prog.stop reason

/-! ### Receiving -/

/-- A failed wait or `recv` fails everything in flight. -/
def failingInflight (program : UdsProg σ α) : UdsProg σ α :=
  Prog.inspect program fun
    | .error (.err error) => do
      failAllInflight
      Prog.fail error
    | other => Prog.ofRes other

/-- `map_err` around a decoder. -/
def mapErr (text : NipcError → UdsError) : Res NipcError α → Res UdsError α
  | .ok value => .ok value
  | .error (.err error) => .error (.err (text error))
  | .error .panic => .error .panic
  | .error .fuel => .error .fuel

/-- The limits on what this side receives. -/
def receiveLimits (self : UdsSession) : UInt32 × UInt32 :=
  if self.role = .server then (self.maxRequestPayloadBytes, self.maxRequestBatchItems)
  else (self.maxResponsePayloadBytes, self.maxResponseBatchItems)

/-- The batch directory check at the end of `receive_with_control`. -/
def validateBatch (hdr : Header) (payload : Bytes) : Res UdsError Unit :=
  if hdr.flags &&& flagBatch ≠ 0 ∧ hdr.itemCount > 1 then do
    let dirBytes := hdr.itemCount.toNat * 8
    let dirAligned := align8 dirBytes
    rejectIf (payload.length < dirAligned) (.protocol "batch directory exceeds payload")
    let packedAreaLen := UInt32.ofNat (payload.length - dirAligned)
    mapErr (fun error => .protocol ("batch directory: " ++ error.debug))
      (batchDirValidate (payload.take dirBytes) hdr.itemCount packedAreaLen)
  else .ok ()

/-- The checks on the first packet up to its message id. -/
def checkFirst (self : UdsSession) (packet : Bytes) : Res UdsError Header := do
  rejectIf (packet.length < headerSize) (.protocol "packet too short for header")
  let hdr ← mapErr (fun error => .protocol ("header decode: " ++ error.display))
    (Header.decode packet)
  rejectIf (hdr.payloadLen > (receiveLimits self).1) .limitExceeded
  rejectIf (hdr.itemCount > (receiveLimits self).2) .limitExceeded
  return hdr

/-- A response has to answer a request in flight. -/
def takeInflight (hdr : Header) : UdsProg σ Unit := do
  let self ← getSession
  if self.role = .client ∧ hdr.kind = kindResponse then
    if hdr.messageId ∈ self.inflightIds then
      modifySession fun self => { self with inflightIds := self.inflightIds.erase hdr.messageId }
    else Prog.fail (.unknownMsgId hdr.messageId)
  else pure ()

/-- The checks on a continuation packet: the data it carries. -/
def checkChunk (hdr : Header) (expectedChunkCount ci : UInt32) (assembled : Nat) (packet : Bytes) :
    Res UdsError Bytes := do
  rejectIf (packet.length < headerSize) (.chunk "continuation too short")
  let chk ← mapErr (fun error => .chunk ("chunk header: " ++ error.display))
    (ChunkHeader.decode packet)
  rejectIf (chk.messageId ≠ hdr.messageId) (.chunk "message_id mismatch")
  let index := chk.chunkIndex
  rejectIf (index ≠ ci) (.chunk s!"chunk_index mismatch: expected {ci}, got {index}")
  rejectIf (chk.chunkCount ≠ expectedChunkCount) (.chunk "chunk_count mismatch")
  rejectIf (chk.totalMessageLen ≠ UInt32.ofNat (headerSize + hdr.payloadLen.toNat))
    (.chunk "total_message_len mismatch")
  let chunkData := packet.length - headerSize
  rejectIf (chunkData ≠ chk.chunkPayloadLen.toNat) (.chunk "chunk_payload_len mismatch")
  rejectIf (assembled + chunkData > hdr.payloadLen.toNat) (.chunk "chunk exceeds payload_len")
  readSlice packet headerSize (headerSize + chunkData)

/-- One pass of the loop over continuation packets: `assembled` bytes are there, chunk `ci` is
next. -/
def receiveChunk (os : Os σ) (fuel : Nat) (controlled : Bool) (wait : ReceiveWait) (hdr : Header)
    (expectedChunkCount : UInt32) (assembled : Nat) (ci : UInt32) :
    UdsProg σ ((Nat × UInt32) ⊕ Unit) := do
  if assembled < hdr.payloadLen.toNat then
    let self ← getSession
    let (cn, pktBuf) ← failingInflight (rawRecvControl os fuel self.pktBuf controlled wait)
    modifySession fun self => { self with pktBuf }
    let packet ← Prog.ofRes (readSlice pktBuf 0 cn)
    let data ← Prog.ofRes (checkChunk hdr expectedChunkCount ci assembled packet)
    onRecvBuf (write assembled data)
    return .inl (assembled + data.length, ci + 1)
  else return .inr ()

/-- `Vec::resize` when the buffer is too short. -/
def grow (buf : Bytes) (size : Nat) : Bytes :=
  if buf.length < size then buf ++ zeros (size - buf.length) else buf

/-- The rest of `receive_with_control` when the first packet carries only `data`. -/
def receiveChunks (os : Os σ) (fuel : Nat) (controlled : Bool) (wait : ReceiveWait) (hdr : Header)
    (data : Bytes) : UdsProg σ (Header × Bytes) := do
  modifySession fun self => { self with recvBuf := grow self.recvBuf hdr.payloadLen.toNat }
  onRecvBuf (write 0 data)
  let self ← getSession
  if self.packetSize.toNat < headerSize then
    Prog.stop .panic
  else
    let budget := self.packetSize.toNat - headerSize
    let expected := 1 + UInt32.ofNat
      (continuationChunks (hdr.payloadLen.toNat - data.length) budget)
    modifySession fun self => { self with pktBuf := grow self.pktBuf self.packetSize.toNat }
    -- Every pass takes at least one byte, so this fuel is never used up.
    Prog.loop (fun loop => receiveChunk os fuel controlled wait hdr expected loop.1 loop.2)
      (hdr.payloadLen.toNat + 1) (data.length, 1)
    let self ← getSession
    let payload ← Prog.ofRes (readSlice self.recvBuf 0 hdr.payloadLen.toNat)
    Prog.ofRes (validateBatch hdr payload)
    return (hdr, payload)

/-- `receive_with_control` from the first packet on. -/
def receiveMessage (os : Os σ) (fuel : Nat) (buf : Bytes) (controlled : Bool) (wait : ReceiveWait)
    (self : UdsSession) : UdsProg σ (Header × Bytes) := do
  let (n, buf) ← failingInflight (rawRecvControl os fuel buf controlled wait)
  let packet ← Prog.ofRes (readSlice buf 0 n)
  let hdr ← Prog.ofRes (checkFirst self packet)
  takeInflight hdr
  let totalMsg := headerSize + hdr.payloadLen.toNat
  Prog.ofRes (rejectIf (totalMsg > u32Max)
    (.protocol "total message length exceeds protocol limit"))
  Prog.ofRes (rejectIf (n > totalMsg) (.protocol "packet exceeds declared payload_len"))
  let data ← Prog.ofRes (readSlice buf headerSize n)
  if n = totalMsg then
    Prog.ofRes (validateBatch hdr data)
    return (hdr, data)
  else receiveChunks os fuel controlled wait hdr data

/-- `receive_with_control`; `fuel` bounds how often one `poll` may be interrupted. -/
def receiveWithControl (os : Os σ) (fuel : Nat) (buf : Bytes) (timeoutMs : UInt32) (abort : Bool) :
    UdsProg σ (Header × Bytes) := do
  let self ← getSession
  if self.fd < 0 then
    Prog.fail (.badParam "session closed")
  else
    let controlled : Bool := timeoutMs ≠ 0 ∨ abort = true
    let wait ← ReceiveWait.new os timeoutMs abort
    receiveMessage os fuel buf controlled wait self

/-- `receive`: without a deadline and without an abort flag nothing waits. -/
def receive (os : Os σ) (buf : Bytes) : UdsProg σ (Header × Bytes) :=
  receiveWithControl os 0 buf 0 false

/-! ### Running the operations -/

@[simp] theorem run_call (step : σ → α × σ) (event : α → Event) (endpoint : Endpoint σ) :
    (call step event).run endpoint =
      (.ok (step endpoint.os).1,
        { endpoint with
          os := (step endpoint.os).2
          trace := endpoint.trace ++ [event (step endpoint.os).1] }) := rfl

@[simp] theorem run_getSession (endpoint : Endpoint σ) :
    (getSession : UdsProg σ UdsSession).run endpoint = (.ok endpoint.session, endpoint) := rfl

@[simp] theorem run_modifySession (change : UdsSession → UdsSession) (endpoint : Endpoint σ) :
    (modifySession change).run endpoint =
      (.ok (), { endpoint with session := change endpoint.session }) := rfl

theorem run_onRecvBuf_write {off : Nat} {src : Bytes} {endpoint : Endpoint σ}
    (bound : off + src.length ≤ endpoint.session.recvBuf.length) :
    (onRecvBuf (write off src)).run endpoint =
      (.ok (), { endpoint with
        session := { endpoint.session with
          recvBuf := splice endpoint.session.recvBuf off src } }) := by
  rw [onRecvBuf, Prog.run_zoom, run_write_of_le bound]

variable {before after : Endpoint σ} {value : α}

/-- A store that returned was inside the receive buffer. -/
theorem onRecvBuf_write_eq_ok {off : Nat} {src : Bytes}
    (ran : (onRecvBuf (write off src)).run before = (.ok (), after)) :
    off + src.length ≤ before.session.recvBuf.length := by
  by_contra outside
  rw [onRecvBuf, Prog.run_zoom] at ran
  have stopped : (write off src : Prog UdsError Bytes Unit).run before.session.recvBuf =
    (.error .panic, before.session.recvBuf) := if_neg outside
  rw [stopped] at ran
  cases ran

theorem encodeHeader_eq (hdr : Header) : encodeHeader hdr = hdr.image := by
  rw [encodeHeader, Header.run_encode _ _ (by rw [length_zeros, headerSize])]
  simp [headerSize, zeros]

theorem encodeChunkHeader_eq (chk : ChunkHeader) : encodeChunkHeader chk = chk.image := by
  rw [encodeChunkHeader, ChunkHeader.run_encode _ _ (by rw [length_zeros, headerSize])]
  simp [headerSize, zeros]

theorem run_failingInflight_of_ok {program : UdsProg σ α}
    (ran : program.run before = (.ok value, after)) :
    (failingInflight program).run before = (.ok value, after) := by
  rw [failingInflight, Prog.run_inspect, ran]
  rfl

/-- A receive that returned has not failed the ids in flight. -/
theorem failingInflight_eq_ok {program : UdsProg σ α}
    (ran : (failingInflight program).run before = (.ok value, after)) :
    program.run before = (.ok value, after) := by
  rw [failingInflight, Prog.run_inspect] at ran
  match run : program.run before with
  | (.ok _, _) | (.error .panic, _) | (.error .fuel, _) =>
    rw [run] at ran
    exact ran
  | (.error (.err _), _) =>
    rw [run] at ran
    cases ran

theorem mapErr_eq_ok {text : NipcError → UdsError} {result : Res NipcError α}
    (ran : mapErr text result = .ok value) : result = .ok value := by
  match result with
  | .ok _ => exact congrArg _ (Except.ok.inj ran)
  | .error (.err _) | .error .panic | .error .fuel => cases ran

@[simp] theorem mapErr_ok (text : NipcError → UdsError) (value : α) :
    mapErr text (.ok value) = .ok value := rfl

/-- A grown buffer has the size asked for. -/
theorem le_length_grow (buf : Bytes) (size : Nat) : size ≤ (grow buf size).length := by
  unfold grow
  split
  · rw [List.length_append, length_zeros]
    omega
  · omega

/-! ### Counting packets -/

/-- There are no more continuations than bytes. -/
theorem continuationChunks_le (remaining budget : Nat) :
    continuationChunks remaining budget ≤ remaining := by
  unfold continuationChunks
  split
  · have quotient := Nat.div_le_self (remaining - 1) budget
    omega
  · omega

theorem toNat_chunkCount {continuations : Nat} (few : continuations + 1 < 2 ^ 32) :
    (1 + UInt32.ofNat continuations).toNat = 1 + continuations := by
  rw [UInt32.toNat_add, toNat_ofNat32 (by omega)]
  exact Nat.mod_eq_of_lt (by change 1 + _ < 2 ^ 32; omega)

/-! ### Packets in a buffer -/

theorem readSlice_packet {ε : Type} {buf packet : Bytes} :
    (readSlice (splice buf 0 packet) 0 packet.length : Res ε Bytes) = .ok packet := by
  rw [readSlice_of_le (Nat.zero_le _) (by rw [splice]; simp), Nat.sub_zero,
    slice_splice_self _ _ _ (Nat.zero_le _)]

theorem readSlice_packet_data {ε : Type} {buf packet : Bytes} (long : headerSize ≤ packet.length) :
    (readSlice (splice buf 0 packet) headerSize packet.length : Res ε Bytes) =
      .ok (packet.drop headerSize) := by
  rw [readSlice_of_le long (by rw [splice]; simp), splice, List.take_zero, List.nil_append,
    slice_append_left _ _ _ _ (by omega), slice, List.take_of_length_le (by rw [List.length_drop])]

variable {hdr : Header}

/-- What the checks on the first packet come to. -/
theorem checkFirst_eq_ok_iff {self : UdsSession} {packet : Bytes} :
    checkFirst self packet = .ok hdr ↔
      headerSize ≤ packet.length ∧ Header.decode packet = .ok hdr ∧
        hdr.payloadLen ≤ (receiveLimits self).1 ∧ hdr.itemCount ≤ (receiveLimits self).2 := by
  constructor
  · intro ran
    obtain ⟨_, long, ran⟩ := bind_eq_ok ran
    obtain ⟨decoded, decode, ran⟩ := bind_eq_ok ran
    obtain ⟨_, payload, ran⟩ := bind_eq_ok ran
    obtain ⟨_, items, ran⟩ := bind_eq_ok ran
    cases ran
    exact ⟨Nat.le_of_not_lt (rejectIf_eq_ok long), mapErr_eq_ok decode,
      UInt32.not_lt.mp (rejectIf_eq_ok payload), UInt32.not_lt.mp (rejectIf_eq_ok items)⟩
  · rintro ⟨long, decode, payload, items⟩
    rw [checkFirst, guard_bind (Nat.not_lt.mpr long), decode, mapErr_ok, ok_bind,
      guard_bind (UInt32.not_lt.mpr payload), rejectIf_of_not (UInt32.not_lt.mpr items)]
    rfl

/-- A continuation packet with its header, as the receiver wants it. -/
structure IsChunk (hdr : Header) (chunkCount chunkIndex : UInt32) (packet : Bytes)
    (chk : ChunkHeader) : Prop where
  long : headerSize ≤ packet.length
  decode : ChunkHeader.decode packet = .ok chk
  messageId : chk.messageId = hdr.messageId
  chunkIndex : chk.chunkIndex = chunkIndex
  chunkCount : chk.chunkCount = chunkCount
  totalMessageLen : chk.totalMessageLen = UInt32.ofNat (headerSize + hdr.payloadLen.toNat)
  chunkPayloadLen : packet.length - headerSize = chk.chunkPayloadLen.toNat

/-- What the checks on a continuation packet come to. -/
theorem checkChunk_eq_ok_iff {chunkCount ci : UInt32} {assembled : Nat} {packet data : Bytes} :
    checkChunk hdr chunkCount ci assembled packet = .ok data ↔
      (∃ chk, IsChunk hdr chunkCount ci packet chk) ∧
        assembled + data.length ≤ hdr.payloadLen.toNat ∧ data = packet.drop headerSize := by
  constructor
  · intro ran
    obtain ⟨_, long, ran⟩ := bind_eq_ok ran
    obtain ⟨chk, decode, ran⟩ := bind_eq_ok ran
    obtain ⟨messageId, ran⟩ := guard_eq_ok ran
    obtain ⟨chunkIndex, ran⟩ := guard_eq_ok ran
    obtain ⟨count, ran⟩ := guard_eq_ok ran
    obtain ⟨total, ran⟩ := guard_eq_ok ran
    obtain ⟨size, ran⟩ := guard_eq_ok ran
    obtain ⟨fits, ran⟩ := guard_eq_ok ran
    obtain ⟨-, -, same⟩ := readSlice_eq_ok ran
    rw [Nat.add_sub_cancel_left, slice, List.take_of_length_le (by rw [List.length_drop])] at same
    refine ⟨⟨chk, Nat.le_of_not_lt (rejectIf_eq_ok long), mapErr_eq_ok decode,
      not_not.mp messageId, not_not.mp chunkIndex, not_not.mp count, not_not.mp total,
      not_not.mp size⟩, ?_, same⟩
    rw [same, List.length_drop]
    omega
  · rintro ⟨⟨chk, chunk⟩, fits, same⟩
    rw [same, List.length_drop] at fits
    simp only [checkChunk]
    rw [guard_bind (Nat.not_lt.mpr chunk.long), chunk.decode, mapErr_ok, ok_bind,
      guard_bind (not_not_intro chunk.messageId), guard_bind (not_not_intro chunk.chunkIndex),
      guard_bind (not_not_intro chunk.chunkCount), guard_bind (not_not_intro chunk.totalMessageLen),
      guard_bind (not_not_intro chunk.chunkPayloadLen), guard_bind (Nat.not_lt.mpr fits),
      readSlice_of_le (by omega) (by have long := chunk.long; omega), same, Nat.add_sub_cancel_left,
      slice, List.take_of_length_le (by rw [List.length_drop])]

/-! ### The batch directory -/

/-- The entries of a batch directory lie in the packed area and are aligned. -/
def DirectoryFits (hdr : Header) (payload : Bytes) : Prop :=
  align8 (hdr.itemCount.toNat * 8) ≤ payload.length ∧
    ∀ index < hdr.itemCount.toNat, ∃ offset length : UInt32,
      u32At payload (index * 8) = (.ok offset : Res NipcError UInt32) ∧
        u32At payload (index * 8 + 4) = (.ok length : Res NipcError UInt32) ∧
        offset.toNat % alignment = 0 ∧
        offset.toNat + length.toNat ≤ payload.length - align8 (hdr.itemCount.toNat * 8)

/-- The check of the batch directory. -/
theorem validateBatch_eq_ok_iff {payload : Bytes} (small : payload.length ≤ u32Max) :
    validateBatch hdr payload = .ok () ↔
      (hdr.flags &&& flagBatch ≠ 0 → 1 < hdr.itemCount → DirectoryFits hdr payload) := by
  rw [u32Max] at small
  by_cases batch : hdr.flags &&& flagBatch ≠ 0 ∧ hdr.itemCount > 1
  · rw [validateBatch, if_pos batch]
    dsimp only
    have area : (UInt32.ofNat (payload.length - align8 (hdr.itemCount.toNat * 8))).toNat =
        payload.length - align8 (hdr.itemCount.toNat * 8) :=
      toNat_ofNat32 (by omega)
    have aligned := le_align8 (hdr.itemCount.toNat * 8)
    constructor
    · intro ran _ _
      obtain ⟨room, ran⟩ := guard_eq_ok ran
      have room := Nat.le_of_not_lt room
      have fits := (batchDirValidate_eq_ok_iff (aligned.trans room)).mp (mapErr_eq_ok ran)
      rw [area] at fits
      exact ⟨room, fits⟩
    · intro fits
      obtain ⟨room, fits⟩ := fits batch.1 batch.2
      rw [← area] at fits
      rw [guard_bind (Nat.not_lt.mpr room),
        (batchDirValidate_eq_ok_iff (aligned.trans room)).mpr fits]
      rfl
  · rw [validateBatch, if_neg batch]
    exact ⟨fun _ flag many => absurd ⟨flag, many⟩ batch, fun _ => rfl⟩

/-- Every item of a directory that fits can be read. -/
theorem DirectoryFits.batchItemGet {payload : Bytes} (fits : DirectoryFits hdr payload)
    {index : UInt32} (inside : index < hdr.itemCount) :
    ∃ item, NetIpc.batchItemGet payload hdr.itemCount index = .ok item := by
  obtain ⟨room, entries⟩ := fits
  have few := hdr.itemCount.toNat_lt
  obtain ⟨offset, length, first, second, aligned, within⟩ :=
    entries index.toNat (UInt32.lt_iff_toNat_lt.mp inside)
  simp only [NetIpc.batchItemGet]
  rw [guard_bind (UInt32.not_le.mpr inside),
    mul_bind (by omega),
    guard_bind (Nat.not_lt.mpr room), first, ok_bind, second, ok_bind,
    guard_bind (not_not_intro aligned), guard_bind (Nat.not_lt.mpr within), readSlice_of_le
      (Nat.le_add_right _ _) (by omega)]
  exact ⟨_, rfl⟩

end Uds

end NetIpc
