/-
This file models a session of the managed server (`handle_session_threaded` in
`service/raw/server_session_unix.rs`, Linux).

The session receives a request over the socket or from shared memory, gives it (or
each item of a batch) to the handler, and sends one response. The handler is an
arbitrary program on the response buffer and on the state of the environment, so it
may keep state of its own. The log of a session has every message it took, every
call of the handler and every response; no decision of the code reads it.
-/

import NetIpc.RawClient
import NetIpc.ServerDispatch

namespace NetIpc

/-! ### The environment -/

/-- The two capacities all sessions of a server learn together. -/
inductive Learned where
  | request
  | response
  deriving Repr, DecidableEq

/-- What a session of the server does outside itself: the system calls of a socket session, reading
the flag that keeps the server running, `poll` (its result, the error number and the events), the
operations of the shared memory region, raising a learned capacity, and closing. -/
structure ServerOs (σ : Type) extends Os σ where
  loadRunning : σ → Bool × σ
  pollEvents : Int → Int → σ → (Int × Int × UInt16) × σ
  shmReceive : Nat → UInt32 → σ → Except ShmError Bytes × σ
  shmSend : Bytes → σ → Except ShmError Unit × σ
  raiseCapacity : Learned → UInt32 → σ → σ
  shmDestroy : σ → σ
  dropSession : σ → σ

/-- A handler: the request, the response buffer, and whatever else it works on. -/
abbrev SessionHandler (σ : Type) := Bytes → Prog DispatchError (Bytes × σ) Nat

/-- A handler without state of its own. -/
def DispatchHandler.stateless {σ : Type} (handler : DispatchHandler) : SessionHandler σ :=
  fun request => Prog.zoom Prod.fst (fun buf pair => (buf, pair.2)) (handler request)

/-- The arguments of `handle_session_threaded` besides the session. -/
structure SessionConfig (σ : Type) where
  expectedMethodCode : UInt16
  handler : Option (SessionHandler σ)
  requestPayloadGrowthCeiling : UInt32
  responsePayloadGrowthCeiling : UInt32

/-- What a session did. -/
inductive ServerEvent where
  | received (hdr : Header) (payload : Bytes)
  | invoked (request : Bytes) (result : Res DispatchError Nat)
  | responded (hdr : Header) (payload : Bytes)

/-- A session of the server: whether it has a region, the length of the receive buffer, the two
response buffers, the environment, and the logs of packets and of events. -/
structure ServerWorld (σ : Type) where
  session : Session
  shm : Bool
  recvLen : Nat
  respBuf : Bytes
  itemRespBuf : Bytes
  os : σ
  trace : List Event
  log : List ServerEvent

/-- A program of a session; it returns no errors. -/
abbrev ServerProg (σ α : Type) := Prog Empty (ServerWorld σ) α

namespace Server

variable {σ α : Type}

/-- An operation of the environment. -/
def outside (step : σ → α × σ) : ServerProg σ α := fun world =>
  let (answer, os) := step world.os
  (.ok answer, { world with os })

/-- An entry in the log. -/
def record (event : ServerEvent) : ServerProg σ Unit :=
  Prog.modify fun world => { world with log := world.log ++ [event] }

/-- Work on the socket session. -/
def onSession (program : UdsProg σ α) : ServerProg σ (Res UdsError α) := fun world =>
  let (result, after) := program.run ⟨world.session.toUdsSession, world.os, world.trace⟩
  (.ok result, { world with
    session := { world.session with toUdsSession := after.session }
    os := after.os
    trace := after.trace })

theorem run_onSession (program : UdsProg σ α) (world : ServerWorld σ) :
    (onSession program).run world =
      let ran := program.run ⟨world.session.toUdsSession, world.os, world.trace⟩
      (.ok ran.1, { world with
        session := { world.session with toUdsSession := ran.2.session }
        os := ran.2.os
        trace := ran.2.trace }) := rfl

/-- A computation as a value, its panics aside. -/
def attempted {ε : Type} : Res ε α → ServerProg σ (Except ε α)
  | .ok value => return .ok value
  | .error (.err error) => return .error error
  | .error .panic => Prog.stop .panic
  | .error .fuel => Prog.stop .fuel

/-! ### Receiving -/

def serverPollTimeoutMs : UInt32 := 100
def pollIn : UInt16 := 1
def pollErr : UInt16 := 8
def pollHup : UInt16 := 16
def pollNval : UInt16 := 32

/-- `poll_fd`: what the answer of `poll` stands for. -/
def pollVerdict : Int × Int × UInt16 → Int
  | (ret, errno, revents) =>
    if ret < 0 then if errno = Uds.eintr then 0 else -1
    else if ret = 0 then 0
    else if revents &&& (pollErr ||| pollHup ||| pollNval) ≠ 0 then -1
    else if revents &&& pollIn ≠ 0 then 1
    else 0

/-- How the receiving part of the loop ends: leave the loop, start again, or a message. -/
inductive Intake where
  | leave
  | again
  | message (hdr : Header) (payload : Bytes)
  deriving Repr, DecidableEq

/-- What the session makes of a message in shared memory. -/
def takeShmMessage (recvLen : Nat) (message : Bytes) : ServerProg σ Intake := do
  if message.length < headerSize then return .leave
  -- The message is read as a slice of the receive buffer.
  else if message.length > recvLen then Prog.stop .panic
  else
    match ← attempted (Header.decode message) with
    | .ok hdr => return .message hdr (message.drop headerSize)
    | .error _ => return .leave

/-- The receiving part of the loop. What is left in the receive buffer from before is not read. -/
def receiveRequest (os : ServerOs σ) : ServerProg σ Intake := do
  let world ← Prog.get
  if world.shm then
    match ← outside (os.shmReceive world.recvLen serverPollTimeoutMs) with
    | .ok message => takeShmMessage world.recvLen message
    | .error .timeout => return .again
    | .error _ => return .leave
  else
    let ready := pollVerdict
      (← outside (os.pollEvents world.session.fd (Int.ofNat serverPollTimeoutMs.toNat)))
    if ready < 0 then return .leave
    else if ready = 0 then return .again
    else
      let received ← onSession (Uds.receive os.toOs (zeros world.recvLen))
      match ← attempted received with
      | .ok (hdr, payload) => return .message hdr payload
      | .error _ => return .leave

/-! ### Dispatching -/

/-- Which of the two response buffers. -/
inductive Buffer where
  | resp
  | item
  deriving Repr, DecidableEq

def Buffer.get : Buffer → ServerWorld σ → Bytes
  | .resp, world => world.respBuf
  | .item, world => world.itemRespBuf

def Buffer.put (contents : Bytes) : Buffer → ServerWorld σ → ServerWorld σ
  | .resp, world => { world with respBuf := contents }
  | .item, world => { world with itemRespBuf := contents }

/-- One call of the handler, with its entry in the log. -/
def invoke (dispatch : SessionHandler σ) (request : Bytes) (buffer : Buffer) :
    ServerProg σ (Except DispatchError Nat) := fun world =>
  let (result, contents, os) := (dispatch request).run (buffer.get world, world.os)
  (attempted result).run { buffer.put contents world with
    os, log := world.log ++ [.invoked request result] }

/-- `dispatch_single_internal`. -/
def dispatchSingleInternal (config : SessionConfig σ) (methodCode : UInt16) (request : Bytes)
    (buffer : Buffer) : ServerProg σ (Except DispatchError Nat) := do
  if methodCode ≠ config.expectedMethodCode then return .error .handlerFailed
  else
    match config.handler with
    | none => return .error .handlerFailed
    | some dispatch =>
      let size := (buffer.get (← Prog.get)).length
      match ← invoke dispatch request buffer with
      | .ok n => return if n ≤ size then .ok n else .error .overflow
      | .error error => return .error error

/-- `method_supported_internal`. -/
def methodSupportedInternal (config : SessionConfig σ) (methodCode : UInt16) : Bool :=
  config.handler.isSome ∧ methodCode = config.expectedMethodCode

/-- The loop over the items of a batch, from item `i` on. -/
def batchItems (config : SessionConfig σ) (hdr : Header) (payload : Bytes) :
    Nat → UInt32 → BatchBuilder → ServerProg σ (Except DispatchError Unit × BatchBuilder)
  | 0, _, builder => return (.ok (), builder)
  | count + 1, i, builder => do
    match ← attempted (batchItemGet payload hdr.itemCount i) with
    | .error _ => return (.error .badEnvelope, builder)
    | .ok (itemData, _) =>
      match ← dispatchSingleInternal config hdr.code itemData .item with
      | .error error => return (.error error, builder)
      | .ok itemLen =>
        let item ← Prog.ofRes (readSlice (← Prog.get).itemRespBuf 0 itemLen)
        let (added, builder) := (BatchBuilder.add item).run builder
        match ← attempted added with
        | .error _ => return (.error .overflow, builder)
        | .ok () => batchItems config hdr payload count (i + 1) builder

/-- The batch branch of the dispatch. The builder borrows the response buffer. -/
def dispatchBatch (config : SessionConfig σ) (hdr : Header) (payload : Bytes) :
    ServerProg σ (Except DispatchError Nat) := do
  let builder := BatchBuilder.new (← Prog.get).respBuf hdr.itemCount
  let (result, builder) ← batchItems config hdr payload hdr.itemCount.toNat 0 builder
  match result with
  | .error error =>
    Prog.modify fun world => { world with respBuf := builder.buf }
    return .error error
  | .ok () =>
    let (finished, builder) := BatchBuilder.finish.run builder
    Prog.modify fun world => { world with respBuf := builder.buf }
    match ← attempted finished with
    | .ok (n, _) => return .ok n
    | .error _ => Prog.stop .panic

def isBatch (hdr : Header) : Bool := hdr.flags &&& flagBatch ≠ 0 ∧ hdr.itemCount ≥ 1

def dispatchRequest (config : SessionConfig σ) (hdr : Header) (payload : Bytes) :
    ServerProg σ (Except DispatchError Nat) :=
  if isBatch hdr then dispatchBatch config hdr payload
  else dispatchSingleInternal config hdr.code payload .resp

/-! ### Responding -/

/-- `server_note_payload_capacity`. -/
def serverNotePayloadCapacity (os : ServerOs σ) (learned : Learned) (payloadLen ceiling : UInt32) :
    ServerProg σ Unit :=
  outside fun state =>
    ((), os.raiseCapacity learned (min (nextPowerOf2U32 payloadLen) ceiling) state)

/-- The status an error is reported with. -/
def statusOf : DispatchError → UInt16
  | .overflow => statusLimitExceeded
  | .badEnvelope => statusBadEnvelope
  | .handlerFailed => statusInternalError

/-- The header of the response to a request that was dispatched. -/
def responseHeader (hdr : Header) : Except DispatchError Nat → Header
  | .ok _ =>
    { kind := kindResponse, code := hdr.code, messageId := hdr.messageId,
      transportStatus := statusOk,
      flags := if isBatch hdr then flagBatch else 0,
      itemCount := if isBatch hdr then hdr.itemCount else 1 }
  | .error error =>
    { kind := kindResponse, code := hdr.code, messageId := hdr.messageId,
      transportStatus := statusOf error, flags := 0, itemCount := 1 }

/-- The header of the response to a request for another method. -/
def unsupportedHeader (hdr : Header) : Header where
  kind := kindResponse
  code := hdr.code
  messageId := hdr.messageId
  transportStatus := statusUnsupported
  itemCount := 1

/-- The length of the response. -/
def responseLen : Except DispatchError Nat → Nat
  | .ok n => n
  | .error _ => 0

/-- What the server learns about its response capacity. -/
def noteOutcome (os : ServerOs σ) (config : SessionConfig σ) :
    Except DispatchError Nat → ServerProg σ Unit
  | .ok n =>
    if n ≤ Uds.u32Max then
      serverNotePayloadCapacity os .response (UInt32.ofNat n) config.responsePayloadGrowthCeiling
    else pure ()
  | .error .overflow => do
    let current := (← Prog.get).session.maxResponsePayloadBytes
    let wanted := if current ≥ UInt32.ofNat (Uds.u32Max / 2) then UInt32.ofNat Uds.u32Max
      else current * 2
    serverNotePayloadCapacity os .response wanted config.responsePayloadGrowthCeiling
  | .error _ => pure ()

/-- Send one response over the transport of the session; `false` when that fails. -/
def respond (os : ServerOs σ) (hdr : Header) (payload : Bytes) : ServerProg σ Bool := do
  record (.responded hdr payload)
  if (← Prog.get).shm then
    match ← outside (os.shmSend (Uds.encodeHeader (Uds.fillEnvelope hdr payload) ++ payload)) with
    | .ok () => return true
    | .error _ => return false
  else
    let sent ← onSession (Uds.send os.toOs hdr payload)
    match ← attempted sent with
    | .ok _ => return true
    | .error _ => return false

/-! ### The session -/

/-- The answer to a supported request: `inl` goes on, `inr` leaves the loop. -/
def serve (os : ServerOs σ) (config : SessionConfig σ) (hdr : Header) (payload : Bytes) :
    ServerProg σ (Unit ⊕ Unit) := do
  let result ← dispatchRequest config hdr payload
  noteOutcome os config result
  let response ← Prog.ofRes (readSlice (← Prog.get).respBuf 0 (responseLen result))
  let respHdr := responseHeader hdr result
  if ← respond os respHdr response then
    return if respHdr.transportStatus = statusLimitExceeded then .inr () else .inl ()
  else return .inr ()

/-- What the server learns about its request capacity. -/
def noteRequest (os : ServerOs σ) (config : SessionConfig σ) (payload : Bytes) :
    ServerProg σ Unit :=
  if payload.length ≤ Uds.u32Max then
    serverNotePayloadCapacity os .request (UInt32.ofNat payload.length)
      config.requestPayloadGrowthCeiling
  else pure ()

/-- The answer to a request. -/
def answer (os : ServerOs σ) (config : SessionConfig σ) (hdr : Header) (payload : Bytes) :
    ServerProg σ (Unit ⊕ Unit) := do
  if methodSupportedInternal config hdr.code then serve os config hdr payload
  else if ← respond os (unsupportedHeader hdr) [] then return .inl ()
  else return .inr ()

/-- The loop after a message was received. -/
def handleMessage (os : ServerOs σ) (config : SessionConfig σ) (hdr : Header) (payload : Bytes) :
    ServerProg σ (Unit ⊕ Unit) := do
  record (.received hdr payload)
  if hdr.kind ≠ kindRequest then return .inr ()
  else
    noteRequest os config payload
    answer os config hdr payload

/-- One pass of the loop of `handle_session_threaded`. -/
def sessionPass (os : ServerOs σ) (config : SessionConfig σ) : ServerProg σ (Unit ⊕ Unit) := do
  if ← outside os.loadRunning then
    match ← receiveRequest os with
    | .leave => return .inr ()
    | .again => return .inl ()
    | .message hdr payload => handleMessage os config hdr payload
  else return .inr ()

/-- The buffers of a session, as its limits ask for them. -/
def allocate : ServerProg σ Unit := Prog.modify fun world => { world with
  recvLen := headerSize + world.session.maxRequestPayloadBytes.toNat
  respBuf := zeros world.session.maxResponsePayloadBytes.toNat
  itemRespBuf := zeros world.session.maxResponsePayloadBytes.toNat }

/-- The region is destroyed, if there is one, and the session dropped. -/
def release (os : ServerOs σ) : ServerProg σ Unit := do
  let world ← Prog.get
  outside fun state => ((), os.dropSession (if world.shm then os.shmDestroy state else state))

/-- `handle_session_threaded`. -/
def handleSessionThreaded (os : ServerOs σ) (config : SessionConfig σ) (fuel : Nat) :
    ServerProg σ Unit := do
  allocate
  Prog.loop (fun _ => sessionPass os config) fuel ()
  release os

/-- A session the server has accepted, before its thread runs. -/
def accepted (session : Session) (shm : Bool) (os : σ) : ServerWorld σ where
  session := session
  shm := shm
  recvLen := 0
  respBuf := []
  itemRespBuf := []
  os := os
  trace := []
  log := []

end Server

end NetIpc
