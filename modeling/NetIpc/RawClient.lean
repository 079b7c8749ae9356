/-
This file models the client of a service (`service/raw/client.rs`,
`client_unix.rs` and `client_call.rs`, Linux): the connection state machine, one
attempt at a call over the socket or the shared memory region, and the call with
its two retry policies.

The client talks to the outside through a `ClientOs σ`: the system calls of a
session, connecting with its handshake, and the operations of a shared memory
region, all arbitrary functions on a state `σ` of their own. A region keeps its
cursors in that state. The payload of a response is carried as the bytes the
source has a reference to, so the two scratch buffers for receiving and for
building a shared memory message do not appear. Counters wrap.

A world also has two logs, one of attempts and one of finished calls. No decision
of the code reads them.
-/

import NetIpc.HandshakeAgree
import NetIpc.Triple

namespace NetIpc

/-! ### The environment -/

/-- The members of `ShmError` the client tells apart. -/
inductive ShmError where
  | msgTooLarge
  | timeout
  | other
  deriving Repr, DecidableEq

/-- What `UdsSession::connect` returns besides a session. -/
inductive ConnectError where
  | pathTooLong
  | badParam (text : String)
  | socket (errno : Int)
  | handshake (error : HandshakeError)
  deriving Repr, DecidableEq

/-- A shared memory region a client is attached to. -/
structure ShmContext where
  sessionId : UInt64
  deriving Repr, DecidableEq

/-- What a client does outside itself: the system calls of a session, `UdsSession::connect`, the
operations of `ShmContext` (`receive` gets the size of the buffer and the timeout), closing what it
holds, sleeping, and setting the abort flag. -/
structure ClientOs (σ : Type) extends Os σ where
  connect : TransportClientConfig → σ → Except ConnectError Session × σ
  clientAttach : UInt64 → σ → Except ShmError ShmContext × σ
  shmSend : ShmContext → Bytes → σ → Except ShmError Unit × σ
  shmReceive : ShmContext → Nat → UInt32 → σ → Except ShmError Bytes × σ
  closeShm : ShmContext → σ → σ
  dropSession : Session → σ → σ
  sleep : Nat → σ → σ
  storeAbort : Bool → σ → σ

/-! ### The client -/

/-- `ClientState`. -/
inductive ClientState where
  | disconnected
  | connecting
  | ready
  | notFound
  | authFailed
  | incompatible
  | broken
  deriving Repr, DecidableEq

def clientCallTimeoutDefaultMs : UInt32 := 30000
def clientAbortPollMs : Nat := 100
def clientShmAttachRetryIntervalMs : Nat := 5
def clientShmAttachRetryTimeoutMs : Nat := 5000
def cacheResponseBufSize : Nat := 65536
def lookupLogicalItemsDefault : UInt32 := 65536
def lookupLogicalSubcallsDefault : UInt32 := 4096
def lookupLogicalResponseBytesDefault : UInt32 := 64 * 1024 * 1024

/-- `RawClient`, without the names that only `connect` and `client_attach` read. -/
structure RawClient where
  state : ClientState
  expectedMethodCode : UInt16
  transportConfig : TransportClientConfig
  session : Option Session
  shm : Option ShmContext
  requestBuf : Bytes
  connectCount : UInt32
  reconnectCount : UInt32
  callCount : UInt32
  errorCount : UInt32
  callTimeoutMs : UInt32
  maxLogicalLookupItems : UInt32
  maxLogicalLookupSubcalls : UInt32
  maxLogicalLookupResponseBytes : UInt32
  deriving DecidableEq

/-- `LookupLogicalConfig`. -/
structure LookupLogicalConfig where
  maxItems : UInt32
  maxSubcalls : UInt32
  maxResponseBytes : UInt32
  deriving Repr, DecidableEq

/-- `LookupLogicalConfig::normalize`. -/
def LookupLogicalConfig.normalize (config : LookupLogicalConfig) : LookupLogicalConfig where
  maxItems := Handshake.applyDefault config.maxItems lookupLogicalItemsDefault
  maxSubcalls := Handshake.applyDefault config.maxSubcalls lookupLogicalSubcallsDefault
  maxResponseBytes := Handshake.applyDefault config.maxResponseBytes
    lookupLogicalResponseBytesDefault

/-- `RawCallKind`. -/
structure RawCallKind where
  flags : UInt16
  itemCount : UInt32
  checkItemCount : Bool
  deriving Repr, DecidableEq

/-- `RawCallKind::single`. -/
def RawCallKind.single : RawCallKind := ⟨0, 1, false⟩

/-- `RawCallKind::batch`. -/
def RawCallKind.batch (itemCount : UInt32) : RawCallKind := ⟨flagBatch, itemCount, true⟩

/-- `next_power_of_2_u32`. -/
def nextPowerOf2U32 (n : UInt32) : UInt32 :=
  if n < 16 then 16
  else if n > (1 : UInt32) <<< 31 then (1 : UInt32) <<< 31
  else
    let value := n - 1
    let value := value ||| value >>> 1
    let value := value ||| value >>> 2
    let value := value ||| value >>> 4
    let value := value ||| value >>> 8
    let value := value ||| value >>> 16
    value + 1

/-- `u32::saturating_mul(2)`. -/
def saturatingDouble (n : UInt32) : UInt32 := UInt32.ofNat (min (n.toNat * 2) Uds.u32Max)

namespace RawClient

/-- `new_bound`. -/
def newBound (expectedMethodCode : UInt16) (config : TransportClientConfig) : RawClient where
  state := .disconnected
  expectedMethodCode := expectedMethodCode
  transportConfig := config
  session := none
  shm := none
  requestBuf := []
  connectCount := 0
  reconnectCount := 0
  callCount := 0
  errorCount := 0
  callTimeoutMs := clientCallTimeoutDefaultMs
  maxLogicalLookupItems := lookupLogicalItemsDefault
  maxLogicalLookupSubcalls := lookupLogicalSubcallsDefault
  maxLogicalLookupResponseBytes := lookupLogicalResponseBytesDefault

/-- `set_lookup_logical_config`. -/
def setLookupLogicalConfig (self : RawClient) (config : LookupLogicalConfig) : RawClient :=
  { self with
    maxLogicalLookupItems := config.normalize.maxItems
    maxLogicalLookupSubcalls := config.normalize.maxSubcalls
    maxLogicalLookupResponseBytes := config.normalize.maxResponseBytes }

/-- `set_call_timeout`. -/
def setCallTimeout (self : RawClient) (timeoutMs : UInt32) : RawClient :=
  { self with callTimeoutMs := Handshake.applyDefault timeoutMs clientCallTimeoutDefaultMs }

/-- `resolved_call_timeout`. -/
def resolvedCallTimeout (self : RawClient) (timeoutMs : UInt32) : UInt32 :=
  if timeoutMs ≠ 0 then timeoutMs
  else if self.callTimeoutMs ≠ 0 then self.callTimeoutMs
  else clientCallTimeoutDefaultMs

/-- `session_max_request_payload_bytes`. -/
def sessionMaxRequestPayloadBytes (self : RawClient) : UInt32 :=
  match self.session with
  | some session => session.maxRequestPayloadBytes
  | none => self.transportConfig.maxRequestPayloadBytes

/-- `session_max_response_payload_bytes`. -/
def sessionMaxResponsePayloadBytes (self : RawClient) : UInt32 :=
  match self.session with
  | some session => session.maxResponsePayloadBytes
  | none => self.transportConfig.maxResponsePayloadBytes

/-- `max_receive_message_bytes`. -/
def maxReceiveMessageBytes (self : RawClient) : Nat :=
  let maxPayload := self.transportConfig.maxResponsePayloadBytes.toNat
  let maxPayload :=
    match self.session with
    | some session =>
      if session.maxResponsePayloadBytes > 0 then session.maxResponsePayloadBytes.toNat
      else maxPayload
    | none => maxPayload
  let maxPayload := if maxPayload = 0 then cacheResponseBufSize else maxPayload
  headerSize + maxPayload

/-- The capacity both `client_note_…_capacity` learn from a payload length. -/
def grownCapacity (payloadLen : UInt32) : UInt32 := min (nextPowerOf2U32 payloadLen) maxPayloadCap

/-- `client_note_request_capacity`. -/
def clientNoteRequestCapacity (self : RawClient) (payloadLen : UInt32) : RawClient :=
  let grown := grownCapacity payloadLen
  if grown > self.transportConfig.maxRequestPayloadBytes then
    { self with transportConfig := { self.transportConfig with maxRequestPayloadBytes := grown } }
  else self

/-- `client_note_response_capacity`. -/
def clientNoteResponseCapacity (self : RawClient) (payloadLen : UInt32) : RawClient :=
  let grown := grownCapacity payloadLen
  if grown > self.transportConfig.maxResponsePayloadBytes then
    { self with transportConfig := { self.transportConfig with maxResponsePayloadBytes := grown } }
  else self

/-- A client that does not offer shared memory any more. -/
def withoutShmProfiles (self : RawClient) : RawClient :=
  let config := self.transportConfig
  { self with
    transportConfig := { config with
      supportedProfiles := config.supportedProfiles &&& ~~~(profileShmHybrid ||| profileShmFutex)
      preferredProfiles :=
        config.preferredProfiles &&& ~~~(profileShmHybrid ||| profileShmFutex) } }

/-- `request_scratch`: the buffer after it was made long enough. -/
def requestScratch (self : RawClient) (needed : Nat) : RawClient :=
  { self with requestBuf := Uds.grow self.requestBuf needed }

/-- `validate_method`. -/
def validateMethod (self : RawClient) (methodCode : UInt16) : Res NipcError Unit :=
  rejectIf (self.expectedMethodCode ≠ methodCode) .badLayout

end RawClient

/-! ### The world of a client -/

/-- One run of `do_raw_call`: the request it was for, and how it ended. -/
structure Attempt where
  request : Header
  result : Res NipcError (Header × Bytes)

/-- What a lookup did: it asked for `count` keys from key `start` on, with these bytes, and got this
back; or it answered a key by itself, because a request for it fits neither limit. -/
inductive LookupEvent where
  | asked (start count : Nat) (request : Bytes) (result : Res NipcError Bytes)
  | skipped (index : Nat) (sessionLimit configLimit : UInt32)

/-- A client, the state of its environment, what its sessions saw, and the two logs. -/
structure ClientWorld (σ : Type) where
  client : RawClient
  os : σ
  trace : List Event
  attempts : List Attempt
  calls : List LookupEvent

/-- A program of a client. -/
abbrev ClientProg (σ α : Type) := Prog NipcError (ClientWorld σ) α

namespace Client

variable {σ α : Type}

def getClient : ClientProg σ RawClient := do
  let world ← Prog.get
  return world.client

def modifyClient (change : RawClient → RawClient) : ClientProg σ Unit :=
  Prog.modify fun world => { world with client := change world.client }

def setState (state : ClientState) : ClientProg σ Unit :=
  modifyClient fun self => { self with state }

/-- An operation of the environment. -/
def outside (step : σ → α × σ) : ClientProg σ α := fun world =>
  let (answer, os) := step world.os
  (.ok answer, { world with os })

/-- An operation of the environment that leaves an event in the trace. -/
def observed (step : σ → α × σ) (event : α → Event) : ClientProg σ α := fun world =>
  let (answer, os) := step world.os
  (.ok answer, { world with os, trace := world.trace ++ [event answer] })

/-- The world with what a session became. -/
def withEndpoint (world : ClientWorld σ) (session : Session) (endpoint : Endpoint σ) :
    ClientWorld σ :=
  { world with
    client := { world.client with
      session := some { session with toUdsSession := endpoint.session } }
    os := endpoint.os
    trace := endpoint.trace }

/-- Work on the session, if there is one; how the work ended is left to the caller. -/
def onSession (program : UdsProg σ α) : ClientProg σ (Res UdsError α) := fun world =>
  match world.client.session with
  | none => (.error (.err .truncated), world)
  | some session =>
    let (result, after) := program.run ⟨session.toUdsSession, world.os, world.trace⟩
    (.ok result, withEndpoint world session after)

theorem run_onSession {world : ClientWorld σ} {session : Session}
    (found : world.client.session = some session) (program : UdsProg σ α) :
    (onSession program).run world =
      (.ok (program.run ⟨session.toUdsSession, world.os, world.trace⟩).1,
        withEndpoint world session
          (program.run ⟨session.toUdsSession, world.os, world.trace⟩).2) := by
  unfold onSession Prog.run
  dsimp only
  rw [found]

/-- `abort_requested`. -/
def abortRequested (os : ClientOs σ) : ClientProg σ Bool := observed os.load .loaded

/-- `disconnect`. -/
def disconnect (os : ClientOs σ) : ClientProg σ Unit := Prog.modify fun world =>
  let shmClosed := (world.client.shm.elim id os.closeShm) world.os
  { world with
    client := { world.client with session := none, shm := none }
    os := (world.client.session.elim id os.dropSession) shmClosed }

@[simp] theorem run_getClient (world : ClientWorld σ) :
    (getClient : ClientProg σ RawClient).run world = (.ok world.client, world) := rfl

@[simp] theorem run_modifyClient (change : RawClient → RawClient) (world : ClientWorld σ) :
    (modifyClient change).run world = (.ok (), { world with client := change world.client }) := rfl

/-! ### Connecting -/

/-- The state a failed `UdsSession::connect` leads to. -/
def stateOfConnectError : ConnectError → ClientState
  | .handshake (.connect _) => .notFound
  | .handshake .authFailed => .authFailed
  | .handshake .noProfile => .incompatible
  | .handshake (.incompatible _) => .incompatible
  | _ => .disconnected

/-- The loop over `client_attach` in `try_connect`: `none` when its time is over. -/
def attachShm (os : ClientOs σ) (fuel : Nat) (sessionId : UInt64) :
    ClientProg σ (Option ShmContext) := do
  let now ← observed os.now .clock
  let deadline := now + clientShmAttachRetryTimeoutMs * Uds.nanosPerMilli
  Prog.loop (fun _ => do
    match ← outside (os.clientAttach sessionId) with
    | .ok shm => return .inr (some shm)
    | .error _ =>
      let now ← observed os.now .clock
      if now ≥ deadline then return .inr none
      else
        outside fun state => ((), os.sleep clientShmAttachRetryIntervalMs state)
        return .inl ()) fuel ()

/-- Is this one of the two profiles with a shared memory region? -/
def isShmProfile (profile : UInt32) : Bool := profile = profileShmHybrid ∨ profile = profileShmFutex

/-- One pass of `try_connect`; `inl` stands for calling itself again. -/
def connectOnce (os : ClientOs σ) (fuel : Nat) : ClientProg σ (Unit ⊕ ClientState) := do
  let self ← getClient
  match ← outside (os.connect self.transportConfig) with
  | .error error => return .inr (stateOfConnectError error)
  | .ok session =>
    if isShmProfile session.selectedProfile then
      match ← attachShm os fuel session.sessionId with
      | some shm =>
        modifyClient fun self => { self with shm := some shm, session := some session }
        return .inr .ready
      | none =>
        outside fun state => ((), os.dropSession session state)
        modifyClient RawClient.withoutShmProfiles
        if (← getClient).transportConfig.supportedProfiles = 0 then return .inr .disconnected
        else return .inl ()
    else
      modifyClient fun self => { self with session := some session }
      return .inr .ready

/-- `try_connect`. -/
def tryConnect (os : ClientOs σ) (fuel : Nat) : ClientProg σ ClientState :=
  Prog.loop (fun _ => connectOnce os fuel) fuel ()

/-- The part the two branches of `refresh` share; `counted` counts a new connection. -/
def connecting (os : ClientOs σ) (fuel : Nat) (counted : RawClient → RawClient) :
    ClientProg σ Unit := do
  setState .connecting
  let state ← tryConnect os fuel
  setState state
  if state = .ready then modifyClient counted else pure ()

/-- What `refresh` does in each state. -/
def refreshFrom (os : ClientOs σ) (fuel : Nat) : ClientState → ClientProg σ Unit
  | .disconnected | .notFound =>
    connecting os fuel fun self => { self with connectCount := self.connectCount + 1 }
  | .broken => do
    disconnect os
    connecting os fuel fun self => { self with reconnectCount := self.reconnectCount + 1 }
  | .ready | .connecting | .authFailed | .incompatible => pure ()

/-- `refresh`. -/
def refresh (os : ClientOs σ) (fuel : Nat) : ClientProg σ Bool := do
  let oldState := (← getClient).state
  refreshFrom os fuel oldState
  return (← getClient).state ≠ oldState

/-- `close`. -/
def close (os : ClientOs σ) : ClientProg σ Unit := do
  disconnect os
  setState .disconnected
  outside fun state => ((), os.storeAbort false state)

/-- How a call gives up: the connection is dropped and the error counted. -/
def giveUp (os : ClientOs σ) (error : NipcError) : ClientProg σ α := do
  disconnect os
  modifyClient fun self => { self with state := .broken, errorCount := self.errorCount + 1 }
  Prog.fail error

/-- Drop the connection and make a new one; `error` is what the call returns if that fails. -/
def reconnect (os : ClientOs σ) (fuel : Nat) (error : NipcError) : ClientProg σ Unit := do
  disconnect os
  setState .broken
  let state ← tryConnect os fuel
  setState state
  if state ≠ .ready then
    modifyClient fun self => { self with errorCount := self.errorCount + 1 }
    Prog.fail error
  else modifyClient fun self => { self with reconnectCount := self.reconnectCount + 1 }

/-- `ensure_ready_for_logical_lookup`. -/
def ensureReadyForLogicalLookup (os : ClientOs σ) : ClientProg σ Unit := do
  let self ← getClient
  if self.state ≠ .ready then
    modifyClient fun self => { self with errorCount := self.errorCount + 1 }
    Prog.fail .badLayout
  else if ← abortRequested os then giveUp os .aborted
  else pure ()

/-- `ensure_lookup_request_capacity`. -/
def ensureLookupRequestCapacity (os : ClientOs σ) (fuel : Nat) (required : Nat) :
    ClientProg σ Bool := do
  if ← abortRequested os then giveUp os .aborted
  else
    Prog.ofRes (rejectIf (required > Uds.u32Max) .overflow)
    let required := UInt32.ofNat required
    let self ← getClient
    if required > Handshake.applyDefault self.transportConfig.maxRequestPayloadBytes
        maxPayloadDefault then return false
    else if self.sessionMaxRequestPayloadBytes ≥ required then return true
    else
      let prevReq := self.sessionMaxRequestPayloadBytes
      reconnect os fuel .overflow
      let self ← getClient
      if self.sessionMaxRequestPayloadBytes ≤ prevReq ∨
          self.sessionMaxRequestPayloadBytes < required then giveUp os .overflow
      else return true

/-! ### One attempt -/

/-- The overflow both transports report: learn a larger capacity, then fail. -/
def requestOverflow (reqLen : Nat) : ClientProg σ Unit := do
  modifyClient fun self => self.clientNoteRequestCapacity (UInt32.ofNat reqLen)
  Prog.fail .overflow

/-- `transport_send_request_buf`. -/
def transportSendRequestBuf (os : ClientOs σ) (hdr : Header) (reqLen : Nat) :
    ClientProg σ Unit := do
  let self ← getClient
  match self.shm with
  | some shm =>
    if reqLen > self.sessionMaxRequestPayloadBytes.toNat then requestOverflow reqLen
    else
      let payload ← Prog.ofRes (readSlice self.requestBuf 0 reqLen)
      let msg := Uds.encodeHeader (Uds.fillEnvelope hdr payload) ++ payload
      match ← outside (os.shmSend shm msg) with
      | .ok () => return ()
      | .error .msgTooLarge => requestOverflow reqLen
      | .error _ => Prog.fail .truncated
  | none =>
    Prog.ofRes (rejectIf (self.session = none) .truncated)
    let payload ← Prog.ofRes (readSlice self.requestBuf 0 reqLen)
    match ← onSession (Uds.send os.toOs hdr payload) with
    | .ok _ => return ()
    | .error (.err .limitExceeded) => requestOverflow reqLen
    | .error (.err _) => Prog.fail .truncated
    | .error .panic => Prog.stop .panic
    | .error .fuel => Prog.stop .fuel

/-- `receive_wait_slice_ms`. -/
def receiveWaitSliceMs (os : ClientOs σ) (deadline : Option Nat) : ClientProg σ UInt32 := do
  if ← abortRequested os then Prog.fail .aborted
  else
    match deadline with
    | none => return UInt32.ofNat clientAbortPollMs
    | some deadline =>
      let now ← observed os.now .clock
      if now ≥ deadline then Prog.fail .timeout
      else
        let ms := max ((deadline - now) / Uds.nanosPerMilli) 1
        return UInt32.ofNat (min ms clientAbortPollMs)

/-- `receive_deadline`. -/
def receiveDeadline (os : ClientOs σ) (timeoutMs : UInt32) : ClientProg σ (Option Nat) := do
  if timeoutMs ≠ 0 then
    let now ← observed os.now .clock
    return some (now + timeoutMs.toNat * Uds.nanosPerMilli)
  else return none

/-- `receive_posix_shm_with_control`, into a buffer of `size` bytes. -/
def receivePosixShmWithControl (os : ClientOs σ) (fuel : Nat) (shm : ShmContext) (size : Nat)
    (timeoutMs : UInt32) : ClientProg σ Bytes := do
  let deadline ← receiveDeadline os timeoutMs
  Prog.loop (fun _ => do
    let waitMs ← receiveWaitSliceMs os deadline
    match ← outside (os.shmReceive shm size waitMs) with
    | .ok message => return .inr message
    | .error .timeout => return .inl ()
    | .error .msgTooLarge => Prog.fail .overflow
    | .error .other => Prog.fail .truncated) fuel ()

/-- `map_uds_receive_error`. -/
def mapUdsReceiveError : UdsError → NipcError
  | .timeout => .timeout
  | .aborted => .aborted
  | .limitExceeded => .overflow
  | _ => .truncated

/-- `transport_receive` of a message that arrived in shared memory. -/
def acceptShmMessage (size : Nat) (message : Bytes) : Res NipcError (Header × Bytes) := do
  rejectIf (message.length < headerSize) .truncated
  -- The message is read as a slice of the buffer it was received into.
  if message.length > size then .error .panic
  else
    let hdr ← Header.decode message
    return (hdr, message.drop headerSize)

/-- `transport_receive`. What is left in the scratch buffer from before is not read. -/
def transportReceive (os : ClientOs σ) (fuel : Nat) (timeoutMs : UInt32) :
    ClientProg σ (Header × Bytes) := do
  let self ← getClient
  let needed := self.maxReceiveMessageBytes
  match self.shm with
  | some shm =>
    let message ← receivePosixShmWithControl os fuel shm needed timeoutMs
    Prog.ofRes (acceptShmMessage needed message)
  | none =>
    let received ← onSession (Uds.receiveWithControl os.toOs fuel (zeros needed) timeoutMs true)
    Prog.ofRes (mapError mapUdsReceiveError received)

/-- The checks of `do_raw_call` on a response, except the one on its status. -/
def matchResponse (request response : Header) : Res NipcError Unit := do
  rejectIf (response.kind ≠ kindResponse) .badKind
  rejectIf (response.code ≠ request.code) .badLayout
  rejectIf (response.messageId ≠ request.messageId) .badLayout

/-- The header of a request. -/
def requestHeader (self : RawClient) (methodCode : UInt16) (call : RawCallKind) : Header where
  kind := kindRequest
  code := methodCode
  flags := call.flags
  itemCount := call.itemCount
  messageId := self.callCount.toUInt64 + 1
  transportStatus := statusOk

/-- The server ran out of room for its response: learn twice the capacity, then fail. -/
def responseOverflow : ClientProg σ α := do
  modifyClient fun self =>
    let current := self.sessionMaxResponsePayloadBytes
    if current > 0 then self.clientNoteResponseCapacity (saturatingDouble current) else self
  Prog.fail .overflow

section Sending

variable (send : Header → Nat → ClientProg σ Unit) (os : ClientOs σ) (fuel : Nat)

/-- `do_raw_call`, with the header of the response; the request is sent by `send`. -/
def doRawCallWith (hdr : Header) (reqLen : Nat) (call : RawCallKind) (timeoutMs : UInt32) :
    ClientProg σ (Header × Bytes) := do
  if ← abortRequested os then Prog.fail .aborted
  else
    send hdr reqLen
    let (respHdr, response) ← transportReceive os fuel timeoutMs
    Prog.ofRes (matchResponse hdr respHdr)
    if respHdr.transportStatus = statusOk then
      Prog.ofRes (rejectIf (call.checkItemCount = true ∧ respHdr.itemCount ≠ call.itemCount)
        .badItemCount)
      return (respHdr, response)
    else if respHdr.transportStatus = statusLimitExceeded then responseOverflow
    else Prog.fail .badLayout

/-- `do_raw_call` with its entry in the log. -/
def attemptWith (methodCode : UInt16) (reqLen : Nat) (call : RawCallKind) (timeoutMs : UInt32) :
    ClientProg σ (Header × Bytes) := do
  let hdr := requestHeader (← getClient) methodCode call
  Prog.inspect (doRawCallWith send os fuel hdr reqLen call timeoutMs) fun result => do
    Prog.modify fun world => { world with attempts := world.attempts ++ [⟨hdr, result⟩] }
    Prog.ofRes result

/-- `do_raw_call` as it is: the request is sent by `transport_send_request_buf`. -/
def doRawCall : Header → Nat → RawCallKind → UInt32 → ClientProg σ (Header × Bytes) :=
  doRawCallWith (transportSendRequestBuf os) os fuel

def attempt : UInt16 → Nat → RawCallKind → UInt32 → ClientProg σ (Header × Bytes) :=
  attemptWith (transportSendRequestBuf os) os fuel

end Sending

/-! ### The call -/

/-- None of the four limits is larger than before. -/
def noGrowth (before after : RawClient) : Bool :=
  after.sessionMaxRequestPayloadBytes ≤ before.sessionMaxRequestPayloadBytes ∧
    after.sessionMaxResponsePayloadBytes ≤ before.sessionMaxResponsePayloadBytes ∧
    after.transportConfig.maxRequestPayloadBytes ≤ before.transportConfig.maxRequestPayloadBytes ∧
    after.transportConfig.maxResponsePayloadBytes ≤ before.transportConfig.maxResponsePayloadBytes

/-- A successful call is counted. -/
def succeed (payload : α) : ClientProg σ α := do
  modifyClient fun self => { self with callCount := self.callCount + 1 }
  return payload

section Calling

variable (send : Header → Nat → ClientProg σ Unit) (os : ClientOs σ) (fuel : Nat)

/-- One pass of the loop of `raw_call_with_retry_timeout`. -/
def callPassWith (methodCode : UInt16) (reqLen : Nat) (call : RawCallKind)
    (timeoutMs overflowRetries : UInt32) : ClientProg σ (UInt32 ⊕ Bytes) := do
  let prev ← getClient
  Prog.inspect (attemptWith send os fuel methodCode reqLen call timeoutMs) fun
    | .ok (_, payload) => succeed (.inr payload)
    | .error (.err firstErr) =>
      if firstErr = .timeout ∨ firstErr = .aborted then giveUp os firstErr
      else if firstErr ≠ .overflow then do
        reconnect os fuel firstErr
        Prog.inspect (attemptWith send os fuel methodCode reqLen call timeoutMs) fun
          | .ok (_, payload) => succeed (.inr payload)
          | .error (.err retryErr) => giveUp os retryErr
          | .error .panic => Prog.stop .panic
          | .error .fuel => Prog.stop .fuel
      else do
        reconnect os fuel firstErr
        if noGrowth prev (← getClient) then giveUp os firstErr
        else if overflowRetries + 1 ≥ 8 then giveUp os firstErr
        else return .inl (overflowRetries + 1)
    | .error .panic => Prog.stop .panic
    | .error .fuel => Prog.stop .fuel

/-- `raw_call_with_retry_timeout`; it opens with the code of `ensure_ready_for_logical_lookup`. -/
def rawCallWith (methodCode : UInt16) (reqLen : Nat) (call : RawCallKind) (timeoutMs : UInt32) :
    ClientProg σ Bytes := do
  ensureReadyForLogicalLookup os
  let timeoutMs := (← getClient).resolvedCallTimeout timeoutMs
  Prog.loop (callPassWith send os fuel methodCode reqLen call timeoutMs) fuel 0

def callPass : UInt16 → Nat → RawCallKind → UInt32 → UInt32 → ClientProg σ (UInt32 ⊕ Bytes) :=
  callPassWith (transportSendRequestBuf os) os fuel

/-- `raw_call_with_retry_timeout` with `transport_send_request_buf`. -/
def rawCallWithRetryTimeout : UInt16 → Nat → RawCallKind → UInt32 → ClientProg σ Bytes :=
  rawCallWith (transportSendRequestBuf os) os fuel

end Calling

/-- An entry in the log of a lookup. -/
def note (event : LookupEvent) : ClientProg σ Unit :=
  Prog.modify fun world => { world with calls := world.calls ++ [event] }

end Client

end NetIpc
