/-
This file models how the C managed server answers a request (`netipc_service_common.c`,
`netipc_service_posix_server_session.c`) and proves when its client can take the answer.

`prepare_response_header` makes the response to a batch a batch, and
`apply_dispatch_result` empties a response that failed but leaves its header a batch.
The client then looks for a directory in an empty payload. So a failure is acceptable
exactly when the request was not a batch, and a success always is.
-/

import NetIpc.CUds
import NetIpc.HandshakeAgree
import NetIpc.Triple

namespace NetIpc.C

open NetIpc.Uds (packetsFor fillEnvelope u32Max DirectoryFits)
open NetIpc.Handshake

/-! ### The server -/

/-- `nipc_error_t`. -/
inductive ErrorCode where
  | ok
  | truncated
  | badMagic
  | badVersion
  | badHeaderLen
  | badKind
  | badLayout
  | outOfBounds
  | missingNul
  | badAlignment
  | badItemCount
  | overflow
  | handlerFailed
  | notReady
  | timeout
  | aborted
  deriving Repr, DecidableEq

/-- `nipc_service_common_next_power_of_2_u32`: above `2 ^ 31` the sum wraps to zero. -/
def nextPowerOf2U32 (n : UInt32) : UInt32 :=
  if n < 16 then 16
  else
    let n := n - 1
    let n := n ||| n >>> 1
    let n := n ||| n >>> 2
    let n := n ||| n >>> 4
    let n := n ||| n >>> 8
    let n := n ||| n >>> 16
    n + 1

/-- The fields of `nipc_managed_server_t` that a response changes or reads. -/
structure ManagedServer where
  learnedResponsePayloadBytes : UInt32
  responsePayloadGrowthCeiling : UInt32
  deriving Repr, DecidableEq

/-- `nipc_service_common_server_note_response_capacity`, with no other session in between. -/
def noteResponseCapacity (server : ManagedServer) (payloadLen : UInt32) : ManagedServer :=
  let grown := min (nextPowerOf2U32 payloadLen) server.responsePayloadGrowthCeiling
  if grown > server.learnedResponsePayloadBytes then
    { server with learnedResponsePayloadBytes := grown }
  else server

/-- The test of `prepare_response_header` for a batch. -/
def IsBatch (requestHdr : Header) : Prop :=
  requestHdr.flags &&& flagBatch ≠ 0 ∧ 1 ≤ requestHdr.itemCount

instance (requestHdr : Header) : Decidable (IsBatch requestHdr) :=
  inferInstanceAs (Decidable (_ ∧ _))

/-- `nipc_service_common_prepare_response_header`. -/
def prepareResponseHeader (requestHdr : Header) : Header where
  magic := 0
  version := 0
  headerLen := 0
  kind := kindResponse
  flags := if IsBatch requestHdr then flagBatch else 0
  code := requestHdr.code
  transportStatus := 0
  payloadLen := 0
  itemCount := if IsBatch requestHdr then requestHdr.itemCount else 1
  messageId := requestHdr.messageId

/-- What `apply_dispatch_result` leaves behind. -/
structure Applied where
  server : ManagedServer
  respHdr : Header
  responseLen : Nat
  closeAfterResponse : Bool
  deriving Repr, DecidableEq

/-- A response that is sent without a payload before the session is closed. -/
def Applied.failure (server : ManagedServer) (respHdr : Header) (transportStatus : UInt16) :
    Applied :=
  ⟨server, { respHdr with transportStatus }, 0, true⟩

/-- `nipc_service_common_apply_dispatch_result`. -/
def applyDispatchResult (server : ManagedServer) (dispatchErr : ErrorCode) (respBufSize : Nat)
    (maxResponsePayloadBytes : UInt32) (checkHeaderRoom : Bool) (respHdr : Header)
    (responseLen : Nat) : Applied :=
  match dispatchErr with
  | .ok =>
    if responseLen > respBufSize ∨ responseLen > maxResponsePayloadBytes.toNat ∨
        (checkHeaderRoom = true ∧ responseLen > usizeMax - headerSize) then
      .failure (noteResponseCapacity server (UInt32.ofNat (min responseLen u32Max))) respHdr
        statusLimitExceeded
    else
      let server :=
        if responseLen ≤ u32Max then noteResponseCapacity server (UInt32.ofNat responseLen)
        else server
      ⟨server, { respHdr with transportStatus := statusOk }, responseLen, false⟩
  | .overflow =>
    let wanted :=
      if maxResponsePayloadBytes ≥ UInt32.ofNat u32Max / 2 then UInt32.ofNat u32Max
      else maxResponsePayloadBytes * 2
    .failure (noteResponseCapacity server wanted) respHdr statusLimitExceeded
  | .truncated | .badLayout | .outOfBounds | .missingNul | .badAlignment | .badItemCount =>
    .failure server respHdr statusBadEnvelope
  | .badMagic | .badVersion | .badHeaderLen | .badKind | .handlerFailed | .notReady | .timeout
  | .aborted =>
    .failure server respHdr statusInternalError

def minPayloadBufferBytes : Nat := 1024

/-- The receive buffer of `server_handle_session`. -/
def recvSize (session : UdsSession) : Nat :=
  max (headerSize + session.maxRequestPayloadBytes.toNat) (headerSize + minPayloadBufferBytes)

/-- The response buffer of `nipc_service_posix_session_handler_thread`. -/
def respBufSize (session : UdsSession) : Nat :=
  max session.maxResponsePayloadBytes.toNat minPayloadBufferBytes

/-- The response buffer of `client_prepare_session_buffers`. -/
def responseNeed (session : UdsSession) : Nat :=
  max (headerSize + session.maxResponsePayloadBytes.toNat) (headerSize + minPayloadBufferBytes)

/-- What the handler returns, and the response buffer as it leaves it. -/
structure DispatchResult where
  dispatchErr : ErrorCode
  respBuf : Bytes
  responseLen : Nat
  deriving Repr, DecidableEq

/-- The part of `server_handle_session` between the handler and sending. -/
def buildResponse (session : UdsSession) (server : ManagedServer) (hdr : Header)
    (result : DispatchResult) : Applied :=
  applyDispatchResult server result.dispatchErr
    (min session.maxResponsePayloadBytes.toNat (respBufSize session))
    session.maxResponsePayloadBytes false (prepareResponseHeader hdr) result.responseLen

/-- The bytes of the response buffer that are sent. -/
def responseBytes (session : UdsSession) (server : ManagedServer) (hdr : Header)
    (result : DispatchResult) : Bytes :=
  result.respBuf.take (buildResponse session server hdr result).responseLen

/-! ### What the response is -/

/-- The dispatch succeeded with a response within the negotiated limit. -/
def Succeeds (session : UdsSession) (result : DispatchResult) : Prop :=
  result.dispatchErr = .ok ∧ result.responseLen ≤ session.maxResponsePayloadBytes.toNat

section Response

variable {session : UdsSession} {result : DispatchResult} (server : ManagedServer) (hdr : Header)

theorem buildResponse_of_succeeds (succeeds : Succeeds session result) :
    (buildResponse session server hdr result).respHdr =
        { prepareResponseHeader hdr with transportStatus := statusOk } ∧
      (buildResponse session server hdr result).responseLen = result.responseLen := by
  obtain ⟨ok, short⟩ := succeeds
  have room : session.maxResponsePayloadBytes.toNat ≤ respBufSize session := Nat.le_max_left _ _
  rw [buildResponse, applyDispatchResult.eq_def, ok]
  dsimp only
  rw [if_neg]
  · exact ⟨rfl, rfl⟩
  · rintro (past | past | ⟨never, -⟩)
    · omega
    · omega
    · cases never

theorem buildResponse_of_fails (fails : ¬ Succeeds session result) :
    ∃ transportStatus, transportStatus ≠ statusOk ∧
      (buildResponse session server hdr result).respHdr =
        { prepareResponseHeader hdr with transportStatus } ∧
      (buildResponse session server hdr result).responseLen = 0 := by
  rw [buildResponse, applyDispatchResult.eq_def]
  cases code : result.dispatchErr with
  | ok =>
    have past : ¬ result.responseLen ≤ session.maxResponsePayloadBytes.toNat :=
      fun short => fails ⟨code, short⟩
    dsimp only
    rw [if_pos (Or.inr (Or.inl (Nat.lt_of_not_le past)))]
    exact ⟨statusLimitExceeded, by decide, rfl, rfl⟩
  | overflow => exact ⟨statusLimitExceeded, by decide, rfl, rfl⟩
  | truncated | badLayout | outOfBounds | missingNul | badAlignment | badItemCount =>
    exact ⟨statusBadEnvelope, by decide, rfl, rfl⟩
  | badMagic | badVersion | badHeaderLen | badKind | handlerFailed | notReady | timeout | aborted =>
    exact ⟨statusInternalError, by decide, rfl, rfl⟩

end Response

/-! ### Receiving a request -/

/-- What receiving leaves as it is: the terms of the session and what was sent. -/
def standing (peer : Peer) : UdsSession × List Bytes :=
  ({ peer.session with inflightIds := ∅ }, peer.outbox)

theorem onInflight_keeps (change : Finset UInt64 → Finset UInt64) :
    Keeps standing (onInflight change) := Keeps.modify fun _ => rfl

theorem getSession_keeps : Keeps standing getSession :=
  Keeps.bind Keeps.get fun _ => Keeps.pure _

theorem rawRecv_keeps (bufSize : Nat) : Keeps standing (rawRecv bufSize) := by
  have failed : Keeps standing (inflightFailAll >>= fun _ => (Prog.fail .recv : PeerProg Bytes)) :=
    Keeps.bind (Keeps.bind getSession_keeps fun _ => Keeps.ite (onInflight_keeps _) (Keeps.pure _))
      fun _ => Keeps.fail _
  refine Keeps.bind Keeps.get fun peer => ?_
  cases peer.inbox with
  | nil => exact failed
  | cons packet rest =>
    exact Keeps.bind (Keeps.modify fun _ => rfl) fun _ => Keeps.ite failed (Keeps.pure _)

theorem receiveFirstPacket_keeps (bufSize : Nat) : Keeps standing (receiveFirstPacket bufSize) :=
  Keeps.bind (rawRecv_keeps bufSize) fun _ => Keeps.bind (Keeps.ofRes _) fun _ =>
    Keeps.bind (Keeps.ofRes _) fun _ => Keeps.pure _

theorem trackInboundResponse_keeps (session : UdsSession) (hdr : Header) :
    Keeps standing (trackInboundResponse session hdr) :=
  Keeps.ite (Keeps.pure _) (Keeps.ite (onInflight_keeps _) (Keeps.fail _))

theorem receiveChunkedPayload_keeps (packetSize : UInt32) (hdr : Header) (totalMsg : Nat)
    (first : Bytes) : Keeps standing (receiveChunkedPayload packetSize hdr totalMsg first) :=
  Keeps.bind (Keeps.ofRes _) fun _ =>
    Keeps.bind (Keeps.loop (fun _ => Keeps.ite (Keeps.bind (rawRecv_keeps _) fun _ =>
      Keeps.bind (Keeps.ofRes _) fun _ => Keeps.pure _) (Keeps.pure _)) _ _) fun _ =>
    Keeps.bind (Keeps.ofRes _) fun _ => Keeps.pure _

theorem nipcUdsReceive_keeps (bufSize : Nat) : Keeps standing (nipcUdsReceive bufSize) := by
  refine Keeps.bind getSession_keeps fun session => Keeps.ite (Keeps.fail _) ?_
  refine Keeps.bind (receiveFirstPacket_keeps bufSize) fun first => ?_
  refine Keeps.bind (Keeps.ofRes _) fun _ =>
    Keeps.bind (trackInboundResponse_keeps session first.1) fun _ => ?_
  cases headerPayloadLen first.1.payloadLen.toNat with
  | none => exact Keeps.fail _
  | some totalMsg =>
    exact Keeps.bind (Keeps.ofRes _) fun _ => Keeps.ite
      (Keeps.bind (Keeps.ofRes _) fun _ => Keeps.pure _) (receiveChunkedPayload_keeps _ _ _ _)

/-- A received message is within the limit on batches. -/
theorem itemCount_le_of_nipcUdsReceive {bufSize : Nat} {hdr : Header} {payload : Bytes}
    {before after : Peer}
    (ran : (nipcUdsReceive bufSize).run before = (.ok (hdr, payload), after)) :
    hdr.itemCount ≤ (Uds.receiveLimits before.session).2 := by
  rw [nipcUdsReceive, Prog.run_bind_ok (run_getSession _)] at ran
  split at ran
  · cases ran
  obtain ⟨⟨first, packet⟩, _, -, ran⟩ := Prog.run_bind_eq_ok ran
  obtain ⟨_, limits, ran⟩ := Prog.run_ofRes_bind_eq_ok ran
  obtain ⟨_, _, limits⟩ := bind_eq_ok limits
  have within := UInt32.not_lt.mp (rejectIf_eq_ok limits)
  obtain ⟨_, _, -, ran⟩ := Prog.run_bind_eq_ok ran
  suffices same : hdr = first by rwa [same]
  cases computed : headerPayloadLen first.payloadLen.toNat with
  | none =>
    rw [computed] at ran
    cases ran
  | some totalMsg =>
    rw [computed] at ran
    dsimp only at ran
    obtain ⟨_, _, ran⟩ := Prog.run_ofRes_bind_eq_ok ran
    split at ran
    · obtain ⟨_, _, ran⟩ := Prog.run_ofRes_bind_eq_ok ran
      cases ran
      rfl
    · obtain ⟨_, _, ran⟩ := Prog.run_ofRes_bind_eq_ok ran
      obtain ⟨_, _, -, ran⟩ := Prog.run_bind_eq_ok ran
      obtain ⟨_, _, ran⟩ := Prog.run_ofRes_bind_eq_ok ran
      cases ran
      rfl

/-! ### Sessions of one handshake -/

/-- The two sessions a handshake leaves, whatever happened to their buffers and to the requests in
flight since. -/
structure Negotiated (ack : HelloAck) (client server : UdsSession) : Prop where
  decided : ∃ clientConfig serverConfig clientPktSize serverPktSize sessionId,
    negotiateC serverConfig serverPktSize sessionId
      (clientHello clientConfig clientPktSize) = .ok ack
  atClient : { client with inflightIds := ∅, recvBuf := [], pktBuf := [] } =
    (sessionOf client.fd .client ack).toUdsSession
  atServer : { server with inflightIds := ∅, recvBuf := [], pktBuf := [] } =
    (sessionOf server.fd .server ack).toUdsSession

/-- What the two ends have in common. -/
structure Terms (client server : UdsSession) : Prop where
  clientRole : client.role = .client
  serverRole : server.role = .server
  packetSize : client.packetSize = server.packetSize
  large : headerSize < server.packetSize.toNat
  payload : client.maxResponsePayloadBytes = server.maxResponsePayloadBytes
  items : client.maxResponseBatchItems = server.maxRequestBatchItems
  some : 1 ≤ server.maxRequestBatchItems

theorem ackFields_eq_ok {decision : Except (UInt16 × HandshakeError) HelloAck} {ack : HelloAck}
    (decided : ackFields decision = .ok ack) : decision = .ok ack := by
  cases decision with
  | ok ack' => exact congrArg _ (Except.ok.inj decided)
  | error reason => cases decided

theorem Negotiated.terms {ack : HelloAck} {client server : UdsSession}
    (negotiated : Negotiated ack client server) : Terms client server := by
  obtain ⟨⟨clientConfig, serverConfig, clientPktSize, serverPktSize, sessionId, decided⟩, atClient,
    atServer⟩ := negotiated
  rw [negotiateC_eq] at decided
  obtain ⟨-, -, room, rfl⟩ := negotiate_eq_ok (ackFields_eq_ok decided)
  obtain ⟨_, _, _, _, _, _, _, _, _, _⟩ := client
  obtain ⟨_, _, _, _, _, _, _, _, _, _⟩ := server
  injection atClient
  injection atServer
  subst_vars
  refine ⟨rfl, rfl, rfl, ?_, rfl, rfl, ?_⟩
  · rw [UInt32.le_iff_toNat_le] at room
    exact Nat.lt_of_not_le room
  · show 1 ≤ applyDefault clientConfig.maxRequestBatchItems defaultBatchItems
    unfold applyDefault
    split
    · decide
    · rename_i some
      exact UInt32.not_lt.mp fun none => some (UInt32.lt_one_iff.mp none)

/-! ### When the client can take the response -/

/-- The client gets the header and the payload as they were sent, and a response that failed is a
plain one without a payload. -/
def Acceptable (client : UdsSession) (hdr : Header) (payload : Bytes) (packets : List Bytes) :
    Prop :=
  (∃ after, (nipcUdsReceive (responseNeed client)).run ⟨client, packets, []⟩ =
    (.ok (hdr, payload), after)) ∧
  (hdr.transportStatus ≠ statusOk → hdr.payloadLen = 0 ∧ hdr.itemCount = 1 ∧ hdr.flags = 0)

/-- A response is checked for a directory only if the request was a batch. -/
theorem directoryFits_prepared {hdr : Header} {payload : Bytes} (transportStatus : UInt16)
    (layout : IsBatch hdr → 1 < hdr.itemCount → DirectoryFits hdr payload) :
    (prepareResponseHeader hdr).flags &&& flagBatch ≠ 0 →
      1 < (prepareResponseHeader hdr).itemCount →
      DirectoryFits { prepareResponseHeader hdr with transportStatus } payload := by
  by_cases batch : IsBatch hdr
  · simp only [prepareResponseHeader, if_pos batch]
    exact fun _ several => layout batch several
  · simp only [prepareResponseHeader, if_neg batch]
    exact fun flagged => absurd (UInt16.zero_and) flagged

/-- A response that fits its header is received. -/
theorem receives_response {client server : UdsSession} (terms : Terms client server)
    (isOpen : 0 ≤ client.fd) (hdr respHdr : Header) (payload : Bytes) (prepared : ∃ transportStatus,
      respHdr = { prepareResponseHeader hdr with transportStatus })
    (items : hdr.itemCount ≤ server.maxRequestBatchItems)
    (waiting : hdr.messageId ∈ client.inflightIds)
    (short : payload.length ≤ server.maxResponsePayloadBytes.toNat)
    (small : headerSize + payload.length ≤ u32Max)
    (layout : respHdr.flags &&& flagBatch ≠ 0 → 1 < respHdr.itemCount →
      DirectoryFits respHdr payload) :
    ∃ after, (nipcUdsReceive (responseNeed client)).run
      ⟨client, packetsFor (fillEnvelope respHdr payload) payload server.packetSize.toNat, []⟩ =
        (.ok (fillEnvelope respHdr payload, payload), after) := by
  obtain ⟨transportStatus, rfl⟩ := prepared
  have limits : Uds.receiveLimits client =
      (server.maxResponsePayloadBytes, server.maxRequestBatchItems) := by
    rw [Uds.receiveLimits, if_neg (by rw [terms.clientRole]; decide), terms.payload, terms.items]
  have counted : (prepareResponseHeader hdr).itemCount ≤ server.maxRequestBatchItems := by
    show (if IsBatch hdr then hdr.itemCount else 1) ≤ _
    split
    · exact items
    · exact terms.some
  have declared : (fillEnvelope (prepareResponseHeader hdr) payload).payloadLen.toNat =
      payload.length := Uds.toNat_payloadLen small rfl
  have kind : kindRequest ≤ kindResponse ∧ kindResponse ≤ kindControl := by decide
  have fits : payload.length ≤ u32Max := le_trans (Nat.le_add_left _ _) small
  have received := run_nipcUdsReceive
    (fillEnvelope { prepareResponseHeader hdr with transportStatus } payload) payload [] [] client
    (responseNeed client) isOpen (by rw [terms.packetSize]; exact terms.large)
    ⟨rfl, rfl, rfl, kind⟩ rfl small
    (by rw [limits, UInt32.le_iff_toNat_le]; exact le_of_eq_of_le declared short)
    (by rw [limits]; exact counted) (fun _ _ => waiting)
    (by rw [responseNeed, terms.payload]; omega) (validateBatch_of_directoryFits fits layout)
  rw [List.append_nil, terms.packetSize] at received
  exact ⟨_, received⟩

/-- The response to a received request is acceptable exactly if the request was no batch or the
dispatch succeeded. -/
theorem response_acceptable_iff {ack : HelloAck} {client server : UdsSession}
    (negotiated : Negotiated ack client server) (isOpen : 0 ≤ client.fd) (requests : List Bytes)
    (hdr : Header) (payload : Bytes) (between : Peer)
    (received : (nipcUdsReceive (recvSize server)).run ⟨server, requests, []⟩ =
      (.ok (hdr, payload), between)) (waiting : hdr.messageId ∈ client.inflightIds)
    (managed : ManagedServer) (result : DispatchResult)
    (layout : Succeeds server result → hdr.flags &&& flagBatch ≠ 0 → 1 < hdr.itemCount →
      DirectoryFits hdr (result.respBuf.take result.responseLen)) (respHdr : Header) (after : Peer)
    (responded : (nipcUdsSend (buildResponse server managed hdr result).respHdr
      (responseBytes server managed hdr result)).run between = (.ok respHdr, after)) :
    Acceptable client respHdr (responseBytes server managed hdr result) after.outbox ↔
      ¬ IsBatch hdr ∨ Succeeds server result := by
  have terms := negotiated.terms
  -- Receiving left the session on its terms, and nothing has been sent before.
  have kept := (nipcUdsReceive_keeps _).of_run received
  have role : between.session.role = .server :=
    (congrArg (fun view : UdsSession × List Bytes => view.1.role) kept).trans terms.serverRole
  have size : between.session.packetSize = server.packetSize :=
    congrArg (fun view : UdsSession × List Bytes => view.1.packetSize) kept
  have silent : between.outbox = [] := congrArg Prod.snd kept
  have items : hdr.itemCount ≤ server.maxRequestBatchItems := by
    have within := itemCount_le_of_nipcUdsReceive received
    rwa [Uds.receiveLimits, if_pos terms.serverRole] at within
  obtain ⟨-, small, rfl, rfl⟩ :=
    nipcUdsSend_eq_ok role (by rw [size]; exact terms.large) responded
  have outbox : (sent between (packetsFor
      (fillEnvelope (buildResponse server managed hdr result).respHdr
        (responseBytes server managed hdr result))
      (responseBytes server managed hdr result) between.session.packetSize.toNat)).outbox =
      packetsFor (fillEnvelope (buildResponse server managed hdr result).respHdr
        (responseBytes server managed hdr result))
        (responseBytes server managed hdr result) server.packetSize.toNat := by
    rw [sent, silent, size, List.nil_append]
  rw [outbox]
  by_cases succeeds : Succeeds server result
  · obtain ⟨prepared, length⟩ := buildResponse_of_succeeds managed hdr succeeds
    refine ⟨fun _ => Or.inr succeeds, fun _ => ⟨?_, ?_⟩⟩
    · refine receives_response terms isOpen hdr _ _ ⟨_, prepared⟩ items waiting ?_ small ?_
      · rw [responseBytes, length]
        exact (List.length_take_le _ _).trans succeeds.2
      · rw [responseBytes, length, prepared]
        exact directoryFits_prepared statusOk fun batch => layout succeeds batch.1
    · intro failed
      rw [fillEnvelope, prepared] at failed
      exact absurd rfl failed
  · obtain ⟨transportStatus, failed, prepared, length⟩ :=
      buildResponse_of_fails managed hdr succeeds
    have empty : responseBytes server managed hdr result = [] := by
      rw [responseBytes, length, List.take_zero]
    rw [empty, prepared]
    constructor
    · rintro ⟨-, plain⟩
      refine Or.inl fun batch => ?_
      have flags : (if IsBatch hdr then flagBatch else 0) = 0 := (plain failed).2.2
      rw [if_pos batch] at flags
      cases flags
    · rintro (single | impossible)
      · refine ⟨receives_response terms isOpen hdr _ _ ⟨_, rfl⟩ items waiting (Nat.zero_le _)
          (by decide) (directoryFits_prepared _ fun batch => absurd batch single), fun _ => ?_⟩
        exact ⟨rfl, if_neg single, if_neg single⟩
      · exact absurd impossible succeeds

/-! ### A batch of two -/

/-- What the two ends agreed on. -/
def pairAck : HelloAck where
  layoutVersion := 1
  serverSupportedProfiles := profileBaseline
  intersectionProfiles := profileBaseline
  selectedProfile := profileBaseline
  agreedMaxRequestPayloadBytes := 64
  agreedMaxRequestBatchItems := 2
  agreedMaxResponsePayloadBytes := 64
  agreedMaxResponseBatchItems := 2
  agreedPacketSize := 4096
  sessionId := 1

/-- A client that waits for the answer to request 7. -/
def pairClient : UdsSession :=
  { (sessionOf 3 .client pairAck).toUdsSession with inflightIds := {7} }

def pairServer : UdsSession := (sessionOf 4 .server pairAck).toUdsSession

theorem negotiated_pair : Negotiated pairAck pairClient pairServer where
  decided := ⟨⟨0, 0, 64, 2, 64, 2, 0, 0⟩, ⟨0, 0, 64, 64, 0, 0⟩, 4096, 4096, 1, by decide⟩
  atClient := rfl
  atServer := rfl

/-- Two items of eight bytes. -/
def pairPayload : Bytes := dirImage [(0, 8), (8, 8)] ++ zeros 16

/-- A batch request with two items. -/
def pairRequest : Header where
  magic := magicMsg
  version := NetIpc.version
  headerLen := NetIpc.headerLen
  kind := kindRequest
  flags := flagBatch
  code := 1
  transportStatus := 0
  payloadLen := 32
  itemCount := 2
  messageId := 7

def pairManaged : ManagedServer := ⟨64, 64⟩

/-- The handler answered both items. -/
def pairAnswered : DispatchResult := ⟨.ok, pairPayload, 32⟩

/-- The handler ran out of space. -/
def pairOverflowed : DispatchResult := ⟨.overflow, zeros 1024, 0⟩

theorem pair_received : (nipcUdsReceive (recvSize pairServer)).run
    ⟨pairServer, packetsFor pairRequest pairPayload 4096, []⟩ =
      (.ok (pairRequest, pairPayload), ⟨pairServer, [], []⟩) := by
  decide +kernel

/-- The header with which a result is answered. -/
def pairRespHdr (result : DispatchResult) : Header :=
  fillEnvelope (buildResponse pairServer pairManaged pairRequest result).respHdr
    (responseBytes pairServer pairManaged pairRequest result)

/-- The packets with which a result is answered. -/
def pairPackets (result : DispatchResult) : List Bytes :=
  packetsFor (pairRespHdr result) (responseBytes pairServer pairManaged pairRequest result) 4096

theorem response_acceptable_pair :
    Acceptable pairClient (pairRespHdr pairAnswered)
      (responseBytes pairServer pairManaged pairRequest pairAnswered) (pairPackets pairAnswered) :=
  (response_acceptable_iff negotiated_pair (by decide) _ pairRequest pairPayload _ pair_received
    (by decide) pairManaged pairAnswered
    (fun _ => (Uds.validateBatch_eq_ok_iff (by decide)).mp (by decide +kernel))
    (pairRespHdr pairAnswered) ⟨pairServer, [], pairPackets pairAnswered⟩
    (by decide +kernel)).mpr (Or.inr ⟨rfl, by decide⟩)

/-- An overflow in a batch is sent as such and reaches the client as a protocol error. -/
theorem response_not_acceptable_pair :
    Negotiated pairAck pairClient pairServer ∧
      (nipcUdsReceive (recvSize pairServer)).run
        ⟨pairServer, packetsFor pairRequest pairPayload 4096, []⟩ =
          (.ok (pairRequest, pairPayload), ⟨pairServer, [], []⟩) ∧
      (nipcUdsSend (buildResponse pairServer pairManaged pairRequest pairOverflowed).respHdr
        (responseBytes pairServer pairManaged pairRequest pairOverflowed)).run
          ⟨pairServer, [], []⟩ =
        (.ok (pairRespHdr pairOverflowed), ⟨pairServer, [], pairPackets pairOverflowed⟩) ∧
      (pairRespHdr pairOverflowed).transportStatus = statusLimitExceeded ∧
      ((nipcUdsReceive (responseNeed pairClient)).run
        ⟨pairClient, pairPackets pairOverflowed, []⟩).1 = .error (.err .protocol) ∧
      ¬ Acceptable pairClient (pairRespHdr pairOverflowed)
        (responseBytes pairServer pairManaged pairRequest pairOverflowed)
        (pairPackets pairOverflowed) := by
  have refused : ((nipcUdsReceive (responseNeed pairClient)).run
      ⟨pairClient, pairPackets pairOverflowed, []⟩).1 = .error (.err .protocol) := by
    decide +kernel
  refine ⟨negotiated_pair, pair_received, by decide +kernel, by decide +kernel, refused, ?_⟩
  rintro ⟨⟨after, taken⟩, -⟩
  rw [taken] at refused
  cases refused

end NetIpc.C
