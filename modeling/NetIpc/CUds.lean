/-
This file models a session of the C transport (`netipc_uds_send.c`,
`netipc_uds_receive.c`) over a connection that delivers every packet whole and in
order. Time and the abort descriptor play no part here: a receiver waits until its
packet is there.

The C code cuts a message into the same packets as the Rust code, `packetsFor`, and
a receiver that gets these packets ends up with the message, provided the header is
within its limits and the batch directory passes the check. The check computes the
size of the directory in 32 bits; on a directory that fits, nothing wraps.
-/

import NetIpc.UdsRoundTrip

namespace NetIpc.C

open NetIpc.Uds (continuationChunks packetsFor chunkPacket piece startOf fillEnvelope u32Max
  DirectoryFits)

/-! ### Sessions -/

/-- The members of `nipc_uds_error_t` that sending and receiving over such a connection return. -/
inductive UdsErr where
  | recv
  | protocol
  | chunk
  | limitExceeded
  | badParam
  | duplicateMsgId
  | unknownMsgId
  deriving Repr, DecidableEq

/-- A session, the packets it will receive and the packets it sent. -/
structure Peer where
  session : UdsSession
  inbox : List Bytes
  outbox : List Bytes
  deriving DecidableEq

abbrev PeerProg (α : Type) := Prog UdsErr Peer α

def getSession : PeerProg UdsSession := do
  let peer ← Prog.get
  return peer.session

/-- Change the identifiers in flight; their order in the array plays no part. -/
def onInflight (change : Finset UInt64 → Finset UInt64) : PeerProg Unit :=
  Prog.modify fun peer =>
    { peer with session := { peer.session with inflightIds := change peer.session.inflightIds } }

/-- `nipc_uds_inflight_fail_all`. -/
def inflightFailAll : PeerProg Unit := do
  let session ← getSession
  if session.role = .client then onInflight fun _ => ∅ else pure ()

/-- `nipc_uds_raw_send_iov`. -/
def rawSendIov (hdr payload : Bytes) : PeerProg Unit :=
  Prog.modify fun peer => { peer with outbox := peer.outbox ++ [hdr ++ payload] }

/-- `nipc_uds_raw_recv` into a buffer of `bufSize` bytes: nothing, or a packet without bytes, fails
the requests in flight. -/
def rawRecv (bufSize : Nat) : PeerProg Bytes := do
  let peer ← Prog.get
  match peer.inbox with
  | [] => do
    inflightFailAll
    Prog.fail .recv
  | packet :: rest => do
    Prog.modify fun peer => { peer with inbox := rest }
    if (packet.take bufSize).length = 0 then do
      inflightFailAll
      Prog.fail .recv
    else return packet.take bufSize

/-- `nipc_uds_header_payload_len`. -/
def headerPayloadLen (payloadLen : Nat) : Option Nat :=
  if payloadLen > usizeMax - headerSize then none
  else if headerSize + payloadLen > u32Max then none
  else some (headerSize + payloadLen)

/-! ### Sending -/

/-- `tracks_client_request`. -/
def tracksClientRequest (session : UdsSession) (hdr : Header) : Bool :=
  decide (session.role = .client ∧ hdr.kind = kindRequest)

/-- `track_outbound_request`. -/
def trackOutboundRequest (session : UdsSession) (hdr : Header) (tracked : Bool) : PeerProg Unit :=
  if tracked = false then pure ()
  else if hdr.messageId ∈ session.inflightIds then Prog.fail .duplicateMsgId
  else onInflight (insert hdr.messageId)

/-- `outbound_limits`; zero is no limit. -/
def outboundLimits (session : UdsSession) (hdr : Header) : UInt32 × UInt32 :=
  if session.role = .client ∧ hdr.kind = kindRequest then
    (session.maxRequestPayloadBytes, session.maxRequestBatchItems)
  else if session.role = .server ∧ hdr.kind = kindResponse then
    (session.maxResponsePayloadBytes, session.maxResponseBatchItems)
  else (0, 0)

/-- The message will not be sent: its identifier is not in flight any more. -/
def untrack (hdr : Header) (tracked : Bool) : PeerProg Unit :=
  if tracked then onInflight fun ids => ids.erase hdr.messageId else pure ()

/-- What `validate_outbound_limits` wants. -/
def WithinLimits (session : UdsSession) (hdr : Header) (payloadLen : Nat) : Prop :=
  payloadLen ≤ u32Max ∧
    ((outboundLimits session hdr).1 = 0 ∨ payloadLen ≤ (outboundLimits session hdr).1.toNat) ∧
    ((outboundLimits session hdr).2 = 0 ∨ hdr.itemCount ≤ (outboundLimits session hdr).2)

instance (session : UdsSession) (hdr : Header) (payloadLen : Nat) :
    Decidable (WithinLimits session hdr payloadLen) :=
  inferInstanceAs (Decidable (_ ∧ _ ∧ _))

/-- `validate_outbound_limits`. -/
def validateOutboundLimits (session : UdsSession) (hdr : Header) (payloadLen : Nat)
    (tracked : Bool) : PeerProg Unit :=
  if WithinLimits session hdr payloadLen then pure ()
  else do
    untrack hdr tracked
    Prog.fail .limitExceeded

/-- The loop of `send_chunked`, from chunk `ci` on; `src` is what is left of the payload. -/
def sendContinuationChunks (hdr : Header) (budget : Nat) (chunkCount totalMsg : UInt32) :
    Nat → UInt32 → Bytes → PeerProg Unit
  | 0, _, _ => pure ()
  | count + 1, ci, src => do
    let thisChunk := min src.length budget
    let chk : ChunkHeader := {
      magic := magicChunk
      version := NetIpc.version
      flags := 0
      messageId := hdr.messageId
      totalMessageLen := totalMsg
      chunkIndex := ci
      chunkCount := chunkCount
      chunkPayloadLen := UInt32.ofNat thisChunk }
    rawSendIov chk.image (src.take thisChunk)
    sendContinuationChunks hdr budget chunkCount totalMsg count (ci + 1) (src.drop thisChunk)

/-- `send_chunked`. -/
def sendChunked (packetSize : UInt32) (hdr : Header) (payload : Bytes) (totalMsg : Nat) :
    PeerProg Unit :=
  if packetSize.toNat ≤ headerSize then Prog.fail .badParam
  else do
    let budget := packetSize.toNat - headerSize
    let firstChunk := min payload.length budget
    let chunkCount := 1 + UInt32.ofNat (continuationChunks (payload.length - firstChunk) budget)
    rawSendIov hdr.image (payload.take firstChunk)
    sendContinuationChunks hdr budget chunkCount (UInt32.ofNat totalMsg) (chunkCount.toNat - 1) 1
      (payload.drop firstChunk)

/-- `nipc_uds_send`; the result is the header with its envelope. -/
def nipcUdsSend (hdr : Header) (payload : Bytes) : PeerProg Header := do
  let session ← getSession
  if session.fd < 0 then Prog.fail .badParam
  else
    let tracked := tracksClientRequest session hdr
    trackOutboundRequest session hdr tracked
    validateOutboundLimits session hdr payload.length tracked
    match headerPayloadLen payload.length with
    | none => do
      untrack hdr tracked
      Prog.fail .limitExceeded
    | some totalMsg => do
      if totalMsg ≤ session.packetSize.toNat then
        rawSendIov (fillEnvelope hdr payload).image payload
      else sendChunked session.packetSize (fillEnvelope hdr payload) payload totalMsg
      return fillEnvelope hdr payload

/-! ### Receiving -/

/-- One pass of the loop of `nipc_batch_dir_validate`: the offset of an entry is a 32-bit number. -/
def batchEntryValidate (buf : Bytes) (packedAreaLen : UInt32) (index : Nat) :
    Res NipcError Unit := do
  let base := (UInt32.ofNat index * 8).toNat
  let off ← u32At buf base
  let len ← u32At buf (base + 4)
  rejectIf (off.toNat % alignment ≠ 0) .badAlignment
  rejectIf (off.toNat + len.toNat > packedAreaLen.toNat) .outOfBounds

/-- `nipc_batch_dir_validate`. -/
def nipcBatchDirValidate (buf : Bytes) (itemCount packedAreaLen : UInt32) : Res NipcError Unit := do
  let dirSize ← okOr (checkedMul itemCount.toNat 8) .badItemCount
  rejectIf (buf.length < dirSize) .truncated
  forFrom (fun index _ => batchEntryValidate buf packedAreaLen index) 0 itemCount.toNat ()

/-- `validate_batch`: the sizes are 32-bit numbers. -/
def validateBatch (hdr : Header) (payload : Bytes) : Res UdsErr Unit :=
  if hdr.flags &&& flagBatch = 0 ∨ hdr.itemCount ≤ 1 then .ok ()
  else do
    let dirBytes := hdr.itemCount * 8
    let dirAligned := UInt32.ofNat (align8 dirBytes.toNat)
    rejectIf (payload.length < dirAligned.toNat) .protocol
    let packedAreaLen := UInt32.ofNat (payload.length - dirAligned.toNat)
    mapError (fun _ => .protocol)
      (nipcBatchDirValidate (payload.take dirBytes.toNat) hdr.itemCount packedAreaLen)

/-- `validate_inbound_limits`. -/
def validateInboundLimits (session : UdsSession) (hdr : Header) : Res UdsErr Unit := do
  rejectIf (hdr.payloadLen > (Uds.receiveLimits session).1) .limitExceeded
  rejectIf (hdr.itemCount > (Uds.receiveLimits session).2) .limitExceeded

/-- `track_inbound_response`. -/
def trackInboundResponse (session : UdsSession) (hdr : Header) : PeerProg Unit :=
  if session.role ≠ .client ∨ hdr.kind ≠ kindResponse then pure ()
  else if hdr.messageId ∈ session.inflightIds then onInflight fun ids => ids.erase hdr.messageId
  else Prog.fail .unknownMsgId

/-- `receive_first_packet`. -/
def receiveFirstPacket (bufSize : Nat) : PeerProg (Header × Bytes) := do
  let packet ← rawRecv bufSize
  Prog.ofRes (rejectIf (packet.length < headerSize) .protocol)
  let hdr ← Prog.ofRes (mapError (fun _ => .protocol) (Header.decode packet))
  return (hdr, packet)

/-- `expected_chunk_count`. -/
def expectedChunkCount (payloadLen firstPayloadBytes budget : Nat) : UInt32 :=
  1 + UInt32.ofNat (continuationChunks (payloadLen - firstPayloadBytes) budget)

/-- The checks of `receive_one_chunk` on a packet: the data it carries. -/
def validateChunk (packetSize : UInt32) (hdr : Header) (chunkIndex chunkCount : UInt32)
    (totalMsg assembled : Nat) (packet : Bytes) : Res UdsErr Bytes := do
  rejectIf (packet.length < headerSize) .chunk
  rejectIf (packet.length > packetSize.toNat) .chunk
  let chk ← mapError (fun _ => .chunk) (ChunkHeader.decode packet)
  rejectIf (chk.messageId ≠ hdr.messageId ∨ chk.chunkIndex ≠ chunkIndex ∨
    chk.chunkCount ≠ chunkCount ∨ chk.totalMessageLen ≠ UInt32.ofNat totalMsg) .chunk
  let chunkData := packet.length - headerSize
  rejectIf (chunkData ≠ chk.chunkPayloadLen.toNat) .chunk
  rejectIf (assembled > hdr.payloadLen.toNat ∨ chunkData > hdr.payloadLen.toNat - assembled) .chunk
  return packet.drop headerSize

/-- One pass of the loop of `receive_chunked_payload`: `assembled` is what is there. -/
def receiveOneChunk (packetSize : UInt32) (hdr : Header) (chunkCount : UInt32) (totalMsg : Nat)
    (assembled : Bytes) (ci : UInt32) : PeerProg ((Bytes × UInt32) ⊕ Bytes) := do
  if assembled.length < hdr.payloadLen.toNat then
    let packet ← rawRecv packetSize.toNat
    let data ← Prog.ofRes
      (validateChunk packetSize hdr ci chunkCount totalMsg assembled.length packet)
    return .inl (assembled ++ data, ci + 1)
  else return .inr assembled

/-- `receive_chunked_payload`; a chunk carries at least one byte, so the fuel is never used up. -/
def receiveChunkedPayload (packetSize : UInt32) (hdr : Header) (totalMsg : Nat) (first : Bytes) :
    PeerProg (Header × Bytes) := do
  Prog.ofRes (rejectIf (first.length > hdr.payloadLen.toNat) .chunk)
  let budget := packetSize.toNat - headerSize
  let chunkCount := expectedChunkCount hdr.payloadLen.toNat first.length budget
  let payload ← Prog.loop (fun loop =>
    receiveOneChunk packetSize hdr chunkCount totalMsg loop.1 loop.2)
    (hdr.payloadLen.toNat + 1) (first, 1)
  Prog.ofRes (validateBatch hdr payload)
  return (hdr, payload)

/-- `nipc_uds_receive` into a buffer of `bufSize` bytes. -/
def nipcUdsReceive (bufSize : Nat) : PeerProg (Header × Bytes) := do
  let session ← getSession
  if session.fd < 0 then Prog.fail .badParam
  else
    let (hdr, packet) ← receiveFirstPacket bufSize
    Prog.ofRes (validateInboundLimits session hdr)
    trackInboundResponse session hdr
    match headerPayloadLen hdr.payloadLen.toNat with
    | none => Prog.fail .limitExceeded
    | some totalMsg =>
      Prog.ofRes (rejectIf (packet.length > totalMsg) .protocol)
      if packet.length = totalMsg then do
        Prog.ofRes (validateBatch hdr (packet.drop headerSize))
        return (hdr, packet.drop headerSize)
      else receiveChunkedPayload session.packetSize hdr totalMsg (packet.drop headerSize)

/-! ### What a sender sends -/

@[simp] theorem run_getSession (peer : Peer) : getSession.run peer = (.ok peer.session, peer) := rfl

/-- The sender after it sent packets. -/
def sent (peer : Peer) (packets : List Bytes) : Peer :=
  { peer with outbox := peer.outbox ++ packets }

theorem run_rawSendIov (hdr payload : Bytes) (peer : Peer) :
    (rawSendIov hdr payload).run peer = (.ok (), sent peer [hdr ++ payload]) := rfl

theorem sent_sent (peer : Peer) (first second : List Bytes) :
    sent (sent peer first) second = sent peer (first ++ second) := by
  simp only [sent, List.append_assoc]

theorem run_sendContinuationChunks (hdr : Header) (payload : Bytes) (budget : Nat)
    (chunkCount : UInt32) (count index : Nat) (peer : Peer) :
    (sendContinuationChunks hdr budget chunkCount (UInt32.ofNat (headerSize + payload.length))
      count (UInt32.ofNat index) (payload.drop (startOf payload budget index))).run peer =
        (.ok (), sent peer
          ((List.range' index count).map (chunkPacket hdr payload budget chunkCount))) := by
  induction count generalizing index peer with
  | zero => simp [sendContinuationChunks, sent]
  | succ count ih =>
    have data : (payload.drop (startOf payload budget index)).take
        (min (payload.drop (startOf payload budget index)).length budget) =
          piece payload budget index := by
      rw [List.length_drop]
      exact Uds.slice_startOf payload budget index
    have size : min (payload.drop (startOf payload budget index)).length budget =
        (piece payload budget index).length := by
      rw [List.length_drop, Uds.length_slice_startOf]
    simp only [sendContinuationChunks]
    rw [data, size, Prog.run_bind_ok (run_rawSendIov _ _ _), List.drop_drop, ← Uds.startOf_succ,
      Uds.ofNat_succ, ih, List.range'_succ, List.map_cons, sent_sent]
    rfl

/-- A message that is too long for one packet. -/
theorem run_sendChunked (packetSize : UInt32) (hdr : Header) (payload : Bytes) (peer : Peer)
    (large : headerSize < packetSize.toNat) (small : headerSize + payload.length ≤ u32Max)
    (long : packetSize.toNat < headerSize + payload.length) :
    (sendChunked packetSize hdr payload (headerSize + payload.length)).run peer =
      (.ok (), sent peer (packetsFor hdr payload packetSize.toNat)) := by
  rw [sendChunked, if_neg (Nat.not_le.mpr large), packetsFor, if_neg (Nat.not_le.mpr long)]
  dsimp only
  generalize shift : packetSize.toNat - headerSize = budget
  have past : budget < payload.length := by omega
  have few := Uds.continuationChunks_le (payload.length - budget) budget
  rw [headerSize, u32Max] at small
  rw [Nat.min_eq_right past.le, ← Uds.piece_zero, Prog.run_bind_ok (run_rawSendIov _ _ _),
    Uds.toNat_chunkCount (by omega), Nat.add_sub_cancel_left]
  have rest := run_sendContinuationChunks hdr payload budget
    (1 + UInt32.ofNat (continuationChunks (payload.length - budget) budget))
    (continuationChunks (payload.length - budget) budget) 1
    (sent peer [hdr.image ++ piece payload budget 0])
  rw [Uds.startOf_one past, sent_sent] at rest
  exact rest

theorem headerPayloadLen_eq_some {payloadLen totalMsg : Nat}
    (computed : headerPayloadLen payloadLen = some totalMsg) :
    totalMsg = headerSize + payloadLen ∧ headerSize + payloadLen ≤ u32Max := by
  unfold headerPayloadLen at computed
  split at computed
  · cases computed
  split at computed
  · cases computed
  rename_i small
  exact ⟨(Option.some.inj computed).symm, Nat.le_of_not_lt small⟩

theorem headerPayloadLen_of_le {payloadLen : Nat} (small : headerSize + payloadLen ≤ u32Max) :
    headerPayloadLen payloadLen = some (headerSize + payloadLen) := by
  have fits := small
  rw [headerSize, u32Max] at fits
  rw [headerPayloadLen, if_neg (by rw [usizeMax, headerSize]; omega), if_neg (Nat.not_lt.mpr small)]

/-- What a server sends when sending succeeds. -/
theorem nipcUdsSend_eq_ok {hdr filled : Header} {payload : Bytes} {before after : Peer}
    (role : before.session.role = .server) (large : headerSize < before.session.packetSize.toNat)
    (ran : (nipcUdsSend hdr payload).run before = (.ok filled, after)) :
    WithinLimits before.session hdr payload.length ∧ headerSize + payload.length ≤ u32Max ∧
      filled = fillEnvelope hdr payload ∧
      after = sent before (packetsFor (fillEnvelope hdr payload) payload
        before.session.packetSize.toNat) := by
  have untracked : tracksClientRequest before.session hdr = false := by
    rw [tracksClientRequest, role]
    rfl
  rw [nipcUdsSend, Prog.run_bind_ok (run_getSession _)] at ran
  split at ran
  · cases ran
  dsimp only at ran
  rw [untracked, trackOutboundRequest, if_pos rfl, Prog.run_bind_ok (Prog.run_pure _ _),
    validateOutboundLimits] at ran
  split at ran
  · rename_i within
    rw [Prog.run_bind_ok (Prog.run_pure _ _)] at ran
    cases computed : headerPayloadLen payload.length with
    | none =>
      rw [computed] at ran
      cases ran
    | some totalMsg =>
      obtain ⟨rfl, small⟩ := headerPayloadLen_eq_some computed
      rw [computed] at ran
      dsimp only at ran
      split at ran
      · rename_i short
        rw [Prog.run_bind_ok (run_rawSendIov _ _ _)] at ran
        rw [packetsFor, if_pos short]
        cases ran
        exact ⟨within, small, rfl, rfl⟩
      · rename_i long
        rw [Prog.run_bind_ok (run_sendChunked _ _ _ _ large small (by omega))] at ran
        cases ran
        exact ⟨within, small, rfl, rfl⟩
  · cases ran

/-! ### What a receiver gets -/

/-- On a directory that fits, no 32-bit size wraps and every entry passes. -/
theorem validateBatch_of_directoryFits {hdr : Header} {payload : Bytes}
    (small : payload.length ≤ u32Max)
    (fits : hdr.flags &&& flagBatch ≠ 0 → 1 < hdr.itemCount → DirectoryFits hdr payload) :
    validateBatch hdr payload = .ok () := by
  rw [u32Max] at small
  unfold validateBatch
  split
  · rfl
  rename_i batch
  obtain ⟨flagged, several⟩ := not_or.mp batch
  obtain ⟨room, entries⟩ := fits flagged (UInt32.not_le.mp several)
  have aligned := le_align8 (hdr.itemCount.toNat * 8)
  have exact8 : align8 (hdr.itemCount.toNat * 8) = hdr.itemCount.toNat * 8 :=
    align8_of_mod _ (by omega)
  have dirBytes : (hdr.itemCount * 8).toNat = hdr.itemCount.toNat * 8 := by
    rw [UInt32.toNat_mul]
    exact Nat.mod_eq_of_lt (by change _ * 8 < 2 ^ 32; omega)
  have dirAligned : (UInt32.ofNat (hdr.itemCount.toNat * 8)).toNat = hdr.itemCount.toNat * 8 :=
    toNat_ofNat32 (by omega)
  have area : (UInt32.ofNat (payload.length - hdr.itemCount.toNat * 8)).toNat =
      payload.length - hdr.itemCount.toNat * 8 :=
    toNat_ofNat32 (by omega)
  rw [exact8] at room entries
  dsimp only
  rw [dirBytes, exact8, dirAligned, guard_bind (Nat.not_lt.mpr room), nipcBatchDirValidate,
    mul_bind (by omega), guard_bind (by rw [List.length_take_of_le room]; exact Nat.lt_irrefl _),
    (forFrom_unit_eq_ok _ _ _).mpr]
  · rfl
  · intro index _ high
    obtain ⟨offset, length, first, second, straight, inside⟩ := entries index (by omega)
    have base : (UInt32.ofNat index * 8).toNat = index * 8 := by
      rw [UInt32.toNat_mul, toNat_ofNat32 (by omega)]
      exact Nat.mod_eq_of_lt (by change _ * 8 < 2 ^ 32; omega)
    rw [batchEntryValidate, base, u32At_take _ (by omega) room, first, ok_bind,
      u32At_take _ (by omega) room, second, ok_bind, guard_bind (not_not_intro straight),
      rejectIf_of_not (by rw [area]; exact Nat.not_lt.mpr inside)]

theorem run_rawRecv (bufSize : Nat) (packet : Bytes) (rest outbox : List Bytes)
    (session : UdsSession) (some : 0 < packet.length) (room : packet.length ≤ bufSize) :
    (rawRecv bufSize).run ⟨session, packet :: rest, outbox⟩ =
      (.ok packet, ⟨session, rest, outbox⟩) := by
  rw [rawRecv, Prog.run_bind_ok (Prog.run_get _)]
  dsimp only
  rw [Prog.run_bind_ok (Prog.run_modify _ _), List.take_of_length_le room, if_neg (by omega)]
  rfl

section Receiving

variable {hdr : Header} {payload : Bytes} {packetSize : UInt32} {budget : Nat}
  (positive : 0 < budget) (cut : packetSize.toNat = headerSize + budget)
  (small : headerSize + payload.length ≤ u32Max)
  (declared : hdr.payloadLen = UInt32.ofNat payload.length)

include positive cut small declared

/-- One pass of the loop takes one packet and one piece. -/
theorem run_receiveOneChunk (chunkCount : UInt32) (index : Nat) (rest outbox : List Bytes)
    (session : UdsSession) (inside : index * budget < payload.length) :
    (receiveOneChunk packetSize hdr chunkCount (headerSize + payload.length)
      (payload.take (startOf payload budget index)) (UInt32.ofNat index)).run
        ⟨session, chunkPacket hdr payload budget chunkCount index :: rest, outbox⟩ =
      (.ok (.inl (payload.take (startOf payload budget (index + 1)), UInt32.ofNat (index + 1))),
        ⟨session, rest, outbox⟩) := by
  have length := Uds.toNat_payloadLen small declared
  have start : startOf payload budget index = index * budget := Nat.min_eq_left inside.le
  have next := Uds.startOf_succ payload budget index
  have short : startOf payload budget (index + 1) ≤ payload.length := Nat.min_le_right _ _
  have size := Uds.length_chunkPacket hdr payload budget chunkCount index
  have some := (Uds.piece_bounds positive inside small).1
  have within := Uds.length_piece payload budget index
  have taken : (payload.take (startOf payload budget index)).length =
      startOf payload budget index := List.length_take_of_le (by omega)
  have chunk : Uds.IsChunk hdr chunkCount (UInt32.ofNat index)
      (chunkPacket hdr payload budget chunkCount index)
      (Uds.chunkHeader hdr payload budget chunkCount index) :=
    Uds.isChunk_chunkPacket positive inside small declared
  have total := chunk.totalMessageLen
  rw [length] at total
  have checked : validateChunk packetSize hdr (UInt32.ofNat index) chunkCount
      (headerSize + payload.length) (startOf payload budget index)
      (chunkPacket hdr payload budget chunkCount index) = .ok (piece payload budget index) := by
    simp only [validateChunk]
    rw [guard_bind (by omega), guard_bind (by omega), chunk.decode, mapError, ok_bind,
      rejectIf_of_not, ok_bind, guard_bind (not_not_intro chunk.chunkPayloadLen),
      guard_bind (by omega), Uds.drop_chunkPacket]
    · rfl
    · rintro (other | other | other | other)
      · exact other chunk.messageId
      · exact other chunk.chunkIndex
      · exact other chunk.chunkCount
      · exact other total
  have joined : payload.take (startOf payload budget index) ++ piece payload budget index =
      payload.take (startOf payload budget (index + 1)) := by
    rw [next, List.take_add, ← Uds.slice_startOf payload budget index, Uds.length_slice_startOf,
      slice, List.length_take, List.length_drop, Nat.min_eq_left (by omega)]
  rw [receiveOneChunk, if_pos (by omega),
    Prog.run_bind_ok (run_rawRecv _ _ _ _ _ (by omega) (by omega)), taken, checked,
    Prog.ofRes_ok_bind, joined, Uds.ofNat_succ]
  rfl

/-- The loop takes the packets that are left. -/
theorem run_receiveOneChunk_loop (chunkCount : UInt32) (count index fuel : Nat)
    (rest outbox : List Bytes) (session : UdsSession) (enough : count < fuel)
    (needed : (index + count) * budget < payload.length + budget)
    (complete : payload.length ≤ (index + count) * budget) :
    (Prog.loop (fun (loop : Bytes × UInt32) =>
        receiveOneChunk packetSize hdr chunkCount (headerSize + payload.length) loop.1 loop.2) fuel
        (payload.take (startOf payload budget index), UInt32.ofNat index)).run
        ⟨session, (List.range' index count).map (chunkPacket hdr payload budget chunkCount) ++ rest,
          outbox⟩ =
      (.ok payload, ⟨session, rest, outbox⟩) := by
  obtain ⟨less, rfl⟩ : ∃ less, fuel = less + 1 + count := ⟨fuel - (1 + count), by omega⟩
  obtain ⟨_, looped, rfl⟩ := @Uds.run_loop_chunks _ _ _ _
    (fun loop : Bytes × UInt32 =>
      receiveOneChunk packetSize hdr chunkCount (headerSize + payload.length) loop.1 loop.2)
    (fun index => (payload.take (startOf payload budget index), UInt32.ofNat index))
    (fun _ queue peer => peer = ⟨session, queue, outbox⟩) budget payload.length _
    (fun index rest peer inside held => ⟨_, held ▸ run_receiveOneChunk positive cut small declared
      chunkCount index rest outbox session inside, rfl⟩) (less + 1) count index rest _ needed rfl
  have full : startOf payload budget (index + count) = payload.length := Nat.min_eq_right complete
  refine looped.trans ?_
  rw [Prog.loop, full, List.take_length, receiveOneChunk,
    if_neg (by rw [Uds.toNat_payloadLen small declared]; exact Nat.lt_irrefl _)]
  rfl

theorem run_receiveChunkedPayload (rest outbox : List Bytes) (session : UdsSession)
    (long : budget < payload.length) (valid : validateBatch hdr payload = .ok ()) :
    (receiveChunkedPayload packetSize hdr (headerSize + payload.length)
      (piece payload budget 0)).run
        ⟨session, (List.range' 1 (continuationChunks (payload.length - budget) budget)).map
          (chunkPacket hdr payload budget
            (1 + UInt32.ofNat (continuationChunks (payload.length - budget) budget))) ++ rest,
          outbox⟩ = (.ok (hdr, payload), ⟨session, rest, outbox⟩) := by
  have length := Uds.toNat_payloadLen small declared
  have few := Uds.continuationChunks_le (payload.length - budget) budget
  obtain ⟨-, needed, complete⟩ := Uds.continuationChunks_bounds positive long
  have size := Uds.length_piece payload budget 0
  have first : (piece payload budget 0).length = budget := by omega
  have begin : piece payload budget 0 = payload.take (startOf payload budget 1) := by
    rw [Uds.startOf_one long, Uds.piece_zero]
  rw [receiveChunkedPayload, Prog.guard_bind (by omega)]
  dsimp only
  rw [expectedChunkCount, length, first, cut, Nat.add_sub_cancel_left, begin]
  have looped := run_receiveOneChunk_loop positive cut small declared
    (1 + UInt32.ofNat (continuationChunks (payload.length - budget) budget))
    (continuationChunks (payload.length - budget) budget) 1 (payload.length + 1) rest outbox session
    (by omega) (by rw [Nat.add_mul, Nat.one_mul]; omega) (by rw [Nat.add_comm]; exact complete)
  rw [show UInt32.ofNat 1 = 1 from rfl] at looped
  rw [Prog.run_bind_ok looped, valid, Prog.ofRes_ok_bind]
  rfl

end Receiving

theorem run_trackInboundResponse (hdr : Header) (peer : Peer)
    (waiting : peer.session.role = .client → hdr.kind = kindResponse →
      hdr.messageId ∈ peer.session.inflightIds) :
    (trackInboundResponse peer.session hdr).run peer =
      (.ok (), { peer with session := Uds.matched peer.session hdr }) := by
  rw [trackInboundResponse, Uds.matched]
  by_cases response : peer.session.role = .client ∧ hdr.kind = kindResponse
  · rw [if_neg (by simpa using response), if_pos (waiting response.1 response.2), if_pos response]
    rfl
  · rw [if_pos (by rwa [not_and_or] at response), if_neg response]
    rfl

/-- The packets of a message within the receiver's limits are received as the message. -/
theorem run_nipcUdsReceive (hdr : Header) (payload : Bytes) (rest outbox : List Bytes)
    (session : UdsSession) (bufSize : Nat) (isOpen : 0 ≤ session.fd)
    (large : headerSize < session.packetSize.toNat) (wellFormed : hdr.WellFormed)
    (declared : hdr.payloadLen = UInt32.ofNat payload.length)
    (small : headerSize + payload.length ≤ u32Max)
    (inLimit : hdr.payloadLen ≤ (Uds.receiveLimits session).1)
    (items : hdr.itemCount ≤ (Uds.receiveLimits session).2)
    (waiting : session.role = .client → hdr.kind = kindResponse →
      hdr.messageId ∈ session.inflightIds)
    (room : headerSize + payload.length ≤ bufSize) (valid : validateBatch hdr payload = .ok ()) :
    (nipcUdsReceive bufSize).run
        ⟨session, packetsFor hdr payload session.packetSize.toNat ++ rest, outbox⟩ =
      (.ok (hdr, payload), ⟨Uds.matched session hdr, rest, outbox⟩) := by
  have length := Uds.toNat_payloadLen small declared
  have limits : validateInboundLimits session hdr = .ok () := by
    rw [validateInboundLimits, guard_bind (UInt32.not_lt.mpr inLimit),
      rejectIf_of_not (UInt32.not_lt.mpr items)]
  have first (data : Bytes) (queue : List Bytes) (short : data.length ≤ payload.length) :
      (receiveFirstPacket bufSize).run ⟨session, (hdr.image ++ data) :: queue, outbox⟩ =
        (.ok (hdr, hdr.image ++ data), ⟨session, queue, outbox⟩) := by
    have size := Uds.length_image_append hdr data
    have packet : 0 < headerSize := by decide
    rw [receiveFirstPacket, Prog.run_bind_ok (run_rawRecv _ _ _ _ _ (by omega) (by omega)),
      Prog.guard_bind (by omega), Header.decode_image hdr data wellFormed,
      mapError, Prog.ofRes_ok_bind]
    rfl
  rw [nipcUdsReceive, Prog.run_bind_ok (run_getSession _), if_neg (Int.not_lt.mpr isOpen),
    packetsFor]
  split
  · rw [List.singleton_append, Prog.run_bind_ok (first payload rest (Nat.le_refl _))]
    dsimp only
    rw [limits, Prog.ofRes_ok_bind,
      Prog.run_bind_ok (run_trackInboundResponse hdr ⟨session, rest, outbox⟩ waiting), length,
      headerPayloadLen_of_le small]
    dsimp only
    rw [Uds.length_image_append, Prog.guard_bind (Nat.lt_irrefl _), if_pos rfl,
      Uds.drop_image_append, valid, Prog.ofRes_ok_bind]
    rfl
  · dsimp only
    have cut : session.packetSize.toNat =
        headerSize + (session.packetSize.toNat - headerSize) := by omega
    have shorter := Uds.length_piece payload (session.packetSize.toNat - headerSize) 0
    rw [Nat.zero_mul] at shorter
    rw [List.cons_append, Prog.run_bind_ok (first _ _ (by omega))]
    dsimp only
    rw [limits, Prog.ofRes_ok_bind,
      Prog.run_bind_ok (run_trackInboundResponse hdr ⟨session, _, outbox⟩ waiting), length,
      headerPayloadLen_of_le small]
    dsimp only
    rw [Uds.length_image_append, Prog.guard_bind (by omega), if_neg (by omega),
      Uds.drop_image_append]
    exact run_receiveChunkedPayload (by omega) cut small declared rest outbox _ (by omega) valid

/-! ### A Rust client and a C server -/

/-- A call of a Rust client at a C server: the server receives the request as it was sent, and when
its `nipc_uds_send` succeeds, the client receives the response as it was sent. -/
theorem rustClient_cServer {client server : UdsSession} (peers : Uds.Peers client server)
    (role : server.role = .server) {request response : Header} {asked answered : Bytes}
    (askable : Uds.Sendable client request asked) (isRequest : request.kind = kindRequest)
    (answerable : Uds.Sendable server response answered)
    (sameId : response.messageId = request.messageId)
    (fresh : request.messageId ∉ client.inflightIds) {bufSize : Nat}
    (large : headerSize + asked.length ≤ bufSize) {buf : Bytes}
    (room : headerSize + client.maxResponsePayloadBytes.toNat ≤ buf.length) :
    ∃ waiting, (Uds.send queueOs request asked).run ⟨client, [], []⟩ =
        (.ok (fillEnvelope request asked), waiting) ∧
      (nipcUdsReceive bufSize).run ⟨server, waiting.os, []⟩ =
        (.ok (fillEnvelope request asked, asked), ⟨server, [], []⟩) ∧
      ∀ filled after, (nipcUdsSend response answered).run ⟨server, [], []⟩ = (.ok filled, after) →
        ∃ final, (Uds.receive queueOs buf).run
            ⟨waiting.session, after.outbox, waiting.trace⟩ =
          (.ok (fillEnvelope response answered, answered), final) ∧ final.os = [] := by
  have isClient : client.role = .client := by
    have other := peers.roles
    cases own : client.role
    · rfl
    · rw [own, role] at other
      exact absurd rfl other
  have notClient : server.role ≠ .client := fun other => by cases role.symm.trans other
  have wide : headerSize < server.packetSize.toNat := peers.packetSize ▸ peers.large
  have small := askable.total_le
  have declared : (fillEnvelope request asked).payloadLen.toNat = asked.length :=
    Uds.toNat_payloadLen small rfl
  have marked : Uds.marked client request =
      { client with inflightIds := insert request.messageId client.inflightIds } :=
    if_pos ⟨isClient, isRequest⟩
  refine ⟨_, Uds.run_send request asked ⟨client, [], []⟩ peers.senderOpen peers.large
    askable.inLimit small askable.items fun _ _ => fresh, ?_, fun filled after ran => ?_⟩
  · have valid : validateBatch (fillEnvelope request asked) asked = .ok () :=
      validateBatch_of_directoryFits (by omega) ((Uds.validateBatch_eq_ok_iff (by omega)).mp
        (Uds.validateBatch_of_sendable askable))
    have received := run_nipcUdsReceive (fillEnvelope request asked) asked [] [] server bufSize
      peers.receiverOpen wide ⟨rfl, rfl, rfl, askable.kind⟩ rfl small
      (by rw [UInt32.le_iff_toNat_le, declared, peers.limits]; exact askable.inLimit)
      (by rw [peers.limits]; exact askable.items) (fun other => absurd other notClient) large valid
    rw [List.append_nil, ← peers.packetSize, Uds.matched, if_neg fun other => notClient other.1]
      at received
    exact received
  · obtain ⟨-, -, rfl, rfl⟩ := nipcUdsSend_eq_ok role wide ran
    have back : Uds.Peers server (Uds.marked client request) := by
      rw [marked]
      exact ⟨peers.receiverOpen, peers.senderOpen, peers.roles.symm, peers.packetSize.symm, wide,
        peers.requestBytes.symm, peers.requestItems.symm, peers.responseBytes.symm,
        peers.responseItems.symm⟩
    have received := Uds.run_receive back answerable (fun _ _ => by
      rw [marked, sameId]
      exact Finset.mem_insert_self _ _) buf (by rwa [marked, Uds.receiveLimits, isClient]) []
    rw [List.append_nil] at received
    exact received _

/-- A request in three packets. -/
theorem rustClient_cServer_threePackets :
    let request : Header := { kind := kindRequest, itemCount := 1, messageId := 7 }
    let server := { Uds.narrowClient with role := .server }
    ∃ waiting : Endpoint (List Bytes), (nipcUdsReceive 97).run ⟨server, waiting.os, []⟩ =
      (.ok (fillEnvelope request (zeros 65), zeros 65), ⟨server, [], []⟩) := by
  intro request server
  have peers : Uds.Peers Uds.narrowClient server :=
    ⟨by decide, by decide, by decide, rfl, by decide, rfl, rfl, rfl, rfl⟩
  obtain ⟨waiting, -, received, -⟩ := rustClient_cServer peers rfl
    (show Uds.Sendable _ request (zeros 65) from
      ⟨by decide, by decide, by decide, by decide, fun batch => absurd (by decide) batch⟩) rfl
    (show Uds.Sendable _ { request with kind := kindResponse } [] from
      ⟨by decide, by decide, by decide, by decide, fun batch => absurd (by decide) batch⟩) rfl
    (Finset.notMem_empty _) (Nat.le_refl _) (length_zeros 1056).ge
  exact ⟨waiting, received⟩

end NetIpc.C
