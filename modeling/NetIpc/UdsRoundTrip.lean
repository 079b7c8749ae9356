/-
This file proves that a message sent over a queue of packets is received as it was
sent, in however many packets it takes.

Sender and receiver count the packets on their own, so both are compared with one
closed form: `packetsFor` cuts the payload into pieces of `packetSize - 32` bytes,
the first behind the message header and each other one behind a chunk header. The
sender emits these packets, and the receiver, fed with them, has the first
`index` pieces of the payload before it takes packet `index`.
-/

import NetIpc.Uds

namespace NetIpc.Uds

/-! ### The packets of a message -/

/-- The bytes packet `index` carries. -/
def piece (payload : Bytes) (budget index : Nat) : Bytes := slice payload (index * budget) budget

/-- The header of continuation packet `index`. -/
def chunkHeader (hdr : Header) (payload : Bytes) (budget : Nat) (chunkCount : UInt32)
    (index : Nat) : ChunkHeader where
  magic := magicChunk
  version := NetIpc.version
  flags := 0
  messageId := hdr.messageId
  totalMessageLen := UInt32.ofNat (headerSize + payload.length)
  chunkIndex := UInt32.ofNat index
  chunkCount := chunkCount
  chunkPayloadLen := UInt32.ofNat (piece payload budget index).length

/-- Continuation packet `index`. -/
def chunkPacket (hdr : Header) (payload : Bytes) (budget : Nat) (chunkCount : UInt32)
    (index : Nat) : Bytes :=
  (chunkHeader hdr payload budget chunkCount index).image ++ piece payload budget index

/-- The packets of a message. -/
def packetsFor (hdr : Header) (payload : Bytes) (packetSize : Nat) : List Bytes :=
  if headerSize + payload.length ≤ packetSize then [hdr.image ++ payload]
  else
    let budget := packetSize - headerSize
    let continuations := continuationChunks (payload.length - budget) budget
    (hdr.image ++ piece payload budget 0) ::
      (List.range' 1 continuations).map
        (chunkPacket hdr payload budget (1 + UInt32.ofNat continuations))

theorem length_piece (payload : Bytes) (budget index : Nat) :
    (piece payload budget index).length = min (payload.length - index * budget) budget := by
  rw [piece, slice, List.length_take, List.length_drop, Nat.min_comm]

/-- Where piece `index` starts when the pieces before it are there. -/
def startOf (payload : Bytes) (budget index : Nat) : Nat := min (index * budget) payload.length

theorem startOf_one {payload : Bytes} {budget : Nat} (past : budget < payload.length) :
    startOf payload budget 1 = budget := by
  rw [startOf, Nat.one_mul, Nat.min_eq_left past.le]

theorem piece_zero (payload : Bytes) (budget : Nat) :
    piece payload budget 0 = payload.take budget := by
  rw [piece, Nat.zero_mul, slice_take]

theorem startOf_succ (payload : Bytes) (budget index : Nat) :
    startOf payload budget (index + 1) =
      startOf payload budget index + (piece payload budget index).length := by
  have next : (index + 1) * budget = index * budget + budget := by ring
  rw [startOf, startOf, length_piece, next]
  omega

/-- The slice the sender takes is the piece. -/
theorem slice_startOf (payload : Bytes) (budget index : Nat) :
    slice payload (startOf payload budget index)
      (min (payload.length - startOf payload budget index) budget) =
        piece payload budget index := by
  by_cases inside : index * budget ≤ payload.length
  · rw [startOf, Nat.min_eq_left inside, piece, slice, slice, Nat.min_comm,
      ← List.length_drop, ← List.take_take, List.take_length]
  · rw [startOf, Nat.min_eq_right (by omega), piece, slice, slice,
      List.drop_eq_nil_of_le (by omega), List.drop_eq_nil_of_le (by omega), List.take_nil,
      List.take_nil]

theorem length_slice_startOf (payload : Bytes) (budget index : Nat) :
    min (payload.length - startOf payload budget index) budget =
      (piece payload budget index).length := by
  rw [length_piece, startOf]
  omega

theorem ofNat_succ (index : Nat) : UInt32.ofNat index + 1 = UInt32.ofNat (index + 1) :=
  (UInt32.ofNat_add index 1).symm

/-- How far the packets reach: the last one is needed, and it is enough. -/
theorem continuationChunks_bounds {size budget : Nat} (positive : 0 < budget)
    (long : budget < size) :
    0 < continuationChunks (size - budget) budget ∧
      continuationChunks (size - budget) budget * budget < size ∧
      size ≤ (continuationChunks (size - budget) budget + 1) * budget := by
  rw [continuationChunks, if_pos ⟨by omega, positive⟩]
  have quotient := Nat.div_add_mod (size - budget - 1) budget
  have remainder := Nat.mod_lt (size - budget - 1) positive
  generalize (size - budget - 1) / budget = full at quotient ⊢
  generalize (size - budget - 1) % budget = rest at quotient remainder
  have once : (1 + full) * budget = budget * full + budget := by ring
  have twice : (1 + full + 1) * budget = budget * full + budget + budget := by ring
  rw [once, twice]
  omega

/-! ### Sending -/

theorem run_rawSendIov (hdr payload : Bytes) (endpoint : Endpoint (List Bytes)) :
    (rawSendIov queueOs hdr payload).run endpoint =
      (.ok (), { endpoint with
        os := endpoint.os ++ [hdr ++ payload]
        trace := endpoint.trace ++ [.sent (hdr ++ payload)] }) := by
  rw [rawSendIov, Prog.run_bind_ok (run_call _ _ _)]
  dsimp only [queueOs]
  rw [if_neg]
  · rfl
  · rw [List.length_append]
    omega

/-- The sender after it sent packets. -/
def sent (endpoint : Endpoint (List Bytes)) (packets : List Bytes) : Endpoint (List Bytes) :=
  { endpoint with os := endpoint.os ++ packets, trace := endpoint.trace ++ packets.map .sent }

theorem sent_sent (endpoint : Endpoint (List Bytes)) (first second : List Bytes) :
    sent (sent endpoint first) second = sent endpoint (first ++ second) := by
  simp only [sent, List.append_assoc, List.map_append]

variable (hdr : Header) (payload : Bytes) (endpoint : Endpoint (List Bytes))

theorem run_sendChunks (budget : Nat) (chunkCount : UInt32) (count index : Nat)
    (endpoint : Endpoint (List Bytes)) :
    (sendChunks queueOs hdr payload budget chunkCount count (UInt32.ofNat index)
      (startOf payload budget index)).run endpoint =
        (.ok (), sent endpoint
          ((List.range' index count).map (chunkPacket hdr payload budget chunkCount))) := by
  induction count generalizing index endpoint with
  | zero => simp [sendChunks, sent]
  | succ count ih =>
    simp only [sendChunks]
    rw [slice_startOf, length_slice_startOf, encodeChunkHeader_eq,
      Prog.run_bind_ok (run_rawSendIov _ _ _), ← startOf_succ,
      ofNat_succ, ih, List.range'_succ, List.map_cons]
    exact congrArg _ (sent_sent endpoint [chunkPacket hdr payload budget chunkCount index] _)

theorem run_sendInner (large : headerSize < endpoint.session.packetSize.toNat)
    (small : headerSize + payload.length ≤ u32Max) : (sendInner queueOs hdr payload).run endpoint =
      (.ok (), sent endpoint (packetsFor hdr payload endpoint.session.packetSize.toNat)) := by
  rw [sendInner, Prog.run_bind_ok (run_getSession _)]
  dsimp only
  rw [if_neg (by omega), packetsFor, encodeHeader_eq]
  split
  · exact run_rawSendIov _ _ _
  · rename_i long
    have few := continuationChunks_le
      (payload.length - (endpoint.session.packetSize.toNat - headerSize))
      (endpoint.session.packetSize.toNat - headerSize)
    generalize shift : endpoint.session.packetSize.toNat - headerSize = budget at few ⊢
    have past : budget < payload.length := by omega
    rw [headerSize, u32Max] at small
    rw [if_neg (by omega), if_neg (by omega), Nat.min_eq_right past.le, slice_take, ← piece_zero,
      Prog.run_bind_ok (run_rawSendIov _ _ _), toNat_chunkCount (by omega), Nat.add_sub_cancel_left]
    have rest := run_sendChunks hdr payload budget
      (1 + UInt32.ofNat (continuationChunks (payload.length - budget) budget))
      (continuationChunks (payload.length - budget) budget) 1
      (sent endpoint [hdr.image ++ piece payload budget 0])
    rw [startOf_one past, sent_sent] at rest
    exact rest

/-- `send` marks a request as in flight. -/
def marked (self : UdsSession) (hdr : Header) : UdsSession :=
  if self.role = .client ∧ hdr.kind = kindRequest then
    { self with inflightIds := insert hdr.messageId self.inflightIds }
  else self

/-- A message that passes the checks of `send` is sent in the packets of the closed form. -/
theorem run_send (isOpen : 0 ≤ endpoint.session.fd)
    (large : headerSize < endpoint.session.packetSize.toNat)
    (inLimit : payload.length ≤ (sendLimits endpoint.session).1.toNat)
    (small : headerSize + payload.length ≤ u32Max)
    (items : hdr.itemCount ≤ (sendLimits endpoint.session).2)
    (fresh : endpoint.session.role = .client → hdr.kind = kindRequest → hdr.messageId ∉
      endpoint.session.inflightIds) :
    (send queueOs hdr payload).run endpoint =
      (.ok (fillEnvelope hdr payload),
        sent { endpoint with session := marked endpoint.session hdr }
          (packetsFor (fillEnvelope hdr payload) payload endpoint.session.packetSize.toNat)) := by
  have noDuplicate : ¬ (decide (endpoint.session.role = .client ∧ hdr.kind = kindRequest) = true ∧
      hdr.messageId ∈ endpoint.session.inflightIds) := by
    rintro ⟨tracked, member⟩
    obtain ⟨role, kind⟩ := of_decide_eq_true tracked
    exact fresh role kind member
  have mark : (if decide (endpoint.session.role = .client ∧ hdr.kind = kindRequest) = true then
      { endpoint.session with inflightIds := insert hdr.messageId endpoint.session.inflightIds }
      else endpoint.session) = marked endpoint.session hdr := by
    simp only [marked, decide_eq_true_eq]
  have size : (marked endpoint.session hdr).packetSize = endpoint.session.packetSize := by
    unfold marked
    split <;> rfl
  have inner := run_sendInner (fillEnvelope hdr payload) payload
    { endpoint with session := marked endpoint.session hdr } (by rw [size]; exact large) small
  rw [size] at inner
  rw [headerSize, u32Max] at small
  rw [send, Prog.run_bind_ok (run_getSession _)]
  dsimp only
  rw [if_neg (by omega), if_neg (by rw [headerSize, u32Max]; omega),
    if_neg (UInt32.not_lt.mpr items), if_neg noDuplicate,
    Prog.run_bind_ok (run_modifySession _ _), Prog.run_inspect, mark, inner]
  rfl

/-! ### The shape of the packets -/

theorem length_image_append (data : Bytes) :
    (hdr.image ++ data).length = headerSize + data.length := by
  rw [List.length_append, Header.length_image, headerSize]

theorem drop_image_append (data : Bytes) : (hdr.image ++ data).drop headerSize = data :=
  List.drop_left' (Header.length_image hdr)

section Shape

variable {hdr : Header} {payload : Bytes} {budget : Nat} {chunkCount : UInt32} {index : Nat}

theorem length_chunkPacket (hdr : Header) (payload : Bytes) (budget : Nat) (chunkCount : UInt32)
    (index : Nat) :
    (chunkPacket hdr payload budget chunkCount index).length =
      headerSize + (piece payload budget index).length := by
  rw [chunkPacket, List.length_append, ChunkHeader.length_image, headerSize]

theorem drop_chunkPacket (hdr : Header) (payload : Bytes) (budget : Nat) (chunkCount : UInt32)
    (index : Nat) : (chunkPacket hdr payload budget chunkCount index).drop headerSize =
      piece payload budget index := List.drop_left' (ChunkHeader.length_image _)

/-- A piece that starts inside the payload is not empty and fits its length field. -/
theorem piece_bounds (positive : 0 < budget) (inside : index * budget < payload.length)
    (small : headerSize + payload.length ≤ u32Max) :
    0 < (piece payload budget index).length ∧ (piece payload budget index).length < 2 ^ 32 := by
  rw [headerSize, u32Max] at small
  rw [length_piece]
  omega

/-- A continuation packet is what the receiver wants. -/
theorem isChunk_chunkPacket (positive : 0 < budget) (inside : index * budget < payload.length)
    (small : headerSize + payload.length ≤ u32Max)
    (declared : hdr.payloadLen = UInt32.ofNat payload.length) :
    IsChunk hdr chunkCount (UInt32.ofNat index) (chunkPacket hdr payload budget chunkCount index)
      (chunkHeader hdr payload budget chunkCount index) := by
  obtain ⟨some, fits⟩ := piece_bounds positive inside small
  have length : (UInt32.ofNat (piece payload budget index).length).toNat =
      (piece payload budget index).length := UInt32.toNat_ofNat_of_lt' fits
  refine ⟨?_, ?_, rfl, rfl, rfl, ?_, ?_⟩
  · rw [length_chunkPacket]
    exact Nat.le_add_right _ _
  · refine ChunkHeader.decode_image _ _ ⟨rfl, rfl, rfl, fun zero => ?_⟩
    have none : (UInt32.ofNat (piece payload budget index).length).toNat = 0 :=
      congrArg UInt32.toNat zero
    omega
  · rw [headerSize, u32Max] at small
    rw [declared, toNat_ofNat32 (by omega)]
    rfl
  · rw [length_chunkPacket, Nat.add_sub_cancel_left]
    exact length.symm

end Shape

/-! ### Receiving -/

theorem run_rawRecv (buf packet : Bytes) (rest : List Bytes) (session : UdsSession)
    (trace : List Event) (some : 0 < packet.length) (room : packet.length ≤ buf.length) :
    (rawRecv queueOs buf).run ⟨session, packet :: rest, trace⟩ =
      (.ok (packet.length, splice buf 0 packet),
        ⟨session, rest, trace ++ [.received (.data packet)]⟩) := by
  rw [rawRecv, Prog.run_bind_ok (run_call _ _ _)]
  dsimp only [queueOs, Prod.map, Received.cut, id]
  rw [List.take_of_length_le room, if_neg (by omega)]
  rfl

theorem run_rawRecvControl (buf packet : Bytes) (rest : List Bytes) (wait : ReceiveWait)
    (session : UdsSession) (trace : List Event) (some : 0 < packet.length)
    (room : packet.length ≤ buf.length) :
    (failingInflight (rawRecvControl queueOs 0 buf false wait)).run
        ⟨session, packet :: rest, trace⟩ =
      (.ok (packet.length, splice buf 0 packet),
        ⟨session, rest, trace ++ [.received (.data packet)]⟩) :=
  run_failingInflight_of_ok (run_rawRecv buf packet rest session trace some room)

/-- A loop whose pass takes packet `index` off a queue takes the packets that are left. -/
theorem run_loop_chunks {ε σ α β : Type} {body : α → Prog ε σ (α ⊕ β)} {value : Nat → α}
    {held : Nat → List Bytes → σ → Prop} {budget size : Nat} {packet : Nat → Bytes}
    (pass : ∀ index rest state, index * budget < size → held index (packet index :: rest) state →
      ∃ after, (body (value index)).run state = (.ok (.inl (value (index + 1))), after) ∧
        held (index + 1) rest after)
    (fuel count index : Nat) (rest : List Bytes) (state : σ)
    (needed : (index + count) * budget < size + budget)
    (start : held index ((List.range' index count).map packet ++ rest) state) :
    ∃ after, (Prog.loop body (fuel + count) (value index)).run state =
      (Prog.loop body fuel (value (index + count))).run after ∧
        held (index + count) rest after := by
  induction count generalizing index state with
  | zero => exact ⟨state, rfl, start⟩
  | succ count ih =>
    have inside : index * budget < size := by
      have shift : (index + (count + 1)) * budget = index * budget + count * budget + budget := by
        ring
      rw [shift] at needed
      exact lt_of_le_of_lt (Nat.le_add_right _ (count * budget)) (by omega)
    rw [List.range'_succ, List.map_cons, List.cons_append] at start
    obtain ⟨between, passed, kept⟩ := pass index _ state inside start
    rw [show index + (count + 1) = index + 1 + count by omega] at needed ⊢
    obtain ⟨after, looped, done⟩ := ih (index + 1) between needed kept
    exact ⟨after, by rw [← Nat.add_assoc, Prog.loop, Prog.run_bind_ok passed]; exact looped, done⟩

/-- The receiver has the pieces before piece `index` and the packets `queue` to come. -/
structure Holding (payload : Bytes) (packetSize budget index : Nat) (queue : List Bytes)
    (endpoint : Endpoint (List Bytes)) : Prop where
  queued : endpoint.os = queue
  bytes : slice endpoint.session.recvBuf 0 (startOf payload budget index) =
    slice payload 0 (startOf payload budget index)
  room : payload.length ≤ endpoint.session.recvBuf.length
  large : packetSize ≤ endpoint.session.pktBuf.length

section Receiving

variable {hdr : Header} {payload : Bytes} {packetSize budget : Nat}
  (positive : 0 < budget) (split : packetSize = headerSize + budget)
  (small : headerSize + payload.length ≤ u32Max)
  (declared : hdr.payloadLen = UInt32.ofNat payload.length)

include small declared in
theorem toNat_payloadLen : hdr.payloadLen.toNat = payload.length := by
  rw [headerSize, u32Max] at small
  rw [declared]
  exact toNat_ofNat32 (by omega)

include positive split small declared

variable (wait : ReceiveWait)

/-- One pass of the loop takes one packet and one piece. -/
theorem run_receiveChunk (chunkCount : UInt32) (index : Nat) (rest : List Bytes)
    (endpoint : Endpoint (List Bytes)) (inside : index * budget < payload.length)
    (holding : Holding payload packetSize budget index (chunkPacket hdr payload budget chunkCount
      index :: rest) endpoint) :
    ∃ after, (receiveChunk queueOs 0 false wait hdr chunkCount (startOf payload budget index)
        (UInt32.ofNat index)).run endpoint =
          (.ok (.inl (startOf payload budget (index + 1), UInt32.ofNat (index + 1))), after) ∧
      Holding payload packetSize budget (index + 1) rest after := by
  obtain ⟨session, queue, trace⟩ := endpoint
  obtain ⟨rfl, bytes, room, large⟩ := holding
  dsimp only at bytes room large
  have length := toNat_payloadLen small declared
  have start : startOf payload budget index = index * budget := Nat.min_eq_left inside.le
  have next := startOf_succ payload budget index
  have short : startOf payload budget (index + 1) ≤ payload.length := Nat.min_le_right _ _
  have size := length_chunkPacket hdr payload budget chunkCount index
  have some := (piece_bounds positive inside small).1
  have within := length_piece payload budget index
  have checked : checkChunk hdr chunkCount (UInt32.ofNat index) (startOf payload budget index)
      (chunkPacket hdr payload budget chunkCount index) = .ok (piece payload budget index) := by
    refine checkChunk_eq_ok_iff.mpr
      ⟨⟨_, isChunk_chunkPacket positive inside small declared⟩, by omega, ?_⟩
    exact drop_chunkPacket hdr payload budget chunkCount index
  rw [receiveChunk, if_pos (by omega), Prog.run_bind_ok (run_getSession _),
    Prog.run_bind_ok (run_rawRecvControl _ _ _ _ _ _ (by omega) (by dsimp only; omega))]
  dsimp only
  rw [Prog.run_bind_ok (run_modifySession _ _), readSlice_packet, Prog.ofRes_ok_bind, checked,
    Prog.ofRes_ok_bind, Prog.run_bind_ok (run_onRecvBuf_write (by dsimp only; omega)), ← next,
    ofNat_succ]
  have here : slice payload (startOf payload budget index) (piece payload budget index).length =
      piece payload budget index := by
    rw [← length_slice_startOf, slice_startOf]
  refine ⟨_, rfl, rfl, ?_, ?_, ?_⟩
  · dsimp only
    rw [next, ← slice_append_from_zero, slice_splice_before _ _ _ _ _ (by omega) (by omega),
      slice_splice_self _ _ _ (by omega), bytes, ← slice_append_from_zero payload, here]
  · dsimp only
    rw [length_splice _ _ _ (by omega)]
    exact room
  · dsimp only
    rw [length_splice _ _ _ (by omega)]
    exact large

/-- The loop takes the packets that are left, and the payload is complete. -/
theorem run_receiveChunk_loop (chunkCount : UInt32) (count index fuel : Nat) (rest : List Bytes)
    (endpoint : Endpoint (List Bytes)) (enough : count < fuel)
    (needed : (index + count) * budget < payload.length + budget)
    (complete : payload.length ≤ (index + count) * budget)
    (holding : Holding payload packetSize budget index ((List.range' index count).map (chunkPacket
      hdr payload budget chunkCount) ++ rest) endpoint) :
    ∃ after, (Prog.loop (fun (loop : Nat × UInt32) =>
        receiveChunk queueOs 0 false wait hdr chunkCount loop.1 loop.2) fuel
        (startOf payload budget index, UInt32.ofNat index)).run endpoint = (.ok (), after) ∧
      Holding payload packetSize budget (index + count) rest after := by
  obtain ⟨less, rfl⟩ : ∃ less, fuel = less + 1 + count := ⟨fuel - (1 + count), by omega⟩
  obtain ⟨after, looped, held⟩ := @run_loop_chunks _ _ _ _
    (fun loop : Nat × UInt32 => receiveChunk queueOs 0 false wait hdr chunkCount loop.1 loop.2)
    (fun index => (startOf payload budget index, UInt32.ofNat index))
    (Holding payload packetSize budget) budget payload.length _
    (run_receiveChunk positive split small declared wait chunkCount) (less + 1) count index rest
    endpoint needed holding
  have full : startOf payload budget (index + count) = payload.length := Nat.min_eq_right complete
  refine ⟨after, looped.trans ?_, held⟩
  rw [Prog.loop, receiveChunk, if_neg (by rw [toNat_payloadLen small declared]; omega)]
  rfl

/-- Reassembly of a message whose first packet has been taken. -/
theorem run_receiveChunks (rest : List Bytes) (session : UdsSession) (trace : List Event)
    (size : session.packetSize.toNat = packetSize) (long : budget < payload.length)
    (valid : validateBatch hdr payload = .ok ()) :
    ∃ after, (receiveChunks queueOs 0 false wait hdr (piece payload budget 0)).run
        ⟨session, (List.range' 1 (continuationChunks (payload.length - budget) budget)).map
          (chunkPacket hdr payload budget
            (1 + UInt32.ofNat (continuationChunks (payload.length - budget) budget))) ++ rest,
          trace⟩ = (.ok (hdr, payload), after) ∧ after.os = rest := by
  have length := toNat_payloadLen small declared
  have few := continuationChunks_le (payload.length - budget) budget
  obtain ⟨-, needed, complete⟩ := continuationChunks_bounds positive long
  have first : (piece payload budget 0).length = budget := by
    rw [length_piece]
    omega
  have begin := startOf_one long
  have grown := le_length_grow session.recvBuf payload.length
  rw [receiveChunks, Prog.run_bind_ok (run_modifySession _ _), length,
    Prog.run_bind_ok (run_onRecvBuf_write (by dsimp only; omega)),
    Prog.run_bind_ok (run_getSession _)]
  dsimp only
  rw [if_neg (by omega), Prog.run_bind_ok (run_modifySession _ _), size, split,
    Nat.add_sub_cancel_left, first]
  -- The first pieces are in the buffer: the loop goes on with packet one.
  have looped := run_receiveChunk_loop positive split small declared wait
    (1 + UInt32.ofNat (continuationChunks (payload.length - budget) budget))
    (continuationChunks (payload.length - budget) budget) 1 (payload.length + 1) rest
  rw [begin] at looped
  refine Prog.run_bind_of_exists (looped _ (by omega) ?_ ?_ ⟨rfl, ?_, ?_, ?_⟩) fun after held => ?_
  · rw [Nat.add_mul, Nat.one_mul]
    omega
  · rw [Nat.add_comm]
    exact complete
  · have stored :=
      slice_splice_self (grow session.recvBuf payload.length) (piece payload budget 0) 0
      (Nat.zero_le _)
    rw [first] at stored
    dsimp only
    rw [begin, stored, piece, Nat.zero_mul]
  · dsimp only
    rw [length_splice _ _ _ (by omega)]
    exact grown
  · dsimp only
    rw [← split, ← size]
    exact le_length_grow _ _
  · have full : startOf payload budget
        (1 + continuationChunks (payload.length - budget) budget) = payload.length := by
      rw [startOf, Nat.add_comm]
      exact Nat.min_eq_right complete
    have bytes := held.bytes
    rw [full, slice_all] at bytes
    refine ⟨after, ?_, held.queued⟩
    rw [Prog.run_bind_ok (run_getSession _), readSlice_of_le (Nat.zero_le _) held.room,
      Prog.ofRes_ok_bind, Nat.sub_zero, bytes, valid, Prog.ofRes_ok_bind]
    rfl

end Receiving

/-! ### Round trip -/

/-- A message fits the limits of the session that sends it, and its batch directory, if it has one,
is valid. -/
structure Sendable (sender : UdsSession) (hdr : Header) (payload : Bytes) : Prop where
  kind : kindRequest ≤ hdr.kind ∧ hdr.kind ≤ kindControl
  items : hdr.itemCount ≤ (sendLimits sender).2
  inLimit : payload.length ≤ (sendLimits sender).1.toNat
  small : payload.length ≤ 2 ^ 32 - 33
  batch : hdr.flags &&& flagBatch ≠ 0 → 1 < hdr.itemCount →
    align8 (hdr.itemCount.toNat * 8) ≤ payload.length ∧
      batchDirValidate (payload.take (hdr.itemCount.toNat * 8)) hdr.itemCount
        (UInt32.ofNat (payload.length - align8 (hdr.itemCount.toNat * 8))) = .ok ()

/-- Two ends of one connection. -/
structure Peers (sender receiver : UdsSession) : Prop where
  senderOpen : 0 ≤ sender.fd
  receiverOpen : 0 ≤ receiver.fd
  roles : sender.role ≠ receiver.role
  packetSize : sender.packetSize = receiver.packetSize
  large : headerSize < sender.packetSize.toNat
  requestBytes : sender.maxRequestPayloadBytes = receiver.maxRequestPayloadBytes
  requestItems : sender.maxRequestBatchItems = receiver.maxRequestBatchItems
  responseBytes : sender.maxResponsePayloadBytes = receiver.maxResponsePayloadBytes
  responseItems : sender.maxResponseBatchItems = receiver.maxResponseBatchItems

theorem Peers.limits {sender receiver : UdsSession} (peers : Peers sender receiver) :
    receiveLimits receiver = sendLimits sender := by
  have roles := peers.roles
  unfold receiveLimits sendLimits
  rw [peers.requestBytes, peers.requestItems, peers.responseBytes, peers.responseItems]
  cases fromRole : sender.role <;> cases toRole : receiver.role <;>
    simp_all

theorem validateBatch_of_sendable {sender : UdsSession} {hdr : Header} {payload : Bytes}
    (sendable : Sendable sender hdr payload) :
    validateBatch (fillEnvelope hdr payload) payload = .ok () := by
  rw [validateBatch]
  split
  · rename_i batch
    obtain ⟨room, valid⟩ := sendable.batch batch.1 batch.2
    show (rejectIf (payload.length < align8 (hdr.itemCount.toNat * 8)) _ >>= fun _ =>
      mapErr _ (batchDirValidate (payload.take (hdr.itemCount.toNat * 8)) hdr.itemCount
        (UInt32.ofNat (payload.length - align8 (hdr.itemCount.toNat * 8))))) = _
    rw [guard_bind (Nat.not_lt.mpr room), valid]
    rfl
  · rfl

/-- The session after a response has been matched with its request. -/
def matched (self : UdsSession) (hdr : Header) : UdsSession :=
  if self.role = .client ∧ hdr.kind = kindResponse then
    { self with inflightIds := self.inflightIds.erase hdr.messageId }
  else self

theorem run_takeInflight
    (outstanding : endpoint.session.role = .client → hdr.kind = kindResponse → hdr.messageId ∈
      endpoint.session.inflightIds) :
    (takeInflight hdr).run endpoint =
      (.ok (), { endpoint with session := matched endpoint.session hdr }) := by
  rw [takeInflight, Prog.run_bind_ok (run_getSession _), matched]
  split
  · rename_i response
    rw [if_pos (outstanding response.1 response.2)]
    rfl
  · rfl

/-- The first packet of a message, and how the receiver goes on after it. -/
theorem run_receiveMessage (data : Bytes) (rest : List Bytes) (buf : Bytes) (wait : ReceiveWait)
    (session : UdsSession) (trace : List Event) (wellFormed : hdr.WellFormed)
    (small : headerSize + hdr.payloadLen.toNat ≤ u32Max)
    (inLimit : hdr.payloadLen ≤ (receiveLimits session).1)
    (items : hdr.itemCount ≤ (receiveLimits session).2)
    (outstanding : session.role = .client → hdr.kind = kindResponse → hdr.messageId ∈
      session.inflightIds)
    (short : data.length ≤ hdr.payloadLen.toNat) (room : headerSize + data.length ≤ buf.length) :
    (receiveMessage queueOs 0 buf false wait session).run
        ⟨session, (hdr.image ++ data) :: rest, trace⟩ =
      (if headerSize + data.length = headerSize + hdr.payloadLen.toNat then do
        Prog.ofRes (validateBatch hdr data)
        return (hdr, data)
      else receiveChunks queueOs 0 false wait hdr data).run
        ⟨matched session hdr, rest, trace ++ [.received (.data (hdr.image ++ data))]⟩ := by
  have length := length_image_append hdr data
  have checked : checkFirst session (hdr.image ++ data) = .ok hdr := checkFirst_eq_ok_iff.mpr
    ⟨by omega, Header.decode_image hdr data wellFormed, inLimit, items⟩
  have packet : 0 < headerSize := by decide
  rw [receiveMessage, Prog.run_bind_ok (run_rawRecvControl _ _ _ _ _ _ (by omega) (by omega))]
  dsimp only
  rw [readSlice_packet, Prog.ofRes_ok_bind, checked, Prog.ofRes_ok_bind,
    Prog.run_bind_ok (run_takeInflight hdr _ outstanding), Prog.guard_bind (Nat.not_lt.mpr small),
    Prog.guard_bind (by omega), readSlice_packet_data (by omega), Prog.ofRes_ok_bind,
    drop_image_append, length]

theorem Sendable.total_le {sender : UdsSession} {hdr : Header} {payload : Bytes}
    (sendable : Sendable sender hdr payload) : headerSize + payload.length ≤ u32Max := by
  have small := sendable.small
  rw [headerSize, u32Max]
  omega

/-- The packets of a message are received as the message, and no packet more is taken. -/
theorem run_receive {sender receiver : UdsSession} {hdr : Header} {payload : Bytes}
    (peers : Peers sender receiver) (sendable : Sendable sender hdr payload)
    (outstanding : receiver.role = .client → hdr.kind = kindResponse →
      hdr.messageId ∈ receiver.inflightIds)
    (buf : Bytes) (room : headerSize + (receiveLimits receiver).1.toNat ≤ buf.length)
    (rest : List Bytes) (trace : List Event) :
    ∃ after, (receive queueOs buf).run ⟨receiver,
        packetsFor (fillEnvelope hdr payload) payload sender.packetSize.toNat ++ rest, trace⟩ =
          (.ok (fillEnvelope hdr payload, payload), after) ∧ after.os = rest := by
  have small := sendable.total_le
  have inLimit := sendable.inLimit
  have large := peers.large
  have length : (fillEnvelope hdr payload).payloadLen.toNat = payload.length :=
    toNat_payloadLen small rfl
  have items : (fillEnvelope hdr payload).itemCount ≤ (receiveLimits receiver).2 := by
    rw [peers.limits]
    exact sendable.items
  have size : (matched receiver (fillEnvelope hdr payload)).packetSize = receiver.packetSize := by
    unfold matched
    split <;> rfl
  have valid := validateBatch_of_sendable sendable
  rw [peers.limits] at room
  have first (data : Bytes) (queue : List Bytes) (short : data.length ≤ payload.length) :=
    run_receiveMessage (fillEnvelope hdr payload) data queue buf ⟨none, false⟩ receiver trace
      ⟨rfl, rfl, rfl, sendable.kind⟩ (by rw [length]; exact small)
      (by rw [UInt32.le_iff_toNat_le, length, peers.limits]; exact inLimit) items outstanding
      (by rw [length]; exact short) (by omega)
  rw [receive, receiveWithControl, Prog.run_bind_ok (run_getSession _),
    if_neg (Int.not_lt.mpr peers.receiverOpen)]
  show ∃ after, (receiveMessage queueOs 0 buf false ⟨none, false⟩ receiver).run _ = _ ∧ _
  rw [packetsFor]
  split
  · rw [List.singleton_append, first payload rest (Nat.le_refl _), if_pos (by rw [length]), valid]
    exact ⟨_, rfl, rfl⟩
  · have positive : 0 < sender.packetSize.toNat - headerSize := by omega
    have shorter := length_piece payload (sender.packetSize.toNat - headerSize) 0
    rw [Nat.zero_mul] at shorter
    have within : (piece payload (sender.packetSize.toNat - headerSize) 0).length ≤
        payload.length := by omega
    dsimp only
    rw [List.cons_append, first _ _ within, if_neg (by rw [length]; omega)]
    have split : sender.packetSize.toNat =
        headerSize + (sender.packetSize.toNat - headerSize) := by omega
    exact run_receiveChunks positive split small rfl ⟨none, false⟩ rest _ _
      (by rw [size, peers.packetSize]) (by omega) valid

/-- The packets of a message: how long they are, how many there are, and what the continuation
headers say. -/
structure WellCut (packetSize : Nat) (payload : Bytes) (packets : List Bytes) : Prop where
  length : ∀ packet ∈ packets, packet.length ≤ packetSize
  single : packets.length = 1 ↔ headerSize + payload.length ≤ packetSize
  chunks : ∀ index packet, 1 ≤ index → packets[index]? = some packet →
    ∃ chk, ChunkHeader.decode packet = .ok chk ∧ chk.chunkIndex.toNat = index ∧
      chk.chunkCount.toNat = packets.length ∧
      packet.length = headerSize + chk.chunkPayloadLen.toNat

theorem wellCut_packetsFor {hdr : Header} {payload : Bytes} {packetSize : Nat}
    (large : headerSize < packetSize) (small : headerSize + payload.length ≤ u32Max)
    (declared : hdr.payloadLen = UInt32.ofNat payload.length) :
    WellCut packetSize payload (packetsFor hdr payload packetSize) := by
  rw [packetsFor]
  split
  · rename_i whole
    refine ⟨fun packet member => ?_, ⟨fun _ => whole, fun _ => rfl⟩,
      fun index packet later found => ?_⟩
    · rw [List.mem_singleton] at member
      rw [member, List.length_append, Header.length_image]
      exact whole
    · rw [List.getElem?_eq_none (by rw [List.length_singleton]; exact later)] at found
      cases found
  · rename_i long
    dsimp only
    generalize shift : packetSize - headerSize = budget
    have positive : 0 < budget := by omega
    have past : budget < payload.length := by omega
    obtain ⟨several, needed, -⟩ := continuationChunks_bounds positive past
    have few := continuationChunks_le (payload.length - budget) budget
    generalize continuationChunks (payload.length - budget) budget = continuations
      at several needed few ⊢
    have carried (index : Nat) : (piece payload budget index).length ≤ budget :=
      length_slice_le _ _ _
    refine ⟨fun packet member => ?_, ⟨fun one => ?_, fun fits => absurd fits long⟩,
      fun index packet later found => ?_⟩
    · obtain rfl | member := List.mem_cons.mp member
      · have first := carried 0
        rw [List.length_append, Header.length_image]
        rw [headerSize] at shift large
        omega
      · obtain ⟨index, -, rfl⟩ := List.mem_map.mp member
        have rest := carried index
        rw [length_chunkPacket]
        omega
    · rw [List.length_cons, List.length_map, List.length_range'] at one
      omega
    · obtain ⟨index, rfl⟩ : ∃ before, index = before + 1 := ⟨index - 1, by omega⟩
      rw [List.getElem?_cons_succ, List.getElem?_map] at found
      obtain ⟨number, numbered, rfl⟩ := Option.map_eq_some_iff.mp found
      obtain ⟨bound, same⟩ := List.getElem?_eq_some_iff.mp numbered
      rw [List.length_range'] at bound
      rw [List.getElem_range', Nat.one_mul] at same
      subst same
      have inside : (1 + index) * budget < payload.length :=
        lt_of_le_of_lt (Nat.mul_le_mul_right budget (by omega)) needed
      have chunk : IsChunk hdr (1 + UInt32.ofNat continuations) (UInt32.ofNat (1 + index))
          (chunkPacket hdr payload budget (1 + UInt32.ofNat continuations) (1 + index))
          (chunkHeader hdr payload budget (1 + UInt32.ofNat continuations) (1 + index)) :=
        isChunk_chunkPacket positive inside small declared
      rw [headerSize, u32Max] at small
      refine ⟨chunkHeader hdr payload budget (1 + UInt32.ofNat continuations) (1 + index),
        chunk.decode, ?_, ?_, ?_⟩
      · rw [chunk.chunkIndex, toNat_ofNat32 (by omega), Nat.add_comm]
      · rw [chunk.chunkCount, toNat_chunkCount (by omega), List.length_cons, List.length_map,
          List.length_range', Nat.add_comm]
      · have long := chunk.long
        rw [← chunk.chunkPayloadLen]
        omega

/-- Sending succeeds with packets that fit, and the peer, given these packets, returns the header
and the payload as they were sent and takes exactly these packets. -/
def RoundTrips (sender receiver : UdsSession) (hdr : Header) (payload : Bytes) (queue : List Bytes)
    (history : List Event) : Prop :=
  ∃ packets after,
    (send queueOs hdr payload).run ⟨sender, queue, history⟩ =
      (.ok (fillEnvelope hdr payload), after) ∧
    after.os = queue ++ packets ∧ after.trace = history ++ packets.map .sent ∧
    WellCut sender.packetSize.toNat payload packets ∧
    ∀ buf : Bytes, headerSize + (receiveLimits receiver).1.toNat ≤ buf.length →
      ∀ (rest : List Bytes) (trace : List Event),
        ∃ final, (receive queueOs buf).run ⟨receiver, packets ++ rest, trace⟩ =
          (.ok (fillEnvelope hdr payload, payload), final) ∧ final.os = rest

/-- Every message that fits the limits and whose id is free, or outstanding for a response, round
trips. -/
theorem send_receive_roundTrips (sender receiver : UdsSession) (hdr : Header) (payload : Bytes)
    (peers : Peers sender receiver) (sendable : Sendable sender hdr payload)
    (fresh : sender.role = .client → hdr.kind = kindRequest → hdr.messageId ∉ sender.inflightIds)
    (outstanding : receiver.role = .client → hdr.kind = kindResponse →
      hdr.messageId ∈ receiver.inflightIds) (queue : List Bytes) (history : List Event) :
    RoundTrips sender receiver hdr payload queue history := by
  refine ⟨packetsFor (fillEnvelope hdr payload) payload sender.packetSize.toNat, _,
    run_send hdr payload ⟨sender, queue, history⟩ peers.senderOpen peers.large sendable.inLimit
      sendable.total_le sendable.items fresh, rfl, rfl,
    wellCut_packetsFor peers.large sendable.total_le rfl, fun buf room rest trace => ?_⟩
  exact run_receive peers sendable outstanding buf room rest trace

/-- A client whose packets carry 32 bytes of payload. -/
def narrowClient : UdsSession := .fresh .client 1024 64

/-- A request of 65 bytes goes in three packets. -/
theorem roundTrips_threePackets :
    (packetsFor { kind := kindRequest, itemCount := 1, messageId := 7 } (zeros 65) 64).length = 3 ∧
      RoundTrips narrowClient { narrowClient with role := .server }
        { kind := kindRequest, itemCount := 1, messageId := 7 } (zeros 65) [] [] := by
  refine ⟨by decide +kernel, send_receive_roundTrips _ _ _ _ ?_ ?_ ?_ ?_ [] []⟩
  · exact ⟨by decide, by decide, by decide, rfl, by decide, rfl, rfl, rfl, rfl⟩
  · exact ⟨by decide, by decide, by decide, by decide, fun batch => absurd rfl batch⟩
  · intro _ _ member
    exact absurd member (Finset.notMem_empty _)
  · intro role
    cases role

end NetIpc.Uds
