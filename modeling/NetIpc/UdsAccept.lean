/-
This file says what a session accepts as a message of several packets, whatever
the peer sends and however the waiting goes.

The loop over continuation packets ends when enough bytes are there, and each
packet is checked against the number of packets a sender with full packets would
use. So every accepted continuation carries the right index, count, message id and
total length, and the payload is what the packets carry; but the number of packets
agrees with the declared count exactly when they are as few as their data needs. That
a receive accepts nothing else is proved with the walk through it, in the next file.
-/

import NetIpc.UdsTerms

namespace NetIpc.Uds

variable {σ : Type}

/-! ### The packets of a run -/

/-- The packets received so far. -/
def packetsOf (trace : List Event) : List Bytes := trace.filterMap Event.packet?

theorem packetsOf_append (trace : List Event) (event : Event) :
    packetsOf (trace ++ [event]) = packetsOf trace ++ event.packet?.toList := by
  rw [packetsOf, List.filterMap_append]
  cases found : event.packet? <;> simp [packetsOf, found]

/-- The session and the packets received so far. -/
def Seen (session : UdsSession) (packets : List Bytes) (endpoint : Endpoint σ) : Prop :=
  endpoint.session = session ∧ packetsOf endpoint.trace = packets

variable {session : UdsSession} {packets : List Bytes}

/-- What `Seen` speaks about. -/
def seen (endpoint : Endpoint σ) : UdsSession × List Bytes :=
  (endpoint.session, packetsOf endpoint.trace)

/-- A system call other than `recv` delivers no packet. -/
theorem call_seen {α : Type} (step : σ → α × σ) (event : α → Event)
    (silent : ∀ answer, (event answer).packet? = none) : Keeps seen (call step event) := by
  intro endpoint
  show (endpoint.session, packetsOf (endpoint.trace ++ [_])) = _
  rw [packetsOf_append, silent, Option.toList_none, List.append_nil]
  rfl

variable (os : Os σ)

theorem calm_seen : Calm os seen where
  now := call_seen _ _ fun _ => rfl
  load := call_seen _ _ fun _ => rfl

/-! ### Reassembly -/

/-- The data of continuation packets. -/
def dataOf (packets : List Bytes) : Bytes := (packets.map (List.drop headerSize)).flatten

theorem dataOf_append (packets : List Bytes) (packet : Bytes) :
    dataOf (packets ++ [packet]) = dataOf packets ++ packet.drop headerSize := by
  simp [dataOf]

/-- Continuation packets numbered from one. -/
def Chunks (hdr : Header) (chunkCount : UInt32) (chunks : List Bytes) : Prop :=
  ∀ index packet, chunks[index]? = some packet →
    ∃ chk, IsChunk hdr chunkCount (UInt32.ofNat (index + 1)) packet chk

variable {chunks : List Bytes}

theorem Chunks.append {hdr : Header} {chunkCount : UInt32} {packet : Bytes}
    (each : Chunks hdr chunkCount chunks)
    (last : ∃ chk, IsChunk hdr chunkCount (UInt32.ofNat (chunks.length + 1)) packet chk) :
    Chunks hdr chunkCount (chunks ++ [packet]) := by
  intro index other found
  rcases Nat.lt_trichotomy index chunks.length with before | same | beyond
  · rw [List.getElem?_append_left before] at found
    exact each index other found
  · subst same
    rw [List.getElem?_concat_length] at found
    rwa [← Option.some.inj found]
  · rw [List.getElem?_eq_none (by rw [List.length_append, List.length_singleton]; omega)] at found
    cases found

/-- What the loop over continuation packets has when `assembled` bytes are there and chunk `ci` is
next: since the first packets `earlier` it received `chunks`. -/
structure Assembling (hdr : Header) (data : Bytes) (chunkCount : UInt32)
    (earlier chunks : List Bytes) (assembled : Nat) (ci : UInt32) (endpoint : Endpoint σ) :
    Prop where
  seen : packetsOf endpoint.trace = earlier ++ chunks
  next : ci.toNat = chunks.length + 1
  each : Chunks hdr chunkCount chunks
  bytes : slice endpoint.session.recvBuf 0 assembled = data ++ dataOf chunks
  size : assembled = data.length + (dataOf chunks).length
  many : chunks.length ≤ (dataOf chunks).length
  bound : assembled ≤ hdr.payloadLen.toNat
  room : hdr.payloadLen.toNat ≤ endpoint.session.recvBuf.length

variable {hdr : Header} {data : Bytes} {chunkCount : UInt32} {earlier : List Bytes}

variable {packet first payload : Bytes}

/-- No packet is taken without data. -/
theorem length_pos_of_checkChunk {ci : UInt32} {assembled : Nat} {carried : Bytes}
    (checked : checkChunk hdr chunkCount ci assembled packet = .ok carried) :
    0 < carried.length := by
  obtain ⟨⟨chk, chunk⟩, -, same⟩ := checkChunk_eq_ok_iff.mp checked
  rw [same, List.length_drop, chunk.chunkPayloadLen]
  exact Nat.pos_of_ne_zero fun zero =>
    ChunkHeader.chunkPayloadLen_of_decode chunk.decode (UInt32.toNat_inj.mp zero)

/-- The first packet is in the buffer and nothing else. -/
theorem Assembling.start {endpoint : Endpoint σ} {buf : Bytes}
    (seen : packetsOf endpoint.trace = earlier) (short : data.length ≤ hdr.payloadLen.toNat)
    (room : hdr.payloadLen.toNat ≤ buf.length)
    (copied : endpoint.session.recvBuf = splice buf 0 data) :
    Assembling hdr data chunkCount earlier [] data.length 1 endpoint where
  seen := by rw [List.append_nil, seen]
  next := rfl
  each := nofun
  bytes := by
    rw [copied, slice_splice_self _ _ _ (Nat.zero_le _)]
    exact (List.append_nil _).symm
  size := rfl
  many := Nat.le_refl _
  bound := short
  room := by
    rw [copied, length_splice _ _ _ (by omega)]
    exact room

/-- One more packet. -/
theorem Assembling.push {assembled : Nat} {ci : UInt32} {before after : Endpoint σ}
    {carried : Bytes}
    (assembling : Assembling hdr data chunkCount earlier chunks assembled ci before)
    (small : headerSize + hdr.payloadLen.toNat ≤ u32Max)
    (checked : checkChunk hdr chunkCount ci assembled packet = .ok carried)
    (seen : packetsOf after.trace = packetsOf before.trace ++ [packet])
    (copied : after.session.recvBuf = splice before.session.recvBuf assembled carried) :
    Assembling hdr data chunkCount earlier (chunks ++ [packet]) (assembled + carried.length)
      (ci + 1) after := by
  obtain ⟨⟨chk, chunk⟩, fits, same⟩ := checkChunk_eq_ok_iff.mp checked
  have carries := length_pos_of_checkChunk checked
  have number : ci = UInt32.ofNat (chunks.length + 1) := by
    rw [← assembling.next, UInt32.ofNat_toNat]
  have size := assembling.size
  have many := assembling.many
  have room := assembling.room
  refine ⟨?_, ?_, ?_, ?_, ?_, ?_, fits, ?_⟩
  · rw [seen, assembling.seen, List.append_assoc]
  · rw [u32Max, headerSize] at small
    rw [UInt32.toNat_add, assembling.next, List.length_append, List.length_singleton]
    exact Nat.mod_eq_of_lt (by change chunks.length + 1 + 1 < 2 ^ 32; omega)
  · exact assembling.each.append ⟨chk, number ▸ chunk⟩
  · rw [copied, ← slice_append_from_zero, slice_splice_before _ _ _ _ _ (by omega) (by omega),
      slice_splice_self _ _ _ (by omega), assembling.bytes, dataOf_append, same, List.append_assoc]
  · rw [dataOf_append, List.length_append, ← same]
    omega
  · rw [dataOf_append, List.length_append, List.length_append, List.length_singleton, ← same]
    omega
  · rw [copied, length_splice _ _ _ (by omega)]
    exact room

/-- The number of packets the receiver expects after a first packet with `data`. -/
def expectedChunkCount (packetSize : UInt32) (hdr : Header) (data : Bytes) : UInt32 :=
  1 + UInt32.ofNat
    (continuationChunks (hdr.payloadLen.toNat - data.length) (packetSize.toNat - headerSize))

/-- What a session accepted: the first packet, the packets after it, and what they carry. -/
structure Accepted (session : UdsSession) (hdr : Header) (payload first : Bytes)
    (chunks : List Bytes) : Prop where
  checked : checkFirst session first = .ok hdr
  small : headerSize + hdr.payloadLen.toNat ≤ u32Max
  each : Chunks hdr (expectedChunkCount session.packetSize hdr (first.drop headerSize)) chunks
  many : chunks.length ≤ (dataOf chunks).length
  carried : payload = first.drop headerSize ++ dataOf chunks
  length : payload.length = hdr.payloadLen.toNat

/-! ### Well-formed sequences -/

/-- A well-formed packet sequence of one message: it has as many packets as every continuation
header declares, these are numbered and agree with the first packet, and the payload is what the
packets carry. -/
structure WellFormedPackets (hdr : Header) (payload : Bytes) (packets : List Bytes) : Prop where
  first : ∃ packet, packets[0]? = some packet ∧ Header.decode packet = .ok hdr
  numbered : ∃ chunkCount : UInt32, packets.length = chunkCount.toNat ∧
    ∀ index packet, 1 ≤ index → packets[index]? = some packet →
      ∃ chk, ChunkHeader.decode packet = .ok chk ∧ chk.chunkCount = chunkCount ∧
        chk.chunkIndex.toNat = index ∧ index < chk.chunkCount.toNat ∧
        chk.messageId = hdr.messageId ∧
        chk.totalMessageLen.toNat = headerSize + hdr.payloadLen.toNat
  payload : dataOf packets = payload

/-- Continuation packets are compact when their data needs that many packets of `budget` bytes. -/
def Compact (budget : Nat) (chunks : List Bytes) : Prop :=
  (chunks.length - 1) * budget < (dataOf chunks).length ∧
    (dataOf chunks).length ≤ chunks.length * budget

theorem length_eq_continuationChunks_iff {carried budget count : Nat} (some : 0 < carried)
    (positive : 0 < budget) (many : 0 < count) :
    count = continuationChunks carried budget ↔
      (count - 1) * budget < carried ∧ carried ≤ count * budget := by
  obtain ⟨count, rfl⟩ : ∃ rest, count = rest + 1 := ⟨count - 1, by omega⟩
  rw [continuationChunks, if_pos ⟨some, positive⟩, Nat.add_comm count 1, Nat.add_left_cancel_iff,
    Nat.add_sub_cancel_left, eq_comm, Nat.div_eq_iff positive]
  have next : (1 + count) * budget = count * budget + budget := by ring
  rw [next]
  omega

section Accepted

variable (accepted : Accepted session hdr payload first chunks)

include accepted

theorem Accepted.length_chunks_lt :
    chunks.length + 1 < 2 ^ 32 := by
  have small := accepted.small
  have many := accepted.many
  have length := accepted.length
  rw [accepted.carried, List.length_append] at length
  rw [headerSize, u32Max] at small
  omega

theorem Accepted.toNat_expectedChunkCount :
    (expectedChunkCount session.packetSize hdr (first.drop headerSize)).toNat =
      1 + continuationChunks (dataOf chunks).length (session.packetSize.toNat - headerSize) := by
  have small := accepted.small
  have length := accepted.length
  have rest : hdr.payloadLen.toNat - (first.drop headerSize).length = (dataOf chunks).length := by
    rw [accepted.carried, List.length_append] at length
    omega
  have few := continuationChunks_le (dataOf chunks).length (session.packetSize.toNat - headerSize)
  rw [headerSize, u32Max] at small
  rw [expectedChunkCount, rest, toNat_chunkCount (by omega)]

/-- The continuation packets of an accepted message, read back one by one. -/
theorem Accepted.chunk_at {index : Nat} (found : chunks[index]? = some packet) :
    ∃ chk, ChunkHeader.decode packet = .ok chk ∧
      chk.chunkCount =
        expectedChunkCount session.packetSize hdr (first.drop headerSize) ∧
      chk.chunkIndex.toNat = index + 1 ∧ chk.messageId = hdr.messageId ∧
      chk.totalMessageLen.toNat = headerSize + hdr.payloadLen.toNat := by
  obtain ⟨chk, chunk⟩ := accepted.each index packet found
  have small := accepted.small
  have few := accepted.length_chunks_lt
  obtain ⟨bound, -⟩ := List.getElem?_eq_some_iff.mp found
  refine ⟨chk, chunk.decode, chunk.chunkCount, ?_, chunk.messageId, ?_⟩
  · rw [chunk.chunkIndex]
    exact toNat_ofNat32 (by omega)
  · rw [u32Max] at small
    rw [chunk.totalMessageLen]
    exact toNat_ofNat32 (by omega)

/-- An accepted message of several packets is well formed exactly when its continuation packets are
compact: the declared count is computed from the length of the data, not from the packets. -/
theorem Accepted.wellFormed_iff (large : headerSize < session.packetSize.toNat)
    (several : 0 < chunks.length) :
    WellFormedPackets hdr payload (first :: chunks) ↔
      Compact (session.packetSize.toNat - headerSize) chunks := by
  have declared := accepted.toNat_expectedChunkCount
  have budget : 0 < session.packetSize.toNat - headerSize := by omega
  rw [Compact, ← length_eq_continuationChunks_iff (several.trans_le accepted.many) budget several]
  constructor
  · intro wellFormed
    obtain ⟨chunkCount, counted, each⟩ := wellFormed.numbered
    have found : chunks[0]? = some chunks[0] := List.getElem?_eq_getElem several
    obtain ⟨chk, decoded, count, -⟩ := each 1 chunks[0] (Nat.le_refl 1) found
    obtain ⟨other, decodedOther, expected, -⟩ := accepted.chunk_at found
    rw [decoded] at decodedOther
    cases decodedOther
    rw [← count, expected, declared, List.length_cons] at counted
    omega
  · intro count
    refine ⟨⟨first, rfl, (checkFirst_eq_ok_iff.mp accepted.checked).2.1⟩,
      ⟨expectedChunkCount session.packetSize hdr (first.drop headerSize), ?_, ?_⟩, ?_⟩
    · rw [declared, ← count, List.length_cons, Nat.add_comm]
    · intro index packet positive found
      obtain ⟨index, rfl⟩ : ∃ earlier, index = earlier + 1 := ⟨index - 1, by omega⟩
      rw [List.getElem?_cons_succ] at found
      obtain ⟨bound, -⟩ := List.getElem?_eq_some_iff.mp found
      obtain ⟨chk, decoded, expected, number, messageId, total⟩ := accepted.chunk_at found
      refine ⟨chk, decoded, expected, number, ?_, messageId, total⟩
      rw [expected, declared]
      omega
    · rw [accepted.carried]
      rfl

end Accepted

end NetIpc.Uds
