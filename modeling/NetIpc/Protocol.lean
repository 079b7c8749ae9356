/-
This file models the wire envelope (`protocol/mod.rs`): the error type, the
protocol constants, and the codecs of the outer message header and of the chunk
continuation header.

Both headers are 32 bytes of fixed-width fields in host byte order, which is
little-endian here. `image` is the byte string a header stands for; `encode`
writes exactly it, and `decode` gets the header back from any buffer that starts
with it.
-/

import NetIpc.Access

namespace NetIpc

/-! ### Errors -/

/-- `NipcError`. -/
inductive NipcError where
  | truncated
  | badMagic
  | badVersion
  | badHeaderLen
  | badKind
  | badLayout
  | outOfBounds
  | missingNul
  | badAlignment
  | badItemCount
  | overflow
  | handlerFailed
  | timeout
  | aborted
  deriving Repr, DecidableEq

namespace NipcError

/-- The `Display` text. -/
def display : NipcError → String
  | truncated => "buffer too short"
  | badMagic => "magic value mismatch"
  | badVersion => "unsupported version"
  | badHeaderLen => "header_len != 32"
  | badKind => "unknown message kind"
  | badLayout => "unknown layout_version"
  | outOfBounds => "offset+length exceeds data"
  | missingNul => "string not NUL-terminated"
  | badAlignment => "item not 8-byte aligned"
  | badItemCount => "item count inconsistent"
  | overflow => "builder out of space"
  | handlerFailed => "dispatch handler failed"
  | timeout => "synchronous call timed out"
  | aborted => "synchronous call aborted"

/-- The `Debug` text. -/
def debug : NipcError → String
  | truncated => "Truncated"
  | badMagic => "BadMagic"
  | badVersion => "BadVersion"
  | badHeaderLen => "BadHeaderLen"
  | badKind => "BadKind"
  | badLayout => "BadLayout"
  | outOfBounds => "OutOfBounds"
  | missingNul => "MissingNul"
  | badAlignment => "BadAlignment"
  | badItemCount => "BadItemCount"
  | overflow => "Overflow"
  | handlerFailed => "HandlerFailed"
  | timeout => "Timeout"
  | aborted => "Aborted"

end NipcError

/-! ### Constants -/

def magicMsg : UInt32 := 0x4e495043
def magicChunk : UInt32 := 0x4e43484b
def version : UInt16 := 1
def headerLen : UInt16 := 32
def headerSize : Nat := 32

def kindRequest : UInt16 := 1
def kindResponse : UInt16 := 2
def kindControl : UInt16 := 3

def flagBatch : UInt16 := 0x0001

def statusOk : UInt16 := 0
def statusBadEnvelope : UInt16 := 1
def statusAuthFailed : UInt16 := 2
def statusIncompatible : UInt16 := 3
def statusUnsupported : UInt16 := 4
def statusLimitExceeded : UInt16 := 5
def statusInternalError : UInt16 := 6

def methodCgroupsLookup : UInt16 := 4
def methodAppsLookup : UInt16 := 5

def maxPayloadDefault : UInt32 := 1024
def maxPayloadCap : UInt32 := 1024 * 1024

/-! ### Outer message header -/

/-- `Header`. -/
structure Header where
  magic : UInt32 := 0
  version : UInt16 := 0
  headerLen : UInt16 := 0
  kind : UInt16 := 0
  flags : UInt16 := 0
  code : UInt16 := 0
  transportStatus : UInt16 := 0
  payloadLen : UInt32 := 0
  itemCount : UInt32 := 0
  messageId : UInt64 := 0
  deriving Repr, DecidableEq

namespace Header

/-- `Header::encode`. -/
def encode (hdr : Header) : Prog NipcError Bytes Nat := do
  let buf ← Prog.get
  if buf.length < headerSize then
    return 0
  else
    putU32 0 hdr.magic
    putU16 4 hdr.version
    putU16 6 hdr.headerLen
    putU16 8 hdr.kind
    putU16 10 hdr.flags
    putU16 12 hdr.code
    putU16 14 hdr.transportStatus
    putU32 16 hdr.payloadLen
    putU32 20 hdr.itemCount
    putU64 24 hdr.messageId
    return headerSize

/-- `Header::decode`. -/
def decode (buf : Bytes) : Res NipcError Header := do
  rejectIf (buf.length < headerSize) .truncated
  let hdr : Header := {
    magic := ← u32At buf 0
    version := ← u16At buf 4
    headerLen := ← u16At buf 6
    kind := ← u16At buf 8
    flags := ← u16At buf 10
    code := ← u16At buf 12
    transportStatus := ← u16At buf 14
    payloadLen := ← u32At buf 16
    itemCount := ← u32At buf 20
    messageId := ← u64At buf 24 }
  rejectIf (hdr.magic ≠ magicMsg) .badMagic
  rejectIf (hdr.version ≠ NetIpc.version) .badVersion
  rejectIf (hdr.headerLen ≠ NetIpc.headerLen) .badHeaderLen
  rejectIf (hdr.kind < kindRequest ∨ hdr.kind > kindControl) .badKind
  return hdr

/-- The bytes of a header. -/
def image (hdr : Header) : Bytes :=
  leBytes 4 hdr.magic.toNat ++ leBytes 2 hdr.version.toNat ++ leBytes 2 hdr.headerLen.toNat ++
    leBytes 2 hdr.kind.toNat ++ leBytes 2 hdr.flags.toNat ++ leBytes 2 hdr.code.toNat ++
    leBytes 2 hdr.transportStatus.toNat ++ leBytes 4 hdr.payloadLen.toNat ++
    leBytes 4 hdr.itemCount.toNat ++ leBytes 8 hdr.messageId.toNat

@[simp] theorem length_image (hdr : Header) : hdr.image.length = 32 := by
  simp [image]

/-- Encoding writes the image over the first 32 bytes. -/
theorem run_encode (hdr : Header) (buf : Bytes) (room : 32 ≤ buf.length) :
    hdr.encode.run buf = (.ok headerSize, hdr.image ++ buf.drop 32) := by
  unfold encode
  rw [Prog.run_bind_ok (Prog.run_get buf), if_neg (by rw [headerSize]; omega)]
  rw [show buf = [] ++ buf from rfl]
  simp (disch := simp <;> omega) only [putU16, putU32, putU64, run_bind_write]
  simp [image, List.drop_drop]

/-- The fields a well-formed header must have; the others are free. -/
structure WellFormed (hdr : Header) : Prop where
  magic : hdr.magic = magicMsg
  version : hdr.version = NetIpc.version
  headerLen : hdr.headerLen = NetIpc.headerLen
  kind : kindRequest ≤ hdr.kind ∧ hdr.kind ≤ kindControl

/-- What is decoded is well formed. -/
theorem wellFormed_of_decode {buf : Bytes} {hdr : Header} (decoded : decode buf = .ok hdr) :
    hdr.WellFormed := by
  -- The length check and the ten fields.
  iterate 11 obtain ⟨_, -, decoded⟩ := bind_eq_ok decoded
  obtain ⟨magic, decoded⟩ := guard_eq_ok decoded
  obtain ⟨version, decoded⟩ := guard_eq_ok decoded
  obtain ⟨headerLen, decoded⟩ := guard_eq_ok decoded
  obtain ⟨kind, decoded⟩ := guard_eq_ok decoded
  cases decoded
  have kind := not_or.mp kind
  exact ⟨not_not.mp magic, not_not.mp version,
    not_not.mp headerLen, UInt16.not_lt.mp kind.1, UInt16.not_lt.mp kind.2⟩

/-- Decoding gets a well-formed header back, whatever follows it. -/
theorem decode_image (hdr : Header) (rest : Bytes) (wellFormed : hdr.WellFormed) :
    decode (hdr.image ++ rest) = .ok hdr := by
  have long : 32 ≤ (hdr.image ++ rest).length := by
    rw [List.length_append, length_image]
    omega
  unfold decode
  rw [rejectIf_of_not (by rw [headerSize]; omega), u32At_of_le (by omega), u16At_of_le (by omega),
    u16At_of_le (by omega), u16At_of_le (by omega), u16At_of_le (by omega), u16At_of_le (by omega),
    u16At_of_le (by omega), u32At_of_le (by omega), u32At_of_le (by omega), u64At_of_le (by omega)]
  simp (disch := omega) only [image, List.append_assoc, slice_leBytes_skip, slice_leBytes_take,
    Nat.sub_self, Nat.reduceSub, u16_leBytes, u32_leBytes, u64_leBytes, ok_bind]
  rw [rejectIf_of_not (not_not_intro wellFormed.magic),
    rejectIf_of_not (not_not_intro wellFormed.version),
    rejectIf_of_not (not_not_intro wellFormed.headerLen), rejectIf_of_not]
  · rfl
  · rintro (below | above)
    · exact absurd wellFormed.kind.1 (UInt16.not_le.mpr below)
    · exact absurd wellFormed.kind.2 (UInt16.not_le.mpr above)

end Header

/-! ### Chunk continuation header -/

/-- `ChunkHeader`. -/
structure ChunkHeader where
  magic : UInt32 := 0
  version : UInt16 := 0
  flags : UInt16 := 0
  messageId : UInt64 := 0
  totalMessageLen : UInt32 := 0
  chunkIndex : UInt32 := 0
  chunkCount : UInt32 := 0
  chunkPayloadLen : UInt32 := 0
  deriving Repr, DecidableEq

namespace ChunkHeader

/-- `ChunkHeader::encode`. -/
def encode (chk : ChunkHeader) : Prog NipcError Bytes Nat := do
  let buf ← Prog.get
  if buf.length < headerSize then
    return 0
  else
    putU32 0 chk.magic
    putU16 4 chk.version
    putU16 6 chk.flags
    putU64 8 chk.messageId
    putU32 16 chk.totalMessageLen
    putU32 20 chk.chunkIndex
    putU32 24 chk.chunkCount
    putU32 28 chk.chunkPayloadLen
    return headerSize

/-- `ChunkHeader::decode`. -/
def decode (buf : Bytes) : Res NipcError ChunkHeader := do
  rejectIf (buf.length < headerSize) .truncated
  let chk : ChunkHeader := {
    magic := ← u32At buf 0
    version := ← u16At buf 4
    flags := ← u16At buf 6
    messageId := ← u64At buf 8
    totalMessageLen := ← u32At buf 16
    chunkIndex := ← u32At buf 20
    chunkCount := ← u32At buf 24
    chunkPayloadLen := ← u32At buf 28 }
  rejectIf (chk.magic ≠ magicChunk) .badMagic
  rejectIf (chk.version ≠ NetIpc.version) .badVersion
  rejectIf (chk.flags ≠ 0) .badLayout
  rejectIf (chk.chunkPayloadLen = 0) .badLayout
  return chk

/-- The bytes of a chunk header. -/
def image (chk : ChunkHeader) : Bytes :=
  leBytes 4 chk.magic.toNat ++ leBytes 2 chk.version.toNat ++ leBytes 2 chk.flags.toNat ++
    leBytes 8 chk.messageId.toNat ++ leBytes 4 chk.totalMessageLen.toNat ++
    leBytes 4 chk.chunkIndex.toNat ++ leBytes 4 chk.chunkCount.toNat ++
    leBytes 4 chk.chunkPayloadLen.toNat

@[simp] theorem length_image (chk : ChunkHeader) : chk.image.length = 32 := by
  simp [image]

/-- Encoding writes the image over the first 32 bytes. -/
theorem run_encode (chk : ChunkHeader) (buf : Bytes) (room : 32 ≤ buf.length) :
    chk.encode.run buf = (.ok headerSize, chk.image ++ buf.drop 32) := by
  unfold encode
  rw [Prog.run_bind_ok (Prog.run_get buf), if_neg (by rw [headerSize]; omega)]
  rw [show buf = [] ++ buf from rfl]
  simp (disch := simp <;> omega) only [putU16, putU32, putU64, run_bind_write]
  simp [image, List.drop_drop]

/-- The fields a well-formed chunk header must have; the others are free. -/
structure WellFormed (chk : ChunkHeader) : Prop where
  magic : chk.magic = magicChunk
  version : chk.version = NetIpc.version
  flags : chk.flags = 0
  chunkPayloadLen : chk.chunkPayloadLen ≠ 0

/-- Decoding gets a well-formed chunk header back, whatever follows it. -/
theorem decode_image (chk : ChunkHeader) (rest : Bytes) (wellFormed : chk.WellFormed) :
    decode (chk.image ++ rest) = .ok chk := by
  have long : 32 ≤ (chk.image ++ rest).length := by
    rw [List.length_append, length_image]
    omega
  unfold decode
  rw [rejectIf_of_not (by rw [headerSize]; omega), u32At_of_le (by omega), u16At_of_le (by omega),
    u16At_of_le (by omega), u64At_of_le (by omega), u32At_of_le (by omega),
    u32At_of_le (by omega), u32At_of_le (by omega), u32At_of_le (by omega)]
  simp (disch := omega) only [image, List.append_assoc, slice_leBytes_skip, slice_leBytes_take,
    Nat.sub_self, Nat.reduceSub, u16_leBytes, u32_leBytes, u64_leBytes, ok_bind]
  rw [rejectIf_of_not (not_not_intro wellFormed.magic),
    rejectIf_of_not (not_not_intro wellFormed.version),
    rejectIf_of_not (not_not_intro wellFormed.flags), rejectIf_of_not wellFormed.chunkPayloadLen]
  rfl

/-- A chunk without data is not accepted. -/
theorem chunkPayloadLen_of_decode {buf : Bytes} {chk : ChunkHeader}
    (decoded : decode buf = .ok chk) : chk.chunkPayloadLen ≠ 0 := by
  -- The length check, the eight fields, and the three checks before the one on the data.
  iterate 12 obtain ⟨_, -, decoded⟩ := bind_eq_ok decoded
  obtain ⟨carries, decoded⟩ := guard_eq_ok decoded
  cases decoded
  exact carries

end ChunkHeader

end NetIpc
