/-
This file models the lookup payload that both lookup methods share: a 16-byte
header, a directory of `(offset, length)` entries and 8-aligned items.

A response is read by `decodeLookupResponse`, which validates the directory and
decodes every item, and is written in two ways: item by item by a builder, or
from raw items by `encode_raw_response`. Both leave absolute offsets in the
directory and end in `finish_lookup_response`, which makes them relative. The
bytes they leave are `responseImage`, and the reader accepts exactly the raw
items it was made from.
-/

import NetIpc.Labels

namespace NetIpc

variable {α : Type}

/-! ### Reading -/

/-- `checked_subslice`. -/
def checkedSubslice (buf : Bytes) (base offset len : Nat) : Res NipcError Bytes := do
  let start ← okOr (checkedAdd base offset) .outOfBounds
  let stop ← okOr (checkedAdd start len) .outOfBounds
  rejectIf (stop > buf.length) .outOfBounds
  return slice buf start len

/-- The length rule of a directory entry: an exact length, or else a minimum. -/
def checkEntryLen (len minLen : Nat) (exactLen : Option Nat) : Res NipcError Unit :=
  match exactLen with
  | some exact => rejectIf (len ≠ exact) .badLayout
  | none => rejectIf (len < minLen) .badLayout

/-- One pass of the loop of `validate_lookup_dir`; the value is the end of the item before. -/
def validateDirEntry (buf : Bytes) (dirStart packedAreaLen minLen : Nat) (exactLen : Option Nat)
    (index prevEnd : Nat) : Res NipcError Nat := do
  let base := dirStart + index * lookupDirEntrySize
  let off ← u32At buf base
  let len ← u32At buf (base + 4)
  rejectIf (off.toNat % 8 ≠ 0) .badAlignment
  checkEntryLen len.toNat minLen exactLen
  let stop ← okOr (checkedAdd off.toNat len.toNat) .outOfBounds
  rejectIf (stop > packedAreaLen) .outOfBounds
  rejectIf (index > 0 ∧ off.toNat < prevEnd) .badLayout
  return stop

/-- `validate_lookup_dir`. -/
def validateLookupDir (buf : Bytes) (dirStart : Nat) (itemCount : UInt32)
    (packedAreaLen minLen : Nat) (exactLen : Option Nat) : Res NipcError Unit := do
  let dirSize ← okOr (checkedMul itemCount.toNat lookupDirEntrySize) .badItemCount
  let dirEnd ← okOr (checkedAdd dirStart dirSize) .badItemCount
  rejectIf (dirEnd > buf.length) .truncated
  let _ ← forFrom (validateDirEntry buf dirStart packedAreaLen minLen exactLen) 0 itemCount.toNat 0
  return ()

/-- `lookup_data_offset`. -/
def lookupDataOffset (hdrSize : Nat) (itemCount : UInt32) : Res NipcError Nat :=
  okOr ((checkedMul itemCount.toNat lookupDirEntrySize).bind (checkedAdd hdrSize ·)) .badItemCount

/-- `lookup_dir_entry_offset`. -/
def lookupDirEntryOffset (hdrSize : Nat) (index : UInt32) : Res NipcError Nat :=
  lookupDataOffset hdrSize index

/-- `response_raw_item`. -/
def responseRawItem (payload : Bytes) (hdrSize : Nat) (itemCount index : UInt32) :
    Res NipcError Bytes := do
  rejectIf (index ≥ itemCount) .outOfBounds
  let packedStart ← lookupDataOffset hdrSize itemCount
  let base ← lookupDirEntryOffset hdrSize index
  let off ← u32At payload base
  let len ← u32At payload (base + 4)
  checkedSubslice payload packedStart off.toNat len.toNat

/-- `CgroupsLookupResponseView` and `AppsLookupResponseView`. -/
structure LookupResponseView where
  layoutVersion : UInt16
  flags : UInt16
  itemCount : UInt32
  generation : UInt64
  payload : Bytes
  deriving Repr, DecidableEq

/-- The part of a lookup method the payload depends on: the smallest item and its decoder. -/
structure ItemCodec (α : Type) where
  itemHdrSize : Nat
  decodeItem : Bytes → Res NipcError α

def lookupRespHdrSize : Nat := 16

/-- `decode` of the two response views. -/
def decodeLookupResponse (codec : ItemCodec α) (buf : Bytes) :
    Res NipcError LookupResponseView := do
  rejectIf (buf.length < lookupRespHdrSize) .truncated
  let layoutVersion ← u16At buf 0
  let flags ← u16At buf 2
  rejectIf (layoutVersion ≠ 1 ∨ flags ≠ 0) .badLayout
  let itemCount ← u32At buf 4
  let dirSize ← okOr (checkedMul itemCount.toNat lookupDirEntrySize) .badItemCount
  let dirEnd ← okOr (checkedAdd lookupRespHdrSize dirSize) .badItemCount
  rejectIf (dirEnd > buf.length) .truncated
  validateLookupDir buf lookupRespHdrSize itemCount (buf.length - dirEnd) codec.itemHdrSize none
  forFrom (fun index _ => do
    let base := lookupRespHdrSize + index * lookupDirEntrySize
    let off ← u32At buf base
    let len ← u32At buf (base + 4)
    let item ← checkedSubslice buf dirEnd off.toNat len.toNat
    let _ ← codec.decodeItem item
    return ()) 0 itemCount.toNat ()
  let generation ← u64At buf 8
  return ⟨1, 0, itemCount, generation, buf⟩

namespace LookupResponseView

/-- `raw_item` of the two response views. -/
def rawItem (view : LookupResponseView) (index : UInt32) : Res NipcError Bytes :=
  responseRawItem view.payload lookupRespHdrSize view.itemCount index

/-- `item` of the two response views. -/
def item (codec : ItemCodec α) (view : LookupResponseView) (index : UInt32) : Res NipcError α := do
  rejectIf (index ≥ view.itemCount) .outOfBounds
  let packedStart ← lookupDataOffset lookupRespHdrSize view.itemCount
  let base ← lookupDirEntryOffset lookupRespHdrSize index
  let off ← u32At view.payload base
  let len ← u32At view.payload (base + 4)
  let item ← checkedSubslice view.payload packedStart off.toNat len.toNat
  codec.decodeItem item

end LookupResponseView

/-! ### Writing -/

/-- One pass of the loop of `finish_lookup_response`: an absolute offset becomes relative. -/
def relocateEntry (hdrSize firstItemAbs index : Nat) : Prog NipcError Bytes Unit := do
  let entryOffset ← Prog.ofRes (okOr (checkedMul index lookupDirEntrySize) .overflow)
  let entry ← Prog.ofRes (okOr (checkedAdd hdrSize entryOffset) .overflow)
  let buf ← Prog.get
  let abs ← Prog.ofRes (u32At buf entry)
  let rel ← Prog.ofRes (okOr (checkedSub abs.toNat firstItemAbs) .overflow)
  putU32 entry (← Prog.ofRes (checkedU32 rel))

/-- The compaction of `finish_lookup_response`. -/
def compactItems (finalPackedStart firstItemAbs packedDataLen : Nat) : Prog NipcError Bytes Unit :=
  if finalPackedStart < firstItemAbs then do
    let copyEnd ← Prog.ofRes (okOr (checkedAdd firstItemAbs packedDataLen) .overflow)
    let buf ← Prog.get
    Prog.ofRes (rejectIf (copyEnd > buf.length) .overflow)
    let destEnd ← Prog.ofRes (okOr (checkedAdd finalPackedStart packedDataLen) .overflow)
    Prog.ofRes (rejectIf (destEnd > buf.length) .overflow)
    copyWithin firstItemAbs copyEnd finalPackedStart
  else pure ()

/-- `finish_lookup_response`. -/
def finishLookupResponse (hdrSize : Nat) (itemCount : UInt32) (dataOffset : Nat)
    (generation : UInt64) : Prog NipcError Bytes Nat := do
  putU16 0 1
  putU16 2 0
  putU32 4 itemCount
  putU64 8 generation
  if itemCount = 0 then
    return hdrSize
  else
    let finalPackedStart ← Prog.ofRes (okOr ((checkedMul itemCount.toNat lookupDirEntrySize).bind
      (checkedAdd hdrSize ·)) .overflow)
    let buf ← Prog.get
    let firstItemAbs ← Prog.ofRes (u32At buf hdrSize)
    let packedDataLen ← Prog.ofRes (okOr (checkedSub dataOffset firstItemAbs.toNat) .overflow)
    compactItems finalPackedStart firstItemAbs.toNat packedDataLen
    Prog.forRange (relocateEntry hdrSize firstItemAbs.toNat) 0 itemCount.toNat
    Prog.ofRes (okOr (checkedAdd finalPackedStart packedDataLen) .overflow)

/-- The loop of `encode_raw_response`, from item `index` on. -/
def encodeRawFrom (codec : ItemCodec α) (hdrSize : Nat) :
    Nat → Nat → List Bytes → Prog NipcError Bytes Nat
  | _, dataOffset, [] => pure dataOffset
  | index, dataOffset, item :: rest => do
    Prog.ofRes (rejectIf (item.length < codec.itemHdrSize) .badLayout)
    let _ ← Prog.ofRes (codec.decodeItem item)
    let itemStart := align8 dataOffset
    let itemEnd ← Prog.ofRes (okOr (checkedAdd itemStart item.length) .overflow)
    let buf ← Prog.get
    Prog.ofRes (rejectIf (itemEnd > buf.length) .overflow)
    (if itemStart > dataOffset then fillZero dataOffset itemStart else pure ())
    write itemStart item
    let dir ← Prog.ofRes (do
      let dirOffset ← okOr (checkedMul index lookupDirEntrySize) .overflow
      okOr (checkedAdd hdrSize dirOffset) .overflow)
    putU32 dir (← Prog.ofRes (checkedU32 itemStart))
    putU32 (dir + 4) (← Prog.ofRes (checkedU32 item.length))
    encodeRawFrom codec hdrSize (index + 1) itemEnd rest

/-- `encode_raw_response`. -/
def encodeRawResponse (codec : ItemCodec α) (hdrSize : Nat) (generation : UInt64)
    (items : List Bytes) : Prog NipcError Bytes Nat := do
  let itemCount ← Prog.ofRes (checkedU32 items.length)
  let dataOffset ← Prog.ofRes (lookupDataOffset hdrSize itemCount)
  let buf ← Prog.get
  Prog.ofRes (rejectIf (buf.length < dataOffset) .overflow)
  let dataOffset ← encodeRawFrom codec hdrSize 0 dataOffset items
  finishLookupResponse hdrSize itemCount dataOffset generation

/-! ### Small facts about the readers -/

/-- Where the entry of an index stands, or where the directory of a count ends. -/
theorem dirOffset_eq (count : Nat) :
    lookupRespHdrSize + count * lookupDirEntrySize = 16 + 8 * count := by
  rw [lookupRespHdrSize, lookupDirEntrySize, Nat.mul_comm]

theorem lookupDataOffset_eq (itemCount : UInt32) :
    lookupDataOffset lookupRespHdrSize itemCount = .ok (16 + 8 * itemCount.toNat) := by
  have bound := itemCount.toNat_lt
  rw [lookupDataOffset, lookupDirEntrySize, lookupRespHdrSize,
    checkedMul_of_le (by rw [usizeMax]; omega), Option.bind_some,
    okOr_checkedAdd (by omega), Nat.mul_comm]

theorem lookupDirEntryOffset_eq (index : UInt32) :
    lookupDirEntryOffset lookupRespHdrSize index = .ok (16 + 8 * index.toNat) :=
  lookupDataOffset_eq index

variable {buf : Bytes} {codec : ItemCodec α} {view : LookupResponseView}

theorem checkedSubslice_of_le {base offset len : Nat} (inside : base + offset + len ≤ buf.length)
    (small : base + offset + len ≤ usizeMax) :
    checkedSubslice buf base offset len = .ok (slice buf (base + offset) len) := by
  rw [checkedSubslice, checkedAdd_of_le (by omega), okOr_some, ok_bind, checkedAdd_of_le small,
    okOr_some, ok_bind, rejectIf_of_not (by omega)]
  rfl

theorem checkedSubslice_eq_ok {part : Bytes} {base offset len : Nat}
    (ran : checkedSubslice buf base offset len = .ok part) :
    base + offset + len ≤ buf.length ∧ part = slice buf (base + offset) len := by
  rw [checkedSubslice] at ran
  obtain ⟨-, ran⟩ := add_eq_ok ran
  obtain ⟨-, ran⟩ := add_eq_ok ran
  obtain ⟨inside, ran⟩ := guard_eq_ok ran
  exact ⟨not_lt.mp inside, (Except.ok.inj ran).symm⟩

/-- An entry of an accepted directory keeps the length rule. -/
theorem validateLookupDir_entry {dirStart packedAreaLen minLen : Nat} {itemCount : UInt32}
    {exactLen : Option Nat}
    (accepted : validateLookupDir buf dirStart itemCount packedAreaLen minLen exactLen = .ok ())
    (index : Nat) (below : index < itemCount.toNat) :
    ∃ len : UInt32, (u32At buf (dirStart + index * lookupDirEntrySize + 4) : Res NipcError UInt32) =
      .ok len ∧ checkEntryLen len.toNat minLen exactLen = .ok () := by
  rw [validateLookupDir] at accepted
  iterate 3 obtain ⟨_, -, accepted⟩ := bind_eq_ok accepted
  obtain ⟨_, loop, -⟩ := bind_eq_ok accepted
  obtain ⟨before, after, pass⟩ := forFrom_eq_ok loop index (Nat.zero_le _)
    (by rw [Nat.zero_add]; exact below)
  rw [validateDirEntry] at pass
  obtain ⟨_, -, pass⟩ := bind_eq_ok pass
  obtain ⟨len, read, pass⟩ := bind_eq_ok pass
  obtain ⟨_, -, pass⟩ := bind_eq_ok pass
  obtain ⟨_, rule, -⟩ := bind_eq_ok pass
  exact ⟨len, read, rule⟩

/-- A decoded response is the header it was read from with the payload. -/
theorem decodeLookupResponse_eq_ok (decoded : decodeLookupResponse codec buf = .ok view) :
    view.payload = buf ∧ view.layoutVersion = 1 ∧ view.flags = 0 ∧
      ∀ index < view.itemCount.toNat, ∃ off len item value,
        (u32At buf (16 + 8 * index) : Res NipcError UInt32) = .ok off ∧
        (u32At buf (16 + 8 * index + 4) : Res NipcError UInt32) = .ok len ∧
        checkedSubslice buf (16 + 8 * view.itemCount.toNat) off.toNat len.toNat = .ok item ∧
        codec.decodeItem item = .ok value := by
  rw [decodeLookupResponse] at decoded
  iterate 4 obtain ⟨_, -, decoded⟩ := bind_eq_ok decoded
  obtain ⟨itemCount, -, decoded⟩ := bind_eq_ok decoded
  obtain ⟨-, decoded⟩ := mul_eq_ok decoded
  obtain ⟨-, decoded⟩ := add_eq_ok decoded
  iterate 2 obtain ⟨_, -, decoded⟩ := bind_eq_ok decoded
  obtain ⟨_, loop, decoded⟩ := bind_eq_ok decoded
  obtain ⟨_, -, decoded⟩ := bind_eq_ok decoded
  obtain rfl := Except.ok.inj decoded
  refine ⟨rfl, rfl, rfl, fun index below => ?_⟩
  have pass := (forFrom_unit_eq_ok _ 0 itemCount.toNat).mp loop index (Nat.zero_le _)
    (by rw [Nat.zero_add]; exact below)
  obtain ⟨off, readOff, pass⟩ := bind_eq_ok pass
  obtain ⟨len, readLen, pass⟩ := bind_eq_ok pass
  obtain ⟨item, part, pass⟩ := bind_eq_ok pass
  obtain ⟨value, accepted, -⟩ := bind_eq_ok pass
  rw [dirOffset_eq] at readOff readLen part
  exact ⟨off, len, item, value, readOff, readLen, part, accepted⟩

/-- Every item of a decoded response can be taken raw, and decodes. -/
theorem decodeLookupResponse_item (decoded : decodeLookupResponse codec buf = .ok view)
    (index : UInt32) (below : index < view.itemCount) :
    ∃ bytes value, view.rawItem index = .ok bytes ∧ codec.decodeItem bytes = .ok value ∧
      view.item codec index = .ok value := by
  obtain ⟨payload, -, -, items⟩ := decodeLookupResponse_eq_ok decoded
  obtain ⟨off, len, item, value, readOff, readLen, part, accepted⟩ :=
    items index.toNat (UInt32.lt_iff_toNat_lt.mp below)
  have inside : ¬ index ≥ view.itemCount := UInt32.not_le.mpr below
  refine ⟨item, value, ?_, accepted, ?_⟩
  · rw [LookupResponseView.rawItem, responseRawItem, guard_bind inside, lookupDataOffset_eq,
      ok_bind, lookupDirEntryOffset_eq, ok_bind, payload, readOff, ok_bind, readLen, ok_bind, part]
  · rw [LookupResponseView.item, guard_bind inside, lookupDataOffset_eq, ok_bind,
      lookupDirEntryOffset_eq, ok_bind, payload, readOff, ok_bind, readLen, ok_bind, part, ok_bind,
      accepted]

/-! ### The bytes of a response -/

/-- The response header. -/
def responseHeader (generation : UInt64) (count : Nat) : Bytes :=
  leBytes 2 1 ++ leBytes 2 0 ++ leBytes 4 count ++ leBytes 8 generation.toNat

/-- A response with relative directory offsets. -/
def responseImage (generation : UInt64) (items : List Bytes) : Bytes :=
  responseHeader generation items.length ++ (dirImage (entriesFrom 0 items) ++ packFrom 0 items)

@[simp] theorem length_responseHeader (generation : UInt64) (count : Nat) :
    (responseHeader generation count).length = 16 := by
  simp [responseHeader]

theorem length_responseImage (generation : UInt64) (items : List Bytes) :
    (responseImage generation items).length = 16 + 8 * items.length + endFrom 0 items := by
  have packed := length_packFrom 0 items
  simp only [responseImage, List.length_append, length_responseHeader, length_dirImage,
    length_entriesFrom]
  omega

/-- The fields of the header of a response. -/
theorem header_responseImage (generation : UInt64) (items : List Bytes) :
    (u16At (responseImage generation items) 0 : Res NipcError UInt16) = .ok 1 ∧
      (u16At (responseImage generation items) 2 : Res NipcError UInt16) = .ok 0 ∧
      (u32At (responseImage generation items) 4 : Res NipcError UInt32) =
        .ok (UInt32.ofNat items.length) ∧
      (u64At (responseImage generation items) 8 : Res NipcError UInt64) = .ok generation := by
  have total := length_responseImage generation items
  rw [u16At_of_le (by omega), u16At_of_le (by omega), u32At_of_le (by omega),
    u64At_of_le (by omega)]
  simp (disch := omega) only [responseImage, responseHeader, List.append_assoc,
    slice_leBytes_skip, slice_leBytes_take, Nat.sub_self, Nat.reduceSub, u32_ofNat_leBytes,
    u64_leBytes]
  exact ⟨rfl, rfl, trivial, trivial⟩

/-- A response that is accepted has the count and the generation it was made with. -/
theorem view_of_responseImage {generation : UInt64} {items : List Bytes}
    (decoded : decodeLookupResponse codec (responseImage generation items) = .ok view) :
    view.itemCount = UInt32.ofNat items.length ∧ view.generation = generation ∧
      view.payload = responseImage generation items := by
  obtain ⟨-, -, count, reported⟩ := header_responseImage generation items
  rw [decodeLookupResponse] at decoded
  iterate 4 obtain ⟨_, -, decoded⟩ := bind_eq_ok decoded
  rw [count, ok_bind] at decoded
  iterate 5 obtain ⟨_, -, decoded⟩ := bind_eq_ok decoded
  rw [reported, ok_bind] at decoded
  cases decoded
  exact ⟨rfl, rfl, rfl⟩

/-- The numbers of the directory fit its fields. -/
structure Representable (items : List Bytes) : Prop where
  count : items.length < 2 ^ 32
  entry : ∀ entry ∈ entriesFrom 0 items, entry.1 < 2 ^ 32 ∧ entry.2 < 2 ^ 32

section Image

variable {items : List Bytes} (representable : Representable items) (generation : UInt64)

include representable

theorem Representable.length_lt (item : Bytes) (member : item ∈ items) : item.length < 2 ^ 32 := by
  obtain ⟨index, found⟩ := List.getElem?_of_mem member
  exact (AbsRepresentable.at representable.entry found).2

/-- The directory entry of an item. -/
theorem readEntry_image (index : Nat) (item : Bytes) (found : items[index]? = some item) :
    (u32At (responseImage generation items) (16 + 8 * index) : Res NipcError UInt32) =
        .ok (UInt32.ofNat (posFrom 0 items index)) ∧
      (u32At (responseImage generation items) (16 + 8 * index + 4) : Res NipcError UInt32) =
        .ok (UInt32.ofNat item.length) ∧
      (UInt32.ofNat (posFrom 0 items index)).toNat = posFrom 0 items index ∧
      (UInt32.ofNat item.length).toNat = item.length := by
  obtain ⟨positionSmall, lengthSmall⟩ := AbsRepresentable.at representable.entry found
  have entry := u32At_entry (ε := NipcError) (responseHeader generation items.length)
    (packFrom 0 items) 0 found
  rw [length_responseHeader] at entry
  exact ⟨entry.1, entry.2, toNat_ofNat32 positionSmall, toNat_ofNat32 lengthSmall⟩

/-- The bytes a directory entry points at are the item. -/
theorem subslice_image (index : Nat) (item : Bytes) (found : items[index]? = some item) :
    checkedSubslice (responseImage generation items) (16 + 8 * items.length)
      (posFrom 0 items index) item.length = .ok item := by
  have inside := posFrom_add_le 0 items index item found
  have count := representable.count
  obtain ⟨positionSmall, lengthSmall⟩ := AbsRepresentable.at representable.entry found
  rw [checkedSubslice_of_le (by rw [length_responseImage]; omega) (by rw [usizeMax]; omega)]
  have part := slice_packed (responseHeader generation items.length) [] found
  rw [length_responseHeader, List.append_nil] at part
  rw [responseImage, part]

theorem validateLookupDir_image (minLen : Nat) (exactLen : Option Nat)
    (long : ∀ item ∈ items, checkEntryLen item.length minLen exactLen = .ok ()) :
    validateLookupDir (responseImage generation items) lookupRespHdrSize
      (UInt32.ofNat items.length) (endFrom 0 items) minLen exactLen = .ok () := by
  have count := toNat_ofNat32 representable.count
  have few := representable.count
  have loop := forFrom_of_step
    (validateDirEntry (responseImage generation items) lookupRespHdrSize (endFrom 0 items) minLen
      exactLen) (fun index => endFrom 0 (items.take index)) 0 items.length fun index _ high => by
    have found := List.getElem?_eq_getElem (show index < items.length by omega)
    obtain ⟨readOff, readLen, off, len⟩ := readEntry_image representable generation index _ found
    obtain ⟨positionSmall, lengthSmall⟩ := AbsRepresentable.at representable.entry found
    have inside := posFrom_add_le 0 items index _ found
    have next : endFrom 0 (items.take (index + 1)) =
        posFrom 0 items index + (items[index]).length := by
      rw [List.take_add_one, found, endFrom_append]
      rfl
    have ordered : endFrom 0 (items.take index) ≤ posFrom 0 items index := le_align8 _
    have longEnough := long _ (List.mem_of_getElem? found)
    simp only [validateDirEntry]
    rw [dirOffset_eq, readOff, ok_bind, readLen, ok_bind, off, len,
      guard_bind (not_not_intro (posFrom_mod 0 items index)), longEnough, ok_bind,
      add_bind (by omega), guard_bind (by omega), guard_bind (by omega), next]
    rfl
  rw [validateLookupDir, count, lookupDirEntrySize, mul_bind (by omega),
    add_bind (by rw [lookupRespHdrSize]; omega),
    guard_bind (by rw [length_responseImage, lookupRespHdrSize]; omega)]
  rw [show forFrom (validateDirEntry (responseImage generation items) lookupRespHdrSize
    (endFrom 0 items) minLen exactLen) 0 items.length 0 = .ok _ from loop]
  rfl

/-- The reader accepts a response whose items decode. -/
theorem decodeLookupResponse_image (codec : ItemCodec α)
    (long : ∀ item ∈ items, codec.itemHdrSize ≤ item.length)
    (decodes : ∀ item ∈ items, ∃ value, codec.decodeItem item = .ok value) :
    decodeLookupResponse codec (responseImage generation items) =
      .ok ⟨1, 0, UInt32.ofNat items.length, generation, responseImage generation items⟩ := by
  have count := toNat_ofNat32 representable.count
  have few := representable.count
  have total := length_responseImage generation items
  have header := header_responseImage generation items
  rw [decodeLookupResponse, guard_bind (by rw [total, lookupRespHdrSize]; omega),
    header.1, ok_bind, header.2.1, ok_bind, guard_bind (by simp), header.2.2.1, ok_bind, count,
    mul_bind (by rw [lookupDirEntrySize]; omega), add_bind (by rw [dirOffset_eq]; omega),
    dirOffset_eq, guard_bind (by omega), total, Nat.add_sub_cancel_left,
    validateLookupDir_image representable generation _ none fun item member =>
      rejectIf_of_not (not_lt.mpr (long item member)), ok_bind, header.2.2.2]
  refine bind_of_ok ((forFrom_unit_eq_ok _ _ _).mpr fun index _ high => ?_)
  have found := List.getElem?_eq_getElem (show index < items.length by omega)
  obtain ⟨readOff, readLen, off, len⟩ := readEntry_image representable generation index _ found
  obtain ⟨value, accepted⟩ := decodes _ (List.mem_of_getElem? found)
  dsimp only
  rw [dirOffset_eq, readOff, ok_bind, readLen, ok_bind, off, len,
    subslice_image representable generation index _ found, ok_bind, accepted]
  rfl

/-- An item of the decoded response, raw and decoded. -/
theorem item_image (codec : ItemCodec α) (index : Nat) (item : Bytes)
    (found : items[index]? = some item) (view : LookupResponseView)
    (counted : view.itemCount = UInt32.ofNat items.length)
    (payload : view.payload = responseImage generation items) :
    view.rawItem (UInt32.ofNat index) = .ok item ∧
      view.item codec (UInt32.ofNat index) = codec.decodeItem item := by
  obtain ⟨bound, -⟩ := List.getElem?_eq_some_iff.mp found
  have count := toNat_ofNat32 representable.count
  have few := representable.count
  have indexed : (UInt32.ofNat index).toNat = index := toNat_ofNat32 (by omega)
  have inside : ¬ UInt32.ofNat index ≥ UInt32.ofNat items.length := by
    rw [ge_iff_le, UInt32.le_iff_toNat_le, count, indexed]
    omega
  obtain ⟨readOff, readLen, off, len⟩ := readEntry_image representable generation index _ found
  constructor
  · rw [LookupResponseView.rawItem, responseRawItem, counted, guard_bind inside,
      lookupDataOffset_eq, ok_bind, lookupDirEntryOffset_eq, ok_bind, indexed, count, payload,
      readOff, ok_bind, readLen, ok_bind, off, len,
      subslice_image representable generation index _ found]
  · rw [LookupResponseView.item, counted, guard_bind inside, lookupDataOffset_eq,
      ok_bind, lookupDirEntryOffset_eq, ok_bind, indexed, count, payload, readOff, ok_bind, readLen,
      ok_bind, off, len, subslice_image representable generation index _ found, ok_bind]

end Image

/-! ### Finishing a response -/

theorem AbsRepresentable.representable {origin : Nat} {items : List Bytes}
    (aligned : origin % 8 = 0) (count : items.length < 2 ^ 32)
    (absolute : AbsRepresentable origin items) : Representable items where
  count := count
  entry := absolute.relative aligned

/-- The relocation loop takes the start of the packed area off every offset. -/
theorem run_relocate (origin : Nat) (items : List Bytes) (head rest : Bytes)
    (headLength : head.length = 16) (aligned : origin % 8 = 0)
    (count : items.length < 2 ^ 32) (absolute : AbsRepresentable origin items) :
    (Prog.forRange (relocateEntry 16 origin) 0 items.length).run
        (head ++ (dirImage (entriesFrom origin items) ++ rest)) =
      (.ok (), head ++ (dirImage (entriesFrom 0 items) ++ rest)) := by
  refine run_rebase _ origin items head rest aligned absolute ?_
  intro index offset before after below offsetSmall start
  rw [headLength] at start
  simp only [relocateEntry]
  rw [Prog.mul_bind (by rw [lookupDirEntrySize]; omega), lookupDirEntrySize, Nat.mul_comm index 8,
    Prog.add_bind (by omega), Prog.run_bind_ok (Prog.run_get _), u32At_split _ _ rfl start,
    Prog.ofRes_ok_bind, UInt32.toNat_ofNat_of_lt' offsetSmall, checkedSub_of_le (by omega),
    okOr_some, Prog.ofRes_ok_bind, Nat.add_sub_cancel_left, checkedU32_of_lt (by omega),
    Prog.ofRes_ok_bind, run_putU32_ofNat (by omega) (by simp; omega),
    splice_middle _ _ _ _ _ start (by simp)]

/-- The compaction leaves the items right behind the used part of the directory. -/
theorem run_compactItems (max : Nat) (items : List Bytes) (head slots tail : Bytes)
    (headLength : head.length = 16) (few : items.length ≤ max)
    (slotsLength : slots.length = 8 * (max - items.length))
    (small : 16 + 8 * max + endFrom 0 items ≤ usizeMax) :
    ∃ rest, (compactItems (16 + 8 * items.length) (16 + 8 * max) (endFrom 0 items)).run
        (head ++ (dirImage (entriesFrom (16 + 8 * max) items) ++
          (slots ++ (packFrom 0 items ++ tail)))) =
      (.ok (), head ++ (dirImage (entriesFrom (16 + 8 * max) items) ++
        (packFrom 0 items ++ rest))) := by
  have packed := length_packFrom 0 items
  have length : (head ++ (dirImage (entriesFrom (16 + 8 * max) items) ++
      (slots ++ (packFrom 0 items ++ tail)))).length =
      16 + 8 * max + endFrom 0 items + tail.length := by
    simp only [List.length_append, length_dirImage, length_entriesFrom]
    omega
  unfold compactItems
  by_cases moves : 16 + 8 * items.length < 16 + 8 * max
  · refine ⟨(slots ++ (packFrom 0 items ++ tail)).drop (packFrom 0 items).length, ?_⟩
    rw [if_pos moves, checkedAdd_of_le small, okOr_some, Prog.ofRes_ok_bind,
      Prog.run_bind_ok (Prog.run_get _), Prog.guard_bind (by omega), checkedAdd_of_le (by omega),
      okOr_some, Prog.ofRes_ok_bind, Prog.guard_bind (by omega),
      run_moveDown _ items head slots tail headLength few slotsLength]
  · have none : slots = [] := List.length_eq_zero_iff.mp (by omega)
    rw [if_neg moves, none]
    exact ⟨tail, rfl⟩

/-- Finishing a container: its bytes become a response. -/
theorem run_finishLookupResponse (max : Nat) (buf tail : Bytes) (items : List Bytes)
    (generation : UInt64) (laid : Laid 16 max (16 + 8 * max) buf items tail)
    (count : items.length < 2 ^ 32) (absolute : AbsRepresentable (16 + 8 * max) items) :
    ∃ rest, (finishLookupResponse lookupRespHdrSize (UInt32.ofNat items.length)
        (16 + 8 * max + endFrom 0 items) generation).run buf =
      (.ok (16 + 8 * items.length + endFrom 0 items), responseImage generation items ++ rest) := by
  have length := laid.length
  have few := laid.count
  have counted := toNat_ofNat32 count
  obtain ⟨head, slots, headLength, slotsLength, split⟩ := laid.split
  have body : buf.drop 16 = dirImage (entriesFrom (16 + 8 * max) items) ++
      (slots ++ (packFrom 0 items ++ tail)) := by
    rw [split]
    simp only [List.append_assoc]
    exact List.drop_left' headLength
  unfold finishLookupResponse
  rw [show buf = [] ++ buf from rfl]
  simp (disch := simp <;> omega) only [putU16, putU32, putU64, run_bind_write]
  simp only [List.nil_append, List.drop_drop, length_leBytes, Nat.reduceAdd, counted, body]
  rw [show leBytes 2 (UInt16.toNat 1) ++ leBytes 2 (UInt16.toNat 0) ++ leBytes 4 items.length ++
    leBytes 8 generation.toNat = responseHeader generation items.length from rfl]
  by_cases empty : items = []
  · subst empty
    refine ⟨slots ++ tail, ?_⟩
    rw [if_pos (show UInt32.ofNat ([] : List Bytes).length = 0 from rfl), Prog.run_pure]
    simp only [responseImage, entriesFrom, dirImage, packFrom, List.nil_append, List.append_nil,
      endFrom, List.length_nil]
    rfl
  · have some : UInt32.ofNat items.length ≠ 0 := by
      intro zero
      rw [zero] at counted
      exact empty (List.length_eq_zero_iff.mp counted.symm)
    have aligned : (16 + 8 * max) % 8 = 0 := by omega
    -- The first entry holds the start of the packed area, and the last one bounds its end.
    have found := List.getElem?_eq_getElem (List.length_pos_of_ne_nil empty)
    have first : posFrom (16 + 8 * max) items 0 = 16 + 8 * max := align8_of_mod _ aligned
    have firstSmall := (absolute.at found).1
    rw [first] at firstSmall
    obtain ⟨last, member, ends⟩ := endFrom_eq_last (16 + 8 * max) items empty
    have lastSmall := absolute last member
    rw [endFrom_base _ items aligned] at ends
    obtain ⟨rest, compacted⟩ := run_compactItems max items (responseHeader generation items.length)
      slots tail (length_responseHeader _ _) few slotsLength (by rw [usizeMax]; omega)
    have relocated := run_relocate (16 + 8 * max) items (responseHeader generation items.length)
      (packFrom 0 items ++ rest) (length_responseHeader _ _) aligned count absolute
    have readFirst := (u32At_entry (ε := NipcError) (responseHeader generation items.length)
      (slots ++ (packFrom 0 items ++ tail)) (16 + 8 * max) found).1
    rw [length_responseHeader, Nat.mul_zero, Nat.add_zero, first] at readFirst
    have dirEnd : items.length * lookupDirEntrySize = 8 * items.length := Nat.mul_comm _ _
    refine ⟨rest, ?_⟩
    rw [if_neg some, checkedMul_of_le (by rw [dirEnd, usizeMax]; omega), Option.bind_some, dirEnd,
      lookupRespHdrSize, Prog.add_bind (by omega), Prog.run_bind_ok (Prog.run_get _), readFirst,
      Prog.ofRes_ok_bind, toNat_ofNat32 (by omega), checkedSub_of_le (by omega), okOr_some,
      Prog.ofRes_ok_bind, Nat.add_sub_cancel_left, Prog.run_bind_ok compacted,
      Prog.run_bind_ok relocated, okOr_checkedAdd (by omega), Prog.run_ofRes, responseImage]
    simp only [List.append_assoc]

/-! ### A response from raw items -/

section RawItems

variable (codec : ItemCodec α) (max : Nat)

/-- What `encode_raw_response` needs of an item, written after `items`. -/
structure RawFits (size : Nat) (items : List Bytes) (item : Bytes) : Prop where
  long : codec.itemHdrSize ≤ item.length
  decodes : ∃ value, codec.decodeItem item = .ok value
  room : 16 + 8 * max + align8 (endFrom 0 items) + item.length ≤ size
  small : 16 + 8 * max + align8 (endFrom 0 items) + item.length ≤ usizeMax
  startSmall : 16 + 8 * max + align8 (endFrom 0 items) < 2 ^ 32
  sizeSmall : item.length < 2 ^ 32

/-- One pass of the loop pushes one item. -/
theorem run_encodeRawFrom_cons (buf tail : Bytes) (items : List Bytes) (item : Bytes)
    (rest : List Bytes) (laid : Laid 16 max (16 + 8 * max) buf items tail)
    (more : items.length < max) (few : max < 2 ^ 32)
    (fits : RawFits codec max buf.length items item) :
    (encodeRawFrom codec 16 items.length (16 + 8 * max + endFrom 0 items) (item :: rest)).run buf =
      (encodeRawFrom codec 16 (items ++ [item]).length
        (16 + 8 * max + endFrom 0 (items ++ [item])) rest).run
        (pushImage 16 max (16 + 8 * max) buf items item) := by
  have up := le_align8 (endFrom 0 items)
  obtain ⟨value, accepted⟩ := fits.decodes
  have start : align8 (16 + 8 * max + endFrom 0 items) =
      16 + 8 * max + align8 (endFrom 0 items) := align8_add _ _ (by omega)
  have next : endFrom 0 (items ++ [item]) = align8 (endFrom 0 items) + item.length := by
    rw [endFrom_append]
    rfl
  have written := laid.run_push (ε := NipcError) item more fits.room fits.startSmall fits.sizeSmall
    (16 + 8 * max + align8 (endFrom 0 items) > 16 + 8 * max + endFrom 0 items) (by omega)
  have dirOffset : items.length * lookupDirEntrySize = 8 * items.length := Nat.mul_comm _ _
  have long := fits.long
  have room := fits.room
  simp only [encodeRawFrom]
  rw [next, List.length_append, List.length_singleton, start, Prog.guard_bind (by omega), accepted,
    Prog.ofRes_ok_bind, checkedAdd_of_le fits.small, okOr_some, Prog.ofRes_ok_bind,
    Prog.run_bind_ok (Prog.run_get _), Prog.guard_bind (by omega),
    mul_bind (by rw [dirOffset]; omega), dirOffset, okOr_checkedAdd (by omega),
    checkedU32_of_lt fits.startSmall, checkedU32_of_lt fits.sizeSmall]
  simp only [Prog.ofRes_ok_bind]
  have sequence : (_ >>= fun _ => encodeRawFrom codec 16 (items.length + 1)
    (16 + 8 * max + align8 (endFrom 0 items) + item.length) rest).run buf = _ :=
    Prog.run_bind_ok written
  simp only [bind_assoc] at sequence
  rw [sequence, Nat.add_assoc]

/-- A pass that does not fail needed all of it. -/
theorem rawFits_of_run (buf final : Bytes) (items : List Bytes) (item : Bytes) (rest : List Bytes)
    (result : Nat) (ran : (encodeRawFrom codec 16 items.length (16 + 8 * max + endFrom 0 items)
      (item :: rest)).run buf = (.ok result, final)) :
    RawFits codec max buf.length items item := by
  have start : align8 (16 + 8 * max + endFrom 0 items) =
      16 + 8 * max + align8 (endFrom 0 items) := align8_add _ _ (by omega)
  simp only [encodeRawFrom] at ran
  rw [start] at ran
  obtain ⟨long, ran⟩ := Prog.run_guard_eq_ok ran
  obtain ⟨value, decodes, ran⟩ := Prog.run_ofRes_bind_eq_ok ran
  obtain ⟨small, ran⟩ := Prog.run_add_eq_ok ran
  rw [Prog.run_bind_ok (Prog.run_get _)] at ran
  obtain ⟨room, ran⟩ := Prog.run_guard_eq_ok ran
  obtain ⟨_, _, -, ran⟩ := Prog.run_bind_eq_ok ran
  obtain ⟨_, _, -, ran⟩ := Prog.run_bind_eq_ok ran
  obtain ⟨_, -, ran⟩ := Prog.run_ofRes_bind_eq_ok ran
  obtain ⟨_, startSmall, ran⟩ := Prog.run_ofRes_bind_eq_ok ran
  obtain ⟨_, _, -, ran⟩ := Prog.run_bind_eq_ok ran
  obtain ⟨_, sizeSmall, -⟩ := Prog.run_ofRes_bind_eq_ok ran
  exact ⟨not_lt.mp long, ⟨value, decodes⟩, not_lt.mp room, small,
    (checkedU32_eq_ok startSmall).1, (checkedU32_eq_ok sizeSmall).1⟩

/-- The whole loop, when it does not fail. -/
theorem encodeRawFrom_eq_ok (rest : List Bytes) (buf tail final : Bytes) (items : List Bytes)
    (result : Nat) (laid : Laid 16 max (16 + 8 * max) buf items tail)
    (absolute : AbsRepresentable (16 + 8 * max) items)
    (all : items.length + rest.length ≤ max) (few : max < 2 ^ 32)
    (ran : (encodeRawFrom codec 16 items.length (16 + 8 * max + endFrom 0 items) rest).run buf =
      (.ok result, final)) :
    (∃ tail, Laid 16 max (16 + 8 * max) final (items ++ rest) tail) ∧
      AbsRepresentable (16 + 8 * max) (items ++ rest) ∧
      result = 16 + 8 * max + endFrom 0 (items ++ rest) ∧
      ∀ item ∈ rest,
        codec.itemHdrSize ≤ item.length ∧ ∃ value, codec.decodeItem item = .ok value := by
  induction rest generalizing buf tail items with
  | nil =>
    cases ran
    rw [List.append_nil]
    exact ⟨⟨tail, laid⟩, absolute, rfl, fun _ member => absurd member List.not_mem_nil⟩
  | cons item rest ih =>
    have fits := rawFits_of_run codec max buf final items item rest result ran
    rw [List.length_cons] at all
    rw [run_encodeRawFrom_cons codec max buf tail items item rest laid (by omega) few fits] at ran
    obtain ⟨finished, represented, size, accepted⟩ :=
      ih _ _ (items ++ [item]) (laid.push item (by omega) (by omega))
        (absRepresentable_push absolute (by omega) fits.startSmall fits.sizeSmall)
        (by rw [List.length_append, List.length_singleton]; omega) ran
    rw [List.append_assoc, List.singleton_append] at finished represented size
    refine ⟨finished, represented, size, fun other member => ?_⟩
    rcases List.mem_cons.mp member with rfl | member
    · exact ⟨fits.long, fits.decodes⟩
    · exact accepted other member

end RawItems

/-- `encode_raw_response`, when it does not fail, writes the response of its items. -/
theorem encodeRawResponse_eq_ok (codec : ItemCodec α) (generation : UInt64) (items : List Bytes)
    (buf final : Bytes) (result : Nat)
    (ran : (encodeRawResponse codec lookupRespHdrSize generation items).run buf =
      (.ok result, final)) :
    ∃ rest, final = responseImage generation items ++ rest ∧
      result = (responseImage generation items).length ∧ Representable items ∧
      ∀ item ∈ items, codec.itemHdrSize ≤ item.length ∧
        ∃ value, codec.decodeItem item = .ok value := by
  simp only [encodeRawResponse] at ran
  obtain ⟨_, counted, ran⟩ := Prog.run_ofRes_bind_eq_ok ran
  obtain ⟨count, rfl⟩ := checkedU32_eq_ok counted
  have toNat := toNat_ofNat32 count
  rw [lookupDataOffset_eq, Prog.ofRes_ok_bind, toNat, Prog.run_bind_ok (Prog.run_get _)] at ran
  obtain ⟨room, ran⟩ := Prog.run_guard_eq_ok ran
  obtain ⟨offset, filled, encoded, ran⟩ := Prog.run_bind_eq_ok ran
  have start := Laid.start 16 items.length (16 + 8 * items.length) buf (not_lt.mp room)
  obtain ⟨⟨tail, laid⟩, absolute, rfl, accepted⟩ := encodeRawFrom_eq_ok codec items.length items
    buf _ filled [] offset start (absRepresentable_nil _)
    (by rw [List.length_nil]; omega) count encoded
  rw [List.nil_append] at laid absolute ran
  obtain ⟨rest, finished⟩ := run_finishLookupResponse items.length filled tail items generation
    laid count absolute
  rw [finished] at ran
  cases ran
  exact ⟨rest, rfl, (length_responseImage generation items).symm,
    absolute.representable (by omega) count, accepted⟩

end NetIpc
