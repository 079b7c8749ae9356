/-
This file models the cgroups snapshot codec (`protocol/cgroups_snapshot.rs`): the
request, the response view with its item accessor, and `CgroupsBuilder`.

The builder reserves a directory for `max_items` entries, packs the items behind
it with absolute offsets, and in `finish` moves the items down over the unused
slots and makes the offsets relative. Its buffer is a `Laid` container with a
24-byte header, so one successful `add` is one `Laid.push`, and what `finish`
leaves is `snapshotImage`, from which the view reads every item back. The caller
of the builder is a `Script`: it chooses its next call from the results of
the calls before.
-/

import NetIpc.Labels

namespace NetIpc.Snapshot

/-! ### The request -/

def cgroupsReqSize : Nat := 4
def cgroupsRespHdrSize : Nat := 24
def cgroupsDirEntrySize : Nat := 8
def cgroupsItemHdrSize : Nat := 32

/-- `CgroupsRequest`. -/
structure CgroupsRequest where
  layoutVersion : UInt16
  flags : UInt16
  deriving Repr, DecidableEq

/-- `CgroupsRequest::decode`. -/
def CgroupsRequest.decode (buf : Bytes) : Res NipcError CgroupsRequest := do
  rejectIf (buf.length < cgroupsReqSize) .truncated
  let layoutVersion ← u16At buf 0
  let flags ← u16At buf 2
  rejectIf (layoutVersion ≠ 1) .badLayout
  rejectIf (flags ≠ 0) .badLayout
  return ⟨layoutVersion, flags⟩

/-! ### The response view -/

/-- `CgroupsItemView`. -/
structure CgroupsItemView where
  layoutVersion : UInt16
  flags : UInt16
  hash : UInt32
  options : UInt32
  enabled : UInt32
  name : StrView
  path : StrView
  deriving Repr, DecidableEq

/-- `CgroupsResponseView`. -/
structure CgroupsResponseView where
  layoutVersion : UInt16
  flags : UInt16
  itemCount : UInt32
  systemdEnabled : UInt32
  generation : UInt64
  payload : Bytes
  deriving Repr, DecidableEq

/-- One pass of the directory loop of `CgroupsResponseView::decode`. -/
def checkSnapshotEntry (buf : Bytes) (packedAreaLen index : Nat) : Res NipcError Unit := do
  let base := cgroupsRespHdrSize + index * 8
  let off ← u32At buf base
  let len ← u32At buf (base + 4)
  rejectIf (off.toNat % 8 ≠ 0) .badAlignment
  rejectIf (off.toNat + len.toNat > packedAreaLen) .outOfBounds
  rejectIf (len.toNat < cgroupsItemHdrSize) .truncated

/-- One string of an item: its range and its NUL. -/
def checkItemString (item : Bytes) (itemLen off len : Nat) : Res NipcError Unit := do
  rejectIf (off < cgroupsItemHdrSize) .outOfBounds
  rejectIf (off + len + 1 > itemLen) .outOfBounds
  let last ← readByte item (off + len)
  rejectIf (last ≠ 0) .missingNul

/-- The part of `CgroupsResponseView::item` that reads the item's own bytes. -/
def decodeSnapshotItem (item : Bytes) (itemLen : Nat) : Res NipcError CgroupsItemView := do
  let layoutVersion ← u16At item 0
  let flags ← u16At item 2
  let hash ← u32At item 4
  let options ← u32At item 8
  let enabled ← u32At item 12
  let nameOff ← u32At item 16
  let nameLen ← u32At item 20
  let pathOff ← u32At item 24
  let pathLen ← u32At item 28
  rejectIf (layoutVersion ≠ 1) .badLayout
  rejectIf (flags ≠ 0) .badLayout
  checkItemString item itemLen nameOff.toNat nameLen.toNat
  checkItemString item itemLen pathOff.toNat pathLen.toNat
  rejectIf (overlap nameOff.toNat (nameOff.toNat + nameLen.toNat + 1) pathOff.toNat
    (pathOff.toNat + pathLen.toNat + 1) = true) .badLayout
  let name ← readSlice item nameOff.toNat (nameOff.toNat + nameLen.toNat + 1)
  let path ← readSlice item pathOff.toNat (pathOff.toNat + pathLen.toNat + 1)
  return ⟨layoutVersion, flags, hash, options, enabled, ⟨name, nameLen⟩, ⟨path, pathLen⟩⟩

namespace CgroupsResponseView

/-- `CgroupsResponseView::decode`. -/
def decode (buf : Bytes) : Res NipcError CgroupsResponseView := do
  rejectIf (buf.length < cgroupsRespHdrSize) .truncated
  let layoutVersion ← u16At buf 0
  let flags ← u16At buf 2
  let itemCount ← u32At buf 4
  let systemdEnabled ← u32At buf 8
  let reserved ← u32At buf 12
  let generation ← u64At buf 16
  rejectIf (layoutVersion ≠ 1) .badLayout
  rejectIf (flags ≠ 0) .badLayout
  rejectIf (reserved ≠ 0) .badLayout
  let dirSize ← okOr (checkedMul itemCount.toNat cgroupsDirEntrySize) .badLayout
  let dirEnd ← okOr (checkedAdd cgroupsRespHdrSize dirSize) .badLayout
  rejectIf (dirEnd > buf.length) .truncated
  forFrom (fun index _ => checkSnapshotEntry buf (buf.length - dirEnd) index) 0 itemCount.toNat ()
  return ⟨layoutVersion, flags, itemCount, systemdEnabled, generation, buf⟩

/-- `CgroupsResponseView::item`. -/
def item (view : CgroupsResponseView) (index : UInt32) : Res NipcError CgroupsItemView := do
  rejectIf (index ≥ view.itemCount) .outOfBounds
  let packedAreaStart := cgroupsRespHdrSize + view.itemCount.toNat * cgroupsDirEntrySize
  let dirBase := cgroupsRespHdrSize + index.toNat * 8
  let itemOff ← u32At view.payload dirBase
  let itemLen ← u32At view.payload (dirBase + 4)
  let itemStart := packedAreaStart + itemOff.toNat
  let item ← readSlice view.payload itemStart (itemStart + itemLen.toNat)
  decodeSnapshotItem item itemLen.toNat

end CgroupsResponseView

/-! ### The builder -/

/-- The arguments of one `add`. -/
structure Item where
  hash : UInt32
  options : UInt32
  enabled : UInt32
  name : Bytes
  path : Bytes
  deriving Repr, DecidableEq

/-- `CgroupsBuilder`. -/
structure CgroupsBuilder where
  buf : Bytes
  systemdEnabled : UInt32
  generation : UInt64
  itemCount : UInt32
  maxItems : UInt32
  dataOffset : Nat
  deriving Repr, DecidableEq

namespace CgroupsBuilder

/-- `CgroupsBuilder::new`; the assertion on the size of the buffer is a panic. -/
def new (buf : Bytes) (maxItems systemdEnabled : UInt32) (generation : UInt64) :
    Res NipcError CgroupsBuilder :=
  let dirSize := min (maxItems.toNat * cgroupsDirEntrySize) usizeMax
  let minRequired := min (cgroupsRespHdrSize + dirSize) usizeMax
  if buf.length ≥ minRequired then
    .ok ⟨buf, systemdEnabled, generation, 0, maxItems, minRequired⟩
  else .error .panic

/-- Work on the builder's buffer. -/
def onBuf {α : Type} (program : Prog NipcError Bytes α) : Prog NipcError CgroupsBuilder α :=
  Prog.zoom (fun builder => builder.buf) (fun buf builder => { builder with buf }) program

/-- `CgroupsBuilder::set_header`. -/
def setHeader (systemdEnabled : UInt32) (generation : UInt64) :
    Prog NipcError CgroupsBuilder Unit :=
  Prog.modify fun self => { self with systemdEnabled, generation }

/-- The writes of `CgroupsBuilder::add` at the item's place. -/
def writeItem (item : Item) (p : Nat) (nameOffset nameLen pathOffset pathLen : UInt32) :
    Prog NipcError Bytes Unit := do
  putU16 p 1
  putU16 (p + 2) 0
  putU32 (p + 4) item.hash
  putU32 (p + 8) item.options
  putU32 (p + 12) item.enabled
  putU32 (p + 16) nameOffset
  putU32 (p + 20) nameLen
  putU32 (p + 24) pathOffset
  putU32 (p + 28) pathLen
  write (p + nameOffset.toNat) item.name
  write (p + nameOffset.toNat + item.name.length) [0]
  write (p + pathOffset.toNat) item.path
  write (p + pathOffset.toNat + item.path.length) [0]

/-- `CgroupsBuilder::add`. -/
def add (item : Item) : Prog NipcError CgroupsBuilder Unit := do
  let self ← Prog.get
  Prog.ofRes (rejectIf (self.itemCount ≥ self.maxItems) .overflow)
  let itemStart := align8 self.dataOffset
  let itemSize ← Prog.ofRes (okOr ((((checkedAdd cgroupsItemHdrSize item.name.length).bind
    (checkedAdd · 1)).bind (checkedAdd · item.path.length)).bind (checkedAdd · 1)) .overflow)
  let itemEnd ← Prog.ofRes (okOr (checkedAdd itemStart itemSize) .overflow)
  Prog.ofRes (rejectIf (itemEnd > self.buf.length) .overflow)
  let itemStart ← Prog.ofRes (checkedU32 itemStart)
  let itemSize ← Prog.ofRes (checkedU32 itemSize)
  let nameOffset ← Prog.ofRes (checkedU32 cgroupsItemHdrSize)
  let nameLen ← Prog.ofRes (checkedU32 item.name.length)
  let pathOffset ← Prog.ofRes (okOr ((checkedAdd cgroupsItemHdrSize item.name.length).bind
    (checkedAdd · 1)) .overflow)
  let pathOffset ← Prog.ofRes (checkedU32 pathOffset)
  let pathLen ← Prog.ofRes (checkedU32 item.path.length)
  let dirEntry := cgroupsRespHdrSize + self.itemCount.toNat * cgroupsDirEntrySize
  onBuf (do
    (if itemStart.toNat > self.dataOffset then fillZero self.dataOffset itemStart.toNat
      else pure ())
    writeItem item itemStart.toNat nameOffset nameLen pathOffset pathLen
    putU32 dirEntry itemStart
    putU32 (dirEntry + 4) itemSize)
  Prog.modify fun self =>
    { self with
      dataOffset := itemStart.toNat + itemSize.toNat
      itemCount := self.itemCount + 1 }

/-- The header writes of `CgroupsBuilder::finish`. -/
def putResponseHeader (itemCount systemdEnabled : UInt32) (generation : UInt64) :
    Prog NipcError Bytes Unit := do
  putU16 0 1
  putU16 2 0
  putU32 4 itemCount
  putU32 8 systemdEnabled
  putU32 12 0
  putU64 16 generation

/-- One pass of the loop of `CgroupsBuilder::finish`: an absolute offset becomes relative. -/
def rebaseEntry (firstItemAbs index : Nat) : Prog NipcError Bytes Unit := do
  let entry := cgroupsRespHdrSize + index * cgroupsDirEntrySize
  let buf ← Prog.get
  let absOff ← Prog.ofRes (u32At buf entry)
  let relOff ← Prog.ofRes (subOrPanic absOff.toNat firstItemAbs)
  putU32 entry (UInt32.ofNat relOff)

/-- `CgroupsBuilder::finish`. -/
def finish : Prog NipcError CgroupsBuilder Nat := do
  let self ← Prog.get
  onBuf (if self.itemCount = 0 then do
    putResponseHeader 0 self.systemdEnabled self.generation
    return cgroupsRespHdrSize
  else do
    let finalPackedStart := cgroupsRespHdrSize + self.itemCount.toNat * cgroupsDirEntrySize
    let buf ← Prog.get
    let firstItemAbs ← Prog.ofRes (u32At buf cgroupsRespHdrSize)
    let packedDataLen ← Prog.ofRes (subOrPanic self.dataOffset firstItemAbs.toNat)
    (if finalPackedStart < firstItemAbs.toNat then
      copyWithin firstItemAbs.toNat (firstItemAbs.toNat + packedDataLen) finalPackedStart
      else pure ())
    Prog.forRange (rebaseEntry firstItemAbs.toNat) 0 self.itemCount.toNat
    putResponseHeader self.itemCount self.systemdEnabled self.generation
    return finalPackedStart + packedDataLen)

end CgroupsBuilder

/-- What a caller does with a builder: it makes calls, chooses the next one from what the last
one returned, and ends with a verdict. -/
inductive Script where
  | done (accepted : Bool)
  | setHeader (systemdEnabled : UInt32) (generation : UInt64) (next : Script)
  | add (item : Item) (next : Except NipcError Unit → Script)

/-- One call that was made, an `add` with its result. -/
inductive Call where
  | setHeader (systemdEnabled : UInt32) (generation : UInt64)
  | add (item : Item) (result : Except NipcError Unit)
  deriving Repr, DecidableEq

/-- Make the calls of a script; the result is the calls made and the verdict. -/
def Script.perform : Script → Prog NipcError CgroupsBuilder (List Call × Bool)
  | .done accepted => pure ([], accepted)
  | .setHeader systemdEnabled generation next => do
    CgroupsBuilder.setHeader systemdEnabled generation
    let (calls, accepted) ← next.perform
    return (.setHeader systemdEnabled generation :: calls, accepted)
  | .add item next => Prog.inspect (CgroupsBuilder.add item) fun
    | .ok () => do
      let (calls, accepted) ← (next (.ok ())).perform
      return (.add item (.ok ()) :: calls, accepted)
    | .error (.err error) => do
      let (calls, accepted) ← (next (.error error)).perform
      return (.add item (.error error) :: calls, accepted)
    | .error reason => Prog.stop reason

/-- The items whose `add` succeeded, in order. -/
def addedItems : List Call → List Item
  | [] => []
  | .add item (.ok ()) :: rest => item :: addedItems rest
  | _ :: rest => addedItems rest

/-- The header fields set last. -/
def lastHeader : UInt32 × UInt64 → List Call → UInt32 × UInt64
  | header, [] => header
  | _, .setHeader systemdEnabled generation :: rest => lastHeader (systemdEnabled, generation) rest
  | header, .add _ _ :: rest => lastHeader header rest

/-! ### The bytes of a snapshot -/

/-- The bytes of an item's header. -/
def Item.words (item : Item) : Bytes :=
  leBytes 2 1 ++ leBytes 2 0 ++ leBytes 4 item.hash.toNat ++ leBytes 4 item.options.toNat ++
    leBytes 4 item.enabled.toNat ++ leBytes 4 32 ++ leBytes 4 item.name.length ++
    leBytes 4 (33 + item.name.length) ++ leBytes 4 item.path.length

/-- The bytes of an item. -/
def Item.image (item : Item) : Bytes :=
  item.words ++ (item.name ++ [0]) ++ (item.path ++ [0])

/-- The length of an item: its header and two strings with their NULs. -/
def Item.size (item : Item) : Nat := 34 + item.name.length + item.path.length

variable (item : Item)

@[simp] theorem Item.length_words : item.words.length = 32 := by
  simp [words]

@[simp] theorem Item.length_image : item.image.length = item.size := by
  simp only [image, size, List.length_append, length_words, List.length_singleton]
  omega

theorem Item.slice_image {off len : Nat} (inside : off + len ≤ 32) :
    slice item.image off len = slice item.words off len := by
  rw [image, List.append_assoc,
    slice_append_left _ _ _ _ (by rw [length_words]; exact inside)]

/-- The bytes of the response header. -/
def snapshotHeader (systemdEnabled : UInt32) (generation : UInt64) (count : Nat) : Bytes :=
  leBytes 2 1 ++ leBytes 2 0 ++ leBytes 4 count ++ leBytes 4 systemdEnabled.toNat ++ leBytes 4 0 ++
    leBytes 8 generation.toNat

variable (systemdEnabled : UInt32) (generation : UInt64)

@[simp] theorem length_snapshotHeader (count : Nat) :
    (snapshotHeader systemdEnabled generation count).length = 24 := by
  simp [snapshotHeader]

/-- The bytes of a finished snapshot of raw items. -/
def snapshotImage (systemdEnabled : UInt32) (generation : UInt64) (items : List Bytes) : Bytes :=
  snapshotHeader systemdEnabled generation items.length ++
    (dirImage (entriesFrom 0 items) ++ packFrom 0 items)

theorem length_snapshotImage (items : List Bytes) :
    (snapshotImage systemdEnabled generation items).length =
      24 + 8 * items.length + endFrom 0 items := by
  have packed := length_packFrom 0 items
  simp only [snapshotImage, List.length_append, length_snapshotHeader, length_dirImage,
    length_entriesFrom]
  omega

theorem slice_snapshotImage (items : List Bytes) {off len : Nat} (inside : off + len ≤ 24) :
    slice (snapshotImage systemdEnabled generation items) off len =
      slice (snapshotHeader systemdEnabled generation items.length) off len :=
  slice_append_left _ _ _ _ (by rw [length_snapshotHeader]; exact inside)

/-! ### What one `add` does -/

namespace CgroupsBuilder

/-- What an `add` needs of the builder it is called on. -/
structure Room (builder : CgroupsBuilder) (item : Item) : Prop where
  count : builder.itemCount < builder.maxItems
  inside : align8 builder.dataOffset + item.size ≤ builder.buf.length
  startSmall : align8 builder.dataOffset < 2 ^ 32
  sizeSmall : item.size < 2 ^ 32

/-- The builder's buffer of `total` bytes holds `items` behind a directory for `limit`. -/
structure Holds (total : Nat) (limit : UInt32) (items : List Bytes)
    (builder : CgroupsBuilder) : Prop where
  length : builder.buf.length = total
  maxItems : builder.maxItems = limit
  few : items.length ≤ limit.toNat
  itemCount : builder.itemCount = UInt32.ofNat items.length
  dataOffset : builder.dataOffset = 24 + 8 * limit.toNat + endFrom 0 items
  laid : ∃ tail, Laid 24 limit.toNat (24 + 8 * limit.toNat) builder.buf items tail
  absolute : AbsRepresentable (24 + 8 * limit.toNat) items

variable {builder : CgroupsBuilder}

theorem Holds.toNat_itemCount {total : Nat} {limit : UInt32} {items : List Bytes}
    (holds : Holds total limit items builder) : builder.itemCount.toNat = items.length := by
  rw [holds.itemCount]
  exact UInt32.toNat_ofNat_of_lt' (lt_of_le_of_lt holds.few limit.toNat_lt)

/-- `new` panics exactly when the header and the directory do not fit. -/
theorem new_eq (buf : Bytes) (maxItems systemdEnabled : UInt32) (generation : UInt64) :
    new buf maxItems systemdEnabled generation =
      if 24 + 8 * maxItems.toNat ≤ buf.length then
        .ok ⟨buf, systemdEnabled, generation, 0, maxItems, 24 + 8 * maxItems.toNat⟩
      else .error .panic := by
  have bound := maxItems.toNat_lt
  have required : min (cgroupsRespHdrSize + min (maxItems.toNat * cgroupsDirEntrySize) usizeMax)
      usizeMax = 24 + 8 * maxItems.toNat := by
    rw [cgroupsRespHdrSize, cgroupsDirEntrySize, usizeMax]
    omega
  simp only [new, required, ge_iff_le]

theorem new_holds (buf : Bytes) (maxItems systemdEnabled : UInt32) (generation : UInt64)
    (room : 24 + 8 * maxItems.toNat ≤ buf.length) :
    Holds buf.length maxItems []
      ⟨buf, systemdEnabled, generation, 0, maxItems, 24 + 8 * maxItems.toNat⟩ where
  length := rfl
  maxItems := rfl
  few := Nat.zero_le _
  itemCount := rfl
  dataOffset := rfl
  laid := ⟨_, Laid.start 24 maxItems.toNat _ buf room⟩
  absolute := absRepresentable_nil _

theorem run_onBuf {α : Type} {program : Prog NipcError Bytes α} {result : Res NipcError α}
    {after : Bytes} (ran : program.run builder.buf = (result, after)) :
    (onBuf program).run builder = (result, { builder with buf := after }) := by
  rw [onBuf, Prog.run_zoom, ran]

/-- The size computation of `add`. -/
theorem okOr_size (item : Item) :
    (okOr ((((checkedAdd cgroupsItemHdrSize item.name.length).bind (checkedAdd · 1)).bind
      (checkedAdd · item.path.length)).bind (checkedAdd · 1)) .overflow : Res NipcError Nat) =
      if item.size ≤ usizeMax then .ok item.size else .error (.err .overflow) := by
  have sum : cgroupsItemHdrSize + item.name.length + 1 + item.path.length + 1 = item.size := by
    rw [cgroupsItemHdrSize, Item.size]
    omega
  rw [checkedAdd_bind, checkedAdd_bind, checkedAdd_bind, checkedAdd, sum]
  split <;> rfl

/-- An `add` without room returns `Overflow` and changes nothing. -/
theorem add_refused (builder : CgroupsBuilder) (item : Item) (full : ¬ builder.Room item) :
    (add item).run builder = (.error (.err .overflow), builder) := by
  simp only [add]
  rw [Prog.run_bind_ok (Prog.run_get builder)]
  by_cases count : builder.itemCount ≥ builder.maxItems
  · rw [rejectIf_of count]
    rfl
  rw [Prog.guard_bind count, okOr_size]
  by_cases sized : item.size ≤ usizeMax
  swap
  · rw [if_neg sized]
    rfl
  rw [if_pos sized, Prog.ofRes_ok_bind]
  by_cases ends : align8 builder.dataOffset + item.size ≤ usizeMax
  swap
  · rw [checkedAdd, if_neg ends]
    rfl
  rw [checkedAdd_of_le ends, okOr_some, Prog.ofRes_ok_bind]
  by_cases inside : align8 builder.dataOffset + item.size > builder.buf.length
  · rw [rejectIf_of inside]
    rfl
  rw [Prog.guard_bind inside]
  by_cases startSmall : align8 builder.dataOffset < 2 ^ 32
  swap
  · rw [checkedU32, if_neg startSmall]
    rfl
  rw [checkedU32_of_lt startSmall, Prog.ofRes_ok_bind]
  by_cases sizeSmall : item.size < 2 ^ 32
  swap
  · rw [checkedU32, if_neg sizeSmall]
    rfl
  exact absurd ⟨UInt32.not_le.mp count, not_lt.mp inside, startSmall, sizeSmall⟩ full

/-- The item's writes are one write of its image. -/
theorem run_writeItem (item : Item) (p : Nat) (buf : Bytes)
    (inside : p + item.size ≤ buf.length) (sizeSmall : item.size < 2 ^ 32) :
    (writeItem item p 32 (UInt32.ofNat item.name.length) (UInt32.ofNat (33 + item.name.length))
      (UInt32.ofNat item.path.length)).run buf = (.ok (), splice buf p item.image) := by
  rw [Item.size] at inside sizeSmall
  have front : (buf.take p).length = p := by
    rw [List.length_take]
    omega
  have back : (buf.drop p).length = buf.length - p := List.length_drop ..
  have nameLen : (UInt32.ofNat item.name.length).toNat = item.name.length :=
    toNat_ofNat32 (by omega)
  have pathOff : (UInt32.ofNat (33 + item.name.length)).toNat = 33 + item.name.length :=
    toNat_ofNat32 (by omega)
  have pathLen : (UInt32.ofNat item.path.length).toNat = item.path.length :=
    toNat_ofNat32 (by omega)
  have nameOff : (32 : UInt32).toNat = 32 := rfl
  conv_lhs => rw [← List.take_append_drop p buf]
  rw [show writeItem item p 32 (UInt32.ofNat item.name.length)
      (UInt32.ofNat (33 + item.name.length)) (UInt32.ofNat item.path.length) =
      (writeItem item p 32 (UInt32.ofNat item.name.length) (UInt32.ofNat (33 + item.name.length))
        (UInt32.ofNat item.path.length) >>= fun _ => pure ()) from (bind_pure _).symm]
  simp only [writeItem, putU16, putU32, nameOff, nameLen, pathOff, pathLen, bind_assoc]
  simp (disch := simp <;> omega) only [run_bind_write]
  rw [Prog.run_pure, splice]
  simp [Item.image, Item.words, List.drop_drop]
  omega

/-- The builder after a successful `add`. -/
def pushed (builder : CgroupsBuilder) (items : List Bytes) (item : Item) : CgroupsBuilder :=
  { builder with
    buf := pushImage 24 builder.maxItems.toNat (24 + 8 * builder.maxItems.toNat) builder.buf items
      item.image
    dataOffset := align8 builder.dataOffset + item.size
    itemCount := builder.itemCount + 1 }

section Add

variable {total : Nat} {limit : UInt32} {items : List Bytes} {builder : CgroupsBuilder}
  (holds : Holds total limit items builder) (item : Item) (room : builder.Room item)

include holds

theorem Holds.align8_dataOffset : align8 builder.dataOffset =
    24 + 8 * limit.toNat + align8 (endFrom 0 items) := by
  rw [holds.dataOffset]
  exact align8_add _ _ (by omega)

include room

theorem Holds.more : items.length < limit.toNat := by
  rw [← holds.toNat_itemCount, ← holds.maxItems]
  exact UInt32.lt_iff_toNat_lt.mp room.count

/-- An `add` with room succeeds and pushes the item. -/
theorem add_fits : (add item).run builder = (.ok (), builder.pushed items item) := by
  obtain ⟨tail, laid⟩ := holds.laid
  have more := holds.more item room
  have start := holds.align8_dataOffset
  have inside := room.inside
  have startSmall := room.startSmall
  have sizeSmall := room.sizeSmall
  have sized : item.size = 34 + item.name.length + item.path.length := rfl
  have written := laid.run_pushWith item.image more
    (by rw [Item.length_image]; omega) (by omega)
    (by rw [Item.length_image]; omega)
    (24 + 8 * limit.toNat + align8 (endFrom 0 items) > 24 + 8 * limit.toNat + endFrom 0 items)
    (by have := le_align8 (endFrom 0 items); omega)
    (writeItem item (24 + 8 * limit.toNat + align8 (endFrom 0 items)) 32
      (UInt32.ofNat item.name.length) (UInt32.ofNat (33 + item.name.length))
      (UInt32.ofNat item.path.length))
    fun buf room => run_writeItem item _ buf (by rwa [Item.length_image] at room) sizeSmall
  rw [Item.length_image] at written
  have itemSize := toNat_ofNat32 sizeSmall
  rw [pushed, holds.maxItems, start]
  rw [start] at startSmall inside
  have itemStart := UInt32.toNat_ofNat_of_lt' (show
    24 + 8 * limit.toNat + align8 (endFrom 0 items) < UInt32.size from startSmall)
  simp only [add]
  rw [Prog.run_bind_ok (Prog.run_get builder), Prog.guard_bind (UInt32.not_le.mpr room.count),
    okOr_size, if_pos (by rw [usizeMax]; omega), Prog.ofRes_ok_bind, start,
    Prog.add_bind (by omega), Prog.guard_bind (not_lt.mpr inside), checkedU32_of_lt startSmall,
    Prog.ofRes_ok_bind, checkedU32_of_lt sizeSmall, Prog.ofRes_ok_bind, cgroupsItemHdrSize,
    checkedU32_of_lt (by omega), Prog.ofRes_ok_bind, checkedU32_of_lt (by omega),
    Prog.ofRes_ok_bind, checkedAdd_bind, Prog.add_bind (by omega), checkedU32_of_lt (by omega),
    Prog.ofRes_ok_bind, checkedU32_of_lt (by omega), Prog.ofRes_ok_bind, itemStart, itemSize,
    holds.toNat_itemCount, holds.dataOffset, cgroupsRespHdrSize, cgroupsDirEntrySize,
    Nat.mul_comm items.length 8, show 32 + item.name.length + 1 = 33 + item.name.length by omega,
    show UInt32.ofNat 32 = 32 from rfl, Prog.run_bind_ok (run_onBuf written), Prog.run_modify,
    holds.maxItems]

theorem pushed_holds : Holds total limit (items ++ [item.image]) (builder.pushed items item) := by
  obtain ⟨tail, laid⟩ := holds.laid
  have more := holds.more item room
  have inside := room.inside
  have startSmall := room.startSmall
  rw [holds.align8_dataOffset] at inside startSmall
  refine ⟨?_, holds.maxItems, ?_, ?_, ?_, ?_, ?_⟩
  · rw [pushed, holds.maxItems]
    exact (laid.length_push item.image more (by rw [Item.length_image]; omega)).trans holds.length
  · rw [List.length_append, List.length_singleton]
    omega
  · rw [pushed, List.length_append, List.length_singleton, UInt32.ofNat_add, holds.itemCount]
    rfl
  · rw [pushed, endFrom_append, holds.align8_dataOffset]
    simp only [endFrom, Item.length_image]
    omega
  · rw [pushed, holds.maxItems]
    exact ⟨_, laid.push item.image (by omega) more⟩
  · exact absRepresentable_push holds.absolute (by omega) startSmall
      (by rw [Item.length_image]; exact room.sizeSmall)

end Add

/-! ### What `finish` leaves -/

theorem run_putResponseHeader (systemdEnabled : UInt32) (generation : UInt64) (count : Nat)
    (buf : Bytes) (small : count < 2 ^ 32) (room : 24 ≤ buf.length) :
    (putResponseHeader (UInt32.ofNat count) systemdEnabled generation).run buf =
      (.ok (), snapshotHeader systemdEnabled generation count ++ buf.drop 24) := by
  rw [show putResponseHeader (UInt32.ofNat count) systemdEnabled generation =
    (putResponseHeader (UInt32.ofNat count) systemdEnabled generation >>= fun _ => pure ()) from
    (bind_pure _).symm, show buf = [] ++ buf from rfl]
  simp only [putResponseHeader, putU16, putU32, putU64, bind_assoc,
    UInt32.toNat_ofNat_of_lt' (show count < UInt32.size from small)]
  simp (disch := simp <;> omega) only [run_bind_write]
  simp [snapshotHeader, List.drop_drop]

/-- The loop takes the start of the packed area off every offset. -/
theorem run_rebaseEntries (origin : Nat) (items : List Bytes) (head rest : Bytes)
    (headLength : head.length = 24) (aligned : origin % 8 = 0)
    (absolute : AbsRepresentable origin items) :
    (Prog.forRange (rebaseEntry origin) 0 items.length).run
        (head ++ (dirImage (entriesFrom origin items) ++ rest)) =
      (.ok (), head ++ (dirImage (entriesFrom 0 items) ++ rest)) := by
  refine run_rebase _ origin items head rest aligned absolute ?_
  intro index offset before after _ offsetSmall start
  rw [headLength] at start
  simp only [rebaseEntry]
  rw [cgroupsRespHdrSize, cgroupsDirEntrySize, Nat.mul_comm index 8,
    Prog.run_bind_ok (Prog.run_get _), u32At_split _ _ rfl start, Prog.ofRes_ok_bind,
    UInt32.toNat_ofNat_of_lt' offsetSmall, subOrPanic_of_le (Nat.le_add_right _ _),
    Prog.ofRes_ok_bind, Nat.add_sub_cancel_left, run_putU32_ofNat (by omega) (by simp; omega),
    splice_middle _ _ _ _ _ start (by simp)]

/-- `finish` turns the buffer into the snapshot of its items. -/
theorem finish_run {total : Nat} {limit : UInt32} {items : List Bytes}
    (holds : Holds total limit items builder) :
    ∃ rest, finish.run builder = (.ok (24 + 8 * items.length + endFrom 0 items),
      { builder with
        buf := snapshotImage builder.systemdEnabled builder.generation items ++ rest }) := by
  obtain ⟨tail, laid⟩ := holds.laid
  have length := laid.length
  have few := holds.few
  have bound := limit.toNat_lt
  have count := holds.toNat_itemCount
  obtain ⟨head, slots, headLength, slotsLength, split⟩ := laid.split
  simp only [List.append_assoc] at split
  simp only [finish]
  rw [Prog.run_bind_ok (Prog.run_get builder)]
  by_cases empty : items = []
  · subst empty
    have none : builder.itemCount = 0 := holds.itemCount
    have written := run_putResponseHeader builder.systemdEnabled builder.generation 0 builder.buf
      (by omega) (by omega)
    refine ⟨builder.buf.drop 24, run_onBuf ?_⟩
    rw [if_pos none, show (0 : UInt32) = UInt32.ofNat 0 from rfl, Prog.run_bind_ok written,
      Prog.run_pure]
    simp only [snapshotImage, entriesFrom, dirImage, packFrom, List.append_nil, List.length_nil,
      endFrom]
    rfl
  · have some : builder.itemCount ≠ 0 := by
      intro zero
      rw [zero] at count
      exact empty (List.length_eq_zero_iff.mp count.symm)
    have aligned : (24 + 8 * limit.toNat) % 8 = 0 := by omega
    have found := List.getElem?_eq_getElem (List.length_pos_of_ne_nil empty)
    -- The first entry holds the start of the packed area.
    have first : posFrom (24 + 8 * limit.toNat) items 0 = 24 + 8 * limit.toNat :=
      align8_of_mod _ aligned
    have firstSmall := (holds.absolute.at found).1
    rw [first] at firstSmall
    have readFirst := (u32At_entry (ε := NipcError) head (slots ++ (packFrom 0 items ++ tail))
      (24 + 8 * limit.toNat) found).1
    rw [headLength, Nat.mul_zero, Nat.add_zero, ← split, first] at readFirst
    have compacted : ∃ rest, (if 24 + 8 * items.length < 24 + 8 * limit.toNat then
        copyWithin (24 + 8 * limit.toNat) (24 + 8 * limit.toNat + endFrom 0 items)
          (24 + 8 * items.length) else pure () : Prog NipcError Bytes Unit).run builder.buf =
        (.ok (), head ++ (dirImage (entriesFrom (24 + 8 * limit.toNat) items) ++
          (packFrom 0 items ++ rest))) := by
      rw [split]
      by_cases moves : 24 + 8 * items.length < 24 + 8 * limit.toNat
      · rw [if_pos moves]
        exact ⟨_, run_moveDown _ items head slots tail headLength few slotsLength⟩
      · have none : slots = [] := List.length_eq_zero_iff.mp (by omega)
        rw [if_neg moves, none]
        exact ⟨tail, rfl⟩
    obtain ⟨rest, compacted⟩ := compacted
    have rebased := run_rebaseEntries (24 + 8 * limit.toNat) items head (packFrom 0 items ++ rest)
      headLength aligned holds.absolute
    have written := run_putResponseHeader builder.systemdEnabled builder.generation items.length
      (head ++ (dirImage (entriesFrom 0 items) ++ (packFrom 0 items ++ rest))) (by omega)
      (by rw [List.length_append, headLength]; omega)
    rw [← holds.itemCount, List.drop_left' headLength] at written
    refine ⟨rest, run_onBuf ?_⟩
    rw [if_neg some, Prog.run_bind_ok (Prog.run_get _), cgroupsRespHdrSize, readFirst,
      Prog.ofRes_ok_bind, UInt32.toNat_ofNat_of_lt' firstSmall, holds.dataOffset,
      subOrPanic_of_le (Nat.le_add_right _ _), Prog.ofRes_ok_bind, Nat.add_sub_cancel_left, count,
      cgroupsDirEntrySize, Nat.mul_comm items.length 8, Prog.run_bind_ok compacted,
      Prog.run_bind_ok rebased, Prog.run_bind_ok written, Prog.run_pure, snapshotImage]
    simp only [List.append_assoc]

end CgroupsBuilder

/-! ### Reading a snapshot back -/

section Image

variable {items : List Bytes} (systemdEnabled : UInt32) (generation : UInt64)
  (count : items.length < 2 ^ 32) (representable : AbsRepresentable 0 items)

include representable

/-- The directory entry of an item. -/
theorem readEntry_snapshotImage (index : Nat) (item : Bytes) (found : items[index]? = some item) :
    (u32At (snapshotImage systemdEnabled generation items) (24 + index * 8) :
        Res NipcError UInt32) = .ok (UInt32.ofNat (posFrom 0 items index)) ∧
      (u32At (snapshotImage systemdEnabled generation items) (24 + index * 8 + 4) :
        Res NipcError UInt32) = .ok (UInt32.ofNat item.length) ∧
      (UInt32.ofNat (posFrom 0 items index)).toNat = posFrom 0 items index ∧
      (UInt32.ofNat item.length).toNat = item.length := by
  obtain ⟨offsetSmall, lengthSmall⟩ := representable.at found
  have entry := u32At_entry (ε := NipcError)
    (snapshotHeader systemdEnabled generation items.length) (packFrom 0 items) 0 found
  rw [length_snapshotHeader, Nat.mul_comm] at entry
  exact ⟨entry.1, entry.2, toNat_ofNat32 offsetSmall, toNat_ofNat32 lengthSmall⟩

include count

/-- The view accepts a snapshot whose items have room for their header. -/
theorem decode_snapshotImage (long : ∀ item ∈ items, 32 ≤ item.length) :
    CgroupsResponseView.decode (snapshotImage systemdEnabled generation items) =
      .ok ⟨1, 0, UInt32.ofNat items.length, systemdEnabled, generation,
        snapshotImage systemdEnabled generation items⟩ := by
  have total := length_snapshotImage systemdEnabled generation items
  have toNat := toNat_ofNat32 count
  have dirEnd : cgroupsRespHdrSize + items.length * cgroupsDirEntrySize =
      24 + 8 * items.length := by
    rw [cgroupsRespHdrSize, cgroupsDirEntrySize, Nat.mul_comm]
  rw [CgroupsResponseView.decode, guard_bind (by rw [total, cgroupsRespHdrSize]; omega)]
  simp (disch := omega) only [u16At_of_le, u32At_of_le, u64At_of_le, ok_bind,
    slice_snapshotImage, snapshotHeader, List.append_assoc, slice_leBytes_skip,
    slice_leBytes_take, slice_leBytes, Nat.sub_self, Nat.reduceSub, u32_ofNat_leBytes,
    UInt32.ofNat_toNat, u64_leBytes]
  rw [guard_bind (show ¬ UInt16.ofNat (leNat (leBytes 2 1)) ≠ 1 by decide),
    guard_bind (show ¬ UInt16.ofNat (leNat (leBytes 2 0)) ≠ 0 by decide),
    guard_bind (show ¬ UInt32.ofNat 0 ≠ 0 by decide), toNat,
    mul_bind (by rw [cgroupsDirEntrySize]; omega), add_bind (by rw [dirEnd]; omega), dirEnd,
    guard_bind (by omega), total, Nat.add_sub_cancel_left]
  refine bind_of_ok ((forFrom_unit_eq_ok _ _ _).mpr fun index _ high => ?_)
  have found := List.getElem?_eq_getElem (show index < items.length by omega)
  obtain ⟨readOff, readLen, off, len⟩ :=
    readEntry_snapshotImage systemdEnabled generation representable index _ found
  have inside := posFrom_add_le 0 items index _ found
  have header := long _ (List.mem_of_getElem? found)
  simp only [checkSnapshotEntry]
  rw [cgroupsRespHdrSize, readOff, ok_bind, readLen, ok_bind, off, len,
    guard_bind (not_not_intro (posFrom_mod 0 items index)), guard_bind (not_lt.mpr inside)]
  exact rejectIf_of_not (not_lt.mpr header)

end Image

/-- What the accessor returns for an item that was added. -/
def Item.view (item : Item) : CgroupsItemView :=
  ⟨1, 0, item.hash, item.options, item.enabled, StrView.of item.name, StrView.of item.path⟩

/-- A string stored with its NUL passes the check. -/
theorem checkItemString_of (before text after : Bytes) (itemLen off : Nat)
    (start : off = before.length) (header : 32 ≤ off) (inside : off + text.length + 1 ≤ itemLen) :
    checkItemString (before ++ (text ++ [0]) ++ after) itemLen off text.length = .ok () := by
  have nul : (before ++ (text ++ [0]) ++ after)[off + text.length]? = some 0 := by
    rw [start, List.append_assoc, List.append_assoc, List.getElem?_append_right (by omega),
      Nat.add_sub_cancel_left, List.getElem?_append_right (le_refl _), Nat.sub_self]
    rfl
  rw [checkItemString, guard_bind (by rw [cgroupsItemHdrSize]; omega),
    guard_bind (not_lt.mpr inside), readByte_of_getElem? nul, ok_bind]
  rfl

/-- A string stored with its NUL, as the accessor takes it. -/
theorem readSlice_nul {ε : Type} (before text after : Bytes) (off : Nat)
    (start : off = before.length) :
    (readSlice (before ++ (text ++ [0]) ++ after) off (off + text.length + 1) : Res ε Bytes) =
      .ok (text ++ [0]) := by
  rw [readSlice_of_le (by omega) (by
    simp only [List.length_append, List.length_singleton]
    omega)]
  refine congrArg _ (slice_middle _ _ _ _ _ start ?_)
  rw [List.length_append, List.length_singleton]
  omega

/-- The bytes of an added item read back as it. -/
theorem decodeSnapshotItem_image (sizeSmall : item.size < 2 ^ 32) :
    decodeSnapshotItem item.image item.size = .ok item.view := by
  have sized : item.size = 34 + item.name.length + item.path.length := rfl
  have length := item.length_image
  have behind : 33 + item.name.length = (item.words ++ (item.name ++ [0])).length := by
    rw [List.length_append, List.length_append, Item.length_words, List.length_singleton]
    omega
  have apart : overlap 32 (32 + item.name.length + 1) (33 + item.name.length)
      (33 + item.name.length + item.path.length + 1) = false := by
    rw [overlap, Bool.and_eq_false_iff, decide_eq_false_iff_not, decide_eq_false_iff_not]
    omega
  -- The two strings, each between what stands before and after it.
  have name := checkItemString_of item.words item.name (item.path ++ [0]) item.size 32
    item.length_words.symm (le_refl _) (by omega)
  have path := checkItemString_of (item.words ++ (item.name ++ [0])) item.path [] item.size
    (33 + item.name.length) behind (by omega) (by omega)
  have readName := readSlice_nul (ε := NipcError) item.words item.name (item.path ++ [0]) 32
    item.length_words.symm
  have readPath := readSlice_nul (ε := NipcError) (item.words ++ (item.name ++ [0])) item.path []
    (33 + item.name.length) behind
  rw [← Item.image] at name readName
  rw [List.append_nil, ← Item.image] at path readPath
  unfold decodeSnapshotItem
  simp (disch := omega) only [u16At_of_le, u32At_of_le, ok_bind, Item.slice_image, Item.words,
    List.append_assoc, slice_leBytes_skip, slice_leBytes_take, slice_leBytes, Nat.sub_self,
    Nat.reduceSub, u32_ofNat_leBytes, UInt32.ofNat_toNat, toNat_ofNat32]
  rw [guard_bind (show ¬ UInt16.ofNat (leNat (leBytes 2 1)) ≠ 1 by decide),
    guard_bind (show ¬ UInt16.ofNat (leNat (leBytes 2 0)) ≠ 0 by decide), name, ok_bind, path,
    ok_bind, guard_bind (by rw [apart]; exact Bool.false_ne_true), readName, ok_bind, readPath]
  rfl

/-- The accessor reads an added item back. -/
theorem item_snapshotImage {items : List Item} (count : items.length < 2 ^ 32)
    (representable : AbsRepresentable 0 (items.map Item.image)) (index : Nat) (item : Item)
    (found : items[index]? = some item) :
    (⟨1, 0, UInt32.ofNat items.length, systemdEnabled, generation,
      snapshotImage systemdEnabled generation (items.map Item.image)⟩ :
      CgroupsResponseView).item (UInt32.ofNat index) = .ok item.view := by
  obtain ⟨bound, -⟩ := List.getElem?_eq_some_iff.mp found
  have raw : (items.map Item.image)[index]? = some item.image := by
    rw [List.getElem?_map, found]
    rfl
  obtain ⟨readOff, readLen, off, len⟩ :=
    readEntry_snapshotImage systemdEnabled generation representable index _ raw
  have sizeSmall := (representable.at raw).2
  rw [Item.length_image] at sizeSmall
  have toNat := toNat_ofNat32 count
  have indexed : (UInt32.ofNat index).toNat = index := toNat_ofNat32 (by omega)
  have below : ¬ UInt32.ofNat index ≥ UInt32.ofNat items.length := by
    rw [ge_iff_le, UInt32.le_iff_toNat_le, toNat, indexed]
    omega
  have inside := posFrom_add_le 0 _ index _ raw
  have total := length_snapshotImage systemdEnabled generation (items.map Item.image)
  rw [List.length_map] at total
  -- The bytes the directory entry points at are the item's image.
  have part := slice_packed (snapshotHeader systemdEnabled generation (items.map Item.image).length)
    [] raw
  rw [length_snapshotHeader, List.append_nil, ← snapshotImage, List.length_map,
    Nat.mul_comm] at part
  simp only [CgroupsResponseView.item]
  rw [guard_bind below, indexed, cgroupsRespHdrSize, readOff, ok_bind, readLen,
    ok_bind, toNat, cgroupsDirEntrySize, off, len,
    readSlice_of_le (Nat.le_add_right _ _) (by omega), ok_bind, Nat.add_sub_cancel_left, part,
    Item.length_image]
  exact decodeSnapshotItem_image item sizeSmall

/-! ### Whole runs -/

open CgroupsBuilder in
/-- A run of calls keeps the container: it ends with the items whose `add` succeeded behind those
that were there, and with the header fields set last. -/
theorem perform_run (script : Script) (items : List Item) {total : Nat} {limit : UInt32}
    {builder : CgroupsBuilder} (holds : Holds total limit (items.map Item.image) builder) :
    ∃ calls accepted final, script.perform.run builder = (.ok (calls, accepted), final) ∧
      Holds total limit ((items ++ addedItems calls).map Item.image) final ∧
      (final.systemdEnabled, final.generation) =
        lastHeader (builder.systemdEnabled, builder.generation) calls := by
  induction script generalizing items builder with
  | done accepted =>
    refine ⟨[], accepted, builder, rfl, ?_, rfl⟩
    rwa [addedItems, List.append_nil]
  | setHeader systemdEnabled generation next ih =>
    have kept : Holds total limit (items.map Item.image)
        { builder with systemdEnabled, generation } :=
      ⟨holds.length, holds.maxItems, holds.few, holds.itemCount, holds.dataOffset, holds.laid,
        holds.absolute⟩
    obtain ⟨calls, accepted, final, ran, finished, header⟩ := ih _ kept
    refine ⟨.setHeader systemdEnabled generation :: calls, accepted, final, ?_, finished, header⟩
    rw [Script.perform, CgroupsBuilder.setHeader, Prog.run_bind_ok (Prog.run_modify _ _),
      Prog.run_bind_ok ran]
    rfl
  | add item next ih =>
    by_cases room : builder.Room item
    · have grown := pushed_holds holds item room
      rw [show items.map Item.image ++ [item.image] = (items ++ [item]).map Item.image by
        rw [List.map_append]; rfl] at grown
      obtain ⟨calls, accepted, final, ran, finished, header⟩ := ih (.ok ()) _ grown
      refine ⟨.add item (.ok ()) :: calls, accepted, final, ?_, ?_, header⟩
      · rw [Script.perform, Prog.run_inspect, add_fits holds item room]
        exact (Prog.run_bind_ok ran).trans rfl
      · rwa [addedItems, ← List.singleton_append, ← List.append_assoc]
    · obtain ⟨calls, accepted, final, ran, finished, header⟩ := ih (.error .overflow) _ holds
      refine ⟨.add item (.error .overflow) :: calls, accepted, final, ?_, finished, header⟩
      rw [Script.perform, Prog.run_inspect, add_refused builder item room]
      exact (Prog.run_bind_ok ran).trans rfl

/-- An item view shows the fields and strings an item was added with. -/
structure CgroupsItemView.Shows (view : CgroupsItemView) (item : Item) : Prop where
  hash : view.hash = item.hash
  options : view.options = item.options
  enabled : view.enabled = item.enabled
  name : view.name.asBytes = .ok item.name
  path : view.path.asBytes = .ok item.path

theorem view_shows (sizeSmall : item.size < 2 ^ 32) : item.view.Shows item := by
  rw [Item.size] at sizeSmall
  exact ⟨rfl, rfl, rfl, asBytes_of _ (by omega), asBytes_of _ (by omega)⟩

/-- `payload` is a snapshot of exactly these items under this header. -/
structure Delivers (payload : Bytes) (header : UInt32 × UInt64) (items : List Item) : Prop where
  decodes : ∃ view, CgroupsResponseView.decode payload = .ok view ∧
    view.itemCount.toNat = items.length ∧ view.systemdEnabled = header.1 ∧
    view.generation = header.2 ∧
    ∀ index item, items[index]? = some item → ∃ shown,
      view.item (UInt32.ofNat index) = .ok shown ∧ shown.Shows item

/-- The bytes of a snapshot deliver its items. -/
theorem delivers_snapshotImage (header : UInt32 × UInt64) (items : List Item)
    (count : items.length < 2 ^ 32) (representable : AbsRepresentable 0 (items.map Item.image)) :
    Delivers (snapshotImage header.1 header.2 (items.map Item.image)) header items where
  decodes := by
    refine ⟨_, decode_snapshotImage header.1 header.2 (by rwa [List.length_map]) representable ?_,
      ?_, rfl, rfl, ?_⟩
    · intro raw member
      obtain ⟨item, -, rfl⟩ := List.mem_map.mp member
      rw [Item.length_image, Item.size]
      omega
    · rw [List.length_map]
      exact UInt32.toNat_ofNat_of_lt' count
    · intro index item found
      have raw : (items.map Item.image)[index]? = some item.image := by
        rw [List.getElem?_map, found]
        rfl
      have sizeSmall := (representable _ (List.mem_of_getElem?
        (getElem?_entriesFrom 0 _ index _ raw))).2
      dsimp only at sizeSmall
      rw [Item.length_image] at sizeSmall
      refine ⟨item.view, ?_, view_shows item sizeSmall⟩
      rw [List.length_map]
      exact item_snapshotImage header.1 header.2 count representable index item found

open CgroupsBuilder in
/-- Finishing a builder delivers what it holds. -/
theorem finish_delivers {total : Nat} {limit : UInt32} {items : List Item}
    {builder : CgroupsBuilder} (holds : Holds total limit (items.map Item.image) builder) :
    ∃ size final, finish.run builder = (.ok size, final) ∧ 24 ≤ size ∧ size ≤ total ∧
      Delivers (final.buf.take size) (builder.systemdEnabled, builder.generation) items := by
  obtain ⟨rest, finished⟩ := finish_run holds
  obtain ⟨tail, laid⟩ := holds.laid
  have length := laid.length
  have few := holds.few
  have bound := limit.toNat_lt
  have kept := holds.length
  have small : items.length < 2 ^ 32 := by
    rw [List.length_map] at few
    omega
  rw [List.length_map] at finished few
  have image := length_snapshotImage builder.systemdEnabled builder.generation
    (items.map Item.image)
  rw [List.length_map] at image
  refine ⟨_, _, finished, by omega, by omega, ?_⟩
  dsimp only
  rw [List.take_left' image]
  exact delivers_snapshotImage (builder.systemdEnabled, builder.generation) items small
    (holds.absolute.relative (by omega))

/-- Whatever calls are made on a new builder, `finish` returns the length of a snapshot that
delivers the items of the successful `add` calls under the header set last. -/
theorem snapshot_roundTrips (buf : Bytes) (maxItems systemdEnabled : UInt32) (generation : UInt64)
    (script : Script) (builder : CgroupsBuilder)
    (created : CgroupsBuilder.new buf maxItems systemdEnabled generation = .ok builder) :
    ∃ calls accepted between size final,
      script.perform.run builder = (.ok (calls, accepted), between) ∧
      CgroupsBuilder.finish.run between = (.ok size, final) ∧ size ≤ buf.length ∧
      Delivers (final.buf.take size) (lastHeader (systemdEnabled, generation) calls)
        (addedItems calls) := by
  rw [CgroupsBuilder.new_eq] at created
  split at created
  · rename_i room
    obtain rfl := Except.ok.inj created
    have start := CgroupsBuilder.new_holds buf maxItems systemdEnabled generation room
    obtain ⟨calls, accepted, between, ran, holds, header⟩ := perform_run script [] start
    obtain ⟨size, final, finished, -, fits, delivers⟩ := finish_delivers holds
    refine ⟨calls, accepted, between, size, final, ran, finished, fits, ?_⟩
    rw [header, List.nil_append] at delivers
    exact delivers
  · cases created

/-- Three directory slots, two of them used, in a buffer that was not zeroed. -/
theorem snapshot_roundTrips_partlyFilled :
    CgroupsBuilder.new (List.replicate 150 0xAA) 3 0 0 =
        .ok ⟨List.replicate 150 0xAA, 0, 0, 0, 3, 48⟩ ∧
      ∃ calls accepted between size final,
        (Script.setHeader 1 7 (.add ⟨1, 2, 3, [97], [47, 97]⟩ fun _ =>
          .add ⟨4, 5, 6, [], [98]⟩ fun _ => .done true)).perform.run
            ⟨List.replicate 150 0xAA, 0, 0, 0, 3, 48⟩ = (.ok (calls, accepted), between) ∧
        CgroupsBuilder.finish.run between = (.ok size, final) ∧
        size ≤ (List.replicate 150 (0xAA : UInt8)).length ∧
        Delivers (final.buf.take size) (lastHeader (0, 0) calls) (addedItems calls) :=
  ⟨by decide +kernel, snapshot_roundTrips _ 3 0 0 _ _ (by decide +kernel)⟩

end NetIpc.Snapshot
