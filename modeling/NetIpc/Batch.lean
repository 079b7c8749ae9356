/-
This file models the batch payload: the item directory, its readers
`batch_dir_decode`, `batch_dir_validate` and `batch_item_get`, and the
`BatchBuilder` that fills a caller's buffer.

The builder's buffer is a `Laid` container with an empty header, so one `add` is
one `Laid.push`, and a whole run of `add` calls keeps the greedy selection of the
items that fit. `finish` moves the items down over the unused directory slots and
zeroes the trailing padding; what it leaves in the buffer is an append of the
directory, the packed items and the padding, which the readers read back.
-/

import NetIpc.Packed
import NetIpc.Protocol

namespace NetIpc

/-! ### The item directory -/

def alignment : Nat := 8

/-- `BatchEntry`. -/
structure BatchEntry where
  offset : UInt32
  length : UInt32
  deriving Repr, DecidableEq

/-- One pass of the loops of `batch_dir_decode` and `batch_dir_validate`. -/
def batchDirEntry (buf : Bytes) (packedAreaLen : UInt32) (index : Nat) :
    Res NipcError BatchEntry := do
  let base := index * 8
  let offset ← u32At buf base
  let length ← u32At buf (base + 4)
  rejectIf (offset.toNat % alignment ≠ 0) .badAlignment
  rejectIf (offset.toNat + length.toNat > packedAreaLen.toNat) .outOfBounds
  return ⟨offset, length⟩

/-- `batch_dir_decode`. -/
def batchDirDecode (buf : Bytes) (itemCount packedAreaLen : UInt32) :
    Res NipcError (List BatchEntry) := do
  let dirSize ← okOr (checkedMul itemCount.toNat 8) .badLayout
  rejectIf (buf.length < dirSize) .truncated
  collectFrom (batchDirEntry buf packedAreaLen) 0 itemCount.toNat

/-- `batch_dir_validate`. -/
def batchDirValidate (buf : Bytes) (itemCount packedAreaLen : UInt32) : Res NipcError Unit := do
  let dirSize ← okOr (checkedMul itemCount.toNat 8) .badLayout
  rejectIf (buf.length < dirSize) .truncated
  forFrom (fun index _ => do
    let _ ← batchDirEntry buf packedAreaLen index
    return ()) 0 itemCount.toNat ()

/-- `batch_item_get`. -/
def batchItemGet (payload : Bytes) (itemCount index : UInt32) : Res NipcError (Bytes × UInt32) := do
  rejectIf (index ≥ itemCount) .outOfBounds
  let dirSize ← okOr (checkedMul itemCount.toNat 8) .badLayout
  let dirAligned := align8 dirSize
  rejectIf (payload.length < dirAligned) .truncated
  let base := index.toNat * 8
  let off ← u32At payload base
  let len ← u32At payload (base + 4)
  let packedAreaStart := dirAligned
  let packedAreaLen := payload.length - packedAreaStart
  rejectIf (off.toNat % alignment ≠ 0) .badAlignment
  rejectIf (off.toNat + len.toNat > packedAreaLen) .outOfBounds
  let start := packedAreaStart + off.toNat
  let item ← readSlice payload start (start + len.toNat)
  return (item, len)

/-! ### What the checks come to -/

theorem batchDirEntry_eq_ok_iff {buf : Bytes} {area : UInt32} {index : Nat} :
    (∃ entry, batchDirEntry buf area index = .ok entry) ↔
      ∃ offset length : UInt32, u32At buf (index * 8) = (.ok offset : Res NipcError UInt32) ∧
        u32At buf (index * 8 + 4) = (.ok length : Res NipcError UInt32) ∧
        offset.toNat % alignment = 0 ∧ offset.toNat + length.toNat ≤ area.toNat := by
  constructor
  · rintro ⟨entry, read⟩
    obtain ⟨offset, first, read⟩ := bind_eq_ok read
    obtain ⟨length, second, read⟩ := bind_eq_ok read
    obtain ⟨_, aligned, read⟩ := bind_eq_ok read
    obtain ⟨_, inside, -⟩ := bind_eq_ok read
    exact ⟨offset, length, first, second, not_not.mp (rejectIf_eq_ok aligned),
      Nat.le_of_not_lt (rejectIf_eq_ok inside)⟩
  · rintro ⟨offset, length, first, second, aligned, inside⟩
    refine ⟨⟨offset, length⟩, ?_⟩
    rw [batchDirEntry, first, ok_bind, second, ok_bind, guard_bind (not_not_intro aligned),
      guard_bind (Nat.not_lt.mpr inside)]
    rfl

theorem u32At_take {buf : Bytes} {off : Nat} (size : Nat) (bound : off + 4 ≤ size)
    (inside : size ≤ buf.length) :
    (u32At (buf.take size) off : Res NipcError UInt32) = u32At buf off := by
  have length : (buf.take size).length = size := List.length_take_of_le inside
  rw [u32At_of_le (by omega), u32At_of_le (by omega), slice, slice, List.drop_take,
    List.take_take, Nat.min_eq_left (by omega)]

theorem batchDirValidate_eq_ok_iff {payload : Bytes} {count area : UInt32}
    (room : count.toNat * 8 ≤ payload.length) :
    batchDirValidate (payload.take (count.toNat * 8)) count area = .ok () ↔
      ∀ index < count.toNat, ∃ offset length : UInt32,
        u32At payload (index * 8) = (.ok offset : Res NipcError UInt32) ∧
          u32At payload (index * 8 + 4) = (.ok length : Res NipcError UInt32) ∧
          offset.toNat % alignment = 0 ∧ offset.toNat + length.toNat ≤ area.toNat := by
  have small := count.toNat_lt
  rw [batchDirValidate, mul_bind (by omega),
    guard_bind (by rw [List.length_take_of_le room]; exact Nat.lt_irrefl _), forFrom_unit_eq_ok]
  have each (index : Nat) (low : index < count.toNat) :
      (batchDirEntry (payload.take (count.toNat * 8)) area index >>= fun _ => return ()) =
          .ok () ↔
        ∃ offset length : UInt32,
          u32At payload (index * 8) = (.ok offset : Res NipcError UInt32) ∧
            u32At payload (index * 8 + 4) = (.ok length : Res NipcError UInt32) ∧
            offset.toNat % alignment = 0 ∧ offset.toNat + length.toNat ≤ area.toNat := by
    rw [← u32At_take (count.toNat * 8) (by omega) room,
      ← u32At_take (count.toNat * 8) (by omega) room, ← batchDirEntry_eq_ok_iff]
    cases batchDirEntry (payload.take (count.toNat * 8)) area index with
    | ok entry => exact ⟨fun _ => ⟨entry, rfl⟩, fun _ => rfl⟩
    | error reason => exact ⟨nofun, nofun⟩
  constructor
  · exact fun valid index low => (each index low).mp (valid index (Nat.zero_le _) (by omega))
  · exact fun fits index _ high => (each index (by omega)).mpr (fits index (by omega))

/-! ### Reading a packed payload -/

section Readers

variable (items : List Bytes)

/-- The entry of an item in a directory followed by anything. -/
theorem u32At_entriesFrom (rest : Bytes) (index : Nat) (item : Bytes)
    (found : items[index]? = some item) :
    (u32At (dirImage (entriesFrom 0 items) ++ rest) (index * 8) : Res NipcError UInt32) =
        .ok (UInt32.ofNat (posFrom 0 items index)) ∧
      (u32At (dirImage (entriesFrom 0 items) ++ rest) (index * 8 + 4) : Res NipcError UInt32) =
        .ok (UInt32.ofNat item.length) := by
  have entry := u32At_entry (ε := NipcError) [] rest 0 found
  rwa [List.nil_append, List.length_nil, Nat.zero_add, Nat.mul_comm] at entry

theorem batchDirEntry_packed (rest : Bytes) (packedAreaLen : UInt32) (index : Nat) (item : Bytes)
    (found : items[index]? = some item) (fits : endFrom 0 items ≤ packedAreaLen.toNat) :
    batchDirEntry (dirImage (entriesFrom 0 items) ++ rest) packedAreaLen index =
      .ok ⟨UInt32.ofNat (posFrom 0 items index), UInt32.ofNat item.length⟩ := by
  have bound := packedAreaLen.toNat_lt
  have inside := posFrom_add_le 0 items index item found
  have aligned : ¬ posFrom 0 items index % alignment ≠ 0 :=
    not_not_intro (posFrom_mod 0 items index)
  obtain ⟨offset, length⟩ := u32At_entriesFrom items rest index item found
  simp only [batchDirEntry]
  rw [offset, ok_bind, length, ok_bind, toNat_ofNat32 (by omega), toNat_ofNat32 (by omega),
    guard_bind aligned, rejectIf_of_not (by omega)]
  rfl

variable (count : UInt32) (counted : count.toNat = items.length)

include counted

theorem checkedMul_count : checkedMul count.toNat 8 = some (8 * items.length) := by
  have bound := count.toNat_lt
  rw [checkedMul_of_le (by rw [usizeMax]; omega), counted, Nat.mul_comm]

/-- The validator accepts the directory of a packed payload. -/
theorem batchDirValidate_packed (packedAreaLen : UInt32)
    (fits : endFrom 0 items ≤ packedAreaLen.toNat) :
    batchDirValidate (dirImage (entriesFrom 0 items)) count packedAreaLen = .ok () := by
  rw [batchDirValidate, checkedMul_count items count counted, okOr_some, ok_bind, rejectIf_of_not
    (by rw [length_dirImage, length_entriesFrom]; omega), ok_bind, forFrom_unit_eq_ok]
  intro index _ high
  have entry := batchDirEntry_packed items [] packedAreaLen index _
    (List.getElem?_eq_getElem (by omega)) fits
  rw [List.append_nil] at entry
  rw [entry]
  rfl

/-- The decoder returns the entries of a packed payload. -/
theorem batchDirDecode_packed (packedAreaLen : UInt32)
    (fits : endFrom 0 items ≤ packedAreaLen.toNat) :
    batchDirDecode (dirImage (entriesFrom 0 items)) count packedAreaLen =
      .ok ((entriesFrom 0 items).map fun entry =>
        ⟨UInt32.ofNat entry.1, UInt32.ofNat entry.2⟩) := by
  rw [batchDirDecode, checkedMul_count items count counted, okOr_some, ok_bind, rejectIf_of_not
    (by rw [length_dirImage, length_entriesFrom]; omega), ok_bind]
  have size : count.toNat = ((entriesFrom 0 items).map fun entry =>
      (⟨UInt32.ofNat entry.1, UInt32.ofNat entry.2⟩ : BatchEntry)).length := by
    rw [List.length_map, length_entriesFrom, counted]
  rw [size]
  refine collectFrom_of_getElem? _ 0 _ fun index value found => ?_
  obtain ⟨bound, -⟩ := List.getElem?_eq_some_iff.mp found
  rw [List.length_map, length_entriesFrom] at bound
  have here := List.getElem?_eq_getElem bound
  have entry := batchDirEntry_packed items [] packedAreaLen index _ here fits
  rw [List.getElem?_map, getElem?_entriesFrom 0 items index _ here] at found
  rw [List.append_nil] at entry
  rw [Nat.zero_add, entry]
  exact congrArg _ (Option.some.inj found)

/-- `batch_item_get` returns the item. -/
theorem batchItemGet_packed (pad : Bytes) (index : Nat) (item : Bytes)
    (found : items[index]? = some item) (small : 8 * items.length + endFrom 0 items < 2 ^ 32) :
    batchItemGet (dirImage (entriesFrom 0 items) ++ packFrom 0 items ++ pad) count
      (UInt32.ofNat index) = .ok (item, UInt32.ofNat item.length) := by
  obtain ⟨bound, -⟩ := List.getElem?_eq_some_iff.mp found
  have inside := posFrom_add_le 0 items index item found
  have packed := length_packFrom 0 items
  have aligned : ¬ posFrom 0 items index % alignment ≠ 0 :=
    not_not_intro (posFrom_mod 0 items index)
  have indexed : (UInt32.ofNat index).toNat = index := toNat_ofNat32 (by omega)
  obtain ⟨offset, length⟩ := u32At_entriesFrom items (packFrom 0 items ++ pad) index item found
  have total : (dirImage (entriesFrom 0 items) ++ (packFrom 0 items ++ pad)).length =
      8 * items.length + endFrom 0 items + pad.length := by
    simp only [List.length_append, length_dirImage, length_entriesFrom]
    omega
  have below : ¬ UInt32.ofNat index ≥ count := by
    refine UInt32.not_le.mpr ?_
    rw [UInt32.lt_iff_toNat_lt, indexed, counted]
    exact bound
  have itemBytes := slice_packed [] pad found
  rw [List.nil_append, List.length_nil, Nat.zero_add] at itemBytes
  rw [List.append_assoc]
  simp only [batchItemGet]
  rw [guard_bind below, checkedMul_count items count counted, okOr_some, ok_bind,
    align8_of_mod _ (by omega), guard_bind (by omega), indexed, offset, ok_bind, length, ok_bind,
    toNat_ofNat32 (by omega), toNat_ofNat32 (by omega), guard_bind aligned, guard_bind (by omega),
    readSlice_of_le (by omega) (by omega), ok_bind, Nat.add_sub_cancel_left, itemBytes]
  rfl

end Readers

/-! ### The builder -/

/-- `BatchBuilder`. -/
structure BatchBuilder where
  buf : Bytes
  itemCount : UInt32
  maxItems : UInt32
  dirEnd : Nat
  dataOffset : Nat
  deriving Repr, DecidableEq

namespace BatchBuilder

/-- `BatchBuilder::new`. -/
def new (buf : Bytes) (maxItems : UInt32) : BatchBuilder where
  buf := buf
  itemCount := 0
  maxItems := maxItems
  dirEnd := align8 (maxItems.toNat * 8)
  dataOffset := 0

/-- Work on the builder's buffer. -/
def onBuf {α : Type} (program : Prog NipcError Bytes α) : Prog NipcError BatchBuilder α :=
  Prog.zoom (fun builder => builder.buf) (fun buf builder => { builder with buf }) program

/-- `BatchBuilder::add`. -/
def add (item : Bytes) : Prog NipcError BatchBuilder Unit := do
  let self ← Prog.get
  Prog.ofRes (rejectIf (self.itemCount ≥ self.maxItems) .overflow)
  let alignedOff := align8 self.dataOffset
  let absPos := self.dirEnd + alignedOff
  Prog.ofRes (rejectIf (absPos + item.length > self.buf.length) .overflow)
  let dirBase := self.itemCount.toNat * 8
  onBuf (do
    (if alignedOff > self.dataOffset then
      fillZero (self.dirEnd + self.dataOffset) (self.dirEnd + alignedOff) else pure ())
    write absPos item
    putU32 dirBase (UInt32.ofNat alignedOff)
    putU32 (dirBase + 4) (UInt32.ofNat item.length))
  Prog.modify fun self =>
    { self with dataOffset := alignedOff + item.length, itemCount := self.itemCount + 1 }

/-- `BatchBuilder::finish`. -/
def finish : Prog NipcError BatchBuilder (Nat × UInt32) := do
  let self ← Prog.get
  let count := self.itemCount
  let finalDirAligned := align8 (count.toNat * 8)
  onBuf (if finalDirAligned < self.dirEnd ∧ self.dataOffset > 0 then
    copyWithin self.dirEnd (self.dirEnd + self.dataOffset) finalDirAligned else pure ())
  let total := finalDirAligned + align8 self.dataOffset
  let padStart := finalDirAligned + self.dataOffset
  onBuf (if total < self.buf.length ∧ padStart < total then fillZero padStart total else pure ())
  return (total, count)

/-- A caller's sequence of `add` calls; the result is the items whose `add` returned `Ok`. -/
def addEach : List Bytes → Prog NipcError BatchBuilder (List Bytes)
  | [] => pure []
  | item :: rest => Prog.inspect (add item) fun
    | .ok () => do
      let added ← addEach rest
      return item :: added
    | .error (.err _) => addEach rest
    | .error reason => Prog.stop reason

/-- A whole use of the builder: `new`, the `add` calls, `finish`. The result is the added items
with what `finish` returned, the final state holds the buffer. -/
def build (buf : Bytes) (maxItems : UInt32) (calls : List Bytes) :
    Res NipcError (List Bytes × Nat × UInt32) × BatchBuilder :=
  Prog.run (do
    let added ← addEach calls
    let (total, count) ← finish
    return (added, total, count)) (new buf maxItems)

/-! ### One `add` -/

/-- The builder over `initial` holds exactly `items`. -/
structure Holds (initial : Bytes) (maxItems : UInt32) (items : List Bytes)
    (builder : BatchBuilder) : Prop where
  limit : builder.maxItems = maxItems
  dirEnd : builder.dirEnd = 8 * maxItems.toNat
  itemCount : builder.itemCount.toNat = items.length
  dataOffset : builder.dataOffset = endFrom 0 items
  size : builder.buf.length = initial.length
  few : items.length ≤ maxItems.toNat
  short : initial.length < 8 * maxItems.toNat → items = []
  laid : 8 * maxItems.toNat ≤ initial.length →
    Laid 0 maxItems.toNat 0 builder.buf items
      (initial.drop (8 * maxItems.toNat + endFrom 0 items))

/-- `item` can be added after `items`: a directory slot is free and the bytes fit. -/
def Fits (size maxItems : Nat) (items : List Bytes) (item : Bytes) : Prop :=
  items.length < maxItems ∧ 8 * maxItems + align8 (endFrom 0 items) + item.length ≤ size

instance (size maxItems : Nat) (items : List Bytes) (item : Bytes) :
    Decidable (Fits size maxItems items item) := inferInstanceAs (Decidable (_ ∧ _))

theorem new_holds (buf : Bytes) (maxItems : UInt32) : Holds buf maxItems [] (new buf maxItems) where
  limit := rfl
  dirEnd := by
    show align8 (maxItems.toNat * 8) = _
    rw [align8_of_mod _ (by omega), Nat.mul_comm]
  itemCount := rfl
  dataOffset := rfl
  size := rfl
  few := Nat.zero_le _
  short := fun _ => rfl
  laid := fun room => by
    have start := Laid.start 0 maxItems.toNat 0 buf (by omega)
    rwa [Nat.zero_add] at start

theorem run_onBuf {α : Type} {program : Prog NipcError Bytes α} {builder : BatchBuilder}
    {value : α} {after : Bytes} (ran : program.run builder.buf = (.ok value, after)) :
    (onBuf program).run builder = (.ok value, { builder with buf := after }) := by
  rw [onBuf, Prog.run_zoom, ran]

variable (initial : Bytes) (maxItems : UInt32) (items : List Bytes) (builder : BatchBuilder)

/-- An item that does not fit is refused and nothing changes. -/
theorem add_refused (holds : Holds initial maxItems items builder) (item : Bytes)
    (refused : ¬ Fits initial.length maxItems.toNat items item) :
    (add item).run builder = (.error (.err .overflow), builder) := by
  simp only [add]
  rw [Prog.run_bind_ok (Prog.run_get builder)]
  by_cases full : builder.itemCount ≥ builder.maxItems
  · rw [rejectIf_of full]
    rfl
  · have free : items.length < maxItems.toNat := by
      rw [← holds.itemCount, ← holds.limit]
      exact UInt32.not_le.mp full
    rw [rejectIf_of_not full, Prog.run_bind_ok (Prog.run_ofRes _ _), rejectIf_of]
    · rfl
    · rw [holds.dirEnd, holds.dataOffset, holds.size]
      exact not_le.mp fun room => refused ⟨free, room⟩

/-- An item that fits is added. -/
theorem add_fits (small : initial.length < 2 ^ 32) (items : List Bytes) (builder : BatchBuilder)
    (holds : Holds initial maxItems items builder) (item : Bytes)
    (fits : Fits initial.length maxItems.toNat items item) :
    ∃ after, (add item).run builder = (.ok (), after) ∧
      Holds initial maxItems (items ++ [item]) after := by
  obtain ⟨free, room⟩ := fits
  have up := le_align8 (endFrom 0 items)
  have laid := holds.laid (by omega)
  have notFull : ¬ builder.itemCount ≥ builder.maxItems := by
    refine UInt32.not_le.mpr ?_
    rw [UInt32.lt_iff_toNat_lt, holds.itemCount, holds.limit]
    exact free
  have notOver : ¬ 8 * maxItems.toNat + align8 (endFrom 0 items) + item.length >
      builder.buf.length := by
    rw [holds.size]
    omega
  have inside : 0 + 8 * maxItems.toNat + align8 (endFrom 0 items) + item.length ≤
      builder.buf.length := by
    rw [holds.size]
    omega
  have written := laid.run_push (ε := NipcError) item free inside (by omega) (by omega)
    (align8 (endFrom 0 items) > endFrom 0 items) (by omega)
  simp only [Nat.zero_add, Nat.mul_comm 8 items.length] at written
  simp only [add]
  rw [Prog.run_bind_ok (Prog.run_get builder), rejectIf_of_not notFull,
    Prog.run_bind_ok (Prog.run_ofRes _ _), holds.dirEnd, holds.dataOffset, holds.itemCount,
    rejectIf_of_not notOver, Prog.run_bind_ok (Prog.run_ofRes _ _),
    Prog.run_bind_ok (run_onBuf written)]
  refine ⟨_, rfl, ?_⟩
  have next : endFrom 0 (items ++ [item]) = align8 (endFrom 0 items) + item.length := by
    rw [endFrom_append]
    rfl
  constructor
  · exact holds.limit
  · exact holds.dirEnd
  · have below : items.length + 1 < 2 ^ 32 := by omega
    show (builder.itemCount + 1).toNat = _
    rw [UInt32.toNat_add, holds.itemCount, List.length_append, List.length_singleton]
    exact Nat.mod_eq_of_lt below
  · exact next.symm
  · exact (laid.length_push item free inside).trans holds.size
  · rw [List.length_append, List.length_singleton]
    omega
  · intro tooShort
    omega
  · intro _
    have pushed := laid.push item rfl free
    rw [List.drop_drop, show 8 * maxItems.toNat + endFrom 0 items +
      (align8 (endFrom 0 items) - endFrom 0 items + item.length) =
      8 * maxItems.toNat + (align8 (endFrom 0 items) + item.length) by omega, ← next] at pushed
    exact pushed

/-! ### A sequence of `add` calls -/

/-- The calls whose item fits, each judged after the ones added before it. -/
def fitting (size maxItems : Nat) : List Bytes → List Bytes → List Bytes
  | _, [] => []
  | added, item :: rest =>
    if Fits size maxItems added item then
      item :: fitting size maxItems (added ++ [item]) rest
    else fitting size maxItems added rest

theorem addEach_run (small : initial.length < 2 ^ 32) (calls added : List Bytes)
    (builder : BatchBuilder) (holds : Holds initial maxItems added builder) :
    ∃ after, (addEach calls).run builder =
        (.ok (fitting initial.length maxItems.toNat added calls), after) ∧
      Holds initial maxItems
        (added ++ fitting initial.length maxItems.toNat added calls) after := by
  induction calls generalizing added builder with
  | nil =>
    refine ⟨builder, rfl, ?_⟩
    rw [fitting, List.append_nil]
    exact holds
  | cons item rest ih =>
    rw [addEach, fitting, Prog.run_inspect]
    by_cases fits : Fits initial.length maxItems.toNat added item
    · obtain ⟨next, ran, nextHolds⟩ := add_fits initial maxItems small added builder holds item fits
      obtain ⟨after, rest, afterHolds⟩ := ih (added ++ [item]) next nextHolds
      rw [if_pos fits, ran]
      refine ⟨after, Prog.run_bind_ok rest, ?_⟩
      rwa [List.append_assoc] at afterHolds
    · rw [if_neg fits, add_refused initial maxItems added builder holds item fits]
      exact ih added builder holds

/-! ### `finish` -/

/-- The first step of `finish`: the items follow the directory. -/
theorem run_compact (holds : Holds initial maxItems items builder) :
    ∃ rest, (if 8 * items.length < 8 * maxItems.toNat ∧ endFrom 0 items > 0 then
        copyWithin (8 * maxItems.toNat) (8 * maxItems.toNat + endFrom 0 items) (8 * items.length)
        else pure () : Prog NipcError Bytes Unit).run builder.buf =
        (.ok (), dirImage (entriesFrom 0 items) ++ packFrom 0 items ++ rest) ∧
      (items.length = maxItems.toNat →
        rest = initial.drop (8 * maxItems.toNat + endFrom 0 items)) := by
  by_cases room : 8 * maxItems.toNat ≤ initial.length
  · have laid := holds.laid room
    have length := laid.length
    have packed := length_packFrom 0 items
    obtain ⟨head, slots, headLength, slotsLength, split⟩ := laid.split
    rw [List.length_eq_zero_iff.mp headLength, List.nil_append] at split
    have few := holds.few
    by_cases moves : 8 * items.length < 8 * maxItems.toNat ∧ endFrom 0 items > 0
    · have moved := run_moveDown (ε := NipcError) 0 items [] slots
        (initial.drop (8 * maxItems.toNat + endFrom 0 items)) rfl few slotsLength
      simp only [List.nil_append, List.length_nil, Nat.zero_add] at moved
      refine ⟨(slots ++ (packFrom 0 items ++ initial.drop
        (8 * maxItems.toNat + endFrom 0 items))).drop (packFrom 0 items).length, ?_,
        fun full => absurd full (by omega)⟩
      rw [if_pos moves, split]
      simp only [List.append_assoc]
      exact moved
    · rw [if_neg moves]
      by_cases full : items.length = maxItems.toNat
      · have none : slots = [] := List.length_eq_zero_iff.mp (by omega)
        refine ⟨_, ?_, fun _ => rfl⟩
        rw [Prog.run_pure, split, none, List.append_nil]
      · have none : packFrom 0 items = [] := List.length_eq_zero_iff.mp (by omega)
        refine ⟨slots ++ initial.drop (8 * maxItems.toNat + endFrom 0 items), ?_,
          fun same => absurd same full⟩
        rw [Prog.run_pure, split, none, List.append_nil, List.append_nil, List.append_assoc]
  · obtain rfl := holds.short (by omega)
    refine ⟨builder.buf, ?_, fun full => absurd full ?_⟩
    · rw [if_neg (by simp [endFrom])]
      rfl
    · rw [List.length_nil]
      omega

/-- What `finish` returns and leaves in the buffer: the directory, the items and `rest`, whose
padding bytes are zeroed when the payload ends before the buffer does. -/
theorem finish_run (holds : Holds initial maxItems items builder) :
    ∃ final rest, finish.run builder =
        (.ok (8 * items.length + align8 (endFrom 0 items), builder.itemCount), final) ∧
      final.buf = dirImage (entriesFrom 0 items) ++ packFrom 0 items ++ rest ∧
      final.buf.length = initial.length ∧
      (8 * items.length + align8 (endFrom 0 items) < initial.length →
        rest.take (align8 (endFrom 0 items) - endFrom 0 items) =
          zeros (align8 (endFrom 0 items) - endFrom 0 items)) ∧
      (items.length = maxItems.toNat →
        initial.length ≤ 8 * items.length + align8 (endFrom 0 items) →
        rest = initial.drop (8 * maxItems.toNat + endFrom 0 items)) := by
  obtain ⟨rest, ran, whole⟩ := run_compact initial maxItems items builder holds
  have up := le_align8 (endFrom 0 items)
  have packed := length_packFrom 0 items
  have slots : align8 (items.length * 8) = 8 * items.length := by
    rw [align8_of_mod _ (by omega), Nat.mul_comm]
  have kept : (dirImage (entriesFrom 0 items) ++ packFrom 0 items ++ rest).length =
      initial.length := by
    have keeps : Touches (fun _ => True)
      (if 8 * items.length < 8 * maxItems.toNat ∧ endFrom 0 items > 0 then
        copyWithin (8 * maxItems.toNat) (8 * maxItems.toNat + endFrom 0 items) (8 * items.length)
        else pure () : Prog NipcError Bytes Unit) :=
      (touches_copyWithin _ _ _ fun _ _ _ => trivial).ite (touches_pure ())
    have same := keeps.length builder.buf
    rw [ran] at same
    exact same.trans holds.size
  simp only [finish]
  rw [Prog.run_bind_ok (Prog.run_get builder), holds.itemCount, slots, holds.dirEnd,
    holds.dataOffset, holds.size, Prog.run_bind_ok (run_onBuf ran)]
  by_cases ends : 8 * items.length + align8 (endFrom 0 items) < initial.length
  · rw [Prog.run_bind_ok (run_onBuf (run_ite_fillZero (by omega) (by omega)
      (le_of_lt (kept.symm ▸ ends)))), Nat.add_sub_add_left]
    refine ⟨_, zeros (align8 (endFrom 0 items) - endFrom 0 items) ++
      rest.drop (align8 (endFrom 0 items) - endFrom 0 items), rfl, ?_, ?_, fun _ => ?_,
      fun _ past => absurd ends (not_lt.mpr past)⟩
    · show splice (dirImage (entriesFrom 0 items) ++ packFrom 0 items ++ rest) _ _ = _
      rw [splice_after _ _ _ _ (by
        rw [List.length_append, length_dirImage, length_entriesFrom]
        omega), length_zeros, List.append_assoc _ (zeros _)]
    · show (splice (dirImage (entriesFrom 0 items) ++ packFrom 0 items ++ rest) _ _).length = _
      rw [length_splice _ _ _ (by rw [length_zeros, kept]; omega), kept]
    · exact List.take_left' (length_zeros _)
  · rw [if_neg (fun both => ends both.1), Prog.run_bind_ok (run_onBuf (Prog.run_pure _ _))]
    refine ⟨_, rest, rfl, rfl, kept, fun inside => absurd inside ends, fun full _ => whole full⟩

/-! ### The round trip -/

/-- What a peer must find in `buf[..total]` when `items` were added. -/
structure Delivers (buf : Bytes) (items : List Bytes) (total : Nat) (count : UInt32) : Prop where
  counted : count.toNat = items.length
  bounded : total ≤ buf.length
  item : ∀ index item, items[index]? = some item →
    batchItemGet (buf.take total) count (UInt32.ofNat index) =
      .ok (item, UInt32.ofNat item.length)
  directory : batchDirValidate ((buf.take total).take (8 * count.toNat)) count
    (UInt32.ofNat (total - 8 * count.toNat)) = .ok ()
  padding : ∃ entries, batchDirDecode ((buf.take total).take (8 * count.toNat)) count
      (UInt32.ofNat (total - 8 * count.toNat)) = .ok entries ∧
    ∀ position byte, 8 * count.toNat ≤ position →
      (∀ entry ∈ entries, position < 8 * count.toNat + entry.offset.toNat ∨
        8 * count.toNat + entry.offset.toNat + entry.length.toNat ≤ position) →
      (buf.take total)[position]? = some byte → byte = 0

/-- The builder round trip of one buffer, item limit and sequence of `add` calls. -/
def RoundTrip (buf : Bytes) (maxItems : UInt32) (calls : List Bytes) : Prop :=
  ∃ items total count final, build buf maxItems calls = (.ok (items, total, count), final) ∧
    Delivers final.buf items total count

/-- The trailing padding of a full directory lies inside the buffer and is, or is made, zero. -/
def PaddingFits (buf : Bytes) (maxItems : Nat) (items : List Bytes) : Prop :=
  items.length < maxItems ∨ (8 * maxItems + endFrom 0 items) % 8 = 0 ∨
    align8 (8 * maxItems + endFrom 0 items) < buf.length ∨
    align8 (8 * maxItems + endFrom 0 items) = buf.length ∧
      ∀ byte ∈ buf.drop (8 * maxItems + endFrom 0 items), byte = 0

/-- The words of a directory entry hold its offset and its length. -/
theorem toNat_entry {items : List Bytes} {entry : Nat × Nat} (small : endFrom 0 items < 2 ^ 32)
    (member : entry ∈ entriesFrom 0 items) :
    (UInt32.ofNat entry.1).toNat = entry.1 ∧ (UInt32.ofNat entry.2).toNat = entry.2 := by
  have inside := mem_entriesFrom_le 0 items entry member
  exact ⟨toNat_ofNat32 (by omega), toNat_ofNat32 (by omega)⟩

/-- The bytes of a packed payload in a longer buffer. -/
theorem take_packed (rest : Bytes) :
    (dirImage (entriesFrom 0 items) ++ packFrom 0 items ++ rest).take
        (8 * items.length + align8 (endFrom 0 items)) =
      dirImage (entriesFrom 0 items) ++ packFrom 0 items ++
        rest.take (align8 (endFrom 0 items) - endFrom 0 items) := by
  have up := le_align8 (endFrom 0 items)
  have packed := length_packFrom 0 items
  have directory : (dirImage (entriesFrom 0 items)).length = 8 * items.length := by
    rw [length_dirImage, length_entriesFrom]
  rw [List.take_append, List.take_of_length_le (by
    rw [List.length_append]
    omega), List.length_append]
  congr 2
  omega

/-- A packed payload is delivered exactly when its trailing padding is zero. -/
theorem delivers_iff (buf : Bytes) (items : List Bytes) (count : UInt32) (rest : Bytes)
    (counted : count.toNat = items.length)
    (image : buf = dirImage (entriesFrom 0 items) ++ packFrom 0 items ++ rest)
    (small : buf.length < 2 ^ 32)
    (bounded : 8 * items.length + align8 (endFrom 0 items) ≤ buf.length) :
    Delivers buf items (8 * items.length + align8 (endFrom 0 items)) count ↔
      ∀ byte ∈ rest.take (align8 (endFrom 0 items) - endFrom 0 items), byte = 0 := by
  have up := le_align8 (endFrom 0 items)
  have packed := length_packFrom 0 items
  have directory : (dirImage (entriesFrom 0 items)).length = 8 * items.length := by
    rw [length_dirImage, length_entriesFrom]
  have payload : buf.take (8 * items.length + align8 (endFrom 0 items)) =
      dirImage (entriesFrom 0 items) ++ packFrom 0 items ++
        rest.take (align8 (endFrom 0 items) - endFrom 0 items) := by
    rw [image, take_packed]
  have front : (buf.take (8 * items.length + align8 (endFrom 0 items))).take (8 * count.toNat) =
      dirImage (entriesFrom 0 items) := by
    rw [payload, List.append_assoc, counted]
    exact List.take_left' directory
  have area : (UInt32.ofNat (8 * items.length + align8 (endFrom 0 items) -
      8 * count.toNat)).toNat = align8 (endFrom 0 items) := by
    rw [counted, Nat.add_sub_cancel_left]
    exact toNat_ofNat32 (by omega)
  constructor
  · intro delivers byte member
    obtain ⟨entries, decoded, zero⟩ := delivers.padding
    rw [front, batchDirDecode_packed items count counted _ (by rw [area]; exact up)] at decoded
    obtain rfl := Except.ok.inj decoded
    obtain ⟨position, bound, rfl⟩ := List.getElem_of_mem member
    refine zero (8 * items.length + endFrom 0 items + position) _ (by omega) ?_ ?_
    · intro decodedEntry found
      obtain ⟨entry, member, rfl⟩ := List.mem_map.mp found
      obtain ⟨offset, length⟩ := toNat_entry (by omega) member
      have inside := mem_entriesFrom_le 0 items entry member
      right
      rw [offset, length]
      omega
    · rw [payload, List.getElem?_append_right (by rw [List.length_append]; omega),
        List.length_append, directory, show 8 * items.length + endFrom 0 items + position -
          (8 * items.length + (packFrom 0 items).length) = position by omega]
      exact List.getElem?_eq_getElem bound
  · intro zero
    refine ⟨counted, bounded, ?_, ?_, ?_⟩
    · intro index item found
      rw [payload]
      exact batchItemGet_packed items count counted _ index item found (by omega)
    · rw [front]
      exact batchDirValidate_packed items count counted _ (by rw [area]; exact up)
    · rw [front]
      refine ⟨_, batchDirDecode_packed items count counted _ (by rw [area]; exact up), ?_⟩
      intro position byte start outside found
      rw [payload, List.append_assoc, List.getElem?_append_right (by omega), directory] at found
      by_cases inside : position - 8 * items.length < endFrom 0 items
      · rw [List.getElem?_append_left (by omega)] at found
        have gap := getElem?_packFrom_gap 0 items (position - 8 * items.length) (Nat.zero_le _)
          inside fun entry member => by
            have here := outside _ (List.mem_map.mpr ⟨entry, member, rfl⟩)
            obtain ⟨offset, length⟩ := toNat_entry (by omega) member
            rw [offset, length] at here
            omega
        rw [Nat.sub_zero, found] at gap
        exact Option.some.inj gap
      · rw [List.getElem?_append_right (by omega)] at found
        exact zero byte (List.mem_of_getElem? found)

/-- The builder round trip holds exactly when the trailing padding fits. -/
theorem roundTrip_iff_paddingFits (buf : Bytes) (maxItems : UInt32) (calls : List Bytes)
    (small : buf.length < 2 ^ 32) :
    RoundTrip buf maxItems calls ↔
      PaddingFits buf maxItems.toNat (fitting buf.length maxItems.toNat [] calls) := by
  obtain ⟨filled, added, holds⟩ :=
    addEach_run buf maxItems small calls [] _ (new_holds buf maxItems)
  rw [List.nil_append] at holds
  generalize fitting buf.length maxItems.toNat [] calls = items at added holds ⊢
  obtain ⟨final, rest, finished, image, size, zeroed, whole⟩ :=
    finish_run buf maxItems items filled holds
  have built : build buf maxItems calls =
      (.ok (items, 8 * items.length + align8 (endFrom 0 items), filled.itemCount), final) := by
    rw [build, Prog.run_bind_ok added]
    exact Prog.run_bind_ok finished
  have up := le_align8 (endFrom 0 items)
  have packed := length_packFrom 0 items
  have used : 8 * items.length + endFrom 0 items + rest.length = buf.length := by
    rw [← size, image, List.length_append, List.length_append, length_dirImage, length_entriesFrom]
    omega
  have outcome : RoundTrip buf maxItems calls ↔
      8 * items.length + align8 (endFrom 0 items) ≤ buf.length ∧
        ∀ byte ∈ rest.take (align8 (endFrom 0 items) - endFrom 0 items), byte = 0 := by
    constructor
    · rintro ⟨_, _, _, _, ran, delivers⟩
      obtain ⟨result, rfl⟩ := Prod.mk.inj (built.symm.trans ran)
      cases result
      have bounded := delivers.bounded
      exact ⟨size ▸ bounded,
        (delivers_iff _ items _ rest holds.itemCount image (by omega) bounded).mp delivers⟩
    · rintro ⟨bounded, zero⟩
      exact ⟨_, _, _, _, built,
        (delivers_iff _ items _ rest holds.itemCount image (by omega) (by omega)).mpr zero⟩
  rw [outcome, PaddingFits, align8_add _ _ (by omega)]
  rcases lt_or_eq_of_le holds.few with free | full
  · refine ⟨fun _ => .inl free, fun _ => ?_⟩
    by_cases room : 8 * maxItems.toNat ≤ buf.length
    · have length := (holds.laid room).length
      have near := align8_lt (endFrom 0 items)
      rw [holds.size] at length
      refine ⟨by omega, ?_⟩
      rw [zeroed (by omega)]
      exact fun byte member => mem_zeros member
    · obtain rfl := holds.short (by omega)
      refine ⟨Nat.zero_le _, fun byte member => ?_⟩
      simp [endFrom, align8] at member
  · rw [← full]
    constructor
    · rintro ⟨bounded, zero⟩
      rcases lt_or_eq_of_le bounded with inside | ends
      · exact .inr (.inr (.inl inside))
      · have original := whole full (by omega)
        rw [← full] at original
        rw [List.take_of_length_le (by omega), original] at zero
        exact .inr (.inr (.inr ⟨ends, zero⟩))
    · have cleared (inside : 8 * items.length + align8 (endFrom 0 items) < buf.length) :
          ∀ byte ∈ rest.take (align8 (endFrom 0 items) - endFrom 0 items), byte = 0 := by
        rw [zeroed inside]
        exact fun byte member => mem_zeros member
      rintro (free | aligned | inside | ⟨ends, zero⟩)
      · exact absurd free (lt_irrefl _)
      · rw [align8_of_mod _ (by omega), Nat.sub_self, List.take_zero]
        exact ⟨by omega, fun byte member => absurd member List.not_mem_nil⟩
      · exact ⟨inside.le, cleared inside⟩
      · have original := whole full (by omega)
        rw [← full] at original
        refine ⟨ends.le, fun byte member => zero byte ?_⟩
        rw [← original]
        exact List.mem_of_mem_take member

/-- A 32-byte buffer with two directory slots, one of them used. -/
theorem roundTrip_half_full : (List.replicate 32 (0xAA : UInt8)).length < 2 ^ 32 ∧
    RoundTrip (List.replicate 32 0xAA) 2 [[1, 2, 3]] :=
  ⟨by decide, (roundTrip_iff_paddingFits (List.replicate 32 0xAA) 2 [[1, 2, 3]] (by decide)).mpr
    (.inl (by decide))⟩

/-- A five-byte item in a 13-byte buffer with one slot: `finish` answers 16 bytes. -/
theorem not_roundTrip_thirteen : ¬ RoundTrip (List.replicate 13 0xAA) 1 [[1, 2, 3, 4, 5]] := by
  rintro ⟨items, total, count, final, ran, delivers⟩
  have bounded := delivers.bounded
  have computed : (build (List.replicate 13 0xAA) 1 [[1, 2, 3, 4, 5]]).1 =
      .ok ([[1, 2, 3, 4, 5]], 16, 1) := by decide
  have size : (build (List.replicate 13 0xAA) 1 [[1, 2, 3, 4, 5]]).2.buf.length = 13 := by decide
  rw [ran] at computed size
  cases computed
  exact absurd (bounded.trans_eq size) (by decide)

end BatchBuilder

end NetIpc
