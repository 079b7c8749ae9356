/-
This file proves that the cache answers lookups as the last good snapshot would.

The number of buckets is a power of two at least twice the number of items, so the mask is
reduction modulo it and a free bucket is left; `enterItems` then builds a table of the
probing library, and `lookupFrom` walks it. Decoding a snapshot ends in its items or in an
error whatever the payload, so a refresh either replaces what the cache holds or counts a
failure.
-/

import NetIpc.CgroupsCache
import NetIpc.Rounding

namespace NetIpc.Cache

open NetIpc.Probing
open NetIpc.Snapshot (CgroupsItemView CgroupsResponseView)

/-! ### The buckets as a table -/

/-- The item a slot points to. -/
def tableOf (buckets : List CgroupsHashBucket) (slot : Nat) : Option Nat :=
  buckets[slot]?.bind fun bucket => if bucket.used then some bucket.index.toNat else none

/-- A size that is a power of two, and the mask that cuts off what is above it. -/
structure Ring (size : Nat) (mask : UInt32) : Prop where
  short : size ≤ 2 ^ 31
  mask : ∃ exponent, size = 2 ^ exponent ∧ mask.toNat = 2 ^ exponent - 1

section Ring

variable {size : Nat} {mask : UInt32} {buckets : List CgroupsHashBucket}

theorem Ring.positive (ring : Ring size mask) : 0 < size := by
  obtain ⟨exponent, power, -⟩ := ring.mask
  rw [power]
  exact Nat.two_pow_pos exponent

theorem Ring.toNat_and (ring : Ring size mask) (value : UInt32) :
    (value &&& mask).toNat = value.toNat % size := by
  obtain ⟨exponent, power, masked⟩ := ring.mask
  rw [UInt32.toNat_and, masked, Nat.and_two_pow_sub_one_eq_mod, power]

variable {slot : UInt32}

theorem Ring.toNat_next (ring : Ring size mask) (inside : slot.toNat < size) :
    ((slot + 1) &&& mask).toNat = place size slot.toNat 1 := by
  have short := ring.short
  have small : slot.toNat + 1 < 2 ^ 32 := by omega
  rw [ring.toNat_and, UInt32.toNat_add, UInt32.toNat_one, Nat.mod_eq_of_lt small, place]

theorem bucketAt_of_tableOf_none (inside : slot.toNat < buckets.length)
    (free : tableOf buckets slot.toNat = none) :
    ∃ bucket, bucketAt buckets slot = .ok bucket ∧ bucket.used = false := by
  rw [tableOf, List.getElem?_eq_getElem inside] at free
  refine ⟨buckets[slot.toNat], by rw [bucketAt, List.getElem?_eq_getElem inside], ?_⟩
  by_contra used
  simp [used] at free

theorem bucketAt_of_tableOf_some {entry : Nat} (held : tableOf buckets slot.toNat = some entry) :
    ∃ bucket, bucketAt buckets slot = .ok bucket ∧ bucket.used = true ∧
      bucket.index.toNat = entry := by
  obtain ⟨bucket, found, held⟩ := Option.bind_eq_some_iff.mp held
  refine ⟨bucket, by rw [bucketAt, found], ?_⟩
  by_cases used : bucket.used = true
  · rw [if_pos used] at held
    exact ⟨used, Option.some.inj held⟩
  · rw [if_neg used] at held
    exact nomatch held

/-- A loop that goes on to the next slot as long as a slot holds an entry it passes by. -/
theorem Ring.walk {α : Type} (ring : Ring size mask) {table : Nat → Option Nat}
    (passes : Nat → Prop) (loop : Nat → UInt32 → α)
    (goesOn : ∀ fuel slot entry, table slot.toNat = some entry → passes entry → loop (fuel + 1) slot
      = loop fuel ((slot + 1) &&& mask))
    {distance fuel : Nat} (enough : distance ≤ fuel) (inside : slot.toNat < size)
    (taken : ∀ nearer < distance, ∃ entry, table (place size slot.toNat nearer) = some entry ∧
      passes entry) :
    ∃ last : UInt32, last.toNat = place size slot.toNat distance ∧
      loop fuel slot = loop (fuel - distance) last := by
  induction distance generalizing fuel slot with
  | zero => exact ⟨slot, (place_zero inside).symm, rfl⟩
  | succ distance ih =>
    obtain ⟨fuel, rfl⟩ := Nat.exists_eq_add_of_le' (Nat.one_le_of_lt enough)
    obtain ⟨entry, held, passed⟩ := taken 0 (Nat.succ_pos _)
    rw [place_zero inside] at held
    have next := ring.toNat_next inside
    rw [goesOn fuel slot entry held passed, place_succ, ← next, Nat.add_sub_add_right]
    refine ih (Nat.le_of_succ_le_succ enough) ?_ fun nearer near => ?_
    · rw [next]
      exact place_lt ring.positive _ _
    · rw [next, ← place_succ]
      exact taken (nearer + 1) (Nat.succ_lt_succ near)

/-- The loop of `refresh` stops at the first free slot. -/
theorem freeSlot_eq (ring : Ring buckets.length mask) {distance fuel : Nat}
    (enough : distance < fuel) (inside : slot.toNat < buckets.length)
    (free : tableOf buckets (place buckets.length slot.toNat distance) = none)
    (taken : ∀ nearer < distance, ∃ entry, tableOf buckets (place buckets.length slot.toNat nearer)
      = some entry) :
    ∃ found, freeSlot buckets mask fuel slot = .ok found ∧
      found.toNat = place buckets.length slot.toNat distance := by
  have goesOn : ∀ fuel slot entry, tableOf buckets slot.toNat = some entry → True →
      freeSlot buckets mask (fuel + 1) slot =
        freeSlot buckets mask fuel ((slot + 1) &&& mask) := by
    intro fuel slot entry held _
    obtain ⟨bucket, read, used, -⟩ := bucketAt_of_tableOf_some held
    rw [freeSlot, read, ok_bind, if_pos used]
  obtain ⟨last, reached, walked⟩ := ring.walk (fun _ => True) (freeSlot buckets mask) goesOn
    enough.le inside (by simpa using taken)
  refine ⟨last, ?_, reached⟩
  rw [← reached] at free
  have insideLast : last.toNat < buckets.length := reached ▸ place_lt ring.positive _ _
  obtain ⟨bucket, read, unused⟩ := bucketAt_of_tableOf_none insideLast free
  obtain ⟨rest, remains⟩ := Nat.exists_eq_add_of_le' (Nat.sub_pos_of_lt enough)
  rw [walked, remains, freeSlot, read, ok_bind, unused]
  rfl

end Ring

/-! ### Building the table -/

/-- The slot a key is meant for. -/
def keySlot (size : Nat) (hash : UInt32) (name : Bytes) : Nat :=
  (hash ^^^ cacheHashName name).toNat % size

/-- The slot an item is meant for. -/
def home (size : Nat) (items : List CgroupsCacheItem) (entry : Nat) : Nat :=
  match items[entry]? with
  | some item => keySlot size item.hash item.name
  | none => 0

theorem home_append (size : Nat) (before rest : List CgroupsCacheItem) (item : CgroupsCacheItem) :
    home size (before ++ item :: rest) before.length = keySlot size item.hash item.name := by
  rw [home, List.getElem?_append_right (Nat.le_refl _), Nat.sub_self]
  rfl

theorem Ring.toNat_homeSlot {size : Nat} {mask : UInt32} (ring : Ring size mask) (hash : UInt32)
    (name : Bytes) : (homeSlot mask hash name).toNat = keySlot size hash name :=
  ring.toNat_and _

theorem tableOf_set {buckets : List CgroupsHashBucket} {slot entry : Nat}
    (inside : slot < buckets.length) (small : entry < 2 ^ 32) :
    tableOf (buckets.set slot ⟨UInt32.ofNat entry, true⟩) =
      Function.update (tableOf buckets) slot (some entry) := by
  funext other
  by_cases same : other = slot
  · rw [same, Function.update_self, tableOf, List.getElem?_set_self inside]
    simp only [Option.bind_some, if_true, UInt32.toNat_ofNat_of_lt' small]
  · rw [Function.update_of_ne same, tableOf, List.getElem?_set_ne (Ne.symm same), tableOf]

/-- The buckets are a table of the items. -/
structure TableFor (items : List CgroupsCacheItem) (size : Nat) (count : Nat)
    (buckets : List CgroupsHashBucket) : Prop where
  length : buckets.length = size
  filled : Filled size (home size items) (tableOf buckets) count

variable {items : List CgroupsCacheItem}

/-- The loop over the items enters them all. -/
theorem enterItems_tableFor {fuel size : Nat} {mask : UInt32} (enough : 2 ^ 31 ≤ fuel)
    (ring : Ring size mask) (room : items.length < size) (before rest : List CgroupsCacheItem)
    (all : before ++ rest = items) (buckets : List CgroupsHashBucket)
    (table : TableFor items size before.length buckets) :
    ∃ built, enterItems fuel mask before.length rest buckets = .ok built ∧
      TableFor items size items.length built := by
  induction rest generalizing before buckets with
  | nil =>
    rw [List.append_nil] at all
    exact ⟨buckets, rfl, all ▸ table⟩
  | cons item rest ih =>
    have counted : before.length < items.length := by simp [← all]
    have start : home size items before.length = (homeSlot mask item.hash item.name).toNat := by
      rw [ring.toNat_homeSlot, ← all, home_append]
    obtain ⟨distance, inside, free, taken⟩ :=
      table.filled.exists_free (counted.trans room) (home size items before.length)
    have entered := table.filled.insert inside free taken
    have short := ring.short
    obtain ⟨slot, found, reached⟩ : ∃ slot, freeSlot buckets mask fuel
        (homeSlot mask item.hash item.name) = .ok slot ∧
        slot.toNat = place size (home size items before.length) distance := by
      cases table.length
      rw [start] at free taken ⊢
      refine freeSlot_eq ring (by omega) ?_ free taken
      rw [ring.toNat_homeSlot]
      exact Nat.mod_lt _ ring.positive
    have insideSlot : slot.toNat < buckets.length := by
      rw [reached, table.length]
      exact place_lt ring.positive _ _
    rw [← reached, ← tableOf_set insideSlot (by omega)] at entered
    rw [enterItems, found, ok_bind]
    have next := ih (before ++ [item])
      ((List.append_cons before item rest).symm.trans all)
      (buckets.set slot.toNat ⟨UInt32.ofNat before.length, true⟩)
    rw [List.length_append] at next
    exact next ⟨List.length_set.trans table.length, entered⟩

/-- There is room for twice the items. -/
theorem ring_bucketCount (few : items.length ≤ 2 ^ 30) :
    Ring (bucketCount items).toNat (bucketCount items - 1) ∧
      2 * items.length ≤ (bucketCount items).toNat := by
  have double : (UInt32.ofNat items.length * 2).toNat = 2 * items.length := by
    rw [UInt32.toNat_mul, UInt32.toNat_ofNat_of_lt' (by change _ < 2 ^ 32; omega)]
    change items.length * 2 % 2 ^ 32 = _
    omega
  obtain ⟨exponent, small, power, large⟩ := Rounding.nextPowerOf2U32_eq
    (n := UInt32.ofNat items.length * 2) (by omega)
  have least := Nat.two_pow_pos exponent
  have most : 2 ^ exponent ≤ 2 ^ 31 := Nat.pow_le_pow_right (by decide) small
  rw [bucketCount, power, ← double]
  refine ⟨⟨most, exponent, rfl, ?_⟩, large⟩
  rw [UInt32.toNat_sub_of_le _ _ (UInt32.le_iff_toNat_le.mpr (by rw [power]; exact least)), power]
  rfl

/-- `refresh` builds a table of the items. -/
theorem buildBuckets_tableFor {fuel : Nat} (enough : 2 ^ 31 ≤ fuel) (few : items.length ≤ 2 ^ 30)
    (some : items ≠ []) :
    ∃ buckets, buildBuckets fuel items = .ok buckets ∧
      TableFor items (bucketCount items).toNat items.length buckets := by
  obtain ⟨ring, large⟩ := ring_bucketCount few
  have positive := List.length_pos_iff.mpr some
  have room : items.length < (bucketCount items).toNat := by omega
  rw [buildBuckets, if_neg some]
  refine enterItems_tableFor enough ring room [] items rfl _ ⟨List.length_replicate, ?_⟩
  have empty : tableOf (List.replicate (bucketCount items).toNat ⟨0, false⟩) = fun _ => none := by
    funext slot
    by_cases inside : slot < (bucketCount items).toNat
    · simp [tableOf, inside]
    · simp [tableOf, inside]
  rw [empty]
  exact Filled.empty _ _

/-! ### Looking up -/

/-- The test of a lookup. -/
def isKey (hash : UInt32) (name : Bytes) (item : CgroupsCacheItem) : Bool :=
  item.hash = hash ∧ item.name = name

theorem itemAt_eq {cache : CgroupsCache} {index : UInt32} {item : CgroupsCacheItem}
    (found : cache.items[index.toNat]? = some item) : cache.itemAt index = .ok item := by
  rw [CgroupsCache.itemAt, found]

section Lookup

variable {cache : CgroupsCache} {size : Nat} {mask hash : UInt32} {name : Bytes}

/-- The loop of `lookup` passes by the items with another key. -/
theorem lookupFrom_passes (fuel : Nat) (slot : UInt32) (entry : Nat)
    (held : tableOf cache.buckets slot.toNat = some entry)
    (other : ∃ item, cache.items[entry]? = some item ∧ isKey hash name item = false) :
    cache.lookupFrom mask hash name (fuel + 1) slot =
      cache.lookupFrom mask hash name fuel ((slot + 1) &&& mask) := by
  obtain ⟨bucket, read, used, rfl⟩ := bucketAt_of_tableOf_some held
  obtain ⟨item, found, differs⟩ := other
  rw [CgroupsCache.lookupFrom, read, ok_bind, if_pos used, itemAt_eq found, ok_bind,
    if_neg (of_decide_eq_false differs)]

theorem lookupFrom_free (fuel : Nat) {slot : UInt32} (inside : slot.toNat < cache.buckets.length)
    (free : tableOf cache.buckets slot.toNat = none) :
    cache.lookupFrom mask hash name (fuel + 1) slot = .ok none := by
  obtain ⟨bucket, read, unused⟩ := bucketAt_of_tableOf_none inside free
  rw [CgroupsCache.lookupFrom, read, ok_bind, unused]
  rfl

theorem lookupFrom_found (fuel : Nat) {slot : UInt32} {entry : Nat} {item : CgroupsCacheItem}
    (held : tableOf cache.buckets slot.toNat = some entry)
    (present : cache.items[entry]? = some item) (key : isKey hash name item = true) :
    cache.lookupFrom mask hash name (fuel + 1) slot = .ok (some item) := by
  obtain ⟨bucket, read, used, rfl⟩ := bucketAt_of_tableOf_some held
  rw [CgroupsCache.lookupFrom, read, ok_bind, if_pos used, itemAt_eq present, ok_bind,
    if_pos (of_decide_eq_true key)]
  rfl

/-- The search for a key comes to the slot before which there are only items with other keys. -/
theorem lookupFrom_reaches {fuel distance : Nat} (enough : 2 ^ 31 ≤ fuel) (ring : Ring size mask)
    (near : distance < size) (others : ∀ nearer < distance, ∃ entry,
      tableOf cache.buckets (place size (keySlot size hash name) nearer) = some entry ∧
      ∃ item, cache.items[entry]? = some item ∧ isKey hash name item = false) :
    ∃ (last : UInt32) (rest : Nat), last.toNat = place size (keySlot size hash name) distance ∧
      cache.lookupFrom mask hash name fuel (homeSlot mask hash name) =
        cache.lookupFrom mask hash name (rest + 1) last := by
  have short := ring.short
  have start := ring.toNat_homeSlot hash name
  rw [← start] at others ⊢
  have inside : (homeSlot mask hash name).toNat < size := by
    rw [start]
    exact Nat.mod_lt _ ring.positive
  obtain ⟨last, reached, walked⟩ := ring.walk _ (cache.lookupFrom mask hash name)
    lookupFrom_passes (show distance ≤ fuel by omega) inside others
  obtain ⟨rest, remains⟩ := Nat.exists_eq_add_of_le' (show 1 ≤ fuel - distance by omega)
  exact ⟨last, rest, reached, remains ▸ walked⟩

/-- The search for a key in a table of the items finds the first item with it. -/
theorem lookupFrom_eq {fuel : Nat} (enough : 2 ^ 31 ≤ fuel) (ring : Ring size mask)
    (room : cache.items.length < size)
    (table : TableFor cache.items size cache.items.length cache.buckets) :
    cache.lookupFrom mask hash name fuel (homeSlot mask hash name) =
      .ok (cache.items.find? (isKey hash name)) := by
  cases found : cache.items.find? (isKey hash name) with
  | none =>
    obtain ⟨distance, near, free, taken⟩ := table.filled.exists_free room (keySlot size hash name)
    obtain ⟨last, rest, reached, walked⟩ := lookupFrom_reaches enough ring near (by
      intro nearer closer
      obtain ⟨entry, held⟩ := taken nearer closer
      have present := List.getElem?_eq_getElem (table.filled.bound _ _ held)
      have differs := List.find?_eq_none.mp found _ (List.mem_of_getElem? present)
      exact ⟨entry, held, _, present, Bool.eq_false_iff.mpr differs⟩)
    rw [← reached] at free
    rw [walked]
    exact lookupFrom_free rest (by rw [reached, table.length]; exact place_lt ring.positive _ _)
      free
  | some item =>
    obtain ⟨key, entry, bound, rfl, first⟩ := List.find?_eq_some_iff_getElem.mp found
    have present := List.getElem?_eq_getElem bound
    have start : home size cache.items entry = keySlot size hash name := by
      obtain ⟨sameHash, sameName⟩ := of_decide_eq_true key
      simp only [home, present, sameHash, sameName]
    -- every slot before the item's own holds an earlier item, and those have other keys
    obtain ⟨distance, near, held, before⟩ := table.filled.placed entry bound
    rw [start] at held before
    obtain ⟨last, rest, reached, walked⟩ := lookupFrom_reaches enough ring near (by
      intro nearer closer
      obtain ⟨earlier, early, holds⟩ := before nearer closer
      have differs := first earlier early
      exact ⟨earlier, holds, _, List.getElem?_eq_getElem (early.trans bound),
        Bool.not_eq_true' _ ▸ differs⟩)
    rw [← reached] at held
    rw [walked]
    exact lookupFrom_found rest held present key

end Lookup

/-! ### Reading a snapshot -/

/-- No error is out of the question. -/
abbrev Total {α : Type} (result : Res NipcError α) : Prop := Ordinary (fun _ => True) result

/-- What the decoder has checked of the directory. -/
structure Checked (view : CgroupsResponseView) : Prop where
  directory : 24 + view.itemCount.toNat * 8 ≤ view.payload.length
  entry : ∀ index < view.itemCount.toNat, Snapshot.checkSnapshotEntry view.payload
    (view.payload.length - (24 + view.itemCount.toNat * 8)) index = .ok ()

theorem total_checkSnapshotEntry {buf : Bytes} {packedAreaLen index : Nat}
    (inside : 24 + index * 8 + 8 ≤ buf.length) :
    Total (Snapshot.checkSnapshotEntry buf packedAreaLen index) := by
  have size : Snapshot.cgroupsRespHdrSize = 24 := rfl
  refine (ordinary_u32At (by omega)).bind fun off _ => ?_
  refine (ordinary_u32At (by omega)).bind fun len _ => ?_
  exact .guard trivial fun _ => .guard trivial fun _ =>
    ordinary_rejectIf trivial

theorem total_decode (buf : Bytes) : Total (CgroupsResponseView.decode buf) := by
  have size : Snapshot.cgroupsRespHdrSize = 24 := rfl
  refine .guard trivial fun long => ?_
  iterate 2 refine (ordinary_u16At (by omega)).bind fun _ _ => ?_
  refine (ordinary_u32At (by omega)).bind fun itemCount _ => ?_
  iterate 2 refine (ordinary_u32At (by omega)).bind fun _ _ => ?_
  refine (ordinary_u64At (by omega)).bind fun generation _ => ?_
  iterate 3 refine .guard trivial fun _ => ?_
  refine (ordinary_okOr trivial).bind fun dirSize multiplied => ?_
  refine (ordinary_okOr trivial).bind fun dirEnd added => ?_
  refine .guard trivial fun fits => ?_
  have sized := checkedMul_eq_some (okOr_eq_ok multiplied)
  have ended := checkedAdd_eq_some (okOr_eq_ok added)
  refine (ordinary_forFrom (fun index _ _ bound => ?_) ()).bind fun _ _ => trivial
  have entrySize : Snapshot.cgroupsDirEntrySize = 8 := rfl
  exact total_checkSnapshotEntry (by rw [entrySize] at sized; omega)

theorem decode_checked {buf : Bytes} {view : CgroupsResponseView}
    (decoded : CgroupsResponseView.decode buf = .ok view) : Checked view := by
  iterate 3 obtain ⟨_, -, decoded⟩ := bind_eq_ok decoded
  obtain ⟨itemCount, -, decoded⟩ := bind_eq_ok decoded
  iterate 6 obtain ⟨_, -, decoded⟩ := bind_eq_ok decoded
  obtain ⟨dirSize, multiplied, decoded⟩ := bind_eq_ok decoded
  obtain ⟨dirEnd, added, decoded⟩ := bind_eq_ok decoded
  obtain ⟨fits, decoded⟩ := guard_eq_ok decoded
  obtain ⟨_, entries, decoded⟩ := bind_eq_ok decoded
  cases decoded
  have sized := checkedMul_eq_some (okOr_eq_ok multiplied)
  have ended := checkedAdd_eq_some (okOr_eq_ok added)
  have dirEnd : dirEnd = 24 + itemCount.toNat * 8 := by rw [ended.1, sized.1]; rfl
  rw [dirEnd] at fits entries
  exact {
    directory := Nat.le_of_not_lt fits
    entry := fun index inside => (forFrom_unit_eq_ok _ _ _).mp entries index (Nat.zero_le _)
      (by rwa [Nat.zero_add]) }

/-- A string whose view was made covers its length. -/
def Covered (text : StrView) : Prop := text.len.toNat ≤ text.bytes.length

variable {item : Bytes} {fuel : Nat} {cache : CgroupsCache}

variable {itemLen : Nat} {view : CgroupsResponseView}

theorem total_checkItemString {off len : Nat} (whole : item.length = itemLen) :
    Total (Snapshot.checkItemString item itemLen off len) := by
  refine .guard trivial fun _ => ?_
  refine .guard trivial fun inside => ?_
  have present := List.getElem?_eq_getElem (show off + len < item.length by omega)
  rw [readByte_of_getElem? present, ok_bind]
  exact ordinary_rejectIf trivial

theorem checkItemString_inside {off len : Nat}
    (passed : Snapshot.checkItemString item itemLen off len = .ok ()) :
    off + len + 1 ≤ itemLen := by
  obtain ⟨-, -, passed⟩ := bind_eq_ok passed
  obtain ⟨_, inside, -⟩ := bind_eq_ok passed
  exact Nat.le_of_not_lt (rejectIf_eq_ok inside)

theorem total_decodeSnapshotItem (whole : item.length = itemLen) (long : 32 ≤ itemLen) :
    Total (Snapshot.decodeSnapshotItem item itemLen) := by
  iterate 2 refine (ordinary_u16At (by omega)).bind fun _ _ => ?_
  iterate 7 refine (ordinary_u32At (by omega)).bind fun _ _ => ?_
  iterate 2 refine .guard trivial fun _ => ?_
  refine (total_checkItemString whole).bind fun _ name => ?_
  refine (total_checkItemString whole).bind fun _ path => ?_
  refine .guard trivial fun _ => ?_
  refine (ordinary_readSlice (by omega) (whole ▸ checkItemString_inside name)).bind fun _ _ => ?_
  exact (ordinary_readSlice (by omega) (whole ▸ checkItemString_inside path)).bind fun _ _ =>
    trivial

theorem decodeSnapshotItem_covered {view : CgroupsItemView}
    (decoded : Snapshot.decodeSnapshotItem item itemLen = .ok view) :
    Covered view.name ∧ Covered view.path := by
  iterate 14 obtain ⟨_, -, decoded⟩ := bind_eq_ok decoded
  obtain ⟨name, nameRead, decoded⟩ := bind_eq_ok decoded
  obtain ⟨path, pathRead, decoded⟩ := bind_eq_ok decoded
  cases decoded
  obtain ⟨-, nameInside, rfl⟩ := readSlice_eq_ok nameRead
  obtain ⟨-, pathInside, rfl⟩ := readSlice_eq_ok pathRead
  constructor
  · rw [Covered, length_slice _ _ _ (by omega)]
    dsimp only
    omega
  · rw [Covered, length_slice _ _ _ (by omega)]
    dsimp only
    omega

theorem total_item (checked : Checked view) (index : UInt32) : Total (view.item index) := by
  refine (ordinary_rejectIf trivial).bind fun _ inside => ?_
  have inside : index.toNat < view.itemCount.toNat :=
    UInt32.lt_iff_toNat_lt.mp (UInt32.not_le.mp (rejectIf_eq_ok inside))
  have directory := checked.directory
  have entry := checked.entry index.toNat inside
  obtain ⟨off, offRead, entry⟩ := bind_eq_ok entry
  obtain ⟨len, lenRead, entry⟩ := bind_eq_ok entry
  obtain ⟨-, -, entry⟩ := bind_eq_ok entry
  obtain ⟨bounded, entry⟩ := guard_eq_ok entry
  have long := rejectIf_eq_ok entry
  have size : Snapshot.cgroupsRespHdrSize = 24 := rfl
  have entrySize : Snapshot.cgroupsDirEntrySize = 8 := rfl
  have itemSize : Snapshot.cgroupsItemHdrSize = 32 := rfl
  rw [itemSize] at long
  dsimp only
  rw [offRead, ok_bind, lenRead, ok_bind, size, entrySize]
  have whole : 24 + view.itemCount.toNat * 8 + off.toNat + len.toNat ≤ view.payload.length := by
    omega
  rw [readSlice_of_le (Nat.le_add_right _ _) whole, ok_bind, Nat.add_sub_cancel_left]
  exact total_decodeSnapshotItem (length_slice _ _ _ whole) (Nat.le_of_not_lt long)

theorem item_covered {index : UInt32} {iv : CgroupsItemView} (read : view.item index = .ok iv) :
    Covered iv.name ∧ Covered iv.path := by
  obtain ⟨-, -, read⟩ := bind_eq_ok read
  obtain ⟨itemOff, -, read⟩ := bind_eq_ok read
  obtain ⟨itemLen, -, read⟩ := bind_eq_ok read
  obtain ⟨item, -, read⟩ := bind_eq_ok read
  exact decodeSnapshotItem_covered read

theorem total_ownedText {text : StrView} (covered : Covered text) : Total (ownedText text) :=
  (ordinary_readSlice (Nat.zero_le _) covered).bind fun _ _ => trivial

theorem total_ownedItem (checked : Checked view) (index : Nat) : Total (ownedItem view index) := by
  refine (total_item checked _).bind fun iv read => ?_
  obtain ⟨name, path⟩ := item_covered read
  exact (total_ownedText name).bind fun _ _ => (total_ownedText path).bind fun _ _ => trivial

/-- Fetching a snapshot ends in a snapshot or an error, whatever was received. -/
theorem total_fetch (answer : Except NipcError Bytes) : Total (fetch answer) := by
  cases answer with
  | error error => trivial
  | ok payload =>
    refine (total_decode payload).bind fun view decoded => ?_
    exact (ordinary_collectFrom (total_ownedItem (decode_checked decoded))).bind fun _ _ => trivial

/-! ### The cache mirrors the last good snapshot -/

/-- The cache holds the items of a snapshot and a table of them, or nothing. -/
def Mirrors (cache : CgroupsCache) : Option (List CgroupsCacheItem) → Prop
  | none => cache.populated = false
  | some items => cache.populated = true ∧ cache.items = items ∧ items.length ≤ 2 ^ 30 ∧
    (items = [] → cache.buckets = []) ∧
    (items ≠ [] → TableFor items (bucketCount items).toNat items.length cache.buckets)

variable {good : Option (List CgroupsCacheItem)} {view : CgroupsResponseView}
  {items : List CgroupsCacheItem}

theorem lookup_mirrors (enough : 2 ^ 31 ≤ fuel) (mirrors : Mirrors cache good) (hash : UInt32)
    (name : Bytes) : cache.lookup fuel hash name = .ok (good.bind (·.find? (isKey hash name))) := by
  cases good with
  | none =>
    have unpopulated : cache.populated = false := mirrors
    rw [CgroupsCache.lookup, if_pos unpopulated]
    rfl
  | some items =>
    obtain ⟨populated, rfl, few, empty, table⟩ := mirrors
    rw [CgroupsCache.lookup, if_neg (by simp [populated])]
    by_cases none : cache.items = []
    · rw [if_neg (by simp [empty none])]
      rfl
    · have table := table none
      obtain ⟨ring, large⟩ := ring_bucketCount few
      have positive := List.length_pos_iff.mpr none
      have long := table.length
      have some : cache.buckets ≠ [] := by
        rw [← List.length_pos_iff]
        omega
      have mask : UInt32.ofNat (cache.buckets.length - 1) = bucketCount cache.items - 1 := by
        have small : 1 ≤ bucketCount cache.items := UInt32.le_iff_toNat_le.mpr ring.positive
        rw [long, ← UInt32.toNat_one, ← UInt32.toNat_sub_of_le _ _ small, UInt32.ofNat_toNat]
      rw [if_pos some]
      dsimp only
      rw [mask]
      exact lookupFrom_eq enough ring (by omega) table

/-- A refresh that obtains no good snapshot counts a failure and changes nothing else. -/
theorem refresh_failed (fuel : Nat) {answer : Except NipcError Bytes} (elapsed : UInt64)
    (bad : received answer = none) (cache : CgroupsCache) :
    (CgroupsCache.refresh fuel answer elapsed).run cache =
      (.ok false, { cache with refreshFailureCount := cache.refreshFailureCount + 1 }) := by
  have total := total_fetch answer
  rw [CgroupsCache.refresh, Prog.run_inspect, Prog.run_ofRes]
  cases fetched : fetch answer with
  | ok snapshot =>
    rw [received, fetched] at bad
    exact nomatch bad
  | error reason =>
    rw [fetched] at total
    cases reason with
    | err error => rfl
    | panic | fuel => exact total.elim

/-- A refresh that obtains a good snapshot replaces what the cache held. -/
theorem refresh_mirrors (enough : 2 ^ 31 ≤ fuel) {answer : Except NipcError Bytes}
    (elapsed : UInt64) (good : received answer = some items) (few : items.length ≤ 2 ^ 30)
    (cache : CgroupsCache) :
    ∃ after, (CgroupsCache.refresh fuel answer elapsed).run cache = (.ok true, after) ∧
      Mirrors after (some items) := by
  rw [CgroupsCache.refresh, Prog.run_inspect, Prog.run_ofRes]
  cases fetched : fetch answer with
  | error reason =>
    rw [received, fetched] at good
    exact nomatch good
  | ok snapshot =>
    rw [received, fetched] at good
    cases good
    obtain ⟨buckets, built, shape⟩ : ∃ buckets, buildBuckets fuel snapshot.2 = .ok buckets ∧
        (snapshot.2 = [] → buckets = []) ∧ (snapshot.2 ≠ [] →
          TableFor snapshot.2 (bucketCount snapshot.2).toNat snapshot.2.length buckets) := by
      by_cases none : snapshot.2 = []
      · exact ⟨[], by rw [buildBuckets, if_pos none], fun _ => rfl, fun some => absurd none some⟩
      · obtain ⟨buckets, built, table⟩ := buildBuckets_tableFor enough few none
        exact ⟨buckets, built, fun some => absurd some none, fun _ => table⟩
    dsimp only
    rw [built]
    exact ⟨_, rfl, rfl, rfl, few, shape⟩

/-- What a step does to a cache that mirrors a snapshot. -/
theorem step_mirrors (enough : 2 ^ 31 ≤ fuel) (step : Step)
    (few : ∀ answer elapsed items, step = .refresh answer elapsed → received answer = some items →
      items.length ≤ 2 ^ 30)
    (mirrors : Mirrors cache good) : ∃ after, (step.perform fuel).run cache = (.ok (), after) ∧
      Mirrors after (lastGood good step) := by
  cases step with
  | close => exact ⟨_, rfl, rfl⟩
  | refresh answer elapsed =>
    cases obtained : received answer with
    | none =>
      have ran := refresh_failed fuel elapsed obtained cache
      refine ⟨_, Prog.run_bind_ok ran, ?_⟩
      rw [lastGood, obtained]
      cases good <;> exact mirrors
    | some items =>
      obtain ⟨after, ran, mirrors⟩ := refresh_mirrors enough elapsed obtained
        (few answer elapsed items rfl obtained) cache
      refine ⟨after, Prog.run_bind_ok ran, ?_⟩
      rw [lastGood, obtained]
      exact mirrors

/-- What a run does to a cache that mirrors a snapshot. -/
theorem perform_mirrors (enough : 2 ^ 31 ≤ fuel) (steps : List Step)
    (few : ∀ answer elapsed items, .refresh answer elapsed ∈ steps → received answer = some items →
      items.length ≤ 2 ^ 30)
    (mirrors : Mirrors cache good) : ∃ after, (perform fuel steps).run cache = (.ok (), after) ∧
      Mirrors after (steps.foldl lastGood good) := by
  induction steps generalizing cache good with
  | nil => exact ⟨cache, rfl, mirrors⟩
  | cons step rest ih =>
    obtain ⟨after, ran, mirrors⟩ := step_mirrors enough step
      (fun answer elapsed items same => few answer elapsed items (same ▸ List.mem_cons_self))
      mirrors
    obtain ⟨final, ranRest, mirrors⟩ := ih
      (fun answer elapsed items member => few answer elapsed items
        (List.mem_cons_of_mem _ member)) mirrors
    exact ⟨final, (Prog.run_bind_ok ran).trans ranRest, mirrors⟩

/-- **The cache answers as the last good snapshot**: after every run of refreshes and closes, a
lookup ends and finds the first item of the last good snapshot since the last close that has the
hash and the name; and a refresh that obtains no good snapshot changes nothing but its counter. -/
theorem perform_lookup (fuel : Nat) (enough : 2 ^ 31 ≤ fuel) (steps : List Step)
    (few : ∀ answer elapsed items, .refresh answer elapsed ∈ steps →
      received answer = some items → items.length ≤ 2 ^ 30) :
    ∃ cache, (perform fuel steps).run CgroupsCache.new = (.ok (), cache) ∧
      (∀ hash name, cache.lookup fuel hash name = .ok ((steps.foldl lastGood none).bind
        (·.find? fun item => item.hash = hash ∧ item.name = name))) ∧
      ∀ answer elapsed, received answer = none →
        (CgroupsCache.refresh fuel answer elapsed).run cache =
          (.ok false, { cache with refreshFailureCount := cache.refreshFailureCount + 1 }) := by
  have empty : Mirrors CgroupsCache.new none := rfl
  obtain ⟨cache, ran, mirrors⟩ := perform_mirrors enough steps few empty
  exact ⟨cache, ran, lookup_mirrors enough mirrors,
    fun answer elapsed bad => refresh_failed fuel elapsed bad cache⟩

/-- A snapshot with two items that have one key. -/
def twinPayload : Bytes := Snapshot.snapshotImage 1 7
  [(⟨5, 0, 1, [97], [47, 97]⟩ : Snapshot.Item).image,
    (⟨5, 0, 0, [97], [47, 98]⟩ : Snapshot.Item).image]

/-- The first of the twins is found, also after a refresh that fails. -/
theorem perform_lookup_twins : ∃ cache,
    (perform (2 ^ 31) [.refresh (.ok twinPayload) 3, .refresh (.ok []) 4]).run CgroupsCache.new =
      (.ok (), cache) ∧
    cache.lookup (2 ^ 31) 5 [97] = .ok (some ⟨5, 0, 1, [97], [47, 97]⟩) := by
  have twins : received (.ok twinPayload) =
      some [⟨5, 0, 1, [97], [47, 97]⟩, ⟨5, 0, 0, [97], [47, 98]⟩] := by decide +kernel
  have broken : received (.ok []) = none := by decide +kernel
  obtain ⟨cache, ran, looked, -⟩ := perform_lookup (2 ^ 31) (Nat.le_refl _)
    [.refresh (.ok twinPayload) 3, .refresh (.ok []) 4] (by
      intro answer elapsed items member obtained
      rcases List.mem_cons.mp member with same | member
      · cases same
        cases twins.symm.trans obtained
        decide
      · cases List.mem_singleton.mp member
        exact nomatch broken.symm.trans obtained)
  refine ⟨cache, ran, (looked 5 [97]).trans ?_⟩
  simp only [List.foldl_cons, List.foldl_nil, lastGood, twins, broken]
  decide

/-! ### From the builder of the server to a lookup -/

/-- The copy the cache keeps of an item. -/
def copied (item : Snapshot.Item) : CgroupsCacheItem :=
  let owned (text : Bytes) := if isUtf8 text then text else fromUtf8Lossy text
  ⟨item.hash, item.options, item.enabled, owned item.name, owned item.path⟩

theorem received_delivers {payload : Bytes} {header : UInt32 × UInt64}
    {added : List Snapshot.Item} (delivers : Snapshot.Delivers payload header added) :
    received (.ok payload) = some (added.map copied) := by
  obtain ⟨view, decoded, counted, -, -, shows⟩ := delivers.decodes
  have collected : collectFrom (ownedItem view) 0 (added.map copied).length =
      .ok (added.map copied) := by
    refine collectFrom_of_getElem? _ 0 _ fun index copy found => ?_
    rw [List.getElem?_map] at found
    obtain ⟨item, listed, rfl⟩ := Option.map_eq_some_iff.mp found
    obtain ⟨shown, read, fields⟩ := shows index item listed
    rw [Nat.zero_add, ownedItem, read, ok_bind, ownedText, fields.name, ok_bind, ownedText,
      fields.path, fields.hash, fields.options, fields.enabled]
    rfl
  rw [List.length_map, ← counted] at collected
  rw [received, fetch]
  simp only [Except.mapError, ok_bind, decoded, collected]
  rfl

/-- A cache that is refreshed with what the builder of a server wrote finds, for every hash and
name, the first item the server added with them, whatever the cache held before. -/
theorem refresh_lookup (fuel : Nat) (enough : 2 ^ 31 ≤ fuel) (buf : Bytes)
    (maxItems systemdEnabled : UInt32) (generation : UInt64) (script : Snapshot.Script)
    (builder : Snapshot.CgroupsBuilder)
    (created : Snapshot.CgroupsBuilder.new buf maxItems systemdEnabled generation = .ok builder) :
    ∃ calls accepted between size final,
      script.perform.run builder = (.ok (calls, accepted), between) ∧
      Snapshot.CgroupsBuilder.finish.run between = (.ok size, final) ∧
      ((Snapshot.addedItems calls).length ≤ 2 ^ 30 → ∀ cache elapsed, ∃ after,
        (CgroupsCache.refresh fuel (.ok (final.buf.take size)) elapsed).run cache =
          (.ok true, after) ∧
        ∀ hash name, after.lookup fuel hash name =
          .ok (((Snapshot.addedItems calls).map copied).find? (isKey hash name))) := by
  rw [Snapshot.CgroupsBuilder.new_eq] at created
  split at created
  · rename_i room
    cases created
    obtain ⟨calls, accepted, between, ran, holds, -⟩ := Snapshot.perform_run script []
      (Snapshot.CgroupsBuilder.new_holds buf maxItems systemdEnabled generation room)
    obtain ⟨size, final, finished, -, -, delivers⟩ := Snapshot.finish_delivers holds
    refine ⟨calls, accepted, between, size, final, ran, finished, fun few cache elapsed => ?_⟩
    obtain ⟨after, refreshed, mirrors⟩ := refresh_mirrors enough elapsed
      (received_delivers delivers) (by rwa [List.length_map]) cache
    exact ⟨after, refreshed, lookup_mirrors enough mirrors⟩
  · cases created

/-- A cache that holds an item with the hash 5 and the name `a`. -/
def heldCache : CgroupsCache where
  items := [⟨5, 0, 1, [97], [48]⟩]
  buckets := [⟨0, true⟩, ⟨0, false⟩]
  systemdEnabled := 0
  generation := 7
  populated := true
  refreshSuccessCount := 1
  refreshFailureCount := 0
  lastRefreshTs := 2

/-- Two items with that key, and one that a builder for two items refuses: the cache then finds the
first of the two, and does not find the third. -/
theorem refresh_lookup_twins : ∃ payload after,
    (CgroupsCache.refresh (2 ^ 31) (.ok payload) 3).run heldCache = (.ok true, after) ∧
      after.lookup (2 ^ 31) 5 [97] = .ok (some ⟨5, 0, 1, [97], [47, 97]⟩) ∧
      after.lookup (2 ^ 31) 6 [98] = .ok none := by
  obtain ⟨calls, accepted, between, size, final, ran, -, looked⟩ := refresh_lookup (2 ^ 31)
    (Nat.le_refl _) (zeros 192) 2 0 0 (.add ⟨5, 0, 1, [97], [47, 97]⟩ fun _ =>
      .add ⟨5, 0, 0, [97], [47, 98]⟩ fun _ => .add ⟨6, 0, 1, [98], [47]⟩ fun _ => .done true)
    ⟨zeros 192, 0, 0, 0, 2, 40⟩ (by decide +kernel)
  have added : Except.ok (calls, accepted) = _ := (congrArg Prod.fst ran).symm.trans
    (show _ = .ok ([.add ⟨5, 0, 1, [97], [47, 97]⟩ (.ok ()),
      .add ⟨5, 0, 0, [97], [47, 98]⟩ (.ok ()), .add ⟨6, 0, 1, [98], [47]⟩ (.error .overflow)],
      true) by decide +kernel)
  cases added
  obtain ⟨after, refreshed, found⟩ := looked (by decide) heldCache 3
  exact ⟨_, after, refreshed, (found 5 [97]).trans (by decide +kernel),
    (found 6 [98]).trans (by decide +kernel)⟩

end NetIpc.Cache
