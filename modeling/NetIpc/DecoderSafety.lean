/-
This file shows that what a lookup response view hands out was settled when the response was
decoded: no accessor of a decoded view fails or panics on an index in range.

The accessors read offsets from the wire again, and check less than the decoder did. What
makes them safe is that the decoder walked over the same offsets in order: the directory
entries one after the other, and in an item the strings before the label table and the label
strings behind it. So the decoder's walk is turned into a list of extents, each behind the one
before, and an accessor only ever returns the bytes of one of them.
-/

import NetIpc.AppsLookup
import NetIpc.CgroupsLookup

namespace NetIpc

variable {α : Type}

/-! ### Extents -/

/-- A range of bytes. -/
structure Extent where
  start : Nat
  stop : Nat
  deriving Repr, DecidableEq

namespace Extent

/-- Two ranges that share no byte. -/
def Apart (first second : Extent) : Prop := first.stop ≤ second.start ∨ second.stop ≤ first.start

/-- Ranges between `low` and `high`, each behind the one before. -/
def Ordered : Nat → List Extent → Nat → Prop
  | low, [], high => low ≤ high
  | low, extent :: rest, high =>
    low ≤ extent.start ∧ extent.start ≤ extent.stop ∧ Ordered extent.stop rest high

variable {low high : Nat} {extents : List Extent}

theorem Ordered.le (ordered : Ordered low extents high) : low ≤ high := by
  induction extents generalizing low with
  | nil => exact ordered
  | cons extent rest ih =>
    exact ordered.1.trans (ordered.2.1.trans (ih ordered.2.2))

theorem Ordered.within (ordered : Ordered low extents high) {extent : Extent}
    (member : extent ∈ extents) :
    low ≤ extent.start ∧ extent.start ≤ extent.stop ∧ extent.stop ≤ high := by
  induction extents generalizing low with
  | nil => cases member
  | cons first rest ih =>
    obtain ⟨above, proper, more⟩ := ordered
    rcases List.mem_cons.mp member with rfl | member
    · exact ⟨above, proper, more.le⟩
    · obtain ⟨behind, rest⟩ := ih more member
      exact ⟨above.trans (proper.trans behind), rest⟩

theorem Ordered.pairwise (ordered : Ordered low extents high) :
    extents.Pairwise fun first second => first.stop ≤ second.start := by
  induction extents generalizing low with
  | nil => exact .nil
  | cons extent rest ih =>
    exact .cons (fun _ member => (ordered.2.2.within member).1) (ih ordered.2.2)

end Extent

/-! ### Strings -/

section Strings

variable {item : Bytes} {hdrSize offset length : Nat}

theorem ordinary_checkedU32 (value : Nat) : Ordinary (fun _ => True) (checkedU32 value) := by
  unfold checkedU32
  split
  · trivial
  · trivial

theorem ordinary_checkedU16 (value : Nat) : Ordinary (fun _ => True) (checkedU16 value) := by
  unfold checkedU16
  split
  · trivial
  · trivial

theorem ordinary_lookupString (item : Bytes) (hdrSize offset length : Nat) :
    Ordinary (fun _ => True) (lookupString item hdrSize offset length) := by
  rw [lookupString]
  refine .guard trivial fun _ => .add trivial fun _ =>
    .guard trivial fun passed => ?_
  have inside : offset + length < item.length := not_le.mp passed
  rw [readByte_of_getElem? (List.getElem?_eq_getElem inside), ok_bind]
  refine .guard trivial fun _ =>
    (ordinary_readSlice (by omega) (by omega)).bind fun _ _ =>
      .guard trivial fun _ =>
        (ordinary_readSlice (by omega) (by omega)).bind fun _ _ => trivial

/-- The view is of a string that stands in the item behind its header: the bytes of the extent are
the string and its NUL, and the string has no NUL inside. -/
structure StandsAt (item : Bytes) (hdrSize : Nat) (view : StrView) (extent : Extent) : Prop where
  behindHeader : hdrSize ≤ extent.start
  inside : extent.stop ≤ item.length
  length : extent.stop = extent.start + view.len.toNat + 1
  bytes : view.bytes = slice item extent.start (view.len.toNat + 1)
  terminated : item[extent.start + view.len.toNat]? = some 0
  clean : ∃ text, view.asBytes = .ok text ∧ 0 ∉ text

variable {view : StrView} {stop : Nat}

/-- What the reader of a string looked at, when it accepts. -/
theorem lookupString_accepted (read : lookupString item hdrSize offset length = .ok (view, stop)) :
    hdrSize ≤ offset ∧ offset + length < item.length ∧ item[offset + length]? = some 0 ∧
      view = ⟨slice item offset (length + 1), UInt32.ofNat length⟩ ∧
      stop = offset + length + 1 := by
  rw [lookupString] at read
  obtain ⟨past, read⟩ := guard_eq_ok read
  obtain ⟨-, read⟩ := add_eq_ok read
  obtain ⟨passed, read⟩ := guard_eq_ok read
  have inside : offset + length < item.length := not_le.mp passed
  obtain ⟨last, nul, read⟩ := bind_eq_ok read
  obtain ⟨zero, read⟩ := guard_eq_ok read
  iterate 2 obtain ⟨_, -, read⟩ := bind_eq_ok read
  obtain ⟨bytes, whole, read⟩ := bind_eq_ok read
  obtain ⟨-, -, rfl⟩ := readSlice_eq_ok whole
  obtain ⟨rfl, rfl⟩ := Prod.mk.inj (Except.ok.inj read)
  have found := List.getElem?_eq_getElem inside
  rw [readByte_of_getElem? found] at nul
  refine ⟨not_lt.mp past, inside, ?_, ?_, rfl⟩
  · rw [found, Except.ok.inj nul, not_not.mp zero]
  · rw [show offset + length + 1 - offset = length + 1 by omega]

/-- A string that was read ends inside the item. -/
theorem lookupString_end (read : lookupString item hdrSize offset length = .ok (view, stop)) :
    stop = offset + length + 1 ∧ stop ≤ item.length := by
  obtain ⟨-, inside, -, -, rfl⟩ := lookupString_accepted read
  exact ⟨rfl, inside⟩

/-- An accepted string stands where it was read. -/
theorem lookupString_stands (small : length < 2 ^ 32)
    (read : lookupString item hdrSize offset length = .ok (view, stop)) :
    StandsAt item hdrSize view ⟨offset, stop⟩ := by
  have clean := lookupString_eq_ok read
  obtain ⟨past, inside, nul, rfl, rfl⟩ := lookupString_accepted read
  have len := toNat_ofNat32 small
  refine ⟨past, inside, by rw [len], by rw [len], by rw [len]; exact nul,
    slice item offset length, ?_, clean⟩
  rw [StrView.asBytes, len]
  dsimp only
  rw [readSlice_of_le (Nat.zero_le _) (by rw [length_slice _ _ _ (by omega)]; omega),
    Nat.sub_zero, slice_slice _ _ _ _ _ (by omega), Nat.add_zero]

end Strings

/-! ### Labels -/

section Labels

variable {item : Bytes} {hdrSize tableStart fixedEnd : Nat} {labelCount : UInt16}

/-- An entry of a table that ends inside the item. -/
theorem labelEntry_inside
    (table : tableStart + labelCount.toNat * lookupLabelEntrySize ≤ item.length) {index : Nat}
    (below : index < labelCount.toNat) :
    tableStart + index * lookupLabelEntrySize + lookupLabelEntrySize ≤ item.length := by
  rw [lookupLabelEntrySize] at table ⊢
  omega

theorem ordinary_validateLabels :
    Ordinary (fun _ => True) (validateLabels item hdrSize labelCount fixedEnd) := by
  rw [validateLabels]
  split
  · exact .guard trivial fun _ => trivial
  · refine .guard trivial fun start => ?_
    have inside := not_lt.mp start
    refine (ordinary_readSlice (le_align8 _) inside).bind fun _ _ =>
      .guard trivial fun _ => .mul trivial fun _ =>
        .add trivial fun _ =>
          .guard trivial fun passed => ?_
    have table := not_lt.mp passed
    refine Ordinary.bind (ordinary_forFrom (fun index expected _ below => ?_) _) fun _ _ =>
      .guard trivial fun _ => trivial
    have entry := labelEntry_inside table (show index < labelCount.toNat by omega)
    rw [lookupLabelEntrySize] at entry
    rw [validateLabel]
    refine .mul trivial fun _ =>
      .add trivial fun _ => ?_
    rw [lookupLabelEntrySize]
    refine (ordinary_u32At (by omega)).bind fun _ _ => (ordinary_u32At (by omega)).bind fun _ _ =>
      (ordinary_u32At (by omega)).bind fun _ _ => (ordinary_u32At (by omega)).bind fun _ _ =>
        .guard trivial fun _ => (ordinary_lookupString ..).bind fun _ _ =>
          .guard trivial fun _ => (ordinary_lookupString ..).bind fun _ _ =>
            trivial

theorem ordinary_labelAt (index : UInt32) :
    Ordinary (fun _ => True) (labelAt item hdrSize labelCount tableStart index) := by
  rw [labelAt]
  refine .guard trivial fun _ => (ordinary_okOr trivial).bind fun _ _ =>
    (ordinary_okOr trivial).bind fun _ _ => .add trivial fun _ =>
      .guard trivial fun within => ?_
  have inside := not_lt.mp within
  rw [lookupLabelEntrySize] at inside
  exact (ordinary_u32At (by omega)).bind fun _ _ => (ordinary_u32At (by omega)).bind fun _ _ =>
    (ordinary_u32At (by omega)).bind fun _ _ => (ordinary_u32At (by omega)).bind fun _ _ =>
      (ordinary_lookupString ..).bind fun _ _ => (ordinary_lookupString ..).bind fun _ _ => trivial

/-- The strings of a label. -/
def LookupLabelView.strings (label : LookupLabelView) : List StrView := [label.key, label.value]

/-- One pass of the validation: the label can be read again, and its two strings stand one behind
the other between the expected start and the next one. -/
theorem validateLabel_shown {index expected next : Nat} (below : index < labelCount.toNat)
    (table : tableStart + labelCount.toNat * lookupLabelEntrySize ≤ item.length)
    (small : tableStart + labelCount.toNat * lookupLabelEntrySize ≤ usizeMax)
    (pass : validateLabel item hdrSize tableStart index expected = .ok next) :
    ∃ label middle,
      labelAt item hdrSize labelCount tableStart (UInt32.ofNat index) = .ok label ∧
      StandsAt item hdrSize label.key ⟨expected, middle⟩ ∧
      StandsAt item hdrSize label.value ⟨middle, next⟩ := by
  have count := labelCount.toNat_lt
  have indexed : (UInt32.ofNat index).toNat = index := toNat_ofNat32 (by omega)
  have entry := labelEntry_inside table below
  rw [validateLabel] at pass
  obtain ⟨offsetSmall, pass⟩ := mul_eq_ok pass
  obtain ⟨baseSmall, pass⟩ := add_eq_ok pass
  obtain ⟨keyOff, readKeyOff, pass⟩ := bind_eq_ok pass
  obtain ⟨keyLen, readKeyLen, pass⟩ := bind_eq_ok pass
  obtain ⟨valueOff, readValueOff, pass⟩ := bind_eq_ok pass
  obtain ⟨valueLen, readValueLen, pass⟩ := bind_eq_ok pass
  obtain ⟨start, pass⟩ := guard_eq_ok pass
  have start := not_or.mp start
  obtain ⟨⟨key, keyEnd⟩, readKey, pass⟩ := bind_eq_ok pass
  obtain ⟨adjacent, pass⟩ := guard_eq_ok pass
  have adjacent := not_not.mp adjacent
  obtain ⟨⟨value, valueEnd⟩, readValue, pass⟩ := bind_eq_ok pass
  obtain rfl := Except.ok.inj pass
  have keyStands := lookupString_stands keyLen.toNat_lt readKey
  have valueStands := lookupString_stands valueLen.toNat_lt readValue
  rw [not_not.mp start.2] at keyStands
  rw [adjacent] at valueStands
  refine ⟨⟨key, value⟩, keyEnd, ?_, keyStands, valueStands⟩
  have stop : tableStart + index * lookupLabelEntrySize + lookupLabelEntrySize ≤ usizeMax := by
    rw [lookupLabelEntrySize] at small ⊢
    omega
  rw [labelAt, indexed, guard_bind (by omega), checkedMul_of_le offsetSmall,
    okOr_some, ok_bind, checkedAdd_of_le baseSmall, okOr_some, ok_bind, checkedAdd_of_le stop,
    okOr_some, ok_bind, guard_bind (by omega), readKeyOff, ok_bind, readKeyLen,
    ok_bind, readValueOff, ok_bind, readValueLen, ok_bind, readKey, ok_bind, readValue]
  rfl

/-- The whole loop: its labels can be read again, and their strings stand in order. -/
theorem validateLabels_shown {start count expected last : Nat}
    (all : start + count ≤ labelCount.toNat)
    (table : tableStart + labelCount.toNat * lookupLabelEntrySize ≤ item.length)
    (small : tableStart + labelCount.toNat * lookupLabelEntrySize ≤ usizeMax)
    (loop : forFrom (validateLabel item hdrSize tableStart) start count expected = .ok last) :
    ∃ (labels : List LookupLabelView) (extents : List Extent), labels.length = count ∧
      (∀ index label, labels[index]? = some label →
        labelAt item hdrSize labelCount tableStart (UInt32.ofNat (start + index)) = .ok label) ∧
      List.Forall₂ (StandsAt item hdrSize) (labels.flatMap LookupLabelView.strings) extents ∧
      Extent.Ordered expected extents last := by
  induction count generalizing start expected with
  | zero =>
    obtain rfl := Except.ok.inj loop
    exact ⟨[], [], rfl, nofun, .nil, le_refl _⟩
  | succ count ih =>
    obtain ⟨next, pass, loop⟩ := bind_eq_ok loop
    obtain ⟨label, middle, read, key, value⟩ := validateLabel_shown (by omega) table small pass
    obtain ⟨labels, extents, length, reads, stand, ordered⟩ := ih (by omega) loop
    have first := key.length
    have second := value.length
    dsimp only at first second
    refine ⟨label :: labels, ⟨expected, middle⟩ :: ⟨middle, next⟩ :: extents,
      by rw [List.length_cons, length], ?_, .cons key (.cons value stand),
      ⟨le_refl _, by dsimp only; omega, le_refl _, by dsimp only; omega, ordered⟩⟩
    intro index other found
    cases index with
    | zero =>
      obtain rfl := Option.some.inj found
      exact read
    | succ index =>
      rw [show start + (index + 1) = start + 1 + index by omega]
      exact reads index other found

/-- What `validate_labels` looked at, when it accepts: the table behind the fixed strings, and the
label strings from the end of the table to the end of the item. -/
theorem validateLabels_accepted {table : Nat}
    (accepted : validateLabels item hdrSize labelCount fixedEnd = .ok table) :
    fixedEnd ≤ table ∧ table + labelCount.toNat * lookupLabelEntrySize ≤ item.length ∧
      (labelCount ≠ 0 → table + labelCount.toNat * lookupLabelEntrySize ≤ usizeMax) ∧
      forFrom (validateLabel item hdrSize table) 0 labelCount.toNat
        (table + labelCount.toNat * lookupLabelEntrySize) = .ok item.length := by
  rw [validateLabels] at accepted
  split at accepted
  · rename_i none
    obtain ⟨passed, accepted⟩ := guard_eq_ok accepted
    obtain rfl := Except.ok.inj accepted
    have whole := not_not.mp passed
    rw [none, UInt16.toNat_zero, Nat.zero_mul, Nat.add_zero]
    exact ⟨le_refl _, whole.le, fun some => absurd rfl some, congrArg Except.ok whole⟩
  · iterate 3 obtain ⟨_, -, accepted⟩ := bind_eq_ok accepted
    obtain ⟨-, accepted⟩ := mul_eq_ok accepted
    obtain ⟨small, accepted⟩ := add_eq_ok accepted
    obtain ⟨passed, accepted⟩ := guard_eq_ok accepted
    obtain ⟨last, loop, accepted⟩ := bind_eq_ok accepted
    obtain ⟨whole, accepted⟩ := guard_eq_ok accepted
    obtain rfl := Except.ok.inj accepted
    rw [not_not.mp whole] at loop
    exact ⟨le_align8 _, not_lt.mp passed, fun _ => small, loop⟩

/-- The entries of the label table. -/
def labelEntries (tableStart count : Nat) : List Extent :=
  (List.range count).map fun index =>
    ⟨tableStart + 16 * index, tableStart + 16 * index + 16⟩

theorem labelEntries_apart (tableStart count : Nat) :
    (labelEntries tableStart count).Pairwise Extent.Apart := by
  rw [labelEntries, List.pairwise_map]
  exact List.pairwise_lt_range.imp fun {_ _} below => .inl (by dsimp only; omega)

theorem mem_labelEntries {tableStart count : Nat} {extent : Extent}
    (member : extent ∈ labelEntries tableStart count) :
    tableStart ≤ extent.start ∧ extent.stop ≤ tableStart + 16 * count := by
  obtain ⟨index, below, rfl⟩ := List.mem_map.mp member
  have bound := List.mem_range.mp below
  exact ⟨by dsimp only; omega, by dsimp only; omega⟩

end Labels

/-! ### Items -/

/-- What an item view shows: its strings, and labels by index. -/
structure ItemShape (α : Type) where
  hdrSize : Nat
  strings : α → List StrView
  labelCount : α → UInt16
  labelTableOffset : α → Nat
  label : α → UInt32 → Res NipcError LookupLabelView

namespace ItemShape

def apps : ItemShape AppsLookupItemView where
  hdrSize := appsLookupItemHdrSize
  strings view := [view.comm, view.cgroupPath, view.cgroupName]
  labelCount := AppsLookupItemView.labelCount
  labelTableOffset := AppsLookupItemView.labelTableOffset
  label := AppsLookupItemView.label

def cgroups : ItemShape CgroupsLookupItemView where
  hdrSize := cgroupsLookupItemHdrSize
  strings view := [view.path, view.name]
  labelCount := CgroupsLookupItemView.labelCount
  labelTableOffset := CgroupsLookupItemView.labelTableOffset
  label := CgroupsLookupItemView.label

/-- Everything an item view can hand out: every label below the count is there; all the strings
stand in the item, and no two of them or of the entries of the label table share a byte. -/
def Shows (shape : ItemShape α) (item : Bytes) (view : α) : Prop :=
  ∃ (labels : List LookupLabelView) (extents : List Extent),
    labels.length = (shape.labelCount view).toNat ∧
    (∀ index label, labels[index]? = some label →
      shape.label view (UInt32.ofNat index) = .ok label) ∧
    List.Forall₂ (StandsAt item shape.hdrSize)
      (shape.strings view ++ labels.flatMap LookupLabelView.strings) extents ∧
    (extents ++ labelEntries (shape.labelTableOffset view)
      (shape.labelCount view).toNat).Pairwise Extent.Apart

/-- An item whose fixed strings were read, and whose labels were accepted behind them. -/
theorem shows_of_labels {shape : ItemShape α} {item : Bytes} {view : α} {fixed : List Extent}
    {fixedEnd : Nat}
    (label : ∀ index, shape.label view index = labelAt item shape.hdrSize (shape.labelCount view)
      (shape.labelTableOffset view) index)
    (stand : List.Forall₂ (StandsAt item shape.hdrSize) (shape.strings view) fixed)
    (apart : fixed.Pairwise Extent.Apart) (ends : ∀ extent ∈ fixed, extent.stop ≤ fixedEnd)
    (accepted : validateLabels item shape.hdrSize (shape.labelCount view) fixedEnd =
      .ok (shape.labelTableOffset view)) : shape.Shows item view := by
  obtain ⟨behind, inside, small, loop⟩ := validateLabels_accepted accepted
  have found : ∃ (labels : List LookupLabelView) (extents : List Extent),
      labels.length = (shape.labelCount view).toNat ∧
      (∀ index label, labels[index]? = some label →
        shape.label view (UInt32.ofNat index) = .ok label) ∧
      List.Forall₂ (StandsAt item shape.hdrSize) (labels.flatMap LookupLabelView.strings)
        extents ∧
      Extent.Ordered (shape.labelTableOffset view +
        (shape.labelCount view).toNat * lookupLabelEntrySize) extents item.length := by
    by_cases none : shape.labelCount view = 0
    · rw [none] at loop inside ⊢
      exact ⟨[], [], rfl, nofun, .nil, inside⟩
    · obtain ⟨labels, extents, length, reads, stand, ordered⟩ :=
        validateLabels_shown (Nat.zero_add _).le inside (small none) loop
      refine ⟨labels, extents, length, fun index other found => ?_, stand, ordered⟩
      have read := reads index other found
      rw [Nat.zero_add] at read
      exact (label _).trans read
  obtain ⟨labels, extents, length, reads, texts, ordered⟩ := found
  rw [lookupLabelEntrySize] at ordered
  refine ⟨labels, fixed ++ extents, length, reads, List.rel_append stand texts, ?_⟩
  rw [List.append_assoc, List.pairwise_append]
  refine ⟨apart, ?_, fun first low second high => .inl ?_⟩
  · rw [List.pairwise_append]
    refine ⟨ordered.pairwise.imp fun {_ _} => Or.inl, labelEntries_apart _ _,
      fun first text second entry => .inr ?_⟩
    have above := (ordered.within text).1
    have below := (mem_labelEntries entry).2
    omega
  · have low := ends first low
    rcases List.mem_append.mp high with text | entry
    · have above := (ordered.within text).1
      omega
    · have above := (mem_labelEntries entry).1
      omega

end ItemShape

theorem not_overlap {aStart aEnd bStart bEnd : Nat} (apart : ¬ overlap aStart aEnd bStart bEnd) :
    Extent.Apart ⟨aStart, aEnd⟩ ⟨bStart, bEnd⟩ := by
  rw [overlap, Bool.and_eq_true, decide_eq_true_eq, decide_eq_true_eq, not_and_or, not_lt,
    not_lt] at apart
  exact apart.symm

/-- A decoded apps item. -/
theorem decodeAppsItem_shows {item : Bytes} {view : AppsLookupItemView}
    (decoded : decodeAppsItem item = .ok view) : ItemShape.apps.Shows item view := by
  rw [decodeAppsItem] at decoded
  obtain ⟨passed, decoded⟩ := guard_eq_ok decoded
  have long := not_lt.mp passed
  rw [appsLookupItemHdrSize] at long
  simp (disch := omega) only [u16At_of_le, u32At_of_le, u64At_of_le, ok_bind] at decoded
  iterate 2 obtain ⟨_, -, decoded⟩ := bind_eq_ok decoded
  obtain ⟨⟨comm, commEnd⟩, readComm, decoded⟩ := bind_eq_ok decoded
  obtain ⟨⟨path, pathEnd⟩, readPath, decoded⟩ := bind_eq_ok decoded
  obtain ⟨⟨name, nameEnd⟩, readName, decoded⟩ := bind_eq_ok decoded
  obtain ⟨separate, decoded⟩ := guard_eq_ok decoded
  obtain ⟨table, labels, decoded⟩ := bind_eq_ok decoded
  obtain rfl := Except.ok.inj decoded
  rw [not_or, not_or] at separate
  refine ItemShape.shows_of_labels (fun _ => rfl)
    (.cons (lookupString_stands (UInt32.toNat_lt _) readComm)
      (.cons (lookupString_stands (UInt32.toNat_lt _) readPath)
        (.cons (lookupString_stands (UInt32.toNat_lt _) readName) .nil))) ?_ ?_ labels
  · rw [List.pairwise_cons, List.pairwise_cons]
    refine ⟨List.forall_mem_cons.mpr ⟨not_overlap separate.1, List.forall_mem_singleton.mpr
      (not_overlap separate.2.1)⟩, List.forall_mem_singleton.mpr (not_overlap separate.2.2),
      List.pairwise_singleton _ _⟩
  · exact List.forall_mem_cons.mpr ⟨(le_max_left _ _).trans (le_max_left _ _),
      List.forall_mem_cons.mpr ⟨(le_max_right _ _).trans (le_max_left _ _),
        List.forall_mem_singleton.mpr (le_max_right _ _)⟩⟩

/-- A decoded cgroups item. -/
theorem decodeCgroupsItem_shows {item : Bytes} {view : CgroupsLookupItemView}
    (decoded : decodeCgroupsItem item = .ok view) : ItemShape.cgroups.Shows item view := by
  rw [decodeCgroupsItem] at decoded
  obtain ⟨passed, decoded⟩ := guard_eq_ok decoded
  have long := not_lt.mp passed
  rw [cgroupsLookupItemHdrSize] at long
  simp (disch := omega) only [u16At_of_le, u32At_of_le, ok_bind] at decoded
  iterate 2 obtain ⟨_, -, decoded⟩ := bind_eq_ok decoded
  obtain ⟨⟨path, pathEnd⟩, readPath, decoded⟩ := bind_eq_ok decoded
  obtain ⟨⟨name, nameEnd⟩, readName, decoded⟩ := bind_eq_ok decoded
  obtain ⟨separate, decoded⟩ := guard_eq_ok decoded
  obtain ⟨table, labels, decoded⟩ := bind_eq_ok decoded
  obtain rfl := Except.ok.inj decoded
  refine ItemShape.shows_of_labels (fun _ => rfl)
    (.cons (lookupString_stands (UInt32.toNat_lt _) readPath)
      (.cons (lookupString_stands (UInt32.toNat_lt _) readName) .nil)) ?_ ?_ labels
  · rw [List.pairwise_cons]
    exact ⟨List.forall_mem_singleton.mpr (not_overlap separate), List.pairwise_singleton _ _⟩
  · exact List.forall_mem_cons.mpr ⟨le_max_left _ _,
      List.forall_mem_singleton.mpr (le_max_right _ _)⟩

theorem ordinary_validateAppsLookupSemantics (status cgroupStatus orchestrator : UInt16)
    (ppid uid : UInt32) (starttime : UInt64) (commLen pathLen nameLen labelCount : Nat) :
    Ordinary (fun _ => True) (validateAppsLookupSemantics status cgroupStatus orchestrator ppid uid
      starttime commLen pathLen nameLen labelCount) := by
  rw [validateAppsLookupSemantics]
  refine Ordinary.bind ?_ fun _ _ => ?_
  · exact .guard trivial fun _ => .guard trivial fun _ =>
      ordinary_rejectIf trivial
  · split
    · exact ordinary_rejectIf trivial
    · refine .guard trivial fun _ => ?_
      split_ifs <;> first | exact ordinary_rejectIf trivial | trivial

theorem ordinary_validateCgroupsLookupSemantics (status orchestrator : UInt16)
    (pathLen nameLen labelCount : Nat) :
    Ordinary (fun _ => True)
      (validateCgroupsLookupSemantics status orchestrator pathLen nameLen labelCount) :=
  .guard trivial fun _ => .guard trivial fun _ =>
    ordinary_rejectIf trivial

theorem ordinary_decodeAppsItem (item : Bytes) :
    Ordinary (fun _ => True) (decodeAppsItem item) := by
  rw [decodeAppsItem]
  refine .guard trivial fun passed => ?_
  have long := not_lt.mp passed
  rw [appsLookupItemHdrSize] at long
  simp (disch := omega) only [u16At_of_le, u32At_of_le, u64At_of_le, ok_bind]
  exact .guard trivial fun _ =>
    (ordinary_validateAppsLookupSemantics ..).bind fun _ _ =>
      (ordinary_lookupString ..).bind fun _ _ => (ordinary_lookupString ..).bind fun _ _ =>
        (ordinary_lookupString ..).bind fun _ _ => .guard trivial fun _ =>
          ordinary_validateLabels.bind fun _ _ => trivial

theorem ordinary_decodeCgroupsItem (item : Bytes) :
    Ordinary (fun _ => True) (decodeCgroupsItem item) := by
  rw [decodeCgroupsItem]
  refine .guard trivial fun passed => ?_
  have long := not_lt.mp passed
  rw [cgroupsLookupItemHdrSize] at long
  simp (disch := omega) only [u16At_of_le, u32At_of_le, ok_bind]
  exact .guard trivial fun _ =>
    (ordinary_validateCgroupsLookupSemantics ..).bind fun _ _ =>
      (ordinary_lookupString ..).bind fun _ _ => (ordinary_lookupString ..).bind fun _ _ =>
        .guard trivial fun _ =>
          ordinary_validateLabels.bind fun _ _ => trivial

/-! ### The directory -/

section Directory

variable {buf : Bytes} {dirStart packedAreaLen minLen : Nat} {exactLen : Option Nat}
  {itemCount : UInt32}

theorem ordinary_validateLookupDir :
    Ordinary (fun _ => True)
      (validateLookupDir buf dirStart itemCount packedAreaLen minLen exactLen) := by
  rw [validateLookupDir]
  refine .mul trivial fun _ => .add trivial fun _ =>
    .guard trivial fun passed => ?_
  have inside := not_lt.mp passed
  rw [lookupDirEntrySize] at inside
  refine Ordinary.bind (ordinary_forFrom (fun index prevEnd _ below => ?_) _) fun _ _ => trivial
  rw [validateDirEntry, lookupDirEntrySize]
  refine (ordinary_u32At (by omega)).bind fun off _ =>
    (ordinary_u32At (by omega)).bind fun len _ => .guard trivial fun _ => ?_
  refine Ordinary.bind ?_ fun _ _ => (ordinary_okOr trivial).bind fun _ _ =>
    .guard trivial fun _ => .guard trivial fun _ => trivial
  cases exactLen with
  | none => exact ordinary_rejectIf trivial
  | some exact => exact ordinary_rejectIf trivial

/-- What one pass over the directory looked at, when it accepts. -/
theorem validateDirEntry_accepted {index prevEnd stop : Nat}
    (pass : validateDirEntry buf dirStart packedAreaLen minLen exactLen index prevEnd =
      .ok stop) :
    ∃ off len : UInt32,
      (u32At buf (dirStart + index * lookupDirEntrySize) : Res NipcError UInt32) = .ok off ∧
      (u32At buf (dirStart + index * lookupDirEntrySize + 4) : Res NipcError UInt32) = .ok len ∧
      stop = off.toNat + len.toNat ∧ stop ≤ packedAreaLen ∧
      (index > 0 → prevEnd ≤ off.toNat) := by
  rw [validateDirEntry] at pass
  obtain ⟨off, readOff, pass⟩ := bind_eq_ok pass
  obtain ⟨len, readLen, pass⟩ := bind_eq_ok pass
  iterate 2 obtain ⟨_, -, pass⟩ := bind_eq_ok pass
  obtain ⟨-, pass⟩ := add_eq_ok pass
  obtain ⟨passed, pass⟩ := guard_eq_ok pass
  obtain ⟨order, pass⟩ := guard_eq_ok pass
  obtain rfl := Except.ok.inj pass
  refine ⟨off, len, readOff, readLen, rfl, not_lt.mp passed, fun later => ?_⟩
  exact not_lt.mp fun before => order ⟨later, before⟩

/-- The walk over the directory: the items lie one behind the other in the packed area. -/
theorem validateDirEntries_ordered {start count prevEnd last : Nat}
    (first : start = 0 → prevEnd = 0) (inside : prevEnd ≤ packedAreaLen)
    (loop : forFrom (validateDirEntry buf dirStart packedAreaLen minLen exactLen) start count
      prevEnd = .ok last) :
    ∃ extents : List Extent, extents.length = count ∧
      Extent.Ordered prevEnd extents packedAreaLen ∧
      ∀ index extent, extents[index]? = some extent → ∃ off len : UInt32,
        (u32At buf (dirStart + (start + index) * lookupDirEntrySize) : Res NipcError UInt32) =
          .ok off ∧
        (u32At buf (dirStart + (start + index) * lookupDirEntrySize + 4) :
          Res NipcError UInt32) = .ok len ∧ extent = ⟨off.toNat, off.toNat + len.toNat⟩ := by
  induction count generalizing start prevEnd with
  | zero => exact ⟨[], rfl, inside, nofun⟩
  | succ count ih =>
    obtain ⟨stop, pass, loop⟩ := bind_eq_ok loop
    obtain ⟨off, len, readOff, readLen, rfl, within, order⟩ := validateDirEntry_accepted pass
    obtain ⟨extents, length, ordered, entries⟩ :=
      ih (fun zero => absurd zero (Nat.succ_ne_zero _)) within loop
    have behind : prevEnd ≤ off.toNat := by
      by_cases zero : start = 0
      · exact first zero ▸ Nat.zero_le _
      · exact order (Nat.pos_of_ne_zero zero)
    refine ⟨⟨off.toNat, off.toNat + len.toNat⟩ :: extents, by rw [List.length_cons, length],
      ⟨behind, Nat.le_add_right _ _, ordered⟩, fun index extent found => ?_⟩
    cases index with
    | zero =>
      obtain rfl := Option.some.inj found
      exact ⟨off, len, readOff, readLen, rfl⟩
    | succ index =>
      rw [show start + (index + 1) = start + 1 + index by omega]
      exact entries index extent found

theorem validateLookupDir_ordered
    (accepted : validateLookupDir buf dirStart itemCount packedAreaLen minLen exactLen = .ok ()) :
    ∃ extents : List Extent, extents.length = itemCount.toNat ∧
      Extent.Ordered 0 extents packedAreaLen ∧
      ∀ index extent, extents[index]? = some extent → ∃ off len : UInt32,
        (u32At buf (dirStart + index * lookupDirEntrySize) : Res NipcError UInt32) = .ok off ∧
        (u32At buf (dirStart + index * lookupDirEntrySize + 4) : Res NipcError UInt32) =
          .ok len ∧ extent = ⟨off.toNat, off.toNat + len.toNat⟩ := by
  rw [validateLookupDir] at accepted
  iterate 3 obtain ⟨_, -, accepted⟩ := bind_eq_ok accepted
  obtain ⟨_, loop, -⟩ := bind_eq_ok accepted
  obtain ⟨extents, length, ordered, entries⟩ :=
    validateDirEntries_ordered (fun _ => rfl) (Nat.zero_le _) loop
  refine ⟨extents, length, ordered, fun index extent found => ?_⟩
  have entry := entries index extent found
  rw [Nat.zero_add] at entry
  exact entry

end Directory

/-! ### Responses -/

section Responses

variable {codec : ItemCodec α} {buf : Bytes} {view : LookupResponseView}

theorem ordinary_decodeLookupResponse
    (each : ∀ item : Bytes, Ordinary (fun _ => True) (codec.decodeItem item)) :
    Ordinary (fun _ => True) (decodeLookupResponse codec buf) := by
  rw [decodeLookupResponse]
  refine .guard trivial fun passed => ?_
  have long := not_lt.mp passed
  rw [lookupRespHdrSize] at long
  refine (ordinary_u16At (by omega)).bind fun _ _ => (ordinary_u16At (by omega)).bind fun _ _ =>
    .guard trivial fun _ => (ordinary_u32At (by omega)).bind fun itemCount _ =>
      .mul trivial fun _ => .add trivial fun _ =>
        .guard trivial fun within => ?_
  have inside := not_lt.mp within
  rw [lookupRespHdrSize, lookupDirEntrySize] at inside
  refine ordinary_validateLookupDir.bind fun _ _ => Ordinary.bind
    (ordinary_forFrom (fun index _ _ below => ?_) _) fun _ _ =>
      (ordinary_u64At (by omega)).bind fun _ _ => trivial
  rw [lookupRespHdrSize, lookupDirEntrySize]
  refine (ordinary_u32At (by omega)).bind fun _ _ => (ordinary_u32At (by omega)).bind fun _ _ => ?_
  refine Ordinary.bind ?_ fun item _ => (each item).bind fun _ _ => trivial
  exact (ordinary_okOr trivial).bind fun _ _ => (ordinary_okOr trivial).bind fun _ _ =>
    .guard trivial fun _ => trivial

theorem ordinary_item (decoded : decodeLookupResponse codec buf = .ok view) (index : UInt32) :
    Ordinary (fun _ => True) (view.rawItem index) ∧
      Ordinary (fun _ => True) (view.item codec index) := by
  by_cases below : index < view.itemCount
  · obtain ⟨_, value, raw, -, taken⟩ := decodeLookupResponse_item decoded index below
    rw [raw, taken]
    exact ⟨trivial, trivial⟩
  · rw [LookupResponseView.rawItem, responseRawItem, LookupResponseView.item,
      rejectIf_of (UInt32.not_lt.mp below)]
    exact ⟨trivial, trivial⟩

/-- A decoded response walked over its directory. -/
theorem decodeLookupResponse_ordered (decoded : decodeLookupResponse codec buf = .ok view) :
    16 + 8 * view.itemCount.toNat ≤ buf.length ∧
    ∃ extents : List Extent, extents.length = view.itemCount.toNat ∧
      Extent.Ordered 0 extents (buf.length - (16 + 8 * view.itemCount.toNat)) ∧
      ∀ index extent, extents[index]? = some extent → ∃ off len : UInt32,
        (u32At buf (16 + 8 * index) : Res NipcError UInt32) = .ok off ∧
        (u32At buf (16 + 8 * index + 4) : Res NipcError UInt32) = .ok len ∧
        extent = ⟨off.toNat, off.toNat + len.toNat⟩ := by
  rw [decodeLookupResponse] at decoded
  iterate 4 obtain ⟨_, -, decoded⟩ := bind_eq_ok decoded
  obtain ⟨itemCount, -, decoded⟩ := bind_eq_ok decoded
  obtain ⟨-, decoded⟩ := mul_eq_ok decoded
  obtain ⟨-, decoded⟩ := add_eq_ok decoded
  obtain ⟨within, decoded⟩ := guard_eq_ok decoded
  obtain ⟨_, directory, decoded⟩ := bind_eq_ok decoded
  iterate 2 obtain ⟨_, -, decoded⟩ := bind_eq_ok decoded
  obtain rfl := Except.ok.inj decoded
  have inside := not_lt.mp within
  rw [dirOffset_eq] at inside
  refine ⟨inside, ?_⟩
  obtain ⟨extents, length, ordered, entries⟩ := validateLookupDir_ordered directory
  rw [lookupRespHdrSize, lookupDirEntrySize, Nat.mul_comm itemCount.toNat] at ordered
  refine ⟨extents, length, ordered, fun index extent found => ?_⟩
  have entry := entries index extent found
  rwa [dirOffset_eq] at entry

/-- Everything a decoded response can hand out: every item below the count is there, raw and as a
view; the items lie one behind the other in the buffer; and no access panics, whatever the
index. -/
structure Complete (shape : ItemShape α) (codec : ItemCodec α) (buf : Bytes)
    (view : LookupResponseView) : Prop where
  items : ∃ extents : List Extent, extents.length = view.itemCount.toNat ∧
    extents.Pairwise (fun first second => first.stop ≤ second.start) ∧
    ∀ index extent, extents[index]? = some extent →
      16 + 8 * view.itemCount.toNat ≤ extent.start ∧ extent.start ≤ extent.stop ∧
      extent.stop ≤ buf.length ∧ ∃ bytes value, view.rawItem (UInt32.ofNat index) = .ok bytes ∧
        bytes = slice buf extent.start (extent.stop - extent.start) ∧
        view.item codec (UInt32.ofNat index) = .ok value ∧ shape.Shows bytes value
  calm : ∀ index, Ordinary (fun _ => True) (view.rawItem index) ∧
    Ordinary (fun _ => True) (view.item codec index)
  labelsCalm : ∀ index value label, view.item codec index = .ok value →
    Ordinary (fun _ => True) (shape.label value label)

theorem complete_of_decoded {shape : ItemShape α}
    (shows : ∀ item value, codec.decodeItem item = .ok value → shape.Shows item value)
    (label : ∀ value label, Ordinary (fun _ => True) (shape.label value label))
    (decoded : decodeLookupResponse codec buf = .ok view) : Complete shape codec buf view where
  items := by
    obtain ⟨inside, extents, length, ordered, entries⟩ := decodeLookupResponse_ordered decoded
    -- The directory counts from the start of the packed area.
    refine ⟨extents.map fun extent => ⟨16 + 8 * view.itemCount.toNat + extent.start,
      16 + 8 * view.itemCount.toNat + extent.stop⟩, by rw [List.length_map, length], ?_, ?_⟩
    · rw [List.pairwise_map]
      exact ordered.pairwise.imp fun {_ _} order => Nat.add_le_add_left order _
    · intro index extent found
      rw [List.getElem?_map] at found
      obtain ⟨relative, placed, rfl⟩ := Option.map_eq_some_iff.mp found
      have within := ordered.within (List.mem_of_getElem? placed)
      obtain ⟨off, len, readOff, readLen, rfl⟩ := entries index relative placed
      obtain ⟨below, -⟩ := List.getElem?_eq_some_iff.mp placed
      have count := view.itemCount.toNat_lt
      have indexed : (UInt32.ofNat index).toNat = index := toNat_ofNat32 (by omega)
      have small : UInt32.ofNat index < view.itemCount := by
        rw [UInt32.lt_iff_toNat_lt, indexed]
        omega
      obtain ⟨payload, -, -, items⟩ := decodeLookupResponse_eq_ok decoded
      obtain ⟨bytes, value, raw, accepted, taken⟩ :=
        decodeLookupResponse_item decoded (UInt32.ofNat index) small
      refine ⟨Nat.le_add_right _ _, by dsimp only at within ⊢; omega,
        by dsimp only at within ⊢; omega, bytes, value, raw, ?_, taken, shows bytes value accepted⟩
      rw [LookupResponseView.rawItem, responseRawItem, guard_bind (UInt32.not_le.mpr small),
        lookupDataOffset_eq, ok_bind, lookupDirEntryOffset_eq, ok_bind, indexed, payload, readOff,
        ok_bind, readLen, ok_bind] at raw
      rw [(checkedSubslice_eq_ok raw).2, Nat.add_sub_add_left, Nat.add_sub_cancel_left]
  calm := ordinary_item decoded
  labelsCalm _ value index _ := label value index

end Responses

/-- Validation at decode time is complete for both lookup methods. -/
theorem decodedResponses_complete (buf : Bytes) (view : LookupResponseView) :
    (decodeAppsLookupResponse buf = .ok view → Complete ItemShape.apps appsItemCodec buf view) ∧
      (decodeCgroupsLookupResponse buf = .ok view →
        Complete ItemShape.cgroups cgroupsItemCodec buf view) :=
  ⟨complete_of_decoded (fun _ _ => decodeAppsItem_shows) fun _ => ordinary_labelAt,
    complete_of_decoded (fun _ _ => decodeCgroupsItem_shows) fun _ => ordinary_labelAt⟩

/-- Two apps items, one of them with a label. -/
def labelledPair : Bytes :=
  responseImage 7 [(AppsItem.mk 0 0 3 41 1 5 9 [97] [47] [] [([107], [118])]).image,
    (AppsItem.placeholder pidLookupUnknown 42).image]

/-- A cgroups item with a label. -/
def labelledCgroup : Bytes :=
  responseImage 7 [(CgroupsItem.mk 0 3 [47] [97] [([107], [118])]).image]

theorem decodedResponses_complete_labelled :
    Complete ItemShape.apps appsItemCodec labelledPair ⟨1, 0, 2, 7, labelledPair⟩ ∧
      Complete ItemShape.cgroups cgroupsItemCodec labelledCgroup ⟨1, 0, 1, 7, labelledCgroup⟩ :=
  have apps : decodeAppsLookupResponse labelledPair = .ok ⟨1, 0, 2, 7, labelledPair⟩ := by
    decide +kernel
  have cgroups :
      decodeCgroupsLookupResponse labelledCgroup = .ok ⟨1, 0, 1, 7, labelledCgroup⟩ := by
    decide +kernel
  ⟨(decodedResponses_complete _ _).1 apps, (decodedResponses_complete _ _).2 cgroups⟩

end NetIpc
