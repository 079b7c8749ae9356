/-
This file models the parts of a lookup item that every lookup codec shares: the
NUL-terminated strings and the label table with the label strings after it.

The writer (`label_layout`, `write_lookup_labels`) and the reader
(`lookup_string`, `validate_labels`, `label_at`) are two independent
computations. Between them stands `labelsImage`, the bytes of a list of labels
behind a given number of fixed bytes: the writer produces it and the reader
accepts it and gets the labels back.
-/

import NetIpc.Packed
import NetIpc.Protocol

namespace NetIpc

/-! ### Numbers that must fit a field -/

def lookupDirEntrySize : Nat := 8
def lookupLabelEntrySize : Nat := 16

/-- `checked_u32`. -/
def checkedU32 (value : Nat) : Res NipcError UInt32 :=
  if value < 2 ^ 32 then .ok (UInt32.ofNat value) else .error (.err .overflow)

/-- `checked_u16`. -/
def checkedU16 (value : Nat) : Res NipcError UInt16 :=
  if value < 2 ^ 16 then .ok (UInt16.ofNat value) else .error (.err .overflow)

variable {value : Nat}

theorem checkedU32_of_lt (small : value < 2 ^ 32) :
    checkedU32 value = .ok (UInt32.ofNat value) := if_pos small

theorem checkedU16_of_lt (small : value < 2 ^ 16) :
    checkedU16 value = .ok (UInt16.ofNat value) := if_pos small

theorem checkedU16_of_not_lt (large : ¬ value < 2 ^ 16) :
    checkedU16 value = .error (.err .overflow) := if_neg large

/-- A computation returns, or it overflows for a reason. -/
def ReturnsOr {α : Type} (past : Prop) (result : Res NipcError α) : Prop :=
  (∃ value, result = .ok value) ∨ result = .error (.err .overflow) ∧ past

/-- The end of a string with its NUL is computed, and then the rest. -/
theorem ReturnsOr.sum {α : Type} {past : Prop} {offset length : Nat} {next : Nat → Res NipcError α}
    (rest : ReturnsOr past (next (offset + length + 1)))
    (late : usizeMax < offset + length + 1 → past) :
    ReturnsOr past
      (okOr ((checkedAdd offset length).bind (checkedAdd · 1)) .overflow >>= next) := by
  cases first : checkedAdd offset length with
  | none => exact .inr ⟨rfl, late ((checkedAdd_eq_none first).trans (Nat.lt_succ_self _))⟩
  | some sum =>
    obtain ⟨rfl, -⟩ := checkedAdd_eq_some first
    rw [Option.bind_some]
    cases second : checkedAdd (offset + length) 1 with
    | none => exact .inr ⟨rfl, late (checkedAdd_eq_none second)⟩
    | some sum =>
      obtain ⟨rfl, -⟩ := checkedAdd_eq_some second
      exact rest

theorem okOr_checkedAdd_bind_eq_ok {first second third total : Nat}
    (sum : (okOr ((checkedAdd first second).bind (checkedAdd · third)) .overflow :
      Res NipcError Nat) = .ok total) : total = first + second + third := by
  obtain ⟨_, sum, whole⟩ := Option.bind_eq_some_iff.mp (okOr_eq_ok sum)
  obtain ⟨rfl, -⟩ := checkedAdd_eq_some sum
  exact (checkedAdd_eq_some whole).1

theorem checkedU16_eq_ok {word : UInt16} (ran : checkedU16 value = .ok word) :
    value < 2 ^ 16 ∧ word = UInt16.ofNat value := by
  unfold checkedU16 at ran
  split at ran
  · rename_i small
    exact ⟨small, (Except.ok.inj ran).symm⟩
  · cases ran

theorem checkedU32_eq_ok {word : UInt32} (ran : checkedU32 value = .ok word) :
    value < 2 ^ 32 ∧ word = UInt32.ofNat value := by
  unfold checkedU32 at ran
  split at ran
  · rename_i small
    exact ⟨small, (Except.ok.inj ran).symm⟩
  · cases ran

/-! ### Strings -/

/-- `source_string_invalid`. -/
def sourceStringInvalid (bytes : Bytes) (requireNonEmpty : Bool) : Bool :=
  (requireNonEmpty && bytes.isEmpty) || bytes.contains 0

/-- `StrView`: the bytes of a string with its NUL, and its length without. -/
structure StrView where
  bytes : Bytes
  len : UInt32
  deriving Repr, DecidableEq

/-- `StrView::as_bytes`. -/
def StrView.asBytes (view : StrView) : Res NipcError Bytes :=
  readSlice view.bytes 0 view.len.toNat

/-- The view of a whole string. -/
def StrView.of (text : Bytes) : StrView := ⟨text ++ [0], UInt32.ofNat text.length⟩

/-- `lookup_string`. -/
def lookupString (item : Bytes) (hdrSize offset length : Nat) : Res NipcError (StrView × Nat) := do
  rejectIf (offset < hdrSize) .outOfBounds
  let nul ← okOr (checkedAdd offset length) .outOfBounds
  rejectIf (nul ≥ item.length) .outOfBounds
  let last ← readByte item nul
  rejectIf (last ≠ 0) .missingNul
  let text ← readSlice item offset nul
  rejectIf (text.contains 0) .badLayout
  let bytes ← readSlice item offset (nul + 1)
  return (⟨bytes, UInt32.ofNat length⟩, nul + 1)

/-- `overlap`. -/
def overlap (aStart aEnd bStart bEnd : Nat) : Bool := aStart < bEnd && bStart < aEnd

/-! ### Labels -/

/-- A label: its key and its value. -/
abbrev Label := Bytes × Bytes

/-- `LookupLabelView`. -/
structure LookupLabelView where
  key : StrView
  value : StrView
  deriving Repr, DecidableEq

/-- One pass of the loop of `validate_labels`; `expected` is where the next string must start. -/
def validateLabel (item : Bytes) (hdrSize tableStart index expected : Nat) : Res NipcError Nat := do
  let entryRel ← okOr (checkedMul index lookupLabelEntrySize) .outOfBounds
  let base ← okOr (checkedAdd tableStart entryRel) .outOfBounds
  let keyOff ← u32At item base
  let keyLen ← u32At item (base + 4)
  let valueOff ← u32At item (base + 8)
  let valueLen ← u32At item (base + 12)
  rejectIf (keyLen.toNat = 0 ∨ keyOff.toNat ≠ expected) .badLayout
  let (_, keyEnd) ← lookupString item hdrSize keyOff.toNat keyLen.toNat
  rejectIf (valueOff.toNat ≠ keyEnd) .badLayout
  let (_, valueEnd) ← lookupString item hdrSize valueOff.toNat valueLen.toNat
  return valueEnd

/-- `validate_labels`: the offset of the label table. -/
def validateLabels (item : Bytes) (hdrSize : Nat) (labelCount : UInt16) (fixedEnd : Nat) :
    Res NipcError Nat :=
  if labelCount = 0 then do
    rejectIf (fixedEnd ≠ item.length) .badLayout
    return fixedEnd
  else do
    let tableStart := align8 fixedEnd
    rejectIf (tableStart > item.length) .outOfBounds
    let padding ← readSlice item fixedEnd tableStart
    rejectIf (padding.any (· != 0)) .badLayout
    let tableBytes ← okOr (checkedMul labelCount.toNat lookupLabelEntrySize) .outOfBounds
    let expected ← okOr (checkedAdd tableStart tableBytes) .outOfBounds
    rejectIf (expected > item.length) .outOfBounds
    let expected ← forFrom (validateLabel item hdrSize tableStart) 0 labelCount.toNat expected
    rejectIf (expected ≠ item.length) .badLayout
    return tableStart

/-- `label_at`. -/
def labelAt (item : Bytes) (hdrSize : Nat) (labelCount : UInt16) (labelTableOffset : Nat)
    (index : UInt32) : Res NipcError LookupLabelView := do
  rejectIf (index.toNat ≥ labelCount.toNat) .outOfBounds
  let entryOffset ← okOr (checkedMul index.toNat lookupLabelEntrySize) .outOfBounds
  let base ← okOr (checkedAdd labelTableOffset entryOffset) .outOfBounds
  let entryEnd ← okOr (checkedAdd base lookupLabelEntrySize) .outOfBounds
  rejectIf (entryEnd > item.length) .outOfBounds
  let keyOff ← u32At item base
  let keyLen ← u32At item (base + 4)
  let valueOff ← u32At item (base + 8)
  let valueLen ← u32At item (base + 12)
  let (key, _) ← lookupString item hdrSize keyOff.toNat keyLen.toNat
  let (value, _) ← lookupString item hdrSize valueOff.toNat valueLen.toNat
  return ⟨key, value⟩

/-- The loop of `write_lookup_labels`, from label `index` on. -/
def writeLabelsFrom (tableStart : Nat) : Nat → Nat → List Label → Prog NipcError Bytes Nat
  | _, next, [] => pure next
  | index, next, (key, value) :: rest => do
    let entryOffset ← Prog.ofRes (okOr (checkedMul index lookupLabelEntrySize) .overflow)
    let entry ← Prog.ofRes (okOr (checkedAdd tableStart entryOffset) .overflow)
    let valueOffset ← Prog.ofRes
      (okOr ((checkedAdd next key.length).bind (checkedAdd · 1)) .overflow)
    putU32 entry (← Prog.ofRes (checkedU32 next))
    putU32 (entry + 4) (← Prog.ofRes (checkedU32 key.length))
    putU32 (entry + 8) (← Prog.ofRes (checkedU32 valueOffset))
    putU32 (entry + 12) (← Prog.ofRes (checkedU32 value.length))
    write next key
    write (next + key.length) [0]
    write valueOffset value
    write (valueOffset + value.length) [0]
    let next ← Prog.ofRes
      (okOr ((checkedAdd valueOffset value.length).bind (checkedAdd · 1)) .overflow)
    writeLabelsFrom tableStart (index + 1) next rest

/-- `write_lookup_labels`. -/
def writeLookupLabels (tableStart tableBytes : Nat) (labels : List Label) :
    Prog NipcError Bytes Nat := do
  let next ← Prog.ofRes (okOr (checkedAdd tableStart tableBytes) .overflow)
  writeLabelsFrom tableStart 0 next labels

/-- The end of both item writers: the padding and the labels, if there are any. The value is the
size of the item. -/
def writeLabelPart (fixedEnd tableStart tableBytes itemSize : Nat) (labels : List Label) :
    Prog NipcError Bytes Nat :=
  if labels.isEmpty then
    pure itemSize
  else do
    fillZero fixedEnd tableStart
    writeLookupLabels tableStart tableBytes labels

/-- The loop of `label_layout`. -/
def layoutFrom : Nat → List Label → Res NipcError Nat
  | itemSize, [] => .ok itemSize
  | itemSize, (key, value) :: rest => do
    rejectIf (sourceStringInvalid key true ∨ sourceStringInvalid value false) .badLayout
    let keySize ← okOr (checkedAdd key.length 1) .overflow
    let valueSize ← okOr (checkedAdd value.length 1) .overflow
    let itemSize ← okOr ((checkedAdd itemSize keySize).bind (checkedAdd · valueSize)) .overflow
    layoutFrom itemSize rest

/-- `label_layout`: where the label table starts, its size, and the size of the item. -/
def labelLayout (fixedEnd : Nat) (labels : List Label) : Res NipcError (Nat × Nat × Nat) :=
  if labels.isEmpty then .ok (fixedEnd, 0, fixedEnd)
  else do
    let tableStart := align8 fixedEnd
    let tableBytes ← okOr (checkedMul labels.length lookupLabelEntrySize) .overflow
    let itemSize ← okOr (checkedAdd tableStart tableBytes) .overflow
    let itemSize ← layoutFrom itemSize labels
    return (tableStart, tableBytes, itemSize)

/-! ### Strings read back -/

theorem sourceStringInvalid_false_iff (bytes : Bytes) (requireNonEmpty : Bool) :
    sourceStringInvalid bytes requireNonEmpty = false ↔
      (requireNonEmpty = true → bytes ≠ []) ∧ 0 ∉ bytes := by
  cases requireNonEmpty <;> simp [sourceStringInvalid]

theorem asBytes_of (text : Bytes) (small : text.length < 2 ^ 32) :
    (StrView.of text).asBytes = .ok text := by
  have length := toNat_ofNat32 small
  rw [StrView.asBytes, StrView.of, length,
    readSlice_of_le (Nat.zero_le _) (by rw [List.length_append]; omega), Nat.sub_zero, slice_take,
    List.take_left' rfl]

/-- A string that stands in an item with its NUL is accepted and returned. -/
theorem lookupString_split {item before text after : Bytes} {hdrSize offset length : Nat}
    (split : item = before ++ (text ++ [0]) ++ after) (start : offset = before.length)
    (size : length = text.length) (past : hdrSize ≤ before.length) (clean : 0 ∉ text)
    (small : item.length ≤ usizeMax) :
    lookupString item hdrSize offset length = .ok (StrView.of text, offset + length + 1) := by
  have total : item.length = before.length + text.length + 1 + after.length := by
    rw [split]
    simp only [List.length_append, List.length_singleton]
    omega
  have nul : item[offset + length]? = some 0 := by
    have inside : offset + length < (before ++ (text ++ [0])).length := by
      simp only [List.length_append, List.length_singleton]
      omega
    rw [split, List.getElem?_append_left inside, List.getElem?_append_right (by omega),
      List.getElem?_append_right (by omega),
      show offset + length - before.length - text.length = 0 by omega]
    rfl
  have content : slice item offset (offset + length - offset) = text := by
    rw [split, ← List.append_assoc before, List.append_assoc _ [0]]
    exact slice_middle _ _ _ _ _ start (by omega)
  have whole : slice item offset (offset + length + 1 - offset) = text ++ [0] := by
    rw [split]
    refine slice_middle _ _ _ _ _ start ?_
    rw [List.length_append, List.length_singleton]
    omega
  have noNul : ¬ text.contains 0 = true := by
    simpa using clean
  unfold lookupString
  rw [guard_bind (by omega), checkedAdd_of_le (by omega), okOr_some, ok_bind, guard_bind (by omega),
    readByte_of_getElem? nul, ok_bind, guard_bind (by simp), readSlice_of_le (by omega) (by omega),
    content, ok_bind, guard_bind noNul, readSlice_of_le (by omega) (by omega), whole, ok_bind, size]
  rfl

/-- An accepted string has no NUL inside. -/
theorem lookupString_eq_ok {item : Bytes} {hdrSize offset length : Nat} {result : StrView × Nat}
    (ran : lookupString item hdrSize offset length = .ok result) :
    0 ∉ slice item offset length := by
  rw [lookupString] at ran
  obtain ⟨_, -, ran⟩ := bind_eq_ok ran
  obtain ⟨-, ran⟩ := add_eq_ok ran
  iterate 3 obtain ⟨_, -, ran⟩ := bind_eq_ok ran
  obtain ⟨text, read, ran⟩ := bind_eq_ok ran
  obtain ⟨_, clean, -⟩ := bind_eq_ok ran
  obtain ⟨-, -, rfl⟩ := readSlice_eq_ok read
  rw [Nat.add_sub_cancel_left] at clean
  simpa using rejectIf_eq_ok clean

/-! ### The image of a list of labels -/

/-- A label the writer accepts. -/
structure Label.Valid (label : Label) : Prop where
  key : label.1 ≠ []
  keyClean : 0 ∉ label.1
  valueClean : 0 ∉ label.2

/-- The label strings, each with its NUL. -/
def labelStrings : List Label → Bytes
  | [] => []
  | (key, value) :: rest => key ++ [0] ++ (value ++ [0]) ++ labelStrings rest

/-- The label table when the first label string starts at `next`. -/
def labelTable : Nat → List Label → Bytes
  | _, [] => []
  | next, (key, value) :: rest =>
    leBytes 4 next ++ leBytes 4 key.length ++ leBytes 4 (next + key.length + 1) ++
      leBytes 4 value.length ++ labelTable (next + (key.length + 1 + (value.length + 1))) rest

/-- Padding, label table and label strings behind `fixedEnd` fixed bytes. -/
def labelsImage (fixedEnd : Nat) (labels : List Label) : Bytes :=
  if labels.isEmpty then []
  else zeros (align8 fixedEnd - fixedEnd) ++
    labelTable (align8 fixedEnd + 16 * labels.length) labels ++ labelStrings labels

theorem labelStrings_append (first second : List Label) :
    labelStrings (first ++ second) = labelStrings first ++ labelStrings second := by
  induction first with
  | nil => rfl
  | cons label rest ih =>
    simp only [List.cons_append, labelStrings, ih, List.append_assoc]

theorem length_labelStrings_cons (label : Label) (rest : List Label) :
    (labelStrings (label :: rest)).length =
      label.1.length + 1 + (label.2.length + 1) + (labelStrings rest).length := by
  simp only [labelStrings, List.length_append, List.length_singleton]

theorem length_le_labelStrings {labels : List Label} {label : Label} (member : label ∈ labels) :
    label.1.length + label.2.length ≤ (labelStrings labels).length := by
  induction labels with
  | nil => cases member
  | cons first rest ih =>
    rw [length_labelStrings_cons]
    rcases List.mem_cons.mp member with rfl | later
    · omega
    · exact (ih later).trans (Nat.le_add_left _ _)

theorem labelTable_append (next : Nat) (first second : List Label) :
    labelTable next (first ++ second) =
      labelTable next first ++ labelTable (next + (labelStrings first).length) second := by
  induction first generalizing next with
  | nil => rfl
  | cons label rest ih =>
    rw [length_labelStrings_cons]
    simp only [List.cons_append, labelTable, ih, List.append_assoc, Nat.add_assoc]

@[simp] theorem length_labelTable (next : Nat) (labels : List Label) :
    (labelTable next labels).length = 16 * labels.length := by
  induction labels generalizing next with
  | nil => rfl
  | cons label rest ih =>
    simp only [labelTable, List.length_append, length_leBytes, ih, List.length_cons]
    omega

/-! ### Labels read back -/

/-- The reads that find one label: its table entry at `base`, its strings from `next` on. -/
structure LabelReads (item : Bytes) (hdrSize base next : Nat) (label : Label) : Prop where
  keyOff : (u32At item base : Res NipcError UInt32) = .ok (UInt32.ofNat next)
  keyLen : (u32At item (base + 4) : Res NipcError UInt32) = .ok (UInt32.ofNat label.1.length)
  valueOff : (u32At item (base + 8) : Res NipcError UInt32) =
    .ok (UInt32.ofNat (next + label.1.length + 1))
  valueLen : (u32At item (base + 12) : Res NipcError UInt32) =
    .ok (UInt32.ofNat label.2.length)
  key : lookupString item hdrSize next label.1.length =
    .ok (StrView.of label.1, next + label.1.length + 1)
  value : lookupString item hdrSize (next + label.1.length + 1) label.2.length =
    .ok (StrView.of label.2, next + label.1.length + 1 + label.2.length + 1)
  bound : base + 16 ≤ item.length
  inside : next + label.1.length + 1 + label.2.length + 1 ≤ item.length

/-- One label, from the two places it stands in. -/
theorem labelReads_of_splits {item head rest body after : Bytes} {hdrSize base next : Nat}
    (label : Label) (valid : label.Valid)
    (entry : item = head ++ (leBytes 4 next ++ leBytes 4 label.1.length ++
      leBytes 4 (next + label.1.length + 1) ++ leBytes 4 label.2.length) ++ rest)
    (text : item = body ++ (label.1 ++ [0]) ++ (label.2 ++ [0]) ++ after)
    (headLength : base = head.length) (bodyLength : next = body.length)
    (past : hdrSize ≤ body.length) (small : item.length ≤ usizeMax) :
    LabelReads item hdrSize base next label := by
  obtain ⟨keyOff, keyLen, valueOff, valueLen⟩ := u32At_four entry headLength
  refine ⟨keyOff, keyLen, valueOff, valueLen, ?_, ?_, ?_, ?_⟩
  · exact lookupString_split (text.trans (List.append_assoc _ _ _)) bodyLength rfl past
      valid.keyClean small
  · refine lookupString_split text ?_ rfl ?_ valid.valueClean small
    · simp only [List.length_append, List.length_singleton]
      omega
    · rw [List.length_append]
      omega
  · rw [entry]
    simp only [List.length_append, length_leBytes]
    omega
  · rw [text]
    simp only [List.length_append, List.length_singleton]
    omega

section Reading

variable {front : Bytes} {labels : List Label} {item : Bytes} {hdrSize : Nat}

theorem labelsImage_of_ne_nil (fixedEnd : Nat) (some : labels ≠ []) :
    labelsImage fixedEnd labels = zeros (align8 fixedEnd - fixedEnd) ++
      labelTable (align8 fixedEnd + 16 * labels.length) labels ++ labelStrings labels := by
  rw [labelsImage, if_neg (by simpa using some)]

/-- The label table, cut at one label. -/
theorem labelTable_split (start index : Nat) (label : Label) (found : labels[index]? = some label) :
    ∃ rest, labelTable start labels = labelTable start (labels.take index) ++
      (leBytes 4 (start + (labelStrings (labels.take index)).length) ++
        leBytes 4 label.1.length ++
        leBytes 4 (start + (labelStrings (labels.take index)).length + label.1.length + 1) ++
        leBytes 4 label.2.length) ++ rest := by
  refine ⟨labelTable (start + (labelStrings (labels.take index)).length +
    (label.1.length + 1 + (label.2.length + 1))) (labels.drop (index + 1)), ?_⟩
  conv_lhs => rw [take_append_drop_of_getElem? found, labelTable_append, labelTable]
  simp only [List.append_assoc]

/-- The label strings, cut at one label. -/
theorem labelStrings_split (index : Nat) (label : Label) (found : labels[index]? = some label) :
    labelStrings labels = labelStrings (labels.take index) ++ (label.1 ++ [0]) ++
      (label.2 ++ [0]) ++ labelStrings (labels.drop (index + 1)) := by
  conv_lhs => rw [take_append_drop_of_getElem? found, labelStrings_append, labelStrings]
  simp only [List.append_assoc]

/-- Label `index` is found where the ones before it end. -/
theorem labelReads_of_image (image : item = front ++ labelsImage front.length labels)
    (valid : ∀ label ∈ labels, label.Valid) (past : hdrSize ≤ front.length)
    (small : item.length < 2 ^ 32) (index : Nat) (label : Label)
    (found : labels[index]? = some label) :
    LabelReads item hdrSize (align8 front.length + 16 * index)
      (align8 front.length + 16 * labels.length + (labelStrings (labels.take index)).length)
      label := by
  obtain ⟨bound, -⟩ := List.getElem?_eq_some_iff.mp found
  have up := le_align8 front.length
  obtain ⟨tableRest, table⟩ :=
    labelTable_split (align8 front.length + 16 * labels.length) index label found
  have strings := labelStrings_split index label found
  rw [labelsImage_of_ne_nil _ (List.ne_nil_of_length_pos (by omega))] at image
  have entry : item = (front ++ (zeros (align8 front.length - front.length) ++
      labelTable (align8 front.length + 16 * labels.length) (labels.take index))) ++
      (leBytes 4 (align8 front.length + 16 * labels.length +
          (labelStrings (labels.take index)).length) ++ leBytes 4 label.1.length ++
        leBytes 4 (align8 front.length + 16 * labels.length +
          (labelStrings (labels.take index)).length + label.1.length + 1) ++
        leBytes 4 label.2.length) ++ (tableRest ++ labelStrings labels) := by
    rw [image, table]
    simp only [List.append_assoc]
  have text : item = (front ++ (zeros (align8 front.length - front.length) ++
      (labelTable (align8 front.length + 16 * labels.length) labels ++
        labelStrings (labels.take index)))) ++ (label.1 ++ [0]) ++ (label.2 ++ [0]) ++
      labelStrings (labels.drop (index + 1)) := by
    rw [image, strings]
    simp only [List.append_assoc]
  refine labelReads_of_splits label (valid label (List.mem_of_getElem? found)) entry text
    ?_ ?_ ?_ ?_
  · simp only [List.length_append, length_zeros, length_labelTable, List.length_take]
    omega
  · simp only [List.length_append, length_zeros, length_labelTable]
    omega
  · rw [List.length_append]
    omega
  · rw [usizeMax]
    omega

theorem validateLabel_of_reads {tableStart index next : Nat} {label : Label}
    (reads : LabelReads item hdrSize (tableStart + 16 * index) next label)
    (key : label.1 ≠ []) (small : item.length < 2 ^ 32) :
    validateLabel item hdrSize tableStart index next =
      .ok (next + label.1.length + 1 + label.2.length + 1) := by
  have inside := reads.inside
  have bound := reads.bound
  have keyLength := List.length_pos_of_ne_nil key
  have entryRel : index * lookupLabelEntrySize = 16 * index := Nat.mul_comm _ _
  simp only [validateLabel]
  rw [mul_bind (by rw [entryRel]; omega), entryRel, add_bind (by omega), reads.keyOff, ok_bind,
    reads.keyLen, ok_bind, reads.valueOff, ok_bind, reads.valueLen, ok_bind,
    toNat_ofNat32 (by omega), toNat_ofNat32 (by omega), toNat_ofNat32 (by omega),
    toNat_ofNat32 (by omega), guard_bind (by omega), reads.key, ok_bind, guard_bind (by omega),
    reads.value, ok_bind]
  rfl

/-- Where the label table of an item starts. -/
def labelTableStart (fixedEnd : Nat) (labels : List Label) : Nat :=
  if labels.isEmpty then fixedEnd else align8 fixedEnd

/-- The reader accepts the labels the image holds. -/
theorem validateLabels_image (image : item = front ++ labelsImage front.length labels)
    (valid : ∀ label ∈ labels, label.Valid) (past : hdrSize ≤ front.length)
    (small : item.length < 2 ^ 32) (few : labels.length < 2 ^ 16) :
    validateLabels item hdrSize (UInt16.ofNat labels.length) front.length =
      .ok (labelTableStart front.length labels) := by
  have count : (UInt16.ofNat labels.length).toNat = labels.length := UInt16.toNat_ofNat_of_lt' few
  by_cases empty : labels = []
  · subst empty
    have whole : ¬ front.length ≠ item.length := by
      rw [image]
      simp [labelsImage]
    rw [validateLabels, if_pos (show UInt16.ofNat ([] : List Label).length = 0 from rfl),
      rejectIf_of_not whole]
    rfl
  · have up := le_align8 front.length
    have some : UInt16.ofNat labels.length ≠ 0 := by
      intro zero
      have nonzero := List.length_pos_of_ne_nil empty
      rw [zero] at count
      simp only [UInt16.toNat_zero] at count
      omega
    have layout := image
    rw [labelsImage_of_ne_nil _ empty] at layout
    have total := congrArg List.length layout
    simp only [List.length_append, length_zeros, length_labelTable] at total
    have padding : slice item front.length (align8 front.length - front.length) =
        zeros (align8 front.length - front.length) := by
      rw [layout, ← List.append_assoc, ← List.append_assoc, List.append_assoc _ _ (labelStrings _)]
      exact slice_middle _ _ _ _ _ rfl (length_zeros _).symm
    have clean : ¬ (zeros (align8 front.length - front.length)).any (· != 0) = true := by
      rw [List.any_eq_true]
      rintro ⟨byte, member, different⟩
      rw [mem_zeros member] at different
      exact absurd different (by decide)
    have loop := forFrom_of_step (validateLabel item hdrSize (align8 front.length))
      (fun index => align8 front.length + 16 * labels.length +
        (labelStrings (labels.take index)).length) 0 labels.length fun index _ high => by
        have found := List.getElem?_eq_getElem (show index < labels.length by omega)
        rw [validateLabel_of_reads (labelReads_of_image image valid past small index _ found)
          (valid _ (List.mem_of_getElem? found)).key small, List.take_add_one, found,
          labelStrings_append, List.length_append, Option.toList_some, length_labelStrings_cons]
        simp only [labelStrings, List.length_nil, Nat.add_assoc]
    simp only [List.take_zero, labelStrings, List.length_nil, Nat.add_zero, Nat.zero_add,
      List.take_length] at loop
    have entries : labels.length * lookupLabelEntrySize = 16 * labels.length := Nat.mul_comm _ _
    rw [validateLabels, if_neg some]
    simp only []
    rw [guard_bind (by omega), readSlice_of_le up (by omega), padding, ok_bind, guard_bind clean,
      count, mul_bind (by rw [entries]; omega), entries, add_bind (by omega), guard_bind (by omega),
      loop, ok_bind, rejectIf_of_not (by omega), labelTableStart, if_neg (by simpa using empty)]
    rfl

/-- `label_at` returns the label. -/
theorem labelAt_image (image : item = front ++ labelsImage front.length labels)
    (valid : ∀ label ∈ labels, label.Valid) (past : hdrSize ≤ front.length)
    (small : item.length < 2 ^ 32) (few : labels.length < 2 ^ 16) (index : Nat) (label : Label)
    (found : labels[index]? = some label) :
    labelAt item hdrSize (UInt16.ofNat labels.length) (labelTableStart front.length labels)
      (UInt32.ofNat index) = .ok ⟨StrView.of label.1, StrView.of label.2⟩ := by
  obtain ⟨below, -⟩ := List.getElem?_eq_some_iff.mp found
  have reads := labelReads_of_image image valid past small index label found
  have inside := reads.inside
  have bound := reads.bound
  have nonempty : labels ≠ [] := List.ne_nil_of_length_pos (by omega)
  have count : (UInt16.ofNat labels.length).toNat = labels.length := UInt16.toNat_ofNat_of_lt' few
  have indexed : (UInt32.ofNat index).toNat = index := toNat_ofNat32 (by omega)
  have entryRel : index * lookupLabelEntrySize = 16 * index := Nat.mul_comm _ _
  have entrySize : lookupLabelEntrySize = 16 := rfl
  rw [labelTableStart, if_neg (by simpa using nonempty)]
  simp only [labelAt]
  rw [count, indexed, guard_bind (by omega), mul_bind (by rw [entryRel]; omega), entryRel,
    add_bind (by omega), add_bind (by omega), guard_bind (by omega), reads.keyOff, ok_bind,
    reads.keyLen, ok_bind, reads.valueOff, ok_bind, reads.valueLen, ok_bind,
    toNat_ofNat32 (by omega), toNat_ofNat32 (by omega), toNat_ofNat32 (by omega),
    toNat_ofNat32 (by omega), reads.key, ok_bind, reads.value, ok_bind]
  rfl

end Reading

/-! ### Labels written -/

variable (labels : List Label)

/-- The writer fills a table area `table` and a string area `strings`; `done` are the strings of
the labels written before. -/
theorem run_writeLabelsFrom (tableStart index next : Nat) (front table done strings : Bytes)
    (tableLength : table.length = 16 * labels.length)
    (stringsLength : strings.length = (labelStrings labels).length)
    (start : tableStart + 16 * index = front.length)
    (position : next = front.length + table.length + done.length)
    (small : next + strings.length < 2 ^ 32) :
    (writeLabelsFrom tableStart index next labels).run (front ++ table ++ done ++ strings) =
      (.ok (next + (labelStrings labels).length),
        front ++ labelTable next labels ++ done ++ labelStrings labels) := by
  induction labels generalizing index next front table done strings with
  | nil =>
    rw [List.length_eq_zero_iff.mp tableLength, List.length_eq_zero_iff.mp stringsLength]
    rfl
  | cons label rest ih =>
    obtain ⟨key, value⟩ := label
    rw [length_labelStrings_cons] at stringsLength
    rw [List.length_cons] at tableLength
    dsimp only at stringsLength
    have entryOffset : index * lookupLabelEntrySize = 16 * index := Nat.mul_comm _ _
    simp only [writeLabelsFrom]
    rw [Prog.mul_bind (by rw [entryOffset]; omega), entryOffset, Prog.add_bind (by omega),
      checkedAdd_of_le (by rw [usizeMax]; omega), Option.bind_some, Prog.add_bind (by omega),
      checkedU32_of_lt (by omega), checkedU32_of_lt (by omega), checkedU32_of_lt (by omega),
      checkedU32_of_lt (by omega)]
    simp only [Prog.ofRes_ok_bind, putU32]
    rw [toNat_ofNat32 (by omega), toNat_ofNat32 (by omega), toNat_ofNat32 (by omega),
      toNat_ofNat32 (by omega), checkedAdd_of_le (by rw [usizeMax]; omega), Option.bind_some,
      okOr_checkedAdd (by omega), List.append_assoc (front ++ table), List.append_assoc front]
    simp only [Prog.ofRes_ok_bind]
    rw [run_bind_write start (by simp; omega), run_bind_write (by simp; omega) (by simp; omega),
      run_bind_write (by simp; omega) (by simp; omega),
      run_bind_write (by simp; omega) (by simp; omega)]
    -- The free part of the table and the strings written before lie between the two writes.
    have regroup : (table ++ (done ++ strings)).drop 16 = table.drop 16 ++ done ++ strings := by
      rw [List.drop_append_of_le_length (by omega), List.append_assoc]
    simp only [length_leBytes, List.drop_drop, Nat.reduceAdd]
    rw [regroup, ← List.append_assoc, run_bind_write (by simp; omega) (by omega),
      run_bind_write (by simp; omega) (by simp; omega),
      run_bind_write (by simp; omega) (by simp; omega),
      run_bind_write (by simp; omega) (by simp; omega)]
    have step := ih (index + 1) (next + key.length + 1 + value.length + 1)
      (front ++ leBytes 4 next ++ leBytes 4 key.length ++ leBytes 4 (next + key.length + 1) ++
        leBytes 4 value.length) (table.drop 16) (done ++ key ++ [0] ++ value ++ [0])
      (strings.drop (key.length + 1 + (value.length + 1)))
      (by rw [List.length_drop]; omega) (by rw [List.length_drop]; omega) (by simp; omega)
      (by simp; omega) (by rw [List.length_drop]; omega)
    rw [length_labelStrings_cons]
    simp only [List.append_assoc, List.drop_drop, List.length_singleton, labelTable, labelStrings,
      Nat.add_assoc] at step ⊢
    exact step

/-- The whole label writer, on the area that `label_layout` reserves. -/
theorem run_writeLookupLabels (front area : Bytes)
    (areaLength : area.length = 16 * labels.length + (labelStrings labels).length)
    (small : front.length + area.length < 2 ^ 32) :
    (writeLookupLabels front.length (16 * labels.length) labels).run (front ++ area) =
      (.ok (front.length + area.length),
        front ++ labelTable (front.length + 16 * labels.length) labels ++ labelStrings labels) := by
  have table : (area.take (16 * labels.length)).length = 16 * labels.length := by
    rw [List.length_take]
    omega
  have strings : (area.drop (16 * labels.length)).length = (labelStrings labels).length := by
    rw [List.length_drop]
    omega
  have written := run_writeLabelsFrom labels front.length 0 (front.length + 16 * labels.length)
    front (area.take (16 * labels.length)) [] (area.drop (16 * labels.length)) table strings
    (by omega) (by rw [table]; rfl) (by omega)
  rw [List.append_nil, List.append_nil, List.append_assoc, List.take_append_drop] at written
  simp only [writeLookupLabels]
  rw [Prog.add_bind (by omega), written, areaLength, Nat.add_assoc]

theorem returns_writeLabelsFrom (tableStart index next : Nat) :
    (writeLabelsFrom tableStart index next labels).Returns
      (· = next + (labelStrings labels).length) := by
  induction labels generalizing index next with
  | nil => exact Prog.returns_pure rfl
  | cons label rest ih =>
    obtain ⟨key, value⟩ := label
    simp only [writeLabelsFrom]
    refine Prog.Returns.bind fun _ => Prog.Returns.bind fun _ => ?_
    cases first : (checkedAdd next key.length).bind (checkedAdd · 1) with
    | none => exact fun _ _ _ ran => absurd ran (by simp)
    | some valueOffset =>
      obtain ⟨middle, added, last⟩ := Option.bind_eq_some_iff.mp first
      obtain ⟨rfl, -⟩ := checkedAdd_eq_some added
      obtain ⟨rfl, -⟩ := checkedAdd_eq_some last
      rw [okOr_some, Prog.ofRes_ok_bind]
      iterate 12 refine Prog.Returns.bind fun _ => ?_
      cases second : (checkedAdd (next + key.length + 1) value.length).bind (checkedAdd · 1) with
      | none => exact fun _ _ _ ran => absurd ran (by simp)
      | some following =>
        obtain ⟨middle, added, last⟩ := Option.bind_eq_some_iff.mp second
        obtain ⟨rfl, -⟩ := checkedAdd_eq_some added
        obtain ⟨rfl, -⟩ := checkedAdd_eq_some last
        rw [okOr_some, Prog.ofRes_ok_bind, length_labelStrings_cons]
        intro state result after ran
        rw [ih _ _ state result after ran]
        simp only [Nat.add_assoc]

theorem returns_writeLookupLabels (tableStart tableBytes : Nat) :
    (writeLookupLabels tableStart tableBytes labels).Returns
      (· = tableStart + tableBytes + (labelStrings labels).length) := by
  simp only [writeLookupLabels]
  cases sum : checkedAdd tableStart tableBytes with
  | none => exact fun _ _ _ ran => absurd ran (by simp)
  | some next =>
    obtain ⟨rfl, -⟩ := checkedAdd_eq_some sum
    rw [okOr_some, Prog.ofRes_ok_bind]
    exact returns_writeLabelsFrom labels _ _ _

theorem writer_writeLabelsFrom (tableStart index next : Nat) :
    Writer (writeLabelsFrom tableStart index next labels) := by
  induction labels generalizing index next with
  | nil => exact .pure _
  | cons label rest ih =>
    obtain ⟨key, value⟩ := label
    simp only [writeLabelsFrom]
    iterate 3 refine (Writer.ofRes _).bind fun _ => ?_
    iterate 4 refine (Writer.ofRes _).bind fun _ => (Writer.write _ _).bind fun _ => ?_
    iterate 4 refine (Writer.write _ _).bind fun _ => ?_
    exact (Writer.ofRes _).bind fun _ => ih _ _

theorem writer_writeLookupLabels (tableStart tableBytes : Nat) :
    Writer (writeLookupLabels tableStart tableBytes labels) :=
  (Writer.ofRes _).bind fun _ => writer_writeLabelsFrom labels _ _ _

/-! ### The layout computed before writing -/

variable {labels : List Label}

theorem layoutFrom_eq_ok {itemSize total : Nat} (ran : layoutFrom itemSize labels = .ok total) :
    (∀ label ∈ labels, label.Valid) ∧ total = itemSize + (labelStrings labels).length := by
  induction labels generalizing itemSize with
  | nil => exact ⟨fun _ member => absurd member List.not_mem_nil, (Except.ok.inj ran).symm⟩
  | cons label rest ih =>
    obtain ⟨key, value⟩ := label
    rw [layoutFrom] at ran
    obtain ⟨accepted, ran⟩ := guard_eq_ok ran
    obtain ⟨-, ran⟩ := add_eq_ok ran
    obtain ⟨-, ran⟩ := add_eq_ok ran
    obtain ⟨_, sum, ran⟩ := bind_eq_ok ran
    obtain rfl := okOr_checkedAdd_bind_eq_ok sum
    obtain ⟨restValid, size⟩ := ih ran
    have both := not_or.mp accepted
    rw [Bool.not_eq_true, Bool.not_eq_true, sourceStringInvalid_false_iff,
      sourceStringInvalid_false_iff] at both
    refine ⟨fun other member => ?_, ?_⟩
    · rcases List.mem_cons.mp member with rfl | member
      · exact ⟨both.1.1 rfl, both.1.2, both.2.2⟩
      · exact restValid other member
    · rw [size, length_labelStrings_cons]
      simp only [Nat.add_assoc]

/-- Valid labels have a layout, or their size overflows. -/
theorem layoutFrom_of_valid (itemSize : Nat) (labels : List Label)
    (valid : ∀ label ∈ labels, label.Valid) (start : itemSize ≤ usizeMax) :
    layoutFrom itemSize labels =
      if itemSize + (labelStrings labels).length ≤ usizeMax then
        .ok (itemSize + (labelStrings labels).length) else .error (.err .overflow) := by
  induction labels generalizing itemSize with
  | nil => exact (if_pos start).symm
  | cons label rest ih =>
    have labelValid := valid label List.mem_cons_self
    obtain ⟨key, value⟩ := label
    have accepted : ¬ (sourceStringInvalid key true = true ∨
        sourceStringInvalid value false = true) := by
      rw [not_or, Bool.not_eq_true, Bool.not_eq_true, sourceStringInvalid_false_iff,
        sourceStringInvalid_false_iff]
      exact ⟨⟨fun _ => labelValid.key, labelValid.keyClean⟩, nofun, labelValid.valueClean⟩
    rw [layoutFrom, guard_bind accepted, length_labelStrings_cons]
    dsimp only
    by_cases keyFits : itemSize + (key.length + 1) ≤ usizeMax
    · by_cases valueFits : itemSize + (key.length + 1) + (value.length + 1) ≤ usizeMax
      · rw [checkedAdd_of_le (by omega), okOr_some, ok_bind, checkedAdd_of_le (by omega), okOr_some,
          ok_bind, checkedAdd_of_le keyFits, Option.bind_some, checkedAdd_of_le valueFits,
            okOr_some,
          ok_bind, ih _ (fun other member =>
            valid other (List.mem_cons_of_mem _ member)) valueFits]
        simp only [Nat.add_assoc]
      · rw [if_neg (by omega), checkedAdd_of_le (by omega), okOr_some, ok_bind]
        cases size : checkedAdd value.length 1 with
        | none => rfl
        | some valueSize =>
          obtain ⟨rfl, -⟩ := checkedAdd_eq_some size
          rw [okOr_some, ok_bind, checkedAdd_of_le keyFits, Option.bind_some,
            show checkedAdd (itemSize + (key.length + 1)) (value.length + 1) = none from
              if_neg valueFits]
          rfl
    · rw [if_neg (by omega)]
      cases size : checkedAdd key.length 1 with
      | none => rfl
      | some keySize =>
        obtain ⟨rfl, -⟩ := checkedAdd_eq_some size
        rw [okOr_some, ok_bind]
        cases size : checkedAdd value.length 1 with
        | none => rfl
        | some valueSize =>
          rw [okOr_some, ok_bind, show checkedAdd itemSize (key.length + 1) = none from
            if_neg keyFits]
          rfl

theorem length_labelsImage (fixedEnd : Nat) (some : labels ≠ []) :
    fixedEnd + (labelsImage fixedEnd labels).length =
      align8 fixedEnd + 16 * labels.length + (labelStrings labels).length := by
  have up := le_align8 fixedEnd
  rw [labelsImage_of_ne_nil _ some]
  simp only [List.length_append, length_zeros, length_labelTable]
  omega

/-- What a layout says about the labels and the item. -/
theorem labelLayout_eq_ok {fixedEnd tableStart tableBytes itemSize : Nat}
    (ran : labelLayout fixedEnd labels = .ok (tableStart, tableBytes, itemSize)) :
    (∀ label ∈ labels, label.Valid) ∧ tableStart = labelTableStart fixedEnd labels ∧
      tableBytes = 16 * labels.length ∧
      itemSize = fixedEnd + (labelsImage fixedEnd labels).length := by
  by_cases empty : labels = []
  · subst empty
    cases ran
    exact ⟨fun _ member => absurd member List.not_mem_nil, rfl, rfl, rfl⟩
  · rw [labelLayout, if_neg (by simpa using empty)] at ran
    obtain ⟨-, ran⟩ := mul_eq_ok ran
    obtain ⟨-, ran⟩ := add_eq_ok ran
    obtain ⟨total, strings, ran⟩ := bind_eq_ok ran
    obtain ⟨valid, size⟩ := layoutFrom_eq_ok strings
    cases ran
    refine ⟨valid, ?_, Nat.mul_comm _ _, ?_⟩
    · rw [labelTableStart, if_neg (by simpa using empty)]
    · rw [size, length_labelsImage fixedEnd empty, lookupLabelEntrySize, Nat.mul_comm]

/-- Valid labels are laid out, unless the item's size overflows. -/
theorem labelLayout_of_valid (fixedEnd : Nat) (labels : List Label)
    (valid : ∀ label ∈ labels, label.Valid) :
    labelLayout fixedEnd labels = .ok (labelTableStart fixedEnd labels, 16 * labels.length,
        fixedEnd + (labelsImage fixedEnd labels).length) ∨
      labelLayout fixedEnd labels = .error (.err .overflow) ∧
        usizeMax < fixedEnd + (labelsImage fixedEnd labels).length := by
  by_cases empty : labels = []
  · subst empty
    exact .inl rfl
  · rw [labelLayout, if_neg (by simpa using empty), length_labelsImage fixedEnd empty,
      labelTableStart, if_neg (by simpa using empty)]
    dsimp only
    cases bytes : checkedMul labels.length lookupLabelEntrySize with
    | none =>
      have past := checkedMul_eq_none bytes
      rw [lookupLabelEntrySize] at past
      exact .inr ⟨rfl, by omega⟩
    | some tableBytes =>
      obtain ⟨rfl, -⟩ := checkedMul_eq_some bytes
      rw [okOr_some, ok_bind, lookupLabelEntrySize, Nat.mul_comm]
      cases sum : checkedAdd (align8 fixedEnd) (16 * labels.length) with
      | none =>
        have past := checkedAdd_eq_none sum
        exact .inr ⟨rfl, by omega⟩
      | some start =>
        obtain ⟨rfl, bound⟩ := checkedAdd_eq_some sum
        rw [okOr_some, ok_bind, layoutFrom_of_valid _ labels valid bound]
        by_cases fits : align8 fixedEnd + 16 * labels.length + (labelStrings labels).length ≤
            usizeMax
        · rw [if_pos fits]
          exact .inl rfl
        · rw [if_neg fits]
          exact .inr ⟨rfl, by omega⟩

/-! ### The label part of an item -/

section LabelPart

variable (fixedEnd : Nat) (labels : List Label)

theorem writer_writeLabelPart (tableStart tableBytes itemSize : Nat) :
    Writer (writeLabelPart fixedEnd tableStart tableBytes itemSize labels) := by
  unfold writeLabelPart
  split
  · exact .pure _
  · exact (Writer.fillZero _ _).bind fun _ => writer_writeLookupLabels _ _ _

theorem returns_writeLabelPart :
    (writeLabelPart fixedEnd (labelTableStart fixedEnd labels) (16 * labels.length)
      (fixedEnd + (labelsImage fixedEnd labels).length) labels).Returns
      (· = fixedEnd + (labelsImage fixedEnd labels).length) := by
  unfold writeLabelPart
  by_cases empty : labels = []
  · rw [if_pos (by simpa using empty)]
    exact Prog.returns_pure rfl
  · rw [if_neg (by simpa using empty)]
    refine Prog.Returns.bind fun _ => ?_
    rw [labelTableStart, if_neg (by simpa using empty), length_labelsImage fixedEnd empty]
    exact returns_writeLookupLabels labels (align8 fixedEnd) (16 * labels.length)

/-- The label writer fills the area behind the fixed part. -/
theorem run_writeLabelPart (front area : Bytes)
    (areaLength : area.length = (labelsImage front.length labels).length)
    (small : front.length + area.length < 2 ^ 32) :
    (writeLabelPart front.length (labelTableStart front.length labels) (16 * labels.length)
      (front.length + (labelsImage front.length labels).length) labels).run (front ++ area) =
      (.ok (front.length + (labelsImage front.length labels).length),
        front ++ labelsImage front.length labels) := by
  unfold writeLabelPart
  by_cases empty : labels = []
  · subst empty
    rw [List.length_eq_zero_iff.mp areaLength]
    rfl
  · have up := le_align8 front.length
    have total := length_labelsImage front.length empty
    have gap : (zeros (align8 front.length - front.length)).length =
        align8 front.length - front.length := length_zeros _
    have padded : (front ++ zeros (align8 front.length - front.length)).length =
        align8 front.length := by
      rw [List.length_append, gap]
      omega
    have written := run_writeLookupLabels labels
      (front ++ zeros (align8 front.length - front.length))
      (area.drop (align8 front.length - front.length))
      (by rw [List.length_drop]; omega) (by rw [padded, List.length_drop]; omega)
    rw [padded] at written
    rw [if_neg (by simpa using empty), labelTableStart, if_neg (by simpa using empty),
      Prog.run_bind_ok (run_fillZero_of_le up (by rw [List.length_append]; omega)),
      splice_after _ _ _ _ rfl, gap, written, List.length_drop]
    refine Prod.ext (congrArg Except.ok ?_) ?_
    · omega
    · rw [labelsImage_of_ne_nil _ empty]
      simp only [List.append_assoc]

end LabelPart

end NetIpc
