/-
This file is the library of packed containers: a directory of `(offset, length)`
entries followed by items of any length, each starting at a multiple of eight.

`packFrom off items` is the byte image of the items when the first byte of the
image sits at offset `off`, `entriesFrom off items` the directory it needs, and
`endFrom off items` the offset after the last item. `Laid` says that a buffer
which is still being filled holds a container: a header, the directory entries
written so far, the unused rest of the directory, the items, and bytes nobody has
written yet. The container grows by `Laid.push`, and `slice_packFrom` reads an
item back.
-/

import NetIpc.Access

namespace NetIpc

/-! ### Alignment -/

/-- Round up to the next multiple of eight. -/
def align8 (value : Nat) : Nat := (value + 7) / 8 * 8

theorem le_align8 (value : Nat) : value ≤ align8 value := by
  unfold align8
  omega

theorem align8_lt (value : Nat) : align8 value < value + 8 := by
  unfold align8
  omega

@[simp] theorem align8_mod (value : Nat) : align8 value % 8 = 0 := by
  unfold align8
  omega

theorem align8_of_mod (value : Nat) (aligned : value % 8 = 0) : align8 value = value := by
  unfold align8
  omega

variable (base value : Nat)

theorem align8_add (aligned : base % 8 = 0) : align8 (base + value) = base + align8 value := by
  unfold align8
  omega

/-! ### The image of a list of items -/

/-- The items from offset `off` on, each moved up to the next multiple of eight. -/
def packFrom : Nat → List Bytes → Bytes
  | _, [] => []
  | off, item :: rest =>
    zeros (align8 off - off) ++ item ++ packFrom (align8 off + item.length) rest

/-- Where each item starts and how long it is. -/
def entriesFrom : Nat → List Bytes → List (Nat × Nat)
  | _, [] => []
  | off, item :: rest => (align8 off, item.length) :: entriesFrom (align8 off + item.length) rest

/-- The offset after the last item. -/
def endFrom : Nat → List Bytes → Nat
  | off, [] => off
  | off, item :: rest => endFrom (align8 off + item.length) rest

/-- Where item `index` starts. -/
def posFrom (off : Nat) (items : List Bytes) (index : Nat) : Nat :=
  align8 (endFrom off (items.take index))

theorem length_packFrom (off : Nat) (items : List Bytes) :
    off + (packFrom off items).length = endFrom off items := by
  induction items generalizing off with
  | nil => rfl
  | cons item rest ih =>
    have next := ih (align8 off + item.length)
    have up := le_align8 off
    simp only [packFrom, endFrom, List.length_append, length_zeros]
    omega

theorem le_endFrom (off : Nat) (items : List Bytes) : off ≤ endFrom off items := by
  have length := length_packFrom off items
  omega

@[simp] theorem length_entriesFrom (off : Nat) (items : List Bytes) :
    (entriesFrom off items).length = items.length := by
  induction items generalizing off with
  | nil => rfl
  | cons item rest ih => simp [entriesFrom, ih]

theorem endFrom_append (off : Nat) (first second : List Bytes) :
    endFrom off (first ++ second) = endFrom (endFrom off first) second := by
  induction first generalizing off with
  | nil => rfl
  | cons item rest ih => exact ih _

theorem packFrom_append (off : Nat) (first second : List Bytes) :
    packFrom off (first ++ second) = packFrom off first ++ packFrom (endFrom off first) second := by
  induction first generalizing off with
  | nil => rfl
  | cons item rest ih =>
    simp only [List.cons_append, packFrom, endFrom, ih, List.append_assoc]

theorem entriesFrom_append (off : Nat) (first second : List Bytes) :
    entriesFrom off (first ++ second) =
      entriesFrom off first ++ entriesFrom (endFrom off first) second := by
  induction first generalizing off with
  | nil => rfl
  | cons item rest ih =>
    simp only [List.cons_append, entriesFrom, endFrom, ih]

/-! ### Moving a container by a multiple of eight -/

theorem endFrom_add (off : Nat) (items : List Bytes) (aligned : base % 8 = 0) :
    endFrom (base + off) items = base + endFrom off items := by
  induction items generalizing off with
  | nil => rfl
  | cons item rest ih =>
    simp only [endFrom, align8_add base off aligned, Nat.add_assoc, ih]

theorem entriesFrom_add (off : Nat) (items : List Bytes) (aligned : base % 8 = 0) :
    entriesFrom (base + off) items =
      (entriesFrom off items).map fun entry => (base + entry.1, entry.2) := by
  induction items generalizing off with
  | nil => rfl
  | cons item rest ih =>
    simp only [entriesFrom, align8_add base off aligned, Nat.add_assoc, ih, List.map_cons]

theorem endFrom_base (items : List Bytes) (aligned : base % 8 = 0) :
    endFrom base items = base + endFrom 0 items := by
  have moved := endFrom_add base 0 items aligned
  rwa [Nat.add_zero] at moved

/-! ### Reading one item -/

theorem take_append_drop_of_getElem? {α : Type} {items : List α} {index : Nat} {item : α}
    (found : items[index]? = some item) :
    items = items.take index ++ item :: items.drop (index + 1) := by
  obtain ⟨bound, rfl⟩ := List.getElem?_eq_some_iff.mp found
  rw [List.getElem_cons_drop, List.take_append_drop]

theorem getElem?_entriesFrom (off : Nat) (items : List Bytes) (index : Nat) (item : Bytes)
    (found : items[index]? = some item) :
    (entriesFrom off items)[index]? = some (posFrom off items index, item.length) := by
  obtain ⟨bound, -⟩ := List.getElem?_eq_some_iff.mp found
  have split := take_append_drop_of_getElem? found
  conv_lhs => rw [split, entriesFrom_append]
  rw [List.getElem?_append_right (by simp), length_entriesFrom, List.length_take,
    Nat.min_eq_left (by omega), Nat.sub_self]
  rfl

theorem posFrom_mod (off : Nat) (items : List Bytes) (index : Nat) :
    posFrom off items index % 8 = 0 := align8_mod _

/-- An item ends inside the image. -/
theorem posFrom_add_le (off : Nat) (items : List Bytes) (index : Nat) (item : Bytes)
    (found : items[index]? = some item) :
    posFrom off items index + item.length ≤ endFrom off items := by
  have split := take_append_drop_of_getElem? found
  conv_rhs => rw [split, endFrom_append]
  exact le_endFrom _ _

theorem mem_entriesFrom_le (off : Nat) (items : List Bytes) (entry : Nat × Nat)
    (member : entry ∈ entriesFrom off items) : entry.1 + entry.2 ≤ endFrom off items := by
  obtain ⟨index, bound, rfl⟩ := List.getElem_of_mem member
  have here := List.getElem?_eq_getElem (length_entriesFrom off items ▸ bound)
  obtain ⟨_, value⟩ := List.getElem?_eq_some_iff.mp (getElem?_entriesFrom off items index _ here)
  rw [value]
  exact posFrom_add_le off items index _ here

theorem posFrom_base (items : List Bytes) (index : Nat) (aligned : base % 8 = 0) :
    posFrom base items index = base + posFrom 0 items index := by
  unfold posFrom
  rw [endFrom_base base _ aligned, align8_add base _ aligned]

/-- The image ends where its last item does. -/
theorem endFrom_eq_last (off : Nat) (items : List Bytes) (nonempty : items ≠ []) :
    ∃ entry ∈ entriesFrom off items, endFrom off items = entry.1 + entry.2 := by
  have last := List.length_pos_of_ne_nil nonempty
  have found := List.getElem?_eq_getElem (show items.length - 1 < items.length by omega)
  refine ⟨_, List.mem_of_getElem? (getElem?_entriesFrom off items _ _ found), ?_⟩
  have split := take_append_drop_of_getElem? found
  conv_lhs => rw [split, endFrom_append]
  rw [show items.length - 1 + 1 = items.length by omega, List.drop_length]
  rfl

/-- The bytes at an item's place are the item. -/
theorem slice_packFrom (off : Nat) (items : List Bytes) (index : Nat) (item : Bytes)
    (found : items[index]? = some item) :
    slice (packFrom off items) (posFrom off items index - off) item.length = item := by
  have split := take_append_drop_of_getElem? found
  have length := length_packFrom off (items.take index)
  have up := le_align8 (endFrom off (items.take index))
  conv_lhs => rw [split, packFrom_append, packFrom, List.append_assoc, ← List.append_assoc]
  rw [← split, ← List.append_assoc]
  refine slice_middle _ _ _ _ _ ?_ rfl
  rw [List.length_append, length_zeros, posFrom]
  omega

/-- A byte of the image outside every item is zero. -/
theorem getElem?_packFrom_gap (off : Nat) (items : List Bytes) (position : Nat)
    (start : off ≤ position) (bound : position < endFrom off items)
    (outside : ∀ entry ∈ entriesFrom off items,
      position < entry.1 ∨ entry.1 + entry.2 ≤ position) :
    (packFrom off items)[position - off]? = some 0 := by
  induction items generalizing off with
  | nil => exact absurd bound (by rw [endFrom]; omega)
  | cons item rest ih =>
    have up := le_align8 off
    rw [packFrom, List.append_assoc]
    rcases outside _ List.mem_cons_self with before | after
    · rw [List.getElem?_append_left (by rw [length_zeros]; omega)]
      exact List.getElem?_replicate_of_lt (by omega)
    · rw [List.getElem?_append_right (by rw [length_zeros]; omega),
        List.getElem?_append_right (by rw [length_zeros]; omega), length_zeros,
        show position - off - (align8 off - off) - item.length =
          position - (align8 off + item.length) by omega]
      exact ih _ after bound fun entry member =>
        outside entry (List.mem_cons_of_mem _ member)

/-! ### The directory -/

/-- The bytes of directory entries. -/
def dirImage : List (Nat × Nat) → Bytes
  | [] => []
  | entry :: rest => leBytes 4 entry.1 ++ leBytes 4 entry.2 ++ dirImage rest

variable (entries : List (Nat × Nat))

@[simp] theorem length_dirImage : (dirImage entries).length = 8 * entries.length := by
  induction entries with
  | nil => rfl
  | cons entry rest ih =>
    simp only [dirImage, List.length_append, length_leBytes, ih, List.length_cons]
    omega

theorem dirImage_append (first second : List (Nat × Nat)) :
    dirImage (first ++ second) = dirImage first ++ dirImage second := by
  induction first with
  | nil => rfl
  | cons entry rest ih =>
    simp only [List.cons_append, dirImage, ih, List.append_assoc]

theorem dirImage_split {entries : List (Nat × Nat)} {index : Nat} {entry : Nat × Nat}
    (found : entries[index]? = some entry) :
    dirImage entries = dirImage (entries.take index) ++ (leBytes 4 entry.1 ++ leBytes 4 entry.2) ++
      dirImage (entries.drop (index + 1)) := by
  conv_lhs => rw [take_append_drop_of_getElem? found, dirImage_append, dirImage]
  simp only [List.append_assoc]

/-- Reading the entry of an item in a directory that follows a header. -/
theorem u32At_entry {ε : Type} (head rest : Bytes) (origin : Nat) {items : List Bytes}
    {index : Nat} {item : Bytes} (found : items[index]? = some item) :
    (u32At (head ++ (dirImage (entriesFrom origin items) ++ rest)) (head.length + 8 * index) :
        Res ε UInt32) = .ok (UInt32.ofNat (posFrom origin items index)) ∧
      (u32At (head ++ (dirImage (entriesFrom origin items) ++ rest)) (head.length + 8 * index + 4) :
        Res ε UInt32) = .ok (UInt32.ofNat item.length) := by
  obtain ⟨bound, -⟩ := List.getElem?_eq_some_iff.mp found
  have before : (dirImage ((entriesFrom origin items).take index)).length = 8 * index := by
    rw [length_dirImage, List.length_take, length_entriesFrom, Nat.min_eq_left (by omega)]
  rw [dirImage_split (getElem?_entriesFrom origin items index item found)]
  constructor
  · refine u32At_split (head ++ dirImage ((entriesFrom origin items).take index))
      (leBytes 4 item.length ++ (dirImage ((entriesFrom origin items).drop (index + 1)) ++ rest))
      ?_ (by rw [List.length_append, before])
    simp only [List.append_assoc]
  · refine u32At_split (head ++ dirImage ((entriesFrom origin items).take index) ++
      leBytes 4 (posFrom origin items index))
      (dirImage ((entriesFrom origin items).drop (index + 1)) ++ rest) ?_
      (by rw [List.length_append, List.length_append, before, length_leBytes])
    simp only [List.append_assoc]

/-- The bytes an entry stands for, behind a header and the directory. -/
theorem slice_packed (head rest : Bytes) {items : List Bytes} {index : Nat} {item : Bytes}
    (found : items[index]? = some item) :
    slice (head ++ (dirImage (entriesFrom 0 items) ++ (packFrom 0 items ++ rest)))
      (head.length + 8 * items.length + posFrom 0 items index) item.length = item := by
  have inside := posFrom_add_le 0 items index item found
  have packed := length_packFrom 0 items
  have front : head.length + 8 * items.length =
      (head ++ dirImage (entriesFrom 0 items)).length := by
    rw [List.length_append, length_dirImage, length_entriesFrom]
  rw [front, ← List.append_assoc, slice_append_add, slice_append_left _ _ _ _ (by omega)]
  exact slice_packFrom 0 items index item found

/-! ### A container under construction -/

/-- `buf` holds a container for at most `max` items: a header of `hdr` bytes, the entries of the
`items` added so far with offsets counted from `origin`, the rest of the reserved directory, the
items, and the bytes `tail` after them. -/
structure Laid (hdr max origin : Nat) (buf : Bytes) (items : List Bytes) (tail : Bytes) : Prop where
  count : items.length ≤ max
  split : ∃ head slots : Bytes, head.length = hdr ∧ slots.length = 8 * (max - items.length) ∧
    buf = head ++ dirImage (entriesFrom origin items) ++ slots ++ packFrom 0 items ++ tail

/-- A buffer with room for the header and the directory holds the empty container. -/
theorem Laid.start (hdr max origin : Nat) (buf : Bytes) (room : hdr + 8 * max ≤ buf.length) :
    Laid hdr max origin buf [] (buf.drop (hdr + 8 * max)) where
  count := Nat.zero_le _
  split := by
    refine ⟨buf.take hdr, (buf.drop hdr).take (8 * max), ?_, ?_, ?_⟩
    · rw [List.length_take]
      omega
    · simp only [List.length_take, List.length_drop, List.length_nil]
      omega
    · simp only [entriesFrom, dirImage, packFrom, List.append_nil]
      rw [List.append_assoc, ← List.drop_drop, List.take_append_drop, List.take_append_drop]

variable {origin : Nat} (off : Nat) {items : List Bytes}

theorem Laid.length {hdr max : Nat} {buf tail : Bytes} (laid : Laid hdr max origin buf items tail) :
    buf.length = hdr + 8 * max + endFrom 0 items + tail.length := by
  obtain ⟨head, slots, headLength, slotsLength, rfl⟩ := laid.split
  have packed := length_packFrom 0 items
  have count := laid.count
  simp only [List.length_append, length_dirImage, length_entriesFrom]
  omega

theorem splice_slot (written slots rest word : Bytes) (off : Nat) (start : off = written.length)
    (small : word.length ≤ slots.length) :
    splice (written ++ slots ++ rest) off word =
      written ++ word ++ slots.drop word.length ++ rest := by
  rw [List.append_assoc, splice_after _ _ _ _ start, List.drop_append_of_le_length small,
    List.append_assoc _ (slots.drop word.length)]

/-- The buffer after one more item: the padding, the item and its directory entry written. -/
def pushImage (hdr max origin : Nat) (buf : Bytes) (items : List Bytes) (item : Bytes) : Bytes :=
  splice (splice (splice (splice buf (hdr + 8 * max + endFrom 0 items)
          (zeros (align8 (endFrom 0 items) - endFrom 0 items)))
        (hdr + 8 * max + align8 (endFrom 0 items)) item)
      (hdr + 8 * items.length) (leBytes 4 (origin + align8 (endFrom 0 items))))
    (hdr + 8 * items.length + 4) (leBytes 4 item.length)

/-- Adding one item: zero the padding before it, write it, and write its directory entry. -/
theorem Laid.push {hdr max : Nat} {buf tail : Bytes} (laid : Laid hdr max origin buf items tail)
    (item : Bytes) (aligned : origin % 8 = 0) (more : items.length < max) :
    Laid hdr max origin (pushImage hdr max origin buf items item) (items ++ [item])
      (tail.drop (align8 (endFrom 0 items) - endFrom 0 items + item.length)) where
  count := by
    rw [List.length_append, List.length_singleton]
    omega
  split := by
    obtain ⟨head, slots, headLength, slotsLength, rfl⟩ := laid.split
    have packed := length_packFrom 0 items
    have up := le_align8 (endFrom 0 items)
    unfold pushImage
    refine ⟨head, slots.drop 8, headLength, ?_, ?_⟩
    · rw [List.length_drop, slotsLength, List.length_append, List.length_singleton]
      omega
    rw [splice_after _ tail _ _ (by
      simp only [List.length_append, length_dirImage, length_entriesFrom]
      omega)]
    rw [splice_after _ _ item _ (by
      simp only [List.length_append, length_dirImage, length_entriesFrom, length_zeros]
      omega)]
    have words : 8 ≤ slots.length := by omega
    -- Regroup so that the free directory slots follow the part written before them.
    rw [show head ++ dirImage (entriesFrom origin items) ++ slots ++ packFrom 0 items ++
          zeros (align8 (endFrom 0 items) - endFrom 0 items) ++ item ++
          (tail.drop _).drop item.length =
        (head ++ dirImage (entriesFrom origin items)) ++ slots ++ (packFrom 0 items ++
          zeros (align8 (endFrom 0 items) - endFrom 0 items) ++ item ++
          (tail.drop (zeros (align8 (endFrom 0 items) - endFrom 0 items)).length).drop item.length)
        by simp only [List.append_assoc]]
    rw [splice_slot _ _ _ _ _ (by
        simp only [List.length_append, length_dirImage, length_entriesFrom]
        omega) (by simp only [length_leBytes]; omega),
      splice_slot _ _ _ _ _ (by
        simp only [List.length_append, length_dirImage, length_entriesFrom, length_leBytes]
        omega) (by simp only [length_leBytes, List.length_drop]; omega)]
    rw [entriesFrom_append, dirImage_append, packFrom_append, endFrom_base origin items aligned]
    simp only [entriesFrom, dirImage, packFrom, align8_add origin _ aligned, length_leBytes,
      length_zeros, List.drop_drop, List.append_assoc, List.append_nil]

section Push

variable {ε : Type} {hdr max : Nat} {buf tail : Bytes} (laid : Laid hdr max origin buf items tail)
  (item : Bytes) (more : items.length < max)
  (room : hdr + 8 * max + align8 (endFrom 0 items) + item.length ≤ buf.length)

include laid more room

/-- None of the first three writes of a push changes the length. -/
theorem Laid.length_writes :
    let padded := splice buf (hdr + 8 * max + endFrom 0 items)
      (zeros (align8 (endFrom 0 items) - endFrom 0 items))
    let filled := splice padded (hdr + 8 * max + align8 (endFrom 0 items)) item
    padded.length = buf.length ∧ filled.length = buf.length ∧
      (splice filled (hdr + 8 * items.length)
        (leBytes 4 (origin + align8 (endFrom 0 items)))).length = buf.length := by
  have length := laid.length
  have up := le_align8 (endFrom 0 items)
  have first := length_splice buf (hdr + 8 * max + endFrom 0 items)
    (zeros (align8 (endFrom 0 items) - endFrom 0 items)) (by rw [length_zeros]; omega)
  have second := (length_splice _ _ item (room.trans_eq first.symm)).trans first
  refine ⟨first, second, ?_⟩
  rw [length_splice _ _ _ (by rw [length_leBytes, second]; omega), second]

theorem Laid.length_push : (pushImage hdr max origin buf items item).length = buf.length := by
  have length := laid.length
  obtain ⟨-, -, third⟩ := laid.length_writes item more room
  rw [pushImage, length_splice _ _ _ (by rw [length_leBytes, third]; omega), third]

variable (startSmall : origin + align8 (endFrom 0 items) < 2 ^ 32)
  (sizeSmall : item.length < 2 ^ 32) (condition : Prop) [Decidable condition]
  (skipped : ¬ condition → endFrom 0 items = align8 (endFrom 0 items)) (content : Prog ε Bytes Unit)
  (writes : ∀ buf : Bytes, hdr + 8 * max + align8 (endFrom 0 items) + item.length ≤ buf.length →
    content.run buf = (.ok (), splice buf (hdr + 8 * max + align8 (endFrom 0 items)) item))

include startSmall sizeSmall skipped writes

/-- Adding an item the way encoders do: the padding, the item by any program that writes it, and
the directory entry; `condition` is the guard of the padding. -/
theorem Laid.run_pushWith : (do
      (if condition then fillZero (hdr + 8 * max + endFrom 0 items)
        (hdr + 8 * max + align8 (endFrom 0 items)) else pure ())
      content
      putU32 (hdr + 8 * items.length) (UInt32.ofNat (origin + align8 (endFrom 0 items)))
      putU32 (hdr + 8 * items.length + 4) (UInt32.ofNat item.length) :
        Prog ε Bytes Unit).run buf =
      (.ok (), pushImage hdr max origin buf items item) := by
  have length := laid.length
  have up := le_align8 (endFrom 0 items)
  obtain ⟨first, second, third⟩ := laid.length_writes item more room
  rw [Prog.run_bind_ok (run_ite_fillZero (fun taken => congrArg _ (skipped taken)) (by omega)
    (by omega)),
    Nat.add_sub_add_left, Prog.run_bind_ok (writes _ (room.trans_eq first.symm)),
    Prog.run_bind_ok (run_putU32_ofNat startSmall (by rw [second]; omega)),
    run_putU32_ofNat sizeSmall (by rw [third]; omega)]
  rfl

omit writes in
/-- The same with the item written at once. -/
theorem Laid.run_push : (do
      (if condition then fillZero (hdr + 8 * max + endFrom 0 items)
        (hdr + 8 * max + align8 (endFrom 0 items)) else pure ())
      write (hdr + 8 * max + align8 (endFrom 0 items)) item
      putU32 (hdr + 8 * items.length) (UInt32.ofNat (origin + align8 (endFrom 0 items)))
      putU32 (hdr + 8 * items.length + 4) (UInt32.ofNat item.length) :
        Prog ε Bytes Unit).run buf =
      (.ok (), pushImage hdr max origin buf items item) :=
  laid.run_pushWith item more room startSmall sizeSmall condition skipped _
    fun _ inside => run_write_of_le inside

/-- Adding an item with its directory entry written first. -/
theorem Laid.run_pushEntry : (do
      (if condition then fillZero (hdr + 8 * max + endFrom 0 items)
        (hdr + 8 * max + align8 (endFrom 0 items)) else pure ())
      putU32 (hdr + 8 * items.length) (UInt32.ofNat (origin + align8 (endFrom 0 items)))
      putU32 (hdr + 8 * items.length + 4) (UInt32.ofNat item.length)
      content : Prog ε Bytes Unit).run buf =
      (.ok (), pushImage hdr max origin buf items item) := by
  have length := laid.length
  have up := le_align8 (endFrom 0 items)
  have first := length_splice buf (hdr + 8 * max + endFrom 0 items)
    (zeros (align8 (endFrom 0 items) - endFrom 0 items)) (by rw [length_zeros]; omega)
  have second := length_splice _ (hdr + 8 * items.length)
    (leBytes 4 (origin + align8 (endFrom 0 items)))
    (show _ ≤ (splice buf _ _).length by rw [length_leBytes, first]; omega)
  have third := length_splice _ (hdr + 8 * items.length + 4) (leBytes 4 item.length)
    (show _ ≤ (splice (splice buf _ _) _ _).length by rw [length_leBytes, second, first]; omega)
  rw [Prog.run_bind_ok (run_ite_fillZero (fun taken => congrArg _ (skipped taken)) (by omega)
    (by omega)),
    Nat.add_sub_add_left, Prog.run_bind_ok (run_putU32_ofNat startSmall (by rw [first]; omega)),
    Prog.run_bind_ok (run_putU32_ofNat sizeSmall (by rw [second, first]; omega)),
    writes _ (by rw [third, second, first]; exact room), pushImage,
    splice_comm _ _ item _ _ (by rw [length_leBytes]; omega) (by rw [second, first]; omega),
    splice_comm _ _ item _ _ (by rw [length_leBytes]; omega) (by rw [first]; omega)]

end Push

section Frame

variable {hdr max : Nat} {buf tail after : Bytes} (laid : Laid hdr max origin buf items tail)

include laid

theorem Laid.slice_directory :
    slice buf hdr (8 * items.length) = dirImage (entriesFrom origin items) := by
  obtain ⟨head, slots, headLength, -, split⟩ := laid.split
  rw [split, List.append_assoc, List.append_assoc]
  refine slice_middle _ _ _ _ _ headLength.symm ?_
  rw [length_dirImage, length_entriesFrom]

theorem Laid.slice_content : slice buf (hdr + 8 * max) (endFrom 0 items) = packFrom 0 items := by
  have count := laid.count
  have image := length_packFrom 0 items
  obtain ⟨head, slots, headLength, slotsLength, split⟩ := laid.split
  rw [split]
  refine slice_middle _ _ _ _ _ ?_ (by omega)
  simp only [List.length_append, length_dirImage, length_entriesFrom]
  omega

/-- A container survives any change outside its entries and its items. -/
theorem Laid.frame (size : after.length = buf.length)
    (entries : slice after hdr (8 * items.length) = slice buf hdr (8 * items.length))
    (packed : slice after (hdr + 8 * max) (endFrom 0 items) = slice buf (hdr + 8 * max)
      (endFrom 0 items)) :
    ∃ tail, Laid hdr max origin after items tail := by
  have length := laid.length
  have count := laid.count
  refine ⟨after.drop (hdr + 8 * max + endFrom 0 items), count, after.take hdr,
    slice after (hdr + 8 * items.length) (8 * (max - items.length)), ?_, ?_, ?_⟩
  · rw [List.length_take]
    omega
  · exact length_slice _ _ _ (by omega)
  · rw [← laid.slice_directory, ← entries, ← laid.slice_content, ← packed, ← slice_take,
      slice_append_from_zero, slice_append_from_zero,
      show hdr + 8 * items.length + 8 * (max - items.length) = hdr + 8 * max by omega,
      slice_append_from_zero, slice_take, List.take_append_drop]

end Frame

/-! ### Finishing a container -/

/-- Every number of a directory with offsets counted from `origin` fits its field. -/
def AbsRepresentable (origin : Nat) (items : List Bytes) : Prop :=
  ∀ entry ∈ entriesFrom origin items, entry.1 < 2 ^ 32 ∧ entry.2 < 2 ^ 32

theorem absRepresentable_nil (origin : Nat) : AbsRepresentable origin [] :=
  fun _ member => absurd member List.not_mem_nil

theorem AbsRepresentable.at (absolute : AbsRepresentable origin items) {index : Nat} {item : Bytes}
    (found : items[index]? = some item) :
    posFrom origin items index < 2 ^ 32 ∧ item.length < 2 ^ 32 :=
  absolute _ (List.mem_of_getElem? (getElem?_entriesFrom origin items index item found))

theorem absRepresentable_push {item : Bytes} (absolute : AbsRepresentable origin items)
    (aligned : origin % 8 = 0) (startSmall : origin + align8 (endFrom 0 items) < 2 ^ 32)
    (sizeSmall : item.length < 2 ^ 32) : AbsRepresentable origin (items ++ [item]) := by
  intro entry member
  rw [entriesFrom_append, endFrom_base origin items aligned] at member
  rcases List.mem_append.mp member with before | last
  · exact absolute entry before
  · simp only [entriesFrom, align8_add origin _ aligned, List.mem_singleton] at last
    rw [last]
    exact ⟨startSmall, sizeSmall⟩

/-- Counting the offsets from zero only makes them smaller. -/
theorem AbsRepresentable.relative (aligned : origin % 8 = 0)
    (absolute : AbsRepresentable origin items) : AbsRepresentable 0 items := by
  intro entry member
  have moved := entriesFrom_add origin 0 items aligned
  rw [Nat.add_zero] at moved
  have small := absolute (origin + entry.1, entry.2)
    (by rw [moved]; exact List.mem_map.mpr ⟨entry, member, rfl⟩)
  exact ⟨lt_of_le_of_lt (Nat.le_add_left _ _) small.1, small.2⟩

/-- A loop over the directory whose pass takes `origin` off one offset counts them from zero. -/
theorem run_rebase {ε : Type} (pass : Nat → Prog ε Bytes Unit) (origin : Nat) (items : List Bytes)
    (head rest : Bytes) (aligned : origin % 8 = 0) (absolute : AbsRepresentable origin items)
    (passes : ∀ (index offset : Nat) (before after : Bytes), index < items.length →
      origin + offset < 2 ^ 32 → head.length + 8 * index = before.length →
      (pass index).run (before ++ leBytes 4 (origin + offset) ++ after) =
        (.ok (), before ++ leBytes 4 offset ++ after)) :
    (Prog.forRange pass 0 items.length).run
        (head ++ (dirImage (entriesFrom origin items) ++ rest)) =
      (.ok (), head ++ (dirImage (entriesFrom 0 items) ++ rest)) := by
  -- Before pass `index` the first `index` entries are counted from zero, the others not yet.
  have loop := Prog.run_forRange pass
    (fun index => head ++ (dirImage ((entriesFrom 0 items).take index ++
      (entriesFrom origin items).drop index) ++ rest)) 0 items.length fun index _ high => by
    have found := List.getElem?_eq_getElem (show index < items.length by omega)
    have relative := getElem?_entriesFrom 0 items index _ found
    have entry := getElem?_entriesFrom origin items index _ found
    rw [posFrom_base origin items index aligned] at entry
    have current : head ++ (dirImage ((entriesFrom 0 items).take index ++
        (entriesFrom origin items).drop index) ++ rest) =
        (head ++ dirImage ((entriesFrom 0 items).take index)) ++
          leBytes 4 (origin + posFrom 0 items index) ++
          (leBytes 4 (items[index]).length ++
            dirImage ((entriesFrom origin items).drop (index + 1)) ++ rest) := by
      rw [List.drop_eq_getElem?_toList_append, entry, Option.toList_some, dirImage_append]
      simp only [List.singleton_append, dirImage, List.append_assoc]
    have next : head ++ (dirImage ((entriesFrom 0 items).take (index + 1) ++
        (entriesFrom origin items).drop (index + 1)) ++ rest) =
        (head ++ dirImage ((entriesFrom 0 items).take index)) ++
          leBytes 4 (posFrom 0 items index) ++
          (leBytes 4 (items[index]).length ++
            dirImage ((entriesFrom origin items).drop (index + 1)) ++ rest) := by
      rw [List.take_add_one, relative, Option.toList_some, dirImage_append, dirImage_append]
      simp only [dirImage, List.append_assoc, List.append_nil]
    rw [current, next]
    refine passes index _ _ _ (by omega) (absolute _ (List.mem_of_getElem? entry)).1 ?_
    rw [List.length_append, length_dirImage, List.length_take, length_entriesFrom,
      Nat.min_eq_left (by omega)]
  rw [Nat.zero_add, List.take_zero, List.drop_zero, List.nil_append,
    List.take_of_length_le (by rw [length_entriesFrom]),
    List.drop_eq_nil_of_le (by rw [length_entriesFrom]), List.append_nil] at loop
  exact loop

/-- Moving the items down over the unused slots leaves them right behind the directory. -/
theorem run_moveDown {ε : Type} {hdr max : Nat} (origin : Nat) (items : List Bytes)
    (head slots tail : Bytes) (headLength : head.length = hdr) (few : items.length ≤ max)
    (slotsLength : slots.length = 8 * (max - items.length)) :
    (copyWithin (hdr + 8 * max) (hdr + 8 * max + endFrom 0 items) (hdr + 8 * items.length) :
        Prog ε Bytes Unit).run
        (head ++ (dirImage (entriesFrom origin items) ++ (slots ++ (packFrom 0 items ++ tail)))) =
      (.ok (), head ++ (dirImage (entriesFrom origin items) ++ (packFrom 0 items ++
        (slots ++ (packFrom 0 items ++ tail)).drop (packFrom 0 items).length))) := by
  have packed := length_packFrom 0 items
  have length : (head ++ (dirImage (entriesFrom origin items) ++
      (slots ++ (packFrom 0 items ++ tail)))).length =
      hdr + 8 * max + endFrom 0 items + tail.length := by
    simp only [List.length_append, length_dirImage, length_entriesFrom]
    omega
  have source : slice (head ++ (dirImage (entriesFrom origin items) ++
      (slots ++ (packFrom 0 items ++ tail)))) (hdr + 8 * max) (endFrom 0 items) =
      packFrom 0 items := by
    rw [← List.append_assoc, ← List.append_assoc, ← List.append_assoc]
    refine slice_middle _ _ _ _ _ ?_ (by omega)
    simp only [List.length_append, length_dirImage, length_entriesFrom]
    omega
  rw [run_copyWithin_of_le (by omega) (by omega) (by omega), Nat.add_sub_cancel_left, source,
    ← List.append_assoc, splice_after _ _ _ _ (by
      rw [List.length_append, length_dirImage, length_entriesFrom, headLength])]
  simp only [List.append_assoc]

end NetIpc
