/-
This file proves what the reservation test of the lookup builders decides.

Before a KNOWN item is committed, the builder asks whether the placeholders of the
keys still to come would fit behind it. The Rust code keeps a table of the space every
suffix needs (`payload_exceeded_suffix_bytes_from_lens`), with the last placeholder
unpadded, or one fixed length; the C code has the same table, and next to it a loop that
places the placeholders one after another. `Placed` is that placement.

As long as a placeholder remains, the table is exact. When none remains there is nothing
to place and the loop says so, but the table test first rounds the data offset up to 8
and refuses an offset whose alignment lies behind the buffer: the last item of a
response may not end in the last seven bytes of a buffer whose length is not a multiple
of 8.
-/

import NetIpc.Reserve

namespace NetIpc

/-! ### Placing placeholders -/

/-- Items of these lengths, each from the next multiple of 8 on, end inside the buffer. -/
def Placed (bufLen : Nat) : Nat → List Nat → Prop
  | _, [] => True
  | offset, len :: rest =>
    align8 offset + len ≤ bufLen ∧ Placed bufLen (align8 offset + len) rest

/-- The last item needs no padding and the others do, which is how `reserve` counts. -/
theorem placed_iff {bufLen offset : Nat} {lens : List Nat} (some : lens ≠ []) :
    Placed bufLen offset lens ↔ align8 offset + reserve lens ≤ bufLen := by
  induction lens generalizing offset with
  | nil => exact absurd rfl some
  | cons len rest ih =>
    rw [Placed]
    by_cases last : rest = []
    · subst last
      exact ⟨fun placed => placed.1, fun fits => ⟨fits, trivial⟩⟩
    · have up := le_align8 len
      rw [ih last, align8_add _ _ (align8_mod offset), reserve_cons last]
      omega

theorem le_reserve_length {lens : List Nat} (positive : ∀ len ∈ lens, 1 ≤ len) :
    lens.length ≤ reserve lens := by
  induction lens with
  | nil => exact Nat.zero_le _
  | cons len rest ih =>
    have first := positive len List.mem_cons_self
    have later := ih fun len member => positive len (List.mem_cons_of_mem _ member)
    have up := le_align8 len
    rw [List.length_cons, reserve]
    split
    · rename_i last
      rw [last, List.length_nil]
      omega
    · omega

/-- The entries of the table are `u32`s. -/
theorem suffixSums_lt {lens sums : List Nat} (ran : suffixSums lens = .ok sums) :
    ∀ sum ∈ sums, sum < 2 ^ 32 := by
  induction lens generalizing sums with
  | nil =>
    obtain rfl := Except.ok.inj ran
    intro sum member
    rw [List.mem_singleton.mp member]
    decide
  | cons len rest ih =>
    rw [suffixSums] at ran
    obtain ⟨later, restRan, ran⟩ := bind_eq_ok ran
    obtain ⟨cost, -, ran⟩ := bind_eq_ok ran
    obtain ⟨small, ran⟩ := guard_eq_ok ran
    obtain rfl := Except.ok.inj ran
    intro sum member
    rcases List.mem_cons.mp member with rfl | member
    · exact not_le.mp small
    · exact ih restRan sum member

/-- The table of the source is the table of `reserve`, and all of it fits 32 bits. -/
theorem suffixBytesFromLens_eq_ok {lens table : List Nat} (positive : ∀ len ∈ lens, 1 ≤ len)
    (tabled : payloadExceededSuffixBytesFromLens lens = .ok table) :
    table = reserveTable lens ∧ ∀ sum ∈ table, sum < 2 ^ 32 := by
  rw [payloadExceededSuffixBytesFromLens] at tabled
  iterate 2 obtain ⟨_, -, tabled⟩ := bind_eq_ok tabled
  exact ⟨suffixSums_eq_ok positive tabled, suffixSums_lt tabled⟩

theorem reserve_mem_table (lens : List Nat) : reserve lens ∈ reserveTable lens := by
  rw [reserveTable]
  exact List.mem_map_of_mem ((List.mem_tails _ _).mpr List.suffix_rfl)

namespace C

/-! ### The test of the C builders -/

/-- `nipc_align8`, on a `size_t`. -/
def nipcAlign8 (v : Nat) : Nat := (v + 7) % 2 ^ 64 / 8 * 8

/-- What a C lookup builder knows about the placeholders: `payload_exceeded_item_lens`,
`payload_exceeded_suffix_bytes` and `payload_exceeded_item_lens_count`. -/
structure Reservation where
  itemLens : Option (List UInt32)
  suffixBytes : Option (List UInt32)
  itemLensCount : UInt32
  deriving Repr, DecidableEq

/-- The loop of `cgroups_lookup_builder_suffix_fits`, over the lengths that are left. -/
def placeSuffix (bufLen : Nat) : Nat → List UInt32 → Bool
  | _, [] => true
  | dataOffset, itemLen :: rest =>
    let itemStart := nipcAlign8 dataOffset
    if itemStart < dataOffset ∨ itemStart > bufLen then false
    else if itemLen.toNat > bufLen - itemStart then false
    else placeSuffix bufLen (itemStart + itemLen.toNat) rest

/-- The branch of `cgroups_lookup_builder_suffix_fits` that has a table, which is of
`max_items + 1` entries. -/
def tableFits (bufLen : Nat) (maxItems : UInt32) (suffixBytes : List UInt32) (dataOffset : Nat)
    (firstIndex : UInt32) : Bool :=
  if firstIndex > maxItems then true
  else
    let itemStart := nipcAlign8 dataOffset
    if itemStart < dataOffset ∨ itemStart > bufLen then false
    else (suffixBytes.getD firstIndex.toNat 0).toNat ≤ bufLen - itemStart

/-- The other branch, for a builder that was given the lengths only. -/
def loopFits (bufLen : Nat) (maxItems : UInt32) (b : Reservation) (dataOffset : Nat)
    (firstIndex : UInt32) : Bool :=
  match b.itemLens with
  | none => true
  | some itemLens =>
    if b.itemLensCount ≠ maxItems then true
    else placeSuffix bufLen dataOffset ((itemLens.take maxItems.toNat).drop firstIndex.toNat)

/-- `cgroups_lookup_builder_suffix_fits`; the function of the apps builder is the same. -/
def lookupBuilderSuffixFits (bufLen : Nat) (maxItems : UInt32) (b : Reservation)
    (dataOffset : Nat) (firstIndex : UInt32) : Bool :=
  match b.suffixBytes with
  | none => loopFits bufLen maxItems b dataOffset firstIndex
  | some suffixBytes =>
    if b.itemLensCount = maxItems then tableFits bufLen maxItems suffixBytes dataOffset firstIndex
    else loopFits bufLen maxItems b dataOffset firstIndex

variable {bufLen offset : Nat}

section Addressable

variable (addressable : bufLen ≤ usizeMax)

include addressable

/-- An alignment that leaves `size_t` is caught by the comparison with the offset. -/
theorem align8_test (within : offset ≤ bufLen) :
    (nipcAlign8 offset < offset ∨ nipcAlign8 offset > bufLen) ↔ bufLen < align8 offset := by
  rw [usizeMax] at addressable
  unfold nipcAlign8 align8
  omega

theorem nipcAlign8_eq (inside : align8 offset ≤ bufLen) :
    nipcAlign8 offset = align8 offset := by
  rw [usizeMax] at addressable
  unfold nipcAlign8
  unfold align8 at inside ⊢
  omega

/-- The loop places the placeholders. -/
theorem placeSuffix_iff (within : offset ≤ bufLen) (lens : List UInt32) :
    placeSuffix bufLen offset lens = true ↔ Placed bufLen offset (lens.map UInt32.toNat) := by
  induction lens generalizing offset with
  | nil => exact ⟨fun _ => trivial, fun _ => rfl⟩
  | cons len rest ih =>
    rw [placeSuffix, List.map_cons, Placed]
    by_cases past : bufLen < align8 offset
    · rw [if_pos ((align8_test addressable within).mpr past)]
      simp only [Bool.false_eq_true, false_iff]
      omega
    · rw [if_neg (mt (align8_test addressable within).mp past),
        nipcAlign8_eq addressable (not_lt.mp past)]
      by_cases long : len.toNat > bufLen - align8 offset
      · rw [if_pos long]
        simp only [Bool.false_eq_true, false_iff]
        omega
      · have fits : align8 offset + len.toNat ≤ bufLen := by omega
        rw [if_neg long, ih fits]
        exact ⟨fun later => ⟨fits, later⟩, fun placed => placed.2⟩

/-- The table branch is the test of the Rust builders. -/
theorem tableFits_eq {table : List Nat} {maxItems firstIndex : UInt32} (within : offset ≤ bufLen)
    (counted : table.length = maxItems.toNat + 1) (small : ∀ sum ∈ table, sum < 2 ^ 32) :
    tableFits bufLen maxItems (table.map UInt32.ofNat) offset firstIndex =
      payloadExceededSuffixFits bufLen offset table firstIndex.toNat maxItems.toNat := by
  rw [tableFits, payloadExceededSuffixFits, if_neg (not_not.mpr counted)]
  by_cases past : firstIndex > maxItems
  · rw [if_pos past, if_pos (UInt32.lt_iff_toNat_lt.mp past)]
  · have inside : ¬ firstIndex.toNat > maxItems.toNat := mt UInt32.lt_iff_toNat_lt.mpr past
    rw [if_neg past, if_neg inside]
    by_cases past : bufLen < align8 offset
    · rw [if_pos ((align8_test addressable within).mpr past)]
      split
      · rfl
      · rfl
    · have near : ¬ offset > usizeMax - 7 := fun large => past (lt_align8_of_lt addressable large)
      have found := List.getElem?_eq_getElem (show firstIndex.toNat < table.length by omega)
      rw [if_neg (mt (align8_test addressable within).mp past),
        nipcAlign8_eq addressable (not_lt.mp past), if_neg near, if_neg past,
        decide_eq_decide, List.getD_eq_getElem?_getD, List.getD_eq_getElem?_getD,
        List.getElem?_map, found, Option.map_some, Option.getD_some, Option.getD_some,
        UInt32.toNat_ofNat_of_lt' (small _ (List.mem_of_getElem? found))]

end Addressable

end C

/-! ### Where the test is exact -/

section Exact

variable {bufLen offset first : Nat} {lens table : List Nat}

theorem suffixFits_exact_iff (addressable : bufLen ≤ usizeMax) (inside : first ≤ lens.length) :
    (payloadExceededSuffixFits bufLen offset (reserveTable lens) first lens.length = true ↔
        Placed bufLen offset (lens.drop first)) ↔
      (first < lens.length ∨ align8 offset ≤ bufLen) := by
  rw [payloadExceededSuffixFits_iff rfl inside addressable]
  by_cases more : first < lens.length
  · rw [placed_iff (by rw [ne_eq, List.drop_eq_nil_iff]; omega)]
    exact ⟨fun _ => .inl more, fun _ => Iff.rfl⟩
  · -- Nothing is left to place, so the placement always succeeds.
    rw [List.drop_eq_nil_of_le (not_lt.mp more), reserve, Placed, Nat.add_zero]
    exact ⟨fun same => .inr (same.mpr trivial), fun fine =>
      ⟨fun _ => trivial, fun _ => fine.resolve_left more⟩⟩

theorem fixedSuffixFits_eq {len count : Nat} (offset : Nat) (addressable : bufLen ≤ usizeMax)
    (inside : first ≤ count) (small : first < count → len + 7 ≤ usizeMax) :
    payloadExceededFixedSuffixFits bufLen offset len first count =
      payloadExceededSuffixFits bufLen offset (reserveTable (List.replicate count len)) first
        count := by
  rw [Bool.eq_iff_iff, payloadExceededFixedSuffixFits_iff inside addressable small,
    payloadExceededSuffixFits_iff List.length_replicate inside addressable]

end Exact

/-- The reservation test is exact as long as a placeholder remains or the rounded-up data offset
stays inside the buffer. The loop of the C builders is exact everywhere and their table branch is
this test; the test for placeholders of one length is the test with their table. -/
theorem suffixTest_exact_iff (bufLen offset first : Nat) (lens table : List Nat)
    (addressable : bufLen ≤ usizeMax) (within : offset ≤ bufLen) (inside : first ≤ lens.length)
    (positive : ∀ len ∈ lens, 1 ≤ len)
    (tabled : payloadExceededSuffixBytesFromLens lens = .ok table) :
    ((payloadExceededSuffixFits bufLen offset table first lens.length = true ↔
        Placed bufLen offset (lens.drop first)) ↔
      (first < lens.length ∨ align8 offset ≤ bufLen)) ∧
    (C.lookupBuilderSuffixFits bufLen (UInt32.ofNat lens.length)
        ⟨some (lens.map UInt32.ofNat), none, UInt32.ofNat lens.length⟩ offset
        (UInt32.ofNat first) = true ↔
      Placed bufLen offset (lens.drop first)) ∧
    C.lookupBuilderSuffixFits bufLen (UInt32.ofNat lens.length)
        ⟨some (lens.map UInt32.ofNat), some (table.map UInt32.ofNat), UInt32.ofNat lens.length⟩
        offset (UInt32.ofNat first) =
      payloadExceededSuffixFits bufLen offset table first lens.length ∧
    ∀ len, lens = List.replicate lens.length len →
      payloadExceededFixedSuffixFits bufLen offset len first lens.length =
        payloadExceededSuffixFits bufLen offset table first lens.length := by
  obtain ⟨rfl, words⟩ := suffixBytesFromLens_eq_ok positive tabled
  have small := words _ (reserve_mem_table lens)
  have few := le_reserve_length positive
  have counted : (UInt32.ofNat lens.length).toNat = lens.length := toNat_ofNat32 (by omega)
  have started : (UInt32.ofNat first).toNat = first := toNat_ofNat32 (by omega)
  refine ⟨suffixFits_exact_iff addressable inside, ?_, ?_, ?_⟩
  · have exact : (lens.map UInt32.ofNat).map UInt32.toNat = lens := by
      rw [List.map_map]
      conv_rhs => rw [← List.map_id lens]
      refine List.map_congr_left fun len member => ?_
      exact UInt32.toNat_ofNat_of_lt' (lt_of_le_of_lt (mem_le_reserve member) small)
    rw [C.lookupBuilderSuffixFits, C.loopFits]
    dsimp only
    rw [if_neg (not_not.mpr rfl), counted, started,
      List.take_of_length_le (by rw [List.length_map]), C.placeSuffix_iff addressable within,
      List.map_drop, exact]
  · rw [C.lookupBuilderSuffixFits]
    dsimp only
    rw [if_pos rfl, C.tableFits_eq addressable within (by rw [length_reserveTable, counted])
      words, counted, started]
  · intro len same
    have short : first < lens.length → len + 7 ≤ usizeMax := by
      intro more
      have member : len ∈ lens := by
        rw [same]
        exact List.mem_replicate.mpr ⟨by omega, rfl⟩
      have bound := mem_le_reserve member
      rw [usizeMax]
      omega
    have equal := fixedSuffixFits_eq offset addressable inside short
    rwa [← same] at equal

/-- The last item of a response ends at the last byte of a buffer of 87 bytes: no placeholder
remains, and the table test refuses it. -/
theorem suffixTest_not_exact :
    ¬ ∀ (bufLen offset first : Nat) (lens table : List Nat), bufLen ≤ usizeMax →
      offset ≤ bufLen → first ≤ lens.length → (∀ len ∈ lens, 1 ≤ len) →
      payloadExceededSuffixBytesFromLens lens = .ok table →
      (payloadExceededSuffixFits bufLen offset table first lens.length = true ↔
        Placed bufLen offset (lens.drop first)) := by
  intro exact
  have refused := (exact 87 87 1 [63] [63, 0] (by decide) (by decide) (by decide) (by decide)
    (by decide)).mpr trivial
  exact absurd refused (by decide)

/-- With one placeholder left the test is exact; with none left and 87 bytes it is not. -/
theorem suffixTest_exact_iff_pair :
    (payloadExceededSuffixFits 95 33 [127, 63, 0] 1 2 = true ↔ Placed 95 33 [63]) ∧
      ¬ (payloadExceededSuffixFits 87 87 [127, 63, 0] 2 2 = true ↔ Placed 87 87 []) := by
  refine ⟨?_, ?_⟩
  · exact (suffixTest_exact_iff 95 33 1 [63, 63] [127, 63, 0] (by decide) (by decide) (by decide)
      (by decide) (by decide)).1.mpr (.inl (by decide))
  · intro same
    exact absurd ((suffixTest_exact_iff 87 87 2 [63, 63] [127, 63, 0] (by decide) (by decide)
      (by decide) (by decide) (by decide)).1.mp same) (by decide)

end NetIpc
