/-
This file compares the parts of the C, Rust and Go readers of lookup responses: strings,
labels and the directory.

The readers differ in how they add: Rust uses checked sums, C compares a sum with a limit
while it adds, and Go compares with the largest `int`. On lengths below 2^31 and wire fields
of 32 bits no sum leaves any of these ranges, so each helper of C and Go is equal to its Rust
counterpart, errors included.
-/

import NetIpc.CLookup
import NetIpc.DecoderSafety
import NetIpc.GoLookup

namespace NetIpc

variable {ε α : Type}

/-! ### The sums of C -/

namespace C

theorem nipcLookupAddU64OverLimit_of_le {a b limit : Nat} (inside : a + b ≤ limit)
    (small : a + b < 2 ^ 64) : nipcLookupAddU64OverLimit a b limit = some (a + b) := by
  rw [nipcLookupAddU64OverLimit, if_neg (by omega), if_neg (by omega)]

theorem nipcLookupAddU64OverLimit_of_lt {a b limit : Nat} (outside : limit < a + b) :
    nipcLookupAddU64OverLimit a b limit = none := by
  rw [nipcLookupAddU64OverLimit, if_pos outside, ite_self]

theorem nipcLookupAlign8U64OverLimit_of_lt {value : Nat} (small : value < 2 ^ 31) :
    nipcLookupAlign8U64OverLimit value uint32Max = some (align8 value) := by
  rw [nipcLookupAlign8U64OverLimit,
    nipcLookupAddU64OverLimit_of_le (by rw [uint32Max]; omega) (by omega)]
  rfl

/-- A checked sum with a limit is the sum and the comparison. -/
theorem okOr_nipcLookupAddU64OverLimit {a b limit : Nat} (error : ε) (small : a + b < 2 ^ 64) :
    okOr (nipcLookupAddU64OverLimit a b limit) error =
      rejectIf (a + b > limit) error >>= fun _ => .ok (a + b) := by
  by_cases inside : a + b ≤ limit
  · rw [nipcLookupAddU64OverLimit_of_le inside small, rejectIf_of_not (by omega)]
    rfl
  · rw [nipcLookupAddU64OverLimit_of_lt (by omega), rejectIf_of (by omega)]
    rfl

theorem nipcLookupBytesHaveNul_eq (bytes : Bytes) :
    nipcLookupBytesHaveNul bytes = bytes.contains 0 := by
  cases bytes <;> rfl

theorem mulWouldOverflow_dir (count : UInt32) :
    ¬ mulWouldOverflow count.toNat lookupDirEntrySize = true := by
  have bound := count.toNat_lt
  rw [mulWouldOverflow, decide_eq_true_eq, lookupDirEntrySize, usizeMax]
  omega

end C

/-! ### Strings -/

section Strings

variable {item : Bytes} {hdrSize offset length : Nat}

/-- The 64-bit sums of C do not wrap on a short item. -/
theorem C.nipcLookupStringView_eq (short : item.length < 2 ^ 31) (offsetSmall : offset < 2 ^ 32)
    (lengthSmall : length < 2 ^ 32) :
    nipcLookupStringView item hdrSize offset length = lookupString item hdrSize offset length := by
  rw [nipcLookupStringView, lookupString, okOr_checkedAdd (by omega)]
  refine bind_congr fun _ => ?_
  rw [ok_bind]
  by_cases inside : offset + length < item.length
  · rw [nipcLookupAddU64OverLimit_of_le (by omega) (by omega), okOr_some, ok_bind,
      nipcLookupAddU64OverLimit_of_le (by omega) (by omega), okOr_some, ok_bind,
      guard_bind (by omega), Nat.mod_eq_of_lt (by omega)]
    refine bind_congr fun _ => bind_congr fun _ => bind_congr fun _ =>
      bind_congr_ok ?_ fun _ _ => ?_
    · rw [nipcLookupBytesHaveNul_eq]
    · rw [readSlice_of_le (by omega) (by omega), ok_bind,
        show offset + length + 1 - offset = length + 1 by omega]
  · rw [rejectIf_of (by omega), error_bind]
    by_cases last : offset + length ≤ item.length
    · rw [nipcLookupAddU64OverLimit_of_le last (by omega), okOr_some, ok_bind,
        nipcLookupAddU64OverLimit_of_lt (by omega), okOr_none, error_bind]
    · rw [nipcLookupAddU64OverLimit_of_lt (by omega), okOr_none, error_bind]

/-- Go compares as `int`, which has room for two words. -/
theorem Go.lookupStringInto_eq (out : Bool) (offsetSmall : offset < 2 ^ 32)
    (lengthSmall : length < 2 ^ 32) :
    lookupStringInto out item hdrSize offset length =
      NetIpc.lookupString item hdrSize offset length := by
  rw [lookupStringInto, NetIpc.lookupString, okOr_checkedAdd (by omega)]
  refine bind_congr_ok (rejectIf_congr ?_ _) fun _ _ => ?_
  · rw [maxIntValue]
    omega
  · rw [ok_bind]
    refine bind_congr fun _ => bind_congr fun _ => bind_congr fun _ =>
      bind_congr fun _ => bind_congr fun _ => ?_
    rw [guard_bind (by omega)]

/-- The short path of an empty string is the long path with length zero. -/
theorem Go.lookupEmptyStringInto_eq (offsetSmall : offset < 2 ^ 32) :
    lookupEmptyStringInto item hdrSize offset = NetIpc.lookupString item hdrSize offset 0 := by
  rw [lookupEmptyStringInto, NetIpc.lookupString, okOr_checkedAdd (by omega), Nat.add_zero]
  by_cases past : offset < hdrSize
  · rw [rejectIf_of (Or.inl past), rejectIf_of past]
    rfl
  · rw [guard_bind past, ok_bind]
    refine bind_congr_ok (rejectIf_congr (by omega) _) fun _ passed => ?_
    have inside := rejectIf_eq_ok passed
    refine bind_congr fun _ => bind_congr fun _ => ?_
    simp only [Nat.add_zero]
    rw [readSlice_of_le (le_refl offset) (by omega), ok_bind, Nat.sub_self, slice_zero,
      guard_bind (by simp)]
    rfl

end Strings

/-! ### The sums of Go -/

namespace Go

theorem checkedInt_of_lt {value : Nat} (small : value < 2 ^ 63) :
    checkedInt value = some value := by
  rw [checkedInt, maxIntValue, if_neg (by omega)]

theorem checkedAddInt_of_lt {a b : Nat} (small : a + b < 2 ^ 63) :
    checkedAddInt a b = some (a + b) := by
  rw [checkedAddInt, maxIntValue, if_neg (by omega)]

theorem checkedAlign8_of_lt {value : Nat} (small : value < 2 ^ 62) :
    checkedAlign8 value = some (align8 value) := by
  rw [checkedAlign8, maxIntValue, if_neg (by omega)]

/-- A wire field always is an `int`. -/
theorem checkedWireU32Int_bind (buf : Bytes) (off : Nat) (next : Nat → Res NipcError α) :
    checkedWireU32Int buf off >>= next = u32At buf off >>= fun value => next value.toNat := by
  rw [checkedWireU32Int, bind_assoc]
  refine bind_congr fun value => ?_
  have bound := value.toNat_lt
  rw [checkedInt_of_lt (by omega), okOr_some, ok_bind]

theorem lookupDirEntry_bind (buf : Bytes) (base : Nat) (next : Nat × Nat → Res NipcError α) :
    lookupDirEntry buf base >>= next =
      u32At buf base >>= fun off => u32At buf (base + 4) >>= fun length =>
        next (off.toNat, length.toNat) := by
  rw [lookupDirEntry, bind_assoc, checkedWireU32Int_bind]
  refine bind_congr fun off => ?_
  rw [bind_assoc, checkedWireU32Int_bind]
  rfl

theorem lookupBuilderDataOffset_eq (count : UInt32) :
    lookupBuilderDataOffset lookupRespHdrSize count = some (16 + 8 * count.toNat) := by
  have bound := count.toNat_lt
  rw [lookupBuilderDataOffset, lookupDirEntrySize, lookupRespHdrSize,
    checkedInt_of_lt (by omega), Option.bind_some, checkedAddInt_of_lt (by omega), Nat.mul_comm]

theorem lookupPayloadSlice_eq {buf : Bytes} {start off length : Nat} (startSmall : start < 2 ^ 62)
    (offSmall : off < 2 ^ 32) (lengthSmall : length < 2 ^ 32) :
    lookupPayloadSlice buf start off length = checkedSubslice buf start off length := by
  rw [lookupPayloadSlice, checkedSubslice, maxIntValue, rejectIf_of_not (by omega),
    add_bind (by omega), ok_bind, add_bind (by omega)]
  refine bind_congr_ok (rejectIf_congr (by omega) _) fun _ passed => ?_
  have inside := rejectIf_eq_ok passed
  rw [readSlice_of_le (by omega) (by omega), Nat.add_sub_cancel_left]
  rfl

end Go

/-! ### Labels -/

section Labels

variable {item : Bytes} {hdrSize tableStart fixedEnd : Nat} {labelCount : UInt16}

variable (short : item.length < 2 ^ 31)

include short

section Table

variable (table : tableStart + labelCount.toNat * lookupLabelEntrySize ≤ item.length)

include table

/-- The sums of one pass over a table that ends inside the item. -/
theorem labelBase_eq {index : Nat} (below : index < labelCount.toNat) :
    index * lookupLabelEntrySize < 2 ^ 31 ∧
      tableStart + index * lookupLabelEntrySize + lookupLabelEntrySize ≤ item.length := by
  have entry := labelEntry_inside table below
  rw [lookupLabelEntrySize] at entry ⊢
  exact ⟨by omega, entry⟩

/-- Rust makes one check of two of C's. -/
theorem C.validateLabelEntry_eq (index : Nat) (below : index < labelCount.toNat) (expected : Nat) :
    validateLabelEntry item hdrSize tableStart index expected =
      validateLabel item hdrSize tableStart index expected := by
  obtain ⟨offset, inside⟩ := labelBase_eq short table below
  rw [validateLabelEntry, validateLabel, mul_bind (by omega), add_bind (by omega)]
  refine bind_congr fun keyOff => bind_congr fun keyLen =>
    bind_congr fun valueOff => bind_congr fun valueLen => ?_
  rw [rejectIf_or, bind_assoc]
  refine bind_congr_ok (rejectIf_congr UInt32.toNat_inj.symm _) fun _ _ =>
    bind_congr fun _ =>
      bind_congr_ok (nipcLookupStringView_eq short keyOff.toNat_lt keyLen.toNat_lt) fun _ _ => ?_
  refine bind_congr fun _ => ?_
  rw [nipcLookupStringView_eq short valueOff.toNat_lt valueLen.toNat_lt]

theorem Go.validateLabel_eq (index : Nat) (below : index < labelCount.toNat) (expected : Nat) :
    validateLabel item hdrSize tableStart index expected =
      NetIpc.validateLabel item hdrSize tableStart index expected := by
  obtain ⟨offset, inside⟩ := labelBase_eq short table below
  rw [validateLabel, NetIpc.validateLabel, checkedMul_of_le (by rw [usizeMax]; omega),
    checkedInt_of_lt (by omega), okOr_some, ok_bind, ok_bind,
    checkedAdd_of_le (by rw [usizeMax]; omega), checkedAddInt_of_lt (by omega), okOr_some, ok_bind,
    ok_bind]
  simp only [checkedWireU32Int_bind, lookupString]
  refine bind_congr fun keyOff => bind_congr fun keyLen => bind_congr fun valueOff =>
    bind_congr fun valueLen => bind_congr fun _ => ?_
  refine bind_congr_ok (lookupStringInto_eq true keyOff.toNat_lt keyLen.toNat_lt) fun _ _ =>
    bind_congr fun _ => ?_
  rw [lookupStringInto_eq true valueOff.toNat_lt valueLen.toNat_lt]

theorem C.nipcLookupLabelAt_eq (index : UInt32) :
    nipcLookupLabelAt item hdrSize labelCount tableStart index =
      labelAt item hdrSize labelCount tableStart index := by
  rw [nipcLookupLabelAt, labelAt]
  refine bind_congr_ok rfl fun _ passed => ?_
  obtain ⟨offset, inside⟩ := labelBase_eq short table (not_le.mp (rejectIf_eq_ok passed))
  rw [mul_bind (by omega), add_bind (by omega), add_bind (by omega)]
  refine bind_congr fun _ => bind_congr fun keyOff =>
    bind_congr fun keyLen => bind_congr fun valueOff =>
      bind_congr fun valueLen => ?_
  rw [nipcLookupStringView_eq short keyOff.toNat_lt keyLen.toNat_lt,
    nipcLookupStringView_eq short valueOff.toNat_lt valueLen.toNat_lt]

theorem Go.lookupLabelAt_eq (index : UInt32) :
    lookupLabelAt item hdrSize labelCount tableStart index =
      labelAt item hdrSize labelCount tableStart index := by
  rw [lookupLabelAt, labelAt]
  refine bind_congr_ok rfl fun _ passed => ?_
  obtain ⟨offset, inside⟩ := labelBase_eq short table (not_le.mp (rejectIf_eq_ok passed))
  rw [checkedMul_of_le (by rw [usizeMax]; omega), checkedInt_of_lt (by omega), okOr_some, ok_bind,
    ok_bind, checkedAdd_of_le (by rw [usizeMax]; omega), checkedAddInt_of_lt (by omega), okOr_some,
    ok_bind, ok_bind, add_bind (by omega), guard_bind (by omega)]
  simp only [checkedWireU32Int_bind, lookupString]
  refine bind_congr fun keyOff => bind_congr fun keyLen =>
    bind_congr fun valueOff => bind_congr fun valueLen => ?_
  rw [lookupStringInto_eq true keyOff.toNat_lt keyLen.toNat_lt,
    lookupStringInto_eq true valueOff.toNat_lt valueLen.toNat_lt]

end Table

/-- Both walk the table, entry by entry. -/
theorem C.nipcLookupValidateLabels_eq (fixed : fixedEnd ≤ item.length) :
    nipcLookupValidateLabels item hdrSize labelCount fixedEnd =
      validateLabels item hdrSize labelCount fixedEnd := by
  have count := labelCount.toNat_lt
  have aligned := align8_lt fixedEnd
  rw [nipcLookupValidateLabels, validateLabels]
  split
  · rw [Nat.mod_eq_of_lt (by omega)]
  · rw [nipcLookupAlign8U64OverLimit_of_lt (by omega), okOr_some, ok_bind]
    iterate 3 refine bind_congr fun _ => ?_
    dsimp only
    rw [okOr_nipcLookupAddU64OverLimit _ (by rw [lookupLabelEntrySize]; omega),
      mul_bind (by rw [lookupLabelEntrySize]; omega),
      add_bind (by rw [lookupLabelEntrySize]; omega), bind_assoc]
    refine bind_congr_ok rfl fun _ passed => ?_
    have table := not_lt.mp (rejectIf_eq_ok passed)
    rw [ok_bind, Nat.mod_eq_of_lt (by omega)]
    refine bind_congr_ok (forFrom_congr (fun index expected _ below => ?_) _) fun _ _ => rfl
    exact validateLabelEntry_eq short table index (by omega) expected

/-- Go checks the sums against `int` where Rust checks against `usize`. -/
theorem Go.validateLabels_eq (fixed : fixedEnd ≤ item.length) :
    validateLabels item hdrSize labelCount fixedEnd =
      NetIpc.validateLabels item hdrSize labelCount fixedEnd := by
  have count := labelCount.toNat_lt
  have aligned := align8_lt fixedEnd
  rw [validateLabels, NetIpc.validateLabels]
  split
  · rfl
  · rw [checkedAlign8_of_lt (by omega), okOr_some, ok_bind]
    iterate 3 refine bind_congr fun _ => ?_
    rw [checkedInt_of_lt (by rw [lookupLabelEntrySize]; omega),
      checkedMul_of_le (by rw [lookupLabelEntrySize, usizeMax]; omega), okOr_some, ok_bind, ok_bind,
      checkedAddInt_of_lt (by rw [lookupLabelEntrySize]; omega),
      checkedAdd_of_le (by rw [lookupLabelEntrySize, usizeMax]; omega), okOr_some, ok_bind, ok_bind]
    refine bind_congr_ok rfl fun _ passed => ?_
    have table := not_lt.mp (rejectIf_eq_ok passed)
    refine bind_congr_ok (forFrom_congr (fun index expected _ below => ?_) _) fun _ _ => rfl
    exact validateLabel_eq short table index (by omega) expected

end Labels

/-! ### The directory -/

section Directory

variable {buf : Bytes} {dirStart packedAreaLen minLen : Nat} {itemCount : UInt32}
  {exactLen : Option Nat}

theorem C.validateOrderedEntry_eq (index prevEnd : Nat) :
    validateOrderedEntry buf dirStart packedAreaLen minLen exactLen index prevEnd =
      validateDirEntry buf dirStart packedAreaLen minLen exactLen index prevEnd := by
  rw [validateOrderedEntry, validateDirEntry]
  refine bind_congr fun off => bind_congr fun len =>
    bind_congr fun _ => bind_congr fun _ => ?_
  have offSmall := off.toNat_lt
  have lenSmall := len.toNat_lt
  rw [okOr_nipcLookupAddU64OverLimit _ (by omega), add_bind (by omega), bind_assoc]
  rfl

theorem Go.validateDirEntry_eq (index prevEnd : Nat) :
    validateDirEntry buf dirStart packedAreaLen minLen exactLen index prevEnd =
      NetIpc.validateDirEntry buf dirStart packedAreaLen minLen exactLen index prevEnd := by
  rw [validateDirEntry, NetIpc.validateDirEntry]
  refine bind_congr fun off => bind_congr fun len =>
    bind_congr fun _ => bind_congr fun _ => ?_
  have offSmall := off.toNat_lt
  have lenSmall := len.toNat_lt
  rw [add_bind (by omega)]

/-- C does not look again for the end of the directory, which was compared before. -/
theorem C.nipcLookupValidateOrderedDir_eq (start : dirStart = lookupRespHdrSize)
    (inside : dirStart + itemCount.toNat * lookupDirEntrySize ≤ buf.length) :
    nipcLookupValidateOrderedDir buf dirStart itemCount packedAreaLen minLen exactLen =
      validateLookupDir buf dirStart itemCount packedAreaLen minLen exactLen := by
  have count := itemCount.toNat_lt
  rw [nipcLookupValidateOrderedDir, validateLookupDir,
    mul_bind (by rw [lookupDirEntrySize]; omega),
    add_bind (by rw [start, lookupRespHdrSize, lookupDirEntrySize]; omega), guard_bind
      (not_lt.mpr inside)]
  refine bind_congr_ok (forFrom_congr (fun index prevEnd _ _ => ?_) _) fun _ _ => rfl
  exact validateOrderedEntry_eq index prevEnd

theorem Go.validateLookupDir_eq (start : dirStart = lookupRespHdrSize) (low : minLen < 2 ^ 32) :
    validateLookupDir buf dirStart itemCount packedAreaLen minLen none =
      NetIpc.validateLookupDir buf dirStart itemCount packedAreaLen minLen none := by
  have count := itemCount.toNat_lt
  rw [validateLookupDir, NetIpc.validateLookupDir, guard_bind (by omega), guard_bind (by simp),
    mul_bind (by rw [lookupDirEntrySize]; omega),
    add_bind (by rw [start, lookupRespHdrSize, lookupDirEntrySize]; omega)]
  dsimp only
  rw [guard_bind (by rw [lookupDirEntrySize, maxIntValue]; omega),
    guard_bind (by
      rw [start, lookupRespHdrSize, lookupDirEntrySize, maxIntValue]
      omega)]
  refine bind_congr fun _ =>
    bind_congr_ok (forFrom_congr (fun index prevEnd _ _ => ?_) _) fun _ _ => rfl
  exact validateDirEntry_eq index prevEnd

/-- An entry of an accepted directory stands for bytes of the packed area. -/
theorem validateLookupDir_inside
    (accepted : validateLookupDir buf dirStart itemCount packedAreaLen minLen exactLen = .ok ())
    {index : Nat} (below : index < itemCount.toNat) {off len : UInt32}
    (readOff : (u32At buf (dirStart + index * lookupDirEntrySize) : Res NipcError UInt32) = .ok off)
    (readLen : (u32At buf (dirStart + index * lookupDirEntrySize + 4) : Res NipcError UInt32) =
      .ok len) : off.toNat + len.toNat ≤ packedAreaLen := by
  rw [validateLookupDir] at accepted
  iterate 3 obtain ⟨_, -, accepted⟩ := bind_eq_ok accepted
  obtain ⟨_, loop, -⟩ := bind_eq_ok accepted
  obtain ⟨before, after, pass⟩ := forFrom_eq_ok loop index (Nat.zero_le _) (by omega)
  rw [validateDirEntry, readOff, ok_bind, readLen, ok_bind] at pass
  iterate 2 obtain ⟨_, -, pass⟩ := bind_eq_ok pass
  obtain ⟨-, pass⟩ := add_eq_ok pass
  obtain ⟨_, passed, -⟩ := bind_eq_ok pass
  exact not_lt.mp (rejectIf_eq_ok passed)

end Directory

end NetIpc
