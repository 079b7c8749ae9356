/-
This file is about the rounding of capacities: `next_power_of_2_u32` of the Rust crate,
`nipc_service_common_next_power_of_2_u32` of the C library and `nextPowerOf2U32` of the Go package.

Each of them spreads the bits of `n - 1` over all lower bits and adds one, which gives the least
power of two that is not below `n`. Up to 2^31 they are one function. Above it there is no such
power in 32 bits: Rust stops at 2^31, and in C and Go the sum wraps to zero.
-/

import Mathlib.Data.Nat.Size
import NetIpc.CServer
import NetIpc.RawClient

namespace NetIpc

/-- `nextPowerOf2U32`. -/
def Go.nextPowerOf2U32 (n : UInt32) : UInt32 :=
  if n < 16 then 16
  else
    let n := n - 1
    let n := n ||| n >>> 1
    let n := n ||| n >>> 2
    let n := n ||| n >>> 4
    let n := n ||| n >>> 8
    let n := n ||| n >>> 16
    n + 1

namespace Rounding

/-! ### Spreading bits -/

/-- A bit of `spread` is set when one of the `width` bits of `value` from it on is. -/
def Spread (value spread width : Nat) : Prop :=
  ∀ bit, spread.testBit bit = true ↔
    ∃ source, bit ≤ source ∧ source < bit + width ∧ value.testBit source = true

theorem spread_self (value : Nat) : Spread value value 1 := by
  intro bit
  constructor
  · intro set
    exact ⟨bit, Nat.le_refl _, Nat.lt_succ_self _, set⟩
  · rintro ⟨source, low, high, set⟩
    rwa [Nat.le_antisymm low (Nat.le_of_lt_succ high)]

/-- One line of the bit trick doubles the width. -/
theorem Spread.double {value spread width : Nat} (spreads : Spread value spread width) :
    Spread value (spread ||| spread >>> width) (2 * width) := by
  intro bit
  rw [Nat.testBit_or, Nat.testBit_shiftRight, Bool.or_eq_true, spreads, spreads]
  constructor
  · rintro (⟨source, low, high, set⟩ | ⟨source, low, high, set⟩)
    · exact ⟨source, low, by omega, set⟩
    · exact ⟨source, by omega, by omega, set⟩
  · rintro ⟨source, low, high, set⟩
    by_cases near : source < bit + width
    · exact Or.inl ⟨source, low, near, set⟩
    · exact Or.inr ⟨source, by omega, by omega, set⟩

/-- Spread over all its bits, a number is all ones. -/
theorem Spread.eq_ones {value spread width : Nat} (spreads : Spread value spread width)
    (small : value < 2 ^ width) : spread = 2 ^ value.size - 1 := by
  refine Nat.eq_of_testBit_eq fun bit => ?_
  rw [Nat.testBit_two_pow_sub_one, Bool.eq_iff_iff, spreads, decide_eq_true_eq, Nat.lt_size]
  constructor
  · rintro ⟨source, low, -, set⟩
    exact (Nat.pow_le_pow_right (by decide) low).trans (Nat.ge_two_pow_of_testBit set)
  · intro large
    obtain ⟨source, low, set⟩ := Nat.exists_ge_and_testBit_of_ge_two_pow large
    refine ⟨source, low, ?_, set⟩
    have short : source < width := by
      by_contra long
      have zero := Nat.testBit_lt_two_pow
        (small.trans_le (Nat.pow_le_pow_right (by decide) (Nat.le_of_not_lt long)))
      exact Bool.noConfusion (zero.symm.trans set)
    omega

/-- The five lines of the bit trick. -/
def spreadBits (value : UInt32) : UInt32 :=
  let value := value ||| value >>> 1
  let value := value ||| value >>> 2
  let value := value ||| value >>> 4
  let value := value ||| value >>> 8
  value ||| value >>> 16

theorem toNat_spreadBits (value : UInt32) :
    (spreadBits value).toNat = 2 ^ value.toNat.size - 1 := by
  have spreads : Spread value.toNat (spreadBits value).toNat 32 := by
    simp only [spreadBits, UInt32.toNat_or, UInt32.toNat_shiftRight]
    exact (spread_self value.toNat).double.double.double.double.double
  exact spreads.eq_ones value.toNat_lt

/-! ### The least power of two -/

/-- The capacities that are large enough for `n` bytes. -/
def Capacities (n : UInt32) : Set Nat := {power | (∃ exponent, power = 2 ^ exponent) ∧
  max n.toNat 16 ≤ power}

variable {n : UInt32}

theorem isLeast_nextPowerOf2U32 (small : n.toNat ≤ 2 ^ 31) :
    IsLeast (Capacities n) (nextPowerOf2U32 n).toNat := by
  unfold nextPowerOf2U32
  split_ifs with tiny huge
  · have tiny : n.toNat < 16 := UInt32.lt_iff_toNat_lt.mp tiny
    exact ⟨⟨⟨4, rfl⟩, by rw [Nat.max_eq_right tiny.le]; rfl⟩, fun _ large =>
      (Nat.le_max_right _ _).trans large.2⟩
  · have huge : 2 ^ 31 < n.toNat := UInt32.lt_iff_toNat_lt.mp huge
    exact absurd small (Nat.not_le.mpr huge)
  · have large : 16 ≤ n.toNat := UInt32.le_iff_toNat_le.mp (UInt32.not_lt.mp tiny)
    have less : (n - 1).toNat = n.toNat - 1 := UInt32.toNat_sub_of_le _ _
      (UInt32.le_iff_toNat_le.mpr (large.trans' (by decide)))
    have least (exponent : Nat) : (n - 1).toNat.size ≤ exponent ↔ n.toNat ≤ 2 ^ exponent := by
      rw [Nat.size_le, less]
      omega
    have power : 2 ^ (n - 1).toNat.size ≤ 2 ^ 31 :=
      Nat.pow_le_pow_right (by decide) ((least 31).mpr small)
    have next : (spreadBits (n - 1) + 1).toNat = 2 ^ (n - 1).toNat.size := by
      have positive := Nat.two_pow_pos (n - 1).toNat.size
      rw [UInt32.toNat_add, toNat_spreadBits, UInt32.toNat_one, Nat.sub_add_cancel positive]
      exact Nat.mod_eq_of_lt (by omega)
    change IsLeast (Capacities n) (spreadBits (n - 1) + 1).toNat
    rw [next]
    refine ⟨⟨⟨_, rfl⟩, by rw [Nat.max_eq_left large]; exact (least _).mp le_rfl⟩, ?_⟩
    rintro _ ⟨⟨exponent, rfl⟩, enough⟩
    exact Nat.pow_le_pow_right (by decide)
      ((least exponent).mpr ((Nat.le_max_left _ _).trans enough))

/-- `next_power_of_2_u32` up to 2^31. -/
theorem nextPowerOf2U32_eq (small : n.toNat ≤ 2 ^ 31) :
    ∃ exponent ≤ 31, (nextPowerOf2U32 n).toNat = 2 ^ exponent ∧ n.toNat ≤ 2 ^ exponent := by
  obtain ⟨⟨⟨exponent, power⟩, enough⟩, least⟩ := isLeast_nextPowerOf2U32 small
  have bound := least ⟨⟨31, rfl⟩, Nat.max_le.mpr ⟨small, by decide⟩⟩
  rw [power] at enough bound
  exact ⟨exponent, (Nat.pow_le_pow_iff_right (by decide)).mp bound, power,
    (Nat.le_max_left _ _).trans enough⟩

/-! ### The three languages -/

/-- What a rounding should do with `n`: the least capacity up to 2^31, that power above it, and
never less than for a smaller number, also below a ceiling. -/
structure Rounds (round : UInt32 → UInt32) (n : UInt32) : Prop where
  least : n.toNat ≤ 2 ^ 31 → IsLeast (Capacities n) (round n).toNat
  above : 2 ^ 31 < n.toNat → (round n).toNat = 2 ^ 31
  monotone : ∀ less ≤ n, round less ≤ round n ∧
    ∀ ceiling, min (round less) ceiling ≤ min (round n) ceiling

/-- All three languages round `n` to the same, right capacity. -/
def Agreed (n : UInt32) : Prop :=
  C.nextPowerOf2U32 n = nextPowerOf2U32 n ∧ Go.nextPowerOf2U32 n = nextPowerOf2U32 n ∧
    ∀ round ∈ [nextPowerOf2U32, C.nextPowerOf2U32, Go.nextPowerOf2U32], Rounds round n

theorem c_nextPowerOf2U32_of_le (small : n.toNat ≤ 2 ^ 31) :
    C.nextPowerOf2U32 n = nextPowerOf2U32 n := by
  have bounded : ¬ n > (1 : UInt32) <<< 31 := UInt32.not_lt.mpr (UInt32.le_iff_toNat_le.mpr small)
  rw [C.nextPowerOf2U32, nextPowerOf2U32, if_neg bounded]

/-- A rounding that is the one of Rust up to `n` rounds `n`. -/
theorem rounds_of_le {round : UInt32 → UInt32} (small : n.toNat ≤ 2 ^ 31)
    (same : ∀ less : UInt32, less.toNat ≤ 2 ^ 31 → round less = nextPowerOf2U32 less) :
    Rounds round n where
  least _ := by
    rw [same n small]
    exact isLeast_nextPowerOf2U32 small
  above large := absurd small (Nat.not_le.mpr large)
  monotone less below := by
    have lower := UInt32.le_iff_toNat_le.mp below
    have grows : round less ≤ round n := by
      rw [same n small, same less (lower.trans small)]
      obtain ⟨⟨power, enough⟩, -⟩ := isLeast_nextPowerOf2U32 small
      exact (isLeast_nextPowerOf2U32 (lower.trans small)).2
        ⟨power, (max_le_max_right 16 lower).trans enough⟩
    refine ⟨grows, fun ceiling => ?_⟩
    rw [UInt32.le_iff_toNat_le, UInt32.toNat_min, UInt32.toNat_min]
    exact min_le_min_right _ (UInt32.le_iff_toNat_le.mp grows)

/-- Above 2^31 all the bits get set and the sum wraps. -/
theorem c_nextPowerOf2U32_of_lt (large : 2 ^ 31 < n.toNat) : C.nextPowerOf2U32 n = 0 := by
  have less : (n - 1).toNat = n.toNat - 1 := UInt32.toNat_sub_of_le _ _
    (UInt32.le_iff_toNat_le.mpr (large.trans_le' (by decide)))
  have top : (n - 1).toNat.size = 32 := Nat.le_antisymm (Nat.size_le.mpr (n - 1).toNat_lt)
    (Nat.lt_size.mpr (by omega))
  have ones : spreadBits (n - 1) = 4294967295 := by
    rw [← UInt32.toNat_inj, toNat_spreadBits, top]
    rfl
  rw [C.nextPowerOf2U32, if_neg (UInt32.not_lt.mpr (UInt32.le_iff_toNat_le.mpr
    (large.le.trans' (by decide))))]
  exact congrArg (· + 1) ones

/-- The roundings agree up to 2^31 and not above. -/
theorem roundings_agreed_iff (n : UInt32) : Agreed n ↔ n ≤ 2147483648 := by
  constructor
  · rintro ⟨-, -, rounds⟩
    by_contra large
    have large : 2 ^ 31 < n.toNat := UInt32.lt_iff_toNat_lt.mp (UInt32.not_le.mp large)
    have capped := (rounds C.nextPowerOf2U32 (by simp)).above large
    rw [c_nextPowerOf2U32_of_lt large] at capped
    exact absurd capped (by decide)
  · intro small
    have small : n.toNat ≤ 2 ^ 31 := UInt32.le_iff_toNat_le.mp small
    have same := c_nextPowerOf2U32_of_le small
    refine ⟨same, same, fun round member => rounds_of_le small ?_⟩
    simp only [List.mem_cons, List.not_mem_nil, or_false] at member
    rcases member with rfl | rfl | rfl
    · exact fun _ _ => rfl
    · exact fun _ => c_nextPowerOf2U32_of_le
    · exact fun _ => c_nextPowerOf2U32_of_le

/-- The smallest number that C and Go round to zero. -/
theorem roundings_not_agreed : ¬ Agreed 2147483649 := by
  rintro ⟨same, -⟩
  exact absurd same (by decide)

end Rounding

end NetIpc
