/-
This file is the library of checked buffer accesses: indexing, sub-slices,
fixed-width words and in-place writes, where an access out of range is a panic.

Reads are computations on the buffer's contents; writes are programs on the
buffer. Every write is `write off src`, and `run_bind_write` is the rule by which
a sequence of writes at increasing offsets is executed symbolically: the part
written so far grows by `src`.
-/

import NetIpc.Bytes
import NetIpc.Prog

namespace NetIpc

variable {ε σ α β : Type}

/-! ### Machine arithmetic -/

/-- `usize::MAX` on a 64-bit target. -/
def usizeMax : Nat := 2 ^ 64 - 1

/-- `usize::checked_add`. -/
def checkedAdd (first second : Nat) : Option Nat :=
  if first + second ≤ usizeMax then some (first + second) else none

/-- `usize::checked_mul`. -/
def checkedMul (first second : Nat) : Option Nat :=
  if first * second ≤ usizeMax then some (first * second) else none

/-- `usize::checked_sub`. -/
def checkedSub (first second : Nat) : Option Nat :=
  if second ≤ first then some (first - second) else none

/-- Plain subtraction: an underflow is a panic. -/
def subOrPanic (first second : Nat) : Res ε Nat :=
  if second ≤ first then .ok (first - second) else .error .panic

/-- `Option::ok_or`, as it is used before `?`. -/
def okOr (value : Option α) (error : ε) : Res ε α :=
  match value with
  | some value => .ok value
  | none => .error (.err error)

/-- `if condition { return Err(error) }`. -/
def rejectIf (condition : Prop) [Decidable condition] (error : ε) : Res ε Unit :=
  if condition then .error (.err error) else .ok ()

@[simp] theorem okOr_some (value : α) (error : ε) : okOr (some value) error = .ok value := rfl

@[simp] theorem okOr_none (error : ε) : (okOr none error : Res ε α) = .error (.err error) := rfl

variable {first second : Nat}

/-- A checked sum that fits. -/
theorem checkedAdd_of_le (bound : first + second ≤ usizeMax) :
    checkedAdd first second = some (first + second) := if_pos bound

theorem checkedMul_of_le (bound : first * second ≤ usizeMax) :
    checkedMul first second = some (first * second) := if_pos bound

/-- The bound as `omega` reads it. -/
theorem toNat_ofNat32 {value : Nat} (small : value < 2 ^ 32) :
    (UInt32.ofNat value).toNat = value := UInt32.toNat_ofNat_of_lt' small

variable {error : ε} {condition : Prop}

/-- A checked sum under `?`. -/
theorem okOr_checkedAdd (bound : first + second < 2 ^ 64) :
    okOr (checkedAdd first second) error = .ok (first + second) := by
  rw [checkedAdd_of_le (Nat.le_pred_of_lt bound), okOr_some]

/-- A checked product under `?`. -/
theorem okOr_checkedMul (bound : first * second < 2 ^ 64) :
    okOr (checkedMul first second) error = .ok (first * second) := by
  rw [checkedMul_of_le (Nat.le_pred_of_lt bound), okOr_some]

theorem checkedSub_of_le (bound : second ≤ first) :
    checkedSub first second = some (first - second) := if_pos bound

theorem subOrPanic_of_le (bound : second ≤ first) :
    (subOrPanic first second : Res ε Nat) = .ok (first - second) := if_pos bound

/-- A checked sum that came out is the sum, and fits. -/
theorem checkedAdd_eq_some {sum : Nat} (added : checkedAdd first second = some sum) :
    sum = first + second ∧ first + second ≤ usizeMax := by
  unfold checkedAdd at added
  split at added
  · rename_i bound
    exact ⟨(Option.some.inj added).symm, bound⟩
  · cases added

/-- A checked sum that did not come out is too large. -/
theorem checkedAdd_eq_none (added : checkedAdd first second = none) :
    usizeMax < first + second := by
  unfold checkedAdd at added
  split at added
  · cases added
  · omega

/-- A checked product that came out is the product, and fits. -/
theorem checkedMul_eq_some {product : Nat} (multiplied : checkedMul first second = some product) :
    product = first * second ∧ first * second ≤ usizeMax := by
  unfold checkedMul at multiplied
  split at multiplied
  · rename_i bound
    exact ⟨(Option.some.inj multiplied).symm, bound⟩
  · cases multiplied

theorem checkedMul_eq_none (multiplied : checkedMul first second = none) :
    usizeMax < first * second := by
  unfold checkedMul at multiplied
  split at multiplied
  · cases multiplied
  · omega

/-- A checked sum of three overflows exactly when the whole sum does. -/
theorem checkedAdd_bind (first second third : Nat) :
    (checkedAdd first second).bind (checkedAdd · third) = checkedAdd (first + second) third := by
  unfold checkedAdd
  by_cases small : first + second ≤ usizeMax
  · rw [if_pos small, Option.bind_some]
  · rw [if_neg small, if_neg fun whole => small (le_trans (Nat.le_add_right _ _) whole)]
    rfl

/-! ### Successful computations -/

@[simp] theorem ok_bind (value : α) (next : α → Res ε β) :
    (Except.ok value : Res ε α) >>= next = next value := rfl

@[simp] theorem error_bind (reason : Stop ε) (next : α → Res ε β) :
    (Except.error reason : Res ε α) >>= next = .error reason := rfl

theorem bind_of_ok {first : Res ε α} {next : α → Res ε β} {value : α} (ran : first = .ok value) :
    first >>= next = next value := by
  rw [ran, ok_bind]

/-- A sequence that returned had a first part that returned. -/
theorem bind_eq_ok {first : Res ε α} {next : α → Res ε β} {result : β}
    (ran : first >>= next = .ok result) : ∃ value, first = .ok value ∧ next value = .ok result := by
  cases first with
  | ok value => exact ⟨value, rfl, ran⟩
  | error reason => cases ran

/-- What `ok_or` lets through was there. -/
theorem okOr_eq_ok {value : Option α} {result : α} (ran : okOr value error = .ok result) :
    value = some result := by
  cases value with
  | some inner => exact congrArg some (Except.ok.inj ran)
  | none => cases ran

theorem rejectIf_of_not [Decidable condition] (passed : ¬ condition) :
    rejectIf condition error = .ok () := if_neg passed

theorem rejectIf_of [Decidable condition] (failed : condition) :
    rejectIf condition error = .error (.err error) := if_pos failed

/-- A guard that let the code through did not hold. -/
theorem rejectIf_eq_ok [Decidable condition] {result : Unit}
    (ran : rejectIf condition error = .ok result) : ¬ condition := by
  unfold rejectIf at ran
  split at ran
  · cases ran
  · assumption

/-! A check under `?` and what comes after it: a guard, a checked sum and a checked product. -/

section Checks

variable {condition : Prop} [Decidable condition] {error : ε} {σ : Type} {state final : σ}
  {result : β}

/-- A guard that does not hold is a no-op. -/
theorem guard_bind {next : Unit → Res ε β} (passed : ¬ condition) :
    rejectIf condition error >>= next = next () := by
  rw [rejectIf_of_not passed, ok_bind]

theorem Prog.guard_bind {next : Unit → Prog ε σ β} (passed : ¬ condition) :
    Prog.ofRes (rejectIf condition error) >>= next = next () := by
  rw [rejectIf_of_not passed, Prog.ofRes_ok_bind]

variable {next : Nat → Res ε β}

/-- A checked sum that fits is the sum. -/
theorem add_bind (bound : first + second < 2 ^ 64) :
    okOr (checkedAdd first second) error >>= next = next (first + second) := by
  rw [okOr_checkedAdd bound, ok_bind]

theorem Prog.add_bind {next : Nat → Prog ε σ β} (bound : first + second < 2 ^ 64) :
    Prog.ofRes (okOr (checkedAdd first second) error) >>= next = next (first + second) := by
  rw [okOr_checkedAdd bound, Prog.ofRes_ok_bind]

theorem mul_bind (bound : first * second < 2 ^ 64) :
    okOr (checkedMul first second) error >>= next = next (first * second) := by
  rw [okOr_checkedMul bound, ok_bind]

theorem Prog.mul_bind {next : Nat → Prog ε σ β} (bound : first * second < 2 ^ 64) :
    Prog.ofRes (okOr (checkedMul first second) error) >>= next = next (first * second) := by
  rw [okOr_checkedMul bound, Prog.ofRes_ok_bind]

/-- The code after a guard returned: the guard did not hold. -/
theorem guard_eq_ok {next : Unit → Res ε β}
    (ran : rejectIf condition error >>= next = .ok result) :
    ¬ condition ∧ next () = .ok result := by
  obtain ⟨_, passed, ran⟩ := bind_eq_ok ran
  exact ⟨rejectIf_eq_ok passed, ran⟩

theorem Prog.run_guard_eq_ok {next : Unit → Prog ε σ β}
    (ran : (Prog.ofRes (rejectIf condition error) >>= next).run state = (.ok result, final)) :
    ¬ condition ∧ (next ()).run state = (.ok result, final) := by
  obtain ⟨_, passed, ran⟩ := Prog.run_ofRes_bind_eq_ok ran
  exact ⟨rejectIf_eq_ok passed, ran⟩

/-- The code after a checked sum returned: the sum fits. -/
theorem add_eq_ok (ran : okOr (checkedAdd first second) error >>= next = .ok result) :
    first + second ≤ usizeMax ∧ next (first + second) = .ok result := by
  obtain ⟨_, sum, ran⟩ := bind_eq_ok ran
  obtain ⟨rfl, small⟩ := checkedAdd_eq_some (okOr_eq_ok sum)
  exact ⟨small, ran⟩

theorem Prog.run_add_eq_ok {next : Nat → Prog ε σ β}
    (ran : (Prog.ofRes (okOr (checkedAdd first second) error) >>= next).run state =
      (.ok result, final)) :
    first + second ≤ usizeMax ∧ (next (first + second)).run state = (.ok result, final) := by
  obtain ⟨_, sum, ran⟩ := Prog.run_ofRes_bind_eq_ok ran
  obtain ⟨rfl, small⟩ := checkedAdd_eq_some (okOr_eq_ok sum)
  exact ⟨small, ran⟩

/-- The code after a checked product returned: the product fits. -/
theorem mul_eq_ok (ran : okOr (checkedMul first second) error >>= next = .ok result) :
    first * second ≤ usizeMax ∧ next (first * second) = .ok result := by
  obtain ⟨_, product, ran⟩ := bind_eq_ok ran
  obtain ⟨rfl, small⟩ := checkedMul_eq_some (okOr_eq_ok product)
  exact ⟨small, ran⟩

theorem Prog.run_mul_eq_ok {next : Nat → Prog ε σ β}
    (ran : (Prog.ofRes (okOr (checkedMul first second) error) >>= next).run state =
      (.ok result, final)) :
    first * second ≤ usizeMax ∧ (next (first * second)).run state = (.ok result, final) := by
  obtain ⟨_, product, ran⟩ := Prog.run_ofRes_bind_eq_ok ran
  obtain ⟨rfl, small⟩ := checkedMul_eq_some (okOr_eq_ok product)
  exact ⟨small, ran⟩

end Checks

/-- Equal first parts, and rests that are equal on what the first part returns. -/
theorem bind_congr_ok {first first' : Res ε α} {next next' : α → Res ε β} (same : first = first')
    (rest : ∀ value, first = .ok value → next value = next' value) :
    first >>= next = first' >>= next' := by
  subst same
  cases first with
  | ok value => exact rest value rfl
  | error reason => rfl

/-- A loop only depends on its body at the indices it visits. -/
theorem forFrom_congr {body body' : Nat → α → Res ε α} {start count : Nat}
    (same : ∀ index value, start ≤ index → index < start + count →
      body index value = body' index value) (value : α) :
    forFrom body start count value = forFrom body' start count value := by
  induction count generalizing start value with
  | zero => rfl
  | succ count ih =>
    simp only [forFrom]
    refine bind_congr_ok (same start value (le_refl _) (by omega)) fun next _ => ?_
    exact ih (fun index value low high =>
      same index value (by omega) (by omega)) next

theorem rejectIf_congr {condition condition' : Prop} [Decidable condition] [Decidable condition']
    (same : condition ↔ condition') (error : ε) :
    rejectIf condition error = rejectIf condition' error := by
  unfold rejectIf
  by_cases holds : condition
  · rw [if_pos holds, if_pos (same.mp holds)]
  · rw [if_neg holds, if_neg (mt same.mpr holds)]

/-- A guard on a disjunction is two guards in a row. -/
theorem rejectIf_or {first second : Prop} [Decidable first] [Decidable second] (error : ε) :
    rejectIf (first ∨ second) error = rejectIf first error >>= fun _ => rejectIf second error := by
  by_cases holds : first
  · rw [rejectIf_of (Or.inl holds), rejectIf_of holds]
    rfl
  · rw [rejectIf_of_not holds, ok_bind]
    exact rejectIf_congr (or_iff_right holds) error

/-! ### Reads -/

/-- `&buf[start..stop]`. -/
def readSlice (buf : Bytes) (start stop : Nat) : Res ε Bytes :=
  if start ≤ stop ∧ stop ≤ buf.length then .ok (slice buf start (stop - start)) else .error .panic

/-- `buf[index]`. -/
def readByte (buf : Bytes) (index : Nat) : Res ε UInt8 :=
  match buf[index]? with
  | some byte => .ok byte
  | none => .error .panic

/-- `u16::from_ne_bytes(buf[off..off + 2])`. -/
def u16At (buf : Bytes) (off : Nat) : Res ε UInt16 := do
  let bytes ← readSlice buf off (off + 2)
  return UInt16.ofNat (leNat bytes)

/-- `u32::from_ne_bytes(buf[off..off + 4])`. -/
def u32At (buf : Bytes) (off : Nat) : Res ε UInt32 := do
  let bytes ← readSlice buf off (off + 4)
  return UInt32.ofNat (leNat bytes)

/-- `u64::from_ne_bytes(buf[off..off + 8])`. -/
def u64At (buf : Bytes) (off : Nat) : Res ε UInt64 := do
  let bytes ← readSlice buf off (off + 8)
  return UInt64.ofNat (leNat bytes)

variable {stop start : Nat} {error : ε}

/-- A sub-slice within the buffer is read without a panic. -/
theorem readSlice_of_le {buf : Bytes} (order : start ≤ stop) (bound : stop ≤ buf.length) :
    (readSlice buf start stop : Res ε Bytes) = .ok (slice buf start (stop - start)) :=
  if_pos ⟨order, bound⟩

/-- A sub-slice that was read lay within the buffer. -/
theorem readSlice_eq_ok {buf part : Bytes}
    (ran : (readSlice buf start stop : Res ε Bytes) = .ok part) :
    start ≤ stop ∧ stop ≤ buf.length ∧ part = slice buf start (stop - start) := by
  unfold readSlice at ran
  split at ran
  · rename_i bounds
    exact ⟨bounds.1, bounds.2, (Except.ok.inj ran).symm⟩
  · cases ran

theorem readByte_of_getElem? {buf : Bytes} {index : Nat} {byte : UInt8}
    (found : buf[index]? = some byte) : (readByte buf index : Res ε UInt8) = .ok byte := by
  rw [readByte, found]

variable {off : Nat} {condition : Prop}

theorem u16At_of_le {buf : Bytes} (bound : off + 2 ≤ buf.length) :
    (u16At buf off : Res ε UInt16) = .ok (UInt16.ofNat (leNat (slice buf off 2))) := by
  rw [u16At, readSlice_of_le (by omega) bound, Nat.add_sub_cancel_left]
  rfl

theorem u32At_of_le {buf : Bytes} (bound : off + 4 ≤ buf.length) :
    (u32At buf off : Res ε UInt32) = .ok (UInt32.ofNat (leNat (slice buf off 4))) := by
  rw [u32At, readSlice_of_le (by omega) bound, Nat.add_sub_cancel_left]
  rfl

theorem u64At_of_le {buf : Bytes} (bound : off + 8 ≤ buf.length) :
    (u64At buf off : Res ε UInt64) = .ok (UInt64.ofNat (leNat (slice buf off 8))) := by
  rw [u64At, readSlice_of_le (by omega) bound, Nat.add_sub_cancel_left]
  rfl

/-! ### Ordinary endings -/

/-- A computation that ends in a value or in one of the allowed errors: it does not panic. -/
def Ordinary (allowed : ε → Prop) : Res ε α → Prop
  | .ok _ => True
  | .error (.err error) => allowed error
  | .error .panic => False
  | .error .fuel => False

section Ordinary

variable {allowed : ε → Prop}

/-- The rule of sequencing: the rest is only asked about what the first part returns. -/
theorem Ordinary.bind {first : Res ε α} {next : α → Res ε β} (ordinary : Ordinary allowed first)
    (rest : ∀ value, first = .ok value → Ordinary allowed (next value)) :
    Ordinary allowed (first >>= next) := by
  match first with
  | .ok value => exact rest value rfl
  | .error (.err _) => exact ordinary

variable {error : ε}

/-- The error a computation ended in is an allowed one. -/
theorem Ordinary.allowed_of_error {result : Res ε α} (ordinary : Ordinary allowed result)
    (failed : result = .error (.err error)) :
    allowed error := by
  rw [failed] at ordinary
  exact ordinary

section Allowed

variable (fine : allowed error)

include fine

theorem ordinary_rejectIf {condition : Prop} [Decidable condition] :
    Ordinary allowed (rejectIf condition error) := by
  unfold rejectIf
  split
  · exact fine
  · trivial

theorem ordinary_okOr {value : Option α} :
    Ordinary allowed (okOr value error) := by
  cases value with
  | some value => trivial
  | none => exact fine

/-- After a guard its condition is known to fail. -/
theorem Ordinary.guard {condition : Prop} [Decidable condition] {next : Unit → Res ε β}
    (rest : ¬ condition → Ordinary allowed (next ())) :
    Ordinary allowed (rejectIf condition error >>= next) :=
  (ordinary_rejectIf fine).bind fun _ passed => rest (rejectIf_eq_ok passed)

/-- After a checked sum the sum is known to fit. -/
theorem Ordinary.add {next : Nat → Res ε β}
    (rest : first + second ≤ usizeMax → Ordinary allowed (next (first + second))) :
    Ordinary allowed (okOr (checkedAdd first second) error >>= next) := by
  refine (ordinary_okOr fine).bind fun _ sum => ?_
  obtain ⟨rfl, small⟩ := checkedAdd_eq_some (okOr_eq_ok sum)
  exact rest small

/-- After a checked product the product is known to fit. -/
theorem Ordinary.mul {next : Nat → Res ε β}
    (rest : first * second ≤ usizeMax → Ordinary allowed (next (first * second))) :
    Ordinary allowed (okOr (checkedMul first second) error >>= next) := by
  refine (ordinary_okOr fine).bind fun _ product => ?_
  obtain ⟨rfl, small⟩ := checkedMul_eq_some (okOr_eq_ok product)
  exact rest small

end Allowed

variable {buf : Bytes}

/-- A sub-slice within the buffer does not panic. -/
theorem ordinary_readSlice {start stop : Nat} (order : start ≤ stop) (bound : stop ≤ buf.length) :
    Ordinary allowed (readSlice buf start stop) := by
  rw [readSlice_of_le order bound]
  trivial

theorem ordinary_u16At {off : Nat} (bound : off + 2 ≤ buf.length) :
    Ordinary allowed (u16At buf off) := by
  rw [u16At_of_le bound]
  trivial

theorem ordinary_u32At {off : Nat} (bound : off + 4 ≤ buf.length) :
    Ordinary allowed (u32At buf off) := by
  rw [u32At_of_le bound]
  trivial

theorem ordinary_u64At {off : Nat} (bound : off + 8 ≤ buf.length) :
    Ordinary allowed (u64At buf off) := by
  rw [u64At_of_le bound]
  trivial

/-- A loop is ordinary if its body is at every index it visits. -/
theorem ordinary_forFrom {body : Nat → α → Res ε α} {start count : Nat}
    (each : ∀ index value, start ≤ index → index < start + count →
      Ordinary allowed (body index value)) (value : α) :
    Ordinary allowed (forFrom body start count value) := by
  induction count generalizing start value with
  | zero => trivial
  | succ count ih =>
    refine (each start value (Nat.le_refl _) (by omega)).bind fun next _ => ?_
    exact ih (fun index value low high => each index value (by omega) (by omega)) next

/-- So is collecting what each index holds. -/
theorem ordinary_collectFrom {read : Nat → Res ε α} {start count : Nat}
    (each : ∀ index, Ordinary allowed (read index)) :
    Ordinary allowed (collectFrom read start count) := by
  induction count generalizing start with
  | zero => trivial
  | succ count ih =>
    exact (each start).bind fun _ _ => ih.bind fun _ _ => trivial

end Ordinary

/-! ### Words read back -/

theorem u16_leBytes (value : UInt16) : UInt16.ofNat (leNat (leBytes 2 value.toNat)) = value := by
  rw [leNat_leBytes_of_lt 2 _ value.toNat_lt, UInt16.ofNat_toNat]

/-- A `u32` is read back from its bytes. -/
theorem u32_leBytes (value : UInt32) : UInt32.ofNat (leNat (leBytes 4 value.toNat)) = value := by
  rw [leNat_leBytes_of_lt 4 _ value.toNat_lt, UInt32.ofNat_toNat]

theorem u64_leBytes (value : UInt64) : UInt64.ofNat (leNat (leBytes 8 value.toNat)) = value := by
  rw [leNat_leBytes_of_lt 8 _ value.toNat_lt, UInt64.ofNat_toNat]

/-- Reading back a number stored in four bytes cuts it to a `u32`. -/
theorem u32_ofNat_leBytes (value : Nat) :
    UInt32.ofNat (leNat (leBytes 4 value)) = UInt32.ofNat value := by
  rw [leNat_leBytes]
  exact UInt32.ofNat_mod_size

/-- Reading a word that is known to stand at the offset. -/
theorem u32At_split {item : Bytes} (before after : Bytes) {value : Nat}
    (split : item = before ++ leBytes 4 value ++ after) (start : off = before.length) :
    (u32At item off : Res ε UInt32) = .ok (UInt32.ofNat value) := by
  have bound : off + 4 ≤ item.length := by
    rw [split, List.length_append, List.length_append, length_leBytes]
    omega
  rw [u32At_of_le bound, split, slice_middle _ _ _ _ _ start (length_leBytes 4 value).symm,
    u32_ofNat_leBytes]

/-- Reading four words in a row. -/
theorem u32At_four {item before after : Bytes} {third fourth base : Nat}
    (split : item = before ++ (leBytes 4 first ++ leBytes 4 second ++ leBytes 4 third ++ leBytes 4
      fourth) ++ after)
    (start : base = before.length) : (u32At item base : Res ε UInt32) = .ok (UInt32.ofNat first) ∧
      (u32At item (base + 4) : Res ε UInt32) = .ok (UInt32.ofNat second) ∧
      (u32At item (base + 8) : Res ε UInt32) = .ok (UInt32.ofNat third) ∧
      (u32At item (base + 12) : Res ε UInt32) = .ok (UInt32.ofNat fourth) := by
  subst split start
  refine ⟨?_, ?_, ?_, ?_⟩
  · exact u32At_split before (leBytes 4 second ++ (leBytes 4 third ++ (leBytes 4 fourth ++ after)))
      (by simp only [List.append_assoc]) rfl
  · exact u32At_split (before ++ leBytes 4 first) (leBytes 4 third ++ (leBytes 4 fourth ++ after))
      (by simp only [List.append_assoc]) (by simp)
  · exact u32At_split (before ++ leBytes 4 first ++ leBytes 4 second) (leBytes 4 fourth ++ after)
      (by simp only [List.append_assoc]) (by simp)
  · exact u32At_split (before ++ leBytes 4 first ++ leBytes 4 second ++ leBytes 4 third) after
      (by simp only [List.append_assoc]) (by simp)

/-! ### Writes -/

/-- `buf[off..off + src.len()].copy_from_slice(src)`. -/
def write (off : Nat) (src : Bytes) : Prog ε Bytes Unit := fun buf =>
  if off + src.length ≤ buf.length then (.ok (), splice buf off src) else (.error .panic, buf)

/-- `buf[start..stop].fill(0)`. -/
def fillZero (start stop : Nat) : Prog ε Bytes Unit :=
  if start ≤ stop then write start (zeros (stop - start)) else Prog.stop .panic

/-- Store a `u16` at `off`. -/
def putU16 (off : Nat) (value : UInt16) : Prog ε Bytes Unit := write off (leBytes 2 value.toNat)

/-- Store a `u32` at `off`. -/
def putU32 (off : Nat) (value : UInt32) : Prog ε Bytes Unit := write off (leBytes 4 value.toNat)

/-- Store a `u64` at `off`. -/
def putU64 (off : Nat) (value : UInt64) : Prog ε Bytes Unit := write off (leBytes 8 value.toNat)

/-- `buf.copy_within(start..stop, dest)`. -/
def copyWithin (start stop dest : Nat) : Prog ε Bytes Unit := fun buf =>
  if start ≤ stop ∧ stop ≤ buf.length ∧ dest + (stop - start) ≤ buf.length then
    (.ok (), splice buf dest (slice buf start (stop - start)))
  else (.error .panic, buf)

/-- Run a program on `&mut buf[start..stop]`. -/
def onSlice (start stop : Nat) (program : Prog ε Bytes α) : Prog ε Bytes α := fun buf =>
  if start ≤ stop ∧ stop ≤ buf.length then
    let (result, part) := program.run (slice buf start (stop - start))
    (result, splice buf start part)
  else (.error .panic, buf)

variable {buf : Bytes}

/-- A write within the buffer replaces those bytes. -/
theorem run_write_of_le {src : Bytes} (bound : off + src.length ≤ buf.length) :
    (write off src : Prog ε Bytes Unit).run buf = (.ok (), splice buf off src) := if_pos bound

/-- A write right after the part written so far, followed by the rest of a sequence. -/
theorem run_bind_write {src written rest : Bytes} {next : Unit → Prog ε Bytes α}
    (start : off = written.length) (room : src.length ≤ rest.length) :
    ((write off src : Prog ε Bytes Unit) >>= next).run (written ++ rest) =
      (next ()).run ((written ++ src) ++ rest.drop src.length) := by
  rw [Prog.run_bind_ok (run_write_of_le (by rw [List.length_append]; omega)),
    splice_after written rest src off start]

/-- Storing a number that fits a `u32`. -/
theorem run_putU32_ofNat {value : Nat} (small : value < 2 ^ 32) (bound : off + 4 ≤ buf.length) :
    (putU32 off (UInt32.ofNat value) : Prog ε Bytes Unit).run buf =
      (.ok (), splice buf off (leBytes 4 value)) := by
  rw [putU32, UInt32.toNat_ofNat_of_lt' small]
  exact run_write_of_le (by rw [length_leBytes]; exact bound)

theorem run_fillZero_of_le (order : start ≤ stop) (bound : stop ≤ buf.length) :
    (fillZero start stop : Prog ε Bytes Unit).run buf =
      (.ok (), splice buf start (zeros (stop - start))) := by
  unfold fillZero
  rw [if_pos order]
  exact run_write_of_le (by rw [length_zeros]; omega)

/-- A guarded fill whose guard only skips the empty range. -/
theorem run_ite_fillZero [Decidable condition] (skipped : ¬ condition → start = stop)
    (order : start ≤ stop) (bound : stop ≤ buf.length) :
    (if condition then fillZero start stop else pure () : Prog ε Bytes Unit).run buf =
      (.ok (), splice buf start (zeros (stop - start))) := by
  by_cases taken : condition
  · rw [if_pos taken]
    exact run_fillZero_of_le order bound
  · rw [if_neg taken, skipped taken, Nat.sub_self, zeros_zero, splice_nil]
    rfl

/-- A copy within the buffer does not panic. -/
theorem run_copyWithin_of_le {dest : Nat} (order : start ≤ stop) (bound : stop ≤ buf.length)
    (room : dest + (stop - start) ≤ buf.length) :
    (copyWithin start stop dest : Prog ε Bytes Unit).run buf =
      (.ok (), splice buf dest (slice buf start (stop - start))) := if_pos ⟨order, bound, room⟩

variable {program : Prog ε Bytes α} {buf : Bytes}

/-- A program on a sub-slice of the buffer leaves what it made of the slice there. -/
theorem run_onSlice_of_le (order : start ≤ stop) (bound : stop ≤ buf.length) :
    (onSlice start stop program).run buf =
      ((program.run (slice buf start (stop - start))).1,
        splice buf start (program.run (slice buf start (stop - start))).2) :=
  if_pos ⟨order, bound⟩

/-- On a sub-slice, too, a program only returns such values. -/
theorem returns_onSlice {holds : α → Prop} (returns : program.Returns holds) :
    (onSlice start stop program).Returns holds := by
  intro buf value after ran
  by_cases bounds : start ≤ stop ∧ stop ≤ buf.length
  · rw [run_onSlice_of_le bounds.1 bounds.2] at ran
    exact returns _ value _ (Prod.ext (Prod.mk.inj ran).1 rfl)
  · rw [show (onSlice start stop program).run buf = (.error .panic, buf) from if_neg bounds] at ran
    cases ran

/-! ### Which bytes a program may change -/

/-- A program changes no byte outside `area` and keeps the length of its buffer, however it
ends. -/
def Touches (area : Nat → Prop) (program : Prog ε Bytes α) : Prop :=
  ∀ buf, (program.run buf).2.length = buf.length ∧
    ∀ index, ¬ area index → (program.run buf).2[index]? = buf[index]?

variable {area : Nat → Prop}

theorem touches_pure (value : α) : Touches area (pure value : Prog ε Bytes α) :=
  fun _ => ⟨rfl, fun _ _ => rfl⟩

theorem touches_stop (reason : Stop ε) : Touches area (Prog.stop reason : Prog ε Bytes α) :=
  fun _ => ⟨rfl, fun _ _ => rfl⟩

theorem touches_ofRes (result : Res ε α) : Touches area (Prog.ofRes result : Prog ε Bytes α) :=
  fun _ => ⟨rfl, fun _ _ => rfl⟩

theorem touches_get : Touches area (Prog.get : Prog ε Bytes Bytes) :=
  fun _ => ⟨rfl, fun _ _ => rfl⟩

/-- Two programs in sequence touch what both may touch. -/
theorem Touches.bind {next : α → Prog ε Bytes β} (first : Touches area program)
    (second : ∀ value, Touches area (next value)) : Touches area (program >>= next) := by
  intro buf
  obtain ⟨kept, same⟩ := first buf
  rw [Prog.run_bind]
  cases ran : program.run buf with
  | mk outcome after =>
    rw [ran] at kept same
    cases outcome with
    | ok value =>
      obtain ⟨keptNext, sameNext⟩ := second value after
      exact ⟨keptNext.trans kept,
        fun index outside => (sameNext index outside).trans (same index outside)⟩
    | error reason => exact ⟨kept, same⟩

theorem Touches.ite [Decidable condition] {first second : Prog ε Bytes α}
    (taken : Touches area first) (skipped : Touches area second) :
    Touches area (if condition then first else second) := by
  split
  · exact taken
  · exact skipped

/-- Replaced bytes leave the others alone. -/
theorem splice_outside {buf src : Bytes} {off : Nat} (bound : off + src.length ≤ buf.length)
    (inside : ∀ index, off ≤ index → index < off + src.length → area index) :
    (splice buf off src).length = buf.length ∧
      ∀ index, ¬ area index → (splice buf off src)[index]? = buf[index]? := by
  refine ⟨length_splice buf off src bound, fun index outside => ?_⟩
  have front : (buf.take off).length = off := by
    rw [List.length_take]
    omega
  unfold splice
  rcases Nat.lt_or_ge index off with before | late
  · rw [List.append_assoc, List.getElem?_append_left (by omega), List.getElem?_take_of_lt before]
  · have after := not_lt.mp fun early => outside (inside index late early)
    rw [List.getElem?_append_right (by rw [List.length_append]; omega), List.getElem?_drop,
      List.length_append, front]
    congr 1
    omega

/-- A write touches the bytes it writes. -/
theorem touches_write (off : Nat) (src : Bytes)
    (inside : ∀ index, off ≤ index → index < off + src.length → area index) :
    Touches area (write off src : Prog ε Bytes Unit) := by
  intro buf
  simp only [Prog.run, write]
  split
  · exact splice_outside (by assumption) inside
  · exact ⟨rfl, fun _ _ => rfl⟩

theorem touches_write_any (off : Nat) (src : Bytes) :
    Touches (fun _ => True) (write off src : Prog ε Bytes Unit) :=
  touches_write off src fun _ _ _ => trivial

theorem touches_fillZero (start stop : Nat)
    (inside : ∀ index, start ≤ index → index < stop → area index) :
    Touches area (fillZero start stop : Prog ε Bytes Unit) := by
  unfold fillZero
  split
  · rename_i order
    refine touches_write _ _ fun index low high => inside index low ?_
    rw [length_zeros] at high
    omega
  · exact touches_stop _

/-- A copy touches its destination only. -/
theorem touches_copyWithin (start stop dest : Nat)
    (inside : ∀ index, dest ≤ index → index < dest + (stop - start) → area index) :
    Touches area (copyWithin start stop dest : Prog ε Bytes Unit) := by
  intro buf
  simp only [Prog.run, copyWithin]
  split
  · rename_i bounds
    have size : (slice buf start (stop - start)).length = stop - start :=
      length_slice _ _ _ (by omega)
    exact splice_outside (by omega) fun index low high => inside index low (by omega)
  · exact ⟨rfl, fun _ _ => rfl⟩

/-- A program on a sub-slice touches at most that slice. -/
theorem touches_onSlice {part : Nat → Prop} (start stop : Nat) (program : Prog ε Bytes α)
    (inner : Touches part program) (inside : ∀ index, start ≤ index → index < stop → area index) :
    Touches area (onSlice start stop program) := by
  intro buf
  by_cases bounds : start ≤ stop ∧ stop ≤ buf.length
  · have size : (program.run (slice buf start (stop - start))).2.length = stop - start := by
      rw [(inner _).1, length_slice _ _ _ (by omega)]
    rw [run_onSlice_of_le bounds.1 bounds.2]
    exact splice_outside (by omega) fun index low high => inside index low (by omega)
  · rw [show (onSlice start stop program).run buf = (.error .panic, buf) from if_neg bounds]
    exact ⟨rfl, fun _ _ => rfl⟩

/-- Whatever a program does, it keeps the length of its buffer. -/
theorem Touches.length (touches : Touches area program) (buf : Bytes) :
    (program.run buf).2.length = buf.length := (touches buf).1

/-- A program that writes to its buffer and looks at nothing of it but the length. -/
inductive Writer : {α : Type} → Prog ε Bytes α → Prop
  | ofRes {α : Type} (result : Res ε α) : Writer (Prog.ofRes result)
  | write (off : Nat) (src : Bytes) : Writer (write off src)
  | onSlice {α : Type} (start stop : Nat) {program : Prog ε Bytes α} (inner : Writer program) :
      Writer (onSlice start stop program)
  | bind {α β : Type} {program : Prog ε Bytes α} {next : α → Prog ε Bytes β}
      (first : Writer program) (second : ∀ value, Writer (next value)) : Writer (program >>= next)
  | measured {α : Type} {next : Nat → Prog ε Bytes α} (each : ∀ length, Writer (next length)) :
      Writer (Prog.get >>= fun buf => next buf.length)

namespace Writer

theorem pure (value : α) : Writer (pure value : Prog ε Bytes α) := ofRes (.ok value)

theorem fillZero (start stop : Nat) : Writer (fillZero start stop : Prog ε Bytes Unit) := by
  unfold NetIpc.fillZero
  split
  · exact write _ _
  · exact ofRes (.error .panic)

variable {program : Prog ε Bytes α}

/-- Clearing the whole buffer first. -/
theorem zeroed (writer : Writer program) : Writer (do
      let buf ← Prog.get
      NetIpc.fillZero 0 buf.length
      program) :=
  @measured ε α (fun length => NetIpc.fillZero 0 length >>= fun _ => program) fun length =>
    (fillZero 0 length).bind fun _ => writer

/-- A writer keeps the length of its buffer. -/
theorem touches (writer : Writer program) : Touches (fun _ => True) program := by
  induction writer with
  | ofRes result => exact touches_ofRes result
  | write off src => exact touches_write_any off src
  | onSlice start stop _ inner => exact touches_onSlice _ _ _ inner fun _ _ _ => trivial
  | bind _ _ first second => exact first.bind second
  | measured _ each => exact touches_get.bind fun buf => each buf.length

end Writer

end NetIpc
