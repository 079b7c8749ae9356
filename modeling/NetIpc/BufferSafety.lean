/-
This file is a small logic for programs that must not panic.

`CalmAt invariant program state` says of one run that it ends in a value or in an
error and that the state it leaves has the invariant again. The rules follow the
programs: a check hands what it checked to the rest, a read of the state hands on
the state itself.

An index or a slice outside a byte buffer is a panic, so whether a writer panics
depends on the length of its buffer and on nothing else about it. `Safe size` says
that a program is calm from every buffer of `size` bytes and leaves a buffer of that
size; a read or a write asks for its bounds, a loop for each of its passes.
-/

import NetIpc.Access

namespace NetIpc

variable {ε σ α β : Type}

/-! ### One run -/

/-- The run ends in a value or an error, and its last state has the invariant. -/
def CalmAt (invariant : σ → Prop) (program : Prog ε σ α) (state : σ) : Prop :=
  Ordinary (fun _ => True) (program.run state).1 ∧ invariant (program.run state).2

section Runs

variable {invariant : σ → Prop} {state : σ}

theorem calmAt_pure (value : α) (kept : invariant state) :
    CalmAt invariant (pure value : Prog ε σ α) state := ⟨trivial, kept⟩

theorem calmAt_fail (error : ε) (kept : invariant state) :
    CalmAt invariant (Prog.fail error : Prog ε σ α) state := ⟨trivial, kept⟩

theorem calmAt_ofRes {result : Res ε α} (ordinary : Ordinary (fun _ => True) result)
    (kept : invariant state) : CalmAt invariant (Prog.ofRes result) state := ⟨ordinary, kept⟩

theorem calmAt_modify {change : σ → σ} (kept : invariant (change state)) :
    CalmAt invariant (Prog.modify change : Prog ε σ Unit) state := ⟨trivial, kept⟩

variable {program : Prog ε σ α} {next : α → Prog ε σ β}

/-- The second program runs from what the first one left. -/
theorem CalmAt.bind (first : CalmAt invariant program state)
    (second : ∀ value after, program.run state = (.ok value, after) → CalmAt invariant (next value)
      after) :
    CalmAt invariant (program >>= next) state := by
  obtain ⟨ordinary, kept⟩ := first
  rw [CalmAt, Prog.run_bind]
  match ran : program.run state with
  | (.ok value, after) => exact second value after ran
  | (.error (.err error), after) =>
    rw [ran] at kept
    exact ⟨trivial, kept⟩
  | (.error .panic, after) =>
    rw [ran] at ordinary
    exact ordinary.elim
  | (.error .fuel, after) =>
    rw [ran] at ordinary
    exact ordinary.elim

/-- A sequence whose second part needs the invariant only. -/
theorem CalmAt.follow (first : CalmAt invariant program state)
    (second : ∀ value after, invariant after → CalmAt invariant (next value) after) :
    CalmAt invariant (program >>= next) state := by
  refine first.bind fun value after ran => second value after ?_
  have kept := first.2
  rwa [ran] at kept

/-- A check hands on what it found. -/
theorem calmAt_ofRes_bind {result : Res ε α} (ordinary : Ordinary (fun _ => True) result)
    (kept : invariant state)
    (rest : ∀ value, result = .ok value → CalmAt invariant (next value) state) :
    CalmAt invariant (Prog.ofRes result >>= next) state := by
  refine CalmAt.bind (calmAt_ofRes ordinary kept) fun value after ran => ?_
  cases ran
  exact rest value rfl

theorem calmAt_get_bind {next : σ → Prog ε σ β} (rest : CalmAt invariant (next state) state) :
    CalmAt invariant (Prog.get >>= next) state := rest

theorem CalmAt.ite {condition : Prop} [Decidable condition] {first second : Prog ε σ α}
    (taken : condition → CalmAt invariant first state)
    (skipped : ¬ condition → CalmAt invariant second state) :
    CalmAt invariant (if condition then first else second) state := by
  by_cases holds : condition
  · rw [if_pos holds]
    exact taken holds
  · rw [if_neg holds]
    exact skipped holds

/-- A program that looks at how another one ended. -/
theorem CalmAt.inspect {next : Res ε α → Prog ε σ β} (first : CalmAt invariant program state)
    (second : ∀ result after, Ordinary (fun _ => True) result → program.run state = (result, after)
      → invariant after → CalmAt invariant (next result) after) :
    CalmAt invariant (Prog.inspect program next) state := by
  rw [CalmAt, Prog.run_inspect]
  exact second _ _ first.1 rfl first.2

end Runs

/-! ### Byte buffers -/

variable {size : Nat}

/-- From every buffer of this size the program ends in a value or an error, and the buffer keeps
its size. -/
def Safe (size : Nat) (program : Prog ε Bytes α) : Prop :=
  ∀ buf : Bytes, buf.length = size → CalmAt (fun after => after.length = size) program buf

theorem safe_pure (value : α) : Safe size (pure value : Prog ε Bytes α) :=
  fun _ length => calmAt_pure value length

theorem safe_ofRes {result : Res ε α} (ordinary : Ordinary (fun _ => True) result) :
    Safe size (Prog.ofRes result) :=
  fun _ length => calmAt_ofRes ordinary length

/-- Two safe programs in sequence. -/
theorem Safe.bind {program : Prog ε Bytes α} {next : α → Prog ε Bytes β}
    (first : Safe size program) (second : ∀ value, Safe size (next value)) :
    Safe size (program >>= next) := by
  intro buf length
  exact (first buf length).follow fun value after kept => second value after kept

/-- A computation before a safe program. -/
theorem safe_ofRes_bind {result : Res ε α} {next : α → Prog ε Bytes β}
    (ordinary : Ordinary (fun _ => True) result)
    (rest : ∀ value, result = .ok value → Safe size (next value)) :
    Safe size (Prog.ofRes result >>= next) :=
  fun buf length => calmAt_ofRes_bind ordinary length fun value found => rest value found buf length

theorem safe_get_bind {next : Bytes → Prog ε Bytes β}
    (rest : ∀ buf : Bytes, buf.length = size → Safe size (next buf)) :
    Safe size (Prog.get >>= next) :=
  fun buf length => calmAt_get_bind (rest buf length buf length)

theorem Safe.ite {condition : Prop} [Decidable condition] {first second : Prog ε Bytes α}
    (taken : condition → Safe size first) (skipped : ¬ condition → Safe size second) :
    Safe size (if condition then first else second) :=
  fun buf length => CalmAt.ite (fun holds => taken holds buf length) fun fails =>
    skipped fails buf length

variable {off start stop : Nat}

/-- A write that ends inside the buffer. -/
theorem safe_write {src : Bytes} (bound : off + src.length ≤ size) :
    Safe size (write off src : Prog ε Bytes Unit) := by
  intro buf length
  rw [CalmAt, run_write_of_le (by omega)]
  exact ⟨trivial, (length_splice buf off src (by omega)).trans length⟩

theorem safe_putU16 {value : UInt16} (bound : off + 2 ≤ size) :
    Safe size (putU16 off value : Prog ε Bytes Unit) :=
  safe_write (by rw [length_leBytes]; exact bound)

theorem safe_putU32 {value : UInt32} (bound : off + 4 ≤ size) :
    Safe size (putU32 off value : Prog ε Bytes Unit) :=
  safe_write (by rw [length_leBytes]; exact bound)

theorem safe_putU64 {value : UInt64} (bound : off + 8 ≤ size) :
    Safe size (putU64 off value : Prog ε Bytes Unit) :=
  safe_write (by rw [length_leBytes]; exact bound)

theorem safe_fillZero (order : start ≤ stop) (bound : stop ≤ size) :
    Safe size (fillZero start stop : Prog ε Bytes Unit) := by
  unfold fillZero
  rw [if_pos order]
  exact safe_write (by rw [length_zeros]; omega)

/-- A copy between two places inside the buffer. -/
theorem safe_copyWithin {dest : Nat} (order : start ≤ stop) (bound : stop ≤ size)
    (room : dest + (stop - start) ≤ size) :
    Safe size (copyWithin start stop dest : Prog ε Bytes Unit) := by
  intro buf length
  have part : (slice buf start (stop - start)).length = stop - start :=
    length_slice _ _ _ (by omega)
  rw [CalmAt, run_copyWithin_of_le order (by omega) (by omega)]
  exact ⟨trivial, (length_splice _ _ _ (by omega)).trans length⟩

/-- A program that is safe on a buffer of the slice's size is safe on the slice. -/
theorem safe_onSlice {program : Prog ε Bytes α} (inner : Safe (stop - start) program)
    (order : start ≤ stop) (bound : stop ≤ size) :
    Safe size (onSlice start stop program) := by
  intro buf length
  obtain ⟨ordinary, kept⟩ := inner (slice buf start (stop - start)) (length_slice _ _ _ (by omega))
  rw [CalmAt, run_onSlice_of_le order (by omega)]
  exact ⟨ordinary, (length_splice _ _ _ (by omega)).trans length⟩

/-- A loop whose passes are safe at every index it visits. -/
theorem safe_forRange {body : Nat → Prog ε Bytes Unit} {count : Nat}
    (each : ∀ index, start ≤ index → index < start + count → Safe size (body index)) :
    Safe size (Prog.forRange body start count) := by
  induction count generalizing start with
  | zero => exact safe_pure ()
  | succ count ih =>
    exact (each start (Nat.le_refl _) (by omega)).bind fun _ =>
      ih fun index low high => each index (by omega) (by omega)

end NetIpc
