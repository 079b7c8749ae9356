/-
This file is the program library: imperative code with a mutable state, error
returns, panics and unbounded loops, as a state-passing function.

A run ends with a value or stops early, and the state it ends in is kept in both
cases, because code that returns an error may already have written. Stopping
early is one of three things: an error the code returns, a panic (an index out of
range, a failed `unwrap`), or a loop whose fuel ran out, which stands for a run
that has not ended yet. The rules follow: how a sequence runs, what a successful
sequence ran through, and how an invariant carries over a loop.
-/

import Mathlib.Data.Nat.Basic

namespace NetIpc

/-- Why a run stopped before producing a value. -/
inductive Stop (ε : Type) where
  | err (error : ε)
  | panic
  | fuel
  deriving Repr, DecidableEq

/-- A fallible computation without state. -/
abbrev Res (ε α : Type) := Except (Stop ε) α

/-- `map_err`: translate the error a computation returns. -/
def mapError {ε δ α : Type} (translate : ε → δ) : Res ε α → Res δ α
  | .ok value => .ok value
  | .error (.err error) => .error (.err (translate error))
  | .error .panic => .error .panic
  | .error .fuel => .error .fuel

theorem mapError_eq_ok {ε δ α : Type} {translate : ε → δ} {result : Res ε α} {value : α}
    (mapped : mapError translate result = .ok value) : result = .ok value := by
  cases result with
  | ok other => exact congrArg _ (Except.ok.inj mapped)
  | error reason => cases reason <;> cases mapped

/-- A program on the state `σ`. -/
def Prog (ε σ α : Type) := σ → Res ε α × σ

namespace Prog

variable {ε σ τ α β : Type}

/-- Run a program from a state. -/
def run (program : Prog ε σ α) (state : σ) : Res ε α × σ := program state

instance : Monad (Prog ε σ) where
  pure value := fun state => (.ok value, state)
  bind program next := fun state =>
    match program state with
    | (.ok value, after) => next value after
    | (.error stop, after) => (.error stop, after)

/-- Read the state. -/
def get : Prog ε σ σ := fun state => (.ok state, state)

/-- Change the state. -/
def modify (change : σ → σ) : Prog ε σ Unit := fun state => (.ok (), change state)

/-- Stop. -/
def stop (reason : Stop ε) : Prog ε σ α := fun state => (.error reason, state)

/-- Return an error. -/
def fail (error : ε) : Prog ε σ α := stop (.err error)

/-- A computation that does not touch the state. -/
def ofRes (result : Res ε α) : Prog ε σ α := fun state => (result, state)

/-- Look at how a program ended before going on, whatever the ending. -/
def inspect (program : Prog ε σ α) (next : Res ε α → Prog ε σ β) : Prog ε σ β := fun state =>
  let (result, after) := program state
  next result after

/-- Run a program on one part of the state. -/
def zoom (part : σ → τ) (put : τ → σ → σ) (program : Prog ε τ α) : Prog ε σ α := fun state =>
  let (result, after) := program (part state)
  (result, put after state)

/-- `loop { .. }`: `inl` continues with new loop variables, `inr` leaves the loop. -/
def loop (body : α → Prog ε σ (α ⊕ β)) : Nat → α → Prog ε σ β
  | 0, _ => stop .fuel
  | fuel + 1, value => do
    match ← body value with
    | .inl value => loop body fuel value
    | .inr result => pure result

/-- `for i in start..start + count { .. }`. -/
def forRange (body : Nat → Prog ε σ Unit) : Nat → Nat → Prog ε σ Unit
  | _, 0 => pure ()
  | start, count + 1 => do
    body start
    forRange body (start + 1) count

/-! ### Running each form -/

@[simp] theorem run_pure (value : α) (state : σ) :
    (pure value : Prog ε σ α).run state = (.ok value, state) := rfl

@[simp] theorem run_get (state : σ) : (get : Prog ε σ σ).run state = (.ok state, state) := rfl

@[simp] theorem run_modify (change : σ → σ) (state : σ) :
    (modify change : Prog ε σ Unit).run state = (.ok (), change state) := rfl

@[simp] theorem run_stop (reason : Stop ε) (state : σ) :
    (stop reason : Prog ε σ α).run state = (.error reason, state) := rfl

@[simp] theorem run_fail (error : ε) (state : σ) :
    (fail error : Prog ε σ α).run state = (.error (.err error), state) := rfl

@[simp] theorem run_ofRes (result : Res ε α) (state : σ) :
    (ofRes result : Prog ε σ α).run state = (result, state) := rfl

@[simp] theorem run_inspect (program : Prog ε σ α) (next : Res ε α → Prog ε σ β) (state : σ) :
    (inspect program next).run state =
      (next (program.run state).1).run (program.run state).2 := rfl

@[simp] theorem run_zoom (part : σ → τ) (put : τ → σ → σ) (program : Prog ε τ α) (state : σ) :
    (zoom part put program : Prog ε σ α).run state =
      ((program.run (part state)).1, put (program.run (part state)).2 state) := rfl

theorem run_bind (program : Prog ε σ α) (next : α → Prog ε σ β) (state : σ) :
    (program >>= next).run state =
      match program.run state with
      | (.ok value, after) => (next value).run after
      | (.error reason, after) => (.error reason, after) := rfl

variable {program : Prog ε σ α}

/-- A run whose result is known. -/
theorem run_of_fst {state : σ} {result : Res ε α} (ran : (program.run state).1 = result) :
    program.run state = (result, (program.run state).2) := by
  rw [← ran]

variable {next : α → Prog ε σ β}

variable {state : σ} {value : α} {result : β}

/-- The first program of a sequence succeeds: go on from where it ended. -/
theorem run_bind_ok {after : σ} (ran : program.run state = (.ok value, after)) :
    (program >>= next).run state = (next value).run after := by
  rw [run_bind, ran]

/-- The first program of a sequence stops: so does the sequence. -/
theorem run_bind_error {after : σ} {reason : Stop ε}
    (ran : program.run state = (.error reason, after)) :
    (program >>= next).run state = (.error reason, after) := by
  rw [run_bind, ran]

/-- What a successful sequence ran through. -/
theorem run_bind_eq_ok {final : σ} (ran : (program >>= next).run state = (.ok result, final)) :
    ∃ value after, program.run state = (.ok value, after) ∧
      (next value).run after = (.ok result, final) := by
  rw [run_bind] at ran
  cases first : program.run state with
  | mk outcome after =>
    rw [first] at ran
    cases outcome with
    | ok value => exact ⟨value, after, rfl, ran⟩
    | error reason => simp at ran

/-- A program that returns the first of two values. -/
theorem run_bind_fst_eq_ok {program : Prog ε σ (α × β)} {final : σ} :
    (program >>= fun both => pure both.1).run state = (.ok value, final) ↔
      ∃ rest, program.run state = (.ok (value, rest), final) := by
  constructor
  · intro ran
    obtain ⟨⟨first, rest⟩, after, ran, done⟩ := run_bind_eq_ok ran
    cases done
    exact ⟨rest, ran⟩
  · rintro ⟨rest, ran⟩
    rw [run_bind_ok ran]
    rfl

/-- A sequence of two runs whose final states are only known by a property. -/
theorem run_bind_of_exists {between post : σ → Prop}
    (first : ∃ after, program.run state = (.ok value, after) ∧ between after)
    (rest : ∀ after, between after → ∃ final, (next value).run after = (.ok result, final) ∧ post
      final) :
    ∃ final, (program >>= next).run state = (.ok result, final) ∧ post final := by
  obtain ⟨after, ran, held⟩ := first
  rw [run_bind_ok ran]
  exact rest after held

@[simp] theorem ofRes_ok_bind (value : α) (next : α → Prog ε σ β) :
    (ofRes (.ok value) : Prog ε σ α) >>= next = next value := rfl

@[simp] theorem ofRes_error_bind (reason : Stop ε) (next : α → Prog ε σ β) :
    (ofRes (.error reason) : Prog ε σ α) >>= next = stop reason := rfl

/-- A successful sequence that starts with a stateless computation. -/
theorem run_ofRes_bind_eq_ok {first : Res ε α} {final : σ}
    (ran : (ofRes first >>= next).run state = (.ok result, final)) :
    ∃ value, first = .ok value ∧ (next value).run state = (.ok result, final) := by
  cases first with
  | ok value => exact ⟨value, rfl, ran⟩
  | error reason => cases ran

/-- A loop whose state is known before every pass. -/
theorem run_forRange (body : Nat → Prog ε σ Unit) (state : Nat → σ) (start count : Nat)
    (step : ∀ index, start ≤ index → index < start + count →
      (body index).run (state index) = (.ok (), state (index + 1))) :
    (forRange body start count).run (state start) = (.ok (), state (start + count)) := by
  induction count generalizing start with
  | zero => rfl
  | succ count ih =>
    rw [forRange, run_bind_ok (step start (le_refl _) (by omega)),
      ih (start + 1) fun index low high => step index (by omega) (by omega),
      Nat.add_assoc, Nat.add_comm 1 count]

/-- Every value a program returns satisfies `holds`. -/
def Returns (holds : α → Prop) (program : Prog ε σ α) : Prop :=
  ∀ state value after, program.run state = (.ok value, after) → holds value

theorem returns_pure {holds : α → Prop} (held : holds value) :
    Returns holds (pure value : Prog ε σ α) := by
  intro state result after ran
  cases ran
  exact held

/-- What a sequence returns is what its last program returns. -/
theorem Returns.bind {holds : β → Prop} (last : ∀ value, Returns holds (next value)) :
    Returns holds (program >>= next) := by
  intro state result final ran
  obtain ⟨value, after, -, rest⟩ := run_bind_eq_ok ran
  exact last value after result final rest

instance : LawfulMonad (Prog ε σ) := LawfulMonad.mk' _
  (fun program => by
    funext state
    show (program >>= fun value => pure value).run state = program.run state
    rw [run_bind]
    cases program.run state with
    | mk outcome after => cases outcome <;> rfl)
  (fun _ _ => rfl)
  (fun first second third => by
    funext state
    show ((first >>= second) >>= third).run state =
      (first >>= fun value => second value >>= third).run state
    rw [run_bind, run_bind, run_bind]
    cases first.run state with
    | mk outcome after => cases outcome <;> rfl)

end Prog

/-! ### Counted loops -/

section Loops

variable {ε α : Type}

/-- `for i in start..start + count`, with the variables the body changes. -/
def forFrom (body : Nat → α → Res ε α) : Nat → Nat → α → Res ε α
  | _, 0, value => .ok value
  | start, count + 1, value => do
    let value ← body start value
    forFrom body (start + 1) count value

/-- A loop whose variables have a known value before every pass. -/
theorem forFrom_of_step (body : Nat → α → Res ε α) (value : Nat → α) (start count : Nat)
    (step : ∀ index, start ≤ index → index < start + count →
      body index (value index) = .ok (value (index + 1))) :
    forFrom body start count (value start) = .ok (value (start + count)) := by
  induction count generalizing start with
  | zero => rfl
  | succ count ih =>
    simp only [forFrom]
    rw [step start (le_refl _) (by omega)]
    show forFrom body (start + 1) count (value (start + 1)) = _
    rw [ih (start + 1) fun index low high => step index (by omega) (by omega),
      Nat.add_assoc, Nat.add_comm 1 count]

/-- Every pass of a loop that ran to its end did. -/
theorem forFrom_eq_ok {body : Nat → α → Res ε α} {start count : Nat} {value result : α}
    (ran : forFrom body start count value = .ok result) (index : Nat) (low : start ≤ index)
    (high : index < start + count) : ∃ before after, body index before = .ok after := by
  induction count generalizing start value with
  | zero => omega
  | succ count ih =>
    rw [forFrom] at ran
    cases first : body start value with
    | error reason =>
      rw [first] at ran
      cases ran
    | ok next =>
      rw [first] at ran
      by_cases same : index = start
      · exact ⟨value, next, by rw [same, first]⟩
      · exact ih ran (by omega) (by omega)

/-- A loop without variables runs to its end exactly when every pass does. -/
theorem forFrom_unit_eq_ok (body : Nat → Unit → Res ε Unit) (start count : Nat) :
    forFrom body start count () = .ok () ↔
      ∀ index, start ≤ index → index < start + count → body index () = .ok () := by
  induction count generalizing start with
  | zero =>
    refine ⟨fun _ index low high => ?_, fun _ => rfl⟩
    omega
  | succ count ih =>
    simp only [forFrom]
    constructor
    · intro ran index low high
      cases first : body start () with
      | ok value =>
        rw [first] at ran
        by_cases same : index = start
        · rw [same, first]
        · exact (ih (start + 1)).mp ran index (by omega) (by omega)
      | error reason =>
        rw [first] at ran
        cases ran
    · intro each
      rw [each start (le_refl _) (by omega)]
      exact (ih (start + 1)).mpr fun index low high =>
        each index (by omega) (by omega)

/-- `for i in start..start + count`, pushing one value a pass. -/
def collectFrom (read : Nat → Res ε α) : Nat → Nat → Res ε (List α)
  | _, 0 => .ok []
  | start, count + 1 => do
    let value ← read start
    let rest ← collectFrom read (start + 1) count
    return value :: rest

theorem collectFrom_of_getElem? (read : Nat → Res ε α) (start : Nat) (values : List α)
    (each : ∀ index value, values[index]? = some value → read (start + index) = .ok value) :
    collectFrom read start values.length = .ok values := by
  induction values generalizing start with
  | nil => rfl
  | cons value rest ih =>
    simp only [List.length_cons, collectFrom]
    rw [show read start = .ok value from each 0 value rfl,
      ih (start + 1) fun index other found => by
        rw [Nat.add_right_comm]
        exact each (index + 1) other found]
    rfl

end Loops

end NetIpc
