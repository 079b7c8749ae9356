/-
This file is the program logic of the program library: what holds when a program
returns a value, and what holds when it returns an error.

`Triple pre program post blame` reads: from a state with `pre`, a value comes with
`post` and an error with `blame`. A run that panics or has not ended is not
constrained, so a triple is a safety statement. There is one rule for each form a
program is built from; the rule for loops asks for an invariant that one pass
keeps. `Keeps view program` is the frame half of the logic: the part of the state
that `view` shows is the same after every run, however the run ends. `Always` is
the logic for what has to hold at every ending, `Exits` the one that also sees why
a run ended early. `Agrees` compares two programs from the states with a
precondition. `Finishes program` is the termination half: no run is left waiting for
more fuel.
-/

import NetIpc.Prog

namespace NetIpc

variable {ε σ τ α β : Type}

/-! ### Every ending -/

/-- From a state with `pre` a value comes with `post`, and every other ending with `stopped`, which
sees why the run stopped. -/
def Exits (pre : σ → Prop) (program : Prog ε σ α) (post : α → σ → Prop)
    (stopped : Stop ε → σ → Prop) : Prop :=
  ∀ state, pre state →
    match program.run state with
    | (.ok value, after) => post value after
    | (.error reason, after) => stopped reason after

namespace Exits

variable {pre : σ → Prop} {post : α → σ → Prop} {stopped : Stop ε → σ → Prop}
  {program : Prog ε σ α}

/-- The rule of consequence. -/
theorem mono {pre' : σ → Prop} {post' : α → σ → Prop} {stopped' : Stop ε → σ → Prop}
    (exits : Exits pre program post stopped) (stronger : ∀ state, pre' state → pre state)
    (weaker : ∀ value after, post value after → post' value after)
    (milder : ∀ reason after, stopped reason after → stopped' reason after) :
    Exits pre' program post' stopped' := by
  intro state start
  have ends := exits state (stronger state start)
  match ran : program.run state with
  | (.ok value, after) =>
    rw [ran] at ends
    exact weaker value after ends
  | (.error reason, after) =>
    rw [ran] at ends
    exact milder reason after ends

/-- A precondition that names a value. -/
theorem of_exists {ι : Type} {pre : ι → σ → Prop}
    (each : ∀ value, Exits (pre value) program post stopped) :
    Exits (fun state => ∃ value, pre value state) program post stopped :=
  fun state ⟨value, start⟩ => each value state start

/-- A part of the precondition that is not about the state. -/
theorem of_and {fact : Prop} (held : fact → Exits pre program post stopped) :
    Exits (fun state => fact ∧ pre state) program post stopped :=
  fun state ⟨known, start⟩ => held known state start

/-- Two statements about one program. -/
theorem conj {pre' : σ → Prop} {post' : α → σ → Prop} {stopped' : Stop ε → σ → Prop}
    (first : Exits pre program post stopped) (second : Exits pre' program post' stopped') :
    Exits (fun state => pre state ∧ pre' state) program
      (fun value after => post value after ∧ post' value after)
      fun reason after => stopped reason after ∧ stopped' reason after := by
  intro state start
  have one := first state start.1
  have two := second state start.2
  match ran : program.run state with
  | (.ok _, _) | (.error _, _) =>
    rw [ran] at one two
    exact ⟨one, two⟩

protected theorem pure (value : α) (held : ∀ state, pre state → post value state) :
    Exits pre (pure value : Prog ε σ α) post stopped := held

protected theorem modify {post : Unit → σ → Prop} (change : σ → σ)
    (held : ∀ state, pre state → post () (change state)) :
    Exits pre (Prog.modify change : Prog ε σ Unit) post stopped := held

protected theorem stop (reason : Stop ε) (held : ∀ state, pre state → stopped reason state) :
    Exits pre (Prog.stop reason) post stopped := held

protected theorem ofRes (result : Res ε α)
    (returned : ∀ state value, pre state → result = .ok value → post value state)
    (halted : ∀ state reason, pre state → result = .error reason → stopped reason state) :
    Exits pre (Prog.ofRes result) post stopped := by
  intro state start
  match result with
  | .ok value => exact returned state value start rfl
  | .error reason => exact halted state reason start rfl

/-- A sequence, with what holds between its two programs spelled out. -/
protected theorem via (mid : α → σ → Prop) {post : β → σ → Prop} {next : α → Prog ε σ β}
    (first : Exits pre program mid stopped)
    (rest : ∀ value, Exits (mid value) (next value) post stopped) :
    Exits pre (program >>= next) post stopped := by
  intro state start
  have ends := first state start
  rw [Prog.run_bind]
  match ran : program.run state with
  | (.ok value, after) =>
    rw [ran] at ends
    exact rest value after ends
  | (.error _, after) =>
    rw [ran] at ends
    exact ends

protected theorem bind {mid : α → σ → Prop} {post : β → σ → Prop} {next : α → Prog ε σ β}
    (first : Exits pre program mid stopped)
    (rest : ∀ value, Exits (mid value) (next value) post stopped) :
    Exits pre (program >>= next) post stopped := Exits.via mid first rest

protected theorem ite {condition : Prop} [Decidable condition] {other : Prog ε σ α}
    (taken : condition → Exits pre program post stopped)
    (skipped : ¬ condition → Exits pre other post stopped) :
    Exits pre (if condition then program else other) post stopped := by
  split
  · exact taken ‹_›
  · exact skipped ‹_›

/-- A loop whose passes lower a rank does not run out of fuel, and keeps what one pass keeps. -/
protected theorem loop {body : α → Prog ε σ (α ⊕ β)} {post : β → σ → Prop}
    (invariant : α → σ → Prop) (rank : α → Nat)
    (step : ∀ value, Exits (invariant value) (body value)
      (fun result after => result.elim (fun next => invariant next after ∧ rank next < rank value)
        (fun value => post value after)) stopped) (fuel : Nat) (value : α)
    (enough : rank value < fuel) :
    Exits (invariant value) (Prog.loop body fuel value) post stopped := by
  induction fuel generalizing value with
  | zero => exact absurd enough (Nat.not_lt_zero _)
  | succ fuel ih =>
    refine Exits.via _ (step value) fun result => ?_
    cases result with
    | inl next =>
      intro state ⟨held, lower⟩
      exact ih next (by omega) state held
    | inr value => exact Exits.pure value fun _ held => held

/-- A loop keeps what one pass keeps, and has it when it is stopped between two passes. -/
protected theorem loop_or_fuel {body : α → Prog ε σ (α ⊕ β)} {post : β → σ → Prop}
    (invariant : α → σ → Prop)
    (step : ∀ value, Exits (invariant value) (body value)
      (fun result after => result.elim (fun value => invariant value after)
        (fun value => post value after)) stopped)
    (halted : ∀ value state, invariant value state → stopped .fuel state) (fuel : Nat)
    (value : α) : Exits (invariant value) (Prog.loop body fuel value) post stopped := by
  induction fuel generalizing value with
  | zero => exact Exits.stop _ (halted value)
  | succ fuel ih =>
    refine Exits.via _ (step value) fun result => ?_
    cases result with
    | inl value => exact ih value
    | inr value => exact Exits.pure value fun _ held => held

end Exits

/-! ### Values and errors -/

/-- What a triple says about an early ending: nothing unless it is an error. -/
def Blames (blame : ε → σ → Prop) : Stop ε → σ → Prop
  | .err error => blame error
  | .panic | .fuel => fun _ => True

theorem Blames.of_forall {blame : ε → σ → Prop} {reason : Stop ε} {after : σ}
    (held : ∀ error, reason = .err error → blame error after) : Blames blame reason after := by
  cases reason with
  | err error => exact held error rfl
  | panic | fuel => trivial

/-- From a state with `pre` the program returns a value with `post` or an error with `blame`. The
rules are those of `Exits`, and some that spare a look at the other endings. -/
abbrev Triple (pre : σ → Prop) (program : Prog ε σ α) (post : α → σ → Prop)
    (blame : ε → σ → Prop) : Prop :=
  Exits pre program post (Blames blame)

namespace Triple

variable {pre : σ → Prop} {post : α → σ → Prop} {blame : ε → σ → Prop} {program : Prog ε σ α}

/-! ### Using a triple -/

variable {post' : α → σ → Prop} {blame' : ε → σ → Prop}

section Consequence

variable (triple : Triple pre program post blame)

include triple

theorem post_of_run {state after : σ} {value : α}
    (start : pre state) (ran : program.run state = (.ok value, after)) : post value after := by
  have ends := triple state start
  rw [ran] at ends
  exact ends

theorem blame_of_run {state after : σ} {error : ε}
    (start : pre state) (ran : program.run state = (.error (.err error), after)) :
    blame error after := by
  have ends := triple state start
  rw [ran] at ends
  exact ends

/-- The rule of consequence. -/
theorem mono {pre' : σ → Prop} (stronger : ∀ state, pre' state → pre state)
    (weaker : ∀ value after, post value after → post' value after)
    (milder : ∀ error after, blame error after → blame' error after) :
    Triple pre' program post' blame' :=
  Exits.mono triple stronger weaker fun _ after blamed => .of_forall fun error same =>
    milder error after (same ▸ blamed :)

/-- Consequence in the precondition. -/
theorem under {pre' : σ → Prop} (stronger : ∀ state, pre' state → pre state) :
    Triple pre' program post blame :=
  triple.mono stronger (fun _ _ held => held) fun _ _ held => held

/-- Consequence in what holds with an error. -/
theorem blaming (milder : ∀ error after, blame error after → blame' error after) :
    Triple pre program post blame' :=
  triple.mono (fun _ start => start) (fun _ _ held => held) milder

end Consequence

/-- Two triples about one program. -/
theorem conj (first : Triple pre program post blame) (second : Triple pre program post' blame') :
    Triple pre program (fun value after => post value after ∧ post' value after)
      fun error after => blame error after ∧ blame' error after :=
  (Exits.conj first second).mono (fun _ start => ⟨start, start⟩) (fun _ _ both => both)
    fun _ _ both => .of_forall fun _ same => by
      subst same
      exact both

/-- A triple that only speaks about values. -/
theorem of_ok (held : ∀ state value after, pre state → program.run state = (.ok value, after) →
    post value after) : Triple pre program post fun _ _ => True := by
  intro state start
  match ran : program.run state with
  | (.ok value, after) => exact held state value after start ran
  | (.error _, _) => exact .of_forall fun _ _ => trivial

/-- A triple that says nothing. -/
theorem any (pre : σ → Prop) (program : Prog ε σ α) :
    Triple pre program (fun _ _ => True) fun _ _ => True :=
  of_ok fun _ _ _ _ _ => trivial

/-- What holds in the last state, however the run ended. -/
theorem of_after {held : σ → Prop} (kept : ∀ state, pre state → held (program.run state).2) :
    Triple pre program (fun _ => held) fun _ => held := by
  intro state start
  have after := kept state start
  match ran : program.run state with
  | (.ok _, _) =>
    rw [ran] at after
    exact after
  | (.error _, _) =>
    rw [ran] at after
    exact .of_forall fun _ _ => after

/-- A triple about a program whose value is thrown away. -/
theorem of_discard {held : σ → Prop}
    (triple : Triple pre (program >>= fun _ => pure ()) (fun _ => held) blame) :
    Triple pre program (fun _ => held) blame := by
  intro state start
  have ends := triple state start
  rw [Prog.run_bind] at ends
  match ran : program.run state with
  | (.ok _, _) | (.error _, _) =>
    rw [ran] at ends
    exact ends

/-! ### The forms of a program -/

protected theorem fail (error : ε) (held : ∀ state, pre state → blame error state) :
    Triple pre (Prog.fail error) post blame := held

protected theorem panic : Triple pre (Prog.stop .panic) post blame := fun _ _ => trivial

protected theorem ofRes (result : Res ε α)
    (returned : ∀ state value, pre state → result = .ok value → post value state)
    (failed : ∀ state error, pre state → result = .error (.err error) → blame error state) :
    Triple pre (Prog.ofRes result) post blame :=
  Exits.ofRes result returned fun state _ start failure => .of_forall fun error same =>
    failed state error start (same ▸ failure)

/-- A computation without effects, and what comes after it. -/
protected theorem ofRes_bind {result : Res ε α} {post : β → σ → Prop} {next : α → Prog ε σ β}
    (failed : ∀ state error, pre state → result = .error (.err error) → blame error state)
    (rest : ∀ value, result = .ok value → Triple pre (next value) post blame) :
    Triple pre (Prog.ofRes result >>= next) post blame :=
  Exits.via (fun value state => result = .ok value ∧ pre state)
    (Triple.ofRes result (fun _ _ start same => ⟨same, start⟩) failed) fun value =>
    Exits.of_and (rest value)

/-- Looking at how a program ended: an ending that is no value has to be handled too. -/
protected theorem inspect {post' : β → σ → Prop} {next : Res ε α → Prog ε σ β}
    (first : Triple pre program post blame)
    (returned : ∀ value, Triple (post value) (next (.ok value)) post' blame')
    (failed : ∀ error, Triple (blame error) (next (.error (.err error))) post' blame')
    (panicked : Triple (fun _ => True) (next (.error .panic)) post' blame')
    (starved : Triple (fun _ => True) (next (.error .fuel)) post' blame') :
    Triple pre (Prog.inspect program next) post' blame' := by
  intro state start
  have ends := first state start
  rw [Prog.run_inspect]
  match ran : program.run state with
  | (.ok value, after) =>
    rw [ran] at ends
    exact returned value after ends
  | (.error (.err error), after) =>
    rw [ran] at ends
    exact failed error after ends
  | (.error .panic, after) => exact panicked after trivial
  | (.error .fuel, after) => exact starved after trivial

/-- A loop keeps what one pass keeps. -/
protected theorem loop {body : α → Prog ε σ (α ⊕ β)} {post : β → σ → Prop}
    (invariant : α → σ → Prop)
    (step : ∀ value, Triple (invariant value) (body value)
      (fun result after => result.elim (fun value => invariant value after)
        (fun value => post value after)) blame) (fuel : Nat) (value : α) :
    Triple (invariant value) (Prog.loop body fuel value) post blame :=
  Exits.loop_or_fuel invariant step (fun _ _ _ => trivial) fuel value

end Triple

/-! ### What a program keeps -/

/-- What `view` shows of the state is the same after every run of the program. -/
def Keeps (view : σ → τ) (program : Prog ε σ α) : Prop :=
  ∀ state, view (program.run state).2 = view state

namespace Keeps

variable {view : σ → τ} {program : Prog ε σ α}

theorem of_run (keeps : Keeps view program) {state after : σ} {result : Res ε α}
    (ran : program.run state = (result, after)) : view after = view state := by
  rw [← keeps state, ran]

/-- A part of what is kept is kept. -/
theorem map {υ : Type} (keeps : Keeps view program) (part : τ → υ) :
    Keeps (fun state => part (view state)) program :=
  fun state => congrArg part (keeps state)

protected theorem pure (value : α) : Keeps view (pure value : Prog ε σ α) := fun _ => rfl

protected theorem get : Keeps view (Prog.get : Prog ε σ σ) := fun _ => rfl

protected theorem stop (reason : Stop ε) : Keeps view (Prog.stop reason : Prog ε σ α) :=
  fun _ => rfl

protected theorem fail (error : ε) : Keeps view (Prog.fail error : Prog ε σ α) := fun _ => rfl

protected theorem ofRes (result : Res ε α) : Keeps view (Prog.ofRes result : Prog ε σ α) :=
  fun _ => rfl

protected theorem modify {change : σ → σ} (same : ∀ state, view (change state) = view state) :
    Keeps view (Prog.modify change : Prog ε σ Unit) := same

protected theorem bind {next : α → Prog ε σ β} (first : Keeps view program)
    (rest : ∀ value, Keeps view (next value)) : Keeps view (program >>= next) := by
  intro state
  rw [Prog.run_bind]
  match ran : program.run state with
  | (.ok value, after) => exact (rest value after).trans (first.of_run ran)
  | (.error _, after) => exact first.of_run ran

protected theorem inspect {next : Res ε α → Prog ε σ β} (first : Keeps view program)
    (rest : ∀ result, Keeps view (next result)) : Keeps view (Prog.inspect program next) := by
  intro state
  rw [Prog.run_inspect]
  exact (rest _ _).trans (first state)

protected theorem ite {condition : Prop} [Decidable condition] {other : Prog ε σ α}
    (taken : Keeps view program) (skipped : Keeps view other) :
    Keeps view (if condition then program else other) := by
  split
  · exact taken
  · exact skipped

protected theorem loop {body : α → Prog ε σ (α ⊕ β)} (step : ∀ value, Keeps view (body value))
    (fuel : Nat) (value : α) : Keeps view (Prog.loop body fuel value) := by
  induction fuel generalizing value with
  | zero => exact Keeps.stop _
  | succ fuel ih =>
    refine Keeps.bind (step value) fun result => ?_
    cases result with
    | inl value => exact ih value
    | inr value => exact Keeps.pure value

end Keeps

/-- What a program keeps holds however it ends. -/
theorem Exits.of_keeps {view : σ → τ} {program : Prog ε σ α} (keeps : Keeps view program)
    (held : τ → Prop) :
    Exits (fun state => held (view state)) program (fun _ after => held (view after))
      fun _ after => held (view after) := by
  intro state start
  match ran : program.run state with
  | (.ok _, after) | (.error _, after) =>
    show held (view after)
    rw [keeps.of_run ran]
    exact start

/-- What is kept holds afterwards if it held before. -/
theorem Keeps.triple {view : σ → τ} {program : Prog ε σ α} (keeps : Keeps view program)
    (held : τ → Prop) :
    Triple (fun state => held (view state)) program (fun _ after => held (view after))
      fun _ after => held (view after) :=
  (Exits.of_keeps keeps held).mono (fun _ start => start) (fun _ _ kept => kept)
    fun _ _ kept => .of_forall fun _ _ => kept

/-- A view is kept when it is kept at every ending. -/
theorem Keeps.of_exits {view : σ → τ} {program : Prog ε σ α}
    (exits : ∀ seen, Exits (view · = seen) program (fun _ after => view after = seen)
      fun _ after => view after = seen) : Keeps view program := by
  intro state
  have ends := exits (view state) state rfl
  match ran : program.run state with
  | (.ok _, _) | (.error _, _) =>
    rw [ran] at ends
    exact ends

/-! ### Every ending without its reason -/

/-- From a state with `pre` a value comes with `post`, and every other ending with `stopped`. The
rules are those of `Exits`. -/
abbrev Always (pre : σ → Prop) (program : Prog ε σ α) (post : α → σ → Prop)
    (stopped : σ → Prop) : Prop :=
  Exits pre program post fun _ => stopped

namespace Always

variable {pre stopped : σ → Prop} {post : α → σ → Prop} {program : Prog ε σ α}

/-- What holds at every ending. -/
theorem of_run (always : Always pre program (fun _ => stopped) stopped) (state : σ)
    (start : pre state) : stopped (program.run state).2 := by
  have ends := always state start
  match ran : program.run state with
  | (.ok _, _) | (.error _, _) =>
    rw [ran] at ends
    exact ends

/-- What a program keeps holds however it ends. -/
theorem of_keeps {view : σ → τ} (keeps : Keeps view program) (held : τ → Prop)
    (halted : ∀ state, held (view state) → stopped state) :
    Always (fun state => held (view state)) program (fun _ after => held (view after))
      stopped :=
  (Exits.of_keeps keeps held).mono (fun _ start => start) (fun _ _ kept => kept) fun _ => halted

protected theorem get {post : σ → σ → Prop} (held : ∀ state, pre state → post state state) :
    Always pre (Prog.get : Prog ε σ σ) post stopped := held

end Always

/-! ### Programs that run alike -/

/-- From every state with `pre` the two programs run alike. -/
def Agrees (pre : σ → Prop) (program other : Prog ε σ α) : Prop :=
  ∀ state, pre state → program.run state = other.run state

namespace Agrees

variable {pre : σ → Prop} {program other : Prog ε σ α}

protected theorem refl (program : Prog ε σ α) : Agrees pre program program := fun _ _ => rfl

protected theorem ite {condition : Prop} [Decidable condition] {program' other' : Prog ε σ α}
    (taken : condition → Agrees pre program program')
    (skipped : ¬ condition → Agrees pre other other') :
    Agrees pre (if condition then program else other) (if condition then program' else other') := by
  split
  · exact taken ‹_›
  · exact skipped ‹_›

variable {blame : ε → σ → Prop}

protected theorem bind {mid : α → σ → Prop} {next next' : α → Prog ε σ β}
    (first : Agrees pre program other) (triple : Triple pre other mid blame)
    (rest : ∀ value, Agrees (mid value) (next value) (next' value)) :
    Agrees pre (program >>= next) (other >>= next') := by
  intro state start
  have ends := triple state start
  rw [Prog.run_bind, Prog.run_bind, first state start]
  match ran : other.run state with
  | (.ok value, after) =>
    rw [ran] at ends
    exact rest value after ends
  | (.error _, _) => rfl

/-- Looking at how a program ended: only the endings a triple speaks about need care. -/
protected theorem inspect {mid : α → σ → Prop} {next next' : Res ε α → Prog ε σ β}
    (first : Agrees pre program other) (triple : Triple pre other mid blame)
    (returned : ∀ value, Agrees (mid value) (next (.ok value)) (next' (.ok value)))
    (failed : ∀ error, Agrees (blame error) (next (.error (.err error)))
      (next' (.error (.err error))))
    (panicked : Agrees (fun _ => True) (next (.error .panic)) (next' (.error .panic)))
    (starved : Agrees (fun _ => True) (next (.error .fuel)) (next' (.error .fuel))) :
    Agrees pre (Prog.inspect program next) (Prog.inspect other next') := by
  intro state start
  have ends := triple state start
  rw [Prog.run_inspect, Prog.run_inspect, first state start]
  match ran : other.run state with
  | (.ok value, after) =>
    rw [ran] at ends
    exact returned value after ends
  | (.error (.err error), after) =>
    rw [ran] at ends
    exact failed error after ends
  | (.error .panic, after) => exact panicked after trivial
  | (.error .fuel, after) => exact starved after trivial

/-- Two loops run alike when their passes do, as long as the invariant holds. -/
protected theorem loop {body body' : α → Prog ε σ (α ⊕ β)} {post : β → σ → Prop}
    (invariant : α → σ → Prop) (same : ∀ value, Agrees (invariant value) (body value) (body' value))
    (step : ∀ value, Triple (invariant value) (body' value) (fun result after => result.elim
      (fun value => invariant value after) (fun value => post value after)) blame)
    (fuel : Nat) (value : α) :
    Agrees (invariant value) (Prog.loop body fuel value) (Prog.loop body' fuel value) := by
  induction fuel generalizing value with
  | zero => exact Agrees.refl _
  | succ fuel ih =>
    refine (same value).bind (step value) fun result => ?_
    cases result with
    | inl value => exact ih value
    | inr value => exact Agrees.refl _

end Agrees

/-! ### Coming to an end -/

/-- No run of the program stops for lack of fuel. -/
def Finishes (program : Prog ε σ α) : Prop := ∀ state, (program.run state).1 ≠ .error .fuel

namespace Finishes

variable {program : Prog ε σ α}

protected theorem pure (value : α) : Finishes (pure value : Prog ε σ α) := fun _ => nofun

protected theorem fail (error : ε) : Finishes (Prog.fail error : Prog ε σ α) := fun _ => nofun

protected theorem panic : Finishes (Prog.stop .panic : Prog ε σ α) := fun _ => nofun

protected theorem modify (change : σ → σ) : Finishes (Prog.modify change : Prog ε σ Unit) :=
  fun _ => nofun

protected theorem ofRes {result : Res ε α} (ended : result ≠ .error .fuel) :
    Finishes (Prog.ofRes result : Prog ε σ α) := fun _ => ended

protected theorem bind {next : α → Prog ε σ β} (first : Finishes program)
    (rest : ∀ value, Finishes (next value)) : Finishes (program >>= next) := by
  intro state starved
  rw [Prog.run_bind] at starved
  match ran : program.run state with
  | (.ok value, after) =>
    rw [ran] at starved
    exact rest value after starved
  | (.error reason, after) =>
    rw [ran] at starved
    cases starved
    exact first state (congrArg Prod.fst ran)

/-- Looking at how a program ended: the ending for lack of fuel need not be handled. -/
protected theorem inspect {next : Res ε α → Prog ε σ β} (first : Finishes program)
    (rest : ∀ result, result ≠ .error .fuel → Finishes (next result)) :
    Finishes (Prog.inspect program next) :=
  fun state => rest _ (first state) _

protected theorem ite {condition : Prop} [Decidable condition] {other : Prog ε σ α}
    (taken : Finishes program) (skipped : Finishes other) :
    Finishes (if condition then program else other) := by
  split
  · exact taken
  · exact skipped

end Finishes

section Passes

variable {body : α → Prog ε σ (α ⊕ β)} (held : α → σ → Prop) (rank : α → σ → Nat)
  (lower : ∀ value next state after, held value state →
    (body value).run state = (.ok (.inl next), after) →
    held next after ∧ rank next after < rank value state)

include lower

/-- A loop with that many passes to make comes to its end when every pass does. -/
theorem Prog.loop_ends (step : ∀ value, Finishes (body value)) {fuel : Nat} {value : α} {state : σ}
    (enough : rank value state < fuel) (start : held value state) :
    ((Prog.loop body fuel value).run state).1 ≠ .error .fuel := by
  induction fuel generalizing value state with
  | zero => exact absurd enough (Nat.not_lt_zero _)
  | succ fuel ih =>
    intro starved
    rw [Prog.loop, Prog.run_bind] at starved
    match ran : (body value).run state with
    | (.ok (.inl next), after) =>
      rw [ran] at starved
      obtain ⟨kept, less⟩ := lower value next state after start ran
      exact ih (by omega) kept starved
    | (.ok (.inr result), after) =>
      rw [ran] at starved
      cases starved
    | (.error reason, after) =>
      rw [ran] at starved
      cases starved
      exact step value state (congrArg Prod.fst ran)

end Passes

end NetIpc
