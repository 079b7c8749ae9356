/-
This file settles when the Go builders stay inside what they reserved.

A builder reserves a directory of `maxItems` entries and lays the items behind it. One
call may write its own directory entry and the free end of the buffer (`Confined`), so the
items stay as they are as long as the entry is one of the reserved ones. `Add` looks at
the count, but a builder that has begun to answer with placeholders goes to `addUnknown`
first, which looks at the free end only. A run keeps to its reservation exactly when no add
meets a builder that has all its items, answers with placeholders and has room for one more.
-/

import NetIpc.GoBuilder

namespace NetIpc.Go

open LookupBuilder

variable {ι α β : Type}

/-! ### Runs of calls -/

/-- What a handler calls on a builder. -/
inductive BuilderCall (ι : Type) where
  | add (call : ι)
  | setGeneration (generation : UInt64)
  | setPayloadExceededItemLens (itemLens : List Nat)

/-- A builder: how it adds, and how long the placeholder of an add is. An add that names a request
item that cannot be read has none. -/
structure Adder (ι : Type) where
  add : ι → Prog NipcError LookupBuilder Unit
  unknownSize : ι → Option Nat

/-- The calls as programs. -/
def Adder.program (adder : Adder ι) : BuilderCall ι → Prog NipcError LookupBuilder Unit
  | .add call => adder.add call
  | .setGeneration generation => setGeneration generation
  | .setPayloadExceededItemLens itemLens => setPayloadExceededItemLens itemLens

/-- One call of a run. -/
structure Step (ι : Type) where
  call : BuilderCall ι
  before : LookupBuilder
  result : Res NipcError Unit
  after : LookupBuilder

/-- The calls of a handler, one after the other, whatever they return. -/
def Adder.steps (adder : Adder ι) : List (BuilderCall ι) → LookupBuilder → List (Step ι)
  | [], _ => []
  | call :: rest, b =>
    let ran := (adder.program call).run b
    ⟨call, b, ran.1, ran.2⟩ :: adder.steps rest ran.2

/-- The builder of `NewAppsLookupBuilder`. -/
def appsAdder : Adder AppsItem := ⟨addAppsItem, fun _ => some appsLookupUnknownItemSize⟩

/-- The builder of `NewCgroupsLookupBuilder`. -/
def cgroupsAdder : Adder CgroupsAdd where
  add := CgroupsAdd.program
  unknownSize call := match call.path with
    | .ok path => some (cgroupsLookupItemHdrSize + path.length + 1 + 1)
    | .error _ => none

/-! ### The reservation -/

/-- The call put an item in. -/
def Step.Encodes (step : Step ι) : Prop :=
  (∃ call, step.call = .add call) ∧ step.result = .ok ()

/-- The bytes `[start, stop)` of the item a call put in. -/
def Step.start (step : Step ι) : Nat := align8 step.before.dataOffset

@[inherit_doc Step.start]
def Step.stop (step : Step ι) : Nat := step.after.dataOffset

/-- A run keeps to the space reserved for `maxItems` items. -/
structure Respects (adder : Adder ι) (maxItems : UInt32) (steps : List (Step ι)) : Prop where
  counted : ∀ step ∈ steps, step.after.itemCount.toNat ≤ maxItems.toNat
  directory : ∀ step ∈ steps, step.Encodes →
    16 + 8 * step.before.itemCount.toNat + 8 ≤ 16 + 8 * maxItems.toNat
  changed : ∀ step ∈ steps, ∀ index, step.after.buf[index]? ≠ step.before.buf[index]? →
    16 ≤ index ∧ index < 16 + 8 * maxItems.toNat ∨ step.before.dataOffset ≤ index
  kept : steps.Pairwise fun earlier later => earlier.Encodes →
    slice later.after.buf earlier.start (earlier.stop - earlier.start) =
      slice later.before.buf earlier.start (earlier.stop - earlier.start)
  refused : ∀ step ∈ steps, ∀ call, step.call = .add call → (adder.unknownSize call).isSome →
    maxItems.toNat ≤ step.before.itemCount.toNat → step.result = .error (.err .overflow)

/-- There is room for a placeholder of `size` bytes behind the last item, and its words fit. -/
def Fits (b : LookupBuilder) (size : Nat) : Prop :=
  align8 b.dataOffset + size ≤ b.buf.length ∧ align8 b.dataOffset < 2 ^ 32 ∧ size < 2 ^ 32

/-- The call is not an add to a builder that answers with placeholders, has all its items, and has
room for one more placeholder. -/
def Step.Admissible (adder : Adder ι) (maxItems : UInt32) (step : Step ι) : Prop :=
  ∀ call size, step.call = .add call → adder.unknownSize call = some size →
    step.before.payloadExceededSuffix = true → maxItems.toNat ≤ step.before.itemCount.toNat →
    ¬ Fits step.before size

/-! ### Programs that return no error -/

/-- The program may panic, but it returns no error. -/
def Errorless {σ : Type} (program : Prog NipcError σ α) : Prop :=
  ∀ state error, (program.run state).1 ≠ .error (.err error)

variable {σ : Type} {reason : Stop NipcError} {itemStart value : Nat} {b : LookupBuilder}

theorem errorless_pure (value : α) : Errorless (pure value : Prog NipcError σ α) :=
  fun _ _ => nofun

theorem errorless_modify (change : σ → σ) :
    Errorless (Prog.modify change : Prog NipcError σ Unit) := fun _ _ => nofun

/-- Neither part returns an error. -/
theorem Errorless.bind {program : Prog NipcError σ α} {next : α → Prog NipcError σ β}
    (first : Errorless program) (second : ∀ value, Errorless (next value)) :
    Errorless (program >>= next) := by
  intro state error
  have start := first state
  rw [Prog.run_bind]
  match ran : program.run state with
  | (.ok value, after) => exact second value after error
  | (.error (.err other), after) =>
    rw [ran] at start
    exact absurd rfl (start other)
  | (.error .panic, after) => exact nofun
  | (.error .fuel, after) => exact nofun

theorem errorless_write (off : Nat) (src : Bytes) :
    Errorless (write off src : Prog NipcError Bytes Unit) := by
  intro buf error
  simp only [Prog.run, write]
  split
  · exact fun same => by cases same
  · exact fun same => by cases same

theorem errorless_fillZero (start stop : Nat) :
    Errorless (fillZero start stop : Prog NipcError Bytes Unit) := by
  unfold fillZero
  split
  · exact errorless_write _ _
  · exact fun _ _ => nofun

theorem errorless_copyInto (off : Nat) (src : Bytes) : Errorless (copyInto off src) :=
  fun item error => errorless_write off (src.take (item.length - off)) item error

theorem Errorless.onSlice {program : Prog NipcError Bytes α} (inner : Errorless program)
    (start stop : Nat) : Errorless (onSlice start stop program) := by
  intro buf error
  simp only [Prog.run, NetIpc.onSlice]
  split
  · exact inner _ error
  · exact fun same => by cases same

theorem Errorless.onBuf {program : Prog NipcError Bytes α} (inner : Errorless program) :
    Errorless (onBuf program) := fun b error => inner b.buf error

theorem Errorless.noting {program : Prog NipcError LookupBuilder α} (inner : Errorless program) :
    Errorless (noting program) := by
  intro b error
  have start := inner b
  rw [LookupBuilder.noting, Prog.run_inspect]
  rcases ran : program.run b with ⟨(other | _ | _) | value, after⟩
  · rw [ran] at start
    exact absurd rfl (start other)
  all_goals exact fun same => by cases same

/-! ### What one call may change -/

theorem lookupDirOffset_eq (itemCount : UInt32) :
    lookupDirOffset lookupRespHdrSize itemCount = some (16 + 8 * itemCount.toNat) := by
  have bound := itemCount.toNat_lt
  rw [lookupDirOffset, lookupBuilderDataOffset, checkedInt, maxIntValue, lookupDirEntrySize,
    lookupRespHdrSize, if_neg (by omega), Option.bind_some, checkedAddInt, maxIntValue,
    if_neg (by omega), Nat.mul_comm]

/-- The free end of the buffer and the directory entry of the next item. -/
def Open (b : LookupBuilder) (index : Nat) : Prop :=
  b.dataOffset ≤ index ∨
    16 + 8 * b.itemCount.toNat ≤ index ∧ index < 16 + 8 * b.itemCount.toNat + 8

/-- A call changed open bytes only; it counted an item exactly when it succeeded. -/
structure Confined (before : LookupBuilder) (result : Res NipcError Unit)
    (after : LookupBuilder) : Prop where
  limit : after.maxItems = before.maxItems
  size : after.buf.length = before.buf.length
  same : ∀ index, ¬ Open before index → after.buf[index]? = before.buf[index]?
  outcome : result = .ok () ∧ after.itemCount = before.itemCount + 1 ∧
      before.dataOffset ≤ after.dataOffset ∨
    result ≠ .ok () ∧ after.itemCount = before.itemCount ∧ after.dataOffset = before.dataOffset

/-- A program is confined on every builder. -/
def Confines (program : Prog NipcError LookupBuilder Unit) : Prop :=
  ∀ b, Confined b (program.run b).1 (program.run b).2

/-- A call that failed and touched no more than the error and the mode. -/
theorem confined_of_untouched {before after : LookupBuilder} {result : Res NipcError Unit}
    (failed : result ≠ .ok ()) (limit : after.maxItems = before.maxItems)
    (buf : after.buf = before.buf) (itemCount : after.itemCount = before.itemCount)
    (dataOffset : after.dataOffset = before.dataOffset) : Confined before result after :=
  ⟨limit, by rw [buf], fun _ _ => by rw [buf], .inr ⟨failed, itemCount, dataOffset⟩⟩

theorem confines_noteError (error : NipcError) : Confines (noteError error) :=
  fun _ => confined_of_untouched nofun rfl rfl rfl rfl

/-- A failed call may have written behind the items. -/
theorem confined_of_frames {before after : LookupBuilder}
    (frames : Frames (Open before) before after) : Confined before (.error reason) after := by
  have others := frames.others
  refine ⟨by rw [others], frames.size, frames.same, .inr ⟨nofun, ?_, ?_⟩⟩
  · rw [others]
  · rw [others]

/-- Going on after a call that failed. -/
theorem Confined.trans {first second third : LookupBuilder} {result : Res NipcError Unit}
    (one : Confined first (.error reason) second) (two : Confined second result third) :
    Confined first result third := by
  obtain ⟨done, -⟩ | ⟨-, itemCount, dataOffset⟩ := one.outcome
  · cases done
  · have area : Open second = Open first := by
      funext index
      rw [Open, Open, itemCount, dataOffset]
    refine ⟨two.limit.trans one.limit, two.size.trans one.size, fun index outside => ?_, ?_⟩
    · exact (two.same index (by rwa [area])).trans (one.same index outside)
    · rw [← itemCount, ← dataOffset]
      exact two.outcome

@[simp] theorem orOverflow_some_bind (value : α) (next : α → Prog NipcError LookupBuilder β) :
    orOverflow (some value) >>= next = next value := rfl

theorem framed_writeItem (b : LookupBuilder) {itemEnd : Nat} (itemStart32 itemSize32 : UInt32)
    {body : Prog NipcError Bytes Nat} (touches : Touches (fun _ => True) body)
    (behind : b.dataOffset ≤ itemStart) :
    Framed (Open b) (writeItem b.dataOffset b.itemCount itemStart itemEnd itemStart32 itemSize32
      body) := by
  have word (off : Nat) (value : UInt32) (low : 16 + 8 * b.itemCount.toNat ≤ off)
      (high : off + 4 ≤ 16 + 8 * b.itemCount.toNat + 8) :
      Framed (Open b) (onBuf (putU32 off value)) := by
    refine framed_onBuf (touches_write _ _ fun index start stop => .inr ?_)
    rw [length_leBytes] at stop
    exact ⟨by omega, by omega⟩
  rw [writeItem, lookupDirOffset_eq]
  refine (framed_onBuf (touches_fillZero _ _ fun index low _ => .inl low)).bind fun _ => ?_
  refine (framed_onBuf (touches_onSlice _ _ _ touches fun index low _ =>
    .inl (by omega))).noting.bind fun itemSize => ?_
  rw [orOverflow_some_bind]
  refine (word _ _ (by omega) (by omega)).bind fun _ => ?_
  exact (word _ _ (by omega) (by omega)).bind fun _ => framed_pure itemSize

/-- An item is put behind those that are there. -/
theorem putItem_confined (b : LookupBuilder) (clearsErr : Bool) {itemEnd : Nat}
    (itemStart32 itemSize32 : UInt32) {body : Prog NipcError Bytes Nat}
    (touches : Touches (fun _ => True) body) (behind : b.dataOffset ≤ itemStart) :
    Confined b ((putItem clearsErr itemStart itemEnd itemStart32 itemSize32 body).run b).1
      ((putItem clearsErr itemStart itemEnd itemStart32 itemSize32 body).run b).2 := by
  have framed : Framed (Open b) (writeItem b.dataOffset b.itemCount itemStart itemEnd itemStart32
      itemSize32 body) := framed_writeItem b itemStart32 itemSize32 touches behind
  rw [putItem, Prog.run_bind_ok (Prog.run_get b), Prog.run_bind]
  match ran : (writeItem b.dataOffset b.itemCount itemStart itemEnd itemStart32 itemSize32
      body).run b with
  | (.error reason, after) =>
    exact confined_of_frames (by simpa only [ran] using framed b)
  | (.ok itemSize, after) =>
    have frames : Frames (Open b) b after := by simpa only [ran] using framed b
    have others := frames.others
    refine ⟨?_, frames.size, frames.same, .inl ⟨rfl, ?_, ?_⟩⟩
    · show after.maxItems = b.maxItems
      rw [others]
    · show after.itemCount + 1 = b.itemCount + 1
      rw [others]
    · exact behind.trans (Nat.le_add_right itemStart itemSize)

/-! ### The paths of an add -/

variable {oversized exceeded overflow unknown : Prog NipcError LookupBuilder Unit}
  {planned : Nat → Res NipcError ItemLayout} {check : Res NipcError Unit}

theorem orOverflow_run (value : Option α) (b : LookupBuilder)
    (next : α → Prog NipcError LookupBuilder β) :
    (orOverflow value >>= next).run b = match value with
      | none => (.error (.err .overflow), { b with error := some .overflow })
      | some value => (next value).run b := by
  cases value with
  | none => rfl
  | some value => rfl

/-- A check in front of a confined program. -/
theorem confined_orOverflow {value : Option α} {next : α → Prog NipcError LookupBuilder Unit}
    (rest : ∀ found, value = some found →
      Confined b ((next found).run b).1 ((next found).run b).2) :
    Confined b ((orOverflow value >>= next).run b).1 ((orOverflow value >>= next).run b).2 := by
  cases value with
  | none => exact confines_noteError .overflow b
  | some found => exact rest found rfl

theorem le_of_checkedAlign8 {dataOffset : Nat}
    (aligned : checkedAlign8 dataOffset = some itemStart) : dataOffset ≤ itemStart := by
  rw [checkedAlign8] at aligned
  split at aligned
  · cases aligned
  · cases aligned
    exact le_align8 dataOffset

/-- A placeholder is put in, or the builder is left alone. -/
theorem addUnknown_confines (itemSize : Option Nat) {body : Option (Prog NipcError Bytes Nat)}
    (touches : ∀ program, body = some program → Touches (fun _ => True) program) :
    Confines (addUnknown itemSize body) := by
  intro b
  rw [addUnknown, Prog.run_bind_ok (Prog.run_get b)]
  refine confined_orOverflow fun itemStart aligned => ?_
  refine confined_orOverflow fun itemSize _ => ?_
  refine confined_orOverflow fun itemEnd _ => ?_
  split
  · exact confines_noteError .overflow b
  · refine confined_orOverflow fun program found => ?_
    refine confined_orOverflow fun itemStart32 _ => ?_
    refine confined_orOverflow fun itemSize32 _ => ?_
    exact putItem_confined b true itemStart32 itemSize32 (touches program found)
      (le_of_checkedAlign8 aligned)

theorem noteItemOverflow_confines (first : Confines oversized) (later : Confines exceeded) :
    Confines (noteItemOverflow oversized exceeded) := by
  intro b
  rw [noteItemOverflow, Prog.run_bind_ok (Prog.run_get b)]
  split
  · exact first b
  · have kept := later { b with payloadExceededSuffix := true }
    exact ⟨kept.limit, kept.size, kept.same, kept.outcome⟩

theorem putLayout_confined (b : LookupBuilder) (clearsErr : Bool) {layout : ItemLayout}
    (instead : Confines overflow) (behind : b.dataOffset ≤ layout.itemStart)
    (touches : ∀ program, layout.body = some program → Touches (fun _ => True) program) :
    Confined b ((putLayout clearsErr layout overflow).run b).1
      ((putLayout clearsErr layout overflow).run b).2 := by
  rw [putLayout, Prog.run_bind_ok (Prog.run_get b)]
  split
  · exact instead b
  · split
    · exact instead b
    · split
      · refine confined_orOverflow fun program found => ?_
        refine confined_orOverflow fun itemStart32 _ => ?_
        refine confined_orOverflow fun itemSize32 _ => ?_
        exact putItem_confined b clearsErr itemStart32 itemSize32 (touches program found) behind
      · exact instead b

/-- What `Add` computes for a KNOWN item: it starts behind the data, and writing it keeps the size
of the buffer. -/
structure ItemLayout.Behind (layout : ItemLayout) (dataOffset : Nat) : Prop where
  start : dataOffset ≤ layout.itemStart
  touches : ∀ program, layout.body = some program → Touches (fun _ => True) program

theorem addKnown_confines (clearsErr : Bool) (instead : Confines overflow)
    (behind : ∀ dataOffset layout, planned dataOffset = .ok layout → layout.Behind dataOffset) :
    Confines (addKnown clearsErr planned overflow) := by
  intro b
  rw [addKnown, Prog.run_bind_ok (Prog.run_get b)]
  split
  · exact instead b
  · rename_i reason _ _
    cases reason with
    | err error => exact confines_noteError error b
    | panic => exact confined_of_untouched nofun rfl rfl rfl rfl
    | fuel => exact confined_of_untouched nofun rfl rfl rfl rfl
  · rename_i layout found
    exact putLayout_confined b clearsErr instead (behind _ _ found).start (behind _ _ found).touches

theorem addOther_confines (first : Confines unknown) (instead : Confines overflow) :
    Confines (addOther unknown overflow) := by
  intro b
  have start := first b
  rw [addOther, Prog.run_inspect]
  rcases ran : unknown.run b with ⟨reason | _, after⟩
  · have start : Confined b (.error reason) after := by simpa only [ran] using start
    dsimp only
    split
    · exact start.trans (instead after)
    · exact start
  · have start : Confined b (.ok ()) after := by simpa only [ran] using start
    exact start

/-- Whichever way an add takes, it is confined. -/
theorem addItem_confines (clearsErr known : Bool) (first : Confines unknown)
    (later : Confines exceeded) (instead : Confines overflow)
    (behind : ∀ dataOffset layout, planned dataOffset = .ok layout → layout.Behind dataOffset) :
    Confines (addItem clearsErr known check planned unknown exceeded overflow) := by
  intro b
  rw [addItem, Prog.run_bind_ok (Prog.run_get b)]
  split
  · exact later b
  · split
    · exact confines_noteError .overflow b
    · match check with
      | .ok () =>
        rw [noting_ok_bind]
        split
        · exact addKnown_confines clearsErr instead behind b
        · exact addOther_confines first instead b
      | .error (.err error) => exact confines_noteError error b
      | .error .panic => exact confined_of_untouched nofun rfl rfl rfl rfl
      | .error .fuel => exact confined_of_untouched nofun rfl rfl rfl rfl

/-! ### A full builder -/

theorem checkedU32Int_of_lt (small : value < 2 ^ 32) :
    checkedU32Int value = some (UInt32.ofNat value) := if_neg (by omega)

theorem lt_of_checkedU32Int {word : UInt32} (found : checkedU32Int value = some word) :
    value < 2 ^ 32 := by
  rw [checkedU32Int] at found
  split at found
  · cases found
  · omega

theorem checkedInt_of_le (small : value ≤ maxIntValue) :
    checkedInt value = some value := if_neg (by omega)

theorem checkedAddInt_of_le {first second : Nat} (small : first + second ≤ maxIntValue) :
    checkedAddInt first second = some (first + second) := if_neg (by omega)

theorem checkedAddInt_eq_some {first second sum : Nat}
    (found : checkedAddInt first second = some sum) : sum = first + second := by
  rw [checkedAddInt] at found
  split at found
  · cases found
  · exact (Option.some.inj found).symm

theorem eq_of_checkedAlign8 {dataOffset : Nat}
    (aligned : checkedAlign8 dataOffset = some itemStart) : itemStart = align8 dataOffset := by
  rw [checkedAlign8] at aligned
  split at aligned
  · cases aligned
  · exact (Option.some.inj aligned).symm

theorem eq_of_checkedInt {found : Nat} (small : checkedInt value = some found) : found = value := by
  rw [checkedInt] at small
  split at small
  · cases small
  · exact (Option.some.inj small).symm

/-- Without room for the placeholder `addUnknown` notes an overflow and does nothing else. -/
theorem run_addUnknown_of_not_fits {itemSize : Option Nat} {size : Nat}
    (body : Option (Prog NipcError Bytes Nat)) (sized : itemSize = checkedInt size)
    (tight : ¬ Fits b size) :
    (addUnknown itemSize body).run b =
      (.error (.err .overflow), { b with error := some .overflow }) := by
  rw [addUnknown, Prog.run_bind_ok (Prog.run_get b), sized, orOverflow_run]
  split
  · rfl
  rename_i itemStart aligned
  rw [orOverflow_run]
  split
  · rfl
  rename_i length sizeFound
  rw [orOverflow_run]
  split
  · rfl
  rename_i itemEnd ends
  split
  · rfl
  rename_i inside
  rw [orOverflow_run]
  split
  · rfl
  rw [orOverflow_run]
  split
  · rfl
  rename_i itemStart32 startFits
  rw [orOverflow_run]
  split
  · rfl
  rename_i itemSize32 sizeFits
  have start := eq_of_checkedAlign8 aligned
  have same := eq_of_checkedInt sizeFound
  have stop := checkedAddInt_eq_some ends
  subst start same stop
  exact absurd ⟨by omega, lt_of_checkedU32Int startFits, lt_of_checkedU32Int sizeFits⟩ tight

/-- With room for the placeholder `addUnknown` returns no error, however many items there are. -/
theorem addUnknown_of_fits {itemSize : Option Nat} {size : Nat}
    {body : Option (Prog NipcError Bytes Nat)} (sized : itemSize = checkedInt size)
    (written : size < 2 ^ 32 → ∃ program, body = some program ∧ Errorless program)
    (fits : Fits b size) (error : NipcError) :
    ((addUnknown itemSize body).run b).1 ≠ .error (.err error) := by
  obtain ⟨inside, start, small⟩ := fits
  obtain ⟨program, found, errorless⟩ := written small
  have order := le_align8 b.dataOffset
  have aligned : checkedAlign8 b.dataOffset = some (align8 b.dataOffset) :=
    if_neg (by rw [maxIntValue]; omega)
  rw [addUnknown, Prog.run_bind_ok (Prog.run_get b), sized, aligned, orOverflow_some_bind,
    checkedInt_of_le (by rw [maxIntValue]; omega), orOverflow_some_bind,
    checkedAddInt_of_le (by rw [maxIntValue]; omega), orOverflow_some_bind, if_neg (by omega),
    found, orOverflow_some_bind, checkedU32Int_of_lt start, orOverflow_some_bind,
    checkedU32Int_of_lt small, orOverflow_some_bind, putItem, Prog.run_bind_ok (Prog.run_get b),
    writeItem, lookupDirOffset_eq]
  refine Errorless.bind ?_ (fun itemSize => errorless_modify _) b error
  refine (errorless_fillZero _ _).onBuf.bind fun _ => ?_
  refine (errorless.onSlice _ _).onBuf.noting.bind fun itemSize => ?_
  rw [orOverflow_some_bind]
  refine (errorless_write _ _).onBuf.bind fun _ => ?_
  exact (errorless_write _ _).onBuf.bind fun _ => errorless_pure itemSize

/-- What the runs below use of a builder. -/
structure Adder.Sound (adder : Adder ι) : Prop where
  confines : ∀ call, Confines (adder.add call)
  unread : ∀ call b, adder.unknownSize call = none → ∃ reason after,
    (adder.add call).run b = (.error reason, after) ∧ after = { b with error := after.error }
  full : ∀ call size b, adder.unknownSize call = some size → b.maxItems ≤ b.itemCount →
    (b.payloadExceededSuffix = true → ¬ Fits b size) →
    (adder.add call).run b = (.error (.err .overflow), { b with error := some .overflow })
  overfull : ∀ call size b, adder.unknownSize call = some size → b.payloadExceededSuffix = true →
    Fits b size → ∀ error, ((adder.add call).run b).1 ≠ .error (.err error)

/-- `Add` in the two modes of a full builder. -/
theorem run_addItem_of_full (clearsErr known : Bool) (full : b.maxItems ≤ b.itemCount)
    (refused : b.payloadExceededSuffix = true → exceeded.run b =
      (.error (.err .overflow), { b with error := some .overflow })) :
    (addItem clearsErr known check planned unknown exceeded overflow).run b =
      (.error (.err .overflow), { b with error := some .overflow }) := by
  rw [addItem, Prog.run_bind_ok (Prog.run_get b)]
  by_cases suffix : b.payloadExceededSuffix = true
  · rw [if_pos suffix]
    exact refused suffix
  · rw [if_neg suffix, if_pos full]
    rfl

/-- In suffix mode every add puts the placeholder. -/
theorem run_addItem_of_suffix (clearsErr known : Bool) (suffix : b.payloadExceededSuffix = true) :
    (addItem clearsErr known check planned unknown exceeded overflow).run b = exceeded.run b := by
  rw [addItem, Prog.run_bind_ok (Prog.run_get b), if_pos suffix]

/-! ### The apps builder -/

theorem touches_copyInto (off : Nat) (src : Bytes) : Touches (fun _ => True) (copyInto off src) :=
  touches_get.bind fun item => touches_write_any off (src.take (item.length - off))

theorem touches_writeLookupLabelsFrom (tableStart : Nat) (labels : List Label) :
    ∀ i next, Touches (fun _ => True) (writeLookupLabelsFrom tableStart i next labels) := by
  induction labels with
  | nil => exact fun i next => touches_pure next
  | cons label rest ih =>
    intro i next
    obtain ⟨key, value⟩ := label
    rw [writeLookupLabelsFrom]
    refine (touches_ofRes _).bind fun _ => (touches_ofRes _).bind fun _ => ?_
    refine (touches_ofRes _).bind fun _ => (touches_write_any _ _).bind fun _ => ?_
    refine (touches_write_any _ _).bind fun _ => (touches_write_any _ _).bind fun _ => ?_
    refine (touches_write_any _ _).bind fun _ => (touches_copyInto _ _).bind fun _ => ?_
    refine (touches_write_any _ _).bind fun _ => (touches_copyInto _ _).bind fun _ => ?_
    exact (touches_write_any _ _).bind fun _ => ih _ _

theorem touches_writeLabelPart (fixedEnd tableStart tableBytes itemSize : Nat)
    (labels : List Label) :
    Touches (fun _ => True) (writeLabelPart fixedEnd tableStart tableBytes itemSize labels) := by
  refine Touches.ite ?_ (touches_pure itemSize)
  refine (touches_fillZero _ _ fun _ _ _ => trivial).bind fun _ => ?_
  exact (touches_ofRes _).bind fun _ => touches_writeLookupLabelsFrom _ _ _ _

theorem touches_writeAppsUnknownItem (status : UInt16) (pid : UInt32) :
    Touches (fun _ => True) (writeAppsUnknownItem status pid) := by
  unfold writeAppsUnknownItem
  refine (touches_fillZero _ _ fun _ _ _ => trivial).bind fun _ => ?_
  iterate 7 refine (touches_write_any _ _).bind fun _ => ?_
  exact touches_pure _

theorem errorless_writeAppsUnknownItem (status : UInt16) (pid : UInt32) :
    Errorless (writeAppsUnknownItem status pid) := by
  unfold writeAppsUnknownItem
  refine (errorless_fillZero _ _).bind fun _ => ?_
  iterate 7 refine (errorless_write _ _).bind fun _ => ?_
  exact errorless_pure _

theorem addUnknownApps_confines (status : UInt16) (pid : UInt32) :
    Confines (addUnknownApps status pid) := by
  refine addUnknown_confines _ fun program found => ?_
  cases found
  exact touches_writeAppsUnknownItem status pid

/-- A planned apps item starts behind the items so far. -/
theorem layoutAppsItem_behind (item : AppsItem) (dataOffset : Nat) (layout : ItemLayout)
    (planned : layoutAppsItem item dataOffset = .ok layout) : layout.Behind dataOffset := by
  rw [layoutAppsItem] at planned
  iterate 2 obtain ⟨_, -, planned⟩ := bind_eq_ok planned
  obtain ⟨itemStart, aligned, planned⟩ := bind_eq_ok planned
  iterate 3 obtain ⟨_, -, planned⟩ := bind_eq_ok planned
  obtain ⟨⟨tableStart, tableBytes, itemSize⟩, -, planned⟩ := bind_eq_ok planned
  cases planned
  refine ⟨le_of_checkedAlign8 (okOr_eq_ok aligned), fun program found => ?_⟩
  iterate 5 obtain ⟨_, -, found⟩ := Option.bind_eq_some_iff.mp found
  cases found
  unfold writeAppsItem
  iterate 17 refine (touches_write_any _ _).bind fun _ => ?_
  iterate 3
    refine (touches_copyInto _ _).bind fun _ => (touches_write_any _ _).bind fun _ => ?_
  exact touches_writeLabelPart _ _ _ _ _

theorem appsAdder_sound : appsAdder.Sound where
  confines item := by
    refine addItem_confines _ _ (addUnknownApps_confines _ _) (addUnknownApps_confines _ _) ?_
      (layoutAppsItem_behind item)
    exact noteItemOverflow_confines (addUnknownApps_confines _ _) (addUnknownApps_confines _ _)
  unread item b sized := by cases sized
  full item size b sized full tight := by
    cases sized
    exact run_addItem_of_full _ _ full fun suffix =>
      run_addUnknown_of_not_fits _ rfl (tight suffix)
  overfull item size b sized suffix fits := by
    cases sized
    intro error
    show ((addAppsItem item).run b).1 ≠ _
    rw [addAppsItem, run_addItem_of_suffix _ _ suffix]
    exact addUnknown_of_fits rfl (fun _ => ⟨_, rfl, errorless_writeAppsUnknownItem _ _⟩) fits error

/-! ### The cgroups builder -/

theorem unknownSize_eq (path : Bytes) :
    (unknownNameOff path).bind (checkedAddInt · 1) =
      checkedInt (cgroupsLookupItemHdrSize + path.length + 1 + 1) := by
  by_cases small : cgroupsLookupItemHdrSize + path.length + 1 + 1 ≤ maxIntValue
  · rw [unknownNameOff, checkedAddInt_of_le (by omega), Option.bind_some,
      checkedAddInt_of_le (by omega), Option.bind_some, checkedAddInt_of_le small,
      checkedInt_of_le small]
  · rw [checkedInt, if_pos (not_le.mp small)]
    refine Option.bind_eq_none_iff.mpr fun nameOff found => ?_
    obtain ⟨sum, first, second⟩ := Option.bind_eq_some_iff.mp found
    have one := checkedAddInt_eq_some first
    have two := checkedAddInt_eq_some second
    exact if_pos (by omega)

theorem addUnknownCgroups_confines (status : UInt16) (path : Bytes) :
    Confines (addUnknownCgroups status path) := by
  refine addUnknown_confines _ fun program found => ?_
  iterate 4 obtain ⟨_, -, found⟩ := Option.bind_eq_some_iff.mp found
  cases found
  unfold writeCgroupsUnknownItem
  iterate 10 refine (touches_write_any _ _).bind fun _ => ?_
  refine (touches_copyInto _ _).bind fun _ => (touches_write_any _ _).bind fun _ => ?_
  exact (touches_write_any _ _).bind fun _ => touches_pure _

theorem layoutCgroupsItem_behind (item : CgroupsItem) (dataOffset : Nat) (layout : ItemLayout)
    (planned : layoutCgroupsItem item dataOffset = .ok layout) : layout.Behind dataOffset := by
  rw [layoutCgroupsItem] at planned
  obtain ⟨labelCount, -, planned⟩ := bind_eq_ok planned
  obtain ⟨itemStart, aligned, planned⟩ := bind_eq_ok planned
  iterate 2 obtain ⟨_, -, planned⟩ := bind_eq_ok planned
  obtain ⟨⟨tableStart, tableBytes, itemSize⟩, -, planned⟩ := bind_eq_ok planned
  cases planned
  refine ⟨le_of_checkedAlign8 (okOr_eq_ok aligned), fun program found => ?_⟩
  iterate 3 obtain ⟨_, -, found⟩ := Option.bind_eq_some_iff.mp found
  cases found
  unfold writeCgroupsItem
  iterate 10 refine (touches_write_any _ _).bind fun _ => ?_
  iterate 2
    refine (touches_copyInto _ _).bind fun _ => (touches_write_any _ _).bind fun _ => ?_
  exact touches_writeLabelPart _ _ _ _ _

theorem addCgroupsItem_confines (item : CgroupsItem) (pathValidated : Bool) :
    Confines (addCgroupsItem item pathValidated) := by
  refine addItem_confines _ _ (addUnknownCgroups_confines _ _) (addUnknownCgroups_confines _ _) ?_
    (layoutCgroupsItem_behind item)
  exact noteItemOverflow_confines (addUnknownCgroups_confines _ _) (addUnknownCgroups_confines _ _)

theorem run_addCgroupsItem_of_full (item : CgroupsItem) (pathValidated : Bool)
    (full : b.maxItems ≤ b.itemCount)
    (tight : b.payloadExceededSuffix = true →
      ¬ Fits b (cgroupsLookupItemHdrSize + item.path.length + 1 + 1)) :
    (addCgroupsItem item pathValidated).run b =
      (.error (.err .overflow), { b with error := some .overflow }) :=
  run_addItem_of_full _ _ full fun suffix =>
    run_addUnknown_of_not_fits _ (unknownSize_eq item.path) (tight suffix)

theorem addCgroupsItem_of_fits (item : CgroupsItem) (pathValidated : Bool)
    (suffix : b.payloadExceededSuffix = true)
    (fits : Fits b (cgroupsLookupItemHdrSize + item.path.length + 1 + 1)) (error : NipcError) :
    ((addCgroupsItem item pathValidated).run b).1 ≠ .error (.err error) := by
  rw [addCgroupsItem, run_addItem_of_suffix _ _ suffix]
  refine addUnknown_of_fits (unknownSize_eq item.path) (fun small => ?_) fits error
  rw [cgroupsLookupItemHdrSize] at small
  have nameOff : unknownNameOff item.path = some (28 + item.path.length + 1) := by
    rw [unknownNameOff, cgroupsLookupItemHdrSize, checkedAddInt_of_le (by rw [maxIntValue]; omega),
      Option.bind_some, checkedAddInt_of_le (by rw [maxIntValue]; omega)]
  simp only [nameOff, Option.bind_eq_bind, Option.bind_some,
    checkedAddInt_of_le (show 28 + item.path.length + 1 + 1 ≤ maxIntValue by
      rw [maxIntValue]; omega),
    checkedU32Int_of_lt (show item.path.length < 2 ^ 32 by omega),
    checkedU32Int_of_lt (show 28 + item.path.length + 1 < 2 ^ 32 by omega)]
  refine ⟨_, rfl, ?_⟩
  unfold writeCgroupsUnknownItem
  iterate 10 refine (errorless_write _ _).bind fun _ => ?_
  refine (errorless_copyInto _ _).bind fun _ => (errorless_write _ _).bind fun _ => ?_
  exact (errorless_write _ _).bind fun _ => errorless_pure _

/-- The item an add goes on with once it has its path. -/
def CgroupsAdd.item (call : CgroupsAdd) (path : Bytes) : CgroupsItem :=
  match call with
  | .add item => item
  | .addRequestItem _ _ status orchestrator name labels => ⟨status, orchestrator, path, name,
    labels⟩

theorem run_cgroupsAdd {call : CgroupsAdd} {path : Bytes} (found : call.path = .ok path)
    (b : LookupBuilder) : ∃ pathValidated, (call.item path).path = path ∧
      call.program.run b = (addCgroupsItem (call.item path) pathValidated).run b := by
  rw [CgroupsAdd.program, found, noting_ok_bind]
  cases call with
  | add item =>
    cases found
    exact ⟨false, rfl, rfl⟩
  | addRequestItem req index status orchestrator name labels => exact ⟨true, rfl, rfl⟩

theorem run_cgroupsAdd_error {call : CgroupsAdd} (failed : call.path = .error reason)
    (b : LookupBuilder) :
    ∃ after, call.program.run b = (.error reason, after) ∧
      after = { b with error := after.error } := by
  rw [CgroupsAdd.program, failed]
  cases reason with
  | err error => exact ⟨{ b with error := some error }, rfl, rfl⟩
  | panic => exact ⟨b, rfl, rfl⟩
  | fuel => exact ⟨b, rfl, rfl⟩

/-- An add with a known size has its path. -/
theorem run_cgroupsAdd_sized {call : CgroupsAdd} {size : Nat}
    (sized : cgroupsAdder.unknownSize call = some size) (b : LookupBuilder) :
    ∃ item pathValidated, cgroupsLookupItemHdrSize + item.path.length + 1 + 1 = size ∧
      call.program.run b = (addCgroupsItem item pathValidated).run b := by
  match found : call.path with
  | .error reason => simp [cgroupsAdder, found] at sized
  | .ok path =>
    obtain ⟨pathValidated, same, ran⟩ := run_cgroupsAdd found b
    exact ⟨_, pathValidated, by simpa [cgroupsAdder, found, same] using sized, ran⟩

theorem cgroupsAdder_sound : cgroupsAdder.Sound where
  confines call b := by
    match found : call.path with
    | .ok path =>
      obtain ⟨pathValidated, -, ran⟩ := run_cgroupsAdd found b
      show Confined b (call.program.run b).1 (call.program.run b).2
      rw [ran]
      exact addCgroupsItem_confines _ _ b
    | .error reason =>
      obtain ⟨after, ran, same⟩ := run_cgroupsAdd_error found b
      show Confined b (call.program.run b).1 (call.program.run b).2
      rw [ran, same]
      exact confined_of_untouched nofun rfl rfl rfl rfl
  unread call b sized := by
    match found : call.path with
    | .ok path => simp [cgroupsAdder, found] at sized
    | .error reason =>
      obtain ⟨after, ran, same⟩ := run_cgroupsAdd_error found b
      exact ⟨reason, after, ran, same⟩
  full call size b sized full tight := by
    obtain ⟨item, pathValidated, rfl, ran⟩ := run_cgroupsAdd_sized sized b
    exact ran.trans (run_addCgroupsItem_of_full _ _ full tight)
  overfull call size b sized suffix fits := by
    obtain ⟨item, pathValidated, rfl, ran⟩ := run_cgroupsAdd_sized sized b
    show ∀ error, (call.program.run b).1 ≠ _
    rw [ran]
    exact addCgroupsItem_of_fits _ _ suffix fits

/-! ### Whole runs -/

section Runs

variable {adder : Adder ι} {maxItems : UInt32} {b : LookupBuilder}

/-- A builder inside its reservation. -/
structure Reserved (maxItems : UInt32) (b : LookupBuilder) : Prop where
  limit : b.maxItems = maxItems
  counted : b.itemCount.toNat ≤ maxItems.toNat
  behind : 16 + 8 * maxItems.toNat ≤ b.dataOffset

/-- A call that stays inside the reservation. -/
structure Step.Stays (maxItems : UInt32) (step : Step ι) : Prop where
  reserved : Reserved maxItems step.after
  grows : step.before.dataOffset ≤ step.after.dataOffset
  directory : step.Encodes → step.before.itemCount.toNat < maxItems.toNat
  same : ∀ index, ¬ (16 ≤ index ∧ index < 16 + 8 * maxItems.toNat) →
    index < step.before.dataOffset → step.after.buf[index]? = step.before.buf[index]?

/-- A new builder has all of its reservation. -/
theorem reserved_of_new {buf : Bytes} {generation : UInt64}
    (made : newLookupBuilder buf maxItems generation = .ok b) : Reserved maxItems b := by
  have offset := lookupDirOffset_eq maxItems
  rw [lookupDirOffset] at offset
  rw [newLookupBuilder, offset] at made
  dsimp only at made
  split at made
  · cases made
  · cases made
    exact ⟨rfl, Nat.zero_le _, le_refl _⟩

variable {calls : List (BuilderCall ι)} {step : Step ι}

theorem mem_steps (taken : step ∈ adder.steps calls b) :
    (adder.program step.call).run step.before = (step.result, step.after) := by
  induction calls generalizing b with
  | nil => cases taken
  | cons call rest ih =>
    rw [Adder.steps, List.mem_cons] at taken
    obtain rfl | later := taken
    · rfl
    · exact ih later

/-- A call that leaves the items, the count and the limit alone. -/
theorem stays_of_untouched (reserved : Reserved maxItems step.before) (idle : ¬ step.Encodes)
    (limit : step.after.maxItems = step.before.maxItems) (buf : step.after.buf = step.before.buf)
    (itemCount : step.after.itemCount = step.before.itemCount)
    (dataOffset : step.after.dataOffset = step.before.dataOffset) : step.Stays maxItems where
  reserved := ⟨limit.trans reserved.limit, by rw [itemCount]; exact reserved.counted,
    by rw [dataOffset]; exact reserved.behind⟩
  grows := dataOffset.ge
  directory encodes := absurd encodes idle
  same index _ _ := by rw [buf]

/-- A confined add to a builder that misses an item. -/
theorem stays_of_confined (reserved : Reserved maxItems step.before)
    (more : step.before.itemCount.toNat < maxItems.toNat)
    (confined : Confined step.before step.result step.after) : step.Stays maxItems := by
  have bound := maxItems.toNat_lt
  have next : (step.before.itemCount + 1).toNat = step.before.itemCount.toNat + 1 := by
    rw [UInt32.toNat_add, UInt32.toNat_one, Nat.mod_eq_of_lt (by omega)]
  have behind := reserved.behind
  refine ⟨⟨confined.limit.trans reserved.limit, ?_, ?_⟩, ?_, fun _ => more,
    fun index outside low => confined.same index fun changed => ?_⟩
  · obtain ⟨-, itemCount, -⟩ | ⟨-, itemCount, -⟩ := confined.outcome
    · rw [itemCount, next]
      exact more
    · rw [itemCount]
      exact more.le
  · obtain ⟨-, -, dataOffset⟩ | ⟨-, -, dataOffset⟩ := confined.outcome
    · exact behind.trans dataOffset
    · rw [dataOffset]
      exact behind
  · obtain ⟨-, -, dataOffset⟩ | ⟨-, -, dataOffset⟩ := confined.outcome
    · exact dataOffset
    · exact dataOffset.ge
  · obtain free | entry := changed
    · omega
    · exact outside ⟨by omega, by omega⟩

/-- One call: an admissible one stays inside the reservation. -/
theorem step_stays (sound : adder.Sound)
    (ran : (adder.program step.call).run step.before = (step.result, step.after))
    (reserved : Reserved maxItems step.before) (admissible : step.Admissible adder maxItems) :
    step.Stays maxItems := by
  obtain ⟨call, before, result, after⟩ := step
  cases call with
  | setGeneration generation =>
    dsimp only at ran
    cases ran
    exact stays_of_untouched reserved (fun encodes => nomatch encodes.1) rfl rfl rfl rfl
  | setPayloadExceededItemLens itemLens =>
    simp only [Adder.program, setPayloadExceededItemLens] at ran
    split at ran
    · cases ran
      exact stays_of_untouched reserved (fun encodes => nomatch encodes.1) rfl rfl rfl rfl
    · cases ran
      exact stays_of_untouched reserved (fun encodes => nomatch encodes.1) rfl rfl rfl rfl
  | add call =>
    have ran : (adder.add call).run before = (result, after) := ran
    match sized : adder.unknownSize call with
    | none =>
      obtain ⟨reason, last, failed, same⟩ := sound.unread call before sized
      rw [ran] at failed
      cases failed
      rw [same]
      exact stays_of_untouched reserved (fun encodes => nomatch encodes.2) rfl rfl rfl rfl
    | some size =>
      by_cases more : before.itemCount.toNat < maxItems.toNat
      · have confined := sound.confines call before
        rw [ran] at confined
        exact stays_of_confined reserved more confined
      · have full : before.maxItems ≤ before.itemCount := by
          rw [UInt32.le_iff_toNat_le, reserved.limit]
          exact not_lt.mp more
        have failed := sound.full call size before sized full fun suffix =>
          admissible call size rfl sized suffix (not_lt.mp more)
        rw [ran] at failed
        cases failed
        exact stays_of_untouched reserved (fun encodes => nomatch encodes.2) rfl rfl rfl rfl

/-- A run of admissible calls: every call stays inside the reservation, behind the items there
were. -/
theorem steps_stay (sound : adder.Sound) (reserved : Reserved maxItems b)
    (admissible : ∀ step ∈ adder.steps calls b, step.Admissible adder maxItems) :
    ∀ step ∈ adder.steps calls b, Reserved maxItems step.before ∧
      b.dataOffset ≤ step.before.dataOffset ∧ step.Stays maxItems := by
  induction calls generalizing b with
  | nil => exact fun step taken => nomatch taken
  | cons call rest ih =>
    rw [Adder.steps, List.forall_mem_cons] at admissible
    rw [Adder.steps, List.forall_mem_cons]
    have first := step_stays sound rfl reserved admissible.1
    refine ⟨⟨reserved, le_refl _, first⟩, fun step taken => ?_⟩
    obtain ⟨kept, order, stays⟩ := ih first.reserved admissible.2 step taken
    exact ⟨kept, first.grows.trans order, stays⟩

/-- The item of one call is the same after a later one. -/
theorem slice_of_stays {earlier later : Step ι} (reserved : Reserved maxItems earlier.before)
    (order : earlier.after.dataOffset ≤ later.before.dataOffset) (stays : later.Stays maxItems) :
    slice later.after.buf earlier.start (earlier.stop - earlier.start) =
      slice later.before.buf earlier.start (earlier.stop - earlier.start) := by
  have behind := reserved.behind
  have aligned := le_align8 earlier.before.dataOffset
  rw [Step.start, Step.stop]
  exact slice_congr fun index low high => stays.same index (by omega) (by omega)

/-- Later calls leave the items of earlier ones as they are. -/
theorem steps_kept (sound : adder.Sound) (reserved : Reserved maxItems b)
    (admissible : ∀ step ∈ adder.steps calls b, step.Admissible adder maxItems) :
    (adder.steps calls b).Pairwise fun earlier later => earlier.Encodes →
      slice later.after.buf earlier.start (earlier.stop - earlier.start) =
        slice later.before.buf earlier.start (earlier.stop - earlier.start) := by
  induction calls generalizing b with
  | nil => exact List.Pairwise.nil
  | cons call rest ih =>
    rw [Adder.steps, List.forall_mem_cons] at admissible
    have first := step_stays sound rfl reserved admissible.1
    refine List.pairwise_cons.mpr ⟨fun later taken _ => ?_, ih first.reserved admissible.2⟩
    obtain ⟨-, order, stays⟩ := steps_stay sound first.reserved admissible.2 later taken
    exact slice_of_stays reserved order stays

/-- A run keeps to its reservation exactly when all its calls are admissible. -/
theorem respects_iff (sound : adder.Sound) (reserved : Reserved maxItems b)
    (calls : List (BuilderCall ι)) : Respects adder maxItems (adder.steps calls b) ↔
      ∀ step ∈ adder.steps calls b, step.Admissible adder maxItems := by
  constructor
  · intro respects step taken call size added sized suffix full fits
    have refused := respects.refused step taken call added (by rw [sized]; rfl) full
    have ran := mem_steps taken
    rw [added] at ran
    refine sound.overfull call size step.before sized suffix fits .overflow ?_
    rw [← refused]
    exact congrArg Prod.fst ran
  · intro admissible
    have stay := steps_stay sound reserved admissible
    refine ⟨fun step taken => (stay step taken).2.2.reserved.counted, fun step taken encodes => ?_,
      fun step taken index changed => ?_, steps_kept sound reserved admissible,
      fun step taken call added some full => ?_⟩
    · have inside := (stay step taken).2.2.directory encodes
      omega
    · by_contra outside
      rw [not_or, not_le] at outside
      exact changed ((stay step taken).2.2.same index outside.1 outside.2)
    · obtain ⟨size, sized⟩ := Option.isSome_iff_exists.mp some
      have ran := mem_steps taken
      rw [added] at ran
      have limit := (stay step taken).1.limit
      have failed := sound.full call size step.before sized
        (by rw [UInt32.le_iff_toNat_le, limit]; exact full)
        fun suffix => admissible step taken call size added sized suffix full
      exact congrArg Prod.fst (ran.symm.trans failed)

end Runs

/-- The Go builders keep to the space they reserved exactly when no add is made to a builder that
has all its items, is in the placeholder mode and has room for one more placeholder. The
dispatcher of the apps method sets the fixed length. -/
theorem builders_respect_iff (buf : Bytes) (maxItems : UInt32) (generation : UInt64)
    (b : LookupBuilder) (made : newLookupBuilder buf maxItems generation = .ok b) :
    (∀ fixed calls, Respects appsAdder maxItems
        (appsAdder.steps calls { b with payloadExceededFixedItemLen := fixed }) ↔
      ∀ step ∈ appsAdder.steps calls { b with payloadExceededFixedItemLen := fixed },
        step.Admissible appsAdder maxItems) ∧
    (∀ calls, Respects cgroupsAdder maxItems (cgroupsAdder.steps calls b) ↔
      ∀ step ∈ cgroupsAdder.steps calls b, step.Admissible cgroupsAdder maxItems) := by
  have reserved := reserved_of_new made
  refine ⟨fun fixed calls => ?_, respects_iff cgroupsAdder_sound reserved⟩
  have start : Reserved maxItems { b with payloadExceededFixedItemLen := fixed } :=
    ⟨reserved.limit, reserved.counted, reserved.behind⟩
  exact respects_iff appsAdder_sound start calls

/-- Two items are reserved and put in, the second as a placeholder; the third add succeeds, and
its directory entry overwrites the first item. -/
def overfullCalls : List (BuilderCall AppsItem) :=
  [.add (AppsItem.placeholder pidLookupUnknown 1),
    .add ⟨pidLookupKnown, appsCgroupKnown, 0, 2, 0, 0, 0, [0x61], List.replicate 100 0x61, [], []⟩,
    .add (AppsItem.placeholder pidLookupUnknown 3)]

theorem builders_respect_iff_two :
    ∃ b, newLookupBuilder (zeros 224) 2 0 = .ok b ∧
      (Respects appsAdder 2 (appsAdder.steps (overfullCalls.take 2)
          { b with payloadExceededFixedItemLen := none }) ↔
        ∀ step ∈ appsAdder.steps (overfullCalls.take 2)
            { b with payloadExceededFixedItemLen := none }, step.Admissible appsAdder 2) := by
  match made : newLookupBuilder (zeros 224) 2 0 with
  | .ok b => exact ⟨b, rfl, (builders_respect_iff _ 2 0 b made).1 none (overfullCalls.take 2)⟩
  | .error reason =>
    have none : (newLookupBuilder (zeros 224) 2 0).isOk = true := by decide +kernel
    rw [made] at none
    cases none

/-- A third add to a full builder in the placeholder mode is counted. -/
theorem builders_not_respect : ¬ ∀ (buf : Bytes) (maxItems : UInt32) (generation : UInt64)
    (b : LookupBuilder), newLookupBuilder buf maxItems generation = .ok b →
    ∀ calls, Respects appsAdder maxItems (appsAdder.steps calls b) := by
  intro always
  have third : (newLookupBuilder (zeros 224) 2 0).toOption.any (fun b =>
      (appsAdder.steps overfullCalls b).any fun step => 2 < step.after.itemCount.toNat) = true := by
    decide +kernel
  obtain ⟨b, made, counted⟩ := (Option.any_eq_true _ _).mp third
  have made : newLookupBuilder (zeros 224) 2 0 = .ok b := by
    match found : newLookupBuilder (zeros 224) 2 0 with
    | .ok other =>
      rw [found] at made
      exact congrArg Except.ok (Option.some.inj made)
    | .error reason =>
      rw [found] at made
      cases made
  obtain ⟨step, taken, past⟩ := List.any_eq_true.mp counted
  have bound := (always _ 2 0 b made overfullCalls).counted step taken
  exact absurd bound (not_le.mpr (of_decide_eq_true past))

end NetIpc.Go
