/-
This file runs a handler on a builder, for any lookup method.

A handler is a list of calls. `runCalls_holds` carries the container invariant
through them: after the run the builder holds one answer for each item that was
added. `dispatchTraced_eq_ok` adds what comes before and after, so that a dispatch
that returns a size left the response of these answers in the buffer, and
`dispatchTraced_run` is the converse for a handler whose run is known.
-/

import Mathlib.Data.List.Forall2
import NetIpc.Builder

namespace NetIpc

open LookupBuilder

variable {request item : Type}

/-- The generation set last. -/
def lastGeneration : UInt64 → List (BuilderCall item) → UInt64
  | generation, [] => generation
  | generation, .add _ :: rest => lastGeneration generation rest
  | _, .setGeneration generation :: rest => lastGeneration generation rest

section Calls

variable {size : Nat} {maxItems : UInt32} {add : item → Prog NipcError LookupBuilder Unit}
  {answers : item → Bytes → Prop}

variable {items : List Bytes}

theorem Holds.withGeneration {builder : LookupBuilder} (holds : Holds size maxItems items builder)
    (generation : UInt64) : Holds size maxItems items { builder with generation } :=
  holds.other rfl

/-- After the handler's calls the builder holds one answer for each item that was added. -/
theorem runCalls_holds
    (adds : ∀ item items builder, Holds size maxItems items builder → Outcome size maxItems items
      builder (answers item) ((add item).run builder))
    (calls : List (BuilderCall item)) {builder after : LookupBuilder} {added : List item}
    (holds : Holds size maxItems items builder)
    (ran : (runCalls add calls).run builder = (.ok added, after)) :
    ∃ images, List.Forall₂ answers added images ∧ Holds size maxItems (items ++ images) after ∧
      after.generation = lastGeneration builder.generation calls := by
  induction calls generalizing builder items added with
  | nil =>
    cases ran
    exact ⟨[], .nil, by rwa [List.append_nil], rfl⟩
  | cons call rest ih =>
    cases call with
    | setGeneration generation =>
      exact ih (Holds.withGeneration holds generation) ran
    | add item =>
      have outcome := adds item items builder holds
      rw [runCalls, Prog.run_inspect] at ran
      cases step : (add item).run builder with
      | mk result middle =>
        rw [step] at ran outcome
        cases outcome with
        | refused kept =>
          rename_i reason
          cases reason with
          | err error =>
            obtain ⟨images, answered, held, last⟩ := ih kept.holds ran
            exact ⟨images, answered, held, by rw [last, kept.setup.generation, lastGeneration]⟩
          | panic => simp at ran
          | fuel => simp at ran
        | placed isAllowed held setup =>
          rename_i image
          obtain ⟨later, final, restRan, done⟩ := Prog.run_bind_eq_ok ran
          cases done
          obtain ⟨images, answered, kept, last⟩ := ih held restRan
          refine ⟨image :: images, .cons isAllowed answered, ?_, ?_⟩
          · rwa [List.append_assoc, List.singleton_append] at kept
          · rw [last, setup.generation, lastGeneration]

/-- Every add of a handler with the state of the builder before it. -/
def statesBefore (add : item → Prog NipcError LookupBuilder Unit) :
    List (BuilderCall item) → LookupBuilder → List (LookupBuilder × item)
  | [], _ => []
  | .setGeneration generation :: rest, builder => statesBefore add rest { builder with generation }
  | .add item :: rest, builder =>
    (builder, item) :: statesBefore add rest ((add item).run builder).2

/-- At every add of a handler the builder is a container. -/
theorem statesBefore_holds
    (adds : ∀ item items builder, Holds size maxItems items builder → Outcome size maxItems items
      builder (answers item) ((add item).run builder))
    (calls : List (BuilderCall item)) {start : LookupBuilder}
    (holds : Holds size maxItems items start) (builder : LookupBuilder) (call : item)
    (member : (builder, call) ∈ statesBefore add calls start) :
    ∃ items, Holds size maxItems items builder := by
  induction calls generalizing start items with
  | nil => cases member
  | cons first rest ih =>
    cases first with
    | setGeneration generation =>
      exact ih (Holds.withGeneration holds generation) member
    | add item =>
      rcases List.mem_cons.mp member with same | later
      · cases same
        exact ⟨items, holds⟩
      · have outcome := adds item items start holds
        generalize (add item).run start = ending at outcome later
        cases outcome with
        | refused kept => exact ih kept.holds later
        | placed _ held _ => exact ih held later

/-- The items that were added are those whose add succeeded. -/
theorem mem_added_iff (calls : List (BuilderCall item)) {start after : LookupBuilder}
    {added : List item} (ran : (runCalls add calls).run start = (.ok added, after)) (call : item) :
    call ∈ added ↔ ∃ builder, (builder, call) ∈ statesBefore add calls start ∧
      ((add call).run builder).1 = .ok () := by
  induction calls generalizing start added with
  | nil =>
    cases ran
    simp [statesBefore]
  | cons first rest ih =>
    cases first with
    | setGeneration generation => exact ih ran
    | add item =>
      rw [runCalls, Prog.run_inspect] at ran
      simp only [statesBefore, List.mem_cons, Prod.mk.injEq, or_and_right, exists_or]
      cases step : (add item).run start with
      | mk result middle =>
        rw [step] at ran
        cases result with
        | ok _ =>
          obtain ⟨later, final, restRan, done⟩ := Prog.run_bind_eq_ok ran
          cases done
          rw [List.mem_cons, ih restRan]
          refine or_congr_left ⟨?_, ?_⟩
          · rintro rfl
            exact ⟨start, ⟨rfl, rfl⟩, by rw [step]⟩
          · rintro ⟨_, ⟨-, rfl⟩, -⟩
            rfl
        | error reason =>
          cases reason with
          | err error =>
            rw [ih ran]
            refine (or_iff_right ?_).symm
            rintro ⟨_, ⟨rfl, rfl⟩, ended⟩
            rw [step] at ended
            cases ended
          | panic => simp at ran
          | fuel => simp at ran

end Calls

theorem new_eq (buf : Bytes) (maxItems : UInt32) (generation : UInt64) :
    LookupBuilder.new buf maxItems generation =
      if buf.length ≥ 16 + 8 * maxItems.toNat then
        .ok {
          buf := buf
          generation := generation
          itemCount := 0
          maxItems := maxItems
          dataOffset := 16 + 8 * maxItems.toNat
          error := none
          payloadExceededSuffix := false
          payloadExceededSuffixBytes := []
          payloadExceededFixedItemLen := none }
      else .error .panic := by
  have bound := maxItems.toNat_lt
  rw [LookupBuilder.new, checkedMul_of_le (by rw [usizeMax, lookupDirEntrySize]; omega),
    Option.bind_some, checkedAdd_of_le (by rw [dirOffset_eq, usizeMax]; omega), dirOffset_eq]

variable {maxItems : UInt32} {builder : LookupBuilder}

/-- A builder made for `maxItems` items holds none yet. -/
theorem new_eq_ok {buf : Bytes} {generation : UInt64}
    (made : LookupBuilder.new buf maxItems generation = .ok builder) :
    Holds buf.length maxItems [] builder ∧ builder.generation = generation ∧
      builder.error = none ∧ builder.payloadExceededSuffix = false := by
  rw [new_eq] at made
  split at made
  · rename_i room
    obtain rfl := Except.ok.inj made
    exact ⟨⟨rfl, rfl, Nat.zero_le _, rfl, rfl, ⟨_, Laid.start 16 _ _ buf room⟩,
      absRepresentable_nil _⟩, rfl, rfl, rfl⟩
  · cases made

theorem run_withBuilder {α : Type} (builder : LookupBuilder)
    (program : Prog NipcError LookupBuilder α) (resp : Bytes) :
    (withBuilder builder program).run resp =
      ((program.run builder).1, (program.run builder).2.buf) := rfl

variable {items : List Bytes}

section Finish

variable {size : Nat} (holds : Holds size maxItems items builder)

include holds

/-- Finishing a builder leaves the response of its items at the front of the buffer. -/
theorem run_finish :
    ∃ rest, LookupBuilder.finish.run builder =
      (.ok (responseImage builder.generation items).length,
        { builder with buf := responseImage builder.generation items ++ rest }) := by
  obtain ⟨tail, laid⟩ := holds.laid
  have few := holds.few
  have bound := maxItems.toNat_lt
  have counted : builder.itemCount = UInt32.ofNat items.length := by
    rw [← holds.itemCount, UInt32.ofNat_toNat]
  obtain ⟨rest, finished⟩ := run_finishLookupResponse maxItems.toNat builder.buf tail items
    builder.generation laid (by omega) holds.absolute
  rw [← counted, ← holds.dataOffset] at finished
  refine ⟨rest, ?_⟩
  rw [LookupBuilder.finish, Prog.run_bind_ok (Prog.run_get builder), run_onBuf finished,
    length_responseImage]

theorem Holds.representable :
    Representable items := by
  have few := holds.few
  have bound := maxItems.toNat_lt
  exact holds.absolute.representable (by omega) (by omega)

/-- The response of a full builder fits the buffer. -/
theorem Holds.responseImage_le (generation : UInt64) :
    (responseImage generation items).length ≤ size := by
  obtain ⟨tail, laid⟩ := holds.laid
  have few := holds.few
  have length := laid.length
  rw [length_responseImage, ← holds.size]
  omega

end Finish

section Dispatch

variable {decode : Bytes → Res NipcError request} {itemCount : request → UInt32}
  {prepare : request → Prog NipcError LookupBuilder Unit}
  {add : item → Prog NipcError LookupBuilder Unit} {answers : item → Bytes → Prop}

/-- What the preparation of a dispatch may do to a builder. -/
def Prepares (prepare : Prog NipcError LookupBuilder Unit) : Prop :=
  ∀ builder after, prepare.run builder = (.ok (), after) →
    after = { builder with
      payloadExceededSuffixBytes := after.payloadExceededSuffixBytes
      payloadExceededFixedItemLen := after.payloadExceededFixedItemLen }

theorem Prepares.holds {size : Nat} {maxItems : UInt32} {items : List Bytes}
    {program : Prog NipcError LookupBuilder Unit} {builder after : LookupBuilder}
    (prepares : Prepares program) (ran : program.run builder = (.ok (), after))
    (holds : Holds size maxItems items builder) : Holds size maxItems items after := by
  rw [prepares builder after ran]
  exact holds.other rfl

/-- The builder a handler gets, for a request and a response buffer. -/
def handlerBuilder (itemCount : request → UInt32)
    (prepare : request → Prog NipcError LookupBuilder Unit) (view : request) (resp : Bytes) :
    Res NipcError LookupBuilder := do
  let builder ← LookupBuilder.new resp (itemCount view) 0
  let (result, after) := (prepare view).run builder
  let _ ← result
  return after

variable {handler : Handler request item}

variable {req resp : Bytes} {added : List item}

/-- The steps a successful dispatch went through. -/
theorem dispatchTraced_steps {final : Bytes} {size : Nat}
    (ran : (dispatchTraced decode itemCount prepare add req handler).run resp = (.ok (size, added),
      final)) :
    ∃ view start after done, decode req = .ok view ∧
      handlerBuilder itemCount prepare view resp = .ok start ∧
      (runCalls add (handler view).1).run start = (.ok added, after) ∧
      (handler view).2 = true ∧ after.error = none ∧ after.itemCount = itemCount view ∧
      LookupBuilder.finish.run after = (.ok size, done) ∧ final = done.buf := by
  simp only [dispatchTraced, dispatchWith] at ran
  obtain ⟨view, decoded, ran⟩ := Prog.run_ofRes_bind_eq_ok ran
  obtain ⟨_, -, ran⟩ := Prog.run_ofRes_bind_eq_ok ran
  rw [Prog.run_bind_ok (Prog.run_get resp)] at ran
  obtain ⟨_, -, ran⟩ := Prog.run_ofRes_bind_eq_ok ran
  obtain ⟨builder, made, ran⟩ := Prog.run_ofRes_bind_eq_ok ran
  -- The rest runs on the builder; only its buffer is left at the end.
  generalize program : (do
    prepare view
    let added ← runCalls add (handler view).1
    let size ← finishDispatch (handler view).2 (itemCount view)
    return (size, added) : Prog NipcError LookupBuilder (Nat × List item)) = whole at ran
  cases inner : whole.run builder with
  | mk result done =>
    rw [run_withBuilder, inner] at ran
    obtain ⟨rfl, rfl⟩ := Prod.mk.inj ran
    rw [← program] at inner
    obtain ⟨_, start, prepared, inner⟩ := Prog.run_bind_eq_ok inner
    obtain ⟨items, after, called, inner⟩ := Prog.run_bind_eq_ok inner
    obtain ⟨total, last, finished, inner⟩ := Prog.run_bind_eq_ok inner
    cases inner
    have started : handlerBuilder itemCount prepare view resp = .ok start := by
      rw [handlerBuilder, made, ok_bind, prepared]
      rfl
    rw [finishDispatch, Prog.run_bind_ok (Prog.run_get after)] at finished
    split at finished
    · simp at finished
    · rename_i accepted
      cases failed : after.error with
      | some error =>
        rw [failed] at finished
        simp at finished
      | none =>
        rw [failed] at finished
        dsimp only at finished
        split at finished
        · simp at finished
        · rename_i counted
          exact ⟨view, start, after, done, decoded, started, called,
            (Bool.not_eq_false _).mp accepted, failed, not_not.mp counted, finished, rfl⟩

theorem handlerBuilder_eq_ok {view : request} {start : LookupBuilder}
    (prepares : Prepares (prepare view))
    (started : handlerBuilder itemCount prepare view resp = .ok start) :
    Holds resp.length (itemCount view) [] start ∧ start.generation = 0 ∧ start.error = none ∧
      start.payloadExceededSuffix = false := by
  rw [handlerBuilder] at started
  obtain ⟨builder, made, started⟩ := bind_eq_ok started
  cases prepared : (prepare view).run builder with
  | mk result after =>
    rw [prepared] at started
    obtain ⟨_, rfl, done⟩ := bind_eq_ok started
    cases done
    obtain ⟨holds, generation, error, suffix⟩ := new_eq_ok made
    refine ⟨prepares.holds prepared holds, ?_⟩
    rw [prepares builder _ prepared]
    exact ⟨generation, error, suffix⟩

/-- A dispatch that returns a size answered every item that was added, and left the response of
these answers in the buffer. -/
theorem dispatchTraced_eq_ok {final : Bytes} {size : Nat}
    (prepares : ∀ view, Prepares (prepare view))
    (adds : ∀ maxItems item items builder, Holds resp.length maxItems items builder → Outcome
      resp.length maxItems items builder (answers item) ((add item).run builder))
    (ran : (dispatchTraced decode itemCount prepare add req handler).run resp = (.ok (size, added),
      final)) :
    ∃ view images, decode req = .ok view ∧ List.Forall₂ answers added images ∧
      images.length = (itemCount view).toNat ∧ Representable images ∧
      size = (responseImage (lastGeneration 0 (handler view).1) images).length ∧
      size ≤ resp.length ∧
      final.take size = responseImage (lastGeneration 0 (handler view).1) images := by
  obtain ⟨view, start, after, done, decoded, started, called, -, -, counted, finished, rfl⟩ :=
    dispatchTraced_steps ran
  obtain ⟨held, generation, -, -⟩ := handlerBuilder_eq_ok (prepares view) started
  obtain ⟨images, answered, holds, last⟩ := runCalls_holds (adds _) _ held called
  rw [List.nil_append] at holds
  obtain ⟨rest, result⟩ := run_finish holds
  rw [result] at finished
  cases finished
  rw [generation] at last
  refine ⟨view, images, decoded, answered, ?_, Holds.representable holds, ?_,
    Holds.responseImage_le holds _, ?_⟩
  · rw [← holds.itemCount, counted]
  · rw [last]
  · rw [List.take_left' rfl, last]

/-- A dispatch whose handler is accepted and leaves a full builder without an error returns the
size of the response. -/
theorem dispatchTraced_run {view : request} {start after : LookupBuilder} {images : List Bytes}
    (decoded : decode req = .ok view) (room : 16 + 8 * (itemCount view).toNat ≤ resp.length)
    (started : handlerBuilder itemCount prepare view resp = .ok start)
    (called : (runCalls add (handler view).1).run start = (.ok added, after))
    (accepted : (handler view).2 = true) (clean : after.error = none)
    (holds : Holds resp.length (itemCount view) images after)
    (full : images.length = (itemCount view).toNat) :
    ∃ rest, (dispatchTraced decode itemCount prepare add req handler).run resp =
      (.ok ((responseImage after.generation images).length, added),
        responseImage after.generation images ++ rest) := by
  obtain ⟨rest, finished⟩ := run_finish holds
  rw [handlerBuilder] at started
  obtain ⟨builder, made, started⟩ := bind_eq_ok started
  cases prepared : (prepare view).run builder with
  | mk result middle =>
    rw [prepared] at started
    obtain ⟨_, rfl, done⟩ := bind_eq_ok started
    cases done
    have counted : ¬ after.itemCount ≠ itemCount view := by
      rw [not_not, ← UInt32.toNat_inj, holds.itemCount, full]
    have ended : (finishDispatch (handler view).2 (itemCount view)).run after =
        LookupBuilder.finish.run after := by
      rw [finishDispatch, Prog.run_bind_ok (Prog.run_get after), accepted, if_neg (by decide),
        clean]
      dsimp only
      rw [if_neg counted]
    refine ⟨rest, ?_⟩
    simp only [dispatchTraced, dispatchWith]
    rw [decoded, Prog.ofRes_ok_bind, lookupDataOffset_eq, Except.toOption, okOr_some,
      Prog.ofRes_ok_bind, Prog.run_bind_ok (Prog.run_get resp), Prog.guard_bind (by omega), made,
      Prog.ofRes_ok_bind, run_withBuilder, Prog.run_bind_ok prepared, Prog.run_bind_ok called,
      Prog.run_bind_ok (ended.trans finished), Prog.run_pure]

end Dispatch

/-! ### Reading the answers -/

section Answered

variable {answers : item → Bytes → Prop} {added : List item} {images : List Bytes}
  (answered : List.Forall₂ answers added images)

include answered

theorem image_of_added (index : Nat) (call : item) (found : added[index]? = some call) :
    ∃ image, images[index]? = some image ∧ answers call image := by
  obtain ⟨bound, rfl⟩ := List.getElem?_eq_some_iff.mp found
  have same := answered.length_eq
  exact ⟨_, List.getElem?_eq_getElem (same ▸ bound), answered.get bound (same ▸ bound)⟩

theorem added_of_image (image : Bytes) (member : image ∈ images) :
    ∃ call ∈ added, answers call image := by
  obtain ⟨index, found⟩ := List.getElem?_of_mem member
  obtain ⟨bound, -⟩ := List.getElem?_eq_some_iff.mp found
  have call := List.getElem?_eq_getElem (answered.length_eq.symm ▸ bound)
  obtain ⟨other, here, answer⟩ := image_of_added answered index _ call
  rw [found] at here
  obtain rfl := Option.some.inj here
  exact ⟨_, List.mem_of_getElem? call, answer⟩

/-- A response whose images can all be read shows the items that were added, in order. -/
theorem decodeLookupResponse_answered {α : Type} {codec : ItemCodec α} {shows : item → α → Prop}
    {count : UInt32} (generation : UInt64) (counted : images.length = count.toNat)
    (representable : Representable images)
    (reads : ∀ call ∈ added, ∀ image, answers call image → image.length < 2 ^ 32 →
      codec.itemHdrSize ≤ image.length ∧
        ∃ shown, codec.decodeItem image = .ok shown ∧ shows call shown) :
    ∃ view, decodeLookupResponse codec (responseImage generation images) = .ok view ∧
      view.itemCount = count ∧ view.generation = generation ∧
      ∀ index call, added[index]? = some call → ∃ shown,
        view.item codec (UInt32.ofNat index) = .ok shown ∧ shows call shown := by
  have each (image : Bytes) (member : image ∈ images) :
      codec.itemHdrSize ≤ image.length ∧ ∃ shown, codec.decodeItem image = .ok shown := by
    obtain ⟨call, added, answer⟩ := added_of_image answered image member
    obtain ⟨long, shown, decoded, -⟩ :=
      reads call added image answer (Representable.length_lt representable image member)
    exact ⟨long, shown, decoded⟩
  refine ⟨_, decodeLookupResponse_image representable generation codec
    (fun image member => (each image member).1) (fun image member => (each image member).2), ?_,
    rfl, fun index call found => ?_⟩
  · rw [counted, UInt32.ofNat_toNat]
  · obtain ⟨image, here, answer⟩ := image_of_added answered index call found
    obtain ⟨-, shown, decoded, shows⟩ := reads call (List.mem_of_getElem? found) image answer
      (Representable.length_lt representable image (List.mem_of_getElem? here))
    refine ⟨shown, ?_, shows⟩
    rw [(item_image representable generation codec index image here _ rfl rfl).2]
    exact decoded

end Answered

end NetIpc
