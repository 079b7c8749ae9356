/-
This file models the dispatch adaptors of the managed server (`service/raw`): the
typed handler of a method becomes a function from the request bytes to the
response buffer, with one of three errors.

`snapshot_dispatch` gives the handler a `CgroupsBuilder` and looks only at what
the handler returns. The handler is free to ignore that an `add` overflowed, so
the adaptor answers for all the items the handler tried to add exactly when every
one of its `add` calls finds room; `EveryAddFits` says so of the handler's script
and the sizes alone. The two lookup adaptors only rename the errors of the protocol's
own dispatch.
-/

import NetIpc.AppsLookup
import NetIpc.CgroupsLookup
import NetIpc.CgroupsSnapshot

namespace NetIpc

/-- `DispatchError`. -/
inductive DispatchError where
  | badEnvelope
  | overflow
  | handlerFailed
  deriving Repr, DecidableEq

/-- `DispatchHandler`: the request bytes, the response buffer and the length of the response. -/
abbrev DispatchHandler := Bytes → Prog DispatchError Bytes Nat

/-- `dispatch_error_from_protocol`. -/
def dispatchErrorFromProtocol : NipcError → DispatchError
  | .overflow => .overflow
  | .handlerFailed => .handlerFailed
  | _ => .badEnvelope

namespace Snapshot

/-! ### The snapshot adaptor -/

/-- `estimate_cgroups_max_items`. -/
def estimateCgroupsMaxItems (bufSize : Nat) : UInt32 :=
  if bufSize ≤ cgroupsRespHdrSize then 0
  else
    let minAlignedItem := align8 (cgroupsItemHdrSize + 2)
    UInt32.ofNat ((bufSize - cgroupsRespHdrSize) / (cgroupsDirEntrySize + minAlignedItem))

/-- `snapshot_max_items`. -/
def snapshotMaxItems (responseBufSize : Nat) (overrideMaxItems : UInt32) : UInt32 :=
  if overrideMaxItems ≠ 0 then overrideMaxItems else estimateCgroupsMaxItems responseBufSize

/-- Run a program on a builder that borrows the buffer. -/
def withBuilder {α : Type} (builder : CgroupsBuilder) (program : Prog NipcError CgroupsBuilder α) :
    Prog DispatchError Bytes α := fun _ =>
  let (result, after) := program.run builder
  (mapError dispatchErrorFromProtocol result, after.buf)

theorem run_withBuilder {α : Type} {builder after : CgroupsBuilder}
    {program : Prog NipcError CgroupsBuilder α} {value : α} (buf : Bytes)
    (ran : program.run builder = (.ok value, after)) :
    (withBuilder builder program).run buf = (.ok value, after.buf) := by
  show (mapError _ (program.run builder).1, (program.run builder).2.buf) = _
  rw [ran]
  rfl

/-- What `snapshot_dispatch` does after the handler returned. -/
def conclude (accepted : Bool) : Prog NipcError CgroupsBuilder (Except DispatchError Nat) := do
  if !accepted then return .error .handlerFailed
  else
    let n ← CgroupsBuilder.finish
    return if n = 0 then .error .overflow else .ok n

/-- `snapshot_dispatch` with the calls the handler made. An error before the handler is reached
is the error of the run; after it, the result stands beside the calls. -/
def snapshotDispatchTraced (handler : CgroupsRequest → Script) (maxItems : UInt32)
    (request : Bytes) : Prog DispatchError Bytes (List Call × Except DispatchError Nat) := do
  let request ← Prog.ofRes (mapError (fun _ => .badEnvelope) (CgroupsRequest.decode request))
  let responseBuf ← Prog.get
  let itemBudget := snapshotMaxItems responseBuf.length maxItems
  Prog.ofRes (rejectIf (itemBudget = 0) .overflow)
  let builder ← Prog.ofRes (mapError dispatchErrorFromProtocol
    (CgroupsBuilder.new responseBuf itemBudget 0 0))
  withBuilder builder (do
    let (calls, accepted) ← (handler request).perform
    let result ← conclude accepted
    return (calls, result))

/-- `snapshot_dispatch`. -/
def snapshotDispatch (handler : CgroupsRequest → Script) (maxItems : UInt32) : DispatchHandler :=
  fun request => do
    match ← snapshotDispatchTraced handler maxItems request with
    | (_, .ok n) => return n
    | (_, .error error) => Prog.fail error

/-! ### When every item finds room -/

/-- Every `add` of the script finds room in a buffer of `total` bytes with `limit` slots, when
`count` items end at `offset` before it. -/
def EveryAddFits (total limit : Nat) : Nat → Nat → Script → Prop
  | _, _, .done _ => True
  | count, offset, .setHeader _ _ next => EveryAddFits total limit count offset next
  | count, offset, .add item next =>
    (count < limit ∧ align8 offset + item.size ≤ total ∧ align8 offset < 2 ^ 32 ∧
      item.size < 2 ^ 32) ∧
      EveryAddFits total limit (count + 1) (align8 offset + item.size) (next (.ok ()))

open CgroupsBuilder in
theorem room_iff {total : Nat} {limit : UInt32} {items : List Bytes} {builder : CgroupsBuilder}
    (holds : Holds total limit items builder) (item : Item) :
    builder.Room item ↔ items.length < limit.toNat ∧
      align8 builder.dataOffset + item.size ≤ total ∧ align8 builder.dataOffset < 2 ^ 32 ∧
      item.size < 2 ^ 32 := by
  rw [← holds.toNat_itemCount, ← holds.maxItems, ← UInt32.lt_iff_toNat_lt, ← holds.length]
  exact ⟨fun room => ⟨room.count, room.inside, room.startSmall, room.sizeSmall⟩,
    fun ⟨count, inside, startSmall, sizeSmall⟩ => ⟨count, inside, startSmall, sizeSmall⟩⟩

open CgroupsBuilder in
/-- The calls a script makes: an `add` fails only with `Overflow`, and some `add` does exactly
when one does not find room. -/
theorem perform_overflows_iff (script : Script) {total : Nat} {limit : UInt32} {items : List Bytes}
    {builder final : CgroupsBuilder} {calls : List Call} {accepted : Bool}
    (holds : Holds total limit items builder)
    (ran : script.perform.run builder = (.ok (calls, accepted), final)) :
    (∀ item error, Call.add item (.error error) ∈ calls → error = .overflow) ∧
      ((∃ item, Call.add item (.error .overflow) ∈ calls) ↔
        ¬ EveryAddFits total limit.toNat items.length builder.dataOffset script) := by
  induction script generalizing items builder calls with
  | done verdict =>
    cases ran
    simp [EveryAddFits]
  | setHeader systemdEnabled generation next ih =>
    rw [Script.perform, setHeader, Prog.run_bind_ok (Prog.run_modify _ _)] at ran
    obtain ⟨⟨rest, verdict⟩, after, performed, ran⟩ := Prog.run_bind_eq_ok ran
    cases ran
    have kept : Holds total limit items { builder with systemdEnabled, generation } :=
      ⟨holds.length, holds.maxItems, holds.few, holds.itemCount, holds.dataOffset, holds.laid,
        holds.absolute⟩
    simpa [EveryAddFits] using ih kept performed
  | add item next ih =>
    rw [Script.perform, Prog.run_inspect] at ran
    by_cases room : builder.Room item
    · rw [add_fits holds item room] at ran
      obtain ⟨⟨rest, verdict⟩, after, performed, ran⟩ := Prog.run_bind_eq_ok ran
      cases ran
      have later := ih (.ok ()) (pushed_holds holds item room) performed
      rw [List.length_append, List.length_singleton, pushed] at later
      rw [EveryAddFits, and_iff_right ((room_iff holds item).mp room)]
      simpa using later
    · rw [add_refused builder item room] at ran
      obtain ⟨⟨rest, verdict⟩, after, performed, ran⟩ := Prog.run_bind_eq_ok ran
      cases ran
      have later := ih (.error .overflow) holds performed
      refine ⟨?_, fun _ fits => room ((room_iff holds item).mpr fits.1),
        fun _ => ⟨item, List.mem_cons_self⟩⟩
      rintro other error (_ | _)
      · rfl
      · exact later.1 other error ‹_›

/-- The items of a run without a failed `add` are all the items tried. -/
theorem mem_addedItems {calls : List Call} (item : Item)
    (succeeded : ∀ item error, Call.add item (.error error) ∉ calls)
    (outcome : Except NipcError Unit) (tried : Call.add item outcome ∈ calls) :
    item ∈ addedItems calls := by
  induction calls with
  | nil => cases tried
  | cons call rest ih =>
    have later := ih fun other error member =>
      succeeded other error (List.mem_cons_of_mem _ member)
    cases call with
    | setHeader systemdEnabled generation =>
      rcases List.mem_cons.mp tried with same | member
      · cases same
      · exact later member
    | add other result =>
      cases result with
      | error error => exact absurd List.mem_cons_self (succeeded other error)
      | ok value =>
        rcases List.mem_cons.mp tried with same | member
        · cases same
          exact List.mem_cons_self
        · exact List.mem_cons_of_mem _ (later member)

/-! ### A snapshot that did not fit -/

/-- The adaptor never delivers a snapshot that did not fit: if an `add` overflowed the result is
`Overflow`, and an `Ok` response contains every item the handler tried to add. -/
def DeliversAllOrOverflows (handler : CgroupsRequest → Script) (maxItems : UInt32)
    (request responseBuf : Bytes) : Prop :=
  ∀ calls result final,
    (snapshotDispatchTraced handler maxItems request).run responseBuf =
      (.ok (calls, result), final) →
    ((∃ item, Call.add item (.error .overflow) ∈ calls) → result = .error .overflow) ∧
    ∀ n, result = .ok n → ∃ view, CgroupsResponseView.decode (final.take n) = .ok view ∧
      ∀ item outcome, Call.add item outcome ∈ calls →
        ∃ index shown, view.item index = .ok shown ∧ shown.Shows item

/-- The way to the handler: the request decodes, the budget is positive and the directory fits. -/
structure Reaches (maxItems : UInt32) (request responseBuf : Bytes) (decoded : CgroupsRequest) :
    Prop where
  decodes : CgroupsRequest.decode request = .ok decoded
  budget : snapshotMaxItems responseBuf.length maxItems ≠ 0
  directory : 24 + 8 * (snapshotMaxItems responseBuf.length maxItems).toNat ≤ responseBuf.length

section Reached

variable {handler : CgroupsRequest → Script} {maxItems : UInt32} {request responseBuf : Bytes}

/-- A dispatch that returned after the handler ran got to it. -/
theorem reaches_of_run {calls : List Call} {result : Except DispatchError Nat} {final : Bytes}
    (ran : (snapshotDispatchTraced handler maxItems request).run responseBuf =
      (.ok (calls, result), final)) :
    ∃ decoded, Reaches maxItems request responseBuf decoded := by
  simp only [snapshotDispatchTraced] at ran
  obtain ⟨decoded, decodes, ran⟩ := Prog.run_ofRes_bind_eq_ok ran
  rw [Prog.run_bind_ok (Prog.run_get _)] at ran
  obtain ⟨budget, ran⟩ := Prog.run_guard_eq_ok ran
  obtain ⟨builder, created, -⟩ := Prog.run_ofRes_bind_eq_ok ran
  refine ⟨decoded, mapError_eq_ok decodes, budget, ?_⟩
  have opened := mapError_eq_ok created
  rw [CgroupsBuilder.new_eq] at opened
  split at opened
  · assumption
  · cases opened

/-- The builder the handler gets. -/
def opening (maxItems : UInt32) (responseBuf : Bytes) : CgroupsBuilder :=
  ⟨responseBuf, 0, 0, 0, snapshotMaxItems responseBuf.length maxItems,
    24 + 8 * (snapshotMaxItems responseBuf.length maxItems).toNat⟩

variable {decoded : CgroupsRequest} (reaches : Reaches maxItems request responseBuf decoded)

include reaches

theorem opening_holds : CgroupsBuilder.Holds responseBuf.length
    (snapshotMaxItems responseBuf.length maxItems) [] (opening maxItems responseBuf) :=
  CgroupsBuilder.new_holds responseBuf _ 0 0 reaches.directory

/-- What the dispatch does from the handler on: it trusts the handler's verdict, whatever the
`add` calls returned. -/
theorem snapshotDispatchTraced_run (handler : CgroupsRequest → Script) :
    ∃ calls accepted between final,
      (handler decoded).perform.run (opening maxItems responseBuf) =
        (.ok (calls, accepted), between) ∧
      ((accepted = false ∧ (snapshotDispatchTraced handler maxItems request).run responseBuf =
        (.ok (calls, .error .handlerFailed), final)) ∨
      (∃ size, (snapshotDispatchTraced handler maxItems request).run responseBuf =
        (.ok (calls, .ok size), final) ∧ size ≤ responseBuf.length ∧
        Delivers (final.take size) (lastHeader (0, 0) calls) (addedItems calls))) := by
  obtain ⟨calls, accepted, between, performed, holds, header⟩ :=
    perform_run (handler decoded) [] (opening_holds reaches)
  have reached : (snapshotDispatchTraced handler maxItems request).run responseBuf =
      (withBuilder (opening maxItems responseBuf) (do
        let (calls, accepted) ← (handler decoded).perform
        let result ← conclude accepted
        return (calls, result))).run responseBuf := by
    simp only [snapshotDispatchTraced]
    rw [reaches.decodes, mapError, Prog.ofRes_ok_bind, Prog.run_bind_ok (Prog.run_get _),
      Prog.guard_bind reaches.budget, CgroupsBuilder.new_eq,
      if_pos reaches.directory, mapError, Prog.ofRes_ok_bind, opening]
  cases accepted with
  | false =>
    refine ⟨calls, false, between, between.buf, performed, .inl ⟨rfl, ?_⟩⟩
    rw [reached]
    exact run_withBuilder responseBuf (Prog.run_bind_ok performed)
  | true =>
    obtain ⟨size, final, finished, long, inside, delivers⟩ := finish_delivers holds
    rw [header, List.nil_append] at delivers
    refine ⟨calls, true, between, final.buf, performed, .inr ⟨size, ?_, inside, delivers⟩⟩
    have concluded : (conclude true).run between = (.ok (.ok size), final) := by
      show (CgroupsBuilder.finish >>= _).run between = _
      rw [Prog.run_bind_ok finished, if_neg (by omega)]
      rfl
    rw [reached]
    exact run_withBuilder responseBuf ((Prog.run_bind_ok performed).trans
      (Prog.run_bind_ok concluded))

end Reached

/-- A snapshot that did not fit is delivered as a complete one unless every `add` of the handler
finds room: the adaptor keeps its promise exactly for the handlers whose items all fit. -/
theorem deliversAllOrOverflows_iff (handler : CgroupsRequest → Script) (maxItems : UInt32)
    (request responseBuf : Bytes) :
    DeliversAllOrOverflows handler maxItems request responseBuf ↔
      ∀ decoded, Reaches maxItems request responseBuf decoded →
        EveryAddFits responseBuf.length (snapshotMaxItems responseBuf.length maxItems).toNat 0
          (24 + 8 * (snapshotMaxItems responseBuf.length maxItems).toNat) (handler decoded) := by
  constructor
  · intro promise decoded reaches
    obtain ⟨calls, accepted, between, final, performed, outcome⟩ :=
      snapshotDispatchTraced_run reaches handler
    have overflows := (perform_overflows_iff (handler decoded) (opening_holds reaches) performed).2
    by_contra tight
    -- Some `add` overflowed, and no ending after the handler is `Overflow`.
    have failed := overflows.mpr tight
    rcases outcome with ⟨-, ran⟩ | ⟨size, ran, -, -⟩
    · cases (promise _ _ _ ran).1 failed
    · cases (promise _ _ _ ran).1 failed
  · intro fits calls result final ran
    obtain ⟨decoded, reaches⟩ := reaches_of_run ran
    obtain ⟨calls', accepted, between, final', performed, outcome⟩ :=
      snapshotDispatchTraced_run reaches handler
    obtain ⟨only, overflows⟩ :=
      perform_overflows_iff (handler decoded) (opening_holds reaches) performed
    have never : ¬ ∃ item, Call.add item (.error .overflow) ∈ calls' := fun failed =>
      overflows.mp failed (fits decoded reaches)
    have succeeded : ∀ item error, Call.add item (.error error) ∉ calls' := fun item error member =>
      never ⟨item, only item error member ▸ member⟩
    rcases outcome with ⟨-, same⟩ | ⟨size, same, -, delivers⟩
    · cases ran.symm.trans same
      exact ⟨fun failed => absurd failed never, fun n ok => nomatch ok⟩
    · cases ran.symm.trans same
      refine ⟨fun failed => absurd failed never, ?_⟩
      rintro n ⟨⟩
      obtain ⟨view, decodes, -, -, -, shown⟩ := delivers.decodes
      refine ⟨view, decodes, fun item outcome tried => ?_⟩
      obtain ⟨index, found⟩ := List.getElem?_of_mem (mem_addedItems item succeeded outcome tried)
      exact ⟨_, shown index item found⟩

/-- A handler that adds two items where one slot is reserved and ignores the second result: the
response is `Ok` with one item. -/
theorem not_deliversAllOrOverflows_twoItems :
    ¬ DeliversAllOrOverflows (fun _ => .add ⟨1, 0, 1, [97], [47]⟩ fun _ =>
      .add ⟨2, 0, 1, [98], [47]⟩ fun _ => .done true) 1 [1, 0, 0, 0] (List.replicate 128 0) := by
  intro promise
  have ran := Prog.run_of_fst (show ((snapshotDispatchTraced (fun _ =>
    .add ⟨1, 0, 1, [97], [47]⟩ fun _ => .add ⟨2, 0, 1, [98], [47]⟩ fun _ => .done true) 1
      [1, 0, 0, 0]).run (List.replicate 128 0)).1 =
    .ok ([.add ⟨1, 0, 1, [97], [47]⟩ (.ok ()),
      .add ⟨2, 0, 1, [98], [47]⟩ (.error .overflow)], .ok 68) by decide +kernel)
  cases (promise _ _ _ ran).1 ⟨_, List.mem_cons_of_mem _ List.mem_cons_self⟩

end Snapshot

/-! ### The lookup adaptors -/

/-- What both lookup adaptors do: the dispatch of the protocol, with its errors renamed. -/
def lookupDispatch (dispatch : Bytes → Prog NipcError Bytes Nat) : DispatchHandler :=
  fun request responseBuf =>
    let (result, after) := (dispatch request).run responseBuf
    (mapError dispatchErrorFromProtocol result, after)

/-- `apps_lookup_dispatch`. -/
def appsLookupDispatch (handler : AppsLookupHandler) : DispatchHandler :=
  lookupDispatch fun request => dispatchAppsLookup request handler

/-- `cgroups_lookup_dispatch`. -/
def cgroupsLookupDispatch (handler : CgroupsLookupHandler) : DispatchHandler :=
  lookupDispatch fun request => dispatchCgroupsLookup request handler

theorem lookupDispatch_eq_ok {dispatch : Bytes → Prog NipcError Bytes Nat}
    {request buf after : Bytes}
    {n : Nat} (ran : (lookupDispatch dispatch request).run buf = (.ok n, after)) :
    (dispatch request).run buf = (.ok n, after) := by
  change ((mapError _ ((dispatch request).run buf).1, ((dispatch request).run buf).2) :
    Res DispatchError Nat × Bytes) = _ at ran
  obtain ⟨result, same⟩ := Prod.mk.inj ran
  exact Prod.ext (mapError_eq_ok result) same

end NetIpc
