/-
This file proves which dispatch adaptors can panic.

A handler is given a request and a builder and may call the builder's methods in any
order, each call chosen from what the calls before returned; `BuilderScript` is such a
handler of a lookup method, as `Snapshot.Script` is one of the snapshot method. The
two lookup adaptors test the size of the response buffer before they make a builder,
so they answer or return an error for every request, buffer and handler. The snapshot
adaptor does not: with a configured number of items whose directory is larger than the
buffer, the constructor of its builder panics, and a panic ends the session thread
without an answer.
-/

import NetIpc.AppsDispatch
import NetIpc.BuilderSafety
import NetIpc.CgroupsDispatch
import NetIpc.ServerDispatch

namespace NetIpc

variable {α ι request : Type}

/-! ### Handlers that look at results -/

/-- What a handler does with its builder: it makes calls, chooses the next one from what the
builder returned, and ends with a verdict. -/
inductive BuilderScript (ι : Type) where
  | done (accepted : Bool)
  | add (item : ι) (next : Except NipcError Unit → BuilderScript ι)
  | setGeneration (generation : UInt64) (next : BuilderScript ι)
  | setPayloadExceededItemLens (itemLens : List Nat) (next : BuilderScript ι)
  /-- The handler reads `error()` and `item_count()`. -/
  | look (next : Option NipcError → UInt32 → BuilderScript ι)

namespace BuilderScript

variable {add : ι → Prog NipcError LookupBuilder Unit}

/-- Make the calls of a script. -/
def perform (add : ι → Prog NipcError LookupBuilder Unit) :
    BuilderScript ι → Prog NipcError LookupBuilder Bool
  | .done accepted => pure accepted
  | .add item next => Prog.inspect (add item) fun
    | .ok () => perform add (next (.ok ()))
    | .error (.err error) => perform add (next (.error error))
    | .error reason => Prog.stop reason
  | .setGeneration generation next => do
    LookupBuilder.setGeneration generation
    perform add next
  | .setPayloadExceededItemLens itemLens next => do
    LookupBuilder.setPayloadExceededItemLens itemLens
    perform add next
  | .look next => do
    let self ← Prog.get
    perform add (next self.error self.itemCount)

/-- The script of a fixed list of calls. -/
def ofCalls (accepted : Bool) : List (BuilderCall ι) → BuilderScript ι
  | [] => .done accepted
  | .add item :: rest => .add item fun _ => ofCalls accepted rest
  | .setGeneration generation :: rest => .setGeneration generation (ofCalls accepted rest)

theorem perform_ofCalls (accepted : Bool) (calls : List (BuilderCall ι)) :
    perform add (ofCalls accepted calls) = runCalls add calls >>= fun _ => pure accepted := by
  induction calls with
  | nil => rfl
  | cons call rest ih =>
    cases call with
    | setGeneration generation =>
      rw [ofCalls, perform, ih, runCalls, bind_assoc]
    | add item =>
      funext builder
      show (perform add (.add item fun _ => ofCalls accepted rest)).run builder =
        (runCalls add (.add item :: rest) >>= fun _ => pure accepted).run builder
      rw [perform, runCalls, Prog.run_bind, Prog.run_inspect, Prog.run_inspect]
      rcases (add item).run builder with ⟨(error | _ | _) | _, after⟩
      · dsimp only
        rw [ih, ← Prog.run_bind]
      · rfl
      · rfl
      · dsimp only
        rw [ih, ← Prog.run_bind, bind_assoc]
        rfl

end BuilderScript

/-! ### Dispatch with any handler -/

/-- What is done with the builder: run the handler, then check and finish. -/
def handleScript (itemCount : request → UInt32) (add : ι → Prog NipcError LookupBuilder Unit)
    (handler : request → BuilderScript ι) (request : request) :
    Prog NipcError LookupBuilder Nat := do
  let accepted ← (handler request).perform add
  finishDispatch accepted (itemCount request)

namespace Adaptive

/-- `dispatch_apps_lookup`. -/
def dispatchAppsLookup (req : Bytes) (handler : LookupRequestView → BuilderScript AppsItem) :
    Prog NipcError Bytes Nat :=
  dispatchWith decodeAppsLookupRequest LookupRequestView.itemCount prepareAppsLookup req
    (handleScript LookupRequestView.itemCount addAppsItem handler)

/-- `dispatch_cgroups_lookup`. -/
def dispatchCgroupsLookup (req : Bytes) (handler : CgroupsRequest → BuilderScript CgroupsAdd) :
    Prog NipcError Bytes Nat :=
  dispatchWith decodeCgroupsRequest (fun request => request.1.itemCount)
    (fun request => prepareCgroupsLookup request.1) req
    (handleScript (fun request => request.1.itemCount) CgroupsAdd.program handler)

/-- `apps_lookup_dispatch`. -/
def appsLookupDispatch (handler : LookupRequestView → BuilderScript AppsItem) : DispatchHandler :=
  lookupDispatch fun request => dispatchAppsLookup request handler

/-- `cgroups_lookup_dispatch`. -/
def cgroupsLookupDispatch (handler : CgroupsRequest → BuilderScript CgroupsAdd) : DispatchHandler :=
  lookupDispatch fun request => dispatchCgroupsLookup request handler

end Adaptive

/-! ### Handlers with fixed calls -/

section Fixed

variable {decode : Bytes → Res NipcError request} {itemCount : request → UInt32}
  {prepare : request → Prog NipcError LookupBuilder Unit}
  {add : ι → Prog NipcError LookupBuilder Unit}

theorem withBuilder_bind_pure {β : Type} (builder : LookupBuilder)
    (program : Prog NipcError LookupBuilder α) (change : α → β) :
    (withBuilder builder program >>= fun value => pure (change value)) =
      withBuilder builder (program >>= fun value => pure (change value)) := by
  funext buf
  show (withBuilder builder program >>= fun value => pure (change value)).run buf =
    (withBuilder builder (program >>= fun value => pure (change value))).run buf
  rw [Prog.run_bind, run_withBuilder, run_withBuilder, Prog.run_bind]
  match program.run builder with
  | (.ok value, after) => rfl
  | (.error reason, after) => rfl

/-- A dispatch of fixed calls is the dispatch of their script. -/
theorem dispatchTraced_eq (req : Bytes) (handler : Handler request ι) :
    (dispatchTraced decode itemCount prepare add req handler >>= fun traced => pure traced.1) =
      dispatchWith decode itemCount prepare req (handleScript itemCount add fun request =>
        .ofCalls (handler request).2 (handler request).1) := by
  simp only [dispatchTraced, dispatchWith, bind_assoc, withBuilder_bind_pure, handleScript,
    BuilderScript.perform_ofCalls, pure_bind, bind_pure]

end Fixed

theorem Adaptive.dispatchAppsLookup_ofCalls (req : Bytes) (handler : AppsLookupHandler) :
    Adaptive.dispatchAppsLookup req (fun request =>
      .ofCalls (handler request).2 (handler request).1) = NetIpc.dispatchAppsLookup req handler :=
  (dispatchTraced_eq req handler).symm

theorem Adaptive.dispatchCgroupsLookup_ofCalls (req : Bytes) (handler : CgroupsLookupHandler) :
    Adaptive.dispatchCgroupsLookup req (fun request =>
      .ofCalls (handler request).2 (handler request).1) =
      NetIpc.dispatchCgroupsLookup req handler :=
  (dispatchTraced_eq req handler).symm

/-! ### A dispatch answers -/

/-- A response that fits its buffer, or an error: not a panic. -/
def Answered {ε : Type} (size : Nat) : Res ε Nat → Prop
  | .ok n => n ≤ size
  | .error (.err _) => True
  | .error .panic => False
  | .error .fuel => False

theorem not_answered_of_panic {ε : Type} {size : Nat} {result : Res ε Nat}
    (panics : result = .error .panic) : ¬ Answered size result := by
  rw [panics]
  exact id

open LookupBuilder

/-- The builder is a container of some items. -/
def Contains (size : Nat) (maxItems : UInt32) (builder : LookupBuilder) : Prop :=
  ∃ items, Holds size maxItems items builder

section Answers

variable {size : Nat} {maxItems : UInt32} {builder : LookupBuilder}

theorem Contains.sound (contains : Contains size maxItems builder) : Sound size builder := by
  obtain ⟨items, holds⟩ := contains
  obtain ⟨tail, laid⟩ := holds.laid
  have length := laid.length
  have kept := holds.size
  have offset := holds.dataOffset
  refine ⟨kept, ?_, ?_, by omega⟩
  · rw [holds.limit]
    omega
  · rw [holds.itemCount, holds.limit]
    exact holds.few

/-- An add that does not panic leaves a container: what it placed is one item more. -/
theorem calmAt_of_outcome {items : List Bytes} {allowed : Bytes → Prop}
    {program : Prog NipcError LookupBuilder Unit}
    (outcome : Outcome size maxItems items builder allowed (program.run builder))
    (calm : CalmAt (Sound size) program builder) :
    CalmAt (Contains size maxItems) program builder := by
  refine ⟨calm.1, ?_⟩
  generalize program.run builder = ending at outcome
  cases outcome with
  | refused kept => exact ⟨_, kept.holds⟩
  | placed _ holds _ => exact ⟨_, holds⟩

theorem ordinary_suffixSums (lens : List Nat) : Ordinary (fun _ => True) (suffixSums lens) := by
  induction lens with
  | nil => trivial
  | cons len rest ih =>
    refine ih.bind fun sums _ => Ordinary.bind ?_ fun _ _ =>
      .guard trivial fun _ => trivial
    split
    · split
      · trivial
      · trivial
    · trivial

theorem ordinary_checkLens (lens : List Nat) : Ordinary (fun _ => True) (checkLens lens) := by
  induction lens with
  | nil => trivial
  | cons len rest ih =>
    exact (ordinary_checkedU32 len).bind fun _ _ => ih

theorem calmAt_setPayloadExceededItemLens (itemLens : List Nat)
    (contains : Contains size maxItems builder) :
    CalmAt (Contains size maxItems) (setPayloadExceededItemLens itemLens) builder := by
  have ordinary : Ordinary (fun _ => True) (payloadExceededSuffixBytesFromLens itemLens) :=
    (ordinary_okOr trivial).bind fun _ _ => (ordinary_checkLens itemLens).bind fun _ _ =>
      ordinary_suffixSums itemLens
  obtain ⟨items, holds⟩ := contains
  unfold setPayloadExceededItemLens
  generalize payloadExceededSuffixBytesFromLens itemLens = made at ordinary ⊢
  match made with
  | .ok suffixBytes => exact calmAt_modify ⟨items, holds.other rfl⟩
  | .error (.err error) => exact calmAt_modify ⟨items, holds.other rfl⟩

/-- Whatever a handler does, it does not panic, and the builder stays a container. -/
theorem calmAt_perform {add : ι → Prog NipcError LookupBuilder Unit}
    (adds : ∀ item builder, Contains size maxItems builder →
      CalmAt (Contains size maxItems) (add item) builder)
    (script : BuilderScript ι) (contains : Contains size maxItems builder) :
    CalmAt (Contains size maxItems) (script.perform add) builder := by
  induction script generalizing builder with
  | done accepted => exact calmAt_pure accepted contains
  | add item next ih =>
    rw [BuilderScript.perform]
    refine CalmAt.inspect (adds item builder contains) fun result after ordinary _ kept => ?_
    match result with
    | .ok () => exact ih (.ok ()) kept
    | .error (.err error) => exact ih (.error error) kept
  | setGeneration generation next ih =>
    obtain ⟨items, holds⟩ := contains
    exact ih ⟨items, Holds.withGeneration holds generation⟩
  | setPayloadExceededItemLens itemLens next ih =>
    exact (calmAt_setPayloadExceededItemLens itemLens contains).follow fun _ _ kept =>
      ih kept
  | look next ih =>
    exact calmAt_get_bind (ih builder.error builder.itemCount contains)

theorem finishDispatch_answered (accepted : Bool) (itemCount : UInt32)
    (contains : Contains size maxItems builder) :
    Answered size ((finishDispatch accepted itemCount).run builder).1 := by
  obtain ⟨items, holds⟩ := contains
  rw [finishDispatch, Prog.run_bind_ok (Prog.run_get builder)]
  by_cases refused : accepted = false
  · rw [if_pos refused]
    trivial
  rw [if_neg refused]
  cases builder.error with
  | some error => trivial
  | none =>
    dsimp only
    by_cases missing : builder.itemCount ≠ itemCount
    · rw [if_pos missing]
      trivial
    · obtain ⟨rest, finished⟩ := run_finish holds
      rw [if_neg missing, finished]
      exact NetIpc.Holds.responseImage_le holds _

/-- A run that is calm and then answers. -/
theorem answered_bind {program : Prog NipcError LookupBuilder α}
    {next : α → Prog NipcError LookupBuilder Nat} {invariant : LookupBuilder → Prop}
    (calm : CalmAt invariant program builder)
    (answers : ∀ value after, invariant after → Answered size ((next value).run after).1) :
    Answered size ((program >>= next).run builder).1 := by
  obtain ⟨ordinary, kept⟩ := calm
  rw [Prog.run_bind]
  match ran : program.run builder with
  | (.ok value, after) =>
    rw [ran] at kept
    exact answers value after kept
  | (.error (.err error), after) => trivial
  | (.error .panic, after) =>
    rw [ran] at ordinary
    exact ordinary.elim
  | (.error .fuel, after) =>
    rw [ran] at ordinary
    exact ordinary.elim

/-- A dispatch whose adds are calm answers for every handler: the size of the buffer is tested
before the builder is made. -/
theorem dispatchWith_answered {decode : Bytes → Res NipcError request}
    {itemCount : request → UInt32} {prepare : request → Prog NipcError LookupBuilder Unit}
    {add : ι → Prog NipcError LookupBuilder Unit}
    (decodes : ∀ req, Ordinary (fun _ => True) (decode req))
    (prepares : ∀ req view size maxItems builder, decode req = .ok view →
      Contains size maxItems builder → CalmAt (Contains size maxItems) (prepare view) builder)
    (adds : ∀ item size maxItems builder, Contains size maxItems builder →
      CalmAt (Contains size maxItems) (add item) builder)
    (handler : request → BuilderScript ι) (req resp : Bytes) :
    Answered resp.length ((dispatchWith decode itemCount prepare req
      (handleScript itemCount add handler)).run resp).1 := by
  have ordinary := decodes req
  rw [dispatchWith]
  rcases decoded : decode req with (_ | _ | _) | view
  · trivial
  · rw [decoded] at ordinary
    exact ordinary.elim
  · rw [decoded] at ordinary
    exact ordinary.elim
  · rw [Prog.ofRes_ok_bind, lookupDataOffset_eq]
    show Answered resp.length ((Prog.ofRes (okOr (some (16 + 8 * (itemCount view).toNat))
      .overflow) >>= _).run resp).1
    rw [okOr_some, Prog.ofRes_ok_bind, Prog.run_bind_ok (Prog.run_get resp)]
    by_cases short : resp.length < 16 + 8 * (itemCount view).toNat
    · rw [rejectIf_of short]
      trivial
    · have room : resp.length ≥ 16 + 8 * (itemCount view).toNat := not_lt.mp short
      have made := new_eq resp (itemCount view) 0
      rw [if_pos room] at made
      obtain ⟨holds, -⟩ := new_eq_ok made
      rw [Prog.guard_bind short, made, Prog.ofRes_ok_bind, run_withBuilder]
      refine answered_bind (prepares req view _ _ _ decoded ⟨[], holds⟩) fun _ after kept => ?_
      refine answered_bind (calmAt_perform (fun item builder => adds item _ _ builder)
        (handler view) kept) fun accepted after kept => ?_
      exact finishDispatch_answered accepted _ kept

end Answers

/-! ### Requests -/

variable (buf : Bytes)

theorem ordinary_checkedSubslice (base offset len : Nat) :
    Ordinary (fun _ => True) (checkedSubslice buf base offset len) :=
  (ordinary_okOr trivial).bind fun _ _ => (ordinary_okOr trivial).bind fun _ _ =>
    .guard trivial fun _ => trivial

section Requests

variable {κ : Type} {codec : KeyCodec κ}

theorem ordinary_keyAt {buf : Bytes} {packedStart base : Nat} (inside : base + 8 ≤ buf.length) :
    Ordinary (fun _ => True) (keyAt codec buf packedStart base) := by
  unfold keyAt
  refine (ordinary_u32At (by omega)).bind fun off _ => Ordinary.bind ?_ fun len _ =>
    ordinary_checkedSubslice _ _ _ _
  split
  · trivial
  · exact (ordinary_u32At (by omega)).bind fun _ _ => trivial

/-- A key has the length its directory entry was checked for. -/
theorem length_keyAt {buf key : Bytes} {packedStart base : Nat} {len : UInt32}
    (found : keyAt codec buf packedStart base = .ok key)
    (read : (u32At buf (base + 4) : Res NipcError UInt32) = .ok len)
    (rule : checkEntryLen len.toNat codec.minLen codec.exactLen = .ok ()) :
    checkEntryLen key.length codec.minLen codec.exactLen = .ok () := by
  unfold keyAt at found
  obtain ⟨off, -, found⟩ := bind_eq_ok found
  obtain ⟨wireLen, taken, found⟩ := bind_eq_ok found
  obtain ⟨inside, rfl⟩ := checkedSubslice_eq_ok found
  rw [length_slice _ _ _ inside]
  cases exactly : codec.exactLen with
  | none =>
    rw [exactly] at taken rule
    dsimp only at taken
    rw [read, ok_bind] at taken
    cases taken
    exact rule
  | some exact =>
    rw [exactly] at taken
    cases taken
    exact rejectIf_of_not (not_not.mpr rfl)

/-- A request is decoded without a panic if its keys are checked without one. -/
theorem ordinary_decodeLookupRequest
    (checks : ∀ key : Bytes, checkEntryLen key.length codec.minLen codec.exactLen = .ok () →
      Ordinary (fun _ => True) (codec.checkKey key)) (buf : Bytes) :
    Ordinary (fun _ => True) (decodeLookupRequest codec buf) := by
  rw [decodeLookupRequest]
  refine .guard trivial fun passed => ?_
  have long := not_lt.mp passed
  rw [lookupReqHdrSize] at long
  simp (disch := omega) only [u16At_of_le, u32At_of_le, ok_bind]
  refine .guard trivial fun _ => ?_
  refine .mul trivial fun _ => .add trivial fun _ =>
    .guard trivial fun within => ?_
  have inside := not_lt.mp within
  rw [lookupReqHdrSize, lookupDirEntrySize] at inside
  refine ordinary_validateLookupDir.bind fun _ directory => ?_
  refine Ordinary.bind (ordinary_forFrom (fun index _ _ below => ?_) ()) fun _ _ => trivial
  rw [Nat.zero_add] at below
  obtain ⟨len, read, rule⟩ := validateLookupDir_entry directory index below
  refine (ordinary_keyAt (by rw [lookupReqHdrSize, lookupDirEntrySize]; omega)).bind
    fun key found => checks key (length_keyAt found read rule)

end Requests

theorem ordinary_decodeAppsLookupRequest :
    Ordinary (fun _ => True) (decodeAppsLookupRequest buf) := by
  refine ordinary_decodeLookupRequest (fun key rule => ?_) buf
  have length : key.length = 8 := not_not.mp (rejectIf_eq_ok rule)
  exact (ordinary_u32At (by omega)).bind fun _ _ => ordinary_rejectIf trivial

theorem ordinary_decodeCgroupsLookupRequest :
    Ordinary (fun _ => True) (decodeCgroupsLookupRequest buf) := by
  refine ordinary_decodeLookupRequest (fun key rule => ?_) buf
  have length : ¬ key.length < 2 := rejectIf_eq_ok rule
  have last := List.getElem?_eq_getElem (show key.length - 1 < key.length by omega)
  refine Ordinary.bind ?_ fun _ _ => .guard trivial fun _ =>
    (ordinary_readSlice (Nat.zero_le _) (by omega)).bind fun _ _ => ordinary_rejectIf trivial
  rw [readByte, last]
  trivial

theorem ordinary_decodeCgroupsRequest : Ordinary (fun _ => True) (decodeCgroupsRequest buf) := by
  have ordinary := ordinary_decodeCgroupsLookupRequest buf
  unfold decodeCgroupsRequest
  split
  · trivial
  · rename_i reason failed
    rw [failed] at ordinary
    match reason with
    | .err error => trivial

theorem toNat_ofNat_le (value : Nat) : (UInt32.ofNat value).toNat ≤ value := by
  rw [UInt32.toNat_ofNat']
  exact Nat.mod_le _ _

/-- A view that was decoded is read without a panic. -/
theorem ordinary_payloadExceededItemLen (view : CgroupsRequest) (index : UInt32) :
    Ordinary (fun _ => True) (view.1.payloadExceededItemLen index) := by
  obtain ⟨view, bytes, decoded⟩ := view
  obtain ⟨payload, -, entries⟩ := decodeLookupRequest_eq_ok decoded
  refine .guard trivial fun below => ?_
  have inside : index < view.itemCount := UInt32.not_le.mp below
  obtain ⟨_, -, -, len, read, -⟩ := entries index.toNat (UInt32.lt_iff_toNat_lt.mp inside)
  rw [show lookupDirEntryOffset lookupReqHdrSize index = .ok (16 + 8 * index.toNat) from
    lookupDirEntryOffset_eq index, ok_bind, payload, read, ok_bind]
  exact ordinary_okOr trivial

theorem calmAt_prepareCgroupsLookup {size : Nat} {maxItems : UInt32} {builder : LookupBuilder}
    (view : CgroupsRequest) (contains : Contains size maxItems builder) :
    CalmAt (Contains size maxItems) (prepareCgroupsLookup view.1) builder := by
  unfold prepareCgroupsLookup
  refine CalmAt.ite (fun _ => ?_) fun _ => calmAt_pure () contains
  refine calmAt_ofRes_bind (ordinary_okOr trivial) contains fun _ _ => ?_
  refine calmAt_ofRes_bind (ordinary_collectFrom fun index =>
    ordinary_payloadExceededItemLen view _) contains fun lens _ => ?_
  refine (calmAt_setPayloadExceededItemLens lens contains).follow fun _ after kept => ?_
  refine calmAt_get_bind ?_
  cases after.error with
  | some error => exact calmAt_fail error kept
  | none => exact calmAt_pure () kept

theorem ordinary_cgroupsAdd_item (call : CgroupsAdd) : Ordinary (fun _ => True) call.item := by
  cases call with
  | add item => trivial
  | addRequestItem request index status orchestrator name labels =>
    obtain ⟨view, bytes, decoded⟩ := request
    obtain ⟨payload, start, entries⟩ := decodeLookupRequest_eq_ok decoded
    have read : Ordinary (fun _ => True) (view.item cgroupsKeyCodec index) ∧
        ∀ path, view.item cgroupsKeyCodec index = .ok path →
          path.len.toNat ≤ path.bytes.length := by
      rw [LookupRequestView.item]
      by_cases below : index ≥ view.itemCount
      · rw [rejectIf_of below]
        exact ⟨trivial, fun _ found => by cases found⟩
      · obtain ⟨key, found, -⟩ := entries index.toNat
          (UInt32.lt_iff_toNat_lt.mp (UInt32.not_le.mp below))
        rw [guard_bind below, show lookupDirEntryOffset lookupReqHdrSize index =
          .ok (16 + 8 * index.toNat) from lookupDirEntryOffset_eq index, ok_bind, payload, found,
          ok_bind]
        refine ⟨trivial, ?_⟩
        rintro path ⟨⟩
        exact (toNat_ofNat_le _).trans (Nat.sub_le _ _)
    refine read.1.bind fun path found => Ordinary.bind ?_ fun _ _ => trivial
    exact ordinary_readSlice (Nat.zero_le _) (read.2 path found)

theorem calmAt_cgroupsAdd {size : Nat} {builder : LookupBuilder} (call : CgroupsAdd)
    (sound : LookupBuilder.Sound size builder) :
    CalmAt (LookupBuilder.Sound size) call.program builder :=
  calmAt_ofRes_bind (ordinary_cgroupsAdd_item call) sound fun item _ =>
    calmAt_addCgroupsItemWithPath item _ builder sound

/-! ### The adaptors -/

theorem lookupDispatch_answered {dispatch : Bytes → Prog NipcError Bytes Nat} {request buf : Bytes}
    (answered : Answered buf.length ((dispatch request).run buf).1) :
    Answered buf.length ((lookupDispatch dispatch request).run buf).1 := by
  show Answered buf.length (mapError dispatchErrorFromProtocol ((dispatch request).run buf).1)
  generalize ((dispatch request).run buf).1 = result at answered ⊢
  match result with
  | .ok n => exact answered
  | .error (.err error) => trivial

theorem Adaptive.appsLookupDispatch_answered
    (handler : LookupRequestView → BuilderScript AppsItem) (request buf : Bytes) :
    Answered buf.length ((Adaptive.appsLookupDispatch handler request).run buf).1 := by
  refine lookupDispatch_answered (dispatchWith_answered ordinary_decodeAppsLookupRequest ?_ ?_
    handler request buf)
  · intro req view size maxItems builder _ contains
    unfold prepareAppsLookup
    refine CalmAt.ite (fun _ => calmAt_modify ?_) fun _ => calmAt_pure () contains
    obtain ⟨items, holds⟩ := contains
    exact ⟨items, holds.other rfl⟩
  · intro item size maxItems builder contains
    obtain ⟨items, holds⟩ := contains
    exact calmAt_of_outcome (addAppsItem_outcome item holds)
      (calmAt_addAppsItem item builder (Contains.sound ⟨items, holds⟩))

theorem Adaptive.cgroupsLookupDispatch_answered
    (handler : CgroupsRequest → BuilderScript CgroupsAdd) (request buf : Bytes) :
    Answered buf.length ((Adaptive.cgroupsLookupDispatch handler request).run buf).1 := by
  refine lookupDispatch_answered (dispatchWith_answered ordinary_decodeCgroupsRequest ?_ ?_
    handler request buf)
  · exact fun req view size maxItems builder _ contains =>
      calmAt_prepareCgroupsLookup view contains
  · intro call size maxItems builder contains
    obtain ⟨items, holds⟩ := contains
    exact calmAt_of_outcome (cgroupsAdd_outcome call holds)
      (calmAt_cgroupsAdd call (Contains.sound ⟨items, holds⟩))

namespace Snapshot

/-- The estimate leaves room for the directory it asks for. -/
theorem estimateCgroupsMaxItems_le {bufSize : Nat} (some : estimateCgroupsMaxItems bufSize ≠ 0) :
    24 + 8 * (estimateCgroupsMaxItems bufSize).toNat ≤ bufSize := by
  unfold estimateCgroupsMaxItems at some ⊢
  by_cases small : bufSize ≤ cgroupsRespHdrSize
  · rw [if_pos small] at some
    exact absurd rfl some
  · rw [if_neg small]
    rw [cgroupsRespHdrSize] at small ⊢
    have wrapped := toNat_ofNat_le ((bufSize - 24) /
      (cgroupsDirEntrySize + align8 (cgroupsItemHdrSize + 2)))
    have divided : (bufSize - 24) / (cgroupsDirEntrySize + align8 (cgroupsItemHdrSize + 2)) ≤
        (bufSize - 24) / 8 := Nat.div_le_div_left (by decide) (by decide)
    dsimp only
    omega

theorem ordinary_decodeRequest (buf : Bytes) :
    Ordinary (fun _ => True) (CgroupsRequest.decode buf) := by
  rw [CgroupsRequest.decode]
  refine .guard trivial fun passed => ?_
  have long := not_lt.mp passed
  rw [cgroupsReqSize] at long
  exact (ordinary_u16At (by omega)).bind fun _ _ => (ordinary_u16At (by omega)).bind fun _ _ =>
    .guard trivial fun _ => .guard trivial fun _ => trivial

/-- The directory of the builder fits the buffer unless the configured number is too large. -/
theorem directory_fits_iff {maxItems : UInt32} {len : Nat}
    (some : snapshotMaxItems len maxItems ≠ 0) :
    24 + 8 * (snapshotMaxItems len maxItems).toNat ≤ len ↔
      maxItems = 0 ∨ 24 + 8 * maxItems.toNat ≤ len := by
  unfold snapshotMaxItems at some ⊢
  by_cases configured : maxItems = 0
  · rw [if_neg (not_not.mpr configured)] at some ⊢
    exact ⟨fun _ => .inl configured, fun _ => estimateCgroupsMaxItems_le some⟩
  · rw [if_pos configured]
    exact (or_iff_right configured).symm

/-- The snapshot adaptor answers unless it makes a builder whose directory does not fit. -/
theorem snapshotDispatch_answered_iff (handler : CgroupsRequest → Script) (maxItems : UInt32)
    (request buf : Bytes) :
    Answered buf.length ((snapshotDispatch handler maxItems request).run buf).1 ↔
      ((∀ decoded, CgroupsRequest.decode request ≠ .ok decoded) ∨ maxItems = 0 ∨
        24 + 8 * maxItems.toNat ≤ buf.length) := by
  have ordinary := ordinary_decodeRequest request
  rw [snapshotDispatch]
  match decodes : CgroupsRequest.decode request with
  | .error (.err error) =>
    rw [snapshotDispatchTraced, decodes]
    exact ⟨fun _ => .inl (fun _ accepted => by cases accepted), fun _ => trivial⟩
  | .error .panic =>
    rw [decodes] at ordinary
    exact ordinary.elim
  | .error .fuel =>
    rw [decodes] at ordinary
    exact ordinary.elim
  | .ok decoded =>
    by_cases empty : snapshotMaxItems buf.length maxItems = 0
    · have refused : ((snapshotDispatchTraced handler maxItems request).run buf) =
          (.error (.err .overflow), buf) := by
        rw [snapshotDispatchTraced, decodes, mapError, Prog.ofRes_ok_bind,
          Prog.run_bind_ok (Prog.run_get buf)]
        dsimp only
        rw [rejectIf_of empty]
        rfl
      have unconfigured : maxItems = 0 := by
        by_contra configured
        rw [snapshotMaxItems, if_pos configured] at empty
        exact configured empty
      rw [Prog.run_bind_error refused]
      exact ⟨fun _ => .inr (.inl unconfigured), fun _ => trivial⟩
    · rw [← directory_fits_iff empty]
      by_cases room : 24 + 8 * (snapshotMaxItems buf.length maxItems).toNat ≤ buf.length
      · obtain ⟨calls, accepted, between, final, -, outcome⟩ :=
          snapshotDispatchTraced_run ⟨decodes, empty, room⟩ handler
        refine ⟨fun _ => .inr room, fun _ => ?_⟩
        rcases outcome with ⟨-, ran⟩ | ⟨size, ran, inside, -⟩
        · rw [Prog.run_bind_ok ran]
          trivial
        · rw [Prog.run_bind_ok ran]
          exact inside
      · have panics : (snapshotDispatchTraced handler maxItems request).run buf =
            (.error .panic, buf) := by
          rw [snapshotDispatchTraced, decodes, mapError, Prog.ofRes_ok_bind,
            Prog.run_bind_ok (Prog.run_get buf)]
          dsimp only
          rw [Prog.guard_bind empty, CgroupsBuilder.new_eq, if_neg room]
          rfl
        rw [Prog.run_bind_error panics]
        refine ⟨fun answered => absurd answered (not_answered_of_panic rfl), ?_⟩
        rintro (never | fits)
        · exact absurd rfl (never decoded)
        · exact absurd fits room

end Snapshot

/-- The lookup adaptors answer every request, for every handler and every buffer. The snapshot
adaptor does so exactly if the request is not one, or no number of items is configured, or the
directory of the configured number fits the buffer. -/
theorem dispatchAdaptors_answered_iff (request buf : Bytes) :
    (∀ handler : LookupRequestView → BuilderScript AppsItem,
      Answered buf.length ((Adaptive.appsLookupDispatch handler request).run buf).1) ∧
    (∀ handler : CgroupsRequest → BuilderScript CgroupsAdd,
      Answered buf.length ((Adaptive.cgroupsLookupDispatch handler request).run buf).1) ∧
    ∀ (handler : Snapshot.CgroupsRequest → Snapshot.Script) (maxItems : UInt32),
      Answered buf.length ((Snapshot.snapshotDispatch handler maxItems request).run buf).1 ↔
        ((∀ decoded, Snapshot.CgroupsRequest.decode request ≠ .ok decoded) ∨ maxItems = 0 ∨
          24 + 8 * maxItems.toNat ≤ buf.length) :=
  ⟨fun handler => Adaptive.appsLookupDispatch_answered handler request buf,
    fun handler => Adaptive.cgroupsLookupDispatch_answered handler request buf,
    fun handler maxItems => Snapshot.snapshotDispatch_answered_iff handler maxItems request buf⟩

/-- A server configured for 100 items and a response buffer of 512 bytes: the directory alone
would take 824, and a well-formed request panics. -/
theorem snapshotDispatch_not_answered :
    ¬ ∀ (handler : Snapshot.CgroupsRequest → Snapshot.Script) (maxItems : UInt32)
      (request buf : Bytes),
      Answered buf.length ((Snapshot.snapshotDispatch handler maxItems request).run buf).1 := by
  intro answers
  obtain ⟨handler, maxItems, request, buf, panics⟩ : ∃ handler maxItems request buf,
      ((Snapshot.snapshotDispatch handler maxItems request).run buf).1 = .error .panic :=
    ⟨fun _ => .done true, 100, [1, 0, 0, 0], zeros 512, by decide +kernel⟩
  exact not_answered_of_panic panics (answers handler maxItems request buf)

end NetIpc
