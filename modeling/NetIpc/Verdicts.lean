/-
This file applies the theory of batches to the two lookup methods: what the builder
answers to a proper item, and which statuses a client then reads.

`dispatch_degrades` says that a handler that answers its keys in order is never
refused as long as the placeholders of all keys fit. `oversized_sound_iff` says when
an OVERSIZED_ITEM verdict is right about an item that travels with others.
-/

import NetIpc.AppsDispatch
import NetIpc.CgroupsDispatch
import NetIpc.Degrade

namespace NetIpc

open LookupBuilder

/-! ### Apps -/

/-- The answers to an apps item. -/
def appsAnswer (item : AppsItem) : Answer where
  known := item.status = pidLookupKnown
  encodable := item.labels.length < 2 ^ 16
  full := if item.status = pidLookupKnown then item.image else
    (AppsItem.placeholder item.status item.pid).image
  exceeded := (AppsItem.placeholder pidLookupPayloadExceeded item.pid).image
  oversized := (AppsItem.placeholder pidLookupOversizedItem item.pid).image
  same := by rw [AppsItem.length_placeholder, AppsItem.length_placeholder]
  plain := fun other => by
    rw [if_neg (of_decide_eq_false other), AppsItem.length_placeholder, AppsItem.length_placeholder]

theorem length_exceeded_apps (item : AppsItem) : (appsAnswer item).exceeded.length = 63 := by
  rw [appsAnswer]
  exact AppsItem.length_placeholder _ _

variable {item : AppsItem}

theorem full_appsAnswer (proper : item.Proper) : (appsAnswer item).full = item.image := by
  by_cases known : item.status = pidLookupKnown
  · exact if_pos known
  · refine (if_neg known).trans ?_
    rw [← eq_appsPlaceholder_of_semantics proper.semantics known]

theorem addAppsItem_decides (proper : item.Proper) :
    Decides (addAppsItem item) (appsAnswer item) := by
  rw [addAppsItem, proper.semantics, noteAppsItemOverflow]
  change Decides (addItem _ (appsAnswer item).known _ _ _ _ _) _
  refine addItem_decides ?_ ?_ (fun other => ?_) fun known => ?_
  · rw [appsAnswer]
    exact addNonKnownAppsItem_places _ _
  · rw [appsAnswer]
    exact addNonKnownAppsItem_places _ _
  · have places := addNonKnownAppsItem_places item.status item.pid
    rwa [← eq_appsPlaceholder_of_semantics proper.semantics (of_decide_eq_false other),
      ← full_appsAnswer proper] at places
  · rw [full_appsAnswer proper]
    rcases planAppsItem_of_proper item proper (of_decide_eq_true known) with
      ⟨plan, planned⟩ | ⟨planned, past⟩
    · obtain ⟨-, few, -, sized, writes⟩ := planAppsItem_eq_ok item planned
      exact .inl ⟨plan, planned, decide_eq_true few, writes, sized⟩
    · exact .inr ⟨planned, fun both => past ⟨of_decide_eq_true both.1, both.2⟩⟩

theorem readsAs_apps (valid : item.Valid) :
    ReadsAs appsItemCodec AppsLookupItemView.status item.image item.status := by
  intro small
  have total := item.length_image
  have fixed := item.length_front
  exact ⟨show 60 ≤ item.image.length by omega, item.view,
    decodeAppsItem_of_valid item valid small, rfl⟩

theorem readable_apps (proper : item.Proper) :
    Readable appsItemCodec AppsLookupItemView.status pidLookupPayloadExceeded
      pidLookupOversizedItem (appsAnswer item) item.status where
  full := by
    intro encodable
    rw [full_appsAnswer proper]
    refine readsAs_apps ⟨proper, ?_⟩
    by_cases known : item.status = pidLookupKnown
    · exact of_decide_eq_true (encodable (decide_eq_true known))
    · rw [eq_appsPlaceholder_of_semantics proper.semantics known]
      exact (by decide : (0 : Nat) < 2 ^ 16)
  exceeded := readsAs_apps (valid_appsPlaceholder item.pid (.inr rfl))
  oversized := readsAs_apps (valid_appsPlaceholder item.pid (.inl rfl))

/-- The items answer the pids of the request in order, and each is one `add` accepts. -/
structure AnswersPids (request : LookupRequestView) (items : List AppsItem) : Prop where
  counted : items.length = request.itemCount.toNat
  pids : ∀ index item, items[index]? = some item →
    request.item appsKeyCodec (UInt32.ofNat index) = .ok item.pid
  proper : ∀ item ∈ items, item.Proper

/-- The builder of an apps dispatch keeps space for placeholders of one length. -/
theorem handlerBuilder_apps {request : LookupRequestView} {resp : Bytes}
    (room : 16 + 8 * request.itemCount.toNat ≤ resp.length) :
    ∃ start, handlerBuilder LookupRequestView.itemCount prepareAppsLookup request resp =
      .ok start := by
  rw [handlerBuilder, new_eq, if_pos room, ok_bind, prepareAppsLookup]
  by_cases some : request.itemCount > 0
  · rw [if_pos some]
    exact ⟨_, rfl⟩
  · rw [if_neg some]
    exact ⟨_, rfl⟩

theorem reserves_apps {request : LookupRequestView} {resp : Bytes} {start : LookupBuilder}
    (started : handlerBuilder LookupRequestView.itemCount prepareAppsLookup request resp =
      .ok start) :
    Reserves request.itemCount (List.replicate request.itemCount.toNat 63) start := by
  refine ⟨List.length_replicate, fun some => .inr ⟨63, by decide, ?_, rfl⟩⟩
  rw [handlerBuilder] at started
  obtain ⟨builder, -, started⟩ := bind_eq_ok started
  have positive : request.itemCount > 0 := UInt32.lt_iff_toNat_lt.mpr some
  rw [prepareAppsLookup, if_pos positive] at started
  cases started
  rfl

section Apps

variable {req resp : Bytes} {handler : AppsLookupHandler} {request : LookupRequestView}
  {items : List AppsItem} (decoded : decodeAppsLookupRequest req = .ok request)
  (adds : addsOf (handler request).1 = items) (answers : AnswersPids request items)

include adds answers in
theorem decides_apps :
    List.Forall₂ (fun item answer => Decides (addAppsItem item) answer)
      (addsOf (handler request).1) (items.map appsAnswer) := by
  rw [adds, List.forall₂_map_right_iff, List.forall₂_same]
  exact fun item member => addAppsItem_decides (answers.proper item member)

include decoded adds answers

/-- The statuses a client reads after a dispatch that answered the pids. -/
theorem statuses_apps (addressable : resp.length < 2 ^ 63) {size : Nat} {final : Bytes}
    {added : List AppsItem}
    (ran : (dispatchAppsLookupTraced req handler).run resp = (.ok (size, added), final)) :
    ShowsBatch appsItemCodec AppsLookupItemView.status pidLookupPayloadExceeded
      pidLookupOversizedItem resp.length (List.replicate items.length 63) appsAnswer
      AppsItem.status items (final.take size) := by
  rw [dispatchAppsLookupTraced] at ran
  rw [answers.counted]
  exact showsBatch_of_run decoded (prepareAppsLookup_prepares request) (decides_apps adds answers)
    answers.counted addressable (fun _ => reserves_apps)
    (fun item member => readable_apps (answers.proper item member)) ran

/-- An apps dispatch answers every pid when the placeholders fit. -/
theorem dispatchAppsLookupTraced_ok (small : resp.length < 2 ^ 32)
    (room : 16 + 8 * items.length + reserve (List.replicate items.length 63) ≤ resp.length)
    (accepted : (handler request).2 = true) :
    ∃ size final, (dispatchAppsLookupTraced req handler).run resp = (.ok (size, items), final) := by
  obtain ⟨start, started⟩ := handlerBuilder_apps
    (show 16 + 8 * request.itemCount.toNat ≤ resp.length by rw [← answers.counted]; omega)
  have lengths : List.replicate request.itemCount.toNat 63 =
      (items.map appsAnswer).map fun answer => answer.exceeded.length := by
    rw [List.map_map, ← answers.counted]
    refine (List.eq_replicate_iff.mpr ⟨List.length_map _, fun len member => ?_⟩).symm
    obtain ⟨item, -, rfl⟩ := List.mem_map.mp member
    rw [Function.comp_apply, length_exceeded_apps item]
  rw [dispatchAppsLookupTraced, ← adds]
  exact dispatchTraced_ok decoded (prepareAppsLookup_prepares request) (decides_apps adds answers)
    (by rw [List.length_map, answers.counted]) small started (reserves_apps started) lengths
    (by rwa [← answers.counted]) accepted

end Apps

/-! ### Cgroups -/

/-- The answers to a cgroups item. -/
def cgroupsAnswer (item : CgroupsItem) : Answer where
  known := item.status = cgroupLookupKnown
  encodable := item.labels.length < 2 ^ 16
  full := if item.status = cgroupLookupKnown then item.image else
    (CgroupsItem.placeholder item.status item.path).image
  exceeded := (CgroupsItem.placeholder cgroupLookupPayloadExceeded item.path).image
  oversized := (CgroupsItem.placeholder cgroupLookupOversizedItem item.path).image
  same := by rw [CgroupsItem.length_placeholder, CgroupsItem.length_placeholder]
  plain := fun other => by
    rw [if_neg (of_decide_eq_false other), CgroupsItem.length_placeholder,
      CgroupsItem.length_placeholder]

variable {item : CgroupsItem}

theorem full_cgroupsAnswer (proper : item.Proper) : (cgroupsAnswer item).full = item.image := by
  by_cases known : item.status = cgroupLookupKnown
  · exact if_pos known
  · refine (if_neg known).trans ?_
    rw [← eq_placeholder_of_semantics proper.semantics known]

theorem CgroupsItem.Proper.path_ne_nil (proper : item.Proper) : item.path ≠ [] := by
  have semantics := proper.semantics
  rw [validateCgroupsLookupSemantics] at semantics
  obtain ⟨_, -, semantics⟩ := bind_eq_ok semantics
  obtain ⟨_, nonempty, -⟩ := bind_eq_ok semantics
  exact mt List.length_eq_zero_iff.mpr (rejectIf_eq_ok nonempty)

theorem checkCgroupsItem_of_proper (proper : item.Proper) (pathValidated : Bool) :
    checkCgroupsItem item pathValidated = .ok () := by
  have path : ¬ sourceStringInvalid item.path true = true := by
    rw [Bool.not_eq_true, sourceStringInvalid_false_iff]
    exact ⟨fun _ => proper.path_ne_nil, proper.pathClean⟩
  have name : ¬ sourceStringInvalid item.name false = true := by
    rw [Bool.not_eq_true, sourceStringInvalid_false_iff]
    exact ⟨nofun, proper.nameClean⟩
  rw [checkCgroupsItem, proper.semantics, ok_bind,
    rejectIf_of_not (not_or.mpr ⟨fun both => path both.2, name⟩)]

theorem cgroupsAdd_decides {call : CgroupsAdd} (taken : call.item = .ok item)
    (proper : item.Proper) : Decides call.program (cgroupsAnswer item) := by
  rw [CgroupsAdd.program, taken, Prog.ofRes_ok_bind, addCgroupsItemWithPath,
    checkCgroupsItem_of_proper proper, noteCgroupsItemOverflow]
  change Decides (addItem _ (cgroupsAnswer item).known _ _ _ _ _) _
  refine addItem_decides ?_ ?_ (fun other => ?_) fun _ => ?_
  · rw [cgroupsAnswer]
    exact addNonKnownCgroupsItem_places _ _
  · rw [cgroupsAnswer]
    exact addNonKnownCgroupsItem_places _ _
  · have places := addNonKnownCgroupsItem_places item.status item.path
    rwa [← eq_placeholder_of_semantics proper.semantics (of_decide_eq_false other),
      ← full_cgroupsAnswer proper] at places
  · rw [full_cgroupsAnswer proper]
    rcases planCgroupsItem_of_proper item proper.labels with ⟨plan, planned⟩ | ⟨planned, past⟩
    · obtain ⟨few, -, sized, writes⟩ := planCgroupsItem_eq_ok item planned
      exact .inl ⟨plan, planned, decide_eq_true few, writes, sized⟩
    · exact .inr ⟨planned, fun both => past ⟨of_decide_eq_true both.1, both.2⟩⟩

theorem readsAs_cgroups (valid : item.Valid) :
    ReadsAs cgroupsItemCodec CgroupsLookupItemView.status item.image item.status := by
  intro small
  have total := item.length_image
  have fixed := item.length_front
  exact ⟨show 28 ≤ item.image.length by omega, item.view,
    decodeCgroupsItem_of_valid item valid small, rfl⟩

theorem readable_cgroups (proper : item.Proper) :
    Readable cgroupsItemCodec CgroupsLookupItemView.status cgroupLookupPayloadExceeded
      cgroupLookupOversizedItem (cgroupsAnswer item) item.status where
  full := by
    intro encodable
    rw [full_cgroupsAnswer proper]
    refine readsAs_cgroups ⟨proper, ?_⟩
    by_cases known : item.status = cgroupLookupKnown
    · exact of_decide_eq_true (encodable (decide_eq_true known))
    · rw [eq_placeholder_of_semantics proper.semantics known]
      exact (by decide : (0 : Nat) < 2 ^ 16)
  exceeded := readsAs_cgroups (valid_placeholder (.inr rfl) proper.path_ne_nil proper.pathClean)
  oversized := readsAs_cgroups (valid_placeholder (.inl rfl) proper.path_ne_nil proper.pathClean)

/-- The calls answer the paths of the request in order, each with an item an add accepts. -/
structure AnswersPaths (request : CgroupsRequest) (calls : List CgroupsAdd)
    (items : List CgroupsItem) : Prop where
  counted : items.length = request.1.itemCount.toNat
  taken : List.Forall₂ (fun call item => call.item = .ok item) calls items
  paths : ∀ index item, items[index]? = some item →
    request.1.item cgroupsKeyCodec (UInt32.ofNat index) = .ok (StrView.of item.path)
  proper : ∀ item ∈ items, item.Proper

/-- The lengths of the placeholders for the paths. -/
def placeholderLens (items : List CgroupsItem) : List Nat :=
  items.map fun item => 30 + item.path.length

theorem placeholderLens_pos (items : List CgroupsItem) :
    ∀ len ∈ placeholderLens items, 0 < len := by
  intro len member
  obtain ⟨item, -, rfl⟩ := List.mem_map.mp member
  omega

section Cgroups

variable {req resp : Bytes} {handler : CgroupsLookupHandler} {request : CgroupsRequest}
  {calls : List CgroupsAdd} {items : List CgroupsItem} (answers : AnswersPaths request calls items)

include answers

/-- The lengths the dispatch computes from the request are those of the placeholders. -/
theorem collect_placeholderLens :
    collectFrom (fun index => request.1.payloadExceededItemLen (UInt32.ofNat index)) 0
      request.1.itemCount.toNat = .ok (placeholderLens items) := by
  rw [← answers.counted, ← List.length_map (fun item : CgroupsItem => 30 + item.path.length)]
  refine collectFrom_of_getElem? _ 0 _ fun index len found => ?_
  rw [List.getElem?_map] at found
  obtain ⟨item, here, rfl⟩ := Option.map_eq_some_iff.mp found
  obtain ⟨bound, -⟩ := List.getElem?_eq_some_iff.mp here
  obtain ⟨payload, decoded⟩ := request.2
  obtain ⟨path, key⟩ := requestPath_of_decoded decoded index (answers.counted ▸ bound)
  have same := key.item
  rw [answers.paths index item here] at same
  have bytes : item.path ++ [0] = path ++ [0] := congrArg StrView.bytes (Except.ok.inj same)
  rw [Nat.zero_add, List.append_cancel_right bytes]
  exact key.placeholder

theorem reserves_cgroups {start : LookupBuilder}
    (started : handlerBuilder (fun request : CgroupsRequest => request.1.itemCount)
      (fun request => prepareCgroupsLookup request.1) request resp = .ok start) :
    Reserves request.1.itemCount (placeholderLens items) start := by
  refine ⟨(List.length_map _).trans answers.counted, fun some => .inl ?_⟩
  have positive : request.1.itemCount > 0 := UInt32.lt_iff_toNat_lt.mpr some
  rw [handlerBuilder] at started
  obtain ⟨builder, -, started⟩ := bind_eq_ok started
  cases prepared : (prepareCgroupsLookup request.1).run builder with
  | mk result after =>
    rw [prepared] at started
    obtain ⟨_, rfl, done⟩ := bind_eq_ok started
    cases done
    rw [prepareCgroupsLookup, if_pos positive] at prepared
    obtain ⟨_, -, prepared⟩ := Prog.run_ofRes_bind_eq_ok prepared
    rw [collect_placeholderLens answers, Prog.ofRes_ok_bind, setPayloadExceededItemLens] at prepared
    cases table : payloadExceededSuffixBytesFromLens (placeholderLens items) with
    | ok sums =>
      rw [table] at prepared
      obtain ⟨_, middle, set, prepared⟩ := Prog.run_bind_eq_ok prepared
      cases set
      rw [Prog.run_bind_ok (Prog.run_get _)] at prepared
      rw [payloadExceededSuffixBytesFromLens] at table
      iterate 2 obtain ⟨_, -, table⟩ := bind_eq_ok table
      obtain rfl := suffixSums_eq_ok (placeholderLens_pos items) table
      dsimp only at prepared
      split at prepared
      · cases prepared
      · cases prepared
        exact ⟨rfl, rfl⟩
    | error reason =>
      rw [table] at prepared
      cases reason with
      | err error => cases prepared
      | panic => cases prepared
      | fuel => cases prepared

theorem handlerBuilder_cgroups (room : 16 + 8 * items.length ≤ resp.length)
    (small : reserve (placeholderLens items) + 8 ≤ 2 ^ 32) :
    ∃ start, handlerBuilder (fun request : CgroupsRequest => request.1.itemCount)
      (fun request => prepareCgroupsLookup request.1) request resp = .ok start := by
  have table : payloadExceededSuffixBytesFromLens (placeholderLens items) =
      .ok (reserveTable (placeholderLens items)) := by
    have bound := request.1.itemCount.toNat_lt
    have count := answers.counted
    rw [payloadExceededSuffixBytesFromLens, placeholderLens, List.length_map,
      add_bind (by omega), ← placeholderLens,
      checkLens_of_lt (fun len member => by have := mem_le_reserve member; omega), ok_bind,
      suffixSums_of_lt (placeholderLens_pos items) small]
  rw [handlerBuilder, new_eq, if_pos (by rwa [← answers.counted]), ok_bind, prepareCgroupsLookup]
  by_cases some : request.1.itemCount > 0
  · have bound := request.1.itemCount.toNat_lt
    rw [if_pos some]
    dsimp only
    rw [Prog.add_bind (by omega),
      collect_placeholderLens answers, Prog.ofRes_ok_bind, setPayloadExceededItemLens, table]
    exact ⟨_, rfl⟩
  · rw [if_neg some]
    exact ⟨_, rfl⟩

theorem decides_cgroups :
    List.Forall₂ (fun (call : CgroupsAdd) answer => Decides call.program answer) calls
      (items.map cgroupsAnswer) := by
  rw [List.forall₂_map_right_iff, List.forall₂_iff_get]
  obtain ⟨same, each⟩ := List.forall₂_iff_get.mp answers.taken
  exact ⟨same, fun index here there =>
    cgroupsAdd_decides (each index here there) (answers.proper _ (List.get_mem _ _))⟩

/-- The statuses a client reads after a dispatch that answered the paths. -/
theorem statuses_cgroups (decoded : decodeCgroupsRequest req = .ok request)
    (adds : addsOf (handler request).1 = calls) (addressable : resp.length < 2 ^ 63) {size : Nat}
    {final : Bytes} {added : List CgroupsAdd}
    (ran : (dispatchCgroupsLookupTraced req handler).run resp = (.ok (size, added), final)) :
    ShowsBatch cgroupsItemCodec CgroupsLookupItemView.status cgroupLookupPayloadExceeded
      cgroupLookupOversizedItem resp.length (placeholderLens items) cgroupsAnswer
      CgroupsItem.status items (final.take size) := by
  subst adds
  rw [dispatchCgroupsLookupTraced] at ran
  exact showsBatch_of_run decoded (prepareCgroupsLookup_prepares request.1)
    (decides_cgroups answers) answers.counted addressable (fun _ => reserves_cgroups answers)
    (fun item member => readable_cgroups (answers.proper item member)) ran

/-- A cgroups dispatch answers every path when the placeholders fit. -/
theorem dispatchCgroupsLookupTraced_ok (decoded : decodeCgroupsRequest req = .ok request)
    (adds : addsOf (handler request).1 = calls) (small : resp.length < 2 ^ 32)
    (room : 16 + 8 * items.length + reserve (placeholderLens items) ≤ resp.length)
    (accepted : (handler request).2 = true) :
    ∃ size final, (dispatchCgroupsLookupTraced req handler).run resp =
      (.ok (size, calls), final) := by
  obtain ⟨start, started⟩ := handlerBuilder_cgroups answers
    (show 16 + 8 * items.length ≤ resp.length by omega)
    (show reserve (placeholderLens items) + 8 ≤ 2 ^ 32 by omega)
  have lengths : placeholderLens items =
      (items.map cgroupsAnswer).map fun answer => answer.exceeded.length := by
    rw [List.map_map]
    refine List.map_congr_left fun item _ => ?_
    rw [Function.comp_apply, cgroupsAnswer]
    exact (CgroupsItem.length_placeholder _ _).symm
  subst adds
  rw [dispatchCgroupsLookupTraced]
  exact dispatchTraced_ok decoded (prepareCgroupsLookup_prepares request.1)
    (decides_cgroups answers) ((List.length_map _).trans answers.counted) small started
    (reserves_cgroups answers started) lengths (by rwa [← answers.counted]) accepted

end Cgroups

/-! ### The verdict on an oversized item -/

theorem run_dispatchAppsLookup {req resp final : Bytes} {handler : AppsLookupHandler} {size : Nat} :
    (dispatchAppsLookup req handler).run resp = (.ok size, final) ↔
      ∃ added, (dispatchAppsLookupTraced req handler).run resp = (.ok (size, added), final) :=
  Prog.run_bind_fst_eq_ok

theorem run_dispatchCgroupsLookup {req resp final : Bytes} {handler : CgroupsLookupHandler}
    {size : Nat} :
    (dispatchCgroupsLookup req handler).run resp = (.ok size, final) ↔
      ∃ added, (dispatchCgroupsLookupTraced req handler).run resp = (.ok (size, added), final) :=
  Prog.run_bind_fst_eq_ok

/-- A handler that answers every key in order with a KNOWN item gets a sound verdict on all of them
exactly when the first item leaves room for the placeholders of the others. -/
theorem oversized_sound_iff (req resp final : Bytes) (size : Nat) :
    (∀ (handler : AppsLookupHandler) (request : LookupRequestView) (items : List AppsItem),
      resp.length < 2 ^ 63 → decodeAppsLookupRequest req = .ok request →
      addsOf (handler request).1 = items →
      AnswersPids request items → (∀ item ∈ items, item.status = pidLookupKnown) →
      (dispatchAppsLookup req handler).run resp = (.ok size, final) →
      (OversizedSound (statusAt appsItemCodec AppsLookupItemView.status (final.take size))
          pidLookupOversizedItem resp.length (fun item => item.image.length) items ↔
        FirstLeavesRoom resp.length (List.replicate items.length 63)
          (fun item => item.image.length) (fun item => item.labels.length) items)) ∧
    (∀ (handler : CgroupsLookupHandler) (request : CgroupsRequest) (calls : List CgroupsAdd)
      (items : List CgroupsItem), resp.length < 2 ^ 63 →
      decodeCgroupsRequest req = .ok request → addsOf (handler request).1 = calls →
      AnswersPaths request calls items → (∀ item ∈ items, item.status = cgroupLookupKnown) →
      (dispatchCgroupsLookup req handler).run resp = (.ok size, final) →
      (OversizedSound (statusAt cgroupsItemCodec CgroupsLookupItemView.status (final.take size))
          cgroupLookupOversizedItem resp.length (fun item => item.image.length) items ↔
        FirstLeavesRoom resp.length (placeholderLens items) (fun item => item.image.length)
          (fun item => item.labels.length) items)) := by
  constructor
  · intro handler request items addressable decoded adds answers known ran
    obtain ⟨added, traced⟩ := run_dispatchAppsLookup.mp ran
    refine oversizedSound_iff (statuses_apps decoded adds answers addressable traced) (by decide)
      (fun item member => ?_) (fun item member => ?_) (fun item _ => rfl) fun item member => ?_
    · rw [known item member]
      decide
    · exact decide_eq_true (known item member)
    · rw [full_appsAnswer (answers.proper item member)]
  · intro handler request calls items addressable decoded adds answers known ran
    obtain ⟨added, traced⟩ := run_dispatchCgroupsLookup.mp ran
    refine oversizedSound_iff (statuses_cgroups answers decoded adds addressable traced)
      (by decide) (fun item member => ?_) (fun item member => ?_) (fun item _ => rfl)
      fun item member => ?_
    · rw [known item member]
      decide
    · exact decide_eq_true (known item member)
    · rw [full_cgroupsAnswer (answers.proper item member)]

/-- A request for the pids 7 and 9. -/
def twoPidsRequest : Bytes :=
  responseImage 0 [leBytes 4 7 ++ leBytes 4 0, leBytes 4 9 ++ leBytes 4 0]

/-- A process outside any cgroup: an item of 65 bytes. -/
def shellItem (pid : UInt32) : AppsItem :=
  ⟨pidLookupKnown, appsCgroupHostRoot, 0, pid, 1, 0, 42, [115, 104], [], [], []⟩

def twoPidsHandler : AppsLookupHandler := fun _ =>
  ([.add (shellItem 7), .add (shellItem 9)], true)

theorem proper_shellItem (pid : UInt32) : (shellItem pid).Proper where
  semantics := rfl
  commClean := (by decide : (0 : UInt8) ∉ [115, 104])
  pathClean := List.not_mem_nil
  nameClean := List.not_mem_nil
  labels := fun _ member => absurd member List.not_mem_nil

theorem answersPids_twoPids :
    AnswersPids ⟨2, 32, twoPidsRequest⟩ [shellItem 7, shellItem 9] where
  counted := rfl
  pids := by
    intro index item found
    match index, found with
    | 0, found =>
      cases found
      decide +kernel
    | 1, found =>
      cases found
      decide +kernel
  proper := by
    intro item member
    simp only [List.mem_cons, List.not_mem_nil, or_false] at member
    rcases member with rfl | rfl
    · exact proper_shellItem 7
    · exact proper_shellItem 9

/-- A request for the path `/a`. -/
def onePathBytes : Bytes := responseImage 0 [[47, 97, 0]]

theorem decode_onePath : decodeCgroupsLookupRequest onePathBytes = .ok ⟨1, 24, onePathBytes⟩ := by
  decide +kernel

def onePathRequest : CgroupsRequest := ⟨⟨1, 24, onePathBytes⟩, onePathBytes, decode_onePath⟩

/-- An item of 32 bytes. -/
def onePathItem : CgroupsItem := ⟨cgroupLookupKnown, 0, [47, 97], [], []⟩

def onePathHandler : CgroupsLookupHandler := fun request =>
  ([.add (.addRequestItem request 0 cgroupLookupKnown 0 [] [])], true)

theorem answersPaths_onePath :
    AnswersPaths onePathRequest
      [.addRequestItem onePathRequest 0 cgroupLookupKnown 0 [] []] [onePathItem] where
  counted := rfl
  taken := .cons (by decide +kernel) .nil
  paths := by
    intro index item found
    match index, found with
    | 0, found =>
      cases found
      decide +kernel
  proper := by
    intro item member
    obtain rfl := List.mem_singleton.mp member
    exact ⟨rfl, by decide, List.not_mem_nil, fun _ member => absurd member List.not_mem_nil⟩

/-- Two processes in a buffer that holds both, and one path. -/
theorem oversizedSound_iff_twoPids :
    (((dispatchAppsLookup twoPidsRequest twoPidsHandler).run (zeros 176)).1 = .ok 169 ∧
      (OversizedSound (statusAt appsItemCodec AppsLookupItemView.status
          (((dispatchAppsLookup twoPidsRequest twoPidsHandler).run (zeros 176)).2.take 169))
          pidLookupOversizedItem (zeros 176).length (fun item => item.image.length)
          [shellItem 7, shellItem 9] ↔
        FirstLeavesRoom (zeros 176).length (List.replicate 2 63) (fun item => item.image.length)
          (fun item => item.labels.length) [shellItem 7, shellItem 9])) ∧
    (((dispatchCgroupsLookup onePathBytes onePathHandler).run (zeros 56)).1 = .ok 56 ∧
      (OversizedSound (statusAt cgroupsItemCodec CgroupsLookupItemView.status
          (((dispatchCgroupsLookup onePathBytes onePathHandler).run (zeros 56)).2.take 56))
          cgroupLookupOversizedItem (zeros 56).length (fun item => item.image.length)
          [onePathItem] ↔
        FirstLeavesRoom (zeros 56).length (placeholderLens [onePathItem])
          (fun item => item.image.length) (fun item => item.labels.length) [onePathItem])) := by
  have apps : ((dispatchAppsLookup twoPidsRequest twoPidsHandler).run (zeros 176)).1 = .ok 169 := by
    decide +kernel
  have cgroups : ((dispatchCgroupsLookup onePathBytes onePathHandler).run (zeros 56)).1 =
      .ok 56 := by decide +kernel
  refine ⟨⟨apps, ?_⟩, cgroups, ?_⟩
  · exact (oversized_sound_iff _ _ _ _).1 twoPidsHandler ⟨2, 32, twoPidsRequest⟩ _
      (by rw [length_zeros]; decide) (by decide +kernel) rfl answersPids_twoPids (by decide)
      (Prog.run_of_fst apps)
  · exact (oversized_sound_iff _ _ _ _).2 onePathHandler onePathRequest _ _
      (by rw [length_zeros]; decide)
      (decodeCgroupsRequest_of_decoded decode_onePath) rfl answersPaths_onePath (by decide)
      (Prog.run_of_fst cgroups)

/-- In a buffer of 166 bytes the first process is answered as oversized, although a response of
its own would take 24 + 65 bytes. -/
theorem not_oversizedSound_twoPids :
    AnswersPids ⟨2, 32, twoPidsRequest⟩ (addsOf (twoPidsHandler ⟨2, 32, twoPidsRequest⟩).1) ∧
    ((dispatchAppsLookup twoPidsRequest twoPidsHandler).run (zeros 166)).1 = .ok 159 ∧
    statusAt appsItemCodec AppsLookupItemView.status
      (((dispatchAppsLookup twoPidsRequest twoPidsHandler).run (zeros 166)).2.take 159) 0 =
      .ok pidLookupOversizedItem ∧
    ¬ OversizedSound (statusAt appsItemCodec AppsLookupItemView.status
        (((dispatchAppsLookup twoPidsRequest twoPidsHandler).run (zeros 166)).2.take 159))
      pidLookupOversizedItem (zeros 166).length (fun item => item.image.length)
      (addsOf (twoPidsHandler ⟨2, 32, twoPidsRequest⟩).1) := by
  have verdict : statusAt appsItemCodec AppsLookupItemView.status
      (((dispatchAppsLookup twoPidsRequest twoPidsHandler).run (zeros 166)).2.take 159) 0 =
      .ok pidLookupOversizedItem := by decide +kernel
  refine ⟨answersPids_twoPids, by decide +kernel, verdict, fun sound => ?_⟩
  obtain ⟨status, read, final⟩ := sound 0 (shellItem 7) rfl
  rw [verdict] at read
  obtain rfl := Except.ok.inj read
  have past : 166 < 16 + 8 + (shellItem 7).image.length := final rfl
  rw [AppsItem.length_image, AppsItem.length_front] at past
  exact absurd past (by decide)

/-- A handler that answers every key in order is never refused when the placeholders of all keys
fit, and leaves a response that degrades gracefully. -/
theorem dispatch_degrades :
    (∀ (req resp : Bytes) (handler : AppsLookupHandler) (request : LookupRequestView)
      (items : List AppsItem), resp.length < 2 ^ 32 →
      decodeAppsLookupRequest req = .ok request → 1 ≤ request.itemCount.toNat →
      addsOf (handler request).1 = items → AnswersPids request items →
      (∀ item ∈ items, item.status = pidLookupKnown ∨ item.status = pidLookupUnknown) →
      16 + 8 * items.length + reserve (List.replicate items.length 63) ≤ resp.length →
      (handler request).2 = true →
      ∃ size final, (dispatchAppsLookup req handler).run resp = (.ok size, final) ∧
        (dispatchAppsLookupTraced req handler).run resp = (.ok (size, items), final) ∧
        DegradesGracefully appsItemCodec AppsLookupItemView.status pidLookupPayloadExceeded
          request.itemCount.toNat (final.take size)) ∧
    (∀ (req resp : Bytes) (handler : CgroupsLookupHandler) (request : CgroupsRequest)
      (calls : List CgroupsAdd) (items : List CgroupsItem), resp.length < 2 ^ 32 →
      decodeCgroupsRequest req = .ok request → 1 ≤ request.1.itemCount.toNat →
      addsOf (handler request).1 = calls → AnswersPaths request calls items →
      (∀ item ∈ items, item.status = cgroupLookupKnown ∨
        item.status = cgroupLookupUnknownRetryLater ∨
        item.status = cgroupLookupUnknownPermanent) →
      16 + 8 * items.length + reserve (placeholderLens items) ≤ resp.length →
      (handler request).2 = true →
      ∃ size final, (dispatchCgroupsLookup req handler).run resp = (.ok size, final) ∧
        (dispatchCgroupsLookupTraced req handler).run resp = (.ok (size, calls), final) ∧
        DegradesGracefully cgroupsItemCodec CgroupsLookupItemView.status
          cgroupLookupPayloadExceeded request.1.itemCount.toNat (final.take size)) := by
  constructor
  · intro req resp handler request items small decoded some adds answers given room accepted
    obtain ⟨size, final, traced⟩ :=
      dispatchAppsLookupTraced_ok decoded adds answers small room accepted
    refine ⟨size, final, run_dispatchAppsLookup.mpr ⟨items, traced⟩, traced, ?_⟩
    refine degradesGracefully_of_shows (statuses_apps decoded adds answers (by omega) traced)
      answers.counted (by decide) (fun item member => ?_) request.itemCount.toNat_lt some
    rcases given item member with known | unknown
    · rw [known]
      decide
    · rw [unknown]
      decide
  · intro req resp handler request calls items small decoded some adds answers given room accepted
    obtain ⟨size, final, traced⟩ :=
      dispatchCgroupsLookupTraced_ok answers decoded adds small room accepted
    refine ⟨size, final, run_dispatchCgroupsLookup.mpr ⟨calls, traced⟩, traced, ?_⟩
    refine degradesGracefully_of_shows (statuses_cgroups answers decoded adds (by omega) traced)
      answers.counted (by decide) (fun item member => ?_) request.1.itemCount.toNat_lt some
    rcases given item member with known | later | permanent
    · rw [known]
      decide
    · rw [later]
      decide
    · rw [permanent]
      decide

/-- In 159 bytes the placeholders of two pids fit, in 56 that of one path. -/
theorem degrades_twoPids :
    (∃ size final, (dispatchAppsLookup twoPidsRequest twoPidsHandler).run (zeros 159) =
        (.ok size, final) ∧
      (dispatchAppsLookupTraced twoPidsRequest twoPidsHandler).run (zeros 159) =
        (.ok (size, [shellItem 7, shellItem 9]), final) ∧
      DegradesGracefully appsItemCodec AppsLookupItemView.status pidLookupPayloadExceeded 2
        (final.take size)) ∧
    (∃ size final, (dispatchCgroupsLookup onePathBytes onePathHandler).run (zeros 56) =
        (.ok size, final) ∧
      (dispatchCgroupsLookupTraced onePathBytes onePathHandler).run (zeros 56) =
        (.ok (size, [.addRequestItem onePathRequest 0 cgroupLookupKnown 0 [] []]), final) ∧
      DegradesGracefully cgroupsItemCodec CgroupsLookupItemView.status cgroupLookupPayloadExceeded 1
        (final.take size)) := by
  constructor
  · exact dispatch_degrades.1 _ _ twoPidsHandler ⟨2, 32, twoPidsRequest⟩ _
      (by rw [length_zeros]; decide) (by decide +kernel) (by decide) rfl answersPids_twoPids
      (by decide) (by rw [length_zeros]; decide) rfl
  · exact dispatch_degrades.2 _ _ onePathHandler onePathRequest _ _
      (by rw [length_zeros]; decide) (decodeCgroupsRequest_of_decoded decode_onePath) (by decide)
      rfl answersPaths_onePath (by decide) (by rw [length_zeros]; decide) rfl

end NetIpc
