/-
This file proves what an apps dispatch leaves in the response buffer.

Every add ends in one of three ways: the given item, one of two placeholders for its
pid, or nothing. A placeholder has no string of the caller in it, so all three can be
read back, and the round trip holds for every handler.
-/

import NetIpc.AppsLookup

namespace NetIpc

open LookupBuilder

/-! ### Every add -/

/-- The three ways an add can be answered. -/
def AppsAnswers (item : AppsItem) (image : Bytes) : Prop :=
  image = (AppsItem.placeholder pidLookupPayloadExceeded item.pid).image ∨
    image = (AppsItem.placeholder pidLookupOversizedItem item.pid).image ∨
    image = item.image ∧ item.Valid

theorem addNonKnownAppsItem_places (status : UInt16) (pid : UInt32) :
    Places (addNonKnownAppsItem status pid) (AppsItem.placeholder status pid).image :=
  addNonKnown_places false (writes_appsPlaceholder status pid)
    (.inl (congrArg _ (AppsItem.length_placeholder status pid).symm))

variable {item : AppsItem}

/-- Semantics leave nothing but the pid to an item that is not KNOWN. -/
theorem eq_appsPlaceholder_of_semantics (checked : checkAppsItem item = .ok ())
    (other : item.status ≠ pidLookupKnown) : item = AppsItem.placeholder item.status item.pid := by
  rw [checkAppsItem, validateAppsLookupSemantics] at checked
  obtain ⟨_, -, checked⟩ := bind_eq_ok checked
  rw [if_pos other] at checked
  have plain := rejectIf_eq_ok checked
  simp only [not_or, not_not, List.length_eq_zero_iff] at plain
  obtain ⟨orchestrator, cgroupStatus, ppid, uid, starttime, comm, path, name, labels⟩ := plain
  cases item
  cases orchestrator
  cases cgroupStatus
  cases ppid
  cases uid
  cases starttime
  cases comm
  cases path
  cases name
  cases labels
  rfl

/-- `add`, from any state the builder can be in. -/
theorem addAppsItem_outcome {size : Nat} {maxItems : UInt32} {items : List Bytes}
    {builder : LookupBuilder} (item : AppsItem) (holds : Holds size maxItems items builder) :
    Outcome size maxItems items builder
      (Addable builder (checkAppsItem item) (item.status = pidLookupKnown) (planAppsItem item)
        item.image (AppsItem.placeholder pidLookupPayloadExceeded item.pid).image
        (AppsItem.placeholder pidLookupOversizedItem item.pid).image)
      ((addAppsItem item).run builder) := by
  refine addItem_outcome holds (addNonKnownAppsItem_places _ _) (addNonKnownAppsItem_places _ _)
    (fun checked other => ?_) fun plan _ _ planned => ?_
  · have same := eq_appsPlaceholder_of_semantics checked (of_decide_eq_false other)
    have places := addNonKnownAppsItem_places item.status item.pid
    rwa [← same] at places
  · obtain ⟨-, -, -, sized, writes⟩ := planAppsItem_eq_ok item planned
    exact ⟨writes, sized⟩

/-- Semantics and the checks of the plan are all the decoder asks. -/
theorem valid_of_planned (checked : checkAppsItem item = .ok ())
    (planned : item.status = pidLookupKnown → ∃ plan, planAppsItem item = .ok plan) :
    item.Valid := by
  by_cases known : item.status = pidLookupKnown
  · obtain ⟨plan, made⟩ := planned known
    obtain ⟨⟨comm, path, name⟩, few, labels, -⟩ := planAppsItem_eq_ok item made
    exact ⟨⟨checked, comm, path, name, labels⟩, few⟩
  · have same := eq_appsPlaceholder_of_semantics checked known
    rw [same] at checked ⊢
    exact ⟨⟨checked, List.not_mem_nil, List.not_mem_nil, List.not_mem_nil,
      fun _ member => absurd member List.not_mem_nil⟩, (by decide : (0 : Nat) < 2 ^ 16)⟩

theorem addAppsItem_answers {size : Nat} {maxItems : UInt32} {items : List Bytes}
    {builder : LookupBuilder} (item : AppsItem) (holds : Holds size maxItems items builder) :
    Outcome size maxItems items builder (AppsAnswers item) ((addAppsItem item).run builder) := by
  refine (addAppsItem_outcome item holds).mono fun image addable => ?_
  rw [AppsAnswers]
  rcases addable with ⟨-, same⟩ | ⟨-, checked, same | same | ⟨same, planned⟩⟩
  · exact .inl same
  · exact .inl same
  · exact .inr (.inl same)
  · exact .inr (.inr ⟨same, valid_of_planned checked fun known => planned (decide_eq_true known)⟩)

/-! ### The round trip of a dispatch -/

/-- A decoded item shows what was passed to an add, its pid apart. -/
structure AppsLookupItemView.Shows (view : AppsLookupItemView) (item : AppsItem) : Prop where
  status : view.status = item.status
  cgroupStatus : view.cgroupStatus = item.cgroupStatus
  orchestrator : view.orchestrator = item.orchestrator
  ppid : view.ppid = item.ppid
  uid : view.uid = item.uid
  starttime : view.starttime = item.starttime
  comm : view.comm.asBytes = .ok item.comm
  cgroupPath : view.cgroupPath.asBytes = .ok item.cgroupPath
  cgroupName : view.cgroupName.asBytes = .ok item.cgroupName
  labelCount : view.labelCount.toNat = item.labels.length
  labels : ∀ index label, item.labels[index]? = some label →
    ∃ shown, view.label (UInt32.ofNat index) = .ok shown ∧ shown.key.asBytes = .ok label.1 ∧
      shown.value.asBytes = .ok label.2

/-- A decoded item is a placeholder: its fields are those of no process. -/
structure AppsLookupItemView.IsPlaceholder (view : AppsLookupItemView) : Prop where
  status : view.status = pidLookupOversizedItem ∨ view.status = pidLookupPayloadExceeded
  neutral : view.Shows (AppsItem.placeholder view.status view.pid)

/-- A response can be read, and answers the adds in order. -/
structure AppsDelivered (request : LookupRequestView) (generation : UInt64)
    (added : List AppsItem) (response : Bytes) : Prop where
  counted : added.length = request.itemCount.toNat
  readable : ∃ view, decodeAppsLookupResponse response = .ok view ∧
    view.itemCount = request.itemCount ∧ view.generation = generation ∧
    ∀ index item, added[index]? = some item → ∃ shown,
      view.item appsItemCodec (UInt32.ofNat index) = .ok shown ∧ shown.pid = item.pid ∧
      (shown.Shows item ∨ shown.IsPlaceholder)

theorem prepareAppsLookup_prepares (request : LookupRequestView) :
    Prepares (prepareAppsLookup request) := by
  intro builder after ran
  rw [prepareAppsLookup] at ran
  split at ran
  · cases ran
    rfl
  · cases ran
    rfl

theorem valid_appsPlaceholder {status : UInt16} (pid : UInt32)
    (either : status = pidLookupOversizedItem ∨ status = pidLookupPayloadExceeded) :
    (AppsItem.placeholder status pid).Valid where
  semantics := by
    rcases either with rfl | rfl
    · rfl
    · rfl
  commClean := List.not_mem_nil
  pathClean := List.not_mem_nil
  nameClean := List.not_mem_nil
  labels := fun _ member => absurd member List.not_mem_nil
  few := (by decide : (0 : Nat) < 2 ^ 16)

theorem shows_appsView (valid : item.Valid) (small : item.image.length < 2 ^ 32) :
    item.view.Shows item := by
  have total := item.length_image
  have fixed := item.length_front
  refine ⟨rfl, rfl, rfl, rfl, rfl, rfl, asBytes_of _ (by omega), asBytes_of _ (by omega),
    asBytes_of _ (by omega), UInt16.toNat_ofNat_of_lt' valid.few, ?_⟩
  intro index label found
  have member := List.mem_of_getElem? found
  have strings := length_le_labelStrings member
  have inside := length_labelsImage item.front.length (List.ne_nil_of_mem member)
  exact ⟨_, label_appsView item valid small index label found, asBytes_of _ (by omega),
    asBytes_of _ (by omega)⟩

theorem isPlaceholder_appsView {status : UInt16} (pid : UInt32)
    (either : status = pidLookupOversizedItem ∨ status = pidLookupPayloadExceeded) :
    (AppsItem.placeholder status pid).view.IsPlaceholder := by
  have small : (AppsItem.placeholder status pid).image.length < 2 ^ 32 := by
    rw [AppsItem.length_placeholder]
    decide
  exact ⟨either, shows_appsView (valid_appsPlaceholder pid either) small⟩

/-- Every answer can be read and shows the item or is a placeholder for its pid. -/
theorem decode_appsAnswer {image : Bytes} (answers : AppsAnswers item image)
    (small : image.length < 2 ^ 32) : appsItemCodec.itemHdrSize ≤ image.length ∧
      ∃ shown, appsItemCodec.decodeItem image = .ok shown ∧ shown.pid = item.pid ∧
        (shown.Shows item ∨ shown.IsPlaceholder) := by
  have read (other : AppsItem) (valid : other.Valid) (pid : other.pid = item.pid)
      (same : image = other.image) (shows : other.image.length < 2 ^ 32 →
        other.view.Shows item ∨ other.view.IsPlaceholder) :
      appsLookupItemHdrSize ≤ image.length ∧
        ∃ shown, decodeAppsItem image = .ok shown ∧ shown.pid = item.pid ∧
          (shown.Shows item ∨ shown.IsPlaceholder) := by
    have total := other.length_image
    have fixed := other.length_front
    rw [same] at small ⊢
    exact ⟨by rw [appsLookupItemHdrSize]; omega, other.view,
      decodeAppsItem_of_valid other valid small, pid, shows small⟩
  rcases answers with same | same | ⟨same, valid⟩
  · exact read _ (valid_appsPlaceholder item.pid (.inr rfl)) rfl same
      fun _ => .inr (isPlaceholder_appsView _ (.inr rfl))
  · exact read _ (valid_appsPlaceholder item.pid (.inl rfl)) rfl same
      fun _ => .inr (isPlaceholder_appsView _ (.inl rfl))
  · exact read item valid rfl same fun small => .inl (shows_appsView valid small)

/-- A dispatch that returns a size left a response of this size that answers the adds of its
handler in order. -/
theorem dispatchAppsLookup_roundTrips {req resp final : Bytes} {handler : AppsLookupHandler}
    {size : Nat} (ran : (dispatchAppsLookup req handler).run resp = (.ok size, final)) :
    ∃ request added, decodeAppsLookupRequest req = .ok request ∧
      (dispatchAppsLookupTraced req handler).run resp = (.ok (size, added), final) ∧
      size ≤ resp.length ∧
      AppsDelivered request (lastGeneration 0 (handler request).1) added (final.take size) := by
  obtain ⟨added, traced⟩ := Prog.run_bind_fst_eq_ok.mp ran
  obtain ⟨request, images, decoded, answered, counted, representable, -, inside, response⟩ :=
    dispatchTraced_eq_ok prepareAppsLookup_prepares
      (fun _ item _ _ holds => addAppsItem_answers item holds) traced
  refine ⟨request, added, decoded, traced, inside, answered.length_eq.trans counted, ?_⟩
  rw [response]
  exact decodeLookupResponse_answered answered _ counted representable
    fun item _ image answers small => decode_appsAnswer answers small

/-- A request for the pids 7 and 9, answered by a process and by one whose path does not fit. -/
theorem roundTrips_twoPids :
    let req := responseImage 0 [leBytes 4 7 ++ leBytes 4 0, leBytes 4 9 ++ leBytes 4 0]
    let handler : AppsLookupHandler := fun _ =>
      ([.add ⟨pidLookupKnown, appsCgroupHostRoot, 0, 7, 1, 0, 42, [115, 104], [], [], []⟩,
        .setGeneration 5,
        .add ⟨pidLookupKnown, appsCgroupKnown, 0, 9, 1, 0, 43, [115, 104], List.replicate 99 47,
          [], []⟩], true)
    ((dispatchAppsLookup req handler).run (zeros 175)).1 = .ok 167 ∧
    ∃ request added, decodeAppsLookupRequest req = .ok request ∧
      (dispatchAppsLookupTraced req handler).run (zeros 175) =
        (.ok (167, added), ((dispatchAppsLookup req handler).run (zeros 175)).2) ∧
      167 ≤ (zeros 175).length ∧
      AppsDelivered request (lastGeneration 0 (handler request).1) added
        (((dispatchAppsLookup req handler).run (zeros 175)).2.take 167) := by
  intro req handler
  have result : ((dispatchAppsLookup req handler).run (zeros 175)).1 = .ok 167 := by decide +kernel
  exact ⟨result, dispatchAppsLookup_roundTrips (Prog.run_of_fst result)⟩

end NetIpc
