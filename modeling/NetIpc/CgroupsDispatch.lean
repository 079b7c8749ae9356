/-
This file proves what a cgroups dispatch leaves in the response buffer.

Every add ends in one of three ways: the given item, one of two placeholders for
its path, or nothing. A placeholder is only readable when its path is a proper
string. Outside suffix mode `add` checks that; in suffix mode it does not, so the
round trip holds exactly for the runs in which no improper path is added then.
-/

import NetIpc.CgroupsLookup

namespace NetIpc

open LookupBuilder

/-! ### The paths of a request -/

/-- A key that passed its check is a path with its NUL. -/
theorem checkKey_cgroups {key : Bytes} (accepted : cgroupsKeyCodec.checkKey key = .ok ())
    (long : 2 ≤ key.length) :
    ∃ path, key = path ++ [0] ∧ path ≠ [] ∧ 0 ∉ path := by
  obtain ⟨last, read, accepted⟩ := bind_eq_ok accepted
  obtain ⟨nul, accepted⟩ := guard_eq_ok accepted
  obtain ⟨text, inner, accepted⟩ := bind_eq_ok accepted
  obtain rfl := not_not.mp nul
  obtain ⟨-, -, rfl⟩ := readSlice_eq_ok inner
  rw [Nat.sub_zero, slice_take] at accepted
  have found : key[key.length - 1]? = some 0 := by
    rw [readByte] at read
    split at read
    · rename_i byte found
      rw [found, Except.ok.inj read]
    · cases read
  refine ⟨key.take (key.length - 1), ?_, ?_, ?_⟩
  · have split := take_append_drop_of_getElem? found
    rwa [List.drop_eq_nil_of_le (by omega)] at split
  · refine List.ne_nil_of_length_pos ?_
    rw [List.length_take]
    omega
  · simpa using rejectIf_eq_ok accepted

/-- What a request says about one of its keys. -/
structure RequestPath (request : LookupRequestView) (index : Nat) (path : Bytes) : Prop where
  item : request.item cgroupsKeyCodec (UInt32.ofNat index) = .ok (StrView.of path)
  some : path ≠ []
  clean : 0 ∉ path
  small : path.length + 1 < 2 ^ 32
  placeholder : request.payloadExceededItemLen (UInt32.ofNat index) = .ok (30 + path.length)

theorem requestPath_of_decoded {bytes : Bytes} {request : LookupRequestView}
    (decoded : decodeCgroupsLookupRequest bytes = .ok request) (index : Nat)
    (below : index < request.itemCount.toNat) : ∃ path, RequestPath request index path := by
  obtain ⟨payload, packed, keys⟩ := decodeLookupRequest_eq_ok decoded
  obtain ⟨key, found, accepted, len, read, rule⟩ := keys index below
  have indexed : (UInt32.ofNat index).toNat = index :=
    UInt32.toNat_ofNat_of_lt' (below.trans request.itemCount.toNat_lt)
  have inside : ¬ UInt32.ofNat index ≥ request.itemCount := by
    rw [ge_iff_le, UInt32.le_iff_toNat_le, indexed]
    omega
  have minimum : ¬ len.toNat < 2 := rejectIf_eq_ok rule
  have bound := len.toNat_lt
  have sized : key.length = len.toNat := by
    rw [keyAt] at found
    obtain ⟨off, -, found⟩ := bind_eq_ok found
    dsimp only [cgroupsKeyCodec] at found
    rw [read, ok_bind] at found
    obtain ⟨inBuffer, rfl⟩ := checkedSubslice_eq_ok found
    exact length_slice _ _ _ inBuffer
  obtain ⟨path, rfl, some, clean⟩ := checkKey_cgroups accepted (by omega)
  rw [List.length_append, List.length_singleton] at sized
  have base : lookupDirEntryOffset lookupReqHdrSize (UInt32.ofNat index) =
      .ok (16 + 8 * index) := by
    have entry := lookupDirEntryOffset_eq (UInt32.ofNat index)
    rwa [indexed] at entry
  refine ⟨path, ?_, some, clean, by omega, ?_⟩
  · rw [LookupRequestView.item, guard_bind inside, base, ok_bind, payload, found,
      ok_bind, StrView.of]
    dsimp only [cgroupsKeyCodec]
    rw [List.length_append, List.length_singleton, Nat.add_sub_cancel]
  · rw [LookupRequestView.payloadExceededItemLen, guard_bind inside, base, ok_bind, payload, read,
      ok_bind, ← sized, cgroupsLookupItemHdrSize, checkedAdd_of_le (by rw [usizeMax]; omega),
      Option.bind_some, okOr_checkedAdd (by omega)]
    exact congrArg _ (by omega)

variable {item : CgroupsItem}

/-- The path of an item added through a request is proper. -/
theorem path_of_addRequestItem {request : CgroupsRequest} {index : UInt32}
    {status orchestrator : UInt16} {name : Bytes} {labels : List Label}
    (taken : (CgroupsAdd.addRequestItem request index status orchestrator name labels).item =
      .ok item) : item.path ≠ [] ∧ 0 ∉ item.path := by
  obtain ⟨view, found, taken⟩ := bind_eq_ok taken
  obtain ⟨path, bytes, taken⟩ := bind_eq_ok taken
  obtain rfl := Except.ok.inj taken
  obtain ⟨payload, decoded⟩ := request.2
  have below : index.toNat < request.1.itemCount.toNat := by
    rw [LookupRequestView.item] at found
    obtain ⟨_, inside, -⟩ := bind_eq_ok found
    exact UInt32.lt_iff_toNat_lt.mp (UInt32.not_le.mp (rejectIf_eq_ok inside))
  obtain ⟨path', key⟩ := requestPath_of_decoded decoded index.toNat below
  have same := key.item
  rw [UInt32.ofNat_toNat, found] at same
  obtain rfl := Except.ok.inj same
  rw [asBytes_of path' (by have small := key.small; omega)] at bytes
  obtain rfl := Except.ok.inj bytes
  exact ⟨key.some, key.clean⟩

/-! ### Every add -/

/-- The three ways an add can be answered. -/
def CgroupsAnswers (call : CgroupsAdd) (image : Bytes) : Prop :=
  ∃ item, call.item = .ok item ∧
    (image = (CgroupsItem.placeholder cgroupLookupPayloadExceeded item.path).image ∨
      image = (CgroupsItem.placeholder cgroupLookupOversizedItem item.path).image ∨
      image = item.image ∧ item.Valid)

theorem sizes_placeholder (status : UInt16) (path : Bytes) : Sizes (do
      let nameOffset ← cgroupsNameOffset path
      okOr (checkedAdd nameOffset 1) .overflow) (CgroupsItem.placeholder status path).image := by
  rw [Sizes, CgroupsItem.length_placeholder, cgroupsNameOffset, cgroupsLookupItemHdrSize]
  by_cases fits : 30 + path.length ≤ usizeMax
  · rw [checkedAdd_of_le (by omega), Option.bind_some, checkedAdd_of_le (by omega), okOr_some,
      ok_bind, checkedAdd_of_le (by omega), okOr_some]
    exact .inl (congrArg _ (by omega))
  · refine .inr ⟨?_, not_le.mp fits⟩
    cases first : checkedAdd 28 path.length with
    | none => rfl
    | some sum =>
      obtain ⟨rfl, -⟩ := checkedAdd_eq_some first
      rw [Option.bind_some]
      cases second : checkedAdd (28 + path.length) 1 with
      | none => rfl
      | some sum =>
        obtain ⟨rfl, -⟩ := checkedAdd_eq_some second
        rw [okOr_some, ok_bind, show checkedAdd (28 + path.length + 1) 1 = none from
          if_neg (by omega), okOr_none]

/-- `add_non_known_item` places the image of its placeholder. -/
theorem addNonKnownCgroupsItem_places (status : UInt16) (path : Bytes) :
    Places (addNonKnownCgroupsItem status path) (CgroupsItem.placeholder status path).image :=
  addNonKnown_places true (writes_placeholder status path) (sizes_placeholder status path)

/-- Semantics leave nothing but the path to an item that is not KNOWN. -/
theorem eq_placeholder_of_semantics
    (semantics : validateCgroupsLookupSemantics item.status item.orchestrator item.path.length
      item.name.length item.labels.length = .ok ()) (other : item.status ≠ cgroupLookupKnown) :
    item = CgroupsItem.placeholder item.status item.path := by
  rw [validateCgroupsLookupSemantics] at semantics
  iterate 2 obtain ⟨_, -, semantics⟩ := bind_eq_ok semantics
  have plain := not_and.mp (rejectIf_eq_ok semantics) other
  rw [not_or, not_or, not_not, not_not, not_not, List.length_eq_zero_iff,
    List.length_eq_zero_iff] at plain
  obtain ⟨orchestrator, name, labels⟩ := plain
  cases item
  cases orchestrator
  cases name
  cases labels
  rfl

/-- What the checks of `add_with_path` leave. -/
theorem checkCgroupsItem_eq_ok {pathValidated : Bool}
    (checked : checkCgroupsItem item pathValidated = .ok ()) :
    validateCgroupsLookupSemantics item.status item.orchestrator item.path.length
        item.name.length item.labels.length = .ok () ∧ 0 ∉ item.name ∧
      (pathValidated = false → item.path ≠ [] ∧ 0 ∉ item.path) := by
  obtain ⟨_, semantics, strings⟩ := bind_eq_ok checked
  have both := not_or.mp (rejectIf_eq_ok strings)
  refine ⟨semantics, ?_, fun unchecked => ?_⟩
  · have name := both.2
    rw [Bool.not_eq_true, sourceStringInvalid_false_iff] at name
    exact name.2
  · have path := not_and.mp both.1 unchecked
    rw [Bool.not_eq_true, sourceStringInvalid_false_iff] at path
    exact ⟨path.1 rfl, path.2⟩

/-- Outside suffix mode an add that passes its checks has a proper path. -/
theorem path_of_checked {call : CgroupsAdd} (taken : call.item = .ok item)
    (checked : checkCgroupsItem item call.pathValidated = .ok ()) :
    item.path ≠ [] ∧ 0 ∉ item.path := by
  cases call with
  | add given => exact (checkCgroupsItem_eq_ok checked).2.2 rfl
  | addRequestItem => exact path_of_addRequestItem taken

variable {maxItems : UInt32} {items : List Bytes} {call : CgroupsAdd} {builder : LookupBuilder}
  {item : CgroupsItem}

variable {size : Nat}

theorem addCgroupsItem_outcome (item : CgroupsItem) (pathValidated : Bool)
    (holds : Holds size maxItems items builder) : Outcome size maxItems items builder
      (Addable builder (checkCgroupsItem item pathValidated) (item.status = cgroupLookupKnown)
        (planCgroupsItem item) item.image
        (CgroupsItem.placeholder cgroupLookupPayloadExceeded item.path).image
        (CgroupsItem.placeholder cgroupLookupOversizedItem item.path).image)
      ((addCgroupsItemWithPath item pathValidated).run builder) := by
  refine addItem_outcome holds (addNonKnownCgroupsItem_places _ _)
    (addNonKnownCgroupsItem_places _ _) (fun checked other => ?_) fun plan checked _ planned => ?_
  · have same := eq_placeholder_of_semantics (checkCgroupsItem_eq_ok checked).1
      (of_decide_eq_false other)
    have places := addNonKnownCgroupsItem_places item.status item.path
    rwa [← same] at places
  · obtain ⟨-, -, sized, writes⟩ := planCgroupsItem_eq_ok item planned
    exact ⟨writes, sized⟩

/-- `add` and `add_request_item`, from any state the builder can be in. -/
theorem cgroupsAdd_outcome (call : CgroupsAdd) (holds : Holds size maxItems items builder) :
    Outcome size maxItems items builder (CgroupsAnswers call) (call.program.run builder) := by
  rw [CgroupsAdd.program]
  cases taken : call.item with
  | error reason => exact .refused ⟨holds, SameSetup.refl _⟩
  | ok item =>
    rw [Prog.ofRes_ok_bind]
    refine (addCgroupsItem_outcome item call.pathValidated holds).mono fun image addable => ?_
    refine ⟨item, taken, ?_⟩
    rcases addable with ⟨-, rfl⟩ | ⟨-, checked, rfl | rfl | ⟨rfl, planned⟩⟩
    · exact .inl rfl
    · exact .inl rfl
    · exact .inr (.inl rfl)
    · obtain ⟨semantics, nameClean, -⟩ := checkCgroupsItem_eq_ok checked
      obtain ⟨-, pathClean⟩ := path_of_checked taken checked
      refine .inr (.inr ⟨rfl, ?_⟩)
      by_cases known : item.status = cgroupLookupKnown
      · obtain ⟨plan, made⟩ := planned (decide_eq_true known)
        obtain ⟨few, labels, -⟩ := planCgroupsItem_eq_ok item made
        exact ⟨⟨semantics, pathClean, nameClean, labels⟩, few⟩
      · have same := eq_placeholder_of_semantics semantics known
        have none : item.labels = [] := by rw [same]; rfl
        refine ⟨⟨semantics, pathClean, nameClean, ?_⟩, ?_⟩
        · rw [none]
          exact fun _ member => absurd member List.not_mem_nil
        · rw [none, List.length_nil]
          decide

/-! ### The round trip of a dispatch -/

/-- A decoded item shows what was passed to an add, its path apart. -/
structure CgroupsLookupItemView.Shows (view : CgroupsLookupItemView) (item : CgroupsItem) :
    Prop where
  status : view.status = item.status
  orchestrator : view.orchestrator = item.orchestrator
  name : view.name.asBytes = .ok item.name
  labelCount : view.labelCount.toNat = item.labels.length
  labels : ∀ index label, item.labels[index]? = some label →
    ∃ shown, view.label (UInt32.ofNat index) = .ok shown ∧ shown.key.asBytes = .ok label.1 ∧
      shown.value.asBytes = .ok label.2

/-- A decoded item is a placeholder without name and labels. -/
structure CgroupsLookupItemView.IsPlaceholder (view : CgroupsLookupItemView) : Prop where
  status : view.status = cgroupLookupOversizedItem ∨ view.status = cgroupLookupPayloadExceeded
  name : view.name.asBytes = .ok []
  labelCount : view.labelCount = 0

/-- A response can be read, and answers the adds in order. -/
structure CgroupsDelivered (request : CgroupsRequest) (generation : UInt64)
    (added : List CgroupsAdd) (response : Bytes) : Prop where
  counted : added.length = request.1.itemCount.toNat
  readable : ∃ view, decodeCgroupsLookupResponse response = .ok view ∧
    view.itemCount = request.1.itemCount ∧ view.generation = generation ∧
    ∀ index call, added[index]? = some call → ∃ item shown, call.item = .ok item ∧
      view.item cgroupsItemCodec (UInt32.ofNat index) = .ok shown ∧
      shown.path.asBytes = .ok item.path ∧ (shown.Shows item ∨ shown.IsPlaceholder)

/-- The dispatch that returned `size` left a response of this size that answers its handler. -/
def CgroupsRoundTrips (req resp : Bytes) (handler : CgroupsLookupHandler) (size : Nat)
    (final : Bytes) : Prop :=
  ∃ request added, decodeCgroupsRequest req = .ok request ∧
    (dispatchCgroupsLookupTraced req handler).run resp = (.ok (size, added), final) ∧
    size ≤ resp.length ∧
    CgroupsDelivered request (lastGeneration 0 (handler request).1) added (final.take size)

/-- A placeholder for the path fits behind what the builder holds. -/
structure PlaceholderFits (builder : LookupBuilder) (path : Bytes) : Prop where
  more : builder.itemCount < builder.maxItems
  inside : align8 builder.dataOffset + (30 + path.length) ≤ builder.buf.length
  startSmall : align8 builder.dataOffset < 2 ^ 32
  sizeSmall : 30 + path.length < 2 ^ 32

/-- The builder `dispatch_cgroups_lookup` passes to the handler. -/
def cgroupsHandlerBuilder (request : CgroupsRequest) (resp : Bytes) : Res NipcError LookupBuilder :=
  handlerBuilder (fun request : CgroupsRequest => request.1.itemCount)
    (fun request => prepareCgroupsLookup request.1) request resp

/-- No add in suffix mode has an improper path, unless its placeholder does not fit. -/
def SuffixPathsProper (req resp : Bytes) (handler : CgroupsLookupHandler) : Prop :=
  ∀ request start, decodeCgroupsRequest req = .ok request →
    cgroupsHandlerBuilder request resp = .ok start →
    ∀ builder call item,
      (builder, call) ∈ statesBefore CgroupsAdd.program (handler request).1 start →
      call.item = .ok item → builder.payloadExceededSuffix = true →
      PlaceholderFits builder item.path → item.path ≠ [] ∧ 0 ∉ item.path

theorem placeholderFits_iff (holds : Holds size maxItems items builder) (path : Bytes)
    (status : UInt16) : PlaceholderFits builder path ↔
      Room size maxItems.toNat items (CgroupsItem.placeholder status path).image.length := by
  have start := align8_dataOffset holds
  have count : builder.itemCount < builder.maxItems ↔ items.length < maxItems.toNat := by
    rw [UInt32.lt_iff_toNat_lt, holds.itemCount, holds.limit]
  rw [CgroupsItem.length_placeholder]
  constructor
  · rintro ⟨more, inside, startSmall, sizeSmall⟩
    rw [start] at inside startSmall
    rw [holds.size] at inside
    exact ⟨count.mp more, inside, startSmall, sizeSmall⟩
  · rintro ⟨more, inside, startSmall, sizeSmall⟩
    refine ⟨count.mpr more, ?_, ?_, sizeSmall⟩
    · rw [start, holds.size]
      exact inside
    · rw [start]
      exact startSmall

/-- In suffix mode an add succeeds exactly when the placeholder fits. -/
theorem cgroupsAdd_suffix (holds : Holds size maxItems items builder) (taken : call.item = .ok item)
    (suffix : builder.payloadExceededSuffix = true) :
    (call.program.run builder).1 = .ok () ↔ PlaceholderFits builder item.path := by
  have places := addNonKnownCgroupsItem_places cgroupLookupPayloadExceeded item.path
  rw [CgroupsAdd.program, taken, Prog.ofRes_ok_bind, addCgroupsItemWithPath,
    run_addItem_suffix suffix, placeholderFits_iff holds item.path cgroupLookupPayloadExceeded]
  constructor
  · intro succeeded
    by_contra noRoom
    obtain ⟨reason, after, ran, -⟩ := places.error holds noRoom
    rw [ran] at succeeded
    cases succeeded
  · intro room
    rw [places.ok holds room]

/-- Outside suffix mode an add that succeeds passed its checks. -/
theorem checked_of_cgroupsAdd (taken : call.item = .ok item)
    (normal : builder.payloadExceededSuffix = false)
    (succeeded : (call.program.run builder).1 = .ok ()) :
    checkCgroupsItem item call.pathValidated = .ok () := by
  rw [CgroupsAdd.program, taken, Prog.ofRes_ok_bind, addCgroupsItemWithPath] at succeeded
  by_cases full : builder.itemCount ≥ builder.maxItems
  · rw [run_addItem_full normal full] at succeeded
    cases succeeded
  · cases checked : checkCgroupsItem item call.pathValidated with
    | ok _ => rfl
    | error reason =>
      rw [addItem, Prog.run_bind_ok (Prog.run_get builder), if_neg (by rw [normal]; decide),
        if_neg full, checked] at succeeded
      cases reason <;> cases succeeded

/-- A prepared builder differs from a new one in the suffix table only. -/
theorem prepareCgroupsLookup_prepares (request : LookupRequestView) :
    Prepares (prepareCgroupsLookup request) := by
  intro builder after ran
  rw [prepareCgroupsLookup] at ran
  split at ran
  · obtain ⟨_, -, ran⟩ := Prog.run_ofRes_bind_eq_ok ran
    obtain ⟨lens, -, ran⟩ := Prog.run_ofRes_bind_eq_ok ran
    rw [setPayloadExceededItemLens] at ran
    obtain ⟨_, middle, set, ran⟩ := Prog.run_bind_eq_ok ran
    rw [Prog.run_bind_ok (Prog.run_get middle)] at ran
    cases failed : middle.error with
    | some error =>
      rw [failed] at ran
      simp at ran
    | none =>
      rw [failed] at ran
      cases ran
      split at set
      · cases set
        rfl
      · cases set
        cases failed
      · cases set
  · cases ran
    rfl

theorem valid_placeholder {status : UInt16} {path : Bytes}
    (either : status = cgroupLookupOversizedItem ∨ status = cgroupLookupPayloadExceeded)
    (some : path ≠ []) (clean : 0 ∉ path) : (CgroupsItem.placeholder status path).Valid where
  semantics := by
    have listed : ¬ (status ≠ cgroupLookupKnown ∧ status ≠ cgroupLookupUnknownRetryLater ∧
        status ≠ cgroupLookupUnknownPermanent ∧ status ≠ cgroupLookupPayloadExceeded ∧
        status ≠ cgroupLookupOversizedItem) := by
      rcases either with rfl | rfl <;> decide
    have long : ¬ path.length = 0 := mt List.length_eq_zero_iff.mp some
    dsimp only [CgroupsItem.placeholder]
    rw [validateCgroupsLookupSemantics, guard_bind listed, guard_bind long, rejectIf_of_not
      (by simp)]
  pathClean := clean
  nameClean := List.not_mem_nil
  labels := fun _ member => absurd member List.not_mem_nil
  few := (by decide : (0 : Nat) < 2 ^ 16)

theorem isPlaceholder_view {status : UInt16} (path : Bytes)
    (either : status = cgroupLookupOversizedItem ∨ status = cgroupLookupPayloadExceeded) :
    (CgroupsItem.placeholder status path).view.IsPlaceholder :=
  ⟨either, asBytes_of [] (by decide), rfl⟩

/-- Every number of an item is small when the item is. -/
theorem length_lt_of_image (small : item.image.length < 2 ^ 32) :
    item.path.length < 2 ^ 32 ∧ item.name.length < 2 ^ 32 := by
  have total := item.length_image
  have fixed := item.length_front
  omega

theorem shows_view (valid : item.Valid) (small : item.image.length < 2 ^ 32) :
    item.view.Shows item where
  status := rfl
  orchestrator := rfl
  name := asBytes_of _ (length_lt_of_image small).2
  labelCount := UInt16.toNat_ofNat_of_lt' valid.few
  labels := by
    intro index label found
    have member := List.mem_of_getElem? found
    have strings := length_le_labelStrings member
    have total := item.length_image
    have inside := length_labelsImage item.front.length (List.ne_nil_of_mem member)
    exact ⟨_, label_view item valid small index label found, asBytes_of _ (by omega),
      asBytes_of _ (by omega)⟩

/-- An answer for a proper path can be read and shows what the claim asks. -/
theorem decode_answer {image : Bytes} (answers : CgroupsAnswers call image)
    (proper : ∀ item, call.item = .ok item → item.path ≠ [] ∧ 0 ∉ item.path)
    (small : image.length < 2 ^ 32) : cgroupsItemCodec.itemHdrSize ≤ image.length ∧
      ∃ shown, cgroupsItemCodec.decodeItem image = .ok shown ∧ ∃ item, call.item = .ok item ∧
        shown.path.asBytes = .ok item.path ∧ (shown.Shows item ∨ shown.IsPlaceholder) := by
  obtain ⟨item, taken, answer⟩ := answers
  obtain ⟨some, clean⟩ := proper item taken
  have read (other : CgroupsItem) (valid : other.Valid) (path : other.path = item.path)
      (same : image = other.image) (shows : other.image.length < 2 ^ 32 →
        other.view.Shows item ∨ other.view.IsPlaceholder) :
      cgroupsLookupItemHdrSize ≤ image.length ∧
        ∃ shown, decodeCgroupsItem image = .ok shown ∧ ∃ item, call.item = .ok item ∧
          shown.path.asBytes = .ok item.path ∧ (shown.Shows item ∨ shown.IsPlaceholder) := by
    have total := other.length_image
    have fixed := other.length_front
    rw [same] at small ⊢
    refine ⟨by rw [cgroupsLookupItemHdrSize]; omega, other.view,
      decodeCgroupsItem_of_valid other valid small, item, taken, ?_, shows small⟩
    rw [← path]
    exact asBytes_of _ (length_lt_of_image small).1
  rcases answer with same | same | ⟨same, valid⟩
  · exact read _ (valid_placeholder (.inr rfl) some clean) rfl same
      fun _ => .inr (isPlaceholder_view _ (.inr rfl))
  · exact read _ (valid_placeholder (.inl rfl) some clean) rfl same
      fun _ => .inr (isPlaceholder_view _ (.inl rfl))
  · exact read item valid rfl same fun small => .inl (shows_view valid small)

/-- An answer that can be read is for a proper path. -/
theorem proper_of_decode {image : Bytes} {view : CgroupsLookupItemView}
    (answers : CgroupsAnswers call image) (small : image.length < 2 ^ 32)
    (decoded : decodeCgroupsItem image = .ok view) (item : CgroupsItem)
    (taken : call.item = .ok item) : item.path ≠ [] ∧ 0 ∉ item.path := by
  obtain ⟨other, same, answer⟩ := answers
  rw [taken] at same
  obtain rfl := Except.ok.inj same
  rcases answer with rfl | rfl | ⟨rfl, valid⟩
  · exact path_of_decodeCgroupsItem (CgroupsItem.placeholder cgroupLookupPayloadExceeded item.path)
      (by decide : (0 : Nat) < 2 ^ 16) small decoded
  · exact path_of_decodeCgroupsItem (CgroupsItem.placeholder cgroupLookupOversizedItem item.path)
      (by decide : (0 : Nat) < 2 ^ 16) small decoded
  · exact path_of_decodeCgroupsItem item valid.few small decoded

section Delivery

variable {request : CgroupsRequest} {generation : UInt64} {added : List CgroupsAdd}
  {images : List Bytes} (answered : List.Forall₂ CgroupsAnswers added images)
  (counted : images.length = request.1.itemCount.toNat) (representable : Representable images)

include answered counted representable

/-- A response is delivered exactly when every item added has a proper path. -/
theorem cgroupsDelivered_iff :
    CgroupsDelivered request generation added (responseImage generation images) ↔
      ∀ call ∈ added, ∀ item, call.item = .ok item → item.path ≠ [] ∧ 0 ∉ item.path := by
  constructor
  · rintro ⟨-, view, decoded, count, -, items⟩ call member item taken
    obtain ⟨index, found⟩ := List.getElem?_of_mem member
    obtain ⟨image, here, answers⟩ := image_of_added answered index call found
    obtain ⟨_, shown, -, read, -⟩ := items index call found
    have payload := (decodeLookupResponse_eq_ok decoded).1
    have sameCount : view.itemCount = UInt32.ofNat images.length := by
      rw [count, counted, UInt32.ofNat_toNat]
    rw [(item_image representable generation cgroupsItemCodec index image here view sameCount
      payload).2] at read
    exact proper_of_decode answers
      (Representable.length_lt representable image (List.mem_of_getElem? here)) read item taken
  · intro proper
    obtain ⟨view, decoded, count, last, items⟩ := decodeLookupResponse_answered answered generation
      counted representable fun call member image answers small =>
        decode_answer answers (proper call member) small
    refine ⟨answered.length_eq.trans counted, view, decoded, count, last,
      fun index call found => ?_⟩
    obtain ⟨shown, read, item, taken, path, shows⟩ := items index call found
    exact ⟨item, shown, taken, read, path, shows⟩

end Delivery

/-- The round trip holds in exactly the runs that add no improper path in suffix mode. -/
theorem dispatchCgroupsLookup_roundTrips_iff {req resp final : Bytes}
    {handler : CgroupsLookupHandler} {size : Nat}
    (ran : (dispatchCgroupsLookup req handler).run resp = (.ok size, final)) :
    CgroupsRoundTrips req resp handler size final ↔ SuffixPathsProper req resp handler := by
  obtain ⟨added, traced⟩ := Prog.run_bind_fst_eq_ok.mp ran
  have prepares (request : CgroupsRequest) : Prepares
      ((fun request : CgroupsRequest => prepareCgroupsLookup request.1) request) :=
    prepareCgroupsLookup_prepares request.1
  obtain ⟨request, start, last, finished, decoded, started, called, -⟩ :=
    dispatchTraced_steps traced
  obtain ⟨view, images, same, answered, counted, representable, -, inside, response⟩ :=
    dispatchTraced_eq_ok prepares (fun _ call _ _ holds => cgroupsAdd_outcome call holds) traced
  rw [decoded] at same
  obtain rfl := Except.ok.inj same
  have reached := statesBefore_holds (fun call _ _ holds => cgroupsAdd_outcome call holds)
    (handler request).1 (handlerBuilder_eq_ok (prepares request) started).1
  have delivered : CgroupsDelivered request (lastGeneration 0 (handler request).1) added
      (final.take size) ↔ _ := response ▸ cgroupsDelivered_iff answered counted representable
  have succeeds := mem_added_iff (handler request).1 called
  constructor
  · rintro ⟨other, others, sameRequest, sameTrace, -, trip⟩
    rw [decoded] at sameRequest
    obtain rfl := Except.ok.inj sameRequest
    rw [traced] at sameTrace
    obtain ⟨-, rfl⟩ := Prod.mk.inj (Except.ok.inj (Prod.mk.inj sameTrace).1)
    intro request' start' sameRequest sameStart builder call item member taken suffix fits
    rw [decoded] at sameRequest
    obtain rfl := Except.ok.inj sameRequest
    rw [cgroupsHandlerBuilder, started] at sameStart
    obtain rfl := Except.ok.inj sameStart
    obtain ⟨items, holds⟩ := reached builder call member
    have isAdded := (succeeds call).mpr
      ⟨builder, member, (cgroupsAdd_suffix holds taken suffix).mpr fits⟩
    exact delivered.mp trip call isAdded item taken
  · intro proper
    refine ⟨request, added, decoded, traced, inside, delivered.mpr fun call member item taken => ?_⟩
    obtain ⟨builder, before, succeeded⟩ := (succeeds call).mp member
    obtain ⟨items, holds⟩ := reached builder call before
    cases mode : builder.payloadExceededSuffix with
    | true =>
      exact proper request start decoded started builder call item before taken mode
        ((cgroupsAdd_suffix holds taken mode).mp succeeded)
    | false => exact path_of_checked taken (checked_of_cgroupsAdd taken mode succeeded)

/-- A request for `/a`, `/b` and `/c`. -/
def threePathsRequest : Bytes := responseImage 0 [[47, 97, 0], [47, 98, 0], [47, 99, 0]]

/-- A handler that answers two paths, the second with a name too long for the buffer, and passes
`last` as the third path. -/
def longNameHandler (last : Bytes) : CgroupsLookupHandler := fun _ =>
  ([.add (.add ⟨cgroupLookupKnown, 0, [47, 97], [], []⟩),
    .add (.add ⟨cgroupLookupKnown, 0, [47, 98], List.replicate 100 120, []⟩),
    .add (.add ⟨cgroupLookupKnown, 0, last, [], []⟩)], true)

theorem roundTrips_longName :
    ((dispatchCgroupsLookup threePathsRequest (longNameHandler [47, 99])).run (zeros 136)).1 =
      .ok 136 ∧
    (CgroupsRoundTrips threePathsRequest (zeros 136) (longNameHandler [47, 99]) 136
        ((dispatchCgroupsLookup threePathsRequest (longNameHandler [47, 99])).run (zeros 136)).2 ↔
      SuffixPathsProper threePathsRequest (zeros 136) (longNameHandler [47, 99])) := by
  have result : ((dispatchCgroupsLookup threePathsRequest (longNameHandler [47, 99])).run
      (zeros 136)).1 = .ok 136 := by decide +kernel
  exact ⟨result, dispatchCgroupsLookup_roundTrips_iff (Prog.run_of_fst result)⟩

/-- With an empty third path the dispatch succeeds, and its response cannot be read. -/
theorem not_roundTrips_emptyPath :
    ((dispatchCgroupsLookup threePathsRequest (longNameHandler [])).run (zeros 136)).1 = .ok 134 ∧
    ¬ CgroupsRoundTrips threePathsRequest (zeros 136) (longNameHandler []) 134
      ((dispatchCgroupsLookup threePathsRequest (longNameHandler [])).run (zeros 136)).2 := by
  refine ⟨by decide +kernel, ?_⟩
  have unreadable : decodeCgroupsLookupResponse
      (((dispatchCgroupsLookup threePathsRequest (longNameHandler [])).run
        (zeros 136)).2.take 134) =
      .error (.err .badLayout) := by decide +kernel
  rintro ⟨request, added, -, -, -, -, view, decoded, -⟩
  rw [unreadable] at decoded
  cases decoded

end NetIpc
