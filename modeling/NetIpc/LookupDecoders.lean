/-
This file proves that the C, Rust and Go readers of lookup responses are one function: on
every payload shorter than 2^31 bytes they accept the same byte strings, stop with the same
error otherwise, and hand out the same items and labels.

The decoders are equal because their parts are. Two differences are not about sums. C slices
an item out of the payload without a check, which is safe because the directory was validated
before. Go has a path for items that are not KNOWN, which is equal because their strings were
checked to be empty. The end of the file is about Go alone and has no bound on the payload: what
Go checks when it decodes a response is what it checks when it hands an item out.
-/

import NetIpc.DecoderParts

namespace NetIpc

variable {ε α : Type}

/-! ### Responses -/

section Responses

variable {codec : ItemCodec α} {buf : Bytes}

/-- Two decoders of an item that agree on items as long as a payload can be. -/
def Agree (decode decode' : Bytes → Res ε α) : Prop :=
  ∀ item : Bytes, item.length < 2 ^ 31 → decode item = decode' item

theorem Agree.dropped {decode decode' : Bytes → Res ε α} (agree : Agree decode decode')
    {item : Bytes} (short : item.length < 2 ^ 31) :
    (decode item >>= fun _ => .ok ()) = decode' item >>= fun _ => .ok () := by
  rw [agree item short]

/-- A part of a short payload is short. -/
theorem length_slice_lt (short : buf.length < 2 ^ 31) (start len : Nat) :
    (slice buf start len).length < 2 ^ 31 := by
  refine lt_of_le_of_lt ?_ short
  rw [slice, List.length_take, List.length_drop]
  omega

theorem C.lookupRespDecode_eq {codec' : ItemCodec α} (short : buf.length < 2 ^ 31)
    (agree : Agree codec'.decodeItem codec.decodeItem)
    (hdr : codec'.itemHdrSize = codec.itemHdrSize) :
    lookupRespDecode codec' buf = decodeLookupResponse codec buf := by
  rw [lookupRespDecode, decodeLookupResponse]
  refine bind_congr_ok rfl fun _ passed => ?_
  have long := not_lt.mp (rejectIf_eq_ok passed)
  rw [lookupRespHdrSize] at long
  refine bind_congr fun layoutVersion => bind_congr fun flags => ?_
  rw [u32At_of_le (by omega), ok_bind, u64At_of_le (by omega), ok_bind]
  refine bind_congr_ok rfl fun _ header => ?_
  obtain ⟨version, plain⟩ := not_or.mp (rejectIf_eq_ok header)
  generalize UInt32.ofNat (leNat (slice buf 4 4)) = itemCount
  have count := itemCount.toNat_lt
  rw [ok_bind, guard_bind (mulWouldOverflow_dir itemCount),
    mul_bind (by rw [lookupDirEntrySize]; omega),
    add_bind (by rw [lookupRespHdrSize, lookupDirEntrySize]; omega)]
  refine bind_congr_ok rfl fun _ within => ?_
  have inside := not_lt.mp (rejectIf_eq_ok within)
  dsimp only
  rw [guard_bind (by rw [uint32Max]; omega), hdr]
  refine bind_congr_ok (nipcLookupValidateOrderedDir_eq rfl inside) fun _ ordered => ?_
  rw [nipcLookupValidateOrderedDir_eq rfl inside] at ordered
  rw [not_not.mp version, not_not.mp plain]
  refine bind_congr_ok (forFrom_congr (fun index _ _ below => ?_) _) fun _ _ => rfl
  refine bind_congr_ok rfl fun off readOff => bind_congr_ok rfl fun len readLen => ?_
  have part := validateLookupDir_inside ordered (by omega) readOff readLen
  rw [readSlice_of_le (by omega) (by omega), ok_bind,
    checkedSubslice_of_le (by omega) (by rw [usizeMax]; omega), ok_bind, Nat.add_sub_cancel_left]
  exact agree.dropped (length_slice_lt short _ _)

variable {view : LookupResponseView}

/-- The entry of an item of a decoded response and the bytes it stands for. -/
theorem decodeLookupResponse_entry (decoded : decodeLookupResponse codec buf = .ok view)
    {index : UInt32} (below : index < view.itemCount) : view.payload = buf ∧ ∃ off len : UInt32,
      (u32At buf (16 + 8 * index.toNat) : Res NipcError UInt32) = .ok off ∧
      (u32At buf (16 + 8 * index.toNat + 4) : Res NipcError UInt32) = .ok len ∧
      16 + 8 * view.itemCount.toNat + off.toNat + len.toNat ≤ buf.length := by
  obtain ⟨payload, -, -, items⟩ := decodeLookupResponse_eq_ok decoded
  obtain ⟨off, len, _, _, readOff, readLen, part, -⟩ :=
    items index.toNat (UInt32.lt_iff_toNat_lt.mp below)
  exact ⟨payload, off, len, readOff, readLen, (checkedSubslice_eq_ok part).1⟩

section Short

variable (short : buf.length < 2 ^ 31)

include short

/-- An item that was handed out was decoded from a part of the payload. -/
theorem decodeLookupResponse_bytes {value : α} {index : UInt32}
    (decoded : decodeLookupResponse codec buf = .ok view)
    (taken : view.item codec index = .ok value) :
    ∃ item : Bytes, item.length < 2 ^ 31 ∧ codec.decodeItem item = .ok value := by
  obtain ⟨payload, -⟩ := decodeLookupResponse_eq_ok decoded
  rw [LookupResponseView.item] at taken
  iterate 5 obtain ⟨_, -, taken⟩ := bind_eq_ok taken
  obtain ⟨item, part, taken⟩ := bind_eq_ok taken
  refine ⟨item, ?_, taken⟩
  rw [(checkedSubslice_eq_ok part).2, payload]
  exact length_slice_lt short _ _

theorem C.lookupRespItem_eq {codec' : ItemCodec α}
    (agree : Agree codec'.decodeItem codec.decodeItem)
    (decoded : decodeLookupResponse codec buf = .ok view) (index : UInt32) :
    lookupRespItem codec' view index = view.item codec index := by
  have count := view.itemCount.toNat_lt
  rw [lookupRespItem, LookupResponseView.item]
  refine bind_congr_ok rfl fun _ passed => ?_
  obtain ⟨payload, off, len, readOff, readLen, inside⟩ :=
    decodeLookupResponse_entry decoded (UInt32.not_le.mp (rejectIf_eq_ok passed))
  rw [guard_bind (mulWouldOverflow_dir view.itemCount)]
  dsimp only
  rw [guard_bind (by rw [lookupRespHdrSize, lookupDirEntrySize, usizeMax]; omega),
    lookupDataOffset_eq, ok_bind, lookupDirEntryOffset_eq, ok_bind, payload, lookupRespHdrSize,
    lookupDirEntrySize, Nat.mul_comm index.toNat, Nat.mul_comm view.itemCount.toNat, readOff,
    ok_bind, ok_bind, readLen, ok_bind, ok_bind, readSlice_of_le (by omega) (by omega), ok_bind,
    checkedSubslice_of_le inside (by rw [usizeMax]; omega), ok_bind, Nat.add_sub_cancel_left]
  exact agree _ (length_slice_lt short _ _)

theorem Go.decodeLookupResponse_eq {codec' : Go.Codec α} (hdr : codec'.itemHdr = codec.itemHdrSize)
    (low : codec.itemHdrSize < 2 ^ 32)
    (agree : Agree codec'.validateItem fun item => codec.decodeItem item >>= fun _ => .ok ()) :
    decodeLookupResponse codec' buf = NetIpc.decodeLookupResponse codec buf := by
  rw [decodeLookupResponse, NetIpc.decodeLookupResponse]
  iterate 4 refine bind_congr fun _ => ?_
  refine bind_congr fun itemCount => ?_
  have count := itemCount.toNat_lt
  rw [checkedInt_of_lt (by rw [lookupRespHdrSize, lookupDirEntrySize]; omega), okOr_some, ok_bind,
    mul_bind (by rw [lookupDirEntrySize]; omega),
    add_bind (by rw [lookupRespHdrSize, lookupDirEntrySize]; omega)]
  refine bind_congr_ok rfl fun _ within => ?_
  have inside := not_lt.mp (rejectIf_eq_ok within)
  rw [hdr]
  refine bind_congr_ok (validateLookupDir_eq rfl low) fun _ _ =>
    bind_congr_ok (forFrom_congr (fun index _ _ below => ?_) _) fun _ _ => rfl
  dsimp only
  rw [lookupDirEntry_bind]
  refine bind_congr fun off => bind_congr fun len =>
    bind_congr_ok (lookupPayloadSlice_eq (by omega) off.toNat_lt len.toNat_lt) fun _ read => ?_
  rw [lookupPayloadSlice_eq (by omega) off.toNat_lt len.toNat_lt] at read
  rw [(checkedSubslice_eq_ok read).2]
  exact agree _ (length_slice_lt short _ _)

theorem Go.responseItem_eq {codec' : Go.Codec α} (agree : Agree codec'.decodeItem codec.decodeItem)
    (decoded : NetIpc.decodeLookupResponse codec buf = .ok view) (index : UInt32) :
    responseItem codec' view index = view.item codec index := by
  have count := view.itemCount.toNat_lt
  rw [responseItem, LookupResponseView.item]
  refine bind_congr_ok rfl fun _ passed => ?_
  obtain ⟨payload, off, len, readOff, readLen, inside⟩ :=
    decodeLookupResponse_entry decoded (UInt32.not_le.mp (rejectIf_eq_ok passed))
  rw [lookupBuilderDataOffset_eq, okOr_some, ok_bind, lookupDataOffset_eq, ok_bind,
    lookupBuilderDataOffset_eq, okOr_some, ok_bind, lookupDirEntryOffset_eq, ok_bind, payload,
    lookupDirEntry_bind, readOff, ok_bind, ok_bind, readLen, ok_bind, ok_bind]
  dsimp only
  rw [lookupPayloadSlice_eq (by omega) off.toNat_lt len.toNat_lt,
    checkedSubslice_of_le inside (by rw [usizeMax]; omega), ok_bind, ok_bind]
  exact agree _ (length_slice_lt short _ _)

end Short

end Responses

/-! ### Apps items -/

section Apps

/-- The larger of the ends, as C computes it. -/
theorem larger_eq_max (first second : Nat) :
    (if second > first then second else first) = max first second := by
  split <;> omega

theorem C.agree_apps : Agree C.appsCodec.decodeItem appsItemCodec.decodeItem := by
  intro item short
  show appsLookupDecodeItemBytes item = decodeAppsItem item
  rw [appsLookupDecodeItemBytes, decodeAppsItem]
  refine bind_congr_ok rfl fun _ passed => ?_
  have long := not_lt.mp (rejectIf_eq_ok passed)
  rw [appsLookupItemHdrSize] at long
  simp (disch := omega) only [u16At_of_le, u32At_of_le, u64At_of_le, ok_bind]
  refine bind_congr fun _ => bind_congr fun _ => ?_
  simp only [nipcLookupStringView_eq short (UInt32.toNat_lt _) (UInt32.toNat_lt _)]
  refine bind_congr_ok rfl fun comm readComm => bind_congr_ok rfl fun path readPath =>
    bind_congr_ok rfl fun name readName => bind_congr fun _ => ?_
  obtain ⟨comm, commEnd⟩ := comm
  obtain ⟨path, pathEnd⟩ := path
  obtain ⟨name, nameEnd⟩ := name
  have ends : max (max commEnd pathEnd) nameEnd ≤ item.length :=
    max_le (max_le (lookupString_end readComm).2 (lookupString_end readPath).2)
      (lookupString_end readName).2
  dsimp only
  rw [larger_eq_max, larger_eq_max, nipcLookupValidateLabels_eq short ends]

namespace Go

variable {status cgroupStatus orchestrator : UInt16} {ppid uid : UInt32} {starttime : UInt64}
  {commLen pathLen nameLen labelCount : Nat}

/-- What the domain check lets pass. -/
theorem validateAppsLookupDomains_eq (status cgroupStatus : UInt16) (commLen : Nat) :
    validateAppsLookupDomains status cgroupStatus commLen =
      rejectIf ((status ≠ pidLookupKnown ∧ status ≠ pidLookupUnknown ∧
          status ≠ pidLookupPayloadExceeded ∧ status ≠ pidLookupOversizedItem) ∨
        (cgroupStatus ≠ appsCgroupKnown ∧ cgroupStatus ≠ appsCgroupUnknownRetryLater ∧
          cgroupStatus ≠ appsCgroupUnknownPermanent ∧ cgroupStatus ≠ appsCgroupHostRoot) ∨
        commLen > 15) .badLayout := by
  rw [validateAppsLookupDomains, rejectIf_or, rejectIf_or]

/-- Rust looks at the domains of the two statuses first and Go where it branches on them; both
end in the same error. -/
theorem validateAppsLookupSemantics_eq :
    validateAppsLookupSemantics status cgroupStatus orchestrator ppid uid starttime commLen pathLen
        nameLen labelCount =
      NetIpc.validateAppsLookupSemantics status cgroupStatus orchestrator ppid uid starttime commLen
        pathLen nameLen labelCount := by
  rw [validateAppsLookupSemantics, NetIpc.validateAppsLookupSemantics,
    validateAppsLookupDomains_eq, validateAppsLookupUnknown, validateAppsLookupKnown]
  by_cases long : commLen > 15
  · rw [rejectIf_of long, rejectIf_of (Or.inr (Or.inr long))]
    rfl
  rw [guard_bind long]
  by_cases foreign : cgroupStatus ≠ appsCgroupKnown ∧ cgroupStatus ≠ appsCgroupUnknownRetryLater ∧
      cgroupStatus ≠ appsCgroupUnknownPermanent ∧ cgroupStatus ≠ appsCgroupHostRoot
  · rw [rejectIf_of (Or.inr (Or.inl foreign)), error_bind, NetIpc.validateAppsLookupKnown,
      if_neg foreign.1, if_neg foreign.2.1, if_neg foreign.2.2.1, if_neg foreign.2.2.2,
      NetIpc.validateAppsLookupUnknown, rejectIf_of (Or.inr (Or.inl (show cgroupStatus ≠ 0 from
        foreign.1)))]
    unfold rejectIf
    split_ifs <;> rfl
  by_cases known : status = pidLookupKnown
  · rw [if_pos known, if_neg (not_not.mpr known), guard_bind (by tauto)]
  · rw [if_neg known, if_pos known]
    by_cases listed : status = pidLookupUnknown ∨ status = pidLookupPayloadExceeded ∨
        status = pidLookupOversizedItem
    · rw [if_pos listed, guard_bind (by tauto)]
    · rw [if_neg listed, rejectIf_of (by tauto), error_bind]

/-- An accepted item that is not KNOWN has neutral fields. -/
theorem neutral_of_accepted
    (accepted : NetIpc.validateAppsLookupSemantics status cgroupStatus orchestrator ppid uid
      starttime commLen pathLen nameLen labelCount = .ok ()) (unknown : status ≠ pidLookupKnown) :
    orchestrator = 0 ∧ cgroupStatus = 0 ∧ ppid = 0 ∧ uid = nipcUidUnset ∧ starttime = 0 ∧
      commLen = 0 ∧ pathLen = 0 ∧ nameLen = 0 ∧ labelCount = 0 := by
  rw [NetIpc.validateAppsLookupSemantics] at accepted
  obtain ⟨_, -, accepted⟩ := bind_eq_ok accepted
  rw [if_pos unknown, NetIpc.validateAppsLookupUnknown] at accepted
  simpa only [not_or, not_not] using rejectIf_eq_ok accepted

end Go

theorem validateLabels_zero {item : Bytes} {hdrSize fixedEnd : Nat} :
    validateLabels item hdrSize 0 fixedEnd =
      rejectIf (fixedEnd ≠ item.length) .badLayout >>= fun _ => .ok fixedEnd := by
  rw [validateLabels, if_pos rfl]
  rfl

theorem Go.agree_apps : Agree Go.appsCodec.decodeItem appsItemCodec.decodeItem := by
  intro item short
  show decodeAppsLookupItem item = decodeAppsItem item
  rw [decodeAppsLookupItem, decodeAppsItem]
  refine bind_congr_ok rfl fun _ passed => ?_
  have long := not_lt.mp (rejectIf_eq_ok passed)
  rw [appsLookupItemHdrSize] at long
  simp (disch := omega) only [checkedWireU32Int_bind, u16At_of_le, u32At_of_le, u64At_of_le,
    ok_bind]
  refine bind_congr fun _ =>
    bind_congr_ok validateAppsLookupSemantics_eq fun _ accepted => ?_
  rw [validateAppsLookupSemantics_eq] at accepted
  split
  · rename_i unknown
    obtain ⟨plain, cgroup, parent, user, start, comm, path, name, labels⟩ :=
      neutral_of_accepted accepted unknown
    have none : UInt16.ofNat (leNat (slice item 56 2)) = 0 := UInt16.toNat_inj.mp labels
    rw [decodeAppsLookupUnknownItemInto, comm, path, name, plain, cgroup, parent, user, start, none]
    simp only [lookupEmptyStringInto_eq (UInt32.toNat_lt _)]
    iterate 4 refine bind_congr fun _ => ?_
    rw [validateLabels_zero, bind_assoc, ← max_assoc]
    rfl
  · simp only [lookupStringInto_eq true (UInt32.toNat_lt _) (UInt32.toNat_lt _)]
    refine bind_congr_ok rfl fun comm readComm => bind_congr_ok rfl fun path readPath =>
      bind_congr_ok rfl fun name readName => bind_congr fun _ => ?_
    obtain ⟨comm, commEnd⟩ := comm
    obtain ⟨path, pathEnd⟩ := path
    obtain ⟨name, nameEnd⟩ := name
    have ends : max (max commEnd pathEnd) nameEnd ≤ item.length :=
      max_le (max_le (lookupString_end readComm).2 (lookupString_end readPath).2)
        (lookupString_end readName).2
    rw [← max_assoc, validateLabels_eq short ends]

/-- The short path of the validator is the short path of the decoder without the view. -/
theorem Go.validateAppsLookupUnknownItem_eq (item : Bytes) (status : UInt16) (pid : UInt32)
    (commOff pathOff nameOff : Nat) : validateAppsLookupUnknownItem item commOff pathOff nameOff =
      decodeAppsLookupUnknownItemInto item status pid commOff pathOff nameOff >>=
        fun _ => .ok () := by
  rw [validateAppsLookupUnknownItem, decodeAppsLookupUnknownItemInto]
  simp only [bind_assoc]
  iterate 4 refine bind_congr fun _ => ?_
  exact bind_pure_unit.symm

/-- The validator of Go is its decoder without the view. -/
theorem Go.validateAppsLookupItem_eq (item : Bytes) :
    validateAppsLookupItem item = decodeAppsLookupItem item >>= fun _ => .ok () := by
  rw [validateAppsLookupItem, decodeAppsLookupItem]
  simp only [bind_assoc]
  refine bind_congr_ok rfl fun _ passed => ?_
  have long := not_lt.mp (rejectIf_eq_ok passed)
  rw [appsLookupItemHdrSize] at long
  simp (disch := omega) only [checkedWireU32Int_bind, u16At_of_le, u32At_of_le, u64At_of_le,
    ok_bind]
  refine bind_congr fun _ => bind_congr fun _ => ?_
  split
  · exact validateAppsLookupUnknownItem_eq item _ _ _ _ _
  · simp only [bind_assoc, lookupStringInto_eq _ (UInt32.toNat_lt _) (UInt32.toNat_lt _)]
    iterate 5 refine bind_congr fun _ => ?_
    rfl

/-- The label table of a decoded item lies inside the item. -/
theorem decodeAppsItem_table {item : Bytes} {view : AppsLookupItemView}
    (decoded : decodeAppsItem item = .ok view) : view.item = item ∧
      view.labelTableOffset + view.labelCount.toNat * lookupLabelEntrySize ≤ item.length := by
  rw [decodeAppsItem] at decoded
  obtain ⟨passed, decoded⟩ := guard_eq_ok decoded
  have long := not_lt.mp passed
  rw [appsLookupItemHdrSize] at long
  simp (disch := omega) only [u16At_of_le, u32At_of_le, u64At_of_le, ok_bind] at decoded
  iterate 6 obtain ⟨_, -, decoded⟩ := bind_eq_ok decoded
  obtain ⟨_, table, decoded⟩ := bind_eq_ok decoded
  obtain rfl := Except.ok.inj decoded
  exact ⟨rfl, (validateLabels_accepted table).2.1⟩

end Apps

/-! ### Cgroups items -/

section Cgroups

theorem C.agree_cgroups : Agree C.cgroupsCodec.decodeItem cgroupsItemCodec.decodeItem := by
  intro item short
  show cgroupsLookupDecodeItemBytes item = decodeCgroupsItem item
  rw [cgroupsLookupDecodeItemBytes, decodeCgroupsItem]
  refine bind_congr_ok rfl fun _ passed => ?_
  have long := not_lt.mp (rejectIf_eq_ok passed)
  rw [cgroupsLookupItemHdrSize] at long
  simp (disch := omega) only [u16At_of_le, u32At_of_le, ok_bind]
  refine bind_congr fun _ => bind_congr fun _ => ?_
  simp only [nipcLookupStringView_eq short (UInt32.toNat_lt _) (UInt32.toNat_lt _)]
  refine bind_congr_ok rfl fun path readPath => bind_congr_ok rfl fun name readName =>
    bind_congr fun _ => ?_
  obtain ⟨path, pathEnd⟩ := path
  obtain ⟨name, nameEnd⟩ := name
  have ends : max pathEnd nameEnd ≤ item.length :=
    max_le (lookupString_end readPath).2 (lookupString_end readName).2
  dsimp only
  rw [larger_eq_max, max_comm nameEnd, nipcLookupValidateLabels_eq short ends]

/-- An accepted item that is not KNOWN has no name and no labels. -/
theorem Go.nameless_of_accepted {status orchestrator : UInt16} {pathLen nameLen labelCount : Nat}
    (accepted : NetIpc.validateCgroupsLookupSemantics status orchestrator pathLen nameLen
      labelCount = .ok ()) (unknown : status ≠ cgroupLookupKnown) :
    orchestrator = 0 ∧ nameLen = 0 ∧ labelCount = 0 := by
  rw [NetIpc.validateCgroupsLookupSemantics] at accepted
  iterate 2 obtain ⟨_, -, accepted⟩ := bind_eq_ok accepted
  simpa only [unknown, ne_eq, not_false_eq_true, true_and, not_or, not_not] using
    rejectIf_eq_ok accepted

theorem Go.agree_cgroups : Agree Go.cgroupsCodec.decodeItem cgroupsItemCodec.decodeItem := by
  intro item short
  show decodeCgroupsLookupItem item = decodeCgroupsItem item
  rw [decodeCgroupsLookupItem, decodeCgroupsItem]
  refine bind_congr_ok rfl fun _ passed => ?_
  have long := not_lt.mp (rejectIf_eq_ok passed)
  rw [cgroupsLookupItemHdrSize] at long
  simp (disch := omega) only [checkedWireU32Int_bind, u16At_of_le, u32At_of_le, ok_bind]
  refine bind_congr fun _ => bind_congr_ok rfl fun _ accepted => ?_
  split
  · rename_i unknown
    obtain ⟨plain, name, labels⟩ := nameless_of_accepted accepted unknown
    have none : UInt16.ofNat (leNat (slice item 24 2)) = 0 := UInt16.toNat_inj.mp labels
    rw [decodeCgroupsLookupUnknownItemInto, name, plain, none,
      lookupStringInto_eq true (UInt32.toNat_lt _) (UInt32.toNat_lt _),
      lookupEmptyStringInto_eq (UInt32.toNat_lt _)]
    iterate 3 refine bind_congr fun _ => ?_
    rw [validateLabels_zero, bind_assoc]
    rfl
  · simp only [lookupStringInto_eq true (UInt32.toNat_lt _) (UInt32.toNat_lt _)]
    refine bind_congr_ok rfl fun path readPath => bind_congr_ok rfl fun name readName =>
      bind_congr fun _ => ?_
    obtain ⟨path, pathEnd⟩ := path
    obtain ⟨name, nameEnd⟩ := name
    have ends : max pathEnd nameEnd ≤ item.length :=
      max_le (lookupString_end readPath).2 (lookupString_end readName).2
    rw [validateLabels_eq short ends]

theorem Go.validateCgroupsLookupUnknownItem_eq (item : Bytes) (status : UInt16)
    (pathOff pathLen : UInt32) (nameOff : Nat) :
    validateCgroupsLookupUnknownItem item pathOff.toNat pathLen.toNat nameOff =
      decodeCgroupsLookupUnknownItemInto item status pathOff.toNat pathLen.toNat nameOff >>=
        fun _ => .ok () := by
  rw [validateCgroupsLookupUnknownItem, decodeCgroupsLookupUnknownItemInto]
  simp only [bind_assoc, lookupStringInto_eq _ (UInt32.toNat_lt _) (UInt32.toNat_lt _)]
  iterate 3 refine bind_congr fun _ => ?_
  exact bind_pure_unit.symm

theorem Go.validateCgroupsLookupItem_eq (item : Bytes) :
    validateCgroupsLookupItem item = decodeCgroupsLookupItem item >>= fun _ => .ok () := by
  rw [validateCgroupsLookupItem, decodeCgroupsLookupItem]
  simp only [bind_assoc]
  refine bind_congr_ok rfl fun _ passed => ?_
  have long := not_lt.mp (rejectIf_eq_ok passed)
  rw [cgroupsLookupItemHdrSize] at long
  simp (disch := omega) only [checkedWireU32Int_bind, u16At_of_le, u32At_of_le, ok_bind]
  refine bind_congr fun _ => bind_congr fun _ => ?_
  split
  · exact validateCgroupsLookupUnknownItem_eq item _ _ _ _
  · simp only [bind_assoc, lookupStringInto_eq _ (UInt32.toNat_lt _) (UInt32.toNat_lt _)]
    iterate 4 refine bind_congr fun _ => ?_
    rfl

theorem decodeCgroupsItem_table {item : Bytes} {view : CgroupsLookupItemView}
    (decoded : decodeCgroupsItem item = .ok view) : view.item = item ∧
      view.labelTableOffset + view.labelCount.toNat * lookupLabelEntrySize ≤ item.length := by
  rw [decodeCgroupsItem] at decoded
  obtain ⟨passed, decoded⟩ := guard_eq_ok decoded
  have long := not_lt.mp passed
  rw [cgroupsLookupItemHdrSize] at long
  simp (disch := omega) only [u16At_of_le, u32At_of_le, ok_bind] at decoded
  iterate 5 obtain ⟨_, -, decoded⟩ := bind_eq_ok decoded
  obtain ⟨_, table, decoded⟩ := bind_eq_ok decoded
  obtain rfl := Except.ok.inj decoded
  exact ⟨rfl, (validateLabels_accepted table).2.1⟩

end Cgroups

/-! ### Three readers -/

/-- What a client can ask of a lookup response: decode it, take an item, take a label. -/
structure Reader (α : Type) where
  decode : Bytes → Res NipcError LookupResponseView
  item : LookupResponseView → UInt32 → Res NipcError α
  label : α → UInt32 → Res NipcError LookupLabelView

namespace Reader

/-- Two readers that accept the same payloads and show the same in them. -/
structure Same (first second : Reader α) (buf : Bytes) : Prop where
  decode : first.decode buf = second.decode buf
  item : ∀ view, first.decode buf = .ok view →
    ∀ index, first.item view index = second.item view index
  label : ∀ view index item, first.decode buf = .ok view → first.item view index = .ok item →
    ∀ label, first.label item label = second.label item label

/-- A reader that ends in a value or an error on a payload and everything in it. -/
structure Calm (reader : Reader α) (buf : Bytes) : Prop where
  decode : Ordinary (fun _ => True) (reader.decode buf)
  item : ∀ view, reader.decode buf = .ok view → ∀ index,
    Ordinary (fun _ => True) (reader.item view index)
  label : ∀ view index item, reader.decode buf = .ok view → reader.item view index = .ok item →
    ∀ label, Ordinary (fun _ => True) (reader.label item label)

def rustApps : Reader AppsLookupItemView :=
  ⟨decodeAppsLookupResponse, LookupResponseView.item appsItemCodec, AppsLookupItemView.label⟩

def cApps : Reader AppsLookupItemView :=
  ⟨C.nipcAppsLookupRespDecode, C.nipcAppsLookupRespItem, C.nipcAppsLookupItemLabel⟩

def goApps : Reader AppsLookupItemView :=
  ⟨Go.decodeAppsLookupResponse, Go.appsLookupResponseItem, Go.appsLookupItemLabel⟩

def rustCgroups : Reader CgroupsLookupItemView :=
  ⟨decodeCgroupsLookupResponse, LookupResponseView.item cgroupsItemCodec,
    CgroupsLookupItemView.label⟩

def cCgroups : Reader CgroupsLookupItemView :=
  ⟨C.nipcCgroupsLookupRespDecode, C.nipcCgroupsLookupRespItem, C.nipcCgroupsLookupItemLabel⟩

def goCgroups : Reader CgroupsLookupItemView :=
  ⟨Go.decodeCgroupsLookupResponse, Go.cgroupsLookupResponseItem, Go.cgroupsLookupItemLabel⟩

section Shown

variable {buf : Bytes}

theorem same_cApps (short : buf.length < 2 ^ 31) : rustApps.Same cApps buf where
  decode := (C.lookupRespDecode_eq short C.agree_apps rfl).symm
  item _ decoded index := (C.lookupRespItem_eq short C.agree_apps decoded index).symm
  label _ _ _ decoded taken label := by
    obtain ⟨bytes, small, read⟩ := decodeLookupResponse_bytes short decoded taken
    obtain ⟨rfl, table⟩ := decodeAppsItem_table read
    exact (C.nipcLookupLabelAt_eq small table label).symm

theorem same_goApps (short : buf.length < 2 ^ 31) : rustApps.Same goApps buf where
  decode := (Go.decodeLookupResponse_eq short rfl (by decide) fun item small =>
    (Go.validateAppsLookupItem_eq item).trans (Go.agree_apps.dropped small)).symm
  item _ decoded index := (Go.responseItem_eq short Go.agree_apps decoded index).symm
  label _ _ _ decoded taken label := by
    obtain ⟨bytes, small, read⟩ := decodeLookupResponse_bytes short decoded taken
    obtain ⟨rfl, table⟩ := decodeAppsItem_table read
    exact (Go.lookupLabelAt_eq small table label).symm

theorem calm_rustApps : rustApps.Calm buf where
  decode := ordinary_decodeLookupResponse ordinary_decodeAppsItem
  item _ decoded index := (ordinary_item decoded index).2
  label _ _ _ _ _ label := ordinary_labelAt label

theorem same_cCgroups (short : buf.length < 2 ^ 31) : rustCgroups.Same cCgroups buf where
  decode := (C.lookupRespDecode_eq short C.agree_cgroups rfl).symm
  item _ decoded index := (C.lookupRespItem_eq short C.agree_cgroups decoded index).symm
  label _ _ _ decoded taken label := by
    obtain ⟨bytes, small, read⟩ := decodeLookupResponse_bytes short decoded taken
    obtain ⟨rfl, table⟩ := decodeCgroupsItem_table read
    exact (C.nipcLookupLabelAt_eq small table label).symm

theorem same_goCgroups (short : buf.length < 2 ^ 31) : rustCgroups.Same goCgroups buf where
  decode := (Go.decodeLookupResponse_eq short rfl (by decide) fun item small =>
    (Go.validateCgroupsLookupItem_eq item).trans (Go.agree_cgroups.dropped small)).symm
  item _ decoded index := (Go.responseItem_eq short Go.agree_cgroups decoded index).symm
  label _ _ _ decoded taken label := by
    obtain ⟨bytes, small, read⟩ := decodeLookupResponse_bytes short decoded taken
    obtain ⟨rfl, table⟩ := decodeCgroupsItem_table read
    exact (Go.lookupLabelAt_eq small table label).symm

theorem calm_rustCgroups : rustCgroups.Calm buf where
  decode := ordinary_decodeLookupResponse ordinary_decodeCgroupsItem
  item _ decoded index := (ordinary_item decoded index).2
  label _ _ _ _ _ label := ordinary_labelAt label

end Shown

/-- The three readers of either method are one: they accept the same payloads with the same item
count and generation, hand out the same items and labels, and end in a value or an error. -/
theorem decoders_agree (buf : Bytes) (short : buf.length < 2 ^ 31) :
    (rustApps.Same cApps buf ∧ rustApps.Same goApps buf ∧ rustApps.Calm buf) ∧
      (rustCgroups.Same cCgroups buf ∧ rustCgroups.Same goCgroups buf ∧ rustCgroups.Calm buf) :=
  ⟨⟨same_cApps short, same_goApps short, calm_rustApps⟩,
    ⟨same_cCgroups short, same_goCgroups short, calm_rustCgroups⟩⟩

/-- A response with one KNOWN item and a label: its readers accept it and agree on it. -/
theorem decoders_agree_labelled :
    (rustApps.decode (responseImage 7
      [(AppsItem.mk 0 0 3 41 1 5 9 [97] [47] [] [([107], [118])]).image])).isOk = true ∧
    rustApps.Same cApps (responseImage 7
      [(AppsItem.mk 0 0 3 41 1 5 9 [97] [47] [] [([107], [118])]).image]) ∧
    rustApps.Same goApps (responseImage 7
      [(AppsItem.mk 0 0 3 41 1 5 9 [97] [47] [] [([107], [118])]).image]) :=
  have agree := decoders_agree (responseImage 7
    [(AppsItem.mk 0 0 3 41 1 5 9 [97] [47] [] [([107], [118])]).image]) (by decide +kernel)
  ⟨by decide +kernel, agree.1.1, agree.1.2.1⟩

end Reader

/-! ### The paths of Go -/

namespace Go

/-- The general path of an apps item, which the validator takes for KNOWN items: every string
with its length, then the labels. -/
def generalAppsItem (item : Bytes) (commOff commLen pathOff pathLen nameOff nameLen : Nat)
    (labelCount : UInt16) : Res NipcError Unit := do
  let (_, commEnd) ← lookupStringInto false item appsLookupItemHdrSize commOff commLen
  let (_, pathEnd) ← lookupStringInto false item appsLookupItemHdrSize pathOff pathLen
  let (_, nameEnd) ← lookupStringInto false item appsLookupItemHdrSize nameOff nameLen
  rejectIf (overlap commOff commEnd pathOff pathEnd ∨ overlap commOff commEnd nameOff nameEnd ∨
    overlap pathOff pathEnd nameOff nameEnd) .badLayout
  let _ ← validateLabels item appsLookupItemHdrSize labelCount (max commEnd (max pathEnd nameEnd))
  return ()

/-- The general path of a cgroups item. -/
def generalCgroupsItem (item : Bytes) (pathOff pathLen nameOff nameLen : Nat)
    (labelCount : UInt16) : Res NipcError Unit := do
  let (_, pathEnd) ← lookupStringInto false item cgroupsLookupItemHdrSize pathOff pathLen
  let (_, nameEnd) ← lookupStringInto false item cgroupsLookupItemHdrSize nameOff nameLen
  rejectIf (overlap pathOff pathEnd nameOff nameEnd) .badLayout
  let _ ← validateLabels item cgroupsLookupItemHdrSize labelCount (max pathEnd nameEnd)
  return ()

/-- The short path of empty strings is the general path with lengths of zero. -/
theorem lookupStringInto_zero (out : Bool) (item : Bytes) (hdrSize : Nat) (off : UInt32) :
    lookupStringInto out item hdrSize off.toNat 0 = lookupEmptyStringInto item hdrSize off.toNat :=
  (lookupStringInto_eq out off.toNat_lt (by decide)).trans
    (lookupEmptyStringInto_eq off.toNat_lt).symm

/-- Without labels the check of the labels is the check of the end. -/
theorem validateLabels_none (item : Bytes) (hdrSize fixedEnd : Nat) :
    (validateLabels item hdrSize 0 fixedEnd >>= fun _ => .ok ()) =
      rejectIf (fixedEnd ≠ item.length) .badLayout := by
  rw [validateLabels, if_pos rfl, bind_assoc]
  exact bind_pure_unit

theorem generalAppsItem_zero (item : Bytes) (commOff pathOff nameOff : UInt32) :
    generalAppsItem item commOff.toNat 0 pathOff.toNat 0 nameOff.toNat 0 0 =
      validateAppsLookupUnknownItem item commOff.toNat pathOff.toNat nameOff.toNat := by
  rw [generalAppsItem, validateAppsLookupUnknownItem]
  simp only [lookupStringInto_zero]
  iterate 4 refine bind_congr fun _ => ?_
  exact validateLabels_none item _ _

theorem generalCgroupsItem_zero (item : Bytes) (pathOff pathLen nameOff : UInt32) :
    generalCgroupsItem item pathOff.toNat pathLen.toNat nameOff.toNat 0 0 =
      validateCgroupsLookupUnknownItem item pathOff.toNat pathLen.toNat nameOff.toNat := by
  rw [generalCgroupsItem, validateCgroupsLookupUnknownItem]
  simp only [lookupStringInto_zero]
  iterate 3 refine bind_congr fun _ => ?_
  exact validateLabels_none item _ _

/-- A response whose items were validated hands out every one of them. -/
theorem responseItem_of_decoded {codec : Codec α}
    (same : ∀ item, codec.validateItem item = codec.decodeItem item >>= fun _ => .ok ())
    {buf : Bytes} {view : LookupResponseView} (decoded : decodeLookupResponse codec buf = .ok view)
    {index : UInt32} (below : index < view.itemCount) :
    ∃ value, responseItem codec view index = .ok value := by
  rw [decodeLookupResponse] at decoded
  iterate 4 obtain ⟨_, -, decoded⟩ := bind_eq_ok decoded
  obtain ⟨itemCount, -, decoded⟩ := bind_eq_ok decoded
  have count := itemCount.toNat_lt
  rw [checkedInt_of_lt (by rw [lookupRespHdrSize, lookupDirEntrySize]; omega), okOr_some,
    ok_bind] at decoded
  iterate 2 obtain ⟨_, -, decoded⟩ := bind_eq_ok decoded
  obtain ⟨_, loop, decoded⟩ := bind_eq_ok decoded
  obtain ⟨_, -, shown⟩ := bind_eq_ok decoded
  obtain rfl := Except.ok.inj shown
  have pass := (forFrom_unit_eq_ok _ _ _).mp loop index.toNat (Nat.zero_le _)
    (by rw [Nat.zero_add]; exact UInt32.lt_iff_toNat_lt.mp below)
  obtain ⟨⟨off, length⟩, entry, pass⟩ := bind_eq_ok pass
  obtain ⟨item, part, valid⟩ := bind_eq_ok pass
  rw [same] at valid
  obtain ⟨value, taken, -⟩ := bind_eq_ok valid
  refine ⟨value, ?_⟩
  rw [lookupDirEntrySize, lookupRespHdrSize, Nat.mul_comm] at entry part
  rw [responseItem, guard_bind (UInt32.not_le.mpr below), lookupBuilderDataOffset_eq, okOr_some,
    ok_bind, lookupBuilderDataOffset_eq, okOr_some, ok_bind, entry, ok_bind]
  dsimp only
  rw [part, ok_bind, taken]

/-- What Go checks of an item when it decodes a response is what it checks when it hands the item
out, on every byte string and with the same error. The short path of items that are not KNOWN is
the general path with empty strings and no labels. So no item of a decoded response fails. -/
theorem validateItem_eq_decodeItem (item buf : Bytes) (status : UInt16)
    (pid commOff pathOff pathLen nameOff index : UInt32) (view : LookupResponseView) :
    (validateAppsLookupItem item = decodeAppsLookupItem item >>= fun _ => .ok ()) ∧
      (validateCgroupsLookupItem item = decodeCgroupsLookupItem item >>= fun _ => .ok ()) ∧
      (generalAppsItem item commOff.toNat 0 pathOff.toNat 0 nameOff.toNat 0 0 =
          validateAppsLookupUnknownItem item commOff.toNat pathOff.toNat nameOff.toNat ∧
        generalAppsItem item commOff.toNat 0 pathOff.toNat 0 nameOff.toNat 0 0 =
          decodeAppsLookupUnknownItemInto item status pid commOff.toNat pathOff.toNat
            nameOff.toNat >>= fun _ => .ok ()) ∧
      (generalCgroupsItem item pathOff.toNat pathLen.toNat nameOff.toNat 0 0 =
          validateCgroupsLookupUnknownItem item pathOff.toNat pathLen.toNat nameOff.toNat ∧
        generalCgroupsItem item pathOff.toNat pathLen.toNat nameOff.toNat 0 0 =
          decodeCgroupsLookupUnknownItemInto item status pathOff.toNat pathLen.toNat
            nameOff.toNat >>= fun _ => .ok ()) ∧
      (decodeAppsLookupResponse buf = .ok view → index < view.itemCount →
        ∃ value, appsLookupResponseItem view index = .ok value) ∧
      (decodeCgroupsLookupResponse buf = .ok view → index < view.itemCount →
        ∃ value, cgroupsLookupResponseItem view index = .ok value) := by
  refine ⟨validateAppsLookupItem_eq item, validateCgroupsLookupItem_eq item,
    ⟨generalAppsItem_zero item commOff pathOff nameOff, ?_⟩,
    ⟨generalCgroupsItem_zero item pathOff pathLen nameOff, ?_⟩,
    fun decoded below => responseItem_of_decoded validateAppsLookupItem_eq decoded below,
    fun decoded below => responseItem_of_decoded validateCgroupsLookupItem_eq decoded below⟩
  · rw [generalAppsItem_zero, validateAppsLookupUnknownItem_eq item status pid]
  · rw [generalCgroupsItem_zero, validateCgroupsLookupUnknownItem_eq item status]

/-- The items of two accepted responses are handed out. -/
theorem validateItem_eq_decodeItem_labelled :
    (∃ value, appsLookupResponseItem ⟨1, 0, 1, 7, responseImage 7
      [(AppsItem.mk 0 0 3 41 1 5 9 [97] [47] [] [([107], [118])]).image]⟩ 0 = .ok value) ∧
    ∃ value, cgroupsLookupResponseItem ⟨1, 0, 1, 7, responseImage 7
      [(CgroupsItem.mk 1 0 [47] [] []).image]⟩ 0 = .ok value :=
  ⟨(validateItem_eq_decodeItem [] (responseImage 7
      [(AppsItem.mk 0 0 3 41 1 5 9 [97] [47] [] [([107], [118])]).image]) 0 0 0 0 0 0 0
      _).2.2.2.2.1 (by decide +kernel) (by decide),
    (validateItem_eq_decodeItem [] (responseImage 7 [(CgroupsItem.mk 1 0 [47] [] []).image])
      0 0 0 0 0 0 0 _).2.2.2.2.2 (by decide +kernel) (by decide)⟩

end Go

end NetIpc
