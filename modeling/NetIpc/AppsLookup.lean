/-
This file models the apps lookup codec (`apps_lookup.rs`): the semantic checks, the
item decoder, the builder's `add` and `add_non_known_item`, and the dispatch loop.

An item is a 60-byte header, the three strings with their NULs, and the labels.
`AppsItem.image` is the byte string it stands for. A placeholder is the image of an
item with a status, a pid and neutral values; unlike a cgroups placeholder it has no
string of the caller in it, so every image the builder writes can be read back.
-/

import NetIpc.Dispatch
import NetIpc.Request

namespace NetIpc

/-! ### Statuses -/

def nipcUidUnset : UInt32 := 0xffffffff

def pidLookupKnown : UInt16 := 0
def pidLookupUnknown : UInt16 := 1
def pidLookupPayloadExceeded : UInt16 := 2
def pidLookupOversizedItem : UInt16 := 3

def appsCgroupKnown : UInt16 := 0
def appsCgroupUnknownRetryLater : UInt16 := 1
def appsCgroupUnknownPermanent : UInt16 := 2
def appsCgroupHostRoot : UInt16 := 3

/-- `validate_apps_lookup_domains`. -/
def validateAppsLookupDomains (status cgroupStatus : UInt16) (commLen : Nat) :
    Res NipcError Unit := do
  rejectIf (status ≠ pidLookupKnown ∧ status ≠ pidLookupUnknown ∧
    status ≠ pidLookupPayloadExceeded ∧ status ≠ pidLookupOversizedItem) .badLayout
  rejectIf (cgroupStatus ≠ appsCgroupKnown ∧ cgroupStatus ≠ appsCgroupUnknownRetryLater ∧
    cgroupStatus ≠ appsCgroupUnknownPermanent ∧ cgroupStatus ≠ appsCgroupHostRoot) .badLayout
  rejectIf (commLen > 15) .badLayout

/-- `validate_apps_lookup_unknown`. -/
def validateAppsLookupUnknown (orchestrator cgroupStatus : UInt16) (ppid uid : UInt32)
    (starttime : UInt64) (commLen pathLen nameLen labelCount : Nat) : Res NipcError Unit :=
  rejectIf (orchestrator ≠ 0 ∨ cgroupStatus ≠ 0 ∨ ppid ≠ 0 ∨ uid ≠ nipcUidUnset ∨ starttime ≠ 0 ∨
    commLen ≠ 0 ∨ pathLen ≠ 0 ∨ nameLen ≠ 0 ∨ labelCount ≠ 0) .badLayout

/-- `validate_apps_lookup_known`. -/
def validateAppsLookupKnown (cgroupStatus orchestrator : UInt16)
    (commLen pathLen nameLen labelCount : Nat) : Res NipcError Unit := do
  rejectIf (commLen = 0) .badLayout
  if cgroupStatus = appsCgroupKnown then
    rejectIf (pathLen = 0) .badLayout
  else if cgroupStatus = appsCgroupUnknownRetryLater then
    rejectIf (orchestrator ≠ 0 ∨ nameLen ≠ 0 ∨ labelCount ≠ 0) .badLayout
  else if cgroupStatus = appsCgroupUnknownPermanent then
    rejectIf (pathLen = 0 ∨ orchestrator ≠ 0 ∨ nameLen ≠ 0 ∨ labelCount ≠ 0) .badLayout
  else if cgroupStatus = appsCgroupHostRoot then
    rejectIf (orchestrator ≠ 0 ∨ pathLen ≠ 0 ∨ nameLen ≠ 0 ∨ labelCount ≠ 0) .badLayout
  else .error (.err .badLayout)

/-- `validate_apps_lookup_semantics`. -/
def validateAppsLookupSemantics (status cgroupStatus orchestrator : UInt16) (ppid uid : UInt32)
    (starttime : UInt64) (commLen pathLen nameLen labelCount : Nat) : Res NipcError Unit := do
  validateAppsLookupDomains status cgroupStatus commLen
  if status ≠ pidLookupKnown then
    validateAppsLookupUnknown orchestrator cgroupStatus ppid uid starttime commLen pathLen nameLen
      labelCount
  else
    validateAppsLookupKnown cgroupStatus orchestrator commLen pathLen nameLen labelCount

/-! ### Reading an item -/

def appsLookupItemHdrSize : Nat := 60

/-- `AppsLookupItemView`. -/
structure AppsLookupItemView where
  status : UInt16
  orchestrator : UInt16
  cgroupStatus : UInt16
  pid : UInt32
  ppid : UInt32
  uid : UInt32
  starttime : UInt64
  comm : StrView
  cgroupPath : StrView
  cgroupName : StrView
  labelCount : UInt16
  item : Bytes
  labelTableOffset : Nat
  deriving Repr, DecidableEq

/-- `AppsLookupItemView::label`. -/
def AppsLookupItemView.label (view : AppsLookupItemView) (index : UInt32) :
    Res NipcError LookupLabelView :=
  labelAt view.item appsLookupItemHdrSize view.labelCount view.labelTableOffset index

/-- `decode_apps_item`. -/
def decodeAppsItem (item : Bytes) : Res NipcError AppsLookupItemView := do
  rejectIf (item.length < appsLookupItemHdrSize) .truncated
  let status ← u16At item 2
  let orchestrator ← u16At item 4
  let cgroupStatus ← u16At item 6
  let pid ← u32At item 8
  let ppid ← u32At item 12
  let uid ← u32At item 16
  let starttime ← u64At item 24
  let commOff ← u32At item 32
  let commLen ← u32At item 36
  let pathOff ← u32At item 40
  let pathLen ← u32At item 44
  let nameOff ← u32At item 48
  let nameLen ← u32At item 52
  let labelCount ← u16At item 56
  let layoutVersion ← u16At item 0
  let reserved ← u32At item 20
  let reserved2 ← u16At item 58
  rejectIf (layoutVersion ≠ 1 ∨ reserved ≠ 0 ∨ reserved2 ≠ 0) .badLayout
  validateAppsLookupSemantics status cgroupStatus orchestrator ppid uid starttime commLen.toNat
    pathLen.toNat nameLen.toNat labelCount.toNat
  let (comm, commEnd) ← lookupString item appsLookupItemHdrSize commOff.toNat commLen.toNat
  let (cgroupPath, pathEnd) ← lookupString item appsLookupItemHdrSize pathOff.toNat pathLen.toNat
  let (cgroupName, nameEnd) ← lookupString item appsLookupItemHdrSize nameOff.toNat nameLen.toNat
  rejectIf (overlap commOff.toNat commEnd pathOff.toNat pathEnd ∨
    overlap commOff.toNat commEnd nameOff.toNat nameEnd ∨
    overlap pathOff.toNat pathEnd nameOff.toNat nameEnd) .badLayout
  let labelTableOffset ← validateLabels item appsLookupItemHdrSize labelCount
    (max (max commEnd pathEnd) nameEnd)
  return ⟨status, orchestrator, cgroupStatus, pid, ppid, uid, starttime, comm, cgroupPath,
    cgroupName, labelCount, item, labelTableOffset⟩

def appsItemCodec : ItemCodec AppsLookupItemView := ⟨appsLookupItemHdrSize, decodeAppsItem⟩

/-- `AppsLookupResponseView::decode`. -/
def decodeAppsLookupResponse : Bytes → Res NipcError LookupResponseView :=
  decodeLookupResponse appsItemCodec

/-- `encode_apps_lookup_raw_response`. -/
def encodeAppsLookupRawResponse (items : List Bytes) (generation : UInt64) :
    Prog NipcError Bytes Nat :=
  encodeRawResponse appsItemCodec lookupRespHdrSize generation items

/-! ### Building a response -/

/-- The arguments of an add. -/
structure AppsItem where
  status : UInt16
  cgroupStatus : UInt16
  orchestrator : UInt16
  pid : UInt32
  ppid : UInt32
  uid : UInt32
  starttime : UInt64
  comm : Bytes
  cgroupPath : Bytes
  cgroupName : Bytes
  labels : List Label
  deriving Repr, DecidableEq

/-- `write_apps_item_header`. -/
def writeAppsItemHeader (status orchestrator cgroupStatus : UInt16) (pid ppid uid : UInt32)
    (starttime : UInt64) (commOff commLen pathOff pathLen nameOff nameLen : Nat)
    (labelCount : UInt16) : Prog NipcError Bytes Unit := do
  putU16 0 1
  putU16 2 status
  putU16 4 orchestrator
  putU16 6 cgroupStatus
  putU32 8 pid
  putU32 12 ppid
  putU32 16 uid
  putU32 20 0
  putU64 24 starttime
  putU32 32 (← Prog.ofRes (checkedU32 commOff))
  putU32 36 (← Prog.ofRes (checkedU32 commLen))
  putU32 40 (← Prog.ofRes (checkedU32 pathOff))
  putU32 44 (← Prog.ofRes (checkedU32 pathLen))
  putU32 48 (← Prog.ofRes (checkedU32 nameOff))
  putU32 52 (← Prog.ofRes (checkedU32 nameLen))
  putU16 56 labelCount
  putU16 58 0

/-- `add_non_known_item`. -/
def addNonKnownAppsItem (status : UInt16) (pid : UInt32) : Prog NipcError LookupBuilder Unit :=
  let itemSize := appsLookupItemHdrSize + 3
  LookupBuilder.addNonKnown false (.ok itemSize)
    (do
      let item ← Prog.get
      fillZero 0 item.length
      writeAppsItemHeader status 0 0 pid 0 nipcUidUnset 0 appsLookupItemHdrSize 0
        (appsLookupItemHdrSize + 1) 0 (appsLookupItemHdrSize + 2) 0 0)
    (pure itemSize)

/-- `note_item_overflow`. -/
def noteAppsItemOverflow (pid : UInt32) : Prog NipcError LookupBuilder Unit :=
  LookupBuilder.noteItemOverflow (addNonKnownAppsItem pidLookupOversizedItem pid)
    (addNonKnownAppsItem pidLookupPayloadExceeded pid)

/-- The part of `add` that checks the strings of a KNOWN item and computes its layout, with the
writes that follow once it is known to fit. -/
def planAppsItem (item : AppsItem) : Res NipcError LookupBuilder.ItemPlan := do
  rejectIf (sourceStringInvalid item.comm (item.status = pidLookupKnown) ∨
    sourceStringInvalid item.cgroupPath false ∨ sourceStringInvalid item.cgroupName false)
    .badLayout
  let labelCount ← checkedU16 item.labels.length
  let commOffset := appsLookupItemHdrSize
  let pathOffset ← okOr ((checkedAdd commOffset item.comm.length).bind (checkedAdd · 1)) .overflow
  let nameOffset ← okOr ((checkedAdd pathOffset item.cgroupPath.length).bind (checkedAdd · 1))
    .overflow
  let fixedEnd ← okOr ((checkedAdd nameOffset item.cgroupName.length).bind (checkedAdd · 1))
    .overflow
  let (tableStart, tableBytes, itemSize) ← labelLayout fixedEnd item.labels
  return {
    itemSize := itemSize
    header := writeAppsItemHeader item.status item.orchestrator item.cgroupStatus item.pid item.ppid
      item.uid item.starttime commOffset item.comm.length pathOffset item.cgroupPath.length
      nameOffset item.cgroupName.length labelCount
    body := do
      write commOffset item.comm
      write (commOffset + item.comm.length) [0]
      write pathOffset item.cgroupPath
      write (pathOffset + item.cgroupPath.length) [0]
      write nameOffset item.cgroupName
      write (nameOffset + item.cgroupName.length) [0]
      writeLabelPart fixedEnd tableStart tableBytes itemSize item.labels }

/-- The check of `add` before it looks at the status. -/
def checkAppsItem (item : AppsItem) : Res NipcError Unit :=
  validateAppsLookupSemantics item.status item.cgroupStatus item.orchestrator item.ppid item.uid
    item.starttime item.comm.length item.cgroupPath.length item.cgroupName.length
    item.labels.length

/-- `add`. -/
def addAppsItem (item : AppsItem) : Prog NipcError LookupBuilder Unit :=
  LookupBuilder.addItem true (item.status = pidLookupKnown) (checkAppsItem item)
    (planAppsItem item) (addNonKnownAppsItem item.status item.pid)
    (addNonKnownAppsItem pidLookupPayloadExceeded item.pid) (noteAppsItemOverflow item.pid)

/-- The part of `dispatch_apps_lookup` between making the builder and calling the handler. -/
def prepareAppsLookup (request : LookupRequestView) : Prog NipcError LookupBuilder Unit :=
  if request.itemCount > 0 then
    Prog.modify fun self =>
      { self with payloadExceededFixedItemLen := some (appsLookupItemHdrSize + 3) }
  else pure ()

/-- A handler of the apps method. -/
abbrev AppsLookupHandler := Handler LookupRequestView AppsItem

/-- `dispatch_apps_lookup`, with the items that were added. -/
def dispatchAppsLookupTraced (req : Bytes) (handler : AppsLookupHandler) :
    Prog NipcError Bytes (Nat × List AppsItem) :=
  dispatchTraced decodeAppsLookupRequest LookupRequestView.itemCount prepareAppsLookup addAppsItem
    req handler

/-- `dispatch_apps_lookup`. -/
def dispatchAppsLookup (req : Bytes) (handler : AppsLookupHandler) : Prog NipcError Bytes Nat := do
  let (size, _) ← dispatchAppsLookupTraced req handler
  return size

/-! ### The bytes of an item -/

namespace AppsItem

/-- The header of an item. -/
def headerImage (item : AppsItem) : Bytes :=
  leBytes 2 1 ++ leBytes 2 item.status.toNat ++ leBytes 2 item.orchestrator.toNat ++
    leBytes 2 item.cgroupStatus.toNat ++ leBytes 4 item.pid.toNat ++ leBytes 4 item.ppid.toNat ++
    leBytes 4 item.uid.toNat ++ leBytes 4 0 ++ leBytes 8 item.starttime.toNat ++
    leBytes 4 60 ++ leBytes 4 item.comm.length ++
    leBytes 4 (60 + item.comm.length + 1) ++ leBytes 4 item.cgroupPath.length ++
    leBytes 4 (60 + item.comm.length + 1 + item.cgroupPath.length + 1) ++
    leBytes 4 item.cgroupName.length ++ leBytes 2 item.labels.length ++ leBytes 2 0

/-- The item up to its labels. -/
def front (item : AppsItem) : Bytes :=
  item.headerImage ++ (item.comm ++ [0]) ++ (item.cgroupPath ++ [0]) ++ (item.cgroupName ++ [0])

/-- The bytes of an item. -/
def image (item : AppsItem) : Bytes := item.front ++ labelsImage item.front.length item.labels

/-- The item a placeholder stands for. -/
def placeholder (status : UInt16) (pid : UInt32) : AppsItem :=
  ⟨status, 0, 0, pid, 0, nipcUidUnset, 0, [], [], [], []⟩

@[simp] theorem length_headerImage (item : AppsItem) : item.headerImage.length = 60 := by
  simp [headerImage]

theorem length_front (item : AppsItem) :
    item.front.length =
      60 + item.comm.length + 1 + item.cgroupPath.length + 1 + item.cgroupName.length + 1 := by
  simp only [front, List.length_append, length_headerImage, List.length_singleton, Nat.add_assoc]

theorem length_image (item : AppsItem) :
    item.image.length = item.front.length + (labelsImage item.front.length item.labels).length :=
  List.length_append

theorem slice_image (item : AppsItem) {off len : Nat} (inside : off + len ≤ 60) :
    slice item.image off len = slice item.headerImage off len := by
  rw [image, front, List.append_assoc, List.append_assoc, List.append_assoc,
    slice_append_left _ _ _ _ (by rw [length_headerImage]; exact inside)]

theorem image_placeholder (status : UInt16) (pid : UInt32) :
    (placeholder status pid).image = (placeholder status pid).headerImage ++ zeros 3 := by
  rw [image, front, List.append_assoc, List.append_assoc, List.append_assoc]
  exact congrArg _ rfl

theorem length_placeholder (status : UInt16) (pid : UInt32) :
    (placeholder status pid).image.length = 63 := by
  rw [length_image, length_front]
  rfl

/-- What `add` asks of an item, whatever its size. -/
structure Proper (item : AppsItem) : Prop where
  semantics : checkAppsItem item = .ok ()
  commClean : 0 ∉ item.comm
  pathClean : 0 ∉ item.cgroupPath
  nameClean : 0 ∉ item.cgroupName
  labels : ∀ label ∈ item.labels, label.Valid

/-- What the decoder asks of an item. -/
structure Valid (item : AppsItem) : Prop extends Proper item where
  few : item.labels.length < 2 ^ 16

/-- What the decoder returns for an item. -/
def view (item : AppsItem) : AppsLookupItemView :=
  ⟨item.status, item.orchestrator, item.cgroupStatus, item.pid, item.ppid, item.uid,
    item.starttime, StrView.of item.comm, StrView.of item.cgroupPath, StrView.of item.cgroupName,
    UInt16.ofNat item.labels.length, item.image, labelTableStart item.front.length item.labels⟩

end AppsItem

/-! ### Writing an item -/

section Writing

variable (item : AppsItem)

/-- The header writer, on a slice of at least the header's size. -/
theorem run_writeAppsItemHeader (part : Bytes) (few : item.labels.length < 2 ^ 16)
    (room : 60 ≤ part.length) (small : item.front.length < 2 ^ 32) :
    (writeAppsItemHeader item.status item.orchestrator item.cgroupStatus item.pid item.ppid item.uid
      item.starttime appsLookupItemHdrSize item.comm.length (60 + item.comm.length + 1)
      item.cgroupPath.length (60 + item.comm.length + 1 + item.cgroupPath.length + 1)
      item.cgroupName.length (UInt16.ofNat item.labels.length)).run part =
      (.ok (), item.headerImage ++ part.drop 60) := by
  rw [item.length_front] at small
  unfold writeAppsItemHeader
  simp (disch := omega) only [appsLookupItemHdrSize, checkedU32_of_lt, Prog.ofRes_ok_bind, putU16,
    putU32, putU64, toNat_ofNat32]
  rw [UInt16.toNat_ofNat_of_lt' few, show part = [] ++ part from rfl]
  simp (disch := simp <;> omega) only [run_bind_write]
  rw [run_write_of_le (by simp; omega), splice_after _ _ _ _ (by simp)]
  simp only [List.nil_append, List.drop_drop, length_leBytes, Nat.reduceAdd]
  rfl

theorem writer_writeAppsItemHeader (status orchestrator cgroupStatus : UInt16)
    (pid ppid uid : UInt32) (starttime : UInt64)
    (commOff commLen pathOff pathLen nameOff nameLen : Nat) (labelCount : UInt16) :
    Writer (writeAppsItemHeader status orchestrator cgroupStatus pid ppid uid
      starttime commOff commLen pathOff pathLen nameOff nameLen labelCount) := by
  unfold writeAppsItemHeader
  iterate 9 refine (Writer.write _ _).bind fun _ => ?_
  iterate 6 refine (Writer.ofRes _).bind fun _ => (Writer.write _ _).bind fun _ => ?_
  exact (Writer.write _ _).bind fun _ => .write _ _

/-- The strings, written right behind the header, and what follows them. -/
theorem run_bind_writeAppsStrings {α : Type} (rest : Bytes) (next : Unit → Prog NipcError Bytes α)
    (room : item.comm.length + 1 + (item.cgroupPath.length + 1) + (item.cgroupName.length + 1) ≤
      rest.length) :
    (do
      write 60 item.comm
      write (60 + item.comm.length) [0]
      write (60 + item.comm.length + 1) item.cgroupPath
      write (60 + item.comm.length + 1 + item.cgroupPath.length) [0]
      write (60 + item.comm.length + 1 + item.cgroupPath.length + 1) item.cgroupName
      write (60 + item.comm.length + 1 + item.cgroupPath.length + 1 + item.cgroupName.length) [0]
      next ()).run (item.headerImage ++ rest) =
      (next ()).run (item.front ++ rest.drop
        (item.comm.length + 1 + (item.cgroupPath.length + 1) + (item.cgroupName.length + 1))) := by
  simp (disch := (try simp) <;> omega) only [run_bind_write]
  simp only [AppsItem.front, List.drop_drop, List.length_singleton, List.append_assoc,
    Nat.add_assoc]

/-- The writer of a placeholder: the fill leaves the three NULs behind the header. -/
theorem writes_appsPlaceholder (status : UInt16) (pid : UInt32) :
    LookupBuilder.Writes
      (do
        let item ← Prog.get
        fillZero 0 item.length
        writeAppsItemHeader status 0 0 pid 0 nipcUidUnset 0 appsLookupItemHdrSize 0
          (appsLookupItemHdrSize + 1) 0 (appsLookupItemHdrSize + 2) 0 0)
      (pure (appsLookupItemHdrSize + 3)) (AppsItem.placeholder status pid).image where
  headerWriter := (writer_writeAppsItemHeader _ _ _ _ _ _ _ _ _ _ _ _ _ _).zeroed
  bodyWriter := .pure _
  returns := Prog.returns_pure (AppsItem.length_placeholder status pid).symm
  run := by
    intro _ part length
    rw [AppsItem.length_placeholder] at length
    have filled : splice part 0 (zeros (part.length - 0)) = zeros 63 := by
      rw [length, splice, List.take_zero, List.nil_append, List.drop_eq_nil_of_le
        (by rw [length_zeros, length]), List.append_nil]
    have header := run_writeAppsItemHeader (AppsItem.placeholder status pid) (zeros 63)
      (by decide : (0 : Nat) < 2 ^ 16) (by decide)
      (by rw [AppsItem.length_front]; exact (by decide : (63 : Nat) < 2 ^ 32))
    refine ⟨(AppsItem.placeholder status pid).headerImage ++ (zeros 63).drop 60, ?_, ?_⟩
    · rw [Prog.run_bind_ok (Prog.run_get part),
        Prog.run_bind_ok (run_fillZero_of_le (Nat.zero_le _) (le_refl _)), filled]
      exact header
    · rw [AppsItem.length_placeholder, Prog.run_pure, AppsItem.image_placeholder]
      rfl

/-- What a plan for a KNOWN item says. -/
theorem planAppsItem_eq_ok {plan : LookupBuilder.ItemPlan}
    (planned : planAppsItem item = .ok plan) :
    (0 ∉ item.comm ∧ 0 ∉ item.cgroupPath ∧ 0 ∉ item.cgroupName) ∧
      item.labels.length < 2 ^ 16 ∧ (∀ label ∈ item.labels, label.Valid) ∧
      plan.itemSize = item.image.length ∧
      LookupBuilder.Writes plan.header plan.body item.image := by
  simp only [planAppsItem] at planned
  obtain ⟨strings, planned⟩ := guard_eq_ok planned
  have clean := strings
  rw [not_or, not_or, Bool.not_eq_true, Bool.not_eq_true, Bool.not_eq_true,
    sourceStringInvalid_false_iff, sourceStringInvalid_false_iff,
    sourceStringInvalid_false_iff] at clean
  obtain ⟨_, counted, planned⟩ := bind_eq_ok planned
  obtain ⟨few, rfl⟩ := checkedU16_eq_ok counted
  iterate 3
    obtain ⟨_, sum, planned⟩ := bind_eq_ok planned
    obtain rfl := okOr_checkedAdd_bind_eq_ok sum
  obtain ⟨⟨tableStart, tableBytes, itemSize⟩, layout, planned⟩ := bind_eq_ok planned
  obtain ⟨valid, rfl, rfl, rfl⟩ := labelLayout_eq_ok layout
  obtain rfl := Except.ok.inj planned
  rw [show appsLookupItemHdrSize + item.comm.length + 1 + item.cgroupPath.length + 1 +
    item.cgroupName.length + 1 = item.front.length from item.length_front.symm]
  refine ⟨⟨clean.1.2, clean.2.1.2, clean.2.2.2⟩, few, valid, item.length_image.symm, ?_, ?_, ?_, ?_⟩
  · exact writer_writeAppsItemHeader _ _ _ _ _ _ _ _ _ _ _ _ _ _
  · iterate 6 refine (Writer.write _ _).bind fun _ => ?_
    exact writer_writeLabelPart _ _ _ _ _
  · iterate 6 refine Prog.Returns.bind fun _ => ?_
    rw [item.length_image]
    exact returns_writeLabelPart _ _
  · intro small part length
    have total := item.length_image
    have fixed := item.length_front
    refine ⟨_, run_writeAppsItemHeader item part few (by omega) (by omega), ?_⟩
    have written := run_bind_writeAppsStrings item (part.drop 60)
      (fun _ => writeLabelPart item.front.length (labelTableStart item.front.length item.labels)
        (16 * item.labels.length)
        (item.front.length + (labelsImage item.front.length item.labels).length) item.labels)
      (by rw [List.length_drop]; omega)
    rw [appsLookupItemHdrSize, written, run_writeLabelPart _ _ _
      (by rw [List.length_drop, List.length_drop]; omega)
      (by rw [List.length_drop, List.length_drop]; omega), total]
    rfl

/-- A proper KNOWN item has a plan, unless it has too many labels or its size overflows. -/
theorem planAppsItem_of_proper (proper : item.Proper) (known : item.status = pidLookupKnown) :
    ReturnsOr (¬ (item.labels.length < 2 ^ 16 ∧ item.image.length ≤ usizeMax))
      (planAppsItem item) := by
  have total := item.length_image
  have fixed := item.length_front
  have some : item.comm ≠ [] := by
    have semantics := proper.semantics
    rw [checkAppsItem, validateAppsLookupSemantics] at semantics
    obtain ⟨_, -, semantics⟩ := bind_eq_ok semantics
    rw [if_neg (not_not_intro known)] at semantics
    obtain ⟨_, nonempty, -⟩ := bind_eq_ok semantics
    exact mt List.length_eq_zero_iff.mpr (rejectIf_eq_ok nonempty)
  have clean : ¬ (sourceStringInvalid item.comm (item.status = pidLookupKnown) = true ∨
      sourceStringInvalid item.cgroupPath false = true ∨
      sourceStringInvalid item.cgroupName false = true) := by
    rw [not_or, not_or, Bool.not_eq_true, Bool.not_eq_true, Bool.not_eq_true,
      sourceStringInvalid_false_iff, sourceStringInvalid_false_iff, sourceStringInvalid_false_iff]
    exact ⟨⟨fun _ => some, proper.commClean⟩, ⟨nofun, proper.pathClean⟩, nofun, proper.nameClean⟩
  simp only [planAppsItem, appsLookupItemHdrSize]
  rw [guard_bind clean]
  by_cases few : item.labels.length < 2 ^ 16
  · rw [checkedU16_of_lt few]
    refine .sum (.sum (.sum ?_ (by omega)) (by omega)) (by omega)
    rw [← fixed]
    rcases labelLayout_of_valid item.front.length item.labels proper.labels with
      layout | ⟨layout, past⟩
    · rw [layout]
      exact .inl ⟨_, rfl⟩
    · rw [layout]
      exact .inr ⟨rfl, by omega⟩
  · rw [checkedU16_of_not_lt few]
    exact .inr ⟨rfl, fun both => few both.1⟩

end Writing

/-! ### Reading an item back -/

section Reading

variable (item : AppsItem)

/-- The words of the header. -/
theorem decodeAppsItem_image (few : item.labels.length < 2 ^ 16)
    (small : item.image.length < 2 ^ 32) :
    decodeAppsItem item.image = (do
      checkAppsItem item
      let (comm, commEnd) ← lookupString item.image 60 60 item.comm.length
      let (cgroupPath, pathEnd) ← lookupString item.image 60 (60 + item.comm.length + 1)
        item.cgroupPath.length
      let (cgroupName, nameEnd) ← lookupString item.image 60
        (60 + item.comm.length + 1 + item.cgroupPath.length + 1) item.cgroupName.length
      rejectIf (overlap 60 commEnd (60 + item.comm.length + 1) pathEnd ∨
        overlap 60 commEnd (60 + item.comm.length + 1 + item.cgroupPath.length + 1) nameEnd ∨
        overlap (60 + item.comm.length + 1) pathEnd
          (60 + item.comm.length + 1 + item.cgroupPath.length + 1) nameEnd) .badLayout
      let labelTableOffset ← validateLabels item.image 60 (UInt16.ofNat item.labels.length)
        (max (max commEnd pathEnd) nameEnd)
      return ⟨item.status, item.orchestrator, item.cgroupStatus, item.pid, item.ppid, item.uid,
        item.starttime, comm, cgroupPath, cgroupName, UInt16.ofNat item.labels.length, item.image,
        labelTableOffset⟩) := by
  have total := item.length_image
  have fixed := item.length_front
  rw [decodeAppsItem, guard_bind (by rw [appsLookupItemHdrSize]; omega)]
  simp (disch := omega) only [u16At_of_le, u32At_of_le, u64At_of_le, ok_bind,
    AppsItem.slice_image, AppsItem.headerImage, List.append_assoc, slice_leBytes_skip,
    slice_leBytes_take, slice_leBytes, Nat.sub_self, Nat.reduceSub, u16_leBytes,
    u64_leBytes, u32_ofNat_leBytes, UInt32.ofNat_toNat, toNat_ofNat32]
  rw [leNat_leBytes_of_lt 2 _ few, UInt16.toNat_ofNat_of_lt' few, guard_bind (by decide)]
  rfl

/-- A valid item is read back. -/
theorem decodeAppsItem_of_valid (valid : item.Valid) (small : item.image.length < 2 ^ 32) :
    decodeAppsItem item.image = .ok item.view := by
  have fixed := item.length_front
  have addressable : item.image.length ≤ usizeMax := by
    rw [usizeMax]
    omega
  have comm : lookupString item.image 60 60 item.comm.length =
      .ok (StrView.of item.comm, 60 + item.comm.length + 1) := by
    have split : item.image = item.headerImage ++ (item.comm ++ [0]) ++
        (item.cgroupPath ++ [0] ++ (item.cgroupName ++ [0]) ++
          labelsImage item.front.length item.labels) := by
      rw [AppsItem.image, AppsItem.front]
      simp only [List.append_assoc]
    refine lookupString_split split ?_ rfl ?_ valid.commClean addressable
    · rw [AppsItem.length_headerImage]
    · rw [AppsItem.length_headerImage]
  have path : lookupString item.image 60 (60 + item.comm.length + 1) item.cgroupPath.length =
      .ok (StrView.of item.cgroupPath,
        60 + item.comm.length + 1 + item.cgroupPath.length + 1) := by
    have split : item.image = item.headerImage ++ (item.comm ++ [0]) ++ (item.cgroupPath ++ [0]) ++
        (item.cgroupName ++ [0] ++ labelsImage item.front.length item.labels) := by
      rw [AppsItem.image, AppsItem.front]
      simp only [List.append_assoc]
    refine lookupString_split split ?_ rfl ?_ valid.pathClean addressable
    · simp only [List.length_append, AppsItem.length_headerImage, List.length_singleton,
        Nat.add_assoc]
    · rw [List.length_append, AppsItem.length_headerImage]
      exact Nat.le_add_right _ _
  have name : lookupString item.image 60
      (60 + item.comm.length + 1 + item.cgroupPath.length + 1) item.cgroupName.length =
      .ok (StrView.of item.cgroupName, item.front.length) := by
    have split : item.image = item.headerImage ++ (item.comm ++ [0]) ++ (item.cgroupPath ++ [0]) ++
        (item.cgroupName ++ [0]) ++ labelsImage item.front.length item.labels := rfl
    rw [fixed]
    refine lookupString_split split ?_ rfl ?_ valid.nameClean addressable
    · simp only [List.length_append, AppsItem.length_headerImage, List.length_singleton,
        Nat.add_assoc]
    · rw [List.length_append, List.length_append, AppsItem.length_headerImage, Nat.add_assoc]
      exact Nat.le_add_right _ _
  have apart : ¬ (overlap 60 (60 + item.comm.length + 1) (60 + item.comm.length + 1)
        (60 + item.comm.length + 1 + item.cgroupPath.length + 1) = true ∨
      overlap 60 (60 + item.comm.length + 1)
        (60 + item.comm.length + 1 + item.cgroupPath.length + 1) item.front.length = true ∨
      overlap (60 + item.comm.length + 1)
        (60 + item.comm.length + 1 + item.cgroupPath.length + 1)
        (60 + item.comm.length + 1 + item.cgroupPath.length + 1) item.front.length = true) := by
    simp only [overlap, Bool.and_eq_true, decide_eq_true_eq]
    omega
  have labels := validateLabels_image rfl valid.labels
    (show 60 ≤ item.front.length by omega) small valid.few
  rw [decodeAppsItem_image item valid.few small, valid.semantics, ok_bind, comm, ok_bind]
  dsimp only
  rw [path, ok_bind]
  dsimp only
  rw [name, ok_bind]
  dsimp only
  rw [guard_bind apart, Nat.max_eq_right (by omega),
    show validateLabels item.image 60 _ item.front.length = _ from labels, ok_bind]
  rfl

/-- The labels of a valid item are read back in order. -/
theorem label_appsView (valid : item.Valid) (small : item.image.length < 2 ^ 32) (index : Nat)
    (label : Label) (found : item.labels[index]? = some label) :
    item.view.label (UInt32.ofNat index) = .ok ⟨StrView.of label.1, StrView.of label.2⟩ := by
  have fixed := item.length_front
  exact labelAt_image rfl valid.labels (show 60 ≤ item.front.length by omega) small valid.few index
    label found

end Reading

end NetIpc
