/-
This file models the cgroups lookup codec (`cgroups_lookup.rs`): the item decoder,
the builder's `add`, `add_request_item` and `add_non_known_item`, and the dispatch
loop.

An item is a 28-byte header, the path and the name with their NULs, and the labels.
`CgroupsItem.image` is the byte string it stands for; both writers of the builder
produce images, a placeholder being the image of an item without name and labels.
The decoder accepts an image exactly when the path is a proper string, and this is
where the two differ: in suffix mode the builder does not look at the path.
-/

import NetIpc.Dispatch
import NetIpc.Request

namespace NetIpc

/-! ### Statuses -/

def cgroupLookupKnown : UInt16 := 0
def cgroupLookupUnknownRetryLater : UInt16 := 1
def cgroupLookupUnknownPermanent : UInt16 := 2
def cgroupLookupPayloadExceeded : UInt16 := 3
def cgroupLookupOversizedItem : UInt16 := 4

/-- `validate_cgroups_lookup_semantics`. -/
def validateCgroupsLookupSemantics (status orchestrator : UInt16)
    (pathLen nameLen labelCount : Nat) : Res NipcError Unit := do
  rejectIf (status ≠ cgroupLookupKnown ∧ status ≠ cgroupLookupUnknownRetryLater ∧
    status ≠ cgroupLookupUnknownPermanent ∧ status ≠ cgroupLookupPayloadExceeded ∧
    status ≠ cgroupLookupOversizedItem) .badLayout
  rejectIf (pathLen = 0) .badLayout
  rejectIf (status ≠ cgroupLookupKnown ∧ (orchestrator ≠ 0 ∨ nameLen ≠ 0 ∨ labelCount ≠ 0))
    .badLayout

/-! ### Reading an item -/

/-- `CgroupsLookupItemView`. -/
structure CgroupsLookupItemView where
  status : UInt16
  orchestrator : UInt16
  path : StrView
  name : StrView
  labelCount : UInt16
  item : Bytes
  labelTableOffset : Nat
  deriving Repr, DecidableEq

/-- `CgroupsLookupItemView::label`. -/
def CgroupsLookupItemView.label (view : CgroupsLookupItemView) (index : UInt32) :
    Res NipcError LookupLabelView :=
  labelAt view.item cgroupsLookupItemHdrSize view.labelCount view.labelTableOffset index

/-- `decode_cgroups_item`. -/
def decodeCgroupsItem (item : Bytes) : Res NipcError CgroupsLookupItemView := do
  rejectIf (item.length < cgroupsLookupItemHdrSize) .truncated
  let status ← u16At item 2
  let orchestrator ← u16At item 4
  let pathOff ← u32At item 8
  let pathLen ← u32At item 12
  let nameOff ← u32At item 16
  let nameLen ← u32At item 20
  let labelCount ← u16At item 24
  let layoutVersion ← u16At item 0
  let reserved ← u16At item 6
  let reserved2 ← u16At item 26
  rejectIf (layoutVersion ≠ 1 ∨ reserved ≠ 0 ∨ reserved2 ≠ 0) .badLayout
  validateCgroupsLookupSemantics status orchestrator pathLen.toNat nameLen.toNat labelCount.toNat
  let (path, pathEnd) ← lookupString item cgroupsLookupItemHdrSize pathOff.toNat pathLen.toNat
  let (name, nameEnd) ← lookupString item cgroupsLookupItemHdrSize nameOff.toNat nameLen.toNat
  rejectIf (overlap pathOff.toNat pathEnd nameOff.toNat nameEnd) .badLayout
  let labelTableOffset ← validateLabels item cgroupsLookupItemHdrSize labelCount
    (max pathEnd nameEnd)
  return ⟨status, orchestrator, path, name, labelCount, item, labelTableOffset⟩

def cgroupsItemCodec : ItemCodec CgroupsLookupItemView :=
  ⟨cgroupsLookupItemHdrSize, decodeCgroupsItem⟩

/-- `CgroupsLookupResponseView::decode`. -/
def decodeCgroupsLookupResponse : Bytes → Res NipcError LookupResponseView :=
  decodeLookupResponse cgroupsItemCodec

/-- `encode_cgroups_lookup_raw_response`. -/
def encodeCgroupsLookupRawResponse (items : List Bytes) (generation : UInt64) :
    Prog NipcError Bytes Nat :=
  encodeRawResponse cgroupsItemCodec lookupRespHdrSize generation items

/-! ### Building a response -/

/-- The arguments of an add. -/
structure CgroupsItem where
  status : UInt16
  orchestrator : UInt16
  path : Bytes
  name : Bytes
  labels : List Label
  deriving Repr, DecidableEq

/-- `write_cgroups_item_header`. -/
def writeCgroupsItemHeader (status orchestrator : UInt16)
    (pathOff pathLen nameOff nameLen : Nat) (labelCount : UInt16) : Prog NipcError Bytes Unit := do
  putU16 0 1
  putU16 2 status
  putU16 4 orchestrator
  putU16 6 0
  putU32 8 (← Prog.ofRes (checkedU32 pathOff))
  putU32 12 (← Prog.ofRes (checkedU32 pathLen))
  putU32 16 (← Prog.ofRes (checkedU32 nameOff))
  putU32 20 (← Prog.ofRes (checkedU32 nameLen))
  putU16 24 labelCount
  putU16 26 0

/-- The name offset of an item: behind the path and its NUL. -/
def cgroupsNameOffset (path : Bytes) : Res NipcError Nat :=
  okOr ((checkedAdd cgroupsLookupItemHdrSize path.length).bind (checkedAdd · 1)) .overflow

/-- `add_non_known_item`. -/
def addNonKnownCgroupsItem (status : UInt16) (path : Bytes) : Prog NipcError LookupBuilder Unit :=
  let nameOffset := cgroupsLookupItemHdrSize + path.length + 1
  LookupBuilder.addNonKnown true
    (do
      let nameOffset ← cgroupsNameOffset path
      okOr (checkedAdd nameOffset 1) .overflow)
    (writeCgroupsItemHeader status 0 cgroupsLookupItemHdrSize path.length nameOffset 0 0)
    (do
      write cgroupsLookupItemHdrSize path
      write (cgroupsLookupItemHdrSize + path.length) [0]
      write nameOffset [0]
      return nameOffset + 1)

/-- `note_item_overflow`. -/
def noteCgroupsItemOverflow (path : Bytes) : Prog NipcError LookupBuilder Unit :=
  LookupBuilder.noteItemOverflow (addNonKnownCgroupsItem cgroupLookupOversizedItem path)
    (addNonKnownCgroupsItem cgroupLookupPayloadExceeded path)

/-- The part of `add_with_path` that computes the layout of a KNOWN item, with the writes that
follow once it is known to fit. -/
def planCgroupsItem (item : CgroupsItem) : Res NipcError LookupBuilder.ItemPlan := do
  let labelCount ← checkedU16 item.labels.length
  let pathOffset := cgroupsLookupItemHdrSize
  let nameOffset ← cgroupsNameOffset item.path
  let fixedEnd ← okOr ((checkedAdd nameOffset item.name.length).bind (checkedAdd · 1)) .overflow
  let (tableStart, tableBytes, itemSize) ← labelLayout fixedEnd item.labels
  return {
    itemSize := itemSize
    header := writeCgroupsItemHeader item.status item.orchestrator pathOffset item.path.length
      nameOffset item.name.length labelCount
    body := do
      write pathOffset item.path
      write (pathOffset + item.path.length) [0]
      write nameOffset item.name
      write (nameOffset + item.name.length) [0]
      writeLabelPart fixedEnd tableStart tableBytes itemSize item.labels }

/-- The checks of `add_with_path` before it looks at the status. -/
def checkCgroupsItem (item : CgroupsItem) (pathValidated : Bool) : Res NipcError Unit := do
  validateCgroupsLookupSemantics item.status item.orchestrator item.path.length item.name.length
    item.labels.length
  rejectIf ((pathValidated = false ∧ sourceStringInvalid item.path true) ∨
    sourceStringInvalid item.name false) .badLayout

/-- `add_with_path`. -/
def addCgroupsItemWithPath (item : CgroupsItem) (pathValidated : Bool) :
    Prog NipcError LookupBuilder Unit :=
  LookupBuilder.addItem false (item.status = cgroupLookupKnown)
    (checkCgroupsItem item pathValidated) (planCgroupsItem item)
    (addNonKnownCgroupsItem item.status item.path)
    (addNonKnownCgroupsItem cgroupLookupPayloadExceeded item.path)
    (noteCgroupsItemOverflow item.path)

/-- A request view as code outside the codec can have one: made by `decode`. -/
def CgroupsRequest : Type :=
  { view : LookupRequestView // ∃ bytes, decodeCgroupsLookupRequest bytes = .ok view }

/-- `CgroupsLookupRequestView::decode`, keeping that the view was made by it. -/
def decodeCgroupsRequest (bytes : Bytes) : Res NipcError CgroupsRequest :=
  match decoded : decodeCgroupsLookupRequest bytes with
  | .ok view => .ok ⟨view, bytes, decoded⟩
  | .error reason => .error reason

theorem decodeCgroupsRequest_of_decoded {bytes : Bytes} {view : LookupRequestView}
    (decoded : decodeCgroupsLookupRequest bytes = .ok view) :
    decodeCgroupsRequest bytes = .ok ⟨view, bytes, decoded⟩ := by
  unfold decodeCgroupsRequest
  split
  · rename_i other same
    rw [decoded] at same
    cases same
    rfl
  · rename_i reason failed
    rw [decoded] at failed
    cases failed

/-- The two ways a handler can add an item. -/
inductive CgroupsAdd where
  | add (item : CgroupsItem)
  | addRequestItem (request : CgroupsRequest) (index : UInt32) (status orchestrator : UInt16)
      (name : Bytes) (labels : List Label)

namespace CgroupsAdd

/-- The arguments `add_with_path` is called with. -/
def item : CgroupsAdd → Res NipcError CgroupsItem
  | add item => .ok item
  | addRequestItem request index status orchestrator name labels => do
    let path ← request.1.item cgroupsKeyCodec index
    let path ← path.asBytes
    return ⟨status, orchestrator, path, name, labels⟩

/-- The last argument of `add_with_path`. -/
def pathValidated : CgroupsAdd → Bool
  | add _ => false
  | addRequestItem .. => true

/-- `add` and `add_request_item`. -/
def program (call : CgroupsAdd) : Prog NipcError LookupBuilder Unit := do
  let item ← Prog.ofRes call.item
  addCgroupsItemWithPath item call.pathValidated

end CgroupsAdd

/-- The part of `dispatch_cgroups_lookup` between making the builder and calling the handler. -/
def prepareCgroupsLookup (request : LookupRequestView) : Prog NipcError LookupBuilder Unit :=
  if request.itemCount > 0 then do
    let itemCount := request.itemCount.toNat
    let _ ← Prog.ofRes (okOr (checkedAdd itemCount 1) .overflow)
    let lens ← Prog.ofRes (collectFrom
      (fun index => request.payloadExceededItemLen (UInt32.ofNat index)) 0 itemCount)
    LookupBuilder.setPayloadExceededItemLens lens
    let self ← Prog.get
    match self.error with
    | some error => Prog.fail error
    | none => pure ()
  else pure ()

/-- A handler of the cgroups method. -/
abbrev CgroupsLookupHandler := Handler CgroupsRequest CgroupsAdd

/-- `dispatch_cgroups_lookup`, with the adds that succeeded. -/
def dispatchCgroupsLookupTraced (req : Bytes) (handler : CgroupsLookupHandler) :
    Prog NipcError Bytes (Nat × List CgroupsAdd) :=
  dispatchTraced decodeCgroupsRequest (fun request => request.1.itemCount)
    (fun request => prepareCgroupsLookup request.1) CgroupsAdd.program req handler

/-- `dispatch_cgroups_lookup`. -/
def dispatchCgroupsLookup (req : Bytes) (handler : CgroupsLookupHandler) :
    Prog NipcError Bytes Nat := do
  let (size, _) ← dispatchCgroupsLookupTraced req handler
  return size

/-! ### The bytes of an item -/

namespace CgroupsItem

/-- The header of an item. -/
def headerImage (item : CgroupsItem) : Bytes :=
  leBytes 2 1 ++ leBytes 2 item.status.toNat ++ leBytes 2 item.orchestrator.toNat ++ leBytes 2 0 ++
    leBytes 4 28 ++ leBytes 4 item.path.length ++ leBytes 4 (28 + item.path.length + 1) ++
    leBytes 4 item.name.length ++ leBytes 2 item.labels.length ++ leBytes 2 0

/-- The item up to its labels. -/
def front (item : CgroupsItem) : Bytes :=
  item.headerImage ++ (item.path ++ [0]) ++ (item.name ++ [0])

/-- The bytes of an item. -/
def image (item : CgroupsItem) : Bytes := item.front ++ labelsImage item.front.length item.labels

/-- The item a placeholder stands for. -/
def placeholder (status : UInt16) (path : Bytes) : CgroupsItem := ⟨status, 0, path, [], []⟩

variable (item : CgroupsItem)

@[simp] theorem length_headerImage : item.headerImage.length = 28 := by
  simp [headerImage]

theorem length_front : item.front.length = 28 + item.path.length + 1 + item.name.length + 1 := by
  simp only [front, List.length_append, length_headerImage, List.length_singleton, Nat.add_assoc]

theorem length_image :
    item.image.length = item.front.length + (labelsImage item.front.length item.labels).length :=
  List.length_append

theorem slice_image {off len : Nat} (inside : off + len ≤ 28) :
    slice item.image off len = slice item.headerImage off len := by
  rw [image, front, List.append_assoc, List.append_assoc,
    slice_append_left _ _ _ _ (by rw [length_headerImage]; exact inside)]

theorem image_placeholder (status : UInt16) (path : Bytes) :
    (placeholder status path).image = (placeholder status path).front := List.append_nil _

theorem length_placeholder (status : UInt16) (path : Bytes) :
    (placeholder status path).image.length = 30 + path.length := by
  rw [image_placeholder, length_front]
  simp only [placeholder, List.length_nil]
  omega

/-- What an add asks of an item, whatever its size. -/
structure Proper (item : CgroupsItem) : Prop where
  semantics : validateCgroupsLookupSemantics item.status item.orchestrator item.path.length
    item.name.length item.labels.length = .ok ()
  pathClean : 0 ∉ item.path
  nameClean : 0 ∉ item.name
  labels : ∀ label ∈ item.labels, label.Valid

/-- What the decoder asks of an item. -/
structure Valid (item : CgroupsItem) : Prop extends Proper item where
  few : item.labels.length < 2 ^ 16

/-- What the decoder returns for an item. -/
def view (item : CgroupsItem) : CgroupsLookupItemView :=
  ⟨item.status, item.orchestrator, StrView.of item.path, StrView.of item.name,
    UInt16.ofNat item.labels.length, item.image, labelTableStart item.front.length item.labels⟩

end CgroupsItem

/-! ### Writing an item -/

section Writing

variable (item : CgroupsItem)

/-- The header writer, on a slice of at least the header's size. -/
theorem run_writeCgroupsItemHeader (part : Bytes) (few : item.labels.length < 2 ^ 16)
    (room : 28 ≤ part.length) (pathSmall : 28 + item.path.length + 1 < 2 ^ 32)
    (nameSmall : item.name.length < 2 ^ 32) :
    (writeCgroupsItemHeader item.status item.orchestrator cgroupsLookupItemHdrSize item.path.length
      (28 + item.path.length + 1) item.name.length (UInt16.ofNat item.labels.length)).run part =
      (.ok (), item.headerImage ++ part.drop 28) := by
  unfold writeCgroupsItemHeader
  simp (disch := omega) only [cgroupsLookupItemHdrSize, checkedU32_of_lt, Prog.ofRes_ok_bind,
    putU16, putU32, toNat_ofNat32]
  rw [UInt16.toNat_ofNat_of_lt' few, show part = [] ++ part from rfl]
  simp (disch := simp <;> omega) only [run_bind_write]
  rw [run_write_of_le (by simp; omega), splice_after _ _ _ _ (by simp)]
  simp only [List.nil_append, List.drop_drop, length_leBytes, Nat.reduceAdd]
  rfl

theorem writer_writeCgroupsItemHeader (status orchestrator : UInt16)
    (pathOff pathLen nameOff nameLen : Nat) (labelCount : UInt16) :
    Writer (writeCgroupsItemHeader status orchestrator pathOff pathLen nameOff
      nameLen labelCount) := by
  unfold writeCgroupsItemHeader
  iterate 4 refine (Writer.write _ _).bind fun _ => ?_
  iterate 4 refine (Writer.ofRes _).bind fun _ => (Writer.write _ _).bind fun _ => ?_
  exact (Writer.write _ _).bind fun _ => .write _ _

/-- The strings, written right behind the header, and what follows them. -/
theorem run_bind_writeStrings {α : Type} (rest : Bytes) (next : Unit → Prog NipcError Bytes α)
    (room : item.path.length + 1 + (item.name.length + 1) ≤ rest.length) :
    (do
      write 28 item.path
      write (28 + item.path.length) [0]
      write (28 + item.path.length + 1) item.name
      write (28 + item.path.length + 1 + item.name.length) [0]
      next ()).run (item.headerImage ++ rest) =
      (next ()).run (item.front ++ rest.drop (item.path.length + 1 + (item.name.length + 1))) := by
  simp (disch := (try simp) <;> omega) only [run_bind_write]
  simp only [CgroupsItem.front, List.drop_drop, List.length_singleton, List.append_assoc,
    Nat.add_assoc]

/-- The two writers of a placeholder write its image. -/
theorem writes_placeholder (status : UInt16) (path : Bytes) :
    LookupBuilder.Writes
      (writeCgroupsItemHeader status 0 cgroupsLookupItemHdrSize path.length
        (cgroupsLookupItemHdrSize + path.length + 1) 0 0)
      (do
        write cgroupsLookupItemHdrSize path
        write (cgroupsLookupItemHdrSize + path.length) [0]
        write (cgroupsLookupItemHdrSize + path.length + 1) [0]
        return cgroupsLookupItemHdrSize + path.length + 1 + 1)
      (CgroupsItem.placeholder status path).image where
  headerWriter := writer_writeCgroupsItemHeader _ _ _ _ _ _ _
  bodyWriter := by
    iterate 3 refine (Writer.write _ _).bind fun _ => ?_
    exact .pure _
  returns := by
    iterate 3 refine Prog.Returns.bind fun _ => ?_
    refine Prog.returns_pure ?_
    rw [CgroupsItem.length_placeholder, cgroupsLookupItemHdrSize]
    omega
  run := by
    intro small part length
    rw [CgroupsItem.length_placeholder] at small length
    have header := run_writeCgroupsItemHeader (CgroupsItem.placeholder status path) part
      (by decide : (0 : Nat) < 2 ^ 16) (by omega)
      (show 28 + path.length + 1 < 2 ^ 32 by omega) (by decide : (0 : Nat) < 2 ^ 32)
    refine ⟨_, header, ?_⟩
    rw [cgroupsLookupItemHdrSize, CgroupsItem.length_placeholder]
    simp (disch := (try simp) <;> omega) only [run_bind_write]
    rw [Prog.run_pure, CgroupsItem.image_placeholder, CgroupsItem.front,
      List.drop_eq_nil_of_le (by simp; omega)]
    simp only [CgroupsItem.placeholder, List.append_assoc, List.append_nil, List.nil_append]
    rw [show 28 + path.length + 1 + 1 = 30 + path.length by omega]

/-- What a plan for a KNOWN item says. -/
theorem planCgroupsItem_eq_ok {plan : LookupBuilder.ItemPlan}
    (planned : planCgroupsItem item = .ok plan) :
    item.labels.length < 2 ^ 16 ∧ (∀ label ∈ item.labels, label.Valid) ∧
      plan.itemSize = item.image.length ∧
      LookupBuilder.Writes plan.header plan.body item.image := by
  simp only [planCgroupsItem, cgroupsNameOffset] at planned
  obtain ⟨_, counted, planned⟩ := bind_eq_ok planned
  obtain ⟨few, rfl⟩ := checkedU16_eq_ok counted
  iterate 2
    obtain ⟨_, sum, planned⟩ := bind_eq_ok planned
    obtain rfl := okOr_checkedAdd_bind_eq_ok sum
  obtain ⟨⟨tableStart, tableBytes, itemSize⟩, layout, planned⟩ := bind_eq_ok planned
  obtain ⟨valid, rfl, rfl, rfl⟩ := labelLayout_eq_ok layout
  obtain rfl := Except.ok.inj planned
  rw [show cgroupsLookupItemHdrSize + item.path.length + 1 + item.name.length + 1 =
    item.front.length from item.length_front.symm]
  refine ⟨few, valid, item.length_image.symm, ?_, ?_, ?_, ?_⟩
  · exact writer_writeCgroupsItemHeader _ _ _ _ _ _ _
  · iterate 4 refine (Writer.write _ _).bind fun _ => ?_
    exact writer_writeLabelPart _ _ _ _ _
  · iterate 4 refine Prog.Returns.bind fun _ => ?_
    rw [item.length_image]
    exact returns_writeLabelPart _ _
  · intro small part length
    have total := item.length_image
    have fixed := item.length_front
    refine ⟨_, run_writeCgroupsItemHeader item part few (by omega) (by omega) (by omega), ?_⟩
    have strings := run_bind_writeStrings item (part.drop 28)
      (fun _ => writeLabelPart item.front.length (labelTableStart item.front.length item.labels)
        (16 * item.labels.length)
        (item.front.length + (labelsImage item.front.length item.labels).length) item.labels)
      (by rw [List.length_drop]; omega)
    rw [cgroupsLookupItemHdrSize, strings, run_writeLabelPart _ _ _
      (by rw [List.length_drop, List.length_drop]; omega)
      (by rw [List.length_drop, List.length_drop]; omega), total]
    rfl

/-- An item with valid labels has a plan, unless it has too many of them or its size overflows. -/
theorem planCgroupsItem_of_proper (valid : ∀ label ∈ item.labels, label.Valid) :
    ReturnsOr (¬ (item.labels.length < 2 ^ 16 ∧ item.image.length ≤ usizeMax))
      (planCgroupsItem item) := by
  have total := item.length_image
  have fixed := item.length_front
  simp only [planCgroupsItem, cgroupsNameOffset, cgroupsLookupItemHdrSize]
  by_cases few : item.labels.length < 2 ^ 16
  · rw [checkedU16_of_lt few]
    refine .sum (.sum ?_ (by omega)) (by omega)
    rw [← fixed]
    rcases labelLayout_of_valid item.front.length item.labels valid with layout | ⟨layout, past⟩
    · rw [layout]
      exact .inl ⟨_, rfl⟩
    · rw [layout]
      exact .inr ⟨rfl, by omega⟩
  · rw [checkedU16_of_not_lt few]
    exact .inr ⟨rfl, fun both => few both.1⟩

end Writing

/-! ### Reading an item back -/

section Reading

variable (item : CgroupsItem)

/-- The words of the header. -/
theorem decodeCgroupsItem_image (few : item.labels.length < 2 ^ 16)
    (small : item.image.length < 2 ^ 32) :
    decodeCgroupsItem item.image = (do
      validateCgroupsLookupSemantics item.status item.orchestrator item.path.length
        item.name.length item.labels.length
      let (path, pathEnd) ← lookupString item.image 28 28 item.path.length
      let (name, nameEnd) ← lookupString item.image 28 (28 + item.path.length + 1) item.name.length
      rejectIf (overlap 28 pathEnd (28 + item.path.length + 1) nameEnd) .badLayout
      let labelTableOffset ← validateLabels item.image 28 (UInt16.ofNat item.labels.length)
        (max pathEnd nameEnd)
      return ⟨item.status, item.orchestrator, path, name, UInt16.ofNat item.labels.length,
        item.image, labelTableOffset⟩) := by
  have total := item.length_image
  have fixed := item.length_front
  rw [decodeCgroupsItem, guard_bind (by rw [cgroupsLookupItemHdrSize]; omega)]
  simp (disch := omega) only [u16At_of_le, u32At_of_le, ok_bind, CgroupsItem.slice_image,
    CgroupsItem.headerImage, List.append_assoc, slice_leBytes_skip, slice_leBytes_take,
    slice_leBytes, Nat.sub_self, Nat.reduceSub, u16_leBytes, u32_ofNat_leBytes, toNat_ofNat32]
  rw [leNat_leBytes_of_lt 2 _ few, UInt16.toNat_ofNat_of_lt' few, guard_bind (by decide)]
  rfl

/-- A valid item is read back. -/
theorem decodeCgroupsItem_of_valid (valid : item.Valid) (small : item.image.length < 2 ^ 32) :
    decodeCgroupsItem item.image = .ok item.view := by
  have total := item.length_image
  have fixed := item.length_front
  have path : lookupString item.image 28 28 item.path.length =
      .ok (StrView.of item.path, 28 + item.path.length + 1) := by
    have split : item.image = item.headerImage ++ (item.path ++ [0]) ++
        (item.name ++ [0] ++ labelsImage item.front.length item.labels) := by
      rw [CgroupsItem.image, CgroupsItem.front]
      simp only [List.append_assoc]
    refine lookupString_split split ?_ rfl ?_ valid.pathClean ?_
    · rw [CgroupsItem.length_headerImage]
    · rw [CgroupsItem.length_headerImage]
    · rw [usizeMax]
      omega
  have name : lookupString item.image 28 (28 + item.path.length + 1) item.name.length =
      .ok (StrView.of item.name, 28 + item.path.length + 1 + item.name.length + 1) := by
    have split : item.image = item.headerImage ++ (item.path ++ [0]) ++ (item.name ++ [0]) ++
        labelsImage item.front.length item.labels := rfl
    refine lookupString_split split ?_ rfl ?_ valid.nameClean ?_
    · simp only [List.length_append, CgroupsItem.length_headerImage, List.length_singleton,
        Nat.add_assoc]
    · rw [List.length_append, CgroupsItem.length_headerImage]
      omega
    · rw [usizeMax]
      omega
  have apart : ¬ overlap 28 (28 + item.path.length + 1) (28 + item.path.length + 1)
      (28 + item.path.length + 1 + item.name.length + 1) = true := by
    simp [overlap]
  have labels := validateLabels_image rfl valid.labels
    (show 28 ≤ item.front.length by omega) small valid.few
  rw [decodeCgroupsItem_image item valid.few small, valid.semantics, ok_bind, path, ok_bind]
  dsimp only
  rw [name, ok_bind]
  dsimp only
  rw [guard_bind apart, Nat.max_eq_right (by omega), ← fixed,
    show validateLabels item.image 28 _ item.front.length = _ from labels, ok_bind]
  rfl

/-- The labels of a valid item are read back in order. -/
theorem label_view (valid : item.Valid) (small : item.image.length < 2 ^ 32) (index : Nat)
    (label : Label) (found : item.labels[index]? = some label) :
    item.view.label (UInt32.ofNat index) = .ok ⟨StrView.of label.1, StrView.of label.2⟩ := by
  have fixed := item.length_front
  exact labelAt_image rfl valid.labels (show 28 ≤ item.front.length by omega) small valid.few index
    label found

/-- An item that is read has a proper path. -/
theorem path_of_decodeCgroupsItem {view : CgroupsLookupItemView}
    (few : item.labels.length < 2 ^ 16) (small : item.image.length < 2 ^ 32)
    (decoded : decodeCgroupsItem item.image = .ok view) : item.path ≠ [] ∧ 0 ∉ item.path := by
  rw [decodeCgroupsItem_image item few small] at decoded
  obtain ⟨_, semantics, decoded⟩ := bind_eq_ok decoded
  obtain ⟨found, string, -⟩ := bind_eq_ok decoded
  constructor
  · intro empty
    rw [validateCgroupsLookupSemantics] at semantics
    obtain ⟨_, -, semantics⟩ := bind_eq_ok semantics
    obtain ⟨_, nonempty, -⟩ := bind_eq_ok semantics
    exact rejectIf_eq_ok nonempty (by rw [empty, List.length_nil])
  · have clean := lookupString_eq_ok string
    rwa [CgroupsItem.image, CgroupsItem.front, List.append_assoc, List.append_assoc,
      List.append_assoc, ← List.append_assoc item.headerImage,
      slice_middle _ _ _ _ _ item.length_headerImage.symm rfl] at clean

end Reading

end NetIpc
