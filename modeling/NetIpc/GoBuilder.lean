/-
This file models the response builders of the Go package (`lookup_common.go`,
`apps_lookup.go`, `cgroups_lookup.go`).

The Go builders have the fields of the Rust ones, so `LookupBuilder` is their state; a
`payloadExceededFixed` of zero is the missing fixed length. They differ in how an item is
put in. The Go code computes every word of an item and of its directory entry before it
writes the first byte, it notes every error it returns, and `addUnknown`, which writes the
items that are not KNOWN and the placeholders, looks at the room in the buffer only.
-/

import NetIpc.GoLookup

namespace NetIpc.Go

open LookupBuilder

variable {α : Type}

/-! ### Sums and copies -/

/-- `checkedU32Int`. -/
def checkedU32Int (value : Nat) : Option UInt32 :=
  if value > 2 ^ 32 - 1 then none else some (UInt32.ofNat value)

/-- `checkedU16Int`. -/
def checkedU16Int (value : Nat) : Option UInt16 :=
  if value > 2 ^ 16 - 1 then none else some (UInt16.ofNat value)

/-- `copy(item[off:], src)`, which copies what there is room for. -/
def copyInto (off : Nat) (src : Bytes) : Prog NipcError Bytes Unit := do
  let item ← Prog.get
  write off (src.take (item.length - off))

/-- `lookupDirOffset`. -/
def lookupDirOffset : Nat → UInt32 → Option Nat := lookupBuilderDataOffset

/-! ### Labels -/

/-- `labelLayoutPrefix`. -/
def labelLayoutPrefix (fixedEnd labelCount : Nat) : Res NipcError (Nat × Nat × Nat) :=
  if labelCount = 0 then .ok (fixedEnd, 0, fixedEnd)
  else do
    rejectIf (fixedEnd > maxIntValue - 7) .overflow
    let tableStart := align8 fixedEnd
    let tableBytes := labelCount * lookupLabelEntrySize
    rejectIf (tableBytes > maxIntValue) .overflow
    rejectIf (tableStart > maxIntValue - tableBytes) .overflow
    return (tableStart, tableBytes, tableStart + tableBytes)

/-- The loop of `labelLayoutGo`. -/
def labelLayoutFrom : Nat → List Label → Res NipcError Nat
  | itemSize, [] => .ok itemSize
  | itemSize, (key, value) :: rest => do
    rejectIf (sourceStringInvalid key true ∨ sourceStringInvalid value false) .badLayout
    rejectIf (key.length > maxIntValue - 1 ∨ value.length > maxIntValue - 1 ∨
      key.length + 1 > maxIntValue - (value.length + 1)) .overflow
    let labelBytes := key.length + 1 + value.length + 1
    rejectIf (itemSize > maxIntValue - labelBytes) .overflow
    labelLayoutFrom (itemSize + labelBytes) rest

/-- `labelLayoutGo`. -/
def labelLayoutGo (fixedEnd : Nat) (labels : List Label) : Res NipcError (Nat × Nat × Nat) := do
  let (tableStart, tableBytes, itemSize) ← labelLayoutPrefix fixedEnd labels.length
  let itemSize ← labelLayoutFrom itemSize labels
  return (tableStart, tableBytes, itemSize)

/-- The loop of `writeLookupLabels`, from label `i` on. -/
def writeLookupLabelsFrom (tableStart : Nat) : Nat → Nat → List Label → Prog NipcError Bytes Nat
  | _, next, [] => pure next
  | i, next, (key, value) :: rest => do
    Prog.ofRes (rejectIf (next > maxIntValue - key.length ∨
      next + key.length > maxIntValue - 1) .overflow)
    let valueOff := next + key.length + 1
    Prog.ofRes (rejectIf (valueOff > maxIntValue - value.length ∨
      valueOff + value.length > maxIntValue - 1) .overflow)
    let itemNext := valueOff + value.length + 1
    Prog.ofRes (rejectIf (next > 2 ^ 32 - 1 ∨ key.length > 2 ^ 32 - 1 ∨ valueOff > 2 ^ 32 - 1 ∨
      value.length > 2 ^ 32 - 1) .overflow)
    let entry := tableStart + i * lookupLabelEntrySize
    putU32 entry (UInt32.ofNat next)
    putU32 (entry + 4) (UInt32.ofNat key.length)
    putU32 (entry + 8) (UInt32.ofNat valueOff)
    putU32 (entry + 12) (UInt32.ofNat value.length)
    copyInto next key
    write (next + key.length) [0]
    copyInto valueOff value
    write (valueOff + value.length) [0]
    writeLookupLabelsFrom tableStart (i + 1) itemNext rest

/-- `writeLookupLabels`. -/
def writeLookupLabels (tableStart tableBytes : Nat) (labels : List Label) :
    Prog NipcError Bytes Nat := do
  Prog.ofRes (rejectIf (tableStart > maxIntValue - tableBytes) .overflow)
  writeLookupLabelsFrom tableStart 0 (tableStart + tableBytes) labels

/-- The end of both item writers; the value is the size of the item. -/
def writeLabelPart (fixedEnd tableStart tableBytes itemSize : Nat) (labels : List Label) :
    Prog NipcError Bytes Nat :=
  if labels.length > 0 then do
    fillZero fixedEnd tableStart
    writeLookupLabels tableStart tableBytes labels
  else pure itemSize

/-! ### The space kept for placeholders -/

/-- The loop of `finishPayloadExceededSuffixBytes`, which runs from the last length to the first. -/
def finishPayloadExceededSuffixBytes : List Nat → Option (List Nat)
  | [] => some [0]
  | itemLen :: rest => do
    let sums ← finishPayloadExceededSuffixBytes rest
    let next := sums.headD 0
    let itemCost ← (if next > 0 then
      (if align8 itemLen > 2 ^ 32 - 1 then none else some (align8 itemLen)) else some itemLen)
    if itemCost > 2 ^ 32 - 1 - next then none else some ((itemCost + next) :: sums)

/-- `buildPayloadExceededSuffixBytes`. -/
def buildPayloadExceededSuffixBytes (itemLens : List Nat) : Option (List Nat) :=
  if itemLens.all (fun itemLen => (checkedU32Int itemLen).isSome) then
    finishPayloadExceededSuffixBytes itemLens
  else none

/-- `payloadExceededSuffixFits`. -/
def payloadExceededSuffixFits (bufLen dataOffset : Nat) (suffixBytes : List Nat)
    (first maxItems : UInt32) : Bool :=
  if maxItems.toNat > maxIntValue then true
  else if maxItems.toNat = maxIntValue ∨ suffixBytes.length ≠ maxItems.toNat + 1 then true
  else if first.toNat > maxIntValue then false
  else if first > maxItems then true
  else if dataOffset > maxIntValue - 7 then false
  else if align8 dataOffset > bufLen then false
  else suffixBytes.getD first.toNat 0 ≤ bufLen - align8 dataOffset

/-- `payloadExceededFixedSuffixFits`. -/
def payloadExceededFixedSuffixFits (bufLen dataOffset itemLen : Nat) (first maxItems : UInt32) :
    Bool :=
  if maxItems.toNat > maxIntValue then true
  else if first.toNat > maxIntValue then false
  else if first > maxItems then true
  else if dataOffset > maxIntValue - 7 then false
  else if align8 dataOffset > bufLen then false
  else
    let remaining := maxItems.toNat - first.toNat
    if remaining = 0 then true
    else
      match checkedAlign8 itemLen with
      | none => false
      | some alignedItemLen =>
        let tailItems := remaining - 1
        if alignedItemLen ≠ 0 ∧ tailItems > (2 ^ 64 - 1 - itemLen) / alignedItemLen then false
        else itemLen + tailItems * alignedItemLen ≤ bufLen - align8 dataOffset

/-! ### The builder -/

/-- `NewAppsLookupBuilder` and `NewCgroupsLookupBuilder`. -/
def newLookupBuilder (buf : Bytes) (maxItems : UInt32) (generation : UInt64) :
    Res NipcError LookupBuilder :=
  match lookupBuilderDataOffset lookupRespHdrSize maxItems with
  | none => .error .panic
  | some minRequired =>
    if buf.length < minRequired then .error .panic
    else .ok {
      buf := buf
      generation := generation
      itemCount := 0
      maxItems := maxItems
      dataOffset := minRequired
      error := none
      payloadExceededSuffix := false
      payloadExceededSuffixBytes := []
      payloadExceededFixedItemLen := none }

/-- `SetPayloadExceededItemLens`. -/
def setPayloadExceededItemLens (itemLens : List Nat) : Prog NipcError LookupBuilder Unit :=
  match buildPayloadExceededSuffixBytes itemLens with
  | none => Prog.modify fun b => { b with error := some .overflow }
  | some suffixBytes => Prog.modify fun b =>
    { b with
      payloadExceededSuffixBytes := suffixBytes
      payloadExceededFixedItemLen := none }

/-- `payloadExceededSuffixFits` of the builder; the cgroups builder has no fixed length. -/
def suffixFits (b : LookupBuilder) (dataOffset : Nat) : Bool :=
  match b.payloadExceededFixedItemLen with
  | some itemLen => payloadExceededFixedSuffixFits b.buf.length dataOffset itemLen
      (b.itemCount + 1) b.maxItems
  | none => payloadExceededSuffixFits b.buf.length dataOffset b.payloadExceededSuffixBytes
      (b.itemCount + 1) b.maxItems

/-- `if !ok { b.err = ErrOverflow; return ErrOverflow }`. -/
def orOverflow (value : Option α) : Prog NipcError LookupBuilder α :=
  match value with
  | none => noteError .overflow
  | some value => pure value

/-- Clear the padding, write the item and its directory entry. `body` returns the size of the
item. -/
def writeItem (dataOffset : Nat) (itemCount : UInt32) (itemStart itemEnd : Nat)
    (itemStart32 itemSize32 : UInt32) (body : Prog NipcError Bytes Nat) :
    Prog NipcError LookupBuilder Nat := do
  onBuf (fillZero dataOffset itemStart)
  let itemSize ← noting (onBuf (onSlice itemStart itemEnd body))
  let dir ← orOverflow (lookupDirOffset lookupRespHdrSize itemCount)
  onBuf (putU32 dir itemStart32)
  onBuf (putU32 (dir + 4) itemSize32)
  return itemSize

/-- Write the item and count it. The apps builder keeps an earlier error when it puts in a KNOWN
item. -/
def putItem (clearsErr : Bool) (itemStart itemEnd : Nat) (itemStart32 itemSize32 : UInt32)
    (body : Prog NipcError Bytes Nat) : Prog NipcError LookupBuilder Unit := do
  let b ← Prog.get
  let itemSize ← writeItem b.dataOffset b.itemCount itemStart itemEnd itemStart32 itemSize32 body
  Prog.modify fun b =>
    { b with
      dataOffset := itemStart + itemSize
      itemCount := b.itemCount + 1
      error := if clearsErr then none else b.error }

/-- `addUnknown` of the two builders. `body` writes the item; there is none when one of its words
does not fit 32 bits. -/
def addUnknown (itemSize : Option Nat) (body : Option (Prog NipcError Bytes Nat)) :
    Prog NipcError LookupBuilder Unit := do
  let b ← Prog.get
  let itemStart ← orOverflow (checkedAlign8 b.dataOffset)
  let itemSize ← orOverflow itemSize
  let itemEnd ← orOverflow (checkedAddInt itemStart itemSize)
  if itemEnd > b.buf.length then
    noteError .overflow
  else
    let body ← orOverflow body
    let itemStart32 ← orOverflow (checkedU32Int itemStart)
    let itemSize32 ← orOverflow (checkedU32Int itemSize)
    putItem true itemStart itemEnd itemStart32 itemSize32 body

/-- What `Add` computes for a KNOWN item before it looks at the buffer. -/
structure ItemLayout where
  itemStart : Nat
  itemSize : Nat
  body : Option (Prog NipcError Bytes Nat)

/-- The rest of `Add` for a KNOWN item whose layout is known. -/
def putLayout (clearsErr : Bool) (layout : ItemLayout)
    (overflow : Prog NipcError LookupBuilder Unit) : Prog NipcError LookupBuilder Unit := do
  let b ← Prog.get
  match checkedAddInt layout.itemStart layout.itemSize with
  | none => overflow
  | some itemEnd =>
    if itemEnd > b.buf.length then overflow
    else if suffixFits b itemEnd then do
      let body ← orOverflow layout.body
      let itemStart32 ← orOverflow (checkedU32Int layout.itemStart)
      let itemSize32 ← orOverflow (checkedU32Int layout.itemSize)
      putItem clearsErr layout.itemStart itemEnd itemStart32 itemSize32 body
    else overflow

/-- The part of `Add` for a KNOWN item; an overflow of the layout goes to `overflow`. -/
def addKnown (clearsErr : Bool) (planned : Nat → Res NipcError ItemLayout)
    (overflow : Prog NipcError LookupBuilder Unit) : Prog NipcError LookupBuilder Unit := do
  let b ← Prog.get
  match planned b.dataOffset with
  | .error (.err .overflow) => overflow
  | .error reason => noting (Prog.stop reason)
  | .ok layout => putLayout clearsErr layout overflow

/-- `Add` of the apps builder and `add` of the cgroups builder. -/
def addItem (clearsErr known : Bool) (check : Res NipcError Unit)
    (planned : Nat → Res NipcError ItemLayout)
    (unknown exceeded overflow : Prog NipcError LookupBuilder Unit) :
    Prog NipcError LookupBuilder Unit := do
  let b ← Prog.get
  if b.payloadExceededSuffix then
    exceeded
  else if b.itemCount ≥ b.maxItems then
    noteError .overflow
  else
    noting (Prog.ofRes check)
    if known then addKnown clearsErr planned overflow else addOther unknown overflow

/-! ### The apps builder -/

/-- `appsLookupUnknownItemSize`. -/
def appsLookupUnknownItemSize : Nat := appsLookupItemHdrSize + 3

/-- The item `addUnknown` of the apps builder writes. -/
def writeAppsUnknownItem (status : UInt16) (pid : UInt32) : Prog NipcError Bytes Nat := do
  fillZero 0 appsLookupUnknownItemSize
  putU16 0 1
  putU16 2 status
  putU32 8 pid
  putU32 16 nipcUidUnset
  putU32 32 (UInt32.ofNat appsLookupItemHdrSize)
  putU32 40 (UInt32.ofNat (appsLookupItemHdrSize + 1))
  putU32 48 (UInt32.ofNat (appsLookupItemHdrSize + 2))
  return appsLookupUnknownItemSize

/-- `addUnknown` of the apps builder. -/
def addUnknownApps (status : UInt16) (pid : UInt32) : Prog NipcError LookupBuilder Unit :=
  addUnknown (some appsLookupUnknownItemSize) (some (writeAppsUnknownItem status pid))

/-- `noteItemOverflow` of the apps builder. -/
def noteAppsItemOverflow (pid : UInt32) : Prog NipcError LookupBuilder Unit :=
  noteItemOverflow (addUnknownApps pidLookupOversizedItem pid)
    (addUnknownApps pidLookupPayloadExceeded pid)

/-- The item `Add` of the apps builder writes, once its words are known. -/
def writeAppsItem (item : AppsItem) (pathOff nameOff fixedEnd tableStart tableBytes itemSize : Nat)
    (commOff32 commLen32 pathOff32 pathLen32 nameOff32 nameLen32 : UInt32) (labelCount : UInt16) :
    Prog NipcError Bytes Nat := do
  putU16 0 1
  putU16 2 item.status
  putU16 4 item.orchestrator
  putU16 6 item.cgroupStatus
  putU32 8 item.pid
  putU32 12 item.ppid
  putU32 16 item.uid
  putU32 20 0
  putU64 24 item.starttime
  putU32 32 commOff32
  putU32 36 commLen32
  putU32 40 pathOff32
  putU32 44 pathLen32
  putU32 48 nameOff32
  putU32 52 nameLen32
  putU16 56 labelCount
  putU16 58 0
  copyInto appsLookupItemHdrSize item.comm
  write (appsLookupItemHdrSize + item.comm.length) [0]
  copyInto pathOff item.cgroupPath
  write (pathOff + item.cgroupPath.length) [0]
  copyInto nameOff item.cgroupName
  write (nameOff + item.cgroupName.length) [0]
  writeLabelPart fixedEnd tableStart tableBytes itemSize item.labels

/-- What `Add` of the apps builder computes for a KNOWN item. -/
def layoutAppsItem (item : AppsItem) (dataOffset : Nat) : Res NipcError ItemLayout := do
  rejectIf (sourceStringInvalid item.comm (item.status = pidLookupKnown) ∨
    sourceStringInvalid item.cgroupPath false ∨ sourceStringInvalid item.cgroupName false)
    .badLayout
  let labelCount ← okOr (checkedU16Int item.labels.length) .overflow
  let itemStart ← okOr (checkedAlign8 dataOffset) .overflow
  let commOff := appsLookupItemHdrSize
  let pathOff ← okOr ((checkedAddInt commOff item.comm.length).bind (checkedAddInt · 1)) .overflow
  let nameOff ← okOr ((checkedAddInt pathOff item.cgroupPath.length).bind (checkedAddInt · 1))
    .overflow
  let fixedEnd ← okOr ((checkedAddInt nameOff item.cgroupName.length).bind (checkedAddInt · 1))
    .overflow
  let (tableStart, tableBytes, itemSize) ← labelLayoutGo fixedEnd item.labels
  return {
    itemStart
    itemSize
    body := do
      let commOff32 ← checkedU32Int commOff
      let commLen32 ← checkedU32Int item.comm.length
      let pathOff32 ← checkedU32Int pathOff
      let pathLen32 ← checkedU32Int item.cgroupPath.length
      let nameOff32 ← checkedU32Int nameOff
      let nameLen32 ← checkedU32Int item.cgroupName.length
      return writeAppsItem item pathOff nameOff fixedEnd tableStart tableBytes itemSize commOff32
        commLen32 pathOff32 pathLen32 nameOff32 nameLen32 labelCount }

/-- `AppsLookupBuilder.Add`. -/
def addAppsItem (item : AppsItem) : Prog NipcError LookupBuilder Unit :=
  addItem false (item.status = pidLookupKnown)
    (validateAppsLookupSemantics item.status item.cgroupStatus item.orchestrator item.ppid item.uid
      item.starttime item.comm.length item.cgroupPath.length item.cgroupName.length
      item.labels.length)
    (layoutAppsItem item) (addUnknownApps item.status item.pid)
    (addUnknownApps pidLookupPayloadExceeded item.pid) (noteAppsItemOverflow item.pid)

/-! ### The cgroups builder -/

/-- The item `addUnknown` of the cgroups builder writes. -/
def writeCgroupsUnknownItem (status : UInt16) (path : Bytes) (pathLen32 nameOff32 : UInt32)
    (nameOff itemSize : Nat) : Prog NipcError Bytes Nat := do
  putU16 0 1
  putU16 2 status
  putU16 4 0
  putU16 6 0
  putU32 8 (UInt32.ofNat cgroupsLookupItemHdrSize)
  putU32 12 pathLen32
  putU32 16 nameOff32
  putU32 20 0
  putU16 24 0
  putU16 26 0
  copyInto cgroupsLookupItemHdrSize path
  write (cgroupsLookupItemHdrSize + path.length) [0]
  write nameOff [0]
  return itemSize

/-- Where the name of an item stands that is not KNOWN. -/
def unknownNameOff (path : Bytes) : Option Nat :=
  (checkedAddInt cgroupsLookupItemHdrSize path.length).bind (checkedAddInt · 1)

/-- `addUnknown` of the cgroups builder. -/
def addUnknownCgroups (status : UInt16) (path : Bytes) : Prog NipcError LookupBuilder Unit :=
  addUnknown ((unknownNameOff path).bind (checkedAddInt · 1)) (do
    let nameOff ← unknownNameOff path
    let itemSize ← checkedAddInt nameOff 1
    let pathLen32 ← checkedU32Int path.length
    let nameOff32 ← checkedU32Int nameOff
    return writeCgroupsUnknownItem status path pathLen32 nameOff32 nameOff itemSize)

/-- `noteItemOverflow` of the cgroups builder. -/
def noteCgroupsItemOverflow (path : Bytes) : Prog NipcError LookupBuilder Unit :=
  noteItemOverflow (addUnknownCgroups cgroupLookupOversizedItem path)
    (addUnknownCgroups cgroupLookupPayloadExceeded path)

/-- The item `add` of the cgroups builder writes, once its words are known. -/
def writeCgroupsItem (item : CgroupsItem) (nameOff fixedEnd tableStart tableBytes itemSize : Nat)
    (pathOff32 pathLen32 nameOff32 nameLen32 : UInt32) (labelCount : UInt16) :
    Prog NipcError Bytes Nat := do
  putU16 0 1
  putU16 2 item.status
  putU16 4 item.orchestrator
  putU16 6 0
  putU32 8 pathOff32
  putU32 12 pathLen32
  putU32 16 nameOff32
  putU32 20 nameLen32
  putU16 24 labelCount
  putU16 26 0
  copyInto cgroupsLookupItemHdrSize item.path
  write (cgroupsLookupItemHdrSize + item.path.length) [0]
  copyInto nameOff item.name
  write (nameOff + item.name.length) [0]
  writeLabelPart fixedEnd tableStart tableBytes itemSize item.labels

/-- What `add` of the cgroups builder computes for a KNOWN item. -/
def layoutCgroupsItem (item : CgroupsItem) (dataOffset : Nat) : Res NipcError ItemLayout := do
  let labelCount ← okOr (checkedU16Int item.labels.length) .overflow
  let itemStart ← okOr (checkedAlign8 dataOffset) .overflow
  let pathOff := cgroupsLookupItemHdrSize
  let nameOff ← okOr ((checkedAddInt pathOff item.path.length).bind (checkedAddInt · 1)) .overflow
  let fixedEnd ← okOr ((checkedAddInt nameOff item.name.length).bind (checkedAddInt · 1)) .overflow
  let (tableStart, tableBytes, itemSize) ← labelLayoutGo fixedEnd item.labels
  return {
    itemStart
    itemSize
    body := do
      let pathOff32 ← checkedU32Int pathOff
      let pathLen32 ← checkedU32Int item.path.length
      let nameOff32 ← checkedU32Int nameOff
      let nameLen32 ← checkedU32Int item.name.length
      return writeCgroupsItem item nameOff fixedEnd tableStart tableBytes itemSize pathOff32
        pathLen32 nameOff32 nameLen32 labelCount }

/-- `add` of the cgroups builder. -/
def addCgroupsItem (item : CgroupsItem) (pathValidated : Bool) :
    Prog NipcError LookupBuilder Unit :=
  addItem true (item.status = cgroupLookupKnown)
    (do
      validateCgroupsLookupSemantics item.status item.orchestrator item.path.length
        item.name.length item.labels.length
      rejectIf ((pathValidated = false ∧ sourceStringInvalid item.path true) ∨
        sourceStringInvalid item.name false) .badLayout)
    (layoutCgroupsItem item) (addUnknownCgroups item.status item.path)
    (addUnknownCgroups cgroupLookupPayloadExceeded item.path) (noteCgroupsItemOverflow item.path)

/-- `CgroupsLookupRequestView`; a handler may hold any value of it. -/
structure CgroupsLookupRequestView where
  itemCount : UInt32
  payload : Bytes
  packedStart : Nat

/-- The path `itemBytes` returns. -/
def CgroupsLookupRequestView.itemBytes (v : CgroupsLookupRequestView) (index : UInt32) :
    Res NipcError Bytes := do
  rejectIf (index ≥ v.itemCount) .outOfBounds
  let dirEnd ← (if v.packedStart = 0 then
    okOr (lookupBuilderDataOffset lookupReqHdrSize v.itemCount) .overflow else .ok v.packedStart)
  let dirOff := index.toNat * lookupDirEntrySize
  rejectIf (dirOff > maxIntValue ∨ lookupReqHdrSize > maxIntValue - dirOff) .overflow
  let base := lookupReqHdrSize + dirOff
  rejectIf (base + lookupDirEntrySize > v.payload.length) .outOfBounds
  let off ← u32At v.payload base
  let length ← u32At v.payload (base + 4)
  rejectIf (off.toNat > maxIntValue ∨ length.toNat > maxIntValue) .outOfBounds
  let item ← lookupPayloadSlice v.payload dirEnd off.toNat length.toNat
  rejectIf (length.toNat < 1) .outOfBounds
  readSlice item 0 (length.toNat - 1)

/-- The two ways a handler adds an item; `req` may be nil. -/
inductive CgroupsAdd where
  | add (item : CgroupsItem)
  | addRequestItem (req : Option CgroupsLookupRequestView) (index : UInt32)
      (status orchestrator : UInt16) (name : Bytes) (labels : List Label)

/-- The path an add is made with, or why `AddRequestItem` has none. -/
def CgroupsAdd.path : CgroupsAdd → Res NipcError Bytes
  | .add item => .ok item.path
  | .addRequestItem req index .. =>
    match req with
    | none => .error (.err .badLayout)
    | some req => req.itemBytes index

/-- `CgroupsLookupBuilder.Add` and `CgroupsLookupBuilder.AddRequestItem`. -/
def CgroupsAdd.program (call : CgroupsAdd) : Prog NipcError LookupBuilder Unit := do
  let path ← noting (Prog.ofRes call.path)
  match call with
  | .add item => addCgroupsItem item false
  | .addRequestItem _ _ status orchestrator name labels =>
    addCgroupsItem ⟨status, orchestrator, path, name, labels⟩ true

end NetIpc.Go
