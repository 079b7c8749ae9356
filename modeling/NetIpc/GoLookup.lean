/-
This file models how the Go package reads lookup responses (`lookup_common.go`,
`apps_lookup.go`, `cgroups_lookup.go`).

A Go `int` has 64 bits here; offsets and lengths are never negative, so they are natural
numbers, and the checks against the largest `int` are kept. A response is accepted by a
validator that builds nothing, and its items are read by a decoder of their own; both have
a path for items that are not KNOWN, whose empty strings are only looked at for their NUL.
The records and the error values are those of the Rust model.
-/

import NetIpc.AppsLookup
import NetIpc.CgroupsLookup

namespace NetIpc.Go

variable {α : Type}

/-! ### Sums -/

/-- `maxIntValue`. -/
def maxIntValue : Nat := 2 ^ 63 - 1

/-- `checkedInt`. -/
def checkedInt (value : Nat) : Option Nat := if value > maxIntValue then none else some value

/-- `checkedAddInt`. -/
def checkedAddInt (a b : Nat) : Option Nat := if a > maxIntValue - b then none else some (a + b)

/-- `checkedAlign8`. -/
def checkedAlign8 (v : Nat) : Option Nat := if v > maxIntValue - 7 then none else some (align8 v)

/-- `checkedWireU32Int`. -/
def checkedWireU32Int (buf : Bytes) (off : Nat) : Res NipcError Nat := do
  let value ← u32At buf off
  okOr (checkedInt value.toNat) .outOfBounds

/-- `lookupDirEntry`. -/
def lookupDirEntry (buf : Bytes) (base : Nat) : Res NipcError (Nat × Nat) := do
  let off ← checkedWireU32Int buf base
  let length ← checkedWireU32Int buf (base + 4)
  return (off, length)

/-- `lookupPayloadSlice`. -/
def lookupPayloadSlice (buf : Bytes) (start off length : Nat) : Res NipcError Bytes := do
  rejectIf (start > maxIntValue - off) .outOfBounds
  let abs := start + off
  rejectIf (abs > buf.length ∨ length > buf.length - abs) .outOfBounds
  readSlice buf abs (abs + length)

/-- `lookupBuilderDataOffset` and `lookupDirOffset`. -/
def lookupBuilderDataOffset (hdrSize : Nat) (maxItems : UInt32) : Option Nat :=
  (checkedInt (maxItems.toNat * lookupDirEntrySize)).bind (checkedAddInt hdrSize ·)

/-! ### Strings and labels -/

/-- `lookupStringInto`; `out` says whether a view is wanted. -/
def lookupStringInto (out : Bool) (item : Bytes) (hdrSize off length : Nat) :
    Res NipcError (StrView × Nat) := do
  rejectIf (off < hdrSize ∨ off > maxIntValue - length) .outOfBounds
  let nul := off + length
  rejectIf (nul ≥ item.length) .outOfBounds
  let last ← readByte item nul
  rejectIf (last ≠ 0) .missingNul
  let text ← readSlice item off nul
  rejectIf (text.contains 0) .badLayout
  rejectIf (out = true ∧ length > 2 ^ 32 - 1) .outOfBounds
  let bytes ← readSlice item off (nul + 1)
  return (⟨bytes, UInt32.ofNat length⟩, nul + 1)

/-- `lookupString`. -/
def lookupString : Bytes → Nat → Nat → Nat → Res NipcError (StrView × Nat) :=
  lookupStringInto true

/-- `lookupEmptyStringInto`. -/
def lookupEmptyStringInto (item : Bytes) (hdrSize off : Nat) : Res NipcError (StrView × Nat) := do
  rejectIf (off < hdrSize ∨ off ≥ item.length) .outOfBounds
  let last ← readByte item off
  rejectIf (last ≠ 0) .missingNul
  let bytes ← readSlice item off (off + 1)
  return (⟨bytes, 0⟩, off + 1)

/-- `overlap`. -/
def overlap (aStart aEnd bStart bEnd : Nat) : Bool := aStart < bEnd && bStart < aEnd

/-- One pass of the loop of `validateLabels`. -/
def validateLabel (item : Bytes) (hdrSize tableStart index expected : Nat) : Res NipcError Nat := do
  let entryRel ← okOr (checkedInt (index * lookupLabelEntrySize)) .outOfBounds
  let base ← okOr (checkedAddInt tableStart entryRel) .outOfBounds
  let keyOff ← checkedWireU32Int item base
  let keyLen ← checkedWireU32Int item (base + 4)
  let valueOff ← checkedWireU32Int item (base + 8)
  let valueLen ← checkedWireU32Int item (base + 12)
  rejectIf (keyLen = 0 ∨ keyOff ≠ expected) .badLayout
  let (_, keyEnd) ← lookupString item hdrSize keyOff keyLen
  rejectIf (valueOff ≠ keyEnd) .badLayout
  let (_, valueEnd) ← lookupString item hdrSize valueOff valueLen
  return valueEnd

/-- `validateLabels`: the offset of the label table. -/
def validateLabels (item : Bytes) (hdrSize : Nat) (labelCount : UInt16) (fixedEnd : Nat) :
    Res NipcError Nat :=
  if labelCount = 0 then do
    rejectIf (fixedEnd ≠ item.length) .badLayout
    return fixedEnd
  else do
    let tableStart ← okOr (checkedAlign8 fixedEnd) .outOfBounds
    rejectIf (tableStart > item.length) .outOfBounds
    let padding ← readSlice item fixedEnd tableStart
    rejectIf (padding.any (· != 0)) .badLayout
    let tableBytes ← okOr (checkedInt (labelCount.toNat * lookupLabelEntrySize)) .outOfBounds
    let expected ← okOr (checkedAddInt tableStart tableBytes) .outOfBounds
    rejectIf (expected > item.length) .outOfBounds
    let expected ← forFrom (validateLabel item hdrSize tableStart) 0 labelCount.toNat expected
    rejectIf (expected ≠ item.length) .badLayout
    return tableStart

/-- `lookupLabelAt`. -/
def lookupLabelAt (item : Bytes) (hdrSize : Nat) (labelCount : UInt16) (tableOffset : Nat)
    (index : UInt32) : Res NipcError LookupLabelView := do
  rejectIf (index.toNat ≥ labelCount.toNat) .outOfBounds
  let entryRel ← okOr (checkedInt (index.toNat * lookupLabelEntrySize)) .outOfBounds
  let base ← okOr (checkedAddInt tableOffset entryRel) .outOfBounds
  let keyOff ← checkedWireU32Int item base
  let keyLen ← checkedWireU32Int item (base + 4)
  let valueOff ← checkedWireU32Int item (base + 8)
  let valueLen ← checkedWireU32Int item (base + 12)
  let (key, _) ← lookupString item hdrSize keyOff keyLen
  let (value, _) ← lookupString item hdrSize valueOff valueLen
  return ⟨key, value⟩

/-! ### The directory -/

/-- One pass of the loop of `validateLookupDir`. -/
def validateDirEntry (buf : Bytes) (dirStart packedAreaLen minLen : Nat) (exactLen : Option Nat)
    (index prevEnd : Nat) : Res NipcError Nat := do
  let base := dirStart + index * lookupDirEntrySize
  let off ← u32At buf base
  let length ← u32At buf (base + 4)
  rejectIf (off.toNat % 8 ≠ 0) .badAlignment
  checkEntryLen length.toNat minLen exactLen
  let stop := off.toNat + length.toNat
  rejectIf (stop > packedAreaLen) .outOfBounds
  rejectIf (index > 0 ∧ off.toNat < prevEnd) .badLayout
  return stop

/-- `validateLookupDir`. -/
def validateLookupDir (buf : Bytes) (dirStart : Nat) (itemCount : UInt32)
    (packedAreaLen minLen : Nat) (exactLen : Option Nat) : Res NipcError Unit := do
  rejectIf (minLen > 2 ^ 32 - 1) .badLayout
  rejectIf (∃ exact ∈ exactLen, exact > 2 ^ 32 - 1) .badLayout
  let dirSize := itemCount.toNat * lookupDirEntrySize
  rejectIf (dirSize > maxIntValue) .badItemCount
  rejectIf (dirStart > maxIntValue - dirSize) .badItemCount
  rejectIf (dirStart + dirSize > buf.length) .truncated
  let _ ← forFrom (validateDirEntry buf dirStart packedAreaLen minLen exactLen) 0 itemCount.toNat 0
  return ()

/-! ### Responses -/

/-- The part of a lookup method a response depends on. -/
structure Codec (α : Type) where
  itemHdr : Nat
  validateItem : Bytes → Res NipcError Unit
  decodeItem : Bytes → Res NipcError α

/-- `DecodeAppsLookupResponse` and `DecodeCgroupsLookupResponse`. -/
def decodeLookupResponse (codec : Codec α) (buf : Bytes) : Res NipcError LookupResponseView := do
  rejectIf (buf.length < lookupRespHdrSize) .truncated
  let layoutVersion ← u16At buf 0
  let flags ← u16At buf 2
  rejectIf (layoutVersion ≠ 1 ∨ flags ≠ 0) .badLayout
  let itemCount ← u32At buf 4
  let dirEnd ← okOr (checkedInt (lookupRespHdrSize + itemCount.toNat * lookupDirEntrySize))
    .badItemCount
  rejectIf (dirEnd > buf.length) .truncated
  validateLookupDir buf lookupRespHdrSize itemCount (buf.length - dirEnd) codec.itemHdr none
  forFrom (fun index _ => do
    let base := lookupRespHdrSize + index * lookupDirEntrySize
    let (off, length) ← lookupDirEntry buf base
    let item ← lookupPayloadSlice buf dirEnd off length
    codec.validateItem item) 0 itemCount.toNat ()
  let generation ← u64At buf 8
  return ⟨1, 0, itemCount, generation, buf⟩

/-- `Item` of the two response views. -/
def responseItem (codec : Codec α) (view : LookupResponseView) (index : UInt32) :
    Res NipcError α := do
  rejectIf (index ≥ view.itemCount) .outOfBounds
  let dirEnd ← okOr (lookupBuilderDataOffset lookupRespHdrSize view.itemCount) .overflow
  let base ← okOr (lookupBuilderDataOffset lookupRespHdrSize index) .overflow
  let (off, length) ← lookupDirEntry view.payload base
  let item ← lookupPayloadSlice view.payload dirEnd off length
  codec.decodeItem item

/-! ### Apps lookup -/

/-- `validateAppsLookupUnknown`. -/
def validateAppsLookupUnknown (orchestrator cgroupStatus : UInt16) (ppid uid : UInt32)
    (starttime : UInt64) (commLen pathLen nameLen labelCount : Nat) : Res NipcError Unit :=
  NetIpc.validateAppsLookupUnknown orchestrator cgroupStatus ppid uid starttime commLen pathLen
    nameLen labelCount

/-- `validateAppsLookupKnown`. -/
def validateAppsLookupKnown (cgroupStatus orchestrator : UInt16)
    (commLen pathLen nameLen labelCount : Nat) : Res NipcError Unit :=
  NetIpc.validateAppsLookupKnown cgroupStatus orchestrator commLen pathLen nameLen labelCount

/-- `validateAppsLookupSemantics`. -/
def validateAppsLookupSemantics (status cgroupStatus orchestrator : UInt16) (ppid uid : UInt32)
    (starttime : UInt64) (commLen pathLen nameLen labelCount : Nat) : Res NipcError Unit := do
  rejectIf (commLen > 15) .badLayout
  if status = pidLookupKnown then
    validateAppsLookupKnown cgroupStatus orchestrator commLen pathLen nameLen labelCount
  else if status = pidLookupUnknown ∨ status = pidLookupPayloadExceeded ∨
      status = pidLookupOversizedItem then
    validateAppsLookupUnknown orchestrator cgroupStatus ppid uid starttime commLen pathLen nameLen
      labelCount
  else .error (.err .badLayout)

/-- `validateAppsLookupUnknownItem`. -/
def validateAppsLookupUnknownItem (item : Bytes) (commOff pathOff nameOff : Nat) :
    Res NipcError Unit := do
  let (_, commEnd) ← lookupEmptyStringInto item appsLookupItemHdrSize commOff
  let (_, pathEnd) ← lookupEmptyStringInto item appsLookupItemHdrSize pathOff
  let (_, nameEnd) ← lookupEmptyStringInto item appsLookupItemHdrSize nameOff
  rejectIf (overlap commOff commEnd pathOff pathEnd ∨ overlap commOff commEnd nameOff nameEnd ∨
    overlap pathOff pathEnd nameOff nameEnd) .badLayout
  rejectIf (max commEnd (max pathEnd nameEnd) ≠ item.length) .badLayout

/-- `validateAppsLookupItem`. -/
def validateAppsLookupItem (item : Bytes) : Res NipcError Unit := do
  rejectIf (item.length < appsLookupItemHdrSize) .truncated
  let status ← u16At item 2
  let orchestrator ← u16At item 4
  let cgroupStatus ← u16At item 6
  let ppid ← u32At item 12
  let uid ← u32At item 16
  let starttime ← u64At item 24
  let commOff ← checkedWireU32Int item 32
  let commLen ← checkedWireU32Int item 36
  let pathOff ← checkedWireU32Int item 40
  let pathLen ← checkedWireU32Int item 44
  let nameOff ← checkedWireU32Int item 48
  let nameLen ← checkedWireU32Int item 52
  let labelCount ← u16At item 56
  let layoutVersion ← u16At item 0
  let reserved0 ← u32At item 20
  let reserved1 ← u16At item 58
  rejectIf (layoutVersion ≠ 1 ∨ reserved0 ≠ 0 ∨ reserved1 ≠ 0) .badLayout
  validateAppsLookupSemantics status cgroupStatus orchestrator ppid uid starttime commLen pathLen
    nameLen labelCount.toNat
  if status ≠ pidLookupKnown then
    validateAppsLookupUnknownItem item commOff pathOff nameOff
  else do
    let (_, commEnd) ← lookupStringInto false item appsLookupItemHdrSize commOff commLen
    let (_, pathEnd) ← lookupStringInto false item appsLookupItemHdrSize pathOff pathLen
    let (_, nameEnd) ← lookupStringInto false item appsLookupItemHdrSize nameOff nameLen
    rejectIf (overlap commOff commEnd pathOff pathEnd ∨ overlap commOff commEnd nameOff nameEnd ∨
      overlap pathOff pathEnd nameOff nameEnd) .badLayout
    let _ ← validateLabels item appsLookupItemHdrSize labelCount (max commEnd (max pathEnd nameEnd))
    return ()

/-- `decodeAppsLookupUnknownItemInto`. -/
def decodeAppsLookupUnknownItemInto (item : Bytes) (status : UInt16) (pid : UInt32)
    (commOff pathOff nameOff : Nat) : Res NipcError AppsLookupItemView := do
  let (comm, commEnd) ← lookupEmptyStringInto item appsLookupItemHdrSize commOff
  let (path, pathEnd) ← lookupEmptyStringInto item appsLookupItemHdrSize pathOff
  let (name, nameEnd) ← lookupEmptyStringInto item appsLookupItemHdrSize nameOff
  rejectIf (overlap commOff commEnd pathOff pathEnd ∨ overlap commOff commEnd nameOff nameEnd ∨
    overlap pathOff pathEnd nameOff nameEnd) .badLayout
  let labelTableOffset := max commEnd (max pathEnd nameEnd)
  rejectIf (labelTableOffset ≠ item.length) .badLayout
  return ⟨status, 0, 0, pid, 0, nipcUidUnset, 0, comm, path, name, 0, item, labelTableOffset⟩

/-- `decodeAppsLookupItem`, which is `decodeAppsLookupItemInto` with a view to fill. -/
def decodeAppsLookupItem (item : Bytes) : Res NipcError AppsLookupItemView := do
  rejectIf (item.length < appsLookupItemHdrSize) .truncated
  let status ← u16At item 2
  let orchestrator ← u16At item 4
  let cgroupStatus ← u16At item 6
  let pid ← u32At item 8
  let ppid ← u32At item 12
  let uid ← u32At item 16
  let starttime ← u64At item 24
  let commOff ← checkedWireU32Int item 32
  let commLen ← checkedWireU32Int item 36
  let pathOff ← checkedWireU32Int item 40
  let pathLen ← checkedWireU32Int item 44
  let nameOff ← checkedWireU32Int item 48
  let nameLen ← checkedWireU32Int item 52
  let labelCount ← u16At item 56
  let layoutVersion ← u16At item 0
  let reserved0 ← u32At item 20
  let reserved1 ← u16At item 58
  rejectIf (layoutVersion ≠ 1 ∨ reserved0 ≠ 0 ∨ reserved1 ≠ 0) .badLayout
  validateAppsLookupSemantics status cgroupStatus orchestrator ppid uid starttime commLen pathLen
    nameLen labelCount.toNat
  if status ≠ pidLookupKnown then
    decodeAppsLookupUnknownItemInto item status pid commOff pathOff nameOff
  else do
    let (comm, commEnd) ← lookupStringInto true item appsLookupItemHdrSize commOff commLen
    let (path, pathEnd) ← lookupStringInto true item appsLookupItemHdrSize pathOff pathLen
    let (name, nameEnd) ← lookupStringInto true item appsLookupItemHdrSize nameOff nameLen
    rejectIf (overlap commOff commEnd pathOff pathEnd ∨ overlap commOff commEnd nameOff nameEnd ∨
      overlap pathOff pathEnd nameOff nameEnd) .badLayout
    let table ← validateLabels item appsLookupItemHdrSize labelCount
      (max commEnd (max pathEnd nameEnd))
    return ⟨status, orchestrator, cgroupStatus, pid, ppid, uid, starttime, comm, path, name,
      labelCount, item, table⟩

def appsCodec : Codec AppsLookupItemView :=
  ⟨appsLookupItemHdrSize, validateAppsLookupItem, decodeAppsLookupItem⟩

/-- `DecodeAppsLookupResponse`. -/
def decodeAppsLookupResponse : Bytes → Res NipcError LookupResponseView :=
  decodeLookupResponse appsCodec

/-- `AppsLookupResponseView.Item`. -/
def appsLookupResponseItem : LookupResponseView → UInt32 → Res NipcError AppsLookupItemView :=
  responseItem appsCodec

/-- `AppsLookupItemView.Label`. -/
def appsLookupItemLabel (view : AppsLookupItemView) (index : UInt32) :
    Res NipcError LookupLabelView :=
  lookupLabelAt view.item appsLookupItemHdrSize view.labelCount view.labelTableOffset index

/-! ### Cgroups lookup -/

/-- `validateCgroupsLookupSemantics`. -/
def validateCgroupsLookupSemantics (status orchestrator : UInt16)
    (pathLen nameLen labelCount : Nat) : Res NipcError Unit :=
  NetIpc.validateCgroupsLookupSemantics status orchestrator pathLen nameLen labelCount

/-- `validateCgroupsLookupUnknownItem`. -/
def validateCgroupsLookupUnknownItem (item : Bytes) (pathOff pathLen nameOff : Nat) :
    Res NipcError Unit := do
  let (_, pathEnd) ← lookupStringInto false item cgroupsLookupItemHdrSize pathOff pathLen
  let (_, nameEnd) ← lookupEmptyStringInto item cgroupsLookupItemHdrSize nameOff
  rejectIf (overlap pathOff pathEnd nameOff nameEnd) .badLayout
  rejectIf (max pathEnd nameEnd ≠ item.length) .badLayout

/-- `validateCgroupsLookupItem`. -/
def validateCgroupsLookupItem (item : Bytes) : Res NipcError Unit := do
  rejectIf (item.length < cgroupsLookupItemHdrSize) .truncated
  let status ← u16At item 2
  let orchestrator ← u16At item 4
  let pathOff ← checkedWireU32Int item 8
  let pathLen ← checkedWireU32Int item 12
  let nameOff ← checkedWireU32Int item 16
  let nameLen ← checkedWireU32Int item 20
  let labelCount ← u16At item 24
  let layoutVersion ← u16At item 0
  let reserved0 ← u16At item 6
  let reserved1 ← u16At item 26
  rejectIf (layoutVersion ≠ 1 ∨ reserved0 ≠ 0 ∨ reserved1 ≠ 0) .badLayout
  validateCgroupsLookupSemantics status orchestrator pathLen nameLen labelCount.toNat
  if status ≠ cgroupLookupKnown then
    validateCgroupsLookupUnknownItem item pathOff pathLen nameOff
  else do
    let (_, pathEnd) ← lookupStringInto false item cgroupsLookupItemHdrSize pathOff pathLen
    let (_, nameEnd) ← lookupStringInto false item cgroupsLookupItemHdrSize nameOff nameLen
    rejectIf (overlap pathOff pathEnd nameOff nameEnd) .badLayout
    let _ ← validateLabels item cgroupsLookupItemHdrSize labelCount (max pathEnd nameEnd)
    return ()

/-- `decodeCgroupsLookupUnknownItemInto`. -/
def decodeCgroupsLookupUnknownItemInto (item : Bytes) (status : UInt16)
    (pathOff pathLen nameOff : Nat) : Res NipcError CgroupsLookupItemView := do
  let (path, pathEnd) ← lookupStringInto true item cgroupsLookupItemHdrSize pathOff pathLen
  let (name, nameEnd) ← lookupEmptyStringInto item cgroupsLookupItemHdrSize nameOff
  rejectIf (overlap pathOff pathEnd nameOff nameEnd) .badLayout
  let labelTableOffset := max pathEnd nameEnd
  rejectIf (labelTableOffset ≠ item.length) .badLayout
  return ⟨status, 0, path, name, 0, item, labelTableOffset⟩

/-- `decodeCgroupsLookupItem`, which is `decodeCgroupsLookupItemInto` with a view to fill. -/
def decodeCgroupsLookupItem (item : Bytes) : Res NipcError CgroupsLookupItemView := do
  rejectIf (item.length < cgroupsLookupItemHdrSize) .truncated
  let status ← u16At item 2
  let orchestrator ← u16At item 4
  let pathOff ← checkedWireU32Int item 8
  let pathLen ← checkedWireU32Int item 12
  let nameOff ← checkedWireU32Int item 16
  let nameLen ← checkedWireU32Int item 20
  let labelCount ← u16At item 24
  let layoutVersion ← u16At item 0
  let reserved0 ← u16At item 6
  let reserved1 ← u16At item 26
  rejectIf (layoutVersion ≠ 1 ∨ reserved0 ≠ 0 ∨ reserved1 ≠ 0) .badLayout
  validateCgroupsLookupSemantics status orchestrator pathLen nameLen labelCount.toNat
  if status ≠ cgroupLookupKnown then
    decodeCgroupsLookupUnknownItemInto item status pathOff pathLen nameOff
  else do
    let (path, pathEnd) ← lookupStringInto true item cgroupsLookupItemHdrSize pathOff pathLen
    let (name, nameEnd) ← lookupStringInto true item cgroupsLookupItemHdrSize nameOff nameLen
    rejectIf (overlap pathOff pathEnd nameOff nameEnd) .badLayout
    let table ← validateLabels item cgroupsLookupItemHdrSize labelCount (max pathEnd nameEnd)
    return ⟨status, orchestrator, path, name, labelCount, item, table⟩

def cgroupsCodec : Codec CgroupsLookupItemView :=
  ⟨cgroupsLookupItemHdrSize, validateCgroupsLookupItem, decodeCgroupsLookupItem⟩

/-- `DecodeCgroupsLookupResponse`. -/
def decodeCgroupsLookupResponse : Bytes → Res NipcError LookupResponseView :=
  decodeLookupResponse cgroupsCodec

/-- `CgroupsLookupResponseView.Item`. -/
def cgroupsLookupResponseItem : LookupResponseView → UInt32 → Res NipcError CgroupsLookupItemView :=
  responseItem cgroupsCodec

/-- `CgroupsLookupItemView.Label`. -/
def cgroupsLookupItemLabel (view : CgroupsLookupItemView) (index : UInt32) :
    Res NipcError LookupLabelView :=
  lookupLabelAt view.item cgroupsLookupItemHdrSize view.labelCount view.labelTableOffset index

end NetIpc.Go
