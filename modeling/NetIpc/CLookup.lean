/-
This file models how the C library reads lookup responses
(`netipc_protocol_lookup_common.c`, `netipc_protocol_apps_lookup.c`,
`netipc_protocol_cgroups_lookup.c`).

The sizes are `uint64_t` sums that are compared with a limit before they are used. A view
points into the payload; here it holds the bytes it points to, with the NUL behind a string,
and a read outside them is a panic. The records have the fields of their Rust counterparts
and the error codes have the same names, so both are shared with the Rust model, as are the
checks of an item's fields, which are the same in both languages line by line.
-/

import NetIpc.AppsLookup
import NetIpc.CgroupsLookup

namespace NetIpc.C

variable {α : Type}

/-! ### Sums -/

/-- `UINT32_MAX`. -/
def uint32Max : Nat := 2 ^ 32 - 1

/-- `mul_would_overflow`. -/
def mulWouldOverflow (count entrySize : Nat) : Bool :=
  entrySize ≠ 0 ∧ count > usizeMax / entrySize

/-- `nipc_lookup_add_u64_over_limit`: the sum, unless it is over the limit. -/
def nipcLookupAddU64OverLimit (a b limit : Nat) : Option Nat :=
  if 2 ^ 64 - 1 - a < b then none else if a + b > limit then none else some (a + b)

/-- `nipc_lookup_align8_u64_over_limit`. -/
def nipcLookupAlign8U64OverLimit (value limit : Nat) : Option Nat :=
  (nipcLookupAddU64OverLimit value 7 limit).map fun value => value / 8 * 8

/-- `nipc_lookup_ranges_overlap_u64`. -/
def nipcLookupRangesOverlapU64 (aStart aEnd bStart bEnd : Nat) : Bool :=
  aStart < bEnd && bStart < aEnd

/-! ### Strings and labels -/

/-- `nipc_lookup_bytes_have_nul`. -/
def nipcLookupBytesHaveNul (bytes : Bytes) : Bool := !bytes.isEmpty && bytes.contains 0

/-- `nipc_lookup_string_view`; the sum in the index is a `uint32_t`. -/
def nipcLookupStringView (item : Bytes) (hdrSize offset length : Nat) :
    Res NipcError (StrView × Nat) := do
  rejectIf (offset < hdrSize) .outOfBounds
  let stop ← okOr (nipcLookupAddU64OverLimit offset length item.length) .outOfBounds
  let stop ← okOr (nipcLookupAddU64OverLimit stop 1 item.length) .outOfBounds
  let last ← readByte item ((offset + length) % 2 ^ 32)
  rejectIf (last ≠ 0) .missingNul
  let text ← readSlice item offset (offset + length)
  rejectIf (nipcLookupBytesHaveNul text) .badLayout
  return (⟨slice item offset (length + 1), UInt32.ofNat length⟩, stop)

/-- One pass of the loop of `nipc_lookup_validate_labels`. -/
def validateLabelEntry (item : Bytes) (hdrSize tableStart index expected : Nat) :
    Res NipcError Nat := do
  let entry := tableStart + index * lookupLabelEntrySize
  let keyOffset ← u32At item entry
  let keyLength ← u32At item (entry + 4)
  let valueOffset ← u32At item (entry + 8)
  let valueLength ← u32At item (entry + 12)
  rejectIf (keyLength = 0) .badLayout
  rejectIf (keyOffset.toNat ≠ expected) .badLayout
  let (_, keyEnd) ← nipcLookupStringView item hdrSize keyOffset.toNat keyLength.toNat
  rejectIf (valueOffset.toNat ≠ keyEnd) .badLayout
  let (_, valueEnd) ← nipcLookupStringView item hdrSize valueOffset.toNat valueLength.toNat
  return valueEnd

/-- `nipc_lookup_validate_labels`: the offset of the label table. -/
def nipcLookupValidateLabels (item : Bytes) (hdrSize : Nat) (labelCount : UInt16)
    (fixedEnd : Nat) : Res NipcError Nat :=
  if labelCount = 0 then do
    rejectIf (fixedEnd ≠ item.length) .badLayout
    return fixedEnd % 2 ^ 32
  else do
    let tableStart ← okOr (nipcLookupAlign8U64OverLimit fixedEnd uint32Max) .outOfBounds
    rejectIf (tableStart > item.length) .outOfBounds
    let padding ← readSlice item fixedEnd tableStart
    rejectIf (padding.any (· != 0)) .badLayout
    let tableBytes := labelCount.toNat * lookupLabelEntrySize
    let afterTable ← okOr (nipcLookupAddU64OverLimit tableStart tableBytes item.length) .outOfBounds
    let expected ← forFrom (validateLabelEntry item hdrSize tableStart) 0 labelCount.toNat
      afterTable
    rejectIf (expected ≠ item.length) .badLayout
    return tableStart % 2 ^ 32

/-- `nipc_lookup_label_at`. -/
def nipcLookupLabelAt (item : Bytes) (hdrSize : Nat) (labelCount : UInt16)
    (labelTableOffset : Nat) (index : UInt32) : Res NipcError LookupLabelView := do
  rejectIf (index.toNat ≥ labelCount.toNat) .outOfBounds
  let entryPos := labelTableOffset + index.toNat * lookupLabelEntrySize
  rejectIf (entryPos + lookupLabelEntrySize > item.length) .outOfBounds
  let keyOffset ← u32At item entryPos
  let keyLength ← u32At item (entryPos + 4)
  let valueOffset ← u32At item (entryPos + 8)
  let valueLength ← u32At item (entryPos + 12)
  let (key, _) ← nipcLookupStringView item hdrSize keyOffset.toNat keyLength.toNat
  let (value, _) ← nipcLookupStringView item hdrSize valueOffset.toNat valueLength.toNat
  return ⟨key, value⟩

/-! ### The directory -/

/-- One pass of the loop of `nipc_lookup_validate_ordered_dir`. -/
def validateOrderedEntry (buf : Bytes) (dirStart packedAreaLen minLen : Nat)
    (exactLen : Option Nat) (index prevEnd : Nat) : Res NipcError Nat := do
  let entry := dirStart + index * lookupDirEntrySize
  let offset ← u32At buf entry
  let length ← u32At buf (entry + 4)
  rejectIf (offset.toNat % 8 ≠ 0) .badAlignment
  checkEntryLen length.toNat minLen exactLen
  let stop ← okOr (nipcLookupAddU64OverLimit offset.toNat length.toNat packedAreaLen) .outOfBounds
  rejectIf (index > 0 ∧ offset.toNat < prevEnd) .badLayout
  return stop

/-- `nipc_lookup_validate_ordered_dir`. -/
def nipcLookupValidateOrderedDir (buf : Bytes) (dirStart : Nat) (itemCount : UInt32)
    (packedAreaLen minLen : Nat) (exactLen : Option Nat) : Res NipcError Unit := do
  let _ ← forFrom (validateOrderedEntry buf dirStart packedAreaLen minLen exactLen) 0
    itemCount.toNat 0
  return ()

/-! ### Responses -/

/-- `nipc_apps_lookup_resp_decode` and `nipc_cgroups_lookup_resp_decode`. -/
def lookupRespDecode (codec : ItemCodec α) (buf : Bytes) : Res NipcError LookupResponseView := do
  rejectIf (buf.length < lookupRespHdrSize) .truncated
  let layoutVersion ← u16At buf 0
  let flags ← u16At buf 2
  let itemCount ← u32At buf 4
  let generation ← u64At buf 8
  rejectIf (layoutVersion ≠ 1 ∨ flags ≠ 0) .badLayout
  rejectIf (mulWouldOverflow itemCount.toNat lookupDirEntrySize) .badItemCount
  let dirEnd := lookupRespHdrSize + itemCount.toNat * lookupDirEntrySize
  rejectIf (dirEnd > buf.length) .truncated
  let packedAreaLen := buf.length - dirEnd
  rejectIf (packedAreaLen > uint32Max) .badItemCount
  nipcLookupValidateOrderedDir buf lookupRespHdrSize itemCount packedAreaLen codec.itemHdrSize none
  forFrom (fun index _ => do
    let entry := lookupRespHdrSize + index * lookupDirEntrySize
    let offset ← u32At buf entry
    let length ← u32At buf (entry + 4)
    let item ← readSlice buf (dirEnd + offset.toNat) (dirEnd + offset.toNat + length.toNat)
    let _ ← codec.decodeItem item
    return ()) 0 itemCount.toNat ()
  return ⟨layoutVersion, flags, itemCount, generation, buf⟩

/-- `nipc_apps_lookup_resp_item` and `nipc_cgroups_lookup_resp_item`. -/
def lookupRespItem (codec : ItemCodec α) (view : LookupResponseView) (index : UInt32) :
    Res NipcError α := do
  rejectIf (index ≥ view.itemCount) .outOfBounds
  rejectIf (mulWouldOverflow view.itemCount.toNat lookupDirEntrySize) .badItemCount
  let dirSize := view.itemCount.toNat * lookupDirEntrySize
  rejectIf (lookupRespHdrSize > usizeMax - dirSize) .badItemCount
  let dirEnd := lookupRespHdrSize + dirSize
  let entry := lookupRespHdrSize + index.toNat * lookupDirEntrySize
  let offset ← u32At view.payload entry
  let length ← u32At view.payload (entry + 4)
  let item ← readSlice view.payload (dirEnd + offset.toNat)
    (dirEnd + offset.toNat + length.toNat)
  codec.decodeItem item

/-! ### Apps lookup -/

/-- `apps_lookup_validate_semantics`. -/
def appsLookupValidateSemantics (status cgroupStatus orchestrator : UInt16) (ppid uid : UInt32)
    (starttime : UInt64) (commLen cgroupPathLen cgroupNameLen labelCount : Nat) :
    Res NipcError Unit :=
  validateAppsLookupSemantics status cgroupStatus orchestrator ppid uid starttime commLen
    cgroupPathLen cgroupNameLen labelCount

/-- `apps_lookup_decode_item_bytes`. -/
def appsLookupDecodeItemBytes (item : Bytes) : Res NipcError AppsLookupItemView := do
  rejectIf (item.length < appsLookupItemHdrSize) .truncated
  let layoutVersion ← u16At item 0
  let status ← u16At item 2
  let orchestrator ← u16At item 4
  let cgroupStatus ← u16At item 6
  let pid ← u32At item 8
  let ppid ← u32At item 12
  let uid ← u32At item 16
  let reserved0 ← u32At item 20
  let starttime ← u64At item 24
  let commOffset ← u32At item 32
  let commLength ← u32At item 36
  let cgroupPathOffset ← u32At item 40
  let cgroupPathLength ← u32At item 44
  let cgroupNameOffset ← u32At item 48
  let cgroupNameLength ← u32At item 52
  let labelCount ← u16At item 56
  let reserved1 ← u16At item 58
  rejectIf (layoutVersion ≠ 1 ∨ reserved0 ≠ 0 ∨ reserved1 ≠ 0) .badLayout
  appsLookupValidateSemantics status cgroupStatus orchestrator ppid uid starttime commLength.toNat
    cgroupPathLength.toNat cgroupNameLength.toNat labelCount.toNat
  let (comm, commEnd) ← nipcLookupStringView item appsLookupItemHdrSize commOffset.toNat
    commLength.toNat
  let (cgroupPath, pathEnd) ← nipcLookupStringView item appsLookupItemHdrSize
    cgroupPathOffset.toNat cgroupPathLength.toNat
  let (cgroupName, nameEnd) ← nipcLookupStringView item appsLookupItemHdrSize
    cgroupNameOffset.toNat cgroupNameLength.toNat
  rejectIf (nipcLookupRangesOverlapU64 commOffset.toNat commEnd cgroupPathOffset.toNat pathEnd ∨
    nipcLookupRangesOverlapU64 commOffset.toNat commEnd cgroupNameOffset.toNat nameEnd ∨
    nipcLookupRangesOverlapU64 cgroupPathOffset.toNat pathEnd cgroupNameOffset.toNat nameEnd)
    .badLayout
  let fixedEnd := commEnd
  let fixedEnd := if pathEnd > fixedEnd then pathEnd else fixedEnd
  let fixedEnd := if nameEnd > fixedEnd then nameEnd else fixedEnd
  let labelTableOffset ← nipcLookupValidateLabels item appsLookupItemHdrSize labelCount fixedEnd
  return ⟨status, orchestrator, cgroupStatus, pid, ppid, uid, starttime, comm, cgroupPath,
    cgroupName, labelCount, item, labelTableOffset⟩

def appsCodec : ItemCodec AppsLookupItemView :=
  ⟨appsLookupItemHdrSize, appsLookupDecodeItemBytes⟩

/-- `nipc_apps_lookup_resp_decode`. -/
def nipcAppsLookupRespDecode : Bytes → Res NipcError LookupResponseView :=
  lookupRespDecode appsCodec

/-- `nipc_apps_lookup_resp_item`. -/
def nipcAppsLookupRespItem : LookupResponseView → UInt32 → Res NipcError AppsLookupItemView :=
  lookupRespItem appsCodec

/-- `nipc_apps_lookup_item_label`. -/
def nipcAppsLookupItemLabel (item : AppsLookupItemView) (index : UInt32) :
    Res NipcError LookupLabelView :=
  nipcLookupLabelAt item.item appsLookupItemHdrSize item.labelCount item.labelTableOffset index

/-! ### Cgroups lookup -/

/-- `cgroups_lookup_validate_semantics`. -/
def cgroupsLookupValidateSemantics (status orchestrator : UInt16)
    (pathLen nameLen labelCount : Nat) : Res NipcError Unit :=
  validateCgroupsLookupSemantics status orchestrator pathLen nameLen labelCount

/-- `cgroups_lookup_decode_item_bytes`. -/
def cgroupsLookupDecodeItemBytes (item : Bytes) : Res NipcError CgroupsLookupItemView := do
  rejectIf (item.length < cgroupsLookupItemHdrSize) .truncated
  let layoutVersion ← u16At item 0
  let status ← u16At item 2
  let orchestrator ← u16At item 4
  let reserved0 ← u16At item 6
  let pathOffset ← u32At item 8
  let pathLength ← u32At item 12
  let nameOffset ← u32At item 16
  let nameLength ← u32At item 20
  let labelCount ← u16At item 24
  let reserved1 ← u16At item 26
  rejectIf (layoutVersion ≠ 1 ∨ reserved0 ≠ 0 ∨ reserved1 ≠ 0) .badLayout
  cgroupsLookupValidateSemantics status orchestrator pathLength.toNat nameLength.toNat
    labelCount.toNat
  let (path, pathEnd) ← nipcLookupStringView item cgroupsLookupItemHdrSize pathOffset.toNat
    pathLength.toNat
  let (name, nameEnd) ← nipcLookupStringView item cgroupsLookupItemHdrSize nameOffset.toNat
    nameLength.toNat
  rejectIf (nipcLookupRangesOverlapU64 pathOffset.toNat pathEnd nameOffset.toNat nameEnd) .badLayout
  let fixedEnd := if pathEnd > nameEnd then pathEnd else nameEnd
  let labelTableOffset ← nipcLookupValidateLabels item cgroupsLookupItemHdrSize labelCount fixedEnd
  return ⟨status, orchestrator, path, name, labelCount, item, labelTableOffset⟩

def cgroupsCodec : ItemCodec CgroupsLookupItemView :=
  ⟨cgroupsLookupItemHdrSize, cgroupsLookupDecodeItemBytes⟩

/-- `nipc_cgroups_lookup_resp_decode`. -/
def nipcCgroupsLookupRespDecode : Bytes → Res NipcError LookupResponseView :=
  lookupRespDecode cgroupsCodec

/-- `nipc_cgroups_lookup_resp_item`. -/
def nipcCgroupsLookupRespItem : LookupResponseView → UInt32 → Res NipcError CgroupsLookupItemView :=
  lookupRespItem cgroupsCodec

/-- `nipc_cgroups_lookup_item_label`. -/
def nipcCgroupsLookupItemLabel (item : CgroupsLookupItemView) (index : UInt32) :
    Res NipcError LookupLabelView :=
  nipcLookupLabelAt item.item cgroupsLookupItemHdrSize item.labelCount item.labelTableOffset index

end NetIpc.C
