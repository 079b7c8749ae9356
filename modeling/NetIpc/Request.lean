/-
This file models the requests of the two lookup methods: the keys asked for, packed
behind a directory like the items of a response.

The two decoders differ in the length rule of a key and in what a key must look
like, so there is one decoder over a `KeyCodec`. The two encoders write relative
offsets from the start; what they write is `responseImage 0` of the key bytes, and
the decoder gives the keys back.
-/

import NetIpc.Response

namespace NetIpc

variable {κ : Type}

/-! ### Reading -/

/-- `CgroupsLookupRequestView` and `AppsLookupRequestView`. -/
structure LookupRequestView where
  itemCount : UInt32
  packedStart : Nat
  payload : Bytes
  deriving Repr, DecidableEq

/-- The part of a lookup method its request depends on. -/
structure KeyCodec (κ : Type) where
  minLen : Nat
  exactLen : Option Nat
  checkKey : Bytes → Res NipcError Unit
  readKey : Bytes → Res NipcError κ

def lookupReqHdrSize : Nat := 16

/-- The bytes of the key whose directory entry stands at `base`; a key of fixed length is taken
with that length. -/
def keyAt (codec : KeyCodec κ) (buf : Bytes) (packedStart base : Nat) : Res NipcError Bytes := do
  let off ← u32At buf base
  let len ← (match codec.exactLen with
    | some exact => .ok exact
    | none => do
      let len ← u32At buf (base + 4)
      return len.toNat)
  checkedSubslice buf packedStart off.toNat len

/-- `decode` of the two request views. -/
def decodeLookupRequest (codec : KeyCodec κ) (buf : Bytes) : Res NipcError LookupRequestView := do
  rejectIf (buf.length < lookupReqHdrSize) .truncated
  let layoutVersion ← u16At buf 0
  let flags ← u16At buf 2
  let reserved ← u32At buf 8
  let reserved2 ← u32At buf 12
  rejectIf (layoutVersion ≠ 1 ∨ flags ≠ 0 ∨ reserved ≠ 0 ∨ reserved2 ≠ 0) .badLayout
  let itemCount ← u32At buf 4
  let dirSize ← okOr (checkedMul itemCount.toNat lookupDirEntrySize) .badItemCount
  let dirEnd ← okOr (checkedAdd lookupReqHdrSize dirSize) .badItemCount
  rejectIf (dirEnd > buf.length) .truncated
  validateLookupDir buf lookupReqHdrSize itemCount (buf.length - dirEnd) codec.minLen codec.exactLen
  forFrom (fun index _ => do
    let key ← keyAt codec buf dirEnd (lookupReqHdrSize + index * lookupDirEntrySize)
    codec.checkKey key) 0 itemCount.toNat ()
  return ⟨itemCount, dirEnd, buf⟩

/-- `item` of the two request views. -/
def LookupRequestView.item (codec : KeyCodec κ) (view : LookupRequestView) (index : UInt32) :
    Res NipcError κ := do
  rejectIf (index ≥ view.itemCount) .outOfBounds
  let base ← lookupDirEntryOffset lookupReqHdrSize index
  let key ← keyAt codec view.payload view.packedStart base
  codec.readKey key

/-- The keys of the cgroups method: a path with its NUL. -/
def cgroupsKeyCodec : KeyCodec StrView where
  minLen := 2
  exactLen := none
  checkKey key := do
    let last ← readByte key (key.length - 1)
    rejectIf (last ≠ 0) .missingNul
    let text ← readSlice key 0 (key.length - 1)
    rejectIf (text.contains 0) .badLayout
  readKey key := .ok ⟨key, UInt32.ofNat (key.length - 1)⟩

def appsLookupKeySize : Nat := 8

/-- The keys of the apps method: a pid and a reserved word. -/
def appsKeyCodec : KeyCodec UInt32 where
  minLen := 0
  exactLen := some appsLookupKeySize
  checkKey key := do
    let reserved ← u32At key 4
    rejectIf (reserved ≠ 0) .badLayout
  readKey key := u32At key 0

/-- `CgroupsLookupRequestView::decode`. -/
def decodeCgroupsLookupRequest : Bytes → Res NipcError LookupRequestView :=
  decodeLookupRequest cgroupsKeyCodec

/-- `AppsLookupRequestView::decode`. -/
def decodeAppsLookupRequest : Bytes → Res NipcError LookupRequestView :=
  decodeLookupRequest appsKeyCodec

def cgroupsLookupItemHdrSize : Nat := 28

/-- `payload_exceeded_item_len`. -/
def LookupRequestView.payloadExceededItemLen (view : LookupRequestView) (index : UInt32) :
    Res NipcError Nat := do
  rejectIf (index ≥ view.itemCount) .outOfBounds
  let base ← lookupDirEntryOffset lookupReqHdrSize index
  let pathWireLen ← u32At view.payload (base + 4)
  okOr ((checkedAdd cgroupsLookupItemHdrSize pathWireLen.toNat).bind (checkedAdd · 1)) .overflow

/-! ### Writing -/

/-- The header of a request, which both encoders write last. -/
def putRequestHeader (count : Nat) : Prog NipcError Bytes Unit := do
  putU16 0 1
  putU16 2 0
  putU32 4 (← Prog.ofRes (checkedU32 count))
  putU32 8 0
  putU32 12 0

/-- The loop of `encode_cgroups_lookup_request`, from path `index` on. -/
def encodePathsFrom (packedStart : Nat) : Nat → Nat → List Bytes → Prog NipcError Bytes Nat
  | _, data, [] => pure data
  | index, data, path :: rest => do
    Prog.ofRes (rejectIf (sourceStringInvalid path true) .badLayout)
    let aligned := align8 data
    let keyLen ← Prog.ofRes (okOr (checkedAdd path.length 1) .overflow)
    let stop ← Prog.ofRes (okOr (checkedAdd aligned keyLen) .overflow)
    let buf ← Prog.get
    Prog.ofRes (rejectIf (stop > buf.length) .overflow)
    (if aligned > data then fillZero data aligned else pure ())
    let dir := lookupReqHdrSize + index * lookupDirEntrySize
    putU32 dir (← Prog.ofRes (checkedU32 (aligned - packedStart)))
    putU32 (dir + 4) (← Prog.ofRes (checkedU32 keyLen))
    write aligned path
    write (aligned + path.length) [0]
    encodePathsFrom packedStart (index + 1) stop rest

/-- `encode_cgroups_lookup_request`. -/
def encodeCgroupsLookupRequest (paths : List Bytes) : Prog NipcError Bytes Nat := do
  let dirSize ← Prog.ofRes (okOr (checkedMul paths.length lookupDirEntrySize) .overflow)
  let packedStart ← Prog.ofRes (okOr (checkedAdd lookupReqHdrSize dirSize) .overflow)
  let buf ← Prog.get
  Prog.ofRes (rejectIf (buf.length < packedStart) .overflow)
  let data ← encodePathsFrom packedStart 0 packedStart paths
  putRequestHeader paths.length
  return data

/-- The loop of `encode_apps_lookup_request`, from pid `index` on. -/
def encodePidsFrom (packedStart : Nat) : Nat → List UInt32 → Prog NipcError Bytes Unit
  | _, [] => pure ()
  | index, pid :: rest => do
    let dir := lookupReqHdrSize + index * lookupDirEntrySize
    let keyOffset ← Prog.ofRes (okOr (checkedMul index appsLookupKeySize) .overflow)
    putU32 dir (← Prog.ofRes (checkedU32 keyOffset))
    putU32 (dir + 4) (UInt32.ofNat appsLookupKeySize)
    let key := packedStart + index * appsLookupKeySize
    putU32 key pid
    putU32 (key + 4) 0
    encodePidsFrom packedStart (index + 1) rest

/-- `encode_apps_lookup_request`. -/
def encodeAppsLookupRequest (pids : List UInt32) : Prog NipcError Bytes Nat := do
  let dirSize ← Prog.ofRes (okOr (checkedMul pids.length lookupDirEntrySize) .overflow)
  let keySize ← Prog.ofRes (okOr (checkedMul pids.length appsLookupKeySize) .overflow)
  let packedStart ← Prog.ofRes (okOr (checkedAdd lookupReqHdrSize dirSize) .overflow)
  let total ← Prog.ofRes (okOr (checkedAdd packedStart keySize) .overflow)
  let buf ← Prog.get
  Prog.ofRes (rejectIf (total > buf.length) .overflow)
  encodePidsFrom packedStart 0 pids
  putRequestHeader pids.length
  return total

/-! ### What an accepted request holds -/

theorem reqDirOffset_eq (count : Nat) :
    lookupReqHdrSize + count * lookupDirEntrySize = 16 + 8 * count := dirOffset_eq count

/-- The keys of a decoded request pass their check. -/
theorem decodeLookupRequest_eq_ok {codec : KeyCodec κ} {buf : Bytes} {view : LookupRequestView}
    (decoded : decodeLookupRequest codec buf = .ok view) :
    view.payload = buf ∧ view.packedStart = 16 + 8 * view.itemCount.toNat ∧
      ∀ index < view.itemCount.toNat, ∃ key,
        keyAt codec buf view.packedStart (16 + 8 * index) = .ok key ∧
        codec.checkKey key = .ok () ∧
        ∃ len : UInt32, (u32At buf (16 + 8 * index + 4) : Res NipcError UInt32) = .ok len ∧
          checkEntryLen len.toNat codec.minLen codec.exactLen = .ok () := by
  rw [decodeLookupRequest] at decoded
  iterate 6 obtain ⟨_, -, decoded⟩ := bind_eq_ok decoded
  obtain ⟨itemCount, -, decoded⟩ := bind_eq_ok decoded
  obtain ⟨-, decoded⟩ := mul_eq_ok decoded
  obtain ⟨-, decoded⟩ := add_eq_ok decoded
  obtain ⟨_, -, decoded⟩ := bind_eq_ok decoded
  obtain ⟨_, directory, decoded⟩ := bind_eq_ok decoded
  obtain ⟨_, loop, decoded⟩ := bind_eq_ok decoded
  obtain rfl := Except.ok.inj decoded
  refine ⟨rfl, ?_, fun index below => ?_⟩
  · exact reqDirOffset_eq _
  · have pass := (forFrom_unit_eq_ok _ 0 itemCount.toNat).mp loop index (Nat.zero_le _)
      (by rw [Nat.zero_add]; exact below)
    obtain ⟨key, found, accepted⟩ := bind_eq_ok pass
    obtain ⟨len, read, rule⟩ := validateLookupDir_entry directory index below
    rw [reqDirOffset_eq index] at found read
    exact ⟨key, found, accepted, len, read, rule⟩

/-! ### What an encoder writes -/

/-- What both encoders need for a key, written after `keys`. -/
structure KeyFits (count size : Nat) (keys : List Bytes) (key : Bytes) : Prop where
  room : 16 + 8 * count + align8 (endFrom 0 keys) + key.length ≤ size
  startSmall : align8 (endFrom 0 keys) < 2 ^ 32
  sizeSmall : key.length < 2 ^ 32

/-- The header makes the container a request. -/
theorem run_putRequestHeader {buf tail : Bytes} {keys : List Bytes}
    (laid : Laid 16 keys.length 0 buf keys tail) (few : keys.length < 2 ^ 32) :
    (putRequestHeader keys.length).run buf = (.ok (), responseImage 0 keys ++ tail) := by
  have length := laid.length
  obtain ⟨head, slots, headLength, slotsLength, split⟩ := laid.split
  have none : slots = [] := List.length_eq_zero_iff.mp (by omega)
  have body : buf.drop 16 = dirImage (entriesFrom 0 keys) ++ (packFrom 0 keys ++ tail) := by
    rw [split, none]
    simp only [List.append_assoc, List.nil_append]
    exact List.drop_left' headLength
  have counted := toNat_ofNat32 few
  unfold putRequestHeader
  rw [checkedU32_of_lt few, show buf = [] ++ buf from rfl]
  simp (disch := simp <;> omega) only [putU16, putU32, run_bind_write, Prog.ofRes_ok_bind]
  rw [run_write_of_le (by simp; omega), splice_after _ _ _ _ (by simp)]
  simp only [List.nil_append, List.drop_drop, length_leBytes, Nat.reduceAdd, counted, body,
    responseImage, List.append_assoc]
  rfl

variable {final buf : Bytes}

theorem count_of_putRequestHeader {count : Nat}
    (ran : (putRequestHeader count).run buf = (.ok (), final)) : count < 2 ^ 32 := by
  rw [putRequestHeader] at ran
  obtain ⟨_, _, -, ran⟩ := Prog.run_bind_eq_ok ran
  obtain ⟨_, _, -, ran⟩ := Prog.run_bind_eq_ok ran
  obtain ⟨_, counted, -⟩ := Prog.run_ofRes_bind_eq_ok ran
  exact (checkedU32_eq_ok counted).1

/-- The bytes of a path in a request. -/
def pathKey (path : Bytes) : Bytes := path ++ [0]

/-- What the encoder needs for a path, written after `keys`. -/
structure PathFits (count size : Nat) (keys : List Bytes) (path : Bytes) : Prop extends
    KeyFits count size keys (pathKey path) where
  some : path ≠ []
  clean : 0 ∉ path
  small : 16 + 8 * count + align8 (endFrom 0 keys) + (path.length + 1) ≤ usizeMax

/-- All the paths, from one on. -/
def PathsFit (count size : Nat) : List Bytes → List Bytes → Prop
  | _, [] => True
  | keys, path :: rest =>
    PathFits count size keys path ∧ PathsFit count size (keys ++ [pathKey path]) rest

theorem sourceStringInvalid_iff (path : Bytes) :
    sourceStringInvalid path true = true ↔ path = [] ∨ 0 ∈ path := by
  simp [sourceStringInvalid]

section Paths

variable {count : Nat} {buf tail : Bytes} {keys : List Bytes}

/-- One pass of the loop over the paths pushes one key. -/
theorem run_encodePathsFrom_cons (path : Bytes) (rest : List Bytes)
    (laid : Laid 16 count 0 buf keys tail) (more : keys.length < count)
    (fits : PathFits count buf.length keys path) :
    (encodePathsFrom (16 + 8 * count) keys.length (16 + 8 * count + endFrom 0 keys)
        (path :: rest)).run buf =
      (encodePathsFrom (16 + 8 * count) (keys ++ [pathKey path]).length
        (16 + 8 * count + endFrom 0 (keys ++ [pathKey path])) rest).run
        (pushImage 16 count 0 buf keys (pathKey path)) := by
  have length : (pathKey path).length = path.length + 1 := List.length_append
  have start : align8 (16 + 8 * count + endFrom 0 keys) =
      16 + 8 * count + align8 (endFrom 0 keys) := align8_add _ _ (by omega)
  have next : endFrom 0 (keys ++ [pathKey path]) =
      align8 (endFrom 0 keys) + (path.length + 1) := by
    rw [endFrom_append, ← length]
    rfl
  have proper : ¬ sourceStringInvalid path true = true := by
    rw [sourceStringInvalid_iff]
    exact not_or.mpr ⟨fits.some, fits.clean⟩
  have written := laid.run_pushEntry (ε := NipcError) (pathKey path) more fits.room
    (by rw [Nat.zero_add]; exact fits.startSmall) fits.sizeSmall
    (16 + 8 * count + align8 (endFrom 0 keys) > 16 + 8 * count + endFrom 0 keys)
    (fun _ => by have := le_align8 (endFrom 0 keys); omega)
    (do
      write (16 + 8 * count + align8 (endFrom 0 keys)) path
      write (16 + 8 * count + align8 (endFrom 0 keys) + path.length) [0])
    (fun other inside => by
      rw [length] at inside
      rw [Prog.run_bind_ok (run_write_of_le (by omega)), run_write_of_le, splice_splice_next]
      · rfl
      · omega
      · rw [length_splice _ _ _ (by omega), List.length_singleton]
        omega)
  have room := fits.room
  have small := fits.small
  have sizeSmall := fits.sizeSmall
  have startSmall := fits.startSmall
  rw [length] at room sizeSmall
  simp only [encodePathsFrom]
  rw [Prog.guard_bind proper, Prog.add_bind (by omega), start, checkedAdd_of_le small, okOr_some,
    Prog.ofRes_ok_bind, Prog.run_bind_ok (Prog.run_get _), Prog.guard_bind (by omega),
    Nat.add_sub_cancel_left, checkedU32_of_lt startSmall, checkedU32_of_lt sizeSmall,
    reqDirOffset_eq, next, List.length_append, List.length_singleton]
  simp only [Prog.ofRes_ok_bind]
  rw [Nat.zero_add, length] at written
  have sequence : (_ >>= fun _ => encodePathsFrom (16 + 8 * count) (keys.length + 1)
    (16 + 8 * count + align8 (endFrom 0 keys) + (path.length + 1)) rest).run buf = _ :=
    Prog.run_bind_ok written
  simp only [bind_assoc] at sequence
  rw [sequence, Nat.add_assoc (16 + 8 * count)]

/-- A pass that does not fail needed all of it. -/
theorem pathFits_of_run {path : Bytes} {rest : List Bytes} {result : Nat} {final : Bytes}
    (ran : (encodePathsFrom (16 + 8 * count) keys.length (16 + 8 * count + endFrom 0 keys)
      (path :: rest)).run buf = (.ok result, final)) :
    PathFits count buf.length keys path := by
  have length : (pathKey path).length = path.length + 1 := List.length_append
  have start : align8 (16 + 8 * count + endFrom 0 keys) =
      16 + 8 * count + align8 (endFrom 0 keys) := align8_add _ _ (by omega)
  simp only [encodePathsFrom] at ran
  rw [start, Nat.add_sub_cancel_left] at ran
  obtain ⟨proper, ran⟩ := Prog.run_guard_eq_ok ran
  obtain ⟨-, ran⟩ := Prog.run_add_eq_ok ran
  obtain ⟨small, ran⟩ := Prog.run_add_eq_ok ran
  rw [Prog.run_bind_ok (Prog.run_get _)] at ran
  obtain ⟨room, ran⟩ := Prog.run_guard_eq_ok ran
  obtain ⟨_, _, -, ran⟩ := Prog.run_bind_eq_ok ran
  obtain ⟨_, startSmall, ran⟩ := Prog.run_ofRes_bind_eq_ok ran
  obtain ⟨_, _, -, ran⟩ := Prog.run_bind_eq_ok ran
  obtain ⟨_, sizeSmall, -⟩ := Prog.run_ofRes_bind_eq_ok ran
  rw [sourceStringInvalid_iff, not_or] at proper
  exact ⟨⟨by rw [length]; exact not_lt.mp room, (checkedU32_eq_ok startSmall).1,
    by rw [length]; exact (checkedU32_eq_ok sizeSmall).1⟩, proper.1, proper.2, small⟩

/-- The whole loop, when all paths fit. -/
theorem run_encodePathsFrom (paths : List Bytes) (laid : Laid 16 count 0 buf keys tail)
    (all : keys.length + paths.length ≤ count) (fits : PathsFit count buf.length keys paths) :
    ∃ final tail, (encodePathsFrom (16 + 8 * count) keys.length
        (16 + 8 * count + endFrom 0 keys) paths).run buf =
        (.ok (16 + 8 * count + endFrom 0 (keys ++ paths.map pathKey)), final) ∧
      Laid 16 count 0 final (keys ++ paths.map pathKey) tail ∧ final.length = buf.length := by
  induction paths generalizing buf tail keys with
  | nil =>
    rw [List.map_nil, List.append_nil]
    exact ⟨buf, tail, rfl, laid, rfl⟩
  | cons path rest ih =>
    rw [List.length_cons] at all
    have same := laid.length_push (pathKey path) (by omega) fits.1.room
    have more := fits.2
    rw [← same] at more
    obtain ⟨final, tail, ran, held, length⟩ := ih
      (laid.push (pathKey path) (by omega) (by omega))
      (by rw [List.length_append, List.length_singleton]; omega) more
    rw [List.append_assoc, List.singleton_append] at ran held
    exact ⟨final, tail, (run_encodePathsFrom_cons path rest laid (by omega) fits.1).trans ran, held,
      length.trans same⟩

/-- A loop that does not fail needed all paths to fit. -/
theorem pathsFit_of_run {paths : List Bytes} {result : Nat} {final : Bytes}
    (laid : Laid 16 count 0 buf keys tail) (all : keys.length + paths.length ≤ count)
    (ran : (encodePathsFrom (16 + 8 * count) keys.length (16 + 8 * count + endFrom 0 keys)
      paths).run buf = (.ok result, final)) : PathsFit count buf.length keys paths := by
  induction paths generalizing buf tail keys with
  | nil => trivial
  | cons path rest ih =>
    rw [List.length_cons] at all
    have fits := pathFits_of_run ran
    rw [run_encodePathsFrom_cons path rest laid (by omega) fits] at ran
    have more := ih (laid.push (pathKey path) (by omega) (by omega))
      (by rw [List.length_append, List.length_singleton]; omega) ran
    rw [laid.length_push (pathKey path) (by omega) fits.room] at more
    exact ⟨fits, more⟩

end Paths

/-- What is written for paths that fit can be put into a directory, and the paths are proper. -/
theorem PathsFit.entries {count size : Nat} {keys paths : List Bytes}
    (fits : PathsFit count size keys paths) (absolute : AbsRepresentable 0 keys) :
    AbsRepresentable 0 (keys ++ paths.map pathKey) ∧ ∀ path ∈ paths, path ≠ [] ∧ 0 ∉ path := by
  induction paths generalizing keys with
  | nil =>
    rw [List.map_nil, List.append_nil]
    exact ⟨absolute, nofun⟩
  | cons path rest ih =>
    obtain ⟨represented, proper⟩ := ih fits.2 (absRepresentable_push absolute rfl
      (by rw [Nat.zero_add]; exact fits.1.startSmall) fits.1.sizeSmall)
    rw [List.append_assoc, List.singleton_append] at represented
    exact ⟨represented, List.forall_mem_cons.mpr ⟨⟨fits.1.some, fits.1.clean⟩, proper⟩⟩

theorem run_encodeCgroupsLookupRequest {paths : List Bytes} (few : paths.length < 2 ^ 32)
    (room : 16 + 8 * paths.length ≤ buf.length) (fits : PathsFit paths.length buf.length [] paths) :
    ∃ rest, (encodeCgroupsLookupRequest paths).run buf =
      (.ok (responseImage 0 (paths.map pathKey)).length,
        responseImage 0 (paths.map pathKey) ++ rest) ∧
      (responseImage 0 (paths.map pathKey) ++ rest).length = buf.length := by
  have length : (paths.map pathKey).length = paths.length := List.length_map _
  obtain ⟨final, tail, ran, laid, kept⟩ := run_encodePathsFrom paths
    (Laid.start 16 paths.length 0 buf room) (Nat.zero_add _).le fits
  rw [List.nil_append] at ran laid
  have ran :
      (encodePathsFrom (16 + 8 * paths.length) 0 (16 + 8 * paths.length) paths).run buf = _ :=
    ran
  have header := run_putRequestHeader (by rw [length]; exact laid) (by rw [length]; exact few)
  rw [length] at header
  refine ⟨tail, ?_, ?_⟩
  rotate_left
  · rw [List.length_append, length_responseImage, length, ← kept, laid.length]
  rw [encodeCgroupsLookupRequest, lookupDirEntrySize, lookupReqHdrSize, Prog.mul_bind (by omega),
    Nat.mul_comm, Prog.add_bind (by omega), Prog.run_bind_ok (Prog.run_get _),
    Prog.guard_bind (by omega), Prog.run_bind_ok ran, Prog.run_bind_ok header, length_responseImage,
    length]
  rfl

variable {result : Nat} {paths : List Bytes}

/-- `encode_cgroups_lookup_request`, when it does not fail. -/
theorem encodeCgroupsLookupRequest_eq_ok
    (ran : (encodeCgroupsLookupRequest paths).run buf = (.ok result, final)) :
    (∃ rest, final = responseImage 0 (paths.map pathKey) ++ rest) ∧
      result = (responseImage 0 (paths.map pathKey)).length ∧
      Representable (paths.map pathKey) ∧ (∀ path ∈ paths, path ≠ [] ∧ 0 ∉ path) ∧
      result ≤ buf.length := by
  have steps := ran
  simp only [encodeCgroupsLookupRequest] at steps
  obtain ⟨-, steps⟩ := Prog.run_mul_eq_ok steps
  obtain ⟨-, steps⟩ := Prog.run_add_eq_ok steps
  rw [Prog.run_bind_ok (Prog.run_get _), lookupDirEntrySize, lookupReqHdrSize, Nat.mul_comm]
    at steps
  obtain ⟨room, steps⟩ := Prog.run_guard_eq_ok steps
  have room := not_lt.mp room
  obtain ⟨_, _, encoded, steps⟩ := Prog.run_bind_eq_ok steps
  have fits := pathsFit_of_run (Laid.start 16 paths.length 0 buf room) (Nat.zero_add _).le encoded
  obtain ⟨_, _, header, -⟩ := Prog.run_bind_eq_ok steps
  have few := count_of_putRequestHeader header
  obtain ⟨rest, exact, kept⟩ := run_encodeCgroupsLookupRequest few room fits
  rw [ran] at exact
  obtain ⟨same, rfl⟩ := Prod.mk.inj exact
  obtain ⟨absolute, proper⟩ := fits.entries (absRepresentable_nil 0)
  refine ⟨⟨rest, rfl⟩, Except.ok.inj same,
    absolute.representable rfl (by rw [List.length_map]; exact few), proper, ?_⟩
  rw [Except.ok.inj same, ← kept, List.length_append]
  exact Nat.le_add_right _ _

/-- The bytes of a pid in a request. -/
def pidKey (pid : UInt32) : Bytes := leBytes 4 pid.toNat ++ leBytes 4 0

theorem length_pidKey (pid : UInt32) : (pidKey pid).length = 8 := by
  simp [pidKey]

theorem endFrom_pidKeys (off : Nat) (aligned : off % 8 = 0) (pids : List UInt32) :
    endFrom off (pids.map pidKey) = off + 8 * pids.length := by
  induction pids generalizing off with
  | nil => rfl
  | cons pid rest ih =>
    rw [List.map_cons, endFrom, length_pidKey, align8_of_mod _ aligned,
      ih _ (by omega), List.length_cons]
    omega

section Pids

variable {count : Nat} {buf tail : Bytes} {pids : List UInt32}

/-- One pass of the loop over the pids pushes one key. -/
theorem run_encodePidsFrom_cons (pid : UInt32) (rest : List UInt32)
    (laid : Laid 16 count 0 buf (pids.map pidKey) tail) (more : pids.length < count)
    (room : 16 + 16 * count ≤ buf.length) (small : 8 * pids.length < 2 ^ 32) :
    (encodePidsFrom (16 + 8 * count) pids.length (pid :: rest)).run buf =
      (encodePidsFrom (16 + 8 * count) (pids ++ [pid]).length rest).run
        (pushImage 16 count 0 buf (pids.map pidKey) (pidKey pid)) := by
  have ends : endFrom 0 (pids.map pidKey) = 8 * pids.length := by
    rw [endFrom_pidKeys 0 rfl, Nat.zero_add]
  have start : align8 (8 * pids.length) = 8 * pids.length := align8_of_mod _ (by omega)
  have length := length_pidKey pid
  have written := laid.run_pushEntry (ε := NipcError) (pidKey pid)
    (by rw [List.length_map]; exact more) (by rw [ends, start, length]; omega)
    (by rw [ends, start, Nat.zero_add]; exact small) (by rw [length]; decide) False
    (fun _ => by rw [ends, start])
    (do
      putU32 (16 + 8 * count + 8 * pids.length) pid
      putU32 (16 + 8 * count + 8 * pids.length + 4) 0)
    (fun other inside => by
      rw [ends, start, length] at inside
      have half := length_leBytes 4 pid.toNat
      have joined := splice_splice_next other (leBytes 4 pid.toNat) (leBytes 4 0)
        (16 + 8 * count + 8 * pids.length) (by rw [half]; omega)
      rw [half] at joined
      rw [putU32, putU32, Prog.run_bind_ok (run_write_of_le (by rw [half]; omega)),
        run_write_of_le, ends, start]
      · exact congrArg _ joined
      · rw [length_splice _ _ _ (by rw [half]; omega), length_leBytes]
        omega)
  rw [ends, start, length, List.length_map, if_neg not_false, pure_bind, Nat.zero_add] at written
  have multiplied : pids.length * 8 = 8 * pids.length := Nat.mul_comm _ _
  simp only [encodePidsFrom, lookupReqHdrSize, lookupDirEntrySize, appsLookupKeySize]
  rw [Prog.mul_bind (by omega), multiplied,
    checkedU32_of_lt small, Prog.ofRes_ok_bind, List.length_append, List.length_singleton]
  have sequence : (_ >>= fun _ => encodePidsFrom (16 + 8 * count) (pids.length + 1) rest).run buf =
    _ := Prog.run_bind_ok written
  simp only [bind_assoc] at sequence
  exact sequence

theorem small_of_encodePidsFrom {pid : UInt32} {rest : List UInt32} {final : Bytes}
    {packedStart : Nat}
    (ran : (encodePidsFrom packedStart pids.length (pid :: rest)).run buf = (.ok (), final)) :
    8 * pids.length < 2 ^ 32 := by
  simp only [encodePidsFrom] at ran
  obtain ⟨-, ran⟩ := Prog.run_mul_eq_ok ran
  obtain ⟨_, small, -⟩ := Prog.run_ofRes_bind_eq_ok ran
  rw [Nat.mul_comm]
  exact (checkedU32_eq_ok small).1

/-- The whole loop: it fails only if the offset of a key is too large for the directory. -/
theorem run_encodePidsFrom (rest : List UInt32) (laid : Laid 16 count 0 buf (pids.map pidKey) tail)
    (absolute : AbsRepresentable 0 (pids.map pidKey)) (all : pids.length + rest.length ≤ count)
    (room : 16 + 16 * count ≤ buf.length) :
    (∃ final tail, (encodePidsFrom (16 + 8 * count) pids.length rest).run buf = (.ok (), final) ∧
      Laid 16 count 0 final ((pids ++ rest).map pidKey) tail ∧
      AbsRepresentable 0 ((pids ++ rest).map pidKey) ∧ final.length = buf.length) ∨
    (∃ reason after, (encodePidsFrom (16 + 8 * count) pids.length rest).run buf =
      (.error reason, after)) ∧ 2 ^ 32 ≤ 8 * count := by
  induction rest generalizing buf tail pids with
  | nil =>
    rw [List.append_nil]
    exact .inl ⟨buf, tail, rfl, laid, absolute, rfl⟩
  | cons pid rest ih =>
    rw [List.length_cons] at all
    by_cases small : 8 * pids.length < 2 ^ 32
    · have ends := endFrom_pidKeys 0 rfl pids
      have start : align8 (endFrom 0 (pids.map pidKey)) = 8 * pids.length := by
        rw [ends, Nat.zero_add, align8_of_mod _ (by omega)]
      have length := length_pidKey pid
      have pushed := laid.push (pidKey pid) rfl (by rw [List.length_map]; omega)
      have represented := absRepresentable_push absolute rfl
        (by rw [start, Nat.zero_add]; exact small)
        (show (pidKey pid).length < 2 ^ 32 by rw [length]; decide)
      have same := laid.length_push (pidKey pid) (by rw [List.length_map]; omega)
        (by rw [start, length]; omega)
      have mapped : pids.map pidKey ++ [pidKey pid] = (pids ++ [pid]).map pidKey := by
        rw [List.map_append, List.map_singleton]
      rw [mapped] at pushed represented
      have done := ih pushed represented
        (by rw [List.length_append, List.length_singleton]; omega) (by rw [same]; exact room)
      rwa [List.append_assoc, List.singleton_append, same,
        ← run_encodePidsFrom_cons pid rest laid (by omega) room small] at done
    · match ran : (encodePidsFrom (16 + 8 * count) pids.length (pid :: rest)).run buf with
      | (.ok (), _) => exact absurd (small_of_encodePidsFrom ran) small
      | (.error reason, after) => exact .inr ⟨⟨reason, after, rfl⟩, by omega⟩

end Pids

/-- `encode_apps_lookup_request`, when it does not fail. -/
theorem encodeAppsLookupRequest_eq_ok {pids : List UInt32}
    (ran : (encodeAppsLookupRequest pids).run buf = (.ok result, final)) :
    (∃ rest, final = responseImage 0 (pids.map pidKey) ++ rest) ∧
      result = (responseImage 0 (pids.map pidKey)).length ∧ Representable (pids.map pidKey) ∧
      result ≤ buf.length := by
  have length : (pids.map pidKey).length = pids.length := List.length_map _
  simp only [encodeAppsLookupRequest] at ran
  obtain ⟨-, ran⟩ := Prog.run_mul_eq_ok ran
  obtain ⟨-, ran⟩ := Prog.run_mul_eq_ok ran
  obtain ⟨-, ran⟩ := Prog.run_add_eq_ok ran
  obtain ⟨-, ran⟩ := Prog.run_add_eq_ok ran
  rw [Prog.run_bind_ok (Prog.run_get _), lookupDirEntrySize, lookupReqHdrSize, appsLookupKeySize,
    Nat.mul_comm] at ran
  obtain ⟨room, ran⟩ := Prog.run_guard_eq_ok ran
  have room := not_lt.mp room
  obtain ⟨_, filled, encoded, ran⟩ := Prog.run_bind_eq_ok ran
  obtain ⟨_, _, header, done⟩ := Prog.run_bind_eq_ok ran
  have few := count_of_putRequestHeader header
  obtain ⟨_, tail, looped, laid, absolute, -⟩ | ⟨⟨_, _, looped⟩, -⟩ := run_encodePidsFrom pids
    (show Laid 16 pids.length 0 buf (([] : List UInt32).map pidKey) _ from
      Laid.start 16 pids.length 0 buf (by omega)) (absRepresentable_nil 0) (Nat.zero_add _).le
    (by omega)
  all_goals
    have looped : (encodePidsFrom (16 + 8 * pids.length) 0 pids).run buf = _ := looped
    rw [encoded] at looped
    cases looped
  rw [List.nil_append] at laid absolute
  have written := run_putRequestHeader (by rw [length]; exact laid) (by rw [length]; exact few)
  rw [length, header] at written
  obtain ⟨-, rfl⟩ := Prod.mk.inj written
  obtain ⟨same, rfl⟩ := Prod.mk.inj done
  refine ⟨⟨tail, rfl⟩, ?_, absolute.representable rfl (by rw [length]; exact few),
    Except.ok.inj same ▸ room⟩
  rw [← Except.ok.inj same, length_responseImage, length, endFrom_pidKeys 0 rfl, Nat.zero_add]

/-! ### Reading what was written -/

section Image

variable {keys : List Bytes} (representable : Representable keys)

include representable

variable (codec : KeyCodec κ)

theorem keyAt_image (index : Nat) (key : Bytes) (found : keys[index]? = some key)
    (ruled : checkEntryLen key.length codec.minLen codec.exactLen = .ok ()) :
    keyAt codec (responseImage 0 keys) (16 + 8 * keys.length) (16 + 8 * index) = .ok key := by
  obtain ⟨readOff, readLen, off, len⟩ := readEntry_image representable 0 index key found
  have part := subslice_image representable 0 index key found
  rw [keyAt, readOff, ok_bind, off]
  cases rule : codec.exactLen with
  | none =>
    dsimp only
    rw [readLen]
    show checkedSubslice _ _ _ (UInt32.ofNat key.length).toNat = _
    rw [len]
    exact part
  | some exactLen =>
    rw [rule] at ruled
    rw [not_not.mp (rejectIf_eq_ok ruled)] at part
    exact part

/-- The decoder accepts a request whose keys pass their checks, and gives them back. -/
theorem decodeLookupRequest_image
    (ruled : ∀ key ∈ keys, checkEntryLen key.length codec.minLen codec.exactLen = .ok ())
    (checked : ∀ key ∈ keys, codec.checkKey key = .ok ()) :
    decodeLookupRequest codec (responseImage 0 keys) =
      .ok ⟨UInt32.ofNat keys.length, 16 + 8 * keys.length, responseImage 0 keys⟩ := by
  have count := toNat_ofNat32 representable.count
  have few := representable.count
  have total := length_responseImage 0 keys
  obtain ⟨version, flags, counted, -⟩ := header_responseImage 0 keys
  have reserved : (u32At (responseImage 0 keys) 8 : Res NipcError UInt32) = .ok 0 ∧
      (u32At (responseImage 0 keys) 12 : Res NipcError UInt32) = .ok 0 := by
    have words : leBytes 8 (UInt64.toNat 0) = leBytes 4 0 ++ leBytes 4 0 := rfl
    rw [u32At_of_le (by omega), u32At_of_le (by omega)]
    simp (disch := omega) only [responseImage, responseHeader, words, List.append_assoc,
      slice_leBytes_skip, slice_leBytes_take, Nat.sub_self, Nat.reduceSub]
    exact ⟨rfl, rfl⟩
  rw [decodeLookupRequest, guard_bind (by rw [total, lookupReqHdrSize]; omega), version, ok_bind,
    flags, ok_bind, reserved.1, ok_bind, reserved.2, ok_bind, guard_bind (by simp), counted,
    ok_bind, count, mul_bind (by rw [lookupDirEntrySize]; omega),
    add_bind (by rw [reqDirOffset_eq]; omega), reqDirOffset_eq, guard_bind (by omega), total,
    Nat.add_sub_cancel_left,
    show validateLookupDir _ lookupReqHdrSize _ _ _ _ = _ from
      validateLookupDir_image representable 0 _ _ ruled, ok_bind]
  refine bind_of_ok ((forFrom_unit_eq_ok _ _ _).mpr fun index _ high => ?_)
  have found := List.getElem?_eq_getElem (show index < keys.length by omega)
  have member := List.mem_of_getElem? found
  rw [reqDirOffset_eq, keyAt_image representable codec index _ found (ruled _ member), ok_bind]
  exact checked _ member

/-- A key of the decoded request. -/
theorem requestItem_image (index : Nat) (key : Bytes) (found : keys[index]? = some key)
    (ruled : checkEntryLen key.length codec.minLen codec.exactLen = .ok ()) :
    LookupRequestView.item codec
      ⟨UInt32.ofNat keys.length, 16 + 8 * keys.length, responseImage 0 keys⟩ (UInt32.ofNat index) =
      codec.readKey key := by
  obtain ⟨bound, -⟩ := List.getElem?_eq_some_iff.mp found
  have few := representable.count
  have indexed : (UInt32.ofNat index).toNat = index := toNat_ofNat32 (by omega)
  have inside : ¬ UInt32.ofNat index ≥ UInt32.ofNat keys.length := by
    rw [ge_iff_le, UInt32.le_iff_toNat_le, UInt32.toNat_ofNat_of_lt' few, indexed]
    omega
  have base := lookupDirEntryOffset_eq (UInt32.ofNat index)
  rw [indexed, lookupRespHdrSize] at base
  rw [LookupRequestView.item, guard_bind inside, lookupReqHdrSize, base, ok_bind,
    keyAt_image representable codec index key found ruled, ok_bind]

end Image

/-- A request has these keys, in order. -/
structure LookupRequestView.Lists {ι : Type} (view : LookupRequestView) (codec : KeyCodec κ)
    (shows : ι → κ) (keys : List ι) : Prop where
  count : view.itemCount.toNat = keys.length
  item : ∀ index key, keys[index]? = some key →
    view.item codec (UInt32.ofNat index) = .ok (shows key)

/-- The bytes of a request that has these keys. -/
def Carries {ι : Type} (codec : KeyCodec κ) (shows : ι → κ) (keys : List ι) (request : Bytes) :
    Prop :=
  ∃ view, decodeLookupRequest codec request = .ok view ∧ view.Lists codec shows keys

theorem carries_image {ι : Type} (codec : KeyCodec κ) (shows : ι → κ) (bytes : ι → Bytes)
    (keys : List ι) (representable : Representable (keys.map bytes))
    (ruled : ∀ key ∈ keys, checkEntryLen (bytes key).length codec.minLen codec.exactLen = .ok ())
    (checked : ∀ key ∈ keys, codec.checkKey (bytes key) = .ok ())
    (reads : ∀ key ∈ keys, codec.readKey (bytes key) = .ok (shows key)) :
    Carries codec shows keys (responseImage 0 (keys.map bytes)) := by
  have length : (keys.map bytes).length = keys.length := List.length_map _
  have few := representable.count
  refine ⟨_, decodeLookupRequest_image representable codec (List.forall_mem_map.mpr ruled)
    (List.forall_mem_map.mpr checked), ?_, fun index key found => ?_⟩
  · rw [length] at few ⊢
    exact UInt32.toNat_ofNat_of_lt' few
  · have member := List.mem_of_getElem? found
    rw [requestItem_image representable codec index (bytes key)
      (by rw [List.getElem?_map, found]; rfl) (ruled key member)]
    exact reads key member

/-- The server finds the pids the client encoded. -/
theorem carries_pids {pids : List UInt32}
    (ran : (encodeAppsLookupRequest pids).run buf = (.ok result, final)) (more : Bytes) :
    Carries appsKeyCodec id pids ((final ++ more).take result) := by
  obtain ⟨⟨rest, rfl⟩, rfl, representable, -⟩ := encodeAppsLookupRequest_eq_ok ran
  rw [List.append_assoc, List.take_left' rfl]
  refine carries_image appsKeyCodec id pidKey pids representable (fun pid _ => ?_) (fun pid _ => ?_)
    fun pid _ => ?_
  · rw [length_pidKey]
    rfl
  · have reserved : (u32At (pidKey pid) 4 : Res NipcError UInt32) = .ok 0 := by
      rw [u32At_of_le (by rw [length_pidKey]), pidKey, slice_leBytes_skip 4 _ _ _ _ (Nat.le_refl 4),
        Nat.sub_self, slice_leBytes]
      rfl
    show (u32At (pidKey pid) 4 >>= fun reserved => rejectIf (reserved ≠ 0) .badLayout) = _
    rw [reserved]
    rfl
  · show (u32At (pidKey pid) 0 : Res NipcError UInt32) = .ok pid
    rw [u32At_of_le (by rw [length_pidKey]; decide), pidKey, slice_leBytes_take, u32_leBytes]

/-- The server finds the paths the client encoded. -/
theorem carries_paths (ran : (encodeCgroupsLookupRequest paths).run buf = (.ok result, final))
    (more : Bytes) : Carries cgroupsKeyCodec StrView.of paths ((final ++ more).take result) := by
  obtain ⟨⟨rest, rfl⟩, rfl, representable, proper, -⟩ := encodeCgroupsLookupRequest_eq_ok ran
  rw [List.append_assoc, List.take_left' rfl]
  have length (path : Bytes) : (pathKey path).length = path.length + 1 := List.length_append
  refine carries_image cgroupsKeyCodec StrView.of pathKey paths representable
    (fun path member => ?_) (fun path member => ?_) fun path member => ?_
  · have positive := List.length_pos_of_ne_nil (proper path member).1
    rw [length]
    exact rejectIf_of_not (Nat.not_lt.mpr (show 2 ≤ path.length + 1 by omega))
  · have last :
        (readByte (pathKey path) ((pathKey path).length - 1) : Res NipcError UInt8) = .ok 0 := by
      refine readByte_of_getElem? ?_
      rw [length, Nat.add_sub_cancel, pathKey, List.getElem?_append_right (Nat.le_refl _),
        Nat.sub_self]
      rfl
    have text : (readSlice (pathKey path) 0 ((pathKey path).length - 1) : Res NipcError Bytes) =
        .ok path := by
      rw [length, Nat.add_sub_cancel, readSlice_of_le (Nat.zero_le _) (by rw [length]; omega),
        Nat.sub_zero, slice_take, pathKey, List.take_left' rfl]
    have clean : ¬ path.contains 0 = true := by
      rw [List.contains_iff_mem]
      exact (proper path member).2
    show (readByte (pathKey path) ((pathKey path).length - 1) >>= _) = _
    rw [last, ok_bind, guard_bind (not_not_intro rfl), text, ok_bind, rejectIf_of_not clean]
  · show Except.ok _ = _
    rw [length, Nat.add_sub_cancel]
    rfl

end NetIpc
