/-
This file models a shared memory region (`transport/shm.rs`): its layout, creating
one, attaching to one, and sending a message through one.

A region is the bytes of its file. The first 64 are the header: the fixed fields and,
for each direction, a sequence counter, a message length and a signal word. The
offsets and capacities of the two areas behind it are 32-bit numbers, and all sums
that make them are checked. What the operating system answers while a region is
created is an argument.
-/

import NetIpc.Uds

namespace NetIpc.Shm

open NetIpc.Uds (u32Max)

/-! ### The header -/

def regionMagic : UInt32 := 0x4e53484d
def regionVersion : UInt16 := 3
def regionAlignment : UInt32 := 64
def headerLen : UInt16 := 64

def offReqSeq : Nat := 32
def offRespSeq : Nat := 40
def offReqLen : Nat := 48
def offRespLen : Nat := 52
def offReqSignal : Nat := 56
def offRespSignal : Nat := 60

/-- `ShmError`. -/
inductive Error where
  | pathTooLong
  | open (errno : Int)
  | truncate (errno : Int)
  | mmap (errno : Int)
  | badMagic
  | badVersion
  | badHeader
  | badSize
  | addrInUse
  | notReady
  | msgTooLarge
  | timeout
  | badParam (text : String)
  deriving Repr, DecidableEq

/-- The fixed fields of `RegionHeader`; the process id is kept as its 32 bits. -/
structure RegionHeader where
  magic : UInt32
  version : UInt16
  headerLen : UInt16
  ownerPid : UInt32
  ownerGeneration : UInt32
  requestOffset : UInt32
  requestCapacity : UInt32
  responseOffset : UInt32
  responseCapacity : UInt32
  deriving Repr, DecidableEq

/-- The bytes of a header whose counters, lengths and signals are zero. -/
def RegionHeader.image (hdr : RegionHeader) : Bytes :=
  leBytes 4 hdr.magic.toNat ++ leBytes 2 hdr.version.toNat ++ leBytes 2 hdr.headerLen.toNat ++
    leBytes 4 hdr.ownerPid.toNat ++ leBytes 4 hdr.ownerGeneration.toNat ++
    leBytes 4 hdr.requestOffset.toNat ++ leBytes 4 hdr.requestCapacity.toNat ++
    leBytes 4 hdr.responseOffset.toNat ++ leBytes 4 hdr.responseCapacity.toNat ++ zeros 32

def loadU16 (region : Bytes) (off : Nat) : UInt16 := UInt16.ofNat (leNat (slice region off 2))
def loadU32 (region : Bytes) (off : Nat) : UInt32 := UInt32.ofNat (leNat (slice region off 4))
def loadU64 (region : Bytes) (off : Nat) : UInt64 := UInt64.ofNat (leNat (slice region off 8))

/-- The fixed fields of a mapped region. -/
def RegionHeader.read (region : Bytes) : RegionHeader where
  magic := loadU32 region 0
  version := loadU16 region 4
  headerLen := loadU16 region 6
  ownerPid := loadU32 region 8
  ownerGeneration := loadU32 region 12
  requestOffset := loadU32 region 16
  requestCapacity := loadU32 region 20
  responseOffset := loadU32 region 24
  responseCapacity := loadU32 region 28

@[simp] theorem RegionHeader.length_image (hdr : RegionHeader) : hdr.image.length = 64 := by
  simp [RegionHeader.image]

theorem RegionHeader.read_image (hdr : RegionHeader) (rest : Bytes) :
    RegionHeader.read (hdr.image ++ rest) = hdr := by
  simp (disch := omega) only [RegionHeader.read, RegionHeader.image, List.append_assoc, loadU16,
    loadU32, slice_leBytes_skip, slice_leBytes_take, Nat.sub_self, Nat.reduceSub, u16_leBytes,
    u32_leBytes]

/-! ### The layout -/

/-- `u32::checked_add`. -/
def checkedAddU32 (first second : UInt32) : Option UInt32 :=
  if first.toNat + second.toNat ≤ u32Max then some (first + second) else none

/-- `align64`. -/
def align64 (v : UInt32) : Option UInt32 :=
  (checkedAddU32 v (regionAlignment - 1)).map fun x => x &&& ~~~(regionAlignment - 1)

/-- Where the areas of a region are, and how long it is. -/
structure Layout where
  reqOff : UInt32
  reqCap : UInt32
  respOff : UInt32
  respCap : UInt32
  regionSize : UInt32
  deriving Repr, DecidableEq

/-- The sizes `server_create` computes. -/
def layout (reqCapacity respCapacity : UInt32) : Res Error Layout := do
  let reqCap ← okOr (align64 reqCapacity) (.badParam "request capacity overflow")
  let respCap ← okOr (align64 respCapacity) (.badParam "response capacity overflow")
  let reqOff ← okOr (align64 headerLen.toUInt32) (.badParam "header offset overflow")
  let respOff ← okOr ((checkedAddU32 reqOff reqCap).bind align64)
    (.badParam "region offset overflow")
  let regionSize ← okOr (checkedAddU32 respOff respCap) (.badParam "region size overflow")
  return ⟨reqOff, reqCap, respOff, respCap, regionSize⟩

/-! ### Creating and attaching -/

/-- `ShmContext`, without its descriptors and its path. -/
structure Context where
  role : Role
  regionSize : Nat
  requestOffset : UInt32
  requestCapacity : UInt32
  responseOffset : UInt32
  responseCapacity : UInt32
  localReqSeq : UInt64
  localRespSeq : UInt64
  ownerGeneration : UInt32
  deriving Repr, DecidableEq

/-- What the operating system answers to `server_create`: whether there is a path for the region,
whether its file can be created, sized and mapped, the process id, and the clock's generation. -/
structure CreateAnswers where
  path : Except Error Unit
  file : Except Error Unit
  pid : UInt32
  generation : UInt32
  deriving Repr, DecidableEq

/-- An answer that stops the caller. -/
def require {ε : Type} : Except ε Unit → Res ε Unit
  | .ok () => .ok ()
  | .error error => .error (.err error)

/-- `ShmContext::server_create`: the context and the bytes of the region. -/
def serverCreate (answers : CreateAnswers) (reqCapacity respCapacity : UInt32) :
    Res Error (Context × Bytes) := do
  require answers.path
  let sizes ← layout reqCapacity respCapacity
  require answers.file
  let hdr : RegionHeader := {
    magic := regionMagic
    version := regionVersion
    headerLen := Shm.headerLen
    ownerPid := answers.pid
    ownerGeneration := answers.generation
    requestOffset := sizes.reqOff
    requestCapacity := sizes.reqCap
    responseOffset := sizes.respOff
    responseCapacity := sizes.respCap }
  let context : Context := {
    role := .server
    regionSize := sizes.regionSize.toNat
    requestOffset := sizes.reqOff
    requestCapacity := sizes.reqCap
    responseOffset := sizes.respOff
    responseCapacity := sizes.respCap
    localReqSeq := 0
    localRespSeq := 0
    ownerGeneration := answers.generation }
  return (context, hdr.image ++ zeros (sizes.regionSize.toNat - 64))

/-- The context of a client, with the counters it finds. -/
def attachedContext (region : Bytes) (hdr : RegionHeader) : Context where
  role := .client
  regionSize := region.length
  requestOffset := hdr.requestOffset
  requestCapacity := hdr.requestCapacity
  responseOffset := hdr.responseOffset
  responseCapacity := hdr.responseCapacity
  localReqSeq := loadU64 region offReqSeq
  localRespSeq := loadU64 region offRespSeq
  ownerGeneration := hdr.ownerGeneration

/-- The checks of `ShmContext::client_attach` on a region that could be opened and mapped. -/
def clientAttach (region : Bytes) : Res Error Context := do
  rejectIf (region.length < Shm.headerLen.toNat) .notReady
  let hdr := RegionHeader.read region
  rejectIf (hdr.magic ≠ regionMagic) .badMagic
  rejectIf (hdr.version ≠ regionVersion) .badVersion
  rejectIf (hdr.headerLen ≠ Shm.headerLen) .badHeader
  let headerEnd := (align64 Shm.headerLen.toUInt32).getD Shm.headerLen.toUInt32
  rejectIf (hdr.requestOffset < headerEnd ∨ hdr.requestCapacity = 0 ∨
    hdr.responseOffset < headerEnd ∨ hdr.responseCapacity = 0) .notReady
  rejectIf (hdr.requestOffset % regionAlignment ≠ 0 ∨ hdr.requestCapacity % regionAlignment ≠ 0 ∨
    hdr.responseOffset % regionAlignment ≠ 0 ∨ hdr.responseCapacity % regionAlignment ≠ 0 ∨
    ((checkedAddU32 hdr.requestOffset hdr.requestCapacity).bind align64).elim true
      (fun min => decide (hdr.responseOffset < min)) = true) .badSize
  let reqEnd := hdr.requestOffset.toNat + hdr.requestCapacity.toNat
  let respEnd := hdr.responseOffset.toNat + hdr.responseCapacity.toNat
  rejectIf (region.length < max reqEnd respEnd) .badSize
  return attachedContext region hdr

/-! ### Sending -/

/-- An area with its counter, its length and its signal word. -/
structure Area where
  offset : Nat
  capacity : Nat
  seqOff : Nat
  lenOff : Nat
  sigOff : Nat
  deriving Repr, DecidableEq

def Context.requestArea (self : Context) : Area :=
  ⟨self.requestOffset.toNat, self.requestCapacity.toNat, offReqSeq, offReqLen, offReqSignal⟩

def Context.responseArea (self : Context) : Area :=
  ⟨self.responseOffset.toNat, self.responseCapacity.toNat, offRespSeq, offRespLen, offRespSignal⟩

/-- The area `send` writes. -/
def Context.sendArea (self : Context) : Area :=
  match self.role with
  | .client => self.requestArea
  | .server => self.responseArea

/-- The message is in the area. -/
def copyIn (area : Area) (msg region : Bytes) : Bytes := splice region area.offset msg

/-- `atomic_store_u32` of the message length. -/
def storeLen (area : Area) (msg region : Bytes) : Bytes :=
  splice region area.lenOff (leBytes 4 (UInt32.ofNat msg.length).toNat)

/-- `atomic_add_u64` on the counter. -/
def addSeq (area : Area) (region : Bytes) : Bytes :=
  splice region area.seqOff (leBytes 8 (loadU64 region area.seqOff + 1).toNat)

/-- `atomic_add_u32` on the signal word. -/
def addSignal (area : Area) (region : Bytes) : Bytes :=
  splice region area.sigOff (leBytes 4 (loadU32 region area.sigOff + 1).toNat)

/-- The context after it sent a message. -/
def Context.afterSend (self : Context) : Context :=
  match self.role with
  | .client => { self with localReqSeq := self.localReqSeq + 1 }
  | .server => { self with localRespSeq := self.localRespSeq + 1 }

/-- `ShmContext::send` when nothing else touches the region. -/
def send (self : Context) (msg region : Bytes) : Res Error (Context × Bytes) := do
  rejectIf (msg.length = 0) (.badParam "null context or empty message")
  rejectIf (msg.length > self.sendArea.capacity) .msgTooLarge
  let region := copyIn self.sendArea msg region
  let region := storeLen self.sendArea msg region
  let region := addSeq self.sendArea region
  let region := addSignal self.sendArea region
  return (self.afterSend, region)

end NetIpc.Shm
