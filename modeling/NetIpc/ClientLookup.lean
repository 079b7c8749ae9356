/-
This file models the two lookup calls of the client
(`call_apps_lookup_with_timeout` and `call_cgroups_lookup_with_timeout`).

A lookup asks for as many keys as a request can carry, keeps the raw items it gets
up to the first one that did not fit, and goes on from there; in the end it writes
the raw items into one response and decodes that. The two calls differ in their
keys and items, and in what becomes of a key no request can carry: the apps call
fails, the cgroups call makes an item of its own. So there is one call over a
`LookupMethod`. The log of a lookup has every subcall and every key that was
skipped; no decision of the code reads it.
-/

import NetIpc.AppsLookup
import NetIpc.CgroupsLookup
import NetIpc.RawClient

namespace NetIpc

/-! ### The methods -/

/-- What the lookup call depends on. `oversizedRequestItem` makes the item for a key that fits no
request, with the status `oversized`; `echo` is the key an item is for. -/
structure LookupMethod (κ α : Type) where
  code : UInt16
  codec : ItemCodec α
  oversized : UInt16
  payloadExceeded : UInt16
  status : α → UInt16
  echo : α → Res NipcError κ
  requestSize : List κ → Res NipcError Nat
  nextRequestCount : List κ → UInt32 → Res NipcError (Nat × Nat)
  encodeRequest : List κ → Prog NipcError Bytes Nat
  oversizedRequestItem : κ → Res NipcError Bytes

/-- `apps_lookup_request_size`. -/
def appsLookupRequestSize (count : Nat) : Res NipcError Nat := do
  let dirSize ← okOr (checkedMul count lookupDirEntrySize) .overflow
  let keySize ← okOr (checkedMul count appsLookupKeySize) .overflow
  okOr ((checkedAdd lookupReqHdrSize dirSize).bind (checkedAdd · keySize)) .overflow

/-- `apps_lookup_next_request_count`. -/
def appsLookupNextRequestCount (remaining : Nat) (maxPayload : UInt32) :
    Res NipcError (Nat × Nat) :=
  if remaining = 0 then do
    return (0, ← appsLookupRequestSize 0)
  else do
    let cap := (Handshake.applyDefault maxPayload maxPayloadDefault).toNat
    let perItem ← okOr (checkedAdd lookupDirEntrySize appsLookupKeySize) .overflow
    rejectIf (cap < lookupReqHdrSize ∨ cap - lookupReqHdrSize < perItem) .overflow
    let maxCount := (cap - lookupReqHdrSize) / perItem
    rejectIf (maxCount = 0) .overflow
    let count := min remaining maxCount
    return (count, ← appsLookupRequestSize count)

/-- One path more in a request of `data` bytes. -/
def addPathSize (data : Nat) (path : Bytes) : Res NipcError Nat := do
  let data ← okOr ((checkedAdd data 7).map fun value => value / 8 * 8) .overflow
  okOr ((checkedAdd data path.length).bind (checkedAdd · 1)) .overflow

/-- `cgroups_lookup_request_size`. -/
def cgroupsLookupRequestSize (paths : List Bytes) : Res NipcError Nat := do
  let dirSize ← okOr (checkedMul paths.length lookupDirEntrySize) .overflow
  let data ← okOr (checkedAdd lookupReqHdrSize dirSize) .overflow
  paths.foldlM addPathSize data

/-- The search of `cgroups_lookup_next_request_count`: between `lo` and `hi`, with the best count
so far and its size. Every pass makes the interval smaller, so the fuel is never used up. -/
def searchRequestCount (paths : List Bytes) (cap : Nat) :
    Nat → Nat → Nat → Nat × Nat → Res NipcError (Nat × Nat)
  | 0, _, _, _ => .error .fuel
  | fuel + 1, lo, hi, best =>
    if lo ≤ hi then do
      let mid := lo + (hi - lo) / 2
      let size ← cgroupsLookupRequestSize (paths.take mid)
      if size ≤ cap then searchRequestCount paths cap fuel (mid + 1) hi (mid, size)
      else searchRequestCount paths cap fuel lo (mid - 1) best
    else .ok best

/-- `cgroups_lookup_next_request_count`. -/
def cgroupsLookupNextRequestCount (paths : List Bytes) (maxPayload : UInt32) :
    Res NipcError (Nat × Nat) :=
  if paths = [] then do
    return (0, ← cgroupsLookupRequestSize [])
  else do
    let cap := (Handshake.applyDefault maxPayload maxPayloadDefault).toNat
    let best ← searchRequestCount paths cap (paths.length + 1) 1 paths.length (0, 0)
    rejectIf (best.1 = 0) .overflow
    return best

/-- `cgroups_lookup_oversized_request_item`. -/
def cgroupsLookupOversizedRequestItem (path : Bytes) : Res NipcError Bytes := do
  let size ← okOr (checkedAdd lookupRespHdrSize lookupDirEntrySize) .overflow
  let size ← okOr ((checkedAdd size 7).map fun value => value / 8 * 8) .overflow
  let itemSize ← okOr ((checkedAdd cgroupsLookupItemHdrSize path.length).bind (checkedAdd · 2))
    .overflow
  let size ← okOr (checkedAdd size itemSize) .overflow
  let builder ← LookupBuilder.new (zeros size) 1 0
  let (finished, builder) := (do
    addCgroupsItemWithPath ⟨cgroupLookupOversizedItem, 0, path, [], []⟩ false
    LookupBuilder.finish).run builder
  let n ← finished
  let view ← decodeCgroupsLookupResponse (← readSlice builder.buf 0 n)
  view.rawItem 0

/-- The apps lookup. -/
def appsLookupMethod : LookupMethod UInt32 AppsLookupItemView where
  code := methodAppsLookup
  codec := appsItemCodec
  oversized := pidLookupOversizedItem
  payloadExceeded := pidLookupPayloadExceeded
  status := AppsLookupItemView.status
  echo item := .ok item.pid
  requestSize pids := appsLookupRequestSize pids.length
  nextRequestCount pids := appsLookupNextRequestCount pids.length
  encodeRequest := encodeAppsLookupRequest
  oversizedRequestItem _ := .error (.err .overflow)

/-- The cgroups lookup. -/
def cgroupsLookupMethod : LookupMethod Bytes CgroupsLookupItemView where
  code := methodCgroupsLookup
  codec := cgroupsItemCodec
  oversized := cgroupLookupOversizedItem
  payloadExceeded := cgroupLookupPayloadExceeded
  status := CgroupsLookupItemView.status
  echo item := item.path.asBytes
  requestSize := cgroupsLookupRequestSize
  nextRequestCount := cgroupsLookupNextRequestCount
  encodeRequest := encodeCgroupsLookupRequest
  oversizedRequestItem := cgroupsLookupOversizedRequestItem

/-- `lookup_raw_response_size`. -/
def lookupRawResponseSize (hdrSize itemCount : Nat) (items : List Bytes) : Res NipcError Nat := do
  let dirSize ← okOr (checkedMul itemCount lookupDirEntrySize) .overflow
  let data ← okOr (checkedAdd hdrSize dirSize) .overflow
  items.foldlM (fun data item => okOr (checkedAdd (align8 data) item.length) .overflow) data

namespace Client

variable {σ κ α : Type} [DecidableEq κ]

/-! ### One answer -/

/-- The variables of the loop: the raw items so far, the key that is next, the generation of the
answers, and how many subcalls there were. -/
structure Progress where
  rawItems : List Bytes
  start : Nat
  generation : Option UInt64
  subcalls : Nat

/-- The loop over the items of an answer, from item `index` on: the raw items it takes, and the
first item that did not fit. -/
def takeItems (method : LookupMethod κ α) (view : LookupResponseView) :
    Nat → List κ → Res NipcError (List Bytes × Option Nat)
  | _, [] => .ok ([], none)
  | index, key :: rest => do
    let item ← view.item method.codec (UInt32.ofNat index)
    rejectIf ((← method.echo item) ≠ key) .badLayout
    if method.status item = method.payloadExceeded then return ([], some index)
    else
      let bytes ← view.rawItem (UInt32.ofNat index)
      let (taken, first) ← takeItems method view (index + 1) rest
      return (bytes :: taken, first)

/-- The loop over the items that did not fit. -/
def checkSuffix (method : LookupMethod κ α) (view : LookupResponseView) :
    Nat → List κ → Res NipcError Unit
  | _, [] => .ok ()
  | index, key :: rest => do
    let item ← view.item method.codec (UInt32.ofNat index)
    rejectIf ((← method.echo item) ≠ key ∨ method.status item ≠ method.payloadExceeded) .badLayout
    checkSuffix method view (index + 1) rest

/-- What a lookup makes of an answer: the loop variables after it, and whether an item did not
fit. -/
def acceptAnswer (method : LookupMethod κ α) (reqKeys : List κ) (self : Progress)
    (payload : Bytes) : Res NipcError (Progress × Bool) := do
  let view ← decodeLookupResponse method.codec payload
  rejectIf (view.generation ≠ self.generation.getD view.generation) .badLayout
  rejectIf (view.itemCount ≠ UInt32.ofNat reqKeys.length) .badItemCount
  let (taken, exceeded) ← takeItems method view 0 reqKeys
  let self := { self with
    rawItems := self.rawItems ++ taken
    generation := some view.generation }
  match exceeded with
  | some first =>
    checkSuffix method view first (reqKeys.drop first)
    rejectIf (first = 0) .overflow
    return ({ self with start := self.start + first }, true)
  | none => return ({ self with start := self.start + reqKeys.length }, false)

/-- The end of a lookup: the raw items become one response. The buffer may hold other bytes than
zeros before; `encode_raw_response` writes over all of them. -/
def stitch (method : LookupMethod κ α) (count : Nat) (maxResponseBytes : UInt32)
    (self : Progress) : Res NipcError LookupResponseView := do
  rejectIf (self.rawItems.length ≠ count) .badItemCount
  let size ← lookupRawResponseSize lookupRespHdrSize self.rawItems.length self.rawItems
  rejectIf (size > maxResponseBytes.toNat) .overflow
  let (encoded, buf) := (encodeRawResponse method.codec lookupRespHdrSize
    (self.generation.getD 0) self.rawItems).run (zeros size)
  let n ← encoded
  decodeLookupResponse method.codec (← readSlice buf 0 n)

/-! ### The call -/

/-- `lookup_deadline`, in nanoseconds; the clock has room for every timeout. -/
def lookupDeadline (os : ClientOs σ) (timeoutMs : UInt32) : ClientProg σ Nat := do
  let self ← getClient
  let now ← observed os.now .clock
  return now + (self.resolvedCallTimeout timeoutMs).toNat * Uds.nanosPerMilli

/-- `lookup_remaining_timeout`. -/
def lookupRemainingTimeout (os : ClientOs σ) (deadline : Nat) : ClientProg σ UInt32 := do
  if ← abortRequested os then Prog.fail .aborted
  else
    let now ← observed os.now .clock
    if now ≥ deadline then Prog.fail .timeout
    else return UInt32.ofNat (min (max ((deadline - now) / Uds.nanosPerMilli) 1) Uds.u32Max)

/-- Write a request into the first `size` bytes of the request buffer. -/
def writeRequest (size : Nat) (program : Prog NipcError Bytes Nat) : ClientProg σ Nat := do
  modifyClient fun self => self.requestScratch size
  Prog.zoom (fun world => world.client.requestBuf.take size)
    (fun written world => { world with
      client := { world.client with
        requestBuf := written ++ world.client.requestBuf.drop size } }) program

/-- One subcall, with its entry in the log. -/
def subcall (os : ClientOs σ) (fuel : Nat) (methodCode : UInt16) (start count reqLen : Nat)
    (timeoutMs : UInt32) : ClientProg σ Bytes := do
  let request := (← getClient).requestBuf.take reqLen
  Prog.inspect (rawCallWithRetryTimeout os fuel methodCode reqLen .single timeoutMs)
    fun result => do
      note (.asked start count request result)
      Prog.ofRes result

/-- The rest of a pass, once it is known how many keys to ask for. The counter of subcalls cannot
overflow: every subcall but the last is for at least one key, and keys are counted in 32 bits. -/
def askKeys (method : LookupMethod κ α) (os : ClientOs σ) (fuel : Nat) (keys : List κ)
    (deadline : Nat) (self : Progress) (reqCount reqSize : Nat) :
    ClientProg σ (Progress ⊕ LookupResponseView) := do
  if self.start + reqCount > keys.length then Prog.stop .panic
  else
    let reqKeys := (keys.drop self.start).take reqCount
    let reqLen ← writeRequest reqSize (method.encodeRequest reqKeys)
    let remainingTimeout ← lookupRemainingTimeout os deadline
    let client ← getClient
    if self.subcalls + 1 > client.maxLogicalLookupSubcalls.toNat then Prog.fail .overflow
    else
      let response ← subcall os fuel method.code self.start reqCount reqLen remainingTimeout
      let (self, exceeded) ← Prog.ofRes
        (acceptAnswer method reqKeys { self with subcalls := self.subcalls + 1 } response)
      if exceeded then return .inl self
      else if self.start < keys.length then return .inl self
      else
        let view ← Prog.ofRes
          (stitch method keys.length client.maxLogicalLookupResponseBytes self)
        return .inr view

/-- A key no request can carry: a larger session may help, else the key is answered here. -/
def oversizedKey (method : LookupMethod κ α) (os : ClientOs σ) (fuel : Nat) (keys : List κ)
    (deadline : Nat) (self : Progress) (key : κ) :
    ClientProg σ (Progress ⊕ LookupResponseView) := do
  let oneItemSize ← Prog.ofRes (method.requestSize [key])
  let before ← getClient
  if ← ensureLookupRequestCapacity os fuel oneItemSize then return .inl self
  else
    note (.skipped self.start before.sessionMaxRequestPayloadBytes
      before.transportConfig.maxRequestPayloadBytes)
    let item ← Prog.ofRes (method.oversizedRequestItem key)
    let self := { self with rawItems := self.rawItems ++ [item], start := self.start + 1 }
    if self.start < keys.length then return .inl self
    else
      let client ← getClient
      let (reqCount, reqSize) ← Prog.ofRes
        (method.nextRequestCount (keys.drop self.start) client.sessionMaxRequestPayloadBytes)
      askKeys method os fuel keys deadline self reqCount reqSize

/-- One pass of the loop. -/
def lookupPass (method : LookupMethod κ α) (os : ClientOs σ) (fuel : Nat) (keys : List κ)
    (deadline : Nat) (self : Progress) : ClientProg σ (Progress ⊕ LookupResponseView) := do
  let client ← getClient
  match method.nextRequestCount (keys.drop self.start) client.sessionMaxRequestPayloadBytes,
      keys[self.start]? with
  | .ok (reqCount, reqSize), _ => askKeys method os fuel keys deadline self reqCount reqSize
  | .error (.err .overflow), some key => oversizedKey method os fuel keys deadline self key
  | .error reason, _ => Prog.stop reason

/-- The lookup call of a method. -/
def callLookupWithTimeout (method : LookupMethod κ α) (os : ClientOs σ) (fuel : Nat)
    (keys : List κ) (timeoutMs : UInt32) : ClientProg σ LookupResponseView := do
  let self ← getClient
  Prog.ofRes (self.validateMethod method.code)
  Prog.ofRes (rejectIf (keys.length > self.maxLogicalLookupItems.toNat) .overflow)
  ensureReadyForLogicalLookup os
  let deadline ← lookupDeadline os timeoutMs
  Prog.loop (lookupPass method os fuel keys deadline) fuel ⟨[], 0, none, 0⟩

/-- `call_apps_lookup_with_timeout`. -/
def callAppsLookupWithTimeout (os : ClientOs σ) (fuel : Nat) (pids : List UInt32)
    (timeoutMs : UInt32) : ClientProg σ LookupResponseView :=
  callLookupWithTimeout appsLookupMethod os fuel pids timeoutMs

/-- `call_cgroups_lookup_with_timeout`. -/
def callCgroupsLookupWithTimeout (os : ClientOs σ) (fuel : Nat) (paths : List Bytes)
    (timeoutMs : UInt32) : ClientProg σ LookupResponseView :=
  callLookupWithTimeout cgroupsLookupMethod os fuel paths timeoutMs

end Client

end NetIpc
