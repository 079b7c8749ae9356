/-
This file models the client-side cache of snapshots (`service/raw/cgroups_cache.rs`): a copy
of the items of the last good snapshot and a hash table over them.

What the client's `call_snapshot` obtained is an argument of `refresh`: the payload of a
response, or the error the call ended with. The two probing loops take fuel. The table is
the one of the probing library, with the items numbered as the snapshot lists them, so a
lookup is a search for the first item with the hash and the name.
-/

import Mathlib.Data.Nat.Bitwise
import Mathlib.Data.Nat.Size
import NetIpc.CgroupsSnapshot
import NetIpc.Probing
import NetIpc.RawClient

namespace NetIpc.Cache

open NetIpc.Snapshot (CgroupsItemView CgroupsResponseView)

/-! ### Text -/

/-- How many bytes a character with this first byte has; 0 if no character starts with it. -/
def utf8CharWidth (first : UInt8) : Nat :=
  if first < 0x80 then 1
  else if 0xc2 ≤ first ∧ first ≤ 0xdf then 2
  else if 0xe0 ≤ first ∧ first ≤ 0xef then 3
  else if 0xf0 ≤ first ∧ first ≤ 0xf4 then 4
  else 0

def isContinuation (byte : UInt8) : Bool := byte &&& 192 = 128

/-- The second bytes of a character of three or four bytes. -/
def secondFits (first second : UInt8) : Bool :=
  isContinuation second ∧ (first = 0xe0 → 0xa0 ≤ second) ∧ (first = 0xed → second ≤ 0x9f) ∧
    (first = 0xf0 → 0x90 ≤ second) ∧ (first = 0xf4 → second ≤ 0x8f)

/-- How many bytes are looked at for the first character, and whether there is one. -/
def utf8Head (bytes : Bytes) : Nat × Bool :=
  let byte (index : Nat) := bytes.getD index 0
  match utf8CharWidth (byte 0) with
  | 1 => (1, true)
  | 2 => if isContinuation (byte 1) then (2, true) else (1, false)
  | 3 =>
    if !secondFits (byte 0) (byte 1) then (1, false)
    else if isContinuation (byte 2) then (3, true)
    else (2, false)
  | 4 =>
    if !secondFits (byte 0) (byte 1) then (1, false)
    else if !isContinuation (byte 2) then (2, false)
    else if isContinuation (byte 3) then (4, true)
    else (3, false)
  | _ => (1, false)

/-- The characters of some bytes, with what is not a character marked, in at most `count` parts. -/
def utf8Chunks : (count : Nat) → Bytes → List (Bytes × Bool)
  | 0, _ | _, [] => []
  | count + 1, bytes =>
    let head := utf8Head bytes
    (bytes.take head.1, head.2) :: utf8Chunks count (bytes.drop head.1)

/-- `str::from_utf8` accepts the bytes. -/
def isUtf8 (bytes : Bytes) : Bool := (utf8Chunks bytes.length bytes).all (·.2)

/-- `String::from_utf8_lossy`: what is not a character becomes U+FFFD. -/
def fromUtf8Lossy (bytes : Bytes) : Bytes :=
  (utf8Chunks bytes.length bytes).flatMap fun chunk =>
    if chunk.2 then chunk.1 else [0xef, 0xbf, 0xbd]

/-! ### The cache -/

/-- `CgroupsCacheItem`. -/
structure CgroupsCacheItem where
  hash : UInt32
  options : UInt32
  enabled : UInt32
  name : Bytes
  path : Bytes
  deriving Repr, DecidableEq

/-- `CgroupsHashBucket`. -/
structure CgroupsHashBucket where
  index : UInt32
  used : Bool
  deriving Repr, DecidableEq

/-- `cache_hash_name`. -/
def cacheHashName (name : Bytes) : UInt32 :=
  name.foldl (fun h b => ((h <<< 5) + h) + b.toUInt32) 5381

/-- `CgroupsCache`, without its client and the start of its clock. -/
structure CgroupsCache where
  items : List CgroupsCacheItem
  buckets : List CgroupsHashBucket
  systemdEnabled : UInt32
  generation : UInt64
  populated : Bool
  refreshSuccessCount : UInt32
  refreshFailureCount : UInt32
  lastRefreshTs : UInt64
  deriving Repr, DecidableEq

/-- `CgroupsCache::new`. -/
def CgroupsCache.new : CgroupsCache := ⟨[], [], 0, 0, false, 0, 0, 0⟩

/-- The text of a view as an owned string. -/
def ownedText (text : StrView) : Res NipcError Bytes := do
  let bytes ← text.asBytes
  return if isUtf8 bytes then bytes else fromUtf8Lossy bytes

/-- The copy of an item. -/
def ownedItem (view : CgroupsResponseView) (index : Nat) : Res NipcError CgroupsCacheItem := do
  let iv ← view.item (UInt32.ofNat index)
  let name ← ownedText iv.name
  let path ← ownedText iv.path
  return ⟨iv.hash, iv.options, iv.enabled, name, path⟩

/-- `call_snapshot`, from the payload it receives, and the copies of the items. -/
def fetch (answer : Except NipcError Bytes) :
    Res NipcError (CgroupsResponseView × List CgroupsCacheItem) := do
  let payload ← answer.mapError Stop.err
  let view ← CgroupsResponseView.decode payload
  let items ← collectFrom (ownedItem view) 0 view.itemCount.toNat
  return (view, items)

/-- `buckets[slot as usize]`. -/
def bucketAt (buckets : List CgroupsHashBucket) (slot : UInt32) : Res NipcError CgroupsHashBucket :=
  match buckets[slot.toNat]? with
  | some bucket => .ok bucket
  | none => .error .panic

/-- Where the search for a key starts. -/
def homeSlot (mask hash : UInt32) (name : Bytes) : UInt32 := (hash ^^^ cacheHashName name) &&& mask

/-- The first slot from `slot` on that is not used. -/
def freeSlot (buckets : List CgroupsHashBucket) (mask : UInt32) :
    (fuel : Nat) → (slot : UInt32) → Res NipcError UInt32
  | 0, _ => .error .fuel
  | fuel + 1, slot => do
    let bucket ← bucketAt buckets slot
    if bucket.used then freeSlot buckets mask fuel ((slot + 1) &&& mask) else return slot

/-- The loop that enters the items from `index` on. -/
def enterItems (fuel : Nat) (mask : UInt32) : (index : Nat) → List CgroupsCacheItem →
    List CgroupsHashBucket → Res NipcError (List CgroupsHashBucket)
  | _, [], buckets => .ok buckets
  | index, item :: rest, buckets => do
    let slot ← freeSlot buckets mask fuel (homeSlot mask item.hash item.name)
    enterItems fuel mask (index + 1) rest (buckets.set slot.toNat ⟨UInt32.ofNat index, true⟩)

/-- `(new_items.len() as u32) * 2`, rounded up. -/
def bucketCount (items : List CgroupsCacheItem) : UInt32 :=
  nextPowerOf2U32 (UInt32.ofNat items.length * 2)

/-- The buckets `refresh` builds. -/
def buildBuckets (fuel : Nat) (items : List CgroupsCacheItem) :
    Res NipcError (List CgroupsHashBucket) :=
  if items = [] then .ok []
  else enterItems fuel (bucketCount items - 1) 0 items
    (List.replicate (bucketCount items).toNat ⟨0, false⟩)

namespace CgroupsCache

/-- `CgroupsCache::refresh`, with what the call obtained and the milliseconds on the clock. -/
def refresh (fuel : Nat) (answer : Except NipcError Bytes) (elapsed : UInt64) :
    Prog NipcError CgroupsCache Bool :=
  Prog.inspect (Prog.ofRes (fetch answer)) fun
    | .ok (view, newItems) => do
      let buckets ← Prog.ofRes (buildBuckets fuel newItems)
      Prog.modify fun cache => { cache with
        items := newItems
        buckets
        systemdEnabled := view.systemdEnabled
        generation := view.generation
        populated := true
        refreshSuccessCount := cache.refreshSuccessCount + 1
        lastRefreshTs := elapsed }
      return true
    | .error (.err _) => do
      Prog.modify fun cache => { cache with refreshFailureCount := cache.refreshFailureCount + 1 }
      return false
    | .error reason => Prog.stop reason

/-- The item a bucket points to. -/
def itemAt (cache : CgroupsCache) (index : UInt32) : Res NipcError CgroupsCacheItem :=
  match cache.items[index.toNat]? with
  | some item => .ok item
  | none => .error .panic

/-- The probing loop of `CgroupsCache::lookup`. -/
def lookupFrom (cache : CgroupsCache) (mask hash : UInt32) (name : Bytes) :
    (fuel : Nat) → (slot : UInt32) → Res NipcError (Option CgroupsCacheItem)
  | 0, _ => .error .fuel
  | fuel + 1, slot => do
    let bucket ← bucketAt cache.buckets slot
    if bucket.used then
      let item ← cache.itemAt bucket.index
      if item.hash = hash ∧ item.name = name then return some item
      else lookupFrom cache mask hash name fuel ((slot + 1) &&& mask)
    else return none

/-- `CgroupsCache::lookup`. -/
def lookup (cache : CgroupsCache) (fuel : Nat) (hash : UInt32) (name : Bytes) :
    Res NipcError (Option CgroupsCacheItem) :=
  if cache.populated = false then .ok none
  else if cache.buckets ≠ [] then
    let mask := UInt32.ofNat (cache.buckets.length - 1)
    cache.lookupFrom mask hash name fuel (homeSlot mask hash name)
  else .ok (cache.items.find? fun item => item.hash = hash ∧ item.name = name)

/-- `CgroupsCache::close`. -/
def close : Prog NipcError CgroupsCache Unit := Prog.modify fun cache =>
  { cache with items := [], buckets := [], populated := false }

end CgroupsCache

/-! ### Runs -/

/-- What is done with a cache. -/
inductive Step where
  | refresh (answer : Except NipcError Bytes) (elapsed : UInt64)
  | close

def Step.perform (fuel : Nat) : Step → Prog NipcError CgroupsCache Unit
  | .refresh answer elapsed => do
    let _ ← CgroupsCache.refresh fuel answer elapsed
    return ()
  | .close => CgroupsCache.close

def perform (fuel : Nat) : List Step → Prog NipcError CgroupsCache Unit
  | [] => pure ()
  | step :: rest => do
    step.perform fuel
    perform fuel rest

/-! ### The last good snapshot -/

/-- The items a call obtained; none if it failed, or the payload or an item in it is malformed. -/
def received (answer : Except NipcError Bytes) : Option (List CgroupsCacheItem) :=
  match fetch answer with
  | .ok (_, items) => some items
  | .error _ => none

/-- The items of the last good snapshot after a step. -/
def lastGood (before : Option (List CgroupsCacheItem)) : Step → Option (List CgroupsCacheItem)
  | .refresh answer _ => (received answer).or before
  | .close => none

end NetIpc.Cache
