/-
This file models the response builder that both lookup methods share, and the
dispatch loop that runs a handler on it.

The builder fills a caller's buffer item by item. It reserves space for the
placeholders of the keys that are still to come; an item that does not fit is
replaced by a placeholder, and after the first one of a batch every later item is
a placeholder too. The two lookup methods differ in the bytes of an item and in
the order of a few checks, so the control flow is written once, over the
programs that write an item.

The buffer is a `Laid` container. `placeItem_ok` and `placeItem_error` say what
placing one item does to it: it is pushed, or the container is untouched.
-/

import NetIpc.Response

namespace NetIpc

variable {α : Type}

/-! ### Space reserved for placeholders -/

/-- The backward loop of `payload_exceeded_suffix_bytes_from_lens`: entry `i` is the space for the
placeholders from `i` on, each but the last rounded up. -/
def suffixSums : List Nat → Res NipcError (List Nat)
  | [] => .ok [0]
  | len :: rest => do
    let sums ← suffixSums rest
    let next := sums.headD 0
    let itemCost ← (if next > 0 then
      (if len + 7 < 2 ^ 32 then .ok (align8 len) else .error (.err .overflow)) else .ok len)
    rejectIf (itemCost + next ≥ 2 ^ 32) .overflow
    return (itemCost + next) :: sums

/-- The forward loop of `payload_exceeded_suffix_bytes_from_lens`. -/
def checkLens : List Nat → Res NipcError Unit
  | [] => .ok ()
  | len :: rest => do
    let _ ← checkedU32 len
    checkLens rest

/-- `payload_exceeded_suffix_bytes_from_lens`. -/
def payloadExceededSuffixBytesFromLens (itemLens : List Nat) : Res NipcError (List Nat) := do
  let _ ← okOr (checkedAdd itemLens.length 1) .overflow
  checkLens itemLens
  suffixSums itemLens

/-- `payload_exceeded_suffix_fits`. -/
def payloadExceededSuffixFits (bufLen dataOffset : Nat) (suffixBytes : List Nat)
    (firstIndex maxItems : Nat) : Bool :=
  if suffixBytes.length ≠ maxItems + 1 then true
  else if firstIndex > maxItems then true
  else if dataOffset > usizeMax - 7 then false
  else if align8 dataOffset > bufLen then false
  else suffixBytes.getD firstIndex 0 ≤ bufLen - align8 dataOffset

/-- `payload_exceeded_fixed_suffix_fits`. -/
def payloadExceededFixedSuffixFits (bufLen dataOffset itemLen firstIndex maxItems : Nat) : Bool :=
  if firstIndex > maxItems then true
  else if dataOffset > usizeMax - 7 then false
  else if align8 dataOffset > bufLen then false
  else if maxItems - firstIndex = 0 then true
  else
    match checkedAdd itemLen 7 with
    | none => false
    | some _ =>
      match checkedMul (maxItems - firstIndex - 1) (align8 itemLen) with
      | none => false
      | some tailBytes =>
        match checkedAdd itemLen tailBytes with
        | none => false
        | some needed => needed ≤ bufLen - align8 dataOffset

/-! ### The builder -/

/-- `CgroupsLookupBuilder` and `AppsLookupBuilder`; the first has no fixed placeholder length. -/
structure LookupBuilder where
  buf : Bytes
  generation : UInt64
  itemCount : UInt32
  maxItems : UInt32
  dataOffset : Nat
  error : Option NipcError
  payloadExceededSuffix : Bool
  payloadExceededSuffixBytes : List Nat
  payloadExceededFixedItemLen : Option Nat
  deriving Repr, DecidableEq

namespace LookupBuilder

/-- `new` of the two builders; a buffer without room for the directory is a panic. -/
def new (buf : Bytes) (maxItems : UInt32) (generation : UInt64) : Res NipcError LookupBuilder :=
  match (checkedMul maxItems.toNat lookupDirEntrySize).bind (checkedAdd lookupRespHdrSize ·) with
  | none => .error .panic
  | some dataOffset =>
    if buf.length ≥ dataOffset then
      .ok {
        buf := buf
        generation := generation
        itemCount := 0
        maxItems := maxItems
        dataOffset := dataOffset
        error := none
        payloadExceededSuffix := false
        payloadExceededSuffixBytes := []
        payloadExceededFixedItemLen := none }
    else .error .panic

/-- `set_generation`. -/
def setGeneration (generation : UInt64) : Prog NipcError LookupBuilder Unit :=
  Prog.modify fun self => { self with generation }

/-- `set_payload_exceeded_item_lens`. -/
def setPayloadExceededItemLens (itemLens : List Nat) : Prog NipcError LookupBuilder Unit :=
  match payloadExceededSuffixBytesFromLens itemLens with
  | .ok suffixBytes => Prog.modify fun self =>
    { self with
      payloadExceededSuffixBytes := suffixBytes
      payloadExceededFixedItemLen := none }
  | .error (.err error) => Prog.modify fun self => { self with error := some error }
  | .error reason => Prog.stop reason

/-- `payload_exceeded_suffix_fits` of the builder, for the items after the one being added. -/
def suffixFits (self : LookupBuilder) (dataOffset : Nat) : Bool :=
  match self.payloadExceededFixedItemLen with
  | some itemLen => payloadExceededFixedSuffixFits self.buf.length dataOffset itemLen
      (self.itemCount.toNat + 1) self.maxItems.toNat
  | none => payloadExceededSuffixFits self.buf.length dataOffset self.payloadExceededSuffixBytes
      (self.itemCount.toNat + 1) self.maxItems.toNat

/-- Work on the builder's buffer. -/
def onBuf (program : Prog NipcError Bytes α) : Prog NipcError LookupBuilder α :=
  Prog.zoom (fun builder => builder.buf) (fun buf builder => { builder with buf }) program

/-- `self.error = Some(error); return Err(error)`. -/
def noteError (error : NipcError) : Prog NipcError LookupBuilder α := do
  Prog.modify fun self => { self with error := some error }
  Prog.fail error

/-- Note the error of a program before returning it. -/
def noting (program : Prog NipcError LookupBuilder α) : Prog NipcError LookupBuilder α :=
  Prog.inspect program fun
    | .error (.err error) => noteError error
    | other => Prog.ofRes other

/-- Where the directory entry of the item being added stands. -/
def dirEntry (itemCount : UInt32) : Res NipcError Nat := do
  let dirOffset ← okOr (checkedMul itemCount.toNat lookupDirEntrySize) .overflow
  okOr (checkedAdd lookupRespHdrSize dirOffset) .overflow

/-- Write the directory entry of the item being added. The four places of the source that do this
differ in whether an error is noted; the ones that note it check both words before writing. -/
def recordItem (noted : Bool) (itemCount : UInt32) (itemStart itemSize : Nat) :
    Prog NipcError LookupBuilder Unit :=
  if noted then do
    let dir ← noting (Prog.ofRes (dirEntry itemCount))
    let start ← noting (Prog.ofRes (checkedU32 itemStart))
    let size ← noting (Prog.ofRes (checkedU32 itemSize))
    onBuf (putU32 dir start)
    onBuf (putU32 (dir + 4) size)
  else do
    let dir ← Prog.ofRes (dirEntry itemCount)
    let start ← Prog.ofRes (checkedU32 itemStart)
    onBuf (putU32 dir start)
    let size ← Prog.ofRes (checkedU32 itemSize)
    onBuf (putU32 (dir + 4) size)

/-- Zero the padding, write the item into `buf[item_start..item_end]` and its directory entry.
An error of `header` is noted, one of `body`, which returns the item's size, is not. -/
def writeItem (noted : Bool) (dataOffset : Nat) (itemCount : UInt32) (itemStart itemEnd : Nat)
    (header : Prog NipcError Bytes Unit) (body : Prog NipcError Bytes Nat) :
    Prog NipcError LookupBuilder Unit := do
  onBuf (if itemStart > dataOffset then fillZero dataOffset itemStart else pure ())
  noting (onBuf (onSlice itemStart itemEnd header))
  let itemSize ← onBuf (onSlice itemStart itemEnd body)
  recordItem noted itemCount itemStart itemSize

/-- The common end of the `add` functions: write the item and count it. -/
def placeItem (noted : Bool) (itemStart itemEnd : Nat) (header : Prog NipcError Bytes Unit)
    (body : Prog NipcError Bytes Nat) : Prog NipcError LookupBuilder Unit := do
  let self ← Prog.get
  writeItem noted self.dataOffset self.itemCount itemStart itemEnd header body
  Prog.modify fun self =>
    { self with dataOffset := itemEnd, itemCount := self.itemCount + 1, error := none }

/-- `add_non_known_item` of the two builders. -/
def addNonKnown (noted : Bool) (itemSize : Res NipcError Nat) (header : Prog NipcError Bytes Unit)
    (body : Prog NipcError Bytes Nat) : Prog NipcError LookupBuilder Unit := do
  let self ← Prog.get
  if self.itemCount ≥ self.maxItems then
    noteError .overflow
  else
    let itemStart := align8 self.dataOffset
    let itemSize ← noting (Prog.ofRes itemSize)
    let itemEnd ← noting (Prog.ofRes (okOr (checkedAdd itemStart itemSize) .overflow))
    if itemEnd > self.buf.length then
      noteError .overflow
    else
      placeItem noted itemStart itemEnd header body

/-- `note_item_overflow` of the two builders. -/
def noteItemOverflow (oversized exceeded : Prog NipcError LookupBuilder Unit) :
    Prog NipcError LookupBuilder Unit := do
  let self ← Prog.get
  if self.itemCount = 0 then
    oversized
  else
    Prog.modify fun self => { self with payloadExceededSuffix := true }
    exceeded

/-- A full item before it is written: its size and the programs that write it. -/
structure ItemPlan where
  itemSize : Nat
  header : Prog NipcError Bytes Unit
  body : Prog NipcError Bytes Nat

/-- Place a planned item if it fits together with the placeholders still to come. -/
def placePlan (noted : Bool) (plan : ItemPlan) (overflow : Prog NipcError LookupBuilder Unit) :
    Prog NipcError LookupBuilder Unit := do
  let self ← Prog.get
  let itemStart := align8 self.dataOffset
  match checkedAdd itemStart plan.itemSize with
  | none => overflow
  | some itemEnd =>
    if itemEnd ≤ self.buf.length ∧ self.suffixFits itemEnd then
      placeItem noted itemStart itemEnd plan.header plan.body
    else overflow

/-- The rest of `add` for a KNOWN item: an Overflow of `planned` goes to `overflow`, other errors
are noted. -/
def addKnown (noted : Bool) (planned : Res NipcError ItemPlan)
    (overflow : Prog NipcError LookupBuilder Unit) : Prog NipcError LookupBuilder Unit :=
  match planned with
  | .error (.err .overflow) => overflow
  | .error reason => noting (Prog.stop reason)
  | .ok plan => placePlan noted plan overflow

/-- The rest of `add` for an item that is not KNOWN. -/
def addOther (nonKnown overflow : Prog NipcError LookupBuilder Unit) :
    Prog NipcError LookupBuilder Unit :=
  Prog.inspect nonKnown fun
    | .error (.err .overflow) => overflow
    | other => Prog.ofRes other

/-- `add` of the two builders. `check` is what is validated before the status is looked at,
`planned` what is computed for a KNOWN item. -/
def addItem (noted known : Bool) (check : Res NipcError Unit) (planned : Res NipcError ItemPlan)
    (nonKnown exceeded overflow : Prog NipcError LookupBuilder Unit) :
    Prog NipcError LookupBuilder Unit := do
  let self ← Prog.get
  if self.payloadExceededSuffix then
    exceeded
  else if self.itemCount ≥ self.maxItems then
    noteError .overflow
  else
    noting (Prog.ofRes check)
    if known then addKnown noted planned overflow else addOther nonKnown overflow

/-- `finish` of the two builders. -/
def finish : Prog NipcError LookupBuilder Nat := do
  let self ← Prog.get
  onBuf (finishLookupResponse lookupRespHdrSize self.itemCount self.dataOffset self.generation)

end LookupBuilder

/-! ### Dispatch -/

/-- What a handler may do with its builder. -/
inductive BuilderCall (item : Type) where
  | add (item : item)
  | setGeneration (generation : UInt64)

/-- A handler: the calls it makes for a request, and what it returns. -/
abbrev Handler (request item : Type) := request → List (BuilderCall item) × Bool

/-- The handler's calls in order, going on after an error; the result is what was added. -/
def runCalls {item : Type} (add : item → Prog NipcError LookupBuilder Unit) :
    List (BuilderCall item) → Prog NipcError LookupBuilder (List item)
  | [] => pure []
  | .setGeneration generation :: rest => do
    LookupBuilder.setGeneration generation
    runCalls add rest
  | .add item :: rest => Prog.inspect (add item) fun
    | .ok () => do
      let added ← runCalls add rest
      return item :: added
    | .error (.err _) => runCalls add rest
    | .error reason => Prog.stop reason

/-- The end of a dispatch: refuse what the handler refused or left incomplete, else finish. -/
def finishDispatch (accepted : Bool) (itemCount : UInt32) : Prog NipcError LookupBuilder Nat := do
  let self ← Prog.get
  if accepted = false then
    Prog.fail (self.error.getD .handlerFailed)
  else
    match self.error with
    | some error => Prog.fail error
    | none =>
      if self.itemCount ≠ itemCount then Prog.fail .badItemCount else LookupBuilder.finish

/-- Run a program on a builder that borrows the buffer. -/
def withBuilder (builder : LookupBuilder) (program : Prog NipcError LookupBuilder α) :
    Prog NipcError Bytes α := fun _ =>
  let (result, after) := program.run builder
  (result, after.buf)

/-- The frame of `dispatch_cgroups_lookup` and `dispatch_apps_lookup` around what is done with the
builder. -/
def dispatchWith {request α : Type} (decode : Bytes → Res NipcError request)
    (itemCount : request → UInt32) (prepare : request → Prog NipcError LookupBuilder Unit)
    (req : Bytes) (handle : request → Prog NipcError LookupBuilder α) : Prog NipcError Bytes α := do
  let request ← Prog.ofRes (decode req)
  let minRequired ← Prog.ofRes
    (okOr (lookupDataOffset lookupRespHdrSize (itemCount request)).toOption .overflow)
  let resp ← Prog.get
  Prog.ofRes (rejectIf (resp.length < minRequired) .overflow)
  let builder ← Prog.ofRes (LookupBuilder.new resp (itemCount request) 0)
  withBuilder builder (do
    prepare request
    handle request)

/-- Both dispatches, with the items the handler added. -/
def dispatchTraced {request item : Type} (decode : Bytes → Res NipcError request)
    (itemCount : request → UInt32) (prepare : request → Prog NipcError LookupBuilder Unit)
    (add : item → Prog NipcError LookupBuilder Unit) (req : Bytes)
    (handler : Handler request item) : Prog NipcError Bytes (Nat × List item) :=
  dispatchWith decode itemCount prepare req fun request => do
    let added ← runCalls add (handler request).1
    let size ← finishDispatch (handler request).2 (itemCount request)
    return (size, added)

namespace LookupBuilder

/-! ### What a program may change before it commits an item -/

/-- Between two states of the builder only the error and the buffer inside `area` changed. -/
structure Frames (area : Nat → Prop) (before after : LookupBuilder) : Prop where
  others : after = { before with buf := after.buf, error := after.error }
  size : after.buf.length = before.buf.length
  same : ∀ index, ¬ area index → after.buf[index]? = before.buf[index]?

/-- A program frames the builder, however it ends. -/
def Framed (area : Nat → Prop) (program : Prog NipcError LookupBuilder α) : Prop :=
  ∀ builder, Frames area builder (program.run builder).2

section Framing

variable {β : Type} {area : Nat → Prop}

theorem Frames.refl (builder : LookupBuilder) : Frames area builder builder :=
  ⟨rfl, rfl, fun _ _ => rfl⟩

theorem Frames.trans {first second third : LookupBuilder} (one : Frames area first second)
    (two : Frames area second third) : Frames area first third where
  others := by
    rw [two.others, one.others]
  size := two.size.trans one.size
  same := fun index outside => (two.same index outside).trans (one.same index outside)

theorem framed_ofRes (result : Res NipcError α) : Framed area (Prog.ofRes result) :=
  fun builder => Frames.refl builder

theorem framed_pure (value : α) : Framed area (pure value) :=
  fun builder => Frames.refl builder

theorem Framed.bind {program : Prog NipcError LookupBuilder α}
    {next : α → Prog NipcError LookupBuilder β} (first : Framed area program)
    (second : ∀ value, Framed area (next value)) : Framed area (program >>= next) := by
  intro builder
  have start := first builder
  rw [Prog.run_bind]
  cases ran : program.run builder with
  | mk outcome after =>
    rw [ran] at start
    cases outcome with
    | ok value => exact start.trans (second value after)
    | error reason => exact start

theorem framed_onBuf {program : Prog NipcError Bytes α} (touches : Touches area program) :
    Framed area (onBuf program) :=
  fun builder => ⟨rfl, (touches builder.buf).1, (touches builder.buf).2⟩

theorem Framed.noting {program : Prog NipcError LookupBuilder α} (framed : Framed area program) :
    Framed area (noting program) := by
  intro builder
  have start := framed builder
  rw [LookupBuilder.noting, Prog.run_inspect]
  cases ran : program.run builder with
  | mk outcome after =>
    rw [ran] at start
    cases outcome with
    | ok value => exact start
    | error reason =>
      cases reason with
      | err error => exact start.trans ⟨rfl, rfl, fun _ _ => rfl⟩
      | panic => exact start
      | fuel => exact start

@[simp] theorem noting_ok_bind (value : α) (next : α → Prog NipcError LookupBuilder β) :
    LookupBuilder.noting (Prog.ofRes (.ok value)) >>= next = next value := rfl

theorem dirEntry_eq (itemCount : UInt32) : dirEntry itemCount = .ok (16 + 8 * itemCount.toNat) := by
  have bound := itemCount.toNat_lt
  rw [dirEntry, lookupDirEntrySize, lookupRespHdrSize, mul_bind (by omega),
    okOr_checkedAdd (by omega), Nat.mul_comm]

theorem framed_recordItem (noted : Bool) (itemCount : UInt32) (itemStart itemSize : Nat)
    (slot : ∀ index, 16 + 8 * itemCount.toNat ≤ index → index < 16 + 8 * itemCount.toNat + 8 →
      area index) :
    Framed area (recordItem noted itemCount itemStart itemSize) := by
  have word (off : Nat) (value : UInt32) (low : 16 + 8 * itemCount.toNat ≤ off)
      (high : off + 4 ≤ 16 + 8 * itemCount.toNat + 8) :
      Framed area (onBuf (putU32 off value)) := by
    refine framed_onBuf (touches_write _ _ fun index start stop => ?_)
    rw [length_leBytes] at stop
    exact slot index (by omega) (by omega)
  rw [recordItem, dirEntry_eq, noting_ok_bind, Prog.ofRes_ok_bind]
  cases noted with
  | true =>
    refine (framed_ofRes _).noting.bind fun start => (framed_ofRes _).noting.bind fun size => ?_
    exact (word _ _ (by omega) (by omega)).bind fun _ => word _ _ (by omega) (by omega)
  | false =>
    refine (framed_ofRes _).bind fun start => (word _ _ (by omega) (by omega)).bind fun _ => ?_
    exact (framed_ofRes _).bind fun size => word _ _ (by omega) (by omega)

theorem framed_writeItem (noted : Bool) (dataOffset : Nat) (itemCount : UInt32)
    (itemStart itemEnd : Nat) (header : Prog NipcError Bytes Unit)
    (body : Prog NipcError Bytes Nat) (order : dataOffset ≤ itemStart)
    (headerTouches : Touches (fun _ => True) header) (bodyTouches : Touches (fun _ => True) body)
    (slot : ∀ index, 16 + 8 * itemCount.toNat ≤ index → index < 16 + 8 * itemCount.toNat + 8 →
      area index) (free : ∀ index, dataOffset ≤ index → area index) :
    Framed area (writeItem noted dataOffset itemCount itemStart itemEnd header body) := by
  rw [writeItem]
  refine (framed_onBuf ((touches_fillZero _ _ fun index low _ => free index low).ite
    (touches_pure _))).bind fun _ => ?_
  refine (framed_onBuf (touches_onSlice _ _ _ headerTouches
    fun index low _ => free index (by omega))).noting.bind fun _ => ?_
  refine (framed_onBuf (touches_onSlice _ _ _ bodyTouches
    fun index low _ => free index (by omega))).bind fun _ => ?_
  exact framed_recordItem _ _ _ _ slot

end Framing

/-! ### The builder as a container -/

/-- The builder over a buffer of `size` bytes holds exactly the items with these bytes. -/
structure Holds (size : Nat) (maxItems : UInt32) (items : List Bytes)
    (builder : LookupBuilder) : Prop where
  limit : builder.maxItems = maxItems
  itemCount : builder.itemCount.toNat = items.length
  few : items.length ≤ maxItems.toNat
  dataOffset : builder.dataOffset = 16 + 8 * maxItems.toNat + endFrom 0 items
  size : builder.buf.length = size
  laid : ∃ tail, Laid 16 maxItems.toNat (16 + 8 * maxItems.toNat) builder.buf items tail
  absolute : AbsRepresentable (16 + 8 * maxItems.toNat) items

/-- What a builder holds does not depend on its other fields. -/
theorem Holds.other {size : Nat} {maxItems : UInt32} {items : List Bytes}
    {before after : LookupBuilder} (holds : Holds size maxItems items before)
    (same : (after.buf, after.itemCount, after.maxItems, after.dataOffset) =
      (before.buf, before.itemCount, before.maxItems, before.dataOffset)) :
    Holds size maxItems items after := by
  simp only [Prod.mk.injEq] at same
  obtain ⟨buf, itemCount, limit, dataOffset⟩ := same
  obtain ⟨limited, counted, few, offset, total, laid, absolute⟩ := holds
  exact ⟨limit.trans limited, by rw [itemCount, counted], few, dataOffset.trans offset,
    by rw [buf, total], by rwa [buf], absolute⟩

/-- A builder that changed only outside its items still holds them. -/
theorem Holds.frame {size : Nat} {maxItems : UInt32} {items : List Bytes}
    {before after : LookupBuilder} (holds : Holds size maxItems items before)
    (more : items.length < maxItems.toNat)
    (frames : Frames (fun index => before.dataOffset ≤ index ∨
      16 + 8 * before.itemCount.toNat ≤ index ∧ index < 16 + 8 * before.itemCount.toNat + 8)
      before after) : Holds size maxItems items after := by
  obtain ⟨tail, laid⟩ := holds.laid
  have offset := holds.dataOffset
  have counted := holds.itemCount
  have outside (start len : Nat) (stop : start + len ≤ 16 + 8 * items.length ∨
      16 + 8 * items.length + 8 ≤ start ∧ start + len ≤ before.dataOffset) :
      slice after.buf start len = slice before.buf start len := by
    refine slice_congr fun index low high => frames.same index ?_
    rw [counted]
    omega
  constructor
  · rw [frames.others]
    exact holds.limit
  · rw [frames.others]
    exact holds.itemCount
  · exact holds.few
  · rw [frames.others]
    exact holds.dataOffset
  · rw [frames.size, holds.size]
  · exact laid.frame frames.size (outside _ _ (by omega)) (outside _ _ (by omega))
  · exact holds.absolute

/-! ### Placing one item -/

/-- The two programs write `image` into a slice of its length, whatever was there; a size that
does not fit a field may stop them. -/
structure Writes (header : Prog NipcError Bytes Unit) (body : Prog NipcError Bytes Nat)
    (image : Bytes) : Prop where
  headerWriter : Writer header
  bodyWriter : Writer body
  returns : body.Returns (· = image.length)
  run : image.length < 2 ^ 32 → ∀ part, part.length = image.length →
    ∃ middle, header.run part = (.ok (), middle) ∧ body.run middle = (.ok image.length, image)

/-- An item of `len` bytes can be placed after `items`. -/
structure Room (size maxItems : Nat) (items : List Bytes) (len : Nat) : Prop where
  more : items.length < maxItems
  inside : 16 + 8 * maxItems + align8 (endFrom 0 items) + len ≤ size
  startSmall : 16 + 8 * maxItems + align8 (endFrom 0 items) < 2 ^ 32
  sizeSmall : len < 2 ^ 32

/-- The builder after an item with these bytes was placed. -/
def pushed (builder : LookupBuilder) (maxItems : Nat) (items : List Bytes) (image : Bytes) :
    LookupBuilder :=
  { builder with
    buf := pushImage 16 maxItems (16 + 8 * maxItems) builder.buf items image
    dataOffset := align8 builder.dataOffset + image.length
    itemCount := builder.itemCount + 1
    error := none }

theorem run_onBuf {program : Prog NipcError Bytes α} {builder : LookupBuilder}
    {result : Res NipcError α} {after : Bytes} (ran : program.run builder.buf = (result, after)) :
    (onBuf program).run builder = (result, { builder with buf := after }) := by
  rw [onBuf, Prog.run_zoom, ran]

theorem run_noting_ok {program : Prog NipcError LookupBuilder α} {builder after : LookupBuilder}
    {value : α} (ran : program.run builder = (.ok value, after)) :
    (noting program).run builder = (.ok value, after) := by
  rw [noting, Prog.run_inspect, ran]
  rfl

theorem run_noting_eq_ok {program : Prog NipcError LookupBuilder α} {builder after : LookupBuilder}
    {value : α} (ran : (noting program).run builder = (.ok value, after)) :
    program.run builder = (.ok value, after) := by
  rw [noting, Prog.run_inspect] at ran
  cases first : program.run builder with
  | mk outcome middle =>
    rw [first] at ran
    cases outcome with
    | ok inner => exact ran
    | error reason => cases reason <;> simp [noteError, Prog.run_bind] at ran

theorem returns_onBuf {holds : α → Prop} {program : Prog NipcError Bytes α}
    (returns : program.Returns holds) : (onBuf program).Returns holds := by
  intro builder value after ran
  rw [onBuf, Prog.run_zoom] at ran
  exact returns builder.buf value _ (Prod.ext (Prod.mk.inj ran).1 rfl)

/-- A directory entry that was written fitted its words. -/
theorem recordItem_eq_ok {noted : Bool} {itemCount : UInt32} {itemStart itemSize : Nat}
    {builder after : LookupBuilder}
    (ran : (recordItem noted itemCount itemStart itemSize).run builder = (.ok (), after)) :
    itemStart < 2 ^ 32 ∧ itemSize < 2 ^ 32 := by
  rw [recordItem, dirEntry_eq, noting_ok_bind, Prog.ofRes_ok_bind] at ran
  cases noted with
  | true =>
    obtain ⟨_, _, start, ran⟩ := Prog.run_bind_eq_ok ran
    obtain ⟨_, _, size, -⟩ := Prog.run_bind_eq_ok ran
    exact ⟨(checkedU32_eq_ok (Prod.mk.inj (run_noting_eq_ok start)).1).1,
      (checkedU32_eq_ok (Prod.mk.inj (run_noting_eq_ok size)).1).1⟩
  | false =>
    obtain ⟨_, start, ran⟩ := Prog.run_ofRes_bind_eq_ok ran
    obtain ⟨_, _, -, ran⟩ := Prog.run_bind_eq_ok ran
    obtain ⟨_, size, -⟩ := Prog.run_ofRes_bind_eq_ok ran
    exact ⟨(checkedU32_eq_ok start).1, (checkedU32_eq_ok size).1⟩

section Placing

variable {size : Nat} {maxItems : UInt32} {items : List Bytes} {builder : LookupBuilder}
  (holds : Holds size maxItems items builder) {header : Prog NipcError Bytes Unit}
  {body : Prog NipcError Bytes Nat} {image : Bytes} (writes : Writes header body image)

include holds

theorem align8_dataOffset : align8 builder.dataOffset =
    16 + 8 * maxItems.toNat + align8 (endFrom 0 items) := by
  rw [holds.dataOffset]
  exact align8_add _ _ (by omega)

theorem Holds.pushed (room : Room size maxItems.toNat items image.length) :
    Holds size maxItems (items ++ [image]) (builder.pushed maxItems.toNat items image) := by
  obtain ⟨tail, laid⟩ := holds.laid
  have few := room.more
  have bound := maxItems.toNat_lt
  have next : endFrom 0 (items ++ [image]) = align8 (endFrom 0 items) + image.length := by
    rw [endFrom_append]
    rfl
  constructor
  · exact holds.limit
  · show (builder.itemCount + 1).toNat = _
    rw [UInt32.toNat_add, holds.itemCount, List.length_append, List.length_singleton]
    exact Nat.mod_eq_of_lt (show items.length + 1 < 2 ^ 32 by omega)
  · rw [List.length_append, List.length_singleton]
    omega
  · show align8 builder.dataOffset + image.length = _
    rw [align8_dataOffset holds, next, Nat.add_assoc]
  · exact (laid.length_push image few (by rw [holds.size]; exact room.inside)).trans holds.size
  · exact ⟨_, laid.push image (by omega) few⟩
  · exact absRepresentable_push holds.absolute (by omega) room.startSmall room.sizeSmall

theorem run_recordItem (noted : Bool) (room : Room size maxItems.toNat items image.length)
    (buf : Bytes) (length : buf.length = size) :
    (recordItem noted builder.itemCount (align8 builder.dataOffset) image.length).run
        { builder with buf } =
      (.ok (), { builder with
        buf := splice (splice buf (16 + 8 * items.length)
          (leBytes 4 (16 + 8 * maxItems.toNat + align8 (endFrom 0 items))))
          (16 + 8 * items.length + 4) (leBytes 4 image.length) }) := by
  have more := room.more
  have inside := room.inside
  have first := length_splice buf (16 + 8 * items.length)
    (leBytes 4 (16 + 8 * maxItems.toNat + align8 (endFrom 0 items)))
    (by rw [length_leBytes, length]; omega)
  rw [recordItem, dirEntry_eq, align8_dataOffset holds, checkedU32_of_lt room.startSmall,
    checkedU32_of_lt room.sizeSmall, holds.itemCount]
  simp only [noting_ok_bind, Prog.ofRes_ok_bind, ite_self]
  rw [Prog.run_bind_ok (run_onBuf (run_putU32_ofNat room.startSmall (by dsimp only; omega))),
    run_onBuf (run_putU32_ofNat room.sizeSmall (by rw [first]; omega))]

include writes

/-- With room, the item is placed. -/
theorem placeItem_ok (noted : Bool) (room : Room size maxItems.toNat items image.length) :
    (placeItem noted (align8 builder.dataOffset) (align8 builder.dataOffset + image.length) header
      body).run builder = (.ok (), builder.pushed maxItems.toNat items image) := by
  obtain ⟨tail, laid⟩ := holds.laid
  have length := laid.length
  have inside := room.inside
  have up := le_align8 (endFrom 0 items)
  have start := align8_dataOffset holds
  have offset := holds.dataOffset
  have total := holds.size
  have padded := length_splice builder.buf builder.dataOffset
    (zeros (align8 builder.dataOffset - builder.dataOffset)) (by rw [length_zeros]; omega)
  have padding := run_ite_fillZero (ε := NipcError)
    (show ¬ align8 builder.dataOffset > builder.dataOffset →
      builder.dataOffset = align8 builder.dataOffset by omega) (by omega)
    (show align8 builder.dataOffset ≤ builder.buf.length by omega)
  generalize padEq : splice builder.buf builder.dataOffset
    (zeros (align8 builder.dataOffset - builder.dataOffset)) = first at padded padding
  have partLength : (slice first (align8 builder.dataOffset) image.length).length =
      image.length := length_slice _ _ _ (by omega)
  obtain ⟨middle, headerRan, bodyRan⟩ := writes.run room.sizeSmall _ partLength
  have middleLength : middle.length = image.length := by
    have kept := writes.headerWriter.touches.length
      (slice first (align8 builder.dataOffset) image.length)
    rw [headerRan] at kept
    exact kept.trans partLength
  have headerSlice : (onSlice (align8 builder.dataOffset)
      (align8 builder.dataOffset + image.length) header).run first =
      (.ok (), splice first (align8 builder.dataOffset) middle) := by
    rw [run_onSlice_of_le (by omega) (by omega), Nat.add_sub_cancel_left, headerRan]
  have second := length_splice first (align8 builder.dataOffset) middle (by omega)
  have bodySlice : (onSlice (align8 builder.dataOffset)
      (align8 builder.dataOffset + image.length) body).run
      (splice first (align8 builder.dataOffset) middle) =
      (.ok image.length, splice first (align8 builder.dataOffset) image) := by
    have back := slice_splice_self first middle (align8 builder.dataOffset) (by omega)
    rw [middleLength] at back
    rw [run_onSlice_of_le (by omega) (by omega), Nat.add_sub_cancel_left, back, bodyRan,
      splice_splice_self _ _ _ _ (by omega) middleLength]
  have third := length_splice first (align8 builder.dataOffset) image (by omega)
  have recorded := run_recordItem holds noted room
    (splice first (align8 builder.dataOffset) image) (by omega)
  simp only [placeItem, writeItem]
  rw [Prog.run_bind_ok (Prog.run_get builder), bind_assoc, Prog.run_bind_ok (run_onBuf padding),
    bind_assoc, Prog.run_bind_ok (run_noting_ok (run_onBuf headerSlice)), bind_assoc,
    Prog.run_bind_ok (run_onBuf bodySlice), Prog.run_bind_ok recorded, Prog.run_modify]
  have gap : align8 builder.dataOffset - builder.dataOffset =
      align8 (endFrom 0 items) - endFrom 0 items := by omega
  rw [pushed, pushImage, ← padEq, gap, start, offset]

/-- Without room, placing an item that ends inside the buffer fails and the container stays. -/
theorem placeItem_error (noted : Bool) (more : items.length < maxItems.toNat)
    (inside : align8 builder.dataOffset + image.length ≤ builder.buf.length)
    (noRoom : ¬ Room size maxItems.toNat items image.length) :
    ∃ reason buf error, (placeItem noted (align8 builder.dataOffset)
        (align8 builder.dataOffset + image.length) header body).run builder =
      (.error reason, { builder with buf, error }) ∧
      Holds size maxItems items { builder with buf, error } := by
  have framed : Framed (fun index => builder.dataOffset ≤ index ∨
      16 + 8 * builder.itemCount.toNat ≤ index ∧ index < 16 + 8 * builder.itemCount.toNat + 8)
      (writeItem noted builder.dataOffset builder.itemCount (align8 builder.dataOffset)
        (align8 builder.dataOffset + image.length) header body) :=
    framed_writeItem _ _ _ _ _ _ _ (le_align8 _) writes.headerWriter.touches
      writes.bodyWriter.touches (fun index low high => .inr ⟨low, high⟩) (fun index low => .inl low)
  have frames := framed builder
  simp only [placeItem]
  rw [Prog.run_bind_ok (Prog.run_get builder)]
  cases ran : (writeItem noted builder.dataOffset builder.itemCount (align8 builder.dataOffset)
      (align8 builder.dataOffset + image.length) header body).run builder with
  | mk outcome after =>
    rw [ran] at frames
    cases outcome with
    | error reason =>
      have others : after = { builder with buf := after.buf, error := after.error } := frames.others
      refine ⟨reason, after.buf, after.error, ?_⟩
      rw [← others]
      exact ⟨Prog.run_bind_error ran, holds.frame more frames⟩
    | ok value =>
      rw [writeItem] at ran
      obtain ⟨_, _, -, ran⟩ := Prog.run_bind_eq_ok ran
      obtain ⟨_, _, -, ran⟩ := Prog.run_bind_eq_ok ran
      obtain ⟨itemSize, _, written, ran⟩ := Prog.run_bind_eq_ok ran
      have same := returns_onBuf (returns_onSlice writes.returns) _ _ _ written
      have small := recordItem_eq_ok ran
      have start := align8_dataOffset holds
      rw [start, holds.size] at inside
      rw [same, start] at small
      exact absurd ⟨more, inside, small.1, small.2⟩ noRoom

end Placing

/-! ### Placeholders -/

/-- What the handler set and what `add` compares with did not change. -/
structure SameSetup (before after : LookupBuilder) : Prop where
  generation : after.generation = before.generation
  suffixBytes : after.payloadExceededSuffixBytes = before.payloadExceededSuffixBytes
  fixedItemLen : after.payloadExceededFixedItemLen = before.payloadExceededFixedItemLen

theorem SameSetup.refl (builder : LookupBuilder) : SameSetup builder builder := ⟨rfl, rfl, rfl⟩

theorem SameSetup.trans {first second third : LookupBuilder} (one : SameSetup first second)
    (two : SameSetup second third) : SameSetup first third :=
  ⟨two.generation.trans one.generation, two.suffixBytes.trans one.suffixBytes,
    two.fixedItemLen.trans one.fixedItemLen⟩

/-- The builder still holds `items`, whatever happened to its other fields. -/
structure Refused (size : Nat) (maxItems : UInt32) (items : List Bytes)
    (before after : LookupBuilder) : Prop where
  holds : Holds size maxItems items after
  setup : SameSetup before after

variable {size : Nat} {maxItems : UInt32} {items : List Bytes} {builder : LookupBuilder}

theorem Refused.trans {first second third : LookupBuilder}
    (one : Refused size maxItems items first second)
    (two : Refused size maxItems items second third) : Refused size maxItems items first third :=
  ⟨two.holds, one.setup.trans two.setup⟩

/-- A program that places `image`, or refuses it when there is no room. -/
structure Places (program : Prog NipcError LookupBuilder Unit) (image : Bytes) : Prop where
  ok : ∀ {size maxItems items builder}, Holds size maxItems items builder →
    Room size maxItems.toNat items image.length →
    program.run builder = (.ok (), builder.pushed maxItems.toNat items image)
  error : ∀ {size maxItems items builder}, Holds size maxItems items builder →
    ¬ Room size maxItems.toNat items image.length →
    ∃ reason after, program.run builder = (.error reason, after) ∧
      Refused size maxItems items builder after

/-- The size computed for an item is the length of its bytes, or overflows with it. -/
def Sizes (itemSize : Res NipcError Nat) (image : Bytes) : Prop :=
  itemSize = .ok image.length ∨
    itemSize = .error (.err .overflow) ∧ usizeMax < image.length

theorem Holds.noted (holds : Holds size maxItems items builder) (error : Option NipcError) :
    Refused size maxItems items builder { builder with error } :=
  ⟨holds.other rfl, rfl, rfl, rfl⟩

theorem Holds.suffixed (holds : Holds size maxItems items builder) :
    Refused size maxItems items builder { builder with payloadExceededSuffix := true } :=
  ⟨holds.other rfl, rfl, rfl, rfl⟩

theorem Holds.full_iff (holds : Holds size maxItems items builder) :
    builder.itemCount ≥ builder.maxItems ↔ ¬ items.length < maxItems.toNat := by
  rw [ge_iff_le, UInt32.le_iff_toNat_le, holds.itemCount, holds.limit, not_lt]

theorem run_noteError (error : NipcError) (builder : LookupBuilder) :
    (noteError error : Prog NipcError LookupBuilder α).run builder =
      (.error (.err error), { builder with error := some error }) := rfl

/-- `add_non_known_item` places its placeholder exactly when there is room. -/
theorem addNonKnown_places {itemSize : Res NipcError Nat} {header : Prog NipcError Bytes Unit}
    {body : Prog NipcError Bytes Nat} {image : Bytes} (noted : Bool)
    (writes : Writes header body image) (sizes : Sizes itemSize image) :
    Places (addNonKnown noted itemSize header body) image where
  ok := by
    intro size maxItems items builder holds room
    have inside := room.inside
    have startSmall := room.startSmall
    have sizeSmall := room.sizeSmall
    have free : ¬ builder.itemCount ≥ builder.maxItems := by
      rw [holds.full_iff]
      exact not_not_intro room.more
    have start := align8_dataOffset holds
    have known : itemSize = .ok image.length := by
      rcases sizes with known | ⟨-, past⟩
      · exact known
      · rw [usizeMax] at past
        omega
    simp only [addNonKnown]
    rw [Prog.run_bind_ok (Prog.run_get builder), if_neg free, known, noting_ok_bind,
      checkedAdd_of_le (by rw [start, usizeMax]; omega), okOr_some, noting_ok_bind,
      if_neg (by rw [holds.size, start]; omega)]
    exact placeItem_ok holds writes noted room
  error := by
    intro size maxItems items builder holds noRoom
    simp only [addNonKnown]
    rw [Prog.run_bind_ok (Prog.run_get builder)]
    by_cases full : builder.itemCount ≥ builder.maxItems
    · rw [if_pos full]
      exact ⟨_, _, run_noteError _ _, holds.noted _⟩
    · rw [if_neg full]
      have more := not_not.mp (mt holds.full_iff.mpr full)
      rcases sizes with known | ⟨past, -⟩
      · rw [known, noting_ok_bind]
        cases sum : checkedAdd (align8 builder.dataOffset) image.length with
        | none => exact ⟨_, _, rfl, holds.noted _⟩
        | some itemEnd =>
          obtain ⟨rfl, -⟩ := checkedAdd_eq_some sum
          rw [okOr_some, noting_ok_bind]
          by_cases outside : align8 builder.dataOffset + image.length > builder.buf.length
          · rw [if_pos outside]
            exact ⟨_, _, run_noteError _ _, holds.noted _⟩
          · obtain ⟨reason, buf, error, ran, held⟩ :=
              placeItem_error holds writes noted more (not_lt.mp outside) noRoom
            rw [if_neg outside]
            exact ⟨reason, _, ran, held, rfl, rfl, rfl⟩
      · rw [past]
        exact ⟨_, _, rfl, holds.noted _⟩

/-! ### What an add can do -/

/-- How an add from a builder with `items` may end: refused, or with one allowed item more. -/
inductive Outcome (size : Nat) (maxItems : UInt32) (items : List Bytes) (before : LookupBuilder)
    (allowed : Bytes → Prop) : Res NipcError Unit × LookupBuilder → Prop
  | refused {reason : Stop NipcError} {after : LookupBuilder}
      (kept : Refused size maxItems items before after) :
      Outcome size maxItems items before allowed (.error reason, after)
  | placed {image : Bytes} {after : LookupBuilder} (isAllowed : allowed image)
      (holds : Holds size maxItems (items ++ [image]) after) (setup : SameSetup before after) :
      Outcome size maxItems items before allowed (.ok (), after)

section Adding

variable {size : Nat} {maxItems : UInt32} {items : List Bytes} {builder : LookupBuilder}
  {allowed : Bytes → Prop} {image exceededImage oversizedImage : Bytes}
  {oversized exceeded nonKnown program : Prog NipcError LookupBuilder Unit}

theorem Outcome.mono {other : Bytes → Prop} {ending : Res NipcError Unit × LookupBuilder}
    (outcome : Outcome size maxItems items builder allowed ending)
    (weaker : ∀ image, allowed image → other image) :
    Outcome size maxItems items builder other ending := by
  cases outcome with
  | refused kept => exact .refused kept
  | placed isAllowed holds setup => exact .placed (weaker _ isAllowed) holds setup

/-- An outcome of a run that started after a refused attempt. -/
theorem Outcome.after {middle : LookupBuilder} {ending : Res NipcError Unit × LookupBuilder}
    (kept : Refused size maxItems items builder middle)
    (outcome : Outcome size maxItems items middle allowed ending) :
    Outcome size maxItems items builder allowed ending := by
  cases outcome with
  | refused later => exact .refused (kept.trans later)
  | placed isAllowed holds setup => exact .placed isAllowed holds (kept.setup.trans setup)

theorem sameSetup_pushed (builder : LookupBuilder) (max : Nat) (items : List Bytes)
    (image : Bytes) : SameSetup builder (builder.pushed max items image) := ⟨rfl, rfl, rfl⟩

theorem Places.outcome (places : Places program image)
    (holds : Holds size maxItems items builder) (isAllowed : allowed image) :
    Outcome size maxItems items builder allowed (program.run builder) := by
  by_cases room : Room size maxItems.toNat items image.length
  · rw [places.ok holds room]
    exact .placed isAllowed (holds.pushed room) (sameSetup_pushed _ _ _ _)
  · obtain ⟨reason, after, ran, kept⟩ := places.error holds room
    rw [ran]
    exact .refused kept

theorem Holds.itemCount_eq_zero_iff (holds : Holds size maxItems items builder) :
    builder.itemCount = 0 ↔ items = [] := by
  rw [← UInt32.toNat_inj, holds.itemCount, UInt32.toNat_zero, List.length_eq_zero_iff]

/-- The first item of a response is answered as oversized. -/
theorem run_noteItemOverflow_first (holds : Holds size maxItems items builder)
    (first : items = []) :
    (noteItemOverflow oversized exceeded).run builder = oversized.run builder := by
  rw [noteItemOverflow, Prog.run_bind_ok (Prog.run_get builder),
    if_pos (holds.itemCount_eq_zero_iff.mpr first)]

/-- A later item starts the suffix of exceeded items. -/
theorem run_noteItemOverflow_later (holds : Holds size maxItems items builder)
    (later : items ≠ []) :
    (noteItemOverflow oversized exceeded).run builder =
      exceeded.run { builder with payloadExceededSuffix := true } := by
  rw [noteItemOverflow, Prog.run_bind_ok (Prog.run_get builder),
    if_neg (mt holds.itemCount_eq_zero_iff.mp later), Prog.run_bind_ok (Prog.run_modify _ _)]

theorem noteItemOverflow_outcome (oversizedPlaces : Places oversized oversizedImage)
    (exceededPlaces : Places exceeded exceededImage) (holds : Holds size maxItems items builder)
    (oversizedAllowed : allowed oversizedImage) (exceededAllowed : allowed exceededImage) :
    Outcome size maxItems items builder allowed
      ((noteItemOverflow oversized exceeded).run builder) := by
  by_cases first : items = []
  · rw [run_noteItemOverflow_first holds first]
    exact oversizedPlaces.outcome holds oversizedAllowed
  · rw [run_noteItemOverflow_later holds first]
    exact (exceededPlaces.outcome holds.suffixed.holds exceededAllowed).after holds.suffixed

/-- A planned item ends inside the buffer and leaves room for the placeholders to come. -/
def PlanFits (builder : LookupBuilder) (itemSize : Nat) : Prop :=
  align8 builder.dataOffset + itemSize ≤ usizeMax ∧
    align8 builder.dataOffset + itemSize ≤ builder.buf.length ∧
    builder.suffixFits (align8 builder.dataOffset + itemSize) = true

variable {noted : Bool} {plan : ItemPlan} {overflow : Prog NipcError LookupBuilder Unit}

theorem run_placePlan_fits (fits : builder.PlanFits plan.itemSize) :
    (placePlan noted plan overflow).run builder =
      (placeItem noted (align8 builder.dataOffset) (align8 builder.dataOffset + plan.itemSize)
        plan.header plan.body).run builder := by
  simp only [placePlan]
  rw [Prog.run_bind_ok (Prog.run_get builder), checkedAdd_of_le fits.1]
  dsimp only
  rw [if_pos fits.2]

theorem run_placePlan_over (past : ¬ builder.PlanFits plan.itemSize) :
    (placePlan noted plan overflow).run builder = overflow.run builder := by
  simp only [placePlan]
  rw [Prog.run_bind_ok (Prog.run_get builder)]
  cases sum : checkedAdd (align8 builder.dataOffset) plan.itemSize with
  | none => rfl
  | some itemEnd =>
    obtain ⟨rfl, bound⟩ := checkedAdd_eq_some sum
    dsimp only
    rw [if_neg (fun fits => past ⟨bound, fits⟩)]

theorem placePlan_outcome (writes : Writes plan.header plan.body image)
    (sized : plan.itemSize = image.length) (holds : Holds size maxItems items builder)
    (more : items.length < maxItems.toNat) (isAllowed : allowed image)
    (otherwise : Outcome size maxItems items builder allowed (overflow.run builder)) :
    Outcome size maxItems items builder allowed ((placePlan noted plan overflow).run builder) := by
  by_cases fits : builder.PlanFits plan.itemSize
  · rw [run_placePlan_fits fits, sized]
    by_cases room : Room size maxItems.toNat items image.length
    · rw [placeItem_ok holds writes noted room]
      exact .placed isAllowed (holds.pushed room) (sameSetup_pushed _ _ _ _)
    · obtain ⟨reason, buf, error, ran, held⟩ :=
        placeItem_error holds writes noted more (sized ▸ fits.2.1) room
      rw [ran]
      exact .refused ⟨held, rfl, rfl, rfl⟩
  · rw [run_placePlan_over fits]
    exact otherwise

variable {known : Bool} {check : Res NipcError Unit} {planned : Res NipcError ItemPlan}

/-- In suffix mode nothing of the item is looked at. -/
theorem run_addItem_suffix (suffix : builder.payloadExceededSuffix = true) :
    (addItem noted known check planned nonKnown exceeded overflow).run builder =
      exceeded.run builder := by
  rw [addItem, Prog.run_bind_ok (Prog.run_get builder), if_pos suffix]

theorem run_addItem_full (normal : builder.payloadExceededSuffix = false)
    (full : builder.itemCount ≥ builder.maxItems) :
    (addItem noted known check planned nonKnown exceeded overflow).run builder =
      (.error (.err .overflow), { builder with error := some .overflow }) := by
  rw [addItem, Prog.run_bind_ok (Prog.run_get builder), if_neg (by rw [normal]; decide),
    if_pos full, run_noteError]

/-- Outside suffix mode a checked item goes by its status. -/
theorem run_addItem_checked (normal : builder.payloadExceededSuffix = false)
    (free : ¬ builder.itemCount ≥ builder.maxItems) (checked : check = .ok ()) :
    (addItem noted known check planned nonKnown exceeded overflow).run builder =
      (if known then addKnown noted planned overflow else addOther nonKnown overflow).run
        builder := by
  rw [addItem, Prog.run_bind_ok (Prog.run_get builder), if_neg (by rw [normal]; decide),
    if_neg free, checked, noting_ok_bind]

section Outcomes

variable (holds : Holds size maxItems items builder)

include holds

theorem refused_noting (reason : Stop NipcError) :
    ∃ after, (noting (Prog.stop reason) : Prog NipcError LookupBuilder Unit).run builder =
      (.error reason, after) ∧ Refused size maxItems items builder after := by
  cases reason with
  | err error => exact ⟨_, rfl, holds.noted _⟩
  | panic => exact ⟨_, rfl, holds, SameSetup.refl _⟩
  | fuel => exact ⟨_, rfl, holds, SameSetup.refl _⟩

theorem addKnown_outcome (more : items.length < maxItems.toNat)
    (plans : ∀ plan, planned = .ok plan → Writes plan.header plan.body image ∧
      plan.itemSize = image.length ∧ allowed image)
    (otherwise : Outcome size maxItems items builder allowed (overflow.run builder)) :
    Outcome size maxItems items builder allowed
      ((addKnown noted planned overflow).run builder) := by
  unfold addKnown
  split
  · exact otherwise
  · rename_i reason _
    obtain ⟨after, ran, kept⟩ := refused_noting holds reason
    rw [ran]
    exact .refused kept
  · rename_i plan
    obtain ⟨writes, sized, isAllowed⟩ := plans plan rfl
    exact placePlan_outcome writes sized holds more isAllowed otherwise

theorem addOther_outcome (places : Places nonKnown image) (isAllowed : allowed image)
    (otherwise : ∀ middle, Refused size maxItems items builder middle →
      Outcome size maxItems items middle allowed (overflow.run middle)) :
    Outcome size maxItems items builder allowed ((addOther nonKnown overflow).run builder) := by
  rw [addOther, Prog.run_inspect]
  by_cases room : Room size maxItems.toNat items image.length
  · rw [places.ok holds room]
    exact .placed isAllowed (holds.pushed room) (sameSetup_pushed _ _ _ _)
  · obtain ⟨reason, after, ran, kept⟩ := places.error holds room
    rw [ran]
    dsimp only
    split
    · exact (otherwise after kept).after kept
    · exact .refused kept

end Outcomes

/-- The items `add` may place: in suffix mode the exceeded placeholder, and otherwise, for an item
that passed its checks, one of the two placeholders or the item itself. -/
def Addable (builder : LookupBuilder) (check : Res NipcError Unit) (known : Bool)
    (planned : Res NipcError ItemPlan) (full exceededImage oversizedImage image : Bytes) : Prop :=
  builder.payloadExceededSuffix = true ∧ image = exceededImage ∨
    builder.payloadExceededSuffix = false ∧ check = .ok () ∧
      (image = exceededImage ∨ image = oversizedImage ∨
        image = full ∧ (known = true → ∃ plan, planned = .ok plan))

/-- `add`, from any state the builder can be in. -/
theorem addItem_outcome (holds : Holds size maxItems items builder)
    (oversizedPlaces : Places oversized oversizedImage)
    (exceededPlaces : Places exceeded exceededImage)
    (nonKnownPlaces : check = .ok () → known = false → Places nonKnown image)
    (plans : ∀ plan, check = .ok () → known = true → planned = .ok plan →
      Writes plan.header plan.body image ∧ plan.itemSize = image.length) :
    Outcome size maxItems items builder
      (Addable builder check known planned image exceededImage oversizedImage)
      ((addItem noted known check planned nonKnown exceeded
        (noteItemOverflow oversized exceeded)).run builder) := by
  cases mode : builder.payloadExceededSuffix with
  | true =>
    rw [run_addItem_suffix mode]
    exact exceededPlaces.outcome holds (.inl ⟨mode, rfl⟩)
  | false =>
    by_cases full : builder.itemCount ≥ builder.maxItems
    · rw [run_addItem_full mode full]
      exact .refused (holds.noted _)
    · have more := not_not.mp (mt holds.full_iff.mpr full)
      cases checked : check with
      | error reason =>
        obtain ⟨after, ran, kept⟩ := refused_noting holds reason
        rw [addItem, Prog.run_bind_ok (Prog.run_get builder), if_neg (by rw [mode]; decide),
          if_neg full, show (Prog.ofRes (.error reason) : Prog NipcError LookupBuilder Unit) =
            Prog.stop reason from rfl, Prog.run_bind_error ran]
        exact .refused kept
      | ok _ =>
        rw [run_addItem_checked mode full rfl]
        have placeholders : ∀ middle, Holds size maxItems items middle →
            Outcome size maxItems items middle
              (Addable builder (.ok ()) known planned image exceededImage oversizedImage)
              ((noteItemOverflow oversized exceeded).run middle) := fun middle held =>
          noteItemOverflow_outcome oversizedPlaces exceededPlaces held
            (.inr ⟨mode, rfl, .inr (.inl rfl)⟩) (.inr ⟨mode, rfl, .inl rfl⟩)
        cases known with
        | true =>
          rw [if_pos rfl]
          have written : ∀ plan, planned = .ok plan →
              Writes plan.header plan.body image ∧ plan.itemSize = image.length ∧
                Addable builder (.ok ()) true planned image exceededImage oversizedImage image := by
            intro plan result
            obtain ⟨writes, sized⟩ := plans plan checked rfl result
            exact ⟨writes, sized, .inr ⟨mode, rfl, .inr (.inr ⟨rfl, fun _ => ⟨plan, result⟩⟩)⟩⟩
          exact addKnown_outcome holds more written (placeholders _ holds)
        | false =>
          rw [if_neg (by decide)]
          exact addOther_outcome holds (nonKnownPlaces checked rfl)
            (.inr ⟨mode, rfl, .inr (.inr ⟨rfl, nofun⟩)⟩)
            fun middle kept => placeholders middle kept.holds

end Adding

end LookupBuilder

end NetIpc
