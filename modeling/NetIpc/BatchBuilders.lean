/-
This file compares the batch builders of the three languages: `BatchBuilder` of the Rust crate,
`nipc_batch_builder_*` of the C library and `BatchBuilder` of the Go package.

All of them add an item in the same way. Go checks its sums first, and has a fast path that makes
the checks in another order; it leaves everything it is not sure about to the slow path. The three
differ in what `finish` does with the padding after the last item. C zeroes it when it ends inside
the buffer, and leaves it away otherwise. Rust zeroes it only when the buffer goes on after it, and
counts it in any case. Go never zeroes it.
-/

import NetIpc.Batch
import NetIpc.DecoderParts

namespace NetIpc

/-! ### C -/

namespace C

open BatchBuilder (onBuf)

/-- `nipc_batch_builder_init`. The fields are those of the Rust builder, and `buf_len` is the
length of the buffer. -/
def nipcBatchBuilderInit : Bytes → UInt32 → BatchBuilder := BatchBuilder.new

/-- `nipc_batch_builder_add`, which is `BatchBuilder::add` line by line. No sum wraps: an object
of C has less than 2^63 bytes. -/
def nipcBatchBuilderAdd : Bytes → Prog NipcError BatchBuilder Unit := BatchBuilder.add

/-- `nipc_batch_builder_finish`. -/
def nipcBatchBuilderFinish : Prog NipcError BatchBuilder (Nat × UInt32) := do
  let b ← Prog.get
  let finalDirAligned := align8 (b.itemCount.toNat * 8)
  onBuf (if finalDirAligned < b.dirEnd ∧ b.dataOffset > 0 then
    copyWithin b.dirEnd (b.dirEnd + b.dataOffset) finalDirAligned else pure ())
  let dataAligned := align8 b.dataOffset
  let total := finalDirAligned + dataAligned
  let dataEnd := finalDirAligned + b.dataOffset
  onBuf (if dataAligned > b.dataOffset then
    if total ≤ b.buf.length then fillZero dataEnd total
    else if dataEnd < b.buf.length then fillZero dataEnd b.buf.length else pure () else pure ())
  return (if total ≤ b.buf.length then total else dataEnd, b.itemCount)

end C

/-! ### Go -/

namespace Go

/-- `BatchBuilder`. -/
structure BatchBuilder where
  buf : Bytes
  itemCount : UInt32
  maxItems : UInt32
  dirEnd : Int
  dataOffset : Int
  deriving Repr, DecidableEq

namespace BatchBuilder

/-- The largest `int`. -/
def maxInt : Int := maxIntValue

/-- `Align8`. -/
def align8 (v : Int) : Int := (v + 7) / 8 * 8

/-- `NewBatchBuilder`, by `Reset`. -/
def new (buf : Bytes) (maxItems : UInt32) : BatchBuilder where
  buf := buf
  itemCount := 0
  maxItems := maxItems
  dirEnd := ((checkedInt (maxItems.toNat * 8)).bind checkedAlign8).getD maxIntValue
  dataOffset := 0

/-- Work on the builder's buffer. -/
def onBuf {α : Type} (program : Prog NipcError Bytes α) : Prog NipcError BatchBuilder α :=
  Prog.zoom (fun builder => builder.buf) (fun buf builder => { builder with buf }) program

/-- `return ErrOverflow` under a condition. -/
def overflowIf (condition : Prop) [Decidable condition] : Prog NipcError BatchBuilder Unit :=
  Prog.ofRes (rejectIf condition .overflow)

/-- `addSlow`. -/
def addSlow (item : Bytes) : Prog NipcError BatchBuilder Unit := do
  let b ← Prog.get
  overflowIf (b.itemCount ≥ b.maxItems)
  overflowIf (b.dirEnd < 0 ∨ b.dataOffset < 0 ∨ b.dataOffset > maxInt - 7)
  let alignedOff := align8 b.dataOffset
  overflowIf (alignedOff > 2 ^ 32 - 1)
  overflowIf (item.length > 2 ^ 32 - 1)
  overflowIf (alignedOff > maxInt - b.dirEnd)
  let absPos := b.dirEnd + alignedOff
  overflowIf (item.length > maxInt - absPos)
  let itemEnd := absPos + item.length
  overflowIf (itemEnd > b.buf.length)
  overflowIf (item.length > maxInt - alignedOff)
  (if alignedOff > b.dataOffset then do
    overflowIf (b.dataOffset > maxInt - b.dirEnd)
    onBuf (fillZero (b.dirEnd + b.dataOffset).toNat (b.dirEnd + alignedOff).toNat)
  else pure ())
  onBuf (write absPos.toNat item)
  let idx := b.itemCount.toNat * 8
  overflowIf (idx > maxIntValue)
  overflowIf ((idx : Int) > b.buf.length - 8)
  onBuf (putU32 idx (UInt32.ofNat alignedOff.toNat))
  onBuf (putU32 (idx + 4) (UInt32.ofNat item.length))
  Prog.modify fun b =>
    { b with dataOffset := alignedOff + item.length, itemCount := b.itemCount + 1 }

/-- What the fast path of `Add` asks for, in five nested tests. -/
def Fast (b : BatchBuilder) (item : Bytes) : Prop :=
  (b.itemCount < b.maxItems ∧ b.dirEnd ≥ 0 ∧ b.dataOffset ≥ 0 ∧ b.dataOffset ≤ maxInt - 7 ∧
    item.length ≤ 2 ^ 32 - 1) ∧
  (align8 b.dataOffset ≤ 2 ^ 32 - 1 ∧ align8 b.dataOffset ≤ maxInt - b.dirEnd ∧
    item.length ≤ maxInt - align8 b.dataOffset) ∧
  item.length ≤ maxInt - (b.dirEnd + align8 b.dataOffset) ∧
  b.itemCount.toNat * 8 ≤ maxIntValue ∧
  b.dirEnd + align8 b.dataOffset + item.length ≤ b.buf.length ∧
  ((b.itemCount.toNat * 8 : Nat) : Int) ≤ b.buf.length - 8

instance (b : BatchBuilder) (item : Bytes) : Decidable (b.Fast item) :=
  inferInstanceAs (Decidable ((_ ∧ _ ∧ _ ∧ _ ∧ _) ∧ (_ ∧ _ ∧ _) ∧ _ ∧ _ ∧ _ ∧ _))

/-- `Add`. -/
def add (item : Bytes) : Prog NipcError BatchBuilder Unit := do
  let b ← Prog.get
  if b.Fast item then
    let alignedOff := align8 b.dataOffset
    let absPos := b.dirEnd + alignedOff
    let idx := b.itemCount.toNat * 8
    onBuf (do
      (if alignedOff > b.dataOffset then
        fillZero (b.dirEnd + b.dataOffset).toNat (b.dirEnd + alignedOff).toNat else pure ())
      write absPos.toNat item
      putU32 idx (UInt32.ofNat alignedOff.toNat)
      putU32 (idx + 4) (UInt32.ofNat item.length))
    Prog.modify fun b =>
      { b with dataOffset := alignedOff + item.length, itemCount := b.itemCount + 1 }
  else addSlow item

/-- The shift of the packed data in `Finish`. -/
def shiftPacked (finalDirAligned : Nat) : Prog NipcError BatchBuilder Unit := do
  let b ← Prog.get
  if finalDirAligned < b.dirEnd ∧ b.dataOffset > 0 then
    let dataEnd ← Prog.ofRes (okOr (b.dirEnd.toNat?.bind fun dirEnd =>
      b.dataOffset.toNat?.bind fun dataOffset => checkedAddInt dirEnd dataOffset) .overflow)
    onBuf (copyWithin b.dirEnd.toNat dataEnd finalDirAligned)

/-- The work of `Finish`; an error stands for `return 0, count`. -/
def finishTotal : Prog NipcError BatchBuilder Nat := do
  let b ← Prog.get
  let dirSize ← Prog.ofRes (okOr (checkedInt (b.itemCount.toNat * 8)) .overflow)
  let finalDirAligned ← Prog.ofRes (okOr (checkedAlign8 dirSize) .overflow)
  shiftPacked finalDirAligned
  let alignedData ← Prog.ofRes (okOr (b.dataOffset.toNat?.bind checkedAlign8) .overflow)
  Prog.ofRes (okOr (checkedAddInt finalDirAligned alignedData) .overflow)

/-- `Finish`. -/
def finish : Prog NipcError BatchBuilder (Nat × UInt32) := do
  let b ← Prog.get
  Prog.inspect finishTotal fun
    | .ok total => return (total, b.itemCount)
    | .error (.err _) => return (0, b.itemCount)
    | .error reason => Prog.stop reason

/-! ### The fast path -/

theorem onBuf_bind {α β : Type} (program : Prog NipcError Bytes α)
    (next : α → Prog NipcError Bytes β) :
    onBuf (program >>= next) = onBuf program >>= fun value => onBuf (next value) := by
  funext b
  show (onBuf (program >>= next)).run b = (onBuf program >>= fun value => onBuf (next value)).run b
  rw [onBuf, Prog.run_zoom, Prog.run_bind, Prog.run_bind, onBuf, Prog.run_zoom]
  cases program.run b.buf with
  | mk result buf => cases result <;> rfl

theorem onBuf_ite (condition : Prop) [Decidable condition] (program : Prog NipcError Bytes Unit) :
    onBuf (if condition then program else pure ()) =
      if condition then onBuf program else pure () := by
  split
  · rfl
  · rfl

theorem le_align8 (v : Int) : v ≤ align8 v := by
  rw [align8]
  omega

/-- `Add` and `addSlow` do the same with every item, from every state of a builder. -/
theorem add_eq_addSlow (b : BatchBuilder) (item : Bytes) :
    (add item).run b = (addSlow item).run b := by
  rw [add, Prog.run_bind_ok (Prog.run_get b)]
  by_cases fast : b.Fast item
  · rw [if_pos fast, addSlow, Prog.run_bind_ok (Prog.run_get b)]
    obtain ⟨⟨few, dir, data, near, short⟩, ⟨word, absolute, last⟩, stop, index, inside, entry⟩ :=
      fast
    have up := le_align8 b.dataOffset
    dsimp only [overflowIf]
    -- No check of the slow path fires, the two behind the first writes included.
    rw [Prog.guard_bind (UInt32.not_le.mpr few), Prog.guard_bind (by omega),
      Prog.guard_bind (by omega), Prog.guard_bind (by omega), Prog.guard_bind (by omega),
      Prog.guard_bind (by omega), Prog.guard_bind (by omega), Prog.guard_bind (by omega),
      Prog.guard_bind (by omega), Prog.guard_bind (by omega), Prog.guard_bind (by omega)]
    simp only [onBuf_bind, onBuf_ite, bind_assoc]
  · rw [if_neg fast]

/-! ### Go after Rust -/

/-- The Go builder in the state of a Rust builder. -/
@[simps]
def ofRust (builder : NetIpc.BatchBuilder) : BatchBuilder where
  buf := builder.buf
  itemCount := builder.itemCount
  maxItems := builder.maxItems
  dirEnd := builder.dirEnd
  dataOffset := builder.dataOffset

theorem align8_cast (n : Nat) : align8 n = (NetIpc.align8 n : Nat) := by
  rw [align8, NetIpc.align8]
  omega

theorem toNat?_cast (n : Nat) : (n : Int).toNat? = some n := rfl

theorem overflowIf_overflows {condition : Prop} [Decidable condition] {α : Type} {b : BatchBuilder}
    {next : Unit → Prog NipcError BatchBuilder α}
    (later : ¬ condition → (next ()).run b = (.error (.err .overflow), b)) :
    (overflowIf condition >>= next).run b = (.error (.err .overflow), b) := by
  by_cases holds : condition
  · rw [overflowIf, rejectIf_of holds]
    rfl
  · rw [overflowIf, Prog.guard_bind holds]
    exact later holds

theorem run_onBuf_ofRust (builder : NetIpc.BatchBuilder) (program : Prog NipcError Bytes Unit)
    {change : BatchBuilder → BatchBuilder} {rustChange : NetIpc.BatchBuilder → NetIpc.BatchBuilder}
    (same : ∀ builder, change (ofRust builder) = ofRust (rustChange builder)) :
    (onBuf program >>= fun _ => Prog.modify change).run (ofRust builder) =
      (fun done => (done.1, ofRust done.2)) ((NetIpc.BatchBuilder.onBuf program >>= fun _ =>
        Prog.modify rustChange).run builder) := by
  rw [Prog.run_bind, Prog.run_bind, onBuf, NetIpc.BatchBuilder.onBuf, Prog.run_zoom, Prog.run_zoom,
    ofRust_buf]
  cases program.run builder.buf with
  | mk result buf =>
    cases result with
    | error reason => rfl
    | ok value => exact congrArg (Prod.mk (Except.ok ())) (same { builder with buf })

theorem new_ofRust (buf : Bytes) (maxItems : UInt32) :
    new buf maxItems = ofRust (NetIpc.BatchBuilder.new buf maxItems) := by
  have small := maxItems.toNat_lt
  have aligned : (checkedInt (maxItems.toNat * 8)).bind checkedAlign8 =
      some (NetIpc.align8 (maxItems.toNat * 8)) := by
    rw [checkedInt_of_lt (by omega)]
    exact checkedAlign8_of_lt (by omega)
  rw [new, aligned]
  rfl

section Add

variable {initial : Bytes} {maxItems : UInt32} {items : List Bytes}
  {builder : NetIpc.BatchBuilder} (small : initial.length < 2 ^ 32)
  (holds : builder.Holds initial maxItems items)

include small holds

/-- Go adds an item as Rust does. -/
theorem run_add_ofRust (item : Bytes) :
    (add item).run (ofRust builder) =
      (fun done => (done.1, ofRust done.2)) ((NetIpc.BatchBuilder.add item).run builder) := by
  have size := holds.size
  have dirEnd := holds.dirEnd
  have counted := holds.itemCount
  have fits_of (few : ¬ (ofRust builder).itemCount ≥ (ofRust builder).maxItems)
      (inside : ¬ (ofRust builder).dirEnd + align8 (ofRust builder).dataOffset + item.length >
        (ofRust builder).buf.length) :
      NetIpc.BatchBuilder.Fits initial.length maxItems.toNat items item := by
    have few := UInt32.lt_iff_toNat_lt.mp (UInt32.not_le.mp few)
    simp only [ofRust, align8_cast] at few inside
    rw [counted, holds.limit] at few
    rw [NetIpc.BatchBuilder.Fits, ← holds.dataOffset]
    omega
  by_cases fits : NetIpc.BatchBuilder.Fits initial.length maxItems.toNat items item
  · obtain ⟨free, room⟩ := fits
    rw [← holds.dataOffset] at room
    have few : builder.itemCount < builder.maxItems := by
      rw [UInt32.lt_iff_toNat_lt, counted, holds.limit]
      exact free
    have up := NetIpc.le_align8 builder.dataOffset
    have fast : (ofRust builder).Fast item := by
      simp only [Fast, ofRust, align8_cast, maxInt, maxIntValue]
      exact ⟨⟨few, by omega⟩, by omega⟩
    rw [add, Prog.run_bind_ok (Prog.run_get _), if_pos fast]
    simp only [NetIpc.BatchBuilder.add]
    rw [Prog.run_bind_ok (Prog.run_get builder), Prog.guard_bind (UInt32.not_le.mpr few),
      Prog.guard_bind (by omega)]
    simp only [ofRust_dirEnd, ofRust_dataOffset, ofRust_itemCount, align8_cast, gt_iff_lt,
      Nat.cast_lt, ← Nat.cast_add, Int.toNat_natCast]
    exact run_onBuf_ofRust builder _ fun _ => rfl
  · rw [NetIpc.BatchBuilder.add_refused _ _ _ _ holds item fits, add,
      Prog.run_bind_ok (Prog.run_get _), if_neg, addSlow, Prog.run_bind_ok (Prog.run_get _)]
    · refine overflowIf_overflows fun few => overflowIf_overflows fun _ =>
        overflowIf_overflows fun _ => overflowIf_overflows fun _ => overflowIf_overflows fun _ =>
        overflowIf_overflows fun _ => overflowIf_overflows fun inside => absurd ?_ fits
      exact fits_of few inside
    · rintro ⟨⟨few, -⟩, -, -, -, inside, -⟩
      exact fits (fits_of (UInt32.not_le.mpr few) (Int.not_lt.mpr inside))

end Add

end BatchBuilder

end Go

/-! ### A whole use of a builder -/

/-- The batch builder of one language. -/
structure BatchWriter (σ : Type) where
  new : Bytes → UInt32 → σ
  add : Bytes → Prog NipcError σ Unit
  finish : Prog NipcError σ (Nat × UInt32)
  buf : σ → Bytes

namespace BatchWriter

/-- The builder of the Rust crate. -/
def rust : BatchWriter BatchBuilder :=
  ⟨BatchBuilder.new, BatchBuilder.add, BatchBuilder.finish, BatchBuilder.buf⟩

/-- The builder of the C library. -/
def c : BatchWriter BatchBuilder :=
  ⟨C.nipcBatchBuilderInit, C.nipcBatchBuilderAdd, C.nipcBatchBuilderFinish, BatchBuilder.buf⟩

/-- The builder of the Go package. -/
def go : BatchWriter Go.BatchBuilder :=
  ⟨Go.BatchBuilder.new, Go.BatchBuilder.add, Go.BatchBuilder.finish, Go.BatchBuilder.buf⟩

variable {σ : Type}

/-- A sequence of `add` calls with the error of each. -/
def addAll (add : Bytes → Prog NipcError σ Unit) :
    List Bytes → Prog NipcError σ (List (Option NipcError))
  | [] => pure []
  | item :: rest => Prog.inspect (add item) fun
    | .ok () => do
      let errors ← addAll add rest
      return none :: errors
    | .error (.err error) => do
      let errors ← addAll add rest
      return some error :: errors
    | .error reason => Prog.stop reason

/-- What `finish` returns, with the bytes of the payload. -/
def close (writer : BatchWriter σ) (builder : σ) : Res NipcError (Nat × UInt32 × Bytes) := do
  let (total, count) ← (writer.finish.run builder).1
  return (total, count, (writer.buf (writer.finish.run builder).2).take total)

/-- The errors of the `add` calls and the payload. -/
def produce (writer : BatchWriter σ) (buf : Bytes) (maxItems : UInt32) (calls : List Bytes) :
    Res NipcError (List (Option NipcError)) × Res NipcError (Nat × UInt32 × Bytes) :=
  let added := (addAll writer.add calls).run (writer.new buf maxItems)
  (added.1, writer.close added.2)

end BatchWriter

open BatchWriter

/-- The three builders accept the same items and produce the same payload. -/
def SamePayload (buf : Bytes) (maxItems : UInt32) (calls : List Bytes) : Prop :=
  c.produce buf maxItems calls = rust.produce buf maxItems calls ∧
    go.produce buf maxItems calls = rust.produce buf maxItems calls

namespace BatchBuilder

/-- Where the items end after `finish`. -/
def packedEnd (self : BatchBuilder) : Nat := 8 * self.itemCount.toNat + self.dataOffset

/-- Where the payload ends, its padding included. -/
def payloadEnd (self : BatchBuilder) : Nat := 8 * self.itemCount.toNat + align8 self.dataOffset

/-- Before `finish`, the bytes that become the padding after the last item are zero, and the
buffer has all of them. -/
def PaddingClean (self : BatchBuilder) : Prop :=
  self.payloadEnd ≤ self.buf.length ∧
    slice self.buf self.packedEnd (self.payloadEnd - self.packedEnd) =
      zeros (self.payloadEnd - self.packedEnd)

instance (self : BatchBuilder) : Decidable self.PaddingClean :=
  inferInstanceAs (Decidable (_ ∧ _))

/-- The builder after the `add` calls. -/
def filled (buf : Bytes) (maxItems : UInt32) (calls : List Bytes) : BatchBuilder :=
  ((addAll add calls).run (new buf maxItems)).2

theorem splice_slice_self (buf : Bytes) (off len : Nat) (bound : off + len ≤ buf.length) :
    splice buf off (slice buf off len) = buf := by
  rw [splice, length_slice _ _ _ bound, slice, ← List.drop_drop, List.append_assoc,
    List.take_append_drop, List.take_append_drop]

theorem close_eq {σ : Type} {writer : BatchWriter σ} {state after : σ} {total : Nat}
    {count : UInt32} (ran : writer.finish.run state = (.ok (total, count), after)) :
    writer.close state = .ok (total, count, (writer.buf after).take total) := by
  rw [close, ran]
  rfl

theorem packedEnd_le_payloadEnd (self : BatchBuilder) : self.packedEnd ≤ self.payloadEnd :=
  Nat.add_le_add_left (le_align8 self.dataOffset) _

section Compare

variable {initial : Bytes} {maxItems : UInt32} {items : List Bytes} {builder : BatchBuilder}
  (holds : Holds initial maxItems items builder)

include holds

theorem Holds.inside : builder.packedEnd ≤ builder.buf.length ∧
    (0 < builder.dataOffset → builder.dirEnd + builder.dataOffset ≤ builder.buf.length) := by
  have few := holds.few
  rw [packedEnd, holds.itemCount, holds.dataOffset, holds.dirEnd, holds.size]
  by_cases room : 8 * maxItems.toNat ≤ initial.length
  · have length := (holds.laid room).length
    rw [holds.size] at length
    omega
  · obtain rfl := holds.short (by omega)
    exact ⟨Nat.zero_le _, nofun⟩

/-- The items move down and what is behind them stays. -/
theorem Holds.compacts : ∃ moved,
    (if align8 (builder.itemCount.toNat * 8) < builder.dirEnd ∧ builder.dataOffset > 0 then
        copyWithin builder.dirEnd (builder.dirEnd + builder.dataOffset)
          (align8 (builder.itemCount.toNat * 8)) else pure () :
          Prog NipcError Bytes Unit).run builder.buf = (.ok (), moved) ∧
      moved.length = builder.buf.length ∧
      ∀ len, slice moved builder.packedEnd len = slice builder.buf builder.packedEnd len := by
  obtain ⟨front, behind⟩ := holds.inside
  rw [packedEnd] at front ⊢
  rw [align8_of_mod _ (by omega)]
  split
  · rename_i moves
    have bound := behind moves.2
    have length : (slice builder.buf builder.dirEnd builder.dataOffset).length =
        builder.dataOffset := length_slice _ _ _ bound
    rw [run_copyWithin_of_le (by omega) bound (by omega), Nat.add_sub_cancel_left]
    exact ⟨_, rfl, length_splice _ _ _ (by omega), fun len =>
      slice_splice_after _ _ _ _ _ (by omega) (by omega)⟩
  · exact ⟨_, rfl, rfl, fun _ => rfl⟩

variable {moved : Bytes} (length : moved.length = builder.buf.length)
  (ran : (if align8 (builder.itemCount.toNat * 8) < builder.dirEnd ∧ builder.dataOffset > 0 then
        copyWithin builder.dirEnd (builder.dirEnd + builder.dataOffset)
          (align8 (builder.itemCount.toNat * 8)) else pure () :
          Prog NipcError Bytes Unit).run builder.buf = (.ok (), moved))

include ran

/-- Go never writes the padding. -/
theorem Holds.go_close (small : initial.length < 2 ^ 32) :
    go.close (.ofRust builder) =
      .ok (builder.payloadEnd, builder.itemCount, moved.take builder.payloadEnd) := by
  obtain ⟨front, behind⟩ := holds.inside
  have size := holds.size
  have up := le_align8 builder.dataOffset
  have count := builder.itemCount.toNat_lt
  have near : align8 builder.dataOffset < builder.dataOffset + 8 := align8_lt _
  rw [packedEnd] at front
  have shifted : (Go.BatchBuilder.shiftPacked (align8 (builder.itemCount.toNat * 8))).run
      (.ofRust builder) = (.ok (), .ofRust { builder with buf := moved }) := by
    rw [Go.BatchBuilder.shiftPacked, Prog.run_bind_ok (Prog.run_get _)]
    by_cases moves : align8 (builder.itemCount.toNat * 8) < builder.dirEnd ∧ builder.dataOffset > 0
    · have bound := behind moves.2
      rw [if_pos moves] at ran
      simp only [Go.BatchBuilder.ofRust_dirEnd, Go.BatchBuilder.ofRust_dataOffset]
      rw [if_pos (by omega), Go.BatchBuilder.toNat?_cast, Go.BatchBuilder.toNat?_cast,
        Option.bind_some, Option.bind_some, Go.checkedAddInt_of_lt (by omega), okOr_some,
        Prog.ofRes_ok_bind, Int.toNat_natCast, Go.BatchBuilder.onBuf, Prog.run_zoom,
        Go.BatchBuilder.ofRust_buf, ran]
      rfl
    · rw [if_neg moves] at ran
      simp only [Go.BatchBuilder.ofRust_dirEnd, Go.BatchBuilder.ofRust_dataOffset]
      obtain rfl : builder.buf = moved := congrArg Prod.snd ran
      rw [if_neg (by omega)]
      rfl
  have total : Go.BatchBuilder.finishTotal.run (.ofRust builder) =
      (.ok builder.payloadEnd, .ofRust { builder with buf := moved }) := by
    simp only [Go.BatchBuilder.finishTotal]
    rw [Prog.run_bind_ok (Prog.run_get _)]
    simp only [Go.BatchBuilder.ofRust_itemCount, Go.BatchBuilder.ofRust_dataOffset]
    rw [Go.checkedInt_of_lt (by omega), okOr_some, Prog.ofRes_ok_bind,
      Go.checkedAlign8_of_lt (by omega), okOr_some, Prog.ofRes_ok_bind]
    rw [Prog.run_bind_ok shifted, Go.BatchBuilder.toNat?_cast, Option.bind_some,
      Go.checkedAlign8_of_lt (by omega), okOr_some, Prog.ofRes_ok_bind,
      align8_of_mod _ (by omega), Go.checkedAddInt_of_lt (by omega), okOr_some, payloadEnd,
      Nat.mul_comm]
    rfl
  have done : go.finish.run (.ofRust builder) = (.ok (builder.payloadEnd, builder.itemCount),
      .ofRust { builder with buf := moved }) := by
    simp only [go, Go.BatchBuilder.finish]
    rw [Prog.run_bind_ok (Prog.run_get _), Prog.run_inspect, total]
    rfl
  exact close_eq done

include length

omit holds in
/-- Rust leaves a clean padding as it is. -/
theorem rust_close (clean : splice moved builder.packedEnd
      (zeros (builder.payloadEnd - builder.packedEnd)) = moved) :
    rust.close builder =
      .ok (builder.payloadEnd, builder.itemCount, moved.take builder.payloadEnd) := by
  have order := builder.packedEnd_le_payloadEnd
  have slots : align8 (builder.itemCount.toNat * 8) = 8 * builder.itemCount.toNat := by
    rw [align8_of_mod _ (by omega), Nat.mul_comm]
  have zeroed : (if builder.payloadEnd < builder.buf.length ∧ builder.packedEnd < builder.payloadEnd
      then fillZero builder.packedEnd builder.payloadEnd else pure () :
      Prog NipcError Bytes Unit).run moved = (.ok (), moved) := by
    split
    · rename_i both
      rw [run_fillZero_of_le order (by omega), clean]
    · rfl
  have done : rust.finish.run builder =
      (.ok (builder.payloadEnd, builder.itemCount), { builder with buf := moved }) := by
    simp only [rust, finish]
    rw [packedEnd, payloadEnd, ← slots] at zeroed
    rw [payloadEnd, Prog.run_bind_ok (Prog.run_get builder), Prog.run_bind_ok (run_onBuf ran),
      Prog.run_bind_ok (run_onBuf zeroed), slots]
    rfl
  exact close_eq done

/-- C zeroes the padding, or leaves it away. -/
theorem Holds.c_close : ∃ after : Bytes, (builder.payloadEnd ≤ builder.buf.length →
      after = splice moved builder.packedEnd (zeros (builder.payloadEnd - builder.packedEnd))) ∧
    c.close builder = .ok (if builder.payloadEnd ≤ builder.buf.length
      then (builder.payloadEnd, builder.itemCount, after.take builder.payloadEnd)
      else (builder.packedEnd, builder.itemCount, after.take builder.packedEnd)) := by
  have order := builder.packedEnd_le_payloadEnd
  have up := le_align8 builder.dataOffset
  have front := holds.inside.1
  have slots : align8 (builder.itemCount.toNat * 8) = 8 * builder.itemCount.toNat := by
    rw [align8_of_mod _ (by omega), Nat.mul_comm]
  have zeroed : ∃ after, (if align8 builder.dataOffset > builder.dataOffset then
      if builder.payloadEnd ≤ builder.buf.length then
        fillZero builder.packedEnd builder.payloadEnd
      else if builder.packedEnd < builder.buf.length then
        fillZero builder.packedEnd builder.buf.length else pure () else pure () :
      Prog NipcError Bytes Unit).run moved = (.ok (), after) ∧
      (builder.payloadEnd ≤ builder.buf.length → after =
        splice moved builder.packedEnd (zeros (builder.payloadEnd - builder.packedEnd))) := by
    by_cases whole : builder.payloadEnd ≤ builder.buf.length
    · rw [if_pos whole, run_ite_fillZero (by unfold packedEnd payloadEnd; omega) order (by omega)]
      exact ⟨_, rfl, fun _ => rfl⟩
    · rw [if_neg whole]
      split
      · rw [run_ite_fillZero (by omega) front (by omega)]
        exact ⟨_, rfl, fun inside => absurd inside whole⟩
      · exact ⟨_, rfl, fun inside => absurd inside whole⟩
  obtain ⟨after, zeroed, cleaned⟩ := zeroed
  refine ⟨after, cleaned, ?_⟩
  have done : c.finish.run builder = (.ok (if builder.payloadEnd ≤ builder.buf.length
      then builder.payloadEnd else builder.packedEnd, builder.itemCount),
      { builder with buf := after }) := by
    simp only [c, C.nipcBatchBuilderFinish]
    rw [packedEnd, payloadEnd, ← slots] at zeroed ⊢
    rw [Prog.run_bind_ok (Prog.run_get builder), Prog.run_bind_ok (run_onBuf ran),
      Prog.run_bind_ok (run_onBuf zeroed)]
    rfl
  rw [close_eq done]
  split
  · rfl
  · rfl

end Compare

/-- The `add` calls have the same results in Go as in Rust. -/
theorem addAll_run {initial : Bytes} {maxItems : UInt32} (small : initial.length < 2 ^ 32)
    (calls items : List Bytes) (builder : BatchBuilder)
    (holds : Holds initial maxItems items builder) :
    ∃ errors after added, (addAll add calls).run builder = (.ok errors, after) ∧
      (addAll Go.BatchBuilder.add calls).run (.ofRust builder) = (.ok errors, .ofRust after) ∧
      Holds initial maxItems added after := by
  induction calls generalizing items builder with
  | nil => exact ⟨[], builder, items, rfl, rfl, holds⟩
  | cons item rest ih =>
    have sameAdd := Go.BatchBuilder.run_add_ofRust small holds item
    rw [addAll, addAll, Prog.run_inspect, Prog.run_inspect, sameAdd]
    by_cases fits : Fits initial.length maxItems.toNat items item
    · obtain ⟨next, ran, nextHolds⟩ := add_fits initial maxItems small items builder holds item fits
      obtain ⟨errors, after, added, rust, go, held⟩ := ih _ next nextHolds
      rw [ran]
      exact ⟨none :: errors, after, added, Prog.run_bind_ok rust, Prog.run_bind_ok go, held⟩
    · obtain ⟨errors, after, added, rust, go, held⟩ := ih _ builder holds
      rw [add_refused initial maxItems items builder holds item fits]
      exact ⟨some .overflow :: errors, after, added, Prog.run_bind_ok rust, Prog.run_bind_ok go,
        held⟩

/-- The three payloads agree on a clean padding and on no other. -/
theorem Holds.closes_iff {initial : Bytes} {maxItems : UInt32} {items : List Bytes}
    {builder : BatchBuilder} (holds : Holds initial maxItems items builder)
    (small : initial.length < 2 ^ 32) :
    c.close builder = rust.close builder ∧ go.close (.ofRust builder) = rust.close builder ↔
      builder.PaddingClean := by
  obtain ⟨moved, ran, length, kept⟩ := holds.compacts
  have order := builder.packedEnd_le_payloadEnd
  have front := holds.inside.1
  have goClose := holds.go_close ran small
  obtain ⟨after, zeroed, cClose⟩ := holds.c_close length ran
  constructor
  · rintro ⟨cSame, goSame⟩
    rw [← goSame, goClose, cClose] at cSame
    by_cases whole : builder.payloadEnd ≤ builder.buf.length
    · rw [if_pos whole, zeroed whole] at cSame
      have bytes := congrArg (List.drop builder.packedEnd)
        (Prod.mk.inj (Prod.mk.inj (Except.ok.inj cSame)).2).2
      rw [List.drop_take, List.drop_take] at bytes
      have back := slice_splice_self moved (zeros (builder.payloadEnd - builder.packedEnd))
        builder.packedEnd (by omega)
      rw [length_zeros] at back
      exact ⟨whole, (kept _).symm.trans (bytes.symm.trans back)⟩
    · rw [if_neg whole] at cSame
      have ends := (Prod.mk.inj (Except.ok.inj cSame)).1
      omega
  · rintro ⟨whole, clean⟩
    have same : splice moved builder.packedEnd (zeros (builder.payloadEnd - builder.packedEnd)) =
        moved := by
      rw [← clean, ← kept]
      exact splice_slice_self moved _ _ (by omega)
    rw [cClose, if_pos whole, zeroed whole, goClose, rust_close length ran same, same]
    exact ⟨rfl, rfl⟩

/-- The three builders produce the same payload exactly when the bytes of the padding are zero
before `finish` and all inside the buffer. -/
theorem payloads_same_iff (buf : Bytes) (maxItems : UInt32) (calls : List Bytes)
    (small : buf.length < 2 ^ 32) :
    SamePayload buf maxItems calls ↔ (filled buf maxItems calls).PaddingClean := by
  obtain ⟨errors, after, added, rustRan, goRan, holds⟩ :=
    addAll_run small calls [] (new buf maxItems) (new_holds buf maxItems)
  have rustMade : rust.produce buf maxItems calls = (.ok errors, rust.close after) := by
    simp only [produce, rust, rustRan]
  have cMade : c.produce buf maxItems calls = (.ok errors, c.close after) := by
    simp only [produce, c, C.nipcBatchBuilderAdd, C.nipcBatchBuilderInit, rustRan]
  have goMade : go.produce buf maxItems calls = (.ok errors, go.close (.ofRust after)) := by
    simp only [produce, go, Go.BatchBuilder.new_ofRust, goRan]
  rw [SamePayload, rustMade, cMade, goMade, filled, rustRan, Prod.mk.injEq, Prod.mk.injEq,
    ← holds.closes_iff small]
  simp only [true_and]

/-- A five byte item in a larger buffer of zeros. -/
theorem payloads_same_five :
    (zeros 24).length < 2 ^ 32 ∧ SamePayload (zeros 24) 1 [[1, 2, 3, 4, 5]] :=
  ⟨by decide,
    (payloads_same_iff (zeros 24) 1 [[1, 2, 3, 4, 5]] (by decide)).mpr (by decide +kernel)⟩

/-- In a buffer that was used before, the Go payload ends with three old bytes. -/
theorem payloads_not_same : ¬ SamePayload (List.replicate 24 0xaa) 1 [[1, 2, 3, 4, 5]] := by
  rintro ⟨-, goSame⟩
  exact absurd goSame (by decide +kernel)

end BatchBuilder

end NetIpc
