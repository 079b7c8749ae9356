/-
This file proves that the lookup builders do not panic.

Every write of a builder goes to the directory slot of the item being added, to the
padding before the item, or to the slice of the buffer that is the item. The first
two lie inside the buffer because the builder reserved the directory and checked the
end of the item; inside the slice, the writers of an item stay below the size that
was computed for it. All of this needs three facts about a builder (`Sound`), which
every method keeps whether it succeeds or not. No bound on the size of the buffer or
of an item is needed: a number that does not fit its field is an error.
-/

import NetIpc.BufferSafety
import NetIpc.DecoderSafety

namespace NetIpc

variable {α : Type} {size : Nat}

namespace LookupBuilder

/-! ### Placing an item -/

/-- The directory and the items lie inside the buffer. -/
structure Sound (size : Nat) (builder : LookupBuilder) : Prop where
  length : builder.buf.length = size
  directory : 16 + 8 * builder.maxItems.toNat ≤ size
  count : builder.itemCount.toNat ≤ builder.maxItems.toNat
  offset : builder.dataOffset ≤ size

/-- Only the buffer, which keeps its size, and the error may differ from `before`. -/
structure Steady (size : Nat) (before builder : LookupBuilder) : Prop where
  length : builder.buf.length = size
  others : builder = { before with buf := builder.buf, error := builder.error }

theorem Sound.steady {builder : LookupBuilder} (sound : Sound size builder) :
    Steady size builder builder := ⟨sound.length, rfl⟩

/-- Nothing the invariant looks at has changed. -/
theorem Steady.sound {before builder : LookupBuilder} (steady : Steady size before builder)
    (sound : Sound size before) : Sound size builder := by
  rw [steady.others]
  exact ⟨steady.length, sound.directory, sound.count, sound.offset⟩

section Writes

variable {before builder : LookupBuilder}

/-- A program on the buffer leaves the rest of the builder alone. -/
theorem calmAt_onBuf {program : Prog NipcError Bytes α} (safe : Safe size program)
    (steady : Steady size before builder) :
    CalmAt (Steady size before) (onBuf program) builder := by
  obtain ⟨ordinary, kept⟩ := safe builder.buf steady.length
  refine ⟨ordinary, kept, ?_⟩
  rw [onBuf, Prog.run_zoom, steady.others]

theorem calmAt_noting {program : Prog NipcError LookupBuilder α}
    (calm : CalmAt (Steady size before) program builder) :
    CalmAt (Steady size before) (noting program) builder := by
  refine CalmAt.inspect calm fun result after ordinary _ steady => ?_
  match result with
  | .ok value => exact calmAt_pure value steady
  | .error (.err error) =>
    have others := steady.others
    refine ⟨trivial, steady.length, ?_⟩
    show { after with error := some error } = { before with buf := after.buf, error := some error }
    rw [others]

theorem calmAt_recordItem (noted : Bool) (itemCount : UInt32) (itemStart itemSize : Nat)
    (slot : 16 + 8 * itemCount.toNat + 8 ≤ size) (steady : Steady size before builder) :
    CalmAt (Steady size before) (recordItem noted itemCount itemStart itemSize) builder := by
  have check (value : Nat) {builder : LookupBuilder} (steady : Steady size before builder) :
      CalmAt (Steady size before) (Prog.ofRes (checkedU32 value)) builder :=
    calmAt_ofRes (ordinary_checkedU32 value) steady
  have first (word : UInt32) {builder : LookupBuilder} (steady : Steady size before builder) :
      CalmAt (Steady size before) (onBuf (putU32 (16 + 8 * itemCount.toNat) word)) builder :=
    calmAt_onBuf (safe_putU32 (by omega)) steady
  have second (word : UInt32) {builder : LookupBuilder} (steady : Steady size before builder) :
      CalmAt (Steady size before) (onBuf (putU32 (16 + 8 * itemCount.toNat + 4) word)) builder :=
    calmAt_onBuf (safe_putU32 (by omega)) steady
  rw [recordItem, dirEntry_eq, noting_ok_bind, Prog.ofRes_ok_bind]
  cases noted with
  | true =>
    exact (calmAt_noting (check _ steady)).follow fun _ _ steady =>
      (calmAt_noting (check _ steady)).follow fun _ _ steady =>
        (first _ steady).follow fun _ _ steady => second _ steady
  | false =>
    exact (check _ steady).follow fun _ _ steady => (first _ steady).follow fun _ _ steady =>
      (check _ steady).follow fun _ _ steady => second _ steady

/-- Writing an item between the items so far and the end. -/
theorem calmAt_writeItem (noted : Bool) {dataOffset : Nat} {itemCount : UInt32}
    {itemStart itemEnd : Nat} {header : Prog NipcError Bytes Unit} {body : Prog NipcError Bytes Nat}
    (gap : dataOffset ≤ itemStart) (order : itemStart ≤ itemEnd) (inside : itemEnd ≤ size)
    (slot : 16 + 8 * itemCount.toNat + 8 ≤ size) (headerSafe : Safe (itemEnd - itemStart) header)
    (bodySafe : Safe (itemEnd - itemStart) body) (steady : Steady size before builder) :
    CalmAt (Steady size before)
      (writeItem noted dataOffset itemCount itemStart itemEnd header body) builder := by
  have padding : Safe size (if itemStart > dataOffset then fillZero dataOffset itemStart
      else pure () : Prog NipcError Bytes Unit) :=
    Safe.ite (fun _ => safe_fillZero gap (order.trans inside)) fun _ => safe_pure ()
  exact (calmAt_onBuf padding steady).follow fun _ _ steady =>
    (calmAt_noting (calmAt_onBuf (safe_onSlice headerSafe order inside) steady)).follow
      fun _ _ steady => (calmAt_onBuf (safe_onSlice bodySafe order inside) steady).follow
        fun _ _ steady => calmAt_recordItem noted itemCount itemStart _ slot steady

end Writes

section Adds

variable {builder : LookupBuilder}

theorem Sound.note (sound : Sound size builder) (error : Option NipcError) :
    Sound size { builder with error } :=
  ⟨sound.length, sound.directory, sound.count, sound.offset⟩

theorem calmAt_noteError (sound : Sound size builder) (error : NipcError) :
    CalmAt (Sound size) (noteError error : Prog NipcError LookupBuilder α) builder :=
  ⟨trivial, sound.note (some error)⟩

/-- An error that is noted leaves a sound builder; a value is handed on. -/
theorem calmAt_noting_bind {β : Type} {result : Res NipcError α}
    {next : α → Prog NipcError LookupBuilder β} (ordinary : Ordinary (fun _ => True) result)
    (sound : Sound size builder)
    (rest : ∀ value, result = .ok value → CalmAt (Sound size) (next value) builder) :
    CalmAt (Sound size) (noting (Prog.ofRes result) >>= next) builder := by
  match result with
  | .ok value => exact rest value rfl
  | .error (.err error) => exact ⟨trivial, sound.note (some error)⟩

/-- Placing an item that fits, with its directory entry. -/
theorem calmAt_placeItem (noted : Bool) {itemStart itemEnd : Nat}
    {header : Prog NipcError Bytes Unit} {body : Prog NipcError Bytes Nat}
    (gap : builder.dataOffset ≤ itemStart) (order : itemStart ≤ itemEnd) (inside : itemEnd ≤ size)
    (headerSafe : Safe (itemEnd - itemStart) header) (bodySafe : Safe (itemEnd - itemStart) body)
    (more : builder.itemCount < builder.maxItems) (sound : Sound size builder) :
    CalmAt (Sound size) (placeItem noted itemStart itemEnd header body) builder := by
  have less := UInt32.lt_iff_toNat_lt.mp more
  have directory := sound.directory
  refine calmAt_get_bind ?_
  have written : CalmAt (Steady size builder) (writeItem noted builder.dataOffset
      builder.itemCount itemStart itemEnd header body) builder :=
    calmAt_writeItem noted gap order inside (by omega) headerSafe bodySafe sound.steady
  refine CalmAt.bind ⟨written.1, written.2.sound sound⟩ fun _ after ran => ?_
  have steady : Steady size builder after := by
    have kept := written.2
    rwa [ran] at kept
  -- The count does not wrap, since it was below the limit.
  have counted : (builder.itemCount + 1).toNat ≤ builder.maxItems.toNat := by
    have bound := builder.maxItems.toNat_lt
    rw [UInt32.toNat_add, UInt32.toNat_one, Nat.mod_eq_of_lt (by omega)]
    exact less
  have others := steady.others
  refine calmAt_modify ?_
  rw [others]
  exact ⟨steady.length, directory, counted, inside⟩

variable {noted : Bool} {header : Prog NipcError Bytes Unit} {body : Prog NipcError Bytes Nat}

theorem calmAt_addNonKnown {itemSize : Res NipcError Nat}
    (ordinary : Ordinary (fun _ => True) itemSize)
    (safe : ∀ len, itemSize = .ok len → Safe len header ∧ Safe len body)
    (sound : Sound size builder) :
    CalmAt (Sound size) (addNonKnown noted itemSize header body) builder := by
  refine calmAt_get_bind (CalmAt.ite (fun _ => calmAt_noteError sound _) fun more => ?_)
  refine calmAt_noting_bind ordinary sound fun len sized => ?_
  obtain ⟨headerSafe, bodySafe⟩ := safe len sized
  refine calmAt_noting_bind (ordinary_okOr trivial) sound fun itemEnd sum => ?_
  obtain ⟨rfl, -⟩ := checkedAdd_eq_some (okOr_eq_ok sum)
  refine CalmAt.ite (fun _ => calmAt_noteError sound _) fun room => ?_
  have length := sound.length
  refine calmAt_placeItem noted (le_align8 _) (Nat.le_add_right _ _) (by omega) ?_ ?_
    (UInt32.not_le.mp more) sound
  · rwa [Nat.add_sub_cancel_left]
  · rwa [Nat.add_sub_cancel_left]

/-- Either placeholder is placed as an item is. -/
theorem calmAt_noteItemOverflow {oversized exceeded : Prog NipcError LookupBuilder Unit}
    (oversizedCalm : ∀ builder, Sound size builder → CalmAt (Sound size) oversized builder)
    (exceededCalm : ∀ builder, Sound size builder → CalmAt (Sound size) exceeded builder)
    (sound : Sound size builder) :
    CalmAt (Sound size) (noteItemOverflow oversized exceeded) builder := by
  refine calmAt_get_bind (CalmAt.ite (fun _ => oversizedCalm builder sound) fun _ => ?_)
  exact exceededCalm _ ⟨sound.length, sound.directory, sound.count, sound.offset⟩

/-- The writers of a plan stay inside an item of the size the plan has. -/
def ItemPlan.Safe (plan : ItemPlan) : Prop :=
  NetIpc.Safe plan.itemSize plan.header ∧ NetIpc.Safe plan.itemSize plan.body

section Items

variable {check : Res NipcError Unit} {planned : Res NipcError ItemPlan}
  {nonKnown exceeded overflow : Prog NipcError LookupBuilder Unit}

theorem calmAt_placePlan {plan : ItemPlan} (safe : plan.Safe)
    (overflowCalm : CalmAt (Sound size) overflow builder)
    (more : builder.itemCount < builder.maxItems) (sound : Sound size builder) :
    CalmAt (Sound size) (placePlan noted plan overflow) builder := by
  refine calmAt_get_bind ?_
  dsimp only
  split
  · exact overflowCalm
  · rename_i itemEnd sum
    obtain ⟨rfl, -⟩ := checkedAdd_eq_some sum
    refine CalmAt.ite (fun fits => ?_) fun _ => overflowCalm
    have inside := fits.1
    rw [sound.length] at inside
    refine calmAt_placeItem noted (le_align8 _) (Nat.le_add_right _ _) inside ?_ ?_ more sound
    · rw [Nat.add_sub_cancel_left]
      exact safe.1
    · rw [Nat.add_sub_cancel_left]
      exact safe.2

/-- Every `add` of the two builders leaves a sound builder and does not panic. -/
theorem calmAt_addItem {known : Bool} (checkOrdinary : Ordinary (fun _ => True) check)
    (planOrdinary : Ordinary (fun _ => True) planned)
    (planSafe : ∀ plan, planned = .ok plan → plan.Safe)
    (nonKnownCalm : ∀ builder, Sound size builder → CalmAt (Sound size) nonKnown builder)
    (exceededCalm : ∀ builder, Sound size builder → CalmAt (Sound size) exceeded builder)
    (overflowCalm : ∀ builder, Sound size builder → CalmAt (Sound size) overflow builder)
    (sound : Sound size builder) :
    CalmAt (Sound size) (addItem noted known check planned nonKnown exceeded overflow) builder := by
  refine calmAt_get_bind (CalmAt.ite (fun _ => exceededCalm builder sound) fun _ => ?_)
  refine CalmAt.ite (fun _ => calmAt_noteError sound _) fun more => ?_
  refine calmAt_noting_bind checkOrdinary sound fun _ _ => CalmAt.ite (fun _ => ?_) fun _ => ?_
  · unfold addKnown
    split
    · exact overflowCalm builder sound
    · rename_i reason _
      match reason with
      | .err error => exact ⟨trivial, sound.note (some error)⟩
    · rename_i plan
      exact calmAt_placePlan (planSafe plan rfl) (overflowCalm builder sound)
        (UInt32.not_le.mp more) sound
  · refine CalmAt.inspect (nonKnownCalm builder sound) fun result after ordinary _ kept => ?_
    split
    · exact overflowCalm after kept
    · exact calmAt_ofRes ordinary kept

end Items

end Adds

end LookupBuilder

/-! ### The writers of an item -/

/-- A number that has to fit its field. -/
theorem safe_putChecked {off value : Nat} {next : Unit → Prog NipcError Bytes α}
    (inside : off + 4 ≤ size) (rest : ∀ done, Safe size (next done)) :
    Safe size (Prog.ofRes (checkedU32 value) >>= fun word => putU32 off word >>= next) :=
  safe_ofRes_bind (ordinary_checkedU32 _) fun _ _ => (safe_putU32 inside).bind rest

/-- A string and its NUL. -/
theorem safe_writeString {off : Nat} {text : Bytes} (inside : off + text.length + 1 ≤ size)
    {next : Unit → Prog NipcError Bytes α} (rest : ∀ done, Safe size (next done)) :
    Safe size (write off text >>= fun _ => write (off + text.length) [0] >>= next) :=
  (safe_write (by omega)).bind fun _ =>
    (safe_write (by rw [List.length_singleton]; omega)).bind rest

section Labels

/-- The strings of the labels lie between `next` and the end of the item, the entries in the
table. -/
theorem safe_writeLabelsFrom (labels : List Label) (tableStart index next : Nat)
    (entries : tableStart + 16 * (index + labels.length) ≤ size)
    (strings : next + (labelStrings labels).length ≤ size) :
    Safe size (writeLabelsFrom tableStart index next labels) := by
  induction labels generalizing index next with
  | nil => exact safe_pure next
  | cons label rest ih =>
    obtain ⟨key, value⟩ := label
    rw [List.length_cons] at entries
    rw [length_labelStrings_cons] at strings
    dsimp only at strings
    unfold writeLabelsFrom
    refine safe_ofRes_bind (ordinary_okOr trivial) fun _ product => ?_
    obtain ⟨rfl, -⟩ := checkedMul_eq_some (okOr_eq_ok product)
    refine safe_ofRes_bind (ordinary_okOr trivial) fun _ sum => ?_
    obtain ⟨rfl, -⟩ := checkedAdd_eq_some (okOr_eq_ok sum)
    refine safe_ofRes_bind (ordinary_okOr trivial) fun valueOffset sum => ?_
    rw [checkedAdd_bind] at sum
    obtain ⟨rfl, -⟩ := checkedAdd_eq_some (okOr_eq_ok sum)
    rw [lookupLabelEntrySize]
    iterate 4 refine safe_putChecked (by omega) fun _ => ?_
    refine safe_writeString (by omega) fun _ => safe_writeString (by omega) fun _ => ?_
    refine safe_ofRes_bind (ordinary_okOr trivial) fun _ sum => ?_
    rw [checkedAdd_bind] at sum
    obtain ⟨rfl, -⟩ := checkedAdd_eq_some (okOr_eq_ok sum)
    exact ih _ _ (by omega) (by omega)

theorem ordinary_layoutFrom (labels : List Label) (itemSize : Nat) :
    Ordinary (fun _ => True) (layoutFrom itemSize labels) := by
  induction labels generalizing itemSize with
  | nil => trivial
  | cons label rest ih =>
    exact .guard trivial fun _ => (ordinary_okOr trivial).bind fun _ _ =>
      (ordinary_okOr trivial).bind fun _ _ => (ordinary_okOr trivial).bind fun _ _ =>
        ih _

/-- The layout of labels overflows as an error. -/
theorem ordinary_labelLayout (fixedEnd : Nat) (labels : List Label) :
    Ordinary (fun _ => True) (labelLayout fixedEnd labels) := by
  unfold labelLayout
  split
  · trivial
  · exact (ordinary_okOr trivial).bind fun _ _ => (ordinary_okOr trivial).bind fun _ _ =>
      (ordinary_layoutFrom labels _).bind fun _ _ => trivial

/-- The labels of a layout are written inside the item, which reaches at least to their start. -/
theorem safe_writeLabelPart {fixedEnd tableStart tableBytes itemSize : Nat} {labels : List Label}
    (laidOut : labelLayout fixedEnd labels = .ok (tableStart, tableBytes, itemSize)) :
    fixedEnd ≤ itemSize ∧
      Safe itemSize (writeLabelPart fixedEnd tableStart tableBytes itemSize labels) := by
  obtain ⟨-, rfl, rfl, rfl⟩ := labelLayout_eq_ok laidOut
  refine ⟨Nat.le_add_right _ _, ?_⟩
  unfold writeLabelPart
  refine Safe.ite (fun _ => safe_pure _) fun some => ?_
  have nonempty : labels ≠ [] := by simpa using some
  have up := le_align8 fixedEnd
  rw [labelTableStart, if_neg some, length_labelsImage fixedEnd nonempty]
  refine (safe_fillZero up (by omega)).bind fun _ => ?_
  refine safe_ofRes_bind (ordinary_okOr trivial) fun _ sum => ?_
  obtain ⟨rfl, -⟩ := checkedAdd_eq_some (okOr_eq_ok sum)
  exact safe_writeLabelsFrom labels _ 0 _ (by omega) (by omega)

end Labels

/-! ### The apps builder -/

theorem safe_writeAppsItemHeader (status orchestrator cgroupStatus : UInt16) (pid ppid uid : UInt32)
    (starttime : UInt64) (commOff commLen pathOff pathLen nameOff nameLen : Nat)
    (labelCount : UInt16) (header : 60 ≤ size) :
    Safe size (writeAppsItemHeader status orchestrator cgroupStatus pid ppid uid starttime commOff
      commLen pathOff pathLen nameOff nameLen labelCount) := by
  unfold writeAppsItemHeader
  iterate 4 refine (safe_putU16 (by omega)).bind fun _ => ?_
  iterate 4 refine (safe_putU32 (by omega)).bind fun _ => ?_
  refine (safe_putU64 (by omega)).bind fun _ => ?_
  iterate 6 refine safe_putChecked (by omega) fun _ => ?_
  exact (safe_putU16 (by omega)).bind fun _ => safe_putU16 (by omega)

theorem calmAt_addNonKnownAppsItem (status : UInt16) (pid : UInt32) (builder : LookupBuilder)
    (sound : builder.Sound size) :
    CalmAt (LookupBuilder.Sound size) (addNonKnownAppsItem status pid) builder := by
  refine LookupBuilder.calmAt_addNonKnown trivial ?_ sound
  rintro len ⟨⟩
  refine ⟨safe_get_bind fun buf length => ?_, safe_pure _⟩
  exact (safe_fillZero (Nat.zero_le _) (by omega)).bind fun _ =>
    safe_writeAppsItemHeader _ _ _ _ _ _ _ _ _ _ _ _ _ _ (by decide)

theorem ordinary_planAppsItem (item : AppsItem) : Ordinary (fun _ => True) (planAppsItem item) :=
  .guard trivial fun _ => (ordinary_checkedU16 _).bind fun _ _ =>
    (ordinary_okOr trivial).bind fun _ _ => (ordinary_okOr trivial).bind fun _ _ =>
      (ordinary_okOr trivial).bind fun _ _ => (ordinary_labelLayout _ _).bind fun _ _ => trivial

/-- What an apps item writes stays inside the item. -/
theorem planAppsItem_safe {item : AppsItem} {plan : LookupBuilder.ItemPlan}
    (planned : planAppsItem item = .ok plan) : plan.Safe := by
  rw [planAppsItem] at planned
  iterate 2 obtain ⟨_, -, planned⟩ := bind_eq_ok planned
  iterate 3
    obtain ⟨_, sum, planned⟩ := bind_eq_ok planned
    obtain rfl := okOr_checkedAdd_bind_eq_ok sum
  obtain ⟨⟨tableStart, tableBytes, itemSize⟩, laidOut, planned⟩ := bind_eq_ok planned
  obtain rfl := Except.ok.inj planned
  obtain ⟨inside, labels⟩ := safe_writeLabelPart laidOut
  rw [appsLookupItemHdrSize] at inside
  refine ⟨safe_writeAppsItemHeader _ _ _ _ _ _ _ _ _ _ _ _ _ _ (by dsimp only; omega), ?_⟩
  rw [appsLookupItemHdrSize]
  dsimp only
  exact safe_writeString (by omega) fun _ => safe_writeString (by omega) fun _ =>
    safe_writeString (by omega) fun _ => labels

theorem calmAt_addAppsItem (item : AppsItem) (builder : LookupBuilder)
    (sound : builder.Sound size) :
    CalmAt (LookupBuilder.Sound size) (addAppsItem item) builder :=
  LookupBuilder.calmAt_addItem (ordinary_validateAppsLookupSemantics ..)
    (ordinary_planAppsItem item) (fun _ => planAppsItem_safe) (calmAt_addNonKnownAppsItem _ _)
    (calmAt_addNonKnownAppsItem _ _)
    (fun _ => LookupBuilder.calmAt_noteItemOverflow (calmAt_addNonKnownAppsItem _ _)
      (calmAt_addNonKnownAppsItem _ _)) sound

/-! ### The cgroups builder -/

theorem safe_writeCgroupsItemHeader (status orchestrator : UInt16)
    (pathOff pathLen nameOff nameLen : Nat) (labelCount : UInt16) (header : 28 ≤ size) :
    Safe size (writeCgroupsItemHeader status orchestrator pathOff pathLen nameOff nameLen
      labelCount) := by
  unfold writeCgroupsItemHeader
  iterate 4 refine (safe_putU16 (by omega)).bind fun _ => ?_
  iterate 4 refine safe_putChecked (by omega) fun _ => ?_
  exact (safe_putU16 (by omega)).bind fun _ => safe_putU16 (by omega)

theorem calmAt_addNonKnownCgroupsItem (status : UInt16) (path : Bytes) (builder : LookupBuilder)
    (sound : builder.Sound size) :
    CalmAt (LookupBuilder.Sound size) (addNonKnownCgroupsItem status path) builder := by
  refine LookupBuilder.calmAt_addNonKnown
    ((ordinary_okOr trivial).bind fun _ _ => ordinary_okOr trivial) (fun len sized => ?_) sound
  obtain ⟨_, sum, sized⟩ := bind_eq_ok sized
  obtain rfl := okOr_checkedAdd_bind_eq_ok sum
  obtain ⟨rfl, -⟩ := checkedAdd_eq_some (okOr_eq_ok sized)
  rw [cgroupsLookupItemHdrSize]
  refine ⟨safe_writeCgroupsItemHeader _ _ _ _ _ _ _ (by omega), ?_⟩
  exact safe_writeString (by omega) fun _ =>
    (safe_write (by rw [List.length_singleton])).bind fun _ => safe_pure _

theorem ordinary_planCgroupsItem (item : CgroupsItem) :
    Ordinary (fun _ => True) (planCgroupsItem item) :=
  (ordinary_checkedU16 _).bind fun _ _ => (ordinary_okOr trivial).bind fun _ _ =>
    (ordinary_okOr trivial).bind fun _ _ => (ordinary_labelLayout _ _).bind fun _ _ => trivial

/-- What a cgroups item writes stays inside the item. -/
theorem planCgroupsItem_safe {item : CgroupsItem} {plan : LookupBuilder.ItemPlan}
    (planned : planCgroupsItem item = .ok plan) : plan.Safe := by
  rw [planCgroupsItem] at planned
  obtain ⟨_, -, planned⟩ := bind_eq_ok planned
  iterate 2
    obtain ⟨_, sum, planned⟩ := bind_eq_ok planned
    obtain rfl := okOr_checkedAdd_bind_eq_ok sum
  obtain ⟨⟨tableStart, tableBytes, itemSize⟩, laidOut, planned⟩ := bind_eq_ok planned
  obtain rfl := Except.ok.inj planned
  obtain ⟨inside, labels⟩ := safe_writeLabelPart laidOut
  rw [cgroupsLookupItemHdrSize] at inside
  refine ⟨safe_writeCgroupsItemHeader _ _ _ _ _ _ _ (by dsimp only; omega), ?_⟩
  rw [cgroupsLookupItemHdrSize]
  dsimp only
  exact safe_writeString (by omega) fun _ => safe_writeString (by omega) fun _ => labels

theorem calmAt_addCgroupsItemWithPath (item : CgroupsItem) (pathValidated : Bool)
    (builder : LookupBuilder) (sound : builder.Sound size) :
    CalmAt (LookupBuilder.Sound size) (addCgroupsItemWithPath item pathValidated) builder :=
  LookupBuilder.calmAt_addItem
    ((ordinary_validateCgroupsLookupSemantics ..).bind fun _ _ => ordinary_rejectIf trivial)
    (ordinary_planCgroupsItem item) (fun _ => planCgroupsItem_safe)
    (calmAt_addNonKnownCgroupsItem _ _) (calmAt_addNonKnownCgroupsItem _ _)
    (fun _ => LookupBuilder.calmAt_noteItemOverflow (calmAt_addNonKnownCgroupsItem _ _)
      (calmAt_addNonKnownCgroupsItem _ _)) sound

end NetIpc
