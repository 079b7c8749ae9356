/-
This file proves that a response made from raw items reads back as those items.

A client that answers one lookup from several subcalls collects the raw items of
the answers, computes the size of the response they make
(`lookup_raw_response_size`), and lets `encode_raw_response` write it into a
buffer of that size. The size function, the placement of the items in the
encoder and the validation of the directory in the reader are three separate
computations. They agree: a buffer of exactly that size is filled, whatever it
held before, and reads back as the items; a shorter one is refused; and an item
the reader would not accept is refused, without a panic, in a buffer of any size.
-/

import NetIpc.BufferSafety
import NetIpc.ClientLookup
import NetIpc.DecoderSafety

namespace NetIpc

variable {α : Type}

/-! ### The encoder does not panic -/

theorem safe_compactItems {size : Nat} (finalPackedStart firstItemAbs packedDataLen : Nat) :
    Safe size (compactItems finalPackedStart firstItemAbs packedDataLen) := by
  unfold compactItems
  refine Safe.ite (fun _ => ?_) fun _ => safe_pure ()
  refine safe_ofRes_bind (ordinary_okOr trivial) fun copyEnd source => ?_
  obtain ⟨rfl, -⟩ := checkedAdd_eq_some (okOr_eq_ok source)
  refine safe_get_bind fun buf length => ?_
  refine safe_ofRes_bind (ordinary_rejectIf trivial) fun _ inside => ?_
  refine safe_ofRes_bind (ordinary_okOr trivial) fun destEnd target => ?_
  obtain ⟨rfl, -⟩ := checkedAdd_eq_some (okOr_eq_ok target)
  refine safe_ofRes_bind (ordinary_rejectIf trivial) fun _ room => ?_
  have sourceBound := rejectIf_eq_ok inside
  have targetBound := rejectIf_eq_ok room
  exact safe_copyWithin (by omega) (by omega) (by omega)

theorem safe_relocateEntry {size hdrSize index : Nat} (firstItemAbs : Nat)
    (inside : hdrSize + 8 * index + 8 ≤ size) :
    Safe size (relocateEntry hdrSize firstItemAbs index) := by
  unfold relocateEntry
  refine safe_ofRes_bind (ordinary_okOr trivial) fun entryOffset product => ?_
  obtain ⟨rfl, -⟩ := checkedMul_eq_some (okOr_eq_ok product)
  refine safe_ofRes_bind (ordinary_okOr trivial) fun entry sum => ?_
  obtain ⟨rfl, -⟩ := checkedAdd_eq_some (okOr_eq_ok sum)
  rw [lookupDirEntrySize]
  refine safe_get_bind fun buf length => ?_
  refine safe_ofRes_bind (ordinary_u32At (by omega)) fun abs _ => ?_
  refine safe_ofRes_bind (ordinary_okOr trivial) fun rel _ => ?_
  exact safe_ofRes_bind (ordinary_checkedU32 rel) fun _ _ => safe_putU32 (by omega)

/-- Finishing moves the items and rewrites the directory in place. -/
theorem safe_finishLookupResponse {size hdrSize : Nat} (itemCount : UInt32) (dataOffset : Nat)
    (generation : UInt64) (header : 16 ≤ hdrSize)
    (directory : hdrSize + 8 * itemCount.toNat ≤ size) :
    Safe size (finishLookupResponse hdrSize itemCount dataOffset generation) := by
  unfold finishLookupResponse
  refine (safe_putU16 (by omega)).bind fun _ => (safe_putU16 (by omega)).bind fun _ =>
    (safe_putU32 (by omega)).bind fun _ => (safe_putU64 (by omega)).bind fun _ =>
      Safe.ite (fun _ => safe_pure _) fun some => ?_
  have positive : itemCount.toNat ≠ 0 := fun zero => some (UInt32.toNat_inj.mp zero)
  refine safe_ofRes_bind (ordinary_okOr trivial) fun finalPackedStart _ => ?_
  refine safe_get_bind fun buf length => ?_
  refine safe_ofRes_bind (ordinary_u32At (by omega)) fun firstItemAbs _ => ?_
  refine safe_ofRes_bind (ordinary_okOr trivial) fun packedDataLen _ => ?_
  refine (safe_compactItems _ _ _).bind fun _ => ?_
  refine (safe_forRange fun index _ below => ?_).bind fun _ => safe_ofRes (ordinary_okOr trivial)
  exact safe_relocateEntry _ (by omega)

section Encoder

variable (codec : ItemCodec α) (calm : ∀ item, Ordinary (fun _ => True) (codec.decodeItem item))

include calm

theorem safe_encodeRawFrom {size hdrSize : Nat} (items : List Bytes) (index dataOffset : Nat)
    (directory : hdrSize + 8 * (index + items.length) ≤ size) :
    Safe size (encodeRawFrom codec hdrSize index dataOffset items) := by
  induction items generalizing index dataOffset with
  | nil => exact safe_pure dataOffset
  | cons item rest ih =>
    rw [List.length_cons] at directory
    have up := le_align8 dataOffset
    unfold encodeRawFrom
    refine safe_ofRes_bind (ordinary_rejectIf trivial) fun _ _ => ?_
    refine safe_ofRes_bind (calm item) fun _ _ => ?_
    refine safe_ofRes_bind (ordinary_okOr trivial) fun itemEnd sum => ?_
    obtain ⟨rfl, -⟩ := checkedAdd_eq_some (okOr_eq_ok sum)
    refine safe_get_bind fun buf length => ?_
    refine safe_ofRes_bind (ordinary_rejectIf trivial) fun _ inside => ?_
    have room := rejectIf_eq_ok inside
    refine Safe.bind (Safe.ite (fun _ => safe_fillZero up (by omega)) fun _ => safe_pure ())
      fun _ => ?_
    refine (safe_write (by omega)).bind fun _ => ?_
    refine safe_ofRes_bind ((ordinary_okOr trivial).bind fun _ _ => ordinary_okOr trivial)
      fun dir place => ?_
    obtain ⟨_, product, sum⟩ := bind_eq_ok place
    obtain ⟨rfl, -⟩ := checkedMul_eq_some (okOr_eq_ok product)
    obtain ⟨rfl, -⟩ := checkedAdd_eq_some (okOr_eq_ok sum)
    rw [lookupDirEntrySize]
    refine safe_ofRes_bind (ordinary_checkedU32 _) fun _ _ => ?_
    refine (safe_putU32 (by omega)).bind fun _ => ?_
    refine safe_ofRes_bind (ordinary_checkedU32 _) fun _ _ => ?_
    exact (safe_putU32 (by omega)).bind fun _ => ih _ _ (by omega)

theorem safe_encodeRawResponse (size : Nat) (generation : UInt64) (items : List Bytes) :
    Safe size (encodeRawResponse codec lookupRespHdrSize generation items) := by
  unfold encodeRawResponse
  refine safe_ofRes_bind (ordinary_checkedU32 _) fun itemCount count => ?_
  obtain ⟨few, rfl⟩ := checkedU32_eq_ok count
  have counted := toNat_ofNat32 few
  rw [lookupDataOffset_eq, Prog.ofRes_ok_bind, counted]
  refine safe_get_bind fun buf length => ?_
  refine safe_ofRes_bind (ordinary_rejectIf trivial) fun _ inside => ?_
  have room := rejectIf_eq_ok inside
  refine (safe_encodeRawFrom codec calm items 0 _ (by rw [lookupRespHdrSize]; omega)).bind
    fun dataOffset => ?_
  exact safe_finishLookupResponse _ _ _ (Nat.le_refl _) (by rw [counted, lookupRespHdrSize]; omega)

end Encoder

/-! ### The size of a response -/

/-- The size computed up front is where the last item ends. -/
theorem foldlM_itemSizes {items : List Bytes} {data size : Nat}
    (ran : items.foldlM (fun data item => okOr (checkedAdd (align8 data) item.length)
      NipcError.overflow) data = .ok size) : size = endFrom data items := by
  induction items generalizing data with
  | nil => exact (Except.ok.inj ran).symm
  | cons item rest ih =>
    rw [List.foldlM_cons] at ran
    obtain ⟨next, added, more⟩ := bind_eq_ok ran
    obtain ⟨rfl, -⟩ := checkedAdd_eq_some (okOr_eq_ok added)
    exact ih more

/-- The size computed for a response is its length. -/
theorem lookupRawResponseSize_eq_ok {items : List Bytes} {size : Nat}
    (ran : lookupRawResponseSize lookupRespHdrSize items.length items = .ok size)
    (generation : UInt64) : size = (responseImage generation items).length := by
  obtain ⟨-, ran⟩ := mul_eq_ok ran
  obtain ⟨data, added, folded⟩ := bind_eq_ok ran
  obtain ⟨rfl, -⟩ := checkedAdd_eq_some (okOr_eq_ok added)
  rw [foldlM_itemSizes folded, length_responseImage, lookupRespHdrSize, lookupDirEntrySize,
    Nat.mul_comm]
  exact endFrom_add (16 + 8 * items.length) 0 items (by omega)

/-! ### The encoder on valid items -/

/-- An item the reader of this method accepts. -/
def ItemCodec.Valid (codec : ItemCodec α) (item : Bytes) : Prop :=
  ∃ value, codec.decodeItem item = .ok value

section Valid

variable (codec : ItemCodec α)
  (long : ∀ item value, codec.decodeItem item = .ok value → codec.itemHdrSize ≤ item.length)

include long

/-- The loop succeeds if the items fit, and ends in an overflow if they do not. -/
theorem run_encodeRawFrom (max : Nat) (rest items : List Bytes) (buf tail : Bytes)
    (laid : Laid 16 max (16 + 8 * max) buf items tail) (all : items.length + rest.length ≤ max)
    (few : max < 2 ^ 32) (valid : ∀ item ∈ rest, codec.Valid item)
    (small : 16 + 8 * max + endFrom 0 (items ++ rest) < 2 ^ 32) :
    if 16 + 8 * max + endFrom 0 (items ++ rest) ≤ buf.length then
      ∃ result final, (encodeRawFrom codec 16 items.length
        (16 + 8 * max + endFrom 0 items) rest).run buf = (.ok result, final)
    else
      ((encodeRawFrom codec 16 items.length (16 + 8 * max + endFrom 0 items) rest).run buf).1 =
        .error (.err .overflow) := by
  induction rest generalizing items buf tail with
  | nil =>
    have length := laid.length
    rw [List.append_nil, if_pos (by omega)]
    exact ⟨_, _, rfl⟩
  | cons item rest ih =>
    obtain ⟨value, decoded⟩ := valid item List.mem_cons_self
    have header := long item value decoded
    rw [List.length_cons] at all
    rw [List.append_cons] at small ⊢
    -- The end of this item is at most the end of all of them.
    have grows : align8 (endFrom 0 items) + item.length ≤
        endFrom 0 (items ++ [item] ++ rest) := by
      rw [endFrom_append, endFrom_append]
      exact le_endFrom _ rest
    by_cases room : 16 + 8 * max + align8 (endFrom 0 items) + item.length ≤ buf.length
    · have fits : RawFits codec max buf.length items item :=
        ⟨header, ⟨value, decoded⟩, room, by rw [usizeMax]; omega, by omega, by omega⟩
      have kept := laid.length_push item (by omega) room
      rw [run_encodeRawFrom_cons codec max buf tail items item rest laid (by omega) few fits,
        ← kept]
      exact ih _ _ _ (laid.push item (by omega) (by omega))
        (by rw [List.length_append, List.length_singleton]; omega)
        (fun other member => valid other (List.mem_cons_of_mem _ member)) small
    · rw [if_neg (by omega)]
      unfold encodeRawFrom
      rw [Prog.guard_bind (by omega), decoded, Prog.ofRes_ok_bind, align8_add _ _ (by omega)]
      dsimp only
      rw [Prog.add_bind (by omega), Prog.run_bind_ok (Prog.run_get _), rejectIf_of (by omega)]
      rfl

variable {items : List Bytes} (generation : UInt64)
  (valid : ∀ item ∈ items, codec.Valid item)
  (small : (responseImage generation items).length < 2 ^ 32)

include valid small

theorem run_encodeRawResponse (buf : Bytes) :
    if (responseImage generation items).length ≤ buf.length then
      ∃ result final, (encodeRawResponse codec lookupRespHdrSize generation items).run buf =
        (.ok result, final)
    else ((encodeRawResponse codec lookupRespHdrSize generation items).run buf).1 =
      .error (.err .overflow) := by
  rw [length_responseImage] at small ⊢
  have few : items.length < 2 ^ 32 := by omega
  have counted := toNat_ofNat32 few
  unfold encodeRawResponse
  rw [checkedU32_of_lt few, Prog.ofRes_ok_bind, lookupDataOffset_eq, Prog.ofRes_ok_bind, counted,
    Prog.run_bind_ok (Prog.run_get _)]
  by_cases directory : buf.length < 16 + 8 * items.length
  · rw [if_neg (by omega), rejectIf_of directory]
    rfl
  · rw [Prog.guard_bind directory]
    have start := Laid.start 16 items.length (16 + 8 * items.length) buf (by omega)
    have loop := run_encodeRawFrom codec long items.length items [] buf _ start
      (by rw [List.length_nil]; omega) few valid (by rw [List.nil_append]; exact small)
    by_cases room : 16 + 8 * items.length + endFrom 0 items ≤ buf.length
    · rw [List.nil_append, if_pos room] at loop
      obtain ⟨result, filled, encoded⟩ := loop
      obtain ⟨⟨tail, laid⟩, absolute, rfl, -⟩ := encodeRawFrom_eq_ok codec items.length items
        buf _ filled [] result start (absRepresentable_nil _) (by rw [List.length_nil]; omega) few
        encoded
      obtain ⟨rest, finished⟩ := run_finishLookupResponse items.length filled tail items generation
        laid few absolute
      rw [if_pos room]
      exact ⟨_, _, (Prog.run_bind_ok encoded).trans finished⟩
    · rw [List.nil_append, if_neg room] at loop
      rw [if_neg room]
      exact congrArg Prod.fst (Prog.run_bind_error (Prod.ext loop rfl))

end Valid

/-! ### The round trip -/

/-- A view of a response that has these items and this generation. -/
structure LookupResponseView.Carries (view : LookupResponseView) (generation : UInt64)
    (items : List Bytes) : Prop where
  count : view.itemCount.toNat = items.length
  generation : view.generation = generation
  rawItem : ∀ index item, items[index]? = some item →
    view.rawItem (UInt32.ofNat index) = .ok item

/-- What an encoder of raw responses and the reader of its method do together. -/
structure RoundTrips (codec : ItemCodec α)
    (encode : List Bytes → UInt64 → Prog NipcError Bytes Nat) : Prop where
  /-- A buffer of the computed size is filled and reads back as the items. -/
  full : ∀ items generation size, (∀ item ∈ items, codec.Valid item) →
    lookupRawResponseSize lookupRespHdrSize items.length items = .ok size → size < 2 ^ 32 →
    ∀ buf : Bytes, buf.length = size → ∃ final view,
      (encode items generation).run buf = (.ok size, final) ∧
        decodeLookupResponse codec final = .ok view ∧ view.Carries generation items
  /-- A shorter one is refused. -/
  short : ∀ items generation size, (∀ item ∈ items, codec.Valid item) →
    lookupRawResponseSize lookupRespHdrSize items.length items = .ok size → size < 2 ^ 32 →
    ∀ buf : Bytes, buf.length < size →
      ((encode items generation).run buf).1 = .error (.err .overflow)
  /-- An item that is not valid is refused. -/
  invalid : ∀ items generation, (∃ item ∈ items, ¬ codec.Valid item) → ∀ buf,
    ∃ error, ((encode items generation).run buf).1 = .error (.err error)

/-- For any codec whose items are as long as their header. -/
theorem roundTrips_of_codec (codec : ItemCodec α)
    (long : ∀ item value, codec.decodeItem item = .ok value → codec.itemHdrSize ≤ item.length)
    (calm : ∀ item, Ordinary (fun _ => True) (codec.decodeItem item)) :
    RoundTrips codec fun items generation =>
      encodeRawResponse codec lookupRespHdrSize generation items where
  full := by
    intro items generation size valid computed small buf length
    have sized := lookupRawResponseSize_eq_ok computed generation
    have outcome := run_encodeRawResponse codec long generation valid (by omega) buf
    rw [if_pos (by omega)] at outcome
    obtain ⟨result, final, ran⟩ := outcome
    have kept := (safe_encodeRawResponse codec calm size generation items buf length).2
    rw [ran] at kept
    obtain ⟨rest, rfl, rfl, representable, decodes⟩ := encodeRawResponse_eq_ok _ _ _ _ _ _ ran
    -- The response fills the buffer, so nothing stands behind it.
    have nothing : rest = [] := by
      rw [List.length_append] at kept
      exact List.length_eq_zero_iff.mp (by omega)
    rw [nothing, List.append_nil, ← sized] at ran
    refine ⟨_, _, ran, decodeLookupResponse_image representable generation codec
      (fun item member => (decodes item member).1) fun item member => (decodes item member).2, ?_⟩
    exact ⟨UInt32.toNat_ofNat_of_lt' representable.count, rfl, fun index item found =>
      (item_image representable generation codec index item found _ rfl rfl).1⟩
  short := by
    intro items generation size valid computed small buf length
    have sized := lookupRawResponseSize_eq_ok computed generation
    have outcome := run_encodeRawResponse codec long generation valid (by omega) buf
    rwa [if_neg (by omega)] at outcome
  invalid := by
    rintro items generation ⟨item, member, refused⟩ buf
    have ordinary := (safe_encodeRawResponse codec calm buf.length generation items buf rfl).1
    match ran : (encodeRawResponse codec lookupRespHdrSize generation items).run buf with
    | (.ok result, final) =>
      obtain ⟨-, -, -, -, decodes⟩ := encodeRawResponse_eq_ok _ _ _ _ _ _ ran
      exact absurd (decodes item member).2 refused
    | (.error (.err error), _) => exact ⟨error, rfl⟩
    | (.error .panic, _) =>
      rw [ran] at ordinary
      exact ordinary.elim
    | (.error .fuel, _) =>
      rw [ran] at ordinary
      exact ordinary.elim

theorem decodeAppsItem_long {item : Bytes} {value : AppsLookupItemView}
    (decoded : decodeAppsItem item = .ok value) : appsLookupItemHdrSize ≤ item.length := by
  obtain ⟨_, long, -⟩ := bind_eq_ok decoded
  exact not_lt.mp (rejectIf_eq_ok long)

theorem decodeCgroupsItem_long {item : Bytes} {value : CgroupsLookupItemView}
    (decoded : decodeCgroupsItem item = .ok value) :
    cgroupsLookupItemHdrSize ≤ item.length := by
  obtain ⟨_, long, -⟩ := bind_eq_ok decoded
  exact not_lt.mp (rejectIf_eq_ok long)

/-- The raw responses of both lookup methods make the round trip. -/
theorem rawResponses_roundTrip :
    RoundTrips appsItemCodec encodeAppsLookupRawResponse ∧
      RoundTrips cgroupsItemCodec encodeCgroupsLookupRawResponse :=
  ⟨roundTrips_of_codec appsItemCodec (fun _ _ => decodeAppsItem_long) ordinary_decodeAppsItem,
    roundTrips_of_codec cgroupsItemCodec (fun _ _ => decodeCgroupsItem_long)
      ordinary_decodeCgroupsItem⟩

/-- Two apps items, of 65 and 63 bytes. -/
def rawPair : List Bytes :=
  [(AppsItem.mk 0 0 3 41 1 5 9 [97] [47] [] []).image,
    (AppsItem.placeholder pidLookupUnknown 42).image]

theorem rawResponses_roundTrip_pair :
    (∃ final view, (encodeAppsLookupRawResponse rawPair 7).run (List.replicate 167 255) =
        (.ok 167, final) ∧
      decodeLookupResponse appsItemCodec final = .ok view ∧ view.Carries 7 rawPair) ∧
    ((encodeAppsLookupRawResponse rawPair 7).run (List.replicate 166 255)).1 =
      .error (.err .overflow) ∧
    ∃ error, ((encodeCgroupsLookupRawResponse [[1, 2, 3]] 7).run (zeros 64)).1 =
      .error (.err error) := by
  have valid : ∀ item ∈ rawPair, appsItemCodec.Valid item := by
    intro item member
    rcases List.mem_pair.mp member with rfl | rfl
    · exact ⟨_, rfl⟩
    · exact ⟨_, rfl⟩
  have size : lookupRawResponseSize lookupRespHdrSize rawPair.length rawPair = .ok 167 := by
    decide +kernel
  refine ⟨rawResponses_roundTrip.1.full rawPair 7 167 valid size (by decide) _
    List.length_replicate, ?_, ?_⟩
  · exact rawResponses_roundTrip.1.short rawPair 7 167 valid size (by decide) _
      (by rw [List.length_replicate]; decide)
  · refine rawResponses_roundTrip.2.invalid [[1, 2, 3]] 7 ⟨_, List.mem_singleton_self _, ?_⟩ _
    rintro ⟨value, decoded⟩
    exact absurd (decodeCgroupsItem_long decoded) (by decide)

end NetIpc
