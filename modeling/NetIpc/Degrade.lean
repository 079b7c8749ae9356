/-
This file follows a batch of adds through a whole dispatch and reads the statuses of
the response.

A handler that answers every requested key in order leaves a response whose items are
given up to some index and PAYLOAD_EXCEEDED from there; only the first item can be
OVERSIZED_ITEM, and it is exactly when it does not leave room for the placeholders of
the other keys. That is less than what a client reads into the status: an item can be
refused for good although it would fit a response of its own.
-/

import NetIpc.Reserve

namespace NetIpc

open LookupBuilder

/-! ### A batch through a dispatch -/

section Dispatch

variable {request item : Type} {decode : Bytes → Res NipcError request}
  {itemCount : request → UInt32} {prepare : request → Prog NipcError LookupBuilder Unit}
  {add : item → Prog NipcError LookupBuilder Unit} {req resp : Bytes}
  {handler : Handler request item} {view : request} {answers : List Answer} {lens : List Nat}
  (decoded : decode req = .ok view) (prepares : Prepares (prepare view))
  (decides : List.Forall₂ (fun item answer => Decides (add item) answer)
    (addsOf (handler view).1) answers)
  (counted : answers.length = (itemCount view).toNat)

include decoded prepares decides counted

/-- The response of a dispatch that answered every key. -/
theorem dispatchTraced_degraded (addressable : resp.length < 2 ^ 63)
    (reserves : ∀ start, handlerBuilder itemCount prepare view resp = .ok start →
      Reserves (itemCount view) lens start) {size : Nat} {added : List item} {final : Bytes}
    (ran : (dispatchTraced decode itemCount prepare add req handler).run resp =
      (.ok (size, added), final)) :
    ∃ images, final.take size = responseImage (lastGeneration 0 (handler view).1) images ∧
      Representable images ∧
      Degraded (FirstFits resp.length (itemCount view).toNat lens) false 0 answers images ∧
      added = addsOf (handler view).1 := by
  obtain ⟨other, start, after, done, same, started, called, -, -, full, finished, rfl⟩ :=
    dispatchTraced_steps ran
  rw [decoded] at same
  obtain rfl := Except.ok.inj same
  obtain ⟨holds, generation, -, normal⟩ := handlerBuilder_eq_ok prepares started
  have count := decides.length_eq
  obtain ⟨images, held, degraded, last, same⟩ := runCalls_degraded addressable _ decides
    (reserves start started) holds called (by rw [full, List.length_nil, count, counted]; omega)
  rw [List.nil_append] at held
  obtain ⟨rest, result⟩ := run_finish held
  rw [result] at finished
  cases finished
  rw [normal] at degraded
  refine ⟨images, ?_, Holds.representable held, degraded, same⟩
  rw [List.take_left' rfl, last, generation]

/-- With space for the placeholders of all keys a dispatch answers every key. -/
theorem dispatchTraced_ok {start : LookupBuilder} (small : resp.length < 2 ^ 32)
    (started : handlerBuilder itemCount prepare view resp = .ok start)
    (reserves : Reserves (itemCount view) lens start)
    (lengths : lens = answers.map fun answer => answer.exceeded.length)
    (room : 16 + 8 * (itemCount view).toNat + reserve lens ≤ resp.length)
    (accepted : (handler view).2 = true) :
    ∃ size final, (dispatchTraced decode itemCount prepare add req handler).run resp =
      (.ok (size, addsOf (handler view).1), final) := by
  obtain ⟨holds, -, clean, -⟩ := handlerBuilder_eq_ok prepares started
  have first := align8_dataOffset holds
  rw [endFrom, show align8 0 = 0 from rfl, Nat.add_zero] at first
  obtain ⟨images, after, called, held, count, done⟩ := runCalls_ok small _ decides reserves holds
    lengths (.inr (by rw [first]; exact room)) clean
  obtain ⟨rest, ran⟩ := dispatchTraced_run decoded (by omega) started called accepted done held
    (by rw [List.nil_append, count, decides.length_eq, counted])
  exact ⟨_, _, ran⟩

end Dispatch

/-! ### The statuses of a response -/

/-- The status of one item of a response. -/
def statusAt {α : Type} (codec : ItemCodec α) (status : α → UInt16) (response : Bytes)
    (index : Nat) : Res NipcError UInt16 := do
  let view ← decodeLookupResponse codec response
  let shown ← view.item codec (UInt32.ofNat index)
  return status shown

/-- The bytes can be read as an item with this status, if their length fits a word. -/
def ReadsAs {α : Type} (codec : ItemCodec α) (status : α → UInt16) (image : Bytes)
    (value : UInt16) : Prop :=
  image.length < 2 ^ 32 → codec.itemHdrSize ≤ image.length ∧
    ∃ shown, codec.decodeItem image = .ok shown ∧ status shown = value

/-- Every answer can be read, with the status it stands for. -/
structure Readable {α : Type} (codec : ItemCodec α) (status : α → UInt16)
    (exceeded oversized : UInt16) (answer : Answer) (given : UInt16) : Prop where
  full : (answer.known = true → answer.encodable = true) →
    ReadsAs codec status answer.full given
  exceeded : ReadsAs codec status answer.exceeded exceeded
  oversized : ReadsAs codec status answer.oversized oversized

/-- The statuses of a batch: the items' own up to `kept`, the first one apart, then `exceeded`. -/
def Statuses (firstFits : Answer → Prop) (exceeded oversized : UInt16) (kept : Nat)
    (answers : List Answer) (givens : List UInt16) (statusOf : Nat → Res NipcError UInt16) :
    Prop :=
  ∀ index answer given, answers[index]? = some answer → givens[index]? = some given →
    ∃ value, statusOf index = .ok value ∧
      (index < kept → value = given ∧ (index = 0 → firstFits answer) ∨
        value = oversized ∧ index = 0 ∧ ¬ firstFits answer) ∧
      (kept ≤ index → value = exceeded)

section Statuses

variable {α : Type} {codec : ItemCodec α} {status : α → UInt16} {exceeded oversized : UInt16}
  {firstFits : Answer → Prop} {answers : List Answer} {givens : List UInt16} {images : List Bytes}

theorem statusAt_image (representable : Representable images) (generation : UInt64)
    (long : ∀ image ∈ images, codec.itemHdrSize ≤ image.length)
    (decodes : ∀ image ∈ images, ∃ value, codec.decodeItem image = .ok value)
    {index : Nat} {image : Bytes} {shown : α} (found : images[index]? = some image)
    (decoded : codec.decodeItem image = .ok shown) :
    statusAt codec status (responseImage generation images) index = .ok (status shown) := by
  rw [statusAt, decodeLookupResponse_image representable generation codec long decodes, ok_bind,
    (item_image representable generation codec index image found _ rfl rfl).2, decoded]
  rfl

/-- What a client reads in the response of a batch. -/
theorem statuses_of_degraded (degraded : Degraded firstFits false 0 answers images)
    (representable : Representable images) (generation : UInt64)
    (readable : List.Forall₂ (Readable codec status exceeded oversized) answers givens) :
    (∃ view, decodeLookupResponse codec (responseImage generation images) = .ok view ∧
      view.itemCount = UInt32.ofNat answers.length) ∧
    ∃ kept, (answers ≠ [] → 0 < kept) ∧ Statuses firstFits exceeded oversized kept answers givens
      (statusAt codec status (responseImage generation images)) := by
  obtain ⟨kept, threshold, -, positive⟩ := degraded.threshold
  have reads (index : Nat) (answer : Answer) (given : UInt16)
    (found : answers[index]? = some answer)
      (listed : givens[index]? = some given) : ∃ image, images[index]? = some image ∧
        ∃ value, ReadsAs codec status image value ∧
          (index < kept → value = given ∧ (index = 0 → firstFits answer) ∨
            value = oversized ∧ index = 0 ∧ ¬ firstFits answer) ∧
          (kept ≤ index → value = exceeded) := by
    obtain ⟨bound, same⟩ := List.getElem?_eq_some_iff.mp found
    have here := List.getElem?_eq_getElem (threshold.same.symm ▸ bound)
    refine ⟨_, here, ?_⟩
    obtain ⟨below, listedSame⟩ := List.getElem?_eq_some_iff.mp listed
    have read := readable.get bound below
    rw [List.get_eq_getElem, List.get_eq_getElem, same, listedSame] at read
    by_cases inside : index < kept
    · rcases threshold.given index answer _ inside found here with
        ⟨full, encodable, fits⟩ | ⟨placeholder, first, past⟩
      · rw [full]
        rw [Nat.zero_add] at fits
        exact ⟨given, read.full encodable, fun _ => .inl ⟨rfl, fits⟩, fun above => by omega⟩
      · rw [placeholder]
        rw [Nat.zero_add] at first
        exact ⟨oversized, read.oversized, fun _ => .inr ⟨rfl, first, past⟩, fun above => by omega⟩
    · rw [threshold.exceeded index answer _ (not_lt.mp inside) found here]
      exact ⟨exceeded, read.exceeded, fun below => absurd below inside, fun _ => rfl⟩
  have each (image : Bytes) (member : image ∈ images) :
      codec.itemHdrSize ≤ image.length ∧ ∃ value, codec.decodeItem image = .ok value := by
    obtain ⟨index, found⟩ := List.getElem?_of_mem member
    obtain ⟨bound, -⟩ := List.getElem?_eq_some_iff.mp found
    have inside : index < answers.length := threshold.same ▸ bound
    obtain ⟨other, here, value, read, -⟩ := reads index _ _ (List.getElem?_eq_getElem inside)
      (List.getElem?_eq_getElem (readable.length_eq ▸ inside))
    rw [found] at here
    obtain rfl := Option.some.inj here
    obtain ⟨long, shown, decoded, -⟩ := read (Representable.length_lt representable image member)
    exact ⟨long, shown, decoded⟩
  refine ⟨⟨_, decodeLookupResponse_image representable generation codec
    (fun image member => (each image member).1) (fun image member => (each image member).2),
    by rw [threshold.same]⟩, kept, positive rfl rfl, fun index answer given found listed => ?_⟩
  obtain ⟨image, here, value, read, facts⟩ := reads index answer given found listed
  obtain ⟨-, shown, decoded, rfl⟩ :=
    read (Representable.length_lt representable image (List.mem_of_getElem? here))
  exact ⟨_, statusAt_image representable generation (fun image member => (each image member).1)
    (fun image member => (each image member).2) here decoded, facts⟩

/-- A response that counts the items of a batch and shows their statuses. -/
structure ShowsBatch {item : Type} (codec : ItemCodec α) (status : α → UInt16)
    (exceeded oversized : UInt16) (limit : Nat) (lens : List Nat) (answerOf : item → Answer)
    (givenOf : item → UInt16) (items : List item) (response : Bytes) : Prop where
  counted : ∃ view, decodeLookupResponse codec response = .ok view ∧
    view.itemCount = UInt32.ofNat items.length
  statuses : ∃ kept, (items ≠ [] → 0 < kept) ∧
    Statuses (FirstFits limit items.length lens) exceeded oversized kept (items.map answerOf)
      (items.map givenOf) (statusAt codec status response)

/-- What a client reads after a dispatch that answered every key. -/
theorem showsBatch_of_run {request call item : Type} {decode : Bytes → Res NipcError request}
    {itemCount : request → UInt32} {prepare : request → Prog NipcError LookupBuilder Unit}
    {add : call → Prog NipcError LookupBuilder Unit} {req resp final : Bytes}
    {handler : Handler request call} {view : request} {lens : List Nat} {items : List item}
    {answerOf : item → Answer} {givenOf : item → UInt16} {size : Nat} {added : List call}
    (decoded : decode req = .ok view) (prepares : Prepares (prepare view))
    (decides : List.Forall₂ (fun call answer => Decides (add call) answer)
      (addsOf (handler view).1) (items.map answerOf))
    (counted : items.length = (itemCount view).toNat) (addressable : resp.length < 2 ^ 63)
    (reserves : ∀ start, handlerBuilder itemCount prepare view resp = .ok start →
      Reserves (itemCount view) lens start)
    (readable : ∀ item ∈ items,
      Readable codec status exceeded oversized (answerOf item) (givenOf item))
    (ran : (dispatchTraced decode itemCount prepare add req handler).run resp =
      (.ok (size, added), final)) :
    ShowsBatch codec status exceeded oversized resp.length lens answerOf givenOf items
      (final.take size) := by
  obtain ⟨images, response, representable, degraded, -⟩ := dispatchTraced_degraded decoded
    prepares decides ((List.length_map _).trans counted) addressable reserves ran
  have each : List.Forall₂ (Readable codec status exceeded oversized) (items.map answerOf)
      (items.map givenOf) := by
    rw [List.forall₂_map_left_iff, List.forall₂_map_right_iff, List.forall₂_same]
    exact readable
  obtain ⟨count, kept, positive, statuses⟩ := statuses_of_degraded degraded representable
    (lastGeneration 0 (handler view).1) each
  rw [← response, List.length_map] at count
  rw [← response, ← counted] at statuses
  exact ⟨count, kept, fun some => positive (mt List.map_eq_nil_iff.mp some), statuses⟩

end Statuses

/-! ### Two readings of the statuses -/

/-- Only an item that a response of its own could not hold is answered as oversized. -/
def OversizedSound {item : Type} (statusOf : Nat → Res NipcError UInt16) (oversized : UInt16)
    (limit : Nat) (sizeOf : item → Nat) (items : List item) : Prop :=
  ∀ index item, items[index]? = some item → ∃ status, statusOf index = .ok status ∧
    (status = oversized → limit < 16 + 8 + sizeOf item)

/-- A first item that a response of its own could hold also leaves room, in the response to the
whole batch, for the alignment and the placeholders behind it. -/
def FirstLeavesRoom {item : Type} (limit : Nat) (lens : List Nat) (sizeOf labelsOf : item → Nat)
    (items : List item) : Prop :=
  ∀ first, items[0]? = some first → 16 + 8 + sizeOf first ≤ limit →
    labelsOf first < 2 ^ 16 ∧
      align8 (16 + 8 * items.length + sizeOf first) + reserve (lens.drop 1) ≤ limit

/-- Every item is answered, the first one not as exceeded, and none is given after one that is. -/
structure DegradesGracefully {α : Type} (codec : ItemCodec α) (status : α → UInt16)
    (exceeded : UInt16) (count : Nat) (response : Bytes) : Prop where
  counted : ∃ view, decodeLookupResponse codec response = .ok view ∧ view.itemCount.toNat = count
  answered : ∀ index < count, ∃ value, statusAt codec status response index = .ok value
  first : statusAt codec status response 0 ≠ .ok exceeded
  suffix : ∀ index later, index < later → later < count →
    statusAt codec status response index = .ok exceeded →
    statusAt codec status response later = .ok exceeded

section Readings

variable {item α : Type} {codec : ItemCodec α} {status : α → UInt16} {response : Bytes}
  {exceeded oversized : UInt16} {items : List item} {answerOf : item → Answer}
  {givenOf : item → UInt16} {kept limit : Nat} {lens : List Nat}
  {statusOf : Nat → Res NipcError UInt16}

/-- The statuses of a batch, by item. -/
theorem Statuses.at_item {firstFits : Answer → Prop}
    (statuses : Statuses firstFits exceeded oversized kept (items.map answerOf)
      (items.map givenOf) statusOf) {index : Nat} {item : item}
    (found : items[index]? = some item) :
    ∃ value, statusOf index = .ok value ∧
      (index < kept → value = givenOf item ∧ (index = 0 → firstFits (answerOf item)) ∨
        value = oversized ∧ index = 0 ∧ ¬ firstFits (answerOf item)) ∧
      (kept ≤ index → value = exceeded) :=
  statuses index _ _ (by rw [List.getElem?_map, found]; rfl) (by rw [List.getElem?_map, found]; rfl)

/-- The verdict on the first item is sound exactly when the item leaves room for the others. -/
theorem oversizedSound_iff {sizeOf labelsOf : item → Nat}
    (shows : ShowsBatch codec status exceeded oversized limit lens answerOf givenOf items response)
    (apart : exceeded ≠ oversized) (others : ∀ item ∈ items, givenOf item ≠ oversized)
    (known : ∀ item ∈ items, (answerOf item).known = true)
    (encodable : ∀ item ∈ items, (answerOf item).encodable = decide (labelsOf item < 2 ^ 16))
    (sized : ∀ item ∈ items, (answerOf item).full.length = sizeOf item) :
    OversizedSound (statusAt codec status response) oversized limit sizeOf items ↔
      FirstLeavesRoom limit lens sizeOf labelsOf items := by
  obtain ⟨-, kept, positive, statuses⟩ := shows
  have firstFits (item : item) (member : item ∈ items) :
      FirstFits limit items.length lens (answerOf item) ↔ labelsOf item < 2 ^ 16 ∧
        align8 (16 + 8 * items.length + sizeOf item) + reserve (lens.drop 1) ≤ limit := by
    rw [FirstFits, known item member, encodable item member, sized item member, decide_eq_true_iff]
    exact ⟨fun fits => fits rfl, fun fits _ => fits⟩
  constructor
  · intro sound first found alone
    have member := List.mem_of_getElem? found
    obtain ⟨value, read, given, -⟩ := statuses.at_item found
    obtain ⟨status, same, final⟩ := sound 0 first found
    rw [read] at same
    obtain rfl := Except.ok.inj same
    rcases given (positive (List.ne_nil_of_mem member)) with ⟨-, fits⟩ | ⟨verdict, -⟩
    · exact (firstFits first member).mp (fits rfl)
    · exact absurd (final verdict) (not_lt.mpr alone)
  · intro room index item found
    have member := List.mem_of_getElem? found
    obtain ⟨value, read, given, after⟩ := statuses.at_item found
    refine ⟨value, read, fun verdict => ?_⟩
    subst verdict
    have inside : index < kept := by
      by_contra late
      exact apart (after (not_lt.mp late)).symm
    rcases given inside with ⟨same, -⟩ | ⟨-, rfl, past⟩
    · exact absurd same.symm (others item member)
    · by_contra alone
      exact past ((firstFits item member).mpr (room item found (not_lt.mp alone)))

theorem degradesGracefully_of_shows {count : Nat}
    (shows : ShowsBatch codec status exceeded oversized limit lens answerOf givenOf items response)
    (same : items.length = count) (apart : oversized ≠ exceeded)
    (others : ∀ item ∈ items, givenOf item ≠ exceeded) (few : count < 2 ^ 32) (some : 0 < count) :
    DegradesGracefully codec status exceeded count response := by
  subst same
  obtain ⟨counted, kept, positive, statuses⟩ := shows
  have positive := positive (List.ne_nil_of_length_pos some)
  have read (index : Nat) (below : index < items.length) :=
    statuses.at_item (List.getElem?_eq_getElem below)
  -- An item below the threshold is not answered as exceeded.
  have given (index : Nat) (below : index < items.length) (inside : index < kept) :
      statusAt codec status response index ≠ .ok exceeded := by
    obtain ⟨value, found, early, -⟩ := read index below
    rw [found]
    intro wrong
    obtain rfl := Except.ok.inj wrong
    rcases early inside with ⟨own, -⟩ | ⟨verdict, -⟩
    · exact others _ (List.getElem_mem below) own.symm
    · exact apart verdict.symm
  refine ⟨?_, ?_, ?_, ?_⟩
  · obtain ⟨view, decoded, count⟩ := counted
    exact ⟨view, decoded, by rw [count]; exact UInt32.toNat_ofNat_of_lt' few⟩
  · intro index below
    obtain ⟨value, found, -⟩ := read index below
    exact ⟨value, found⟩
  · exact given 0 some positive
  · intro index later before below wrong
    have late : kept ≤ index := by
      by_contra early
      exact given index (before.trans below) (not_le.mp early) wrong
    obtain ⟨value, found, -, after⟩ := read later below
    rw [found, after (late.trans before.le)]

end Readings

end NetIpc
