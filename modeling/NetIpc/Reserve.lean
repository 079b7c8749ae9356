/-
This file follows a batch of adds through the builder when the full items do not all fit.

The builder keeps space for the placeholders of the keys still to come. `reserve` is
that space; the two functions of the source that test it, with a table of suffix sums
and with one fixed length, both compare with it. An add that passes its checks picks
one of three answers from the state it finds (`Answer.chosen`). As long as the
reserved space is there an answer can always be placed, and placing it keeps the space
for the rest: this is the invariant that carries a whole batch. The answers of a batch
are then some full items and, after the first one that did not fit, placeholders only.
-/

import Mathlib.Data.List.Infix
import NetIpc.Dispatch

namespace NetIpc

open LookupBuilder

/-! ### Space for placeholders -/

/-- The space of items of these lengths laid out from an aligned offset. -/
def reserve : List Nat → Nat
  | [] => 0
  | len :: rest => if rest = [] then len else align8 len + reserve rest

theorem le_reserve (len : Nat) (rest : List Nat) : len ≤ reserve (len :: rest) := by
  have up := le_align8 len
  rw [reserve]
  split <;> omega

theorem reserve_cons {len : Nat} {rest : List Nat} (more : rest ≠ []) :
    reserve (len :: rest) = align8 len + reserve rest := by
  rw [reserve, if_neg more]

variable {lens : List Nat}

theorem reserve_pos (positive : ∀ len ∈ lens, 0 < len) (some : lens ≠ []) : 0 < reserve lens := by
  cases lens with
  | nil => exact absurd rfl some
  | cons len rest => exact (positive len List.mem_cons_self).trans_le (le_reserve len rest)

/-- The space of `count + 1` items of one length. -/
theorem reserve_replicate (len count : Nat) :
    reserve (List.replicate (count + 1) len) = len + count * align8 len := by
  induction count with
  | zero =>
    rw [Nat.zero_mul, List.replicate_one, reserve, if_pos rfl]
    rfl
  | succ count ih =>
    rw [List.replicate_succ, reserve_cons (by simp), ih, Nat.succ_mul]
    omega

/-- The space of all suffixes, as the table of the source has it. -/
def reserveTable (lens : List Nat) : List Nat := lens.tails.map reserve

theorem getD_reserveTable (lens : List Nat) (index : Nat) (inside : index ≤ lens.length) :
    (reserveTable lens).getD index 0 = reserve (lens.drop index) := by
  have tail : lens.tails[index]? = some (lens.drop index) := by
    rw [List.getElem?_eq_getElem (by rw [List.length_tails]; omega), List.getElem_tails]
  rw [reserveTable, List.getD_eq_getElem?_getD, List.getElem?_map, tail]
  rfl

theorem length_reserveTable (lens : List Nat) : (reserveTable lens).length = lens.length + 1 := by
  rw [reserveTable, List.length_map, List.length_tails]

theorem headD_reserveTable (lens : List Nat) : (reserveTable lens).headD 0 = reserve lens := by
  cases lens <;> rfl

/-- The cost the backward loop gives an item is the one `reserve` gives it. -/
theorem itemCost_eq {len : Nat} {rest : List Nat} (positive : ∀ len ∈ rest, 0 < len) :
    (if reserve rest > 0 then align8 len else len) + reserve rest = reserve (len :: rest) := by
  by_cases last : rest = []
  · subst last
    rfl
  · rw [if_pos (reserve_pos positive last), reserve_cons last]

theorem suffixSums_eq_ok {sums : List Nat} (positive : ∀ len ∈ lens, 0 < len)
    (ran : suffixSums lens = .ok sums) : sums = reserveTable lens := by
  induction lens generalizing sums with
  | nil =>
    cases ran
    rfl
  | cons len rest ih =>
    have restPositive : ∀ len ∈ rest, 0 < len := fun len member =>
      positive len (List.mem_cons_of_mem _ member)
    rw [suffixSums] at ran
    obtain ⟨later, restRan, ran⟩ := bind_eq_ok ran
    obtain rfl := ih restPositive restRan
    obtain ⟨cost, costed, ran⟩ := bind_eq_ok ran
    obtain ⟨_, -, ran⟩ := bind_eq_ok ran
    obtain rfl := Except.ok.inj ran
    rw [headD_reserveTable] at costed ⊢
    have same : cost = if reserve rest > 0 then align8 len else len := by
      split at costed
      · split at costed
        · rw [if_pos ‹_›, Except.ok.inj costed]
        · cases costed
      · rw [if_neg ‹_›, Except.ok.inj costed]
    rw [same, itemCost_eq restPositive]
    rfl

/-- The table is made when the space for all placeholders stays below the 32-bit range. -/
theorem suffixSums_of_lt (positive : ∀ len ∈ lens, 0 < len) (small : reserve lens + 8 ≤ 2 ^ 32) :
    suffixSums lens = .ok (reserveTable lens) := by
  induction lens with
  | nil => rfl
  | cons len rest ih =>
    have restPositive : ∀ len ∈ rest, 0 < len := fun len member =>
      positive len (List.mem_cons_of_mem _ member)
    have cost := @itemCost_eq len rest restPositive
    have up := le_align8 len
    have restSmall : reserve rest + 8 ≤ 2 ^ 32 := by omega
    rw [suffixSums, ih restPositive restSmall, ok_bind, headD_reserveTable]
    dsimp only
    by_cases more : reserve rest > 0
    · rw [if_pos more] at cost ⊢
      rw [if_pos (by omega), ok_bind, cost, guard_bind (by omega)]
      rfl
    · rw [if_neg more] at cost ⊢
      rw [ok_bind, cost, guard_bind (by omega)]
      rfl

theorem checkLens_of_lt (small : ∀ len ∈ lens, len < 2 ^ 32) : checkLens lens = .ok () := by
  induction lens with
  | nil => rfl
  | cons len rest ih =>
    rw [checkLens, checkedU32_of_lt (small len List.mem_cons_self), ok_bind]
    exact ih fun len member => small len (List.mem_cons_of_mem _ member)

theorem mem_le_reserve {len : Nat} (member : len ∈ lens) : len ≤ reserve lens := by
  induction lens with
  | nil => cases member
  | cons first rest ih =>
    rcases List.mem_cons.mp member with rfl | later
    · exact le_reserve _ _
    · rw [reserve_cons (List.ne_nil_of_mem later)]
      exact (ih later).trans (Nat.le_add_left _ _)

/-- An offset whose alignment is not a `usize` is not aligned inside the buffer either. -/
theorem lt_align8_of_lt {bufLen offset : Nat} (addressable : bufLen ≤ usizeMax)
    (large : offset > usizeMax - 7) : bufLen < align8 offset := by
  rw [usizeMax] at addressable large
  unfold align8
  omega

theorem payloadExceededSuffixFits_iff {bufLen offset first maxItems : Nat}
    (counted : lens.length = maxItems) (inside : first ≤ maxItems)
    (addressable : bufLen ≤ usizeMax) :
    payloadExceededSuffixFits bufLen offset (reserveTable lens) first maxItems = true ↔
      align8 offset + reserve (lens.drop first) ≤ bufLen := by
  rw [payloadExceededSuffixFits, if_neg (by rw [length_reserveTable]; omega),
    if_neg (by omega), getD_reserveTable _ _ (by omega)]
  split
  · rename_i large
    have beyond := lt_align8_of_lt addressable large
    simp only [Bool.false_eq_true, false_iff]
    omega
  · split
    · simp only [Bool.false_eq_true, false_iff]
      omega
    · rw [decide_eq_true_iff]
      omega

theorem payloadExceededFixedSuffixFits_iff {bufLen offset itemLen first maxItems : Nat}
    (inside : first ≤ maxItems) (addressable : bufLen ≤ usizeMax)
    (small : first < maxItems → itemLen + 7 ≤ usizeMax) :
    payloadExceededFixedSuffixFits bufLen offset itemLen first maxItems = true ↔
      align8 offset + reserve ((List.replicate maxItems itemLen).drop first) ≤ bufLen := by
  rw [payloadExceededFixedSuffixFits, if_neg (by omega), List.drop_replicate]
  by_cases large : offset > usizeMax - 7
  · have beyond := lt_align8_of_lt addressable large
    rw [if_pos large]
    simp only [Bool.false_eq_true, false_iff]
    omega
  rw [if_neg large]
  by_cases past : align8 offset > bufLen
  · rw [if_pos past]
    simp only [Bool.false_eq_true, false_iff]
    omega
  rw [if_neg past]
  cases remaining : maxItems - first with
  | zero =>
    rw [if_pos rfl, List.replicate_zero, reserve, Nat.add_zero]
    simp only [true_iff]
    omega
  | succ count =>
    rw [if_neg (Nat.succ_ne_zero _), Nat.add_sub_cancel, checkedAdd_of_le (small (by omega)),
      reserve_replicate]
    dsimp only
    -- A sum that is not a `usize` is more than the buffer has.
    by_cases product : count * align8 itemLen ≤ usizeMax
    · rw [checkedMul_of_le product]
      dsimp only
      by_cases sum : itemLen + count * align8 itemLen ≤ usizeMax
      · rw [checkedAdd_of_le sum]
        dsimp only
        rw [decide_eq_true_iff]
        omega
      · rw [show checkedAdd itemLen (count * align8 itemLen) = none from if_neg sum]
        simp only [Bool.false_eq_true, false_iff]
        omega
    · rw [show checkedMul count (align8 itemLen) = none from if_neg product]
      simp only [Bool.false_eq_true, false_iff]
      omega

/-! ### The answer to one add -/

/-- How an add that passes its checks can be answered: with its own item, or with one of two
placeholders of equal length. An item that is not KNOWN is as long as a placeholder. -/
structure Answer where
  known : Bool
  encodable : Bool
  full : Bytes
  exceeded : Bytes
  oversized : Bytes
  same : oversized.length = exceeded.length
  plain : known = false → full.length = exceeded.length

namespace Answer

/-- A KNOWN item has to be encodable and leave room for the placeholders to come. -/
def Fits (answer : Answer) (builder : LookupBuilder) : Prop :=
  answer.known = true → answer.encodable = true ∧ builder.PlanFits answer.full.length

instance (answer : Answer) (builder : LookupBuilder) : Decidable (answer.Fits builder) :=
  inferInstanceAs (Decidable (_ → _ ∧ _ ∧ _ ∧ _))

/-- The answer the builder gives, and whether it is in suffix mode then. -/
def chosen (answer : Answer) (builder : LookupBuilder) : Bytes × Bool :=
  if builder.payloadExceededSuffix = true then (answer.exceeded, true)
  else if answer.Fits builder then (answer.full, false)
  else if builder.itemCount = 0 then (answer.oversized, false)
  else (answer.exceeded, true)

/-- The builder after its answer was placed. -/
def next (answer : Answer) (builder : LookupBuilder) (maxItems : Nat) (items : List Bytes) :
    LookupBuilder :=
  LookupBuilder.pushed { builder with payloadExceededSuffix := (answer.chosen builder).2 } maxItems
    items (answer.chosen builder).1

variable {answer : Answer} {builder : LookupBuilder}

theorem chosen_suffix (suffix : builder.payloadExceededSuffix = true) :
    answer.chosen builder = (answer.exceeded, true) := if_pos suffix

section Chosen

variable (normal : builder.payloadExceededSuffix = false)

include normal

theorem chosen_full (fits : answer.Fits builder) :
    answer.chosen builder = (answer.full, false) := by
  rw [chosen, normal, if_neg (by decide), if_pos fits]

theorem chosen_oversized (past : ¬ answer.Fits builder) (first : builder.itemCount = 0) :
    answer.chosen builder = (answer.oversized, false) := by
  rw [chosen, normal, if_neg (by decide), if_neg past, if_pos first]

theorem chosen_exceeded (past : ¬ answer.Fits builder) (later : builder.itemCount ≠ 0) :
    answer.chosen builder = (answer.exceeded, true) := by
  rw [chosen, normal, if_neg (by decide), if_neg past, if_neg later]

end Chosen

end Answer

/-- A program that gives the answer, or fails when there is no room for it. -/
structure Decides (program : Prog NipcError LookupBuilder Unit) (answer : Answer) : Prop where
  ok : ∀ {size maxItems items builder}, Holds size maxItems items builder →
    Room size maxItems.toNat items (answer.chosen builder).1.length →
    program.run builder = (.ok (), answer.next builder maxItems.toNat items)
  error : ∀ {size maxItems items builder}, Holds size maxItems items builder →
    ¬ Room size maxItems.toNat items (answer.chosen builder).1.length →
    ∃ reason after, program.run builder = (.error reason, after) ∧
      Refused size maxItems items builder after

section Deciding

variable {size : Nat} {maxItems : UInt32} {items : List Bytes} {builder : LookupBuilder}
  {noted : Bool} {answer : Answer} {planned : Res NipcError ItemPlan}
  {oversized exceeded nonKnown : Prog NipcError LookupBuilder Unit}

variable {image : Bytes}

theorem Answer.next_of_chosen {suffix : Bool} (chosen : answer.chosen builder = (image, suffix)) :
    answer.next builder maxItems.toNat items =
      ({ builder with payloadExceededSuffix := suffix } : LookupBuilder).pushed maxItems.toNat items
        image := by
  rw [Answer.next, chosen]

/-- Setting a flag to the value it has changes nothing. -/
theorem Answer.next_of_kept {suffix : Bool} (chosen : answer.chosen builder = (image, suffix))
    (kept : builder.payloadExceededSuffix = suffix) :
    answer.next builder maxItems.toNat items = builder.pushed maxItems.toNat items image := by
  rw [Answer.next_of_chosen chosen, ← kept]

/-- What `note_item_overflow` does when the item does not fit. -/
theorem noteItemOverflow_decides (oversizedPlaces : Places oversized answer.oversized)
    (exceededPlaces : Places exceeded answer.exceeded) (holds : Holds size maxItems items builder)
    (normal : builder.payloadExceededSuffix = false) (past : ¬ answer.Fits builder) :
    (Room size maxItems.toNat items (answer.chosen builder).1.length →
      (noteItemOverflow oversized exceeded).run builder =
        (.ok (), answer.next builder maxItems.toNat items)) ∧
    (¬ Room size maxItems.toNat items (answer.chosen builder).1.length →
      ∃ reason after, (noteItemOverflow oversized exceeded).run builder =
        (.error reason, after) ∧ Refused size maxItems items builder after) := by
  by_cases first : items = []
  · have count := holds.itemCount_eq_zero_iff.mpr first
    have chosen := Answer.chosen_oversized normal past count
    rw [run_noteItemOverflow_first holds first, Answer.next_of_kept chosen normal, chosen]
    exact ⟨oversizedPlaces.ok holds, oversizedPlaces.error holds⟩
  · have count := mt holds.itemCount_eq_zero_iff.mp first
    have chosen := Answer.chosen_exceeded normal past count
    rw [run_noteItemOverflow_later holds first, Answer.next_of_chosen chosen, chosen]
    refine ⟨exceededPlaces.ok holds.suffixed.holds, fun noRoom => ?_⟩
    obtain ⟨reason, after, ran, kept⟩ := exceededPlaces.error holds.suffixed.holds noRoom
    exact ⟨reason, after, ran, holds.suffixed.trans kept⟩

/-- Both placeholders are as long as an item that is not KNOWN, so none has room without it. -/
theorem addOther_error (oversizedPlaces : Places oversized answer.oversized)
    (exceededPlaces : Places exceeded answer.exceeded)
    (nonKnownPlaces : Places nonKnown answer.full)
    (other : answer.known = false) (holds : Holds size maxItems items builder)
    (noRoom : ¬ Room size maxItems.toNat items answer.full.length) :
    ∃ reason after, (addOther nonKnown (noteItemOverflow oversized exceeded)).run builder =
      (.error reason, after) ∧ Refused size maxItems items builder after := by
  obtain ⟨reason, middle, ran, kept⟩ := nonKnownPlaces.error holds noRoom
  rw [addOther, Prog.run_inspect, ran]
  dsimp only
  split
  · rw [answer.plain other] at noRoom
    by_cases first : items = []
    · rw [run_noteItemOverflow_first kept.holds first]
      obtain ⟨reason, after, ran, later⟩ := oversizedPlaces.error kept.holds (by rwa [answer.same])
      exact ⟨reason, after, ran, kept.trans later⟩
    · rw [run_noteItemOverflow_later kept.holds first]
      obtain ⟨reason, after, ran, later⟩ := exceededPlaces.error kept.holds.suffixed.holds noRoom
      exact ⟨reason, after, ran, kept.trans (kept.holds.suffixed.trans later)⟩
  · exact ⟨reason, middle, rfl, kept⟩

/-- A planned item that fits is placed, unless its offset or size does not fit a word. -/
theorem placePlan_decides {plan : ItemPlan} {overflow : Prog NipcError LookupBuilder Unit}
    (writes : Writes plan.header plan.body image) (sized : plan.itemSize = image.length)
    (holds : Holds size maxItems items builder) (more : items.length < maxItems.toNat)
    (fits : builder.PlanFits image.length) :
    (Room size maxItems.toNat items image.length →
      (placePlan noted plan overflow).run builder =
        (.ok (), builder.pushed maxItems.toNat items image)) ∧
    (¬ Room size maxItems.toNat items image.length →
      ∃ reason after, (placePlan noted plan overflow).run builder = (.error reason, after) ∧
        Refused size maxItems items builder after) := by
  rw [run_placePlan_fits (by rwa [sized]), sized]
  refine ⟨placeItem_ok holds writes noted, fun noRoom => ?_⟩
  obtain ⟨reason, buf, error, ran, held⟩ := placeItem_error holds writes noted more fits.2.1 noRoom
  exact ⟨reason, _, ran, held, rfl, rfl, rfl⟩

/-- `add` of an item that passes its checks gives the chosen answer. -/
theorem addItem_decides (oversizedPlaces : Places oversized answer.oversized)
    (exceededPlaces : Places exceeded answer.exceeded)
    (nonKnownPlaces : answer.known = false → Places nonKnown answer.full)
    (plans : answer.known = true →
      (∃ plan, planned = .ok plan ∧ answer.encodable = true ∧
        Writes plan.header plan.body answer.full ∧ plan.itemSize = answer.full.length) ∨
      planned = .error (.err .overflow) ∧
        ¬ (answer.encodable = true ∧ answer.full.length ≤ usizeMax)) :
    Decides (addItem noted answer.known (.ok ()) planned nonKnown exceeded
      (noteItemOverflow oversized exceeded)) answer := by
  have both {size maxItems items builder} (holds : Holds size maxItems items builder) :
      (Room size maxItems.toNat items (answer.chosen builder).1.length →
        (addItem noted answer.known (.ok ()) planned nonKnown exceeded
          (noteItemOverflow oversized exceeded)).run builder =
          (.ok (), answer.next builder maxItems.toNat items)) ∧
      (¬ Room size maxItems.toNat items (answer.chosen builder).1.length →
        ∃ reason after, (addItem noted answer.known (.ok ()) planned nonKnown exceeded
          (noteItemOverflow oversized exceeded)).run builder = (.error reason, after) ∧
            Refused size maxItems items builder after) := by
    cases mode : builder.payloadExceededSuffix with
    | true =>
      have chosen := @Answer.chosen_suffix answer builder mode
      rw [run_addItem_suffix mode, Answer.next_of_kept chosen mode, chosen]
      exact ⟨exceededPlaces.ok holds, exceededPlaces.error holds⟩
    | false =>
      by_cases full : builder.itemCount ≥ builder.maxItems
      · rw [run_addItem_full mode full]
        exact ⟨fun room => absurd room.more (holds.full_iff.mp full), fun _ =>
          ⟨_, _, rfl, holds.noted _⟩⟩
      · have more := not_not.mp (mt holds.full_iff.mpr full)
        rw [run_addItem_checked mode full rfl]
        by_cases fits : answer.Fits builder
        · have chosen := Answer.chosen_full mode fits
          rw [Answer.next_of_kept chosen mode, chosen]
          cases known : answer.known with
          | true =>
            obtain ⟨encodable, planFits⟩ := fits known
            have bound := planFits.1
            rcases plans known with ⟨plan, rfl, -, writes, sized⟩ | ⟨-, past⟩
            · rw [if_pos rfl, addKnown]
              exact placePlan_decides writes sized holds more planFits
            · exact absurd ⟨encodable, by omega⟩ past
          | false =>
            rw [if_neg (by decide)]
            refine ⟨fun room => ?_, fun noRoom => addOther_error oversizedPlaces exceededPlaces
              (nonKnownPlaces known) known holds noRoom⟩
            rw [addOther, Prog.run_inspect, (nonKnownPlaces known).ok holds room]
            rfl
        · have known : answer.known = true := by
            by_contra other
            exact fits fun known => absurd known other
          have overflow : (addKnown noted planned (noteItemOverflow oversized exceeded)).run
              builder = (noteItemOverflow oversized exceeded).run builder := by
            rcases plans known with ⟨plan, rfl, encodable, -, sized⟩ | ⟨rfl, -⟩
            · rw [addKnown]
              refine run_placePlan_over fun planFits => fits fun _ => ⟨encodable, ?_⟩
              rwa [← sized]
            · rw [addKnown]
          rw [known, if_pos rfl, overflow]
          exact noteItemOverflow_decides oversizedPlaces exceededPlaces holds mode fits
  exact ⟨fun holds room => (both holds).1 room, fun holds noRoom => (both holds).2 noRoom⟩

end Deciding

/-! ### A batch of adds -/

/-- The builder was prepared for placeholders of these lengths, by a table or by one length. A
builder for no items is not prepared. -/
structure Reserves (maxItems : UInt32) (lens : List Nat) (builder : LookupBuilder) : Prop where
  counted : lens.length = maxItems.toNat
  prepared : 0 < maxItems.toNat →
    builder.payloadExceededFixedItemLen = none ∧
        builder.payloadExceededSuffixBytes = reserveTable lens ∨
      ∃ len < 2 ^ 16, builder.payloadExceededFixedItemLen = some len ∧
        lens = List.replicate maxItems.toNat len

/-- The first item of a batch leaves room for the placeholders of the others. -/
def FirstFits (size maxItems : Nat) (lens : List Nat) (answer : Answer) : Prop :=
  answer.known = true → answer.encodable = true ∧
    align8 (16 + 8 * maxItems + answer.full.length) + reserve (lens.drop 1) ≤ size

/-- The answers to a batch, from a builder in suffix mode or not that holds `count` items: the
first item is given or oversized, later ones are given up to some point and exceeded from there. -/
inductive Degraded (firstFits : Answer → Prop) : Bool → Nat → List Answer → List Bytes → Prop
  | nil {suffix : Bool} {count : Nat} : Degraded firstFits suffix count [] []
  | full {count : Nat} {answer : Answer} {answers : List Answer} {images : List Bytes}
      (encodable : answer.known = true → answer.encodable = true)
      (fits : count = 0 → firstFits answer)
      (rest : Degraded firstFits false (count + 1) answers images) :
      Degraded firstFits false count (answer :: answers) (answer.full :: images)
  | oversized {answer : Answer} {answers : List Answer} {images : List Bytes}
      (past : ¬ firstFits answer) (rest : Degraded firstFits false 1 answers images) :
      Degraded firstFits false 0 (answer :: answers) (answer.oversized :: images)
  | exceeded {suffix : Bool} {count : Nat} {answer : Answer} {answers : List Answer}
      {images : List Bytes} (late : suffix = true ∨ count ≠ 0)
      (rest : Degraded firstFits true (count + 1) answers images) :
      Degraded firstFits suffix count (answer :: answers) (answer.exceeded :: images)

/-- The answers of a batch are given up to `kept` and exceeded from there. -/
structure Threshold (firstFits : Answer → Prop) (count kept : Nat) (answers : List Answer)
    (images : List Bytes) : Prop where
  same : images.length = answers.length
  given : ∀ index answer image, index < kept → answers[index]? = some answer →
    images[index]? = some image →
    image = answer.full ∧ (answer.known = true → answer.encodable = true) ∧
        (count + index = 0 → firstFits answer) ∨
      image = answer.oversized ∧ count + index = 0 ∧ ¬ firstFits answer
  exceeded : ∀ index answer image, kept ≤ index → answers[index]? = some answer →
    images[index]? = some image → image = answer.exceeded

section Thresholds

variable {firstFits : Answer → Prop} {count kept : Nat} {answer : Answer} {answers : List Answer}
  {image : Bytes} {images : List Bytes}

/-- One more answer in front, which is given. -/
theorem Threshold.cons (rest : Threshold firstFits (count + 1) kept answers images)
    (first : image = answer.full ∧ (answer.known = true → answer.encodable = true) ∧
        (count = 0 → firstFits answer) ∨
      image = answer.oversized ∧ count = 0 ∧ ¬ firstFits answer) :
    Threshold firstFits count (kept + 1) (answer :: answers) (image :: images) where
  same := congrArg Nat.succ rest.same
  given := by
    intro index other bytes below found here
    cases index with
    | zero =>
      cases found
      cases here
      exact first
    | succ index =>
      have later := rest.given index other bytes (Nat.lt_of_succ_lt_succ below) found here
      rwa [Nat.add_assoc, Nat.add_comm 1] at later
  exceeded := by
    intro index other bytes above found here
    cases index with
    | zero => cases above
    | succ index => exact rest.exceeded index other bytes (Nat.le_of_succ_le_succ above) found here

/-- A graceful answer has a threshold; with something to answer from a fresh builder it is not 0. -/
theorem Degraded.threshold {suffix : Bool}
    (degraded : Degraded firstFits suffix count answers images) :
    ∃ kept, Threshold firstFits count kept answers images ∧ (suffix = true → kept = 0) ∧
      (suffix = false → count = 0 → answers ≠ [] → 0 < kept) := by
  induction degraded with
  | nil =>
    exact ⟨0, ⟨rfl, fun _ _ _ below => absurd below (Nat.not_lt_zero _),
      fun _ _ _ _ found => by cases found⟩, fun _ => rfl, fun _ _ none => absurd rfl none⟩
  | full encodable fits rest ih =>
    obtain ⟨kept, threshold, -, -⟩ := ih
    exact ⟨kept + 1, threshold.cons (.inl ⟨rfl, encodable, fits⟩), nofun,
      fun _ _ _ => Nat.succ_pos _⟩
  | oversized past rest ih =>
    obtain ⟨kept, threshold, -, -⟩ := ih
    exact ⟨kept + 1, threshold.cons (.inr ⟨rfl, rfl, past⟩), nofun, fun _ _ _ => Nat.succ_pos _⟩
  | exceeded late rest ih =>
    obtain ⟨kept, threshold, none, -⟩ := ih
    obtain rfl := none rfl
    refine ⟨0, ⟨congrArg Nat.succ threshold.same,
      fun _ _ _ below => absurd below (Nat.not_lt_zero _), ?_⟩, fun _ => rfl, ?_⟩
    · intro index other bytes _ found here
      cases index with
      | zero =>
        cases found
        cases here
        rfl
      | succ index => exact threshold.exceeded index other bytes (Nat.zero_le _) found here
    · rintro normal first -
      rcases late with suffix | later
      · rw [normal] at suffix
        cases suffix
      · exact absurd first later

end Thresholds

section Batch

variable {size : Nat} {maxItems : UInt32} {items : List Bytes} {builder : LookupBuilder}
  {lens : List Nat} {answer : Answer}

theorem suffixFits_iff (reserves : Reserves maxItems lens builder)
    (holds : Holds size maxItems items builder) (more : items.length < maxItems.toNat)
    (addressable : size < 2 ^ 63) (offset : Nat) :
    builder.suffixFits offset = true ↔
      align8 offset + reserve (lens.drop (items.length + 1)) ≤ size := by
  rw [LookupBuilder.suffixFits, holds.itemCount, holds.limit, holds.size]
  rcases reserves.prepared (Nat.zero_lt_of_lt more) with ⟨none, table⟩ | ⟨len, small, fixed, same⟩
  · rw [none, table]
    exact payloadExceededSuffixFits_iff reserves.counted more (by rw [usizeMax]; omega)
  · rw [fixed, same]
    exact payloadExceededFixedSuffixFits_iff more (by rw [usizeMax]; omega) fun _ => by
      rw [usizeMax]
      omega

theorem fits_first_iff (reserves : Reserves maxItems lens builder)
    (holds : Holds size maxItems [] builder) (more : 0 < maxItems.toNat)
    (addressable : size < 2 ^ 63) :
    answer.Fits builder ↔ FirstFits size maxItems.toNat lens answer := by
  have start := align8_dataOffset holds
  rw [endFrom, show align8 0 = 0 from rfl, Nat.add_zero] at start
  have up := le_align8 (16 + 8 * maxItems.toNat + answer.full.length)
  rw [Answer.Fits, FirstFits, LookupBuilder.PlanFits, start, holds.size]
  refine imp_congr_right fun _ => and_congr_right fun _ => ⟨?_, fun room => ?_⟩
  · rintro ⟨-, inside, fits⟩
    exact (suffixFits_iff reserves holds more addressable _).mp fits
  · have inside : 16 + 8 * maxItems.toNat + answer.full.length ≤ size := by omega
    refine ⟨by rw [usizeMax]; omega, inside, ?_⟩
    exact (suffixFits_iff reserves holds more addressable _).mpr room

theorem Answer.holds_next (holds : Holds size maxItems items builder)
    (room : Room size maxItems.toNat items (answer.chosen builder).1.length) :
    Holds size maxItems (items ++ [(answer.chosen builder).1])
      (answer.next builder maxItems.toNat items) := by
  have flagged : Holds size maxItems items
      { builder with payloadExceededSuffix := (answer.chosen builder).2 } := holds.other rfl
  exact flagged.pushed room

/-- With the reserved space the answer has room, and the space for the rest is kept. -/
theorem room_chosen (reserves : Reserves maxItems lens builder)
    (holds : Holds size maxItems items builder) (more : items.length < maxItems.toNat)
    (small : size < 2 ^ 32) {rest : List Nat}
    (remaining : lens.drop items.length = answer.exceeded.length :: rest)
    (reserved : align8 builder.dataOffset + reserve (answer.exceeded.length :: rest) ≤ size) :
    Room size maxItems.toNat items (answer.chosen builder).1.length ∧
      (rest = [] ∨
        align8 (answer.next builder maxItems.toNat items).dataOffset + reserve rest ≤ size) := by
  have start := align8_dataOffset holds
  have here := le_reserve answer.exceeded.length rest
  have tail : lens.drop (items.length + 1) = rest := by
    rw [← List.drop_drop, remaining, List.drop_one, List.tail_cons]
  -- The space is kept behind an answer of the placeholder's length.
  have kept (len : Nat) (short : len = answer.exceeded.length) :
      (16 + 8 * maxItems.toNat + align8 (endFrom 0 items) + len ≤ size ∧ len < 2 ^ 32) ∧
        (rest = [] ∨ align8 (align8 builder.dataOffset + len) + reserve rest ≤ size) := by
    refine ⟨by omega, ?_⟩
    by_cases last : rest = []
    · exact .inl last
    · rw [reserve_cons last, ← short] at reserved
      rw [align8_add _ _ (align8_mod _)]
      exact .inr (by omega)
  have chosen : (16 + 8 * maxItems.toNat + align8 (endFrom 0 items) +
        (answer.chosen builder).1.length ≤ size ∧ (answer.chosen builder).1.length < 2 ^ 32) ∧
      (rest = [] ∨ align8 (align8 builder.dataOffset + (answer.chosen builder).1.length) +
        reserve rest ≤ size) := by
    cases mode : builder.payloadExceededSuffix with
    | true =>
      rw [Answer.chosen_suffix mode]
      exact kept _ rfl
    | false =>
      by_cases fits : answer.Fits builder
      · rw [Answer.chosen_full mode fits]
        cases known : answer.known with
        | true =>
          obtain ⟨-, -, inside, suffix⟩ := fits known
          rw [holds.size] at inside
          have room := (suffixFits_iff reserves holds more (by omega) _).mp suffix
          rw [tail] at room
          exact ⟨by dsimp only; omega, .inr room⟩
        | false => exact kept _ (answer.plain known)
      · by_cases first : builder.itemCount = 0
        · rw [Answer.chosen_oversized mode fits first]
          exact kept _ answer.same
        · rw [Answer.chosen_exceeded mode fits first]
          exact kept _ rfl
  exact ⟨⟨more, chosen.1.1, by omega, chosen.1.2⟩, chosen.2⟩

variable {item : Type} {add : item → Prog NipcError LookupBuilder Unit}

/-- The items a handler adds. -/
def addsOf : List (BuilderCall item) → List item
  | [] => []
  | .add item :: rest => item :: addsOf rest
  | .setGeneration _ :: rest => addsOf rest

/-- What was added are some of the adds, in their order. -/
theorem runCalls_sublist {add : item → Prog NipcError LookupBuilder Unit}
    (calls : List (BuilderCall item)) {builder after : LookupBuilder} {added : List item}
    (ran : (runCalls add calls).run builder = (.ok added, after)) :
    added.Sublist (addsOf calls) := by
  induction calls generalizing builder added with
  | nil =>
    cases ran
    exact List.Sublist.slnil
  | cons call rest ih =>
    cases call with
    | setGeneration generation => exact ih ran
    | add item =>
      rw [runCalls, Prog.run_inspect] at ran
      rcases tried : (add item).run builder with ⟨(_ | _ | _) | _, middle⟩ <;> rw [tried] at ran
      · exact (ih ran).cons item
      · cases ran
      · cases ran
      · obtain ⟨later, final, restRan, done⟩ := Prog.run_bind_eq_ok ran
        cases done
        exact (ih restRan).cons_cons item

variable {answers : List Answer}

/-- With the reserved space no add of a batch fails. -/
theorem runCalls_ok (small : size < 2 ^ 32) (calls : List (BuilderCall item))
    (decides : List.Forall₂ (fun item answer => Decides (add item) answer) (addsOf calls) answers)
    (reserves : Reserves maxItems lens builder) (holds : Holds size maxItems items builder)
    (remaining : lens.drop items.length = answers.map fun answer => answer.exceeded.length)
    (reserved : answers = [] ∨ align8 builder.dataOffset + reserve (lens.drop items.length) ≤ size)
    (clean : builder.error = none) :
    ∃ images after, (runCalls add calls).run builder = (.ok (addsOf calls), after) ∧
      Holds size maxItems (items ++ images) after ∧ images.length = (addsOf calls).length ∧
      after.error = none := by
  induction calls generalizing builder items answers with
  | nil => exact ⟨[], builder, rfl, by rwa [List.append_nil], rfl, clean⟩
  | cons call rest ih =>
    cases call with
    | setGeneration generation =>
      exact ih decides ⟨reserves.counted, reserves.prepared⟩
        (Holds.withGeneration holds generation) remaining reserved clean
    | add item =>
      cases decides with
      | cons decided decides =>
        rename_i answer answers
        rw [List.map_cons] at remaining
        have more : items.length < maxItems.toNat := by
          have length := congrArg List.length remaining
          rw [List.length_drop, reserves.counted, List.length_cons] at length
          omega
        have space := reserved.resolve_left (List.cons_ne_nil _ _)
        rw [remaining] at space
        obtain ⟨room, kept⟩ := room_chosen reserves holds more small remaining space
        have tail : lens.drop (items ++ [(answer.chosen builder).1]).length =
            answers.map fun answer => answer.exceeded.length := by
          rw [List.length_append, List.length_singleton, ← List.drop_drop, remaining,
            List.drop_one, List.tail_cons]
        obtain ⟨images, after, ran, held, count, done⟩ := ih decides
          (show Reserves maxItems lens (answer.next builder maxItems.toNat items) from
            ⟨reserves.counted, reserves.prepared⟩) (Answer.holds_next holds room) tail
          (by rw [tail]; exact kept.imp_left List.map_eq_nil_iff.mp) rfl
        refine ⟨(answer.chosen builder).1 :: images, after, ?_, ?_, congrArg Nat.succ count, done⟩
        · rw [runCalls, Prog.run_inspect, decided.ok holds room]
          dsimp only
          rw [Prog.run_bind_ok ran]
          rfl
        · rwa [List.append_assoc, List.singleton_append] at held

/-- A batch leaves at most one item for each add. -/
theorem itemCount_le (calls : List (BuilderCall item))
    (decides : List.Forall₂ (fun item answer => Decides (add item) answer) (addsOf calls) answers)
    (holds : Holds size maxItems items builder) {added : List item} {after : LookupBuilder}
    (ran : (runCalls add calls).run builder = (.ok added, after)) :
    after.itemCount.toNat ≤ items.length + (addsOf calls).length := by
  induction calls generalizing builder items answers added with
  | nil =>
    cases ran
    exact holds.itemCount.le
  | cons call rest ih =>
    cases call with
    | setGeneration generation =>
      exact ih decides (Holds.withGeneration holds generation) ran
    | add item =>
      cases decides with
      | cons decided decides =>
        rename_i answer answers
        rw [runCalls, Prog.run_inspect] at ran
        rw [addsOf, List.length_cons, ← Nat.add_assoc]
        by_cases room : Room size maxItems.toNat items (answer.chosen builder).1.length
        · rw [decided.ok holds room] at ran
          obtain ⟨later, final, restRan, done⟩ := Prog.run_bind_eq_ok ran
          cases done
          have bound := ih decides (Answer.holds_next holds room) restRan
          rw [List.length_append, List.length_singleton] at bound
          omega
        · obtain ⟨reason, middle, failed, kept⟩ := decided.error holds room
          rw [failed] at ran
          cases reason with
          | err error => exact Nat.le_succ_of_le (ih decides kept.holds ran)
          | panic => simp at ran
          | fuel => simp at ran

/-- One answer of a batch, in front of the answers to the rest. -/
theorem degraded_cons (reserves : Reserves maxItems lens builder)
    (holds : Holds size maxItems items builder) (more : items.length < maxItems.toNat)
    (addressable : size < 2 ^ 63) {images : List Bytes}
    (rest : Degraded (FirstFits size maxItems.toNat lens) (answer.chosen builder).2 (items.length +
      1) answers images) :
    Degraded (FirstFits size maxItems.toNat lens) builder.payloadExceededSuffix items.length
      (answer :: answers) ((answer.chosen builder).1 :: images) := by
  cases mode : builder.payloadExceededSuffix with
  | true =>
    rw [Answer.chosen_suffix mode] at rest ⊢
    exact .exceeded (.inl rfl) rest
  | false =>
    have first (none : items = []) :
        answer.Fits builder ↔ FirstFits size maxItems.toNat lens answer := by
      subst none
      exact fits_first_iff reserves holds more addressable
    by_cases fits : answer.Fits builder
    · rw [Answer.chosen_full mode fits] at rest ⊢
      exact .full (fun known => (fits known).1)
        (fun none => (first (List.length_eq_zero_iff.mp none)).mp fits) rest
    · by_cases none : items = []
      · rw [Answer.chosen_oversized mode fits (holds.itemCount_eq_zero_iff.mpr none)] at rest ⊢
        subst none
        exact .oversized (mt (first rfl).mpr fits) rest
      · rw [Answer.chosen_exceeded mode fits (mt holds.itemCount_eq_zero_iff.mp none)] at rest ⊢
        exact .exceeded (.inr (mt List.length_eq_zero_iff.mp none)) rest

/-- A run that leaves one item for each add answers the batch gracefully. -/
theorem runCalls_degraded (addressable : size < 2 ^ 63) (calls : List (BuilderCall item))
    (decides : List.Forall₂ (fun item answer => Decides (add item) answer) (addsOf calls) answers)
    (reserves : Reserves maxItems lens builder) (holds : Holds size maxItems items builder)
    {added : List item} {after : LookupBuilder}
    (ran : (runCalls add calls).run builder = (.ok added, after))
    (full : after.itemCount.toNat = items.length + (addsOf calls).length) :
    ∃ images, Holds size maxItems (items ++ images) after ∧
      Degraded (FirstFits size maxItems.toNat lens) builder.payloadExceededSuffix items.length
        answers images ∧
      after.generation = lastGeneration builder.generation calls ∧ added = addsOf calls := by
  induction calls generalizing builder items answers added with
  | nil =>
    cases ran
    cases decides
    exact ⟨[], by rwa [List.append_nil], .nil, rfl, rfl⟩
  | cons call rest ih =>
    cases call with
    | setGeneration generation =>
      have prepared : Reserves maxItems lens { builder with generation } :=
        ⟨reserves.counted, reserves.prepared⟩
      exact ih decides prepared (Holds.withGeneration holds generation) ran full
    | add item =>
      cases decides with
      | cons decided decides =>
        rename_i answer answers
        rw [runCalls, Prog.run_inspect] at ran
        by_cases room : Room size maxItems.toNat items (answer.chosen builder).1.length
        · rw [decided.ok holds room] at ran
          obtain ⟨later, final, restRan, done⟩ := Prog.run_bind_eq_ok ran
          cases done
          obtain ⟨images, held, degraded, last, same⟩ := ih decides
            (show Reserves maxItems lens (answer.next builder maxItems.toNat items) from
              ⟨reserves.counted, reserves.prepared⟩) (Answer.holds_next holds room) restRan
            (by
              rw [full, addsOf, List.length_cons, List.length_append, List.length_singleton]
              omega)
          rw [List.length_append, List.length_singleton] at degraded
          refine ⟨(answer.chosen builder).1 :: images, ?_,
            degraded_cons reserves holds room.more addressable degraded, last, ?_⟩
          · rwa [List.append_assoc, List.singleton_append] at held
          · rw [same, addsOf]
        · -- After a failed add the others cannot fill the builder.
          obtain ⟨reason, middle, failed, kept⟩ := decided.error holds room
          rw [failed] at ran
          cases reason with
          | err error =>
            have short := itemCount_le rest decides kept.holds ran
            rw [addsOf, List.length_cons] at full
            omega
          | panic => simp at ran
          | fuel => simp at ran

end Batch

end NetIpc
