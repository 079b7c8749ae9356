/-
This file is a library for hash tables with linear probing: a ring of slots, and entries
numbered in the order they are inserted, each put into the first free slot from its home on.

The one fact that carries everything is `Filled`: every slot between the home of an entry
and its own slot holds an entry inserted before it. So of the entries that match a key the
first one inserted is the first one met, and a search may stop at a free slot.
-/

import Mathlib.Data.Finset.Card
import Mathlib.Data.Nat.Find
import Mathlib.Data.Nat.ModEq
import Mathlib.Logic.Function.Basic

namespace NetIpc.Probing

/-- The slot some steps after another in a ring. -/
def place (size start distance : Nat) : Nat := (start + distance) % size

theorem place_lt {size : Nat} (positive : 0 < size) (start distance : Nat) :
    place size start distance < size := Nat.mod_lt _ positive

theorem place_zero {size start : Nat} (inside : start < size) : place size start 0 = start :=
  Nat.mod_eq_of_lt inside

theorem place_succ (size start distance : Nat) :
    place size start (distance + 1) = place size (place size start 1) distance := by
  rw [place, place, place, Nat.mod_add_mod]
  congr 1
  omega

/-- Less than a turn apart, the slots of a ring differ. -/
theorem place_injective {size start first second : Nat} (firstInside : first < size)
    (secondInside : second < size) (same : place size start first = place size start second) :
    first = second := by
  have congruent : first ≡ second [MOD size] := Nat.ModEq.add_left_cancel' start same
  exact Nat.ModEq.eq_of_lt_of_lt congruent firstInside secondInside

/-- The slots hold entries `0` to `count - 1`, inserted in this order with linear probing. -/
structure Filled (size : Nat) (home : Nat → Nat) (table : Nat → Option Nat) (count : Nat) :
    Prop where
  bound : ∀ slot entry, table slot = some entry → entry < count
  unique : ∀ slot slot' entry, table slot = some entry → table slot' = some entry → slot = slot'
  placed : ∀ entry < count, ∃ distance < size,
    table (place size (home entry) distance) = some entry ∧
    ∀ nearer < distance, ∃ earlier < entry,
      table (place size (home entry) nearer) = some earlier

theorem Filled.empty (size : Nat) (home : Nat → Nat) : Filled size home (fun _ => none) 0 where
  bound := nofun
  unique := nofun
  placed := nofun

section Filled

variable {size count : Nat} {home : Nat → Nat} {table : Nat → Option Nat}

/-- With fewer entries than slots, a walk from anywhere comes to a free slot. -/
theorem Filled.exists_free (filled : Filled size home table count) (room : count < size)
    (start : Nat) : ∃ distance < size, table (place size start distance) = none ∧
      ∀ nearer < distance, ∃ entry, table (place size start nearer) = some entry := by
  have free : ∃ distance, distance < size ∧ table (place size start distance) = none := by
    by_contra full
    -- otherwise every slot holds an entry, and there are more slots than entries
    have held : ∀ distance, ∃ entry, distance < size →
        table (place size start distance) = some entry := by
      intro distance
      by_cases inside : distance < size
      · cases found : table (place size start distance) with
        | none => exact absurd ⟨distance, inside, found⟩ full
        | some entry => exact ⟨entry, fun _ => rfl⟩
      · exact ⟨0, fun inside' => absurd inside' inside⟩
    choose entry held using held
    have fewer : (Finset.range size).card ≤ (Finset.range count).card := by
      refine Finset.card_le_card_of_injOn entry ?_ ?_
      · intro distance inside
        simp only [Finset.coe_range, Set.mem_Iio] at inside ⊢
        exact filled.bound _ _ (held distance inside)
      · intro first firstInside second secondInside same
        simp only [Finset.coe_range, Set.mem_Iio] at firstInside secondInside
        refine place_injective firstInside secondInside
          (filled.unique _ _ _ (held first firstInside) ?_)
        rw [same]
        exact held second secondInside
    rw [Finset.card_range, Finset.card_range] at fewer
    exact absurd room (Nat.not_lt.mpr fewer)
  refine ⟨Nat.find free, (Nat.find_spec free).1, (Nat.find_spec free).2, fun nearer near => ?_⟩
  have taken := Nat.find_min free near
  cases found : table (place size start nearer) with
  | none => exact absurd ⟨near.trans (Nat.find_spec free).1, found⟩ taken
  | some entry => exact ⟨entry, rfl⟩

/-- The next entry goes into the first free slot from its home on. -/
theorem Filled.insert (filled : Filled size home table count) {distance : Nat}
    (inside : distance < size) (free : table (place size (home count) distance) = none)
    (taken : ∀ nearer < distance, ∃ entry, table (place size (home count) nearer) = some entry) :
    Filled size home
      (Function.update table (place size (home count) distance) (some count)) (count + 1) := by
  have others : ∀ slot entry, table slot = some entry →
      Function.update table (place size (home count) distance) (some count) slot = some entry := by
    intro slot entry held
    rw [Function.update_of_ne, held]
    rintro rfl
    exact nomatch free.symm.trans held
  have known : ∀ slot entry,
      Function.update table (place size (home count) distance) (some count) slot = some entry →
      (slot = place size (home count) distance ∧ entry = count) ∨
        (entry < count ∧ table slot = some entry) := by
    intro slot entry held
    by_cases same : slot = place size (home count) distance
    · rw [same, Function.update_self] at held
      exact Or.inl ⟨same, (Option.some.inj held).symm⟩
    · rw [Function.update_of_ne same] at held
      exact Or.inr ⟨filled.bound slot entry held, held⟩
  exact {
    bound := by
      intro slot entry held
      rcases known slot entry held with ⟨-, rfl⟩ | ⟨old, -⟩
      · exact Nat.lt_succ_self _
      · exact Nat.lt_succ_of_lt old
    unique := by
      intro slot slot' entry held held'
      rcases known slot entry held with ⟨here, new⟩ | ⟨old, held⟩
      · rcases known slot' entry held' with ⟨here', -⟩ | ⟨old, -⟩
        · rw [here, here']
        · exact absurd new (Nat.ne_of_lt old)
      · rcases known slot' entry held' with ⟨-, new⟩ | ⟨-, held'⟩
        · exact absurd new (Nat.ne_of_lt old)
        · exact filled.unique slot slot' entry held held'
    placed := by
      intro entry early
      rcases Nat.lt_succ_iff_lt_or_eq.mp early with old | rfl
      · obtain ⟨away, awayInside, held, before⟩ := filled.placed entry old
        refine ⟨away, awayInside, others _ _ held, fun nearer near => ?_⟩
        obtain ⟨earlier, before, held⟩ := before nearer near
        exact ⟨earlier, before, others _ _ held⟩
      · refine ⟨distance, inside, Function.update_self _ _ _, fun nearer near => ?_⟩
        obtain ⟨earlier, held⟩ := taken nearer near
        exact ⟨earlier, filled.bound _ _ held, others _ _ held⟩ }

end Filled

end NetIpc.Probing
