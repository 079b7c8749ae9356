/-
This file proves that no learned capacity is lost (`server_note_payload_capacity`).

The sessions of a server run in threads of their own and share one counter for each
direction. A session raises the counter with a load and a loop of weak
compare-exchanges, and between any two of these steps the others may take theirs. A
schedule says whose turn it is, and whether a compare-exchange that could succeed
fails all the same, as a weak one may.

One invariant carries every schedule: the counter is the first value or one that some
call wanted, a call knows a value the counter has passed, and a call that returned
left the counter at least as large as it wanted.
-/

import Mathlib.Data.Fintype.Lattice
import Mathlib.Order.Lattice.Nat
import NetIpc.RawClient

namespace NetIpc

namespace Capacity

/-! ### The calls -/

/-- `grown`: the capacity a call wants. -/
def grown (payloadLen ceiling : UInt32) : UInt32 := min (nextPowerOf2U32 payloadLen) ceiling

/-- Where a call of `server_note_payload_capacity` is. -/
inductive NotePoint where
  | load
  | test (current : UInt32)
  | exchange (current : UInt32)
  | returned
  deriving Repr, DecidableEq

/-- One step of a call that wants `grown`: where it is then, and the counter. -/
def NotePoint.step (grown : UInt32) (spurious : Bool) (target : UInt32) :
    NotePoint → NotePoint × UInt32
  | .load => (.test target, target)
  | .test current => (if grown > current then .exchange current else .returned, target)
  | .exchange current =>
    if target = current ∧ spurious = false then (.returned, grown) else (.test target, target)
  | .returned => (.returned, target)

/-- The counter and the calls on it. -/
structure Notes (ι : Type) where
  target : UInt32
  points : ι → NotePoint

section Runs

variable {ι : Type} [DecidableEq ι] (wanted : ι → UInt32)

/-- The step of the call whose turn it is. -/
def Notes.step (notes : Notes ι) (turn : ι × Bool) : Notes ι :=
  let (point, target) := (notes.points turn.1).step (wanted turn.1) turn.2 notes.target
  ⟨target, Function.update notes.points turn.1 point⟩

/-- All the steps of a schedule. -/
def Notes.run (notes : Notes ι) (schedule : List (ι × Bool)) : Notes ι :=
  schedule.foldl (Notes.step wanted) notes

/-- Before the first step. -/
def Notes.start (initial : UInt32) : Notes ι := ⟨initial, fun _ => .load⟩

/-! ### The invariant -/

/-- What a call knows about the counter. -/
def NotePoint.Knows (grown target : UInt32) : NotePoint → Prop
  | .load => True
  | .test current => current ≤ target
  | .exchange current => current ≤ target ∧ current < grown
  | .returned => grown ≤ target

/-- The invariant of every schedule. -/
structure Notes.Sound (initial : UInt32) (notes : Notes ι) : Prop where
  source : notes.target = initial ∨ ∃ call, notes.target = wanted call
  lower : initial ≤ notes.target
  knows : ∀ call, (notes.points call).Knows (wanted call) notes.target

variable {wanted}

/-- A larger counter is known as well. -/
theorem NotePoint.Knows.mono {grown low high : UInt32} {point : NotePoint}
    (knows : point.Knows grown low) (grows : low ≤ high) : point.Knows grown high := by
  cases point with
  | load => trivial
  | test current => exact UInt32.le_trans knows grows
  | exchange current => exact ⟨UInt32.le_trans knows.1 grows, knows.2⟩
  | returned => exact UInt32.le_trans knows grows

/-- What a step of a call does: the counter stays or becomes what the call wants, never less. -/
theorem NotePoint.step_spec {grown target : UInt32} {point : NotePoint} (spurious : Bool)
    (knows : point.Knows grown target) :
    let after := point.step grown spurious target
    (after.2 = target ∨ after.2 = grown) ∧ target ≤ after.2 ∧ after.1.Knows grown after.2 := by
  have same : target ≤ target := UInt32.le_refl target
  cases point with
  | load => exact ⟨.inl rfl, same, same⟩
  | test current =>
    refine ⟨.inl rfl, same, ?_⟩
    show (if grown > current then NotePoint.exchange current else .returned).Knows grown target
    split
    · rename_i larger
      exact ⟨knows, larger⟩
    · rename_i enough
      exact UInt32.le_trans (UInt32.not_lt.mp enough) knows
  | exchange current =>
    rw [NotePoint.step]
    split
    · rename_i free
      refine ⟨.inr rfl, ?_, UInt32.le_refl grown⟩
      rw [free.1]
      exact UInt32.le_of_lt knows.2
    · exact ⟨.inl rfl, same, same⟩
  | returned => exact ⟨.inl rfl, same, knows⟩

variable {initial : UInt32} {notes : Notes ι}

theorem Notes.target_le_step (sound : notes.Sound wanted initial) (turn : ι × Bool) :
    notes.target ≤ (notes.step wanted turn).target :=
  (NotePoint.step_spec turn.2 (sound.knows turn.1)).2.1

theorem Notes.Sound.step (sound : notes.Sound wanted initial) (turn : ι × Bool) :
    (notes.step wanted turn).Sound wanted initial := by
  obtain ⟨changed, grows, knows⟩ := NotePoint.step_spec turn.2 (sound.knows turn.1)
  refine ⟨?_, UInt32.le_trans sound.lower grows, fun call => ?_⟩
  · rcases changed with kept | raised
    · exact sound.source.imp kept.trans fun ⟨call, same⟩ => ⟨call, kept.trans same⟩
    · exact .inr ⟨turn.1, raised⟩
  · show (Function.update notes.points turn.1 _ call).Knows _ _
    by_cases own : call = turn.1
    · subst own
      rw [Function.update_self]
      exact knows
    · rw [Function.update_of_ne own]
      exact (sound.knows call).mono grows

omit [DecidableEq ι] in
theorem Notes.sound_start (initial : UInt32) :
    (Notes.start initial : Notes ι).Sound wanted initial :=
  ⟨.inl rfl, UInt32.le_refl initial, fun _ => trivial⟩

theorem Notes.Sound.run (sound : notes.Sound wanted initial) (schedule : List (ι × Bool)) :
    (notes.run wanted schedule).Sound wanted initial ∧
      notes.target ≤ (notes.run wanted schedule).target := by
  induction schedule generalizing notes with
  | nil => exact ⟨sound, UInt32.le_refl _⟩
  | cons turn rest ih =>
    obtain ⟨held, grows⟩ := ih (sound.step turn)
    exact ⟨held, UInt32.le_trans (Notes.target_le_step sound turn) grows⟩

omit [DecidableEq ι] in
/-- When all calls have returned the counter is the largest of the values. -/
theorem Notes.Sound.target_of_returned [Fintype ι] (sound : notes.Sound wanted initial)
    (returned : ∀ call, notes.points call = .returned) :
    notes.target.toNat = max initial.toNat (Finset.univ.sup fun call => (wanted call).toNat) := by
  have above (call : ι) : (wanted call).toNat ≤ notes.target.toNat := by
    have knows := sound.knows call
    rw [returned call] at knows
    exact knows
  apply Nat.le_antisymm
  · rcases sound.source with first | ⟨call, same⟩
    · rw [first]
      exact Nat.le_max_left _ _
    · rw [same]
      exact (Finset.le_sup (f := fun call => (wanted call).toNat) (Finset.mem_univ call)).trans
        (Nat.le_max_right _ _)
  · exact Nat.max_le.mpr ⟨sound.lower, Finset.sup_le fun call _ => above call⟩

end Runs

theorem grown_le (payloadLen ceiling : UInt32) : grown payloadLen ceiling ≤ ceiling := by
  rw [grown, UInt32.min_def]
  split
  · assumption
  · exact UInt32.le_refl ceiling

/-- The counter and the calls after a schedule, when the calls note payloads of these lengths. -/
def noted {ι : Type} [DecidableEq ι] (lens : ι → UInt32) (ceiling initial : UInt32)
    (schedule : List (ι × Bool)) : Notes ι :=
  (Notes.start initial).run (fun call => grown (lens call) ceiling) schedule

/-- Any number of calls raise one counter, in any order of their steps: it never falls, never
passes the larger one of its first value and the ceiling, and in the end it is the largest value
wanted. -/
theorem capacity_never_lost {ι : Type} [Fintype ι] [DecidableEq ι] (lens : ι → UInt32)
    (ceiling initial : UInt32) (schedule : List (ι × Bool)) :
    (∀ later, (noted lens ceiling initial schedule).target ≤
        (noted lens ceiling initial (schedule ++ later)).target) ∧
      (noted lens ceiling initial schedule).target ≤ max initial ceiling ∧
      ((∀ call, (noted lens ceiling initial schedule).points call = .returned) →
        (noted lens ceiling initial schedule).target.toNat = max initial.toNat
          (Finset.univ.sup fun call => (min (nextPowerOf2U32 (lens call)) ceiling).toNat)) := by
  have sound : (noted lens ceiling initial schedule).Sound
      (fun call => grown (lens call) ceiling) initial :=
    ((Notes.sound_start initial).run schedule).1
  refine ⟨fun later => ?_, ?_, sound.target_of_returned⟩
  · have continued : noted lens ceiling initial (schedule ++ later) =
        (noted lens ceiling initial schedule).run (fun call => grown (lens call) ceiling) later :=
      List.foldl_append
    rw [continued]
    exact (sound.run later).2
  · rw [UInt32.le_iff_toNat_le, UInt32.toNat_max]
    rcases sound.source with first | ⟨call, same⟩
    · rw [first]
      exact Nat.le_max_left _ _
    · rw [same]
      exact Nat.le_trans (grown_le _ _) (Nat.le_max_right _ _)

/-- Two calls find the same value, one raises it, the other one has to look again, and both
return. -/
example :
    let after := noted (fun call : Bool => if call then 100 else 40) 4096 16
      [(true, false), (false, false), (true, false), (false, false), (false, false), (true, false),
        (true, false), (true, true), (true, false), (true, false)]
    (∀ call, after.points call = .returned) ∧ after.target = 128 := by
  decide

end Capacity

end NetIpc
