/-
This file is the byte-buffer library the codecs are verified with.

A buffer is a list of bytes. Reading a sub-slice is `slice`, overwriting one in
place is `splice`, and a fixed-width word is stored as its little-endian digits.
The lemmas are of two kinds: what a `splice` right after an already written part
produces, and what a `slice` of an append reads. With these two a sequence of
writes at increasing offsets turns into one append, and a decoder run on such an
append reads back its pieces.
-/

import Mathlib.Data.List.Basic
import Mathlib.Tactic.Ring

namespace NetIpc

/-- A byte string or a buffer. -/
abbrev Bytes := List UInt8

/-- `count` zero bytes. -/
def zeros (count : Nat) : Bytes := List.replicate count 0

/-- The `len` bytes of `buf` from `off` on. -/
def slice (buf : Bytes) (off len : Nat) : Bytes := (buf.drop off).take len

/-- `buf` with the bytes from `off` on overwritten by `src`. -/
def splice (buf : Bytes) (off : Nat) (src : Bytes) : Bytes :=
  buf.take off ++ src ++ buf.drop (off + src.length)

/-! ### Lengths -/

@[simp] theorem length_zeros (count : Nat) : (zeros count).length = count := by
  simp [zeros]

@[simp] theorem zeros_zero : zeros 0 = [] := rfl

theorem mem_zeros {count : Nat} {byte : UInt8} (member : byte ∈ zeros count) : byte = 0 :=
  List.eq_of_mem_replicate member

variable (buf : Bytes)

theorem length_slice_le (off len : Nat) : (slice buf off len).length ≤ len := by
  simp only [slice, List.length_take]
  omega

theorem length_slice (off len : Nat) (bound : off + len ≤ buf.length) :
    (slice buf off len).length = len := by
  simp only [slice, List.length_take, List.length_drop]
  omega

theorem length_splice (off : Nat) (src : Bytes) (bound : off + src.length ≤ buf.length) :
    (splice buf off src).length = buf.length := by
  simp only [splice, List.length_append, List.length_take, List.length_drop]
  omega

/-! ### Slices of an append -/

@[simp] theorem slice_zero (off : Nat) : slice buf off 0 = [] := by
  simp [slice]

theorem slice_all : slice buf 0 buf.length = buf := by
  simp [slice]

theorem slice_take (len : Nat) : slice buf 0 len = buf.take len := by
  simp [slice]

variable (first second : Bytes)

/-- A slice that ends before the second part only reads the first. -/
theorem slice_append_left (off len : Nat) (bound : off + len ≤ first.length) :
    slice (first ++ second) off len = slice first off len := by
  unfold slice
  rw [List.drop_append_of_le_length (by omega), List.take_append_of_le_length]
  rw [List.length_drop]
  omega

/-- A slice that starts in the second part only reads the second. -/
theorem slice_append_right (off len : Nat) (bound : first.length ≤ off) :
    slice (first ++ second) off len = slice second (off - first.length) len := by
  unfold slice
  rw [List.drop_append, List.drop_eq_nil_of_le bound, List.nil_append]

/-- The same with the offset given relative to the second part. -/
theorem slice_append_add (off len : Nat) :
    slice (first ++ second) (first.length + off) len = slice second off len := by
  rw [slice_append_right _ _ _ _ (by omega), Nat.add_sub_cancel_left]

/-- The middle part of three. -/
theorem slice_middle (before part after : Bytes) (off len : Nat) (start : off = before.length)
    (size : len = part.length) : slice (before ++ part ++ after) off len = part := by
  subst start size
  rw [List.append_assoc, ← Nat.add_zero before.length, slice_append_add,
    slice_append_left _ _ _ _ (by omega), slice_all]

/-- The last part of two. -/
theorem slice_last (before part : Bytes) (off len : Nat) (start : off = before.length)
    (size : len = part.length) : slice (before ++ part) off len = part := by
  have whole := slice_middle before part [] off len start size
  rwa [List.append_nil] at whole

/-- A slice of a slice. -/
theorem slice_slice (off len inner count : Nat) (bound : inner + count ≤ len) :
    slice (slice buf off len) inner count = slice buf (off + inner) count := by
  unfold slice
  rw [List.drop_take, List.take_take, List.drop_drop, Nat.min_eq_left (by omega)]

theorem getElem?_slice (off len index : Nat) (bound : index < len) :
    (slice buf off len)[index]? = buf[off + index]? := by
  unfold slice
  rw [List.getElem?_take_of_lt bound, List.getElem?_drop]

/-- Two buffers with the same bytes at the places of a slice have the same slice. -/
theorem slice_congr {first second : Bytes} {off len : Nat}
    (same : ∀ index, off ≤ index → index < off + len → first[index]? = second[index]?) :
    slice first off len = slice second off len := by
  refine List.ext_getElem? fun index => ?_
  by_cases bound : index < len
  · rw [getElem?_slice _ _ _ _ bound, getElem?_slice _ _ _ _ bound]
    exact same _ (by omega) (by omega)
  · have short := length_slice_le first off len
    have short' := length_slice_le second off len
    rw [List.getElem?_eq_none (by omega), List.getElem?_eq_none (by omega)]

/-- Two consecutive slices are one. -/
theorem slice_append_slice (off first second : Nat) :
    slice buf off first ++ slice buf (off + first) second = slice buf off (first + second) := by
  unfold slice
  rw [List.take_add, List.drop_drop]

theorem slice_append_from_zero (first second : Nat) :
    slice buf 0 first ++ slice buf first second = slice buf 0 (first + second) := by
  have joined := slice_append_slice buf 0 first second
  rwa [Nat.zero_add] at joined

/-! ### Overwriting -/

/-- Writing right after an already written part extends it. -/
theorem splice_after (written rest src : Bytes) (off : Nat) (start : off = written.length) :
    splice (written ++ rest) off src = written ++ src ++ rest.drop src.length := by
  subst start
  unfold splice
  rw [List.take_left', List.drop_append, List.drop_eq_nil_of_le (by omega), List.nil_append,
    Nat.add_sub_cancel_left]
  rfl

variable (src : Bytes) (off len : Nat)

/-- A write inside the second part leaves the first alone. -/
theorem splice_append_add :
    splice (first ++ second) (first.length + off) src = first ++ splice second off src := by
  unfold splice
  rw [List.take_append, List.take_of_length_le (by omega), Nat.add_sub_cancel_left,
    List.drop_append, List.drop_eq_nil_of_le (by omega), List.nil_append, List.append_assoc,
    List.append_assoc, List.append_assoc]
  congr 4
  omega

/-- A write that ends inside the first part leaves the second alone. -/
theorem splice_append_left (bound : off + src.length ≤ first.length) :
    splice (first ++ second) off src = splice first off src ++ second := by
  unfold splice
  rw [List.take_append_of_le_length (by omega), List.drop_append_of_le_length (by omega)]
  simp only [List.append_assoc]

/-- Writing over the middle part of three with bytes of the same length replaces it. -/
theorem splice_middle (before part after src : Bytes) (off : Nat) (start : off = before.length)
    (size : src.length = part.length) :
    splice (before ++ part ++ after) off src = before ++ src ++ after := by
  rw [List.append_assoc, splice_after _ _ _ _ start, size, List.drop_left']
  rfl

theorem splice_nil : splice buf off [] = buf := by
  simp [splice]

/-- The second of two writes to one range wins. -/
theorem splice_splice_self (bound : off ≤ buf.length) (size : first.length = second.length) :
    splice (splice buf off first) off second = splice buf off second := by
  have front : (buf.take off).length = off := by
    rw [List.length_take]
    omega
  conv_lhs => rw [splice.eq_def buf off first]
  rw [splice_middle _ _ _ _ _ front.symm size.symm, size]
  rfl

/-- Two writes to ranges that are apart can change places. -/
theorem splice_comm (later : Nat) (apart : off + first.length ≤ later)
    (bound : later ≤ buf.length) :
    splice (splice buf off first) later second = splice (splice buf later second) off first := by
  have front : (buf.take (off + first.length)).length = off + first.length := by
    rw [List.length_take]
    omega
  have whole := List.take_append_drop (off + first.length) buf
  have step : later = off + first.length + (later - (off + first.length)) := by omega
  have changed : (splice (buf.take (off + first.length)) off first).length =
      off + first.length := by
    rw [length_splice _ _ _ front.ge, front]
  have right (head : Bytes) (length : head.length = off + first.length) :
      splice (head ++ buf.drop (off + first.length)) later second = head ++
        splice (buf.drop (off + first.length)) (later - (off + first.length)) second := by
    rw [step, ← length, splice_append_add, Nat.add_sub_cancel_left]
  rw [← whole, splice_append_left _ _ _ _ front.ge, right _ changed, right _ front,
    splice_append_left _ _ _ _ front.ge]

/-- Two writes one after the other are one write. -/
theorem splice_splice_next (bound : off + first.length ≤ buf.length) :
    splice (splice buf off first) (off + first.length) second =
      splice buf off (first ++ second) := by
  have front : (buf.take off ++ first).length = off + first.length := by
    rw [List.length_append, List.length_take]
    omega
  have written : splice buf off first = buf.take off ++ first ++ buf.drop (off + first.length) :=
    rfl
  rw [written, splice_after _ _ _ _ front.symm, List.drop_drop, splice, List.length_append,
    Nat.add_assoc off, List.append_assoc (buf.take off) first second]

/-- Reading back what was written. -/
theorem slice_splice_self (bound : off ≤ buf.length) :
    slice (splice buf off src) off src.length = src := by
  unfold splice
  exact slice_middle _ _ _ _ _ (by rw [List.length_take]; omega) rfl

/-- Reading before the written range. -/
theorem slice_splice_before (start len : Nat) (bound : off ≤ buf.length)
    (before : start + len ≤ off) : slice (splice buf off src) start len = slice buf start len := by
  have split : buf = buf.take off ++ buf.drop off := (List.take_append_drop off buf).symm
  unfold splice
  rw [List.append_assoc, slice_append_left _ _ _ _ (by rw [List.length_take]; omega)]
  conv_rhs => rw [split]
  rw [slice_append_left _ _ _ _ (by rw [List.length_take]; omega)]

/-- Reading after the written range. -/
theorem slice_splice_after (start len : Nat) (bound : off + src.length ≤ buf.length)
    (after : off + src.length ≤ start) :
    slice (splice buf off src) start len = slice buf start len := by
  have split : buf = buf.take (off + src.length) ++ buf.drop (off + src.length) :=
    (List.take_append_drop _ buf).symm
  have front : (buf.take off ++ src).length = off + src.length := by
    rw [List.length_append, List.length_take]
    omega
  have whole : (buf.take (off + src.length)).length = off + src.length := by
    rw [List.length_take]
    omega
  unfold splice
  rw [slice_append_right _ _ _ _ (by omega), front]
  conv_rhs => rw [split]
  rw [slice_append_right _ _ _ _ (by omega), whole]

/-! ### Little-endian words -/

/-- The `width` little-endian bytes of `value`. -/
def leBytes : Nat → Nat → Bytes
  | 0, _ => []
  | width + 1, value => UInt8.ofNat value :: leBytes width (value / 256)

/-- The value of a little-endian byte string. -/
def leNat : Bytes → Nat
  | [] => 0
  | byte :: rest => byte.toNat + 256 * leNat rest

@[simp] theorem length_leBytes (width value : Nat) : (leBytes width value).length = width := by
  induction width generalizing value with
  | zero => rfl
  | succ width ih => simp [leBytes, ih]

theorem leNat_leBytes (width value : Nat) : leNat (leBytes width value) = value % 256 ^ width := by
  induction width generalizing value with
  | zero => simp [leBytes, leNat, Nat.mod_one]
  | succ width ih =>
    have power : 256 ^ (width + 1) = 256 * 256 ^ width := by ring
    simp only [leBytes, leNat, ih, UInt8.toNat_ofNat']
    rw [power, Nat.mod_mul]

theorem leNat_leBytes_of_lt (width value : Nat) (bound : value < 256 ^ width) :
    leNat (leBytes width value) = value := by
  rw [leNat_leBytes, Nat.mod_eq_of_lt bound]

/-! ### Reading a sequence of words -/

theorem slice_leBytes_skip (width value off len : Nat) (rest : Bytes) (bound : width ≤ off) :
    slice (leBytes width value ++ rest) off len = slice rest (off - width) len := by
  rw [slice_append_right _ _ _ _ (by rw [length_leBytes]; exact bound), length_leBytes]

theorem slice_leBytes_take (width value : Nat) (rest : Bytes) :
    slice (leBytes width value ++ rest) 0 width = leBytes width value :=
  slice_middle [] (leBytes width value) rest 0 width rfl (length_leBytes width value).symm

theorem slice_leBytes (width value : Nat) :
    slice (leBytes width value) 0 width = leBytes width value := by
  rw [slice_take, List.take_of_length_le (length_leBytes width value).le]

end NetIpc
