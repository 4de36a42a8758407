import Rk3399.Common.Packing
/-!
# Words at byte offsets

A memory of words that is stored to at byte offsets, as a little-endian
processor does: an offset that is no multiple of four writes parts of two
words. What is read back byte by byte is the word that was stored, and what
was there outside it; at a multiple of four a store is the store of the word.
-/

namespace Rk3399

/-- Byte `i` of a word, counted from the least significant one. -/
def leByte (word i : Nat) : Nat := word / 2 ^ (8 * i) % 2 ^ 8

/-- The word with these four bytes. -/
def ofLeBytes (f : Nat → Nat) : Nat := f 0 + 2 ^ 8 * f 1 + 2 ^ 16 * f 2 + 2 ^ 24 * f 3

/-- The byte at an offset. -/
def leByteOf (mem : Nat → Nat) (i : Nat) : Nat := leByte (mem (i / 4)) (i % 4)

/-- A word is stored at byte offset `b`. -/
def putAt (b value : Nat) (mem : Nat → Nat) : Nat → Nat := fun w =>
  if b < 4 * w + 4 ∧ 4 * w < b + 4 then
    ofLeBytes fun i =>
      if b ≤ 4 * w + i ∧ 4 * w + i < b + 4 then leByte value (4 * w + i - b) else leByte (mem w) i
  else mem w

/-- Words are stored one behind the other, from byte offset `b` on. -/
def putsAt : Nat → List Nat → (Nat → Nat) → Nat → Nat
  | _, [], mem => mem
  | b, value :: values, mem => putsAt (b + 4) values (putAt b value mem)

section

variable {b value w i : Nat} {mem : Nat → Nat} {values : List Nat}

theorem leByte_lt (word i : Nat) : leByte word i < 2 ^ 8 := Nat.mod_lt _ (by decide)

@[simp] theorem leByte_zero (i : Nat) : leByte 0 i = 0 := by simp [leByte]

theorem leByte_ofLeBytes {f : Nat → Nat} (h : ∀ j, f j < 2 ^ 8) (hi : i < 4) :
    leByte (ofLeBytes f) i = f i := by
  have h0 := h 0
  have h1 := h 1
  have h2 := h 2
  have h3 := h 3
  obtain rfl | rfl | rfl | rfl : i = 0 ∨ i = 1 ∨ i = 2 ∨ i = 3 := by omega
  all_goals
    simp only [leByte, ofLeBytes, Nat.reduceMul, Nat.reducePow] at *
    omega

/-- A word is the word of its bytes. -/
theorem ofLeBytes_leByte (h : value < 2 ^ 32) : ofLeBytes (leByte value) = value := by
  simp only [leByte, ofLeBytes, Nat.reduceMul, Nat.reducePow] at *
  omega

/-- **What is read back**: the word inside, and outside what was there. -/
theorem leByteOf_putAt (b value : Nat) (mem : Nat → Nat) (i : Nat) :
    leByteOf (putAt b value mem) i =
      if b ≤ i ∧ i < b + 4 then leByte value (i - b) else leByteOf mem i := by
  have hi : 4 * (i / 4) + i % 4 = i := Nat.div_add_mod i 4
  have hmod : i % 4 < 4 := Nat.mod_lt _ (by decide)
  unfold leByteOf putAt
  split
  · rw [leByte_ofLeBytes (fun j => by split <;> exact leByte_lt _ _) hmod, hi]
  · rw [if_neg (by omega)]

/-- Words a store does not meet are left alone. -/
theorem putAt_outside (h : 4 * w + 4 ≤ b ∨ b + 4 ≤ 4 * w) : putAt b value mem w = mem w :=
  if_neg (by omega)

theorem putsAt_outside (values : List Nat) : ∀ (b : Nat) (mem : Nat → Nat),
    4 * w + 4 ≤ b ∨ b + 4 * values.length ≤ 4 * w → putsAt b values mem w = mem w := by
  induction values with
  | nil => exact fun _ _ _ => rfl
  | cons value values ih =>
    intro b mem h
    rw [List.length_cons] at h
    rw [putsAt, ih (b + 4) _ (by omega), putAt_outside (by omega)]

theorem putsAt_append (values values' : List Nat) : ∀ (b : Nat) (mem : Nat → Nat),
    putsAt b (values ++ values') mem =
      putsAt (b + 4 * values.length) values' (putsAt b values mem) := by
  induction values with
  | nil => exact fun _ _ => rfl
  | cons value values ih =>
    intro b mem
    rw [List.cons_append, putsAt, putsAt, ih, List.length_cons]
    congr 1
    omega

/-- **At a multiple of four** the word itself is stored. -/
theorem putAt_aligned (h : value < 2 ^ 32) (w : Nat) (mem : Nat → Nat) :
    putAt (4 * w) value mem = Function.update mem w value := by
  funext k
  by_cases hk : k = w
  · subst hk
    have hbytes : (fun i => if 4 * k ≤ 4 * k + i ∧ 4 * k + i < 4 * k + 4
        then leByte value (4 * k + i - 4 * k) else leByte (mem k) i) =
        fun i => if i < 4 then leByte value i else leByte (mem k) i := by
      funext i
      congr 1
      · exact propext (by omega)
      · rw [Nat.add_sub_cancel_left]
    rw [putAt, if_pos (by omega), hbytes, Function.update_self]
    exact ofLeBytes_leByte h
  · rw [putAt_outside (by omega), Function.update_of_ne hk]

theorem putsAt_aligned (values : List Nat) : ∀ (w : Nat) (mem : Nat → Nat),
    (∀ v ∈ values, v < 2 ^ 32) → putsAt (4 * w) values mem = putWords w values mem := by
  induction values with
  | nil => exact fun _ _ _ => (putWords_nil ..).symm
  | cons value values ih =>
    intro w mem h
    rw [putsAt, putAt_aligned (h _ List.mem_cons_self), ← putWords_cons]
    exact ih (w + 1) _ fun v hv => h v (List.mem_cons_of_mem _ hv)

/-! ## Zeros -/

/-- Zeros stored over a zero word leave it zero. -/
theorem putAt_zero (h : mem w = 0) : putAt b 0 mem w = 0 := by
  unfold putAt
  split
  · simp [ofLeBytes, h]
  · exact h

theorem putsAt_zero (n : Nat) : ∀ (b : Nat) (mem : Nat → Nat), mem w = 0 →
    putsAt b (List.replicate n 0) mem w = 0 := by
  induction n with
  | zero => exact fun _ _ h => h
  | succ n ih => exact fun b mem h => ih (b + 4) _ (putAt_zero h)

/-- Zeros are read where they were stored, and elsewhere what was there. -/
theorem leByteOf_putsAt_zero (n : Nat) : ∀ (b : Nat) (mem : Nat → Nat) (i : Nat),
    leByteOf (putsAt b (List.replicate n 0) mem) i =
      if b ≤ i ∧ i < b + 4 * n then 0 else leByteOf mem i := by
  induction n with
  | zero => exact fun b mem i => (if_neg (by omega)).symm
  | succ n ih =>
    intro b mem i
    have hstep := ih (b + 4) (putAt b 0 mem) i
    rw [leByteOf_putAt, leByte_zero] at hstep
    refine hstep.trans ?_
    split
    · rw [if_pos (by omega)]
    · split
      · rw [if_pos (by omega)]
      · rw [if_neg (by omega)]

/-! ## The other order of bytes -/

/-- The offset, as the bytes of its word are counted from the other end. -/
def mirror (i : Nat) : Nat := 4 * (i / 4) + (3 - i % 4)

theorem mirror_mirror (i : Nat) : mirror (mirror i) = i := by
  unfold mirror
  omega

/-- Most significant byte first, a byte is at its mirrored offset. -/
theorem byteOf_eq_leByteOf (mem : Nat → Nat) (i : Nat) :
    byteOf mem i = leByteOf mem (mirror i) := by
  have hword : mirror i / 4 = i / 4 := by unfold mirror; omega
  have hbyte : mirror i % 4 = 3 - i % 4 := by unfold mirror; omega
  have hshift : 24 - 8 * (i % 4) = 8 * (3 - i % 4) := by omega
  rw [byteOf, leByteOf, hword, hbyte, wordByte, leByte, hshift]

end

end Rk3399
