import Mathlib.Algebra.Order.Ring.Int
import Mathlib.Tactic.Common
/-!
# Bytes in memory

Memory gives a byte for each address. `poke` copies bytes to an address, as
`memcpy` and the stores of single bytes do, and `block` reads bytes from
one. What a block reads behind a copy is the copied bytes where it is inside,
and what it read before where it is outside.
-/

namespace Rk3399

variable {α : Type}

/-- The bytes from `pos` on are written over. -/
def poke (pos : Nat) (bytes : List α) (mem : Nat → α) : Nat → α := fun k =>
  if pos ≤ k then bytes.getD (k - pos) (mem k) else mem k

/-- The `n` bytes from `pos` on. -/
def block (mem : Nat → α) (pos n : Nat) : List α := (List.range n).map fun i => mem (pos + i)

section

variable {pos k i n m : Nat} {bytes : List α} {mem : Nat → α}

/-! ## Where a copy goes -/

/-- **Frame.** Outside the copy nothing changes. -/
theorem poke_outside (h : k < pos ∨ pos + bytes.length ≤ k) : poke pos bytes mem k = mem k := by
  unfold poke
  by_cases hk : pos ≤ k
  · rw [if_pos hk, List.getD_eq_getElem?_getD, List.getElem?_eq_none (by omega)]
    rfl
  · rw [if_neg hk]

/-- Inside the copy the copied bytes are read. -/
theorem poke_inside (h : i < bytes.length) : poke pos bytes mem (pos + i) = bytes[i] := by
  unfold poke
  rw [if_pos (Nat.le_add_right _ _), Nat.add_sub_cancel_left, List.getD_eq_getElem?_getD,
    List.getElem?_eq_getElem h, Option.getD_some]

/-- The byte that is stored is read. -/
theorem poke_cons_self (b : α) : poke pos (b :: bytes) mem pos = b :=
  poke_inside (show 0 < (b :: bytes).length by rw [List.length_cons]; omega)

@[simp] theorem poke_nil : poke pos [] mem = mem := by
  funext k
  exact poke_outside (by rw [List.length_nil]; omega)

/-- A copy of two parts is two copies. -/
theorem poke_append (bytes' : List α) :
    poke pos (bytes ++ bytes') mem = poke (pos + bytes.length) bytes' (poke pos bytes mem) := by
  funext k
  by_cases hk : k < pos
  · rw [poke_outside (.inl hk), poke_outside (.inl (by omega)), poke_outside (.inl hk)]
  · obtain ⟨i, rfl⟩ : ∃ i, k = pos + i := ⟨k - pos, by omega⟩
    by_cases hi : i < bytes.length
    · rw [poke_inside (by rw [List.length_append]; omega), poke_outside (.inl (by omega)),
        poke_inside hi, List.getElem_append_left hi]
    · obtain ⟨j, rfl⟩ : ∃ j, i = bytes.length + j := ⟨i - bytes.length, by omega⟩
      by_cases hj : j < bytes'.length
      · rw [poke_inside (by rw [List.length_append]; omega), ← Nat.add_assoc, poke_inside hj,
          List.getElem_append_right (by omega)]
        simp
      · rw [poke_outside (.inr (by rw [List.length_append]; omega)),
          poke_outside (.inr (by omega)), poke_outside (.inr (by omega))]

/-! ## What a block reads -/

@[simp] theorem length_block : (block mem pos n).length = n := by simp [block]

@[simp] theorem block_zero : block mem pos 0 = [] := rfl

theorem getElem_block (h : i < (block mem pos n).length) :
    (block mem pos n)[i] = mem (pos + i) := by
  simp [block]

/-- A block of two parts. -/
theorem block_add (mem : Nat → α) (pos m n : Nat) :
    block mem pos (m + n) = block mem pos m ++ block mem (pos + m) n := by
  simp [block, List.range_add, Nat.add_assoc, Function.comp_def]

theorem block_succ (mem : Nat → α) (pos n : Nat) :
    block mem pos (n + 1) = mem pos :: block mem (pos + 1) n := by
  rw [Nat.add_comm, block_add]
  rfl

/-- A block depends on the bytes in it alone. -/
theorem block_congr {mem' : Nat → α} (h : ∀ k, pos ≤ k → k < pos + n → mem k = mem' k) :
    block mem pos n = block mem' pos n := by
  refine List.map_congr_left fun i hi => h _ (Nat.le_add_right _ _) ?_
  have := List.mem_range.1 hi
  omega

/-- **A copy of what is there** changes nothing. -/
theorem poke_block (mem : Nat → α) (pos n : Nat) : poke pos (block mem pos n) mem = mem := by
  funext k
  by_cases hk : k < pos ∨ pos + n ≤ k
  · exact poke_outside (by rwa [length_block])
  · obtain ⟨i, rfl⟩ : ∃ i, k = pos + i := ⟨k - pos, by omega⟩
    rw [poke_inside (by rw [length_block]; omega), getElem_block]

/-- A block outside a copy reads what it read before. -/
theorem block_poke_outside (h : k + n ≤ pos ∨ pos + bytes.length ≤ k) :
    block (poke pos bytes mem) k n = block mem k n :=
  block_congr fun j hj hj' => poke_outside (by omega)

/-- **A block at a copy reads the copied bytes.** -/
theorem block_poke (h : bytes.length = n) : block (poke pos bytes mem) pos n = bytes := by
  refine List.ext_getElem (by rw [length_block, h]) fun i hi hi' => ?_
  rw [getElem_block, poke_inside hi']

/-- A block at the start of a copy reads the first bytes of it. -/
theorem block_poke_append {bytes' : List α} (h : bytes.length = n) :
    block (poke pos (bytes ++ bytes') mem) pos n = bytes := by
  rw [poke_append, block_poke_outside (.inl (by omega)), block_poke h]

/-- The beginning of a copy is copied again. -/
theorem poke_again {bytes' : List α} (h : bytes <+: bytes') :
    poke pos bytes (poke pos bytes' mem) = poke pos bytes' mem := by
  obtain ⟨rest, rfl⟩ := h
  have hblock : block (poke pos (bytes ++ rest) mem) pos bytes.length = bytes :=
    block_poke_append rfl
  have hcopy := poke_block (poke pos (bytes ++ rest) mem) pos bytes.length
  rwa [hblock] at hcopy

/-- A copy goes over its beginning. -/
theorem poke_over {bytes' : List α} (h : bytes <+: bytes') :
    poke pos bytes' (poke pos bytes mem) = poke pos bytes' mem := by
  obtain ⟨rest, rfl⟩ := h
  rw [poke_append, poke_append, poke_again List.prefix_rfl]

end

/-! ## Rows -/

section

variable {off : Nat → Nat} {row : Nat → List α} {mem : Nat → α} {n y i k : Nat}

/-- The first `n` rows are copied, one after the other, each to an offset of its own. -/
def pokeRows (off : Nat → Nat) (row : Nat → List α) : Nat → (Nat → α) → Nat → α
  | 0, mem => mem
  | n + 1, mem => poke (off n) (row n) (pokeRows off row n mem)

/-- **A row that no later one covers is read where it was copied to.** -/
theorem pokeRows_inside (hy : y < n) (hi : i < (row y).length)
    (hlater : ∀ z, y < z → z < n → off y + i < off z ∨ off z + (row z).length ≤ off y + i) :
    pokeRows off row n mem (off y + i) = (row y)[i] := by
  induction n with
  | zero => omega
  | succ n ih =>
    unfold pokeRows
    by_cases hlast : y = n
    · subst hlast
      exact poke_inside hi
    · rw [poke_outside (hlater n (by omega) (by omega))]
      exact ih (by omega) fun z hz hzn => hlater z hz (by omega)

/-- Where the memory and all rows but one have one value, that row covers what differs. -/
theorem covers_of_pokeRows {a : α} (hmem : ∀ k, mem k = a) (hrow : ∀ z, z ≠ y → ∀ b ∈ row z, b = a)
    (h : pokeRows off row n mem k ≠ a) : off y ≤ k ∧ k < off y + (row y).length := by
  induction n with
  | zero => exact absurd (hmem k) h
  | succ n ih =>
    unfold pokeRows at h
    by_cases hk : k < off n ∨ off n + (row n).length ≤ k
    · rw [poke_outside hk] at h
      exact ih h
    · obtain ⟨i, rfl⟩ : ∃ i, k = off n + i := ⟨k - off n, by omega⟩
      by_cases hn : n = y
      · subst hn
        omega
      · refine absurd ?_ h
        have hi : i < (row n).length := by omega
        rw [poke_inside hi]
        exact hrow n hn _ (List.getElem_mem hi)

end

end Rk3399
