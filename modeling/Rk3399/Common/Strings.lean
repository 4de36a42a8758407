import Mathlib.Algebra.Order.Ring.Int
import Mathlib.Tactic.Common
/-!
# Strings of C in memory

A string in memory is its characters and a NUL. The functions of the
standard library look at the bytes from an address on, one after the other,
and stop as early as they may: each returns what it finds and how many bytes
it looked at, and nothing where it runs off the end of the memory.
-/

namespace Rk3399

/-- The characters of a literal. -/
def chars (s : String) : List UInt8 := s.toList.map fun c => UInt8.ofNat c.toNat

/-- What a function finds, and how many bytes it looked at. -/
abbrev Scanned (α : Type) : Type := Option (α × Nat)

/-- `strlen` of the string at the start of `mem`. -/
def strlen : List UInt8 → Scanned Nat
  | [] => none
  | c :: mem =>
    if c = 0 then some (0, 1) else (strlen mem).map fun r => (r.1 + 1, r.2 + 1)

/-- `strcmp` of the string at the start of `mem` with `t`: the difference of the first two
characters that differ, as the standard asks for its sign. -/
def strcmp (t : List UInt8) : List UInt8 → Scanned Int
  | [] => none
  | c :: mem =>
    match t with
    | [] => some (c.toNat, 1)
    | x :: t =>
      if c = x then (strcmp t mem).map fun r => (r.1, r.2 + 1)
      else some ((c.toNat : Int) - x.toNat, 1)

/-- `strncmp` of the string at the start of `mem` with `t`, over the length of `t`. -/
def strncmp : List UInt8 → List UInt8 → Scanned Int
  | [], _ => some (0, 0)
  | _ :: _, [] => none
  | x :: t, c :: mem =>
    if c = x then (strncmp t mem).map fun r => (r.1, r.2 + 1)
    else some ((c.toNat : Int) - x.toNat, 1)

/-! ## At a string -/

section

variable {s rest : List UInt8}

/-- **`strlen` of a string** is its length, and it looks at the NUL too. -/
theorem strlen_append (rest : List UInt8) (hs : 0 ∉ s) :
    strlen (s ++ 0 :: rest) = some (s.length, s.length + 1) := by
  induction s with
  | nil => rfl
  | cons c s ih =>
    obtain ⟨hc, hs⟩ : 0 ≠ c ∧ 0 ∉ s := by simpa using hs
    show (if c = 0 then some (0, 1)
      else (strlen (s ++ 0 :: rest)).map fun r => (r.1 + 1, r.2 + 1)) = _
    rw [if_neg (Ne.symm hc), ih hs]
    rfl

/-- Without a NUL `strlen` looks at all there is, and at a byte behind it. -/
theorem le_of_strlen {n k : Nat} (hs : 0 ∉ s) (h : strlen (s ++ rest) = some (n, k)) :
    s.length ≤ n ∧ n < k := by
  have hlt : ∀ {mem : List UInt8} {n k : Nat}, strlen mem = some (n, k) → n < k := by
    intro mem
    induction mem with
    | nil => intro n k h; cases h
    | cons c mem ih =>
      intro n k h
      by_cases hc : c = 0
      · rw [strlen, if_pos hc] at h
        cases h
        exact Nat.one_pos
      · rw [strlen, if_neg hc] at h
        obtain ⟨r, hr, hrk⟩ := Option.map_eq_some_iff.1 h
        cases hrk
        exact Nat.succ_lt_succ (ih hr)
  refine ⟨?_, hlt h⟩
  induction s generalizing n k with
  | nil => exact Nat.zero_le _
  | cons c s ih =>
    obtain ⟨hc, hs⟩ : 0 ≠ c ∧ 0 ∉ s := by simpa using hs
    rw [List.cons_append, strlen, if_neg (Ne.symm hc)] at h
    obtain ⟨r, hr, hrk⟩ := Option.map_eq_some_iff.1 h
    cases hrk
    exact Nat.succ_le_succ (ih hs hr)

/-- **`strcmp` tells whether the string is `t`**, and stays in it. -/
theorem strcmp_append {t : List UInt8} (rest : List UInt8) (hs : 0 ∉ s) (ht : 0 ∉ t) :
    ∃ d k, strcmp t (s ++ 0 :: rest) = some (d, k) ∧ (d = 0 ↔ s = t) ∧ k ≤ s.length + 1 := by
  induction s generalizing t with
  | nil =>
    cases t with
    | nil => exact ⟨0, 1, rfl, by simp, Nat.le_refl _⟩
    | cons x t =>
      have hx : (0 : UInt8) ≠ x := fun h => ht (h ▸ List.mem_cons_self)
      refine ⟨(0 : Int) - x.toNat, 1, ?_, ?_, Nat.le_refl _⟩
      · rw [List.nil_append, strcmp, if_neg hx]
        rfl
      · have hpos : x.toNat ≠ 0 := fun h => hx (UInt8.toNat_inj.1 h).symm
        simp only [reduceCtorEq, iff_false]
        omega
  | cons c s ih =>
    obtain ⟨hc, hs⟩ : 0 ≠ c ∧ 0 ∉ s := by simpa using hs
    have hpos : c.toNat ≠ 0 := fun h => hc (UInt8.toNat_inj.1 h).symm
    cases t with
    | nil =>
      refine ⟨c.toNat, 1, rfl, ?_, by simp⟩
      simp only [reduceCtorEq, iff_false]
      omega
    | cons x t =>
      obtain ⟨hx, ht⟩ : 0 ≠ x ∧ 0 ∉ t := by simpa using ht
      by_cases hcx : c = x
      · -- the same character: the comparison goes on behind it
        obtain ⟨d, k, heq, hd, hk⟩ := ih hs ht
        refine ⟨d, k + 1, ?_, ?_, ?_⟩
        · rw [List.cons_append, strcmp, if_pos hcx, heq]
          rfl
        · rw [hd, hcx, List.cons.injEq]
          exact ⟨fun h => ⟨rfl, h⟩, fun h => h.2⟩
        · rw [List.length_cons]
          omega
      · refine ⟨(c.toNat : Int) - x.toNat, 1, ?_, ?_, by simp⟩
        · rw [List.cons_append, strcmp, if_neg hcx]
        · have hne : c.toNat ≠ x.toNat := fun h => hcx (UInt8.toNat_inj.1 h)
          rw [List.cons.injEq]
          constructor
          · intro h
            omega
          · rintro ⟨rfl, -⟩
            exact absurd rfl hcx

/-- **`strncmp` tells whether the string begins with `t`**, and stays in it. -/
theorem strncmp_append {t : List UInt8} (rest : List UInt8) (hs : 0 ∉ s) (ht : 0 ∉ t) :
    ∃ d k, strncmp t (s ++ 0 :: rest) = some (d, k) ∧ (d = 0 ↔ t <+: s) ∧ k ≤ s.length + 1 := by
  induction s generalizing t with
  | nil =>
    cases t with
    | nil => exact ⟨0, 0, rfl, by simp, Nat.zero_le _⟩
    | cons x t =>
      have hx : (0 : UInt8) ≠ x := fun h => ht (h ▸ List.mem_cons_self)
      refine ⟨(0 : Int) - x.toNat, 1, ?_, ?_, Nat.le_refl _⟩
      · rw [List.nil_append, strncmp, if_neg hx]
        rfl
      · have hpos : x.toNat ≠ 0 := fun h => hx (UInt8.toNat_inj.1 h).symm
        simp only [List.prefix_nil, reduceCtorEq, iff_false]
        omega
  | cons c s ih =>
    obtain ⟨hc, hs⟩ : 0 ≠ c ∧ 0 ∉ s := by simpa using hs
    cases t with
    | nil => exact ⟨0, 0, rfl, by simp, Nat.zero_le _⟩
    | cons x t =>
      obtain ⟨hx, ht⟩ : 0 ≠ x ∧ 0 ∉ t := by simpa using ht
      by_cases hcx : c = x
      · -- the same character: the comparison goes on behind it
        obtain ⟨d, k, heq, hd, hk⟩ := ih hs ht
        refine ⟨d, k + 1, ?_, ?_, ?_⟩
        · rw [List.cons_append, strncmp, if_pos hcx, heq]
          rfl
        · rw [hd, hcx, List.cons_prefix_cons]
          exact ⟨fun h => ⟨rfl, h⟩, fun h => h.2⟩
        · rw [List.length_cons]
          omega
      · refine ⟨(c.toNat : Int) - x.toNat, 1, ?_, ?_, by simp⟩
        · rw [List.cons_append, strncmp, if_neg hcx]
        · have hne : c.toNat ≠ x.toNat := fun h => hcx (UInt8.toNat_inj.1 h)
          rw [List.cons_prefix_cons]
          constructor
          · intro h
            omega
          · rintro ⟨rfl, -⟩
            exact absurd rfl hcx

/-- What memory begins with, where it has no NUL, its first string begins with. -/
theorem prefix_string_iff {t : List UInt8} (ht : 0 ∉ t) : t <+: s ++ 0 :: rest ↔ t <+: s := by
  constructor
  · intro h
    rcases List.prefix_or_prefix_of_prefix h (List.prefix_append s (0 :: rest)) with hle | ⟨u, rfl⟩
    · exact hle
    · cases u with
      | nil => exact (List.append_nil s).symm ▸ List.prefix_refl s
      | cons c u =>
        obtain ⟨hc, -⟩ := List.cons_prefix_cons.1 ((List.prefix_append_right_inj s).1 h)
        exact absurd (hc ▸ List.mem_append_right s List.mem_cons_self) ht
  · exact fun h => h.trans (List.prefix_append s _)

end

/-! ## String after string -/

/-- The strings `strs`, one after the other. -/
def stringsOf (strs : List (List UInt8)) : List UInt8 := strs.flatMap (· ++ [0])

theorem stringsOf_cons (s : List UInt8) (strs : List (List UInt8)) :
    stringsOf (s :: strs) = s ++ 0 :: stringsOf strs := by simp [stringsOf]

theorem length_le_stringsOf (strs : List (List UInt8)) :
    strs.length ≤ (stringsOf strs).length := by
  induction strs with
  | nil => exact Nat.le_refl _
  | cons s strs ih =>
    rw [stringsOf_cons, List.length_append, List.length_cons, List.length_cons]
    omega

/-- Memory split at the NULs is the strings in it, and what follows the last one. -/
theorem splitOn_stringsOf {strs : List (List UInt8)} {tail : List UInt8}
    (hstrs : ∀ s ∈ strs, 0 ∉ s) (htail : 0 ∉ tail) :
    (stringsOf strs ++ tail).splitOn 0 = strs ++ [tail] := by
  induction strs with
  | nil => exact List.splitOn_eq_singleton htail
  | cons s strs ih =>
    have hs : 0 ∉ s := hstrs s List.mem_cons_self
    rw [stringsOf_cons, List.append_assoc, List.cons_append, List.splitOn_append_cons_self,
      List.splitOn_eq_singleton hs, ih fun s' hs' => hstrs s' (List.mem_cons_of_mem _ hs')]
    rfl

/-- **All memory is strings, and a rest without a NUL.** -/
theorem exists_stringsOf (bytes : List UInt8) :
    ∃ strs tail, bytes = stringsOf strs ++ tail ∧ (∀ s ∈ strs, 0 ∉ s) ∧ 0 ∉ tail := by
  induction bytes with
  | nil => exact ⟨[], [], rfl, by simp, by simp⟩
  | cons c bytes ih =>
    obtain ⟨strs, tail, rfl, hstrs, htail⟩ := ih
    by_cases hc : c = 0
    · refine ⟨[] :: strs, tail, ?_, ?_, htail⟩
      · rw [stringsOf_cons, hc]
        rfl
      · intro s hs
        rcases List.mem_cons.1 hs with rfl | hs
        · simp
        · exact hstrs s hs
    · have hcons : ∀ {s : List UInt8}, 0 ∉ s → 0 ∉ c :: s := fun hs h =>
        (List.mem_cons.1 h).elim (fun h => hc h.symm) hs
      cases strs with
      | nil => exact ⟨[], c :: tail, rfl, by simp, hcons htail⟩
      | cons s strs =>
        refine ⟨(c :: s) :: strs, tail, ?_, ?_, htail⟩
        · rw [stringsOf_cons, stringsOf_cons]
          rfl
        · intro s' hs'
          rcases List.mem_cons.1 hs' with rfl | hs'
          · exact hcons (hstrs s List.mem_cons_self)
          · exact hstrs s' (List.mem_cons_of_mem _ hs')

/-- Memory ends in a NUL where nothing follows the last string. -/
theorem getLast_stringsOf {strs : List (List UInt8)} {tail : List UInt8} (htail : 0 ∉ tail)
    (hne : stringsOf strs ++ tail ≠ []) :
    (stringsOf strs ++ tail).getLast hne = 0 ↔ tail = [] := by
  by_cases ht : tail = []
  · subst ht
    simp only [List.append_nil, iff_true]
    have hstrs : strs ≠ [] := fun h => hne (by rw [h]; rfl)
    obtain ⟨strs, s, rfl⟩ := (List.eq_nil_or_concat strs).resolve_left hstrs
    simp [stringsOf]
  · simp only [ht, iff_false, List.getLast_append_of_ne_nil _ ht]
    exact fun h => htail (h ▸ List.getLast_mem ht)

end Rk3399
