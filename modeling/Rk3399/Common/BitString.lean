import Mathlib.Tactic.Common
import Mathlib.Data.List.GetD
import Rk3399.Common.Word
/-!
# Strings of bits in a memory of bytes

The bits of a byte are counted from the most significant one. A writer of
codes keeps a code at the top of a 32-bit word: it adds the first bits to
the byte it stands in, and shifts the others out byte by byte. However the
code lies over the bytes, the memory then holds the bits written before
and those of the code, and zeros up to the end of the last byte.
-/

namespace Rk3399

/-! ## Bits -/

/-- Bit `j` of a memory. -/
def bitAt (mem : Nat → Nat) (j : Nat) : Bool := (mem (j / 8)).testBit (7 - j % 8)

/-- Bit `k` of a 32-bit word. -/
def wordBit (word k : Nat) : Bool := decide (k < 32) && word.testBit (31 - k)

/-- The first `n` bits of a word. -/
def wordBits (word n : Nat) : List Bool := (List.range n).map (wordBit word)

/-- The number a string of bits stands for. -/
def bitsValue (bits : List Bool) : Nat := bits.foldl (fun value bit => 2 * value + bit.toNat) 0

/-- The bits of a byte. -/
def byteBits (b : Nat) : List Bool := (List.range 8).map fun t => b.testBit (7 - t)

/-- The bits of bytes. -/
def bytesBits (bytes : List Nat) : List Bool := bytes.flatMap byteBits

@[simp] theorem length_wordBits (word n : Nat) : (wordBits word n).length = n := by
  rw [wordBits, List.length_map, List.length_range]

@[simp] theorem length_byteBits (b : Nat) : (byteBits b).length = 8 := by
  rw [byteBits, List.length_map, List.length_range]

@[simp] theorem length_bytesBits (bytes : List Nat) :
    (bytesBits bytes).length = 8 * bytes.length := by
  induction bytes with
  | nil => rfl
  | cons b bytes ih =>
    rw [bytesBits, List.flatMap_cons, List.length_append, length_byteBits, List.length_cons]
    rw [bytesBits] at ih
    omega

theorem bytesBits_cons (b : Nat) (bytes : List Nat) :
    bytesBits (b :: bytes) = byteBits b ++ bytesBits bytes := List.flatMap_cons

/-- The bits of the first `n` bytes of a memory. -/
theorem bytesBits_range (mem : Nat → Nat) (n : Nat) :
    bytesBits ((List.range n).map mem) = (List.range (8 * n)).map (bitAt mem) := by
  induction n with
  | zero => rfl
  | succ n ih =>
    have hbyte : byteBits (mem n) = (List.range 8).map fun t => bitAt mem (8 * n + t) := by
      refine List.map_congr_left fun t ht => ?_
      have hlt := List.mem_range.mp ht
      rw [bitAt, show (8 * n + t) / 8 = n by omega, show (8 * n + t) % 8 = t by omega]
    rw [List.range_succ, List.map_append, bytesBits, List.flatMap_append, Nat.mul_succ,
      List.range_add, List.map_append, List.map_map]
    rw [bytesBits] at ih
    rw [ih, List.map_singleton, List.flatMap_singleton, hbyte]
    rfl

theorem testBit_of_wordBit {word k : Nat} (hk : k < 32) :
    word.testBit (31 - k) = wordBit word k := by
  rw [wordBit, decide_eq_true hk, Bool.true_and]

/-- A shift brings a later bit of a word to the top. -/
theorem testBit_shifted (word s : Nat) {t : Nat} (ht : t < 8) :
    (u32 (word <<< s) >>> 24).testBit (7 - t) = wordBit word (s + t) := by
  rw [Nat.testBit_shiftRight, u32, Nat.testBit_mod_two_pow, Nat.testBit_shiftLeft, wordBit,
    show 24 + (7 - t) = 31 - t by omega, decide_eq_true (by omega : 31 - t < 32), Bool.true_and]
  by_cases hs : s + t < 32
  · rw [decide_eq_true hs, decide_eq_true (by omega : s ≤ 31 - t),
      show 31 - t - s = 31 - (s + t) by omega]
  · rw [decide_eq_false hs, decide_eq_false (by omega : ¬ s ≤ 31 - t), Bool.false_and,
      Bool.false_and]

/-- The bits of a word that lie behind `b` others in a byte. -/
theorem testBit_top {word : Nat} (hword : word < 2 ^ 32) {b t : Nat} (ht : t < 8) (hb : b < 8) :
    (word >>> (24 + b)).testBit (7 - t) = if t < b then false else wordBit word (t - b) := by
  rw [Nat.testBit_shiftRight]
  by_cases htb : t < b
  · rw [if_pos htb]
    exact Nat.testBit_lt_two_pow
      (Nat.lt_of_lt_of_le hword (Nat.pow_le_pow_right (by decide) (by omega)))
  · rw [if_neg htb, ← testBit_of_wordBit (by omega)]
    congr 1
    omega

theorem shifted_shifted (word s s' : Nat) :
    u32 (u32 (word <<< s) <<< s') = u32 (word <<< (s + s')) := by
  simp only [u32, Nat.shiftLeft_eq, Nat.mod_mul_mod, Nat.pow_add, Nat.mul_assoc]

/-! ## Numbers -/

/-- The lowest `n` bits of a number, the highest of them first. -/
def bitsOf (n v : Nat) : List Bool := (List.range n).map fun i => v.testBit (n - 1 - i)

@[simp] theorem length_bitsOf (n v : Nat) : (bitsOf n v).length = n := by
  rw [bitsOf, List.length_map, List.length_range]

theorem getD_bitsOf {n v t : Nat} (ht : t < n) :
    (bitsOf n v).getD t false = v.testBit (n - 1 - t) := by
  rw [List.getD_eq_getElem _ _ (by rw [length_bitsOf]; exact ht)]
  simp only [bitsOf, List.getElem_map, List.getElem_range]

theorem bitsOf_cons (n v : Nat) : bitsOf (n + 1) v = v.testBit n :: bitsOf n v := by
  rw [bitsOf, List.range_succ_eq_map, List.map_cons, List.map_map]
  refine congrArg _ (List.map_congr_left fun i _ => ?_)
  show v.testBit (n + 1 - 1 - (i + 1)) = v.testBit (n - 1 - i)
  congr 1
  omega

theorem bitsOf_snoc (n v : Nat) : bitsOf (n + 1) v = bitsOf n (v / 2) ++ [v.testBit 0] := by
  rw [bitsOf, List.range_succ, List.map_append, List.map_singleton, Nat.add_sub_cancel,
    Nat.sub_self]
  congr 1
  refine List.map_congr_left fun i hi => ?_
  have hlt := List.mem_range.mp hi
  rw [Nat.testBit_div_two]
  congr 1
  omega

theorem bitsOf_mod (n v : Nat) : bitsOf n (v % 2 ^ n) = bitsOf n v := by
  refine List.map_congr_left fun i hi => ?_
  have hlt := List.mem_range.mp hi
  rw [Nat.testBit_mod_two_pow, decide_eq_true (by omega), Bool.true_and]

theorem bitsValue_snoc (bits : List Bool) (bit : Bool) :
    bitsValue (bits ++ [bit]) = 2 * bitsValue bits + bit.toNat := by
  rw [bitsValue, List.foldl_append]
  rfl

/-- **A number is read back from its bits.** -/
theorem bitsValue_bitsOf (n : Nat) : ∀ {v : Nat}, v < 2 ^ n → bitsValue (bitsOf n v) = v := by
  induction n with
  | zero =>
    intro v hv
    rw [Nat.pow_zero] at hv
    exact (Nat.lt_one_iff.mp hv).symm
  | succ n ih =>
    intro v hv
    have hlow : (v.testBit 0).toNat = v % 2 := by
      rw [Nat.testBit_zero]
      rcases Nat.mod_two_eq_zero_or_one v with h | h
      · rw [h]
        rfl
      · rw [h]
        rfl
    rw [bitsOf_snoc, bitsValue_snoc, ih (by rw [Nat.pow_succ] at hv; omega), hlow]
    omega

/-- The bits at the top of a word are those of the number shifted there. -/
theorem wordBits_shifted {n : Nat} (hn : n ≤ 32) (v : Nat) :
    wordBits (u32 (v <<< (32 - n))) n = bitsOf n v := by
  refine List.map_congr_left fun i hi => ?_
  have hlt := List.mem_range.mp hi
  rw [wordBit, decide_eq_true (by omega : i < 32), Bool.true_and, u32, Nat.testBit_mod_two_pow,
    Nat.testBit_shiftLeft, decide_eq_true (by omega : 31 - i < 32),
    decide_eq_true (by omega : 32 - n ≤ 31 - i), Bool.true_and, Bool.true_and]
  congr 1
  omega

theorem wordBit_shifted {n i : Nat} (hi : n ≤ i) (v : Nat) :
    wordBit (u32 (v <<< (32 - n))) i = false := by
  rw [wordBit]
  by_cases hlt : i < 32
  · rw [u32, Nat.testBit_mod_two_pow, Nat.testBit_shiftLeft,
      decide_eq_false (by omega : ¬ 32 - n ≤ 31 - i), Bool.false_and, Bool.and_false,
      Bool.and_false]
  · rw [decide_eq_false hlt, Bool.false_and]

/-! ## Writing -/

/-- The first `n` bytes of the memory hold the bits, and zeros behind them. -/
structure Written (mem : Nat → Nat) (n : Nat) (bits : List Bool) : Prop where
  length_le : bits.length ≤ 8 * n
  bitAt_eq : ∀ j < 8 * n, bitAt mem j = bits.getD j false
  lt : ∀ p < n, mem p < 256

variable {mem mem' : Nat → Nat} {bits : List Bool} {n : Nat}

/-- Bytes of zeros may be left out. -/
theorem Written.mono {m : Nat} (h : Written mem n bits) (hm : m ≤ n) (hbits : bits.length ≤ 8 * m) :
    Written mem m bits :=
  ⟨hbits, fun j hj => h.bitAt_eq j (by omega), fun p hp => h.lt p (by omega)⟩

theorem written_nil (mem : Nat → Nat) : Written mem 0 [] :=
  ⟨Nat.le_refl 0, fun _ hj => absurd hj (Nat.not_lt_zero _),
    fun _ hp => absurd hp (Nat.not_lt_zero _)⟩

/-- The bytes of a memory are the bits written to it. -/
theorem Written.bytesBits_eq (h : Written mem n bits) :
    bytesBits ((List.range n).map mem) = bits ++ List.replicate (8 * n - bits.length) false := by
  rw [bytesBits_range]
  refine List.ext_getElem ?_ fun j hj hj' => ?_
  · rw [List.length_map, List.length_range, List.length_append, List.length_replicate]
    have := h.length_le
    omega
  · rw [List.length_map, List.length_range] at hj
    rw [List.getElem_map, List.getElem_range, h.bitAt_eq j hj]
    by_cases hin : j < bits.length
    · rw [List.getElem_append_left hin, List.getD_eq_getElem _ _ hin]
    · rw [List.getElem_append_right (by omega), List.getElem_replicate,
        List.getD_eq_default _ _ (by omega)]

/-- A byte is known by its bits. -/
theorem Written.byte_eq (h : Written mem n bits) {p : Nat} (hp : p < n) {v : Nat} (hv : v < 256)
    (hbits : ∀ t < 8, bits.getD (8 * p + t) false = v.testBit (7 - t)) : mem p = v := by
  refine Nat.eq_of_testBit_eq fun i => ?_
  by_cases hi : i < 8
  · have hbit := h.bitAt_eq (8 * p + (7 - i)) (by omega)
    rw [hbits (7 - i) (by omega), bitAt, show (8 * p + (7 - i)) / 8 = p by omega,
      show 7 - (8 * p + (7 - i)) % 8 = i by omega, show 7 - (7 - i) = i by omega] at hbit
    exact hbit
  · have hle : 256 ≤ 2 ^ i := Nat.pow_le_pow_right (n := 2) (i := 8) (by decide) (by omega)
    rw [Nat.testBit_lt_two_pow (Nat.lt_of_lt_of_le (h.lt p hp) hle),
      Nat.testBit_lt_two_pow (Nat.lt_of_lt_of_le hv hle)]

/-- A byte within the first bits is known by them. -/
theorem Written.byte_eq_prefix {before after : List Bool} (h : Written mem n (before ++ after))
    {p : Nat} (hp : 8 * p + 8 ≤ before.length) {v : Nat} (hv : v < 256)
    (hbits : ∀ t < 8, before.getD (8 * p + t) false = v.testBit (7 - t)) : mem p = v := by
  have hle := h.length_le
  rw [List.length_append] at hle
  refine h.byte_eq (by omega) hv fun t ht => ?_
  rw [List.getD_append _ _ _ _ (by omega)]
  exact hbits t ht

/-- **A code put behind the bits**: its top in the byte they end in, the rest in the `m`
bytes behind. -/
theorem Written.code {word m k : Nat}
    (h : Written mem (bits.length / 8 + if bits.length % 8 ≠ 0 then 1 else 0) bits)
    (hword : word < 2 ^ 32) (hk : ∀ i, k ≤ i → wordBit word i = false)
    (hroom : bits.length % 8 + k ≤ 8 * (1 + m))
    (hbefore : ∀ p < bits.length / 8, mem' p = mem p)
    (hfirst : mem' (bits.length / 8) =
      ((if bits.length % 8 ≠ 0 then mem (bits.length / 8) else 0) |||
        word >>> (24 + bits.length % 8)) % 2 ^ 8)
    (hrest : ∀ i < m, mem' (bits.length / 8 + 1 + i) =
      u32 (word <<< (8 - bits.length % 8 + 8 * i)) >>> 24 % 2 ^ 8) :
    Written mem' (bits.length / 8 + 1 + m) (bits ++ wordBits word k) := by
  have hcode : ∀ i, (wordBits word k).getD i false = wordBit word i := by
    intro i
    by_cases hi : i < k
    · rw [List.getD_eq_getElem _ _ (by rw [length_wordBits]; exact hi)]
      simp only [wordBits, List.getElem_map, List.getElem_range]
    · rw [List.getD_eq_default _ _ (by rw [length_wordBits]; omega), hk i (by omega)]
  obtain ⟨p, hp⟩ : ∃ p, p = bits.length / 8 := ⟨_, rfl⟩
  obtain ⟨b, hb⟩ : ∃ b, b = bits.length % 8 := ⟨_, rfl⟩
  have hlen : bits.length = 8 * p + b := by omega
  rw [← hp, ← hb] at h hfirst hrest
  rw [← hp] at hbefore ⊢
  rw [← hb] at hroom
  refine ⟨by rw [List.length_append, length_wordBits]; omega, fun j hj => ?_, fun q hq => ?_⟩
  case refine_2 =>
    rcases Nat.lt_trichotomy q p with hlt | rfl | hgt
    · rw [hbefore q hlt]
      exact h.lt q (by omega)
    · rw [hfirst]
      exact Nat.mod_lt _ (by decide)
    · obtain ⟨i, rfl⟩ : ∃ i, q = p + 1 + i := ⟨q - p - 1, by omega⟩
      rw [hrest i (by omega)]
      exact Nat.mod_lt _ (by decide)
  obtain ⟨t, ht⟩ : ∃ t, t = j % 8 := ⟨_, rfl⟩
  rcases Nat.lt_trichotomy (j / 8) p with hlt | heq | hgt
  · -- a byte that was full before
    have hin : j < bits.length := by omega
    rw [bitAt, hbefore _ hlt, List.getD_append _ _ _ _ hin]
    exact h.bitAt_eq j (by omega)
  · -- the byte the bits end in
    rw [bitAt, heq, hfirst, Nat.testBit_mod_two_pow, Nat.testBit_or, ← ht,
      testBit_top hword (by omega) (by omega), decide_eq_true (by omega : 7 - t < 8), Bool.true_and]
    by_cases htb : t < b
    · have hold := h.bitAt_eq j (by split <;> omega)
      rw [bitAt, heq, ← ht] at hold
      rw [if_pos htb, if_pos (by omega), Bool.or_false, hold,
        List.getD_append _ _ _ _ (by omega)]
    · -- the bits of the byte that are not yet taken are zero
      have hzero : (if b ≠ 0 then mem p else 0).testBit (7 - t) = false := by
        by_cases hb0 : b ≠ 0
        · have hold := h.bitAt_eq j (by rw [if_pos hb0]; omega)
          rw [bitAt, heq, ← ht, List.getD_eq_default _ _ (by omega)] at hold
          rw [if_pos hb0, hold]
        · rw [if_neg hb0]
          exact Nat.zero_testBit _
      rw [if_neg htb, hzero, Bool.false_or, List.getD_append_right _ _ _ _ (by omega), hcode]
      congr 1
      omega
  · -- a byte behind it
    obtain ⟨i, hi⟩ : ∃ i, j / 8 = p + 1 + i := ⟨j / 8 - p - 1, by omega⟩
    rw [bitAt, hi, hrest i (by omega), Nat.testBit_mod_two_pow, ← ht,
      testBit_shifted word _ (by omega), decide_eq_true (by omega : 7 - t < 8), Bool.true_and,
      List.getD_append_right _ _ _ _ (by omega), hcode]
    congr 1
    omega

end Rk3399
