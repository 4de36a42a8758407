import Mathlib.Data.List.Basic
import Rk3399.Led.Model.Encodings
/-!
# The two encodings agree

Entry `k` of `led_multi_data` and bit `k` of a word are those of colour
`k % 3` of LED `k / 3`: a loop that copies the records of each LED, and a loop
that ors its bits into a word, put there what the tables have for the colour of
that LED.
-/

namespace Rk3399

namespace Led

/-- The entry is on. -/
def LedCtrlData.On (d : LedCtrlData) : Prop :=
  d.trigger = MULTI_TRIGGER_DEFAULT_ON ∧ d.brightness = LED_BRIGHTNESS_FULL

instance (d : LedCtrlData) : Decidable d.On := inferInstanceAs (Decidable (_ ∧ _))

section

variable {color : Nat → Color} {data : Nat → LedCtrlData} {n k : Nat}

/-! ## The tables -/

theorem length_ledMultiMode (color : Color) : (ledMultiMode color).length = 3 := by
  cases color <;> rfl

/-- The tables agree. -/
theorem getLsbD_ledsColorBitmap (color : Color) (hk : k < 3) :
    (ledsColorBitmap color).getLsbD k = decide ((ledMultiMode color).getD k unlit).On := by
  have hall : ∀ (c : Color) (k : Fin 3),
      (ledsColorBitmap c).getLsbD k = decide ((ledMultiMode c).getD k unlit).On := by
    intro c
    cases c <;> decide
  exact hall color ⟨k, hk⟩

/-- A colour has three bits. -/
theorem getLsbD_ledsColorBitmap_of_le (color : Color) (hk : 3 ≤ k) :
    (ledsColorBitmap color).getLsbD k = false := by
  have hlt : (ledsColorBitmap color).toNat < 2 ^ 3 := by cases color <;> decide
  exact Nat.testBit_lt_two_pow (Nat.lt_of_lt_of_le hlt (Nat.pow_le_pow_right (by decide) hk))

/-! ## The loops -/

/-- **The records of the LEDs**, each at its place. -/
theorem foldl_ledsMultiSetOneLed (color : Nat → Color) (data : Nat → LedCtrlData) (n k : Nat) :
    (List.range n).foldl (fun data i => ledsMultiSetOneLed i (color i) data) data k =
      if k < 3 * n then (ledMultiMode (color (k / 3))).getD (k % 3) unlit else data k := by
  induction n with
  | zero => rfl
  | succ n ih =>
    rw [List.range_succ, List.foldl_append, List.foldl_cons, List.foldl_nil, ledsMultiSetOneLed]
    by_cases hlast : k < n * 3 ∨ n * 3 + (ledMultiMode (color n)).length ≤ k
    · rw [poke_outside hlast, ih]
      rw [length_ledMultiMode] at hlast
      by_cases hk : k < 3 * n
      · rw [if_pos hk, if_pos (by omega)]
      · rw [if_neg hk, if_neg (by omega)]
    · obtain ⟨i, rfl⟩ : ∃ i, k = n * 3 + i := ⟨k - n * 3, by omega⟩
      have hi : i < (ledMultiMode (color n)).length := by omega
      have hi3 : i < 3 := by rwa [length_ledMultiMode] at hi
      rw [poke_inside hi, if_pos (by omega), show (n * 3 + i) / 3 = n by omega,
        show (n * 3 + i) % 3 = i by omega, List.getD_eq_getElem?_getD,
        List.getElem?_eq_getElem hi, Option.getD_some]

/-- **The bits of the LEDs**, each at its place. -/
theorem getLsbD_colorBits (color : Nat → Color) (hn : n ≤ 21) (k : Nat) :
    (colorBits color 3 n).getLsbD k =
      (decide (k < 3 * n) && (ledsColorBitmap (color (k / 3))).getLsbD (k % 3)) := by
  induction n with
  | zero => simp [colorBits]
  | succ n ih =>
    have hshift : u32 (n * 3) = n * 3 := u32_of_lt (by omega)
    have ih := ih (by omega)
    unfold colorBits at ih ⊢
    rw [List.range_succ, List.foldl_append, List.foldl_cons, List.foldl_nil, BitVec.getLsbD_or, ih,
      hshift, BitVec.getLsbD_shiftLeft]
    by_cases hbelow : k < 3 * n
    · have hlt : k < n * 3 := by omega
      have hlt' : k < 3 * (n + 1) := by omega
      simp [hbelow, hlt, hlt']
    · have hge : ¬ k < n * 3 := by omega
      by_cases hlast : k < 3 * (n + 1)
      · have hword : k < 64 := by omega
        rw [show k / 3 = n by omega, show k - n * 3 = k % 3 by omega]
        simp [hbelow, hge, hlast, hword]
      · rw [getLsbD_ledsColorBitmap_of_le (color n) (show 3 ≤ k - n * 3 by omega)]
        simp [hbelow, hlast]

end

/-! ## The bitmaps -/

/-- A bit of an index bitmap is tested with a mask. -/
theorem and_one_shiftLeft_ne_zero_iff {w : Nat} (word : BitVec w) {i : Nat} (hi : i < w) :
    word &&& 1#w <<< i ≠ 0#w ↔ word.getLsbD i = true := by
  have hbit : (word &&& 1#w <<< i).getLsbD i = word.getLsbD i := by
    simp [hi]
  constructor
  · intro hne
    by_contra hzero
    refine hne (BitVec.eq_of_getLsbD_eq fun j hj => ?_)
    rw [BitVec.getLsbD_and, BitVec.getLsbD_shiftLeft, BitVec.getLsbD_one, BitVec.getLsbD_zero]
    by_cases hij : j = i
    · rw [hij, Bool.eq_false_iff.2 hzero, Bool.false_and]
    · by_cases hlt : j < i
      · simp [hlt]
      · have hsub : j - i ≠ 0 := by omega
        simp [hsub]
  · intro hset hzero
    rw [hzero, BitVec.getLsbD_zero] at hbit
    rw [← hbit] at hset
    exact absurd hset (by decide)

/-- The two tests of a small index bitmap agree. -/
theorem bitmapTest_iff {bitmap i : Nat} (hi : i < 21) :
    (BitVec.ofNat 64 bitmap &&& 1#64 <<< i ≠ 0#64) ↔
      (BitVec.ofNat 32 bitmap &&& 1#32 <<< i ≠ 0#32) := by
  rw [and_one_shiftLeft_ne_zero_iff _ (by omega), and_one_shiftLeft_ne_zero_iff _ (by omega),
    BitVec.getLsbD_ofNat, BitVec.getLsbD_ofNat]
  have h64 : i < 64 := by omega
  have h32 : i < 32 := by omega
  simp [h64, h32]

/-! ## The functions -/

/-- The colour the index bitmap gives an LED. -/
def chosen (bitmap : Nat) (bgColor color : Color) (i : Nat) : Color :=
  if BitVec.ofNat 32 bitmap &&& 1#32 <<< i ≠ 0#32 then color else bgColor

theorem ledsMultiCertainOnWithBgcolor_eq (ledsNum bitmap : Nat) (bgColor color : Color)
    (data : Nat → LedCtrlData) :
    ledsMultiCertainOnWithBgcolor ledsNum (BitVec.ofNat 32 bitmap) bgColor color data =
      (List.range (ledsNum / 3)).foldl
        (fun data i => ledsMultiSetOneLed i (chosen bitmap bgColor color i) data)
        (poke 0 (List.replicate ledsNum unlit) data) := by
  unfold ledsMultiCertainOnWithBgcolor chosen
  congr 1
  funext data i
  split <;> rfl

theorem initBitmap_eq (ledsNum bitmap : Nat) (color bgColor : Color) (delayMs : Nat)
    (hnum : ledsNum ≤ 64) :
    (ledsMultiSetScroll ledsNum (BitVec.ofNat 64 bitmap) color bgColor 3 delayMs).initBitmap =
      colorBits (chosen bitmap bgColor color) 3 (ledsNum / 3) := by
  have hfold : ∀ n ≤ 21, colorBits
      (fun i => if BitVec.ofNat 64 bitmap &&& 1#64 <<< i ≠ 0#64 then color else bgColor) 3 n =
        colorBits (chosen bitmap bgColor color) 3 n := by
    intro n hn
    unfold colorBits chosen
    refine List.foldl_ext _ _ _ fun word i hi => ?_
    have hi21 : i < 21 := Nat.lt_of_lt_of_le (List.mem_range.1 hi) hn
    simp only [bitmapTest_iff hi21]
  exact hfold _ (by omega)

/-- What a function does to the records turns an entry on, whatever it was before. -/
def TurnsOn (f : (Nat → LedCtrlData) → Nat → LedCtrlData) (k : Nat) : Prop := ∀ data, (f data k).On

/-- `leds_multi_all_on` turns an entry on just where the bit of it is set. -/
theorem turnsOn_allOn_iff {ledsNum k : Nat} (color : Color) (hnum : ledsNum ≤ 64) :
    (colorBits (fun _ => color) 3 (ledsNum / 3)).getLsbD k = true ↔
      TurnsOn (ledsMultiAllOn ledsNum color) k := by
  rw [getLsbD_colorBits _ (by omega)]
  unfold TurnsOn ledsMultiAllOn
  simp only [foldl_ledsMultiSetOneLed fun _ => color]
  by_cases hk : k < 3 * (ledsNum / 3)
  · simp only [if_pos hk, decide_eq_true hk, Bool.true_and,
      getLsbD_ledsColorBitmap color (Nat.mod_lt k (by decide)), decide_eq_true_eq]
    exact ⟨fun h _ => h, fun h => h fun _ => unlit⟩
  · simp only [if_neg hk, decide_eq_false hk, Bool.false_and]
    exact iff_of_false (by decide) fun h => absurd (h fun _ => unlit) (by decide)

/-- Behind the last whole LED no bit is set. -/
theorem getLsbD_colorBits_of_le {color : Nat → Color} {n k : Nat} (hn : n ≤ 21) (hk : 3 * n ≤ k) :
    (colorBits color 3 n).getLsbD k = false := by
  rw [getLsbD_colorBits _ hn, decide_eq_false (Nat.not_lt.2 hk), Bool.false_and]

/-- **The two encodings agree** on every entry of the driver, and no bit behind the last whole
LED is set. -/
theorem encodings_agree {ledsNum bitmap : Nat} (hnum : ledsNum ≤ 64) (color bgColor : Color)
    (delayMs steps : Nat) (data : Nat → LedCtrlData) :
    let scroll := ledsMultiSetScroll ledsNum (BitVec.ofNat 64 bitmap) color bgColor 3 delayMs
    let breath := ledsMultiSetBreath ledsNum color bgColor delayMs steps
    (∀ k < ledsNum, scroll.initBitmap.getLsbD k = true ↔
      (ledsMultiCertainOnWithBgcolor ledsNum (BitVec.ofNat 32 bitmap) bgColor color data k).On) ∧
    (∀ k < ledsNum, (breath.breathBitmap.getLsbD k = true ↔
        TurnsOn (ledsMultiAllOn ledsNum color) k) ∧
      (breath.backgroundBitmap.getLsbD k = true ↔ TurnsOn (ledsMultiAllOn ledsNum bgColor) k)) ∧
    ∀ k, 3 * (ledsNum / 3) ≤ k → scroll.initBitmap.getLsbD k = false ∧
      breath.breathBitmap.getLsbD k = false ∧ breath.backgroundBitmap.getLsbD k = false := by
  intro scroll breath
  have hn : ledsNum / 3 ≤ 21 := by omega
  have hscroll : scroll.initBitmap = colorBits (chosen bitmap bgColor color) 3 (ledsNum / 3) :=
    initBitmap_eq ledsNum bitmap color bgColor delayMs hnum
  refine ⟨fun k hk => ?_, fun k _ => ⟨turnsOn_allOn_iff color hnum, turnsOn_allOn_iff bgColor hnum⟩,
    fun k hk => ⟨?_, getLsbD_colorBits_of_le hn hk, getLsbD_colorBits_of_le hn hk⟩⟩
  · rw [hscroll, getLsbD_colorBits _ hn, ledsMultiCertainOnWithBgcolor_eq, foldl_ledsMultiSetOneLed]
    by_cases hwhole : k < 3 * (ledsNum / 3)
    · rw [if_pos hwhole, decide_eq_true hwhole, Bool.true_and,
        getLsbD_ledsColorBitmap _ (Nat.mod_lt k (by decide)), decide_eq_true_eq]
    · have hunlit : poke 0 (List.replicate ledsNum unlit) data k = unlit := by
        have hk' : k < (List.replicate ledsNum unlit).length := by rwa [List.length_replicate]
        have hat : poke 0 (List.replicate ledsNum unlit) data (0 + k) = _ := poke_inside hk'
        rwa [Nat.zero_add, List.getElem_replicate] at hat
      rw [if_neg hwhole, decide_eq_false hwhole, Bool.false_and, hunlit]
      exact iff_of_false (by decide) (by decide)
  · rw [hscroll]
    exact getLsbD_colorBits_of_le hn hk

/-- Twelve entries, the first and the third LED in blue before white. -/
theorem encodings_agree_twelve :
    (ledsMultiSetScroll 12 (BitVec.ofNat 64 5) .blue .white 3 100).initBitmap.getLsbD 2 = true ∧
      (ledsMultiCertainOnWithBgcolor 12 (BitVec.ofNat 32 5) .white .blue (fun _ => unlit) 2).On :=
  ⟨by decide, ((encodings_agree (by decide : 12 ≤ 64) .blue .white 100 10 fun _ => unlit).1 2
    (by decide)).1 (by decide)⟩

end Led

end Rk3399
