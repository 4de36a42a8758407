import Rk3399.Jpeg.Helpers.TableImage
/-!
# Tables shifted through a word

The non-interleaved and the progressive writer shift the values of a table
through one word and store it at every fourth value. For tables of bytes
the words stored are those of the bytes packed four at a time, whatever the
word held before, and the fill to the border completes the last word of an
AC table.
-/

namespace Rk3399

namespace Jpeg

open Prog

variable {ρ : Type} {c : JpegDecContainer} {t : VlcTable} {vals : List Nat} {len : Nat}

/-! ## Shifting -/

/-- A byte shifted into a word from below. -/
def shiftIn (word b : Nat) : Nat := word % 2 ^ 24 * 2 ^ 8 + b

/-- Value `j` of a table of length `len`, zero behind its end. -/
def valueAt (vals : List Nat) (len j : Nat) : Nat := if j < len then vals.getD j 0 else 0

/-- The values of a table are bytes. -/
def ByteTable (t : VlcTable) : Prop := ∀ b ∈ t.values, b < 256

instance (t : VlcTable) : Decidable (ByteTable t) :=
  inferInstanceAs (Decidable (∀ b ∈ t.values, b < 256))

theorem u32_shift (word : Nat) : u32 (word <<< 8) = (word % 2 ^ 24) <<< 8 := by
  unfold u32
  rw [Nat.shiftLeft_eq, Nat.shiftLeft_eq]
  omega

theorem shift_or {b : Nat} (hb : b < 256) (word : Nat) :
    u32 (word <<< 8) ||| b = shiftIn word b := by
  rw [u32_shift, ← Nat.shiftLeft_add_eq_or_of_lt (by omega), Nat.shiftLeft_eq, shiftIn]

theorem shift_zero (word : Nat) : u32 (word <<< 8) = shiftIn word 0 := by
  rw [u32_shift, Nat.shiftLeft_eq, shiftIn, Nat.add_zero]

/-- **Four bytes are a word**, whatever it held before. -/
theorem shiftIn_quad {a b c d : Nat} (ha : a < 256) (hb : b < 256) (hc : c < 256) (hd : d < 256)
    (word : Nat) :
    shiftIn (shiftIn (shiftIn (shiftIn word a) b) c) d = beWord a b c d := by
  rw [beWord_eq hb hc hd]
  unfold shiftIn
  omega

/-- The fill of an AC table: its last two bytes and two zeros. -/
theorem shiftIn_border {a b : Nat} (ha : a < 256) (hb : b < 256) (word : Nat) :
    u32 (shiftIn (shiftIn word a) b <<< 16) = beWord a b 0 0 := by
  rw [beWord_eq hb (by decide) (by decide), Nat.shiftLeft_eq]
  unfold u32 shiftIn
  omega

/-- One step of the loops. -/
theorem shift_step (hb : ∀ j, valueAt vals len j < 256) (word j : Nat) :
    (if j < len then u32 (word <<< 8) ||| vals.getD j 0 else u32 (word <<< 8)) =
      shiftIn word (valueAt vals len j) := by
  have hj := hb j
  unfold valueAt at hj ⊢
  by_cases h : j < len
  · rw [if_pos h] at hj
    rw [if_pos h, if_pos h, shift_or hj]
  · rw [if_neg h, if_neg h, shift_zero]

/-! ## The words stored -/

/-- The words stored for `4 * m + r` values from value `4 * q` on. -/
theorem shiftWords_quads (hb : ∀ j, valueAt vals len j < 256) {r : Nat} (hr : r < 4) (m : Nat) :
    ∀ (q word : Nat) (out : List Nat), shiftWords vals len (4 * m + r) (4 * q) word out =
      out ++ packWords ((List.range' (4 * q) (4 * m)).map (valueAt vals len)) := by
  induction m with
  | zero =>
    intro q word out
    have h0 : 4 * q % 4 ≠ 3 := by omega
    have h1 : (4 * q + 1) % 4 ≠ 3 := by omega
    have h2 : (4 * q + 1 + 1) % 4 ≠ 3 := by omega
    have hnil : out ++ packWords ((List.range' (4 * q) (4 * 0)).map (valueAt vals len)) = out :=
      List.append_nil out
    rw [hnil]
    -- fewer than four bytes are left, and no word is stored for them
    rcases r with _ | _ | _ | _ | r
    · rfl
    · simp only [shiftWords, if_neg h0]
    · simp only [shiftWords, if_neg h0, if_neg h1]
    · simp only [shiftWords, if_neg h0, if_neg h1, if_neg h2]
    · omega
  | succ m ih =>
    intro q word out
    have h0 : 4 * q % 4 ≠ 3 := by omega
    have h1 : (4 * q + 1) % 4 ≠ 3 := by omega
    have h2 : (4 * q + 1 + 1) % 4 ≠ 3 := by omega
    have h3 : (4 * q + 1 + 1 + 1) % 4 = 3 := by omega
    have hcount : 4 * (m + 1) + r = 4 * m + r + 1 + 1 + 1 + 1 := by omega
    have hnext : 4 * q + 1 + 1 + 1 + 1 = 4 * (q + 1) := by omega
    -- the word of a round takes the next four bytes
    have hbytes : (List.range' (4 * q) (4 * (m + 1))).map (valueAt vals len) =
        valueAt vals len (4 * q) :: valueAt vals len (4 * q + 1) ::
          valueAt vals len (4 * q + 1 + 1) :: valueAt vals len (4 * q + 1 + 1 + 1) ::
            (List.range' (4 * (q + 1)) (4 * m)).map (valueAt vals len) := by
      rw [← hnext]
      rfl
    rw [hcount, hbytes, packWords]
    simp only [shiftWords, shift_step hb, if_neg h0, if_neg h1, if_neg h2, if_pos h3]
    rw [hnext, ih, shiftIn_quad (hb _) (hb _) (hb _) (hb _), List.append_assoc]
    rfl

/-- The word after the last two of `n + 2` values. -/
theorem lastWord_two (hb : ∀ j, valueAt vals len j < 256) (n : Nat) : ∀ j word : Nat,
    lastWord vals len (n + 2) j word =
      shiftIn (shiftIn (lastWord vals len n j word) (valueAt vals len (j + n)))
        (valueAt vals len (j + n + 1)) := by
  induction n with
  | zero =>
    intro j word
    simp only [lastWord, shift_step hb, Nat.add_zero]
  | succ n ih =>
    intro j word
    have hj : j + 1 + n = j + (n + 1) := by omega
    rw [lastWord, ih, hj]
    rfl

/-! ## Tables of bytes -/

theorem ByteTable.valueAt_lt (h : ByteTable t) (j : Nat) :
    valueAt t.values t.tableLength j < 256 := by
  unfold valueAt
  split
  · by_cases hj : j < t.values.length
    · rw [List.getD_eq_getElem _ _ hj]
      exact h _ (List.getElem_mem hj)
    · rw [List.getD_eq_default _ _ (by omega)]
      decide
  · decide

theorem ByteTable.paddedValues_eq (h : ByteTable t) (n : Nat) :
    paddedValues n t t.values = (List.range n).map (valueAt t.values t.tableLength) := by
  refine List.map_congr_left fun i _ => ?_
  have hlt := h.valueAt_lt i
  unfold valueAt at hlt ⊢
  split
  · rename_i hi
    rw [if_pos hi] at hlt
    exact Nat.mod_eq_of_lt hlt
  · rfl

/-- **The words of a table** are those of its bytes, without the bytes behind the
last whole word. -/
theorem ByteTable.tableWords_eq (h : ByteTable t) (m : Nat) {r : Nat} (hr : r < 4) (word : Nat) :
    tableWords (4 * m + r) t word =
      packWords ((paddedValues (4 * m + r) t t.values).take (4 * m)) := by
  have hwords := shiftWords_quads h.valueAt_lt hr m 0 word []
  have htake : (paddedValues (4 * m + r) t t.values).take (4 * m) =
      (List.range' (4 * 0) (4 * m)).map (valueAt t.values t.tableLength) := by
    rw [h.paddedValues_eq, ← List.map_take, List.take_range, Nat.min_eq_left (by omega),
      List.range_eq_range', Nat.mul_zero]
  rw [htake]
  exact hwords

/-- **The fill completes the last word** of an AC table. -/
theorem ByteTable.acWords_eq (h : ByteTable t) (word : Nat) :
    acWords t word = packWords (paddedValues 162 t t.values ++ [0, 0]) := by
  have hwords := h.tableWords_eq 40 (by decide : 2 < 4) word
  have hlast := lastWord_two h.valueAt_lt 160 0 word
  have hsplit : paddedValues 162 t t.values = (paddedValues 162 t t.values).take 160 ++
      [valueAt t.values t.tableLength 160, valueAt t.values t.tableLength 161] := by
    rw [h.paddedValues_eq, ← List.map_take, List.take_range]
    exact (congrArg (List.map _) (List.range_succ (n := 161))).trans
      (by rw [List.range_succ (n := 160), List.map_append, List.map_append, List.append_assoc]; rfl)
  have hlen : ((paddedValues 162 t t.values).take 160).length % 4 = 0 := by
    rw [List.length_take, length_paddedValues]
    rfl
  have hborder : u32 (wordAfter 162 t word <<< 16) =
      beWord (valueAt t.values t.tableLength 160) (valueAt t.values t.tableLength 161) 0 0 := by
    rw [wordAfter]
    change u32 (lastWord t.values t.tableLength (160 + 2) 0 word <<< 16) = _
    rw [hlast, shiftIn_border (h.valueAt_lt _) (h.valueAt_lt _)]
  have hjoin : paddedValues 162 t t.values ++ [0, 0] = (paddedValues 162 t t.values).take 160 ++
      [valueAt t.values t.tableLength 160, valueAt t.values t.tableLength 161, 0, 0] := by
    conv_lhs => rw [hsplit]
    rw [List.append_assoc]
    rfl
  calc acWords t word = tableWords (4 * 40 + 2) t word ++
        [beWord (valueAt t.values t.tableLength 160) (valueAt t.values t.tableLength 161) 0 0] := by
        rw [acWords, hborder]
    _ = packWords ((paddedValues 162 t t.values).take 160) ++ packWords
        [valueAt t.values t.tableLength 160, valueAt t.values t.tableLength 161, 0, 0] := by
        rw [hwords]
        rfl
    _ = packWords (paddedValues 162 t t.values ++ [0, 0]) := by
        rw [← packWords_append _ hlen, hjoin]

/-! ## Clearing -/

/-- A memory whose first words are cleared. -/
def clearedWords (words : Nat) (mem : Nat → Nat) : Nat → Nat :=
  fun w => if w < words then 0 else mem w

theorem clearTable_eq {words : Nat} (h : TableWord (words - 1) c) :
    (clearTable words : Decoder ρ Unit) c =
      .next () { c with tableMem := clearedWords words c.tableMem } := by
  have hassert : (assert (.table (words - 1)) (TableWord (words - 1)) : Decoder ρ Unit) c =
      .next () c := if_pos h
  rw [clearTable, bind_next hassert]
  rfl

end Jpeg

end Rk3399
