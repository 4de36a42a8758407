import Rk3399.Jpeg.Helpers.Standing
import Rk3399.Jpeg.Helpers.TableImage
/-!
# How far the writers reach

The writers of the baseline modes fill 136 words of the table memory and
the progressive one clears 144. In a memory that is mapped that far none of
them has a fault of the table memory, whatever the headers say: more
quantisation tables than components end in a fault of the index first.
-/

namespace Rk3399

namespace Jpeg

open Prog

variable {ρ α : Type} {n : Nat}

/-- A buffer that is mapped and has room for `n` words. -/
def MppBufferInfo.Room (n : Nat) (b : MppBufferInfo) : Prop := b.virAddr ≠ 0 ∧ 4 * n ≤ b.size

/-- The table memory has room for `n` words. -/
def TableRoom (n : Nat) (c : JpegDecContainer) : Prop := c.frame.pTableBase.Room n

/-- `x` stays in a table memory of `n` words. -/
abbrev InTable (n : Nat) (x : Decoder ρ α) : Prop :=
  Keeps (fun e _ => NoTable e) (TableRoom n) (TableRoom n) x

theorem inTable_storeWord {w : Nat} (value : Nat) (hw : w < n) :
    InTable n (storeWord w value : Decoder ρ Unit) := by
  refine keeps_bind (keeps_assert fun c hc hno => absurd ?_ hno) fun _ => keeps_modify fun _ h => h
  exact ⟨hc.1, by have := hc.2; omega⟩

theorem inTable_storeWords (words : List Nat) :
    ∀ w, w + words.length ≤ n → InTable n (storeWords w words : Decoder ρ Unit) := by
  induction words with
  | nil => exact fun _ _ => keeps_pure ()
  | cons value values ih =>
    intro w hw
    simp only [List.length_cons] at hw
    exact keeps_bind (inTable_storeWord value (by omega)) fun _ => ih (w + 1) (by omega)

theorem inTable_storeAt {b : Nat} (value : Nat) (hb : b + 4 ≤ 4 * n) :
    InTable n (storeAt b value : Decoder ρ Unit) := by
  refine keeps_bind (keeps_assert fun c hc hno => absurd ?_ hno) fun _ => keeps_modify fun _ h => h
  exact ⟨hc.1, by have := hc.2; omega⟩

theorem inTable_storesAt (words : List Nat) :
    ∀ b, b + 4 * words.length ≤ 4 * n → InTable n (storesAt b words : Decoder ρ Unit) := by
  induction words with
  | nil => exact fun _ _ => keeps_pure ()
  | cons value values ih =>
    intro b hb
    simp only [List.length_cons] at hb
    exact keeps_bind (inTable_storeAt value (by omega)) fun _ => ih (b + 4) (by omega)

theorem inTable_clearTable {words : Nat} (h0 : 0 < words) (hw : words ≤ n) :
    InTable n (clearTable words : Decoder ρ Unit) := by
  refine keeps_bind (keeps_assert fun c hc hno => absurd ?_ hno) fun _ => keeps_modify fun _ h => h
  exact ⟨hc.1, by have := hc.2; omega⟩

theorem inTable_subscript (i : Nat) : InTable n (subscript i : Decoder ρ (Fin 3)) :=
  (Frame.keeps (frame_subscript (noTable_index i)) (TableRoom n)).mono (fun _ h => h)
    fun _ _ h => h.1

/-! ## Quantisation tables -/

/-- The tables of the components are stored in the first 48 words. -/
theorem inTable_storeQuantTables (hn : 48 ≤ n) (count : Nat) :
    ∀ j w, w ≤ 16 * j → InTable n (storeQuantTables count j w : Decoder ρ Unit) := by
  induction count with
  | zero => exact fun _ _ _ => keeps_pure ()
  | succ count ih =>
    intro j w hw
    rw [storeQuantTables]
    refine keeps_bind_next (P := fun _ => j < 3) (inTable_subscript j) ?_ fun k hj => ?_
    · intro c k c' h
      unfold subscript at h
      by_contra hj
      rw [dif_neg hj] at h
      cases h
    refine keeps_bind_gets fun c _ => ?_
    have hlen := length_quantWords c k
    exact keeps_bind (inTable_storeWords _ w (by omega)) fun _ => ih (j + 1) (w + 16) (by omega)

/-- There are no more tables than components. -/
theorem storeQuantTables_next (count : Nat) : ∀ (j w : Nat) (c c' : JpegDecContainer), j ≤ 3 →
    (storeQuantTables count j w : Decoder ρ Unit) c = .next () c' → j + count ≤ 3 := by
  induction count with
  | zero => exact fun _ _ _ _ hj _ => hj
  | succ count ih =>
    intro j w c c' _ h
    obtain ⟨k, c1, hk, h⟩ := bind_eq_next h
    obtain ⟨words, c2, -, h⟩ := bind_eq_next h
    obtain ⟨-, c3, -, h⟩ := bind_eq_next h
    have hj : j < 3 := by
      unfold subscript at hk
      by_contra hj
      rw [dif_neg hj] at hk
      cases hk
    have hrest := ih (j + 1) (w + 16) c3 c' (by omega) h
    omega

/-! ## Baseline -/

theorem packed_packTable {m : Nat} {p : Packer} (h : p.Packed m) (len : Nat) (t : VlcTable) :
    (packTable len t p).Packed (m + len) := by
  unfold packTable
  split
  · next vals _ =>
    have hput := h.puts (paddedValues len t vals)
    rwa [paddedValues, List.length_map, List.length_range] at hput
  · exact h.skips len

theorem packed_packZeros {m : Nat} {p : Packer} (h : p.Packed m) (len : Nat) :
    (packZeros len p).Packed (m + len) := by
  have hput := h.puts (List.replicate len 0)
  rwa [List.length_replicate] at hput

theorem packed_packColour (c : JpegDecContainer) : (packColour c {}).Packed 348 :=
  packed_packTable (packed_packTable (packed_packTable (packed_packTable Packer.packed_start
    162 _) 162 _) 12 _) 12 _

theorem packed_packSingle (c : JpegDecContainer) (k : Fin 3) : (packSingle c k {}).Packed 348 :=
  packed_packZeros (packed_packTable (packed_packZeros (packed_packTable Packer.packed_start
    162 _) 162) 12 _) 12

theorem wp_packTables {c : JpegDecContainer} (hc : TableRoom n c) :
    wp (packTables : Decoder ρ Packer) (fun p c' => p.Packed 348 ∧ TableRoom n c')
      (fun _ => TableRoom n) (fun e _ => NoTable e) c := by
  unfold packTables
  rw [wp_bind, wp_gets, wp_ite]
  split
  · exact ⟨packed_packColour c, hc⟩
  rw [wp_bind, wp_gets, wp_ite]
  split
  · exact ⟨packed_packSingle c 0, hc⟩
  rw [wp_bind, wp_gets, wp_bind]
  exact wp_mono ((inTable_subscript _).run c hc) (fun k c' h => ⟨packed_packSingle c' k, h⟩)
    (fun _ _ h => h) (fun _ _ h => h)

theorem inTable_jpegDecWriteTables (hn : 136 ≤ n) :
    InTable n (jpegDecWriteTables : Decoder ρ Unit) := by
  refine keeps_bind (keeps_gets _) fun count => ?_
  refine keeps_bind_next (P := fun _ => count ≤ 3)
    (inTable_storeQuantTables (by omega) count 0 0 (by omega)) ?_ fun _ hcount => ?_
  · intro c _ c' h
    have := storeQuantTables_next count 0 0 c c' (by omega) h
    omega
  refine ⟨fun c hc => wp_seq (wp_packTables hc) fun packed c' h => ?_⟩
  obtain ⟨hpacked, hc'⟩ := h
  have hwords := (packed_packZeros hpacked 4).length_words
  exact (inTable_storeWords _ _ (by omega)).run c' hc'

/-! ## One word at a time -/

theorem length_shiftWords (vals : List Nat) (len : Nat) (m : Nat) :
    ∀ (j word : Nat) (out : List Nat),
    (shiftWords vals len m j word out).length = out.length + ((j + m) / 4 - j / 4) := by
  induction m with
  | zero => exact fun j word out => by simp [shiftWords]
  | succ m ih =>
    intro j word out
    rw [shiftWords, ih]
    split
    · rw [List.length_append, List.length_singleton]
      omega
    · omega

theorem length_tableWords (m : Nat) (t : VlcTable) (word : Nat) :
    (tableWords m t word).length = m / 4 := by
  rw [tableWords, length_shiftWords]
  simp

theorem length_acWords (t : VlcTable) (word : Nat) : (acWords t word).length = 41 := by
  rw [acWords, List.length_append, length_tableWords, List.length_singleton]

theorem inTable_jpegDecWriteTablesNonInterleaved (hn : 136 ≤ n) :
    InTable n (jpegDecWriteTablesNonInterleaved : Decoder ρ Unit) := by
  refine keeps_bind (inTable_clearTable (by decide) hn) fun _ => ?_
  refine keeps_bind (keeps_gets _) fun i => keeps_bind (inTable_subscript i) fun k => ?_
  refine keeps_bind (inTable_storeQuantTables (by omega) 1 k 0 (by omega)) fun _ => ?_
  refine keeps_bind (keeps_gets _) fun c => ?_
  have hroom : 4 * 136 ≤ 4 * n := Nat.mul_le_mul_left 4 hn
  refine keeps_bind (inTable_storesAt _ _ ?_) fun _ => ?_
  · rw [length_acWords]
    exact Nat.le_trans (by decide) hroom
  refine keeps_bind (inTable_storesAt _ _ ?_) fun _ => inTable_storeAt _ ?_
  · rw [length_tableWords]
    exact Nat.le_trans (by decide) hroom
  · exact Nat.le_trans (by decide) hroom

/-! ## Progressive -/

/-- The tables of a progressive scan end below byte 213. -/
theorem progressiveBase_le (dc : Bool) {count : Nat} (i : Nat) (hcount : count = 1 ∨ count = 3) :
    progressiveBase dc count i + 4 * (if dc then 3 else 41) ≤ 212 := by
  unfold progressiveBase
  rcases hcount with rfl | rfl
  · cases dc
    · simp only [Bool.false_eq_true, if_false]
      decide
    · simp only [if_true, if_neg (by decide : ¬ 1 = 3)]
      decide
  · cases dc
    · simp only [Bool.false_eq_true, if_false]
      decide
    · simp only [if_true]
      split
      · decide
      · split <;> decide

theorem wp_storeProgressive (hn : 144 ≤ n) {count : Nat} (hcount : count = 1 ∨ count = 3)
    (m : Nat) :
    ∀ (i word pos : Nat) (c : JpegDecContainer), pos ≤ 212 → TableRoom n c →
      wp (storeProgressive count m i word pos : Decoder ρ Nat)
        (fun pos' c' => pos' ≤ 212 ∧ TableRoom n c') (fun _ => TableRoom n)
        (fun e _ => NoTable e) c := by
  induction m with
  | zero => exact fun _ _ _ _ hpos hc => ⟨hpos, hc⟩
  | succ m ih =>
    intro i word pos c hpos hc
    rw [storeProgressive]
    refine wp_seq ((inTable_subscript i).run c hc) fun k c1 hc1 => ?_
    rw [wp_bind, wp_gets]
    -- both kinds of table end below byte 212
    have hstore : ∀ (words : List Nat) (base after : Nat), base + 4 * words.length ≤ 212 →
        wp (storesAt base words >>= fun _ =>
          (storeProgressive count m (i + 1) after (base + 4 * words.length) : Decoder ρ Nat))
          (fun pos' c' => pos' ≤ 212 ∧ TableRoom n c') (fun _ => TableRoom n)
          (fun e _ => NoTable e) c1 := by
      intro words base after hend
      exact wp_seq ((inTable_storesAt words base (by omega)).run c1 hc1)
        fun _ c2 hc2 => ih (i + 1) after _ c2 hend hc2
    dsimp only [id]
    split
    · next hdc =>
      refine hstore _ _ _ ?_
      have hbase := progressiveBase_le true i hcount
      rw [length_tableWords]
      simpa [hdc] using hbase
    · next hdc =>
      refine hstore _ _ _ ?_
      have hbase := progressiveBase_le false i hcount
      simp only [hdc, decide_false]
      split
      · rw [length_acWords]
        simpa using hbase
      · rw [length_tableWords]
        simp only [Bool.false_eq_true, if_false] at hbase
        omega

theorem inTable_jpegDecWriteTablesProgressive (hn : 144 ≤ n) :
    InTable n (jpegDecWriteTablesProgressive : Decoder ρ Unit) := by
  refine keeps_bind (inTable_clearTable (by decide) hn) fun _ => ?_
  refine keeps_bind (keeps_gets _) fun single => keeps_bind (keeps_gets _) fun first => ?_
  refine keeps_bind (inTable_storeQuantTables (by omega) _ first 0 (by omega)) fun _ => ?_
  refine keeps_bind (keeps_gets _) fun refining => keeps_ite _ (keeps_pure _) ?_
  refine keeps_bind (inTable_subscript _) (fun k => keeps_bind (keeps_gets _) fun word => ?_)
  have hcount : (if single then 1 else 3) = 1 ∨ (if single then 1 else 3) = 3 := by
    cases single <;> simp
  refine ⟨fun c hc => wp_seq (wp_storeProgressive hn hcount _ first word _ c ?_ hc) ?_⟩
  · cases single <;> decide
  · exact fun pos c' h => (inTable_storeAt 0 (by have := h.1; omega)).run c' h.2

end Jpeg

end Rk3399
