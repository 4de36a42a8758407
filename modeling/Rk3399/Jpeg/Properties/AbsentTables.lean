import Rk3399.Jpeg.Properties.TablesLossless
/-!
# Absent tables

`JpegDecWriteTables` counts the bytes of a table that was never installed
without packing any, and sets the pending word to zero for each. The first
AC table ends in the middle of a word, so the second one takes its last two
bytes with it where it is absent; every other table begins at a word.
-/

namespace Rk3399

namespace Jpeg

open Prog

variable {ρ : Type} {c c' : JpegDecContainer}

/-! ## The claim -/

/-- **The states of the claim**: an interleaved colour baseline scan; of the first
two tables of each class those that are there are legal. -/
structure PresentLegal (c : JpegDecContainer) : Prop where
  colour : c.info.yCbCrMode ≠ JPEGDEC_YUV400
  baseline : c.info.operationType = JPEGDEC_BASELINE
  three : c.info.amountOfQTables = 3
  huffman : ∀ (Tc : TableClass) (id : Fin 4), id = 0 ∨ id = 1 →
    (c.vlc.get Tc id).vals ≠ none → LegalTable Tc (c.vlc.get Tc id)
  mapped : TableWord 135 c

/-- The memory of `c'` holds the table of a slot at its place: all its values, or
zeros where there is none. -/
def SlotHolds (c c' : JpegDecContainer) (Tc : TableClass) (slot : Nat) : Prop :=
  match (slotTable c Tc slot).vals with
  | some vals => bytesOf c'.tableMem (valueBase Tc slot) vals.length = vals
  | none => bytesOf c'.tableMem (valueBase Tc slot) (maxValues Tc) =
      List.replicate (maxValues Tc) 0

/-- Every table is at its place. -/
def TablesPlaced (c c' : JpegDecContainer) : Prop := ∀ Tc, ∀ slot < 2, SlotHolds c c' Tc slot

/-- Where the second AC table is absent, the last two values of the first one are
zero, or not there. -/
def TailZero (c : JpegDecContainer) : Prop :=
  (slotTable c .ac 1).vals = none → ∀ i, 160 ≤ i → (slotTable c .ac 0).values.getD i 0 = 0

/-! ## What is packed -/

/-- The bytes of a table, with zeros up to its size. -/
def slotBytes (c : JpegDecContainer) (Tc : TableClass) (slot : Nat) : List Nat :=
  paddedValues (maxValues Tc) (slotTable c Tc slot) (slotTable c Tc slot).values

/-- The bytes packed for a slot: without the last two of the first AC table where
the second one is absent. -/
def packedSlot (c : JpegDecContainer) (Tc : TableClass) (slot : Nat) : List Nat :=
  if Tc = .ac ∧ slot = 0 ∧ (slotTable c .ac 1).vals = none then
    (slotBytes c .ac 0).take 160 ++ [0, 0]
  else slotBytes c Tc slot

theorem length_slotBytes (c : JpegDecContainer) (Tc : TableClass) (slot : Nat) :
    (slotBytes c Tc slot).length = maxValues Tc := length_paddedValues _ _ _

theorem length_packedSlot (c : JpegDecContainer) (Tc : TableClass) (slot : Nat) :
    (packedSlot c Tc slot).length = maxValues Tc := by
  unfold packedSlot
  split
  · rename_i hcut
    rw [List.length_append, List.length_take, length_slotBytes, hcut.1]
    rfl
  · exact length_slotBytes c Tc slot

theorem slotBytes_lt (c : JpegDecContainer) (Tc : TableClass) (slot : Nat) :
    ∀ b ∈ slotBytes c Tc slot, b < 256 := paddedValues_lt

theorem packedSlot_lt (c : JpegDecContainer) (Tc : TableClass) (slot : Nat) :
    ∀ b ∈ packedSlot c Tc slot, b < 256 := by
  intro b hb
  unfold packedSlot at hb
  split at hb
  · rcases List.mem_append.mp hb with hb | hb
    · exact slotBytes_lt c .ac 0 b (List.mem_of_mem_take hb)
    · simp only [List.mem_cons, List.not_mem_nil, or_false, or_self] at hb
      omega
  · exact slotBytes_lt c Tc slot b hb

/-- **The two AC tables.** The second one completes the last word of the first, or
clears it. -/
theorem packed_ac (c : JpegDecContainer) :
    packTable 162 (slotTable c .ac 1) (packTable 162 (slotTable c .ac 0) {}) =
      ({} : Packer).puts (packedSlot c .ac 0 ++ packedSlot c .ac 1) := by
  have hfirst : packTable 162 (slotTable c .ac 0) {} = ({} : Packer).puts (slotBytes c .ac 0) :=
    packTable_of_start rfl 162 _
  have hsecond : packedSlot c .ac 1 = slotBytes c .ac 1 := if_neg (fun h => by simp at h)
  rw [hfirst, hsecond]
  by_cases habsent : (slotTable c .ac 1).vals = none
  · have hzeros : slotBytes c .ac 1 = List.replicate 162 0 := paddedValues_of_absent habsent 162
    have hcut : packedSlot c .ac 0 = (slotBytes c .ac 0).take 160 ++ [0, 0] :=
      if_pos ⟨rfl, rfl, habsent⟩
    obtain ⟨a, b, hab⟩ : ∃ a b, (slotBytes c .ac 0).drop 160 = [a, b] :=
      List.length_eq_two.mp (by rw [List.length_drop, length_slotBytes]; rfl)
    have hsplit : slotBytes c .ac 0 = (slotBytes c .ac 0).take 160 ++ [a, b] := by
      rw [← hab, List.take_append_drop]
    have hlen : ((slotBytes c .ac 0).take 160).length % 4 = 0 := by
      rw [List.length_take, length_slotBytes]
      rfl
    have hstart := (Packer.puts_of_quads _ hlen {} rfl).2
    have htail : List.replicate (161 + 3) 0 = [0, 0] ++ List.replicate 162 0 := rfl
    rw [packTable_of_absent habsent, hsplit, Packer.puts_append, Packer.skips_pair hstart, htail,
      ← Packer.puts_append, ← List.append_assoc, ← hcut, hzeros]
  · have hkept : packedSlot c .ac 0 = slotBytes c .ac 0 := if_neg (fun h => habsent h.2.2)
    rw [packTable_eq habsent, hkept, Packer.puts_append]
    rfl

/-- The words of all four tables. -/
theorem packColour_words_eq (c : JpegDecContainer) :
    (packZeros 4 (packColour c {})).words = packWords (slotImage [] (packedSlot c)) := by
  have hac : (packedSlot c .ac 0 ++ packedSlot c .ac 1).length = 324 := by
    rw [List.length_append, length_packedSlot, length_packedSlot]
    rfl
  have hdc : ∀ slot, packedSlot c .dc slot = slotBytes c .dc slot := fun slot =>
    if_neg (fun h => by simp at h)
  have hfirst : (({} : Packer).puts (packedSlot c .ac 0 ++ packedSlot c .ac 1)).shifter = 32 :=
    (Packer.puts_of_quads _ (by rw [hac]) {} rfl).2
  have hsecond : (({} : Packer).puts (packedSlot c .ac 0 ++ packedSlot c .ac 1 ++
      packedSlot c .dc 0)).shifter = 32 :=
    (Packer.puts_of_quads _ (by rw [List.length_append, hac, length_packedSlot]; rfl) {} rfl).2
  have hpacked : packZeros 4 (packColour c {}) =
      ({} : Packer).puts (slotImage [] (packedSlot c)) := by
    change packZeros 4 (packTable 12 (slotTable c .dc 1) (packTable 12 (slotTable c .dc 0)
      (packTable 162 (slotTable c .ac 1) (packTable 162 (slotTable c .ac 0) {})))) = _
    have hluma := packTable_of_start hfirst 12 (slotTable c .dc 0)
    have hother := packTable_of_start hsecond 12 (slotTable c .dc 1)
    change _ = Packer.puts (slotBytes c .dc 0) _ at hluma
    change _ = Packer.puts (slotBytes c .dc 1) _ at hother
    rw [← hdc, ← Packer.puts_append] at hluma
    rw [← hdc, ← Packer.puts_append] at hother
    rw [packed_ac, hluma, hother, packZeros, ← Packer.puts_append, slotImage]
    simp only [List.nil_append, List.append_assoc]
  have hlen : (slotImage [] (packedSlot c)).length = 352 := by
    simp only [slotImage, List.length_append, length_packedSlot, List.length_replicate,
      List.length_nil, maxValues]
  rw [hpacked, (Packer.puts_of_quads _ (by rw [hlen]) {} rfl).1]
  rfl

/-! ## What the memory holds -/

/-- The state the writer leaves. -/
def packedState (c : JpegDecContainer) : JpegDecContainer :=
  { c with tableMem :=
      putWords 0 (packWords (slotImage (quantImage c) (packedSlot c))) c.tableMem }

theorem packedState_tableMem (c : JpegDecContainer) : (packedState c).tableMem =
    putWords 0 (packWords (slotImage (quantImage c) (packedSlot c))) c.tableMem := by
  rw [packedState]

theorem jpegDecWriteTables_packed (h : PresentLegal c) :
    (jpegDecWriteTables : Decoder ρ Unit) c = .next () (packedState c) := by
  have hlen : (slotImage [] (packedSlot c)).length = 352 := by
    simp only [slotImage, List.length_append, length_packedSlot, List.length_replicate,
      List.length_nil, maxValues]
  exact jpegDecWriteTables_of_words h.three h.colour h.mapped hlen (packColour_words_eq c)

theorem bytesOf_packedState (c : JpegDecContainer) (Tc : TableClass) {slot : Nat}
    (hs : slot < 2) :
    bytesOf (packedState c).tableMem (valueBase Tc slot) (maxValues Tc) = packedSlot c Tc slot := by
  have hlt : ∀ b ∈ slotImage (quantImage c) (packedSlot c), b < 256 := by
    intro b hb
    simp only [slotImage, List.mem_append] at hb
    rcases hb with hb | hb | hb | hb | hb | hb
    · exact tableImage_lt c b (List.mem_append_left _ hb)
    · exact packedSlot_lt c .ac 0 b hb
    · exact packedSlot_lt c .ac 1 b hb
    · exact packedSlot_lt c .dc 0 b hb
    · exact packedSlot_lt c .dc 1 b hb
    · rw [List.eq_of_mem_replicate hb]
      decide
  rw [packedState_tableMem]
  exact bytesOf_slotImage (length_quantImage c) (fun Tc slot _ => length_packedSlot c Tc slot) hlt
    c.tableMem Tc hs

theorem PresentLegal.slotTable (h : PresentLegal c) {Tc : TableClass} {slot : Nat}
    (hvals : (slotTable c Tc slot).vals ≠ none) : LegalTable Tc (slotTable c Tc slot) :=
  h.huffman Tc _ (slotId_eq c Tc slot) hvals

/-- A table that is there is the start of its bytes. -/
theorem PresentLegal.take_slotBytes (h : PresentLegal c) {Tc : TableClass} {slot : Nat}
    (hvals : (Jpeg.slotTable c Tc slot).vals ≠ none) :
    (slotBytes c Tc slot).take (Jpeg.slotTable c Tc slot).values.length =
      (Jpeg.slotTable c Tc slot).values ∧
    (Jpeg.slotTable c Tc slot).values.length ≤ maxValues Tc := by
  have hlegal := h.slotTable hvals
  have hsum : (Jpeg.slotTable c Tc slot).values.length = (Jpeg.slotTable c Tc slot).bits.sum := by
    rw [hlegal.length_values, hlegal.length_eq_sum]
  constructor
  · rw [hsum, slotBytes, hlegal.take_paddedValues]
  · rw [hlegal.length_values]
    exact hlegal.length_le

/-- A slot holds its table where it was packed whole. -/
theorem slotHolds_of_packed (h : PresentLegal c) (Tc : TableClass) {slot : Nat} (hs : slot < 2)
    (hpacked : packedSlot c Tc slot = slotBytes c Tc slot) :
    SlotHolds c (packedState c) Tc slot := by
  have hread := bytesOf_packedState c Tc hs
  rw [hpacked] at hread
  unfold SlotHolds
  cases hvals : (slotTable c Tc slot).vals with
  | none => exact hread.trans (paddedValues_of_absent hvals _)
  | some vals =>
    obtain ⟨htake, hle⟩ := h.take_slotBytes (by rw [hvals]; exact Option.some_ne_none _)
    have hvalues : (slotTable c Tc slot).values = vals := by rw [VlcTable.values, hvals]; rfl
    rw [hvalues] at htake hle
    change bytesOf _ _ vals.length = vals
    rw [← take_bytesOf hle, hread, htake]

/-- The start of a list that is cut at `k` and filled with zeros is the start of the
list where that is zero from `k` on. -/
theorem take_cut_iff {l v : List Nat} {k : Nat} (hl : l.length = k + 2)
    (hv : v.length ≤ k + 2) (htake : l.take v.length = v) :
    (l.take k ++ [0, 0]).take v.length = v ↔ ∀ i, k ≤ i → v.getD i 0 = 0 := by
  have hcut : (l.take k).length = k := by rw [List.length_take]; omega
  constructor
  · intro heq i hi
    by_cases hlt : i < v.length
    · obtain ⟨j, rfl⟩ := Nat.exists_eq_add_of_le hi
      have hget : v.getD (k + j) 0 = ((l.take k ++ [0, 0]).take v.length).getD (k + j) 0 := by
        rw [heq]
      rw [hget, List.getD_eq_getElem?_getD, List.getElem?_take_of_lt hlt,
        List.getElem?_append_right (by omega), hcut, Nat.add_sub_cancel_left]
      rcases j with _ | _ | j
      · rfl
      · rfl
      · omega
    · exact List.getD_eq_default _ _ (by omega)
  · intro hzero
    refine List.ext_getElem (by simp [hcut, hv]) fun i hi hi' => ?_
    rw [List.getElem_take]
    by_cases hlt : i < k
    · have hin : i < (l.take v.length).length := by
        rw [htake]
        exact hi'
      have hget : v[i] = (l.take v.length)[i] := by
        simp only [htake]
      rw [List.getElem_append_left (by omega), List.getElem_take, hget, List.getElem_take]
    · have h0 := hzero i (by omega)
      rw [List.getD_eq_getElem _ _ hi'] at h0
      rw [List.getElem_append_right (by omega), h0]
      obtain hi0 | hi1 : i - (l.take k).length = 0 ∨ i - (l.take k).length = 1 := by omega
      · simp only [hi0, List.getElem_cons_zero]
      · simp only [hi1, List.getElem_cons_succ, List.getElem_cons_zero]

/-- **The first AC table** is whole where its last two bytes are not needed. -/
theorem slotHolds_ac_iff (h : PresentLegal c) :
    SlotHolds c (packedState c) .ac 0 ↔ TailZero c := by
  by_cases habsent : (slotTable c .ac 1).vals = none
  · have hcut : packedSlot c .ac 0 = (slotBytes c .ac 0).take 160 ++ [0, 0] :=
      if_pos ⟨rfl, rfl, habsent⟩
    by_cases hfirst : (slotTable c .ac 0).vals = none
    · have hzeros : slotBytes c .ac 0 = List.replicate 162 0 := paddedValues_of_absent hfirst 162
      have hvalues : (slotTable c .ac 0).values = [] := by rw [VlcTable.values, hfirst]; rfl
      have hpacked : packedSlot c .ac 0 = slotBytes c .ac 0 := by
        rw [hcut, hzeros, List.take_replicate]
        exact List.replicate_append_replicate (n := 160) (m := 2)
      have hholds := slotHolds_of_packed h .ac (by decide) hpacked
      simp only [hholds, TailZero, hvalues, List.getD_nil, implies_true]
    · obtain ⟨vals, hvals⟩ := Option.ne_none_iff_exists'.mp hfirst
      obtain ⟨htake, hle⟩ := h.take_slotBytes hfirst
      have hvalues : (slotTable c .ac 0).values = vals := by rw [VlcTable.values, hvals]; rfl
      have hread := bytesOf_packedState c .ac (show 0 < 2 by decide)
      rw [hvalues] at htake hle
      have hholds : SlotHolds c (packedState c) .ac 0 ↔
          ((slotBytes c .ac 0).take 160 ++ [0, 0]).take vals.length = vals := by
        unfold SlotHolds
        rw [hvals]
        change bytesOf _ _ vals.length = vals ↔ _
        rw [← take_bytesOf hle, hread, hcut]
      rw [hholds, take_cut_iff (length_slotBytes c .ac 0) hle htake, TailZero, hvalues]
      exact ⟨fun hzero _ => hzero, fun hzero => hzero habsent⟩
  · have hpacked : packedSlot c .ac 0 = slotBytes c .ac 0 := if_neg (fun h => habsent h.2.2)
    have hholds := slotHolds_of_packed h .ac (by decide) hpacked
    exact ⟨fun _ h => absurd h habsent, fun _ => hholds⟩

/-- **An absent table damages no other one** exactly where the second AC table is
there or the first one ends before its last two bytes. -/
theorem tablesPlaced_iff (h : PresentLegal c) :
    ∃ c', (jpegDecWriteTables : Decoder ρ Unit) c = .next () c' ∧
      (TablesPlaced c c' ↔ TailZero c) := by
  refine ⟨packedState c, jpegDecWriteTables_packed h, ?_⟩
  constructor
  · intro hplaced
    exact (slotHolds_ac_iff h).mp (hplaced .ac 0 (by decide))
  · intro hzero Tc slot hs
    by_cases hfirst : Tc = .ac ∧ slot = 0
    · obtain ⟨rfl, rfl⟩ := hfirst
      exact (slotHolds_ac_iff h).mpr hzero
    · exact slotHolds_of_packed h Tc hs (if_neg (fun hcut => hfirst ⟨hcut.1, hcut.2.1⟩))

/-- The default tables without the second AC table. -/
def lumaAcOnly : JpegDecContainer :=
  { defaultScan with vlc := { defaultTables {} with acTable1 := {} } }

theorem presentLegal_lumaAcOnly : PresentLegal lumaAcOnly where
  colour := legalTables_defaultScan.colour
  baseline := rfl
  three := rfl
  huffman := by
    intro Tc id hid hvals
    obtain ⟨h0, h1⟩ := legalTable_defaultTables {} Tc
    rcases hid with rfl | rfl
    · cases Tc
      · exact h0
      · exact h0
    · cases Tc
      · exact h1
      · exact absurd rfl hvals
  mapped := legalTables_defaultScan.mapped

theorem tablesPlaced_iff_lumaAcOnly : ∃ c',
    (jpegDecWriteTables : Decoder JpegDecRet Unit) lumaAcOnly = .next () c' ∧
      (TablesPlaced lumaAcOnly c' ↔ TailZero lumaAcOnly) :=
  tablesPlaced_iff presentLegal_lumaAcOnly

/-- **A full AC table alone loses its last two values.** -/
theorem not_tablesPlaced : PresentLegal lumaAcOnly ∧
    ¬ ∃ c', (jpegDecWriteTables : Decoder JpegDecRet Unit) lumaAcOnly = .next () c' ∧
      TablesPlaced lumaAcOnly c' := by
  refine ⟨presentLegal_lumaAcOnly, ?_⟩
  rintro ⟨c', hc', hplaced⟩
  rw [jpegDecWriteTables_packed presentLegal_lumaAcOnly] at hc'
  cases hc'
  have hzero := (slotHolds_ac_iff presentLegal_lumaAcOnly).mp (hplaced .ac 0 (by decide))
  have hlast : (slotTable lumaAcOnly .ac 0).values.getD 160 0 = 0xF9 := by decide +kernel
  have h0 := hzero rfl 160 (Nat.le_refl 160)
  rw [hlast] at h0
  exact absurd h0 (by decide)

end Jpeg

end Rk3399
