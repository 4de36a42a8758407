import Rk3399.Jpeg.Helpers.TableImage
/-!
# The tables as the hardware reads them

The hardware holds two Huffman tables of each class for the baseline
modes, in two slots, and the chroma components select theirs. This file
says what is read back of a component from the registers and the table
memory, and what the writers of an interleaved baseline scan leave there.
-/

namespace Rk3399

namespace Jpeg

open Prog

variable {ρ : Type} {c c' : JpegDecContainer}

/-! ## The view of the hardware -/

/-- The counts of a slot. -/
def codeFields (Tc : TableClass) (slot : Nat) : List BitField :=
  match Tc with
  | .ac => if slot = 0 then HWIF_AC1_CODE_CNT else HWIF_AC2_CODE_CNT
  | .dc => if slot = 0 then HWIF_DC1_CODE_CNT else HWIF_DC2_CODE_CNT

/-- The bytes a slot has in the table memory. -/
def maxValues : TableClass → Nat
  | .ac => 162
  | .dc => 12

/-- The first byte of a slot in the table memory. -/
def valueBase (Tc : TableClass) (slot : Nat) : Nat :=
  match Tc with
  | .ac => if slot = 0 then 192 else 354
  | .dc => if slot = 0 then 516 else 528

/-- The slot of a component: the first one for luma. -/
def hwSlot (c : JpegDecContainer) : TableClass → Fin 3 → Nat
  | _, 0 => 0
  | .ac, 1 => rkGetRegisterFile HWIF_CB_AC_VLCTABLE c
  | .ac, 2 => rkGetRegisterFile HWIF_CR_AC_VLCTABLE c
  | .dc, 1 => rkGetRegisterFile HWIF_CB_DC_VLCTABLE c
  | .dc, 2 => rkGetRegisterFile HWIF_CR_DC_VLCTABLE c

/-- The counts read back from a slot. -/
def hwCounts (c : JpegDecContainer) (Tc : TableClass) (slot : Nat) : List Nat :=
  (codeFields Tc slot).map fun f => rkGetRegisterFile f c

/-- The values read back from a slot, as many as its counts say. -/
def hwValues (c : JpegDecContainer) (Tc : TableClass) (slot : Nat) : List Nat :=
  (bytesOf c.tableMem (valueBase Tc slot) (maxValues Tc)).take (hwCounts c Tc slot).sum

/-- The quantisation table read back for a component, from raster order. -/
def hwQuant (c : JpegDecContainer) (k : Fin 3) : List Nat :=
  (List.range 64).map fun i => (bytesOf c.tableMem (64 * k.val) 64).getD (zzOrder.getD i 0) 0

/-! ## The tables of the writers -/

/-- The selector at a place of the scan header: that of the component with this index where
the header lists the components in the order of the frame. -/
def selector (c : JpegDecContainer) : TableClass → Fin 3 → Nat
  | .ac, k => c.scan.Ta k
  | .dc, k => c.scan.Td k

/-- The identifier of the table the writers put in a slot. -/
def slotId (c : JpegDecContainer) (Tc : TableClass) (slot : Nat) : Fin 4 :=
  if slot = 0 then (tablePair (selector c Tc 0)).1 else (tablePair (selector c Tc 0)).2

/-- The table the writers put in a slot. -/
def slotTable (c : JpegDecContainer) (Tc : TableClass) (slot : Nat) : VlcTable :=
  c.vlc.get Tc (slotId c Tc slot)

/-- The registers of the tables, with what the writers set them to. -/
def tableRegisters (c : JpegDecContainer) : List (BitField × Nat) :=
  counts HWIF_AC1_CODE_CNT (slotTable c .ac 0).bits ++
    (counts HWIF_AC2_CODE_CNT (slotTable c .ac 1).bits ++
      (counts HWIF_DC1_CODE_CNT (slotTable c .dc 0).bits ++
        (counts HWIF_DC2_CODE_CNT (slotTable c .dc 1).bits ++ (acSelectors c ++ dcSelectors c))))

/-- The fields of these registers. -/
def tableFields : List BitField :=
  HWIF_AC1_CODE_CNT ++ (HWIF_AC2_CODE_CNT ++ (HWIF_DC1_CODE_CNT ++ (HWIF_DC2_CODE_CNT ++
    [HWIF_CR_AC_VLCTABLE, HWIF_CB_AC_VLCTABLE, HWIF_CR_DC_VLCTABLE, HWIF_CB_DC_VLCTABLE,
     HWIF_CR_DC_VLCTABLE3, HWIF_CB_DC_VLCTABLE3])))

/-- The registers of `c'` read back what the writers set for `c`. -/
def TablesSet (c c' : JpegDecContainer) : Prop :=
  ∀ p ∈ tableRegisters c, rkGetRegisterFile p.1 c' = p.2 % 2 ^ p.1.bits

theorem counts_fst (fields : List BitField) (bits : List Nat) :
    (counts fields bits).map Prod.fst = fields := by
  rw [counts, List.map_map]
  exact List.zipIdx_map_fst 0 fields

theorem tableRegisters_fst (hop : c.info.operationType ≠ JPEGDEC_PROGRESSIVE) :
    (tableRegisters c).map Prod.fst = tableFields := by
  simp only [tableRegisters, List.map_append, counts_fst, acSelectors, dcSelectors, if_pos hop]
  rfl

theorem tableFields_pairwise : tableFields.Pairwise BitField.Disjoint := by decide +kernel

theorem tableFields_fits : ∀ f ∈ tableFields, f.Fits 32 := by decide +kernel

/-- The writers leave the registers of the tables. -/
theorem tablesSet_of_writes (hop : c.info.operationType ≠ JPEGDEC_PROGRESSIVE)
    {file : WordFile 32}
    (hc : c'.jpegRegs = BitField.writes (asWords (tableRegisters c)) file) : TablesSet c c' := by
  intro p hp
  have hd : (tableRegisters c).Pairwise fun p q => p.1.Disjoint q.1 := by
    rw [← List.pairwise_map, tableRegisters_fst hop]
    exact tableFields_pairwise
  have hf : p.1 ∈ tableFields := by
    rw [← tableRegisters_fst hop]
    exact List.mem_map_of_mem hp
  exact rkGetRegisterFile_writes hd (tableFields_fits _ hf) hp hc

/-- The registers of the tables stay set where their fields do. -/
theorem TablesSet.mono {c'' : JpegDecContainer} (h : TablesSet c c')
    (hop : c.info.operationType ≠ JPEGDEC_PROGRESSIVE)
    (hf : ∀ f ∈ tableFields, rkGetRegisterFile f c'' = rkGetRegisterFile f c') :
    TablesSet c c'' := by
  intro p hp
  have hmem : p.1 ∈ tableFields := by
    rw [← tableRegisters_fst hop]
    exact List.mem_map_of_mem hp
  rw [hf p.1 hmem]
  exact h p hp

/-! ## The writers -/

/-- The counts of the four tables. -/
def codeRegisters (c : JpegDecContainer) : List (BitField × Nat) :=
  counts HWIF_AC1_CODE_CNT (slotTable c .ac 0).bits ++
    (counts HWIF_AC2_CODE_CNT (slotTable c .ac 1).bits ++
      (counts HWIF_DC1_CODE_CNT (slotTable c .dc 0).bits ++
        counts HWIF_DC2_CODE_CNT (slotTable c .dc 1).bits))

theorem asWords_append (ws ws' : List (BitField × Nat)) :
    asWords (ws ++ ws') = asWords ws ++ asWords ws' := List.map_append

theorem tableRegisters_eq (c : JpegDecContainer) :
    tableRegisters c = codeRegisters c ++ (acSelectors c ++ dcSelectors c) := by
  simp only [tableRegisters, codeRegisters, List.append_assoc]

theorem jpegDecWriteLenBits_eq (c : JpegDecContainer) :
    (jpegDecWriteLenBits : Decoder ρ Unit) c = .next ()
      { c with jpegRegs := BitField.writes (asWords (codeRegisters c)) c.jpegRegs } := by
  simp only [codeRegisters, asWords_append, BitField.writes_append]
  rfl

theorem jpegDecChromaTableSelectors_eq (c : JpegDecContainer) :
    (jpegDecChromaTableSelectors : Decoder ρ Unit) c = .next () { c with
      jpegRegs := BitField.writes (asWords (acSelectors c ++ dcSelectors c)) c.jpegRegs } := by
  simp only [asWords_append, BitField.writes_append]
  rfl

/-! ## Slots and counts -/

/-- The widths of the counts of a class, the same in both slots. -/
def codeWidths : TableClass → List Nat
  | .ac => [2, 3, 4, 5, 6, 7, 8, 8, 8, 8, 8, 8, 8, 8, 8, 8]
  | .dc => [2, 3, 4, 4, 4, 4, 4, 4, 4, 4, 4, 4, 4, 4, 4, 4]

theorem codeFields_bits (Tc : TableClass) (slot : Nat) :
    (codeFields Tc slot).map BitField.bits = codeWidths Tc := by
  by_cases hs : slot = 0
  · cases Tc <;> simp only [codeFields, hs, if_true] <;> rfl
  · cases Tc <;> simp only [codeFields, hs, if_false] <;> rfl

theorem length_codeFields (Tc : TableClass) (slot : Nat) : (codeFields Tc slot).length = 16 := by
  have h := congrArg List.length (codeFields_bits Tc slot)
  rw [List.length_map] at h
  rw [h]
  cases Tc <;> rfl

/-- Every count fits its field. -/
def CountsFit (Tc : TableClass) (bits : List Nat) : Prop :=
  ∀ i < 16, bits.getD i 0 < 2 ^ (codeWidths Tc).getD i 0

instance (Tc : TableClass) (bits : List Nat) : Decidable (CountsFit Tc bits) :=
  inferInstanceAs (Decidable (∀ i < 16, _))

/-- The slot of a component is the one the chroma selectors name, in one bit. -/
theorem hwSlot_eq (h : TablesSet c c') (hop : c.info.operationType ≠ JPEGDEC_PROGRESSIVE)
    (Tc : TableClass) (k : Fin 3) :
    hwSlot c' Tc k = chromaSelector (selector c Tc 0) (selector c Tc k) % 2 := by
  have hluma : ∀ n, chromaSelector n n % 2 = 0 := by
    intro n
    by_cases hn : n = 0
    · simp [chromaSelector, hn]
    · simp [chromaSelector, hn]
  have hset : ∀ p ∈ acSelectors c ++ dcSelectors c,
      rkGetRegisterFile p.1 c' = p.2 % 2 ^ p.1.bits := by
    intro p hp
    refine h p ?_
    simp only [tableRegisters, List.mem_append] at hp ⊢
    tauto
  simp only [acSelectors, dcSelectors, if_pos hop, List.cons_append, List.nil_append,
    List.mem_cons, List.not_mem_nil, or_false, forall_eq_or_imp, forall_eq] at hset
  obtain ⟨hcrac, hcbac, hcrdc, hcbdc, -, -⟩ := hset
  match Tc, k with
  | .ac, 0 => exact (hluma _).symm
  | .dc, 0 => exact (hluma _).symm
  | .ac, 1 => exact hcbac
  | .ac, 2 => exact hcrac
  | .dc, 1 => exact hcbdc
  | .dc, 2 => exact hcrdc

/-- The counts of a slot are those of its table, cut to the fields. -/
theorem hwCounts_getElem (h : TablesSet c c') (Tc : TableClass) {slot i : Nat} (hs : slot < 2)
    (hi : i < (hwCounts c' Tc slot).length) :
    (hwCounts c' Tc slot)[i] =
      (slotTable c Tc slot).bits.getD i 0 % 2 ^ (codeWidths Tc).getD i 0 := by
  have hlt : i < (codeFields Tc slot).length := by simpa [hwCounts] using hi
  have hmem : ((codeFields Tc slot)[i], (slotTable c Tc slot).bits.getD i 0) ∈
      counts (codeFields Tc slot) (slotTable c Tc slot).bits := by
    refine List.mem_map.mpr ⟨((codeFields Tc slot)[i], i), ?_, rfl⟩
    rw [List.mk_mem_zipIdx_iff_getElem?, List.getElem?_eq_getElem hlt]
  have hreg : counts (codeFields Tc slot) (slotTable c Tc slot).bits ⊆ tableRegisters c := by
    intro p hp
    obtain rfl | rfl : slot = 0 ∨ slot = 1 := by omega
    · cases Tc with
      | ac => exact List.mem_append_left _ hp
      | dc => exact List.mem_append_right _ (List.mem_append_right _ (List.mem_append_left _ hp))
    · cases Tc with
      | ac => exact List.mem_append_right _ (List.mem_append_left _ hp)
      | dc =>
        exact List.mem_append_right _
          (List.mem_append_right _ (List.mem_append_right _ (List.mem_append_left _ hp)))
  have hwidth : (codeFields Tc slot)[i].bits = (codeWidths Tc).getD i 0 := by
    rw [← codeFields_bits Tc slot, List.getD_eq_getElem _ _ (by rwa [List.length_map]),
      List.getElem_map]
  simp only [hwCounts, List.getElem_map]
  rw [h _ (hreg hmem), hwidth]

/-- **The counts are read back exactly where they fit their fields.** -/
theorem hwCounts_eq_iff (h : TablesSet c c') (Tc : TableClass) {slot : Nat} (hs : slot < 2)
    (hlen : (slotTable c Tc slot).bits.length = 16) :
    hwCounts c' Tc slot = (slotTable c Tc slot).bits ↔
      CountsFit Tc (slotTable c Tc slot).bits := by
  have hlenHw : (hwCounts c' Tc slot).length = 16 := by
    rw [hwCounts, List.length_map, length_codeFields]
  constructor
  · intro heq i hi
    have hget := hwCounts_getElem h Tc hs (by omega : i < (hwCounts c' Tc slot).length)
    have hsame : (hwCounts c' Tc slot)[i] = (slotTable c Tc slot).bits.getD i 0 := by
      rw [List.getD_eq_getElem _ _ (by omega)]
      congr 1
    rw [← hsame, hget]
    exact Nat.mod_lt _ (Nat.two_pow_pos _)
  · intro hfit
    refine List.ext_getElem (hlenHw.trans hlen.symm) fun i hi hi' => ?_
    rw [hwCounts_getElem h Tc hs hi, Nat.mod_eq_of_lt (hfit i (by omega)),
      List.getD_eq_getElem _ _ hi']

/-- The table the selectors at the first place and at the place of a component amount to. -/
def amountsTo (luma chroma : Nat) : Nat :=
  if luma = 0 then chroma % 2 else if luma = chroma then 1 else 0

theorem amountsTo_of_lt {luma chroma : Nat} (hl : luma < 2) (hc : chroma < 2) :
    amountsTo luma chroma = chroma := by
  unfold amountsTo
  split
  · omega
  · split <;> omega

/-- The slot of a component holds the table its place amounts to. -/
theorem slotId_amountsTo (c : JpegDecContainer) (Tc : TableClass) (k : Fin 3) :
    (slotId c Tc (chromaSelector (selector c Tc 0) (selector c Tc k) % 2)).val =
      amountsTo (selector c Tc 0) (selector c Tc k) := by
  unfold slotId tablePair chromaSelector amountsTo
  generalize selector c Tc 0 = a
  generalize selector c Tc k = b
  by_cases ha : a = 0
  · simp only [if_pos ha]
    rcases Nat.mod_two_eq_zero_or_one b with hb | hb
    · rw [hb]
      rfl
    · rw [hb]
      rfl
  · simp only [if_neg ha]
    by_cases hab : a = b
    · simp [if_pos hab]
    · simp [if_neg hab]

/-- Where both selectors name one of the first two tables, the slot of the
component holds the table of the component. -/
theorem slotId_chromaSelector (Tc : TableClass) (k : Fin 3) (h0 : selector c Tc 0 < 2)
    (hk : selector c Tc k < 2) :
    (slotId c Tc (chromaSelector (selector c Tc 0) (selector c Tc k) % 2)).val =
      selector c Tc k :=
  (slotId_amountsTo c Tc k).trans (amountsTo_of_lt h0 hk)

/-! ## The values of a slot -/

/-- The bytes of four slots and of the fill, behind those of the quantisation
tables. -/
def slotImage (quant : List Nat) (slots : TableClass → Nat → List Nat) : List Nat :=
  quant ++ (slots .ac 0 ++ (slots .ac 1 ++ (slots .dc 0 ++ (slots .dc 1 ++ List.replicate 4 0))))

/-- **Each slot is read back** from the image of all four. -/
theorem bytesOf_slotImage {quant : List Nat} {slots : TableClass → Nat → List Nat}
    (hquant : quant.length = 192)
    (hslots : ∀ Tc, ∀ slot < 2, (slots Tc slot).length = maxValues Tc)
    (hlt : ∀ b ∈ slotImage quant slots, b < 256) (mem : Nat → Nat) (Tc : TableClass) {slot : Nat}
    (hs : slot < 2) :
    bytesOf (putWords 0 (packWords (slotImage quant slots)) mem) (valueBase Tc slot)
      (maxValues Tc) = slots Tc slot := by
  have ha0 : (slots .ac 0).length = 162 := hslots .ac 0 (by decide)
  have ha1 : (slots .ac 1).length = 162 := hslots .ac 1 (by decide)
  have hd0 : (slots .dc 0).length = 12 := hslots .dc 0 (by decide)
  have hd1 : (slots .dc 1).length = 12 := hslots .dc 1 (by decide)
  have hlen : (slotImage quant slots).length % 4 = 0 := by
    simp only [slotImage, List.length_append, List.length_replicate, hquant, ha0, ha1, hd0, hd1]
  -- a slot is read where the parts before it end
  have hpart : ∀ before part after, slotImage quant slots = before ++ part ++ after →
      bytesOf (putWords 0 (packWords (slotImage quant slots)) mem) before.length part.length =
        part := by
    intro before part after himage
    rw [himage] at hlen hlt ⊢
    have hread := bytesOf_putWords before part after hlen hlt 0 mem
    rwa [Nat.mul_zero, Nat.zero_add] at hread
  obtain rfl | rfl : slot = 0 ∨ slot = 1 := by omega
  · cases Tc with
    | ac =>
      have h := hpart quant (slots .ac 0)
        (slots .ac 1 ++ (slots .dc 0 ++ (slots .dc 1 ++ List.replicate 4 0))) (by simp [slotImage])
      rwa [hquant, ha0] at h
    | dc =>
      have h := hpart (quant ++ (slots .ac 0 ++ slots .ac 1)) (slots .dc 0)
        (slots .dc 1 ++ List.replicate 4 0) (by simp [slotImage])
      simp only [List.length_append] at h
      rwa [hquant, ha0, ha1, hd0] at h
  · cases Tc with
    | ac =>
      have h := hpart (quant ++ slots .ac 0) (slots .ac 1)
        (slots .dc 0 ++ (slots .dc 1 ++ List.replicate 4 0)) (by simp [slotImage])
      simp only [List.length_append] at h
      rwa [hquant, ha0, ha1] at h
    | dc =>
      have h := hpart (quant ++ (slots .ac 0 ++ (slots .ac 1 ++ slots .dc 0))) (slots .dc 1)
        (List.replicate 4 0) (by simp [slotImage])
      simp only [List.length_append] at h
      rwa [hquant, ha0, ha1, hd0, hd1] at h

end Jpeg

end Rk3399
