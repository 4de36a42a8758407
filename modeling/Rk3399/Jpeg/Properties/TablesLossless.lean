import Mathlib.Algebra.Order.BigOperators.Group.List
import Mathlib.Algebra.Order.Ring.Nat
import Rk3399.Jpeg.Helpers.TableRegisters
/-!
# The tables reach the hardware whole

Three functions program the tables of an interleaved baseline scan: one
writes the counts of four Huffman tables to the registers, one packs the
values and the quantisation tables into the table memory, and one selects
the tables of the chroma components. Each swaps the tables where luma does
not use table zero. For legal tables what is read back of each component
is exactly the tables the scan header names.
-/

namespace Rk3399

namespace Jpeg

open Prog

variable {ρ : Type} {c c' : JpegDecContainer}

/-! ## Legal tables -/

/-- The counts form a prefix code: of the code space, in units of `2 ^ -16`, the
codes of length `k + 1` take `2 ^ (15 - k)` each. -/
def PrefixCode (bits : List Nat) : Prop :=
  ((List.range 16).map fun k => bits.getD k 0 * 2 ^ (15 - k)).sum ≤ 2 ^ 16

/-- A legal Huffman table. -/
structure LegalTable (Tc : TableClass) (t : VlcTable) : Prop where
  installed : t.vals ≠ none
  length_bits : t.bits.length = 16
  prefixCode : PrefixCode t.bits
  length_eq_sum : t.tableLength = t.bits.sum
  length_values : t.values.length = t.tableLength
  length_le : t.tableLength ≤ maxValues Tc
  bytes : ∀ b ∈ t.values, b < 256

/-- A legal quantisation table. -/
structure LegalQuant (table : List Nat) : Prop where
  length : table.length = 64
  bytes : ∀ b ∈ table, b < 256

/-- **The states of the claim**: an interleaved baseline scan of three
components, with legal tables, selectors that name one of the first two, and
a mapped table memory. -/
structure LegalTables (c : JpegDecContainer) : Prop where
  colour : c.info.yCbCrMode ≠ JPEGDEC_YUV400
  baseline : c.info.operationType = JPEGDEC_BASELINE
  three : c.info.amountOfQTables = 3
  huffman : ∀ Tc, LegalTable Tc (c.vlc.get Tc 0) ∧ LegalTable Tc (c.vlc.get Tc 1)
  quant : LegalQuant c.quant.table0 ∧ LegalQuant c.quant.table1
  selectors : ∀ Tc k, selector c Tc k < 2
  quantSelectors : ∀ k, (c.frame.component k).Tq < 2
  mapped : TableWord 135 c

instance (bits : List Nat) : Decidable (PrefixCode bits) := inferInstanceAs (Decidable (_ ≤ _))

/-- A table is legal by its counts and values alone. -/
theorem legalTable_define (t : VlcTable) {Tc : TableClass} {bits vals : List Nat}
    (hlen : bits.length = 16) (hcode : PrefixCode bits) (hsum : vals.length = bits.sum)
    (hle : vals.length ≤ maxValues Tc) (hbytes : ∀ b ∈ vals, b < 256) :
    LegalTable Tc (t.define bits vals) where
  installed := by simp [VlcTable.define]
  length_bits := hlen
  prefixCode := hcode
  length_eq_sum := hsum
  length_values := rfl
  length_le := hle
  bytes := hbytes

/-- **The default tables are legal.** -/
theorem legalTable_defaultTables (v : HuffmanTables) (Tc : TableClass) :
    LegalTable Tc ((defaultTables v).get Tc 0) ∧ LegalTable Tc ((defaultTables v).get Tc 1) := by
  cases Tc with
  | ac =>
    constructor
    · exact legalTable_define v.acTable0 rfl (by decide +kernel) (by decide +kernel)
        (by decide +kernel) (by decide +kernel)
    · exact legalTable_define v.acTable1 rfl (by decide +kernel) (by decide +kernel)
        (by decide +kernel) (by decide +kernel)
  | dc =>
    constructor
    · exact legalTable_define v.dcTable0 rfl (by decide) (by decide) (by decide) (by decide)
    · exact legalTable_define v.dcTable1 rfl (by decide) (by decide) (by decide) (by decide)

/-- A legal count is at most what its length leaves room for, and at most the
number of values. -/
theorem LegalTable.count_le {Tc : TableClass} {t : VlcTable} (h : LegalTable Tc t) {i : Nat}
    (hi : i < 16) : t.bits.getD i 0 ≤ 2 ^ (i + 1) ∧ t.bits.getD i 0 ≤ maxValues Tc := by
  constructor
  · have hle : t.bits.getD i 0 * 2 ^ (15 - i) ≤ 2 ^ 16 :=
      (List.le_sum_of_mem (List.mem_map_of_mem (List.mem_range.mpr hi))).trans h.prefixCode
    have hsplit : 2 ^ 16 = 2 ^ (i + 1) * 2 ^ (15 - i) := by
      rw [← Nat.pow_add]
      congr 1
      omega
    rw [hsplit] at hle
    exact Nat.le_of_mul_le_mul_right hle (Nat.two_pow_pos _)
  · have hlen : i < t.bits.length := by rw [h.length_bits]; exact hi
    rw [List.getD_eq_getElem _ _ hlen]
    have hle := List.le_sum_of_mem (List.getElem_mem hlen)
    have hsum := h.length_eq_sum
    have hmax := h.length_le
    omega

/-- **A prefix code just fits its fields.** -/
theorem LegalTable.countsFit {Tc : TableClass} {t : VlcTable} (h : LegalTable Tc t) :
    CountsFit Tc t.bits := by
  have hroom : ∀ i < 16, 2 ^ (i + 1) < 2 ^ (codeWidths Tc).getD i 0 ∨
      maxValues Tc < 2 ^ (codeWidths Tc).getD i 0 := by
    cases Tc <;> decide
  intro i hi
  obtain ⟨hkraft, hsum⟩ := h.count_le hi
  rcases hroom i hi with hlt | hlt
  · exact Nat.lt_of_le_of_lt hkraft hlt
  · exact Nat.lt_of_le_of_lt hsum hlt

theorem LegalTables.installed (h : LegalTables c) : Installed c :=
  fun Tc => ⟨(h.huffman Tc).1.installed, (h.huffman Tc).2.installed⟩

theorem LegalTables.not_progressive (h : LegalTables c) :
    c.info.operationType ≠ JPEGDEC_PROGRESSIVE := by
  rw [h.baseline]
  decide

/-- The writers take only the first two tables of a class. -/
theorem slotId_eq (c : JpegDecContainer) (Tc : TableClass) (slot : Nat) :
    slotId c Tc slot = 0 ∨ slotId c Tc slot = 1 := by
  unfold slotId tablePair
  split <;> split <;> simp

theorem LegalTables.slotTable (h : LegalTables c) (Tc : TableClass) (slot : Nat) :
    LegalTable Tc (slotTable c Tc slot) := by
  unfold Jpeg.slotTable
  rcases slotId_eq c Tc slot with hid | hid
  · rw [hid]
    exact (h.huffman Tc).1
  · rw [hid]
    exact (h.huffman Tc).2

/-! ## The writers -/

/-- The table writers of an interleaved baseline start, in order. -/
def writeTables : Decoder ρ Unit := do
  jpegDecWriteLenBits
  jpegDecWriteTables
  jpegDecChromaTableSelectors

theorem selectors_written (c : JpegDecContainer) (regs : WordFile 32) (mem : Nat → Nat) :
    acSelectors { c with jpegRegs := regs, tableMem := mem } ++
        dcSelectors { c with jpegRegs := regs, tableMem := mem } =
      acSelectors c ++ dcSelectors c := rfl

/-- The state the writers leave. -/
def tablesWritten (c : JpegDecContainer) : JpegDecContainer :=
  { c with
    jpegRegs := BitField.writes (asWords (tableRegisters c)) c.jpegRegs
    tableMem := putWords 0 (packWords (tableImage c)) c.tableMem }

theorem tablesWritten_jpegRegs (c : JpegDecContainer) :
    (tablesWritten c).jpegRegs = BitField.writes (asWords (tableRegisters c)) c.jpegRegs := by
  rw [tablesWritten]

theorem tablesWritten_tableMem (c : JpegDecContainer) :
    (tablesWritten c).tableMem = putWords 0 (packWords (tableImage c)) c.tableMem := by
  rw [tablesWritten]

/-- **What the writers leave**: the registers of the tables and the image of
the tables, whatever the tables hold. -/
theorem writeTables_eq (hq : c.info.amountOfQTables = 3)
    (hmode : c.info.yCbCrMode ≠ JPEGDEC_YUV400) (htables : Installed c)
    (hmem : TableWord 135 c) :
    (writeTables : Decoder ρ Unit) c = .next () (tablesWritten c) := by
  have hwrite : ∀ regs, (jpegDecWriteTables : Decoder ρ Unit) { c with jpegRegs := regs } =
      .next () { c with
        jpegRegs := regs
        tableMem := putWords 0 (packWords (tableImage c)) c.tableMem } := by
    intro regs
    have h := jpegDecWriteTables_eq (ρ := ρ) (c := { c with jpegRegs := regs })
      hq hmode htables hmem
    rwa [tableImage_jpegRegs] at h
  rw [writeTables, bind_next (jpegDecWriteLenBits_eq c), bind_next (hwrite _),
    jpegDecChromaTableSelectors_eq, selectors_written, ← BitField.writes_append, ← asWords_append,
    ← tableRegisters_eq, tablesWritten]

theorem tablesSet_tablesWritten (hop : c.info.operationType ≠ JPEGDEC_PROGRESSIVE) :
    TablesSet c (tablesWritten c) :=
  tablesSet_of_writes hop (tablesWritten_jpegRegs c)

/-! ## Reading back -/

/-- A table memory that holds the image of the tables. -/
def HoldsImage (c c' : JpegDecContainer) : Prop :=
  ∃ mem, c'.tableMem = putWords 0 (packWords (tableImage c)) mem

theorem holdsImage_tablesWritten (c : JpegDecContainer) : HoldsImage c (tablesWritten c) :=
  ⟨c.tableMem, tablesWritten_tableMem c⟩

/-- A part of the image is read back from the memory. -/
theorem HoldsImage.part (h : HoldsImage c c') (before part after : List Nat)
    (himage : tableImage c = before ++ part ++ after) :
    bytesOf c'.tableMem before.length part.length = part := by
  obtain ⟨mem, hmem⟩ := h
  have hlen := length_tableImage c
  have hlt := tableImage_lt c
  rw [himage] at hlen hlt
  rw [hmem, himage]
  have hread := bytesOf_putWords before part after (by rw [hlen]) hlt 0 mem
  rwa [Nat.mul_zero, Nat.zero_add] at hread

/-- The values of a slot in the memory. -/
theorem HoldsImage.slot (h : HoldsImage c c') (Tc : TableClass) {slot : Nat} (hs : slot < 2) :
    bytesOf c'.tableMem (valueBase Tc slot) (maxValues Tc) =
      paddedValues (maxValues Tc) (slotTable c Tc slot) (slotTable c Tc slot).values := by
  obtain ⟨mem, hmem⟩ := h
  have himage : tableImage c = slotImage (quantImage c) (fun Tc slot =>
      paddedValues (maxValues Tc) (slotTable c Tc slot) (slotTable c Tc slot).values) := rfl
  have hlt := tableImage_lt c
  rw [himage] at hlt
  rw [hmem, himage]
  exact bytesOf_slotImage (length_quantImage c) (fun _ _ _ => length_paddedValues _ _ _) hlt mem Tc
    hs

theorem LegalTable.take_paddedValues {Tc : TableClass} {t : VlcTable} (h : LegalTable Tc t) :
    (paddedValues (maxValues Tc) t t.values).take t.bits.sum = t.values := by
  have hlen : t.bits.sum = t.values.length := by rw [h.length_values, h.length_eq_sum]
  have hle : t.values.length ≤ maxValues Tc := by rw [h.length_values]; exact h.length_le
  refine List.ext_getElem (by simp [hlen, hle]) fun i hi hi' => ?_
  have hlt : i < t.tableLength := by rw [← h.length_values]; exact hi'
  simp only [List.getElem_take, paddedValues, List.getElem_map, List.getElem_range, if_pos hlt]
  rw [List.getD_eq_getElem _ _ hi']
  exact Nat.mod_eq_of_lt (h.bytes _ (List.getElem_mem hi'))

/-- **The counts and the values of a slot are those of its table.** -/
theorem LegalTables.read_slot (h : LegalTables c) (hset : TablesSet c c')
    (himage : HoldsImage c c') (Tc : TableClass) {slot : Nat} (hs : slot < 2) :
    hwCounts c' Tc slot = (Jpeg.slotTable c Tc slot).bits ∧
      hwValues c' Tc slot = (Jpeg.slotTable c Tc slot).values := by
  have hlegal := h.slotTable Tc slot
  have hcounts := (hwCounts_eq_iff hset Tc hs hlegal.length_bits).mpr hlegal.countsFit
  refine ⟨hcounts, ?_⟩
  rw [hwValues, hcounts, himage.slot Tc hs, hlegal.take_paddedValues]

/-- A table in raster order read in zigzag order is the table. -/
theorem tableTmp_zzOrder {table : List Nat} (h : LegalQuant table) :
    ((List.range 64).map fun i => (tableTmp table).getD (zzOrder.getD i 0) 0) = table := by
  have hnodup : ((List.range 64).map fun i => zzOrder.getD i 0).Nodup := by decide +kernel
  have hlt : ∀ i < 64, zzOrder.getD i 0 < 64 := by decide +kernel
  refine List.ext_getElem (by simp [h.length]) fun i hi hi' => ?_
  have hi64 : i < 64 := by rw [← h.length]; exact hi'
  have hroom : zzOrder.getD i 0 < (List.replicate 64 0).length := by simpa using hlt i hi64
  have hget := getD_scatter (f := fun i => table.getD i 0 % 256) hnodup
    (List.mem_range.mpr hi64) hroom
  simp only [List.getElem_map, List.getElem_range]
  rw [tableTmp, hget, List.getD_eq_getElem _ _ hi']
  exact Nat.mod_eq_of_lt (h.bytes _ (List.getElem_mem hi'))

/-- The quantisation table of a component in the memory. -/
theorem HoldsImage.quant (h : HoldsImage c c') (k : Fin 3) :
    bytesOf c'.tableMem (64 * k.val) 64 =
      tableTmp (quantSelect (c.frame.component k).Tq c.quant) := by
  obtain ⟨t, ht⟩ : ∃ t : Fin 3 → List Nat,
      ∀ k, t k = tableTmp (quantSelect (c.frame.component k).Tq c.quant) :=
    ⟨fun k => tableTmp (quantSelect (c.frame.component k).Tq c.quant), fun _ => rfl⟩
  have hlen : ∀ k, (t k).length = 64 := fun k => by rw [ht, length_tableTmp]
  have himage : tableImage c = t 0 ++ (t 1 ++ t 2) ++ vlcImage c := by
    rw [tableImage, quantImage, ht, ht, ht]
  have h0 := h.part [] (t 0) (t 1 ++ t 2 ++ vlcImage c)
    (by rw [himage]; simp)
  have h1 := h.part (t 0) (t 1) (t 2 ++ vlcImage c)
    (by rw [himage]; simp)
  have h2 := h.part (t 0 ++ t 1) (t 2) (vlcImage c)
    (by rw [himage]; simp)
  simp only [List.length_append, List.length_nil, hlen] at h0 h1 h2
  rw [← ht k]
  obtain rfl | rfl | rfl : k = 0 ∨ k = 1 ∨ k = 2 := by omega
  · exact h0
  · exact h1
  · exact h2

/-- **The quantisation table of a component is the one it names.** -/
theorem LegalTables.read_quant (h : LegalTables c) (himage : HoldsImage c c') (k : Fin 3) :
    hwQuant c' k = c.quant.get (quantId (c.frame.component k).Tq) := by
  have hlegal : LegalQuant (c.quant.get (quantId (c.frame.component k).Tq)) := by
    unfold quantId
    split
    · exact h.quant.1
    · exact h.quant.2
  rw [hwQuant, himage.quant k]
  exact tableTmp_zzOrder hlegal

/-- **Programming legal tables is lossless.** The writers go through, and what
is then read back of each component are the counts and the values of the
Huffman tables its selectors name, and the entries of its quantisation
table. -/
theorem writeTables_lossless (h : LegalTables c) :
    ∃ c', (writeTables : Decoder ρ Unit) c = .next () c' ∧ ∀ k : Fin 3,
      (∀ (Tc : TableClass) (Th : Fin 4), Th.val = selector c Tc k →
        hwCounts c' Tc (hwSlot c' Tc k) = (c.vlc.get Tc Th).bits ∧
          hwValues c' Tc (hwSlot c' Tc k) = (c.vlc.get Tc Th).values) ∧
      ∀ Tq : Fin 4, Tq.val = (c.frame.component k).Tq → hwQuant c' k = c.quant.get Tq := by
  refine ⟨tablesWritten c, writeTables_eq h.three h.colour h.installed h.mapped, fun k => ?_⟩
  have hset := tablesSet_tablesWritten h.not_progressive
  have himage := holdsImage_tablesWritten c
  constructor
  · intro Tc Th hTh
    have hslot := hwSlot_eq hset h.not_progressive Tc k
    have hid := slotId_chromaSelector Tc k (h.selectors Tc 0) (h.selectors Tc k)
    rw [← hslot, ← hTh] at hid
    have hlt : hwSlot (tablesWritten c) Tc k < 2 := by
      rw [hslot]
      exact Nat.mod_lt _ (by decide)
    have hread := h.read_slot hset himage Tc hlt
    unfold Jpeg.slotTable at hread
    rwa [Fin.ext hid] at hread
  · intro Tq hTq
    have hid : quantId (c.frame.component k).Tq = Tq := by
      have hlt := h.quantSelectors k
      refine Fin.ext ?_
      rw [hTq]
      unfold quantId
      split
      · exact (‹_› : (c.frame.component k).Tq = 0).symm
      · change 1 = _
        omega
    rw [h.read_quant himage k, hid]

/-- A colour scan with the default tables, which chroma takes from the second
slots. -/
def defaultScan : JpegDecContainer where
  vlc := defaultTables {}
  frame := {
    pTableBase := ⟨544, 4096, 5⟩
    component := fun k => { Tq := if k = 0 then 0 else 1 } }
  scan := { Ta := fun k => if k = 0 then 0 else 1, Td := fun k => if k = 0 then 0 else 1 }
  info := { yCbCrMode := JPEGDEC_YUV420, amountOfQTables := 3 }

theorem legalTables_defaultScan : LegalTables defaultScan where
  colour := by decide
  baseline := rfl
  three := rfl
  huffman := legalTable_defaultTables {}
  quant := ⟨⟨rfl, by decide⟩, ⟨rfl, by decide⟩⟩
  selectors := by
    intro Tc k
    cases Tc
    · revert k
      decide
    · revert k
      decide
  quantSelectors := by decide
  mapped := by decide

theorem writeTables_lossless_defaultScan :
    ∃ c', (writeTables : Decoder JpegDecRet Unit) defaultScan = .next () c' ∧ ∀ k : Fin 3,
      (∀ (Tc : TableClass) (Th : Fin 4), Th.val = selector defaultScan Tc k →
        hwCounts c' Tc (hwSlot c' Tc k) = (defaultScan.vlc.get Tc Th).bits ∧
          hwValues c' Tc (hwSlot c' Tc k) = (defaultScan.vlc.get Tc Th).values) ∧
      ∀ Tq : Fin 4, Tq.val = (defaultScan.frame.component k).Tq →
        hwQuant c' k = defaultScan.quant.get Tq :=
  writeTables_lossless legalTables_defaultScan

end Jpeg

end Rk3399
