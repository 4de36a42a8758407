import Rk3399.Jpeg.Helpers.Start
/-!
# The image of the tables

What the interleaved baseline writers leave in the shadow registers and in
the table memory: the registers are those of a list of writes, and the
memory is a list of bytes cut into big-endian words.
-/

namespace Rk3399

namespace Jpeg

open Prog

variable {ρ : Type} {c : JpegDecContainer}

/-! ## Stores -/

/-- The table memory is mapped up to the words below a mapped one. -/
theorem TableWord.mono {w w' : Nat} (h : TableWord w c) (hw : w' ≤ w) : TableWord w' c :=
  ⟨h.1, by have := h.2; omega⟩

@[simp] theorem tableWord_tableMem (w : Nat) (c : JpegDecContainer) (m : Nat → Nat) :
    TableWord w { c with tableMem := m } ↔ TableWord w c := Iff.rfl

theorem storeWord_eq {w : Nat} (value : Nat) (h : TableWord w c) :
    (storeWord w value : Decoder ρ Unit) c =
      .next () { c with tableMem := Function.update c.tableMem w value } := by
  have hassert : (assert (.table w) (TableWord w) : Decoder ρ Unit) c = .next () c := if_pos h
  rw [storeWord, bind_next hassert]
  rfl

theorem storeWords_eq (values : List Nat) : ∀ (w : Nat) (c : JpegDecContainer),
    (∀ i < values.length, TableWord (w + i) c) →
    (storeWords w values : Decoder ρ Unit) c =
      .next () { c with tableMem := putWords w values c.tableMem } := by
  induction values with
  | nil =>
    intro w c _
    rw [putWords_nil]
    rfl
  | cons value values ih =>
    intro w c h
    have hfirst : TableWord w c := h 0 (by simp)
    have hrest : ∀ i < values.length, TableWord (w + 1 + i) c := by
      intro i hi
      have := h (i + 1) (by simp only [List.length_cons]; omega)
      rwa [show w + 1 + i = w + (i + 1) by omega]
    rw [storeWords, bind_next (storeWord_eq value hfirst),
      ih (w + 1) { c with tableMem := Function.update c.tableMem w value } hrest]
    rw [← putWords_cons]

/-- The bytes below a mapped word are mapped. -/
theorem TableWord.byte {w b : Nat} (h : TableWord w c) (hb : b ≤ 4 * w) : TableByte b c :=
  ⟨h.1, by have := h.2; omega⟩

theorem storeAt_eq {b : Nat} (value : Nat) (h : TableByte b c) :
    (storeAt b value : Decoder ρ Unit) c =
      .next () { c with tableMem := putAt b value c.tableMem } := by
  have hassert : (assert (.table (b / 4)) (TableByte b) : Decoder ρ Unit) c = .next () c := if_pos h
  rw [storeAt, bind_next hassert]
  rfl

theorem storesAt_eq (values : List Nat) : ∀ (b : Nat) (c : JpegDecContainer),
    (∀ i < values.length, TableByte (b + 4 * i) c) →
    (storesAt b values : Decoder ρ Unit) c =
      .next () { c with tableMem := putsAt b values c.tableMem } := by
  induction values with
  | nil => exact fun _ _ _ => rfl
  | cons value values ih =>
    intro b c h
    have hfirst : TableByte b c := h 0 (by simp)
    have hrest : ∀ i < values.length, TableByte (b + 4 + 4 * i) c := by
      intro i hi
      have := h (i + 1) (by simp only [List.length_cons]; omega)
      rwa [show b + 4 + 4 * i = b + 4 * (i + 1) by omega]
    rw [storesAt, bind_next (storeAt_eq value hfirst),
      ih (b + 4) { c with tableMem := putAt b value c.tableMem } hrest]
    rfl

theorem length_tableTmp (table : List Nat) : (tableTmp table).length = 64 := by
  simp [tableTmp]

theorem length_quantWords (c : JpegDecContainer) (k : Fin 3) : (quantWords c k).length = 16 := by
  rw [quantWords, length_packWords _ (by rw [length_tableTmp]), length_tableTmp]

/-- The words of the quantisation tables of `n` components from `j` on. -/
def quantRun (c : JpegDecContainer) : Nat → Nat → List Nat
  | 0, _ => []
  | n + 1, j => quantWords c (Fin.ofNat 3 j) ++ quantRun c n (j + 1)

@[simp] theorem quantRun_tableMem (c : JpegDecContainer) (m : Nat → Nat) (n : Nat) :
    ∀ j, quantRun { c with tableMem := m } n j = quantRun c n j := by
  induction n with
  | zero => exact fun _ => rfl
  | succ n ih => exact fun j => congrArg (quantWords c (Fin.ofNat 3 j) ++ ·) (ih (j + 1))

theorem subscript_eq {i : Nat} (h : i < 3) :
    (subscript i : Decoder ρ (Fin 3)) c = .next (Fin.ofNat 3 i) c := by
  rw [subscript, dif_pos h]
  congr 1
  exact Fin.ext (Nat.mod_eq_of_lt h).symm

theorem storeQuantTables_eq (n : Nat) : ∀ (j w : Nat) (c : JpegDecContainer), j + n ≤ 3 →
    (∀ i < 16 * n, TableWord (w + i) c) →
    (storeQuantTables n j w : Decoder ρ Unit) c =
      .next () { c with tableMem := putWords w (quantRun c n j) c.tableMem } := by
  induction n with
  | zero =>
    intro j w c _ _
    rw [quantRun, putWords_nil]
    rfl
  | succ n ih =>
    intro j w c hj h
    have hfirst : ∀ i < (quantWords c (Fin.ofNat 3 j)).length, TableWord (w + i) c := by
      intro i hi
      rw [length_quantWords] at hi
      exact h i (by omega)
    have hrest : ∀ i < 16 * n, TableWord (w + 16 + i) c := by
      intro i hi
      have := h (i + 16) (by omega)
      rwa [show w + 16 + i = w + (i + 16) by omega]
    have hgets : (gets fun c => quantWords c (Fin.ofNat 3 j) : Decoder ρ (List Nat)) c =
        .next (quantWords c (Fin.ofNat 3 j)) c := rfl
    have hlen : w + 16 = w + (quantWords c (Fin.ofNat 3 j)).length := by rw [length_quantWords]
    have hstep := ih (j + 1) (w + 16)
      { c with tableMem := putWords w (quantWords c (Fin.ofNat 3 j)) c.tableMem } (by omega) hrest
    rw [storeQuantTables, bind_next (subscript_eq (by omega)), bind_next hgets,
      bind_next (storeWords_eq _ w c hfirst), hstep, quantRun_tableMem, hlen, putWords_append]
    rfl

/-! ## The image of an interleaved baseline scan -/

/-- The values of a table, none where it was never installed. -/
def VlcTable.values (t : VlcTable) : List Nat := t.vals.getD []

/-- The bytes of the three quantisation tables. -/
def quantImage (c : JpegDecContainer) : List Nat :=
  tableTmp (quantSelect (c.frame.component 0).Tq c.quant) ++
    (tableTmp (quantSelect (c.frame.component 1).Tq c.quant) ++
      tableTmp (quantSelect (c.frame.component 2).Tq c.quant))

/-- The bytes of the four Huffman tables and of the fill behind them. -/
def vlcImage (c : JpegDecContainer) : List Nat :=
  let ac := acTables (c.scan.Ta 0) c.vlc
  let dc := dcTables (c.scan.Td 0) c.vlc
  paddedValues 162 ac.1 ac.1.values ++ (paddedValues 162 ac.2 ac.2.values ++
    (paddedValues 12 dc.1 dc.1.values ++ (paddedValues 12 dc.2 dc.2.values ++
      List.replicate 4 0)))

/-- The bytes of the table memory. -/
def tableImage (c : JpegDecContainer) : List Nat := quantImage c ++ vlcImage c

@[simp] theorem length_paddedValues (n : Nat) (t : VlcTable) (vals : List Nat) :
    (paddedValues n t vals).length = n := by
  simp [paddedValues]

theorem length_quantImage (c : JpegDecContainer) : (quantImage c).length = 192 := by
  simp [quantImage, length_tableTmp]

theorem length_vlcImage (c : JpegDecContainer) : (vlcImage c).length = 352 := by
  simp [vlcImage]

theorem length_tableImage (c : JpegDecContainer) : (tableImage c).length = 544 := by
  simp [tableImage, length_quantImage, length_vlcImage]

@[simp] theorem tableImage_jpegRegs (c : JpegDecContainer) (regs : WordFile 32) :
    tableImage { c with jpegRegs := regs } = tableImage c := by
  simp only [tableImage, quantImage, vlcImage]

theorem tableTmp_lt (table : List Nat) : ∀ b ∈ tableTmp table, b < 256 := by
  intro b hb
  rcases mem_scatter hb with hzero | ⟨i, -, rfl⟩
  · rw [List.eq_of_mem_replicate hzero]
    decide
  · exact Nat.mod_lt _ (by decide)

theorem paddedValues_lt {n : Nat} {t : VlcTable} {vals : List Nat} :
    ∀ b ∈ paddedValues n t vals, b < 256 := by
  intro b hb
  obtain ⟨i, -, rfl⟩ := List.mem_map.mp hb
  split
  · exact Nat.mod_lt _ (by decide)
  · decide

/-- The memory holds bytes, whatever the tables hold. -/
theorem tableImage_lt (c : JpegDecContainer) : ∀ b ∈ tableImage c, b < 256 := by
  intro b hb
  simp only [tableImage, quantImage, vlcImage, List.mem_append] at hb
  rcases hb with (h | h | h) | h | h | h | h | h
  · exact tableTmp_lt _ b h
  · exact tableTmp_lt _ b h
  · exact tableTmp_lt _ b h
  · exact paddedValues_lt b h
  · exact paddedValues_lt b h
  · exact paddedValues_lt b h
  · exact paddedValues_lt b h
  · rw [List.eq_of_mem_replicate h]
    decide

/-- The four tables an interleaved baseline scan is programmed with have been
installed. -/
def Installed (c : JpegDecContainer) : Prop :=
  ∀ Tc, (c.vlc.get Tc 0).vals ≠ none ∧ (c.vlc.get Tc 1).vals ≠ none

theorem Installed.pair (h : Installed c) (Tc : TableClass) (sel : Nat) :
    (c.vlc.get Tc (tablePair sel).1).vals ≠ none ∧
      (c.vlc.get Tc (tablePair sel).2).vals ≠ none := by
  unfold tablePair
  split
  · exact h Tc
  · exact (h Tc).symm

theorem packTable_eq {t : VlcTable} (h : t.vals ≠ none) (n : Nat) (p : Packer) :
    packTable n t p = p.puts (paddedValues n t t.values) := by
  obtain ⟨vals, hvals⟩ := Option.ne_none_iff_exists'.mp h
  simp [packTable, VlcTable.values, hvals]

/-- A table that was never installed has zeros in its place. -/
theorem paddedValues_of_absent {t : VlcTable} (h : t.vals = none) (n : Nat) :
    paddedValues n t t.values = List.replicate n 0 := by
  have hvalues : t.values = [] := by rw [VlcTable.values, h]; rfl
  rw [hvalues]
  refine List.eq_replicate_iff.mpr ⟨length_paddedValues n t [], fun b hb => ?_⟩
  obtain ⟨i, -, rfl⟩ := List.mem_map.mp hb
  simp

theorem packTable_of_absent {t : VlcTable} (h : t.vals = none) (n : Nat) (p : Packer) :
    packTable n t p = p.skips n := by
  rw [packTable, h]

/-- From the start of a word an absent table packs its zeros too. -/
theorem packTable_of_start {p : Packer} (hp : p.shifter = 32) (n : Nat) (t : VlcTable) :
    packTable n t p = p.puts (paddedValues n t t.values) := by
  by_cases h : t.vals = none
  · rw [paddedValues_of_absent h, packTable_of_absent h]
    exact Packer.skips_eq_puts n (Or.inl hp)
  · exact packTable_eq h n p

/-- The packer emits the image of the Huffman tables, cut into words. -/
theorem packColour_words (h : Installed c) :
    (packZeros 4 (packColour c {})).words = packWords (vlcImage c) := by
  obtain ⟨h1, h2⟩ := h.pair .ac (c.scan.Ta 0)
  obtain ⟨h3, h4⟩ := h.pair .dc (c.scan.Td 0)
  have hputs : packZeros 4 (packColour c {}) = ({} : Packer).puts (vlcImage c) := by
    simp only [packZeros, packColour, acTables, dcTables, packTable_eq h1, packTable_eq h2,
      packTable_eq h3, packTable_eq h4, ← Packer.puts_append, vlcImage, List.append_assoc]
  have hwords := (Packer.puts_of_quads (vlcImage c) (by rw [length_vlcImage]) {} rfl).1
  rw [hputs, hwords]
  rfl

/-- The words of the quantisation tables are their image cut into words. -/
theorem quantRun_eq (c : JpegDecContainer) : quantRun c 3 0 = packWords (quantImage c) := by
  have hmod : ∀ t : List Nat, (tableTmp t).length % 4 = 0 := fun t => by rw [length_tableTmp]
  simp only [quantImage, packWords_append _ (hmod _)]
  simp only [quantRun, quantWords, List.append_nil]
  rfl

theorem packTables_eq (hmode : c.info.yCbCrMode ≠ JPEGDEC_YUV400) :
    (packTables : Decoder ρ Packer) c = .next (packColour c {}) c := by
  have hcolour : (gets (fun c => decide (c.info.yCbCrMode ≠ JPEGDEC_YUV400)) : Decoder ρ Bool) c =
      .next true c := congrArg (fun b => Outcome.next b c) (decide_eq_true hmode)
  rw [packTables, bind_next hcolour]
  rfl

theorem packColour_tableMem (c : JpegDecContainer) (m : Nat → Nat) (p : Packer) :
    packColour { c with tableMem := m } p = packColour c p := by
  simp only [packColour]

/-- The memory holds the image of the quantisation tables and, behind it, what the
packer has emitted. -/
theorem jpegDecWriteTables_of_words {image : List Nat} (hq : c.info.amountOfQTables = 3)
    (hmode : c.info.yCbCrMode ≠ JPEGDEC_YUV400) (hmem : TableWord 135 c)
    (hlen : image.length = 352)
    (hwords : (packZeros 4 (packColour c {})).words = packWords image) :
    (jpegDecWriteTables : Decoder ρ Unit) c = .next ()
      { c with tableMem := putWords 0 (packWords (quantImage c ++ image)) c.tableMem } := by
  have hcount : (gets (·.info.amountOfQTables) : Decoder ρ Nat) c = .next 3 c :=
    congrArg (fun n => Outcome.next n c) hq
  have hbelow : ∀ w ≤ 135, TableWord w c := fun w hw => hmem.mono hw
  have hquant := storeQuantTables_eq (ρ := ρ) 3 0 0 c (by decide)
    (fun i hi => hbelow (0 + i) (by omega))
  rw [quantRun_eq] at hquant
  have hpacked : (packTables : Decoder ρ Packer)
      { c with tableMem := putWords 0 (packWords (quantImage c)) c.tableMem } =
      .next (packColour c {})
        { c with tableMem := putWords 0 (packWords (quantImage c)) c.tableMem } := by
    have h := packTables_eq (ρ := ρ)
      (c := { c with tableMem := putWords 0 (packWords (quantImage c)) c.tableMem }) hmode
    rwa [packColour_tableMem] at h
  have hlen88 : (packWords image).length = 88 := by
    rw [length_packWords _ (by rw [hlen]), hlen]
  have hroom : ∀ i < (packWords image).length, TableWord (16 * 3 + i) c := by
    intro i hi
    exact hbelow _ (by omega)
  have hstore := storeWords_eq (ρ := ρ) (packWords image) (16 * 3)
    { c with tableMem := putWords 0 (packWords (quantImage c)) c.tableMem }
    (fun i hi => (tableWord_tableMem _ _ _).mpr (hroom i hi))
  have hlen48 : 16 * 3 = 0 + (packWords (quantImage c)).length := by
    rw [length_packWords _ (by rw [length_quantImage]), length_quantImage]
  rw [jpegDecWriteTables, bind_next hcount, bind_next hquant, bind_next hpacked, hwords, hstore,
    packWords_append _ (by rw [length_quantImage]), ← putWords_append, ← hlen48]

/-- **The memory image.** Where three components are interleaved and the four
tables are installed, `JpegDecWriteTables` fills the table memory with the
image of the tables. -/
theorem jpegDecWriteTables_eq (hq : c.info.amountOfQTables = 3)
    (hmode : c.info.yCbCrMode ≠ JPEGDEC_YUV400) (htables : Installed c)
    (hmem : TableWord 135 c) :
    (jpegDecWriteTables : Decoder ρ Unit) c = .next ()
      { c with tableMem := putWords 0 (packWords (tableImage c)) c.tableMem } :=
  jpegDecWriteTables_of_words hq hmode hmem (length_vlcImage c) (packColour_words htables)

end Jpeg

end Rk3399
