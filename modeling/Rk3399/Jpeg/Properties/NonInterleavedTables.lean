import Rk3399.Jpeg.Helpers.ShiftedTables
/-!
# The two baseline writers

The non-interleaved writer clears the table memory and shifts the tables of
one component to fixed places; the baseline writer streams the same tables
through the packer, each followed by a zero table. The places of the first
are numbers of words, but the pointer they are added to counts bytes: the AC
table lands on the quantisation table, and the DC table on the AC table.
-/

namespace Rk3399

namespace Jpeg

open Prog

variable {ρ : Type} {c : JpegDecContainer}

/-! ## The claim -/

/-- **The states of the claim**: tables of bytes, a non-interleaved scan of component
`k` with selectors below two, and a mapped table memory. -/
structure SingleScan (k : Fin 3) (c : JpegDecContainer) : Prop where
  bytes : ∀ Tc id, ByteTable (c.vlc.get Tc id)
  component : c.info.componentId = k
  acSelector : c.scan.Ta k < 2
  dcSelector : c.scan.Td k < 2
  mapped : TableWord 135 c

/-- The same state as a picture of one component, which has the selectors of
component `k`. -/
def asLuma (k : Fin 3) (c : JpegDecContainer) : JpegDecContainer :=
  { c with
    frame.component := Function.update c.frame.component 0
      { c.frame.component 0 with Tq := (c.frame.component k).Tq }
    scan.Ta := Function.update c.scan.Ta 0 (c.scan.Ta k)
    scan.Td := Function.update c.scan.Td 0 (c.scan.Td k)
    info.yCbCrMode := JPEGDEC_YUV400
    info.amountOfQTables := 1 }

/-! ## The tables of the component -/

/-- The bytes of its quantisation table. -/
def quantTableBytes (k : Fin 3) (c : JpegDecContainer) : List Nat :=
  tableTmp (quantSelect (c.frame.component k).Tq c.quant)

/-- The bytes of its AC table, and of its DC table. -/
def acBytes (k : Fin 3) (c : JpegDecContainer) : List Nat :=
  let t := selectTable .ac (c.scan.Ta k) c.vlc
  paddedValues 162 t t.values

def dcBytes (k : Fin 3) (c : JpegDecContainer) : List Nat :=
  let t := selectTable .dc (c.scan.Td k) c.vlc
  paddedValues 12 t t.values

theorem length_acBytes (k : Fin 3) (c : JpegDecContainer) : (acBytes k c).length = 162 :=
  length_paddedValues _ _ _

theorem length_dcBytes (k : Fin 3) (c : JpegDecContainer) : (dcBytes k c).length = 12 :=
  length_paddedValues _ _ _

/-- For a selector below two the writers take the same table. -/
theorem selectTable_eq_pair {n : Nat} (h : n < 2) (Tc : TableClass) (v : HuffmanTables) :
    selectTable Tc n v = v.get Tc (tablePair n).1 := by
  obtain rfl | rfl : n = 0 ∨ n = 1 := by omega
  · rfl
  · rfl

/-! ## The non-interleaved writer -/

/-- The words of the AC table, of its border, and of the DC table. -/
def acTableWords (k : Fin 3) (c : JpegDecContainer) : List Nat := packWords (acBytes k c ++ [0, 0])

def dcTableWords (k : Fin 3) (c : JpegDecContainer) : List Nat := packWords (dcBytes k c)

theorem length_acTableWords (k : Fin 3) (c : JpegDecContainer) :
    (acTableWords k c).length = 41 := by
  have hlen : (acBytes k c ++ [0, 0]).length = 164 := by
    rw [List.length_append, length_acBytes]
    rfl
  rw [acTableWords, length_packWords _ (by rw [hlen]), hlen]

theorem length_dcTableWords (k : Fin 3) (c : JpegDecContainer) :
    (dcTableWords k c).length = 3 := by
  rw [dcTableWords, length_packWords _ (by rw [length_dcBytes]), length_dcBytes]

theorem SingleScan.byteTable {k : Fin 3} (h : SingleScan k c) (Tc : TableClass) (n : Nat) :
    ByteTable (selectTable Tc n c.vlc) := h.bytes Tc _

theorem length_acPart (k : Fin 3) (c : JpegDecContainer) :
    (acBytes k c ++ [0, 0]).length % 4 = 0 := by
  rw [List.length_append, length_acBytes]
  rfl

theorem acPart_lt (k : Fin 3) (c : JpegDecContainer) : ∀ b ∈ acBytes k c ++ [0, 0], b < 256 := by
  intro b hb
  rcases List.mem_append.mp hb with hb | hb
  · exact paddedValues_lt b hb
  · simp only [List.mem_cons, List.not_mem_nil, or_false, or_self] at hb
    omega

/-- The memory before the DC table: the AC table starts at byte 16, where the quantisation
table is. -/
def overlaidMem (k : Fin 3) (c : JpegDecContainer) : Nat → Nat :=
  putWords 4 (acTableWords k c) (putWords 0 (quantWords c k) (clearedWords 136 c.tableMem))

/-- The memory the non-interleaved writer leaves. -/
def singleMem (k : Fin 3) (c : JpegDecContainer) : Nat → Nat :=
  putsAt 97 (dcTableWords k c ++ [0]) (overlaidMem k c)

theorem jpegDecWriteTablesNonInterleaved_eq {k : Fin 3} (h : SingleScan k c) :
    (jpegDecWriteTablesNonInterleaved : Decoder ρ Unit) c =
      .next () { c with tableMem := singleMem k c } := by
  have hbelow : ∀ w ≤ 135, ∀ m, TableWord w { c with tableMem := m } :=
    fun w hw m => (tableWord_tableMem w c m).mpr (h.mapped.mono hw)
  -- the memory cleared, with the quantisation table, the AC table and the DC table
  obtain ⟨m0, hm0⟩ : ∃ m, m = clearedWords 136 c.tableMem := ⟨_, rfl⟩
  obtain ⟨m1, hm1⟩ : ∃ m, m = putWords 0 (quantWords c k) m0 := ⟨_, rfl⟩
  obtain ⟨m2, hm2⟩ : ∃ m, m = putWords 4 (acTableWords k c) m1 := ⟨_, rfl⟩
  obtain ⟨m3, hm3⟩ : ∃ m, m = putsAt 97 (dcTableWords k c) m2 := ⟨_, rfl⟩
  have hclear : (clearTable (JPEGDEC_BASELINE_TABLE_SIZE / 4) : Decoder ρ Unit) c =
      .next () { c with tableMem := m0 } := by
    rw [hm0]
    exact clearTable_eq h.mapped
  have hid : (gets (·.info.componentId) : Decoder ρ Nat) { c with tableMem := m0 } =
      .next k.val { c with tableMem := m0 } := congrArg (fun n => Outcome.next n _) h.component
  have hsub : (subscript k.val : Decoder ρ (Fin 3)) { c with tableMem := m0 } =
      .next k { c with tableMem := m0 } := dif_pos k.isLt
  have hquant : (storeQuantTables 1 k 0 : Decoder ρ Unit) { c with tableMem := m0 } =
      .next () { c with tableMem := m1 } := by
    have hk := k.isLt
    have hrun := storeQuantTables_eq (ρ := ρ) 1 k 0 { c with tableMem := m0 } (by omega)
      (fun i hi => hbelow _ (by omega) m0)
    have hwords : quantRun { c with tableMem := m0 } 1 k = quantWords c k := by
      rw [quantRun_tableMem, quantRun, quantRun, List.append_nil]
      congr 1
      exact Fin.ext (Nat.mod_eq_of_lt k.isLt)
    rw [hwords] at hrun
    rw [hrun, hm1]
  have hget : (gets id : Decoder ρ JpegDecContainer) { c with tableMem := m1 } =
      .next { c with tableMem := m1 } { c with tableMem := m1 } := rfl
  have hbyte : ∀ b ≤ 540, ∀ m, TableByte b { c with tableMem := m } :=
    fun b hb m => (hbelow 135 (Nat.le_refl _) m).byte (by omega)
  have hac : ∀ word, (storesAt 16 (acWords (selectTable .ac (c.scan.Ta k) c.vlc) word) :
      Decoder ρ Unit) { c with tableMem := m1 } = .next () { c with tableMem := m2 } := by
    intro word
    have hwords : acWords (selectTable .ac (c.scan.Ta k) c.vlc) word = acTableWords k c :=
      (h.byteTable .ac _).acWords_eq word
    -- byte 16 is the start of a word, byte 97 is not
    have haligned : putsAt (4 * 4) (acTableWords k c) m1 = m2 := by
      rw [hm2]
      exact putsAt_aligned _ 4 m1 (packWords_lt _ (length_acPart k c) (acPart_lt k c))
    rw [hwords, storesAt_eq _ 16 _ (fun i hi => hbyte _
      (by rw [length_acTableWords] at hi; omega) m1), ← haligned]
  have hdc : ∀ word, (storesAt 97 (tableWords 12 (selectTable .dc (c.scan.Td k) c.vlc) word) :
      Decoder ρ Unit) { c with tableMem := m2 } = .next () { c with tableMem := m3 } := by
    intro word
    have hwords : tableWords 12 (selectTable .dc (c.scan.Td k) c.vlc) word = dcTableWords k c := by
      have hquads := (h.byteTable .dc (c.scan.Td k)).tableWords_eq 3 (by decide : 0 < 4) word
      rwa [List.take_of_length_le (Nat.le_of_eq (length_paddedValues _ _ _))] at hquads
    rw [hwords, storesAt_eq _ 97 _ (fun i hi => hbyte _
      (by rw [length_dcTableWords] at hi; omega) m2), hm3]
  have hlast : (storeAt (97 + 4 * 3) 0 : Decoder ρ Unit) { c with tableMem := m3 } =
      .next () { c with tableMem := putsAt (97 + 4 * 3) [0] m3 } :=
    storeAt_eq 0 (hbyte _ (by decide) m3)
  have hmem : singleMem k c = putsAt (97 + 4 * 3) [0] m3 := by
    rw [singleMem, overlaidMem, ← hm0, ← hm1, ← hm2, putsAt_append, length_dcTableWords, ← hm3]
  rw [jpegDecWriteTablesNonInterleaved, bind_next hclear, bind_next hid, bind_next hsub,
    bind_next hquant, bind_next hget, hmem, ← hlast]
  exact (bind_next (hac _)).trans (bind_next (hdc _))

/-! ## The baseline writer -/

/-- The bytes the packer emits for one component. -/
def singleBytes (k : Fin 3) (c : JpegDecContainer) : List Nat :=
  acBytes k c ++ (List.replicate 162 0 ++ (dcBytes k c ++ (List.replicate 12 0 ++
    List.replicate 4 0)))

theorem length_singleBytes (k : Fin 3) (c : JpegDecContainer) :
    (singleBytes k c).length = 352 := by
  simp only [singleBytes, List.length_append, length_acBytes, length_dcBytes,
    List.length_replicate]

/-- The tables of a component through the packer. -/
theorem packSingle_words {k : Fin 3} (h : SingleScan k c) :
    (packZeros 4 (packSingle c k {})).words = packWords (singleBytes k c) := by
  have hac : (acTables (c.scan.Ta k) c.vlc).1 = selectTable .ac (c.scan.Ta k) c.vlc :=
    (selectTable_eq_pair h.acSelector .ac c.vlc).symm
  have hdc : (dcTables (c.scan.Td k) c.vlc).1 = selectTable .dc (c.scan.Td k) c.vlc :=
    (selectTable_eq_pair h.dcSelector .dc c.vlc).symm
  have hfirst : packTable 162 (acTables (c.scan.Ta k) c.vlc).1 {} =
      ({} : Packer).puts (acBytes k c) := by
    rw [hac]
    exact packTable_of_start rfl 162 _
  have hlen : (acBytes k c ++ List.replicate 162 0).length = 324 := by
    rw [List.length_append, length_acBytes, List.length_replicate]
  have hstart : (({} : Packer).puts (acBytes k c ++ List.replicate 162 0)).shifter = 32 :=
    (Packer.puts_of_quads _ (by rw [hlen]) {} rfl).2
  have hsecond : packTable 12 (dcTables (c.scan.Td k) c.vlc).1
      (({} : Packer).puts (acBytes k c ++ List.replicate 162 0)) =
      ({} : Packer).puts (acBytes k c ++ List.replicate 162 0 ++ dcBytes k c) := by
    have hpack := packTable_of_start hstart 12 (selectTable .dc (c.scan.Td k) c.vlc)
    change _ = Packer.puts (dcBytes k c) _ at hpack
    rw [← Packer.puts_append] at hpack
    rw [hdc, hpack]
  have hpacked : packZeros 4 (packSingle c k {}) = ({} : Packer).puts (singleBytes k c) := by
    rw [packSingle]
    simp only [hfirst, packZeros, ← Packer.puts_append, hsecond, singleBytes, List.append_assoc]
  rw [hpacked, (Packer.puts_of_quads _ (by rw [length_singleBytes]) {} rfl).1]
  rfl

/-- The selectors of component `k` are those of the luma component too. -/
theorem update_luma {α : Type} (f : Fin 3 → α) (k : Fin 3) : Function.update f 0 (f k) k = f k := by
  by_cases hk : k = 0
  · rw [hk, Function.update_self]
  · exact Function.update_of_ne hk _ _

theorem packSingle_asLuma (k : Fin 3) (c : JpegDecContainer) (m : Nat → Nat) (p : Packer) :
    packSingle { asLuma k c with tableMem := m } 0 p = packSingle c k p ∧
    packSingle { asLuma k c with tableMem := m } k p = packSingle c k p := by
  have hTa : (asLuma k c).scan.Ta k = c.scan.Ta k := update_luma c.scan.Ta k
  have hTd : (asLuma k c).scan.Td k = c.scan.Td k := update_luma c.scan.Td k
  constructor
  · rfl
  · simp only [packSingle, hTa, hTd]
    rfl

/-- Which of its two branches for pictures of one component the baseline writer
takes makes no difference. -/
theorem packTables_asLuma {k : Fin 3} (hk : c.info.componentId = k) (m : Nat → Nat) :
    (packTables : Decoder ρ Packer) { asLuma k c with tableMem := m } =
      .next (packSingle c k {}) { asLuma k c with tableMem := m } := by
  obtain ⟨hluma, hcomponent⟩ := packSingle_asLuma k c m {}
  obtain ⟨s, hs⟩ : ∃ s, s = { asLuma k c with tableMem := m } := ⟨_, rfl⟩
  have hmode : s.info.yCbCrMode = JPEGDEC_YUV400 := by rw [hs]; rfl
  have hid : s.info.componentId = k := by rw [hs]; exact hk
  rw [← hs] at hluma hcomponent ⊢
  have hcolour : (gets (fun c => decide (c.info.yCbCrMode ≠ JPEGDEC_YUV400)) : Decoder ρ Bool) s =
      .next false s := congrArg (fun b => Outcome.next b s) (decide_eq_false (not_not_intro hmode))
  rw [packTables, bind_next hcolour]
  by_cases hready : s.info.nonInterleavedScanReady = 0
  · have hready : (gets (fun c => decide (c.info.nonInterleavedScanReady = 0)) : Decoder ρ Bool) s =
        .next true s := congrArg (fun b => Outcome.next b s) (decide_eq_true hready)
    have hpack : (gets (fun c => packSingle c 0 {}) : Decoder ρ Packer) s =
        .next (packSingle c k {}) s := congrArg (fun p => Outcome.next p s) hluma
    exact (bind_next hready).trans hpack
  · have hready : (gets (fun c => decide (c.info.nonInterleavedScanReady = 0)) : Decoder ρ Bool) s =
        .next false s := congrArg (fun b => Outcome.next b s) (decide_eq_false hready)
    have hget : (gets (·.info.componentId) : Decoder ρ Nat) s = .next k.val s :=
      congrArg (fun n => Outcome.next n s) hid
    have hsub : (subscript k.val : Decoder ρ (Fin 3)) s = .next k s := dif_pos k.isLt
    have hpack : (gets (fun c => packSingle c k {}) : Decoder ρ Packer) s =
        .next (packSingle c k {}) s := congrArg (fun p => Outcome.next p s) hcomponent
    exact (bind_next hready).trans ((bind_next hget).trans ((bind_next hsub).trans hpack))

/-- The memory the baseline writer leaves. -/
def packedMem (k : Fin 3) (c : JpegDecContainer) : Nat → Nat :=
  putWords 16 (packWords (singleBytes k c)) (putWords 0 (quantWords c k) c.tableMem)

theorem jpegDecWriteTables_asLuma {k : Fin 3} (h : SingleScan k c) :
    (jpegDecWriteTables : Decoder ρ Unit) (asLuma k c) =
      .next () { asLuma k c with tableMem := packedMem k c } := by
  have hbelow : ∀ w ≤ 135, ∀ m, TableWord w { asLuma k c with tableMem := m } :=
    fun w hw m => (tableWord_tableMem w (asLuma k c) m).mpr (h.mapped.mono hw)
  obtain ⟨m1, hm1⟩ : ∃ m, m = putWords 0 (quantWords c k) c.tableMem := ⟨_, rfl⟩
  have hcount : (gets (·.info.amountOfQTables) : Decoder ρ Nat) (asLuma k c) =
      .next 1 (asLuma k c) := rfl
  have hquant : (storeQuantTables 1 0 0 : Decoder ρ Unit) (asLuma k c) =
      .next () { asLuma k c with tableMem := m1 } := by
    have hrun := storeQuantTables_eq (ρ := ρ) 1 0 0 (asLuma k c) (by decide)
      (fun i hi => hbelow _ (by omega) c.tableMem)
    have hwords : quantRun (asLuma k c) 1 0 = quantWords c k := List.append_nil _
    rw [hwords] at hrun
    rw [hrun, hm1]
    rfl
  have hpack := packTables_asLuma (ρ := ρ) h.component m1
  have hstore := storeWords_eq (ρ := ρ) (packWords (singleBytes k c)) 16
    { asLuma k c with tableMem := m1 } (fun i hi => hbelow _ (by
      rw [length_packWords _ (by rw [length_singleBytes]), length_singleBytes] at hi
      omega) m1)
  rw [jpegDecWriteTables, bind_next hcount, bind_next hquant, bind_next hpack,
    packSingle_words h, hstore, packedMem, ← hm1]

/-! ## The same memory -/

/-- What the packer emits: the words of the tables, with zeros between them. -/
theorem packWords_singleBytes (k : Fin 3) (c : JpegDecContainer) :
    packWords (singleBytes k c) = acTableWords k c ++ (List.replicate 40 0 ++
      (dcTableWords k c ++ List.replicate 4 0)) := by
  have hbytes : singleBytes k c = (acBytes k c ++ [0, 0]) ++ (List.replicate (4 * 40) 0 ++
      (dcBytes k c ++ List.replicate (4 * 4) 0)) := by
    have hzeros : List.replicate 162 0 = [0, 0] ++ List.replicate (4 * 40) 0 := rfl
    have hfill : List.replicate (4 * 4) 0 = List.replicate 12 0 ++ List.replicate 4 0 := rfl
    rw [singleBytes, hzeros, hfill]
    simp only [List.append_assoc]
  have hac : (acBytes k c ++ [0, 0]).length % 4 = 0 := by
    rw [List.length_append, length_acBytes]
    rfl
  have hzeros : (List.replicate (4 * 40) 0).length % 4 = 0 := by rw [List.length_replicate]
  have hdc : (dcBytes k c).length % 4 = 0 := by rw [length_dcBytes]
  rw [hbytes, packWords_append _ hac, packWords_append _ hzeros, packWords_append _ hdc,
    packWords_zeros, packWords_zeros]
  rfl

/-- The words the baseline writer leaves: the AC table from word 16 on, the DC table from
word 97 on. -/
theorem packedMem_quant (k : Fin 3) (c : JpegDecContainer) {w : Nat} (hw : w < 16) :
    packedMem k c w = (quantWords c k).getD w 0 := by
  have hq := length_quantWords c k
  rw [packedMem, putWords_outside (by omega), putWords_inside (by omega) (by omega)]
  rfl

theorem packedMem_vlc (k : Fin 3) (c : JpegDecContainer) {w : Nat} (h16 : 16 ≤ w) (hw : w < 104) :
    packedMem k c w =
      if w < 97 then (acTableWords k c).getD (w - 16) 0
        else (dcTableWords k c).getD (w - 97) 0 := by
  have hac := length_acTableWords k c
  have hdc := length_dcTableWords k c
  have hwords := packWords_singleBytes k c
  have hlen : (packWords (singleBytes k c)).length = 88 := by
    rw [hwords]
    simp only [List.length_append, List.length_replicate, hac, hdc]
  rw [packedMem, putWords_inside h16 (by omega), hwords]
  by_cases h57 : w < 57
  · rw [if_pos (by omega), List.getD_append _ _ _ _ (by omega)]
  rw [List.getD_append_right _ _ _ _ (by omega), hac]
  by_cases h97 : w < 97
  · rw [if_pos h97, List.getD_append _ _ _ _ (by rw [List.length_replicate]; omega),
      List.getD_replicate _ (by omega), List.getD_eq_default _ _ (by omega)]
  have hsub : w - 16 - 41 - 40 = w - 97 := by omega
  rw [if_neg h97, List.getD_append_right _ _ _ _ (by rw [List.length_replicate]; omega),
    List.length_replicate, hsub]
  by_cases h100 : w < 100
  · rw [List.getD_append _ _ _ _ (by omega)]
  · rw [List.getD_append_right _ _ _ _ (by omega), List.getD_replicate _ (by omega),
      List.getD_eq_default _ _ (by omega)]

/-! ## What the other writer leaves there -/

/-- The AC table is twelve words before its place. -/
theorem overlaidMem_eq (k : Fin 3) (c : JpegDecContainer) {w : Nat} (hw : w < 136) :
    overlaidMem k c w =
      if w < 4 then (quantWords c k).getD w 0 else (acTableWords k c).getD (w - 4) 0 := by
  have hq := length_quantWords c k
  have hac := length_acTableWords k c
  unfold overlaidMem
  by_cases h4 : w < 4
  · rw [if_pos h4, putWords_outside (by omega), putWords_inside (by omega) (by omega)]
    rfl
  rw [if_neg h4]
  by_cases h45 : w < 45
  · rw [putWords_inside (by omega) (by omega)]
  · have hzero : (clearedWords 136 c.tableMem) w = 0 := if_pos hw
    rw [putWords_outside (by omega), putWords_outside (by omega), hzero,
      List.getD_eq_default _ _ (by omega)]

/-- The DC table reaches into words 24 to 28 alone. -/
theorem singleMem_outside (k : Fin 3) (c : JpegDecContainer) {w : Nat} (hw : w < 24 ∨ 29 ≤ w) :
    singleMem k c w = overlaidMem k c w := by
  have hlen : (dcTableWords k c ++ [0]).length = 4 := by
    rw [List.length_append, length_dcTableWords]
    rfl
  exact putsAt_outside _ 97 _ (by omega)

/-- A DC table of zeros leaves the zeros of the AC table. -/
theorem singleMem_zero {k : Fin 3} {c : JpegDecContainer} (hdc : ∀ v ∈ dcTableWords k c, v = 0)
    {w : Nat} (h : overlaidMem k c w = 0) : singleMem k c w = 0 := by
  have hwords : dcTableWords k c ++ [0] = List.replicate 4 0 := by
    rw [List.eq_replicate_of_mem hdc, length_dcTableWords]
    rfl
  rw [singleMem, hwords]
  exact putsAt_zero 4 97 _ h

/-! ## The same memory -/

/-- The component has nothing that could be in a wrong place: all values of its Huffman
tables are zero, and so is its quantisation table from its seventeenth entry on. -/
structure NothingMisplaced (k : Fin 3) (c : JpegDecContainer) : Prop where
  ac : ∀ b ∈ acBytes k c, b = 0
  dc : ∀ b ∈ dcBytes k c, b = 0
  quant : ∀ b ∈ (quantTableBytes k c).drop 16, b = 0

theorem quantTableBytes_lt (k : Fin 3) (c : JpegDecContainer) :
    ∀ b ∈ quantTableBytes k c, b < 256 :=
  tableTmp_lt _

/-- Its words. -/
theorem nothingMisplaced_iff (k : Fin 3) (c : JpegDecContainer) : NothingMisplaced k c ↔
    (∀ v ∈ acTableWords k c, v = 0) ∧ (∀ v ∈ dcTableWords k c, v = 0) ∧
      ∀ w, 4 ≤ w → (quantWords c k).getD w 0 = 0 := by
  have hac : (∀ v ∈ acTableWords k c, v = 0) ↔ ∀ b ∈ acBytes k c, b = 0 := by
    rw [acTableWords, packWords_zero_iff _ (length_acPart k c) (acPart_lt k c)]
    simp only [List.mem_append, List.mem_cons, List.not_mem_nil, or_false, or_self]
    exact ⟨fun h b hb => h b (.inl hb), fun h b hb => hb.elim (h b) id⟩
  have hdc : (∀ v ∈ dcTableWords k c, v = 0) ↔ ∀ b ∈ dcBytes k c, b = 0 :=
    packWords_zero_iff _ (by rw [length_dcBytes]) paddedValues_lt
  have hquant : (∀ w, 4 ≤ w → (quantWords c k).getD w 0 = 0) ↔
      ∀ b ∈ (quantTableBytes k c).drop 16, b = 0 := by
    have hlen : (quantTableBytes k c).length = 64 := length_tableTmp _
    have hsplit : quantWords c k = packWords ((quantTableBytes k c).take 16) ++
        packWords ((quantTableBytes k c).drop 16) := by
      rw [← packWords_append _ (by rw [List.length_take, hlen]; rfl), List.take_append_drop]
      rfl
    have hfirst : (packWords ((quantTableBytes k c).take 16)).length = 4 := by
      rw [length_packWords _ (by rw [List.length_take, hlen]; rfl), List.length_take, hlen]
      rfl
    rw [← packWords_zero_iff _ (by rw [List.length_drop, hlen])
      fun b hb => quantTableBytes_lt k c b (List.mem_of_mem_drop hb), ← getD_zero_iff, hsplit]
    constructor
    · intro h i
      have hi := h (i + 4) (by omega)
      rwa [List.getD_append_right _ _ _ _ (by omega), hfirst, Nat.add_sub_cancel] at hi
    · intro h w hw
      rw [List.getD_append_right _ _ _ _ (by omega)]
      exact h _
  exact ⟨fun h => ⟨hac.mpr h.ac, hdc.mpr h.dc, hquant.mpr h.quant⟩,
    fun h => ⟨hac.mp h.1, hdc.mp h.2.1, hquant.mp h.2.2⟩⟩

/-- Where the words are the same the DC table is zero, since its place was cleared, and then,
from its end to its start, the AC table too. -/
theorem nothingMisplaced_of_same {k : Fin 3} {c : JpegDecContainer}
    (hsame : ∀ w < 104, singleMem k c w = packedMem k c w) : NothingMisplaced k c := by
  have hac := length_acTableWords k c
  have hdcLen := length_dcTableWords k c
  have hdc : ∀ v ∈ dcTableWords k c, v = 0 := by
    refine getD_zero_iff.mp fun i => ?_
    by_cases hi : i < 3
    · have hword := hsame (97 + i) (by omega)
      rw [singleMem_outside k c (by omega), overlaidMem_eq k c (by omega), if_neg (by omega),
        List.getD_eq_default _ _ (by omega), packedMem_vlc k c (by omega) (by omega),
        if_neg (by omega), Nat.add_sub_cancel_left] at hword
      exact hword.symm
    · exact List.getD_eq_default _ _ (by omega)
  -- by induction from the end of the table: each word is twelve further on
  have hzero : ∀ n j, 41 ≤ j + n → (acTableWords k c).getD j 0 = 0 := by
    intro n
    induction n using Nat.strong_induction_on with
    | _ n ih =>
      intro j hj
      by_cases hlt : j < 41
      · have hbehind : (acTableWords k c).getD (16 + j - 4) 0 = 0 :=
          ih (n - 12) (by omega) _ (by omega)
        have hover : overlaidMem k c (16 + j) = 0 := by
          rw [overlaidMem_eq k c (by omega), if_neg (by omega), hbehind]
        have hword := hsame (16 + j) (by omega)
        rw [singleMem_zero hdc hover, packedMem_vlc k c (by omega) (by omega), if_pos (by omega),
          Nat.add_sub_cancel_left] at hword
        exact hword.symm
      · exact List.getD_eq_default _ _ (by omega)
  refine (nothingMisplaced_iff k c).mpr
    ⟨getD_zero_iff.mp fun j => hzero 41 j (by omega), hdc, fun w hw => ?_⟩
  by_cases h16 : w < 16
  · have hover : overlaidMem k c w = 0 := by
      rw [overlaidMem_eq k c (by omega), if_neg (by omega), hzero 41 _ (by omega)]
    have hword := hsame w (by omega)
    rw [singleMem_zero hdc hover, packedMem_quant k c h16] at hword
    exact hword.symm
  · have hq := length_quantWords c k
    exact List.getD_eq_default _ _ (by omega)

theorem same_of_nothingMisplaced {k : Fin 3} {c : JpegDecContainer} (h : NothingMisplaced k c)
    {w : Nat} (hw : w < 104) : singleMem k c w = packedMem k c w := by
  obtain ⟨hac, hdc, hquant⟩ := (nothingMisplaced_iff k c).mp h
  by_cases h4 : w < 4
  · rw [singleMem_outside k c (by omega), overlaidMem_eq k c (by omega), if_pos h4,
      packedMem_quant k c (by omega)]
  have hover : overlaidMem k c w = 0 := by
    rw [overlaidMem_eq k c (by omega), if_neg h4, getD_zero_iff.mpr hac]
  rw [singleMem_zero hdc hover]
  by_cases h16 : w < 16
  · rw [packedMem_quant k c h16, hquant w (by omega)]
  · rw [packedMem_vlc k c (by omega) hw]
    split
    · exact (getD_zero_iff.mpr hac _).symm
    · exact (getD_zero_iff.mpr hdc _).symm

/-- **The non-interleaved writer agrees with the baseline writer** on the first 104
words of the table memory, exactly where the component has nothing to misplace. -/
theorem nonInterleaved_agrees_iff {k : Fin 3} (h : SingleScan k c) :
    ∃ c1 c2, (jpegDecWriteTablesNonInterleaved : Decoder ρ Unit) c = .next () c1 ∧
      (jpegDecWriteTables : Decoder ρ Unit) (asLuma k c) = .next () c2 ∧
      ((∀ w < 104, c1.tableMem w = c2.tableMem w) ↔ NothingMisplaced k c) :=
  ⟨_, _, jpegDecWriteTablesNonInterleaved_eq h, jpegDecWriteTables_asLuma h,
    nothingMisplaced_of_same, fun hnone _ hw => same_of_nothingMisplaced hnone hw⟩

/-- A scan of the second component with the default tables of chroma. -/
def chromaScan : JpegDecContainer where
  vlc := defaultTables {}
  frame := { pTableBase := ⟨544, 4096, 5⟩ }
  scan := { Ta := fun k => if k = 0 then 0 else 1, Td := fun k => if k = 0 then 0 else 1 }
  info := { nonInterleaved := 1, componentId := 1 }

theorem singleScan_chromaScan : SingleScan 1 chromaScan where
  bytes := by
    intro Tc
    cases Tc
    · decide +kernel
    · decide +kernel
  component := rfl
  acSelector := by decide
  dcSelector := by decide
  mapped := by decide

theorem nonInterleaved_agrees_iff_chromaScan :
    ∃ c1 c2, (jpegDecWriteTablesNonInterleaved : Decoder JpegDecRet Unit) chromaScan = .next () c1 ∧
      (jpegDecWriteTables : Decoder JpegDecRet Unit) (asLuma 1 chromaScan) = .next () c2 ∧
      ((∀ w < 104, c1.tableMem w = c2.tableMem w) ↔ NothingMisplaced 1 chromaScan) :=
  nonInterleaved_agrees_iff singleScan_chromaScan

/-- **The default tables are misplaced.** -/
theorem not_nonInterleaved_agrees :
    ¬ ∀ (k : Fin 3) (c : JpegDecContainer), SingleScan k c →
      ∃ c1 c2, (jpegDecWriteTablesNonInterleaved : Decoder JpegDecRet Unit) c = .next () c1 ∧
        (jpegDecWriteTables : Decoder JpegDecRet Unit) (asLuma k c) = .next () c2 ∧
        ∀ w < 104, c1.tableMem w = c2.tableMem w := by
  intro hall
  obtain ⟨c1, c2, h1, h2, hsame⟩ := hall 1 chromaScan singleScan_chromaScan
  rw [jpegDecWriteTablesNonInterleaved_eq singleScan_chromaScan] at h1
  rw [jpegDecWriteTables_asLuma singleScan_chromaScan] at h2
  cases h1
  cases h2
  have hvalue : (dcBytes 1 chromaScan).getD 11 0 = 11 := by decide +kernel
  rw [getD_zero_iff.mpr (nothingMisplaced_of_same hsame).dc] at hvalue
  cases hvalue

end Jpeg

end Rk3399
