import Rk3399.Jpeg.Helpers.ShiftedTables
import Rk3399.Jpeg.Helpers.TableBounds
import Rk3399.Jpeg.Helpers.TableRegisters
/-!
# The tables of a progressive scan

`JpegDecWriteTablesProgressive` clears the table memory, stores the
quantisation tables of the scanned components and then the Huffman tables
the scan needs. The places of these are numbers of words, but the pointer
they are added to counts bytes: an AC table lands on the quantisation tables,
three DC tables on the last of them and on each other, and the places they
belong to stay cleared.
-/

namespace Rk3399

namespace Jpeg

open Prog

variable {ρ : Type} {c c' : JpegDecContainer}

/-! ## The claim -/

/-- **The states of the claim**: a progressive scan of one component or of three,
tables of bytes that are not too long, and a mapped table memory. -/
structure ProgressiveScan (c : JpegDecContainer) : Prop where
  progressive : c.info.operationType = JPEGDEC_PROGRESSIVE
  bytes : ∀ Tc id, ByteTable (c.vlc.get Tc id)
  length_values : ∀ Tc id, (c.vlc.get Tc id).values.length = (c.vlc.get Tc id).tableLength
  length_le : ∀ Tc id, (c.vlc.get Tc id).tableLength ≤ maxValues Tc
  component : c.info.nonInterleaved ≠ 0 → c.info.componentId < 3
  mapped : TableWord 143 c

/-- The components of the scan, in order. -/
def scanned (c : JpegDecContainer) : List (Fin 3) :=
  if c.info.nonInterleaved ≠ 0 then [Fin.ofNat 3 c.info.componentId] else [0, 1, 2]

/-- The values of the table a component selects. -/
def scanValues (c : JpegDecContainer) (Tc : TableClass) (k : Fin 3) : List Nat :=
  (selectTable Tc (selector c Tc k) c.vlc).values

/-- Values with zeros up to the size of a table. -/
def padded (n : Nat) (vals : List Nat) : List Nat := vals ++ List.replicate (n - vals.length) 0

/-- The word the AC table starts at, and the one the first DC table starts at. -/
def acWord (c : JpegDecContainer) : Nat := if c.info.nonInterleaved ≠ 0 then 16 else 48

def dcWord (c : JpegDecContainer) : Nat := if c.info.nonInterleaved ≠ 0 then 97 else 129

/-- A scan that needs AC tables, and one that needs DC tables. -/
def AcScan (c : JpegDecContainer) : Prop := c.scan.Ss ≠ 0

instance (c : JpegDecContainer) : Decidable (AcScan c) := inferInstanceAs (Decidable (_ ≠ _))

def FirstDcScan (c : JpegDecContainer) : Prop := c.scan.Ss = 0 ∧ c.scan.Ah = 0

/-- Byte `i` is part of a table. -/
def InTables (c : JpegDecContainer) (i : Nat) : Prop :=
  i < 64 * (scanned c).length ∨
  (AcScan c ∧ 4 * acWord c ≤ i ∧ i < 4 * acWord c + 162) ∨
  (FirstDcScan c ∧ 4 * dcWord c ≤ i ∧ i < 4 * dcWord c + 12 * (scanned c).length)

/-- The memory of `c'` holds the tables of the scan, and zeros elsewhere. -/
structure ProgressivePlaced (c c' : JpegDecContainer) : Prop where
  quant : ∀ i k, (scanned c)[i]? = some k →
    bytesOf c'.tableMem (64 * i) 64 = tableTmp (quantSelect (c.frame.component k).Tq c.quant)
  ac : AcScan c → ∀ k ∈ scanned c,
    bytesOf c'.tableMem (4 * acWord c) 162 = padded 162 (scanValues c .ac k)
  dc : FirstDcScan c → ∀ i k, (scanned c)[i]? = some k →
    bytesOf c'.tableMem (4 * (dcWord c + 3 * i)) 12 = padded 12 (scanValues c .dc k)
  zero : ∀ i < 576, ¬ InTables c i → byteOf c'.tableMem i = 0

/-- The quantisation tables of the scan. -/
def quantBytes (c : JpegDecContainer) : List Nat :=
  (scanned c).flatMap fun k => tableTmp (quantSelect (c.frame.component k).Tq c.quant)

/-- Whether the scan has tables: a refining DC scan has none. -/
def HasTables (c : JpegDecContainer) : Prop := ¬ (c.scan.Ah ≠ 0 ∧ c.scan.Ss = 0)

instance (c : JpegDecContainer) : Decidable (HasTables c) := inferInstanceAs (Decidable (¬ _))

/-- The tables of the scan. -/
def scanClass (c : JpegDecContainer) : TableClass := if c.scan.Ss = 0 then .dc else .ac

/-- The byte the first Huffman table is stored at. -/
def tableStart (c : JpegDecContainer) : Nat :=
  if c.scan.Ss = 0 then if c.info.nonInterleaved ≠ 0 then 97 else 129
  else if c.info.nonInterleaved ≠ 0 then 16 else 48

/-- A Huffman table is stored over byte `p` of the quantisation tables: an AC table reaches
to their end, the DC tables do not. -/
def Overlaid (c : JpegDecContainer) (p : Nat) : Prop :=
  p < 64 * (scanned c).length ∧ tableStart c ≤ p ∧ (c.scan.Ss = 0 → p < tableStart c + 22)

/-- The scan has nothing that could be in a wrong place: all values of its Huffman tables
are zero, and so are the entries of the quantisation tables they are stored over. -/
structure NothingOverlaid (c : JpegDecContainer) : Prop where
  values : ∀ k ∈ scanned c, ∀ b ∈ scanValues c (scanClass c) k, b = 0
  quant : ∀ p, Overlaid c p → (quantBytes c).getD (mirror p) 0 = 0

/-! ## The bytes stored -/

theorem ProgressiveScan.selected (h : ProgressiveScan c) (Tc : TableClass) (n : Nat) :
    ByteTable (selectTable Tc n c.vlc) := h.bytes Tc _

/-- The bytes the writer takes of a table. -/
theorem ProgressiveScan.paddedValues_eq (h : ProgressiveScan c) (Tc : TableClass) (n : Nat) :
    paddedValues (maxValues Tc) (selectTable Tc n c.vlc) (selectTable Tc n c.vlc).values =
      padded (maxValues Tc) (selectTable Tc n c.vlc).values := by
  obtain ⟨t, ht⟩ : ∃ t, t = selectTable Tc n c.vlc := ⟨_, rfl⟩
  have hbytes : ByteTable t := ht ▸ h.selected Tc n
  have hlen : t.values.length = t.tableLength := by
    rw [ht]
    exact h.length_values Tc _
  have hle : t.tableLength ≤ maxValues Tc := by
    rw [ht]
    exact h.length_le Tc _
  rw [← ht, hbytes.paddedValues_eq]
  refine List.ext_getElem (by simp [padded]; omega) fun i hi hi' => ?_
  simp only [List.getElem_map, List.getElem_range, valueAt, padded]
  by_cases hlt : i < t.tableLength
  · rw [if_pos hlt, List.getElem_append_left (by omega), List.getD_eq_getElem _ _ (by omega)]
  · rw [if_neg hlt, List.getElem_append_right (by omega), List.getElem_replicate]

theorem getD_padded (n : Nat) (vals : List Nat) (i : Nat) :
    (padded n vals).getD i 0 = vals.getD i 0 := by
  unfold padded
  by_cases hlt : i < vals.length
  · exact List.getD_append _ _ _ _ hlt
  · rw [List.getD_append_right _ _ _ _ (by omega), List.getD_eq_default vals _ (by omega)]
    rw [List.getD_eq_getElem?_getD, List.getElem?_getD_replicate_default_eq]

theorem length_padded {n : Nat} {vals : List Nat} (h : vals.length ≤ n) :
    (padded n vals).length = n := by
  simp only [padded, List.length_append, List.length_replicate]
  omega

/-- The bytes stored for component `i`: without the last two of its AC table where it
is not component zero. -/
def stepBytes (c : JpegDecContainer) (i : Nat) : List Nat :=
  if c.scan.Ss = 0 then padded 12 (scanValues c .dc (Fin.ofNat 3 i))
  else if i = 0 then padded 162 (scanValues c .ac 0) ++ [0, 0]
  else (padded 162 (scanValues c .ac (Fin.ofNat 3 i))).take 160

theorem ProgressiveScan.length_scanValues (h : ProgressiveScan c) (Tc : TableClass) (k : Fin 3) :
    (scanValues c Tc k).length ≤ maxValues Tc :=
  Nat.le_trans (Nat.le_of_eq (h.length_values Tc _)) (h.length_le Tc _)

theorem ProgressiveScan.length_padded (h : ProgressiveScan c) (Tc : TableClass) (k : Fin 3) :
    (padded (maxValues Tc) (scanValues c Tc k)).length = maxValues Tc :=
  Jpeg.length_padded (h.length_scanValues Tc k)

theorem ProgressiveScan.length_stepBytes (h : ProgressiveScan c) (i : Nat) :
    (stepBytes c i).length =
      if c.scan.Ss = 0 then 12 else if i = 0 then 164 else 160 := by
  unfold stepBytes
  have hdc := h.length_padded .dc (Fin.ofNat 3 i)
  have hac := h.length_padded .ac (Fin.ofNat 3 i)
  have hac0 := h.length_padded .ac 0
  simp only [maxValues] at hdc hac hac0
  split
  · exact hdc
  · split
    · rw [List.length_append, hac0]
      rfl
    · rw [List.length_take, hac]
      rfl

/-- The words the loops make of a table are those of these bytes. -/
theorem ProgressiveScan.dcWords_eq (h : ProgressiveScan c) (k : Fin 3) (word : Nat) :
    tableWords 12 (selectTable .dc (c.scan.Td k) c.vlc) word =
      packWords (padded 12 (scanValues c .dc k)) := by
  have hwords := (h.selected .dc (c.scan.Td k)).tableWords_eq 3 (by decide : 0 < 4) word
  rw [List.take_of_length_le (Nat.le_of_eq (length_paddedValues _ _ _))] at hwords
  exact hwords.trans (congrArg packWords (h.paddedValues_eq .dc (c.scan.Td k)))

theorem ProgressiveScan.acWords_eq (h : ProgressiveScan c) (k : Fin 3) (word : Nat) :
    acWords (selectTable .ac (c.scan.Ta k) c.vlc) word =
      packWords (padded 162 (scanValues c .ac k) ++ [0, 0]) := by
  have hpadded := h.paddedValues_eq .ac (c.scan.Ta k)
  simp only [maxValues] at hpadded
  rw [(h.selected .ac _).acWords_eq, hpadded]
  rfl

theorem ProgressiveScan.acWords_cut (h : ProgressiveScan c) (k : Fin 3) (word : Nat) :
    tableWords 162 (selectTable .ac (c.scan.Ta k) c.vlc) word =
      packWords ((padded 162 (scanValues c .ac k)).take 160) := by
  have hwords := (h.selected .ac (c.scan.Ta k)).tableWords_eq 40 (by decide : 2 < 4) word
  have hpadded := h.paddedValues_eq .ac (c.scan.Ta k)
  simp only [maxValues] at hpadded
  change tableWords 162 _ _ = packWords ((paddedValues 162 _ _).take 160) at hwords
  rw [hwords, hpadded]
  rfl

/-- **One component**: its words are stored where its table starts, whatever is in
the word the loop carries. -/
theorem storeProgressive_succ (h : ProgressiveScan c) {count i base len : Nat}
    (hbase : progressiveBase (c.scan.Ss = 0) count i = base) (hi : i < 3)
    (hlen : (packWords (stepBytes c i)).length = len) (hroom : base + 4 * len ≤ 572)
    (n word pos : Nat) (m : Nat → Nat) :
    ∃ word', (storeProgressive count (n + 1) i word pos : Decoder ρ Nat) { c with tableMem := m } =
      (storeProgressive count n (i + 1) word' (base + 4 * len) : Decoder ρ Nat)
        { c with tableMem := putsAt base (packWords (stepBytes c i)) m } := by
  have hget : (gets id : Decoder ρ JpegDecContainer) { c with tableMem := m } =
      .next { c with tableMem := m } { c with tableMem := m } := rfl
  have hstore : (storesAt base (packWords (stepBytes c i)) : Decoder ρ Unit)
      { c with tableMem := m } =
      .next () { c with tableMem := putsAt base (packWords (stepBytes c i)) m } :=
    storesAt_eq _ _ _ fun j hj => h.mapped.byte (by omega)
  subst hbase hlen
  rw [storeProgressive, bind_next (subscript_eq hi), bind_next hget]
  -- three words are stored for a DC table, 41 or 40 for an AC table
  by_cases hdc : c.scan.Ss = 0
  · have hwords : packWords (stepBytes c i) =
        tableWords 12 (selectTable .dc (c.scan.Td (Fin.ofNat 3 i)) c.vlc) word := by
      rw [h.dcWords_eq, stepBytes, if_pos hdc]
    refine ⟨wordAfter 12 (selectTable .dc (c.scan.Td (Fin.ofNat 3 i)) c.vlc) word, ?_⟩
    rw [hwords] at hstore ⊢
    rw [if_pos hdc]
    exact bind_next hstore
  · have hwords : packWords (stepBytes c i) = if i = 0
        then acWords (selectTable .ac (c.scan.Ta (Fin.ofNat 3 i)) c.vlc) word
        else tableWords 162 (selectTable .ac (c.scan.Ta (Fin.ofNat 3 i)) c.vlc) word := by
      rw [stepBytes, if_neg hdc]
      -- only for the first component the last two values are stored
      by_cases hfirst : i = 0
      · rw [if_pos hfirst, if_pos hfirst, hfirst]
        exact (h.acWords_eq 0 word).symm
      · rw [if_neg hfirst, if_neg hfirst]
        exact (h.acWords_cut _ word).symm
    obtain ⟨after, hafter⟩ : ∃ w, w =
      wordAfter 162 (selectTable .ac (c.scan.Ta (Fin.ofNat 3 i)) c.vlc) word := ⟨_, rfl⟩
    refine ⟨if i = 0 then u32 (after <<< 16) else after, ?_⟩
    rw [hafter]
    rw [hwords] at hstore ⊢
    rw [if_neg hdc]
    exact bind_next hstore

/-! ## The memory -/

theorem ProgressiveScan.length_stepBytes_mod (h : ProgressiveScan c) (i : Nat) :
    (stepBytes c i).length % 4 = 0 := by
  rw [h.length_stepBytes]
  split
  · rfl
  · split <;> rfl

theorem ProgressiveScan.length_stepWords (h : ProgressiveScan c) (i : Nat) :
    (packWords (stepBytes c i)).length =
      if c.scan.Ss = 0 then 3 else if i = 0 then 41 else 40 := by
  rw [length_packWords _ (h.length_stepBytes_mod i), h.length_stepBytes]
  split
  · rfl
  · split <;> rfl

/-- The byte the tables of component `i` are stored at. -/
def stepStart (c : JpegDecContainer) (i : Nat) : Nat :=
  if c.scan.Ss = 0 ∧ c.info.nonInterleaved = 0 then tableStart c + 3 * i else tableStart c

/-- The memory with the tables of component `i`. -/
def stepMem (c : JpegDecContainer) (i : Nat) (m : Nat → Nat) : Nat → Nat :=
  putsAt (stepStart c i) (packWords (stepBytes c i)) m

/-- The byte behind the tables of component `i`. -/
def stepEnd (c : JpegDecContainer) (i : Nat) : Nat :=
  stepStart c i + 4 * (packWords (stepBytes c i)).length

/-- The memory with all tables of the scan, and with a zero behind the last. -/
def storedMem (c : JpegDecContainer) (m : Nat → Nat) : Nat → Nat :=
  if c.info.nonInterleaved ≠ 0 then
    putAt (stepEnd c c.info.componentId) 0 (stepMem c c.info.componentId m)
  else putAt (stepEnd c 2) 0 (stepMem c 2 (stepMem c 1 (stepMem c 0 m)))

theorem progressiveBase_single (hsingle : c.info.nonInterleaved ≠ 0) (i : Nat) :
    progressiveBase (c.scan.Ss = 0) 1 i = stepStart c i := by
  unfold stepStart tableStart
  rw [if_neg (fun hno => hsingle hno.2), if_pos hsingle, if_pos hsingle]
  by_cases hdc : c.scan.Ss = 0
  · rw [decide_eq_true hdc, if_pos hdc]
    rfl
  · rw [decide_eq_false hdc, if_neg hdc]
    rfl

theorem progressiveBase_interleaved (hthree : c.info.nonInterleaved = 0) {i : Nat} (hi : i < 3) :
    progressiveBase (c.scan.Ss = 0) 3 i = stepStart c i := by
  unfold stepStart tableStart
  by_cases hdc : c.scan.Ss = 0
  · rw [decide_eq_true hdc, if_pos ⟨hdc, hthree⟩, if_pos hdc, if_neg (not_not_intro hthree)]
    obtain rfl | rfl | rfl : i = 0 ∨ i = 1 ∨ i = 2 := by omega
    · rfl
    · rfl
    · rfl
  · rw [decide_eq_false hdc, if_neg (fun hno => hdc hno.1), if_neg hdc,
      if_neg (not_not_intro hthree)]
    rfl

/-- The tables end in the first 212 bytes. -/
theorem ProgressiveScan.stepEnd_le (h : ProgressiveScan c) {i : Nat} (hi : i < 3) :
    stepEnd c i ≤ 212 := by
  have hlen := h.length_stepWords i
  unfold stepEnd
  rw [hlen]
  unfold stepStart tableStart
  split
  · rename_i hdc
    rw [if_pos hdc.1, if_neg (not_not_intro hdc.2), if_pos hdc.1]
    omega
  · split
    · split <;> decide
    · split <;> split <;> decide

/-- One component of the scan, where the place is the one the writer computes. -/
theorem ProgressiveScan.step (h : ProgressiveScan c) {count i : Nat}
    (hbase : progressiveBase (c.scan.Ss = 0) count i = stepStart c i) (hi : i < 3)
    (n word pos : Nat) (m : Nat → Nat) :
    ∃ word', (storeProgressive count (n + 1) i word pos : Decoder ρ Nat) { c with tableMem := m } =
      (storeProgressive count n (i + 1) word' (stepEnd c i) : Decoder ρ Nat)
        { c with tableMem := stepMem c i m } :=
  storeProgressive_succ h hbase hi rfl (Nat.le_trans (h.stepEnd_le hi) (by decide)) n word pos m

/-- **The tables of the scan.** -/
theorem storeTables_single (h : ProgressiveScan c) (hsingle : c.info.nonInterleaved ≠ 0)
    (word pos : Nat) (m : Nat → Nat) :
    (storeProgressive 1 1 c.info.componentId word pos >>= fun pos => storeAt pos 0 :
        Decoder ρ Unit) { c with tableMem := m } =
      .next () { c with tableMem := storedMem c m } := by
  have hi := h.component hsingle
  have hend := h.stepEnd_le hi
  obtain ⟨word', hstep⟩ := h.step (ρ := ρ) (progressiveBase_single hsingle _) hi 0 word pos m
  rw [storedMem, if_pos hsingle]
  exact (bind_next (hstep.trans rfl)).trans (storeAt_eq 0 (h.mapped.byte (by omega)))

theorem storeTables_interleaved (h : ProgressiveScan c) (hthree : c.info.nonInterleaved = 0)
    (word pos : Nat) (m : Nat → Nat) :
    (storeProgressive 3 3 0 word pos >>= fun pos => storeAt pos 0 :
        Decoder ρ Unit) { c with tableMem := m } =
      .next () { c with tableMem := storedMem c m } := by
  have hbase := fun i (hi : i < 3) => progressiveBase_interleaved hthree hi
  have hend := h.stepEnd_le (by decide : 2 < 3)
  obtain ⟨w1, hstep0⟩ := h.step (ρ := ρ) (hbase 0 (by decide)) (by decide) 2 word pos m
  obtain ⟨w2, hstep1⟩ := h.step (ρ := ρ) (hbase 1 (by decide)) (by decide) 1 w1 (stepEnd c 0)
    (stepMem c 0 m)
  obtain ⟨w3, hstep2⟩ := h.step (ρ := ρ) (hbase 2 (by decide)) (by decide) 0 w2 (stepEnd c 1)
    (stepMem c 1 (stepMem c 0 m))
  rw [storedMem, if_neg (not_not_intro hthree)]
  exact (bind_next (hstep0.trans (hstep1.trans (hstep2.trans rfl)))).trans
    (storeAt_eq 0 (h.mapped.byte (by omega)))

/-- The memory with the quantisation tables. -/
def quantMem (c : JpegDecContainer) : Nat → Nat :=
  putWords 0 (packWords (quantBytes c)) (clearedWords 144 c.tableMem)

/-- The memory the writer leaves. -/
def progressiveMem (c : JpegDecContainer) : Nat → Nat :=
  if HasTables c then storedMem c (quantMem c) else quantMem c

/-- The components of the scan as the writer counts them. -/
def firstComponent (c : JpegDecContainer) : Nat :=
  if c.info.nonInterleaved ≠ 0 then c.info.componentId else 0

def componentCount (c : JpegDecContainer) : Nat := if c.info.nonInterleaved ≠ 0 then 1 else 3

theorem quantRun_scanned (c : JpegDecContainer) :
    quantRun c (componentCount c) (firstComponent c) = packWords (quantBytes c) := by
  have hmod : ∀ t : List Nat, (tableTmp t).length % 4 = 0 := fun t => by rw [length_tableTmp]
  unfold componentCount firstComponent quantBytes scanned
  split
  · simp only [quantRun, quantWords, List.append_nil, List.flatMap_cons, List.flatMap_nil]
  · simp only [quantRun, quantWords, List.append_nil, List.flatMap_cons, List.flatMap_nil,
      packWords_append _ (hmod _)]
    rfl

/-- The tables of either scan. -/
theorem storeTables (h : ProgressiveScan c) (word : Nat) (m : Nat → Nat) :
    (storeProgressive (componentCount c) (componentCount c) (firstComponent c) word
        (64 * componentCount c) >>= fun pos => storeAt pos 0 :
        Decoder ρ Unit) { c with tableMem := m } =
      .next () { c with tableMem := storedMem c m } := by
  unfold componentCount firstComponent
  by_cases hsingle : c.info.nonInterleaved ≠ 0
  · rw [if_pos hsingle, if_pos hsingle]
    exact storeTables_single h hsingle word _ m
  · rw [if_neg hsingle, if_neg hsingle]
    exact storeTables_interleaved h (not_not.mp hsingle) word _ m

theorem firstComponent_le (h : c.info.nonInterleaved ≠ 0 → c.info.componentId < 3) :
    firstComponent c + componentCount c ≤ 3 := by
  unfold firstComponent componentCount
  split
  · rename_i hsingle
    have hlt := h hsingle
    omega
  · exact Nat.le_refl 3

/-- What the loop over the components finds in its word. -/
def firstTableWord (c : JpegDecContainer) : Nat :=
  quantLast c (Fin.ofNat 3 (firstComponent c + componentCount c - 1))

/-- **The steps of the writer**: what it leaves where the loop over the components
leaves `mem` behind the quantisation tables. -/
theorem jpegDecWriteTablesProgressive_of {mem : Nat → Nat}
    (hcomponent : c.info.nonInterleaved ≠ 0 → c.info.componentId < 3) (hmapped : TableWord 143 c)
    (hstore : HasTables c →
      (storeProgressive (componentCount c) (componentCount c) (firstComponent c)
        (firstTableWord c) (64 * componentCount c) >>= fun pos => storeAt pos 0 :
          Decoder ρ Unit) { c with tableMem := quantMem c } = .next () { c with tableMem := mem }) :
    (jpegDecWriteTablesProgressive : Decoder ρ Unit) c =
      .next () { c with tableMem := if HasTables c then mem else quantMem c } := by
  obtain ⟨m0, hm0⟩ : ∃ m, m = clearedWords 144 c.tableMem := ⟨_, rfl⟩
  obtain ⟨m1, hm1⟩ : ∃ m, m = quantMem c := ⟨_, rfl⟩
  have hle := firstComponent_le hcomponent
  have hpos : 0 < componentCount c := by unfold componentCount; split <;> decide
  -- one equation for each statement of the writer, in its order
  have hclear : (clearTable (JPEGDEC_PROGRESSIVE_TABLE_SIZE / 4) : Decoder ρ Unit) c =
      .next () { c with tableMem := m0 } := by
    rw [hm0]
    exact clearTable_eq hmapped
  have hquant : (storeQuantTables (componentCount c) (firstComponent c) 0 : Decoder ρ Unit)
      { c with tableMem := m0 } = .next () { c with tableMem := m1 } := by
    have hrun := storeQuantTables_eq (ρ := ρ) (componentCount c) (firstComponent c) 0
      { c with tableMem := m0 } (by omega) (fun i hi => (tableWord_tableMem _ c m0).mpr
        (hmapped.mono (by omega)))
    rw [quantRun_tableMem, quantRun_scanned] at hrun
    rw [hrun, hm1, quantMem, hm0]
  have hsub : (subscript (firstComponent c + componentCount c - 1) : Decoder ρ (Fin 3))
      { c with tableMem := m1 } =
      .next (Fin.ofNat 3 (firstComponent c + componentCount c - 1)) { c with tableMem := m1 } :=
    subscript_eq (by omega)
  have hsingle : (gets fun c => decide (c.info.nonInterleaved ≠ 0) : Decoder ρ Bool)
      { c with tableMem := m0 } = .next (decide (c.info.nonInterleaved ≠ 0))
        { c with tableMem := m0 } := rfl
  have hfirst :
      (gets fun d => if decide (c.info.nonInterleaved ≠ 0) then d.info.componentId else 0 :
      Decoder ρ Nat) { c with tableMem := m0 } =
      .next (firstComponent c) { c with tableMem := m0 } := by
    have hvalue : (if decide (c.info.nonInterleaved ≠ 0) then c.info.componentId else 0) =
        firstComponent c := by simp only [decide_eq_true_eq, firstComponent]
    exact congrArg (fun n => Outcome.next n _) hvalue
  have hcount : (if decide (c.info.nonInterleaved ≠ 0) then 1 else 3) = componentCount c := by
    simp only [decide_eq_true_eq, componentCount]
  have hrefine : (gets (fun c => decide (c.scan.Ah ≠ 0 ∧ c.scan.Ss = 0)) : Decoder ρ Bool)
      { c with tableMem := m1 } = .next (decide (c.scan.Ah ≠ 0 ∧ c.scan.Ss = 0))
        { c with tableMem := m1 } := rfl
  have hword : ∀ k, (gets fun c => quantLast c k : Decoder ρ Nat) { c with tableMem := m1 } =
      .next (quantLast { c with tableMem := m1 } k) { c with tableMem := m1 } := fun _ => rfl
  rw [← hm1] at hstore ⊢
  rw [jpegDecWriteTablesProgressive, bind_next hclear, bind_next hsingle, bind_next hfirst]
  simp only [hcount]
  rw [bind_next hquant, bind_next hrefine]
  -- a refining DC scan returns behind the quantisation tables
  by_cases htables : HasTables c
  · rw [if_pos htables, decide_eq_false htables]
    exact (bind_next hsub).trans ((bind_next (hword _)).trans (hstore htables))
  · rw [if_neg htables, decide_eq_true (not_not.mp htables)]
    rfl

/-- **What the writer leaves.** -/
theorem jpegDecWriteTablesProgressive_eq (h : ProgressiveScan c) :
    (jpegDecWriteTablesProgressive : Decoder ρ Unit) c =
      .next () { c with tableMem := progressiveMem c } :=
  jpegDecWriteTablesProgressive_of h.component h.mapped fun _ => storeTables h _ _

/-! ## Reading it back -/

theorem getD_bytesOf (mem : Nat → Nat) (start : Nat) {n i : Nat} (hi : i < n) :
    (bytesOf mem start n).getD i 0 = byteOf mem (start + i) := by
  rw [List.getD_eq_getElem _ _ (by simpa [bytesOf] using hi)]
  simp [bytesOf]

theorem length_quantBytes (c : JpegDecContainer) :
    (quantBytes c).length = 64 * (scanned c).length :=
  length_flatMap_const fun _ _ => length_tableTmp _

theorem quantBytes_lt (c : JpegDecContainer) : ∀ b ∈ quantBytes c, b < 256 := by
  intro b hb
  obtain ⟨k, -, hk⟩ := List.mem_flatMap.mp hb
  exact tableTmp_lt _ b hk

/-- The quantisation tables are in the memory where its bytes are theirs. -/
theorem quant_iff {mem : Nat → Nat} :
    (∀ i k, (scanned c)[i]? = some k →
      bytesOf mem (64 * i) 64 = tableTmp (quantSelect (c.frame.component k).Tq c.quant)) ↔
      ∀ p < 64 * (scanned c).length, byteOf mem p = (quantBytes c).getD p 0 := by
  have hsplit : ∀ {i k}, (scanned c)[i]? = some k → ∀ r < 64,
      (quantBytes c).getD (64 * i + r) 0 =
        (tableTmp (quantSelect (c.frame.component k).Tq c.quant)).getD r 0 := by
    intro i k hk r hr
    obtain ⟨before, after, hbytes, hbefore⟩ := flatMap_split (f := fun k =>
      tableTmp (quantSelect (c.frame.component k).Tq c.quant)) (fun _ _ => length_tableTmp _) hk
    have hlen := length_tableTmp (quantSelect (c.frame.component k).Tq c.quant)
    rw [quantBytes, hbytes, List.getD_append _ _ _ _ (by rw [List.length_append]; omega),
      List.getD_append_right _ _ _ _ (by omega), hbefore, Nat.add_sub_cancel_left]
  constructor
  · intro h p hp
    have hk := List.getElem?_eq_getElem (l := scanned c) (i := p / 64) (by omega)
    have hread := hsplit hk (p % 64) (Nat.mod_lt _ (by decide))
    have hbyte := getD_bytesOf mem (64 * (p / 64))
      (Nat.mod_lt p (by decide : 0 < 64))
    rw [Nat.div_add_mod] at hread hbyte
    rw [hread, ← hbyte, h _ _ hk]
  · intro h i k hk
    have hlt : i < (scanned c).length := (List.getElem?_eq_some_iff.mp hk).1
    refine List.ext_getElem (by simp [bytesOf, length_tableTmp]) fun r hr hr' => ?_
    have hr64 : r < 64 := by simpa [bytesOf] using hr
    rw [← List.getD_eq_getElem _ 0 hr, ← List.getD_eq_getElem _ 0 hr', getD_bytesOf _ _ hr64,
      h _ (by omega), hsplit hk r hr64]

/-- The quantisation tables, and zeros behind them. -/
theorem byteOf_quantMem (c : JpegDecContainer) {p : Nat} (hp : p < 576) :
    byteOf (quantMem c) p = (quantBytes c).getD p 0 := by
  have hlen := length_quantBytes c
  have hmod : (quantBytes c).length % 4 = 0 := by omega
  by_cases hlt : p < (quantBytes c).length
  · have hread := byteOf_putWords hmod (quantBytes_lt c) 0 (clearedWords 144 c.tableMem) hlt
    rwa [Nat.mul_zero, Nat.zero_add] at hread
  · have hwords := length_packWords _ hmod
    have hzero : clearedWords 144 c.tableMem (p / 4) = 0 := if_pos (by omega)
    rw [quantMem, byteOf_outside (Or.inr (by omega)), byteOf, hzero, wordByte, Nat.zero_div,
      Nat.zero_mod, List.getD_eq_default _ _ (by omega)]

theorem length_scanned (c : JpegDecContainer) :
    (scanned c).length = if c.info.nonInterleaved ≠ 0 then 1 else 3 := by
  unfold scanned
  split <;> rfl

/-- Every table belongs behind the quantisation tables. -/
theorem length_scanned_le (c : JpegDecContainer) :
    64 * (scanned c).length ≤ 4 * acWord c ∧ 64 * (scanned c).length ≤ 4 * dcWord c := by
  rw [length_scanned]
  unfold acWord dcWord
  split <;> exact ⟨by decide, by decide⟩

/-! ## Tables of zeros -/

/-- Tables of zeros are stored as zeros. -/
theorem ProgressiveScan.stepWords_zero (h : ProgressiveScan c) {i : Nat}
    (hzero : ∀ b ∈ scanValues c (scanClass c) (Fin.ofNat 3 i), b = 0) :
    packWords (stepBytes c i) = List.replicate (packWords (stepBytes c i)).length 0 := by
  have hpadded : ∀ (Tc : TableClass) (n : Nat), scanClass c = Tc →
      ∀ b ∈ padded n (scanValues c Tc (Fin.ofNat 3 i)), b = 0 := by
    rintro Tc n rfl b hb
    rcases List.mem_append.mp hb with hb | hb
    · exact hzero b hb
    · exact List.eq_of_mem_replicate hb
  have hbytes : ∀ b ∈ stepBytes c i, b = 0 := by
    unfold stepBytes
    by_cases hdc : c.scan.Ss = 0
    · rw [if_pos hdc]
      exact hpadded .dc 12 (if_pos hdc)
    · rw [if_neg hdc]
      by_cases hfirst : i = 0
      · subst hfirst
        rw [if_pos rfl]
        intro b hb
        rcases List.mem_append.mp hb with hb | hb
        · exact hpadded .ac 162 (if_neg hdc) b hb
        · simpa using hb
      · rw [if_neg hfirst]
        exact fun b hb => hpadded .ac 162 (if_neg hdc) b (List.mem_of_mem_take hb)
  refine List.eq_replicate_of_mem ?_
  refine (packWords_zero_iff _ (h.length_stepBytes_mod i) fun b hb => ?_).mpr hbytes
  rw [hbytes b hb]
  decide

/-- The byte behind all tables and the zero behind them. -/
def storedEnd (c : JpegDecContainer) : Nat :=
  (if c.info.nonInterleaved ≠ 0 then stepEnd c c.info.componentId else stepEnd c 2) + 4

/-- **Tables of zeros** clear the bytes they are stored over. -/
theorem ProgressiveScan.stored_zero (h : ProgressiveScan c)
    (hzero : ∀ k ∈ scanned c, ∀ b ∈ scanValues c (scanClass c) k, b = 0) (m : Nat → Nat) (p : Nat) :
    leByteOf (storedMem c m) p =
      if tableStart c ≤ p ∧ p < storedEnd c then 0 else leByteOf m p := by
  have hstep : ∀ i, Fin.ofNat 3 i ∈ scanned c → ∀ m, leByteOf (stepMem c i m) p =
      if stepStart c i ≤ p ∧ p < stepEnd c i then 0 else leByteOf m p := by
    intro i hi m
    rw [stepMem, h.stepWords_zero (hzero _ hi), leByteOf_putsAt_zero]
    rfl
  have hlast : ∀ b m, leByteOf (putAt b 0 m) p = if b ≤ p ∧ p < b + 4 then 0 else leByteOf m p := by
    intro b m
    rw [leByteOf_putAt, leByte_zero]
  unfold storedMem storedEnd
  by_cases hsingle : c.info.nonInterleaved ≠ 0
  · have hmem : Fin.ofNat 3 c.info.componentId ∈ scanned c := by
      rw [scanned, if_pos hsingle]
      exact List.mem_singleton_self _
    have hstart : stepStart c c.info.componentId = tableStart c :=
      if_neg fun hno => hsingle hno.2
    have hle : tableStart c ≤ stepEnd c c.info.componentId := hstart ▸ Nat.le_add_right _ _
    rw [if_pos hsingle, if_pos hsingle, hlast, hstep _ hmem, hstart]
    split
    · rw [if_pos (by omega)]
    · split
      · rw [if_pos (by omega)]
      · rw [if_neg (by omega)]
  · have hmem : ∀ i, Fin.ofNat 3 i ∈ scanned c := by
      intro i
      rw [scanned, if_neg hsingle]
      have hlt := (Fin.ofNat 3 i).isLt
      simp only [List.mem_cons, List.not_mem_nil, or_false, Fin.ext_iff]
      omega
    -- the ranges of the three components join, so that together they are one range
    have hstarts : stepStart c 0 = tableStart c ∧ stepStart c 1 ≤ stepEnd c 0 ∧
        tableStart c ≤ stepStart c 1 ∧ stepStart c 2 ≤ stepEnd c 1 ∧
        stepEnd c 0 ≤ stepEnd c 2 + 4 ∧ stepEnd c 1 ≤ stepEnd c 2 ∧
        tableStart c ≤ stepStart c 2 ∧ stepStart c 2 ≤ stepEnd c 2 := by
      unfold stepEnd stepStart
      simp only [h.length_stepWords]
      by_cases hdc : c.scan.Ss = 0
      · simp only [if_pos hdc, if_pos (And.intro hdc (not_not.mp hsingle))]
        omega
      · simp only [if_neg hdc, if_neg (fun hno : c.scan.Ss = 0 ∧ _ => hdc hno.1),
          if_neg (by decide : ¬ 1 = 0), if_neg (by decide : ¬ 2 = 0), ite_true, true_and]
        omega
    rw [if_neg hsingle, if_neg hsingle, hlast, hstep 2 (hmem 2), hstep 1 (hmem 1),
      hstep 0 (hmem 0)]
    by_cases hin : tableStart c ≤ p ∧ p < stepEnd c 2 + 4
    · rw [if_pos hin]
      split
      · rfl
      · split
        · rfl
        · split
          · rfl
          · rw [if_pos (by omega)]
    · rw [if_neg hin, if_neg (by omega), if_neg (by omega), if_neg (by omega), if_neg (by omega)]

/-- The bytes of the quantisation tables that are stored over. -/
theorem ProgressiveScan.overlaid_iff (h : ProgressiveScan c) {p : Nat}
    (hp : p < 64 * (scanned c).length) :
    Overlaid c p ↔ tableStart c ≤ p ∧ p < storedEnd c := by
  rw [Overlaid, and_iff_right hp]
  rw [length_scanned] at hp
  unfold storedEnd stepEnd stepStart tableStart
  simp only [h.length_stepWords]
  by_cases hsingle : c.info.nonInterleaved ≠ 0
  · simp only [if_pos hsingle, if_neg (fun hno : c.scan.Ss = 0 ∧ _ => hsingle hno.2)] at hp ⊢
    by_cases hdc : c.scan.Ss = 0
    · simp only [if_pos hdc]
      omega
    · simp only [if_neg hdc]
      split <;> omega
  · simp only [if_neg hsingle] at hp ⊢
    by_cases hdc : c.scan.Ss = 0
    · simp only [if_pos hdc, if_pos (And.intro hdc (not_not.mp hsingle))]
      omega
    · simp only [if_neg hdc, if_neg (fun hno : c.scan.Ss = 0 ∧ _ => hdc hno.1),
        if_neg (by decide : ¬ 2 = 0)]
      omega

/-- Where the values are zero, the memory is that of the quantisation tables, with zeros
stored over some of them. -/
theorem ProgressiveScan.byteOf_of_zero (h : ProgressiveScan c) (htables : HasTables c)
    (hzero : ∀ k ∈ scanned c, ∀ b ∈ scanValues c (scanClass c) k, b = 0) {p : Nat} (hp : p < 576) :
    byteOf (progressiveMem c) p =
      if tableStart c ≤ mirror p ∧ mirror p < storedEnd c then 0 else (quantBytes c).getD p 0 := by
  rw [progressiveMem, if_pos htables, byteOf_eq_leByteOf, h.stored_zero hzero,
    ← byteOf_eq_leByteOf, byteOf_quantMem c hp]

/-- A scan with nothing to misplace leaves the quantisation tables alone. -/
theorem ProgressiveScan.byteOf_of_nothingOverlaid (h : ProgressiveScan c)
    (hnone : HasTables c → NothingOverlaid c) {p : Nat} (hp : p < 576) :
    byteOf (progressiveMem c) p = (quantBytes c).getD p 0 := by
  by_cases htables : HasTables c
  · obtain ⟨hzero, hquant⟩ := hnone htables
    rw [h.byteOf_of_zero htables hzero hp]
    split
    · rename_i hin
      by_cases hlt : p < 64 * (scanned c).length
      · have hover : Overlaid c (mirror p) :=
          (h.overlaid_iff (by unfold mirror; omega)).mpr hin
        have hbyte := hquant _ hover
        rw [mirror_mirror] at hbyte
        exact hbyte.symm
      · exact (List.getD_eq_default _ _ (by rw [length_quantBytes]; omega)).symm
    · rfl
  · rw [progressiveMem, if_neg htables, byteOf_quantMem c hp]

/-- Behind the quantisation tables bytes that are theirs are zero. -/
theorem bytesOf_behind {mem : Nat → Nat}
    (hmem : ∀ p < 576, byteOf mem p = (quantBytes c).getD p 0) {vals : List Nat} {start n : Nat}
    (hlen : (padded n vals).length = n) (hzero : ∀ b ∈ vals, b = 0)
    (hstart : 64 * (scanned c).length ≤ start) (hend : start + n ≤ 576) :
    bytesOf mem start n = padded n vals := by
  refine List.ext_getElem (by simpa [bytesOf] using hlen.symm) fun i hi hi' => ?_
  have hin : i < n := by rwa [hlen] at hi'
  rw [← List.getD_eq_getElem _ 0 hi, ← List.getD_eq_getElem _ 0 hi', getD_bytesOf _ _ hin,
    hmem _ (by omega), getD_padded, getD_zero_iff.mpr hzero]
  exact List.getD_eq_default _ _ (by rw [length_quantBytes]; omega)

/-- **A scan with nothing to misplace is placed.** -/
theorem ProgressiveScan.placed_of_nothingOverlaid (h : ProgressiveScan c)
    (hnone : HasTables c → NothingOverlaid c) :
    ProgressivePlaced c { c with tableMem := progressiveMem c } := by
  have hmem : ∀ p < 576, byteOf (progressiveMem c) p = (quantBytes c).getD p 0 :=
    fun p hp => h.byteOf_of_nothingOverlaid hnone hp
  obtain ⟨hac, hdc⟩ := length_scanned_le c
  have hcount := length_scanned c
  have hroom : 4 * acWord c + 162 ≤ 576 ∧
      ∀ i < (scanned c).length, 4 * (dcWord c + 3 * i) + 12 ≤ 576 := by
    rw [hcount]
    unfold acWord dcWord
    split
    · exact ⟨by decide, fun i hi => by omega⟩
    · exact ⟨by decide, fun i hi => by omega⟩
  refine ⟨quant_iff.mpr fun p hp => hmem p (by omega), fun hscan k hk => ?_,
    fun hscan i k hk => ?_, fun p hp hout => ?_⟩
  · have hclass : scanClass c = .ac := if_neg hscan
    have hzero := (hnone fun hno => hscan hno.2).values k hk
    rw [hclass] at hzero
    exact bytesOf_behind hmem (h.length_padded .ac k) hzero hac hroom.1
  · have hclass : scanClass c = .dc := if_pos hscan.1
    obtain ⟨hi, hget⟩ := List.getElem?_eq_some_iff.mp hk
    have hzero := (hnone fun hno => hno.1 hscan.2).values k (hget ▸ List.getElem_mem hi)
    rw [hclass] at hzero
    exact bytesOf_behind hmem (h.length_padded .dc k) hzero (by omega) (hroom.2 i hi)
  · have hbehind : 64 * (scanned c).length ≤ p := by
      by_contra hlt
      exact hout (Or.inl (by omega))
    rw [hmem p hp]
    exact List.getD_eq_default _ _ (by rw [length_quantBytes]; omega)

/-! ## AC tables -/

/-- The component whose AC table is stored last. -/
def lastStored (c : JpegDecContainer) : Nat :=
  if c.info.nonInterleaved ≠ 0 then c.info.componentId else 2

theorem lastStored_mem (c : JpegDecContainer) : Fin.ofNat 3 (lastStored c) ∈ scanned c := by
  unfold lastStored scanned
  split
  · exact List.mem_singleton_self _
  · decide

/-- The bytes of an AC scan: each AC table is stored over the one before, and a zero word
behind the last. -/
def acStored (c : JpegDecContainer) : List Nat := stepBytes c (lastStored c) ++ List.replicate 4 0

theorem ProgressiveScan.length_acStored (h : ProgressiveScan c) (hscan : AcScan c) :
    (acStored c).length % 4 = 0 ∧ 164 ≤ (acStored c).length := by
  have hlen := h.length_stepBytes (lastStored c)
  rw [if_neg hscan] at hlen
  rw [acStored, List.length_append, List.length_replicate, hlen]
  split <;> exact ⟨rfl, by decide⟩

theorem ProgressiveScan.stepBytes_lt (h : ProgressiveScan c) (i : Nat) :
    ∀ b ∈ stepBytes c i, b < 256 := by
  have hpadded : ∀ (Tc : TableClass) (k : Fin 3) (n : Nat),
      ∀ b ∈ padded n (scanValues c Tc k), b < 256 := by
    intro Tc k n b hb
    rcases List.mem_append.mp hb with hb | hb
    · exact h.selected Tc _ b hb
    · rw [List.eq_of_mem_replicate hb]
      decide
  unfold stepBytes
  split
  · exact hpadded .dc _ 12
  · split
    · intro b hb
      rcases List.mem_append.mp hb with hb | hb
      · exact hpadded .ac 0 162 b hb
      · simp only [List.mem_cons, List.not_mem_nil, or_false, or_self] at hb
        omega
    · exact fun b hb => hpadded .ac _ 162 b (List.mem_of_mem_take hb)

theorem ProgressiveScan.acStored_lt (h : ProgressiveScan c) : ∀ b ∈ acStored c, b < 256 := by
  intro b hb
  rcases List.mem_append.mp hb with hb | hb
  · exact h.stepBytes_lt _ b hb
  · rw [List.eq_of_mem_replicate hb]
    decide

/-- An AC table starts at a multiple of four, so that words are stored. -/
theorem ProgressiveScan.storedMem_ac (h : ProgressiveScan c) (hscan : AcScan c) {s : Nat}
    (hs : tableStart c = 4 * s) (m : Nat → Nat) :
    storedMem c m = putWords s (packWords (acStored c)) m := by
  have hlen : ∀ i, (packWords (stepBytes c i)).length = if i = 0 then 41 else 40 := fun i => by
    rw [h.length_stepWords, if_neg hscan]
  have hstart : ∀ i, stepStart c i = 4 * s := fun i => by
    rw [stepStart, if_neg fun hno => hscan hno.1, hs]
  have hstep : ∀ i m, stepMem c i m = putWords s (packWords (stepBytes c i)) m := by
    intro i m
    rw [stepMem, hstart]
    exact putsAt_aligned _ s m (packWords_lt _ (h.length_stepBytes_mod i) (h.stepBytes_lt i))
  have hzero : ∀ i m, putAt (stepEnd c i) 0 (putWords s (packWords (stepBytes c i)) m) =
      putWords s (packWords (stepBytes c i ++ List.replicate 4 0)) m := by
    intro i m
    have hend : stepEnd c i = 4 * (s + (packWords (stepBytes c i)).length) := by
      rw [stepEnd, hstart]
      omega
    have hone : putAt (stepEnd c i) 0 (putWords s (packWords (stepBytes c i)) m) =
        putWords (s + (packWords (stepBytes c i)).length) [0]
          (putWords s (packWords (stepBytes c i)) m) := by
      rw [hend]
      exact putsAt_aligned [0] _ _ (by decide)
    rw [hone, packWords_append _ (h.length_stepBytes_mod i), ← putWords_append]
    rfl
  unfold storedMem acStored lastStored
  by_cases hsingle : c.info.nonInterleaved ≠ 0
  · rw [if_pos hsingle, if_pos hsingle, hstep, hzero]
  · -- all components have one place, and the last one stores the most words
    have hcover : ∀ i, (packWords (stepBytes c i)).length ≤
        (packWords (stepBytes c 2 ++ List.replicate 4 0)).length := by
      intro i
      rw [packWords_append _ (h.length_stepBytes_mod 2), List.length_append, hlen, hlen 2]
      split <;> decide
    rw [if_neg hsingle, if_neg hsingle, hstep, hstep, hstep, hzero, putWords_putWords (hcover 1),
      putWords_putWords (hcover 0)]

/-- **What is read behind the start of the AC table.** -/
theorem ProgressiveScan.byteOf_ac (h : ProgressiveScan c) (hscan : AcScan c) {j : Nat}
    (hj : tableStart c + j < 576) :
    byteOf (progressiveMem c) (tableStart c + j) = (acStored c).getD j 0 := by
  obtain ⟨s, hs⟩ : ∃ s, tableStart c = 4 * s := by
    unfold tableStart
    rw [if_neg hscan]
    split
    · exact ⟨4, rfl⟩
    · exact ⟨12, rfl⟩
  obtain ⟨hmod, hlen⟩ := h.length_acStored hscan
  have htables : HasTables c := fun hno => hscan hno.2
  rw [progressiveMem, if_pos htables, h.storedMem_ac hscan hs, hs]
  by_cases hin : j < (acStored c).length
  · exact byteOf_putWords hmod h.acStored_lt s _ hin
  · -- behind what was stored there are neither values nor quantisation tables
    have hbehind : 64 * (scanned c).length ≤ 4 * s + 164 := by
      rw [← hs, length_scanned]
      unfold tableStart
      rw [if_neg hscan]
      split <;> decide
    have hwords := length_packWords _ hmod
    rw [byteOf_outside (Or.inr (by omega)), byteOf_quantMem c (by omega),
      List.getD_eq_default _ _ (by rw [length_quantBytes]; omega),
      List.getD_eq_default _ _ (by omega)]

/-- The bytes stored are zero where the values are. -/
theorem acStored_zero (hscan : AcScan c) {j : Nat}
    (hzero : (scanValues c .ac (Fin.ofNat 3 (lastStored c))).getD j 0 = 0) :
    (acStored c).getD j 0 = 0 := by
  have happend : ∀ (l : List Nat) (n : Nat), l.getD j 0 = 0 →
      (l ++ List.replicate n 0).getD j 0 = 0 := by
    intro l n hl
    by_cases hlt : j < l.length
    · rwa [List.getD_append _ _ _ _ hlt]
    · rw [List.getD_append_right _ _ _ _ (by omega), List.getD_eq_getElem?_getD,
        List.getElem?_getD_replicate_default_eq]
  refine happend _ 4 ?_
  rw [stepBytes, if_neg hscan]
  split
  · rename_i hfirst
    rw [hfirst] at hzero
    exact happend _ 2 ((getD_padded 162 _ j).trans hzero)
  · by_cases hlt : j < 160
    · rw [List.getD_eq_getElem?_getD, List.getElem?_take_of_lt hlt, ← List.getD_eq_getElem?_getD,
        getD_padded]
      exact hzero
    · exact List.getD_eq_default _ _ (by rw [List.length_take]; omega)

/-- **The values of a placed AC scan are zero**: each is read where a later one was stored. -/
theorem ProgressiveScan.ac_zero (h : ProgressiveScan c) (hscan : AcScan c)
    (hplaced : ∀ k ∈ scanned c,
      bytesOf (progressiveMem c) (4 * acWord c) 162 = padded 162 (scanValues c .ac k)) :
    ∀ k ∈ scanned c, ∀ j, (scanValues c .ac k).getD j 0 = 0 := by
  obtain ⟨shift, hshift, hstart⟩ : ∃ shift, 0 < shift ∧ 4 * acWord c = tableStart c + shift := by
    unfold acWord tableStart
    rw [if_neg hscan]
    split
    · exact ⟨48, by decide, rfl⟩
    · exact ⟨144, by decide, rfl⟩
  have hroom : 4 * acWord c + 162 ≤ 576 := by
    unfold acWord
    split <;> decide
  have hread : ∀ k ∈ scanned c, ∀ j < 162,
      (scanValues c .ac k).getD j 0 = (acStored c).getD (shift + j) 0 := by
    intro k hk j hj
    have hbyte := h.byteOf_ac hscan (j := shift + j) (by omega)
    rw [← getD_padded 162, ← hplaced k hk, getD_bytesOf _ _ hj, hstart, Nat.add_assoc, hbyte]
  have hlong : ∀ k j, 162 ≤ j → (scanValues c .ac k).getD j 0 = 0 := by
    intro k j hj
    exact List.getD_eq_default _ _ (Nat.le_trans (h.length_scanValues .ac k) hj)
  -- by induction from the end of the table: each value is one `shift` places further on
  have hlast : ∀ n j, 162 ≤ j + n →
      (scanValues c .ac (Fin.ofNat 3 (lastStored c))).getD j 0 = 0 := by
    intro n
    induction n using Nat.strong_induction_on with
    | _ n ih =>
      intro j hj
      by_cases hlt : j < 162
      · rw [hread _ (lastStored_mem c) j hlt]
        exact acStored_zero hscan (ih (n - shift) (by omega) _ (by omega))
      · exact hlong _ j (by omega)
  intro k hk j
  by_cases hlt : j < 162
  · rw [hread k hk j hlt]
    exact acStored_zero hscan (hlast 162 _ (by omega))
  · exact hlong k j (by omega)

/-! ## DC tables -/

/-- DC tables end before their places. -/
theorem ProgressiveScan.byteOf_dc (h : ProgressiveScan c) {p : Nat} (hp : 4 * dcWord c ≤ p)
    (hlt : p < 576) : byteOf (progressiveMem c) p = 0 := by
  have hquant : byteOf (quantMem c) p = 0 := by
    have hle := (length_scanned_le c).2
    rw [byteOf_quantMem c hlt]
    exact List.getD_eq_default _ _ (by rw [length_quantBytes]; omega)
  -- the three tables and the zero end below the word of the byte
  have hbehind : ∀ i < 3, stepEnd c i + 4 ≤ 4 * (p / 4) := by
    intro i hi
    have hend := h.stepEnd_le hi
    unfold dcWord at hp
    split at hp <;> omega
  have hstep : ∀ i < 3, ∀ m, stepMem c i m (p / 4) = m (p / 4) := by
    intro i hi m
    have hend := hbehind i hi
    refine putsAt_outside _ _ _ (Or.inr ?_)
    rw [← stepEnd]
    omega
  have hsame : storedMem c (quantMem c) (p / 4) = quantMem c (p / 4) := by
    unfold storedMem
    split
    · rename_i hsingle
      have hi := h.component hsingle
      rw [putAt_outside (Or.inr (hbehind _ hi)), hstep _ hi]
    · rw [putAt_outside (Or.inr (hbehind 2 (by decide))), hstep 2 (by decide), hstep 1 (by decide),
        hstep 0 (by decide)]
  unfold progressiveMem
  split
  · rw [byteOf, hsame]
    exact hquant
  · exact hquant

theorem ProgressiveScan.dc_zero (h : ProgressiveScan c)
    (hplaced : ∀ i k, (scanned c)[i]? = some k →
      bytesOf (progressiveMem c) (4 * (dcWord c + 3 * i)) 12 = padded 12 (scanValues c .dc k)) :
    ∀ k ∈ scanned c, ∀ j, (scanValues c .dc k).getD j 0 = 0 := by
  intro k hk j
  obtain ⟨i, hi, hget⟩ := List.getElem_of_mem hk
  have hcount := length_scanned c
  have hroom : 4 * (dcWord c + 3 * i) + 12 ≤ 576 := by
    unfold dcWord
    split <;> split at hcount <;> omega
  by_cases hlt : j < 12
  · rw [← getD_padded 12, ← hplaced i k (hget ▸ List.getElem?_eq_getElem hi), getD_bytesOf _ _ hlt]
    exact h.byteOf_dc (by omega) (by omega)
  · exact List.getD_eq_default _ _ (Nat.le_trans (h.length_scanValues .dc k) (by
      show 12 ≤ j
      omega))

/-! ## The claim -/

/-- **A scan that is placed has nothing to misplace.** -/
theorem ProgressiveScan.nothingOverlaid_of_placed (h : ProgressiveScan c) (htables : HasTables c)
    (hplaced : ProgressivePlaced c { c with tableMem := progressiveMem c }) :
    NothingOverlaid c := by
  have hzero : ∀ k ∈ scanned c, ∀ b ∈ scanValues c (scanClass c) k, b = 0 := by
    intro k hk
    refine getD_zero_iff.mp ?_
    unfold scanClass
    split
    · rename_i hdc
      have hAh : c.scan.Ah = 0 := by
        by_contra hno
        exact htables ⟨hno, hdc⟩
      exact h.dc_zero (hplaced.dc ⟨hdc, hAh⟩) k hk
    · rename_i hscan
      exact h.ac_zero hscan (hplaced.ac hscan) k hk
  -- the bytes of the quantisation tables that zeros were stored over read as zero
  refine ⟨hzero, fun p hover => ?_⟩
  have hp := hover.1
  have hcount := length_scanned c
  have hmirror : mirror p < 64 * (scanned c).length := by
    unfold mirror
    omega
  have hlt : mirror p < 576 := by
    split at hcount <;> omega
  have hin := (h.overlaid_iff hp).mp hover
  have hbyte := h.byteOf_of_zero htables hzero hlt
  rw [mirror_mirror, if_pos hin] at hbyte
  rw [← quant_iff.mp hplaced.quant _ hmirror]
  exact hbyte

/-- **The progressive writer places whole tables** exactly where there is nothing to
misplace: the scan has no tables, or only zeros. -/
theorem progressivePlaced_iff (h : ProgressiveScan c) :
    ∃ c', (jpegDecWriteTablesProgressive : Decoder ρ Unit) c = .next () c' ∧
      (ProgressivePlaced c c' ↔ (HasTables c → NothingOverlaid c)) :=
  ⟨_, jpegDecWriteTablesProgressive_eq h,
    fun hplaced htables => h.nothingOverlaid_of_placed htables hplaced,
    fun hnone => h.placed_of_nothingOverlaid hnone⟩

/-- An AC scan of one component with the default tables. -/
def acScanOf (k : Nat) : JpegDecContainer where
  vlc := defaultTables {}
  frame := { pTableBase := ⟨576, 4096, 5⟩ }
  scan := { Ss := 1, Se := 63 }
  info := { operationType := JPEGDEC_PROGRESSIVE, nonInterleaved := 1, componentId := k }

theorem progressiveScan_acScanOf {k : Nat} (hk : k < 3) : ProgressiveScan (acScanOf k) where
  progressive := rfl
  bytes := by
    intro Tc
    change ∀ id, ByteTable ((defaultTables {}).get Tc id)
    cases Tc
    · decide +kernel
    · decide +kernel
  length_values := by
    intro Tc
    change ∀ id, ((defaultTables {}).get Tc id).values.length =
      ((defaultTables {}).get Tc id).tableLength
    cases Tc
    · decide +kernel
    · decide +kernel
  length_le := by
    intro Tc
    change ∀ id, ((defaultTables {}).get Tc id).tableLength ≤ maxValues Tc
    cases Tc
    · decide +kernel
    · decide +kernel
  component := fun _ => hk
  mapped := (by decide : 4096 ≠ 0 ∧ 4 * 143 + 4 ≤ 576)

theorem progressivePlaced_iff_luma : ∃ c',
    (jpegDecWriteTablesProgressive : Decoder JpegDecRet Unit) (acScanOf 0) = .next () c' ∧
      (ProgressivePlaced (acScanOf 0) c' ↔
        (HasTables (acScanOf 0) → NothingOverlaid (acScanOf 0))) :=
  progressivePlaced_iff (progressiveScan_acScanOf (by decide))

/-- **A luma scan is misplaced**: its AC table starts at byte 16. -/
theorem not_progressivePlaced : ProgressiveScan (acScanOf 0) ∧
    ¬ ∃ c', (jpegDecWriteTablesProgressive : Decoder JpegDecRet Unit) (acScanOf 0) = .next () c' ∧
      ProgressivePlaced (acScanOf 0) c' := by
  have hscan : ProgressiveScan (acScanOf 0) := progressiveScan_acScanOf (by decide)
  refine ⟨hscan, ?_⟩
  rintro ⟨c', hc', hplaced⟩
  rw [jpegDecWriteTablesProgressive_eq hscan] at hc'
  cases hc'
  have htables : HasTables (acScanOf 0) := fun hno => absurd hno.2 (by decide : (1 : Nat) ≠ 0)
  have hzero : ∀ b ∈ scanValues (acScanOf 0) .ac 0, b = 0 :=
    (hscan.nothingOverlaid_of_placed htables hplaced).values 0 (by decide)
  have hlast : (scanValues (acScanOf 0) .ac 0).getD 161 0 = 0xFA := by decide +kernel
  rw [getD_zero_iff.mpr hzero] at hlast
  cases hlast

end Jpeg

end Rk3399
