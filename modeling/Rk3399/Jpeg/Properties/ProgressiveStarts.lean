import Rk3399.Jpeg.Properties.ProgressiveTables
import Rk3399.Jpeg.Properties.StreamStart
/-!
# The first and the continued start of a progressive scan

`JpegDecInitHW` and `JpegDecInitHWProgressiveContinue` program the same
scan from copies of the same code. What they set is the size of the
picture, the coefficient buffers, the code-length counts and the selectors,
and on these they agree but for the restart interval: the continued start
writes it to a field that lies over the first counts of the third DC table.
-/

namespace Rk3399

namespace Jpeg

open Prog

variable {ρ : Type} {c : JpegDecContainer}

/-! ## Fields -/

/-- The fields both starts are responsible for, but for the counts and the restart
interval. -/
def scanFields : List BitField :=
  [HWIF_PIC_MB_W_EXT, HWIF_PIC_MB_WIDTH, HWIF_PIC_MB_H_EXT, HWIF_PIC_MB_HEIGHT_P,
   HWIF_PJPEG_COEFF_BUF, HWIF_PJPEG_DCCB_BASE, HWIF_PJPEG_DCCR_BASE,
   HWIF_CR_AC_VLCTABLE, HWIF_CB_AC_VLCTABLE, HWIF_CR_DC_VLCTABLE, HWIF_CB_DC_VLCTABLE,
   HWIF_CR_DC_VLCTABLE3, HWIF_CB_DC_VLCTABLE3]

/-- The code-length counts of a progressive scan. -/
def countFields : List BitField :=
  HWIF_DC1_CODE_CNT ++ (HWIF_DC2_CODE_CNT ++ (HWIF_DC3_CODE_CNT ++ HWIF_AC1_CODE_CNT))

/-- The other fields of the two starts; `HWIF_REFER13_BASE` and `HWIF_PJPEG_REST_FREQ`
are for the restart interval. -/
def otherFields : List BitField :=
  [HWIF_DEC_TIMEOUT_E, HWIF_DEC_MODE, HWIF_DEC_OUT_DIS, HWIF_FILTERING_DIS, HWIF_JPEG_QTABLES,
   HWIF_JPEG_MODE, HWIF_RLC_MODE_E, HWIF_JPEG_FILRIGHT_E, HWIF_PJPEG_FILDOWN_E, HWIF_PJPEG_WDIV8,
   HWIF_PJPEG_HDIV8, HWIF_JPEG_SLICE_H, HWIF_PJPEG_E, HWIF_PJPEG_SS, HWIF_PJPEG_SE,
   HWIF_PJPEG_AH, HWIF_PJPEG_AL, HWIF_QTABLE_BASE, HWIF_RLC_VLC_BASE, HWIF_STRM_START_BIT,
   HWIF_STREAM_LEN, HWIF_JPEG_STREAM_ALL, HWIF_SYNC_MARKER_E, HWIF_DEC_OUT_BASE,
   HWIF_JPG_CH_OUT_BASE, HWIF_DEC_E]

/-! ## The registers of a scan -/

/-- The states of a progressive start: the component exists and the table memory is
mapped. -/
structure ProgressiveState (c : JpegDecContainer) : Prop where
  progressive : c.info.operationType = JPEGDEC_PROGRESSIVE
  component : c.info.nonInterleaved ≠ 0 → c.info.componentId < 3
  mapped : TableWord 143 c

/-- The address of the coefficients behind those of `n` components from component
`i` on. -/
def coeffAddress (numBlocks : Fin 3 → Nat) : Nat → Nat → Nat → Nat
  | 0, _, buffer => buffer
  | n + 1, i, buffer => coeffAddress numBlocks n (i + 1)
      (u32 (buffer + u32 (JPEGDEC_COEFF_SIZE * numBlocks (Fin.ofNat 3 i))))

theorem coeffBuffer_eq (n : Nat) : ∀ i buffer : Nat, i + n ≤ 3 →
    (coeffBuffer n i buffer : Decoder ρ Nat) c =
      .next (coeffAddress c.frame.numBlocks n i buffer) c := by
  induction n with
  | zero => exact fun _ _ _ => rfl
  | succ n ih =>
    intro i buffer hi
    have hget : (gets fun c => c.frame.numBlocks (Fin.ofNat 3 i) : Decoder ρ Nat) c =
        .next (c.frame.numBlocks (Fin.ofNat 3 i)) c := rfl
    rw [coeffBuffer, bind_next (subscript_eq (by omega)), bind_next hget, ih (i + 1) _ (by omega)]
    rfl

/-- The coefficient buffers. -/
def coeffRegisters (c : JpegDecContainer) : List (BitField × Nat) :=
  let base := c.info.pCoeffBase.phyAddr
  if c.info.nonInterleaved ≠ 0 then
    [(HWIF_PJPEG_COEFF_BUF, coeffAddress c.frame.numBlocks c.info.componentId 0 base)]
  else
    [(HWIF_PJPEG_COEFF_BUF, base),
     (HWIF_PJPEG_DCCB_BASE, coeffAddress c.frame.numBlocks 1 0 base),
     (HWIF_PJPEG_DCCR_BASE, coeffAddress c.frame.numBlocks 2 0 base)]

/-- Whether the picture is put out. -/
def outDisRegister (c : JpegDecContainer) : List (BitField × Nat) :=
  [(HWIF_DEC_OUT_DIS, if c.info.nonInterleaved ≠ 0 then 0 else 1)]

theorem setCoeffBuffers_eq (h : ProgressiveState c) :
    (setCoeffBuffers : Decoder ρ Unit) c = .next () { c with
      jpegRegs := BitField.writes
        (asWords (coeffRegisters c ++ outDisRegister c)) c.jpegRegs } := by
  have hop : (gets (fun c => decide (c.info.operationType = JPEGDEC_PROGRESSIVE)) :
      Decoder ρ Bool) c = .next true c :=
    congrArg (fun b => Outcome.next b c) (decide_eq_true h.progressive)
  have hbase : (gets (·.info.pCoeffBase.phyAddr) : Decoder ρ Nat) c =
      .next c.info.pCoeffBase.phyAddr c := rfl
  rw [setCoeffBuffers, bind_next hop, if_pos rfl, bind_next hbase]
  unfold coeffRegisters outDisRegister
  by_cases hsingle : c.info.nonInterleaved ≠ 0
  · have hlt := h.component hsingle
    have hthree : (gets (fun c => decide (c.info.nonInterleaved ≠ 0)) : Decoder ρ Bool) c =
        .next true c := congrArg (fun b => Outcome.next b c) (decide_eq_true hsingle)
    have hid : (gets (·.info.componentId) : Decoder ρ Nat) c = .next c.info.componentId c := rfl
    have hbuffer := coeffBuffer_eq (ρ := ρ) (c := c) c.info.componentId 0
      c.info.pCoeffBase.phyAddr (by omega)
    rw [bind_next hthree, if_pos rfl, bind_next hid, bind_next hbuffer]
    simp only [if_pos hsingle]
    rfl
  · have hthree : (gets (fun c => decide (c.info.nonInterleaved ≠ 0)) : Decoder ρ Bool) c =
        .next false c := congrArg (fun b => Outcome.next b c) (decide_eq_false hsingle)
    have hcb := coeffBuffer_eq (ρ := ρ) (c := c) 1 0 c.info.pCoeffBase.phyAddr (by decide)
    have hcr := coeffBuffer_eq (ρ := ρ) (c := c) 2 0 c.info.pCoeffBase.phyAddr (by decide)
    rw [bind_next hthree, if_neg Bool.false_ne_true, bind_next hcb, bind_next hcr]
    simp only [if_neg hsingle]
    rfl

/-- The counts of the scan. -/
def countRegisters (c : JpegDecContainer) : List (BitField × Nat) :=
  if c.info.nonInterleaved ≠ 0 then
    let k := lenBitsComponent c.info.componentId
    if c.scan.Ss = 0 then counts HWIF_DC1_CODE_CNT (progressiveCounts k c)
    else counts HWIF_AC1_CODE_CNT (selectTable .ac (c.scan.Ta k) c.vlc).bits
  else
    counts HWIF_DC1_CODE_CNT (progressiveCounts 0 c) ++
      (counts HWIF_DC2_CODE_CNT (progressiveCounts 1 c) ++
        counts HWIF_DC3_CODE_CNT (progressiveCounts 2 c))

/-- The registers with the words of the counts cleared. -/
def clearedCounts (regs : WordFile 32) : WordFile 32 := fun i =>
  if 134 ≤ i ∧ i < 147 then 0 else regs i

/-- The registers with the counts of the scan. -/
def counted (c : JpegDecContainer) (regs : WordFile 32) : WordFile 32 :=
  BitField.writes (asWords (countRegisters c)) (clearedCounts regs)

theorem jpegDecWriteLenBitsProgressive_eq (c : JpegDecContainer) :
    (jpegDecWriteLenBitsProgressive : Decoder ρ Unit) c =
      .next () { c with jpegRegs := counted c c.jpegRegs } := by
  obtain ⟨s, hs⟩ : ∃ s, s = { c with jpegRegs := clearedCounts c.jpegRegs } := ⟨_, rfl⟩
  have hclear : (modify fun c => { c with
      jpegRegs := fun i => if 134 ≤ i ∧ i < 147 then 0 else c.jpegRegs i } : Decoder ρ Unit) c =
      .next () s := by
    rw [hs]
    rfl
  have hthree : (gets (fun c => decide (c.info.nonInterleaved ≠ 0)) : Decoder ρ Bool) s =
      .next (decide (c.info.nonInterleaved ≠ 0)) s := by
    rw [hs]
    rfl
  have hregs : { c with jpegRegs := counted c c.jpegRegs } =
      { s with jpegRegs := BitField.writes (asWords (countRegisters c)) s.jpegRegs } := by
    rw [hs]
    rfl
  have hcount : countRegisters c = countRegisters s := by
    rw [hs]
    rfl
  rw [jpegDecWriteLenBitsProgressive, bind_next hclear, bind_next hthree, hregs, hcount]
  unfold countRegisters
  have hsame : s.info.nonInterleaved = c.info.nonInterleaved := by rw [hs]
  rw [← hsame]
  by_cases hsingle : s.info.nonInterleaved ≠ 0
  · rw [decide_eq_true hsingle, if_pos hsingle]
    rfl
  · rw [decide_eq_false hsingle, if_neg hsingle]
    simp only [asWords, List.map_append, BitField.writes_append]
    rfl

/-! ## The tables -/

/-- The loop over the components ends inside the memory, whatever the tables hold. -/
theorem storeProgressive_next {count : Nat} (hcount : count = 1 ∨ count = 3) (n : Nat) :
    ∀ (i word pos : Nat) (c : JpegDecContainer), i + n ≤ 3 → TableWord 143 c → pos ≤ 212 →
      ∃ pos' m, pos' ≤ 212 ∧ (storeProgressive count n i word pos : Decoder ρ Nat) c =
        .next pos' { c with tableMem := m } := by
  induction n with
  | zero => exact fun _ _ pos c _ _ hpos => ⟨pos, c.tableMem, hpos, rfl⟩
  | succ n ih =>
    intro i word pos c hi hmapped hpos
    have hget : (gets id : Decoder ρ JpegDecContainer) c = .next c c := rfl
    have hle := progressiveBase_le (c.scan.Ss = 0) i hcount
    -- a round stores below byte 212, whatever it stores
    have hstore : ∀ words : List Nat,
        progressiveBase (c.scan.Ss = 0) count i + 4 * words.length ≤ 212 →
        ∀ word', ∃ pos' m, pos' ≤ 212 ∧
          (storesAt (progressiveBase (c.scan.Ss = 0) count i) words >>= fun _ =>
            storeProgressive count n (i + 1) word'
              (progressiveBase (c.scan.Ss = 0) count i + 4 * words.length) : Decoder ρ Nat) c =
          .next pos' { c with tableMem := m } := by
      intro words hwords word'
      have hput := storesAt_eq (ρ := ρ) words (progressiveBase (c.scan.Ss = 0) count i) c
        (fun j hj => hmapped.byte (by omega))
      obtain ⟨pos', m, hend, hrest⟩ := ih (i + 1) word' _ _ (by omega)
        ((tableWord_tableMem 143 c (putsAt _ words c.tableMem)).mpr hmapped) hwords
      exact ⟨pos', m, hend, (bind_next hput).trans hrest⟩
    rw [storeProgressive, bind_next (subscript_eq (by omega)), bind_next hget]
    by_cases hdc : c.scan.Ss = 0
    · have hroom : progressiveBase (c.scan.Ss = 0) count i + 4 * 3 ≤ 212 := by
        simpa only [hdc, decide_true, if_true] using hle
      rw [if_pos hdc]
      exact hstore _ (by rw [length_tableWords]; exact hroom) _
    · have hroom : progressiveBase (c.scan.Ss = 0) count i + 4 * 41 ≤ 212 := by
        simpa only [hdc, decide_false, Bool.false_eq_true, if_false] using hle
      rw [if_neg hdc]
      refine hstore _ ?_ _
      split
      · rw [length_acWords]
        exact hroom
      · rw [length_tableWords]
        omega

/-- **The writer ends**, and changes the table memory alone. -/
theorem jpegDecWriteTablesProgressive_next (h : ProgressiveState c) :
    ∃ m, (jpegDecWriteTablesProgressive : Decoder ρ Unit) c =
      .next () { c with tableMem := m } := by
  have hle := firstComponent_le h.component
  have hcount : componentCount c = 1 ∨ componentCount c = 3 := by
    unfold componentCount
    split
    · exact Or.inl rfl
    · exact Or.inr rfl
  have hstart : 64 * componentCount c ≤ 212 := by omega
  obtain ⟨pos, m, hpos, hrun⟩ := storeProgressive_next (ρ := ρ) hcount (componentCount c)
    (firstComponent c) (firstTableWord c) (64 * componentCount c)
    { c with tableMem := quantMem c } hle ((tableWord_tableMem 143 c (quantMem c)).mpr h.mapped)
    (by omega)
  have hmapped : TableByte pos { c with tableMem := m } := h.mapped.byte (by omega)
  exact ⟨_, jpegDecWriteTablesProgressive_of h.component h.mapped fun _ =>
    (bind_next hrun).trans (storeAt_eq 0 hmapped)⟩

/-! ## The registers a start leaves -/

/-- The registers with the coefficient buffers. -/
def coeffRegs (c : JpegDecContainer) (regs : WordFile 32) : WordFile 32 :=
  BitField.writes (asWords (coeffRegisters c ++ outDisRegister c)) regs

/-- The registers with those of the scan. -/
def scanRegs (c : JpegDecContainer) (regs : WordFile 32) : WordFile 32 :=
  BitField.writes (asWords (acSelectors c ++ dcSelectors c)) (counted c (coeffRegs c regs))

/-- Writes to fields neither of the scan nor of the restart interval. -/
def Others (ws : List (BitField × Nat)) : Prop := ∀ p ∈ ws, p.1 ∈ otherFields

/-- **What a start leaves** in the registers, where it writes the restart interval to
the field `f`. -/
def StartedWith (f : BitField) (c c' : JpegDecContainer) : Prop :=
  ∃ o1 o2 o3 o4, Others o1 ∧ Others o2 ∧ Others o3 ∧ Others o4 ∧
    c'.jpegRegs = BitField.writes (asWords (o3 ++ (restartRegisters f c ++ o4)))
      (scanRegs c (BitField.writes (asWords (o1 ++ (sizeRegisters c ++ o2))) c.jpegRegs))

/-- Whether fields are others is seen without their values. -/
theorem others_of_fst {ws : List (BitField × Nat)} (fields : List BitField)
    (hws : ws.map Prod.fst = fields) (h : ∀ f ∈ fields, f ∈ otherFields) : Others ws :=
  fun _ hp => h _ (hws ▸ List.mem_map_of_mem hp)

theorem others_outputRegisters (c : JpegDecContainer) : Others (outputRegisters c) := by
  have hbase : ∀ address, Others [(HWIF_DEC_OUT_BASE, address)] := fun _ =>
    others_of_fst [HWIF_DEC_OUT_BASE] rfl (by decide)
  have hboth : ∀ address address',
      Others [(HWIF_DEC_OUT_BASE, address), (HWIF_JPG_CH_OUT_BASE, address')] := fun _ _ =>
    others_of_fst [HWIF_DEC_OUT_BASE, HWIF_JPG_CH_OUT_BASE] rfl (by decide)
  unfold outputRegisters
  split
  · split
    · exact others_of_fst [HWIF_DEC_OUT_DIS, HWIF_DEC_OUT_BASE, HWIF_JPG_CH_OUT_BASE] rfl
        (by decide)
    · exact others_of_fst [HWIF_DEC_OUT_DIS, HWIF_DEC_OUT_BASE] rfl (by decide)
  · split
    · split
      · exact hboth _ _
      · exact hbase _
    · split
      · exact hbase _
      · split
        · exact hbase _
        · exact hbase _

theorem others_streamRegisters (c : JpegDecContainer) : Others (streamRegisters c) :=
  others_of_fst [HWIF_RLC_VLC_BASE, HWIF_STRM_START_BIT, HWIF_STREAM_LEN, HWIF_JPEG_STREAM_ALL] rfl
    (by decide)

theorem Others.append {ws ws' : List (BitField × Nat)} (h : Others ws) (h' : Others ws') :
    Others (ws ++ ws') := by
  intro p hp
  rcases List.mem_append.mp hp with hp | hp
  · exact h p hp
  · exact h' p hp

theorem others_scanRegisters (c : JpegDecContainer) : Others (scanRegisters c) :=
  others_of_fst [HWIF_PJPEG_E, HWIF_PJPEG_SS, HWIF_PJPEG_SE, HWIF_PJPEG_AH, HWIF_PJPEG_AL] rfl
    (by decide)

theorem ProgressiveState.at (h : ProgressiveState c) (r : WordFile 32) (m : Nat → Nat) :
    ProgressiveState { c with jpegRegs := r, tableMem := m } :=
  ⟨h.progressive, h.component, h.mapped⟩

/-- The steps both starts make for the scan. -/
theorem scan_steps (h : ProgressiveState c) (r : WordFile 32) (m : Nat → Nat) : ∃ m',
    (setCoeffBuffers : Decoder ρ Unit) { c with jpegRegs := r, tableMem := m } =
      .next () { c with jpegRegs := coeffRegs c r, tableMem := m } ∧
    (jpegDecWriteLenBitsProgressive : Decoder ρ Unit)
        { c with jpegRegs := coeffRegs c r, tableMem := m } =
      .next () { c with jpegRegs := counted c (coeffRegs c r), tableMem := m } ∧
    (jpegDecWriteTablesProgressive : Decoder ρ Unit)
        { c with jpegRegs := counted c (coeffRegs c r), tableMem := m } =
      .next () { c with jpegRegs := counted c (coeffRegs c r), tableMem := m' } ∧
    (jpegDecChromaTableSelectors : Decoder ρ Unit)
        { c with jpegRegs := counted c (coeffRegs c r), tableMem := m' } =
      .next () { c with jpegRegs := scanRegs c r, tableMem := m' } := by
  obtain ⟨m', htables⟩ := jpegDecWriteTablesProgressive_next (ρ := ρ)
    (h.at (counted c (coeffRegs c r)) m)
  exact ⟨m', setCoeffBuffers_eq (h.at r m), jpegDecWriteLenBitsProgressive_eq _, htables,
    jpegDecChromaTableSelectors_eq _⟩

/-- **The first start.** -/
theorem jpegDecInitHW_started (h : ProgressiveState c) :
    ∃ c', (jpegDecInitHW : Decoder ρ Unit) c = .next () c' ∧
      StartedWith HWIF_PJPEG_REST_FREQ c c' := by
  -- the registers written before and behind the size, and the state at each step
  obtain ⟨o1, ho1⟩ : ∃ ws : List (BitField × Nat), ws = [(HWIF_DEC_TIMEOUT_E, 1)] := ⟨_, rfl⟩
  obtain ⟨o2, ho2⟩ : ∃ ws : List (BitField × Nat), ws =
      [(HWIF_DEC_MODE, 3), (HWIF_DEC_OUT_DIS, 0), (HWIF_FILTERING_DIS, 1),
       (HWIF_JPEG_QTABLES, c.info.amountOfQTables), (HWIF_JPEG_MODE, c.info.yCbCrMode),
       (HWIF_RLC_MODE_E, c.info.rlcMode), (HWIF_JPEG_FILRIGHT_E, c.info.fillRight),
       (HWIF_PJPEG_FILDOWN_E, c.info.fillBottom), (HWIF_JPEG_SLICE_H, c.info.sliceHeight)] ++
        scanRegisters c := ⟨_, rfl⟩
  obtain ⟨r, hr⟩ : ∃ r, r = BitField.writes (asWords (o1 ++ (sizeRegisters c ++ o2))) c.jpegRegs :=
    ⟨_, rfl⟩
  obtain ⟨m, hcoeff, hcount, htables, hselect⟩ := scan_steps (ρ := ρ) h r c.tableMem
  have hheader : (rkSetRegisterFiles fun c =>
      [(HWIF_DEC_TIMEOUT_E, 1)] ++ sizeRegisters c ++
        [(HWIF_DEC_MODE, 3), (HWIF_DEC_OUT_DIS, 0), (HWIF_FILTERING_DIS, 1),
         (HWIF_JPEG_QTABLES, c.info.amountOfQTables), (HWIF_JPEG_MODE, c.info.yCbCrMode),
         (HWIF_RLC_MODE_E, c.info.rlcMode), (HWIF_JPEG_FILRIGHT_E, c.info.fillRight),
         (HWIF_PJPEG_FILDOWN_E, c.info.fillBottom), (HWIF_JPEG_SLICE_H, c.info.sliceHeight)] ++
        scanRegisters c : Decoder ρ Unit) c =
      .next () { c with jpegRegs := r, tableMem := c.tableMem } := by
    rw [hr, ho1, ho2]
    rfl
  have hset : (setTables : Decoder ρ Unit)
      { c with jpegRegs := coeffRegs c r, tableMem := c.tableMem } =
      .next () { c with jpegRegs := counted c (coeffRegs c r), tableMem := m } := by
    have hop : (gets (·.info.operationType) : Decoder ρ OperationType)
        { c with jpegRegs := coeffRegs c r, tableMem := c.tableMem } = .next .progressive
          { c with jpegRegs := coeffRegs c r, tableMem := c.tableMem } :=
      congrArg (fun t => Outcome.next t _) h.progressive
    rw [setTables, bind_next hop]
    exact (bind_next hcount).trans htables
  obtain ⟨s, hs⟩ : ∃ s, s = { c with jpegRegs := scanRegs c r, tableMem := m } := ⟨_, rfl⟩
  rw [← hs] at hselect
  obtain ⟨s1, hs1⟩ : ∃ s1, s1 = { s with
    jpegRegs := BitField.writes (asWords [(HWIF_QTABLE_BASE, s.frame.pTableBase.phyAddr)])
      s.jpegRegs } := ⟨_, rfl⟩
  have hbase : (rkSetRegisterFiles fun c => [(HWIF_QTABLE_BASE, c.frame.pTableBase.phyAddr)] :
      Decoder ρ Unit) s = .next () s1 := by
    rw [hs1]
    rfl
  obtain ⟨s2, hs2⟩ : ∃ s2, s2 = streamStarted s1 := ⟨_, rfl⟩
  have hstream : (jpegDecSetHwStrmParams : Decoder ρ Unit) s1 = .next () s2 := by
    rw [hs2]
    exact jpegDecSetHwStrmParams_eq s1
  have hrestart : restartRegisters HWIF_PJPEG_REST_FREQ s2 =
      restartRegisters HWIF_PJPEG_REST_FREQ c := by
    rw [hs2, hs1, hs]
    rfl
  obtain ⟨s3, hs3⟩ : ∃ s3, s3 = { s2 with
    jpegRegs := BitField.writes (asWords (restartRegisters HWIF_PJPEG_REST_FREQ s2))
      s2.jpegRegs } := ⟨_, rfl⟩
  rw [jpegDecInitHW, bind_next hheader, bind_next hcoeff, bind_next hset, bind_next hselect,
    bind_next hbase, bind_next hstream]
  -- what is written beside the scan overlaps none of its fields
  refine ⟨_, rfl, o1, o2, [(HWIF_QTABLE_BASE, s.frame.pTableBase.phyAddr)] ++ streamRegisters s1,
    outputRegisters s3 ++ [(HWIF_DEC_E, 1)], ?_, ?_, ?_, ?_, ?_⟩
  · rw [ho1]
    exact others_of_fst [HWIF_DEC_TIMEOUT_E] rfl (by decide)
  · rw [ho2]
    exact Others.append (others_of_fst [HWIF_DEC_MODE, HWIF_DEC_OUT_DIS, HWIF_FILTERING_DIS,
      HWIF_JPEG_QTABLES, HWIF_JPEG_MODE, HWIF_RLC_MODE_E, HWIF_JPEG_FILRIGHT_E,
      HWIF_PJPEG_FILDOWN_E, HWIF_JPEG_SLICE_H] rfl (by decide)) (others_scanRegisters c)
  · exact Others.append (others_of_fst [HWIF_QTABLE_BASE] rfl (by decide))
      (others_streamRegisters s1)
  · exact (others_outputRegisters s3).append (others_of_fst [HWIF_DEC_E] rfl (by decide))
  · have hs : s.jpegRegs = scanRegs c r := by rw [hs]
    rw [← hr, ← hrestart, ← hs]
    simp only [asWords_append, BitField.writes_append]
    rw [hs3, hs2, hs1]
    rfl

/-- What the continued start does before it sets the scan: the addresses of the user,
and the position in the stream. -/
def continued (c : JpegDecContainer) : JpegDecContainer :=
  let c := if c.ppInstance = 0 ∧ c.info.userAllocMem = 1 then givenAddress2 (givenAddresses c)
    else c
  streamStarted { c with
    jpegRegs := BitField.writes (asWords [(HWIF_DEC_OUT_BASE, outputBuffer c.info.componentId c)])
      c.jpegRegs
    info.pipeline := 0 }

/-- The scan is the same there. -/
theorem continued_scan (h : ProgressiveState c) : ProgressiveState (continued c) ∧
    scanRegs (continued c) = scanRegs c ∧ sizeRegisters (continued c) = sizeRegisters c ∧
    restartRegisters HWIF_REFER13_BASE (continued c) = restartRegisters HWIF_REFER13_BASE c ∧
    ∃ o, Others o ∧ (continued c).jpegRegs = BitField.writes (asWords o) c.jpegRegs := by
  have hout : ∀ address, Others [(HWIF_DEC_OUT_BASE, address)] := fun _ =>
    others_of_fst [HWIF_DEC_OUT_BASE] rfl (by decide)
  unfold continued
  split
  · refine ⟨⟨h.progressive, h.component, h.mapped⟩, rfl, rfl, rfl, ?_⟩
    exact ⟨_, (hout _).append (others_streamRegisters _), by
      rw [asWords_append, BitField.writes_append]
      rfl⟩
  · refine ⟨⟨h.progressive, h.component, h.mapped⟩, rfl, rfl, rfl, ?_⟩
    exact ⟨_, (hout _).append (others_streamRegisters _), by
      rw [asWords_append, BitField.writes_append]
      rfl⟩

/-- The parameters the continued start sets beside the size. -/
def continuedParameters (c : JpegDecContainer) : List (BitField × Nat) :=
  [(HWIF_PJPEG_WDIV8, c.info.fillX),
   (HWIF_JPEG_FILRIGHT_E, if c.info.fillX ≠ 0 ∨ c.info.fillRight ≠ 0 then 1 else 0),
   (HWIF_PJPEG_HDIV8, c.info.fillY),
   (HWIF_PJPEG_FILDOWN_E, if c.info.fillY ≠ 0 ∨ c.info.fillBottom ≠ 0 then 1 else 0)] ++
  scanRegisters c

/-- What it sets behind the tables, before the restart interval. -/
def continuedTables (c : JpegDecContainer) : List (BitField × Nat) :=
  [(HWIF_QTABLE_BASE, c.frame.pTableBase.phyAddr), (HWIF_JPEG_QTABLES, c.info.amountOfQTables)] ++
  if c.info.sliceMbSetValue ≠ 0 then [(HWIF_JPEG_SLICE_H, c.info.sliceHeight)] else []

theorem others_continuedParameters (c : JpegDecContainer) : Others (continuedParameters c) :=
  Others.append (others_of_fst [HWIF_PJPEG_WDIV8, HWIF_JPEG_FILRIGHT_E, HWIF_PJPEG_HDIV8,
    HWIF_PJPEG_FILDOWN_E] rfl (by decide)) (others_scanRegisters c)

theorem others_continuedTables (c : JpegDecContainer) : Others (continuedTables c) := by
  refine Others.append (others_of_fst [HWIF_QTABLE_BASE, HWIF_JPEG_QTABLES] rfl (by decide)) ?_
  split
  · exact others_of_fst [HWIF_JPEG_SLICE_H] rfl (by decide)
  · exact others_of_fst [] rfl (by decide)

/-- **The continued start.** -/
theorem jpegDecInitHWProgressiveContinue_started (h : ProgressiveState c) :
    ∃ c', (jpegDecInitHWProgressiveContinue : Decoder ρ Unit) c = .next () c' ∧
      StartedWith HWIF_REFER13_BASE c c' := by
  obtain ⟨hstate, hscan, hsize, hrestart, o, ho, hregs⟩ := continued_scan h
  obtain ⟨s, hs⟩ : ∃ s, s = continued c := ⟨_, rfl⟩
  rw [← hs] at hstate hscan hsize hrestart hregs
  -- the state behind the stream, behind the parameters, and behind the tables
  obtain ⟨r, hr⟩ : ∃ r, r = BitField.writes
    (asWords ([(HWIF_JPEG_MODE, s.info.yCbCrMode)] ++ (sizeRegisters s ++ continuedParameters s)))
    s.jpegRegs := ⟨_, rfl⟩
  obtain ⟨m, hcoeff, hcount, htables, hselect⟩ := scan_steps (ρ := ρ) hstate r s.tableMem
  have hparameters : (rkSetRegisterFiles fun c =>
      [(HWIF_JPEG_MODE, c.info.yCbCrMode)] ++ sizeRegisters c ++
        [(HWIF_PJPEG_WDIV8, c.info.fillX),
         (HWIF_JPEG_FILRIGHT_E, if c.info.fillX ≠ 0 ∨ c.info.fillRight ≠ 0 then 1 else 0),
         (HWIF_PJPEG_HDIV8, c.info.fillY),
         (HWIF_PJPEG_FILDOWN_E, if c.info.fillY ≠ 0 ∨ c.info.fillBottom ≠ 0 then 1 else 0)] ++
        scanRegisters c : Decoder ρ Unit) s =
      .next () { s with jpegRegs := r, tableMem := s.tableMem } := by
    rw [hr]
    rfl
  obtain ⟨s', hs'⟩ : ∃ s', s' = { s with jpegRegs := scanRegs s r, tableMem := m } := ⟨_, rfl⟩
  rw [← hs'] at hselect
  -- the steps before the stream: the addresses and the output buffer
  obtain ⟨c1, hc1⟩ : ∃ c1, c1 = if c.ppInstance = 0 ∧ c.info.userAllocMem = 1 then
    givenAddress2 (givenAddresses c) else c := ⟨_, rfl⟩
  obtain ⟨c2, hc2⟩ : ∃ c2, c2 = { c1 with
    jpegRegs := BitField.writes
      (asWords [(HWIF_DEC_OUT_BASE, outputBuffer c1.info.componentId c1)]) c1.jpegRegs } := ⟨_, rfl⟩
  have hgiven : (modify fun c => if c.ppInstance = 0 ∧ c.info.userAllocMem = 1 then
      givenAddress2 (givenAddresses c) else c : Decoder ρ Unit) c = .next () c1 := by
    rw [hc1]
    rfl
  have hout : (rkSetRegisterFiles fun c =>
      [(HWIF_DEC_OUT_BASE, outputBuffer c.info.componentId c)] : Decoder ρ Unit) c1 =
      .next () c2 := by
    rw [hc2]
    rfl
  have hpipeline : (modify fun c => { c with info.pipeline := 0 } : Decoder ρ Unit) c2 =
      .next () { c2 with info.pipeline := 0 } := rfl
  have hstream : (jpegDecSetHwStrmParams : Decoder ρ Unit) { c2 with info.pipeline := 0 } =
      .next () s := by
    rw [hs, continued, ← hc1]
    rw [hc2]
    exact jpegDecSetHwStrmParams_eq _
  rw [jpegDecInitHWProgressiveContinue, bind_next hgiven, bind_next hout, bind_next hpipeline,
    bind_next hstream, bind_next hparameters, bind_next hcoeff, bind_next hcount,
    bind_next htables, bind_next hselect]
  refine ⟨_, rfl, o ++ [(HWIF_JPEG_MODE, s.info.yCbCrMode)], continuedParameters s,
    continuedTables s', [(HWIF_DEC_E, 1)], ?_, others_continuedParameters s,
    others_continuedTables s', others_of_fst [HWIF_DEC_E] rfl (by decide), ?_⟩
  · exact ho.append (others_of_fst [HWIF_JPEG_MODE] rfl (by decide))
  · have hlast : restartRegisters HWIF_REFER13_BASE s' = restartRegisters HWIF_REFER13_BASE s := by
      rw [hs']
      rfl
    have hmode : BitField.writes (asWords (o ++ [(HWIF_JPEG_MODE, s.info.yCbCrMode)] ++
        (sizeRegisters c ++ continuedParameters s))) c.jpegRegs = r := by
      rw [hr, hregs, List.append_assoc, asWords_append o, BitField.writes_append, hsize]
    rw [hmode, ← hscan, ← hrestart, ← hlast]
    simp only [asWords_append, BitField.writes_append]
    rw [hs']
    simp only [continuedTables, asWords_append, BitField.writes_append]

/-! ## Reading the scan -/

/-- The fields of the restart interval. -/
def restartFields : List BitField := [HWIF_SYNC_MARKER_E, HWIF_PJPEG_REST_FREQ, HWIF_REFER13_BASE]

/-- Where the fields of a scan lie in the registers. -/
@[mk_iff]
structure FieldsPlaced : Prop where
  /-- The fields of the scan lie apart from each other and from all others. -/
  scanApart : ∀ f ∈ scanFields, ∀ g ∈ scanFields ++ (otherFields ++ restartFields),
    g = f ∨ g.Disjoint f
  scanFits : ∀ f ∈ scanFields, f.Fits 32
  /-- No field but that of the other standard lies in a word of the counts. -/
  outside : ∀ g ∈ scanFields ++ (otherFields ++ [HWIF_SYNC_MARKER_E, HWIF_PJPEG_REST_FREQ]),
    ¬ (134 ≤ g.reg ∧ g.reg < 147)
  countReg : ∀ f ∈ countFields, 134 ≤ f.reg ∧ f.reg < 147
  countFits : ∀ f ∈ countFields, f.Fits 32
  /-- The first eight fields of the third table fill the word of the other standard's
  field. -/
  thirdWord : ∀ f ∈ countFields, f.reg = 145 ↔ f ∈ HWIF_DC3_CODE_CNT.take 8
  thirdReg : ∀ g ∈ HWIF_DC3_CODE_CNT, 145 ≤ g.reg
  firstReg : ∀ f ∈ HWIF_DC1_CODE_CNT ++ HWIF_AC1_CODE_CNT, f.reg < 145
  dcPairwise : (HWIF_DC1_CODE_CNT ++ (HWIF_DC2_CODE_CNT ++ HWIF_DC3_CODE_CNT)).Pairwise
    BitField.Disjoint
  /-- The field of the restart interval lies apart from all others. -/
  restFreqApart : ∀ g ∈ scanFields ++ (countFields ++ (otherFields ++
    [HWIF_SYNC_MARKER_E, HWIF_REFER13_BASE])), g.Disjoint HWIF_PJPEG_REST_FREQ

instance : Decidable FieldsPlaced := decidable_of_iff _ fieldsPlaced_iff.symm

theorem fieldsPlaced_checked : decide FieldsPlaced = true := by decide +kernel

theorem fieldsPlaced : FieldsPlaced := of_decide_eq_true fieldsPlaced_checked

theorem FieldsPlaced.scanReg (h : FieldsPlaced) : ∀ f ∈ scanFields, ¬ (134 ≤ f.reg ∧ f.reg < 147) :=
  fun f hf => h.outside f (List.mem_append_left _ hf)

/-- The counts lie apart from all other fields. -/
theorem FieldsPlaced.countApart (h : FieldsPlaced) : ∀ f ∈ countFields,
    ∀ g ∈ scanFields ++ (otherFields ++ [HWIF_SYNC_MARKER_E, HWIF_PJPEG_REST_FREQ]),
    g.Disjoint f := by
  intro f hf g hg
  exact Or.inl fun heq => h.outside g hg (heq ▸ h.countReg f hf)

theorem FieldsPlaced.thirdApart (h : FieldsPlaced) :
    ∀ f ∈ HWIF_DC1_CODE_CNT ++ HWIF_AC1_CODE_CNT, ∀ g ∈ HWIF_DC3_CODE_CNT, f.Disjoint g := by
  intro f hf g hg
  have hfirst := h.firstReg f hf
  have hthird := h.thirdReg g hg
  exact Or.inl (by omega)

theorem mem_asWords {ws : List (BitField × Nat)} {p : BitField × BitVec 32}
    (hp : p ∈ asWords ws) : ∃ q ∈ ws, p.1 = q.1 := by
  obtain ⟨q, hq, rfl⟩ := List.mem_map.mp hp
  exact ⟨q, hq, rfl⟩

/-- The fields of the counts of a scan. -/
theorem countRegisters_fst (c : JpegDecContainer) : ∀ p ∈ countRegisters c, p.1 ∈ countFields := by
  have hmem : ∀ (fields : List BitField) (bits : List Nat), ∀ p ∈ counts fields bits,
      p.1 ∈ fields := by
    intro fields bits p hp
    have hfst := List.mem_map_of_mem (f := Prod.fst) hp
    rwa [counts_fst] at hfst
  intro p hp
  unfold countRegisters at hp
  simp only [countFields, List.mem_append]
  split at hp
  · split at hp
    · exact Or.inl (hmem _ _ p hp)
    · exact Or.inr (Or.inr (Or.inr (hmem _ _ p hp)))
  · simp only [List.mem_append] at hp
    rcases hp with hp | hp | hp
    · exact Or.inl (hmem _ _ p hp)
    · exact Or.inr (Or.inl (hmem _ _ p hp))
    · exact Or.inr (Or.inr (Or.inl (hmem _ _ p hp)))

/-- A field in another word does not see the counts. -/
theorem get_counted {f : BitField} (hf : ¬ (134 ≤ f.reg ∧ f.reg < 147)) (c : JpegDecContainer)
    (regs : WordFile 32) : f.get (counted c regs) = f.get regs := by
  have hclear : f.get (clearedCounts regs) = f.get regs := by
    rw [BitField.get, BitField.get, clearedCounts, if_neg hf]
  rw [counted, BitField.get_writes_of_disjoint _ (fun p hp => ?_), hclear]
  obtain ⟨q, hq, hfst⟩ := mem_asWords hp
  refine Or.inl ?_
  rw [hfst]
  intro heq
  exact hf (heq ▸ fieldsPlaced.countReg _ (countRegisters_fst c q hq))

/-- The counts themselves do not depend on what the registers held before. -/
theorem get_counted_of_mem {f : BitField} (hf : f ∈ countFields) (c : JpegDecContainer)
    (regs regs' : WordFile 32) : f.get (counted c regs) = f.get (counted c regs') := by
  have hreg := fieldsPlaced.countReg f hf
  have hword : clearedCounts regs f.reg = clearedCounts regs' f.reg := by
    rw [clearedCounts, clearedCounts, if_pos hreg, if_pos hreg]
  exact congrArg f.take (BitField.writes_reg_congr hword)

theorem mem_sizeRegisters (c : JpegDecContainer) : ∀ p ∈ sizeRegisters c, p.1 ∈ scanFields := by
  have hfields : ∀ f ∈ [HWIF_PIC_MB_W_EXT, HWIF_PIC_MB_WIDTH, HWIF_PIC_MB_H_EXT,
      HWIF_PIC_MB_HEIGHT_P], f ∈ scanFields := by decide
  exact fun p hp => hfields p.1 (List.mem_map_of_mem (f := Prod.fst) hp)

theorem mem_coeffRegisters (c : JpegDecContainer) : ∀ p ∈ coeffRegisters c, p.1 ∈ scanFields := by
  have hfields : ∀ f ∈ [HWIF_PJPEG_COEFF_BUF, HWIF_PJPEG_DCCB_BASE, HWIF_PJPEG_DCCR_BASE],
      f ∈ scanFields := by decide
  intro p hp
  unfold coeffRegisters at hp
  split at hp
  · exact hfields p.1 (List.mem_cons.mpr (Or.inl (by rw [List.mem_singleton.mp hp])))
  · exact hfields p.1 (List.mem_map_of_mem (f := Prod.fst) hp)

theorem mem_selectors (c : JpegDecContainer) :
    ∀ p ∈ acSelectors c ++ dcSelectors c, p.1 ∈ scanFields := by
  have hfields : ∀ f ∈ [HWIF_CR_AC_VLCTABLE, HWIF_CB_AC_VLCTABLE, HWIF_CR_DC_VLCTABLE,
      HWIF_CB_DC_VLCTABLE, HWIF_CR_DC_VLCTABLE3, HWIF_CB_DC_VLCTABLE3], f ∈ scanFields := by decide
  intro p hp
  refine hfields p.1 ?_
  have hfst := List.mem_map_of_mem (f := Prod.fst) hp
  unfold acSelectors dcSelectors at hfst
  split at hfst
  · exact hfst
  · split at hfst
    · exact hfst
    · revert hfst
      simp only [List.cons_append, List.nil_append, List.map_cons, List.map_nil, List.mem_cons,
        List.not_mem_nil, or_false]
      tauto

/-- The registers of the size, of the coefficient buffers and of the selectors. -/
def agreedRegisters (c : JpegDecContainer) : List (BitField × Nat) :=
  sizeRegisters c ++ (coeffRegisters c ++ (acSelectors c ++ dcSelectors c))

theorem filter_scanFields {ws : List (BitField × Nat)} (h : ∀ p ∈ ws, p.1 ∈ scanFields) :
    (asWords ws).filter (fun p => decide (p.1 ∈ scanFields)) = asWords ws := by
  refine List.filter_eq_self.mpr fun p hp => ?_
  obtain ⟨q, hq, hfst⟩ := mem_asWords hp
  rw [hfst]
  exact decide_eq_true (h q hq)

theorem filter_others {ws : List (BitField × Nat)}
    (h : ∀ p ∈ ws, p.1 ∈ otherFields ++ restartFields) :
    (asWords ws).filter (fun p => decide (p.1 ∈ scanFields)) = [] := by
  have hnot : ∀ f ∈ otherFields ++ restartFields, f ∉ scanFields := by decide
  refine List.filter_eq_nil_iff.mpr fun p hp => ?_
  obtain ⟨q, hq, hfst⟩ := mem_asWords hp
  rw [hfst]
  simpa using hnot q.1 (h q hq)

theorem Others.mem (h : Others ws) : ∀ p ∈ ws, p.1 ∈ otherFields ++ restartFields :=
  fun p hp => List.mem_append_left _ (h p hp)

theorem mem_restartRegisters {g : BitField} (hg : g = HWIF_PJPEG_REST_FREQ ∨ g = HWIF_REFER13_BASE)
    (c : JpegDecContainer) : ∀ p ∈ restartRegisters g c, p.1 ∈ restartFields := by
  intro p hp
  unfold restartRegisters at hp
  split at hp
  · simp only [List.mem_cons, List.not_mem_nil, or_false] at hp
    rcases hp with rfl | rfl
    · exact List.mem_cons_self
    · rcases hg with rfl | rfl
      · exact List.mem_cons_of_mem _ List.mem_cons_self
      · exact List.mem_cons_of_mem _ (List.mem_cons_of_mem _ List.mem_cons_self)
  · simp only [List.mem_cons, List.not_mem_nil, or_false] at hp
    rw [hp]
    exact List.mem_cons_self

/-- **The fields of the scan**: a start leaves them as if it had written them alone. -/
theorem StartedWith.get_scanField {g : BitField} {c' : JpegDecContainer} (h : StartedWith g c c')
    (hg : g = HWIF_PJPEG_REST_FREQ ∨ g = HWIF_REFER13_BASE) {f : BitField} (hf : f ∈ scanFields) :
    f.get c'.jpegRegs = f.get (BitField.writes (asWords (agreedRegisters c)) c.jpegRegs) := by
  obtain ⟨o1, o2, o3, o4, h1, h2, h3, h4, hregs⟩ := h
  have hfit := fieldsPlaced.scanFits f hf
  have hout : Others (outDisRegister c) := others_of_fst [HWIF_DEC_OUT_DIS] rfl (by decide)
  have hrestart : ∀ p ∈ restartRegisters g c, p.1 ∈ otherFields ++ restartFields :=
    fun p hp => List.mem_append_right _ (mem_restartRegisters hg c p hp)
  have hapart : ∀ {ws : List (BitField × Nat)},
      (∀ p ∈ ws, p.1 ∈ scanFields ++ (otherFields ++ restartFields)) →
      ∀ p ∈ asWords ws, p.1 = f ∨ p.1.Disjoint f := by
    intro ws hws p hp
    obtain ⟨q, hq, hfst⟩ := mem_asWords hp
    rw [hfst]
    exact fieldsPlaced.scanApart f hf q.1 (hws q hq)
  have hscan : ∀ {ws : List (BitField × Nat)}, (∀ p ∈ ws, p.1 ∈ scanFields) →
      ∀ p ∈ ws, p.1 ∈ scanFields ++ (otherFields ++ restartFields) :=
    fun hws p hp => List.mem_append_left _ (hws p hp)
  have hother : ∀ {ws : List (BitField × Nat)}, (∀ p ∈ ws, p.1 ∈ otherFields ++ restartFields) →
      ∀ p ∈ ws, p.1 ∈ scanFields ++ (otherFields ++ restartFields) :=
    fun hws p hp => List.mem_append_right _ (hws p hp)
  have hboth : ∀ {ws ws' : List (BitField × Nat)},
      (∀ p ∈ ws, p.1 ∈ scanFields ++ (otherFields ++ restartFields)) →
      (∀ p ∈ ws', p.1 ∈ scanFields ++ (otherFields ++ restartFields)) →
      ∀ p ∈ ws ++ ws', p.1 ∈ scanFields ++ (otherFields ++ restartFields) := by
    intro ws ws' hws hws' p hp
    rcases List.mem_append.mp hp with hp | hp
    · exact hws p hp
    · exact hws' p hp
  -- every write of a start but the counts, which lie in other words
  obtain ⟨ws, hws⟩ : ∃ ws, ws = o1 ++ (sizeRegisters c ++ (o2 ++ (coeffRegisters c ++
    (outDisRegister c ++ ((acSelectors c ++ dcSelectors c) ++
      (o3 ++ (restartRegisters g c ++ o4))))))) := ⟨_, rfl⟩
  have hall : ∀ p ∈ ws, p.1 ∈ scanFields ++ (otherFields ++ restartFields) := by
    rw [hws]
    exact hboth (hother h1.mem) (hboth (hscan (mem_sizeRegisters c)) (hboth (hother h2.mem)
      (hboth (hscan (mem_coeffRegisters c)) (hboth (hother hout.mem)
        (hboth (hscan (mem_selectors c)) (hboth (hother h3.mem)
          (hboth (hother hrestart) (hother h4.mem))))))))
  have hskip : f.get c'.jpegRegs = f.get (BitField.writes (asWords ws) c.jpegRegs) := by
    have hlate : ∀ p ∈ asWords ((acSelectors c ++ dcSelectors c) ++
        (o3 ++ (restartRegisters g c ++ o4))), p.1 = f ∨ p.1.Disjoint f :=
      hapart (hboth (hscan (mem_selectors c))
        (hboth (hother h3.mem) (hboth (hother hrestart) (hother h4.mem))))
    have hcounted := BitField.get_writes_congr hfit hlate (get_counted (fieldsPlaced.scanReg f hf) c
      (coeffRegs c (BitField.writes (asWords (o1 ++ (sizeRegisters c ++ o2))) c.jpegRegs)))
    rw [hregs, scanRegs, hws]
    simp only [asWords_append, BitField.writes_append, coeffRegs] at hcounted ⊢
    exact hcounted
  have hfilter : (asWords ws).filter (fun p => decide (p.1 ∈ scanFields)) =
      asWords (agreedRegisters c) := by
    rw [hws, agreedRegisters, asWords_append o1, asWords_append, asWords_append o2, asWords_append,
      asWords_append, asWords_append (acSelectors c ++ dcSelectors c), asWords_append o3,
      asWords_append _ o4]
    simp only [List.filter_append]
    rw [filter_others h1.mem, filter_others h2.mem, filter_others h3.mem, filter_others h4.mem,
      filter_others hout.mem, filter_others hrestart, filter_scanFields (mem_sizeRegisters c),
      filter_scanFields (mem_coeffRegisters c), filter_scanFields (mem_selectors c)]
    simp only [asWords_append, List.nil_append, List.append_nil]
  rw [hskip, BitField.get_writes_filter hfit hf (hapart hall), hfilter]

/-! ## Reading the counts -/

/-- A start leaves the counts as they were set, where the restart interval is written
beside them. -/
theorem StartedWith.get_count {g : BitField} {c' : JpegDecContainer} (h : StartedWith g c c')
    {f : BitField} (hf : f ∈ countFields) (hg : c.frame.Ri = 0 ∨ g.Disjoint f) :
    f.get c'.jpegRegs = f.get (counted c c.jpegRegs) := by
  obtain ⟨o1, o2, o3, o4, -, -, h3, h4, hregs⟩ := h
  have hapart := fieldsPlaced.countApart f hf
  have hother : ∀ {ws : List (BitField × Nat)}, Others ws → ∀ p ∈ ws, p.1.Disjoint f :=
    fun hws p hp => hapart p.1 (List.mem_append_right _ (List.mem_append_left _ (hws p hp)))
  have hsync : HWIF_SYNC_MARKER_E.Disjoint f := hapart _ (by decide)
  have hrestart : ∀ p ∈ restartRegisters g c, p.1.Disjoint f := by
    intro p hp
    unfold restartRegisters at hp
    split at hp
    · rename_i hRi
      simp only [List.mem_cons, List.not_mem_nil, or_false] at hp
      rcases hp with rfl | rfl
      · exact hsync
      · exact hg.resolve_left hRi
    · simp only [List.mem_cons, List.not_mem_nil, or_false] at hp
      rw [hp]
      exact hsync
  -- nothing written behind the counts overlaps the field
  have hlate : ∀ p ∈ asWords ((acSelectors c ++ dcSelectors c) ++
      (o3 ++ (restartRegisters g c ++ o4))), p.1.Disjoint f := by
    intro p hp
    obtain ⟨q, hq, hfst⟩ := mem_asWords hp
    rw [hfst]
    rcases List.mem_append.mp hq with hq | hq
    · exact hapart q.1 (List.mem_append_left _ (mem_selectors c q hq))
    · rcases List.mem_append.mp hq with hq | hq
      · exact hother h3 q hq
      · rcases List.mem_append.mp hq with hq | hq
        · exact hrestart q hq
        · exact hother h4 q hq
  rw [hregs, scanRegs, ← BitField.writes_append, ← asWords_append,
    BitField.get_writes_of_disjoint _ hlate]
  exact get_counted_of_mem hf c _ _

/-- **The continued start replaces a whole word of them** by the restart interval. -/
theorem StartedWith.get_replaced {c' : JpegDecContainer} (h : StartedWith HWIF_REFER13_BASE c c')
    (hRi : c.frame.Ri ≠ 0) {f : BitField} (hf : f ∈ countFields) (hreg : f.reg = 145) :
    f.get c'.jpegRegs = f.take (BitVec.ofNat 32 c.frame.Ri) := by
  obtain ⟨o1, o2, o3, o4, -, -, -, h4, hregs⟩ := h
  have hlast : ∀ p ∈ asWords o4, p.1.Disjoint f := by
    intro p hp
    obtain ⟨q, hq, hfst⟩ := mem_asWords hp
    rw [hfst]
    exact fieldsPlaced.countApart f hf q.1
      (List.mem_append_right _ (List.mem_append_left _ (h4 q hq)))
  rw [hregs, restartRegisters, if_pos hRi]
  simp only [asWords_append, BitField.writes_append]
  rw [BitField.get_writes_of_disjoint _ hlast]
  refine congrArg f.take ?_
  rw [hreg]
  exact BitField.set_whole 145 _ _

/-- The first start sets the restart interval. -/
theorem StartedWith.get_restFreq {c' : JpegDecContainer}
    (h : StartedWith HWIF_PJPEG_REST_FREQ c c') (hRi : c.frame.Ri ≠ 0) :
    HWIF_PJPEG_REST_FREQ.get c'.jpegRegs =
      BitVec.ofNat 32 c.frame.Ri &&& BitField.mask 32 HWIF_PJPEG_REST_FREQ.bits := by
  obtain ⟨o1, o2, o3, o4, -, -, -, h4, hregs⟩ := h
  have hlast : ∀ p ∈ asWords o4, p.1.Disjoint HWIF_PJPEG_REST_FREQ := by
    intro p hp
    obtain ⟨q, hq, hfst⟩ := mem_asWords hp
    rw [hfst]
    exact fieldsPlaced.restFreqApart q.1 (List.mem_append_right _ (List.mem_append_right _
      (List.mem_append_left _ (h4 q hq))))
  rw [hregs, restartRegisters, if_pos hRi]
  simp only [asWords_append, BitField.writes_append]
  rw [BitField.get_writes_of_disjoint _ hlast]
  exact BitField.get_set _ (by decide) _ _

/-- The continued start leaves what stood there. -/
theorem StartedWith.restFreq_kept {c' : JpegDecContainer}
    (h : StartedWith HWIF_REFER13_BASE c c') :
    HWIF_PJPEG_REST_FREQ.get c'.jpegRegs = HWIF_PJPEG_REST_FREQ.get c.jpegRegs := by
  obtain ⟨o1, o2, o3, o4, h1, h2, h3, h4, hregs⟩ := h
  have hscan : ∀ {ws : List (BitField × Nat)}, (∀ p ∈ ws, p.1 ∈ scanFields) →
      ∀ p ∈ asWords ws, p.1.Disjoint HWIF_PJPEG_REST_FREQ := by
    intro ws hws p hp
    obtain ⟨q, hq, hfst⟩ := mem_asWords hp
    rw [hfst]
    exact fieldsPlaced.restFreqApart q.1 (List.mem_append_left _ (hws q hq))
  have hother : ∀ {ws : List (BitField × Nat)}, Others ws →
      ∀ p ∈ asWords ws, p.1.Disjoint HWIF_PJPEG_REST_FREQ := by
    intro ws hws p hp
    obtain ⟨q, hq, hfst⟩ := mem_asWords hp
    rw [hfst]
    exact fieldsPlaced.restFreqApart q.1 (List.mem_append_right _ (List.mem_append_right _
      (List.mem_append_left _ (hws q hq))))
  have hrestart : ∀ p ∈ asWords (restartRegisters HWIF_REFER13_BASE c),
      p.1.Disjoint HWIF_PJPEG_REST_FREQ := by
    have hfields : ∀ f ∈ [HWIF_SYNC_MARKER_E, HWIF_REFER13_BASE],
        f.Disjoint HWIF_PJPEG_REST_FREQ := by decide
    intro p hp
    obtain ⟨q, hq, hfst⟩ := mem_asWords hp
    rw [hfst]
    unfold restartRegisters at hq
    split at hq
    · exact hfields q.1 (List.mem_map_of_mem (f := Prod.fst) hq)
    · exact hfields q.1 (List.mem_cons.mpr (Or.inl (by rw [List.mem_singleton.mp hq])))
  have hout : Others (outDisRegister c) := others_of_fst [HWIF_DEC_OUT_DIS] rfl (by decide)
  have hcounts : ∀ regs : WordFile 32, HWIF_PJPEG_REST_FREQ.get (counted c regs) =
      HWIF_PJPEG_REST_FREQ.get regs := get_counted (by decide) c
  -- each group of writes leaves the field, from the last one back
  rw [hregs, scanRegs]
  simp only [asWords_append, BitField.writes_append, coeffRegs]
  rw [BitField.get_writes_of_disjoint _ (hother h4), BitField.get_writes_of_disjoint _ hrestart,
    BitField.get_writes_of_disjoint _ (hother h3), ← BitField.writes_append, ← asWords_append,
    BitField.get_writes_of_disjoint _ (hscan (mem_selectors c)), hcounts,
    BitField.get_writes_of_disjoint _ (hother hout),
    BitField.get_writes_of_disjoint _ (hscan (mem_coeffRegisters c)),
    BitField.get_writes_of_disjoint _ (hother h2),
    BitField.get_writes_of_disjoint _ (hscan (mem_sizeRegisters c)),
    BitField.get_writes_of_disjoint _ (hother h1)]

/-! ## The counts of the third table -/

/-- The counts a scan has for the third DC table. -/
def thirdCounts (c : JpegDecContainer) : List Nat :=
  if c.info.nonInterleaved ≠ 0 then List.replicate 16 0 else progressiveCounts 2 c

theorem thirdFields_mem : ∀ f ∈ HWIF_DC3_CODE_CNT, f ∈ countFields := fun _ hf =>
  List.mem_append_right _ (List.mem_append_right _ (List.mem_append_left _ hf))

/-- The fields a progressive scan has no counts for are cleared. -/
theorem get_counted_of_apart {f : BitField} (hf : f ∈ countFields) {c : JpegDecContainer}
    (hc : ∀ p ∈ countRegisters c, p.1.Disjoint f) (regs : WordFile 32) :
    (f.get (counted c regs)).toNat = 0 := by
  have hzero : clearedCounts regs f.reg = 0 := by
    rw [clearedCounts, if_pos (fieldsPlaced.countReg f hf)]
  rw [counted, BitField.get_writes_of_disjoint, BitField.get, hzero,
    BitField.toNat_take (fieldsPlaced.countFits f hf)]
  · have hnone : (0 : BitVec 32).toNat / 2 ^ f.pos = 0 := Nat.zero_div _
    rw [hnone, Nat.zero_mod]
  · intro p hp
    obtain ⟨q, hq, hfst⟩ := mem_asWords hp
    rw [hfst]
    exact hc q hq

/-- What the counts of the third table read back. -/
theorem get_thirdCounts (c : JpegDecContainer) (regs : WordFile 32) :
    ∀ p ∈ counts HWIF_DC3_CODE_CNT (thirdCounts c),
      (p.1.get (counted c regs)).toNat = p.2 % 2 ^ p.1.bits := by
  intro p hp
  have hfst : p.1 ∈ HWIF_DC3_CODE_CNT := by
    have hmem := List.mem_map_of_mem (f := Prod.fst) hp
    rwa [counts_fst] at hmem
  have hcount := thirdFields_mem p.1 hfst
  unfold thirdCounts at hp
  by_cases hsingle : c.info.nonInterleaved ≠ 0
  · -- a single component has its counts in the first tables
    have hvalue : p.2 = 0 := by
      rw [if_pos hsingle] at hp
      obtain ⟨q, -, rfl⟩ := List.mem_map.mp hp
      simp only [List.getD_eq_getElem?_getD, List.getElem?_replicate]
      split
      · rfl
      · rfl
    rw [hvalue, Nat.zero_mod]
    refine get_counted_of_apart hcount (fun q hq => fieldsPlaced.thirdApart q.1 ?_ p.1 hfst) regs
    unfold countRegisters at hq
    rw [if_pos hsingle] at hq
    have hmem := List.mem_map_of_mem (f := Prod.fst) hq
    dsimp only at hmem
    split at hmem
    · rw [counts_fst] at hmem
      exact List.mem_append_left _ hmem
    · rw [counts_fst] at hmem
      exact List.mem_append_right _ hmem
  · have hregisters : (p.1, BitVec.ofNat 32 p.2) ∈ asWords (countRegisters c) := by
      refine List.mem_map_of_mem (f := fun q : BitField × Nat => (q.1, BitVec.ofNat 32 q.2)) ?_
      rw [if_neg hsingle] at hp
      unfold countRegisters
      rw [if_neg hsingle]
      exact List.mem_append_right _ (List.mem_append_right _ hp)
    have hpairwise : (asWords (countRegisters c)).Pairwise fun q r => q.1.Disjoint r.1 := by
      rw [← List.pairwise_map (f := Prod.fst) (R := BitField.Disjoint), asWords, List.map_map]
      unfold countRegisters
      rw [if_neg hsingle]
      change (List.map Prod.fst _).Pairwise _
      simp only [List.map_append, counts_fst]
      exact fieldsPlaced.dcPairwise
    have hfits := fieldsPlaced.countFits p.1 hcount
    have hbits : p.1.bits ≤ 32 := Nat.le_trans (Nat.le_add_left _ _) hfits
    rw [counted, BitField.get_writes_of_mem hpairwise hfits hregisters,
      BitField.toNat_and_mask _ _ hbits, BitVec.toNat_ofNat,
      Nat.mod_mod_of_dvd _ (Nat.pow_dvd_pow 2 hbits)]

/-! ## The same scan -/

/-- The restart interval of the scan is in the registers before its continued start,
and reads the same as the counts it takes the place of; or there is none. -/
def RestartKept (c : JpegDecContainer) : Prop :=
  c.frame.Ri = 0 ∨
    rkGetRegisterFile HWIF_PJPEG_REST_FREQ c = c.frame.Ri % 2 ^ 16 ∧
    ∀ p ∈ counts (HWIF_DC3_CODE_CNT.take 8) (thirdCounts c),
      p.2 % 2 ^ p.1.bits = c.frame.Ri / 2 ^ p.1.pos % 2 ^ p.1.bits

/-- **The second state has the scan of the first**, as far as the registers say, both
set for the state `c`. -/
structure SameScan (c c1 c2 : JpegDecContainer) : Prop where
  /-- The size of the picture, the coefficient buffers, the selectors and the counts. -/
  fields : ∀ f ∈ scanFields ++ countFields, rkGetRegisterFile f c2 = rkGetRegisterFile f c1
  restart : c.frame.Ri ≠ 0 →
    rkGetRegisterFile HWIF_PJPEG_REST_FREQ c2 = rkGetRegisterFile HWIF_PJPEG_REST_FREQ c1
  /-- No write behind the one of the counts changes them. -/
  kept : ∀ c0, (jpegDecWriteLenBitsProgressive : Decoder JpegDecRet Unit) c = .next () c0 →
    ∀ f ∈ countFields, rkGetRegisterFile f c1 = rkGetRegisterFile f c0 ∧
      rkGetRegisterFile f c2 = rkGetRegisterFile f c0

theorem counts_take (fields : List BitField) (bits : List Nat) (n : Nat) :
    ∀ p ∈ counts (fields.take n) bits, p ∈ counts fields bits := by
  intro p hp
  have hsplit : fields.zipIdx =
      (fields.take n).zipIdx ++ (fields.drop n).zipIdx (fields.take n).length := by
    rw [← Nat.zero_add (fields.take n).length, ← List.zipIdx_append, List.take_append_drop]
  rw [counts, hsplit, List.map_append]
  exact List.mem_append_left _ hp

/-- The counts of the third word read the restart interval after a continued start. -/
theorem StartedWith.count_eq_iff {c' : JpegDecContainer} (h : StartedWith HWIF_REFER13_BASE c c')
    (hRi : c.frame.Ri ≠ 0) {p : BitField × Nat}
    (hp : p ∈ counts (HWIF_DC3_CODE_CNT.take 8) (thirdCounts c)) :
    p.1.get c'.jpegRegs = p.1.get (counted c c.jpegRegs) ↔
      p.2 % 2 ^ p.1.bits = c.frame.Ri / 2 ^ p.1.pos % 2 ^ p.1.bits := by
  have hfst : p.1 ∈ HWIF_DC3_CODE_CNT.take 8 := by
    have hmem := List.mem_map_of_mem (f := Prod.fst) hp
    rwa [counts_fst] at hmem
  have hcount := thirdFields_mem p.1 (List.mem_of_mem_take hfst)
  have hreg := (fieldsPlaced.thirdWord p.1 hcount).mpr hfst
  have hfits := fieldsPlaced.countFits p.1 hcount
  have hwhole : BitVec.toNat (BitVec.ofNat 32 c.frame.Ri) / 2 ^ p.1.pos % 2 ^ p.1.bits =
      c.frame.Ri / 2 ^ p.1.pos % 2 ^ p.1.bits := by
    have hsplit : 2 ^ 32 = 2 ^ p.1.pos * 2 ^ (32 - p.1.pos) := by
      rw [← Nat.pow_add]
      unfold BitField.Fits at hfits
      congr 1
      omega
    have hle : p.1.bits ≤ 32 - p.1.pos := by
      unfold BitField.Fits at hfits
      omega
    rw [BitVec.toNat_ofNat, hsplit, Nat.mod_mul_right_div_self,
      Nat.mod_mod_of_dvd _ (Nat.pow_dvd_pow 2 hle)]
  rw [h.get_replaced hRi hcount hreg, ← BitVec.toNat_inj, BitField.toNat_take hfits, hwhole,
    get_thirdCounts c c.jpegRegs p (counts_take _ _ 8 p hp)]
  exact eq_comm

/-- **The two starts of a scan** set the same where no restart interval is lost and none
falls on the counts. -/
theorem sameScan_iff (h : ProgressiveState c) : ∃ c1 c2,
    (jpegDecInitHW : Decoder JpegDecRet Unit) c = .next () c1 ∧
    (jpegDecInitHWProgressiveContinue : Decoder JpegDecRet Unit) c = .next () c2 ∧
    (SameScan c c1 c2 ↔ RestartKept c) := by
  obtain ⟨c1, hrun1, h1⟩ := jpegDecInitHW_started (ρ := JpegDecRet) h
  obtain ⟨c2, hrun2, h2⟩ := jpegDecInitHWProgressiveContinue_started (ρ := JpegDecRet) h
  refine ⟨c1, c2, hrun1, hrun2, ?_⟩
  have hlen := jpegDecWriteLenBitsProgressive_eq (ρ := JpegDecRet) c
  -- the first start writes the restart interval where no count is
  have hfirst : ∀ f ∈ countFields, f.get c1.jpegRegs = f.get (counted c c.jpegRegs) := by
    intro f hf
    refine h1.get_count hf (Or.inr (fieldsPlaced.countApart f hf _ ?_))
    exact List.mem_append_right _ (List.mem_append_right _ (by decide))
  have hwritten : c.frame.Ri ≠ 0 →
      rkGetRegisterFile HWIF_PJPEG_REST_FREQ c1 = c.frame.Ri % 2 ^ 16 := by
    intro hRi
    rw [rkGetRegisterFile, h1.get_restFreq hRi,
      BitField.toNat_and_mask _ _ (by decide : HWIF_PJPEG_REST_FREQ.bits ≤ 32),
      BitVec.toNat_ofNat]
    exact Nat.mod_mod_of_dvd _ (by decide)
  have hleft : rkGetRegisterFile HWIF_PJPEG_REST_FREQ c2 =
      rkGetRegisterFile HWIF_PJPEG_REST_FREQ c := congrArg BitVec.toNat h2.restFreq_kept
  constructor
  · intro hsame
    refine or_iff_not_imp_left.mpr fun hRi => ⟨?_, fun p hp => ?_⟩
    · rw [← hleft, hsame.restart hRi, hwritten hRi]
    · have hfst : p.1 ∈ HWIF_DC3_CODE_CNT.take 8 := by
        have hmem := List.mem_map_of_mem (f := Prod.fst) hp
        rwa [counts_fst] at hmem
      have hkept := (hsame.kept _ hlen p.1 (thirdFields_mem p.1 (List.mem_of_mem_take hfst))).2
      exact (h2.count_eq_iff hRi hp).mp (BitVec.toNat_inj.mp hkept)
  · intro hkept
    have hsecond : ∀ f ∈ countFields, f.get c2.jpegRegs = f.get (counted c c.jpegRegs) := by
      intro f hf
      by_cases hRi : c.frame.Ri = 0
      · exact h2.get_count hf (Or.inl hRi)
      · -- the word of the counts that the restart interval is written over
        by_cases hreg : f.reg = 145
        · have hthird := (fieldsPlaced.thirdWord f hf).mp hreg
          rw [← counts_fst (HWIF_DC3_CODE_CNT.take 8) (thirdCounts c)] at hthird
          obtain ⟨p, hp, rfl⟩ := List.mem_map.mp hthird
          exact (h2.count_eq_iff hRi hp).mpr ((hkept.resolve_left hRi).2 p hp)
        · exact h2.get_count hf (Or.inr (Or.inl fun heq => hreg heq.symm))
    refine ⟨fun f hf => ?_, fun hRi => ?_, fun c0 hc0 f hf => ?_⟩
    · refine congrArg BitVec.toNat ?_
      rcases List.mem_append.mp hf with hf | hf
      · rw [h1.get_scanField (Or.inl rfl) hf, h2.get_scanField (Or.inr rfl) hf]
      · rw [hfirst f hf, hsecond f hf]
    · rw [hleft, hwritten hRi]
      exact (hkept.resolve_left hRi).1
    · rw [hlen] at hc0
      cases hc0
      exact ⟨congrArg BitVec.toNat (hfirst f hf), congrArg BitVec.toNat (hsecond f hf)⟩

/-! ## A scan with restarts -/

/-- An interleaved DC scan with the default tables. -/
def dcScanOf (Ri : Nat) : JpegDecContainer where
  vlc := defaultTables {}
  frame := { Ri := Ri, pTableBase := ⟨576, 4096, 5⟩ }
  info := { operationType := JPEGDEC_PROGRESSIVE }

theorem progressiveState_dcScanOf (Ri : Nat) : ProgressiveState (dcScanOf Ri) :=
  ⟨rfl, fun h => absurd rfl h, (by decide : 4096 ≠ 0 ∧ 4 * 143 + 4 ≤ 576)⟩

/-- One with a restart interval that is in the registers, and reads the same as the counts of its
table. -/
def restartedScan : JpegDecContainer :=
  { dcScanOf 0x1210 with
    vlc := (defaultTables {}).set
      (VlcTable.define {} ([0, 1, 2, 1] ++ List.replicate 12 0) [0, 1, 2, 3]) .dc 0
    jpegRegs := fun i => if i = 123 then 0x1210 else 0 }

theorem sameScan_iff_restarted : ∃ c1 c2,
    (jpegDecInitHW : Decoder JpegDecRet Unit) restartedScan = .next () c1 ∧
    (jpegDecInitHWProgressiveContinue : Decoder JpegDecRet Unit) restartedScan = .next () c2 ∧
    SameScan restartedScan c1 c2 := by
  have hstate : ProgressiveState restartedScan :=
    ⟨rfl, fun h => absurd rfl h, (by decide : 4096 ≠ 0 ∧ 4 * 143 + 4 ≤ 576)⟩
  have hkept : RestartKept restartedScan := Or.inr (by decide +kernel)
  obtain ⟨c1, c2, hrun1, hrun2, hiff⟩ := sameScan_iff hstate
  exact ⟨c1, c2, hrun1, hrun2, hiff.mpr hkept⟩

/-- **A restart interval of four blocks** is lost. -/
theorem not_sameScan : ProgressiveState (dcScanOf 4) ∧
    ¬ ∃ c1 c2, (jpegDecInitHW : Decoder JpegDecRet Unit) (dcScanOf 4) = .next () c1 ∧
      (jpegDecInitHWProgressiveContinue : Decoder JpegDecRet Unit) (dcScanOf 4) = .next () c2 ∧
      SameScan (dcScanOf 4) c1 c2 := by
  refine ⟨progressiveState_dcScanOf 4, ?_⟩
  rintro ⟨c1, c2, hrun1, hrun2, hsame⟩
  obtain ⟨c1', h1, hstart1⟩ := jpegDecInitHW_started (ρ := JpegDecRet) (progressiveState_dcScanOf 4)
  obtain ⟨c2', h2, hstart2⟩ :=
    jpegDecInitHWProgressiveContinue_started (ρ := JpegDecRet) (progressiveState_dcScanOf 4)
  rw [hrun1] at h1
  rw [hrun2] at h2
  cases h1
  cases h2
  have hRi : (dcScanOf 4).frame.Ri ≠ 0 := by decide
  have heq := BitVec.toNat_inj.mp (hsame.restart hRi)
  rw [hstart2.restFreq_kept, hstart1.get_restFreq hRi] at heq
  exact absurd heq (by decide)

end Jpeg

end Rk3399
