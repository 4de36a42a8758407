import Rk3399.Jpeg.Helpers.HuffmanRun
import Rk3399.Jpeg.Helpers.Start
import Rk3399.Jpeg.Helpers.StandingRun
import Rk3399.Jpeg.Model.Session
/-!
# A start of a slice

What a start of the hardware, its answer and the call behind it do to the part
of an instance that the height of a slice is computed from: a start computes
the height, hands it to the hardware and counts, an answer that a slice is
ready lets the caller in, and the next call comes back to the next start.
-/

namespace Rk3399

namespace Jpeg

open Prog

variable {ρ : Type}

/-! ## The part of an instance -/

/-- What the slices of a baseline picture depend on. -/
structure SlicePart where
  ppInstance : Nat
  usePipeline : Nat
  headerReady : Nat
  inputBufferEmpty : Nat
  progressiveScanReady : Nat
  nonInterleavedScanReady : Nat
  operationType : OperationType
  sliceMbSetValue : Nat
  Y : Nat
  SliceReadyForPause : Nat
  SliceCount : Nat
  sliceHeight : Nat

/-- The part of an instance. -/
def slicePart (c : JpegDecContainer) : SlicePart where
  ppInstance := c.ppInstance
  usePipeline := c.usePipeline
  headerReady := c.image.headerReady
  inputBufferEmpty := c.info.inputBufferEmpty
  progressiveScanReady := c.info.progressiveScanReady
  nonInterleavedScanReady := c.info.nonInterleavedScanReady
  operationType := c.info.operationType
  sliceMbSetValue := c.info.sliceMbSetValue
  Y := c.info.Y
  SliceReadyForPause := c.info.SliceReadyForPause
  SliceCount := c.info.SliceCount
  sliceHeight := c.info.sliceHeight

/-- **An instance that decodes a baseline picture slice by slice**, `S` macroblock rows at a
time, without a post-processor. -/
structure Slicing (S : Nat) (p : SlicePart) : Prop where
  ppInstance : p.ppInstance = 0
  usePipeline : p.usePipeline = 0
  headerReady : p.headerReady ≠ 0
  inputBufferEmpty : p.inputBufferEmpty = 0
  progressiveScanReady : p.progressiveScanReady = 0
  nonInterleavedScanReady : p.nonInterleavedScanReady = 0
  operationType : p.operationType = JPEGDEC_BASELINE
  sliceMbSetValue : p.sliceMbSetValue = S

/-- The height of the next slice. -/
def SlicePart.nextHeight (p : SlicePart) : Nat :=
  if p.Y < u32 (u32 (p.SliceCount + 1) * u32 (p.sliceMbSetValue * 16)) then
    sub32 (p.Y / 16) (u32 (p.SliceCount * p.sliceHeight))
  else p.sliceMbSetValue

/-- The part behind a start. -/
def SlicePart.started (p : SlicePart) : SlicePart :=
  { p with sliceHeight := p.nextHeight, SliceCount := u32 (p.SliceCount + 1) }

/-- The part behind an answer that a slice is ready. -/
def SlicePart.paused (p : SlicePart) : SlicePart := { p with SliceReadyForPause := 1 }

section slicing

variable {S : Nat} {p : SlicePart}

/-- The counters are of no matter to how a picture is decoded. -/
theorem Slicing.counted (h : Slicing S p) (pause count height : Nat) :
    Slicing S { p with SliceReadyForPause := pause, SliceCount := count, sliceHeight := height } :=
  ⟨h.ppInstance, h.usePipeline, h.headerReady, h.inputBufferEmpty, h.progressiveScanReady,
    h.nonInterleavedScanReady, h.operationType, h.sliceMbSetValue⟩

theorem Slicing.started (h : Slicing S p) : Slicing S p.started := h.counted _ _ _

theorem Slicing.paused (h : Slicing S p) : Slicing S p.paused := h.counted _ _ _

end slicing

/-! ## The register of the height -/

section register

/-- A word that no write goes to keeps its value. -/
theorem writes_apart {ws : List (BitField × BitVec 32)} {reg : Nat} (h : ∀ p ∈ ws, p.1.reg ≠ reg) :
    ∀ file : WordFile 32, BitField.writes ws file reg = file reg := by
  induction ws with
  | nil => exact fun _ => rfl
  | cons p ws ih =>
    intro file
    rw [BitField.writes_cons, ih (fun q hq => h q (List.mem_cons_of_mem p hq)), BitField.set,
      Function.update_of_ne (h p List.mem_cons_self).symm]

/-- No write goes to the word of the height. -/
def Apart (ws : List (BitField × Nat)) : Prop := ∀ p ∈ ws, p.1.reg ≠ HWIF_JPEG_SLICE_H.reg

theorem apart_of_fst {ws : List (BitField × Nat)} (fields : List BitField)
    (hws : ws.map Prod.fst = fields) (h : ∀ f ∈ fields, f.reg ≠ HWIF_JPEG_SLICE_H.reg) :
    Apart ws := by
  intro p hp
  exact h p.1 (hws ▸ List.mem_map_of_mem hp)

theorem Apart.append {ws ws' : List (BitField × Nat)} (h : Apart ws) (h' : Apart ws') :
    Apart (ws ++ ws') := fun p hp => (List.mem_append.mp hp).elim (h p) (h' p)

theorem apart_counts {fields : List BitField}
    (h : ∀ f ∈ fields, f.reg ≠ HWIF_JPEG_SLICE_H.reg) (bits : List Nat) :
    Apart (counts fields bits) := by
  intro p hp
  obtain ⟨q, hq, rfl⟩ := List.mem_map.mp hp
  exact h q.1 (List.fst_mem_of_mem_zipIdx hq)

theorem apart_outputRegisters (c : JpegDecContainer) : Apart (outputRegisters c) := by
  unfold outputRegisters
  split
  · refine Apart.append (apart_of_fst [HWIF_DEC_OUT_DIS, HWIF_DEC_OUT_BASE] rfl (by decide)) ?_
    split
    · exact apart_of_fst [HWIF_JPG_CH_OUT_BASE] rfl (by decide)
    · exact nofun
  split
  · refine List.forall_mem_cons.mpr
      ⟨show HWIF_DEC_OUT_BASE.reg ≠ HWIF_JPEG_SLICE_H.reg by decide, ?_⟩
    split
    · exact apart_of_fst [HWIF_JPG_CH_OUT_BASE] rfl (by decide)
    · exact nofun
  split
  · exact apart_of_fst [HWIF_DEC_OUT_BASE] rfl (by decide)
  split
  · exact apart_of_fst [HWIF_DEC_OUT_BASE] rfl (by decide)
  · exact apart_of_fst [HWIF_DEC_OUT_BASE] rfl (by decide)

theorem apart_restartRegisters (c : JpegDecContainer) :
    Apart (restartRegisters HWIF_PJPEG_REST_FREQ c) := by
  unfold restartRegisters
  split
  · exact apart_of_fst [HWIF_SYNC_MARKER_E, HWIF_PJPEG_REST_FREQ] rfl (by decide)
  · exact apart_of_fst [HWIF_SYNC_MARKER_E] rfl (by decide)

theorem apart_dcSelectors (c : JpegDecContainer) : Apart (dcSelectors c) := by
  unfold dcSelectors
  split
  · exact apart_of_fst [HWIF_CR_DC_VLCTABLE, HWIF_CB_DC_VLCTABLE, HWIF_CR_DC_VLCTABLE3,
      HWIF_CB_DC_VLCTABLE3] rfl (by decide)
  split
  · exact apart_of_fst [HWIF_CR_DC_VLCTABLE, HWIF_CB_DC_VLCTABLE, HWIF_CR_DC_VLCTABLE3,
      HWIF_CB_DC_VLCTABLE3] rfl (by decide)
  · exact apart_of_fst [HWIF_CR_DC_VLCTABLE, HWIF_CR_DC_VLCTABLE3, HWIF_CB_DC_VLCTABLE,
      HWIF_CB_DC_VLCTABLE3] rfl (by decide)

/-- A baseline instance with `w` in the word of the height. -/
def HeightWord (w : BitVec 32) (c : JpegDecContainer) : Prop :=
  c.info.operationType = JPEGDEC_BASELINE ∧ c.jpegRegs HWIF_JPEG_SLICE_H.reg = w

/-- `x` leaves the word of the height alone. -/
abbrev KeepsHeight {α : Type} (w : BitVec 32) (x : Decoder ρ α) : Prop :=
  Keeps anyEnd (fun _ => True) (HeightWord w) x

variable {w : BitVec 32}

theorem keepsHeight_writes {ws : JpegDecContainer → List (BitField × Nat)}
    (h : ∀ c, Apart (ws c)) : KeepsHeight w (rkSetRegisterFiles ws : Decoder ρ Unit) := by
  refine keeps_modify fun c hc => ⟨hc.1, ?_⟩
  have hapart : ∀ p ∈ asWords (ws c), p.1.reg ≠ HWIF_JPEG_SLICE_H.reg := by
    intro p hp
    obtain ⟨q, hq, rfl⟩ := List.mem_map.mp hp
    exact h c q hq
  exact (writes_apart hapart c.jpegRegs).trans hc.2

/-- Writes to the same fields of every instance. -/
theorem keepsHeight_fields {ws : JpegDecContainer → List (BitField × Nat)} (fields : List BitField)
    (hws : ∀ c, (ws c).map Prod.fst = fields)
    (h : ∀ f ∈ fields, f.reg ≠ HWIF_JPEG_SLICE_H.reg) :
    KeepsHeight w (rkSetRegisterFiles ws : Decoder ρ Unit) :=
  keepsHeight_writes fun c => apart_of_fst fields (hws c) h

theorem keepsHeight_setTables : KeepsHeight w (setTables : Decoder ρ Unit) := by
  refine keeps_bind_gets fun c hc => ?_
  rw [if_pos hc.1]
  have hcounts : KeepsHeight w (jpegDecWriteLenBits : Decoder ρ Unit) := by
    refine keeps_bind (keepsHeight_writes fun c => apart_counts (by decide) _) fun _ => ?_
    refine keeps_bind (keepsHeight_writes fun c => apart_counts (by decide) _) fun _ => ?_
    refine keeps_bind (keepsHeight_writes fun c => apart_counts (by decide) _) fun _ => ?_
    exact keepsHeight_writes fun c => apart_counts (by decide) _
  refine keeps_bind hcounts fun _ => ?_
  have htables : Frame anyFault (fun c : JpegDecContainer =>
      (c.info.operationType, c.jpegRegs HWIF_JPEG_SLICE_H.reg))
      (jpegDecWriteTables : Decoder ρ Unit) := frame_jpegDecWriteTables fun _ _ => rfl
  exact (Frame.keeps htables fun v => v.1 = JPEGDEC_BASELINE ∧ v.2 = w).mono (fun _ _ => trivial)
    fun _ _ _ => trivial

theorem keepsHeight_jpegDecSetHwStrmParams :
    KeepsHeight w (jpegDecSetHwStrmParams : Decoder ρ Unit) := by
  refine keeps_bind (keepsHeight_fields [HWIF_RLC_VLC_BASE] (fun _ => rfl) (by decide)) fun _ => ?_
  refine keeps_bind (keeps_modify fun _ h => h) fun _ => ?_
  refine keeps_bind (keepsHeight_fields [HWIF_STRM_START_BIT] (fun _ => rfl) (by decide))
    fun _ => ?_
  refine keeps_bind (keeps_modify fun _ h => h) fun _ => ?_
  refine keeps_bind (keepsHeight_fields [HWIF_STREAM_LEN] (fun _ => rfl) (by decide)) fun _ => ?_
  refine keeps_bind (keeps_modify fun _ h => h) fun _ => ?_
  exact keepsHeight_fields [HWIF_JPEG_STREAM_ALL] (fun _ => rfl) (by decide)

/-- Behind the first registers, a baseline start leaves the height alone. -/
theorem keepsHeight_behind : KeepsHeight w (do
    setCoeffBuffers
    setTables
    jpegDecChromaTableSelectors
    rkSetRegisterFiles fun c => [(HWIF_QTABLE_BASE, c.frame.pTableBase.phyAddr)]
    jpegDecSetHwStrmParams
    rkSetRegisterFiles (restartRegisters HWIF_PJPEG_REST_FREQ)
    setOutput
    modify fun c => { c with info.sliceStartCount := 1, asicRunning := 1 }
    rkSetRegisterFiles fun _ => [(HWIF_DEC_E, 1)] : Decoder ρ Unit) := by
  refine keeps_bind (keeps_bind_gets fun c hc => ?_) fun _ => keeps_bind keepsHeight_setTables ?_
  · rw [hc.1]
    exact keeps_pure _
  · refine fun _ => keeps_bind (keeps_bind ?_ fun _ => keepsHeight_writes apart_dcSelectors) ?_
    · exact keepsHeight_fields [HWIF_CR_AC_VLCTABLE, HWIF_CB_AC_VLCTABLE] (fun _ => rfl) (by decide)
    refine fun _ => keeps_bind (keepsHeight_fields [HWIF_QTABLE_BASE] (fun _ => rfl) (by decide)) ?_
    refine fun _ => keeps_bind keepsHeight_jpegDecSetHwStrmParams fun _ => ?_
    refine keeps_bind (keepsHeight_writes apart_restartRegisters) fun _ => ?_
    refine keeps_bind ?_ fun _ => keeps_bind (keeps_modify fun _ h => h) fun _ => ?_
    · exact keeps_bind (keepsHeight_writes apart_outputRegisters) fun _ => keeps_modify fun _ h => h
    · exact keepsHeight_fields [HWIF_DEC_E] (fun _ => rfl) (by decide)

/-- The registers that a first start sets at once. -/
def firstRegisters (c : JpegDecContainer) : List (BitField × Nat) :=
  [(HWIF_DEC_TIMEOUT_E, 1)] ++ sizeRegisters c ++
    [(HWIF_DEC_MODE, 3), (HWIF_DEC_OUT_DIS, 0), (HWIF_FILTERING_DIS, 1),
     (HWIF_JPEG_QTABLES, c.info.amountOfQTables), (HWIF_JPEG_MODE, c.info.yCbCrMode),
     (HWIF_RLC_MODE_E, c.info.rlcMode), (HWIF_JPEG_FILRIGHT_E, c.info.fillRight),
     (HWIF_PJPEG_FILDOWN_E, c.info.fillBottom), (HWIF_JPEG_SLICE_H, c.info.sliceHeight)] ++
    scanRegisters c

theorem pairwise_firstRegisters (c : JpegDecContainer) :
    (firstRegisters c).Pairwise fun p q => p.1.Disjoint q.1 := by
  refine List.pairwise_map.mp ?_
  show [HWIF_DEC_TIMEOUT_E, HWIF_PIC_MB_W_EXT, HWIF_PIC_MB_WIDTH, HWIF_PIC_MB_H_EXT,
    HWIF_PIC_MB_HEIGHT_P, HWIF_DEC_MODE, HWIF_DEC_OUT_DIS, HWIF_FILTERING_DIS, HWIF_JPEG_QTABLES,
    HWIF_JPEG_MODE, HWIF_RLC_MODE_E, HWIF_JPEG_FILRIGHT_E, HWIF_PJPEG_FILDOWN_E,
    HWIF_JPEG_SLICE_H, HWIF_PJPEG_E, HWIF_PJPEG_SS, HWIF_PJPEG_SE, HWIF_PJPEG_AH,
    HWIF_PJPEG_AL].Pairwise BitField.Disjoint
  decide

/-- **The first start** hands the height to the hardware. -/
theorem height_jpegDecInitHW {c : JpegDecContainer}
    (hbase : c.info.operationType = JPEGDEC_BASELINE) :
    wp (jpegDecInitHW : Decoder ρ Unit)
      (fun _ c' => rkGetRegisterFile HWIF_JPEG_SLICE_H c' = c.info.sliceHeight % 2 ^ 8)
      (fun _ _ => True) (fun _ _ => True) c := by
  unfold jpegDecInitHW
  rw [wp_bind, rkSetRegisterFiles, wp_modify]
  refine wp_mono (keepsHeight_behind.run _ ⟨hbase, rfl⟩) ?_ (fun _ _ h => h) fun _ _ h => h
  rintro - c' ⟨-, hword⟩
  have hget : rkGetRegisterFile HWIF_JPEG_SLICE_H c' = rkGetRegisterFile HWIF_JPEG_SLICE_H
      { c with jpegRegs := BitField.writes (asWords (firstRegisters c)) c.jpegRegs } :=
    congrArg (fun w => (HWIF_JPEG_SLICE_H.take w).toNat) hword
  rw [hget]
  refine rkGetRegisterFile_writes (pairwise_firstRegisters c) (by decide) ?_ rfl
  simp [firstRegisters]

/-- **A restart** hands the height to the hardware. -/
theorem height_jpegDecInitHWContinue (c : JpegDecContainer) :
    wp (jpegDecInitHWContinue : Decoder ρ Unit)
      (fun _ c' => rkGetRegisterFile HWIF_JPEG_SLICE_H c' = c'.info.sliceHeight % 2 ^ 8)
      (fun _ _ => True) (fun _ _ => True) c := by
  unfold jpegDecInitHWContinue
  refine wp_seq (wp_any _ _) fun _ d _ => wp_seq (wp_any _ _) fun _ d _ => ?_
  refine wp_seq (wp_any _ _) fun _ d _ => wp_seq (wp_any _ _) fun _ d _ => ?_
  refine wp_seq (wp_any _ _) fun _ d _ => ?_
  rw [rkSetRegisterFiles, wp_modify]
  have hone : [(HWIF_JPEG_SLICE_H, d.info.sliceHeight)].Pairwise
      fun p q => p.1.Disjoint q.1 := List.pairwise_singleton _ _
  exact rkGetRegisterFile_writes hone (by decide) List.mem_cons_self rfl

end register

/-! ## Starts -/

section starts

variable {S : Nat}

theorem frame_slicePart_continue :
    Frame NoTable slicePart (jpegDecInitHWContinue : Decoder ρ Unit) := by
  have hwrites : ∀ ws, Frame NoTable slicePart (rkSetRegisterFiles ws : Decoder ρ Unit) :=
    fun ws => frame_modify fun _ => rfl
  refine frame_bind (frame_modify fun _ => rfl) fun _ => ?_
  refine frame_bind (frame_modify fun c => ?_) fun _ => ?_
  · split <;> rfl
  refine frame_bind (hwrites _) fun _ => frame_bind (frame_whenever _ ?_) fun _ => ?_
  · exact frame_bind (hwrites _) fun _ => frame_modify fun _ => rfl
  refine frame_bind (frame_whenever _ ?_) fun _ => hwrites _
  refine frame_bind (frame_modify fun _ => rfl) fun _ => ?_
  exact frame_bind (hwrites _) fun _ => frame_modify fun _ => rfl

/-- The start or restart of a baseline picture. -/
theorem wp_startOrContinue {c : JpegDecContainer} (h : Slicing S (slicePart c)) :
    wp startOrContinue (fun _ c' => slicePart c' = slicePart c ∧
      rkGetRegisterFile HWIF_JPEG_SLICE_H c' = c.info.sliceHeight % 2 ^ 8) (fun _ _ => True)
      (fun _ _ => True) c := by
  unfold startOrContinue
  rw [wp_bind, wp_gets, wp_ite]
  split
  · have hready : c.info.progressiveScanReady = 0 := h.progressiveScanReady
    rw [wp_bind, wp_gets, wp_ite, if_pos (by simp [hready]), wp_bind]
    have hpart : wp (jpegDecInitHW : Decoder JpegDecRet Unit)
        (fun _ c' => slicePart c' = slicePart c) (fun _ _ => True) (fun _ _ => True) c :=
      wp_mono ((frame_jpegDecInitHW.part slicePart (slicePart c)).run c rfl) (fun _ _ h => h)
        (fun _ _ _ => trivial) fun _ _ _ => trivial
    refine wp_mono (wp_and hpart (height_jpegDecInitHW h.operationType)) ?_ (fun _ _ _ => trivial)
      fun _ _ _ => trivial
    rintro - c' ⟨hpart', hheight⟩
    refine ⟨Eq.trans ?_ hpart', hheight⟩
    have hnon : c'.info.nonInterleavedScanReady = 0 :=
      (congrArg SlicePart.nonInterleavedScanReady hpart').trans h.nonInterleavedScanReady
    show { slicePart c' with nonInterleavedScanReady := 0 } = slicePart c'
    rw [← hnon]
    rfl
  · have hpart : wp (jpegDecInitHWContinue : Decoder JpegDecRet Unit)
        (fun _ c' => slicePart c' = slicePart c) (fun _ _ => True) (fun _ _ => True) c :=
      wp_mono ((frame_slicePart_continue (slicePart c)).run c rfl) (fun _ _ h => h)
        (fun _ _ _ => trivial) fun _ _ _ => trivial
    refine wp_mono (wp_and hpart (height_jpegDecInitHWContinue c)) ?_ (fun _ _ _ => trivial)
      fun _ _ _ => trivial
    rintro - c' ⟨hpart', hheight⟩
    refine ⟨hpart', hheight.trans ?_⟩
    rw [show c'.info.sliceHeight = c.info.sliceHeight from congrArg SlicePart.sliceHeight hpart']

/-- The height is computed. -/
theorem slicePart_sliceSize {c : JpegDecContainer}
    (hbase : c.info.operationType = JPEGDEC_BASELINE) :
    slicePart (jpegDecSliceSizeCalculation c) =
      { slicePart c with sliceHeight := (slicePart c).nextHeight } := by
  have hno : ¬ (c.info.operationType = JPEGDEC_PROGRESSIVE ∧ c.info.componentId ≠ 0) := by
    rw [hbase]
    exact fun h => nomatch h.1
  have hheight : (jpegDecSliceSizeCalculation c).info.sliceHeight = (slicePart c).nextHeight := by
    unfold jpegDecSliceSizeCalculation SlicePart.nextHeight
    rw [if_neg hno]
    rfl
  rw [← hheight]
  rfl

/-- **A start** computes the height of the next slice, hands it to the hardware and counts. -/
theorem wp_startHw {c : JpegDecContainer} (h : Slicing S (slicePart c)) (hS : S ≠ 0) :
    wp startHw (fun _ c' => slicePart c' = (slicePart c).started ∧
      rkGetRegisterFile HWIF_JPEG_SLICE_H c' = (slicePart c).nextHeight % 2 ^ 8) (fun _ _ => True)
      (fun _ _ => True) c := by
  have hpp : c.ppInstance = 0 := h.ppInstance
  have hempty : c.info.inputBufferEmpty = 0 := h.inputBufferEmpty
  have hslices : c.info.sliceMbSetValue ≠ 0 ∧ c.usePipeline = 0 :=
    ⟨fun h0 => hS (h.sliceMbSetValue.symm.trans h0), h.usePipeline⟩
  unfold startHw
  rw [wp_bind, wp_modify, if_neg (not_not.mpr hpp), wp_bind, wp_gets, wp_ite,
    if_pos (by simp [hempty]), wp_bind, wp_modify, if_pos hslices, wp_bind]
  have hpart := slicePart_sliceSize h.operationType
  have hslicing : Slicing S (slicePart (jpegDecSliceSizeCalculation c)) := by
    rw [hpart]
    exact h.counted _ _ _
  refine wp_mono (wp_startOrContinue hslicing) ?_ (fun _ _ h => h) fun _ _ h => h
  rintro - c' ⟨hpart', hheight⟩
  rw [wp_modify]
  refine ⟨?_, hheight.trans ?_⟩
  · show { slicePart c' with SliceCount := u32 ((slicePart c').SliceCount + 1) } = _
    rw [hpart', hpart]
    rfl
  · show (slicePart (jpegDecSliceSizeCalculation c)).sliceHeight % 2 ^ 8 = _
    rw [hpart]

end starts

/-! ## Answers -/

section answers

variable {S : Nat} (env : DecodeEnv)

theorem wp_waitResult (d : Decoding) :
    wp (waitResult env) (fun _ d' => slicePart d'.cont = slicePart d.cont)
      (fun r _ => r ≠ .sliceReady) (fun _ _ => True) d := by
  unfold waitResult
  rw [wp_bind, wp_gets, wp_bind, wp_modify, wp_ite]
  split
  · exact nofun
  · rfl

theorem cont_setOutputs (luma chroma chroma2 : JpegDecLinearMem) (d : Decoding) :
    (d.setOutputs luma chroma chroma2).cont = d.cont := by
  unfold Decoding.setOutputs
  split
  · rfl
  · rfl

theorem wp_clearStatus_exit {r : JpegDecRet} (hr : r ≠ .sliceReady) (d : Decoding)
    {N : Unit → Decoding → Prop} :
    wp (do clearStatus; exit r) N (fun r _ => r ≠ .sliceReady) (fun _ _ => True) d := by
  refine wp_seq (M := fun _ _ => True) ?_ fun _ d' _ => hr
  unfold clearStatus Decoding.onCont
  rw [wp_zoom]
  trivial

/-- The interrupts that end the call are others. -/
theorem wp_checkIrq (d : Decoding) :
    wp checkIrq (fun _ d' => slicePart d'.cont = slicePart d.cont)
      (fun r _ => r ≠ .sliceReady) (fun _ _ => True) d := by
  unfold checkIrq
  rw [wp_bind, wp_gets, wp_bind, wp_whenever]
  split
  · exact wp_clearStatus_exit (r := .hwBusError) nofun d
  rw [wp_bind, wp_whenever]
  split
  · rw [wp_bind, wp_modify]
    refine wp_clearStatus_exit ?_ _
    split
    · exact nofun
    · exact nofun
  rw [wp_bind, wp_whenever]
  split
  · refine wp_seq (M := fun _ _ => True) ?_ fun _ d' _ => ?_
    · unfold Decoding.onCont
      rw [wp_zoom]
      trivial
    · exact nofun
  · rfl

/-- **A slice that is ready** is handed to the caller. -/
theorem wp_sliceReady {d : Decoding} (hpp : d.cont.ppInstance = 0) :
    wp sliceReady (fun _ _ => True)
      (fun _ d' => slicePart d'.cont = (slicePart d.cont).paused) (fun _ _ => True) d := by
  unfold sliceReady
  rw [wp_bind, wp_modify, if_pos (Or.inl hpp), wp_bind, wp_modify, if_pos rfl, wp_bind, wp_gets]
  -- whose buffers the caller is given is of no matter
  have hout : ∀ d' : Decoding, d'.cont = { d.cont with info.SliceReadyForPause := 1 } →
      wp (if decide (d'.cont.ppInstance ≠ 0 ∧ d'.cont.usePipeline = 0) = true then do
          modify (Decoding.setOutputs {} {} {})
          modify fun d => { d with cont.info.noSliceIrqForUser := 1 }
        else exit .sliceReady : DecodeStep Unit) (fun _ _ => True)
        (fun _ d' => slicePart d'.cont = (slicePart d.cont).paused) (fun _ _ => True) d' := by
    intro d' hd'
    have hno : ¬ (d'.cont.ppInstance ≠ 0 ∧ d'.cont.usePipeline = 0) := by
      rw [hd']
      exact fun h => h.1 hpp
    rw [wp_ite, if_neg (by simpa using hno), wp_exit, hd']
    rfl
  refine hout _ ?_
  split
  · exact cont_setOutputs _ _ _ _
  split
  · exact cont_setOutputs _ _ _ _
  · rfl

/-- **The answer that a slice is ready** lets the caller in. -/
theorem wp_hwAnswer {d : Decoding} (h : Slicing S (slicePart d.cont)) :
    wp (hwAnswer env) (fun _ _ => True)
      (fun r d' => r = .sliceReady → slicePart d'.cont = (slicePart d.cont).paused)
      (fun _ _ => True) d := by
  unfold hwAnswer
  rw [wp_bind]
  refine wp_mono (wp_waitResult env d) ?_ (fun r d' hr h => absurd h hr) fun _ _ h => h
  intro _ d1 h1
  rw [wp_bind]
  refine wp_mono (wp_checkIrq d1) ?_ (fun r d' hr h => absurd h hr) fun _ _ h => h
  intro _ d2 h2
  have hpart := h2.trans h1
  have hpp : d2.cont.ppInstance = 0 := (congrArg SlicePart.ppInstance hpart).trans h.ppInstance
  have hsingle : ¬ MultiScan d2.cont := by
    have hbase : d2.cont.info.operationType = JPEGDEC_BASELINE :=
      (congrArg SlicePart.operationType hpart).trans h.operationType
    unfold MultiScan
    rw [hbase]
    exact nofun
  refine wp_seq (M := fun _ _ => True) ?_ fun _ d3 _ => ?_
  · unfold hwFinished
    rw [wp_bind, wp_gets, wp_ite]
    split
    · refine wp_mono (wp_sliceReady hpp) (fun _ _ h => h) ?_ fun _ _ h => h
      exact fun _ _ h _ => h.trans (congrArg SlicePart.paused hpart)
    · rw [wp_bind, wp_gets, wp_ite, if_neg (by simpa using hsingle)]
      trivial
  · trivial

end answers

/-! ## The next call -/

section again

variable {S : Nat} {p : SlicePart} (env : DecodeEnv) {pDecIn : JpegDecInput}

/-- `x` keeps the part `p`. -/
abbrev KeepsSlices (p : SlicePart) {α : Type} (x : Decoder ρ α) : Prop :=
  Keeps anyEnd (fun _ => True) (fun c => slicePart c = p) x

theorem keepsSlices_of_frame {α : Type} {x : Decoder ρ α} (h : Frame NoTable slicePart x) :
    KeepsSlices p x :=
  (h p).mono (fun _ _ => trivial) fun _ _ _ => trivial

/-- What a call may start from: an instance that waits with a slice. -/
structure Waiting (S : Nat) (p : SlicePart) : Prop extends Slicing S p where
  paused : p.SliceReadyForPause ≠ 0

variable (hp : Waiting S p)

include hp

theorem keepsSlices_openStream (env : Env) (junk : JpegDecImageInfo) :
    KeepsSlices p (openStream env junk pDecIn) := by
  refine keeps_bind (keeps_modify fun _ h => h) fun _ => ?_
  refine keeps_bind (keepsSlices_of_frame (frame_checkInput pDecIn)) fun _ => ?_
  refine keeps_bind (keeps_bind_gets fun c hc => ?_) fun _ => keeps_modify fun c hc => ?_
  · -- a picture that is on its way is not probed again
    subst hc
    rw [if_neg (by simp [show c.info.SliceReadyForPause ≠ 0 from hp.paused])]
    exact keeps_pure _
  · subst hc
    rw [storeStream, if_pos ⟨hp.progressiveScanReady, hp.nonInterleavedScanReady⟩]
    rfl

theorem keepsSlices_checkPicture (hS : pDecIn.sliceMbSet = S) :
    KeepsSlices p (checkPicture pDecIn) := by
  refine keeps_bind (keeps_modify fun c hc => ?_) fun _ => ?_
  · subst hc
    show { slicePart c with sliceMbSetValue := pDecIn.sliceMbSet } = slicePart c
    rw [hS, ← hp.sliceMbSetValue]
  refine keeps_bind (keepsSlices_of_frame (frame_checkFeatures pDecIn)) fun _ => ?_
  refine keeps_bind (keeps_modify fun c hc => ?_) fun _ => keeps_modify fun c hc => hc
  subst hc
  have hempty : c.info.inputBufferEmpty = 0 := hp.inputBufferEmpty
  rw [nextBuffer, if_neg (not_not.mpr hempty)]

theorem keepsSlices_readHeaders (env : Env) : KeepsSlices p (readHeaders env pDecIn) := by
  refine keeps_bind (keeps_modify fun c hc => ?_) fun _ => ⟨fun c hc => ?_⟩
  · subst hc
    rw [startStreaming, if_neg fun h => hp.paused h.1]
  · -- the first round finds the header of the picture ready
    subst hc
    have hround : decodeRound env pDecIn.decImageType ⟨c, 0, 0⟩ = .next false ⟨c, 0, 0⟩ := by
      refine next_of_wp ?_
      rw [decodeRound, wp_bind, wp_gets, wp_ite,
        if_pos (by simp [show c.image.headerReady ≠ 0 from hp.headerReady,
          show c.info.SliceReadyForPause ≠ 0 from hp.paused])]
      exact ⟨rfl, rfl⟩
    unfold findMarkers
    rw [wp_zoom, wp_bind]
    cases env.rounds with
    | zero => trivial
    | succ n =>
      rw [wp_loop_succ, wp_of_next hround]
      rfl

/-- **The next call** comes back to the start with the part as it was. -/
theorem wp_beforeStart_again (hS : pDecIn.sliceMbSet = S) {d : Decoding}
    (hd : slicePart d.cont = p) :
    wp (beforeStart env pDecIn) (fun _ d' => slicePart d'.cont = p) (fun _ _ => True)
      (fun _ _ => True) d := by
  have honCont : ∀ {α : Type} {x : Decoder JpegDecRet α}, KeepsSlices p x →
      Keeps anyEnd (fun _ => True) (fun d => slicePart d.cont = p) (Decoding.onCont x) :=
    fun h => keeps_zoom (fun _ _ => h) (fun _ h => h) (fun _ _ _ h => h) (fun _ _ _ _ => trivial)
      fun _ _ _ _ _ => trivial
  refine Keeps.run (I := fun d => slicePart d.cont = p) ?_ d hd
  refine keeps_bind (honCont (keepsSlices_openStream hp env.toEnv env.junk)) fun _ => ?_
  refine keeps_bind (keeps_modify fun d hd => ?_) fun _ => ?_
  · split
    · exact hd
    · exact hd
  refine keeps_bind (honCont (keepsSlices_checkPicture hp hS)) fun _ => ?_
  refine keeps_bind (keeps_gets _) fun finish => keeps_ite _ (keeps_pure _) ?_
  exact keeps_bind (honCont (keepsSlices_readHeaders hp env.toEnv)) fun _ => keeps_pure _

end again

end Jpeg

end Rk3399
