import Rk3399.Jpeg.Helpers.Start
/-!
# The output planes

An address of an output plane is one 32-bit word: a buffer's file
descriptor in the low ten bits and a byte offset above them.
`JpegDecAllocateResidual` computes the words of the three planes for the
first scan of an instance and `JpegDecDecodeScan` for every later one, and
`JpegDecInitHW` programs the chroma word. This module says when the three
mean the same planes.
-/

namespace Rk3399

namespace Jpeg

open Prog

/-! ## Address words -/

/-- The word `w` denotes the byte offset `offset` in the buffer `fd`. -/
structure Denotes (w fd offset : Nat) : Prop where
  fd : w % 2 ^ 10 = fd
  offset : w / 2 ^ 10 = offset

instance (w fd offset : Nat) : Decidable (Denotes w fd offset) :=
  decidable_of_iff (w % 2 ^ 10 = fd ∧ w / 2 ^ 10 = offset) ⟨fun h => ⟨h.1, h.2⟩,
    fun h => ⟨h.1, h.2⟩⟩

/-- A word denotes the offset it was built from as long as the offset has at
most 22 bits. -/
theorem denotes_word_iff {fd offset : Nat} (hfd : fd < 2 ^ 10) :
    Denotes (u32 (fd + u32 (offset * 2 ^ 10))) fd offset ↔ offset < 2 ^ 22 := by
  unfold u32
  constructor
  · rintro ⟨-, h⟩
    omega
  · intro h
    constructor <;> omega

/-- A word with the descriptor alone denotes the start of the buffer. -/
theorem denotes_masked_iff {fd offset w : Nat} (hw : w % 2 ^ 10 = fd) :
    Denotes (w &&& 0x3FF) fd offset ↔ offset = 0 := by
  have hand : w &&& 0x3FF = fd := by
    rw [show (0x3FF : Nat) = 2 ^ 10 - 1 from rfl, Nat.and_two_pow_sub_one_eq_mod, hw]
  have hfd : fd < 2 ^ 10 := hw ▸ Nat.mod_lt _ (by decide)
  rw [hand]
  constructor
  · rintro ⟨-, h⟩
    omega
  · rintro rfl
    constructor <;> omega

/-! ## What the hardware is given -/

/-- The output addresses are the last registers a start sets before the enable
bit, and they are computed from what it leaves alone. -/
theorem jpegDecInitHW_output {ρ : Type} {c c' : JpegDecContainer}
    (h : (jpegDecInitHW : Decoder ρ Unit) c = .next () c') :
    ∃ file, c'.jpegRegs = BitField.writes
      (asWords (outputRegisters c ++ [(HWIF_DEC_E, 1)])) file := by
  have hreg : ∀ d, unstarted d = unstarted c → outputRegisters d = outputRegisters c := by
    intro d hd
    calc outputRegisters d = outputRegisters (unstarted d) := rfl
      _ = outputRegisters (unstarted c) := congrArg outputRegisters hd
      _ = outputRegisters c := rfl
  have hout : wp (jpegDecInitHW : Decoder ρ Unit) (fun _ d => ∃ file, d.jpegRegs = BitField.writes
      (asWords (outputRegisters c ++ [(HWIF_DEC_E, 1)])) file)
      (fun _ _ => True) (fun _ _ => True) c := by
    -- no step before the output registers changes what these are computed from
    have hstep : ∀ {β : Type} {y : Decoder ρ β} {g : β → Decoder ρ Unit} {N : Unit → _ → Prop}
        {d : JpegDecContainer}, unstarted d = unstarted c → Frame anyFault unstarted y →
        (∀ b d, unstarted d = unstarted c → wp (g b) N (fun _ _ => True) (fun _ _ => True) d) →
        wp (y >>= g) N (fun _ _ => True) (fun _ _ => True) d := by
      intro β y g N d hd hy hg
      exact hy.wp_bind (fun _ _ _ => trivial) (fun _ _ _ _ => trivial)
        fun b d' hd' => hg b d' (hd'.trans hd)
    refine hstep rfl (frame_rkSetRegisterFiles _) fun _ d hd => ?_
    refine hstep hd (frame_setCoeffBuffers fun _ => trivial) fun _ d hd => ?_
    refine hstep hd frame_setTables fun _ d hd => ?_
    refine hstep hd frame_jpegDecChromaTableSelectors fun _ d hd => ?_
    refine hstep hd (frame_rkSetRegisterFiles _) fun _ d hd => ?_
    refine hstep hd frame_jpegDecSetHwStrmParams fun _ d hd => ?_
    refine hstep hd (frame_rkSetRegisterFiles _) fun _ d hd => ?_
    refine ⟨d.jpegRegs, ?_⟩
    rw [asWords, List.map_append, BitField.writes_append, ← hreg d hd]
    rfl
  exact wp_next hout h

/-! ## Agreement -/

/-- The planes of a later scan. -/
def laterPlanes (c : JpegDecContainer) : JpegDecContainer := layoutPlanes scanChroma2 c

/-- The words of the planes of an instance, in the order of the components. -/
def planeWords (c : JpegDecContainer) : Nat × Nat × Nat :=
  (c.asicBuff.outLumaBuffer.phyAddr, c.asicBuff.outChromaBuffer.phyAddr,
    c.asicBuff.outChromaBuffer2.phyAddr)

/-- The chroma base in the registers of `c'` denotes the offset of the chroma plane:
baseline operation and the pipeline have a register of their own for it, a scan of the
chroma component writes its plane to the output register. -/
structure ChromaBase (c c' : JpegDecContainer) : Prop where
  own : c.info.operationType = JPEGDEC_BASELINE ∨ Pipelined c →
    Denotes (rkGetRegisterFile HWIF_JPG_CH_OUT_BASE c') c.pictureMem.phyAddr c.image.sizeLuma
  single : c.info.operationType ≠ JPEGDEC_BASELINE → ¬ Pipelined c → c.info.componentId = 1 →
    Denotes (rkGetRegisterFile HWIF_DEC_OUT_BASE c') c.pictureMem.phyAddr c.image.sizeLuma

/-- **The layouts agree**: the first scan, which leaves the planes of `c` as in `c1`, and a
later one give the same words, these denote the offsets of the planes, and so does the
chroma base after the start that ended in `c'`. -/
structure PlanesAgree (c c1 c' : JpegDecContainer) : Prop where
  words : planeWords c1 = planeWords (laterPlanes c)
  chroma : c.image.sizeChroma ≠ 0 →
    Denotes c1.asicBuff.outChromaBuffer.phyAddr c.pictureMem.phyAddr c.image.sizeLuma
  chroma2 : c.image.sizeChroma ≠ 0 → c.info.operationType ≠ JPEGDEC_BASELINE →
    Denotes c1.asicBuff.outChromaBuffer2.phyAddr c.pictureMem.phyAddr
      (c.image.sizeLuma + c.image.sizeChroma / 2)
  base : c.image.sizeChroma ≠ 0 → ChromaBase c c'

/-- The first scan lays out planes of its own: the post-processor does not take the picture
in its pipeline, and the caller gave no buffers. -/
def OwnPlanes (c : JpegDecContainer) : Prop := ¬ Pipelined c ∧ c.info.givenOutLuma.virAddr = 0

instance (c : JpegDecContainer) : Decidable (OwnPlanes c) := inferInstanceAs (Decidable (_ ∧ _))

/-- The words it takes where it does not: those that are there, or those of the caller. -/
def foundWords (c : JpegDecContainer) : Nat × Nat × Nat :=
  if Pipelined c then planeWords c
  else (c.pictureMem.phyAddr, c.info.givenOutChroma.phyAddr, c.info.givenOutChroma2.phyAddr)

/-- The condition. Without a chroma plane the words the first scan finds are those a later
scan leaves. With one, its offset fits the word, neither the mask of the baseline register
nor the missing shift of the second chroma plane nor the zero of the pipeline is seen, and
the words the first scan finds are those of the planes. -/
def PlanesFit (c : JpegDecContainer) : Prop :=
  if c.image.sizeChroma = 0 then
    OwnPlanes c ∨ foundWords c = (c.pictureMem.phyAddr, c.asicBuff.outChromaBuffer.phyAddr,
      c.asicBuff.outChromaBuffer2.phyAddr)
  else
    c.image.sizeLuma < 2 ^ 22 ∧
    (if c.info.operationType = JPEGDEC_BASELINE then c.image.sizeLuma = 0
      else c.image.sizeChroma < 2) ∧
    (Pipelined c → c.pictureMem.phyAddr = 0 ∧ c.image.sizeLuma = 0) ∧
    (OwnPlanes c ∨ foundWords c =
      (c.pictureMem.phyAddr, c.pictureMem.phyAddr + c.image.sizeLuma * 2 ^ 10,
        if c.info.operationType = JPEGDEC_BASELINE then 0
        else c.pictureMem.phyAddr + c.image.sizeLuma * 2 ^ 10))

/-! ## The words of the layouts -/

variable {c c1 c' : JpegDecContainer} {reply : AllocReply}

/-- The word of the chroma plane. -/
def chromaWord (c : JpegDecContainer) : Nat :=
  u32 (c.pictureMem.phyAddr + u32 (c.image.sizeLuma * 2 ^ 10))

theorem chromaWord_lt (c : JpegDecContainer) : chromaWord c < 2 ^ 32 := u32_lt _

theorem chromaWord_mod (hfd : c.pictureMem.phyAddr < 2 ^ 10) :
    chromaWord c % 2 ^ 10 = c.pictureMem.phyAddr := by
  unfold chromaWord u32
  omega

theorem chromaWord_eq (hfd : c.pictureMem.phyAddr < 2 ^ 10) (hluma : c.image.sizeLuma < 2 ^ 22) :
    chromaWord c = c.pictureMem.phyAddr + c.image.sizeLuma * 2 ^ 10 := by
  unfold chromaWord u32
  omega

/-- The words of a layout: without a chroma plane it sets the luma word alone. -/
def layoutWords (chroma2 : OperationType → Nat → Nat → Nat) (c : JpegDecContainer) :
    Nat × Nat × Nat :=
  if c.image.sizeChroma = 0 then
    (c.pictureMem.phyAddr, c.asicBuff.outChromaBuffer.phyAddr, c.asicBuff.outChromaBuffer2.phyAddr)
  else
    (c.pictureMem.phyAddr, chromaWord c,
      chroma2 c.info.operationType (chromaWord c) c.image.sizeChroma)

theorem planeWords_layoutPlanes (chroma2 : OperationType → Nat → Nat → Nat)
    (c : JpegDecContainer) : planeWords (layoutPlanes chroma2 c) = layoutWords chroma2 c := by
  unfold layoutPlanes layoutWords
  by_cases h : c.image.sizeChroma = 0
  · rw [if_pos h]
    simp only [h, ne_eq, not_true_eq_false, if_false, planeWords]
  · rw [if_neg h]
    simp only [h, ne_eq, not_false_eq_true, if_true, planeWords, chromaWord]

/-- The two layouts have one word for a second chroma plane that is empty. -/
theorem chroma2_eq {operationType : OperationType} {w sizeChroma : Nat}
    (h : operationType = JPEGDEC_BASELINE ∨ sizeChroma < 2) :
    residualChroma2 operationType w sizeChroma = scanChroma2 operationType w sizeChroma := by
  rcases h with hop | hC
  · simp [residualChroma2, scanChroma2, hop]
  · have h0 : sizeChroma / 2 = 0 := by omega
    simp [residualChroma2, scanChroma2, h0, u32]

/-- **The missing shift shows**: the word of a later scan denotes the second chroma plane
only where that is empty. -/
theorem denotes_scanChroma2_iff (hfd : c.pictureMem.phyAddr < 2 ^ 10)
    (hluma : c.image.sizeLuma < 2 ^ 22) (hC : c.image.sizeChroma < 2 ^ 32)
    (hop : c.info.operationType ≠ JPEGDEC_BASELINE) :
    Denotes (scanChroma2 c.info.operationType (chromaWord c) c.image.sizeChroma)
      c.pictureMem.phyAddr (c.image.sizeLuma + c.image.sizeChroma / 2) ↔
      c.image.sizeChroma < 2 := by
  rw [scanChroma2, if_pos hop, chromaWord_eq hfd hluma, u32]
  constructor
  · rintro ⟨hfd', hoffset⟩
    omega
  · intro hempty
    constructor <;> omega

/-! ## The first scan -/

/-- What the start reads beside the planes. -/
def startState (c : JpegDecContainer) : ImageData × OperationType × Nat × Nat × Nat :=
  (c.image, c.info.operationType, c.info.componentId, c.ppInstance, c.usePipeline)

/-- The words the first scan leaves. -/
def firstWords (c : JpegDecContainer) : Nat × Nat × Nat :=
  if OwnPlanes c then layoutWords residualChroma2 c else foundWords c

theorem startState_layoutPlanes (chroma2 : OperationType → Nat → Nat → Nat)
    (c : JpegDecContainer) : startState (layoutPlanes chroma2 c) = startState c := by
  unfold layoutPlanes
  dsimp only
  split <;> rfl

/-- What the first scan does with the planes. -/
theorem wp_firstPlanes (c : JpegDecContainer) :
    wp (whenever (fun c => c.ppInstance = 0 ∨ c.usePipeline = 0) (modify fun c =>
        if c.info.givenOutLuma.virAddr = 0 then layoutPlanes residualChroma2 c
        else givenPlanes c) : Decoder JpegDecRet Unit)
      (fun _ c1 => planeWords c1 = firstWords c ∧ startState c1 = startState c)
      (fun _ _ => True) (fun _ _ => True) c := by
  rw [wp_whenever, wp_modify]
  by_cases hpipe : Pipelined c
  · have hguard : ¬ (c.ppInstance = 0 ∨ c.usePipeline = 0) := by
      rintro (h | h)
      · exact hpipe.1 h
      · exact hpipe.2 h
    rw [if_neg hguard, firstWords, if_neg fun hown => hown.1 hpipe, foundWords, if_pos hpipe]
    exact ⟨rfl, rfl⟩
  · have hguard : c.ppInstance = 0 ∨ c.usePipeline = 0 := by
      by_contra hnot
      exact hpipe (not_or.mp hnot)
    rw [if_pos hguard, firstWords]
    by_cases hgiven : c.info.givenOutLuma.virAddr = 0
    · rw [if_pos hgiven, if_pos ⟨hpipe, hgiven⟩]
      exact ⟨planeWords_layoutPlanes _ c, startState_layoutPlanes _ c⟩
    · rw [if_neg hgiven, if_neg fun hown => hgiven hown.2, foundWords, if_neg hpipe]
      exact ⟨rfl, rfl⟩

/-- **The first scan** lays out planes of its own, or takes the words it finds. -/
theorem wp_jpegDecAllocateResidual_planes (reply : AllocReply) (c : JpegDecContainer) :
    wp (jpegDecAllocateResidual reply)
      (fun _ c1 => planeWords c1 = firstWords c ∧ startState c1 = startState c)
      (fun _ _ => True) (fun _ _ => True) c := by
  unfold jpegDecAllocateResidual
  rw [wp_bind, wp_gets]
  refine wp_seq (M := fun _ d => firstWords d = firstWords c ∧ startState d = startState c)
    ?_ fun _ d hd => ?_
  · rw [wp_whenever]
    split
    · rw [allocTable, wp_bind, wp_modify, wp_exitIf]
      split
      · trivial
      · exact ⟨rfl, rfl⟩
    · exact ⟨rfl, rfl⟩
  · rw [← hd.1, ← hd.2]
    exact wp_firstPlanes d

/-- Its words are those of a later scan exactly where it lays out planes of its own, or
finds the words of them. -/
theorem firstWords_eq_iff (h : c.image.sizeChroma = 0 ∨
      (c.info.operationType = JPEGDEC_BASELINE ∨ c.image.sizeChroma < 2)) :
    firstWords c = layoutWords scanChroma2 c ↔
      OwnPlanes c ∨ foundWords c = layoutWords scanChroma2 c := by
  unfold firstWords
  by_cases hown : OwnPlanes c
  · rw [if_pos hown]
    refine iff_of_true ?_ (Or.inl hown)
    unfold layoutWords
    by_cases hchroma : c.image.sizeChroma = 0
    · rw [if_pos hchroma, if_pos hchroma]
    · rw [if_neg hchroma, if_neg hchroma, chroma2_eq (h.resolve_left hchroma)]
  · rw [if_neg hown, or_iff_right hown]

/-! ## The chroma base -/

/-- The baseline register holds the descriptor alone. -/
theorem chromaRegister_baseline (h : jpegDecInitHW c1 = (.next () c' :
      Outcome Fault JpegDecRet JpegDecContainer Unit))
    (hchroma : c1.image.sizeChroma ≠ 0) (hop : c1.info.operationType = JPEGDEC_BASELINE)
    (hpp : ¬ Pipelined c1) :
    rkGetRegisterFile HWIF_JPG_CH_OUT_BASE c' =
      (c1.asicBuff.outChromaBuffer.phyAddr &&& 0x3FF) % 2 ^ 32 := by
  obtain ⟨file, hfile⟩ := jpegDecInitHW_output h
  rw [outputRegisters, if_neg hpp, if_pos hop, if_pos hchroma] at hfile
  refine rkGetRegisterFile_writes ?_ (by decide) (List.mem_cons_of_mem _ List.mem_cons_self) hfile
  simp [BitField.Disjoint, HWIF_DEC_OUT_BASE, HWIF_JPG_CH_OUT_BASE, HWIF_DEC_E]

/-- In the pipeline it holds zero. -/
theorem chromaRegister_pipelined (h : jpegDecInitHW c1 = (.next () c' :
      Outcome Fault JpegDecRet JpegDecContainer Unit))
    (hchroma : c1.image.sizeChroma ≠ 0) (hpp : Pipelined c1) :
    rkGetRegisterFile HWIF_JPG_CH_OUT_BASE c' = 0 := by
  obtain ⟨file, hfile⟩ := jpegDecInitHW_output h
  rw [outputRegisters, if_pos hpp, if_pos hchroma] at hfile
  have hzero : (HWIF_JPG_CH_OUT_BASE, 0) ∈
      [(HWIF_DEC_OUT_DIS, 1), (HWIF_DEC_OUT_BASE, 0), (HWIF_JPG_CH_OUT_BASE, 0), (HWIF_DEC_E, 1)] :=
    List.mem_cons_of_mem _ (List.mem_cons_of_mem _ List.mem_cons_self)
  refine rkGetRegisterFile_writes ?_ (by decide) hzero hfile
  simp [BitField.Disjoint, HWIF_DEC_OUT_DIS, HWIF_DEC_OUT_BASE, HWIF_JPG_CH_OUT_BASE, HWIF_DEC_E]

/-- The output register of the second component holds the whole word. -/
theorem chromaRegister_single (h : jpegDecInitHW c1 = (.next () c' :
      Outcome Fault JpegDecRet JpegDecContainer Unit))
    (hop : c1.info.operationType ≠ JPEGDEC_BASELINE)
    (hpp : ¬ Pipelined c1) (hid : c1.info.componentId = 1) :
    rkGetRegisterFile HWIF_DEC_OUT_BASE c' = c1.asicBuff.outChromaBuffer.phyAddr % 2 ^ 32 := by
  obtain ⟨file, hfile⟩ := jpegDecInitHW_output h
  rw [outputRegisters, if_neg hpp, if_neg hop, if_neg (by rw [hid]; decide), if_pos hid] at hfile
  refine rkGetRegisterFile_writes ?_ (by decide) List.mem_cons_self hfile
  simp [BitField.Disjoint, HWIF_DEC_OUT_BASE, HWIF_DEC_E]

/-- Zero denotes the start of buffer zero. -/
theorem denotes_zero_iff {fd offset : Nat} : Denotes 0 fd offset ↔ fd = 0 ∧ offset = 0 := by
  constructor
  · rintro ⟨hfd, hoffset⟩
    exact ⟨hfd.symm, hoffset.symm⟩
  · rintro ⟨rfl, rfl⟩
    exact ⟨rfl, rfl⟩

/-- **The chroma base** of a start with the word of the chroma plane. -/
theorem chromaBase_iff (hfd : c.pictureMem.phyAddr < 2 ^ 10) (hluma : c.image.sizeLuma < 2 ^ 22)
    (hstate : startState c1 = startState c) (hchroma : c.image.sizeChroma ≠ 0)
    (hword : c1.asicBuff.outChromaBuffer.phyAddr = chromaWord c)
    (h : jpegDecInitHW c1 = (.next () c' : Outcome Fault JpegDecRet JpegDecContainer Unit)) :
    ChromaBase c c' ↔ (Pipelined c → c.pictureMem.phyAddr = 0 ∧ c.image.sizeLuma = 0) ∧
      (¬ Pipelined c → c.info.operationType = JPEGDEC_BASELINE → c.image.sizeLuma = 0) := by
  have himage : c1.image = c.image := congrArg (·.1) hstate
  have hoper : c1.info.operationType = c.info.operationType := congrArg (·.2.1) hstate
  have hcomp : c1.info.componentId = c.info.componentId := congrArg (·.2.2.1) hstate
  have hpipe : Pipelined c1 ↔ Pipelined c := by
    have hpp : c1.ppInstance = c.ppInstance := congrArg (·.2.2.2.1) hstate
    have huse : c1.usePipeline = c.usePipeline := congrArg (·.2.2.2.2) hstate
    unfold Pipelined
    rw [hpp, huse]
  have hchroma1 : c1.image.sizeChroma ≠ 0 := by rwa [himage]
  -- the pipeline writes zero, a baseline start the masked word, a single component the whole one
  by_cases hpp : Pipelined c
  · have hreg := chromaRegister_pipelined h hchroma1 (hpipe.mpr hpp)
    constructor
    · intro hbase
      have hzero := hbase.own (Or.inr hpp)
      rw [hreg] at hzero
      exact ⟨fun _ => denotes_zero_iff.mp hzero, fun hnot => absurd hpp hnot⟩
    · rintro ⟨hzero, -⟩
      refine ⟨fun _ => ?_, fun _ hnot => absurd hpp hnot⟩
      rw [hreg]
      exact denotes_zero_iff.mpr (hzero hpp)
  · have hpp1 : ¬ Pipelined c1 := fun h1 => hpp (hpipe.mp h1)
    by_cases hop : c.info.operationType = JPEGDEC_BASELINE
    · have hreg := chromaRegister_baseline h hchroma1 (hoper.trans hop) hpp1
      rw [hword, Nat.mod_eq_of_lt (Nat.lt_of_le_of_lt Nat.and_le_left (chromaWord_lt c))] at hreg
      have hmask : Denotes (chromaWord c &&& 0x3FF) c.pictureMem.phyAddr c.image.sizeLuma ↔
          c.image.sizeLuma = 0 := denotes_masked_iff (chromaWord_mod hfd)
      rw [← hreg] at hmask
      constructor
      · intro hbase
        exact ⟨fun h' => absurd h' hpp, fun _ _ => hmask.mp (hbase.own (Or.inl hop))⟩
      · rintro ⟨-, hzero⟩
        exact ⟨fun _ => hmask.mpr (hzero hpp hop), fun hne => absurd hop hne⟩
    · refine iff_of_true ⟨fun hor => ?_, fun _ _ hid => ?_⟩ ⟨fun h' => absurd h' hpp,
        fun _ h' => absurd h' hop⟩
      · rcases hor with h' | h'
        · exact absurd h' hop
        · exact absurd h' hpp
      · rw [chromaRegister_single h (by rwa [hoper]) hpp1 (hcomp.trans hid), hword,
          Nat.mod_eq_of_lt (chromaWord_lt c)]
        exact (denotes_word_iff hfd).mpr hluma

/-- Where the condition on the sizes holds, a later scan leaves the words of the planes. -/
theorem layoutWords_of_fit (hfd : c.pictureMem.phyAddr < 2 ^ 10) (hluma : c.image.sizeLuma < 2 ^ 22)
    (hchroma : c.image.sizeChroma ≠ 0)
    (hsize : c.info.operationType = JPEGDEC_BASELINE ∨ c.image.sizeChroma < 2) :
    layoutWords scanChroma2 c =
      (c.pictureMem.phyAddr, c.pictureMem.phyAddr + c.image.sizeLuma * 2 ^ 10,
        if c.info.operationType = JPEGDEC_BASELINE then 0
        else c.pictureMem.phyAddr + c.image.sizeLuma * 2 ^ 10) := by
  rw [layoutWords, if_neg hchroma, ← chromaWord_eq hfd hluma, scanChroma2]
  by_cases hop : c.info.operationType = JPEGDEC_BASELINE
  · rw [if_neg (not_not.mpr hop), if_pos hop]
  · have hempty : c.image.sizeChroma / 2 = 0 := by
      have hC := hsize.resolve_left hop
      omega
    rw [if_pos hop, if_neg hop, hempty, Nat.add_zero]
    exact congrArg _ (congrArg _ (Nat.mod_eq_of_lt (chromaWord_lt c)))

/-- **The planes agree exactly where `PlanesFit` says.** -/
theorem planesAgree_iff (hfd : c.pictureMem.phyAddr < 2 ^ 10)
    (hC : c.image.sizeChroma < 2 ^ 32)
    (hfirst : jpegDecAllocateResidual reply c = .next () c1)
    (hstart : jpegDecInitHW c1 = (.next () c' :
      Outcome Fault JpegDecRet JpegDecContainer Unit)) :
    PlanesAgree c c1 c' ↔ PlanesFit c := by
  obtain ⟨hwords, hstate⟩ := wp_next (wp_jpegDecAllocateResidual_planes reply c) hfirst
  have hlater : planeWords (laterPlanes c) = layoutWords scanChroma2 c :=
    planeWords_layoutPlanes scanChroma2 c
  unfold PlanesFit
  by_cases hchroma : c.image.sizeChroma = 0
  · -- without chroma only the words of the two scans are compared
    have hgray := firstWords_eq_iff (Or.inl hchroma)
    rw [← hwords, ← hlater] at hgray
    rw [if_pos hchroma]
    rw [layoutWords, if_pos hchroma] at hlater
    rw [← hlater, ← hgray]
    exact ⟨fun hagree => hagree.words, fun hsame =>
      ⟨hsame, fun h => absurd hchroma h, fun h => absurd hchroma h, fun h => absurd hchroma h⟩⟩
  rw [if_neg hchroma]
  -- behind the same words the plane words are those of the later scan
  have hcolour : planeWords c1 = planeWords (laterPlanes c) →
      c1.asicBuff.outChromaBuffer.phyAddr = chromaWord c ∧
      c1.asicBuff.outChromaBuffer2.phyAddr =
        scanChroma2 c.info.operationType (chromaWord c) c.image.sizeChroma := by
    intro hsame
    rw [hlater, layoutWords, if_neg hchroma] at hsame
    exact ⟨congrArg (·.2.1) hsame, congrArg (·.2.2) hsame⟩
  have hoffset : Denotes (chromaWord c) c.pictureMem.phyAddr c.image.sizeLuma ↔
      c.image.sizeLuma < 2 ^ 22 := denotes_word_iff hfd
  constructor
  · intro hagree
    obtain ⟨hword, hword2⟩ := hcolour hagree.words
    have hluma : c.image.sizeLuma < 2 ^ 22 := by
      rw [← hoffset, ← hword]
      exact hagree.chroma hchroma
    obtain ⟨hpipe, hmask⟩ :=
      (chromaBase_iff hfd hluma hstate hchroma hword hstart).mp (hagree.base hchroma)
    have hsize : c.info.operationType ≠ JPEGDEC_BASELINE → c.image.sizeChroma < 2 := by
      intro hop
      rw [← denotes_scanChroma2_iff hfd hluma hC hop, ← hword2]
      exact hagree.chroma2 hchroma hop
    have hor : c.info.operationType = JPEGDEC_BASELINE ∨ c.image.sizeChroma < 2 :=
      or_iff_not_imp_left.mpr hsize
    refine ⟨hluma, ?_, hpipe, ?_⟩
    · by_cases hop : c.info.operationType = JPEGDEC_BASELINE
      · rw [if_pos hop]
        by_cases hpp : Pipelined c
        · exact (hpipe hpp).2
        · exact hmask hpp hop
      · rw [if_neg hop]
        exact hsize hop
    · rw [← layoutWords_of_fit hfd hluma hchroma hor, ← firstWords_eq_iff (Or.inr hor), ← hwords,
        ← hlater]
      exact hagree.words
  · rintro ⟨hluma, hsize, hpipe, hfound⟩
    have hor : c.info.operationType = JPEGDEC_BASELINE ∨ c.image.sizeChroma < 2 := by
      by_cases hop : c.info.operationType = JPEGDEC_BASELINE
      · exact Or.inl hop
      · rw [if_neg hop] at hsize
        exact Or.inr hsize
    rw [← layoutWords_of_fit hfd hluma hchroma hor, ← firstWords_eq_iff (Or.inr hor), ← hwords,
      ← hlater] at hfound
    obtain ⟨hword, hword2⟩ := hcolour hfound
    refine ⟨hfound, fun _ => ?_, fun _ hop => ?_, fun _ => ?_⟩
    · rw [hword]
      exact hoffset.mpr hluma
    · rw [hword2]
      exact (denotes_scanChroma2_iff hfd hluma hC hop).mpr (hor.resolve_left hop)
    · refine (chromaBase_iff hfd hluma hstate hchroma hword hstart).mpr ⟨hpipe, fun _ hop => ?_⟩
      rwa [if_pos hop] at hsize

/-! ## Two pictures -/

/-- The instance behind the headers of a picture of 48×48 pels with planes of
the sizes `luma` and `chroma`, decoded into buffer 5. -/
def planesSample (luma chroma : Nat) : JpegDecContainer :=
  { jpegDecInit with
    image.sizeLuma := luma
    image.sizeChroma := chroma
    info.X := 48
    info.Y := 48
    info.yCbCrMode := if chroma = 0 then JPEGDEC_YUV400 else JPEGDEC_YUV420
    info.amountOfQTables := if chroma = 0 then 1 else 3
    frame.pTableBase := ⟨JPEGDEC_BASELINE_TABLE_SIZE, 8192, 6⟩
    pictureMem := ⟨3456, 4096, 5⟩ }

/-- Its first scan finds a table memory of the size it needs. -/
def planesReply : AllocReply := ⟨0, 8192, 6⟩

/-- The instance behind the first scan for `planesSample`. -/
def planesAllocated (luma chroma : Nat) : JpegDecContainer :=
  (jpegDecAllocateResidual planesReply (planesSample luma chroma)).state

/-- The instance behind the start. -/
def planesStarted (luma chroma : Nat) : JpegDecContainer :=
  ((jpegDecInitHW : Decoder JpegDecRet Unit) (planesAllocated luma chroma)).state

/-- The grayscale picture of 48×48 pels meets the condition. -/
theorem planesAgree_iff_gray :
    PlanesAgree (planesSample 2304 0) (planesAllocated 2304 0) (planesStarted 2304 0) := by
  refine (planesAgree_iff (by decide) (by decide) (Outcome.IsNext.eq (by decide +kernel))
    (Outcome.IsNext.eq (by decide +kernel))).mpr ?_
  have hgray : (planesSample 2304 0).image.sizeChroma = 0 := rfl
  have hown : OwnPlanes (planesSample 2304 0) := by decide
  rw [PlanesFit, if_pos hgray]
  exact Or.inl hown

/-- **The planes do not agree in general**: for a 4:2:0 picture of 48×48 pels the chroma
register is given the start of the buffer, where luma is. -/
theorem planes_disagree : ¬ ∀ reply c c1 c', c.pictureMem.phyAddr < 2 ^ 10 →
    c.image.sizeChroma < 2 ^ 32 → jpegDecAllocateResidual reply c = .next () c1 →
    jpegDecInitHW c1 = (.next () c' :
      Outcome Fault JpegDecRet JpegDecContainer Unit) → PlanesAgree c c1 c' := by
  intro hall
  have hagree := hall planesReply (planesSample 2304 1152) (planesAllocated 2304 1152)
    (planesStarted 2304 1152) (by decide) (by decide) (Outcome.IsNext.eq (by decide +kernel))
    (Outcome.IsNext.eq (by decide +kernel))
  have hmasked : ¬ Denotes (rkGetRegisterFile HWIF_JPG_CH_OUT_BASE (planesStarted 2304 1152))
      5 2304 := by decide +kernel
  exact hmasked ((hagree.base (by decide)).own (Or.inl rfl))

end Jpeg

end Rk3399
