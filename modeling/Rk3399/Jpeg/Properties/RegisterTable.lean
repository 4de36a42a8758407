import Rk3399.Jpeg.Model.PostProcessor
import Rk3399.Jpeg.Model.RegisterTable
/-!
# The fields of the table are lenses

Reading and writing by field id are the read and the write of the bit field
that the table has for the id, as its entries lie inside their words and
`regMask` has the mask of every width. The laws of bit fields are those of the
table.
-/

namespace Rk3399

namespace Jpeg

/-! ## The tables -/

/-- `regMask` has the masks of the widths of a word. -/
theorem regMask_eq {n : Nat} (h : n ≤ 32) : regMask.getD n 0 = BitField.mask 32 n := by
  have hall : ∀ n : Fin 33, regMask.getD n 0 = BitField.mask 32 n := by decide
  exact hall ⟨n, by omega⟩

/-- **No field is cut off.** -/
theorem hwDecRegSpec_fits : ∀ f ∈ hwDecRegSpec, f.Fits 32 := by
  have hall : hwDecRegSpec.all (fun f => decide (f.Fits 32)) = true := by decide +kernel
  exact fun f hf => of_decide_eq_true (List.all_eq_true.1 hall f hf)

theorem fits (id : FieldId) : (hwDecRegSpec.get id).Fits 32 :=
  hwDecRegSpec_fits _ (List.get_mem _ _)

theorem bits_le (id : FieldId) : (hwDecRegSpec.get id).bits ≤ 32 :=
  Nat.le_trans (Nat.le_add_left _ _) (fits id)

/-! ## The two functions -/

theorem setRegisterFile_eq (id : FieldId) (value : BitVec 32) (regBase : WordFile 32) :
    setRegisterFile id value regBase = (hwDecRegSpec.get id).set value regBase := by
  unfold setRegisterFile
  simp only [regMask_eq (bits_le id)]
  rfl

theorem getRegisterFile_eq (id : FieldId) (regBase : WordFile 32) :
    getRegisterFile id regBase = (hwDecRegSpec.get id).get regBase := by
  unfold getRegisterFile
  simp only [regMask_eq (bits_le id)]
  rfl

/-! ## The laws -/

/-- **The fields of the table are independent lenses.** -/
structure Lenses : Prop where
  /-- A field reads back what was written to it, modulo its width. -/
  get_set : ∀ (id : FieldId) (value : BitVec 32) (regBase : WordFile 32),
    (getRegisterFile id (setRegisterFile id value regBase)).toNat =
      value.toNat % 2 ^ (hwDecRegSpec.get id).bits
  /-- A write changes no bit outside its field, in no register. -/
  frame : ∀ (id : FieldId) (value : BitVec 32) (regBase : WordFile 32) (reg i : Nat),
    ¬ (hwDecRegSpec.get id).HasBit reg i →
      (setRegisterFile id value regBase reg).getLsbD i = (regBase reg).getLsbD i
  /-- The second write to a field is all that counts. -/
  set_set : ∀ (id : FieldId) (value value' : BitVec 32) (regBase : WordFile 32),
    setRegisterFile id value' (setRegisterFile id value regBase) =
      setRegisterFile id value' regBase
  /-- Writes to fields that do not overlap commute. -/
  set_comm : ∀ (id id' : FieldId) (value value' : BitVec 32) (regBase : WordFile 32),
    (∀ reg i, ¬ ((hwDecRegSpec.get id).HasBit reg i ∧ (hwDecRegSpec.get id').HasBit reg i)) →
      setRegisterFile id' value' (setRegisterFile id value regBase) =
        setRegisterFile id value (setRegisterFile id' value' regBase)
  /-- No field is cut off. -/
  fits : ∀ id : FieldId, (hwDecRegSpec.get id).pos + (hwDecRegSpec.get id).bits ≤ 32

theorem registerFile_lenses : Lenses where
  get_set id value regBase := by
    rw [getRegisterFile_eq, setRegisterFile_eq, BitField.get_set _ (fits id),
      BitField.toNat_and_mask _ _ (bits_le id)]
  frame id value regBase reg i h := by
    rw [setRegisterFile_eq]
    exact BitField.getLsbD_set_of_not_hasBit h value regBase
  set_set id value value' regBase := by
    rw [setRegisterFile_eq, setRegisterFile_eq, setRegisterFile_eq, BitField.set_set]
  set_comm id id' value value' regBase h := by
    rw [setRegisterFile_eq, setRegisterFile_eq, setRegisterFile_eq, setRegisterFile_eq,
      BitField.set_comm h]
  fits := fits

/-! ## The fields of the decoder -/

/-- The fields the decoder and the post-processor setup name. -/
def decoderFields : List BitField :=
  [HWIF_DEC_LATENCY, HWIF_DEC_OUT_TILED_E, HWIF_FILTERING_DIS, HWIF_DEC_SCMD_DIS,
   HWIF_STREAM_LEN, HWIF_DEC_MODE, HWIF_DEC_IN_ENDIAN, HWIF_DEC_OUT_ENDIAN, HWIF_DEC_INSWAP32_E,
   HWIF_DEC_OUTSWAP32_E, HWIF_DEC_STRSWAP32_E, HWIF_DEC_STRENDIAN_E, HWIF_DEC_IRQ,
   HWIF_DEC_IRQ_DIS, HWIF_DEC_RDY_INT, HWIF_DEC_BUFFER_INT, HWIF_DEC_SLICE_INT,
   HWIF_DEC_IRQ_STAT, HWIF_DEC_AXI_RD_ID, HWIF_DEC_AXI_WR_ID, HWIF_DEC_MAX_BURST,
   HWIF_DEC_DATA_DISC_E, HWIF_DEC_E, HWIF_DEC_OUT_DIS, HWIF_DEC_CLK_GATE_E, HWIF_DEC_TIMEOUT_E,
   HWIF_PJPEG_E, HWIF_RLC_MODE_E, HWIF_QTABLE_BASE, HWIF_DEC_OUT_BASE, HWIF_RLC_VLC_BASE,
   HWIF_PIC_MB_H_EXT, HWIF_PIC_MB_W_EXT, HWIF_PIC_MB_HEIGHT_P, HWIF_PIC_MB_WIDTH, HWIF_PJPEG_SE,
   HWIF_PJPEG_SS, HWIF_PJPEG_AL, HWIF_PJPEG_AH, HWIF_PJPEG_HDIV8, HWIF_PJPEG_WDIV8,
   HWIF_PJPEG_FILDOWN_E, HWIF_CB_DC_VLCTABLE3, HWIF_CR_DC_VLCTABLE3, HWIF_CB_DC_VLCTABLE,
   HWIF_CR_DC_VLCTABLE, HWIF_CB_AC_VLCTABLE, HWIF_CR_AC_VLCTABLE, HWIF_JPEG_STREAM_ALL,
   HWIF_JPEG_FILRIGHT_E, HWIF_JPEG_MODE, HWIF_JPEG_QTABLES, HWIF_SYNC_MARKER_E,
   HWIF_STRM_START_BIT, HWIF_PJPEG_REST_FREQ, HWIF_PJPEG_DCCB_BASE, HWIF_PJPEG_DCCR_BASE,
   HWIF_PJPEG_COEFF_BUF, HWIF_JPG_CH_OUT_BASE, HWIF_REFER13_BASE, HWIF_JPEG_SLICE_H,
   HWIF_PP_MAX_BURST, HWIF_PP_SCMD_DIS, HWIF_PP_AXI_RD_ID, HWIF_PP_AXI_WR_ID, HWIF_COLOR_COEFFA1,
   HWIF_COLOR_COEFFA2, HWIF_COLOR_COEFFB, HWIF_COLOR_COEFFC, HWIF_COLOR_COEFFD,
   HWIF_COLOR_COEFFE, HWIF_COLOR_COEFFF, HWIF_SCALE_WRATIO, HWIF_HOR_SCALE_MODE,
   HWIF_VER_SCALE_MODE, HWIF_SCALE_HRATIO, HWIF_WSCALE_INVRA, HWIF_HSCALE_INVRA, HWIF_R_MASK,
   HWIF_G_MASK, HWIF_B_MASK, HWIF_CROP_STARTX, HWIF_CROP_STARTY_EXT, HWIF_CROP_STARTY,
   HWIF_CROP_STARTX_EXT, HWIF_PP_CROP8_D_E, HWIF_PP_CROP8_R_E, HWIF_RANGEMAP_COEF_Y,
   HWIF_YCBCR_RANGE, HWIF_RANGEMAP_COEF_C, HWIF_RGB_R_PADD, HWIF_RGB_G_PADD, HWIF_RGB_B_PADD,
   HWIF_PP_IN_LU_BASE, HWIF_PP_OUT_LU_BASE, HWIF_PP_OUT_CH_BASE, HWIF_CONTRAST_THR1,
   HWIF_CONTRAST_THR2, HWIF_CONTRAST_OFF1, HWIF_CONTRAST_OFF2, HWIF_PP_IN_WIDTH,
   HWIF_PP_IN_W_EXT, HWIF_EXT_ORIG_WIDTH, HWIF_PP_IN_HEIGHT, HWIF_PP_IN_H_EXT, HWIF_PP_OUT_WIDTH,
   HWIF_PP_OUT_HEIGHT, HWIF_DITHER_SELECT_R, HWIF_DITHER_SELECT_G, HWIF_DITHER_SELECT_B,
   HWIF_PP_IN_ENDIAN, HWIF_PP_IN_A1_ENDIAN, HWIF_PP_IN_A2_ENDSEL, HWIF_PP_OUT_ENDIAN,
   HWIF_RGB_PIX_IN32, HWIF_PP_IN_SWAP32_E, HWIF_PP_IN_A1_SWAP32, HWIF_PP_OUT_SWAP16_E,
   HWIF_PP_OUT_SWAP32_E, HWIF_ROTATION_MODE, HWIF_PP_IN_FORMAT, HWIF_PP_OUT_FORMAT,
   HWIF_PP_IN_FORMAT_ES, HWIF_DISPLAY_WIDTH, HWIF_PP_CLK_GATE_E, HWIF_PP_PIPELINE_E,
   HWIF_PP_DATA_DISC_E, HWIF_PP_AHB_HLOCK_E] ++
  HWIF_AC1_CODE_CNT ++ HWIF_AC2_CODE_CNT ++ HWIF_DC1_CODE_CNT ++ HWIF_DC2_CODE_CNT ++
    HWIF_DC3_CODE_CNT

/-- **The decoder names entries of the table only.** -/
theorem decoderFields_subset : ∀ f ∈ decoderFields, f ∈ hwDecRegSpec := by
  have hall : decoderFields.all (fun f => hwDecRegSpec.any fun g =>
      Nat.beq g.reg f.reg && Nat.beq g.bits f.bits && Nat.beq g.pos f.pos) = true := by
    decide +kernel
  intro f hf
  obtain ⟨g, hg, heq⟩ := List.any_eq_true.1 (List.all_eq_true.1 hall f hf)
  rw [Bool.and_eq_true, Bool.and_eq_true] at heq
  obtain ⟨⟨hreg, hbits⟩, hpos⟩ := heq
  have hgf : g = f := by
    cases g
    cases f
    rw [BitField.mk.injEq]
    exact ⟨Nat.eq_of_beq_eq_true hreg, Nat.eq_of_beq_eq_true hbits, Nat.eq_of_beq_eq_true hpos⟩
  exact hgf ▸ hg

/-- What the decoder reads of a field is what is read by its id. -/
theorem rkGetRegisterFile_eq_table {f : BitField} (hf : f ∈ decoderFields) (c : JpegDecContainer) :
    ∃ id : FieldId, hwDecRegSpec.get id = f ∧
      rkGetRegisterFile f c = (getRegisterFile id c.jpegRegs).toNat := by
  obtain ⟨id, hid⟩ := List.get_of_mem (decoderFields_subset f hf)
  refine ⟨id, hid, ?_⟩
  rw [getRegisterFile_eq, hid]
  rfl

end Jpeg

end Rk3399
