import Rk3399.Jpeg.Model.Registers
/-!
# The post-processor

`SetPostProcessor` of `jpegdecinternal.c`: the registers that scale and
convert a decoded picture. It writes them in one pass and looks at none of
them.
-/

namespace Rk3399

namespace Jpeg

/-! ## Fields -/

def HWIF_PP_MAX_BURST : BitField := ⟨0, 5, 0⟩
def HWIF_PP_SCMD_DIS : BitField := ⟨0, 1, 5⟩
def HWIF_PP_AXI_RD_ID : BitField := ⟨0, 8, 8⟩
def HWIF_PP_AXI_WR_ID : BitField := ⟨0, 8, 16⟩
def HWIF_COLOR_COEFFA1 : BitField := ⟨1, 10, 0⟩
def HWIF_COLOR_COEFFA2 : BitField := ⟨1, 10, 10⟩
def HWIF_COLOR_COEFFB : BitField := ⟨1, 10, 20⟩
def HWIF_COLOR_COEFFC : BitField := ⟨2, 10, 0⟩
def HWIF_COLOR_COEFFD : BitField := ⟨2, 10, 10⟩
def HWIF_COLOR_COEFFE : BitField := ⟨2, 10, 20⟩
def HWIF_COLOR_COEFFF : BitField := ⟨3, 8, 0⟩
def HWIF_SCALE_WRATIO : BitField := ⟨4, 18, 0⟩
def HWIF_HOR_SCALE_MODE : BitField := ⟨4, 2, 20⟩
def HWIF_VER_SCALE_MODE : BitField := ⟨4, 2, 22⟩
def HWIF_SCALE_HRATIO : BitField := ⟨5, 18, 0⟩
def HWIF_WSCALE_INVRA : BitField := ⟨6, 16, 0⟩
def HWIF_HSCALE_INVRA : BitField := ⟨6, 16, 16⟩
def HWIF_R_MASK : BitField := ⟨9, 32, 0⟩
def HWIF_G_MASK : BitField := ⟨10, 32, 0⟩
def HWIF_B_MASK : BitField := ⟨11, 32, 0⟩
def HWIF_CROP_STARTX : BitField := ⟨14, 9, 0⟩
def HWIF_CROP_STARTY_EXT : BitField := ⟨14, 3, 9⟩
def HWIF_CROP_STARTY : BitField := ⟨14, 8, 16⟩
def HWIF_CROP_STARTX_EXT : BitField := ⟨14, 3, 24⟩
def HWIF_PP_CROP8_D_E : BitField := ⟨14, 1, 28⟩
def HWIF_PP_CROP8_R_E : BitField := ⟨14, 1, 29⟩
def HWIF_RANGEMAP_COEF_Y : BitField := ⟨15, 5, 0⟩
def HWIF_YCBCR_RANGE : BitField := ⟨15, 1, 5⟩
def HWIF_RANGEMAP_COEF_C : BitField := ⟨15, 5, 8⟩
def HWIF_RGB_R_PADD : BitField := ⟨16, 5, 0⟩
def HWIF_RGB_G_PADD : BitField := ⟨16, 5, 8⟩
def HWIF_RGB_B_PADD : BitField := ⟨16, 5, 16⟩
def HWIF_PP_IN_LU_BASE : BitField := ⟨18, 32, 0⟩
def HWIF_PP_OUT_LU_BASE : BitField := ⟨21, 32, 0⟩
def HWIF_PP_OUT_CH_BASE : BitField := ⟨22, 32, 0⟩
def HWIF_CONTRAST_THR1 : BitField := ⟨31, 8, 0⟩
def HWIF_CONTRAST_THR2 : BitField := ⟨31, 8, 8⟩
def HWIF_CONTRAST_OFF1 : BitField := ⟨32, 10, 0⟩
def HWIF_CONTRAST_OFF2 : BitField := ⟨32, 10, 16⟩
def HWIF_PP_IN_WIDTH : BitField := ⟨34, 9, 0⟩
def HWIF_PP_IN_W_EXT : BitField := ⟨34, 3, 9⟩
def HWIF_EXT_ORIG_WIDTH : BitField := ⟨34, 9, 12⟩
def HWIF_PP_IN_HEIGHT : BitField := ⟨34, 8, 21⟩
def HWIF_PP_IN_H_EXT : BitField := ⟨34, 3, 29⟩
def HWIF_PP_OUT_WIDTH : BitField := ⟨35, 11, 0⟩
def HWIF_PP_OUT_HEIGHT : BitField := ⟨35, 11, 16⟩
def HWIF_DITHER_SELECT_R : BitField := ⟨36, 2, 0⟩
def HWIF_DITHER_SELECT_G : BitField := ⟨36, 2, 2⟩
def HWIF_DITHER_SELECT_B : BitField := ⟨36, 2, 4⟩
def HWIF_PP_IN_ENDIAN : BitField := ⟨37, 1, 0⟩
def HWIF_PP_IN_A1_ENDIAN : BitField := ⟨37, 1, 1⟩
def HWIF_PP_IN_A2_ENDSEL : BitField := ⟨37, 1, 2⟩
def HWIF_PP_OUT_ENDIAN : BitField := ⟨37, 1, 3⟩
def HWIF_RGB_PIX_IN32 : BitField := ⟨37, 1, 4⟩
def HWIF_PP_IN_SWAP32_E : BitField := ⟨37, 1, 8⟩
def HWIF_PP_IN_A1_SWAP32 : BitField := ⟨37, 1, 9⟩
def HWIF_PP_OUT_SWAP16_E : BitField := ⟨37, 1, 10⟩
def HWIF_PP_OUT_SWAP32_E : BitField := ⟨37, 1, 11⟩
def HWIF_ROTATION_MODE : BitField := ⟨38, 3, 0⟩
def HWIF_PP_IN_FORMAT : BitField := ⟨38, 3, 8⟩
def HWIF_PP_OUT_FORMAT : BitField := ⟨38, 3, 11⟩
def HWIF_PP_IN_FORMAT_ES : BitField := ⟨38, 3, 16⟩
def HWIF_DISPLAY_WIDTH : BitField := ⟨39, 12, 0⟩
def HWIF_PP_CLK_GATE_E : BitField := ⟨41, 1, 3⟩
def HWIF_PP_PIPELINE_E : BitField := ⟨41, 1, 4⟩
def HWIF_PP_DATA_DISC_E : BitField := ⟨41, 1, 16⟩
def HWIF_PP_AHB_HLOCK_E : BitField := ⟨41, 1, 28⟩

/-! ## The parameters -/

/-- `PostProcessInfo`. -/
structure PostProcessInfo where
  enable : Nat := 0
  outFomart : Nat := 0
  shouldDither : Nat := 0
  cropX : Nat := 0
  cropY : Nat := 0
  cropW : Nat := 0
  cropH : Nat := 0
  deriving DecidableEq, Repr

def PP_IN_FORMAT_YUV420SEMI : Nat := 1
def PP_IN_FORMAT_YUV400 : Nat := 3
def PP_IN_FORMAT_YUV422SEMI : Nat := 4
def PP_IN_FORMAT_YUV440SEMI : Nat := 6
def PP_IN_FORMAT_YUV444_SEMI : Nat := 7
def PP_IN_FORMAT_YUV411_SEMI : Nat := 8

def PP_OUT_FORMAT_RGB565 : Nat := 0
def PP_OUT_FORMAT_ARGB : Nat := 1
def PP_OUT_FORMAT_YUV422INTERLAVE : Nat := 3
def PP_OUT_FORMAT_YUV420INTERLAVE : Nat := 5

/-! ## Register groups -/

/-- The registers that do not depend on the picture. -/
def ppFixed : List (BitField × Nat) :=
  [(HWIF_PP_AXI_RD_ID, 0), (HWIF_PP_AXI_WR_ID, 0), (HWIF_PP_AHB_HLOCK_E, 1), (HWIF_PP_SCMD_DIS, 1),
   (HWIF_PP_IN_A2_ENDSEL, 1), (HWIF_PP_IN_A1_SWAP32, 1), (HWIF_PP_IN_A1_ENDIAN, 1),
   (HWIF_PP_IN_SWAP32_E, 1), (HWIF_PP_DATA_DISC_E, 1), (HWIF_PP_CLK_GATE_E, 1),
   (HWIF_PP_IN_ENDIAN, 1), (HWIF_PP_OUT_ENDIAN, 1), (HWIF_PP_OUT_SWAP32_E, 1),
   (HWIF_PP_MAX_BURST, 16), (HWIF_PP_IN_LU_BASE, 0)]

/-- A size in macroblocks over the four fields of the input size. -/
def ppInSize (width height : Nat) : List (BitField × Nat) :=
  [(HWIF_PP_IN_W_EXT, (width / 16 &&& 0xE00) >>> 9), (HWIF_PP_IN_WIDTH, width / 16 &&& 0x1FF),
   (HWIF_PP_IN_H_EXT, (height / 16 &&& 0x700) >>> 8), (HWIF_PP_IN_HEIGHT, height / 16 &&& 0x0FF)]

/-- Where the part of the picture that is taken lies, and whether it ends inside a
macroblock. -/
def ppCrop (ppInfo : PostProcessInfo) : List (BitField × Nat) :=
  [(HWIF_CROP_STARTX_EXT, (ppInfo.cropX / 16 &&& 0xE00) >>> 9),
   (HWIF_CROP_STARTX, ppInfo.cropX / 16 &&& 0x1FF),
   (HWIF_CROP_STARTY_EXT, (ppInfo.cropY / 16 &&& 0x700) >>> 8),
   (HWIF_CROP_STARTY, ppInfo.cropY / 16 &&& 0x0FF),
   (HWIF_PP_CROP8_R_E, if ppInfo.cropW &&& 0x0F ≠ 0 then 1 else 0),
   (HWIF_PP_CROP8_D_E, if ppInfo.cropH &&& 0x0F ≠ 0 then 1 else 0)]

/-- The output size and the address of the picture. -/
def ppOutSize (dst : MppBufferInfo) (outWidth outHeight : Nat) : List (BitField × Nat) :=
  [(HWIF_DISPLAY_WIDTH, outWidth), (HWIF_PP_OUT_WIDTH, outWidth), (HWIF_PP_OUT_HEIGHT, outHeight),
   (HWIF_PP_OUT_LU_BASE, dst.phyAddr)]

/-- The format of the input, `none` for one there is no case for. -/
def ppInFormat (inColor : Nat) : Option (List (BitField × Nat)) :=
  if inColor < 7 then some [(HWIF_PP_IN_FORMAT, inColor)]
  else if inColor = PP_IN_FORMAT_YUV444_SEMI then
    some [(HWIF_PP_IN_FORMAT, 7), (HWIF_PP_IN_FORMAT_ES, 0)]
  else if inColor = PP_IN_FORMAT_YUV411_SEMI then
    some [(HWIF_PP_IN_FORMAT, 7), (HWIF_PP_IN_FORMAT_ES, 1)]
  else none

/-- The conversion to RGB, for the constants of this build: `BRIGHTNESS`, `CONTRAST`
and `SATURATION` are zero and the range is that of video. -/
def ppColour (outColor : Nat) : List (BitField × Nat) :=
  [(HWIF_RANGEMAP_COEF_Y, 9), (HWIF_RANGEMAP_COEF_C, 9), (HWIF_COLOR_COEFFF, 0)] ++
    if outColor ≤ PP_OUT_FORMAT_ARGB then
      [(HWIF_YCBCR_RANGE, 1), (HWIF_CONTRAST_THR1, 55), (HWIF_CONTRAST_THR2, 165),
       (HWIF_CONTRAST_OFF1, 0), (HWIF_CONTRAST_OFF2, 0), (HWIF_COLOR_COEFFA1, 256),
       (HWIF_COLOR_COEFFA2, 256), (HWIF_PP_OUT_ENDIAN, 0), (HWIF_COLOR_COEFFB, 350),
       (HWIF_COLOR_COEFFC, 179), (HWIF_COLOR_COEFFD, 86), (HWIF_COLOR_COEFFE, 443)]
    else []

/-- The format of the output, `none` for one there is no case for. -/
def ppOutFormat (dst : MppBufferInfo) (outColor dither : Nat) : Option (List (BitField × Nat)) :=
  if outColor = PP_OUT_FORMAT_RGB565 then
    some ([(HWIF_R_MASK, 0xF800F800), (HWIF_G_MASK, 0x07E007E0), (HWIF_B_MASK, 0x001F001F),
       (HWIF_RGB_R_PADD, 0), (HWIF_RGB_G_PADD, 5), (HWIF_RGB_B_PADD, 11)] ++
      (if dither ≠ 0 then
        [(HWIF_DITHER_SELECT_R, 2), (HWIF_DITHER_SELECT_G, 3), (HWIF_DITHER_SELECT_B, 2)]
      else []) ++
      [(HWIF_RGB_PIX_IN32, 1), (HWIF_PP_OUT_SWAP16_E, 1), (HWIF_PP_OUT_FORMAT, 0)])
  else if outColor = PP_OUT_FORMAT_ARGB then
    some [(HWIF_R_MASK, 0xFF0000FF), (HWIF_G_MASK, 0xFF00FF00), (HWIF_B_MASK, 0xFFFF0000),
      (HWIF_RGB_R_PADD, 24), (HWIF_RGB_G_PADD, 16), (HWIF_RGB_B_PADD, 8), (HWIF_RGB_PIX_IN32, 0),
      (HWIF_PP_OUT_FORMAT, 0)]
  else if outColor = PP_OUT_FORMAT_YUV422INTERLAVE then some [(HWIF_PP_OUT_FORMAT, 3)]
  else if outColor = PP_OUT_FORMAT_YUV420INTERLAVE then
    some [(HWIF_PP_OUT_CH_BASE, dst.phyAddr), (HWIF_PP_OUT_FORMAT, 5)]
  else none

/-- One direction of the scaling, with the fields it goes to; shrinking the height adds
`round` to the ratio. The sizes are those less one. -/
def ppScale (mode ratio invra : BitField) (round n m : Nat) : List (BitField × Nat) :=
  if n < m then
    [(mode, 1), (ratio, u32 (m <<< 16) / n), (invra, u32 (n <<< 16) / m)]
  else if m < n then
    [(mode, 2), (invra, u32 (u32 (m + 1) <<< 16) / u32 (n + 1) + round)]
  else
    [(mode, 0)]

/-- The scaling of both directions, and the start of the pipeline. -/
def ppScaling (inWidth inHeigth outWidth outHeight : Nat) (ppInfo : PostProcessInfo) :
    List (BitField × Nat) :=
  [(HWIF_ROTATION_MODE, 0)] ++
    ppScale HWIF_HOR_SCALE_MODE HWIF_SCALE_WRATIO HWIF_WSCALE_INVRA 0
      (sub32 inWidth 1) (sub32 outWidth 1) ++
    ppScale HWIF_VER_SCALE_MODE HWIF_SCALE_HRATIO HWIF_HSCALE_INVRA 1
      (sub32 inHeigth 1) (sub32 outHeight 1) ++
    [(HWIF_PP_PIPELINE_E, ppInfo.enable)]

/-! ## The function -/

/-- `SetPostProcessor`: what it returns, and the registers it writes. The sizes and the
numbers of `ppInfo` are not negative; the size that is scaled is that of the part taken. -/
def setPostProcessor (dst : MppBufferInfo) (inWidth inHeigth outWidth outHeight inColor : Nat)
    (ppInfo : PostProcessInfo) : Int × List (BitField × Nat) :=
  let crops : Bool := decide (ppInfo.cropW ≠ 0)
  let width := if crops then ppInfo.cropW else inWidth
  let heigth := if crops then ppInfo.cropH else inHeigth
  let sizes := ppFixed ++ [(HWIF_EXT_ORIG_WIDTH, inWidth >>> 4)] ++ ppInSize width heigth ++
    (if crops then ppCrop ppInfo else []) ++ ppOutSize dst outWidth outHeight
  match ppInFormat inColor with
  | none => (-1, sizes)
  | some input =>
    let coloured := sizes ++ input ++ ppColour ppInfo.outFomart
    match ppOutFormat dst ppInfo.outFomart ppInfo.shouldDither with
    | none => (-1, coloured)
    | some output =>
      (0, coloured ++ output ++ ppScaling width heigth outWidth outHeight ppInfo)

end Jpeg

end Rk3399
