import Rk3399.Jpeg.Model.PostProcessor
import Rk3399.Jpeg.Model.Session
/-!
# The wrapper between the image information and the decoder

What `pv_rkJpegdecoder_oneframe` of `pv_jpegdec_api.cpp` makes of the record
`JpegDecGetImageInfo` filled in: the size and the format it gives the
post-processor, and the height of the slices it decodes a large picture in.
-/

namespace Rk3399

namespace Wrapper

open Prog
open Jpeg (JpegDecContainer JpegDecImageInfo JpegDecInput JpegDecRet PostProcessInfo)
open Jpeg (JPEGDEC_YCbCr400 JPEGDEC_YCbCr420_SEMIPLANAR JPEGDEC_YCbCr422_SEMIPLANAR)
open Jpeg (JPEGDEC_YCbCr440 JPEGDEC_YCbCr411_SEMIPLANAR JPEGDEC_YCbCr444_SEMIPLANAR)

/-! ## The post-processor -/

/-- `(a + (m - 1)) & ~(m - 1)` for a power of two `m`. -/
def alignUp (m a : Nat) : Nat := alignDown m (u32 (a + (m - 1)))

/-- The output size, `ppScaleW` and `ppScaleH`. -/
def ppScaleSize (colorConv : Bool) (info : JpegDecImageInfo) : Nat × Nat :=
  if colorConv ∧ info.outputWidth ≤ 1920 then
    (alignUp 8 info.outputWidth, alignUp 2 info.outputHeight)
  else
    (alignUp 16 info.outputWidth, alignUp 16 info.outputHeight)

/-- The format of the input, zero for one there is no case for. -/
def ppInputFomart (info : JpegDecImageInfo) : Nat :=
  if info.outputFormat = JPEGDEC_YCbCr400 then Jpeg.PP_IN_FORMAT_YUV400
  else if info.outputFormat = JPEGDEC_YCbCr420_SEMIPLANAR then Jpeg.PP_IN_FORMAT_YUV420SEMI
  else if info.outputFormat = JPEGDEC_YCbCr422_SEMIPLANAR then Jpeg.PP_IN_FORMAT_YUV422SEMI
  else if info.outputFormat = JPEGDEC_YCbCr440 then Jpeg.PP_IN_FORMAT_YUV440SEMI
  else if info.outputFormat = JPEGDEC_YCbCr411_SEMIPLANAR then Jpeg.PP_IN_FORMAT_YUV411_SEMI
  else if info.outputFormat = JPEGDEC_YCbCr444_SEMIPLANAR then Jpeg.PP_IN_FORMAT_YUV444_SEMI
  else 0

/-- `ppInfo`: the output is 4:2:0, and the post-processor runs where colours are
converted. -/
def ppInfo (colorConv : Bool) : PostProcessInfo where
  enable := if colorConv then 1 else 0
  outFomart := Jpeg.PP_OUT_FORMAT_YUV420INTERLAVE

/-- The fields of the instance the wrapper sets, and its call of `SetPostProcessor`, whose
return value it does not look at. -/
def attach (colorConv : Bool) (pictureMem : Jpeg.MppBufferInfo) (info : JpegDecImageInfo)
    (c : JpegDecContainer) : JpegDecContainer :=
  let size := ppScaleSize colorConv info
  let writes := (Jpeg.setPostProcessor pictureMem info.outputWidth info.outputHeight size.1 size.2
    (ppInputFomart info) (ppInfo colorConv)).2
  { c with
    ppInstance := if colorConv then 1 else 0
    pictureMem := pictureMem
    jpegRegs := BitField.writes (Jpeg.asWords writes) c.jpegRegs }

/-! ## Slices -/

/-- The MCUs in a row. -/
def mcuInRow (info : JpegDecImageInfo) : Nat :=
  if info.outputFormat = JPEGDEC_YCbCr400 ∨ info.outputFormat = JPEGDEC_YCbCr444_SEMIPLANAR then
    info.outputWidth / 8
  else if info.outputFormat = JPEGDEC_YCbCr420_SEMIPLANAR then info.outputWidth / 16
  else if info.outputFormat = JPEGDEC_YCbCr422_SEMIPLANAR then info.outputWidth / 16
  else if info.outputFormat = JPEGDEC_YCbCr440 then info.outputWidth / 8
  else if info.outputFormat = JPEGDEC_YCbCr411_SEMIPLANAR then info.outputWidth / 32
  else 0

/-- The formats whose MCUs are eight pels wide count two MCUs as one. -/
def mcuSizeDivider (info : JpegDecImageInfo) : Nat :=
  if info.outputFormat = JPEGDEC_YCbCr400 ∨ info.outputFormat = JPEGDEC_YCbCr440 ∨
      info.outputFormat = JPEGDEC_YCbCr444_SEMIPLANAR then 2 else 1

/-- `mcuInRow / mcuSizeDivider`. -/
def rowMcus (info : JpegDecImageInfo) : Nat := mcuInRow info / mcuSizeDivider info

/-- One round of the loop that forces slices of `n` rows, the state; `false` leaves it. -/
def sliceRound (mcus : Nat) : Prog Jpeg.Fault JpegDecRet Nat Bool := do
  modify fun n => u32 (n + 1)
  gets fun n => decide (u32 (u32 (n * mcus) + mcus) < Jpeg.JPEGDEC_MAX_SLICE_SIZE_8190)

/-- The picture is decoded in slices. -/
def Sliced (info : JpegDecImageInfo) : Prop :=
  Jpeg.JPEGDEC_MAX_PIXEL_AMOUNT < u32 (info.outputWidth * info.outputHeight)

instance (info : JpegDecImageInfo) : Decidable (Sliced info) := inferInstanceAs (Decidable (_ < _))

/-- The choice of `jpegIn.sliceMbSet`, the state. -/
def chooseSliceMbSet (rounds : Nat) (info : JpegDecImageInfo) :
    Prog Jpeg.Fault JpegDecRet Nat Unit := do
  modify fun _ => 0
  whenever (fun n => n = 0 ∧ Sliced info) (loop .rounds (sliceRound (rowMcus info)) rounds)

/-- The arguments of `JpegDecDecode`: those of `JpegDecGetImageInfo`, and the slices. -/
def jpegIn (pDecIn : JpegDecInput) (sliceMbSet : Nat) : JpegDecInput :=
  { pDecIn with sliceMbSet := sliceMbSet, decImageType := Jpeg.JPEGDEC_IMAGE }

/-! ## A picture -/

/-- A baseline picture with bytes behind it: the decoder takes no buffer of fewer than
256 bytes. -/
def paddedPicture (width height : Nat) : List UInt8 :=
  Jpeg.plainPicture width height 0 ++ List.replicate 256 0

/-- The arguments for a stream: the wrapper gives the length as the size of the buffer
too. -/
def streamInput (bytes : List UInt8) : JpegDecInput :=
  { Jpeg.inputOf bytes 0 with bufferSize := bytes.length }

/-- An environment for this stream, in which the hardware is ready. -/
def streamEnv (bytes : List UInt8) : Jpeg.DecodeEnv := Jpeg.envOf bytes Jpeg.readyRegs

/-- The image information of a stream, asked for of a fresh instance. -/
def probeOf (bytes : List UInt8) : Jpeg.Probe :=
  (Jpeg.jpegDecGetImageInfo (streamEnv bytes).mem (streamEnv bytes).rounds (streamInput bytes)
    (Jpeg.probeStart (streamInput bytes) {} Jpeg.jpegDecInit)).state

end Wrapper

end Rk3399
