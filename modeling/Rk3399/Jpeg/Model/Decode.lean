import Rk3399.Jpeg.Model.Markers
import Rk3399.Jpeg.Model.ImageInfo
/-!
# Decoding a picture

`JpegDecDecode` of `jpegdecapi.c`: the checks of the arguments, the marker
loop, and the loop over the starts of the hardware. What the hardware
answers is a parameter.
-/

namespace Rk3399

namespace Jpeg

open Prog

/-! ## Arguments -/

/-- The address of a caller's buffer is given without its bus address, or the
bus address without the address. -/
def JpegDecLinearMem.Half (b : JpegDecLinearMem) : Prop :=
  (b.pVirtualAddress = 0 ∧ b.busAddress ≠ 0) ∨ (b.pVirtualAddress ≠ 0 ∧ b.busAddress = 0)

instance (b : JpegDecLinearMem) : Decidable b.Half := inferInstanceAs (Decidable (_ ∨ _))

/-- The checks of the arguments, and those of the buffer size where this is
not the last buffer. -/
def checkInput (pDecIn : JpegDecInput) : Decoder JpegDecRet Unit := do
  exitIf .paramError fun _ => BadVirtualAddress pDecIn.streamBuffer.pVirtualAddress
  exitIf .paramError fun _ => pDecIn.decImageType ≠ 0 ∧ pDecIn.decImageType ≠ 1
  exitIf .paramError fun _ => pDecIn.pictureBufferY.Half ∨ pDecIn.pictureBufferCbCr.Half
  exitIf .invalidStreamLength fun _ => pDecIn.streamLength < 1
  if ← gets (fun c => decide (c.info.streamEndFlag = 0 ∧ c.info.inputBufferEmpty = 0)) then
    exitIf .invalidInputBufferSize fun _ =>
      DEC_RK70_MAX_STREAM < pDecIn.streamLength ∧ BadBufferSize pDecIn.bufferSize
    exitIf .invalidInputBufferSize fun _ =>
      pDecIn.bufferSize ≠ 0 ∧ BadBufferSize pDecIn.bufferSize
    exitIf .invalidInputBufferSize fun c =>
      c.info.init ≠ 0 ∧ pDecIn.bufferSize < c.info.initBufferSize

/-- The stream is taken over from the caller. -/
def TakesStream (c : JpegDecContainer) : Prop :=
  c.info.progressiveScanReady = 0 ∧ c.info.nonInterleavedScanReady = 0

instance (c : JpegDecContainer) : Decidable (TakesStream c) := inferInstanceAs (Decidable (_ ∧ _))

/-- The position at the start of the caller's buffer. -/
def startStream (pDecIn : JpegDecInput) (s : StreamStorage) : StreamStorage :=
  { s with
    bitPosInByte := 0
    pCurrPos := pDecIn.streamBuffer.pVirtualAddress
    streamBus := pDecIn.streamBuffer.busAddress
    pStartOfStream := pDecIn.streamBuffer.pVirtualAddress }

/-- Store the stream parameters, or go on with the stream of the last call. -/
def storeStream (pDecIn : JpegDecInput) (c : JpegDecContainer) : JpegDecContainer :=
  if TakesStream c then
    { c with
      stream := { startStream pDecIn c.stream with
        readBits := 0
        streamLength := pDecIn.streamLength
        appnFlag := 0
        passed := [] } }
  else { c with image.headerReady := 0 }

/-- The local record `infoTmp` of `JpegDecDecode` is not initialised; `junk`
is what it holds. -/
def probeImage (env : Env) (junk : JpegDecImageInfo) (pDecIn : JpegDecInput) :
    Decoder JpegDecRet Unit := do
  if ← gets (fun c => decide
      (c.info.init = 0 ∧ c.info.SliceReadyForPause = 0 ∧ c.info.inputBufferEmpty = 0)) then
    zoom (probeStart pDecIn junk) (fun p _ => p.cont)
      (jpegDecGetImageInfo env.mem env.rounds pDecIn)

/-- The checks up to the point where the stream is taken over. The trace is
that of the call. -/
def openStream (env : Env) (junk : JpegDecImageInfo) (pDecIn : JpegDecInput) :
    Decoder JpegDecRet Unit := do
  modify fun c => { c with log := [] }
  checkInput pDecIn
  probeImage env junk pDecIn
  modify (storeStream pDecIn)

/-! ## Features -/

/-- The formats whose MCUs are eight pels wide count two MCUs as one. -/
def mcuSizeDivider (c : JpegDecContainer) : Nat :=
  if c.info.getInfoYCbCrMode = JPEGDEC_YCbCr400 ∨ c.info.getInfoYCbCrMode = JPEGDEC_YCbCr440 ∨
      c.info.getInfoYCbCrMode = JPEGDEC_YCbCr444_SEMIPLANAR then 2 else 1

/-- The MCUs of a slice: `sliceMbSet * (numMcuInRow / mcuSizeDivider)`. -/
def mcusInSlice (sliceMbSet : Nat) (c : JpegDecContainer) : Nat :=
  u32 (sliceMbSet * (c.frame.numMcuInRow / mcuSizeDivider c))

/-- The checks of what this hardware supports. -/
def checkSupport (pDecIn : JpegDecInput) : Decoder JpegDecRet Unit := do
  if ← gets (fun c => decide (c.is8190 = 0)) then
    exitIf .unsupported fun c =>
      c.info.operationType = JPEGDEC_NONINTERLEAVED ∨ c.info.operationType = JPEGDEC_PROGRESSIVE
    exitIf .paramError fun c => c.maxSupportedSliceSize < mcusInSlice pDecIn.sliceMbSet c
    exitIf .paramError fun c =>
      pDecIn.sliceMbSet = 0 ∧ c.maxSupportedSliceSize < c.frame.numMcuInFrame
  else
    exitIf .unsupported fun c =>
      c.fuseBurned ≠ 0 ∧ c.info.operationType = JPEGDEC_PROGRESSIVE
    exitIf .sliceModeUnsupported fun c =>
      (pDecIn.sliceMbSet ≠ 0 ∧ pDecIn.decImageType = JPEGDEC_IMAGE ∧
        c.info.operationType ≠ JPEGDEC_BASELINE) ∨
      (pDecIn.sliceMbSet ≠ 0 ∧ pDecIn.decImageType = JPEGDEC_THUMBNAIL ∧
        c.info.operationTypeThumb ≠ JPEGDEC_BASELINE)
    exitIf .paramError fun c =>
      pDecIn.sliceMbSet = 0 ∧ JPEGDEC_MAX_PIXEL_AMOUNT < u32 (c.frame.hwX * c.frame.hwY)
    exitIf .paramError fun c => c.maxSupportedSliceSize < mcusInSlice pDecIn.sliceMbSet c

/-- The checks of what the hardware supports, and of the size of a slice. -/
def checkFeatures (pDecIn : JpegDecInput) : Decoder JpegDecRet Unit := do
  checkSupport pDecIn
  exitIf .paramError fun c =>
    pDecIn.sliceMbSet ≠ 0 ∧ c.info.SliceReadyForPause = 0 ∧ c.info.inputBufferEmpty = 0 ∧
      c.frame.numMcuInFrame < mcusInSlice pDecIn.sliceMbSet c

/-- A buffer of `n` bytes is decoded next. -/
def streamInput (n : Nat) (c : JpegDecContainer) : JpegDecContainer :=
  { c with
    info.inputStreaming := 1
    info.inputBufferLen := n
    info.decodedStreamLen := u32 (c.info.decodedStreamLen + n) }

/-- Take over the next buffer of the stream where the last one is used up. -/
def nextBuffer (pDecIn : JpegDecInput) (c : JpegDecContainer) : JpegDecContainer :=
  if c.info.inputBufferEmpty ≠ 0 then
    streamInput (if pDecIn.bufferSize ≠ 0 then pDecIn.bufferSize else pDecIn.streamLength)
      { c with stream := startStream pDecIn c.stream }
  else c

/-- The addresses of a buffer of the caller. -/
def MppBufferInfo.given (b : MppBufferInfo) (m : JpegDecLinearMem) : MppBufferInfo :=
  { b with virAddr := m.pVirtualAddress, phyAddr := m.busAddress }

/-- The output the user allocated. -/
def updateGiven (pDecIn : JpegDecInput) (c : JpegDecContainer) : JpegDecContainer :=
  { c with
    info.givenOutLuma := c.info.givenOutLuma.given pDecIn.pictureBufferY
    info.givenOutChroma := c.info.givenOutChroma.given pDecIn.pictureBufferCbCr
    info.givenOutChroma2 := c.info.givenOutChroma2.given pDecIn.pictureBufferCr }

/-- The checks and updates between taking over the stream and the marker
loop. -/
def checkPicture (pDecIn : JpegDecInput) : Decoder JpegDecRet Unit := do
  modify fun c => { c with info.sliceMbSetValue := pDecIn.sliceMbSet }
  checkFeatures pDecIn
  modify (nextBuffer pDecIn)
  modify (updateGiven pDecIn)

/-- Input streaming starts with a buffer that is smaller than the stream. -/
def startStreaming (pDecIn : JpegDecInput) (c : JpegDecContainer) : JpegDecContainer :=
  if c.info.SliceReadyForPause = 0 ∧ c.info.inputBufferEmpty = 0 ∧ pDecIn.bufferSize ≠ 0 then
    streamInput pDecIn.bufferSize c
  else c

/-- Read the headers. -/
def readHeaders (env : Env) (pDecIn : JpegDecInput) : Decoder JpegDecRet Unit := do
  modify (startStreaming pDecIn)
  findMarkers env pDecIn.decImageType

/-! ## Starting the hardware -/

/-- The choice between starting the hardware and going on with it. -/
def startOrContinue : Decoder JpegDecRet Unit := do
  if ← gets (fun c => decide (c.info.SliceReadyForPause = 0)) then
    if ← gets (fun c => decide
        (c.info.progressiveScanReady = 0 ∨ c.info.nonInterleavedScanReady ≠ 0)) then
      jpegDecInitHW
      modify fun c => { c with info.nonInterleavedScanReady := 0 }
    else
      jpegDecInitHWProgressiveContinue
      modify fun c => { c with info.progressiveScanReady := 0 }
  else
    jpegDecInitHWContinue

/-- One start of the hardware. -/
def startHw : Decoder JpegDecRet Unit := do
  modify fun c => { c with usePipeline := if c.ppInstance ≠ 0 then 1 else c.usePipeline }
  if ← gets (fun c => decide (c.info.inputBufferEmpty = 0)) then
    modify fun c =>
      if c.info.sliceMbSetValue ≠ 0 ∧ c.usePipeline = 0 then jpegDecSliceSizeCalculation c else c
    startOrContinue
    modify fun c => { c with info.SliceCount := u32 (c.info.SliceCount + 1) }
  else
    jpegDecInitHWInputBuffLoad
    modify fun c => { c with info.inputBufferEmpty := 0 }

/-! ## The answer of the hardware -/

/-- What `VPUClientWaitResult` answers: whether the hardware acknowledged, and
the registers it hands back. -/
structure HwReply where
  ok : Bool
  regs : WordFile 32

/-- The output addresses of the caller. -/
structure JpegDecOutput where
  outputPictureY : JpegDecLinearMem := {}
  outputPictureCbCr : JpegDecLinearMem := {}
  outputPictureCr : JpegDecLinearMem := {}
  deriving DecidableEq, Repr

/-- The state of `JpegDecDecode`: the instance, the record of the caller, the
local variables, and the number of answers of the hardware so far. -/
structure Decoding where
  cont : JpegDecContainer
  output : JpegDecOutput := {}
  endOfImage : Nat := 0
  nonInterleavedRdy : Nat := 0
  replies : Nat := 0

/-- The steps of `JpegDecDecode`. -/
abbrev DecodeStep (α : Type) : Type := Prog Fault JpegDecRet Decoding α

/-- What `JpegDecDecode` gets from outside: the answers of the hardware in
order, and what its local record holds. -/
structure DecodeEnv extends Env where
  hw : Nat → HwReply
  junk : JpegDecImageInfo

namespace Decoding

variable {α : Type}

/-- A step on the instance. -/
def onCont (x : Decoder JpegDecRet α) : DecodeStep α :=
  zoom Decoding.cont (fun c d => { d with cont := c }) x

/-- The addresses of a buffer as the caller is given them. -/
def outputOf (b : MppBufferInfo) : JpegDecLinearMem := ⟨b.virAddr, b.phyAddr⟩

/-- Output addresses: luma, and the two chroma planes of a picture that has
them. -/
def setOutputs (luma chroma chroma2 : JpegDecLinearMem) (d : Decoding) : Decoding :=
  if d.cont.image.sizeChroma ≠ 0 then { d with output := ⟨luma, chroma, chroma2⟩ }
  else { d with output.outputPictureY := luma }

/-- The output addresses of the instance. -/
def imageOutput (d : Decoding) : Decoding :=
  d.setOutputs (outputOf d.cont.info.outLuma) (outputOf d.cont.info.outChroma)
    (outputOf d.cont.info.outChroma2)

/-- The output addresses of the user. -/
def givenOutput (d : Decoding) : Decoding :=
  d.setOutputs (outputOf d.cont.info.givenOutLuma) (outputOf d.cont.info.givenOutChroma)
    (outputOf d.cont.info.givenOutChroma2)

/-- The output addresses where there is no post-processor. -/
def imageOutputNoPp (d : Decoding) : Decoding :=
  if d.cont.ppInstance = 0 then d.imageOutput else d

end Decoding

open Decoding

variable (env : DecodeEnv)

/-- A bit of the interrupt status. -/
def Irq (bit : Nat) (c : JpegDecContainer) : Prop :=
  rkGetRegisterFile HWIF_DEC_IRQ_STAT c &&& bit ≠ 0

instance (bit : Nat) (c : JpegDecContainer) : Decidable (Irq bit c) :=
  inferInstanceAs (Decidable (_ ≠ _))

def JPEGDEC_RK70_IRQ_DEC_RDY : Nat := 0x1
def JPEGDEC_RK70_IRQ_BUS_ERROR : Nat := 0x2
def JPEGDEC_RK70_IRQ_BUFFER_EMPTY : Nat := 0x4
def JPEGDEC_RK70_IRQ_STREAM_ERROR : Nat := 0x100
def JPEGDEC_RK70_IRQ_TIMEOUT : Nat := 0x200

/-- `JPEGDEC_CLEAR_IRQ`, and the status that is cleared for the next
picture. -/
def clearStatus : DecodeStep Unit := onCont do
  rkSetRegisterFiles fun _ => [(HWIF_DEC_IRQ_STAT, 0), (HWIF_DEC_IRQ, 0)]
  modify fun c => { c with asicRunning := 0, image.imageReady := 0, image.headerReady := 0 }

/-- Wait for the hardware. -/
def waitResult : DecodeStep Unit := do
  let reply ← gets fun d => env.hw d.replies
  modify fun d => { d with replies := d.replies + 1, cont.jpegRegs := reply.regs }
  if ¬ reply.ok then
    modify fun d => { d with cont.asicRunning := 0 }
    exit .systemError

/-- The modes whose pictures run into a timeout where the height is not a
multiple of 16. -/
def TimeoutMode (c : JpegDecContainer) : Prop :=
  c.frame.Y % 16 ≠ 0 ∧ (c.info.yCbCrMode = JPEGDEC_YUV422 ∨
    c.info.yCbCrMode = JPEGDEC_YUV444 ∨ c.info.yCbCrMode = JPEGDEC_YUV411)

instance (c : JpegDecContainer) : Decidable (TimeoutMode c) := inferInstanceAs (Decidable (_ ∧ _))

/-- The interrupts that end the call. -/
def checkIrq : DecodeStep Unit := do
  let c ← gets (·.cont)
  whenever (fun d => Irq JPEGDEC_RK70_IRQ_BUS_ERROR d.cont) do
    clearStatus
    exit .hwBusError
  whenever (fun d => Irq JPEGDEC_RK70_IRQ_STREAM_ERROR d.cont ∨
      Irq JPEGDEC_RK70_IRQ_TIMEOUT d.cont) do
    modify imageOutputNoPp
    clearStatus
    exit (if Irq JPEGDEC_RK70_IRQ_TIMEOUT c ∧ TimeoutMode c then .frameReady else .strmError)
  whenever (fun d => Irq JPEGDEC_RK70_IRQ_BUFFER_EMPTY d.cont ∧
      ¬ Irq JPEGDEC_RK70_IRQ_DEC_RDY d.cont) do
    onCont do
      rkSetRegisterFiles fun _ => [(HWIF_DEC_BUFFER_INT, 0)]
      modify fun c => { c with
        info.inputBufferEmpty := 1
        info.streamEndFlag :=
          if c.stream.streamLength ≤ u32 (c.info.decodedStreamLen + c.info.inputBufferLen) then 1
          else c.info.streamEndFlag }
    modify imageOutputNoPp
    exit .strmProcessed
  onCont do
    rkSetRegisterFiles fun c =>
      (HWIF_DEC_RDY_INT, 0) ::
        if rkGetRegisterFile HWIF_DEC_IRQ c ≠ 0 then [(HWIF_DEC_IRQ, 0)] else []

/-- A slice is ready: the caller gets it, unless a post-processor outside the
pipeline takes the picture. -/
def sliceReady : DecodeStep Unit := do
  modify fun d => { d with cont.info.SliceReadyForPause :=
    if d.cont.ppInstance = 0 ∨ d.cont.usePipeline = 0 then 1 else 0 }
  modify fun d =>
    if d.cont.info.SliceReadyForPause = 1 then
      if d.cont.info.userAllocMem = 1 then d.givenOutput
      else if d.cont.info.userAllocMem = 0 then d.imageOutput
      else d
    else d
  if ← gets (fun d => decide (d.cont.ppInstance ≠ 0 ∧ d.cont.usePipeline = 0)) then
    modify (setOutputs {} {} {})
    modify fun d => { d with cont.info.noSliceIrqForUser := 1 }
  else
    exit .sliceReady

/-- The loop that looks for the end of the image or for the next scan, `n`
bytes from `pCurrPos[i]` on; the value is `endOfImage`. -/
def findEnd (mem : Nat → UInt8) : Nat → Nat → Decoder JpegDecRet Nat
  | 0, _ => return 1
  | n + 1, i => do
    if (← onStream (deref mem i)) = 0xFF then
      let currentByte ← onStream (deref mem (i + 1))
      if currentByte = 0xD9 then return 1
      else if currentByte = 0xC4 ∨ currentByte = 0xDA then return 0
      else findEnd mem n (i + 1)
    else
      findEnd mem n (i + 1)

/-- The position behind a scan, ten bytes before where the hardware stopped;
`pCurrPos` is a 64-bit pointer. -/
def behindScan (c : JpegDecContainer) : JpegDecContainer :=
  let pCurrPos := (2 ^ 64 - 10 + rkGetRegisterFile HWIF_RLC_VLC_BASE c) % 2 ^ 64
  { c with
    stream.pCurrPos := pCurrPos
    stream.bitPosInByte := 0
    stream.readBits := u32 (sub32 pCurrPos c.stream.pStartOfStream * 8) }

/-- Note that the component of the scan is decoded; the value says whether all
three are. -/
def componentDone : Decoder JpegDecRet Bool := do
  let k ← subscript (← gets (·.info.componentId))
  modify fun c => { c with info.components := Function.update c.info.components k 1 }
  let all ← gets fun c => decide (∀ k, c.info.components k = 1)
  modify fun c => { c with info.noSliceIrqForUser := if all then 0 else 1 }
  return all

/-- A scan of a progressive or non-interleaved picture is ready. -/
def scanReady : DecodeStep Unit := do
  let endOfImage ← onCont do
    modify behindScan
    let n ← gets fun c => sub32 c.stream.streamLength (c.stream.readBits / 8)
    let endOfImage ← findEnd env.mem n 0
    modify fun c => { c with info.SliceCount := 0, info.SliceReadyForPause := 0 }
    return endOfImage
  modify fun d => { d with endOfImage := endOfImage }
  if endOfImage = 0 then
    modify fun d => if d.cont.info.noSliceIrqForUser = 0 then d.imageOutputNoPp else d
    modify fun d => { d with cont.info.noSliceIrqForUser := 0 }
    if ← gets (fun d => decide (d.cont.info.operationType = JPEGDEC_PROGRESSIVE)) then
      modify fun d => { d with cont.info.progressiveScanReady := 1 }
      exitIf .scanProcessed fun d => d.cont.info.nonInterleaved ≠ 0
      modify fun d => { d with cont.info.noSliceIrqForUser := 1 }
    else
      modify fun d => { d with cont.info.nonInterleavedScanReady := 1 }
      let _ ← onCont componentDone
      modify fun d => { d with nonInterleavedRdy := 0 }
  else if ← gets (fun d => decide (d.cont.info.operationType = JPEGDEC_NONINTERLEAVED)) then
    let all ← onCont componentDone
    modify fun d => { d with nonInterleavedRdy := if all then 1 else 0 }

/-- The operation type is not the baseline one. -/
def MultiScan (c : JpegDecContainer) : Prop :=
  c.info.operationType = JPEGDEC_PROGRESSIVE ∨ c.info.operationType = JPEGDEC_NONINTERLEAVED

instance (c : JpegDecContainer) : Decidable (MultiScan c) := inferInstanceAs (Decidable (_ ∨ _))

/-- What the hardware finished: a slice, a scan or the picture. -/
def hwFinished : DecodeStep Unit := do
  if ← gets (fun d => decide (rkGetRegisterFile HWIF_JPEG_SLICE_H d.cont ≠ 0 ∧
      rkGetRegisterFile HWIF_DEC_SLICE_INT d.cont ≠ 0)) then
    sliceReady
  else if ← gets (fun d => decide (MultiScan d.cont)) then
    scanReady env
  else
    modify fun d => { d with cont.info.noSliceIrqForUser := 0 }

/-- The answer of the hardware to a start. -/
def hwAnswer : DecodeStep Unit := do
  waitResult env
  checkIrq
  hwFinished env
  modify fun d => if d.cont.info.noSliceIrqForUser = 0 then d.imageOutputNoPp else d
  modify fun d =>
    if d.cont.info.noSliceIrqForUser = 0 then
      { d with cont.asicRunning := 0, cont.image.imageReady := 1 }
    else d

/-- The headers of the next scan of a picture that has several. -/
def nextScan : DecodeStep Unit :=
  whenever (fun d => d.cont.info.operationType = JPEGDEC_PROGRESSIVE ∨
      (d.cont.info.operationType = JPEGDEC_NONINTERLEAVED ∧ d.nonInterleavedRdy = 0)) do
    let retCode ← onCont (call (jpegDecNextScanHdrs env.toEnv))
    if retCode ≠ some .frameReady then
      orReturn retCode

/-- One round of the hardware loop; `false` leaves it. -/
def hwRound : DecodeStep Bool := do
  onCont startHw
  hwAnswer env
  nextScan env
  gets fun d => decide (d.cont.image.imageReady = 0)

/-! ## The end of a picture -/

/-- The first component from `i` on that no scan decoded, `3` where there is
none. -/
def nextNeeded (c : JpegDecContainer) (i : Nat) : Nat :=
  (([0, 1, 2] : List (Fin 3)).find? fun k =>
    decide (i ≤ k.val ∧ c.info.pfNeeded k ≠ 0)).elim 3 (·.val)

/-- Decode an empty scan for component `i`, and go on with the next component
that needs one in the next call. -/
def finishComponent (i : Nat) : DecodeStep Unit := do
  onCont (jpegDecInitHWEmptyScan false i)
  waitResult env
  let next ← gets fun d => nextNeeded d.cont (i + 1)
  if next = 3 then
    modify fun d => { d with cont.info.progressiveFinish := 0 }
    exit .frameReady
  else
    modify fun d => { d with cont.info.progressiveFinish := 1, cont.info.pfCompId := next }
    exit .scanProcessed

/-- The picture or a scan of it is ready. -/
def imageReady : DecodeStep Unit := do
  exitIf .error fun d => d.cont.image.imageReady = 0
  modify fun d => { d with cont.image.imageReady := 0, cont.image.headerReady := 0 }
  exitIf .frameReady fun d => d.cont.info.operationType = JPEGDEC_BASELINE
  exitIf .scanProcessed fun d => d.endOfImage = 0
  exitIf .frameReady fun d => d.cont.frame.Nf = 1
  let i ← gets fun d => nextNeeded d.cont 0
  exitIf .frameReady fun _ => i = 3
  finishComponent env i

/-- The call up to the start of the hardware; `false` where an empty scan is
decoded in place of the headers. -/
def beforeStart (pDecIn : JpegDecInput) : DecodeStep Bool := do
  onCont (openStream env.toEnv env.junk pDecIn)
  modify fun d => if TakesStream d.cont then { d with output := {} } else d
  onCont (checkPicture pDecIn)
  if ← gets (fun d => decide (d.cont.info.progressiveFinish ≠ 0)) then
    return false
  else
    onCont (readHeaders env.toEnv pDecIn)
    return true

/-- Decode: every way through it leaves with a return code. -/
def jpegDecDecode (pDecIn : JpegDecInput) : DecodeStep Unit := do
  if ← beforeStart env pDecIn then
    whenever (fun d => d.cont.image.headerReady ≠ 0) (loop .rounds (hwRound env) env.rounds)
    imageReady env
  else
    modify imageOutputNoPp
    finishComponent env (← gets (·.cont.info.pfCompId))

end Jpeg

end Rk3399
