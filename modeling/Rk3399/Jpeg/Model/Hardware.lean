import Rk3399.Jpeg.Model.EmptyScan
import Rk3399.Jpeg.Model.Tables
/-!
# Starting the hardware

`JpegDecInit`, `JpegDecInitHW` and the four functions that restart the
hardware, of `jpegdecapi.c` and `jpegdecinternal.c`. `JpegFlushRegs` and
`JpegRefreshRegs` hand the shadow registers to the driver and change
nothing the decoder reads.
-/

namespace Rk3399

namespace Jpeg

open Prog

variable {ρ : Type}

/-! ## A fresh instance -/

/-- The registers `JpegDecInit` sets. -/
def initRegisters : List (BitField × Nat) :=
  [(HWIF_DEC_OUT_ENDIAN, 1), (HWIF_DEC_IN_ENDIAN, 0), (HWIF_DEC_STRENDIAN_E, 1),
   (HWIF_DEC_MAX_BURST, 16), (HWIF_DEC_SCMD_DIS, 0), (HWIF_DEC_LATENCY, 0),
   (HWIF_DEC_DATA_DISC_E, 0), (HWIF_DEC_OUTSWAP32_E, 1), (HWIF_DEC_INSWAP32_E, 1),
   (HWIF_DEC_STRSWAP32_E, 1), (HWIF_DEC_OUT_TILED_E, 0), (HWIF_DEC_TIMEOUT_E, 1),
   (HWIF_DEC_CLK_GATE_E, 1), (HWIF_DEC_IRQ_DIS, 0), (HWIF_DEC_AXI_RD_ID, 0xFF),
   (HWIF_DEC_AXI_WR_ID, 0)]

/-- The instance `JpegDecInit` returns; the identifier of the hardware is the
constant `0x91900000`. -/
def jpegDecInit : JpegDecContainer :=
  { jpegRegs :=
      BitField.writes (asWords initRegisters) fun _ => 0
    is8190 := 1
    fuseBurned := 1
    maxSupportedWidth := JPEGDEC_MAX_WIDTH_8190
    maxSupportedHeight := JPEGDEC_MAX_HEIGHT_8190
    maxSupportedPixelAmount := JPEGDEC_MAX_PIXEL_AMOUNT_8190
    maxSupportedSliceSize := JPEGDEC_MAX_SLICE_SIZE_8190
    minSupportedWidth := JPEGDEC_MIN_WIDTH
    minSupportedHeight := JPEGDEC_MIN_HEIGHT
    extensionsSupported := 1 }

/-! ## Register groups -/

/-- The size of the picture in macroblocks, as four fields. -/
def sizeRegisters (c : JpegDecContainer) : List (BitField × Nat) :=
  [(HWIF_PIC_MB_W_EXT, (c.info.X >>> 4 &&& 0xE00) >>> 9),
   (HWIF_PIC_MB_WIDTH, c.info.X >>> 4 &&& 0x1FF),
   (HWIF_PIC_MB_H_EXT, (c.info.Y >>> 4 &&& 0x700) >>> 8),
   (HWIF_PIC_MB_HEIGHT_P, c.info.Y >>> 4 &&& 0x0FF)]

/-- The mode and the parameters of the scan. -/
def scanRegisters (c : JpegDecContainer) : List (BitField × Nat) :=
  [(HWIF_PJPEG_E, if c.info.operationType ≠ JPEGDEC_PROGRESSIVE then 0 else 1),
   (HWIF_PJPEG_SS, c.scan.Ss), (HWIF_PJPEG_SE, c.scan.Se),
   (HWIF_PJPEG_AH, c.scan.Ah), (HWIF_PJPEG_AL, c.scan.Al)]

/-- The restart interval, in the field `f`. -/
def restartRegisters (f : BitField) (c : JpegDecContainer) : List (BitField × Nat) :=
  if c.frame.Ri ≠ 0 then [(HWIF_SYNC_MARKER_E, 1), (f, c.frame.Ri)] else [(HWIF_SYNC_MARKER_E, 0)]

/-- The coefficient buffer of the component behind `n` others, from component
`i` and the address `buffer` on. -/
def coeffBuffer : Nat → Nat → Nat → Decoder ρ Nat
  | 0, _, buffer => return buffer
  | n + 1, i, buffer => do
    let k ← subscript i
    let blocks ← gets fun c => c.frame.numBlocks k
    coeffBuffer n (i + 1) (u32 (buffer + u32 (JPEGDEC_COEFF_SIZE * blocks)))

/-- The coefficient buffers of a progressive scan. -/
def setCoeffBuffers : Decoder ρ Unit := do
  if ← gets (fun c => decide (c.info.operationType = JPEGDEC_PROGRESSIVE)) then
    let base ← gets (·.info.pCoeffBase.phyAddr)
    if ← gets (fun c => decide (c.info.nonInterleaved ≠ 0)) then
      let buffer ← coeffBuffer (← gets (·.info.componentId)) 0 base
      rkSetRegisterFiles fun _ => [(HWIF_PJPEG_COEFF_BUF, buffer), (HWIF_DEC_OUT_DIS, 0)]
    else
      let cb ← coeffBuffer 1 0 base
      let cr ← coeffBuffer 2 0 base
      rkSetRegisterFiles fun _ =>
        [(HWIF_PJPEG_COEFF_BUF, base), (HWIF_PJPEG_DCCB_BASE, cb), (HWIF_PJPEG_DCCR_BASE, cr),
         (HWIF_DEC_OUT_DIS, 1)]

/-! ## The stream -/

/-- Hand the position in the stream to the hardware, which takes it in bits
from a multiple of eight bytes on. The position is cut to 32 bits. -/
def jpegDecSetHwStrmParams : Decoder ρ Unit := do
  rkSetRegisterFiles fun c =>
    let addrTmp := u32 (c.stream.pStartOfStream % 4 +
      sub32 c.stream.pCurrPos c.stream.pStartOfStream) / 8 * 8
    [(HWIF_RLC_VLC_BASE, u32 c.stream.streamBus ||| u32 (addrTmp <<< 10))]
  modify fun c => { c with
    stream.bitPosInByte := c.stream.bitPosInByte + 8 * (c.stream.pCurrPos % 8) }
  rkSetRegisterFiles fun c => [(HWIF_STRM_START_BIT, c.stream.bitPosInByte)]
  modify fun c => { c with stream.pCurrPos := u32 c.stream.pCurrPos / 8 * 8 }
  rkSetRegisterFiles fun c =>
    let used := sub32 c.stream.pCurrPos c.stream.pStartOfStream
    let amountOfStream :=
      if c.info.inputStreaming ≠ 0 then
        let amount := sub32 c.info.inputBufferLen used
        if c.frame.Y % 16 ≠ 0 ∧ (c.info.yCbCrMode = JPEGDEC_YUV422 ∨
            c.info.yCbCrMode = JPEGDEC_YUV444 ∨ c.info.yCbCrMode = JPEGDEC_YUV411) then
          u32 (amount + 100)
        else amount
      else sub32 c.stream.streamLength used
    [(HWIF_STREAM_LEN, amountOfStream)]
  modify fun c => { c with info.streamEnd := 1 }
  rkSetRegisterFiles fun c => [(HWIF_JPEG_STREAM_ALL, c.info.streamEnd)]

/-! ## The first start -/

/-- The post-processor takes the picture. -/
def Pipelined (c : JpegDecContainer) : Prop := c.ppInstance ≠ 0 ∧ c.usePipeline ≠ 0

instance (c : JpegDecContainer) : Decidable (Pipelined c) := inferInstanceAs (Decidable (_ ∧ _))

/-- The output addresses of a start. -/
def outputRegisters (c : JpegDecContainer) : List (BitField × Nat) :=
  if Pipelined c then
    [(HWIF_DEC_OUT_DIS, 1), (HWIF_DEC_OUT_BASE, 0)] ++
      if c.image.sizeChroma ≠ 0 then [(HWIF_JPG_CH_OUT_BASE, 0)] else []
  else if c.info.operationType = JPEGDEC_BASELINE then
    (HWIF_DEC_OUT_BASE, c.asicBuff.outLumaBuffer.phyAddr) ::
      if c.image.sizeChroma ≠ 0 then
        [(HWIF_JPG_CH_OUT_BASE, c.asicBuff.outChromaBuffer.phyAddr &&& 0x3FF)]
      else []
  else if c.info.componentId = 0 then
    [(HWIF_DEC_OUT_BASE, c.asicBuff.outLumaBuffer.phyAddr)]
  else if c.info.componentId = 1 then
    [(HWIF_DEC_OUT_BASE, c.asicBuff.outChromaBuffer.phyAddr)]
  else
    [(HWIF_DEC_OUT_BASE, c.asicBuff.outChromaBuffer2.phyAddr)]

/-- Set the output of a start. -/
def setOutput : Decoder ρ Unit := do
  rkSetRegisterFiles outputRegisters
  modify fun c => { c with info.pipeline := if Pipelined c then 1 else 0 }

/-- The tables of a scan: their counts in the registers, and the table
memory. -/
def setTables : Decoder ρ Unit := do
  let operationType ← gets (·.info.operationType)
  if operationType = JPEGDEC_BASELINE then
    jpegDecWriteLenBits
    jpegDecWriteTables
  else if operationType = JPEGDEC_NONINTERLEAVED then
    jpegDecWriteLenBitsNonInterleaved
    jpegDecWriteTablesNonInterleaved
  else
    jpegDecWriteLenBitsProgressive
    jpegDecWriteTablesProgressive

/-- Set up the hardware and start it. -/
def jpegDecInitHW : Decoder ρ Unit := do
  rkSetRegisterFiles fun c =>
    [(HWIF_DEC_TIMEOUT_E, 1)] ++ sizeRegisters c ++
      [(HWIF_DEC_MODE, 3), (HWIF_DEC_OUT_DIS, 0), (HWIF_FILTERING_DIS, 1),
       (HWIF_JPEG_QTABLES, c.info.amountOfQTables), (HWIF_JPEG_MODE, c.info.yCbCrMode),
       (HWIF_RLC_MODE_E, c.info.rlcMode), (HWIF_JPEG_FILRIGHT_E, c.info.fillRight),
       (HWIF_PJPEG_FILDOWN_E, c.info.fillBottom), (HWIF_JPEG_SLICE_H, c.info.sliceHeight)] ++
      scanRegisters c
  setCoeffBuffers
  setTables
  jpegDecChromaTableSelectors
  rkSetRegisterFiles fun c => [(HWIF_QTABLE_BASE, c.frame.pTableBase.phyAddr)]
  jpegDecSetHwStrmParams
  rkSetRegisterFiles (restartRegisters HWIF_PJPEG_REST_FREQ)
  setOutput
  modify fun c => { c with info.sliceStartCount := 1, asicRunning := 1 }
  rkSetRegisterFiles fun _ => [(HWIF_DEC_E, 1)]

/-! ## Restarts -/

/-- The luma and chroma addresses of the user. -/
def givenAddresses (c : JpegDecContainer) : JpegDecContainer :=
  { c with
    asicBuff.outLumaBuffer.virAddr := c.info.givenOutLuma.virAddr
    asicBuff.outLumaBuffer.phyAddr := c.info.givenOutLuma.phyAddr
    asicBuff.outChromaBuffer.virAddr := c.info.givenOutChroma.virAddr
    asicBuff.outChromaBuffer.phyAddr := c.info.givenOutChroma.phyAddr }

/-- The second chroma address of the user. -/
def givenAddress2 (c : JpegDecContainer) : JpegDecContainer :=
  { c with
    asicBuff.outChromaBuffer2.virAddr := c.info.givenOutChroma2.virAddr
    asicBuff.outChromaBuffer2.phyAddr := c.info.givenOutChroma2.phyAddr }

/-- Where the next slice starts in a picture that is read by the
post-processor. -/
def slicePositions (c : JpegDecContainer) : JpegDecContainer :=
  let rows (n : Nat) := u32 (c.info.X * u32 (c.info.sliceMbSetValue * n))
  let chromaPos :=
    if c.info.yCbCrMode = JPEGDEC_YUV420 then rows 8
    else if c.info.yCbCrMode = JPEGDEC_YUV422 ∨ c.info.yCbCrMode = JPEGDEC_YUV440 then rows 16
    else 0
  { c with
    info.lumaPos := u32 (rows 16 * c.info.amountOfSlices)
    info.chromaPos := u32 (chromaPos * c.info.amountOfSlices) }

/-- Go on with the next slice. -/
def jpegDecInitHWContinue : Decoder ρ Unit := do
  modify fun c => { c with info.amountOfSlices := u32 (c.info.amountOfSlices + 1) }
  modify fun c =>
    if c.ppInstance = 0 ∧ c.info.userAllocMem = 1 ∧ 0 < c.info.sliceStartCount then
      givenAddresses c
    else c
  rkSetRegisterFiles fun c =>
    [(HWIF_DEC_SLICE_INT, 0), (HWIF_JPEG_STREAM_ALL, c.info.streamEnd)]
  whenever (fun c => c.ppInstance = 0) do
    rkSetRegisterFiles fun c =>
      (HWIF_DEC_OUT_BASE, c.asicBuff.outLumaBuffer.phyAddr) ::
        if c.image.sizeChroma ≠ 0 then
          [(HWIF_JPG_CH_OUT_BASE, c.asicBuff.outChromaBuffer.phyAddr)]
        else []
    modify fun c => { c with info.pipeline := 0 }
  whenever (fun c => c.ppInstance ≠ 0 ∧ c.usePipeline = 0) do
    modify slicePositions
    rkSetRegisterFiles fun c =>
      (HWIF_DEC_OUT_BASE, u32 (c.asicBuff.outLumaBuffer.phyAddr + c.info.lumaPos)) ::
        if c.image.sizeChroma ≠ 0 then
          [(HWIF_JPG_CH_OUT_BASE, u32 (c.asicBuff.outChromaBuffer.phyAddr + c.info.chromaPos))]
        else []
    modify fun c => { c with info.pipeline := 0 }
  rkSetRegisterFiles fun c => [(HWIF_JPEG_SLICE_H, c.info.sliceHeight)]

/-- Go on with the next buffer of the stream. -/
def jpegDecInitHWInputBuffLoad : Decoder ρ Unit := do
  modify fun c => { c with
    info.streamEnd :=
      if c.stream.streamLength ≤ c.info.decodedStreamLen then 1 else c.info.streamEnd }
  rkSetRegisterFiles fun c =>
    sizeRegisters c ++
      [(HWIF_STRM_START_BIT, c.stream.bitPosInByte), (HWIF_STREAM_LEN, c.info.inputBufferLen),
       (HWIF_JPEG_STREAM_ALL, c.info.streamEnd), (HWIF_RLC_VLC_BASE, c.stream.streamBus)]

/-- The address of the plane of a component. -/
def outputBuffer (componentId : Nat) (c : JpegDecContainer) : Nat :=
  if componentId = 0 then c.asicBuff.outLumaBuffer.phyAddr
  else if componentId = 1 then c.asicBuff.outChromaBuffer.phyAddr
  else c.asicBuff.outChromaBuffer2.phyAddr

/-- Go on with the next scan of a progressive picture. -/
def jpegDecInitHWProgressiveContinue : Decoder ρ Unit := do
  modify fun c =>
    if c.ppInstance = 0 ∧ c.info.userAllocMem = 1 then givenAddress2 (givenAddresses c) else c
  rkSetRegisterFiles fun c => [(HWIF_DEC_OUT_BASE, outputBuffer c.info.componentId c)]
  modify fun c => { c with info.pipeline := 0 }
  jpegDecSetHwStrmParams
  rkSetRegisterFiles fun c =>
    [(HWIF_JPEG_MODE, c.info.yCbCrMode)] ++ sizeRegisters c ++
      [(HWIF_PJPEG_WDIV8, c.info.fillX),
       (HWIF_JPEG_FILRIGHT_E, if c.info.fillX ≠ 0 ∨ c.info.fillRight ≠ 0 then 1 else 0),
       (HWIF_PJPEG_HDIV8, c.info.fillY),
       (HWIF_PJPEG_FILDOWN_E, if c.info.fillY ≠ 0 ∨ c.info.fillBottom ≠ 0 then 1 else 0)] ++
      scanRegisters c
  setCoeffBuffers
  jpegDecWriteLenBitsProgressive
  jpegDecWriteTablesProgressive
  jpegDecChromaTableSelectors
  rkSetRegisterFiles fun c =>
    [(HWIF_QTABLE_BASE, c.frame.pTableBase.phyAddr),
     (HWIF_JPEG_QTABLES, c.info.amountOfQTables)] ++
      (if c.info.sliceMbSetValue ≠ 0 then [(HWIF_JPEG_SLICE_H, c.info.sliceHeight)] else []) ++
      -- the restart interval goes to a field of another standard here
      restartRegisters HWIF_REFER13_BASE c
  modify fun c => { c with asicRunning := 1 }
  rkSetRegisterFiles fun _ => [(HWIF_DEC_E, 1)]

/-! ## Empty scans -/

/-- `rk_SetRegisterFile(jpegRegs, id, value)`: the registers are passed in place of the handle
of their file, so that their first word is taken for the address the handle holds. `taken`
says whether it is the address of the registers; the decoder puts no address there. -/
def setThroughRegs (taken : Bool) (ws : JpegDecContainer → List (BitField × Nat)) :
    Decoder ρ Unit := do
  assert .handle fun _ => taken = true
  rkSetRegisterFiles ws

/-- A size of a chroma plane, and whether it is filled to whole macroblocks. -/
def halved (size : Nat) : Nat × Nat :=
  if size / 2 &&& 0xF ≠ 0 then (size / 2 + 8, 1) else (size / 2, 0)

/-- The size of the plane of a component that is scanned alone. -/
def emptyScanSize (componentId : Nat) (c : JpegDecContainer) : JpegDecContainer :=
  let orig := c.info.yCbCrModeOrig
  let X := if componentId ≠ 0 ∧ (orig = JPEGDEC_YUV420 ∨ orig = JPEGDEC_YUV422)
    then halved c.frame.hwX else (c.frame.hwX, 0)
  let Y := if componentId ≠ 0 ∧ (orig = JPEGDEC_YUV420 ∨ orig = JPEGDEC_YUV440)
    then halved c.frame.hwY else (c.frame.hwY, 0)
  { c with
    info.yCbCrMode := 0
    info.X := X.1, info.fillX := X.2
    info.Y := Y.1, info.fillY := Y.2 }

/-- The coefficients of the component, behind those of the ones before it. -/
def emptyScanCoeff (componentId : Nat) (c : JpegDecContainer) : Nat :=
  let behind (buffer blocks : Nat) := u32 (buffer + u32 (JPEGDEC_COEFF_SIZE * blocks))
  let buffer := c.info.pCoeffBase.phyAddr
  if componentId = 0 then buffer
  else
    let buffer := behind buffer (u32 (c.frame.hwX * c.frame.hwY) / 64)
    if 1 < componentId then behind buffer (emptyScanBlocks componentId c) else buffer

/-- The registers of an empty scan: the stream, the plane and the parameters of the scan. -/
def emptyScanRegisters (componentId : Nat) (c : JpegDecContainer) : List (BitField × Nat) :=
  [(HWIF_RLC_VLC_BASE, c.info.tmpStrm.phyAddr), (HWIF_STRM_START_BIT, 0), (HWIF_STREAM_LEN, 100),
   (HWIF_JPEG_MODE, JPEGDEC_YUV400)] ++ sizeRegisters c ++
  [(HWIF_PJPEG_WDIV8, c.info.fillX), (HWIF_JPEG_FILRIGHT_E, c.info.fillX),
   (HWIF_PJPEG_HDIV8, c.info.fillY), (HWIF_PJPEG_FILDOWN_E, c.info.fillY),
   (HWIF_PJPEG_E, 1), (HWIF_PJPEG_SS, 1), (HWIF_PJPEG_SE, 1), (HWIF_PJPEG_AH, 0),
   (HWIF_PJPEG_AL, 0), (HWIF_PJPEG_COEFF_BUF, emptyScanCoeff componentId c),
   (HWIF_DEC_OUT_DIS, 0), (HWIF_QTABLE_BASE, c.frame.pTableBase.phyAddr),
   (HWIF_SYNC_MARKER_E, 0)]

/-- Start an empty scan for a component that has none. -/
def jpegDecInitHWEmptyScan (taken : Bool) (componentId : Nat) : Decoder ρ Unit := do
  modify fun c => { c with info.nonInterleaved := 1, info.componentId := componentId }
  modify fun c =>
    if c.ppInstance = 0 ∧ c.info.userAllocMem = 1 then givenAddress2 (givenAddresses c) else c
  setThroughRegs taken fun c => [(HWIF_DEC_OUT_BASE, outputBuffer componentId c)]
  modify (emptyScanSize componentId)
  jpegDecWriteTablesProgressive
  setThroughRegs taken fun _ => [(HWIF_AC1_CODE1_CNT, 2)]
  let numBlocks ← gets (emptyScanBlocks componentId)
  -- the pointer to the codes does count words
  storeWord JPEGDEC_AC1_BASE (emptyScanCodes (numBits (splitRuns numBlocks numBlocks 0).1))
  writeEmptyScan numBlocks
  setThroughRegs taken (emptyScanRegisters componentId)
  modify fun c => { c with asicRunning := 1 }
  setThroughRegs taken fun _ => [(HWIF_DEC_E, 1)]

/-! ## Slices -/

/-- The height of the next slice, in macroblock rows. -/
def jpegDecSliceSizeCalculation (c : JpegDecContainer) : JpegDecContainer :=
  { c with
    info.sliceHeight :=
      if c.info.Y < u32 (u32 (c.info.SliceCount + 1) * u32 (c.info.sliceMbSetValue * 16)) then
        sub32 (c.info.Y / 16) (u32 (c.info.SliceCount * c.info.sliceHeight))
      else if c.info.operationType = JPEGDEC_PROGRESSIVE ∧ c.info.componentId ≠ 0 then
        c.info.sliceMbSetValue / 2
      else c.info.sliceMbSetValue }

end Jpeg

end Rk3399
