import Rk3399.Jpeg.Model.Scan
/-!
# The probing parser

`JpegDecGetImageInfo` of `jpegdecapi.c`, for the build in which
`JPEGDEC_ERROR_RESILIENCE` is not defined. It reads the stream through a
position of its own and changes the instance as it goes; its state is the
instance, that position, the record it fills in and its local variables.
-/

namespace Rk3399

namespace Jpeg

open Prog

/-- The record of the caller. -/
structure JpegDecImageInfo where
  displayWidth : Nat := 0
  displayHeight : Nat := 0
  outputWidth : Nat := 0
  outputHeight : Nat := 0
  version : Nat := 0
  units : Nat := 0
  xDensity : Nat := 0
  yDensity : Nat := 0
  outputFormat : Nat := 0
  codingMode : OperationType := JPEGDEC_BASELINE
  thumbnailType : Nat := 0
  displayWidthThumb : Nat := 0
  displayHeightThumb : Nat := 0
  outputWidthThumb : Nat := 0
  outputHeightThumb : Nat := 0
  outputFormatThumb : Nat := 0
  codingModeThumb : OperationType := JPEGDEC_BASELINE
  deriving DecidableEq, Repr

/-- The state of `JpegDecGetImageInfo`. -/
structure Probe where
  cont : JpegDecContainer
  stream : StreamStorage := {}
  imageInfo : JpegDecImageInfo := {}
  currentByte : Nat := 0
  appLength : Nat := 0
  appBits : Nat := 0
  thumbnail : Nat := 0
  errorCode : Nat := 0
  init : Nat := 0
  initThumb : Nat := 0
  H : Fin 3 → Nat := fun _ => 0
  V : Fin 3 → Nat := fun _ => 0
  Htn : Fin 3 → Nat := fun _ => 0
  Vtn : Fin 3 → Nat := fun _ => 0
  Hmax : Nat := 0
  Vmax : Nat := 0

/-- The steps of `JpegDecGetImageInfo`. -/
abbrev Probing (α : Type) : Type := Prog Fault JpegDecRet Probe α

namespace Probe

variable {α : Type} (mem : Nat → UInt8)

/-- A reader applied to the local position. -/
def onStream (x : Prog Fault JpegDecRet StreamStorage α) : Probing α :=
  zoom Probe.stream (fun t p => { p with stream := t }) x

def getByte : Probing Nat := onStream (jpegDecGetByte mem)

def get2Bytes : Probing Nat := onStream (jpegDecGet2Bytes mem)

def flushBits (bits : Nat) : Probing Nat := onStream (jpegDecFlushBits mem bits)

/-- `errorCode = 1; break;` -/
def fail : Probing Unit := modify fun p => { p with errorCode := 1 }

/-- Pass `bits` bits, with an error where the stream is shorter. -/
def flushOrFail (bits : Nat) (k : Probing Unit) : Probing Unit := do
  if (← flushBits mem bits) = strmErrorWord then fail else k

/-- Pass the rest of a segment of length `L` behind its first `n` bits, with an
error where the stream is shorter. -/
def flushRestOrFail (L n : Nat) (k : Probing Unit) : Probing Unit := do
  if (← onStream (flushSegment mem L n)) = strmErrorWord then fail else k

/-- Pass the rest of an APP0 segment, `(appLength * 8) - appBits` bits. -/
def flushAppRest (k : Probing Unit) : Probing Unit := do
  let p ← gets id
  flushRestOrFail mem p.appLength p.appBits k

/-- A two-byte field and the check the segments make on it as a length. -/
def segmentLength (k : Nat → Probing Unit) : Probing Unit := do
  let headerLength ← get2Bytes mem
  if ← gets (fun p => decide (headerLength = strmErrorWord ∨
      u32 (8 * p.stream.streamLength) < u32 (p.stream.readBits + restOf headerLength 16))) then
    fail
  else
    k headerLength

/-- A segment that is jumped over. -/
def jumpOver : Probing Unit :=
  segmentLength mem fun headerLength =>
    modify fun p => { p with stream := p.stream.skipSegment headerLength }

/-! ## Frame header -/

/-- The sampling factors of a picture, as both format tables test them. -/
def Factors (H V : Fin 3 → Nat) (h v c : Nat) : Prop :=
  H 0 = h ∧ V 0 = v ∧ H 1 = c ∧ V 1 = c ∧ H 2 = c ∧ V 2 = c

instance (H V : Fin 3 → Nat) (h v c : Nat) : Decidable (Factors H V h v c) :=
  inferInstanceAs (Decidable (_ ∧ _))

/-- The loop over the `n` components from `j` on. -/
def probeComponents : Nat → Nat → Probing Unit
  | 0, _ => return ()
  | n + 1, j =>
    flushOrFail mem 8 do
      let tmp ← getByte mem
      let k := Fin.ofNat 3 j
      modify fun p => { p with
        currentByte := tmp
        H := Function.update p.H k (tmp / 16)
        V := Function.update p.V k (tmp % 16) }
      flushOrFail mem 8 do
        modify fun p => { p with Hmax := max p.Hmax (p.H k), Vmax := max p.Vmax (p.V k) }
        probeComponents n (j + 1)

/-- The size of the picture is outside what the hardware supports. -/
def SizeUnsupported (p : Probe) : Prop :=
  p.imageInfo.outputWidth < p.cont.minSupportedWidth ∨
    p.imageInfo.outputHeight < p.cont.minSupportedHeight ∨
    p.cont.maxSupportedWidth < p.imageInfo.outputWidth ∨
    p.cont.maxSupportedHeight < p.imageInfo.outputHeight ∨
    p.cont.maxSupportedPixelAmount < u32 (p.imageInfo.outputWidth * p.imageInfo.outputHeight)

instance (p : Probe) : Decidable (SizeUnsupported p) := inferInstanceAs (Decidable (_ ∨ _))

/-- A format, and the numbers of MCUs of blocks of `w`×`h` pels. -/
def setFormat (format w area : Nat) (p : Probe) : Probe :=
  { p with
    imageInfo.outputFormat := format
    cont.frame.numMcuInRow := p.cont.frame.hwX / w
    cont.frame.numMcuInFrame := u32 (p.cont.frame.hwX * p.cont.frame.hwY) / area }

/-- The width of 4:1:1 rounded up to a multiple of 32. -/
def roundUp411 (p : Probe) : Probe :=
  if p.imageInfo.outputWidth % 32 ≠ 0 then
    { p with
      imageInfo.outputWidth := u32 (p.imageInfo.outputWidth + 16)
      cont.frame.hwX := u32 (p.imageInfo.outputWidth + 16) }
  else p

/-- The format by the sampling factors. -/
def probeSampling : Probing Unit := do
  let p ← gets id
  let extended := p.cont.extensionsSupported ≠ 0
  if Factors p.H p.V 2 2 1 then
    modify (setFormat JPEGDEC_YCbCr420_SEMIPLANAR 16 256)
  else if Factors p.H p.V 2 1 1 then
    modify (setFormat JPEGDEC_YCbCr422_SEMIPLANAR 16 128)
  else if Factors p.H p.V 1 2 1 then
    modify (setFormat JPEGDEC_YCbCr440 8 128)
  else if Factors p.H p.V 1 1 0 then
    modify (setFormat JPEGDEC_YCbCr400 8 64)
  else if extended ∧ Factors p.H p.V 4 1 1 then
    modify roundUp411
    exitIf .unsupported fun p =>
      p.cont.maxSupportedWidth < p.imageInfo.outputWidth ∨
        p.cont.maxSupportedPixelAmount < u32 (p.imageInfo.outputWidth * p.imageInfo.outputHeight)
    modify (setFormat JPEGDEC_YCbCr411_SEMIPLANAR 32 256)
  else if extended ∧ Factors p.H p.V 1 1 1 then
    modify (setFormat JPEGDEC_YCbCr444_SEMIPLANAR 8 64)
  else
    exit .unsupported

/-- The format of the picture. -/
def probeFormat : Probing Unit := do
  probeSampling
  modify fun p => { p with
    cont.info.yCbCrMode := p.imageInfo.outputFormat
    cont.info.getInfoYCbCrMode := p.imageInfo.outputFormat }

/-- The frame header behind its length. -/
def probeFrameBody : Probing Unit := do
  let precision ← getByte mem
  modify fun p => { p with currentByte := precision }
  exitIf .unsupported fun _ => precision ≠ 8
  let lines ← get2Bytes mem
  modify fun p => { p with
    imageInfo.outputHeight := lines
    imageInfo.displayHeight := lines }
  exitIf .unsupported fun _ => lines < 1
  modify fun p => { p with
    imageInfo.outputHeight := roundUp16 lines
    cont.frame.hwY := roundUp16 lines }
  let samples ← get2Bytes mem
  modify fun p => { p with
    imageInfo.outputWidth := samples
    imageInfo.displayWidth := samples }
  exitIf .unsupported fun _ => samples < 1
  modify fun p => { p with
    imageInfo.outputWidth := roundUp16 samples
    cont.frame.hwX := roundUp16 samples }
  exitIf .unsupported SizeUnsupported
  let Nf ← getByte mem
  exitIf .unsupported fun _ => Nf ≠ 3 ∧ Nf ≠ 1
  probeComponents mem Nf 0
  exitIf .unsupported fun p => p.Hmax = 0 ∨ p.Vmax = 0
  probeFormat

/-- SOF0 and SOF2. -/
def probeFrame (marker : Nat) : Probing Unit := do
  let mode := if marker = SOF0 then JPEGDEC_BASELINE else JPEGDEC_PROGRESSIVE
  modify fun p => { p with
    imageInfo.codingMode := mode
    cont.info.operationType := mode
    Hmax := 0
    Vmax := 0 }
  segmentLength mem fun _ => probeFrameBody mem

/-! ## Scan header and restart interval -/

/-- SOS. -/
def probeScan : Probing Unit :=
  segmentLength mem fun headerLength => do
    let Ns ← getByte mem
    modify fun p =>
      if Ns = 1 ∧ p.imageInfo.outputFormat ≠ JPEGDEC_YCbCr400 ∧
          p.imageInfo.codingMode = JPEGDEC_BASELINE then
        { p with
          imageInfo.codingMode := JPEGDEC_NONINTERLEAVED
          cont.info.operationType := JPEGDEC_NONINTERLEAVED }
      else p
    modify fun p => { p with stream := p.stream.skipSegment headerLength }
    exitIf .increaseInputBuffer fun p =>
      u32 (8 * p.stream.streamLength) ≤ u32 (p.stream.readBits + 8)
    modify fun p => { p with cont.info.init := 1, init := 1 }

/-- DRI: the interval passes the check of a segment length too. -/
def probeRestart : Probing Unit :=
  segmentLength mem fun _ =>
    segmentLength mem fun interval =>
      modify fun p => { p with cont.frame.Ri := interval }

/-! ## Thumbnails -/

/-- The loop over the `n` components from `j` on of a thumbnail. -/
def thumbComponents : Nat → Nat → Probing Unit
  | 0, _ => return ()
  | n + 1, j =>
    flushOrFail mem 8 do
      let tmp ← getByte mem
      let k := Fin.ofNat 3 j
      modify fun p => { p with
        currentByte := tmp
        appBits := u32 (p.appBits + 16)
        Htn := Function.update p.Htn k (tmp / 16)
        Vtn := Function.update p.Vtn k (tmp % 16) }
      flushOrFail mem 8 do
        modify fun p => { p with
          appBits := u32 (p.appBits + 8)
          Hmax := max p.Hmax (p.Htn k)
          Vmax := max p.Vmax (p.Vtn k) }
        thumbComponents n (j + 1)

/-- `appBits += n`. -/
def countBits (n : Nat) : Probing Unit := modify fun p => { p with appBits := u32 (p.appBits + n) }

/-- The format of a thumbnail, `none` for an unsupported one. -/
def thumbFormat (p : Probe) : Option Nat :=
  if Factors p.Htn p.Vtn 2 2 1 then some JPEGDEC_YCbCr420_SEMIPLANAR
  else if Factors p.Htn p.Vtn 2 1 1 then some JPEGDEC_YCbCr422_SEMIPLANAR
  else if Factors p.Htn p.Vtn 1 2 1 then some JPEGDEC_YCbCr440
  else if Factors p.Htn p.Vtn 1 1 0 then some JPEGDEC_YCbCr400
  else if p.cont.is8190 ≠ 0 ∧ Factors p.Htn p.Vtn 4 1 1 then some JPEGDEC_YCbCr411_SEMIPLANAR
  else if p.cont.is8190 ≠ 0 ∧ Factors p.Htn p.Vtn 1 1 1 then some JPEGDEC_YCbCr444_SEMIPLANAR
  else none

/-- SOF0 and SOF2 of a thumbnail. -/
def thumbFrame (marker : Nat) : Probing Unit := do
  let mode := if marker = SOF0 then JPEGDEC_BASELINE else JPEGDEC_PROGRESSIVE
  modify fun p => { p with
    imageInfo.codingModeThumb := mode
    cont.info.operationTypeThumb := mode }
  flushOrFail mem 16 do
    countBits 16
    let precision ← getByte mem
    modify fun p => { p with currentByte := precision }
    countBits 8
    exitIf .unsupported fun _ => precision ≠ 8
    let lines ← get2Bytes mem
    countBits 16
    modify fun p => { p with
      imageInfo.outputHeightThumb := lines
      imageInfo.displayHeightThumb := lines }
    exitIf .unsupported fun _ => lines < 1
    modify fun p => { p with imageInfo.outputHeightThumb := roundUp16 lines }
    let samples ← get2Bytes mem
    countBits 16
    modify fun p => { p with
      imageInfo.outputWidthThumb := samples
      imageInfo.displayWidthThumb := samples }
    exitIf .unsupported fun _ => samples < 1
    modify fun p => { p with imageInfo.outputWidthThumb := roundUp16 samples }
    exitIf .unsupported fun p =>
      p.imageInfo.outputWidthThumb < p.cont.minSupportedWidth ∨
        p.imageInfo.outputHeightThumb < p.cont.minSupportedHeight ∨
        JPEGDEC_MAX_WIDTH_TN < p.imageInfo.outputWidthThumb ∨
        JPEGDEC_MAX_HEIGHT_TN < p.imageInfo.outputHeightThumb
    let Nf ← getByte mem
    countBits 8
    exitIf .unsupported fun _ => Nf ≠ 3 ∧ Nf ≠ 1
    thumbComponents mem Nf 0
    exitIf .unsupported fun p => p.Hmax = 0 ∨ p.Vmax = 0
    match ← gets thumbFormat with
    | none => exit .unsupported
    | some format =>
      modify fun p => { p with
        imageInfo.outputFormatThumb := format
        cont.info.initThumb := 1
        initThumb := 1 }

/-- SOS of a thumbnail. -/
def thumbScan : Probing Unit :=
  segmentLength mem fun headerLength => do
    let NsThumb ← getByte mem
    modify fun p =>
      if NsThumb = 1 ∧ p.imageInfo.outputFormatThumb ≠ JPEGDEC_YCbCr400 ∧
          p.imageInfo.codingModeThumb = JPEGDEC_BASELINE then
        { p with
          imageInfo.codingModeThumb := JPEGDEC_NONINTERLEAVED
          cont.info.operationTypeThumb := JPEGDEC_NONINTERLEAVED }
      else p
    modify fun p => { p with stream := p.stream.skipSegment headerLength }
    exitIf .increaseInputBuffer fun p =>
      u32 (8 * p.stream.streamLength) ≤ u32 (p.stream.readBits + 8)
    modify fun p => { p with cont.info.init := 1, init := 1 }

/-- A segment of a thumbnail that is jumped over; its length is not checked. -/
def thumbJump : Probing Unit := do
  let headerLength ← get2Bytes mem
  if headerLength = strmErrorWord then
    fail
  else
    modify fun p => { p with stream := p.stream.skipSegment headerLength }
    countBits (headerLength * 8)

/-- The segments of a thumbnail that are jumped over: DQT, DHT, DRI, APP0 to
APP15, DNL and COM. -/
def IsThumbJump (m : Nat) : Prop := m ∈ [DQT, DHT, DRI, APP0, DNL, COM] ∨ IsAppn m

instance (m : Nat) : Decidable (IsThumbJump m) := inferInstanceAs (Decidable (_ ∨ _))

/-- The switch over the markers of a thumbnail. -/
def thumbSegment (marker : Nat) : Probing Unit :=
  if marker = SOF0 ∨ marker = SOF2 then thumbFrame mem marker
  else if marker = SOS then thumbScan mem
  else if IsThumbJump marker then thumbJump mem
  else if IsUnsupportedCoding marker then exit .unsupported
  else return ()

/-- `stream.readBits++` at the end of a round. -/
def nextBit : Probing Unit := modify fun p => { p with stream := p.stream.account 1 }

/-- One round of the loop over the data of a thumbnail; `false` leaves it. -/
def thumbRound (bufferSize : Nat) : Probing Bool := do
  if ← gets (fun p => decide (p.stream.readBits / 8 < p.stream.streamLength)) then
    countBits 8
    if (← getByte mem) = 0xFF then
      countBits 8
      let marker ← getByte mem
      modify fun p => { p with currentByte := marker }
      thumbSegment mem marker
      if ← gets (fun p => decide (p.cont.info.initThumb ≠ 0 ∧ p.initThumb ≠ 0)) then
        flushAppRest mem (modify fun p => { p with stream.appnFlag := 0 })
        return false
      else
        nextBit
        return true
    else
      exitIf .increaseInputBuffer fun p => p.cont.info.initThumb = 0 ∧ bufferSize ≠ 0
      exit .strmError
  else
    return false

/-! ## Application segments -/

/-- Pass the rest of an APP0 segment. -/
def flushApp (k : Probing Unit) : Probing Unit := do
  modify fun p => { p with stream.appnFlag := 1 }
  flushAppRest mem k

/-- `stream.appnFlag = 0; break;` -/
def clearAppn : Probing Unit := modify fun p => { p with stream.appnFlag := 0 }

/-- An APP0 extension that carries a thumbnail. -/
def probeThumbnail (rounds bufferSize : Nat) : Probing Unit := do
  let extension ← getByte mem
  modify fun p => { p with currentByte := extension }
  if extension = JPEGDEC_THUMBNAIL_JPEG then
    countBits 8
    modify fun p => { p with
      imageInfo.thumbnailType := JPEGDEC_THUMBNAIL_JPEG
      stream.appnFlag := 1
      Hmax := 0
      Vmax := 0 }
    loop .rounds (thumbRound mem bufferSize) rounds
  else
    countBits 8
    modify fun p => { p with imageInfo.thumbnailType := JPEGDEC_THUMBNAIL_NOT_SUPPORTED_FORMAT }
    flushApp mem clearAppn

/-- A JFIF APP0 segment behind its identifier. -/
def probeJfif : Probing Unit := do
  let version ← get2Bytes mem
  modify fun p => { p with imageInfo.version := version }
  countBits 16
  let units ← getByte mem
  modify fun p => { p with
    currentByte := units
    imageInfo.units := if units ≤ 2 then units else p.imageInfo.units }
  countBits 8
  let xDensity ← get2Bytes mem
  modify fun p => { p with imageInfo.xDensity := xDensity }
  countBits 16
  let yDensity ← get2Bytes mem
  modify fun p => { p with imageInfo.yDensity := yDensity }
  countBits 16
  flushApp mem clearAppn

/-- An APP0 segment of sixteen bytes and more. -/
def probeApp0Body (rounds bufferSize : Nat) : Probing Unit := do
  countBits 16
  let ident ← get2Bytes mem
  countBits 16
  if ident ≠ 0x4A46 then
    flushApp mem (return ())
  else
    let ident ← get2Bytes mem
    countBits 16
    if ident ≠ 0x4946 ∧ ident ≠ 0x5858 then
      flushApp mem (return ())
    else
      modify fun p => { p with thumbnail := if ident = 0x5858 then 1 else p.thumbnail }
      let ending ← getByte mem
      modify fun p => { p with currentByte := ending }
      countBits 8
      if ending ≠ 0x00 then
        flushApp mem clearAppn
      else if ← gets (fun p => decide (p.thumbnail ≠ 0)) then
        probeThumbnail mem rounds bufferSize
      else
        probeJfif mem

/-- APP0. -/
def probeApp0 (rounds bufferSize : Nat) : Probing Unit := do
  modify fun p => { p with appBits := 0, appLength := 0, stream.appnFlag := 0 }
  segmentLength mem fun headerLength => do
    modify fun p => { p with appLength := headerLength }
    if headerLength < 16 then
      modify fun p => { p with stream.appnFlag := 1 }
      flushRestOrFail mem headerLength 16 (return ())
    else
      probeApp0Body mem rounds bufferSize

/-! ## The marker loop -/

/-- The segments that are jumped over: DQT, DHT, APP1 to APP15, DNL and COM. -/
def IsJump (m : Nat) : Prop := m ∈ [DQT, DHT, DNL, COM] ∨ IsAppn m

instance (m : Nat) : Decidable (IsJump m) := inferInstanceAs (Decidable (_ ∨ _))

/-- The switch over the markers. -/
def segment (rounds bufferSize marker : Nat) : Probing Unit :=
  if marker = SOF0 ∨ marker = SOF2 then probeFrame mem marker
  else if marker = SOS then probeScan mem
  else if marker = DRI then probeRestart mem
  else if marker = APP0 then probeApp0 mem rounds bufferSize
  else if IsJump marker then jumpOver mem
  else if IsUnsupportedCoding marker then exit .unsupported
  else return ()

/-- Whether the next byte is the prefix of a marker: it is where the last byte
read was `0xFF`, which is not read again. -/
def prefixByte : Probing Bool := do
  if ← gets (fun p => decide (p.currentByte = 0xFF)) then
    return true
  else
    return decide ((← getByte mem) = 0xFF)

/-- One round of the marker loop; `false` leaves it. -/
def round (rounds bufferSize : Nat) : Probing Bool := do
  if ← gets (fun p => decide (p.stream.readBits / 8 < p.stream.streamLength)) then
    if ← prefixByte mem then
      let marker ← getByte mem
      modify fun p => { p with currentByte := marker }
      segment mem rounds bufferSize marker
      if ← gets (fun p => decide (p.cont.info.init ≠ 0 ∧ p.init ≠ 0)) then
        return false
      else
        exitIf (if bufferSize ≠ 0 then .increaseInputBuffer else .strmError)
          fun p => p.errorCode ≠ 0
        nextBit
        return true
    else
      exitIf .increaseInputBuffer fun p => p.cont.info.init = 0
      exit .strmError
  else
    return false

end Probe

/-! ## The function -/

/-- `RK70_CHECK_VIRTUAL_ADDRESS`. -/
def BadVirtualAddress (d : Nat) : Prop := d < 64

instance (d : Nat) : Decidable (BadVirtualAddress d) := inferInstanceAs (Decidable (_ < _))

/-- A buffer size the hardware does not take. -/
def BadBufferSize (n : Nat) : Prop := n < JPEGDEC_RK70_MIN_BUFFER ∨ JPEGDEC_RK70_MAX_BUFFER < n

instance (n : Nat) : Decidable (BadBufferSize n) := inferInstanceAs (Decidable (_ ∨ _))

/-- The state in which the marker loop starts. The fields `codingMode` and
`codingModeThumb` of the record are not initialised and keep what `junk`
holds. -/
def probeStart (pDecIn : JpegDecInput) (junk : JpegDecImageInfo) (c : JpegDecContainer) :
    Probe where
  cont := c
  stream := {
    pStartOfStream := pDecIn.streamBuffer.pVirtualAddress
    pCurrPos := pDecIn.streamBuffer.pVirtualAddress
    streamLength := if pDecIn.bufferSize = 0 then pDecIn.streamLength else pDecIn.bufferSize }
  imageInfo := {
    thumbnailType := JPEGDEC_NO_THUMBNAIL
    codingMode := junk.codingMode
    codingModeThumb := junk.codingModeThumb }

/-- Get the image information of the stream; `rounds` bounds the rounds of each
of its loops. -/
def jpegDecGetImageInfo (mem : Nat → UInt8) (rounds : Nat) (pDecIn : JpegDecInput) :
    Probing Unit := do
  exitIf .paramError fun _ => BadVirtualAddress pDecIn.streamBuffer.pVirtualAddress
  exitIf .invalidStreamLength fun _ => pDecIn.streamLength < 1
  exitIf .invalidInputBufferSize fun _ =>
    DEC_RK70_MAX_STREAM < pDecIn.streamLength ∧ BadBufferSize pDecIn.bufferSize
  exitIf .invalidInputBufferSize fun _ =>
    pDecIn.bufferSize ≠ 0 ∧ BadBufferSize pDecIn.bufferSize
  loop .rounds (Probe.round mem rounds pDecIn.bufferSize) rounds
  exitIf .error fun p => p.cont.info.init = 0
  modify fun p => { p with
    cont.info.initBufferSize :=
      if pDecIn.bufferSize ≠ 0 then pDecIn.bufferSize else p.cont.info.initBufferSize }

end Jpeg

end Rk3399
