import Rk3399.Jpeg.Model.Hardware
/-!
# The marker loops of the decoder

`JpegDecNextScanHdrs` of `jpegdecinternal.c` and the marker loop of
`JpegDecDecode`, with the segments both read the same way first. A round
that returns `false` leaves its loop; `rounds` bounds the rounds.
-/

namespace Rk3399

namespace Jpeg

open Prog

/-- What the decoder gets from outside: the memory the stream lies in, the
answer of the allocator, and the bound on rounds. -/
structure Env where
  mem : Nat → UInt8
  alloc : AllocReply
  rounds : Nat

variable (env : Env)

/-! ## Segments -/

/-- Leave with the return code of a function unless it succeeded. -/
def orReturn {α : Type} : Option JpegDecRet → Prog Fault JpegDecRet α Unit
  | some retCode => exit retCode
  | none => return ()

/-- Delete the stuffing bits before the next byte. The source also keeps their
number in `currentByte`, which is not read again: the marker loops end with
a scan header. -/
def deleteStuffing : Decoder JpegDecRet Unit := do
  whenever (fun c => c.stream.bitPosInByte ≠ 0) do
    let bitPos ← gets (·.stream.bitPosInByte)
    let flushed ← flushBits env.mem (sub32 8 bitPos)
    exitIf .strmError fun _ => flushed = strmErrorWord

/-- SOS: the header counts as ready where decoding it failed too. -/
def scanSegment : Decoder JpegDecRet Unit := do
  modify fun c => { c with image.imageReady := 0 }
  let retCode ← call (jpegDecDecodeScan env.mem env.alloc)
  modify fun c => { c with image.headerReady := 1 }
  orReturn retCode
  deleteStuffing env

/-- EOI. -/
def endSegment : Decoder JpegDecRet Unit := do
  exitIf .frameReady fun c => c.image.imageReady ≠ 0
  exit .error

/-- DRI. -/
def restartSegment : Decoder JpegDecRet Unit := do
  let currentBytes ← get2Bytes env.mem
  exitIf .strmError fun _ => currentBytes = strmErrorWord
  let Ri ← get2Bytes env.mem
  modify fun c => { c with frame.Ri := Ri }
  record .dri

/-- RST0 to RST7. -/
def clearPredictors : Decoder JpegDecRet Unit :=
  modify fun c => { c with scan.pred := fun _ => 0 }

/-- A segment that is jumped over. -/
def jumpSegment : Decoder JpegDecRet Unit := do
  let currentBytes ← get2Bytes env.mem
  exitIf .strmError fun _ => currentBytes = strmErrorWord
  modify fun c => { c with stream := c.stream.skipSegment currentBytes }

/-- The markers that end decoding with `JPEGDEC_UNSUPPORTED`. -/
def IsUnsupported (marker : Nat) : Prop :=
  marker = DNL ∨ marker = TEM ∨ IsUnsupportedCoding marker

instance (marker : Nat) : Decidable (IsUnsupported marker) := inferInstanceAs (Decidable (_ ∨ _))

/-! ## The next scan -/

/-- The markers `JpegDecNextScanHdrs` jumps over: APP0 to APP15 and COM. -/
def IsScanJump (marker : Nat) : Prop := marker = APP0 ∨ IsAppn marker ∨ marker = COM

instance (marker : Nat) : Decidable (IsScanJump marker) := inferInstanceAs (Decidable (_ ∨ _))

/-- The switch of `JpegDecNextScanHdrs`. -/
def nextScanSegment (marker : Nat) : Decoder JpegDecRet Unit :=
  if marker = SOS then scanSegment env
  else if marker = DHT then jpegDecDecodeHuffmanTables env.mem
  else if marker = DQT then jpegDecDecodeQuantTables env.mem
  else if marker = EOI then endSegment
  else if marker = DRI then restartSegment env
  else if IsRst marker then clearPredictors
  else if IsUnsupported marker then exit .unsupported
  else if IsScanJump marker then jumpSegment env
  else return ()

/-- The state of a marker loop: the instance and the local variables. -/
structure Scanning where
  cont : JpegDecContainer
  currentByte : Nat := 0
  findhufftable : Nat := 0

namespace Scanning

variable {α : Type}

/-- A step on the instance. -/
def onCont (x : Decoder JpegDecRet α) : Prog Fault JpegDecRet Scanning α :=
  zoom Scanning.cont (fun c s => { s with cont := c }) x

/-- The end of a round: the loop goes on until a header is ready, and while it
is not behind the stream. -/
def goOn : Prog Fault JpegDecRet Scanning Bool := gets fun s =>
  decide (s.cont.image.headerReady = 0 ∧ s.cont.stream.readBits / 8 ≤ s.cont.stream.streamLength)

/-- The byte behind a marker prefix, and the segment it starts. -/
def marker (segment : Nat → Prog Fault JpegDecRet Scanning Unit) :
    Prog Fault JpegDecRet Scanning Bool := do
  let currentByte ← onCont (getByte env.mem)
  modify fun s => { s with currentByte := currentByte }
  segment currentByte
  goOn

/-- A byte that is no marker prefix. -/
def noMarker : Prog Fault JpegDecRet Scanning Bool := do
  if ← gets (fun s => decide (s.currentByte = strmErrorWord)) then
    return false
  else
    goOn

end Scanning

open Scanning

/-- One round of the loop of `JpegDecNextScanHdrs`. -/
def nextScanRound : Prog Fault JpegDecRet Scanning Bool := do
  if (← onCont (getByte env.mem)) = 0xFF then
    marker env fun m => onCont (nextScanSegment env m)
  else
    noMarker

/-- Decode the headers of the next scan. -/
def jpegDecNextScanHdrs : Decoder JpegDecRet Unit := do
  modify fun c => { c with image.headerReady := 0 }
  zoom (fun c => ({ cont := c } : Scanning)) (fun s _ => s.cont)
    (loop .rounds (nextScanRound env) env.rounds)

/-! ## The picture -/

/-- SOF0 and SOF2. -/
def frameSegment (marker : Nat) : Decoder JpegDecRet Unit := do
  modify fun c => { c with
    frame.codingType := marker
    info.operationType := if marker = SOF0 then JPEGDEC_BASELINE else JPEGDEC_PROGRESSIVE }
  jpegDecDecodeFrameHdr env.mem

/-- Flush the rest of an APP0 segment with the `0xFF00` test switched off. -/
def flushApp0 (L appBits : Nat) : Decoder JpegDecRet Unit := do
  modify fun c => { c with stream.appnFlag := 1 }
  let flushed ← flushSegmentBits env.mem L appBits
  exitIf .strmError fun _ => flushed = strmErrorWord
  modify fun c => { c with stream.appnFlag := 0 }

/-- APP0 of an image: the segment is flushed. The source writes its rest as
`(currentBytes - 2) * 8`. -/
def app0Image : Decoder JpegDecRet Unit := do
  let currentBytes ← get2Bytes env.mem
  flushApp0 env currentBytes 16

/-- APP0 of a thumbnail: go on behind the header of an extension that carries
a JPEG thumbnail, and flush every other segment. -/
def app0Thumbnail : Prog Fault JpegDecRet Scanning Unit := do
  let appLength ← onCont (get2Bytes env.mem)
  let currentBytes ← onCont (get2Bytes env.mem)
  if currentBytes ≠ 0x4A46 then
    onCont (flushApp0 env appLength 32)
  else
    let currentBytes ← onCont (get2Bytes env.mem)
    if currentBytes ≠ 0x5858 then
      onCont (flushApp0 env appLength 48)
    else
      let currentByte ← onCont (getByte env.mem)
      modify fun s => { s with currentByte := currentByte }
      if currentByte ≠ 0x00 then
        onCont (flushApp0 env appLength 56)
      else
        let currentByte ← onCont (getByte env.mem)
        modify fun s => { s with currentByte := currentByte, cont.stream.appnFlag := 0 }
        exitIf .unsupported fun _ => currentByte ≠ JPEGDEC_THUMBNAIL_JPEG
        modify fun s => { s with cont.stream.thumbnail := 1 }

/-- The switch of `JpegDecDecode`. -/
def decodeSegment (decImageType marker : Nat) : Prog Fault JpegDecRet Scanning Unit := do
  if marker = SOF0 ∨ marker = SOF2 then onCont (frameSegment env marker)
  else if marker = SOS then onCont (scanSegment env)
  else if marker = DHT then
    onCont (jpegDecDecodeHuffmanTables env.mem)
    modify fun s => { s with findhufftable := 1 }
  else if marker = DQT then onCont (jpegDecDecodeQuantTables env.mem)
  else if marker = EOI then onCont endSegment
  else if marker = DRI then
    onCont (restartSegment env)
    modify fun s => { s with cont.driEn := 0xFFD0 }
  else if IsRst marker then onCont clearPredictors
  else if IsUnsupported marker then exit .unsupported
  else if marker = APP0 then
    if decImageType = JPEGDEC_THUMBNAIL then app0Thumbnail env else onCont (app0Image env)
  else if IsAppn marker ∨ marker = COM then onCont (jumpSegment env)
  else return ()

/-- Whether the next byte is the prefix of a marker: it is where the last byte
read was `0xFF`, which is not read again. -/
def decodePrefix : Prog Fault JpegDecRet Scanning Bool := do
  if ← gets (fun s => decide (s.currentByte = 0xFF)) then
    return true
  else
    return decide ((← onCont (getByte env.mem)) = 0xFF)

/-- One round of the marker loop of `JpegDecDecode`. -/
def decodeRound (decImageType : Nat) : Prog Fault JpegDecRet Scanning Bool := do
  if ← gets (fun s => decide
      (s.cont.image.headerReady ≠ 0 ∧ s.cont.info.SliceReadyForPause ≠ 0)) then
    return false
  else if ← decodePrefix env then
    marker env (decodeSegment env decImageType)
  else
    noMarker

/-- The marker loop of `JpegDecDecode`, and the default tables where it found
no DHT segment. -/
def findMarkers (decImageType : Nat) : Decoder JpegDecRet Unit :=
  zoom (fun c => ({ cont := c } : Scanning)) (fun s _ => s.cont) do
    loop .rounds (decodeRound env decImageType) env.rounds
    if ← gets (fun s => decide (s.findhufftable = 0)) then
      onCont jpegDefaultHuffmanTables

end Jpeg

end Rk3399
