import Rk3399.Jpeg.Model.Headers
/-!
# Scan headers and the output buffers

`JpegDecDecodeScanHeader` and `JpegDecDecodeScan` of `jpegdecscan.c`, and
`JpegDecAllocateResidual` of `jpegdecinternal.c`, for the build in which
`DRM_LINUX` is defined and `JPEGDEC_RESET_OUTPUT` is not. What the
allocator answers is a parameter.
-/

namespace Rk3399

namespace Jpeg

open Prog

variable (mem : Nat → UInt8)

/-! ## Scan header -/

/-- The low four bits of a size ask for a fill. -/
def NeedsFill (n : Nat) : Prop := n % 16 ≠ 0 ∧ n % 16 ≤ 8

instance (n : Nat) : Decidable (NeedsFill n) := inferInstanceAs (Decidable (_ ∧ _))

/-- The sizes and the mode of a scan of the second or third component. -/
def scanChroma : Decoder JpegDecRet Unit := do
  whenever (fun c => c.info.operationType = JPEGDEC_PROGRESSIVE ∨
      c.info.operationType = JPEGDEC_NONINTERLEAVED ∨ c.info.nonInterleavedScanReady ≠ 0) do
    let orig ← gets (·.info.yCbCrModeOrig)
    if orig = JPEGDEC_YUV420 then
      modify fun c => { c with info.X := c.frame.hwX / 2, info.Y := c.frame.hwY / 2 }
    else if orig = JPEGDEC_YUV422 then
      modify fun c => { c with info.X := c.frame.hwX / 2 }
    else if orig = JPEGDEC_YUV440 then
      modify fun c => { c with info.Y := c.frame.hwY / 2 }
    else
      modify fun c => { c with info.yCbCrMode := 0 }
      exit .unsupported
  modify fun c => { c with info.yCbCrMode := 0 }

/-- The sizes and the mode of a scan of the first component alone. -/
def scanLuma (cIndex : Nat) : Decoder JpegDecRet Unit := do
  modify fun c => { c with info.X := c.frame.hwX, info.Y := c.frame.hwY }
  let mode ← gets (·.info.yCbCrMode)
  if mode = JPEGDEC_YUV420 then
    modify fun c => { c with info.yCbCrMode := 1 }
  else if mode = JPEGDEC_YUV422 then
    modify fun c => { c with
      info.yCbCrMode := 0
      info.yCbCr422 := if cIndex = 0 then 1 else c.info.yCbCr422 }
  else if mode = JPEGDEC_YUV444 then
    modify fun c => { c with info.yCbCrMode := 0 }
    exit .unsupported

/-- The widths and heights of a single-component scan that are not multiples of
16, for the component `Cs`. -/
def scanFill (Cs : Nat) (c : JpegDecContainer) : JpegDecContainer :=
  let right := (Cs = 1 ∨ c.info.yCbCrModeOrig = JPEGDEC_YUV440) ∧ NeedsFill c.frame.X
  let bottom := (Cs = 1 ∨ c.info.yCbCrModeOrig = JPEGDEC_YUV422) ∧ NeedsFill c.frame.Y
  { c with
    info.X := if c.info.X % 16 ≠ 0 then u32 (c.info.X + 8) else c.info.X
    info.fillX := if c.info.X % 16 ≠ 0 then 1 else c.info.fillX
    info.fillRight := if c.info.X % 16 = 0 ∧ right then 1 else c.info.fillRight
    info.Y := if c.info.Y % 16 ≠ 0 then u32 (c.info.Y + 8) else c.info.Y
    info.fillY := if c.info.Y % 16 ≠ 0 then 1 else c.info.fillY
    info.fillBottom := if c.info.Y % 16 = 0 ∧ bottom then 1 else c.info.fillBottom }

/-- The sizes and the mode of a scan of one component, by its identifier. -/
def scanComponent (cIndex : Fin 3) (Cs : Nat) : Decoder JpegDecRet Unit :=
  if Cs = 2 ∨ Cs = 3 then scanChroma
  else if Cs = 1 then scanLuma cIndex
  else do
    modify fun c => { c with info.yCbCrMode := 0 }
    exit .unsupported

/-- The component update of a scan of one component, which has the index
`cIndex` and the identifier `Cs`. -/
def scanUpdate (cIndex : Fin 3) (Cs : Nat) : Decoder JpegDecRet Unit := do
  let Nf ← gets (·.frame.Nf)
  if Nf = 3 then
    modify fun c => { c with info.fillRight := 0, info.fillBottom := 0 }
    let k ← subscript (sub32 Cs 1)
    modify fun c => { c with info.pfNeeded := Function.update c.info.pfNeeded k 0 }
    scanComponent cIndex Cs
    modify (scanFill Cs)
  else if Nf = 1 then
    modify fun c => { c with info.yCbCr422 := 0 }

/-- The body of a scan header of one component. -/
def scanSingle : Decoder JpegDecRet Unit := do
  modify fun c => { c with
    info.operationType :=
      if c.info.operationType = JPEGDEC_BASELINE ∧ c.info.yCbCrMode ≠ JPEGDEC_YUV400 then
        JPEGDEC_NONINTERLEAVED
      else c.info.operationType }
  let Cs ← getByte mem
  modify fun c => { c with frame.cIndex := sub32 Cs 1, info.componentId := sub32 Cs 1 }
  let k ← subscript (sub32 Cs 1)
  modify fun c => { c with scan.Cs := Function.update c.scan.Cs k Cs }
  let tmp ← getByte mem
  modify fun c => { c with
    scan.Td := Function.update c.scan.Td k (tmp / 16)
    scan.Ta := Function.update c.scan.Ta k (tmp % 16) }
  scanUpdate k Cs
  modify fun c => { c with
    info.yCbCrMode :=
      if c.info.operationType = JPEGDEC_PROGRESSIVE ∨
          c.info.operationType = JPEGDEC_NONINTERLEAVED then 0
      else c.info.yCbCrMode }

/-- The loop over the `n` components from `i` on of an interleaved scan. -/
def scanComponents : Nat → Nat → Decoder JpegDecRet Unit
  | 0, _ => return ()
  | n + 1, i => do
    let Cs ← getByte mem
    let k ← subscript i
    modify fun c => { c with scan.Cs := Function.update c.scan.Cs k Cs }
    let tmp ← getByte mem
    modify fun c => { c with
      scan.Td := Function.update c.scan.Td k (tmp / 16)
      scan.Ta := Function.update c.scan.Ta k (tmp % 16)
      info.pfNeeded := Function.update c.info.pfNeeded k 1 }
    scanComponents n (i + 1)

/-- The body of a scan header of several components. -/
def scanInterleaved (Ns : Nat) : Decoder JpegDecRet Unit := do
  scanComponents mem Ns 0
  modify fun c => { c with
    info.X := c.frame.hwX
    info.Y := c.frame.hwY
    frame.cIndex := 0
    info.yCbCrMode := c.info.yCbCrModeOrig }

/-- What a baseline scan sets. -/
def baselineScan (c : JpegDecContainer) : JpegDecContainer :=
  { c with
    info.nonInterleaved := if c.info.operationType = JPEGDEC_BASELINE then 0 else 1
    info.amountOfQTables :=
      if (c.frame.Nf = 3 ∧ c.scan.Ns = 1) ∨ (c.frame.Nf = 1 ∧ c.scan.Ns = 1) then 1 else 3 }

/-- What a progressive scan sets. -/
def progressiveScan (c : JpegDecContainer) : JpegDecContainer :=
  if c.scan.Ns = 1 then
    { c with
      info.nonInterleaved := 1
      info.componentId := c.frame.cIndex
      info.amountOfQTables := 1 }
  else
    { c with info.nonInterleaved := 0, info.componentId := 0, info.amountOfQTables := 3 }

/-- The spectral selection and the successive approximation. -/
def scanParams : Decoder JpegDecRet Unit := do
  let Ss ← getByte mem
  modify fun c => { c with scan.Ss := Ss }
  let Se ← getByte mem
  modify fun c => { c with scan.Se := Se }
  let tmp ← getByte mem
  modify fun c => { c with scan.Ah := tmp / 16, scan.Al := tmp % 16 }
  whenever (fun c => c.frame.codingType = SOF0) do
    exitIf .unsupported fun c => c.scan.Ss ≠ 0
    exitIf .unsupported fun c => c.scan.Se ≠ 63
    exitIf .unsupported fun c => c.scan.Ah ≠ 0
    exitIf .unsupported fun c => c.scan.Al ≠ 0
    modify baselineScan
  whenever (fun c => c.frame.codingType = SOF2) do
    exitIf .unsupported fun c => c.scan.Ss = 0 ∧ c.scan.Se ≠ 0
    exitIf .unsupported fun c => 13 < c.scan.Ah
    exitIf .unsupported fun c => 13 < c.scan.Al
    modify progressiveScan

/-- The scan header. -/
def jpegDecDecodeScanHeader : Decoder JpegDecRet Unit := do
  let Ls ← get2Bytes mem
  modify fun c => { c with scan.Ls := Ls }
  exitIf .strmError (SegmentShort Ls)
  let Ns ← getByte mem
  modify fun c => { c with scan.Ns := Ns, info.fillX := 0, info.fillY := 0 }
  (if Ns = 1 then scanSingle mem else scanInterleaved mem Ns)
  scanParams mem

/-! ## Buffers -/

/-- The answer of `allocator_drm.alloc` and `allocator_drm.mmap` for a table
memory: the value the first returns, and the address and descriptor the
buffer has after both; the address is `0` where the mapping failed. -/
structure AllocReply where
  ret : Int
  virAddr : Nat
  phyAddr : Nat
  deriving DecidableEq, Repr

/-- The sizes of the table memory. -/
def tableSize (operationType : OperationType) : Nat :=
  if operationType = JPEGDEC_PROGRESSIVE then JPEGDEC_PROGRESSIVE_TABLE_SIZE
  else JPEGDEC_BASELINE_TABLE_SIZE

/-- A fresh table memory of `size` bytes. -/
def allocTable (reply : AllocReply) (size : Nat) : Decoder JpegDecRet Unit := do
  modify fun c => { c with
    frame.pTableBase := ⟨size, reply.virAddr, reply.phyAddr⟩
    tableMem := fun _ => 0 }
  exitIf .memfail fun _ => reply.ret = -1

/-- The second chroma plane as `JpegDecAllocateResidual` computes it. -/
def residualChroma2 (operationType : OperationType) (chroma sizeChroma : Nat) : Nat :=
  if operationType ≠ JPEGDEC_BASELINE then u32 (chroma + u32 (sizeChroma / 2 * 2 ^ 10)) else 0

/-- The second chroma plane as `JpegDecDecodeScan` computes it. -/
def scanChroma2 (operationType : OperationType) (chroma sizeChroma : Nat) : Nat :=
  if operationType ≠ JPEGDEC_BASELINE then u32 (chroma + sizeChroma / 2) else 0

/-- The output planes laid out in `pictureMem`, the second chroma plane by
`chroma2`. -/
def layoutPlanes (chroma2 : OperationType → Nat → Nat → Nat) (c : JpegDecContainer) :
    JpegDecContainer :=
  let luma := c.pictureMem
  let c := { c with asicBuff.outLumaBuffer := luma, info.outLuma := luma }
  if c.image.sizeChroma ≠ 0 then
    let chroma := u32 (luma.phyAddr + u32 (c.image.sizeLuma * 2 ^ 10))
    let outChroma := { c.asicBuff.outChromaBuffer with phyAddr := chroma }
    let outChroma2 := { c.asicBuff.outChromaBuffer2 with
      phyAddr := chroma2 c.info.operationType chroma c.image.sizeChroma }
    { c with
      asicBuff.outChromaBuffer := outChroma
      asicBuff.outChromaBuffer2 := outChroma2
      info.outChroma := outChroma
      info.outChroma2 := outChroma2 }
  else c

/-- The output planes the user allocated. -/
def givenPlanes (c : JpegDecContainer) : JpegDecContainer :=
  let outChroma := { c.asicBuff.outChromaBuffer with
    virAddr := c.info.givenOutChroma.virAddr, phyAddr := c.info.givenOutChroma.phyAddr }
  let outChroma2 := { c.asicBuff.outChromaBuffer2 with
    virAddr := c.info.givenOutChroma2.virAddr, phyAddr := c.info.givenOutChroma2.phyAddr }
  { c with
    asicBuff.outLumaBuffer := c.pictureMem
    asicBuff.outChromaBuffer := outChroma
    asicBuff.outChromaBuffer2 := outChroma2
    info.outLuma := c.pictureMem
    info.outChroma := if c.image.sizeChroma ≠ 0 then outChroma else c.info.outChroma
    info.outChroma2 := if c.image.sizeChroma ≠ 0 then outChroma2 else c.info.outChroma2
    info.userAllocMem := 1 }

/-- Allocate the table memory and lay out the output planes. -/
def jpegDecAllocateResidual (reply : AllocReply) : Decoder JpegDecRet Unit := do
  let size ← gets fun c => tableSize c.info.operationType
  whenever (fun c => c.frame.pTableBase.virAddr = 0 ∨ size ≠ c.frame.pTableBase.size)
    (allocTable reply size)
  whenever (fun c => c.ppInstance = 0 ∨ c.usePipeline = 0)
    (modify fun c =>
      if c.info.givenOutLuma.virAddr = 0 then layoutPlanes residualChroma2 c else givenPlanes c)

/-- The scan header, and the buffers the scan is decoded into. -/
def jpegDecDecodeScan (reply : AllocReply) : Decoder JpegDecRet Unit := do
  jpegDecDecodeScanHeader mem
  if ← gets (fun c => decide (c.info.allocated = 0)) then
    jpegDecAllocateResidual reply
    modify fun c => { c with info.allocated := 1 }
  else
    modify (layoutPlanes scanChroma2)

end Jpeg

end Rk3399
