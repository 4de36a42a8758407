import Rk3399.Jpeg.Model.Container
/-!
# The segment parsers

`JpegDecDecodeFrameHdr`, `JpegDecMode`, `JpegDecDecodeQuantTables`,
`JpegDecDecodeHuffmanTables` and `JpegDefaultHuffmanTables` of
`jpegdechdrs.c`. Going on stands for the return code `JPEGDEC_OK`.
-/

namespace Rk3399

namespace Jpeg

open Prog

variable (mem : Nat → UInt8)

/-! ## Sampling -/

/-- `n` rounded up to a multiple of 16: `n += 0xf; n &= ~(0xf)`. -/
def roundUp16 (n : Nat) : Nat := u32 (n + 15) / 16 * 16

/-- The assignments the branches of `JpegDecMode` share: the mode, the size in
pels, the fill flags where they are wanted, and in slice mode the sizes of a
slice, of `row` pels a line and with the chroma size by `chroma`. -/
def setSampling (mode : Nat) (right bottom : Bool) (row chroma : Nat → Nat)
    (c : JpegDecContainer) : JpegDecContainer :=
  let luma := u32 (row c.frame.hwX * u32 (c.info.sliceMbSetValue * 16))
  { c with
    info.yCbCrMode := mode
    info.X := c.frame.hwX
    info.Y := c.frame.hwY
    info.fillRight :=
      if right ∧ c.frame.X % 16 ≠ 0 ∧ c.frame.X % 16 ≤ 8 then 1 else c.info.fillRight
    info.fillBottom :=
      if bottom ∧ c.frame.Y % 16 ≠ 0 ∧ c.frame.Y % 16 ≤ 8 then 1 else c.info.fillBottom
    image.sizeLuma := if c.info.sliceMbSetValue ≠ 0 then luma else c.image.sizeLuma
    image.sizeChroma := if c.info.sliceMbSetValue ≠ 0 then chroma luma else c.image.sizeChroma }

/-- The sampling factors of the three components are `h`×`v`, 1×1 and 1×1. -/
def Sampling (h v : Nat) (f : FrameInfo) : Prop :=
  (f.component 0).H = h ∧ (f.component 0).V = v ∧
    (f.component 1).H = 1 ∧ (f.component 1).V = 1 ∧
    (f.component 2).H = 1 ∧ (f.component 2).V = 1

instance (h v : Nat) (f : FrameInfo) : Decidable (Sampling h v f) :=
  inferInstanceAs (Decidable (_ ∧ _))

/-- The branch of `JpegDecMode` a frame takes, `none` for an unsupported one. -/
def samplingOf (f : FrameInfo) : Option (JpegDecContainer → JpegDecContainer) :=
  if f.Nf = 3 then
    if Sampling 2 2 f then some (setSampling JPEGDEC_YUV420 false false id fun l => l / 2)
    else if Sampling 2 1 f then some (setSampling JPEGDEC_YUV422 false true id fun l => l)
    else if Sampling 1 2 f then some (setSampling JPEGDEC_YUV440 true false id fun l => l)
    else if Sampling 1 1 f then some (setSampling JPEGDEC_YUV444 true true id fun l => u32 (l * 2))
    else if Sampling 4 1 f then some (setSampling JPEGDEC_YUV411 false true id fun l => l / 2)
    else none
  else if f.Nf = 1 then
    if (f.component 0).V = 1 ∨ (f.component 0).H = 1 then
      some (setSampling JPEGDEC_YUV400 true true roundUp16 fun _ => 0)
    else none
  else none

/-- Find the sampling format of the frame. -/
def jpegDecMode : Decoder JpegDecRet Unit := do
  match samplingOf (← gets (·.frame)) with
  | some f =>
    modify f
    modify fun c => { c with info.yCbCrModeOrig := c.info.yCbCrMode }
  | none => exit .unsupported

/-! ## Frame header -/

/-- The indices of the components `JpegDecDecodeFrameHdr` loops over; it has
refused every number of components but one and three. -/
def componentsOf (Nf : Nat) : List (Fin 3) := if Nf = 3 then [0, 1, 2] else [0]

/-- One round of the loop over the components. -/
def frameComponent (i : Fin 3) : Decoder JpegDecRet Unit := do
  let C ← getByte mem
  modify fun c => { c with
    frame.component := Function.update c.frame.component i { c.frame.component i with C := C } }
  (if i = 0 then
      modify fun c => { c with scan.index := (c.frame.component i).C }
    else
      exitIf .unsupported fun c =>
        u32 ((c.frame.component (i - 1)).C + 1) ≠ (c.frame.component i).C)
  let tmp1 ← getByte mem
  modify fun c => { c with
    frame.component := Function.update c.frame.component i
      { c.frame.component i with H := tmp1 / 16, V := tmp1 % 16 } }
  let Tq ← getByte mem
  modify fun c => { c with
    frame.component := Function.update c.frame.component i { c.frame.component i with Tq := Tq } }

/-- The loop over the components. -/
def frameComponents : List (Fin 3) → Decoder JpegDecRet Unit
  | [] => return ()
  | i :: is => do
    frameComponent mem i
    frameComponents is

/-- The largest of a factor over the components of the frame. -/
def maxFactor (factor : Components → Nat) (f : FrameInfo) : Nat :=
  (componentsOf f.Nf).foldl (fun m i => max m (factor (f.component i))) 0

/-- The dimensions are outside what the hardware supports. -/
def SizeUnsupported (c : JpegDecContainer) : Prop :=
  c.frame.hwX < c.minSupportedWidth ∨ c.frame.hwY < c.minSupportedHeight ∨
    c.maxSupportedWidth < c.frame.hwX ∨ c.maxSupportedHeight < c.frame.hwY ∨
    c.maxSupportedPixelAmount < u32 (c.frame.hwX * c.frame.hwY)

instance (c : JpegDecContainer) : Decidable (SizeUnsupported c) :=
  inferInstanceAs (Decidable (_ ∨ _))

/-- The part of the frame header before the components. -/
def frameSize : Decoder JpegDecRet Unit := do
  let Lf ← get2Bytes mem
  modify fun c => { c with frame.Lf := Lf }
  exitIf .strmError (SegmentShort Lf)
  let P ← getByte mem
  modify fun c => { c with frame.P := P }
  exitIf .unsupported fun _ => P ≠ 8
  let Y ← get2Bytes mem
  modify fun c => { c with frame.Y := Y }
  exitIf .unsupported fun _ => Y < 1
  modify fun c => { c with frame.hwY := roundUp16 Y }
  let X ← get2Bytes mem
  modify fun c => { c with frame.X := X }
  exitIf .unsupported fun _ => X < 1
  modify fun c => { c with
    frame.hwX := roundUp16 X
    info.X := roundUp16 X
    info.Y := c.frame.hwY }
  exitIf .unsupported SizeUnsupported
  let Nf ← getByte mem
  modify fun c => { c with frame.Nf := Nf }
  exitIf .unsupported fun _ => Nf ≠ 3 ∧ Nf ≠ 1

/-- `((a + 8 * m - 1) / (8 * m)) * m * 8`: `a` rounded up to whole MCUs. -/
def mcuAlign (a m : Nat) : Nat := u32 (u32 (u32 (a + u32 (m * 8) - 1) / u32 (m * 8) * m) * 8)

/-- The sizes of one plane: `image.pixelsPerRow`, `image.columns` and
`frame.numBlocks`, from the sizes in whole MCUs and the largest factors. -/
def setPlane (width height Hmax Vmax : Nat) (c : JpegDecContainer) (i : Fin 3) :
    JpegDecContainer :=
  let tmp1 := u32 (u32 (width * (c.frame.component i).H) + Hmax - 1) / Hmax
  let tmp2 := u32 (u32 (height * (c.frame.component i).V) + Vmax - 1) / Vmax
  let blocks :=
    u32 ((u32 (u32 (c.frame.hwX * (c.frame.component i).H) / Hmax + 7) / 8) *
      (u32 (u32 (c.frame.hwY * (c.frame.component i).V) / Vmax + 7) / 8))
  let size := u32 (c.image.size + u32 (tmp1 * tmp2))
  { c with
    image.size := size
    image.pixelsPerRow := Function.update c.image.pixelsPerRow i tmp1
    image.columns := Function.update c.image.columns i tmp2
    frame.numBlocks := Function.update c.frame.numBlocks i blocks
    image.sizeLuma := if i = 0 then size else c.image.sizeLuma }

/-- The sizes in MCUs and the sizes of the planes. `image.size` holds the
running sum of the source's local `size`. -/
def setGeometry (Hmax Vmax : Nat) (c : JpegDecContainer) : JpegDecContainer :=
  let width := mcuAlign c.frame.hwX Hmax
  let height := mcuAlign c.frame.hwY Vmax
  let numMcuInRow := width / u32 (8 * Hmax)
  let c := { c with
    frame.numMcuInRow := numMcuInRow
    frame.numMcuInFrame := u32 (numMcuInRow * (height / u32 (8 * Vmax)))
    frame.mcuNumber := 0
    frame.row := 0
    frame.col := 0
    image.size := 0 }
  let c := (componentsOf c.frame.Nf).foldl (setPlane width height Hmax Vmax) c
  { c with image.sizeChroma := sub32 c.image.size c.image.sizeLuma }

/-- A frame of one component is given the factors 1×1, whatever its header
says. -/
def normaliseSingle (c : JpegDecContainer) : JpegDecContainer :=
  if c.frame.Nf = 1 then
    { c with
      frame.component :=
        Function.update c.frame.component 0 { c.frame.component 0 with H := 1, V := 1 } }
  else c

/-- The width of 4:1:1 rounded up to a multiple of 32. -/
def roundUp411 (c : JpegDecContainer) : JpegDecContainer :=
  { c with frame.hwX := u32 (c.frame.hwX + 16), info.X := u32 (c.frame.hwX + 16) }

/-- The part of the frame header behind the components. -/
def frameGeometry : Decoder JpegDecRet Unit := do
  modify normaliseSingle
  let Hmax ← gets fun c => maxFactor Components.H c.frame
  let Vmax ← gets fun c => maxFactor Components.V c.frame
  exitIf .unsupported fun c => c.frame.Nf ≠ 1 ∧ (Hmax = 0 ∨ Vmax = 0)
  whenever (fun c => Hmax = 4 ∧ c.frame.hwX % 32 ≠ 0) do
    modify roundUp411
    exitIf .unsupported fun c =>
      c.maxSupportedWidth < c.frame.hwX ∨
        c.maxSupportedPixelAmount < u32 (c.frame.hwX * c.frame.hwY)
  modify (setGeometry Hmax Vmax)

/-- The frame header. -/
def jpegDecDecodeFrameHdr : Decoder JpegDecRet Unit := do
  frameSize mem
  frameComponents mem (componentsOf (← gets (·.frame.Nf)))
  frameGeometry
  jpegDecMode
  record .sof

/-! ## Quantisation tables -/

/-- The table of an identifier below four, `none` for the others. -/
def tableId (n : Nat) : Option (Fin 4) := if h : n < 4 then some ⟨n, h⟩ else none

/-- One round of the loop of `JpegDecDecodeQuantTables`; `t` is the number of
bytes of the segment that are read. -/
def quantTable (t : Nat) : Decoder JpegDecRet Nat := do
  let tmp ← getByte mem
  exitIf .unsupported fun _ => tmp / 16 ≠ 0
  match tableId (tmp % 16) with
  | none => exit .unsupported
  | some Tq =>
    let table ← onStream (getBytes mem 64)
    modify fun c => { c with quant := c.quant.set table Tq }
    record (.dqt Tq)
    return t + 1 + 64

/-- The loop of `JpegDecDecodeQuantTables`, with a bound on its rounds: `t`
grows in each of them. -/
def quantTables (Lq : Nat) : Nat → Nat → Decoder JpegDecRet Unit
  | 0, _ => fault .rounds
  | n + 1, t => if t < Lq then quantTable mem t >>= quantTables Lq n else return ()

/-- The quantisation tables of a DQT segment. -/
def jpegDecDecodeQuantTables : Decoder JpegDecRet Unit := do
  let Lq ← get2Bytes mem
  modify fun c => { c with quant.Lq := Lq }
  exitIf .strmError (SegmentShort Lq)
  quantTables mem Lq (Lq + 1) 4

/-! ## Huffman tables -/

/-- The first index of a non-zero count. -/
def firstLength (bits : List Nat) : Option Nat := bits.findIdx? (· ≠ 0)

/-- One more than the last index of a non-zero count. -/
def lastLength (bits : List Nat) : Option Nat :=
  (bits.reverse.findIdx? (· ≠ 0)).map (bits.length - ·)

/-- A table with new counts and values; `start` and `last` stay where all
counts are zero. -/
def VlcTable.define (t : VlcTable) (bits vals : List Nat) : VlcTable where
  bits := bits
  vals := some vals
  tableLength := vals.length
  start := (firstLength bits).getD t.start
  last := (lastLength bits).getD t.last

/-- The sum of the counts, in 32 bits. -/
def countSum (bits : List Nat) : Nat := bits.foldl (fun tmp b => u32 (tmp + b)) 0

/-- The class of a DHT table, `none` for the values that are refused. -/
def tableClass : Nat → Option TableClass
  | 0 => some .dc
  | 1 => some .ac
  | _ => none

/-- One round of the loop of `JpegDecDecodeHuffmanTables`; `len` is the number
of bytes of the segment that are read. `DWLmalloc` takes a 32-bit number of
bytes, so the values of a table of `2 ^ 30` entries and more do not fit the
block they are written to. -/
def huffmanTable (len : Nat) : Decoder JpegDecRet Nat := do
  let tmp ← getByte mem
  match tableClass (tmp / 16) with
  | none => exit .unsupported
  | some Tc =>
    exitIf .unsupported fun c => c.frame.codingType = SOF0 ∧ 1 < tmp % 16
    exitIf .unsupported fun c => c.frame.codingType = SOF2 ∧ 3 < tmp % 16
    match tableId (tmp % 16) with
    | none => exit .unsupported
    | some Th =>
      let bits ← onStream (getBytes mem 16)
      let count := countSum bits
      assert (.heap count) fun _ => 4 * count < 2 ^ 32
      let vals ← onStream (getBytes mem count)
      let table ← gets fun c => (c.vlc.get Tc Th).define bits vals
      modify fun c => { c with vlc := c.vlc.set table Tc Th }
      record (.dht Tc Th table)
      return len + 1 + 16 + count

/-- The loop of `JpegDecDecodeHuffmanTables`, with a bound on its rounds:
`len` grows in each of them. -/
def huffmanTables (Lh : Nat) : Nat → Nat → Decoder JpegDecRet Unit
  | 0, _ => fault .rounds
  | n + 1, len =>
    if len < Lh then huffmanTable mem len >>= huffmanTables Lh n else return ()

/-- The Huffman tables of a DHT segment. -/
def jpegDecDecodeHuffmanTables : Decoder JpegDecRet Unit := do
  let Lh ← get2Bytes mem
  modify fun c => { c with vlc.Lh := Lh }
  exitIf .strmError (SegmentShort Lh)
  huffmanTables mem Lh (Lh + 1) 4

/-! ## Default Huffman tables -/

/-- The counts of `ff_mjpeg_bits_dc_luminance`, from index 1 on. -/
def bitsDcLuminance : List Nat := [0, 1, 5, 1, 1, 1, 1, 1, 1, 0, 0, 0, 0, 0, 0, 0]

/-- `ff_mjpeg_val_dc`. -/
def valDc : List Nat := [0, 1, 2, 3, 4, 5, 6, 7, 8, 9, 10, 11]

/-- The counts of `ff_mjpeg_bits_dc_chrominance`, from index 1 on. -/
def bitsDcChrominance : List Nat := [0, 3, 1, 1, 1, 1, 1, 1, 1, 1, 1, 0, 0, 0, 0, 0]

/-- The counts of `ff_mjpeg_bits_ac_luminance`, from index 1 on. -/
def bitsAcLuminance : List Nat := [0, 2, 1, 3, 3, 2, 4, 3, 5, 5, 4, 4, 0, 0, 1, 0x7d]

/-- `ff_mjpeg_val_ac_luminance`. -/
def valAcLuminance : List Nat :=
  [0x01, 0x02, 0x03, 0x00, 0x04, 0x11, 0x05, 0x12, 0x21, 0x31, 0x41, 0x06, 0x13, 0x51, 0x61, 0x07,
   0x22, 0x71, 0x14, 0x32, 0x81, 0x91, 0xa1, 0x08, 0x23, 0x42, 0xb1, 0xc1, 0x15, 0x52, 0xd1, 0xf0,
   0x24, 0x33, 0x62, 0x72, 0x82, 0x09, 0x0a, 0x16, 0x17, 0x18, 0x19, 0x1a, 0x25, 0x26, 0x27, 0x28,
   0x29, 0x2a, 0x34, 0x35, 0x36, 0x37, 0x38, 0x39, 0x3a, 0x43, 0x44, 0x45, 0x46, 0x47, 0x48, 0x49,
   0x4a, 0x53, 0x54, 0x55, 0x56, 0x57, 0x58, 0x59, 0x5a, 0x63, 0x64, 0x65, 0x66, 0x67, 0x68, 0x69,
   0x6a, 0x73, 0x74, 0x75, 0x76, 0x77, 0x78, 0x79, 0x7a, 0x83, 0x84, 0x85, 0x86, 0x87, 0x88, 0x89,
   0x8a, 0x92, 0x93, 0x94, 0x95, 0x96, 0x97, 0x98, 0x99, 0x9a, 0xa2, 0xa3, 0xa4, 0xa5, 0xa6, 0xa7,
   0xa8, 0xa9, 0xaa, 0xb2, 0xb3, 0xb4, 0xb5, 0xb6, 0xb7, 0xb8, 0xb9, 0xba, 0xc2, 0xc3, 0xc4, 0xc5,
   0xc6, 0xc7, 0xc8, 0xc9, 0xca, 0xd2, 0xd3, 0xd4, 0xd5, 0xd6, 0xd7, 0xd8, 0xd9, 0xda, 0xe1, 0xe2,
   0xe3, 0xe4, 0xe5, 0xe6, 0xe7, 0xe8, 0xe9, 0xea, 0xf1, 0xf2, 0xf3, 0xf4, 0xf5, 0xf6, 0xf7, 0xf8,
   0xf9, 0xfa]

/-- The counts of `ff_mjpeg_bits_ac_chrominance`, from index 1 on. -/
def bitsAcChrominance : List Nat := [0, 2, 1, 2, 4, 4, 3, 4, 7, 5, 4, 4, 0, 1, 2, 0x77]

/-- `ff_mjpeg_val_ac_chrominance`. -/
def valAcChrominance : List Nat :=
  [0x00, 0x01, 0x02, 0x03, 0x11, 0x04, 0x05, 0x21, 0x31, 0x06, 0x12, 0x41, 0x51, 0x07, 0x61, 0x71,
   0x13, 0x22, 0x32, 0x81, 0x08, 0x14, 0x42, 0x91, 0xa1, 0xb1, 0xc1, 0x09, 0x23, 0x33, 0x52, 0xf0,
   0x15, 0x62, 0x72, 0xd1, 0x0a, 0x16, 0x24, 0x34, 0xe1, 0x25, 0xf1, 0x17, 0x18, 0x19, 0x1a, 0x26,
   0x27, 0x28, 0x29, 0x2a, 0x35, 0x36, 0x37, 0x38, 0x39, 0x3a, 0x43, 0x44, 0x45, 0x46, 0x47, 0x48,
   0x49, 0x4a, 0x53, 0x54, 0x55, 0x56, 0x57, 0x58, 0x59, 0x5a, 0x63, 0x64, 0x65, 0x66, 0x67, 0x68,
   0x69, 0x6a, 0x73, 0x74, 0x75, 0x76, 0x77, 0x78, 0x79, 0x7a, 0x82, 0x83, 0x84, 0x85, 0x86, 0x87,
   0x88, 0x89, 0x8a, 0x92, 0x93, 0x94, 0x95, 0x96, 0x97, 0x98, 0x99, 0x9a, 0xa2, 0xa3, 0xa4, 0xa5,
   0xa6, 0xa7, 0xa8, 0xa9, 0xaa, 0xb2, 0xb3, 0xb4, 0xb5, 0xb6, 0xb7, 0xb8, 0xb9, 0xba, 0xc2, 0xc3,
   0xc4, 0xc5, 0xc6, 0xc7, 0xc8, 0xc9, 0xca, 0xd2, 0xd3, 0xd4, 0xd5, 0xd6, 0xd7, 0xd8, 0xd9, 0xda,
   0xe2, 0xe3, 0xe4, 0xe5, 0xe6, 0xe7, 0xe8, 0xe9, 0xea, 0xf2, 0xf3, 0xf4, 0xf5, 0xf6, 0xf7, 0xf8,
   0xf9, 0xfa]

/-- The four tables `JpegDefaultHuffmanTables` installs, over the present
ones. -/
def defaultTables (v : HuffmanTables) : HuffmanTables :=
  { v with
    dcTable0 := v.dcTable0.define bitsDcLuminance valDc
    acTable0 := v.acTable0.define bitsAcLuminance valAcLuminance
    dcTable1 := v.dcTable1.define bitsDcChrominance valDc
    acTable1 := v.acTable1.define bitsAcChrominance valAcChrominance }

/-- Install the tables for streams that define none. -/
def jpegDefaultHuffmanTables {ρ : Type} : Decoder ρ Unit := do
  modify fun c => { c with vlc := defaultTables c.vlc }
  record .defaultTables

end Jpeg

end Rk3399
