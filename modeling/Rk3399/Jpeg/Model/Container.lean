import Rk3399.Common.BitField
import Rk3399.Jpeg.Model.Stream
/-!
# The decoder instance

The structures of `jpegdeccontainer.h` and `jpegdecapi.h`, under their
names, with the fields the modelled functions read or write. Pointers are
numbers, `0` for `NULL`; arrays over the components are functions on
`Fin 3`. The initial values are those `JpegDecInit` and
`JpegDecClearStructs` leave.
-/

namespace Rk3399

namespace Jpeg

/-! ## Constants -/

def JPEGDEC_YUV400 : Nat := 0
def JPEGDEC_YUV420 : Nat := 2
def JPEGDEC_YUV422 : Nat := 3
def JPEGDEC_YUV444 : Nat := 4
def JPEGDEC_YUV440 : Nat := 5
def JPEGDEC_YUV411 : Nat := 6

/-- The operation types, which are the coding modes of the image information
too: `JPEGDEC_BASELINE` is 0, `JPEGDEC_PROGRESSIVE` is 1 and
`JPEGDEC_NONINTERLEAVED` is 2. -/
inductive OperationType where
  | baseline
  | progressive
  | nonInterleaved
  deriving DecidableEq, Repr

def JPEGDEC_BASELINE : OperationType := .baseline
def JPEGDEC_PROGRESSIVE : OperationType := .progressive
def JPEGDEC_NONINTERLEAVED : OperationType := .nonInterleaved

def JPEGDEC_YCbCr400 : Nat := 0x080000
def JPEGDEC_YCbCr420_SEMIPLANAR : Nat := 0x020001
def JPEGDEC_YCbCr422_SEMIPLANAR : Nat := 0x010001
def JPEGDEC_YCbCr440 : Nat := 0x010004
def JPEGDEC_YCbCr411_SEMIPLANAR : Nat := 0x100000
def JPEGDEC_YCbCr444_SEMIPLANAR : Nat := 0x200000

def JPEGDEC_IMAGE : Nat := 0
def JPEGDEC_THUMBNAIL : Nat := 1

def JPEGDEC_THUMBNAIL_JPEG : Nat := 0x10
def JPEGDEC_THUMBNAIL_NOT_SUPPORTED_FORMAT : Nat := 0x11
def JPEGDEC_NO_THUMBNAIL : Nat := 0x12

def JPEGDEC_RK70_MIN_BUFFER : Nat := 256
def JPEGDEC_RK70_MAX_BUFFER : Nat := 16776960
def DEC_RK70_MAX_STREAM : Nat := 2 ^ 24 - 1
def JPEGDEC_MIN_WIDTH : Nat := 48
def JPEGDEC_MIN_HEIGHT : Nat := 48
def JPEGDEC_MAX_PIXEL_AMOUNT : Nat := 16370688
def JPEGDEC_MAX_WIDTH_8190 : Nat := 8176
def JPEGDEC_MAX_HEIGHT_8190 : Nat := 8176
def JPEGDEC_MAX_PIXEL_AMOUNT_8190 : Nat := 66846976
def JPEGDEC_MAX_SLICE_SIZE_8190 : Nat := 8100
def JPEGDEC_MAX_WIDTH_TN : Nat := 256
def JPEGDEC_MAX_HEIGHT_TN : Nat := 256
def JPEGDEC_BASELINE_TABLE_SIZE : Nat := 544
def JPEGDEC_PROGRESSIVE_TABLE_SIZE : Nat := 576
def JPEGDEC_QP_BASE : Nat := 32
def JPEGDEC_AC1_BASE : Nat := 48
def JPEGDEC_AC2_BASE : Nat := 88
def JPEGDEC_DC1_BASE : Nat := 129
def JPEGDEC_DC2_BASE : Nat := 132
def JPEGDEC_DC3_BASE : Nat := 135
def JPEGDEC_COEFF_SIZE : Nat := 96

/-- `DEC_RK70_REGISTERS`: the words of the shadow register file. -/
def DEC_RK70_REGISTERS : Nat := 159

/-! ## Markers -/

def SOF0 : Nat := 0xC0
def SOF2 : Nat := 0xC2
def DHT : Nat := 0xC4
def SOI : Nat := 0xD8
def EOI : Nat := 0xD9
def SOS : Nat := 0xDA
def DQT : Nat := 0xDB
def DNL : Nat := 0xDC
def DRI : Nat := 0xDD
def APP0 : Nat := 0xE0
def COM : Nat := 0xFE
def TEM : Nat := 0x01

/-- `RST0` to `RST7`. -/
def IsRst (m : Nat) : Prop := 0xD0 ≤ m ∧ m ≤ 0xD7

/-- `APP1` to `APP15`. -/
def IsAppn (m : Nat) : Prop := 0xE1 ≤ m ∧ m ≤ 0xEF

/-- `SOF1`, `SOF3`, `SOF5` to `SOF7`, `SOF9` (the enumeration gives it the
value of `JPG`), `SOF10`, `SOF11`, `SOF13` to `SOF15`, `DAC` and `DHP`. -/
def IsUnsupportedCoding (m : Nat) : Prop :=
  m ∈ [0xC1, 0xC3, 0xC5, 0xC6, 0xC7, 0xC8, 0xCA, 0xCB, 0xCD, 0xCE, 0xCF, 0xCC, 0xDE]

instance (m : Nat) : Decidable (IsRst m) := inferInstanceAs (Decidable (_ ∧ _))
instance (m : Nat) : Decidable (IsAppn m) := inferInstanceAs (Decidable (_ ∧ _))
instance (m : Nat) : Decidable (IsUnsupportedCoding m) := inferInstanceAs (Decidable (_ ∈ _))

/-! ## The structures -/

/-- The numbers of the components are numerals of `Fin 3`. -/
instance neZero_components : NeZero 3 := ⟨by decide⟩

/-- The identifiers of the tables are numerals of `Fin 4`. -/
instance neZero_tables : NeZero 4 := ⟨by decide⟩

/-- One component of the frame header. -/
structure Components where
  C : Nat := 0
  H : Nat := 0
  V : Nat := 0
  Tq : Nat := 0
  deriving DecidableEq, Repr

/-- A buffer of the allocator: `phy_addr` is its file descriptor. -/
structure MppBufferInfo where
  size : Nat := 0
  virAddr : Nat := 0
  phyAddr : Nat := 0
  deriving DecidableEq, Repr

/-- A buffer of the caller. -/
structure JpegDecLinearMem where
  pVirtualAddress : Nat := 0
  busAddress : Nat := 0
  deriving DecidableEq, Repr

/-- Sizes of the picture and the two ready flags. -/
structure ImageData where
  imageReady : Nat := 0
  headerReady : Nat := 0
  size : Nat := 0
  sizeLuma : Nat := 0
  sizeChroma : Nat := 0
  columns : Fin 3 → Nat := fun _ => 0
  pixelsPerRow : Fin 3 → Nat := fun _ => 0

/-- The frame header and what is derived from it. -/
structure FrameInfo where
  Lf : Nat := 0
  P : Nat := 0
  Y : Nat := 0
  hwY : Nat := 0
  X : Nat := 0
  hwX : Nat := 0
  Nf : Nat := 0
  codingType : Nat := 0
  numMcuInFrame : Nat := 0
  numMcuInRow : Nat := 0
  mcuNumber : Nat := 0
  Ri : Nat := 0
  row : Nat := 0
  col : Nat := 0
  cIndex : Nat := 0
  pTableBase : MppBufferInfo := {}
  numBlocks : Fin 3 → Nat := fun _ => 0
  component : Fin 3 → Components := fun _ => {}

/-- The scan header. -/
structure ScanInfo where
  Ls : Nat := 0
  Ns : Nat := 0
  Cs : Fin 3 → Nat := fun _ => 0
  Td : Fin 3 → Nat := fun _ => 0
  Ta : Fin 3 → Nat := fun _ => 0
  Ss : Nat := 0
  Se : Nat := 0
  Ah : Nat := 0
  Al : Nat := 0
  index : Nat := 0
  pred : Fin 3 → Int := fun _ => 0

/-- The decoding parameters. -/
structure DecInfo where
  sliceHeight : Nat := 0
  amountOfQTables : Nat := 0
  yCbCrMode : Nat := 0
  yCbCr422 : Nat := 0
  X : Nat := 0
  Y : Nat := 0
  SliceCount : Nat := 0
  SliceReadyForPause : Nat := 0
  pipeline : Nat := 0
  userAllocMem : Nat := 0
  sliceMbSetValue : Nat := 0
  rlcMode : Nat := 0
  lumaPos : Nat := 0
  chromaPos : Nat := 0
  sliceStartCount : Nat := 0
  amountOfSlices : Nat := 0
  noSliceIrqForUser : Nat := 0
  inputBufferEmpty : Nat := 0
  fillRight : Nat := 0
  fillBottom : Nat := 0
  streamEnd : Nat := 0
  streamEndFlag : Nat := 0
  inputBufferLen : Nat := 0
  inputStreaming : Nat := 0
  decodedStreamLen : Nat := 0
  init : Nat := 0
  initThumb : Nat := 0
  initBufferSize : Nat := 0
  outLuma : MppBufferInfo := {}
  outChroma : MppBufferInfo := {}
  outChroma2 : MppBufferInfo := {}
  givenOutLuma : MppBufferInfo := {}
  givenOutChroma : MppBufferInfo := {}
  givenOutChroma2 : MppBufferInfo := {}
  nonInterleaved : Nat := 0
  componentId : Nat := 0
  operationType : OperationType := JPEGDEC_BASELINE
  operationTypeThumb : OperationType := JPEGDEC_BASELINE
  progressiveScanReady : Nat := 0
  nonInterleavedScanReady : Nat := 0
  allocated : Nat := 0
  yCbCrModeOrig : Nat := 0
  getInfoYCbCrMode : Nat := 0
  components : Fin 3 → Nat := fun _ => 0
  pCoeffBase : MppBufferInfo := {}
  fillX : Nat := 0
  fillY : Nat := 0
  progressiveFinish : Nat := 0
  pfCompId : Nat := 0
  pfNeeded : Fin 3 → Nat := fun _ => 0
  tmpStrm : MppBufferInfo := {}

/-- The buffers the hardware writes to. -/
structure JpegAsicBuffers where
  outLumaBuffer : MppBufferInfo := {}
  outChromaBuffer : MppBufferInfo := {}
  outChromaBuffer2 : MppBufferInfo := {}
  deriving DecidableEq, Repr

/-- A Huffman table; `vals` is `none` while no table has been installed. -/
structure VlcTable where
  bits : List Nat := List.replicate 16 0
  vals : Option (List Nat) := none
  tableLength : Nat := 0
  start : Nat := 0
  last : Nat := 0
  deriving DecidableEq, Repr

/-- The four AC and the four DC tables. -/
structure HuffmanTables where
  Lh : Nat := 0
  acTable0 : VlcTable := {}
  acTable1 : VlcTable := {}
  acTable2 : VlcTable := {}
  acTable3 : VlcTable := {}
  dcTable0 : VlcTable := {}
  dcTable1 : VlcTable := {}
  dcTable2 : VlcTable := {}
  dcTable3 : VlcTable := {}
  deriving DecidableEq, Repr

/-- The four quantisation tables, in zigzag order. -/
structure QuantTables where
  Lq : Nat := 0
  table0 : List Nat := List.replicate 64 0
  table1 : List Nat := List.replicate 64 0
  table2 : List Nat := List.replicate 64 0
  table3 : List Nat := List.replicate 64 0
  deriving DecidableEq, Repr

/-- The classes of Huffman tables. -/
inductive TableClass where
  | dc | ac
  deriving DecidableEq, Repr

/-- The table of a class and an identifier. -/
def HuffmanTables.get (v : HuffmanTables) : TableClass → Fin 4 → VlcTable
  | .ac, 0 => v.acTable0
  | .ac, 1 => v.acTable1
  | .ac, 2 => v.acTable2
  | .ac, 3 => v.acTable3
  | .dc, 0 => v.dcTable0
  | .dc, 1 => v.dcTable1
  | .dc, 2 => v.dcTable2
  | .dc, 3 => v.dcTable3

/-- The tables with the one of a class and an identifier replaced. -/
def HuffmanTables.set (v : HuffmanTables) (t : VlcTable) : TableClass → Fin 4 → HuffmanTables
  | .ac, 0 => { v with acTable0 := t }
  | .ac, 1 => { v with acTable1 := t }
  | .ac, 2 => { v with acTable2 := t }
  | .ac, 3 => { v with acTable3 := t }
  | .dc, 0 => { v with dcTable0 := t }
  | .dc, 1 => { v with dcTable1 := t }
  | .dc, 2 => { v with dcTable2 := t }
  | .dc, 3 => { v with dcTable3 := t }

/-- The quantisation table of an identifier. -/
def QuantTables.get (q : QuantTables) : Fin 4 → List Nat
  | 0 => q.table0
  | 1 => q.table1
  | 2 => q.table2
  | 3 => q.table3

/-- The quantisation tables with one replaced. -/
def QuantTables.set (q : QuantTables) (t : List Nat) : Fin 4 → QuantTables
  | 0 => { q with table0 := t }
  | 1 => { q with table1 := t }
  | 2 => { q with table2 := t }
  | 3 => { q with table3 := t }

/-- What the segments read by a call defined: the trace the properties speak
about. No modelled function reads it. -/
inductive Event where
  /-- A quantisation table, from a DQT segment. -/
  | dqt (Tq : Fin 4)
  /-- A Huffman table, from a DHT segment. -/
  | dht (Tc : TableClass) (Th : Fin 4) (table : VlcTable)
  /-- A restart interval, from a DRI segment. -/
  | dri
  /-- A frame header. -/
  | sof
  /-- The tables of `JpegDefaultHuffmanTables`. -/
  | defaultTables
  deriving DecidableEq, Repr

/-- The decoder instance. -/
structure JpegDecContainer where
  jpegRegs : WordFile 32 := fun _ => 0
  asicRunning : Nat := 0
  stream : StreamStorage := {}
  frame : FrameInfo := {}
  image : ImageData := {}
  scan : ScanInfo := {}
  info : DecInfo := {}
  vlc : HuffmanTables := {}
  quant : QuantTables := {}
  is8190 : Nat := 0
  fuseBurned : Nat := 0
  minSupportedWidth : Nat := 0
  minSupportedHeight : Nat := 0
  maxSupportedWidth : Nat := 0
  maxSupportedHeight : Nat := 0
  maxSupportedPixelAmount : Nat := 0
  maxSupportedSliceSize : Nat := 0
  extensionsSupported : Nat := 0
  asicBuff : JpegAsicBuffers := {}
  usePipeline : Nat := 0
  ppInstance : Nat := 0
  pictureMem : MppBufferInfo := {}
  driEn : Nat := 0
  /-- The words of the mapped table memory, `frame.pTableBase`. -/
  tableMem : Nat → Nat := fun _ => 0
  /-- The bytes of `info.tmpStrm`, where it is mapped. -/
  tmpStrmMem : Nat → Nat := fun _ => 0
  /-- The trace, newest first. -/
  log : List Event := []

/-- The stream and the picture buffers of one call. -/
structure JpegDecInput where
  streamBuffer : JpegDecLinearMem := {}
  streamLength : Nat := 0
  bufferSize : Nat := 0
  decImageType : Nat := 0
  sliceMbSet : Nat := 0
  pictureBufferY : JpegDecLinearMem := {}
  pictureBufferCbCr : JpegDecLinearMem := {}
  pictureBufferCr : JpegDecLinearMem := {}
  deriving DecidableEq, Repr

/-- Functions on the instance. -/
abbrev Decoder (ρ α : Type) : Type := Prog Fault ρ JpegDecContainer α

/-! ## Reading the stream of the instance -/

variable {ρ α : Type} (mem : Nat → UInt8)

/-- A reader applied to the stream of the instance. -/
def onStream (x : Prog Fault ρ StreamStorage α) : Decoder ρ α :=
  Prog.zoom JpegDecContainer.stream (fun t c => { c with stream := t }) x

/-- `JpegDecGetByte(&(pDecData->stream))`. -/
def getByte : Decoder ρ Nat := onStream (jpegDecGetByte mem)

/-- `JpegDecGet2Bytes(&(pDecData->stream))`. -/
def get2Bytes : Decoder ρ Nat := onStream (jpegDecGet2Bytes mem)

/-- `JpegDecFlushBits(&(pDecData->stream), bits)`. -/
def flushBits (bits : Nat) : Decoder ρ Nat := onStream (jpegDecFlushBits mem bits)

/-- The same for the rest of a segment of length `L` behind its first `n`
bits. -/
def flushSegmentBits (L n : Nat) : Decoder ρ Nat := onStream (flushSegment mem L n)

/-- The check the segment parsers make after reading the length `L`: the
segment does not end behind the stream. -/
def SegmentShort (L : Nat) (c : JpegDecContainer) : Prop :=
  c.stream.streamLength < u32 (c.stream.readBits / 8 + L)

instance (L : Nat) (c : JpegDecContainer) : Decidable (SegmentShort L c) :=
  inferInstanceAs (Decidable (_ < _))

/-- A subscript of a component array. -/
def subscript (i : Nat) : Decoder ρ (Fin 3) := fun c =>
  if h : i < 3 then .next ⟨i, h⟩ c else .fault (.index i) c

/-- An event put on the trace. -/
def record (e : Event) : Decoder ρ Unit := Prog.modify fun c => { c with log := e :: c.log }

end Jpeg

end Rk3399
