import Rk3399.Common.Memory
import Rk3399.Common.Program
import Rk3399.Common.Word
/-!
# Decoding a picture into a buffer

`jpeg_sf_decode` of `bootanimation.cpp`: it asks libjpeg for one row after the
other and copies each into the buffer, with three bytes for a pixel and the
rows one behind the other. `bootAnimation` registers the buffer with the pitch
the kernel gave it.
-/

namespace Rk3399

namespace Modeset

open Prog

/-! ## Pictures -/

/-- A picture as libjpeg delivers it: the sizes of its frame header, the samples of a pixel,
and the sample at an index of a row. -/
structure Picture where
  outputWidth : UInt16
  outputHeight : UInt16
  outputComponents : Nat
  sample : Nat → Nat → UInt8

/-- A row of samples. -/
def Picture.row (pic : Picture) (y : Nat) : List UInt8 :=
  (List.range (pic.outputWidth.toNat * pic.outputComponents)).map (pic.sample y)

/-- A buffer for a picture of a size: the pitch of its rows, and how many bytes are mapped. -/
structure Bo (width height : UInt16) where
  pitch : Nat
  size : Nat
  width_le : 3 * width.toNat ≤ pitch
  height_le : pitch * height.toNat ≤ size

/-- The framebuffer that `bootAnimation` registers: `pitches[0]` and `offsets[0]`. -/
structure Framebuffer where
  pitch : Nat
  offset : Nat

def register {width height : UInt16} (bo : Bo width height) : Framebuffer where
  pitch := bo.pitch
  offset := 0

/-- Where the display reads the first byte of a pixel. -/
def Framebuffer.pixel (fb : Framebuffer) (x y : Nat) : Nat := y * fb.pitch + 3 * x + fb.offset

/-! ## The decoder -/

/-- The variables of `jpeg_sf_decode`, and the row that libjpeg delivers next. -/
structure Decoding where
  output : Nat → UInt8
  outputScanline : Nat := 0
  lineBuf : List UInt8 := []
  y : Nat := 0
  x : Nat := 0
  lineBufIndex : Nat := 0

/-- What has no meaning: a byte outside the buffer or behind the row, and an `int` that does
not hold its value. `rounds` stands for a loop that does not end. -/
inductive DecodeFault where
  | output
  | lineBuf
  | int
  | rounds
  deriving DecidableEq, Repr

abbrev Decodes (α : Type) : Type := Prog DecodeFault Int Decoding α

section

variable (size : Nat) (pic : Picture)

/-- `jpeg_read_scanlines` of one row. -/
def jpegReadScanline : Decodes Unit :=
  modify fun s => { s with
    lineBuf := pic.row s.outputScanline
    outputScanline := s.outputScanline + 1 }

/-- Bytes of the row are copied to an offset of the buffer. -/
def copyRow (off len : Nat) : Decodes Unit := do
  assert .lineBuf fun s => len ≤ s.lineBuf.length
  assert .output fun _ => off + len ≤ size
  modify fun s => { s with output := poke off (s.lineBuf.take len) s.output }

/-- The offset of a row, in `unsigned int`. -/
def rowOffset (y : Nat) : Nat := u32 (u32 (y * pic.outputWidth.toNat) * 3)

/-- One row of three components. -/
def rgbRound : Decodes Bool := do
  let s ← gets id
  if s.y < pic.outputHeight.toNat then
    jpegReadScanline pic
    copyRow size (rowOffset pic s.y) (3 * pic.outputWidth.toNat)
    modify fun s => { s with y := s.y + 1 }
    return true
  else
    return false

/-- A byte at an index of the buffer, which is an `int`; then the index goes on. -/
def storeCol (lineOffset : Nat) (col : UInt8) : Decodes Unit := do
  assert .int fun s => lineOffset * s.y + s.x < 2 ^ 31
  assert .output fun s => lineOffset * s.y + s.x < size
  modify fun s => { s with
    output := poke (lineOffset * s.y + s.x) [col] s.output
    x := s.x + 1 }

/-- One pixel of one component. -/
def greyPixel (lineOffset : Nat) : Decodes Bool := do
  let s ← gets id
  if s.x < lineOffset then
    assert .lineBuf fun s => s.lineBufIndex < s.lineBuf.length
    let col := s.lineBuf.getD s.lineBufIndex 0
    storeCol size lineOffset col
    storeCol size lineOffset col
    storeCol size lineOffset col
    modify fun s => { s with lineBufIndex := s.lineBufIndex + 1 }
    return true
  else
    return false

/-- One row of one component. -/
def greyRound : Decodes Bool := do
  let s ← gets id
  if s.y < pic.outputHeight.toNat then
    jpegReadScanline pic
    modify fun s => { s with lineBufIndex := 0, x := 0 }
    loop .rounds (greyPixel size (pic.outputWidth.toNat * 3)) (pic.outputWidth.toNat + 1)
    modify fun s => { s with y := s.y + 1 }
    return true
  else
    return false

/-- The loops over the rows; with other components the function returns -1. -/
def decodeRows : Decodes Unit :=
  if pic.outputComponents = 3 then loop .rounds (rgbRound size pic) (pic.outputHeight.toNat + 1)
  else if pic.outputComponents = 1 then
    loop .rounds (greyRound size pic) (pic.outputHeight.toNat + 1)
  else exit (-1)

/-- `jpeg_sf_decode` of a file that may not open, into a buffer that is mapped. -/
def jpegSfDecode (file : Option Picture) : Decodes Unit :=
  match file with
  | none => exit 0
  | some pic => decodeRows size pic

end

end Modeset

end Rk3399
