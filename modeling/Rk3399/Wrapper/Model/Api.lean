import Rk3399.Wrapper.Model.Allocator
import Rk3399.Jpeg.Model.Stream
/-!
# The decoder wrapper

`Rk_JpegDecoder` of `pv_jpegdec_api.cpp`, built with `DRM_LINUX`: it owns the
buffer the stream is copied to and the one the picture is decoded to. The
decoder is seen through what its functions return, and through the copy it
keeps of the picture buffer.
-/

namespace Rk3399

namespace Wrapper

open Prog
open Jpeg (JpegDecRet)

/-! ## The members -/

/-- What happens in a call. -/
inductive Event where
  /-- `os_api->alloc` and `os_api->mmap` of the stream buffer. -/
  | alloc (ok : Bool)
  | mmap (ok : Bool)
  /-- `n` bytes are written to the stream buffer. -/
  | copy (virAddr : Option Nat) (streamSize n : Nat)
  /-- `JpegDecDecode` is called. -/
  | decode
  deriving DecidableEq, Repr

/-- A decoder instance: `asicBuff.outLumaBuffer`, a copy of the picture buffer. -/
structure JpegInst where
  outLumaBuffer : MppBufferInfo := {}
  deriving DecidableEq, Repr

/-- `Rk_JpegDecoder`, the device, and what the call at hand has done: its events and the
`jpegmem` it gave to its caller. -/
structure RkJpegDecoder where
  streamMem : MppBufferInfo := {}
  pictureMem : MppBufferInfo := {}
  streamSize : Nat := 0
  jpegInst : Option JpegInst := none
  jpegRet : JpegDecRet
  drm : Drm := {}
  events : List Event := []
  jpegmem : Option MppBufferInfo := none
  deriving DecidableEq, Repr

/-- Bytes are written to a buffer that is not mapped, or is shorter. -/
inductive Fault where
  | copy
  deriving DecidableEq, Repr

/-- What the last round of the decode loop does. Those before it return `JPEGDEC_SLICE_READY`
or `JPEGDEC_STRM_PROCESSED`. -/
structure Decoding where
  jpegRet : JpegDecRet
  /-- The picture buffer was copied into the instance. -/
  copies : Bool
  ends : jpegRet ≠ .sliceReady ∧ jpegRet ≠ .strmProcessed

/-- The last round of a picture that is ready. -/
theorem frameReady_ends :
    JpegDecRet.frameReady ≠ .sliceReady ∧ JpegDecRet.frameReady ≠ .strmProcessed := by decide

/-- A call of `pv_rkJpegdecoder_oneframe`, with what the decoder and the allocator do in it. -/
structure Call where
  inputSize : Nat
  /-- The input has `AVI1` at 6. -/
  avi1 : Bool
  outPhyaddr : Nat
  /-- What `JpegDecInit` returns. -/
  init : JpegDecRet
  streamAlloc : AllocRet
  streamMmap : Bool
  /-- What `JpegDecGetImageInfo` returns, and the size of the picture then. -/
  imageInfo : JpegDecRet
  picSize : Nat
  /-- The tries to get the picture buffer. -/
  pictureAlloc : Nat → AllocRet
  pictureMmap : Nat → Bool
  decoding : Decoding
  inputSize_lt : inputSize < 2 ^ 32

namespace RkJpegDecoder

variable (w : RkJpegDecoder)

/-- `os_api->alloc` of the stream buffer. -/
def allocStream (outcome : AllocRet) : RkJpegDecoder :=
  let a := w.drm.alloc w.streamMem outcome
  { w with streamMem := a.2.1, drm := a.2.2, events := w.events ++ [.alloc a.1] }

/-- `os_api->mmap` of the stream buffer. -/
def mmapStream (outcome : Bool) : RkJpegDecoder :=
  let m := w.drm.mmap w.streamMem outcome
  { w with streamMem := m.2, events := w.events ++ [.mmap m.1] }

/-- `mJpegFreeLinear(&streamMem)`. -/
def freeStream : RkJpegDecoder :=
  let f := w.drm.free w.streamMem
  { w with streamMem := f.1, drm := f.2 }

/-- `os_api->alloc` of the picture buffer. -/
def allocPicture (outcome : AllocRet) : RkJpegDecoder :=
  let a := w.drm.alloc w.pictureMem outcome
  { w with pictureMem := a.2.1, drm := a.2.2 }

/-- `os_api->mmap` of the picture buffer. -/
def mmapPicture (outcome : Bool) : RkJpegDecoder :=
  { w with pictureMem := (w.drm.mmap w.pictureMem outcome).2 }

/-- `mJpegFreeLinear(&pictureMem)`. -/
def freePicture : RkJpegDecoder :=
  let f := w.drm.free w.pictureMem
  { w with pictureMem := f.1, drm := f.2 }

end RkJpegDecoder

/-! ## `pv_rkJpegdecoder_init` -/

/-- What the device does when the wrapper is set up. -/
structure Init where
  /-- `os_api->open` succeeds. -/
  opens : Bool
  streamAlloc : AllocRet
  streamMmap : Bool
  /-- The member `jpegRet`, which nothing sets before the first frame. -/
  jpegRet : JpegDecRet

/-- `pv_rkJpegdecoder_init`: the members it leaves. What `mmap` returns is not looked at. -/
def pvRkJpegdecoderInit (i : Init) : RkJpegDecoder :=
  let streamSize := 1024 * 500
  let w : RkJpegDecoder :=
    { streamMem := { size := streamSize }, streamSize := streamSize, jpegRet := i.jpegRet,
      drm := { ctx := i.opens } }
  (w.allocStream i.streamAlloc).mmapStream i.streamMmap

/-! ## `pv_rkJpegdecoder_oneframe` -/

/-- How the body of the function is left: it returns, or jumps to `j_end`. -/
inductive Leave where
  | ret (code : Int)
  | jEnd
  deriving DecidableEq, Repr

@[irreducible] def SZ_4K : Nat := 4 * 1024

/-- `str_size`. -/
def Call.strSize (c : Call) : Nat := u32 (c.inputSize + 255) / 256 * 256

/-- How many bytes are written to the stream buffer: the input, and zeroes up to
`input_size`, or up to `str_size` where the input is not from an AVI1 camera. -/
def Call.copied (c : Call) : Nat :=
  if c.avi1 then c.inputSize else c.inputSize + sub32 c.strSize c.inputSize

/-- The stream buffer is replaced. -/
def Call.Grows (c : Call) (w : RkJpegDecoder) : Prop := w.streamSize < u32 (c.strSize + SZ_4K)

instance (c : Call) (w : RkJpegDecoder) : Decidable (c.Grows w) :=
  inferInstanceAs (Decidable (_ < _))

section oneframe

variable (c : Call)

/-- The instance is made where there is none. -/
def openInst : Prog Fault Leave RkJpegDecoder Unit :=
  whenever (fun w => w.jpegInst = none) do
    modify fun w => { w with jpegRet := c.init }
    exitIf (.ret (-1)) fun _ => c.init ≠ .ok
    modify fun w => { w with jpegInst := some {} }

/-- The stream buffer is freed, and allocated again with the size of the input. -/
def Call.grown (w : RkJpegDecoder) : RkJpegDecoder :=
  let w := w.freeStream
  RkJpegDecoder.allocStream
    { w with streamMem := { w.streamMem with size := u32 (c.strSize + SZ_4K) } } c.streamAlloc

/-- A longer stream buffer. The code of `alloc` is overwritten by that of `mmap`. -/
def growStream : Prog Fault Leave RkJpegDecoder Unit :=
  whenever (fun w => c.Grows w) do
    modify fun w => c.grown w
    let w ← gets id
    let ret := (w.drm.mmap w.streamMem c.streamMmap).1
    modify fun w => w.mmapStream c.streamMmap
    exitIf .jEnd fun _ => ret = false
    modify fun w => { w with streamSize := u32 (c.strSize + SZ_4K) }

/-- The input is copied to the stream buffer. -/
def copyInput : Prog Fault Leave RkJpegDecoder Unit := do
  modify fun w =>
    { w with events := w.events ++ [.copy w.streamMem.virAddr w.streamSize c.copied] }
  assert .copy fun w => ∃ n ∈ w.streamMem.virAddr, c.copied ≤ n

/-- Up to 256 tries for a picture buffer, from try `i` on. -/
def allocPicture : Nat → Nat → Prog Fault Leave RkJpegDecoder Unit
  | _, 0 => exit (.ret (-4))
  | i, k + 1 => do
    modify fun w => { w with pictureMem := { w.pictureMem with size := c.picSize } }
    modify fun w => w.allocPicture (c.pictureAlloc i)
    let w ← gets id
    let ret := (w.drm.mmap w.pictureMem (c.pictureMmap i)).1
    modify fun w => w.mmapPicture (c.pictureMmap i)
    if ret then pure () else allocPicture (i + 1) k

/-- The picture buffer: the wrapper's own, or the descriptor of the caller. -/
def openPicture : Prog Fault Leave RkJpegDecoder Unit :=
  if c.outPhyaddr = 0 then allocPicture c 0 256
  else modify fun w =>
    { w with pictureMem := { w.pictureMem with phyAddr := .caller c.outPhyaddr } }

/-- The decode loop. A picture in the wrapper's buffer is given to the caller. -/
def decodeFrame : Prog Fault Leave RkJpegDecoder Unit := do
  modify fun w => { w with events := w.events ++ [.decode], jpegRet := c.decoding.jpegRet }
  whenever (fun _ => c.decoding.copies = true) <|
    modify fun w => { w with jpegInst := some { outLumaBuffer := w.pictureMem } }
  whenever (fun _ => c.decoding.jpegRet = .frameReady ∧ c.outPhyaddr = 0) <|
    modify fun w => { w with jpegmem := some w.pictureMem }

/-- What follows when the stream buffer has its size. -/
def decodeInput : Prog Fault Leave RkJpegDecoder Unit := do
  copyInput c
  modify fun w => { w with jpegRet := c.imageInfo }
  exitIf .jEnd fun _ => c.imageInfo ≠ .ok
  openPicture c
  decodeFrame c

/-- What `pv_rkJpegdecoder_oneframe` does before `j_end`. -/
def oneframeBody : Prog Fault Leave RkJpegDecoder Unit := do
  exitIf .jEnd fun _ => c.inputSize < 16
  openInst c
  growStream c
  decodeInput c

/-- `j_end`: the wrapper's own picture buffer is freed, whether it was allocated or not. -/
def jEnd : Prog Fault Int RkJpegDecoder Unit := do
  whenever (fun _ => c.outPhyaddr = 0) <| modify fun w => w.freePicture
  exitIf (-2) fun w => w.jpegRet = .unsupported
  exit 0

/-- `pv_rkJpegdecoder_oneframe`. -/
def pvRkJpegdecoderOneframe : Prog Fault Int RkJpegDecoder Unit := do
  modify fun w => { w with events := [], jpegmem := none }
  match ← call (oneframeBody c) with
  | some (.ret code) => exit code
  | _ => jEnd c

end oneframe

/-! ## `pv_rkJpegdecoder_deinit` -/

/-- `JpegDecRelease`, as far as it frees a buffer of the wrapper. -/
def jpegDecRelease (inst : JpegInst) (w : RkJpegDecoder) : RkJpegDecoder :=
  if inst.outLumaBuffer.virAddr.isSome then
    { w with drm := (w.drm.free inst.outLumaBuffer).2 }
  else w

/-- `pv_rkJpegdecoder_deinit`. -/
def pvRkJpegdecoderDeinit (w : RkJpegDecoder) : RkJpegDecoder :=
  let w := if w.streamMem.virAddr.isSome then w.freeStream else w
  let w := if w.pictureMem.virAddr.isSome then w.freePicture else w
  let w := match w.jpegInst with
    | none => w
    | some inst => jpegDecRelease inst w
  { w with drm := { w.drm with ctx := false } }

end Wrapper

end Rk3399
