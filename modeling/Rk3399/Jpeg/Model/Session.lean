import Rk3399.Jpeg.Model.Decode
/-!
# Sessions

What a caller does with an instance: it attaches the picture memory and
the post-processor, as the wrapper in `pv_jpegdec_api.cpp` does, asks for
the image information, and decodes. A session is a run of such steps from
the instance `JpegDecInit` returns; a fault ends it.
-/

namespace Rk3399

namespace Jpeg

/-- One step of a caller. -/
inductive Step where
  /-- The fields of the instance the wrapper sets. -/
  | attach (ppInstance : Nat) (pictureMem : MppBufferInfo)
  /-- `JpegDecGetImageInfo`, into a record that holds `junk`. -/
  | probe (env : Env) (junk : JpegDecImageInfo) (pDecIn : JpegDecInput)
  /-- `JpegDecDecode`. -/
  | decode (env : DecodeEnv) (pDecIn : JpegDecInput)

/-- How a step ends; the state is the instance. -/
def Step.run (s : Step) (c : JpegDecContainer) : Outcome Fault JpegDecRet JpegDecContainer Unit :=
  match s with
  | .attach pp pictureMem => .next () { c with ppInstance := pp, pictureMem := pictureMem }
  | .probe env junk pDecIn =>
    Prog.zoom (probeStart pDecIn junk) (fun p _ => p.cont)
      (jpegDecGetImageInfo env.mem env.rounds pDecIn) c
  | .decode env pDecIn =>
    Prog.zoom (fun c => ({ cont := c } : Decoding)) (fun d _ => d.cont) (jpegDecDecode env pDecIn) c

/-- The step ends without a fault, in the instance `c'`. -/
def Step.Ends (s : Step) (c c' : JpegDecContainer) : Prop :=
  s.run c = .next () c' ∨ ∃ r, s.run c = .exit r c'

/-- The instances a caller can have in hand, where each step it made met `P`. -/
inductive Session (P : Step → JpegDecContainer → Prop) : JpegDecContainer → Prop
  | init : Session P jpegDecInit
  | step {c c' : JpegDecContainer} (s : Step) (h : Session P c) (hP : P s c)
      (hs : s.Ends c c') : Session P c'

/-- The instances a caller can have in hand. -/
abbrev Reachable : JpegDecContainer → Prop := Session fun _ _ => True

/-- **Induction over a session.** What holds of a fresh instance and is kept by
every step that meets `P` holds in every session of such steps. -/
theorem Session.induct {P : Step → JpegDecContainer → Prop} {I : JpegDecContainer → Prop}
    (init : I jpegDecInit)
    (step : ∀ s c, I c → P s c →
      Prog.wp (fun c => s.run c) (fun _ => I) (fun _ => I) (fun _ _ => True) c)
    {c : JpegDecContainer} (h : Session P c) : I c := by
  induction h with
  | init => exact init
  | step s h hP hs ih =>
    have hwp := step s _ ih hP
    rcases hs with hs | ⟨r, hs⟩
    · exact Prog.wp_next hwp hs
    · exact Prog.wp_exit_of hwp hs

/-! ## A caller -/

/-- A memory with the bytes of a stream at address 4096. -/
def memoryOf (bytes : List UInt8) (a : Nat) : UInt8 := bytes.getD (a - 4096) 0

/-- The arguments for this stream. -/
def inputOf (bytes : List UInt8) (sliceMbSet : Nat) : JpegDecInput where
  streamBuffer := ⟨4096, 4096⟩
  streamLength := bytes.length
  sliceMbSet := sliceMbSet

/-- An environment for this stream: the allocator has memory, and every start of
the hardware ends with the registers `regs`. -/
def envOf (bytes : List UInt8) (regs : WordFile 32) : DecodeEnv where
  mem := memoryOf bytes
  alloc := ⟨0, 8192, 5⟩
  rounds := 64
  hw := fun _ => ⟨true, regs⟩
  junk := {}

/-- The registers of a picture that is ready. -/
def readyRegs : WordFile 32 := fun i => if i = 55 then 0x10 else 0

/-- A segment: its marker, its length and its bytes. -/
def segment (marker : UInt8) (bytes : List UInt8) : List UInt8 :=
  [0xFF, marker, UInt8.ofNat ((bytes.length + 2) / 256), UInt8.ofNat (bytes.length + 2)] ++ bytes

/-- The frame header of a 4:2:0 picture of three components. -/
def frameHeader (marker : UInt8) (width height : Nat) (Tq : UInt8) : List UInt8 :=
  segment marker
    [8, UInt8.ofNat (height / 256), UInt8.ofNat height, UInt8.ofNat (width / 256),
     UInt8.ofNat width, 3, 1, 0x22, Tq, 2, 0x11, Tq, 3, 0x11, Tq]

/-- The header of a scan of three components that all take the tables `sel`. -/
def scanHeader (sel : UInt8) : List UInt8 :=
  segment 0xDA [3, 1, sel, 2, sel, 3, sel, 0, 63, 0]

/-- A baseline picture without tables of its own. -/
def plainPicture (width height : Nat) (Tq : UInt8) : List UInt8 :=
  [0xFF, 0xD8] ++ frameHeader 0xC0 width height Tq ++ scanHeader 0 ++ [0x12, 0x34, 0xFF, 0xD9]

end Jpeg

end Rk3399
