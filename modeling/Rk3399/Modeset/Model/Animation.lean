import Rk3399.Common.Memory
import Rk3399.Common.Program
import Rk3399.Common.Strings
/-!
# The buffers of the boot animation

`bootAnimation` of `bootanimation.cpp` shows one picture after the other, each
in a buffer of its own, and keeps the last of them in `mBufSlotInfo`: the
first slot takes a new one, the others shift, and the last slot is freed
before. `stop_boot_thread` frees what is left.
-/

namespace Rk3399

namespace Modeset

open Prog

/-! ## Buffers and slots -/

def MAX_OUTPUT_RSV_CNT : Nat := 4

/-- What the slots need of a `struct armsoc_bo`, and the path of the picture decoded into it. -/
structure ArmsocBo where
  fd : Int := 0
  ptr : Nat := 0
  path : List UInt8 := []

/-- `SfJpegOutputBuf`; a buffer is the number of its creation. -/
structure SfJpegOutputBuf where
  bo : Option Nat := none
  mPath : Nat → UInt8 := fun _ => 0

/-- The size of the arrays for paths. -/
def pathSize : Nat := 128

/-- `mBootAnimPath`, without its NUL. -/
structure AnimPath where
  chars : List UInt8
  nonzero : ∀ c ∈ chars, c ≠ 0
  length_lt : chars.length < pathSize

/-- What the calls for a buffer give: no buffer, one that cannot be mapped, or one that is
mapped to an address. -/
inductive CreateRet where
  | noBuffer
  | unmapped
  | mapped (ptr : Nat)
  deriving DecidableEq, Repr

/-- What the system says of a frame: which of its two names is readable, the size of the
picture, and how the calls for a buffer and a framebuffer end. -/
structure Frame where
  jpg : Bool
  jpeg : Bool
  displayWidth : Nat
  displayHeight : Nat
  create : CreateRet
  addFails : Bool

/-- The slots, the path of the frame, the buffers that were created and those that were
destroyed, and the one displayed last. -/
structure Anim where
  mBufSlotInfo : Nat → SfJpegOutputBuf := fun _ => {}
  picPath : Nat → UInt8 := fun _ => 0
  created : Nat := 0
  bos : Nat → ArmsocBo := fun _ => {}
  destroyed : List Nat := []
  displayed : Option Nat := none

/-- What has no meaning: a null pointer, a path that does not fit its array, and a string that
does not end in it. -/
inductive AnimFault where
  | null
  | picPath
  | string
  deriving DecidableEq, Repr

/-- The steps of `bootAnimation`; leaving is its `return`. -/
abbrev Animates (α : Type) : Type := Prog AnimFault Unit Anim α

/-! ## Strings -/

/-- The decimal digits of a number. -/
def decimal (j : Nat) : List UInt8 := (Nat.toDigits 10 j).map fun c => UInt8.ofNat c.toNat

/-- The path of a frame, with an extension. -/
def picName (dir : AnimPath) (j : Nat) (ext : String) : List UInt8 :=
  dir.chars ++ chars "/" ++ decimal j ++ chars ext

/-- The string in an array. -/
def cstring (array : Nat → UInt8) : Animates (List UInt8) := fun s =>
  match strlen (block array 0 pathSize) with
  | none => .fault .string s
  | some (len, _) => .next (block array 0 len) s

/-- `sprintf` to `picPath`. -/
def sprintfPicPath (name : List UInt8) : Animates Unit := do
  assert .picPath fun _ => name.length < pathSize
  modify fun s => { s with picPath := poke 0 (name ++ [0]) s.picPath }

/-! ## Buffers -/

/-- `bo_create_dumb`, and `bo_map` to an address. -/
def Anim.create (s : Anim) (bo : ArmsocBo) : Anim :=
  { s with
    created := s.created + 1
    bos := Function.update s.bos s.created bo }

/-- `bo_destroy`. -/
def Anim.destroy (s : Anim) (b : Nat) : Anim := { s with destroyed := s.destroyed ++ [b] }

/-- `bo_unmap`. -/
def Anim.unmap (s : Anim) (b : Nat) : Anim :=
  { s with bos := Function.update s.bos b { s.bos b with ptr := 0 } }

/-- A slot is set. -/
def Anim.setSlot (s : Anim) (i : Nat) (slot : SfJpegOutputBuf) : Anim :=
  { s with mBufSlotInfo := Function.update s.mBufSlotInfo i slot }

/-- `bo_create`. A buffer that could not be created is written to all the same. -/
def boCreate (drmFd : Int) (ret : CreateRet) : Animates Nat := do
  let s ← gets id
  match ret with
  | .noBuffer => fault .null
  | .unmapped => do
    modify fun s => (s.create { fd := drmFd }).destroy s.created
    exit ()
  | .mapped ptr => do
    modify fun s => s.create { fd := drmFd, ptr := ptr }
    return s.created

/-- The buffer of a slot has a descriptor and an address. -/
def Anim.Freeable (s : Anim) (b : Nat) : Prop := (s.bos b).fd ≠ 0 ∧ (s.bos b).ptr ≠ 0

instance (s : Anim) (b : Nat) : Decidable (s.Freeable b) := inferInstanceAs (Decidable (_ ∧ _))

/-- The last slot is freed. -/
def Anim.freeSlot (s : Anim) (slot : Nat) : Anim :=
  match (s.mBufSlotInfo slot).bo with
  | none => s
  | some b => if s.Freeable b then ((s.unmap b).destroy b).setSlot slot {} else s

/-! ## A frame -/

/-- The path of the frame in `picPath`. -/
def nameFrame (dir : AnimPath) (j : Nat) (f : Frame) : Animates Unit := do
  modify fun s => { s with picPath := fun _ => 0 }
  sprintfPicPath (picName dir j ".jpg")
  whenever (fun _ => f.jpg = false) (sprintfPicPath (picName dir j ".jpeg"))

/-- A slot takes the buffer of the one before it, and the characters of its path. -/
def shiftSlot (i : Nat) : Animates Unit := do
  let s ← gets id
  let path ← cstring (s.mBufSlotInfo (i - 1)).mPath
  modify fun s => s.setSlot i
    { bo := (s.mBufSlotInfo (i - 1)).bo, mPath := poke 0 path (s.mBufSlotInfo i).mPath }

/-- The loop over the slots from a slot down to the second. -/
def shiftSlots : Nat → Animates Unit
  | 0 => pure ()
  | i + 1 => do
    shiftSlot (i + 1)
    shiftSlots i

/-- The buffer is displayed, and put into the slots. -/
def display (b : Nat) : Animates Unit := do
  let s ← gets id
  let path ← cstring s.picPath
  modify fun s => { s with displayed := some b }
  modify fun s => s.setSlot 0
    { bo := some b, mPath := poke 0 (path ++ [0]) (s.mBufSlotInfo 0).mPath }
  shiftSlots (MAX_OUTPUT_RSV_CNT - 1)
  modify fun s => s.setSlot 0 {}

/-- `jpeg_sf_decode`: the picture is decoded into the buffer. -/
def decodeInto (b : Nat) : Animates Unit := do
  let s ← gets id
  let path ← cstring s.picPath
  modify fun s => { s with bos := Function.update s.bos b { s.bos b with path := path } }

/-- A picture with a size is shown; where no framebuffer can be added for it, the next frame
follows. -/
def showFrame (drmFd : Int) (f : Frame) : Animates Unit := do
  modify fun s => s.freeSlot (MAX_OUTPUT_RSV_CNT - 1)
  let b ← boCreate drmFd f.create
  decodeInto b
  whenever (fun _ => f.addFails = false) (display b)

/-- The picture can be read and has a size. -/
def Frame.Shown (f : Frame) : Prop :=
  (f.jpg = true ∨ f.jpeg = true) ∧ f.displayWidth ≠ 0 ∧ f.displayHeight ≠ 0

instance (f : Frame) : Decidable f.Shown := inferInstanceAs (Decidable (_ ∧ _))

/-- One round of the loop over the frames. -/
def bootFrame (drmFd : Int) (dir : AnimPath) (j : Nat) (f : Frame) : Animates Unit := do
  nameFrame dir j f
  whenever (fun _ => f.Shown) (showFrame drmFd f)

/-- The loop over the frames. -/
def bootFrames (drmFd : Int) (dir : AnimPath) : Nat → List Frame → Animates Unit
  | _, [] => pure ()
  | j, f :: fs => do
    bootFrame drmFd dir j f
    bootFrames drmFd dir (j + 1) fs

/-- `bootAnimation`, and its return. -/
def bootAnimation (drmFd : Int) (dir : AnimPath) (frames : List Frame) : Animates Unit := do
  let _ ← call (bootFrames drmFd dir 0 frames)
  return ()

/-- `bootAnimation` again and again. -/
def bootAnimations (drmFd : Int) (dir : AnimPath) : List (List Frame) → Animates Unit
  | [] => pure ()
  | frames :: runs => do
    bootAnimation drmFd dir frames
    bootAnimations drmFd dir runs

/-! ## The end -/

/-- One round of the loop over the slots; an empty slot is a null pointer. -/
def stopSlot (i : Nat) : Animates Unit := do
  let s ← gets id
  match (s.mBufSlotInfo i).bo with
  | none => fault .null
  | some b =>
    if s.Freeable b then
      modify fun s => ((s.unmap b).destroy b).setSlot i { s.mBufSlotInfo i with bo := none }

/-- The loop over `n` slots from a slot on. -/
def stopSlots : Nat → Nat → Animates Unit
  | _, 0 => pure ()
  | i, n + 1 => do
    stopSlot i
    stopSlots (i + 1) n

/-- `stop_boot_thread`, up to where it joins the thread. -/
def stopBootThread : Animates Unit := stopSlots 0 MAX_OUTPUT_RSV_CNT

end Modeset

end Rk3399
