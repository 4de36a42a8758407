import Rk3399.Common.Memory
import Rk3399.Wrapper.Model.Api
/-!
# The stream on its way to the decoder

What `pv_rkJpegdecoder_oneframe` does with the bytes of a picture before the
decoder sees them: it copies them to the stream buffer, where a picture of an
AVI1 camera loses the stuffing in front of some markers, and it moves an end
marker at the end in front of the stuffing there. The dump of the bytes to a
file between the two steps is left out.

The bytes of the stream buffer are addressed from its start. Each access is
checked against the input or the buffer it is made to; one outside is the
fault of that buffer.
-/

namespace Rk3399

namespace Wrapper

open Prog

/-- The accesses that have no meaning, and the bound on the rounds. -/
inductive AccessFault where
  /-- A byte outside `aInputBuf`. -/
  | input
  /-- A byte outside the stream buffer. -/
  | stream
  /-- The `int` that counts the bytes of the input goes past its largest value. -/
  | overflow
  | rounds
  deriving DecidableEq, Repr

/-- The stream buffer and the variables. -/
structure StreamCopy where
  mem : Nat → UInt8
  /-- `input_size`. -/
  inputSize : Nat
  /-- `copy_len`. -/
  copyLen : Nat := 0
  i : Nat := 0
  /-- `dst`, as an offset in the stream buffer. -/
  dst : Nat := 0
  /-- `end`, as an offset in the stream buffer. -/
  stop : Nat

/-- The steps read an input and write a stream buffer; they have no early return. -/
abbrev CopyProg (α : Type) := Prog AccessFault Empty StreamCopy α

/-- `str_size` for an input size. -/
def strSize (inputSize : Nat) : Nat := u32 (inputSize + 255) / 256 * 256

section copy

variable (input : List UInt8) (size : Nat)

/-! ## Single accesses -/

/-- `tmp[k]`. -/
def tmpAt (k : Nat) : CopyProg UInt8 := do
  assert .input fun _ => k < input.length
  pure (input.getD k 0)

/-- The bytes from `tmp[k]` on pass the tests, made from left to right as long as they do. -/
def tmpIs : List (UInt8 → Bool) → Nat → CopyProg Bool
  | [], _ => pure true
  | test :: tests, k => do
    let b ← tmpAt input k
    if test b then tmpIs tests (k + 1) else pure false

/-- `i += k`. -/
def advance (k : Nat) : CopyProg Unit := do
  assert .overflow fun s => s.i + k < 2 ^ 31
  modify fun s => { s with i := s.i + k }

/-- `*dst++ = tmp[i]; copy_len++`, and `i++` of the loop around it. -/
def copyByte : CopyProg Unit := do
  let s ← gets id
  let b ← tmpAt input s.i
  assert .stream fun s => s.dst < size
  modify fun s =>
    { s with mem := poke s.dst [b] s.mem, dst := s.dst + 1, copyLen := s.copyLen + 1 }
  advance 1

/-- Several bytes stored from `pos` on at once, as `memcpy` and `memset` do. -/
def fill (pos : Nat) (bytes : List UInt8) : CopyProg Unit := do
  assert .stream fun _ => pos + bytes.length ≤ size
  modify fun s => { s with mem := poke pos bytes s.mem }

/-- `end[-k]`. -/
def endAt (k : Nat) : CopyProg UInt8 := do
  assert .stream fun s => k ≤ s.stop ∧ s.stop - k < size
  gets fun s => s.mem (s.stop - k)

/-- The bytes `end[-k]`, `end[-k - 1]` and so on are those of a list, compared as long as they
are. -/
def endIs : List UInt8 → Nat → CopyProg Bool
  | [], _ => pure true
  | b :: bs, k => do
    let a ← endAt size k
    if a = b then endIs bs (k + 1) else pure false

/-! ## The copy -/

/-- The high nibble of the second byte of a marker `FF Dx`. -/
def isD (b : UInt8) : Bool := b &&& 0xF0 == 0xD0

/-- `FF 00 FF Dx`. -/
def stuffedTests : List (UInt8 → Bool) := [(· == 0xFF), (· == 0x00), (· == 0xFF), isD]

/-- `AVI1`. -/
def avi1Tests : List (UInt8 → Bool) := [(· == 0x41), (· == 0x56), (· == 0x49), (· == 0x31)]

/-- A round of the loop that looks for stuffing. -/
def stuffedRound : CopyProg Bool := do
  let s ← gets id
  if s.i < sub32 s.inputSize 4 then
    let stuffed ← tmpIs input stuffedTests s.i
    whenever (fun _ => stuffed) (advance 2)
    copyByte input size
    pure true
  else
    pure false

/-- A round of the loop for the bytes left over. -/
def restRound : CopyProg Bool := do
  let s ← gets id
  if s.i < s.inputSize then
    copyByte input size
    pure true
  else
    pure false

/-- The copy from an AVI1 camera. Each round of its loops passes a byte of the input. -/
def copyAvi1 : CopyProg Unit := do
  loop .rounds (stuffedRound input size) (input.length + 1)
  loop .rounds (restRound input size) (input.length + 1)
  let s ← gets id
  whenever (fun s => s.copyLen < s.inputSize)
    (fill size s.dst (List.replicate (s.inputSize - s.copyLen) 0))
  modify fun s => { s with inputSize := s.copyLen }

/-- The copy from anywhere else. -/
def copyWhole : CopyProg Unit := do
  let s ← gets id
  fill size s.dst input
  fill size (s.dst + s.inputSize)
    (List.replicate (sub32 (strSize s.inputSize) s.inputSize) 0)

/-- **The copy step.** -/
def copyStep : CopyProg Unit := do
  let avi1 ← tmpIs input avi1Tests 6
  if avi1 then copyAvi1 input size else copyWhole input size

/-! ## The end marker -/

/-- A round of the loop that goes back over stuffing. -/
def trimRound : CopyProg Bool := do
  let filled ← endIs size [0xFF] 1
  if filled then
    modify fun s => { s with stop := s.stop - 1 }
    pure true
  else
    let stuffed ← endIs size [0x00, 0xFF] 1
    if stuffed then
      modify fun s => { s with stop := s.stop - 2 }
      pure true
    else
      pure false

/-- The end marker goes to where the picture ends. Each round goes back by a byte at least. -/
def moveEnd : CopyProg Unit := do
  modify fun s => { s with stop := s.stop - 2 }
  let s ← gets id
  loop .rounds (trimRound size) (s.stop + 1)
  let s ← gets id
  fill size s.stop [0xFF, 0xD9]

/-- **The trimming step.** -/
def trimStep : CopyProg Unit := do
  modify fun s => { s with dst := 0 }
  let marked ← endIs size [0xD9, 0xFF] 1
  whenever (fun _ => marked) (moveEnd size)

end copy

/-- The variables before the copy: `end` is set for the whole input. -/
def copyStart (input : List UInt8) (mem : Nat → UInt8) : StreamCopy where
  mem := mem
  inputSize := input.length
  stop := input.length

/-- `jpegIn.streamLength`. -/
def StreamCopy.streamLength (s : StreamCopy) : Nat := s.inputSize

end Wrapper

end Rk3399
