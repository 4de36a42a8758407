import Rk3399.Common.Word
import Rk3399.Common.Program
/-!
# The bit reader

`StreamStorage` and the functions of `jpegdecutils.c` the header parsers
read it with. Addresses are absolute; the memory of the stream is a total
function, and reading it outside the stream and its one look-ahead byte
is the fault `Fault.stream`.
-/

namespace Rk3399

namespace Jpeg

/-- The return codes of the decoder. -/
inductive JpegDecRet where
  | sliceReady | frameReady | strmProcessed | scanProcessed | ok | error | unsupported
  | paramError | memfail | initfail | invalidStreamLength | strmError | invalidInputBufferSize
  | hwReserved | increaseInputBuffer | sliceModeUnsupported | dwlHwTimeout | dwlError
  | hwBusError | systemError | formatNotSupported
  deriving DecidableEq, Repr

/-- What C gives no meaning to, and the bound on rounds of the embedding. -/
inductive Fault where
  /-- A byte outside the stream and its look-ahead byte. -/
  | stream (addr : Nat)
  /-- A subscript beyond a component array. -/
  | index (i : Nat)
  /-- A block from `DWLmalloc` smaller than what is written to it. -/
  | heap (n : Nat)
  /-- A word beyond the table memory, or a table memory that is not mapped. -/
  | table (word : Nat)
  /-- A byte beyond a mapped buffer, or a buffer that is not mapped. -/
  | buffer
  /-- An address taken for the handle of the register file. -/
  | handle
  /-- The bound on the rounds of a loop is used up. -/
  | rounds
  deriving DecidableEq, Repr

/-- `STRM_ERROR`, the value the readers return at the end of the stream. -/
def strmErrorWord : Nat := 0xFFFFFFFF

/-- The position in the input stream. `passed` is a trace for the properties,
which no modelled function reads: the segments whose rest was passed at once,
newest first, each with its length in bits and the bits of it read before. -/
structure StreamStorage where
  pStartOfStream : Nat := 0
  pCurrPos : Nat := 0
  streamBus : Nat := 0
  bitPosInByte : Nat := 0
  streamLength : Nat := 0
  readBits : Nat := 0
  appnFlag : Nat := 0
  thumbnail : Nat := 0
  passed : List (Nat × Nat) := []
  deriving DecidableEq, Repr

namespace StreamStorage

/-- Fewer than `bits` bits are left, as the readers see it. -/
def Short (bits : Nat) (s : StreamStorage) : Prop :=
  u32 (8 * s.streamLength) < u32 (s.readBits + bits)

instance (bits : Nat) (s : StreamStorage) : Decidable (Short bits s) :=
  inferInstanceAs (Decidable (_ < _))

/-- The addresses that may be dereferenced: the stream and one byte more. -/
def InRange (s : StreamStorage) (addr : Nat) : Prop :=
  s.pStartOfStream ≤ addr ∧ addr ≤ s.pStartOfStream + s.streamLength

instance (s : StreamStorage) (addr : Nat) : Decidable (s.InRange addr) :=
  inferInstanceAs (Decidable (_ ∧ _))

/-- The byte position moved by `n`. -/
def advance (n : Nat) (s : StreamStorage) : StreamStorage := { s with pCurrPos := s.pCurrPos + n }

/-- `n` more bits accounted for. -/
def account (n : Nat) (s : StreamStorage) : StreamStorage :=
  { s with readBits := u32 (s.readBits + n) }

/-- The rest of a segment of length `L` is passed, `n` bits of which are
read. -/
def note (L n : Nat) (s : StreamStorage) : StreamStorage :=
  { s with passed := (8 * L, n) :: s.passed }

end StreamStorage

/-- The bits of a segment of length `L` behind the first `n`: `(L * 8) - n`. -/
def restOf (L n : Nat) : Nat := sub32 (u32 (L * 8)) n

/-- Jump over a segment of length `L`, where the length is not zero. -/
def StreamStorage.skipSegment (L : Nat) (s : StreamStorage) : StreamStorage :=
  if L ≠ 0 then ((s.note L 16).account (restOf L 16)).advance (restOf L 16 / 8) else s

open Prog

variable {ρ : Type} (mem : Nat → UInt8)

/-- `pCurrPos[k]`. -/
def deref (k : Nat) : Prog Fault ρ StreamStorage Nat := fun s =>
  if s.InRange (s.pCurrPos + k) then .next (mem (s.pCurrPos + k)).toNat s
  else .fault (.stream (s.pCurrPos + k)) s

/-- One byte of the stream, or `STRM_ERROR`. -/
def jpegDecGetByte : Prog Fault ρ StreamStorage Nat := do
  if ← gets (fun s => decide (s.Short 8)) then
    return strmErrorWord
  else
    let b0 ← deref mem 0
    modify (StreamStorage.advance 1)
    let b1 ← deref mem 0
    let bitPos ← gets (·.bitPosInByte)
    modify (StreamStorage.account 8)
    return (b0 * 2 ^ 8 + b1) / 2 ^ (8 - bitPos) % 2 ^ 8

/-- Two bytes of the stream, or `STRM_ERROR`. -/
def jpegDecGet2Bytes : Prog Fault ρ StreamStorage Nat := do
  if ← gets (fun s => decide (s.Short 16)) then
    return strmErrorWord
  else
    let b0 ← deref mem 0
    modify (StreamStorage.advance 1)
    let b1 ← deref mem 0
    modify (StreamStorage.advance 1)
    let b2 ← deref mem 0
    let bitPos ← gets (·.bitPosInByte)
    modify (StreamStorage.account 16)
    return ((b0 * 2 ^ 8 + b1) * 2 ^ 8 + b2) / 2 ^ (8 - bitPos) % 2 ^ 16

/-- `n` calls of `JpegDecGetByte`, in order. -/
def getBytes : Nat → Prog Fault ρ StreamStorage (List Nat)
  | 0 => return []
  | n + 1 => do
    let b ← jpegDecGetByte mem
    let bs ← getBytes n
    return b :: bs

/-- The `0xFF` test of `JpegDecFlushBits`: one byte is passed, or two where an
`0xFF` is followed by the stuffed `0x00`. The value is the number of extra
bits. -/
def flushStuffed : Prog Fault ρ StreamStorage Nat := do
  let b0 ← deref mem 0
  if b0 = 0xFF then
    let b1 ← deref mem 1
    if b1 = 0x00 then
      modify (StreamStorage.advance 2)
      return 8
    else
      modify (StreamStorage.advance 1)
      return 0
  else
    modify (StreamStorage.advance 1)
    return 0

/-- The rounds of the loop of `JpegDecFlushBits` that pass whole bytes, `n` of
them; `extraBits` is the running sum. -/
def flushBytes : Nat → Nat → Prog Fault ρ StreamStorage Nat
  | 0, extraBits => return extraBits
  | n + 1, extraBits => do
    if ← gets (fun s => decide (s.appnFlag ≠ 0)) then
      modify (StreamStorage.advance 1)
      flushBytes n extraBits
    else
      let e ← flushStuffed mem
      flushBytes n (extraBits + e)

/-- The last round of the loop of `JpegDecFlushBits`, for the `rest < 8` bits
that do not fill a byte. -/
def flushRest (rest extraBits : Nat) : Prog Fault ρ StreamStorage Nat := do
  if rest = 0 then
    return extraBits
  else if ← gets (fun s => decide (rest < 8 - s.bitPosInByte)) then
    modify fun s => { s with bitPosInByte := s.bitPosInByte + rest }
    return extraBits
  else
    let e ← flushStuffed mem
    modify fun s => { s with bitPosInByte := rest - (8 - s.bitPosInByte) }
    return extraBits + e

/-- Pass `bits` bits. The value is `STRM_ERROR` or `OK` (zero). -/
def jpegDecFlushBits (bits : Nat) : Prog Fault ρ StreamStorage Nat := do
  if ← gets (fun s => decide (s.Short bits)) then
    modify fun s => { s with
      readBits := u32 (8 * s.streamLength)
      bitPosInByte := 0
      pCurrPos := s.pStartOfStream + s.streamLength }
    return strmErrorWord
  else
    let extraBits ← flushBytes mem (bits / 8) 0
    let extraBits ← flushRest mem (bits % 8) extraBits
    modify (StreamStorage.account (bits + extraBits))
    return 0

/-- Pass the rest of a segment of length `L`, `n` bits of which are read. -/
def flushSegment (L n : Nat) : Prog Fault ρ StreamStorage Nat := do
  modify fun s => if s.Short (restOf L n) then s else s.note L n
  jpegDecFlushBits mem (restOf L n)

end Jpeg

end Rk3399
