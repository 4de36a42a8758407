import Rk3399.Common.BitString
import Rk3399.Jpeg.Model.Container
/-!
# The stream of an empty scan

For a component that no scan of the stream covered, `JpegDecInitHWEmptyScan`
writes a scan of its own to `tmpStrm`: runs of blocks that are at their end,
in two codes of one bit each. This is `NumBits` and what lies between the
number of blocks and the registers of the stream; the function itself is
with the hardware starts.
-/

namespace Rk3399

namespace Jpeg

/-! ## Blocks -/

/-- The blocks of the component: `numBlocks` before the runs are split off. -/
def emptyScanBlocks (componentId : Nat) (c : JpegDecContainer) : Nat :=
  let numBlocks := u32 (c.frame.hwX * c.frame.hwY) / 64
  if componentId = 0 then numBlocks
  else if c.info.yCbCrModeOrig = JPEGDEC_YUV420 then numBlocks / 4
  else if c.info.yCbCrModeOrig = JPEGDEC_YUV422 then numBlocks / 2
  else if c.info.yCbCrModeOrig = JPEGDEC_YUV440 then numBlocks / 2
  else numBlocks

/-- The rounds of the loop of `NumBits`, for a value of at most `fuel` bits. -/
def numBitsRounds : Nat → Nat → Nat
  | 0, _ => 0
  | fuel + 1, value => if value ≠ 0 then numBitsRounds fuel (value >>> 1) + 1 else 0

/-- `NumBits`. -/
def numBits (value : Nat) : Nat :=
  let n := numBitsRounds 32 value
  if n = 0 then 1 else n

/-- The loop that splits off runs of 32767 blocks: what is left, and `numMax`. -/
def splitRuns : Nat → Nat → Nat → Nat × Nat
  | 0, numBlocks, numMax => (numBlocks, numMax)
  | fuel + 1, numBlocks, numMax =>
    if 32767 < numBlocks then splitRuns fuel (numBlocks - 32767) (numMax + 1)
    else (numBlocks, numMax)

/-! ## Codes -/

/-- The memory behind `tmpStrm`, the byte `pStrm` points to, and the bits of it that
are written. -/
structure StrmWriter where
  mem : Nat → Nat
  pStrm : Nat := 0
  bitPos : Nat := 0

namespace StrmWriter

/-- `*pStrm = value`. -/
def put (value : Nat) (w : StrmWriter) : StrmWriter :=
  { w with mem := Function.update w.mem w.pStrm (value % 2 ^ 8) }

/-- `pStrm++`. -/
def next (w : StrmWriter) : StrmWriter := { w with pStrm := w.pStrm + 1 }

/-- The first byte of a code, behind the bits that are there. -/
def putFirst (bits : Nat) (w : StrmWriter) : StrmWriter :=
  (w.put ((if w.bitPos ≠ 0 then w.mem w.pStrm else 0) ||| bits >>> (24 + w.bitPos))).next

/-- The code of a run of 32767 blocks. -/
def maxRun : Nat := u32 (0x3FFF <<< 17)

/-- One round of the loop over the runs of 32767 blocks. -/
def putMaxRun (w : StrmWriter) : StrmWriter :=
  let bits := u32 (maxRun <<< (8 - w.bitPos))
  let w' := (w.putFirst maxRun).put (bits >>> 24)
  let w' := if 1 ≤ w.bitPos then w'.next.put (u32 (bits <<< 8) >>> 24) else w'
  { w' with bitPos := (w.bitPos + 15) % 8 }

/-- That loop. -/
def putMaxRuns : Nat → StrmWriter → StrmWriter
  | 0, w => w
  | numMax + 1, w => putMaxRuns numMax w.putMaxRun

/-- The loop over the bytes of the last code, `n` bits of which are left; with a bound
on its rounds. -/
def putRest : Nat → Nat → Nat → StrmWriter → StrmWriter
  | 0, _, _, w => w
  | fuel + 1, n, bits, w =>
    if 0 < n then putRest fuel (n - 8) (u32 (bits <<< 8)) (w.put (bits >>> 24)).next else w

/-- The code of the last run: its number of blocks, in `n` bits. -/
def putLast (n numBlocks : Nat) (w : StrmWriter) : StrmWriter :=
  let bits := u32 (numBlocks <<< (32 - n))
  putRest n (n - (8 - w.bitPos)) (u32 (bits <<< (8 - w.bitPos))) (w.putFirst bits)

end StrmWriter

open Prog StrmWriter

/-- The word of the table memory with the two codes: the values `0xE0` and `0xn0`. -/
def emptyScanCodes (n : Nat) : Nat := u32 (0xE0 <<< 24) ||| u32 ((n - 1) <<< 20)

/-- The stream of a scan of `numBlocks` empty blocks. -/
def emptyScanStrm (numBlocks : Nat) (mem : Nat → Nat) : StrmWriter :=
  let (numBlocks, numMax) := splitRuns numBlocks numBlocks 0
  let n := numBits numBlocks
  let w := putMaxRuns numMax { mem := mem }
  if numBlocks ≠ 0 then w.putLast n numBlocks else w

/-- The stream written to `tmpStrm`, which is mapped with room for it unless it is empty. -/
def writeEmptyScan {ρ : Type} (numBlocks : Nat) : Decoder ρ Unit := do
  let w ← gets fun c => emptyScanStrm numBlocks c.tmpStrmMem
  assert .buffer fun c =>
    w.pStrm = 0 ∨ c.info.tmpStrm.virAddr ≠ 0 ∧ w.pStrm ≤ c.info.tmpStrm.size
  modify fun c => { c with tmpStrmMem := w.mem }

end Jpeg

end Rk3399
