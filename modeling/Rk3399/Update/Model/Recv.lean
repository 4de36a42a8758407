import Rk3399.Update.Model.Image
import Rk3399.Common.Program
/-!
# Writing and checking an item

`update_recv.c`: `WriteFwData` copies an item of an image to the recovery
partition, `CheckFwData` compares it with what is there. Both go through the
items of the header and move the data in pieces of 16 KiB.
-/

namespace Rk3399

namespace Update

open Prog

/-! ## The machine -/

/-- What the functions rest on and do not look at. -/
structure Platform where
  /-- Whether the build keeps the load of the high word of `EntryStartOffset`. Nothing uses
  that variable, so that an optimising compiler drops the load. -/
  keepsLoad : Bool
  /-- How many of the `n` bytes that `fwrite` took are on the recovery partition when its
  stream is gone. `fclose` fails where some are not, and nobody looks at what it returns. -/
  flushes : Nat → Nat

/-- What the files and the allocator do. The pieces of an item are told apart by the
offset they have in it. -/
structure Env extends Platform where
  /-- The paths that exist. -/
  access : String → Bool
  stat : Bool
  image : ImageFile
  imageOpens : Bool
  recoveryOpens : Bool
  /-- Whether `malloc` gives the buffer for an item. -/
  malloc : (idx buffer : Nat) → Bool
  /-- How much of a piece `fwrite` takes at most. -/
  fwrite : Nat → Nat
  /-- What the recovery partition holds when it is read. -/
  recovery : Content

/-- The global variables, what `fwrite` took and what was written to the recovery
partition, where it is read, and the two variables the functions go through an item with. -/
structure Updater where
  fwOffset : Nat
  fileSize : Nat
  bCheck : Bool
  mntPoint : String
  recoveryOpened : Bool
  taken : List UInt8
  written : List UInt8
  recoveryPos : Nat
  fileBufferSize : Nat
  entryOffset : Nat
  deriving DecidableEq

/-- The program starts. -/
def Updater.initial : Updater where
  fwOffset := 0
  fileSize := 0
  bCheck := false
  mntPoint := ""
  recoveryOpened := false
  taken := []
  written := []
  recoveryPos := 0
  fileBufferSize := 0
  entryOffset := 0

/-- What has no meaning: a byte used as an address, an item outside the array, and a
name compared beyond the header. `rounds` stands for a loop that does not end. -/
inductive Fault where
  | pointer (address : UInt8)
  | item (idx : Nat)
  | name (idx : Nat)
  | rounds
  deriving DecidableEq, Repr

/-! ## Reading the image -/

def UPDATE_IMG : String := "update.img"

def tryMountPoint : List String :=
  ["/udisk/", "/mnt/udisk/", "/mnt/usb_storage/", "/mnt/sdcard/", "/mnt/external_sd/"]

/-- The path `GetFwSize` finds the image at. -/
def Env.path (env : Env) (fwFilePath : String) : Option String :=
  (fwFilePath :: tryMountPoint.map (· ++ UPDATE_IMG)).find? env.access

section

variable {ρ : Type} (env : Env)

/-- `GetFwSize`; the caller leaves with `fail` where it returns -1. -/
def getFwSize (fail : ρ) (fwFilePath : String) : Prog Fault ρ Updater Unit := do
  modify fun s => { s with mntPoint := "" }
  match env.path fwFilePath with
  | none => pure ()
  | some szName => do
    exitIf fail fun _ => env.stat = false
    modify fun s => { s with mntPoint := szName, fileSize := env.image.size }

/-- `GetData`: the bytes, or nothing where it returns false. Offsets are sums of unsigned
numbers here, so that they are never below zero. -/
def getData (fileSize dwOffset dwSize : Nat) : Option (List UInt8) :=
  if dwSize = 0 then none
  else if fileSize < dwOffset + dwSize then none
  else if env.image.size < dwOffset + dwSize then none
  else some (env.image.bytes dwOffset dwSize)

/-- What `GetFwOffset` returns; -1 is a `DWORD`. -/
def fwOffset (image : ImageFile) : Nat :=
  if image.size < sizeofHead then 0xFFFFFFFF
  else if uiTag image.byte ≠ RKFW_TAG then 0xFFFFFFFF
  else dwFWOffset image.byte

/-- `GetFwOffset`. -/
def getFwOffset : Prog Fault ρ Updater Nat := do
  modify fun s => { s with bCheck :=
    if sizeofHead ≤ env.image.size ∧ uiTag env.image.byte ≠ RKFW_TAG then false else s.bCheck }
  pure (fwOffset env.image)

/-- Read the header of the items. -/
def readHdr (fail : ρ) : Prog Fault ρ Updater Hdr := do
  let s ← gets id
  match getData env s.fileSize s.fwOffset sizeofHdr with
  | none => exit fail
  | some _ => pure fun i => env.image.byte (s.fwOffset + i)

/-! ## Going through the items -/

/-- `LBA_TRANSFER_SIZE`. -/
def LBA_TRANSFER_SIZE : Nat := 16 * 1024

/-- The item as both functions see it: its size as a `long long`. -/
def Hdr.fileBufferSize (hdr : Hdr) (idx : Nat) : Int := int64 (hdr.fullSize idx)

/-- One round of the loop over an item. `GetData` is called with a sum of two
double words and the running offset. -/
def transferRound (fail : ρ) (chunk : List UInt8 → Prog Fault ρ Updater Unit) (hdr : Hdr)
    (idx : Nat) : Prog Fault ρ Updater Bool := do
  let s ← gets id
  if 0 < s.fileBufferSize then do
    let uiByte := min s.fileBufferSize LBA_TRANSFER_SIZE
    match getData env s.fileSize (u32 (s.fwOffset + hdr.offset idx) + s.entryOffset) uiByte with
    | none => exit fail
    | some pBuffer => do
      chunk pBuffer
      modify fun s => { s with
        fileBufferSize := s.fileBufferSize - uiByte, entryOffset := s.entryOffset + uiByte }
      pure true
  else pure false

/-- The data of an item. -/
def transfer (fail : ρ) (chunk : List UInt8 → Prog Fault ρ Updater Unit) (hdr : Hdr) (idx : Nat) :
    Prog Fault ρ Updater Unit := do
  let n := (hdr.fileBufferSize idx).toNat
  modify fun s => { s with fileBufferSize := n }
  loop .rounds (transferRound env fail chunk hdr idx) (n + 1)

/-- One item: nothing where it has another name. With `file[50]` the code takes the byte
behind it for the address of the high word of `EntryStartOffset`, in a build that keeps
the load; the data is read at the sum of the two double words all the same. -/
def visitItem (hdr : Hdr) (fwName : CString) (move : Nat → Prog Fault ρ Updater Unit)
    (idx : Nat) : Prog Fault ρ Updater Unit := do
  assert (.item idx) fun _ => idx < MAX_PACKAGE_FILES
  match strcmp hdr (Hdr.item idx) fwName.chars with
  | none => fault (.name idx)
  | some false => pure ()
  | some true =>
    if 0 < hdr.fileBufferSize idx then do
      assert (.pointer (hdr.file idx 51)) fun _ =>
        ¬ (env.keepsLoad = true ∧ hdr.file idx 50 = 0x48)
      move idx
    else pure ()

/-- The loop over the items, from `idx` on. -/
def visitItems (hdr : Hdr) (fwName : CString) (move : Nat → Prog Fault ρ Updater Unit) :
    Nat → Nat → Prog Fault ρ Updater Unit
  | _, 0 => pure ()
  | idx, k + 1 => do
    visitItem env hdr fwName move idx
    visitItems hdr fwName move (idx + 1) k

end

/-! ## Writing -/

section

variable (env : Env)

/-- Write a piece: `fwrite` takes it into the buffer of the stream. -/
def writeChunk (pBuffer : List UInt8) : Prog Fault Int Updater Unit := do
  let s ← gets id
  let sizeWr := min pBuffer.length (env.fwrite s.entryOffset)
  modify fun s => { s with taken := s.taken ++ pBuffer.take sizeWr }
  exitIf (-1) fun _ => sizeWr ≠ pBuffer.length

/-- Write the data of an item. -/
def writeItem (hdr : Hdr) (idx : Nat) : Prog Fault Int Updater Unit := do
  exitIf (-1) fun _ => env.malloc idx 0 = false
  transfer env (-1) (writeChunk env) hdr idx

/-- What of the stream gets to the partition. -/
def Updater.flushed (platform : Platform) (s : Updater) : List UInt8 :=
  s.taken.take (platform.flushes s.taken.length)

/-- `fclose` of the recovery partition. -/
def fcloseRecovery : Prog Fault Int Updater Unit :=
  modify fun s => { s with written := s.flushed env.toPlatform }

/-- `WriteFwData`. -/
def writeFwData (imgPath : String) (fwName : CString) : Prog Fault Int Updater Unit := do
  getFwSize env (-1) imgPath
  exitIf (-1) fun s => s.mntPoint = ""
  exitIf (-1) fun _ => env.imageOpens = false
  let offset ← getFwOffset env
  modify fun s => { s with fwOffset := offset }
  -- a `DWORD` is never negative
  exitIf (-1) fun s => s.bCheck = false ∧ s.fwOffset < 0
  let hdr ← readHdr env (-1)
  exitIf (-1) fun _ => hdr.itemCount ≤ 0
  exitIf (-1) fun _ => env.recoveryOpens = false
  modify fun s => { s with recoveryOpened := true, taken := [], written := [], entryOffset := 0 }
  let failed ← call (visitItems env hdr fwName (writeItem env hdr) 0 hdr.itemCount.toNat)
  -- `ERR` closes the stream too; where there is no memory the process does when it ends
  fcloseRecovery env
  exit (failed.getD 0)

/-! ## Checking -/

/-- Compare a piece. -/
def checkChunk (pBufferFromImg : List UInt8) : Prog Fault Bool Updater Unit := do
  let s ← gets id
  exitIf false fun _ => env.recovery.size < s.recoveryPos + pBufferFromImg.length
  modify fun s => { s with recoveryPos := s.recoveryPos + pBufferFromImg.length }
  exitIf false fun _ =>
    env.recovery.bytes s.recoveryPos pBufferFromImg.length ≠ pBufferFromImg

/-- Compare the data of an item. -/
def checkItem (hdr : Hdr) (idx : Nat) : Prog Fault Bool Updater Unit := do
  exitIf false fun _ => env.malloc idx 0 = false
  exitIf false fun _ => env.malloc idx 1 = false
  transfer env false (checkChunk env) hdr idx

/-- `CheckFwData`. -/
def checkFwData (fwName : CString) : Prog Fault Bool Updater Unit := do
  exitIf false fun s => s.mntPoint = ""
  exitIf false fun _ => env.imageOpens = false
  -- a `DWORD` is never negative
  exitIf false fun s => s.bCheck = false ∧ s.fwOffset < 0
  let hdr ← readHdr env false
  exitIf false fun _ => env.recoveryOpens = false
  modify fun s => { s with recoveryPos := 0, entryOffset := 0 }
  visitItems env hdr fwName (checkItem env hdr) 0 hdr.itemCount.toNat
  exit true

end

/-! ## The update tool -/

/-- `partition_name` of `main`: `recovery`. -/
def partitionName : CString := ⟨[0x72, 0x65, 0x63, 0x6F, 0x76, 0x65, 0x72, 0x79], by simp⟩

/-- `main` with an image, up to the call of `rebootUpdate`: it gets there where it goes on. The
files can have changed between the write and the check. -/
def main (env env' : Env) (imgPath : String) : Prog Fault Int Updater Unit := do
  let ret ← call (writeFwData env imgPath partitionName)
  exitIf (-1) fun _ => ret.any (· < 0)
  let checked ← call (checkFwData env' partitionName)
  exitIf (-1) fun _ => checked ≠ some true

end Update

end Rk3399
