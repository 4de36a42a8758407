import Rk3399.Common.Memory
import Rk3399.Common.Program
import Rk3399.Common.Strings
import Rk3399.Update.Model.Image
/-!
# Booting into recovery

`bootCommand` of `update.c` leaves a command for the recovery system: in the
command file, and as a bootloader message on the misc partition. `installPackage`
makes the command for a package.
-/

namespace Rk3399

namespace Update

open Prog

/-! ## The bootloader message -/

namespace BootloaderMessage

/-- Where the fields of `struct android_bootloader_message` are. -/
def command : Nat := 0
def recovery : Nat := 64

/-- `sizeof(msg.recovery)`. -/
def sizeofRecovery : Nat := 768

/-- `sizeof(msg)`. -/
def size : Nat := 2048

end BootloaderMessage

/-- `MISC_MSG_OFFSET`. -/
def MISC_MSG_OFFSET : Nat := 16 * 1024

def LOG_FILE_LEN : Nat := 512

/-- `recovery_str`. -/
def recoveryStr : List UInt8 := chars "recovery\n"

/-! ## The files -/

/-- What the files hold; a file that is not there is `none`. The misc partition keeps its
contents when it is opened for writing. -/
structure Files where
  command : Option (List UInt8)
  log : Option (List UInt8)
  misc : Nat → UInt8

/-- The files that `fopen` opens. -/
structure BootEnv where
  commandOpens : Bool
  logOpens : Bool
  miscOpens : Bool
  deriving DecidableEq, Repr

/-- The files, the variable `msg`, and whether `reboot` was called. -/
structure Booting where
  files : Files
  msg : Nat → UInt8
  rebooted : Bool := false

/-- A byte outside `msg` is written, or read as part of a string. -/
inductive MsgFault where
  | write
  | read
  deriving DecidableEq, Repr

/-- The steps of `bootCommand`. -/
abbrev Boots (α : Type) : Type := Prog MsgFault Unit Booting α

/-! ## `bootCommand` -/

/-- `fopen` for writing; the function returns where it fails. -/
def fopen (opens : Bool) (truncate : Files → Files) : Boots Unit := do
  exitIf () fun _ => opens = false
  modify fun s => { s with files := truncate s.files }

/-- Bytes are copied into `msg`. -/
def store (pos : Nat) (bytes : List UInt8) : Boots Unit := do
  assert .write fun _ => pos + bytes.length ≤ BootloaderMessage.size
  modify fun s => { s with msg := poke pos bytes s.msg }

/-- How much of the argument is copied. -/
def copied (arg : CString) : Nat :=
  if BootloaderMessage.sizeofRecovery < arg.chars.length then BootloaderMessage.sizeofRecovery
  else arg.chars.length

/-- The message is put together. -/
def fillMsg (arg : CString) : Boots Unit := do
  store 0 (List.replicate BootloaderMessage.size 0)
  store BootloaderMessage.command (chars "boot-recovery" ++ [0])
  store BootloaderMessage.recovery (recoveryStr ++ [0])
  store (BootloaderMessage.recovery + recoveryStr.length) (arg.chars.take (copied arg))
  let msg ← gets (·.msg)
  match strlen (block msg BootloaderMessage.recovery
      (BootloaderMessage.size - BootloaderMessage.recovery)) with
  | none => fault .read
  | some (n, _) => store (BootloaderMessage.recovery + (n + 1)) (chars "\n")

/-- The message is written to the misc partition. -/
def writeMisc (s : Booting) : Booting :=
  { s with files := { s.files with
      misc := poke MISC_MSG_OFFSET (block s.msg 0 BootloaderMessage.size) s.files.misc } }

/-- `bootCommand` for an argument that is there. -/
def bootWith (env : BootEnv) (arg : CString) : Boots Unit := do
  fopen env.commandOpens fun f => { f with command := some [] }
  fopen env.logOpens fun f => { f with log := some [] }
  fopen env.miscOpens id
  modify fun s => { s with files.command := some (arg.chars ++ chars "\n") }
  fillMsg arg
  modify writeMisc
  modify fun s => { s with files.log := some (List.replicate LOG_FILE_LEN 0) }
  modify fun s => { s with rebooted := true }

/-- `bootCommand`. -/
def bootCommand (env : BootEnv) : Option CString → Boots Unit
  | none => exit ()
  | some arg => bootWith env arg

/-! ## `installPackage` -/

/-- `str_update_package`. -/
def strUpdatePackage : List UInt8 := chars "--update_package="

/-- The command for the package, in `arg[512]`. -/
def packageArg (updateFile : CString) : CString where
  chars := strUpdatePackage ++ updateFile.chars
  nonzero c hc := by
    rcases List.mem_append.1 hc with hc | hc
    · exact ne_of_mem_of_not_mem hc (by decide)
    · exact updateFile.nonzero c hc

/-- `installPackage`. -/
def installPackage (env : BootEnv) (updateFile : CString) : Boots Unit := do
  assert .write fun _ => strUpdatePackage.length + updateFile.chars.length + 1 ≤ 512
  bootCommand env (some (packageArg updateFile))

end Update

end Rk3399
