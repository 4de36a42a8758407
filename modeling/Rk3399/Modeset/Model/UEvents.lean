import Rk3399.Common.Program
import Rk3399.Common.Strings
/-!
# Kernel events

`UEventHandler` of `modeset.cpp`: it reads one event after the other from the
socket into a buffer of 1024 bytes, goes through the strings of each, and
calls `updateModes` for those it takes for a change of the display. The
buffer is not cleared, so behind an event it holds what earlier ones left.
-/

namespace Rk3399

namespace Modeset

open Prog

/-! ## Reading -/

/-- What `read` puts into the buffer where it returns more than zero. -/
structure UEvent where
  bytes : List UInt8
  nonempty : bytes ≠ []
  length_le : bytes.length ≤ 1024

/-- What a call of `read` gives. -/
inductive ReadRet where
  | event (e : UEvent)
  | closed
  | error

/-- `char buffer[1024]`. -/
structure Buffer where
  bytes : List UInt8
  length_eq : bytes.length = 1024

/-- An event is read over the start of the buffer. -/
def Buffer.receive (b : Buffer) (e : UEvent) : Buffer where
  bytes := e.bytes ++ b.bytes.drop e.bytes.length
  length_eq := by
    have := e.length_le
    rw [List.length_append, List.length_drop, b.length_eq]
    omega

/-! ## One event -/

/-- The variables of the scan, and the end of the bytes it looked at. -/
structure Scan where
  i : Nat := 0
  drmEvent : Bool := false
  hotplugEvent : Bool := false
  seen : Nat := 0
  deriving DecidableEq, Repr

/-- The bytes up to `n` are looked at. -/
def Scan.look (s : Scan) (n : Nat) : Scan := { s with seen := max s.seen n }

/-- A string that runs off the buffer; `rounds` stands for a loop that does not end. -/
inductive EventFault where
  | buffer
  | rounds
  deriving DecidableEq, Repr

/-- The steps of the scan. -/
abbrev Scanning (α : Type) : Type := Prog EventFault Empty Scan α

section

variable (buffer : List UInt8)

/-- A string function applied at `buffer + pos`. -/
def look {α : Type} (f : List UInt8 → Scanned α) (pos : Nat) : Scanning α := fun s =>
  match f (buffer.drop pos) with
  | none => .fault .buffer s
  | some (a, k) => .next a (s.look (pos + k))

/-- The conditions on the string at `i`: `strcmp` is zero where the strings are equal. The
`printf` of the second branch looks at the string at the start of the buffer. -/
def testEvent (i : Nat) : Scanning Unit := do
  if (← look buffer (strcmp (chars "DEVTYPE=drm_minor")) i) ≠ 0 then
    modify fun s => { s with drmEvent := true }
  else if (← look buffer (strcmp (chars "HOTPLUG=1")) i) ≠ 0 then
    let change ← look buffer (strncmp (chars "change@")) 0
    modify fun s => if change = 0 then { s with hotplugEvent := true } else s
    let _ ← look buffer strlen 0

/-- One round of the loop over the strings; `false` leaves it. -/
def scanRound (ret : Nat) : Scanning Bool := do
  let i ← gets (·.i)
  if i < ret then
    testEvent buffer i
    let n ← look buffer strlen i
    modify fun s => { s with i := i + (n + 1) }
    return true
  else
    return false

/-- The scan of the `ret` bytes that were read; the value says whether `updateModes` is
called. -/
def scanEvent (ret : Nat) : Scanning Bool := do
  loop .rounds (scanRound buffer ret) (ret + 1)
  gets fun s => s.drmEvent && s.hotplugEvent

end

/-! ## The handler -/

/-- How an event is handled: whether `updateModes` is called, and the scan. -/
abbrev Handled : Type := Outcome EventFault Empty Scan Bool

/-- `UEventHandler`: the events it reads, and how each is handled. After a fault nothing
is known. -/
def uEventHandler : Buffer → List ReadRet → List (UEvent × Handled)
  | b, .event e :: rets =>
    let o := scanEvent (b.receive e).bytes e.bytes.length {}
    (e, o) :: match o with
      | .next _ _ => uEventHandler (b.receive e) rets
      | .exit _ _ => []
      | .fault _ _ => []
  | _, .closed :: _ => []
  | _, .error :: _ => []
  | _, [] => []

end Modeset

end Rk3399
