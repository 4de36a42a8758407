import Rk3399.Common.Program
import Rk3399.Common.Strings
/-!
# Scan results

`parse_scanres`: the survey file is read with `fgets` and each of its lines is
taken apart with `strtok`. The file is the list of its bytes; strings are without
their NUL. A string that is copied to a buffer it does not fit is a fault of the
model.
-/

namespace Rk3399

namespace SimpleConfig

open Prog

/-- The buffers the callers provide. -/
inductive ScanFault where
  | channel
  | ssid
  | rounds
  deriving DecidableEq, Repr

/-- What is left of the file and whether its end was met, and what the arguments point to. -/
structure Scan where
  file : List UInt8
  eof : Bool := false
  channel : List UInt8 := []
  ssid : List UInt8 := []
  flag : Nat := 0
  deriving DecidableEq, Repr

/-- A program that may leave with the return code of `parse_scanres`. -/
abbrev Scanner (α : Type) := Prog ScanFault Int Scan α

def TRUE : Int := 1
def FALSE : Int := 0
def EAGAIN : Int := 11

def MAX_LINE_LEN : Nat := 1024

/-! ## The standard library -/

/-- At most `n` bytes, up to a newline, and what is left. -/
def takeLine : Nat → List UInt8 → List UInt8 × List UInt8
  | 0, s => ([], s)
  | _ + 1, [] => ([], [])
  | n + 1, c :: s => if c = 10 then ([10], s) else (c :: (takeLine n s).1, (takeLine n s).2)

/-- `fgets` into a buffer of `size` bytes. The end of the file is met where the line is short
and has no newline. -/
def fgets (size : Nat) : Scanner (Option (List UInt8)) := do
  let s ← gets id
  let line := (takeLine (size - 1) s.file).1
  modify fun s =>
    { s with
      file := (takeLine (size - 1) s.file).2
      eof := s.eof || (line.length < size - 1 && line.getLast? ≠ some 10) }
  pure (if line = [] then none else some line)

/-- The string at the start of a buffer. -/
def cString (s : List UInt8) : List UInt8 := s.takeWhile fun c => c ≠ 0

/-- `strtok`: the token, and what it goes on with at the next call. -/
def strtok (delims s : List UInt8) : Option (List UInt8 × List UInt8) :=
  let s := s.dropWhile fun c => c ∈ delims
  if s = [] then none
  else some (s.takeWhile fun c => c ∉ delims, (s.dropWhile fun c => c ∉ delims).tail)

/-- `strstr(s, t) != NULL`. -/
def Strstr (s t : List UInt8) : Prop := t <:+: s

instance (s t : List UInt8) : Decidable (Strstr s t) := inferInstanceAs (Decidable (_ <:+: _))

/-! ## A line -/

/-- `" \r\n"`. -/
def blanks : List UInt8 := chars " \r\n"

/-- `"\t\r\n"`. -/
def lineEnds : List UInt8 := chars "\t\r\n"

/-- The patterns of the flags, each with its bit. -/
def flagPatterns : List (List UInt8 × Nat) :=
  [(chars "[WPA]", 0x0001), (chars "[WPA2]", 0x0002), (chars "[WEP]", 0x0004),
    (chars "[WPS]", 0x0008), (chars "[IBSS]", 0x0010), (chars "[ESS]", 0x0020),
    (chars "[P2P]", 0x0040)]

/-- `*flag |= …` for the patterns that are in the field. -/
def flagsOf (flag : Nat) (field : List UInt8) : Nat :=
  flagPatterns.foldl (fun flag p => if Strstr field p.1 then flag ||| p.2 else flag) flag

/-- The text behind its blanks, where there is one. -/
def skipBlanks (s : List UInt8) : List UInt8 :=
  let rest := s.dropWhile fun c => c = 32 || c = 9
  if rest = [] then s else rest

/-- The next `n` fields are skipped. -/
def skipFields : Nat → List UInt8 → Option (List UInt8)
  | 0, s => some s
  | n + 1, s => (skipFields n s).bind fun rest => (strtok blanks rest).map Prod.snd

/-- `strcpy(channel, ch)`, `channel` having 5 bytes. -/
def copyChannel (ch : List UInt8) : Scanner Unit := do
  assert .channel fun _ => ch.length < 5
  modify fun s => { s with channel := ch }

/-- `strcpy(ssid, ch)`, `ssid` having 64 bytes. -/
def copySsid (ch : List UInt8) : Scanner Unit := do
  assert .ssid fun _ => ch.length < 64
  modify fun s => { s with ssid := ch }

/-- The part for the SSID: the loop is left with `TRUE`, or the function with `FALSE`. -/
def parseSsid (rest : List UInt8) : Scanner Bool := fun s =>
  if s.ssid = [] then
    match strtok lineEnds rest with
    | none => .exit FALSE s
    | some (ch, _) => (do copySsid (skipBlanks ch); exit TRUE : Scanner Bool) s
  else .exit TRUE s

/-- The part from the field behind the noise and the age on. -/
def parseFlags (rest : List UInt8) : Scanner Bool :=
  match strtok blanks rest with
  | none => pure true
  | some (field, rest) => do
    modify fun s => { s with flag := flagsOf s.flag field }
    parseSsid rest

/-- The part from the channel on: RSSI, SdBm, noise and age are skipped. -/
def parseChannel (rest : List UInt8) : Scanner Bool :=
  match strtok blanks rest with
  | none => pure true
  | some (ch, rest) => do
    copyChannel ch
    match skipFields 4 rest with
    | none => pure true
    | some rest => parseFlags rest

/-- A line, which is gone on behind with `true`. -/
def parseLine (targetBssid line : List UInt8) : Scanner Bool :=
  match skipFields 1 line with
  | none => pure true
  | some rest =>
    match strtok blanks rest with
    | none => pure true
    | some (bssid, rest) =>
      if bssid.length < 17 ∨ bssid ≠ targetBssid then pure true else parseChannel rest

/-- The body of the loop. -/
def scanBody (targetBssid : List UInt8) : Scanner Bool := do
  modify fun s => { s with flag := 0, channel := [] }
  let line ← fgets MAX_LINE_LEN
  match line with
  | none => pure false
  | some line => parseLine targetBssid (cString line)

/-- One round of the loop. -/
def scanRound (targetBssid : List UInt8) : Scanner Bool := fun s =>
  if s.eof then .next false s else scanBody targetBssid s

/-- `parse_scanres`, for a file that can be opened or not. -/
def parseScanres (opened : Bool) (targetBssid : List UInt8) : Scanner Unit := do
  exitIf (-2) fun _ => opened = false
  exitIf (-22) fun _ => targetBssid.length < 6
  let s ← gets id
  loop .rounds (scanRound targetBssid) (s.file.length + 2)
  exit (-EAGAIN)

end SimpleConfig

end Rk3399
