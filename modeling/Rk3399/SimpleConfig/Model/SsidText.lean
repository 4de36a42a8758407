import Rk3399.Common.Memory
import Rk3399.Common.Program
/-!
# The text of an SSID

`printf_encode`, which writes bytes as a text of printable characters into a
buffer, and `wpa_ssid_txt`. The memory is that from the start of the buffer on;
a store behind the buffer is the fault of the model.
-/

namespace Rk3399

namespace SimpleConfig

open Prog

/-- A store behind the buffer. -/
inductive TextFault where
  | outside
  deriving DecidableEq, Repr

/-- The memory from the start of the buffer on, and how far `txt` is. -/
structure Text where
  mem : Nat → UInt8
  txt : Nat

abbrev Printer (α : Type) := Prog TextFault Empty Text α

/-- The character for a digit of `%02x`. -/
def hexChar (n : Nat) : UInt8 := UInt8.ofNat (if n < 10 then 48 + n else 87 + n)

/-- `\x%02x` of a byte. -/
def hexText (b : UInt8) : List UInt8 :=
  [92, 120, hexChar (b.toNat / 16), hexChar (b.toNat % 16)]

/-- The letter behind the backslash, for the bytes that have one. -/
def escapeLetter (b : UInt8) : Option UInt8 :=
  if b = 34 then some 34
  else if b = 92 then some 92
  else if b = 27 then some 101
  else if b = 10 then some 110
  else if b = 13 then some 114
  else if b = 9 then some 116
  else none

section

variable (maxlen : Nat)

/-- `*txt++ = c`. -/
def store (c : UInt8) : Printer Unit := do
  assert .outside fun s => s.txt < maxlen
  modify fun s => { mem := poke s.txt [c] s.mem, txt := s.txt + 1 }

/-- `txt += snprintf(txt, end - txt, …)`: what fits is written, with a NUL behind it, and what
would have been written without the bound is added. -/
def snprintf (text : List UInt8) : Printer Unit :=
  modify fun s =>
    { mem := if s.txt < maxlen then poke s.txt (text.take (maxlen - s.txt - 1) ++ [0]) s.mem
        else s.mem
      txt := s.txt + text.length }

/-- One byte of the input. -/
def encodeByte (b : UInt8) : Printer Unit :=
  match escapeLetter b with
  | some c => do
    store maxlen 92
    store maxlen c
  | none => if 32 ≤ b ∧ b ≤ 127 then store maxlen b else snprintf maxlen (hexText b)

/-- The loop of `printf_encode`, left where there is no room for four characters. -/
def encodeBytes : List UInt8 → Printer Unit
  | [] => pure ()
  | b :: data => fun s =>
    if maxlen < s.txt + 4 then .next () s
    else (do encodeByte maxlen b; encodeBytes data : Printer Unit) s

/-- `printf_encode`. -/
def printfEncode (data : List UInt8) : Printer Unit := do
  encodeBytes maxlen data
  assert .outside fun s => s.txt < maxlen
  modify fun s => { s with mem := poke s.txt [0] s.mem }

end

/-- `sizeof(ssid_txt)`. -/
def sizeofSsidTxt : Nat := 32 * 4 + 1

/-- `wpa_ssid_txt`. -/
def wpaSsidTxt : Option (List UInt8) → Printer Unit
  | none => modify fun s => { s with mem := poke 0 [0] s.mem }
  | some ssid => printfEncode sizeofSsidTxt ssid

end SimpleConfig

end Rk3399
