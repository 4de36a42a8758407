import Rk3399.Common.Memory
import Rk3399.Common.Program
import Rk3399.Common.Strings
import Rk3399.Common.Word
/-!
# The vendor storage tool

`vendor_storage.c`: it takes a command of an identifier and a number apart,
writes the number to the vendor storage device, and prints what it wrote or
what it reads from there.
-/

namespace Rk3399

namespace VendorStorage

open Prog

/-! ## Identifiers -/

def VENDOR_SN_ID : Nat := 1
def VENDOR_WIFI_MAC_ID : Nat := 2
def VENDOR_LAN_MAC_ID : Nat := 3
def VENDOR_BT_MAC_ID : Nat := 4
def VENDOR_IMEI_ID : Nat := 5

/-- `vendor_id_table`. -/
def vendorIdTable : List (List UInt8) :=
  [chars "VENDOR_SN_ID", chars "VENDOR_WIFI_MAC_ID", chars "VENDOR_LAN_MAC_ID",
    chars "VENDOR_BT_MAC_ID", chars "VENDOR_IMEI_ID"]

def space : UInt8 := 0x20

/-! ## Requests -/

def VENDOR_REQ_TAG : Nat := 0x56524551

/-- `struct rk_vendor_req` in a buffer of 100 bytes, of which the data are the last 92; what
`data` gives from there on is the memory behind the buffer. -/
structure VendorReq where
  tag : Nat := VENDOR_REQ_TAG
  id : Nat
  len : Nat
  data : Nat → UInt8

/-- How much of `data` is in the buffer. -/
def sizeofData : Nat := 92

/-- The device: whether it opens, what a write returns, and the length and the data a read of
an identifier gives. -/
structure Device where
  opens : Bool
  write : Int
  read : Nat → Option (UInt16 × (Nat → UInt8))

/-- A command string, without its NUL. -/
structure CmdString where
  chars : List UInt8
  nonzero : ∀ c ∈ chars, c ≠ 0

/-! ## The machine -/

/-- The variables of the functions, the identifiers `vendor_storage_write` was called with,
the requests it made, what was printed of them, and the end of the data
that were looked at for it. -/
structure Tool where
  cmd : Nat := 0
  cnt : Int := 0
  i : Nat := 0
  tmp : Int := 0
  vendorId : Nat → UInt8
  vendorNum : Nat → UInt8
  vendorHex : Nat → UInt8
  calls : List Nat := []
  requests : List VendorReq := []
  pos : Nat := 0
  out : List UInt8 := []
  seen : Nat := 0

/-- What has no meaning: a byte outside the string, a string that does not end in its array,
a write outside an array, and an entry outside the table. `rounds` stands for a loop that
does not end. -/
inductive VendorFault where
  | string
  | vendorId
  | vendorNum
  | vendorHex
  | request
  | table
  | rounds
  deriving DecidableEq, Repr

section

variable {ρ : Type}

/-- `vendor_id_table[k]`. -/
def tableEntry (k : Int) : Prog VendorFault ρ Tool (List UInt8) := fun s =>
  if 0 ≤ k ∧ k < 5 then .next (vendorIdTable.getD k.toNat []) s else .fault .table s

/-! ## Printing -/

/-- A digit of `%02x`. -/
def hexDigit (n : Nat) : UInt8 := if n < 10 then UInt8.ofNat (0x30 + n) else UInt8.ofNat (0x57 + n)

/-- What `%02x` prints of a byte. -/
def hexByte (b : UInt8) : List UInt8 := [hexDigit (b.toNat / 16), hexDigit (b.toNat % 16)]

/-- The identifiers whose numbers are text. -/
def IsText (id : Nat) : Prop := id = VENDOR_SN_ID ∨ id = VENDOR_IMEI_ID

instance (id : Nat) : Decidable (IsText id) := inferInstanceAs (Decidable (_ ∨ _))

/-- What is printed of a byte. -/
def printByte (id : Nat) (b : UInt8) : List UInt8 := if IsText id then [b] else hexByte b

/-- One round of the loop over the data, with an index of eight bits. -/
def printRound (req : VendorReq) (len : Nat) : Prog VendorFault ρ Tool Bool := do
  let i ← gets (·.pos)
  if i < len then
    modify fun s => { s with
      out := s.out ++ printByte req.id (req.data i)
      seen := max s.seen (i + 1)
      pos := (i + 1) % 256 }
    return true
  else
    return false

/-- `rknand_print_hex_data`. -/
def rknandPrintHexData (rounds : Nat) (req : VendorReq) (len : Nat) :
    Prog VendorFault ρ Tool Unit := do
  let name ← tableEntry (req.id - 1)
  modify fun s => { s with out := s.out ++ name ++ chars ": ", pos := 0 }
  loop .rounds (printRound req len) rounds
  modify fun s => { s with out := s.out ++ chars "\n" }

/-- Rounds for a loop with an index of eight bits: it ends within them or never. -/
def printRounds : Nat := 257

end

/-! ## The device -/

/-- `strlen` of the string in an array of `n` bytes. -/
def stringLength {ρ : Type} (n : Nat) (array : Nat → UInt8) : Prog VendorFault ρ Tool Nat :=
  fun s =>
  match strlen (block array 0 n) with
  | none => .fault .string s
  | some (len, _) => .next len s

/-- `vendor_storage_read`; it leaves with -1 where it fails. -/
def vendorStorageRead (dev : Device) (cmd : Nat) : Prog VendorFault Int Tool Unit := do
  exitIf (-1) fun _ => dev.opens = false
  match dev.read cmd with
  | none => exit (-1)
  | some (len, data) =>
    rknandPrintHexData printRounds { id := cmd, len := len.toNat, data := data } len.toNat

/-- The request of a number of `len` bytes; `junk` is what is on the stack. -/
def writeReq (cmd len : Nat) (num junk : Nat → UInt8) : VendorReq where
  id := cmd
  len := len % 2 ^ 16
  data := poke 0 (block num 0 (len % 2 ^ 16)) junk

/-- The length of a number: `strlen` of one that is text, which is in `vendor_num`. -/
def numLength {ρ : Type} (cmd : Nat) (num : Nat → UInt8) : Prog VendorFault ρ Tool Nat :=
  if IsText cmd then stringLength 20 num else pure 6

/-- `vendor_storage_write`; it leaves with -1 where it fails. -/
def vendorStorageWrite (dev : Device) (junk : Nat → UInt8) (cmd : Nat) (num : Nat → UInt8) :
    Prog VendorFault Int Tool Unit := do
  exitIf (-1) fun _ => dev.opens = false
  let len ← numLength cmd num
  assert .request fun _ => len % 2 ^ 16 ≤ sizeofData
  let req := writeReq cmd len num junk
  modify fun s => { s with requests := s.requests ++ [req] }
  exitIf (-1) fun _ => dev.write ≠ 0
  rknandPrintHexData printRounds req req.len

/-! ## Taking a command apart -/

/-- Why a command is not carried out: with the text of the message, or with none. -/
inductive Reject where
  | form
  | length (name : List UInt8) (len : Nat)
  | hex (name : List UInt8)
  | silent
  deriving DecidableEq, Repr

/-- The steps of `vendor_storage_write_cmd_parse`. -/
abbrev Parsing (α : Type) : Type := Prog VendorFault Reject Tool α

section

variable (str : CmdString)

/-- The character at a position of the string. -/
def charAt (k : Int) : Parsing UInt8 := fun s =>
  if 0 ≤ k ∧ k ≤ str.chars.length then .next (str.chars.getD k.toNat 0) s else .fault .string s

/-- One round of the loop over the spaces at the end. -/
def trimRound : Parsing Bool := do
  let s ← gets id
  if (← charAt str (s.cmd + (s.cnt - 1))) = space then
    modify fun s => { s with cnt := s.cnt - 1 }
    return true
  else
    return false

/-- One round of the loops over spaces in front. -/
def skipRound : Parsing Bool := do
  let s ← gets id
  if (← charAt str s.cmd) = space then
    modify fun s => { s with cmd := s.cmd + 1, cnt := s.cnt - 1 }
    exitIf .form fun s => s.cnt = 0
    return true
  else
    return false

/-- The identifier is copied, with the space behind it. -/
def takeId : Parsing Unit := do
  modify fun s => { s with vendorId := fun _ => 0 }
  assert .vendorId fun s => s.i + 1 ≤ 20
  modify fun s => { s with
    vendorId := poke 0 ((str.chars.drop s.cmd).take (s.i + 1)) s.vendorId
    cmd := s.cmd + s.i
    cnt := s.cnt - s.i }

/-- One round of the loop that looks for the end of the identifier. -/
def splitRound : Parsing Bool := do
  let s ← gets id
  if s.i < s.tmp then
    if (← charAt str (s.cmd + s.i)) = space then
      takeId str
      return false
    else
      modify fun s => { s with i := s.i + 1 }
      return true
  else
    return false

/-- One round of the loop that looks for a space in the number. -/
def checkRound : Parsing Bool := do
  let s ← gets id
  if s.i < s.cnt then
    if (← charAt str (s.cmd + s.i)) = space then
      exit .form
    else
      modify fun s => { s with i := s.i + 1 }
      return true
  else
    return false

/-- The number is copied. -/
def takeNum : Parsing Unit := do
  modify fun s => { s with vendorNum := fun _ => 0 }
  assert .vendorNum fun s => s.cnt ≤ 20
  modify fun s => { s with
    vendorNum := poke 0 ((str.chars.drop s.cmd).take s.cnt.toNat) s.vendorNum }

/-- The rounds of a loop over the string, and two more. -/
def CmdString.rounds : Nat := str.chars.length + 2

/-- The spaces at both ends are passed. The counter is an `int`. -/
def trimCmd : Parsing Unit := do
  modify fun s => { s with cnt := i32 str.chars.length }
  loop .rounds (trimRound str) str.rounds
  loop .rounds (skipRound str) str.rounds

/-- The first word, and the spaces behind it. -/
def cutId : Parsing Unit := do
  modify fun s => { s with tmp := s.cnt, i := 0 }
  loop .rounds (splitRound str) str.rounds
  exitIf .form fun s => s.cnt = s.tmp
  loop .rounds (skipRound str) str.rounds

/-- The second word, with nothing behind it. -/
def cutNum : Parsing Unit := do
  modify fun s => { s with i := 0 }
  loop .rounds (checkRound str) str.rounds
  takeNum str

/-- The two words of the command. -/
def splitCmd : Parsing Unit := do
  trimCmd str
  cutId str
  cutNum str

end

/-! ## Carrying it out -/

/-- The entry of the table that the identifier begins with. -/
def findId (s : Tool) : Option Nat :=
  vendorIdTable.findIdx? fun name => decide (block s.vendorId 0 name.length = name)

/-- The length of the number, by the `switch`. -/
def idLength (id : Nat) : Option Nat :=
  if id = VENDOR_SN_ID then some 16
  else if id = VENDOR_WIFI_MAC_ID ∨ id = VENDOR_LAN_MAC_ID ∨ id = VENDOR_BT_MAC_ID then some 12
  else if id = VENDOR_IMEI_ID then some 14
  else none

/-- `vendor_len_mask`. -/
def vendorLenMask (cmd len : Nat) : Parsing Unit := do
  let s ← gets id
  if s.cnt ≠ len then
    let name ← tableEntry (cmd - 1)
    exit (.length name len)

/-- The length of the number is checked. -/
def checkLength (id : Nat) : Parsing Unit :=
  match idLength id with
  | none => exit .silent
  | some len => vendorLenMask id len

/-- A hexadecimal digit. -/
def IsHex (c : UInt8) : Prop :=
  ¬ (c < 0x30 ∨ (0x39 < c ∧ c < 0x41) ∨ (0x46 < c ∧ c < 0x61) ∨ 0x66 < c)

instance (c : UInt8) : Decidable (IsHex c) := inferInstanceAs (Decidable (¬ _))

/-- The value of a hexadecimal digit. -/
def hexValue (c : UInt8) : UInt8 :=
  if 0x30 ≤ c ∧ c ≤ 0x39 then c - 0x30
  else if 0x61 ≤ c ∧ c ≤ 0x66 then c - (0x61 - 10)
  else c - (0x41 - 10)

/-- The digit at `i` is converted in place, and packed with the one before it where `i` is
odd. -/
def storeDigit (s : Tool) : Tool :=
  let num := Function.update s.vendorNum s.i (hexValue (s.vendorNum s.i))
  { s with
    vendorNum := num
    vendorHex :=
      if s.i % 2 = 1 then
        Function.update s.vendorHex ((s.i - 1) / 2) (num (s.i - 1) <<< 4 ||| num s.i)
      else s.vendorHex
    i := s.i + 1 }

/-- One round of the loop over the digits. The message names another entry of the table. -/
def hexRound (id : Nat) : Parsing Bool := do
  let s ← gets fun s => s
  if s.i < s.tmp then
    if ¬ IsHex (s.vendorNum s.i) then
      let name ← tableEntry (id + 1)
      exit (.hex name)
    else
      assert .vendorNum fun s => s.i < 20
      assert .vendorHex fun s => s.i % 2 = 1 → (s.i - 1) / 2 < 10
      modify storeDigit
      return true
  else
    return false

/-- The digits are packed. -/
def packHex (id : Nat) : Parsing Unit := do
  modify fun s => { s with vendorHex := fun _ => 0 }
  if ¬ IsText id then
    let num ← gets (·.vendorNum)
    let len ← stringLength 20 num
    modify fun s => { s with tmp := len, i := 0 }
    loop .rounds (hexRound id) (len + 1)

/-- The number is written. -/
def writeNum (dev : Device) (junk : Nat → UInt8) (id : Nat) : Parsing Unit := do
  let s ← gets fun s => s
  modify fun s => { s with calls := s.calls ++ [id] }
  let ret ← call (vendorStorageWrite dev junk id (if IsText id then s.vendorNum else s.vendorHex))
  if ret ≠ none then exit .silent

/-- `vendor_storage_write_cmd_parse`. -/
def vendorStorageWriteCmdParse (dev : Device) (junk : Nat → UInt8) (str : CmdString) :
    Parsing Unit := do
  splitCmd str
  match ← gets findId with
  | none => exit .form
  | some i => do
    checkLength (i + 1)
    packHex (i + 1)
    writeNum dev junk (i + 1)

end VendorStorage

end Rk3399
