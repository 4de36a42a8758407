import Rk3399.Common.Program
/-!
# Captured frames

What `rtw_simple_config` does with a frame from the monitor interface:
`get_rtheader_len`, `get_rtheader_rate` and `ProcessPacket`. The buffer is the
array `buf[BUF_SIZ]`; pointers into it are offsets. A pointer that was not
assigned is `none`, and reading it is a fault of the model, as is an index
outside `rate_array`. The offsets the rate and the MCS fields are read at are
kept.
-/

namespace Rk3399

namespace SimpleConfig

open Prog

inductive CaptureFault where
  | uninitialised
  | rateArray
  deriving DecidableEq, Repr

/-- The members of `struct rx_frinfo`. -/
structure RxFrinfo where
  pktlen : Nat := 0
  da : Option Nat := none
  sa : Option Nat := none
  pframe : Nat := 0
  toFrDs : UInt8 := 0
  seq : Nat := 0
  rxRate : UInt8 := 0
  deriving DecidableEq, Repr

/-- The frame information, the offsets a rate or an MCS field was read at, and what
`rtk_sc_start_parse_bcpacket` is called with. -/
structure Capture where
  frinfo : RxFrinfo := {}
  reads : List Nat := []
  parsed : Option RxFrinfo := none
  deriving DecidableEq, Repr

/-- Programs that may leave with `return`. -/
abbrev Receiver (α : Type) := Prog CaptureFault Unit Capture α

def EILSEQ : Int := 84

section

variable (buf : Nat → UInt8)

/-- `le16toh` of the two bytes at an offset. -/
def le16 (i : Nat) : Nat := (buf i).toNat + 2 ^ 8 * (buf (i + 1)).toNat

/-- `le32toh` of the four bytes at an offset. -/
def le32 (i : Nat) : Nat := le16 buf i + 2 ^ 16 * le16 buf (i + 2)

/-! ## The radiotap header -/

def itVersion : UInt8 := buf 0

def itLen : Nat := le16 buf 2

def itPresent : Nat := le32 buf 4

/-- `sizeof(struct ieee80211_radiotap_header)`. -/
def sizeofRadiotapHeader : Nat := 8

/-- `get_rtheader_len`. -/
def getRtheaderLen (len : Nat) : Int :=
  if len < sizeofRadiotapHeader then -EILSEQ
  else if itVersion buf ≠ 0 then -EILSEQ
  else if len < itLen buf then -EILSEQ
  else itLen buf

/-- A byte of a field. -/
def fieldByte (i : Nat) : Receiver UInt8 := do
  modify fun s => { s with reads := s.reads ++ [i] }
  pure (buf i)

/-- `cal_cckrate`. -/
def calCckrate (offset : Nat) : Receiver Nat := do
  let rate ← fieldByte buf offset
  pure (rate.toNat / 2)

/-- `rate_array`, in tenths. -/
def rateArray : List (List (List Nat)) :=
  [[[65, 72], [135, 150]], [[130, 144], [270, 300]], [[195, 217], [405, 450]],
    [[260, 289], [540, 600]], [[390, 433], [810, 900]], [[520, 578], [1080, 1200]],
    [[585, 650], [1215, 1350]], [[650, 722], [1350, 1500]], [[130, 144], [270, 300]],
    [[260, 289], [540, 600]], [[390, 433], [810, 900]], [[520, 578], [1080, 1200]],
    [[780, 867], [1620, 1800]], [[1040, 1156], [2160, 2400]], [[1170, 1300], [2430, 2700]],
    [[1300, 1444], [2700, 3000]], [[195, 217], [405, 450]], [[390, 433], [810, 900]],
    [[585, 650], [1215, 1350]], [[780, 867], [1620, 1800]], [[1170, 1300], [2430, 2700]],
    [[1560, 1733], [3240, 3600]], [[1755, 1950], [3645, 4050]], [[1950, 2167], [4050, 4500]],
    [[260, 288], [540, 600]], [[520, 576], [1080, 1200]], [[780, 868], [1620, 1800]],
    [[1040, 1156], [2160, 2400]], [[1560, 1732], [3240, 3600]], [[2080, 2312], [4320, 4800]],
    [[2340, 2600], [4860, 5400]], [[2600, 2888], [5400, 6000]]]

/-- `rate_array[mcs][bw][gi]`, as an `int`. -/
def rateAt (mcs bw gi : Nat) : Receiver Nat := do
  assert .rateArray fun _ => mcs < 32 ∧ bw < 2 ∧ gi < 2
  pure ((((rateArray.getD mcs []).getD bw []).getD gi 0) / 10)

/-- `bw`, `mcs` and `gi` of `cal_mcsrate`, which are zero where they are not known. -/
def mcsBw (known flag : UInt8) : UInt8 := if known &&& 0x01 ≠ 0 then flag &&& 0x03 else 0

def mcsIndex (known : UInt8) (offset : Nat) : Receiver UInt8 :=
  if known &&& 0x02 ≠ 0 then fieldByte buf (offset + 2) else pure 0

def mcsGi (known flag : UInt8) : UInt8 := if known &&& 0x04 ≠ 0 then flag &&& 0x04 else 0

/-- `cal_mcsrate`. -/
def calMcsrate (offset : Nat) : Receiver Nat := do
  let known ← fieldByte buf offset
  let flag ← fieldByte buf (offset + 1)
  let mcs ← mcsIndex buf known offset
  rateAt mcs.toNat (mcsBw known flag).toNat (mcsGi known flag).toNat

def calVhtrate : Receiver Nat := pure 600

/-- The bit of a field in `it_present`. -/
def present (bit : Nat) : Bool := (itPresent buf).testBit bit

/-- A size, where a field is present. -/
def ifPresent (bit size : Nat) : Nat := if present buf bit then size else 0

/-- `rt_header_rate_pos` at the rate. -/
def ratePos : Nat := 8 + ifPresent buf 1 1

/-- `rt_header_rate_pos` at the MCS field. -/
def mcsPos : Nat :=
  ratePos buf + 1 + ifPresent buf 3 2 + 2 + ifPresent buf 5 1 + ifPresent buf 11 1 +
    ifPresent buf 14 2

/-- `get_rtheader_rate`. -/
def getRtheaderRate : Receiver Nat :=
  if present buf 2 then calCckrate buf (ratePos buf)
  else if present buf 19 then calMcsrate buf (mcsPos buf)
  else if present buf 21 then calVhtrate
  else pure 1

/-! ## The frame -/

/-- `GetAddr1Ptr`, `GetAddr2Ptr` and `GetAddr3Ptr`. -/
def addr1 (pframe : Nat) : Nat := pframe + 4
def addr2 (pframe : Nat) : Nat := pframe + 10
def addr3 (pframe : Nat) : Nat := pframe + 16

/-- `GetSequence`. -/
def getSequence (pframe : Nat) : Nat := le16 buf (pframe + 22) >>> 4

/-- The type and the subtype of a frame, `TYPE_DATA` being 8. -/
def frameType (pframe : Nat) : UInt8 := buf pframe &&& 0x0C
def frameSubtype (pframe : Nat) : UInt8 := (buf pframe &&& 0xF0) >>> 4

/-- The ToDS and FromDS bits. -/
def frameDs (pframe : Nat) : UInt8 := buf (pframe + 1) &&& 0x03

/-- `DEST_MAC0`, `DEST_MAC1` and `DEST_MAC2` at an address. -/
def IsMulticast (da : Nat) : Prop := buf da = 0x01 ∧ buf (da + 1) = 0x00 ∧ buf (da + 2) = 0x5e

/-- `bc_mac` at an address. -/
def IsBroadcast (da : Nat) : Prop := ∀ i < 6, buf (da + i) = 0xFF

instance (da : Nat) : Decidable (IsMulticast buf da) := inferInstanceAs (Decidable (_ ∧ _))

instance (da : Nat) : Decidable (IsBroadcast buf da) := inferInstanceAs (Decidable (∀ i < 6, _))

/-- The two addresses, for the two values of the DS bits that are looked for. -/
def assignAddresses (pframe : Nat) : Receiver Unit :=
  modify fun s =>
    if s.frinfo.toFrDs = 1 then
      { s with frinfo := { s.frinfo with sa := some (addr2 pframe), da := some (addr3 pframe) } }
    else if s.frinfo.toFrDs = 2 then
      { s with frinfo := { s.frinfo with sa := some (addr3 pframe), da := some (addr1 pframe) } }
    else s

/-- The branch for a broadcast frame; the rate is cut to the eight bits of its member. -/
def parseBroadcast (pframe : Nat) : Receiver Unit := do
  let rate ← getRtheaderRate buf
  modify fun s => { s with frinfo := { s.frinfo with rxRate := UInt8.ofNat rate } }
  modify fun s => { s with frinfo := { s.frinfo with seq := getSequence buf pframe } }
  modify fun s =>
    if frameSubtype buf pframe &&& 0x08 = 0 then
      { s with frinfo := { s.frinfo with pktlen := s.frinfo.pktlen + 2 } }
    else s
  modify fun s => { s with parsed := some s.frinfo }

/-- `ProcessPacket`. -/
def processPacket (size rtHeaderLen : Nat) : Receiver Unit := do
  modify fun s =>
    { s with frinfo := { s.frinfo with pframe := rtHeaderLen, pktlen := size - rtHeaderLen } }
  exitIf () fun s => frameType buf rtHeaderLen ≠ 0x08 ∨ s.frinfo.pktlen < 50
  modify fun s => { s with frinfo := { s.frinfo with toFrDs := frameDs buf rtHeaderLen } }
  assignAddresses rtHeaderLen
  -- `if ((!frinfo.da) || (!frinfo.sa))` reads both pointers; one that was assigned is not null
  assert .uninitialised fun s => s.frinfo.da.isSome ∧ s.frinfo.sa.isSome
  let s ← gets id
  let da := s.frinfo.da.getD 0
  if IsMulticast buf da then pure ()
  else if IsBroadcast buf da then parseBroadcast buf rtHeaderLen
  else pure ()

/-- `doRecvfrom` for a frame of `len` bytes, with `CONFIG_NOFCS` or without. -/
def receive (nofcs : Bool) (len : Nat) : Receiver Unit :=
  if getRtheaderLen buf len < 1 then pure ()
  else processPacket buf (if nofcs then len + 4 else len) (getRtheaderLen buf len).toNat

end

end SimpleConfig

end Rk3399
