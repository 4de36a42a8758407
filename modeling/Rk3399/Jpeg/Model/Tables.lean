import Rk3399.Common.ByteOffsets
import Rk3399.Jpeg.Model.Registers
/-!
# The table memory

`JpegDecWriteTables`, `JpegDecWriteTablesNonInterleaved` and
`JpegDecWriteTablesProgressive` of `jpegdecinternal.c`, in the `DRM_LINUX`
build: `vir_addr` of an `MppBufferInfo` is a `void *` there, so that the two
writers that start a table at `&vir_addr[base]` count bytes. A write outside
the mapped table memory is the fault `Fault.table`.
-/

namespace Rk3399

namespace Jpeg

open Prog

variable {ρ : Type}

/-! ## The memory -/

/-- Word `w` lies in the mapped table memory. -/
def TableWord (w : Nat) (c : JpegDecContainer) : Prop :=
  c.frame.pTableBase.virAddr ≠ 0 ∧ 4 * w + 4 ≤ c.frame.pTableBase.size

instance (w : Nat) (c : JpegDecContainer) : Decidable (TableWord w c) :=
  inferInstanceAs (Decidable (_ ∧ _))

/-- `pTableBase[w] = value`. -/
def storeWord (w value : Nat) : Decoder ρ Unit := do
  assert (.table w) (TableWord w)
  modify fun c => { c with tableMem := Function.update c.tableMem w value }

/-- Words stored from word `w` on. -/
def storeWords : Nat → List Nat → Decoder ρ Unit
  | _, [] => return ()
  | w, value :: values => do
    storeWord w value
    storeWords (w + 1) values

/-- `DWLmemset(pTableBase, 0, 4 * words)`. -/
def clearTable (words : Nat) : Decoder ρ Unit := do
  assert (.table (words - 1)) (TableWord (words - 1))
  modify fun c => { c with tableMem := fun w => if w < words then 0 else c.tableMem w }

/-- The four bytes from `b` on lie in the mapped table memory. -/
def TableByte (b : Nat) (c : JpegDecContainer) : Prop :=
  c.frame.pTableBase.virAddr ≠ 0 ∧ b + 4 ≤ c.frame.pTableBase.size

instance (b : Nat) (c : JpegDecContainer) : Decidable (TableByte b c) :=
  inferInstanceAs (Decidable (_ ∧ _))

/-- `*pTableBase = value`, where `pTableBase` points to byte `b`. -/
def storeAt (b value : Nat) : Decoder ρ Unit := do
  assert (.table (b / 4)) (TableByte b)
  modify fun c => { c with tableMem := putAt b value c.tableMem }

/-- Words stored from byte `b` on. -/
def storesAt : Nat → List Nat → Decoder ρ Unit
  | _, [] => return ()
  | b, value :: values => do
    storeAt b value
    storesAt (b + 4) values

/-! ## Quantisation tables -/

/-- `zzOrder`. -/
def zzOrder : List Nat :=
  [0, 1, 8, 16, 9, 2, 3, 10, 17, 24, 32, 25, 18, 11, 4, 5,
   12, 19, 26, 33, 40, 48, 41, 34, 27, 20, 13, 6, 7, 14, 21, 28,
   35, 42, 49, 56, 57, 50, 43, 36, 29, 22, 15, 23, 30, 37, 44, 51,
   58, 59, 52, 45, 38, 31, 39, 46, 53, 60, 61, 54, 47, 55, 62, 63]

/-- The bytes of a table in raster order: `tableTmp[zzOrder[i]] = table[i]`. -/
def tableTmp (table : List Nat) : List Nat :=
  scatter (fun i => zzOrder.getD i 0) (fun i => table.getD i 0 % 256) (List.range 64)
    (List.replicate 64 0)

/-- The identifier of the table all three writers take for a selector. -/
def quantId (Tq : Nat) : Fin 4 := if Tq = 0 then 0 else 1

/-- The table of a selector. -/
def quantSelect (Tq : Nat) (q : QuantTables) : List Nat := q.get (quantId Tq)

/-- The words of one quantisation table. -/
def quantWords (c : JpegDecContainer) (k : Fin 3) : List Nat :=
  packWords (tableTmp (quantSelect (c.frame.component k).Tq c.quant))

/-- The quantisation tables of the components from `j` on, `n` of them, from
word `w` on. -/
def storeQuantTables : Nat → Nat → Nat → Decoder ρ Unit
  | 0, _, _ => return ()
  | n + 1, j, w => do
    let k ← subscript j
    let words ← gets fun c => quantWords c k
    storeWords w words
    storeQuantTables n (j + 1) (w + 16)

/-! ## Baseline -/

/-- The values of a table padded with zeros to `n` entries, as bytes. -/
def paddedValues (n : Nat) (t : VlcTable) (vals : List Nat) : List Nat :=
  (List.range n).map fun i => if i < t.tableLength then vals.getD i 0 % 256 else 0

/-- A table of `n` values through the packer. A table that was never installed
only counts its bytes. -/
def packTable (n : Nat) (t : VlcTable) (p : Packer) : Packer :=
  match t.vals with
  | some vals => p.puts (paddedValues n t vals)
  | none => p.skips n

/-- A zero table through the packer. -/
def packZeros (n : Nat) (p : Packer) : Packer := p.puts (List.replicate n 0)

/-- The four tables of a colour scan. -/
def packColour (c : JpegDecContainer) (p : Packer) : Packer :=
  let ac := acTables (c.scan.Ta 0) c.vlc
  let dc := dcTables (c.scan.Td 0) c.vlc
  packTable 12 dc.2 (packTable 12 dc.1 (packTable 162 ac.2 (packTable 162 ac.1 p)))

/-- The two tables of a scan of component `k` alone, each followed by a zero
table. -/
def packSingle (c : JpegDecContainer) (k : Fin 3) (p : Packer) : Packer :=
  let ac := acTables (c.scan.Ta k) c.vlc
  let dc := dcTables (c.scan.Td k) c.vlc
  packZeros 12 (packTable 12 dc.1 (packZeros 162 (packTable 162 ac.1 p)))

/-- The Huffman tables of the scan through the packer. -/
def packTables : Decoder ρ Packer := do
  if ← gets (fun c => decide (c.info.yCbCrMode ≠ JPEGDEC_YUV400)) then
    gets fun c => packColour c {}
  else if ← gets (fun c => decide (c.info.nonInterleavedScanReady = 0)) then
    gets fun c => packSingle c 0 {}
  else
    let k ← subscript (← gets (·.info.componentId))
    gets fun c => packSingle c k {}

/-- Write the tables of an interleaved scan. -/
def jpegDecWriteTables : Decoder ρ Unit := do
  let count ← gets (·.info.amountOfQTables)
  storeQuantTables count 0 0
  let packed ← packTables
  storeWords (16 * count) (packZeros 4 packed).words

/-! ## One word at a time -/

/-- The loops of the two other writers: `tableWord <<= 8`, then a value or-ed to
it while there is one, and every fourth time a word stored. -/
def shiftWords (vals : List Nat) (len : Nat) : Nat → Nat → Nat → List Nat → List Nat
  | 0, _, _, out => out
  | n + 1, j, tableWord, out =>
    let shifted := u32 (tableWord <<< 8)
    let word := if j < len then shifted ||| vals.getD j 0 else shifted
    shiftWords vals len n (j + 1) word (if j % 4 = 3 then out ++ [word] else out)

/-- The values of a table, `n` of them; `0` stands for the pointer of a table
that was never installed, which has the length zero. -/
def tableWords (n : Nat) (t : VlcTable) (tableWord : Nat) : List Nat :=
  shiftWords (t.vals.getD []) t.tableLength n 0 tableWord []

/-- The word left in `tableWord` after the values of a table. -/
def lastWord (vals : List Nat) (len : Nat) : Nat → Nat → Nat → Nat
  | 0, _, tableWord => tableWord
  | n + 1, j, tableWord =>
    let shifted := u32 (tableWord <<< 8)
    lastWord vals len n (j + 1) (if j < len then shifted ||| vals.getD j 0 else shifted)

/-- `tableWord` after the values of a table. -/
def wordAfter (n : Nat) (t : VlcTable) (tableWord : Nat) : Nat :=
  lastWord (t.vals.getD []) t.tableLength n 0 tableWord

/-- The last word of a quantisation table, which is what `tableWord` holds
after it. -/
def quantLast (c : JpegDecContainer) (k : Fin 3) : Nat := (quantWords c k).getLastD 0

/-- The words of an AC table and of its fill to the border: two more bytes,
both zero, and the word they complete. -/
def acWords (t : VlcTable) (tableWord : Nat) : List Nat :=
  tableWords 162 t tableWord ++ [u32 (wordAfter 162 t tableWord <<< 16)]

/-- Write the tables of a non-interleaved scan. -/
def jpegDecWriteTablesNonInterleaved : Decoder ρ Unit := do
  clearTable (JPEGDEC_BASELINE_TABLE_SIZE / 4)
  let k ← subscript (← gets (·.info.componentId))
  storeQuantTables 1 k 0
  let c ← gets id
  let ac := selectTable .ac (c.scan.Ta k) c.vlc
  let dc := selectTable .dc (c.scan.Td k) c.vlc
  storesAt (JPEGDEC_AC1_BASE - JPEGDEC_QP_BASE) (acWords ac (quantLast c k))
  let word := u32 (wordAfter 162 ac (quantLast c k) <<< 16)
  storesAt (JPEGDEC_DC1_BASE - JPEGDEC_QP_BASE) (tableWords 12 dc word)
  storeAt (JPEGDEC_DC1_BASE - JPEGDEC_QP_BASE + 4 * 3) 0

/-! ## Progressive -/

/-- The byte the tables of component `i` start at in a progressive scan of `count`
components. -/
def progressiveBase (dc : Bool) (count i : Nat) : Nat :=
  let qpTableBase := if count = 3 then 0 else JPEGDEC_QP_BASE
  if dc then
    if count = 3 then
      if i = 0 then JPEGDEC_DC1_BASE else if i = 1 then JPEGDEC_DC2_BASE else JPEGDEC_DC3_BASE
    else JPEGDEC_DC1_BASE - qpTableBase
  else JPEGDEC_AC1_BASE - qpTableBase

/-- The tables of the components from `i` on, `n` of them; `word` is
`tableWord`, and the value is the byte `pTableBase` points to after them. -/
def storeProgressive (count : Nat) : Nat → Nat → Nat → Nat → Decoder ρ Nat
  | 0, _, _, pos => return pos
  | n + 1, i, word, _ => do
    let k ← subscript i
    let c ← gets id
    let base := progressiveBase (c.scan.Ss = 0) count i
    if c.scan.Ss = 0 then
      let t := selectTable .dc (c.scan.Td k) c.vlc
      let words := tableWords 12 t word
      storesAt base words
      storeProgressive count n (i + 1) (wordAfter 12 t word) (base + 4 * words.length)
    else
      let t := selectTable .ac (c.scan.Ta k) c.vlc
      -- only component zero is filled to the border
      let words := if i = 0 then acWords t word else tableWords 162 t word
      let after := wordAfter 162 t word
      storesAt base words
      storeProgressive count n (i + 1) (if i = 0 then u32 (after <<< 16) else after)
        (base + 4 * words.length)

/-- Write the tables of a progressive scan. -/
def jpegDecWriteTablesProgressive : Decoder ρ Unit := do
  clearTable (JPEGDEC_PROGRESSIVE_TABLE_SIZE / 4)
  let single ← gets fun c => decide (c.info.nonInterleaved ≠ 0)
  let first ← gets fun c => if single then c.info.componentId else 0
  let count := if single then 1 else 3
  storeQuantTables count first 0
  if ← gets (fun c => decide (c.scan.Ah ≠ 0 ∧ c.scan.Ss = 0)) then
    return ()
  else
    let k ← subscript (first + count - 1)
    let word ← gets fun c => quantLast c k
    let pos ← storeProgressive count count first word (64 * count)
    storeAt pos 0

end Jpeg

end Rk3399
