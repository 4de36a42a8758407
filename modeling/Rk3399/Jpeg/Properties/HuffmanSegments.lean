import Rk3399.Common.LastWrite
import Rk3399.Jpeg.Helpers.Bytes
import Rk3399.Jpeg.Helpers.HuffmanRun
/-!
# DHT segments

`JpegDecDecodeHuffmanTables` takes four bytes of the segment for read when
only the two of the length are, and never asks where its last table ended.
A table that lies over the end of the segment takes its values from what
follows, one that lies over the end of the stream takes the error value of
the reader for counts and values, and the sum of such counts may be more
than an allocation can hold.
-/

namespace Rk3399

namespace Jpeg

open Prog StreamStorage

variable {mem : Nat → UInt8} {c : JpegDecContainer}

/-! ## The tables of a segment -/

/-- The definition of a table: its class and identifier in one byte, its counts and
its values. -/
structure HuffDef where
  id : Nat
  bits : List Nat
  vals : List Nat
  deriving DecidableEq, Repr

/-- The definition ahead. -/
def huffDef (mem : Nat → UInt8) (s : StreamStorage) : HuffDef where
  id := s.byteAt mem 0
  bits := s.bytesFrom mem 1 16
  vals := s.bytesFrom mem 17 (countSum (s.bytesFrom mem 1 16))

/-- The bytes of a definition. -/
def HuffDef.size (d : HuffDef) : Nat := 17 + countSum d.bits

/-- The bytes of definitions in a row. -/
def sizes (ds : List HuffDef) : Nat := (ds.map HuffDef.size).sum

/-- The class and identifier are refused for the coding type of the frame. -/
def HuffRefused (codingType id : Nat) : Prop :=
  tableClass (id / 16) = none ∨ (codingType = SOF0 ∧ 1 < id % 16) ∨
    (codingType = SOF2 ∧ 3 < id % 16) ∨ tableId (id % 16) = none

instance (codingType id : Nat) : Decidable (HuffRefused codingType id) :=
  inferInstanceAs (Decidable (_ ∨ _))

/-- Where the tables of a segment lead: to one that is refused, to one with more
values than an allocation holds, or to their end. -/
inductive HuffEnd where
  | refused
  | overflow
  | ended (ds : List HuffDef)
  deriving DecidableEq, Repr

/-- The same behind one more definition. -/
def HuffEnd.behind (d : HuffDef) : HuffEnd → HuffEnd
  | refused => refused
  | overflow => overflow
  | ended ds => ended (d :: ds)

/-- The tables ahead in a segment of length `Lh`, `len` bytes of which count as read;
at most `n` of them. -/
def huffTables (mem : Nat → UInt8) (codingType Lh : Nat) : Nat → Nat → StreamStorage → HuffEnd
  | 0, _, _ => .overflow
  | n + 1, len, s =>
    if len < Lh then
      if HuffRefused codingType (huffDef mem s).id then .refused
      else if 4 * countSum (huffDef mem s).bits < 2 ^ 32 then
        (huffTables mem codingType Lh n (len + (huffDef mem s).size)
          (s.read (huffDef mem s).size)).behind (huffDef mem s)
      else .overflow
    else .ended []

/-- A definition carried out. -/
def HuffmanTables.define (v : HuffmanTables) (d : HuffDef) : HuffmanTables :=
  match tableClass (d.id / 16), tableId (d.id % 16) with
  | some Tc, some Th => v.set ((v.get Tc Th).define d.bits d.vals) Tc Th
  | _, _ => v

/-! ## A round -/

/-- A round that refuses its table. -/
theorem huffmanTable_refused (h : c.stream.AtByte)
    (hid : HuffRefused c.frame.codingType (huffDef mem c.stream).id) (len : Nat) :
    ∃ c', huffmanTable mem len c = .exit .unsupported c' := by
  obtain ⟨tmp, htmp⟩ : ∃ tmp, tmp = c.stream.byteAt mem 0 := ⟨_, rfl⟩
  obtain ⟨s, hs⟩ : ∃ s, s = { c with stream := c.stream.read 1 } := ⟨_, rfl⟩
  have hbyte : (getByte mem : Decoder JpegDecRet Nat) c = .next tmp s := by
    rw [htmp, hs]
    exact getByte_eq h
  have hcoding : s.frame.codingType = c.frame.codingType := by rw [hs]
  change HuffRefused c.frame.codingType (c.stream.byteAt mem 0) at hid
  rw [← htmp, ← hcoding] at hid
  rw [huffmanTable, bind_next hbyte]
  cases hclass : tableClass (tmp / 16) with
  | none => exact ⟨s, rfl⟩
  | some Tc =>
    by_cases h0 : s.frame.codingType = SOF0 ∧ 1 < tmp % 16
    · have hexit : (exitIf .unsupported fun c => c.frame.codingType = SOF0 ∧ 1 < tmp % 16 :
          Decoder JpegDecRet Unit) s = .exit .unsupported s := if_pos h0
      exact ⟨s, bind_exit hexit⟩
    · have hnext0 : (exitIf .unsupported fun c => c.frame.codingType = SOF0 ∧ 1 < tmp % 16 :
          Decoder JpegDecRet Unit) s = .next () s := if_neg h0
      by_cases h2 : s.frame.codingType = SOF2 ∧ 3 < tmp % 16
      · have hexit : (exitIf .unsupported fun c => c.frame.codingType = SOF2 ∧ 3 < tmp % 16 :
            Decoder JpegDecRet Unit) s = .exit .unsupported s := if_pos h2
        exact ⟨s, (bind_next hnext0).trans (bind_exit hexit)⟩
      · have hnext2 : (exitIf .unsupported fun c => c.frame.codingType = SOF2 ∧ 3 < tmp % 16 :
            Decoder JpegDecRet Unit) s = .next () s := if_neg h2
        have hnone : tableId (tmp % 16) = none :=
          ((hid.resolve_left (by rw [hclass]; exact Option.some_ne_none _)).resolve_left
            h0).resolve_left h2
        refine ⟨s, (bind_next hnext0).trans ((bind_next hnext2).trans ?_)⟩
        rw [hnone]
        rfl

/-- The steps of a round up to the allocation. -/
theorem huffmanTable_counts (h : c.stream.AtByte)
    (hid : ¬ HuffRefused c.frame.codingType (huffDef mem c.stream).id) (len : Nat) :
    ∃ Tc Th, tableClass ((huffDef mem c.stream).id / 16) = some Tc ∧
      tableId ((huffDef mem c.stream).id % 16) = some Th ∧
      huffmanTable mem len c = (do
        assert (.heap (countSum (huffDef mem c.stream).bits)) fun _ =>
          4 * countSum (huffDef mem c.stream).bits < 2 ^ 32
        let vals ← onStream (getBytes mem (countSum (huffDef mem c.stream).bits))
        let table ← gets fun d => (d.vlc.get Tc Th).define (huffDef mem c.stream).bits vals
        modify fun d => { d with vlc := d.vlc.set table Tc Th }
        record (.dht Tc Th table)
        return len + 1 + 16 + countSum (huffDef mem c.stream).bits : Decoder JpegDecRet Nat)
          { c with stream := c.stream.read 17 } := by
  obtain ⟨tmp, htmp⟩ : ∃ tmp, tmp = c.stream.byteAt mem 0 := ⟨_, rfl⟩
  change ¬ HuffRefused c.frame.codingType (c.stream.byteAt mem 0) at hid
  change ∃ Tc Th, tableClass (c.stream.byteAt mem 0 / 16) = some Tc ∧
    tableId (c.stream.byteAt mem 0 % 16) = some Th ∧ _
  rw [← htmp] at hid ⊢
  simp only [HuffRefused, not_or] at hid
  obtain ⟨Tc, hTc⟩ := Option.ne_none_iff_exists'.mp hid.1
  obtain ⟨Th, hTh⟩ := Option.ne_none_iff_exists'.mp hid.2.2.2
  obtain ⟨s, hs⟩ : ∃ s, s = { c with stream := c.stream.read 1 } := ⟨_, rfl⟩
  have hbyte : (getByte mem : Decoder JpegDecRet Nat) c = .next tmp s := by
    rw [htmp, hs]
    exact getByte_eq h
  -- the two checks of the identifier let it pass
  have h0 : (exitIf .unsupported fun c => c.frame.codingType = SOF0 ∧ 1 < tmp % 16 :
      Decoder JpegDecRet Unit) s = .next () s := by
    rw [hs]
    exact if_neg hid.2.1
  have h2 : (exitIf .unsupported fun c => c.frame.codingType = SOF2 ∧ 3 < tmp % 16 :
      Decoder JpegDecRet Unit) s = .next () s := by
    rw [hs]
    exact if_neg hid.2.2.1
  have hbits : (onStream (getBytes mem 16) : Decoder JpegDecRet (List Nat)) s =
      .next (c.stream.bytesFrom mem 1 16) { c with stream := c.stream.read 17 } := by
    have hread := getBytes_eq (ρ := JpegDecRet) mem 16 (h.read 1)
    rw [bytesFrom_read, read_read] at hread
    rw [hs]
    exact onStream_eq hread
  refine ⟨Tc, Th, hTc, hTh, ?_⟩
  rw [huffmanTable, bind_next hbyte, hTc]
  dsimp only
  rw [bind_next h0, bind_next h2, hTh]
  dsimp only
  rw [bind_next hbits]
  rfl

/-- A round whose values do not fit an allocation. -/
theorem huffmanTable_overflow (h : c.stream.AtByte)
    (hid : ¬ HuffRefused c.frame.codingType (huffDef mem c.stream).id)
    (hcount : ¬ 4 * countSum (huffDef mem c.stream).bits < 2 ^ 32) (len : Nat) :
    ∃ e c', huffmanTable mem len c = .fault e c' := by
  obtain ⟨Tc, Th, -, -, hrun⟩ := huffmanTable_counts h hid len
  have hfault : (assert (.heap (countSum (huffDef mem c.stream).bits)) fun _ =>
      4 * countSum (huffDef mem c.stream).bits < 2 ^ 32 : Decoder JpegDecRet Unit)
      { c with stream := c.stream.read 17 } = .fault (.heap (countSum (huffDef mem c.stream).bits))
        { c with stream := c.stream.read 17 } := if_neg hcount
  exact ⟨_, _, hrun.trans (bind_fault hfault)⟩

/-- One round. -/
theorem huffmanTable_eq (h : c.stream.AtByte)
    (hid : ¬ HuffRefused c.frame.codingType (huffDef mem c.stream).id)
    (hcount : 4 * countSum (huffDef mem c.stream).bits < 2 ^ 32) (len : Nat) : ∃ log,
    huffmanTable mem len c = .next (len + (huffDef mem c.stream).size) { c with
      stream := c.stream.read (huffDef mem c.stream).size
      vlc := c.vlc.define (huffDef mem c.stream)
      log := log } := by
  obtain ⟨Tc, Th, hTc, hTh, hrun⟩ := huffmanTable_counts h hid len
  have hassert : (assert (.heap (countSum (huffDef mem c.stream).bits)) fun _ =>
      4 * countSum (huffDef mem c.stream).bits < 2 ^ 32 : Decoder JpegDecRet Unit)
      { c with stream := c.stream.read 17 } = .next () { c with stream := c.stream.read 17 } :=
    if_pos hcount
  have hvals : (onStream (getBytes mem (countSum (huffDef mem c.stream).bits)) :
      Decoder JpegDecRet (List Nat)) { c with stream := c.stream.read 17 } =
      .next (huffDef mem c.stream).vals { c with
        stream := c.stream.read (huffDef mem c.stream).size } := by
    have hread := getBytes_eq (ρ := JpegDecRet) mem
      (countSum (huffDef mem c.stream).bits) (h.read 17)
    rw [bytesFrom_read, read_read] at hread
    exact onStream_eq hread
  have hdefine : c.vlc.define (huffDef mem c.stream) = c.vlc.set
      ((c.vlc.get Tc Th).define (huffDef mem c.stream).bits (huffDef mem c.stream).vals) Tc Th := by
    rw [HuffmanTables.define, hTc, hTh]
  have hsize : len + (huffDef mem c.stream).size =
      len + 1 + 16 + countSum (huffDef mem c.stream).bits := by
    unfold HuffDef.size
    omega
  rw [hrun, bind_next hassert, bind_next hvals, hdefine, hsize]
  exact ⟨.dht Tc Th ((c.vlc.get Tc Th).define (huffDef mem c.stream).bits
    (huffDef mem c.stream).vals) :: c.log, rfl⟩

/-! ## The loop -/

/-- **The loop** leads where the tables ahead lead. -/
theorem huffmanTables_run (mem : Nat → UInt8) (Lh n : Nat) : ∀ (len : Nat)
    {c : JpegDecContainer}, c.stream.AtByte →
      match huffTables mem c.frame.codingType Lh n len c.stream with
      | .refused => ∃ c', huffmanTables mem Lh n len c = .exit .unsupported c'
      | .overflow => ∃ e c', huffmanTables mem Lh n len c = .fault e c'
      | .ended ds => ∃ log, huffmanTables mem Lh n len c = .next () { c with
          stream := c.stream.read (sizes ds)
          vlc := ds.foldl HuffmanTables.define c.vlc
          log := log } := by
  induction n with
  | zero => exact fun _ _ _ => ⟨_, _, rfl⟩
  | succ n ih =>
    intro len c h
    rw [huffTables, huffmanTables]
    by_cases hlen : len < Lh
    · rw [if_pos hlen, if_pos hlen]
      by_cases hid : HuffRefused c.frame.codingType (huffDef mem c.stream).id
      · rw [if_pos hid]
        obtain ⟨c', htable⟩ := huffmanTable_refused h hid len
        exact ⟨c', bind_exit htable⟩
      · rw [if_neg hid]
        by_cases hcount : 4 * countSum (huffDef mem c.stream).bits < 2 ^ 32
        · rw [if_pos hcount]
          obtain ⟨log, htable⟩ := huffmanTable_eq h hid hcount len
          have hrest := ih (len + (huffDef mem c.stream).size) (c := { c with
            stream := c.stream.read (huffDef mem c.stream).size
            vlc := c.vlc.define (huffDef mem c.stream)
            log := log }) (h.read _)
          dsimp only at hrest
          -- how the rest ends is how the run ends
          cases htables : huffTables mem c.frame.codingType Lh n
              (len + (huffDef mem c.stream).size) (c.stream.read (huffDef mem c.stream).size) with
          | refused =>
            rw [htables] at hrest
            obtain ⟨c', hloop⟩ := hrest
            exact ⟨c', (bind_next htable).trans hloop⟩
          | overflow =>
            rw [htables] at hrest
            obtain ⟨e, c', hloop⟩ := hrest
            exact ⟨e, c', (bind_next htable).trans hloop⟩
          | ended ds =>
            rw [htables] at hrest
            obtain ⟨log', hloop⟩ := hrest
            refine ⟨log', (bind_next htable).trans (hloop.trans ?_)⟩
            rw [read_read, sizes, sizes, List.map_cons, List.sum_cons, List.foldl_cons]
        · rw [if_neg hcount]
          obtain ⟨e, c', htable⟩ := huffmanTable_overflow h hid hcount len
          exact ⟨e, c', bind_fault htable⟩
    · rw [if_neg hlen, if_neg hlen]
      refine ⟨c.log, ?_⟩
      rw [show sizes [] = 0 from rfl, read_zero]
      rfl

/-! ## The tables that are left -/

/-- `start` is the first index of a count that is not zero, `last` the one behind the
last such index. -/
structure Delimits (bits : List Nat) (start last : Nat) : Prop where
  inside : ∀ i, bits.getD i 0 ≠ 0 → start ≤ i ∧ i < last
  tight : (∃ i, bits.getD i 0 ≠ 0) → bits.getD start 0 ≠ 0 ∧ 0 < last ∧ bits.getD (last - 1) 0 ≠ 0

theorem getD_ne_zero {bits : List Nat} {i : Nat} (h : bits.getD i 0 ≠ 0) :
    ∃ hi : i < bits.length, bits[i] ≠ 0 := by
  have hi : i < bits.length := by
    by_contra hout
    rw [List.getD_eq_default _ _ (Nat.le_of_not_lt hout)] at h
    exact h rfl
  rw [List.getD_eq_getElem _ _ hi] at h
  exact ⟨hi, h⟩

theorem firstLength_spec {bits : List Nat} {i : Nat} (h : bits.getD i 0 ≠ 0) :
    ∃ a, firstLength bits = some a ∧ bits.getD a 0 ≠ 0 ∧ a ≤ i := by
  obtain ⟨hi, hne⟩ := getD_ne_zero h
  cases hfirst : firstLength bits with
  | none =>
    have hzero := List.findIdx?_eq_none_iff.mp hfirst bits[i] (List.getElem_mem hi)
    exact absurd hzero (by simpa using hne)
  | some a =>
    obtain ⟨ha, hpa, hbefore⟩ := List.findIdx?_eq_some_iff_getElem.mp hfirst
    refine ⟨a, rfl, ?_, ?_⟩
    · rw [List.getD_eq_getElem _ _ ha]
      simpa using hpa
    · by_contra hlt
      exact hbefore i (by omega) (by simpa using hne)

theorem lastLength_spec {bits : List Nat} {i : Nat} (h : bits.getD i 0 ≠ 0) :
    ∃ b, lastLength bits = some b ∧ 0 < b ∧ bits.getD (b - 1) 0 ≠ 0 ∧ i < b := by
  obtain ⟨hi, hne⟩ := getD_ne_zero h
  unfold lastLength
  cases hlast : bits.reverse.findIdx? (· ≠ 0) with
  | none =>
    have hzero := List.findIdx?_eq_none_iff.mp hlast bits[i]
      (List.mem_reverse.mpr (List.getElem_mem hi))
    exact absurd hzero (by simpa using hne)
  | some a =>
    obtain ⟨ha, hpa, hbefore⟩ := List.findIdx?_eq_some_iff_getElem.mp hlast
    have hlen := ha
    rw [List.length_reverse] at hlen
    have hpa' : bits[bits.length - 1 - a] ≠ 0 := by
      rw [List.getElem_reverse] at hpa
      simpa using hpa
    refine ⟨bits.length - a, rfl, by omega, ?_, ?_⟩
    · rw [Nat.sub_right_comm, List.getD_eq_getElem _ _ (by omega)]
      exact hpa'
    · -- an index from there on would have been found before
      by_contra hle
      refine hbefore (bits.length - 1 - i) (by omega) ?_
      have hin : bits.length - 1 - i < bits.reverse.length := by
        rw [List.length_reverse]
        omega
      have hsame : bits.reverse[bits.length - 1 - i] = bits[i] := by
        rw [List.getElem_reverse]
        congr 1
        omega
      rw [hsame]
      simpa using hne

theorem delimits_define (t : VlcTable) (bits vals : List Nat) :
    Delimits bits (t.define bits vals).start (t.define bits vals).last := by
  refine ⟨fun i hi => ?_, fun ⟨i, hi⟩ => ?_⟩
  · obtain ⟨a, ha, -, hle⟩ := firstLength_spec hi
    obtain ⟨b, hb, -, -, hlt⟩ := lastLength_spec hi
    rw [VlcTable.define, ha, hb]
    exact ⟨hle, hlt⟩
  · obtain ⟨a, ha, hfirst, -⟩ := firstLength_spec hi
    obtain ⟨b, hb, hpos, hlast, -⟩ := lastLength_spec hi
    rw [VlcTable.define, ha, hb]
    exact ⟨hfirst, hpos, hlast⟩

/-- The counts that do not wrap around add up. -/
theorem countSum_eq {bits : List Nat} (h : bits.sum < 2 ^ 32) : countSum bits = bits.sum := by
  have hfold : ∀ (bits : List Nat) (a : Nat), a + bits.sum < 2 ^ 32 →
      bits.foldl (fun tmp b => u32 (tmp + b)) a = a + bits.sum := by
    intro bits
    induction bits with
    | nil => exact fun a _ => rfl
    | cons b bits ih =>
      intro a ha
      rw [List.sum_cons] at ha ⊢
      rw [List.foldl_cons, u32_of_lt (by omega), ih _ (by omega)]
      omega
  rw [countSum, hfold bits 0 (by omega), Nat.zero_add]

theorem sum_le_of_bytes {bits : List Nat} (h : ∀ b ∈ bits, b < 256) :
    bits.sum ≤ 256 * bits.length := by
  induction bits with
  | nil => exact Nat.le_refl 0
  | cons b bits ih =>
    have hb := h b List.mem_cons_self
    have hrest := ih fun b' hb' => h b' (List.mem_cons_of_mem b hb')
    rw [List.sum_cons, List.length_cons]
    omega

/-- A table holds a definition. -/
structure Holds (d : HuffDef) (t : VlcTable) : Prop where
  bits : t.bits = d.bits
  vals : t.vals = some d.vals
  allocated : t.tableLength = d.vals.length
  total : t.tableLength = d.bits.sum
  delimited : Delimits d.bits t.start t.last

/-- What an instance with the tables `v` holds for a class and an identifier. -/
def HuffmanTables.named (v : HuffmanTables) (id : Nat) : VlcTable :=
  match tableClass (id / 16), tableId (id % 16) with
  | some Tc, some Th => v.get Tc Th
  | _, _ => {}

/-- The byte that names a class and an identifier. -/
def tableName : TableClass → Fin 4 → Nat
  | .dc, Th => Th.val
  | .ac, Th => 16 + Th.val

theorem HuffmanTables.named_tableName (v : HuffmanTables) (Tc : TableClass) (Th : Fin 4) :
    v.named (tableName Tc Th) = v.get Tc Th := by
  cases Tc <;> fin_cases Th <;> rfl

theorem tableClass_inj {m n : Nat} {Tc : TableClass} (hm : tableClass m = some Tc)
    (hn : tableClass n = some Tc) : m = n := by
  have hvalue : ∀ {n : Nat}, tableClass n = some Tc → n = if Tc = .dc then 0 else 1 := by
    intro n h
    match n with
    | 0 => cases h; rfl
    | 1 => cases h; rfl
    | n + 2 => cases h
  exact (hvalue hm).trans (hvalue hn).symm

theorem tableId_inj {m n : Nat} {Th : Fin 4} (hm : tableId m = some Th)
    (hn : tableId n = some Th) : m = n := by
  have hvalue : ∀ {n : Nat}, tableId n = some Th → n = Th.val := by
    intro n h
    unfold tableId at h
    split at h
    · cases h
      rfl
    · cases h
  exact (hvalue hm).trans (hvalue hn).symm

theorem HuffmanTables.named_define_self (v : HuffmanTables) (d : HuffDef) {Tc : TableClass}
    {Th : Fin 4} (hTc : tableClass (d.id / 16) = some Tc) (hTh : tableId (d.id % 16) = some Th) :
    (v.define d).named d.id = (v.get Tc Th).define d.bits d.vals := by
  rw [HuffmanTables.define, HuffmanTables.named, hTc, hTh]
  dsimp only
  rw [HuffmanTables.get_set, if_pos ⟨rfl, rfl⟩]

theorem HuffmanTables.named_define_of_ne (v : HuffmanTables) (d : HuffDef) (id : Nat)
    (h : d.id ≠ id) : (v.define d).named id = v.named id := by
  unfold HuffmanTables.named
  cases hTc : tableClass (id / 16) with
  | none => rfl
  | some Tc =>
    cases hTh : tableId (id % 16) with
    | none => rfl
    | some Th =>
      dsimp only
      unfold HuffmanTables.define
      split
      · rename_i Tc' Th' hTc' hTh'
        rw [HuffmanTables.get_set, if_neg]
        rintro ⟨rfl, rfl⟩
        refine h ?_
        have hclass := tableClass_inj hTc' hTc
        have hid := tableId_inj hTh' hTh
        omega
      · rfl

/-! ## The segment -/

/-- Where the tables of the segment ahead lead. -/
def segmentTables (mem : Nat → UInt8) (c : JpegDecContainer) : HuffEnd :=
  huffTables mem c.frame.codingType (segmentLength mem c) (segmentLength mem c + 1) 4
    c.stream.readPair

/-- **What the segment says** is stored: its tables are all there and end where it does,
they are passed, and each class and identifier holds its last definition. -/
structure HuffStored (mem : Nat → UInt8) (ds : List HuffDef) (c c' : JpegDecContainer) :
    Prop where
  tables : segmentTables mem c = .ended ds
  length : segmentLength mem c = 2 + sizes ds
  present : 2 + sizes ds ≤ c.stream.left
  passed : c'.stream = c.stream.skip (2 + sizes ds)
  bytes : ∀ d ∈ ds, d.bits.length = 16 ∧ (∀ b ∈ d.bits, b < 256) ∧ ∀ b ∈ d.vals, b < 256
  named : ∀ Tc Th d, IsLast HuffDef.id ds (tableName Tc Th) d → Holds d (c'.vlc.get Tc Th)
  others : ∀ Tc Th, (∀ d ∈ ds, d.id ≠ tableName Tc Th) → c'.vlc.get Tc Th = c.vlc.get Tc Th

/-- The tables of the segment end where it does, or it is refused: it is cut, or one of
its tables is refused before any has more values than an allocation holds. -/
def HuffExact (mem : Nat → UInt8) (c : JpegDecContainer) : Prop :=
  SegmentCut mem c ∨ segmentTables mem c = .refused ∨
    ∃ ds, segmentTables mem c = .ended ds ∧ segmentLength mem c = 2 + sizes ds

/-- A segment that passes the check leads where its tables lead. -/
theorem jpegDecDecodeHuffmanTables_run (h : c.stream.AtByte) (hcut : ¬ SegmentCut mem c) :
    match segmentTables mem c with
      | .refused => ∃ c', jpegDecDecodeHuffmanTables mem c = .exit .unsupported c'
      | .overflow => ∃ e c', jpegDecDecodeHuffmanTables mem c = .fault e c'
      | .ended ds => ∃ log, jpegDecDecodeHuffmanTables mem c = .next () { c with
          stream := c.stream.readPair.read (sizes ds)
          vlc := ds.foldl HuffmanTables.define { c.vlc with Lh := segmentLength mem c }
          log := log } := by
  obtain ⟨s, hs⟩ : ∃ s, s = { c with
    stream := c.stream.readPair, vlc.Lh := segmentLength mem c } := ⟨_, rfl⟩
  have hlength : (modify fun d => { d with vlc.Lh := segmentLength mem c } :
      Decoder JpegDecRet Unit) { c with stream := c.stream.readPair } = .next () s := by
    rw [hs]
    rfl
  have hshort : (exitIf .strmError (SegmentShort (segmentLength mem c)) :
      Decoder JpegDecRet Unit) s = .next () s := by
    rw [hs]
    exact if_neg hcut
  have hat : s.stream.AtByte := by
    rw [hs]
    exact h.readPair
  -- the function is its loop, from the state behind the length
  have hrun : jpegDecDecodeHuffmanTables mem c =
      huffmanTables mem (segmentLength mem c) (segmentLength mem c + 1) 4 s := by
    rw [jpegDecDecodeHuffmanTables, bind_next (get2Bytes_eq h)]
    exact (bind_next hlength).trans (bind_next hshort)
  have hloop := huffmanTables_run mem (segmentLength mem c) (segmentLength mem c + 1) 4 hat
  have htables : huffTables mem s.frame.codingType (segmentLength mem c)
      (segmentLength mem c + 1) 4 s.stream = segmentTables mem c := by
    rw [hs]
    rfl
  rw [htables] at hloop
  rw [hrun]
  cases hend : segmentTables mem c with
  | refused =>
    rw [hend] at hloop
    exact hloop
  | overflow =>
    rw [hend] at hloop
    exact hloop
  | ended ds =>
    rw [hend] at hloop
    obtain ⟨log, hloop⟩ := hloop
    refine ⟨log, hloop.trans ?_⟩
    rw [hs]

/-- A segment that is cut. -/
theorem jpegDecDecodeHuffmanTables_cut (h : c.stream.AtByte) (hcut : SegmentCut mem c) :
    ∃ c', jpegDecDecodeHuffmanTables mem c = .exit .strmError c' := by
  obtain ⟨s, hs⟩ : ∃ s, s = { c with
    stream := c.stream.readPair, vlc.Lh := segmentLength mem c } := ⟨_, rfl⟩
  have hlength : (modify fun d => { d with vlc.Lh := segmentLength mem c } :
      Decoder JpegDecRet Unit) { c with stream := c.stream.readPair } = .next () s := by
    rw [hs]
    rfl
  have hshort : (exitIf .strmError (SegmentShort (segmentLength mem c)) :
      Decoder JpegDecRet Unit) s = .exit .strmError s := by
    rw [hs]
    exact if_pos hcut
  rw [jpegDecDecodeHuffmanTables, bind_next (get2Bytes_eq h)]
  exact ⟨s, (bind_next hlength).trans (bind_exit hshort)⟩

/-- The tables a segment leads through: each is accepted, and read as it lies there. -/
theorem huffTables_ended {codingType Lh : Nat} (n : Nat) : ∀ {len : Nat} {s : StreamStorage}
    {ds : List HuffDef}, huffTables mem codingType Lh n len s = .ended ds →
      ∀ d ∈ ds, ¬ HuffRefused codingType d.id ∧ d.bits.length = 16 ∧
        d.vals.length = countSum d.bits ∧
        (sizes ds ≤ s.left → (∀ b ∈ d.bits, b < 256) ∧ ∀ b ∈ d.vals, b < 256) := by
  induction n with
  | zero =>
    intro len s ds h
    cases h
  | succ n ih =>
    intro len s ds h
    rw [huffTables] at h
    split at h
    · split at h
      · cases h
      · rename_i hid
        split at h
        · cases hrest : huffTables mem codingType Lh n (len + (huffDef mem s).size)
              (s.read (huffDef mem s).size) with
          | refused => rw [hrest] at h; cases h
          | overflow => rw [hrest] at h; cases h
          | ended ds' =>
            rw [hrest] at h
            cases h
            have hsize : sizes (huffDef mem s :: ds') = (huffDef mem s).size + sizes ds' := by
              rw [sizes, List.map_cons, List.sum_cons, sizes]
            intro d hd
            rcases List.mem_cons.mp hd with rfl | hd
            · -- the first table lies in the stream, since all of them do
              refine ⟨hid, length_bytesFrom 1 16, length_bytesFrom 17 _, fun hle => ?_⟩
              have hbound : (huffDef mem s).size = 17 + countSum (s.bytesFrom mem 1 16) := rfl
              exact ⟨bytesFrom_lt (by omega), bytesFrom_lt (by omega)⟩
            · obtain ⟨hok, hbits, hvals, hbytes⟩ := ih hrest d hd
              refine ⟨hok, hbits, hvals, fun hle => hbytes ?_⟩
              rw [left_read]
              omega
        · cases h
    · cases h
      intro d hd
      cases hd

/-- Without a length no table is accepted: at most its first byte is there, and all its
counts are the error value. -/
theorem segmentTables_missing (hleft : ¬ 2 ≤ c.stream.left) (ds : List HuffDef) :
    segmentTables mem c ≠ .ended ds := by
  obtain ⟨L, hL⟩ : ∃ L, L = segmentLength mem c := ⟨_, rfl⟩
  have hlen : 4 < L := by
    rw [hL, segmentLength, pairAt, if_neg hleft]
    decide
  have hread : c.stream.readPair = c.stream := if_neg hleft
  have hbits : (huffDef mem c.stream).bits = (List.range 16).map fun _ => strmErrorWord := by
    refine List.map_congr_left fun j _ => ?_
    rw [byteAt, if_neg (by omega)]
  have hcount : ¬ 4 * countSum (huffDef mem c.stream).bits < 2 ^ 32 := by
    rw [hbits]
    decide
  rw [segmentTables, ← hL, hread, huffTables, if_pos hlen]
  by_cases hid : HuffRefused c.frame.codingType (huffDef mem c.stream).id
  · rw [if_pos hid]
    exact HuffEnd.noConfusion
  · rw [if_neg hid, if_neg hcount]
    exact HuffEnd.noConfusion

/-- A segment whose tables end where it does is stored. -/
theorem huffStored_of_exact (h : c.stream.AtByte) (hcut : ¬ SegmentCut mem c) {ds : List HuffDef}
    (hds : segmentTables mem c = .ended ds) (hlength : segmentLength mem c = 2 + sizes ds)
    {c' : JpegDecContainer} (hrun : jpegDecDecodeHuffmanTables mem c = .next () c') :
    HuffStored mem ds c c' := by
  have hpair : 2 ≤ c.stream.left := by
    by_contra hleft
    exact segmentTables_missing hleft ds hds
  have hleft := length_le_left h hpair hcut
  have hread : c.stream.readPair = c.stream.read 2 := if_pos hpair
  have hloop := jpegDecDecodeHuffmanTables_run h hcut
  rw [hds] at hloop
  obtain ⟨log, heq⟩ := hloop
  rw [hrun, hread] at heq
  cases heq
  have hall := huffTables_ended _ hds
  have hbytes : ∀ d ∈ ds, d.bits.length = 16 ∧ (∀ b ∈ d.bits, b < 256) ∧ ∀ b ∈ d.vals, b < 256 := by
    intro d hd
    obtain ⟨-, hbits, -, hbytes⟩ := hall d hd
    exact ⟨hbits, hbytes (by rw [hread, left_read]; omega)⟩
  refine ⟨hds, hlength, by omega, ?_, hbytes, ?_, ?_⟩
  · show (c.stream.read 2).read (sizes ds) = _
    rw [read_read, StreamStorage.read, Nat.min_eq_left (by omega)]
  · intro Tc Th d hlast
    obtain ⟨hok, hbits, hvals, -⟩ := hall d hlast.mem
    simp only [HuffRefused, not_or] at hok
    obtain ⟨Tc', hTc'⟩ := Option.ne_none_iff_exists'.mp hok.1
    obtain ⟨Th', hTh'⟩ := Option.ne_none_iff_exists'.mp hok.2.2.2
    -- the counts are bytes, so their sum does not wrap around
    have hsum : countSum d.bits = d.bits.sum := by
      have hle := sum_le_of_bytes (hbytes d hlast.mem).2.1
      rw [hbits] at hle
      exact countSum_eq (by omega)
    have hself : ∀ v : HuffmanTables, Holds d ((v.define d).named d.id) := by
      intro v
      rw [v.named_define_self d hTc' hTh']
      exact ⟨rfl, rfl, rfl, hvals.trans hsum, delimits_define _ _ _⟩
    have hkey := get_foldl_of_isLast HuffmanTables.named (Holds d) hlast hself
      HuffmanTables.named_define_of_ne { c.vlc with Lh := segmentLength mem c }
    rw [HuffmanTables.named_tableName] at hkey
    exact hkey
  · intro Tc Th hnone
    have hvalues := get_foldl_of_unnamed HuffmanTables.named
      HuffmanTables.named_define_of_ne hnone (s := { c.vlc with Lh := segmentLength mem c })
    rw [HuffmanTables.named_tableName, HuffmanTables.named_tableName,
      HuffmanTables.get_length] at hvalues
    exact hvalues

/-- **When the parser stores what the segment says.** It writes no value beyond an
allocation and stores every segment it accepts if and only if it refuses the segment
or the tables end where the segment does. -/
theorem huffStored_iff (h : c.stream.AtByte) :
    ((∀ e c', jpegDecDecodeHuffmanTables mem c ≠ .fault e c') ∧
      ∀ c', jpegDecDecodeHuffmanTables mem c = .next () c' → ∃ ds, HuffStored mem ds c c') ↔
      HuffExact mem c := by
  by_cases hcut : SegmentCut mem c
  · obtain ⟨c1, hrun⟩ := jpegDecDecodeHuffmanTables_cut h hcut
    refine ⟨fun _ => Or.inl hcut, fun _ => ⟨fun e c' hfault => ?_, fun c' hnext => ?_⟩⟩
    · rw [hrun] at hfault
      cases hfault
    · rw [hrun] at hnext
      cases hnext
  · have hrun := jpegDecDecodeHuffmanTables_run h hcut
    -- the ends of the loop in turn: only one of them stores tables
    cases hend : segmentTables mem c with
    | refused =>
      rw [hend] at hrun
      obtain ⟨c1, hrun⟩ := hrun
      refine ⟨fun _ => Or.inr (Or.inl hend), fun _ => ⟨fun e c' hfault => ?_, fun c' hnext => ?_⟩⟩
      · rw [hrun] at hfault
        cases hfault
      · rw [hrun] at hnext
        cases hnext
    | overflow =>
      rw [hend] at hrun
      obtain ⟨e, c1, hrun⟩ := hrun
      refine ⟨fun hall => absurd hrun (hall.1 e c1), fun hexact => ?_⟩
      rcases hexact.resolve_left hcut with hno | ⟨ds, hno, -⟩
      · rw [hend] at hno
        cases hno
      · rw [hend] at hno
        cases hno
    | ended ds =>
      rw [hend] at hrun
      obtain ⟨log, hrun⟩ := hrun
      constructor
      · intro hall
        obtain ⟨ds', hstored⟩ := hall.2 _ hrun
        exact Or.inr (Or.inr ⟨ds', hstored.tables, hstored.length⟩)
      · intro hexact
        obtain ⟨ds', hds', hlength⟩ := (hexact.resolve_left hcut).resolve_left fun hno => by
          rw [hend] at hno
          cases hno
        refine ⟨fun e c' hfault => ?_, fun c' hnext =>
          ⟨ds', huffStored_of_exact h hcut hds' hlength hnext⟩⟩
        rw [hrun] at hfault
        cases hfault

/-! ## Two segments -/

/-- The bytes of a segment with a table for the AC coefficients, of three values. -/
def acSegmentBytes : List UInt8 := [0, 22, 0x11, 0, 2, 1] ++ List.replicate 13 0 ++ [5, 6, 7]

def acSegment (a : Nat) : UInt8 := acSegmentBytes.getD a 0

/-- It is accepted, and its table is stored. -/
theorem huffStored_iff_acSegment :
    ∃ c' ds, jpegDecDecodeHuffmanTables acSegment (atStart 24) = .next () c' ∧
      HuffStored acSegment ds (atStart 24) c' := by
  have hexact : HuffExact acSegment (atStart 24) :=
    Or.inr (Or.inr ⟨[⟨0x11, [0, 2, 1] ++ List.replicate 13 0, [5, 6, 7]⟩], by decide +kernel,
      by decide⟩)
  obtain ⟨c', hnext⟩ : ∃ c', jpegDecDecodeHuffmanTables acSegment (atStart 24) = .next () c' :=
    ⟨_, Outcome.IsNext.eq (by decide +kernel)⟩
  obtain ⟨ds, hstored⟩ := ((huffStored_iff (atByte_atStart (by decide))).mpr hexact).2 c' hnext
  exact ⟨c', ds, hnext, hstored⟩

/-- **A segment that ends inside its counts** is accepted, with counts from behind it. -/
theorem not_huffStored : (atStart 32).stream.AtByte ∧
    ¬ ((∀ e c', jpegDecDecodeHuffmanTables (zeroSegment 12) (atStart 32) ≠ .fault e c') ∧
      ∀ c', jpegDecDecodeHuffmanTables (zeroSegment 12) (atStart 32) = .next () c' →
        ∃ ds, HuffStored (zeroSegment 12) ds (atStart 32) c') := by
  have hat : (atStart 32).stream.AtByte := atByte_atStart (by decide)
  have hcut : ¬ SegmentCut (zeroSegment 12) (atStart 32) := by decide
  have hend : segmentTables (zeroSegment 12) (atStart 32) =
      .ended [⟨0, List.replicate 16 0, []⟩] := by decide +kernel
  refine ⟨hat, fun hall => ?_⟩
  have hrun := jpegDecDecodeHuffmanTables_run hat hcut
  rw [hend] at hrun
  obtain ⟨log, hrun⟩ := hrun
  obtain ⟨ds, hstored⟩ := hall.2 _ hrun
  have hds := hstored.tables
  rw [hend] at hds
  cases hds
  exact absurd hstored.length (by decide)

end Jpeg

end Rk3399
