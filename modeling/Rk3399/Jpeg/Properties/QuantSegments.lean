import Mathlib.Data.Fintype.Basic
import Mathlib.Tactic.FinCases
import Rk3399.Common.LastWrite
import Rk3399.Jpeg.Helpers.Bytes
import Rk3399.Jpeg.Model.Headers
/-!
# DQT segments

`JpegDecDecodeQuantTables` takes four bytes of the segment for read when
only the two of the length are, and never asks where its last table ended.
It stores exactly what the segment says where the segment consists of whole
tables, and where it refuses the segment for another reason; every other
length it accepts, and stops short of its end or reads on behind it.
-/

namespace Rk3399

namespace Jpeg

open Prog StreamStorage

variable {mem : Nat → UInt8} {c : JpegDecContainer}

/-! ## The tables of a segment -/

/-- The definition of the table `i` tables ahead: its identifier byte and its
values. -/
def quantDef (mem : Nat → UInt8) (s : StreamStorage) (i : Nat) : Nat × List Nat :=
  (s.byteAt mem (65 * i), s.bytesFrom mem (65 * i + 1) 64)

/-- The `k` definitions ahead. -/
def quantDefs (mem : Nat → UInt8) (s : StreamStorage) (k : Nat) : List (Nat × List Nat) :=
  (List.range k).map (quantDef mem s)

/-- A definition carried out. -/
def QuantTables.define (q : QuantTables) (d : Nat × List Nat) : QuantTables :=
  match tableId d.1 with
  | some Tq => q.set d.2 Tq
  | none => q

theorem QuantTables.get_set (q : QuantTables) (t : List Nat) (id Tq : Fin 4) :
    (q.set t Tq).get id = if id = Tq then t else q.get id := by
  fin_cases Tq <;> fin_cases id <;> rfl

theorem QuantTables.get_length (q : QuantTables) (L : Nat) (id : Fin 4) :
    ({ q with Lq := L } : QuantTables).get id = q.get id := by
  fin_cases id <;> rfl

/-- The table of an identifier byte. -/
def QuantTables.named (q : QuantTables) (n : Nat) : List Nat := (tableId n).elim [] q.get

theorem QuantTables.named_val (q : QuantTables) (id : Fin 4) : q.named id.val = q.get id := by
  rw [QuantTables.named, tableId, dif_pos id.isLt]
  rfl

theorem QuantTables.named_define_self (q : QuantTables) (d : Nat × List Nat) (hd : d.1 < 4) :
    (q.define d).named d.1 = d.2 := by
  have hid : tableId d.1 = some ⟨d.1, hd⟩ := dif_pos hd
  rw [QuantTables.define, QuantTables.named, hid]
  exact (q.get_set d.2 _ _).trans (if_pos rfl)

theorem QuantTables.named_define_of_ne (q : QuantTables) (d : Nat × List Nat) (n : Nat)
    (h : d.1 ≠ n) : (q.define d).named n = q.named n := by
  unfold QuantTables.define QuantTables.named tableId
  by_cases hd : d.1 < 4
  · rw [dif_pos hd]
    by_cases hn : n < 4
    · rw [dif_pos hn]
      exact (q.get_set d.2 _ _).trans (if_neg fun heq => h (congrArg Fin.val heq).symm)
    · rw [dif_neg hn]
      rfl
  · rw [dif_neg hd]

/-- The tables from byte `t` of a segment of length `Lq` on, as the loop counts. -/
def quantRounds (Lq t : Nat) : Nat := (Lq - t + 64) / 65

theorem quantRounds_succ {Lq t : Nat} (h : t < Lq) :
    quantRounds Lq t = quantRounds Lq (t + 65) + 1 := by
  unfold quantRounds
  omega

theorem quantDefs_succ (s : StreamStorage) (k : Nat) :
    quantDefs mem s (k + 1) = quantDef mem s 0 :: quantDefs mem (s.read 65) k := by
  rw [quantDefs, List.range_succ_eq_map, List.map_cons, List.map_map, quantDefs]
  refine congrArg _ (List.map_congr_left fun i _ => ?_)
  simp only [quantDef, Function.comp_apply, byteAt_read, bytesFrom_read]
  rw [show 65 * i.succ = 65 + 65 * i by omega, Nat.add_assoc]

/-! ## The loop -/

/-- One round. -/
theorem quantTable_eq (h : c.stream.AtByte) (hid : c.stream.byteAt mem 0 < 4) (t : Nat) : ∃ log,
    quantTable mem t c = .next (t + 65) { c with
      stream := c.stream.read 65
      quant := c.quant.define (quantDef mem c.stream 0)
      log := log } := by
  have hhigh : ¬ c.stream.byteAt mem 0 / 16 ≠ 0 := by omega
  have hlow : c.stream.byteAt mem 0 % 16 = c.stream.byteAt mem 0 := by omega
  obtain ⟨Tq, hTq⟩ : ∃ Tq, tableId (c.stream.byteAt mem 0) = some Tq :=
    ⟨⟨_, hid⟩, dif_pos hid⟩
  have hexit : (exitIf .unsupported fun _ => c.stream.byteAt mem 0 / 16 ≠ 0 :
      Decoder JpegDecRet Unit) { c with stream := c.stream.read 1 } =
      .next () { c with stream := c.stream.read 1 } := if_neg hhigh
  have hbytes : (onStream (getBytes mem 64) : Decoder JpegDecRet (List Nat))
      { c with stream := c.stream.read 1 } =
      .next (c.stream.bytesFrom mem 1 64) { c with stream := c.stream.read 65 } := by
    have hread := getBytes_eq (ρ := JpegDecRet) mem 64 (h.read 1)
    rw [bytesFrom_read, read_read] at hread
    exact onStream_eq hread
  rw [quantTable, bind_next (getByte_eq h), bind_next hexit, hlow, hTq]
  refine ⟨.dqt Tq :: c.log, (bind_next hbytes).trans ?_⟩
  unfold QuantTables.define quantDef
  rw [Nat.mul_zero, hTq]
  rfl

/-- A round that refuses its table. -/
theorem quantTable_refused (h : c.stream.AtByte) (hid : 4 ≤ c.stream.byteAt mem 0) (t : Nat) :
    ∃ c', quantTable mem t c = .exit .unsupported c' := by
  by_cases hhigh : c.stream.byteAt mem 0 / 16 ≠ 0
  · have hexit : (exitIf .unsupported fun _ => c.stream.byteAt mem 0 / 16 ≠ 0 :
        Decoder JpegDecRet Unit) { c with stream := c.stream.read 1 } =
        .exit .unsupported { c with stream := c.stream.read 1 } := if_pos hhigh
    rw [quantTable, bind_next (getByte_eq h)]
    exact ⟨_, bind_exit hexit⟩
  · have hexit : (exitIf .unsupported fun _ => c.stream.byteAt mem 0 / 16 ≠ 0 :
        Decoder JpegDecRet Unit) { c with stream := c.stream.read 1 } =
        .next () { c with stream := c.stream.read 1 } := if_neg hhigh
    have hnone : tableId (c.stream.byteAt mem 0 % 16) = none := dif_neg (by omega)
    rw [quantTable, bind_next (getByte_eq h), bind_next hexit, hnone]
    exact ⟨_, rfl⟩

/-- **The loop** carries out the definitions ahead where none is refused. -/
theorem quantTables_eq (mem : Nat → UInt8) (Lq n : Nat) : ∀ {t : Nat} {c : JpegDecContainer},
    c.stream.AtByte → Lq < t + n → 0 < n →
    (∀ i, t + 65 * i < Lq → c.stream.byteAt mem (65 * i) < 4) → ∃ log,
      quantTables mem Lq n t c = .next () { c with
        stream := c.stream.read (65 * quantRounds Lq t)
        quant := (quantDefs mem c.stream (quantRounds Lq t)).foldl QuantTables.define c.quant
        log := log } := by
  induction n with
  | zero => exact fun _ _ h => absurd h (Nat.lt_irrefl 0)
  | succ n ih =>
    intro t c h hn _ hids
    by_cases ht : t < Lq
    · obtain ⟨log, htable⟩ := quantTable_eq h (hids 0 (by omega)) t
      have hrest : ∀ i, t + 65 + 65 * i < Lq →
          (c.stream.read 65).byteAt mem (65 * i) < 4 := by
        intro i hi
        rw [byteAt_read, ← Nat.mul_add 65 1 i]
        exact hids (1 + i) (by omega)
      obtain ⟨log', hloop⟩ := ih (t := t + 65) (c := { c with
        stream := c.stream.read 65
        quant := c.quant.define (quantDef mem c.stream 0)
        log := log }) (h.read 65) (by omega) (by omega) hrest
      rw [quantTables, if_pos ht, bind_next htable, hloop, quantRounds_succ ht, quantDefs_succ,
        read_read, List.foldl_cons, Nat.mul_succ, Nat.add_comm 65]
      exact ⟨log', rfl⟩
    · have hnone : quantRounds Lq t = 0 := by
        unfold quantRounds
        omega
      rw [quantTables, if_neg ht, hnone, Nat.mul_zero, read_zero]
      exact ⟨c.log, rfl⟩

/-- The loop stops at a table that is refused. -/
theorem quantTables_refused (mem : Nat → UInt8) (Lq n : Nat) : ∀ {t : Nat} {c : JpegDecContainer},
    c.stream.AtByte → Lq < t + n →
    (∃ i, t + 65 * i < Lq ∧ 4 ≤ c.stream.byteAt mem (65 * i)) →
    ∃ c', quantTables mem Lq n t c = .exit .unsupported c' := by
  induction n with
  | zero =>
    rintro t c - hn ⟨i, hi, -⟩
    omega
  | succ n ih =>
    rintro t c h hn ⟨i, hi, hid⟩
    have ht : t < Lq := by omega
    rw [quantTables, if_pos ht]
    by_cases h0 : c.stream.byteAt mem 0 < 4
    · obtain ⟨log, htable⟩ := quantTable_eq h h0 t
      have hi0 : i ≠ 0 := by
        rintro rfl
        exact absurd h0 (Nat.not_lt.mpr hid)
      obtain ⟨j, rfl⟩ : ∃ j, i = 1 + j := ⟨i - 1, by omega⟩
      have hid' : 4 ≤ (c.stream.read 65).byteAt mem (65 * j) := by
        rw [byteAt_read, ← Nat.mul_add 65 1 j]
        exact hid
      rw [bind_next htable]
      exact ih (h.read 65) (by omega) ⟨j, by omega, hid'⟩
    · obtain ⟨c', hexit⟩ := quantTable_refused h (Nat.le_of_not_lt h0) t
      exact ⟨c', bind_exit hexit⟩

/-! ## The segment -/

/-- A segment that passes the check and none of whose tables is refused. -/
theorem jpegDecDecodeQuantTables_eq (h : c.stream.AtByte) (hcut : ¬ SegmentCut mem c)
    (hids : ∀ i, 4 + 65 * i < segmentLength mem c → c.stream.readPair.byteAt mem (65 * i) < 4) :
    ∃ log, jpegDecDecodeQuantTables mem c = .next () { c with
      stream := c.stream.readPair.read (65 * quantRounds (segmentLength mem c) 4)
      quant := (quantDefs mem c.stream.readPair (quantRounds (segmentLength mem c) 4)).foldl
        QuantTables.define { c.quant with Lq := segmentLength mem c }
      log := log } := by
  obtain ⟨s, hs⟩ : ∃ s, s = { c with
    stream := c.stream.readPair, quant.Lq := segmentLength mem c } := ⟨_, rfl⟩
  have hlength : (modify fun d => { d with quant.Lq := segmentLength mem c } :
      Decoder JpegDecRet Unit) { c with stream := c.stream.readPair } = .next () s := by
    rw [hs]
    rfl
  have hshort : (exitIf .strmError (SegmentShort (segmentLength mem c)) :
      Decoder JpegDecRet Unit) s = .next () s := by
    rw [hs]
    exact if_neg hcut
  have hat : s.stream.AtByte := by
    rw [hs]
    exact h.readPair
  obtain ⟨log, hloop⟩ := quantTables_eq mem (segmentLength mem c)
    (segmentLength mem c + 1) (t := 4) hat (by omega) (by omega) (by rw [hs]; exact hids)
  refine ⟨log, ?_⟩
  rw [jpegDecDecodeQuantTables, bind_next (get2Bytes_eq h)]
  refine (bind_next hlength).trans ((bind_next hshort).trans (hloop.trans ?_))
  rw [hs]

/-- A segment that is refused. -/
theorem jpegDecDecodeQuantTables_refused (h : c.stream.AtByte)
    (hrefused : SegmentCut mem c ∨ ∃ i, 4 + 65 * i < segmentLength mem c ∧
      4 ≤ c.stream.readPair.byteAt mem (65 * i)) :
    ∃ r c', jpegDecDecodeQuantTables mem c = .exit r c' := by
  obtain ⟨s, hs⟩ : ∃ s, s = { c with
    stream := c.stream.readPair, quant.Lq := segmentLength mem c } := ⟨_, rfl⟩
  have hlength : (modify fun d => { d with quant.Lq := segmentLength mem c } :
      Decoder JpegDecRet Unit) { c with stream := c.stream.readPair } = .next () s := by
    rw [hs]
    rfl
  have hat : s.stream.AtByte := by
    rw [hs]
    exact h.readPair
  rw [jpegDecDecodeQuantTables, bind_next (get2Bytes_eq h)]
  by_cases hcut : SegmentCut mem c
  · have hshort : (exitIf .strmError (SegmentShort (segmentLength mem c)) :
        Decoder JpegDecRet Unit) s = .exit .strmError s := by
      rw [hs]
      exact if_pos hcut
    exact ⟨_, _, (bind_next hlength).trans (bind_exit hshort)⟩
  · have hshort : (exitIf .strmError (SegmentShort (segmentLength mem c)) :
        Decoder JpegDecRet Unit) s = .next () s := by
      rw [hs]
      exact if_neg hcut
    obtain ⟨i, hi, hid⟩ := hrefused.resolve_left hcut
    obtain ⟨c', hloop⟩ := quantTables_refused mem (segmentLength mem c)
      (segmentLength mem c + 1) (t := 4) hat (by omega) ⟨i, hi, by rw [hs]; exact hid⟩
    exact ⟨_, c', (bind_next hlength).trans ((bind_next hshort).trans hloop)⟩

/-! ## Exactness -/

/-- **What the segment says** is stored: it consists of `k` whole tables that are all
there, they are passed, and each identifier holds the values of its last definition. -/
structure QuantStored (mem : Nat → UInt8) (k : Nat) (c c' : JpegDecContainer) : Prop where
  length : segmentLength mem c = 2 + 65 * k
  present : 2 + 65 * k ≤ c.stream.left
  passed : c'.stream = c.stream.skip (2 + 65 * k)
  ids : ∀ d ∈ quantDefs mem (c.stream.read 2) k, d.1 < 4 ∧ ∀ b ∈ d.2, b < 256
  named : ∀ (id : Fin 4) d, IsLast Prod.fst (quantDefs mem (c.stream.read 2) k) id.val d →
    c'.quant.get id = d.2
  others : ∀ id : Fin 4, (∀ d ∈ quantDefs mem (c.stream.read 2) k, d.1 ≠ id) →
    c'.quant.get id = c.quant.get id

/-- The segment consists of whole tables, or it is refused: it is cut, or the byte
before a table the loop comes to is no identifier of one with 8-bit values. -/
def QuantExact (mem : Nat → UInt8) (c : JpegDecContainer) : Prop :=
  SegmentCut mem c ∨
    (∃ i, 4 + 65 * i < segmentLength mem c ∧ 4 ≤ c.stream.readPair.byteAt mem (65 * i)) ∨
    ∃ k, segmentLength mem c = 2 + 65 * k

/-- A segment of whole tables that is not refused is stored. -/
theorem quantStored_of_length (h : c.stream.AtByte) (hcut : ¬ SegmentCut mem c)
    (hids : ∀ i, 4 + 65 * i < segmentLength mem c → c.stream.readPair.byteAt mem (65 * i) < 4)
    {k : Nat} (hk : segmentLength mem c = 2 + 65 * k) {c' : JpegDecContainer}
    (hrun : jpegDecDecodeQuantTables mem c = .next () c') : QuantStored mem k c c' := by
  have hrounds : quantRounds (segmentLength mem c) 4 = k := by
    rw [hk]
    unfold quantRounds
    omega
  -- at the end of the stream the length is the error value, and the second table is missing
  have hpair : 2 ≤ c.stream.left := by
    by_contra hleft
    have hlength : segmentLength mem c = strmErrorWord := by
      rw [segmentLength, pairAt, if_neg hleft]
    have hsecond := hids 1 (by rw [hlength]; decide)
    have hin := lt_left_of_byteAt (Nat.lt_trans hsecond (by decide))
    rw [StreamStorage.readPair, if_neg hleft] at hin
    omega
  have hleft := length_le_left h hpair hcut
  rw [hk] at hleft
  have hread : c.stream.readPair = c.stream.read 2 := if_pos hpair
  obtain ⟨log, heq⟩ := jpegDecDecodeQuantTables_eq h hcut hids
  rw [hrun, hrounds, hread] at heq
  cases heq
  have hids' : ∀ d ∈ quantDefs mem (c.stream.read 2) k, d.1 < 4 ∧ ∀ b ∈ d.2, b < 256 := by
    intro d hd
    obtain ⟨i, hi, rfl⟩ := List.mem_map.mp hd
    have hlt := List.mem_range.mp hi
    refine ⟨?_, bytesFrom_lt ?_⟩
    · have hid := hids i (by omega)
      rw [hread] at hid
      exact hid
    · rw [left_read]
      omega
  refine ⟨hk, by omega, ?_, hids', ?_, ?_⟩
  · show (c.stream.read 2).read (65 * k) = _
    rw [read_read, StreamStorage.read, Nat.min_eq_left (by omega)]
  · intro id d hlast
    have hself : ∀ q : QuantTables, (q.define d).named d.1 = d.2 := fun q =>
      q.named_define_self d (hids' d hlast.mem).1
    have hvalues := get_foldl_of_isLast QuantTables.named (fun v => v = d.2) hlast
      hself QuantTables.named_define_of_ne { c.quant with Lq := segmentLength mem c }
    rw [QuantTables.named_val] at hvalues
    exact hvalues
  · intro id hnone
    have hvalues := get_foldl_of_unnamed QuantTables.named
      QuantTables.named_define_of_ne hnone (s := { c.quant with Lq := segmentLength mem c })
    rw [QuantTables.named_val, QuantTables.named_val] at hvalues
    exact hvalues.trans (QuantTables.get_length c.quant _ id)

/-- **When the parser stores what the segment says.** It does so for every segment it
accepts if and only if it refuses the segment or the segment consists of whole tables. -/
theorem quantStored_iff (h : c.stream.AtByte) :
    (∀ c', jpegDecDecodeQuantTables mem c = .next () c' → ∃ k, QuantStored mem k c c') ↔
      QuantExact mem c := by
  by_cases hrefused : SegmentCut mem c ∨ ∃ i, 4 + 65 * i < segmentLength mem c ∧
      4 ≤ c.stream.readPair.byteAt mem (65 * i)
  · obtain ⟨r, c1, hrun⟩ := jpegDecDecodeQuantTables_refused h hrefused
    have hexact : QuantExact mem c := by
      rcases hrefused with hcut | hid
      · exact Or.inl hcut
      · exact Or.inr (Or.inl hid)
    refine ⟨fun _ => hexact, fun _ c' hc' => ?_⟩
    rw [hrun] at hc'
    cases hc'
  · have hcut : ¬ SegmentCut mem c := fun hcut => hrefused (Or.inl hcut)
    have hids : ∀ i, 4 + 65 * i < segmentLength mem c →
        c.stream.readPair.byteAt mem (65 * i) < 4 := fun i hi =>
      Nat.lt_of_not_le fun hid => hrefused (Or.inr ⟨i, hi, hid⟩)
    constructor
    · intro hall
      obtain ⟨log, hrun⟩ := jpegDecDecodeQuantTables_eq h hcut hids
      obtain ⟨k, hstored⟩ := hall _ hrun
      exact Or.inr (Or.inr ⟨k, hstored.length⟩)
    · intro hexact c' hrun
      obtain ⟨k, hk⟩ := (hexact.resolve_left hcut).resolve_left fun ⟨i, hi, hid⟩ =>
        absurd (hids i hi) (Nat.not_lt.mpr hid)
      exact ⟨k, quantStored_of_length h hcut hids hk hrun⟩

/-! ## A length that is accepted -/

theorem quantStored_iff_whole :
    (∀ c', jpegDecDecodeQuantTables (zeroSegment 67) (atStart 69) = .next () c' →
      ∃ k, QuantStored (zeroSegment 67) k (atStart 69) c') ↔
      QuantExact (zeroSegment 67) (atStart 69) :=
  quantStored_iff (atByte_atStart (by decide))

/-- **A segment with two bytes behind its table** is accepted, and left with these two
ahead. -/
theorem not_quantStored : (atStart 71).stream.AtByte ∧
    ¬ ∀ c', jpegDecDecodeQuantTables (zeroSegment 69) (atStart 71) = .next () c' →
      ∃ k, QuantStored (zeroSegment 69) k (atStart 71) c' := by
  refine ⟨atByte_atStart (by decide), fun hall => ?_⟩
  have hlength : segmentLength (zeroSegment 69) (atStart 71) = 69 := by decide
  have hcut : ¬ SegmentCut (zeroSegment 69) (atStart 71) := by decide
  have hids : ∀ i, 4 + 65 * i < segmentLength (zeroSegment 69) (atStart 71) →
      (atStart 71).stream.readPair.byteAt (zeroSegment 69) (65 * i) < 4 := by
    intro i hi
    rw [hlength] at hi
    have hi0 : i = 0 := by omega
    rw [hi0]
    decide
  obtain ⟨log, hrun⟩ := jpegDecDecodeQuantTables_eq (atByte_atStart (by decide)) hcut hids
  obtain ⟨k, hstored⟩ := hall _ hrun
  have hk := hstored.length
  omega

end Jpeg

end Rk3399
