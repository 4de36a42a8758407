import Rk3399.Jpeg.Properties.ProgressiveStarts
/-!
# Empty scans

What `JpegDecInitHWEmptyScan` writes are the bits of runs that add up to
the blocks of the component. It writes them as they are: a byte of eight
ones, which a reader of entropy-coded data takes for the start of a marker
where no zero byte is stuffed behind it, ends the runs before their end.
It gets there only where the address of the registers is taken for their
handle and `tmpStrm` is mapped.
-/

namespace Rk3399

namespace Jpeg

open Prog StrmWriter

/-! ## Reading a scan -/

/-- Entropy-coded bytes without the stuffed zeros: the data ends at a marker. -/
def destuff : List Nat → List Nat
  | [] => []
  | b :: bytes =>
    if b = 0xFF then
      match bytes with
      | 0 :: bytes => 0xFF :: destuff bytes
      | _ => []
    else b :: destuff bytes

/-- The runs of blocks that are at their end, in codes of one bit: `category` is the
number of bits behind a code, which count from a power of two on. At most `n` runs. -/
def eobRuns (category : Bool → Nat) : Nat → List Bool → List Nat
  | 0, _ => []
  | _ + 1, [] => []
  | n + 1, code :: bits =>
    if bits.length < category code then []
    else (2 ^ category code + bitsValue (bits.take (category code))) ::
      eobRuns category n (bits.drop (category code))

/-- The category a word of the table memory gives a code of one bit: its values lie at
the top. -/
def eobCategory (codes : Nat) (code : Bool) : Nat := wordByte codes (if code then 1 else 0) / 16

/-! ## Numbers of bits -/

theorem numBitsRounds_spec (fuel : Nat) : ∀ value : Nat, value < 2 ^ fuel → value ≠ 0 →
    0 < numBitsRounds fuel value ∧ numBitsRounds fuel value ≤ fuel ∧
      2 ^ (numBitsRounds fuel value - 1) ≤ value ∧ value < 2 ^ numBitsRounds fuel value := by
  induction fuel with
  | zero =>
    intro value hlt hne
    rw [Nat.pow_zero] at hlt
    omega
  | succ fuel ih =>
    intro value hlt hne
    rw [numBitsRounds, if_pos hne, Nat.shiftRight_eq_div_pow, Nat.pow_one]
    -- the last round is the one of the value 1
    by_cases hhalf : value / 2 = 0
    · have hzero : numBitsRounds fuel (value / 2) = 0 := by
        rw [hhalf]
        cases fuel with
        | zero => rfl
        | succ fuel => rfl
      rw [hzero]
      exact ⟨by omega, by omega, by simpa using Nat.one_le_iff_ne_zero.mpr hne, by simp; omega⟩
    · obtain ⟨hpos, hle, hlow, hhigh⟩ := ih (value / 2) (by rw [Nat.pow_succ] at hlt; omega) hhalf
      obtain ⟨m, hm⟩ : ∃ m, numBitsRounds fuel (value / 2) = m + 1 :=
        ⟨_, (Nat.succ_pred_eq_of_pos hpos).symm⟩
      rw [hm] at hle hlow hhigh ⊢
      rw [Nat.add_sub_cancel] at hlow
      rw [Nat.add_sub_cancel]
      refine ⟨by omega, by omega, ?_, ?_⟩
      · rw [Nat.pow_succ]
        omega
      · rw [Nat.pow_succ]
        omega

/-- **The bits of a number**: it lies between two powers of two. -/
theorem numBits_spec {value : Nat} (hlt : value < 2 ^ 15) (hne : value ≠ 0) :
    0 < numBits value ∧ numBits value ≤ 15 ∧ 2 ^ (numBits value - 1) ≤ value ∧
      value < 2 ^ numBits value := by
  obtain ⟨hpos, -, hlow, hhigh⟩ := numBitsRounds_spec 32 value (Nat.lt_trans hlt (by decide)) hne
  have hbits : numBits value = numBitsRounds 32 value := by
    unfold numBits
    exact if_neg (by omega)
  rw [hbits]
  refine ⟨hpos, ?_, hlow, hhigh⟩
  by_contra hgt
  have hpow : 2 ^ 15 ≤ 2 ^ (numBitsRounds 32 value - 1) :=
    Nat.pow_le_pow_right (by decide) (by omega)
  omega

theorem splitRuns_spec (fuel : Nat) : ∀ numBlocks numMax : Nat, numBlocks ≤ 32767 * fuel →
    1 ≤ numBlocks → 1 ≤ (splitRuns fuel numBlocks numMax).1 ∧
      (splitRuns fuel numBlocks numMax).1 ≤ 32767 ∧ numMax ≤ (splitRuns fuel numBlocks numMax).2 ∧
      (splitRuns fuel numBlocks numMax).1 + 32767 * (splitRuns fuel numBlocks numMax).2 =
        numBlocks + 32767 * numMax := by
  induction fuel with
  | zero =>
    intro numBlocks numMax hle hpos
    omega
  | succ fuel ih =>
    intro numBlocks numMax hle hpos
    rw [splitRuns]
    by_cases hgt : 32767 < numBlocks
    · rw [if_pos hgt]
      obtain ⟨hone, hmax, hcount, hsum⟩ := ih (numBlocks - 32767) (numMax + 1) (by omega)
        (by omega)
      exact ⟨hone, hmax, by omega, by omega⟩
    · rw [if_neg hgt]
      exact ⟨hpos, by omega, Nat.le_refl _, rfl⟩

/-! ## Writing the codes -/

/-- The writer stands behind the bits. -/
structure BehindBits (w : StrmWriter) (bits : List Bool) : Prop where
  pStrm : w.pStrm = bits.length / 8
  bitPos : w.bitPos = bits.length % 8
  written : Written w.mem (bits.length / 8 + if bits.length % 8 ≠ 0 then 1 else 0) bits

variable {w : StrmWriter} {bits : List Bool}

/-- The code of a run of 32767 blocks. -/
def maxCode : List Bool := false :: List.replicate 14 true

theorem wordBits_maxRun : wordBits maxRun 15 = maxCode := by decide

theorem wordBit_maxRun : ∀ i, 15 ≤ i → wordBit maxRun i = false := by
  have hlow : ∀ j < 17, maxRun.testBit j = false := by decide
  intro i hi
  rw [wordBit]
  by_cases hlt : i < 32
  · rw [hlow (31 - i) (by omega), Bool.and_false]
  · rw [decide_eq_false hlt, Bool.false_and]

/-- A code of which the writer keeps `m` bytes behind the one it starts in. -/
theorem BehindBits.code {w' : StrmWriter} {word k m : Nat} (h : BehindBits w bits)
    (hword : word < 2 ^ 32) (hk : ∀ i, k ≤ i → wordBit word i = false)
    (hroom : w.bitPos + k ≤ 8 * (1 + m)) (hbefore : ∀ q < w.pStrm, w'.mem q = w.mem q)
    (hfirst : w'.mem w.pStrm =
      ((if w.bitPos ≠ 0 then w.mem w.pStrm else 0) ||| word >>> (24 + w.bitPos)) % 2 ^ 8)
    (hrest : ∀ i < m, w'.mem (w.pStrm + 1 + i) =
      u32 (word <<< (8 - w.bitPos + 8 * i)) >>> 24 % 2 ^ 8) :
    Written w'.mem (w.pStrm + 1 + m) (bits ++ wordBits word k) := by
  rw [h.pStrm] at hbefore hfirst hrest ⊢
  rw [h.bitPos] at hroom hfirst hrest
  exact h.written.code hword hk hroom hbefore hfirst hrest

/-- The writer that has kept the code of 32767 blocks stands behind it. -/
theorem BehindBits.behind_maxCode {w' : StrmWriter} {m : Nat} (h : BehindBits w bits)
    (hcode : Written w'.mem (w.pStrm + 1 + m) (bits ++ wordBits maxRun 15))
    (hend : w'.pStrm = w.pStrm + m) (hpos : w'.bitPos = (w.bitPos + 15) % 8)
    (hlow : 8 * m ≤ w.bitPos + 15) (hhigh : w.bitPos + 15 < 8 * (m + 1)) :
    BehindBits w' (bits ++ maxCode) := by
  have hp := h.pStrm
  have hb := h.bitPos
  have hlength : (bits ++ maxCode).length = bits.length + 15 := List.length_append
  rw [wordBits_maxRun] at hcode
  refine ⟨?_, ?_, hcode.mono ?_ ?_⟩
  · rw [hend, hlength]
    omega
  · rw [hpos, hlength]
    omega
  · rw [hlength]
    split <;> omega
  · split <;> omega

/-- **A run of 32767 blocks** puts its code behind the bits. -/
theorem BehindBits.putMaxRun (h : BehindBits w bits) :
    BehindBits w.putMaxRun (bits ++ maxCode) := by
  have hb := h.bitPos
  have hpos : w.putMaxRun.bitPos = (w.bitPos + 15) % 8 := rfl
  obtain ⟨b0, hb0⟩ : ∃ b0, b0 = ((if w.bitPos ≠ 0 then w.mem w.pStrm else 0) |||
    maxRun >>> (24 + w.bitPos)) % 2 ^ 8 := ⟨_, rfl⟩
  obtain ⟨b1, hb1⟩ : ∃ b1, b1 = u32 (maxRun <<< (8 - w.bitPos)) >>> 24 % 2 ^ 8 := ⟨_, rfl⟩
  obtain ⟨b2, hb2⟩ : ∃ b2, b2 = u32 (u32 (maxRun <<< (8 - w.bitPos)) <<< 8) >>> 24 % 2 ^ 8 :=
    ⟨_, rfl⟩
  -- behind a bit of a byte the code reaches into a third byte
  by_cases hbit : 1 ≤ w.bitPos
  · have hmem : w.putMaxRun.mem = Function.update (Function.update (Function.update w.mem
        w.pStrm b0) (w.pStrm + 1) b1) (w.pStrm + 1 + 1) b2 := by
      rw [hb0, hb1, hb2, StrmWriter.putMaxRun, if_pos hbit]
      rfl
    have hend : w.putMaxRun.pStrm = w.pStrm + 2 := by
      rw [StrmWriter.putMaxRun, if_pos hbit]
      rfl
    have hcode : Written w.putMaxRun.mem (w.pStrm + 1 + 2) (bits ++ wordBits maxRun 15) := by
      refine h.code (by decide) wordBit_maxRun (by omega) ?_ ?_ ?_
      · intro q hq
        rw [hmem, Function.update_of_ne (by omega), Function.update_of_ne (by omega),
          Function.update_of_ne (by omega)]
      · rw [hmem, Function.update_of_ne (by omega), Function.update_of_ne (by omega),
          Function.update_self, hb0]
      · intro i hi
        rw [hmem]
        match i, hi with
        | 0, _ =>
          rw [Function.update_of_ne (by omega), Nat.add_zero, Function.update_self, hb1]
          rfl
        | 1, _ => rw [Function.update_self, hb2, shifted_shifted]
    exact h.behind_maxCode hcode hend hpos (by omega) (by omega)
  · -- at the start of a byte the code takes two bytes
    have hmem : w.putMaxRun.mem =
        Function.update (Function.update w.mem w.pStrm b0) (w.pStrm + 1) b1 := by
      rw [hb0, hb1, StrmWriter.putMaxRun, if_neg hbit]
      rfl
    have hend : w.putMaxRun.pStrm = w.pStrm + 1 := by
      rw [StrmWriter.putMaxRun, if_neg hbit]
      rfl
    have hcode : Written w.putMaxRun.mem (w.pStrm + 1 + 1) (bits ++ wordBits maxRun 15) := by
      refine h.code (by decide) wordBit_maxRun (by omega) ?_ ?_ ?_
      · intro q hq
        rw [hmem, Function.update_of_ne (by omega), Function.update_of_ne (by omega)]
      · rw [hmem, Function.update_of_ne (by omega), Function.update_self, hb0]
      · intro i hi
        rw [hmem]
        match i, hi with
        | 0, _ =>
          rw [Nat.add_zero, Function.update_self, hb1]
          rfl
    exact h.behind_maxCode hcode hend hpos (by omega) (by omega)

/-- The codes of `n` runs of 32767 blocks. -/
def maxCodes (n : Nat) : List Bool := (List.replicate n maxCode).flatten

theorem BehindBits.putMaxRuns (n : Nat) : ∀ {w : StrmWriter} {bits : List Bool}, BehindBits w bits →
    BehindBits (w.putMaxRuns n) (bits ++ maxCodes n) := by
  induction n with
  | zero =>
    intro w bits h
    rw [maxCodes, List.replicate_zero, List.flatten_nil, List.append_nil]
    exact h
  | succ n ih =>
    intro w bits h
    have hrest := ih h.putMaxRun
    rw [List.append_assoc] at hrest
    exact hrest

/-- The bytes of the last code behind its first. -/
theorem putRest_spec (fuel : Nat) : ∀ (n word s : Nat) (w : StrmWriter), n ≤ fuel →
    (putRest fuel n (u32 (word <<< s)) w).pStrm = w.pStrm + (n + 7) / 8 ∧
    (∀ q < w.pStrm, (putRest fuel n (u32 (word <<< s)) w).mem q = w.mem q) ∧
    ∀ i < (n + 7) / 8, (putRest fuel n (u32 (word <<< s)) w).mem (w.pStrm + i) =
      u32 (word <<< (s + 8 * i)) >>> 24 % 2 ^ 8 := by
  induction fuel with
  | zero =>
    intro n word s w hn
    refine ⟨?_, fun _ _ => rfl, fun i hi => ?_⟩
    · show w.pStrm = _
      omega
    · omega
  | succ fuel ih =>
    intro n word s w hn
    rw [putRest]
    by_cases hpos : 0 < n
    · obtain ⟨w', hw'⟩ : ∃ w', w' = (w.put (u32 (word <<< s) >>> 24)).next := ⟨_, rfl⟩
      have hend' : w'.pStrm = w.pStrm + 1 := by rw [hw']; rfl
      have hmem' : w'.mem = Function.update w.mem w.pStrm (u32 (word <<< s) >>> 24 % 2 ^ 8) := by
        rw [hw']
        rfl
      obtain ⟨hend, hbefore, hrest⟩ := ih (n - 8) word (s + 8) w' (by omega)
      rw [if_pos hpos, shifted_shifted, ← hw']
      refine ⟨?_, fun q hq => ?_, fun i hi => ?_⟩
      · rw [hend, hend']
        omega
      · rw [hbefore q (by omega), hmem', Function.update_of_ne (by omega)]
      · -- byte zero is the one of this round, the others are those of the rest
        by_cases hi0 : i = 0
        · rw [hi0, hbefore _ (by omega), hmem', Nat.add_zero, Function.update_self]
          rfl
        · obtain ⟨j, rfl⟩ : ∃ j, i = j + 1 := ⟨i - 1, by omega⟩
          have hbyte := hrest j (by omega)
          rw [hend', show w.pStrm + 1 + j = w.pStrm + (j + 1) by omega,
            show s + 8 + 8 * j = s + 8 * (j + 1) by omega] at hbyte
          exact hbyte
    · rw [if_neg hpos]
      exact ⟨by omega, fun _ _ => rfl, fun i hi => by omega⟩

/-- **The last run** puts its number of blocks behind the bits, in `n` of them. -/
theorem BehindBits.putLast (h : BehindBits w bits) {n : Nat} (hn : 0 < n ∧ n ≤ 32)
    (numBlocks : Nat) :
    Written (w.putLast n numBlocks).mem (w.putLast n numBlocks).pStrm
      (bits ++ bitsOf n numBlocks) ∧
    8 * (w.putLast n numBlocks).pStrm < bits.length + n + 8 := by
  have hp := h.pStrm
  have hb := h.bitPos
  obtain ⟨word, hword⟩ : ∃ word, word = u32 (numBlocks <<< (32 - n)) := ⟨_, rfl⟩
  obtain ⟨w', hw'⟩ : ∃ w', w' = w.putFirst word := ⟨_, rfl⟩
  have hmem' : w'.mem = Function.update w.mem w.pStrm
      (((if w.bitPos ≠ 0 then w.mem w.pStrm else 0) ||| word >>> (24 + w.bitPos)) % 2 ^ 8) := by
    rw [hw']
    rfl
  have hend' : w'.pStrm = w.pStrm + 1 := by rw [hw']; rfl
  obtain ⟨hend, hbefore, hrest⟩ := putRest_spec n (n - (8 - w.bitPos)) word (8 - w.bitPos)
    w' (Nat.sub_le _ _)
  have hlast : w.putLast n numBlocks =
      putRest n (n - (8 - w.bitPos)) (u32 (word <<< (8 - w.bitPos))) w' := by
    rw [hw', hword]
    rfl
  -- the first byte ends the one that is begun, and the rest are whole
  have hcode : Written (w.putLast n numBlocks).mem
      (w.pStrm + 1 + (n - (8 - w.bitPos) + 7) / 8) (bits ++ wordBits word n) := by
    refine h.code (hword ▸ u32_lt _) (fun i hi => hword ▸ wordBit_shifted hi numBlocks)
      (by omega) ?_ ?_ ?_
    · intro q hq
      rw [hlast, hbefore q (by omega), hmem', Function.update_of_ne (by omega)]
    · rw [hlast, hbefore _ (by omega), hmem', Function.update_self]
    · intro i hi
      rw [hlast, ← hend']
      exact hrest i hi
  rw [hword, wordBits_shifted hn.2] at hcode
  rw [hlast, hend, hend'] at *
  exact ⟨hcode, by omega⟩

/-! ## What is written -/

/-- The blocks of the last run. -/
def lastBlocks (numBlocks : Nat) : Nat := (splitRuns numBlocks numBlocks 0).1

/-- The runs of 32767 blocks before it. -/
def maxRuns (numBlocks : Nat) : Nat := (splitRuns numBlocks numBlocks 0).2

/-- The bits of the last run. -/
def lastBits (numBlocks : Nat) : Nat := numBits (lastBlocks numBlocks)

theorem blocks_eq {numBlocks : Nat} (h : 1 ≤ numBlocks) :
    numBlocks = 32767 * maxRuns numBlocks + lastBlocks numBlocks ∧ 1 ≤ lastBlocks numBlocks ∧
      lastBlocks numBlocks ≤ 32767 := by
  obtain ⟨hone, hmax, -, hsum⟩ := splitRuns_spec numBlocks numBlocks 0 (by omega) h
  exact ⟨by unfold maxRuns lastBlocks; omega, hone, hmax⟩

theorem lastBits_spec {numBlocks : Nat} (h : 1 ≤ numBlocks) :
    0 < lastBits numBlocks ∧ lastBits numBlocks ≤ 15 ∧
      2 ^ (lastBits numBlocks - 1) ≤ lastBlocks numBlocks ∧
      lastBlocks numBlocks < 2 ^ lastBits numBlocks := by
  obtain ⟨-, hone, hmax⟩ := blocks_eq h
  exact numBits_spec (by omega) (by omega)

theorem length_maxCodes (n : Nat) : (maxCodes n).length = 15 * n := by
  induction n with
  | zero => rfl
  | succ n ih =>
    have hcode : maxCode.length = 15 := rfl
    rw [maxCodes, List.replicate_succ, List.flatten_cons, List.length_append, hcode]
    rw [maxCodes] at ih
    omega

/-- **The bytes hold the codes of the runs**, and fewer than eight zeros behind them. -/
theorem emptyScanStrm_written {numBlocks : Nat} (h : 1 ≤ numBlocks) (mem : Nat → Nat) :
    Written (emptyScanStrm numBlocks mem).mem (emptyScanStrm numBlocks mem).pStrm
      (maxCodes (maxRuns numBlocks) ++ bitsOf (lastBits numBlocks) (lastBlocks numBlocks)) ∧
    8 * (emptyScanStrm numBlocks mem).pStrm <
      15 * maxRuns numBlocks + lastBits numBlocks + 8 := by
  obtain ⟨-, hone, -⟩ := blocks_eq h
  obtain ⟨hpos, hle, -⟩ := lastBits_spec h
  have hstart : BehindBits { mem := mem } [] := ⟨rfl, rfl, written_nil mem⟩
  have hruns := hstart.putMaxRuns (maxRuns numBlocks)
  rw [List.nil_append] at hruns
  have hstrm : emptyScanStrm numBlocks mem =
      (putMaxRuns (maxRuns numBlocks) { mem := mem }).putLast (lastBits numBlocks)
        (lastBlocks numBlocks) :=
    if_pos (show lastBlocks numBlocks ≠ 0 by omega)
  have hlast := hruns.putLast ⟨hpos, by omega⟩ (lastBlocks numBlocks)
  rw [length_maxCodes] at hlast
  rw [hstrm]
  exact hlast

/-! ## The runs of the bits -/

/-- The categories of the codes of a scan. -/
theorem eobCategory_eq {n : Nat} (hpos : 0 < n) (hle : n ≤ 15) :
    eobCategory (emptyScanCodes n) false = 14 ∧ eobCategory (emptyScanCodes n) true = n - 1 := by
  have hall : ∀ n < 15, eobCategory (emptyScanCodes (n + 1)) false = 14 ∧
      eobCategory (emptyScanCodes (n + 1)) true = n := by decide
  obtain ⟨m, rfl⟩ : ∃ m, n = m + 1 := ⟨n - 1, by omega⟩
  exact hall m (by omega)

variable {category : Bool → Nat}

theorem eobRuns_short {n : Nat} {code : Bool} {rest : List Bool} (h : rest.length < category code) :
    eobRuns category n (code :: rest) = [] := by
  cases n with
  | zero => rfl
  | succ n => rw [eobRuns, if_pos h]

theorem eobRuns_code {n : Nat} {code : Bool} {value rest : List Bool}
    (h : value.length = category code) :
    eobRuns category (n + 1) (code :: (value ++ rest)) =
      (2 ^ category code + bitsValue value) :: eobRuns category n rest := by
  rw [eobRuns, if_neg (by rw [List.length_append]; omega), ← h, List.take_left, List.drop_left]

/-- The zeros at the end are no run. -/
theorem eobRuns_zeros (hfalse : category false = 14) {m : Nat} (hm : m < 8) (n : Nat) :
    eobRuns category n (List.replicate m false) = [] := by
  cases m with
  | zero =>
    cases n with
    | zero => rfl
    | succ n => rfl
  | succ m =>
    rw [List.replicate_succ]
    exact eobRuns_short (by rw [List.length_replicate]; omega)

theorem eobRuns_maxCode (hfalse : category false = 14) (n : Nat) (rest : List Bool) :
    eobRuns category (n + 1) (maxCode ++ rest) = 32767 :: eobRuns category n rest := by
  rw [maxCode, List.cons_append, eobRuns_code (by rw [List.length_replicate, hfalse]), hfalse]
  rfl

theorem eobRuns_maxCodes (hfalse : category false = 14) (k : Nat) : ∀ (n : Nat) (rest : List Bool),
    eobRuns category (n + k) (maxCodes k ++ rest) =
      List.replicate k 32767 ++ eobRuns category n rest := by
  induction k with
  | zero => exact fun n rest => rfl
  | succ k ih =>
    intro n rest
    have hsplit : maxCodes (k + 1) ++ rest = maxCode ++ (maxCodes k ++ rest) := by
      rw [maxCodes, List.replicate_succ, List.flatten_cons, List.append_assoc]
      rfl
    rw [hsplit, ← Nat.add_assoc, eobRuns_maxCode hfalse, ih, List.replicate_succ, List.cons_append]

/-- The bits of the last run are its code and what it has beyond a power of two. -/
theorem bitsOf_last {n last : Nat} (hpos : 0 < n) (hlow : 2 ^ (n - 1) ≤ last)
    (hhigh : last < 2 ^ n) :
    ∃ value, bitsOf n last = true :: value ∧ value.length = n - 1 ∧
      2 ^ (n - 1) + bitsValue value = last := by
  obtain ⟨m, rfl⟩ : ∃ m, n = m + 1 := ⟨n - 1, by omega⟩
  rw [Nat.add_sub_cancel] at hlow ⊢
  rw [Nat.pow_succ] at hhigh
  have hdiv : last / 2 ^ m = 1 := by
    rw [Nat.div_eq_iff (Nat.two_pow_pos m)]
    omega
  have htop : last.testBit m = true := by
    rw [Nat.testBit_eq_decide_div_mod_eq, hdiv]
    rfl
  have hmod : last % 2 ^ m = last - 2 ^ m := by
    rw [Nat.mod_eq_sub_mod hlow, Nat.mod_eq_of_lt (by omega)]
  refine ⟨bitsOf m last, by rw [bitsOf_cons, htop], length_bitsOf m last, ?_⟩
  rw [← bitsOf_mod, bitsValue_bitsOf m (Nat.mod_lt _ (Nat.two_pow_pos m)), hmod]
  omega

/-- **The bits are those of the picture**: as they are written, they stand for runs that
add up to the blocks. -/
theorem eobRuns_written {numBlocks : Nat} (h : 1 ≤ numBlocks) {m : Nat} (hm : m < 8) :
    (eobRuns (eobCategory (emptyScanCodes (lastBits numBlocks)))
      (15 * maxRuns numBlocks + lastBits numBlocks + m)
      (maxCodes (maxRuns numBlocks) ++ bitsOf (lastBits numBlocks) (lastBlocks numBlocks) ++
        List.replicate m false)).sum = numBlocks := by
  obtain ⟨hsum, -, -⟩ := blocks_eq h
  obtain ⟨hpos, hle, hlow, hhigh⟩ := lastBits_spec h
  obtain ⟨hfalse, htrue⟩ := eobCategory_eq hpos hle
  obtain ⟨value, hbits, hlength, hvalue⟩ := bitsOf_last hpos hlow hhigh
  obtain ⟨fuel, hfuel⟩ : ∃ fuel, 15 * maxRuns numBlocks + lastBits numBlocks + m =
      fuel + 1 + maxRuns numBlocks :=
    ⟨14 * maxRuns numBlocks + lastBits numBlocks + m - 1, by omega⟩
  rw [hfuel, List.append_assoc, eobRuns_maxCodes hfalse, hbits, List.cons_append,
    eobRuns_code (by rw [hlength, htrue]), eobRuns_zeros hfalse hm, htrue, hvalue, List.sum_append,
    List.sum_replicate_nat, List.sum_singleton]
  omega

/-! ## The bytes -/

/-- The bytes of a scan of `numBlocks` empty blocks. -/
def emptyScanBytes (numBlocks : Nat) (mem : Nat → Nat) : List Nat :=
  (List.range (emptyScanStrm numBlocks mem).pStrm).map (emptyScanStrm numBlocks mem).mem

/-- The runs of entropy-coded bytes. -/
def entropyRuns (codes : Nat) (bytes : List Nat) : List Nat :=
  eobRuns (eobCategory codes) (bytesBits (destuff bytes)).length (bytesBits (destuff bytes))

/-- The bytes stand for the blocks: read as entropy-coded data they are runs that add up
to them, and they fit in 100 bytes. -/
def StrmExact (numBlocks : Nat) (mem : Nat → Nat) : Prop :=
  (entropyRuns (emptyScanCodes (numBits (splitRuns numBlocks numBlocks 0).1))
    (emptyScanBytes numBlocks mem)).sum = numBlocks ∧
  (emptyScanStrm numBlocks mem).pStrm ≤ 100

/-- No byte of the scan needs a stuffed one: there is one run alone, and its first eight
bits are not all set. -/
def Unstuffed (numBlocks : Nat) : Prop :=
  numBlocks ≤ 32767 ∧ ∀ k ≤ 7, ¬ (255 * 2 ^ k ≤ numBlocks ∧ numBlocks < 256 * 2 ^ k)

theorem destuff_of_ne {b : Nat} (hb : b ≠ 0xFF) (bytes : List Nat) :
    destuff (b :: bytes) = b :: destuff bytes := by
  rw [destuff.eq_def]
  exact if_neg hb

theorem destuff_stuffed (bytes : List Nat) :
    destuff (0xFF :: 0 :: bytes) = 0xFF :: destuff bytes := by
  rw [destuff.eq_def]
  rfl

theorem destuff_marker {bytes : List Nat} (h : ∀ bytes', bytes ≠ 0 :: bytes') :
    destuff (0xFF :: bytes) = [] := by
  rw [destuff.eq_def]
  show (match bytes with
    | 0 :: bytes => 0xFF :: destuff bytes
    | _ => []) = []
  split
  · exact absurd rfl (h _)
  · rfl

theorem destuff_of_forall {bytes : List Nat} (h : ∀ b ∈ bytes, b ≠ 0xFF) :
    destuff bytes = bytes := by
  induction bytes with
  | nil => rfl
  | cons b bytes ih =>
    rw [destuff_of_ne (h b List.mem_cons_self), ih fun b' hb' => h b' (List.mem_cons_of_mem b hb')]

theorem length_destuff_le (bytes : List Nat) : (destuff bytes).length ≤ bytes.length := by
  induction bytes using destuff.induct with
  | case1 => exact Nat.le_refl 0
  | case2 bytes ih =>
    rw [destuff_stuffed, List.length_cons, List.length_cons, List.length_cons]
    omega
  | case3 bytes hbytes =>
    rw [destuff_marker hbytes]
    exact Nat.zero_le _
  | case4 b bytes hb ih =>
    rw [destuff_of_ne hb, List.length_cons, List.length_cons]
    omega

variable {numBlocks : Nat}

/-- Bytes of which none is all ones are read as they are. -/
theorem entropyRuns_of_forall (h : 1 ≤ numBlocks) (mem : Nat → Nat)
    (hbytes : ∀ b ∈ emptyScanBytes numBlocks mem, b ≠ 0xFF) :
    (entropyRuns (emptyScanCodes (lastBits numBlocks)) (emptyScanBytes numBlocks mem)).sum =
      numBlocks := by
  obtain ⟨hwritten, hend⟩ := emptyScanStrm_written h mem
  have hle := hwritten.length_le
  rw [List.length_append, length_maxCodes, length_bitsOf] at hle
  have hbits := hwritten.bytesBits_eq
  rw [List.length_append, length_maxCodes, length_bitsOf] at hbits
  have hruns := eobRuns_written h (m := 8 * (emptyScanStrm numBlocks mem).pStrm -
    (15 * maxRuns numBlocks + lastBits numBlocks)) (by omega)
  rw [entropyRuns, destuff_of_forall hbytes]
  unfold emptyScanBytes
  rw [length_bytesBits, List.length_map, List.length_range, hbits]
  rw [show 15 * maxRuns numBlocks + lastBits numBlocks +
    (8 * (emptyScanStrm numBlocks mem).pStrm - (15 * maxRuns numBlocks + lastBits numBlocks)) =
      8 * (emptyScanStrm numBlocks mem).pStrm by omega] at hruns
  exact hruns

theorem split_of_le (h : 1 ≤ numBlocks) (hle : numBlocks ≤ 32767) :
    maxRuns numBlocks = 0 ∧ lastBlocks numBlocks = numBlocks := by
  obtain ⟨hsum, hone, -⟩ := blocks_eq h
  omega

/-- **A single run** of which no byte is all ones. -/
theorem bytes_of_unstuffed (h : 1 ≤ numBlocks) (hun : Unstuffed numBlocks) (mem : Nat → Nat) :
    ∀ b ∈ emptyScanBytes numBlocks mem, b ≠ 0xFF := by
  obtain ⟨hle, hfree⟩ := hun
  obtain ⟨hmax, hlast⟩ := split_of_le h hle
  obtain ⟨hpos, hn, hlow, hhigh⟩ := lastBits_spec h
  obtain ⟨hwritten, hend⟩ := emptyScanStrm_written h mem
  rw [hmax, hlast] at hwritten
  rw [hmax] at hend
  rw [hlast] at hlow hhigh
  obtain ⟨n, hnn⟩ : ∃ n, n = lastBits numBlocks := ⟨_, rfl⟩
  rw [← hnn] at hpos hn hlow hhigh hwritten hend
  change Written _ _ (bitsOf n numBlocks) at hwritten
  intro b hb hff
  obtain ⟨i, hi, rfl⟩ := List.mem_map.mp hb
  have hlt := List.mem_range.mp hi
  -- all bits of the byte are set, so the run has as many
  have hbit : ∀ t < 8, (bitsOf n numBlocks).getD (8 * i + t) false = true := by
    intro t ht
    have hbitAt := hwritten.bitAt_eq (8 * i + t) (by omega)
    rw [bitAt, show (8 * i + t) / 8 = i by omega, show 7 - (8 * i + t) % 8 = 7 - t by omega,
      hff] at hbitAt
    rw [← hbitAt]
    have hset : ∀ t < 8, (0xFF : Nat).testBit (7 - t) = true := by decide
    exact hset t ht
  -- the bits behind the run are zero, so the byte lies in it
  have hin : 8 * i + 7 < n := by
    by_contra hout
    have hzero := hbit 7 (by decide)
    rw [List.getD_eq_default _ _ (by rw [length_bitsOf]; omega)] at hzero
    cases hzero
  have hi0 : i = 0 := by omega
  subst hi0
  -- it is the first byte, and the top eight bits of the number are ones
  have hdiv : numBlocks / 2 ^ (n - 8) = 255 := by
    refine Nat.eq_of_testBit_eq fun j => ?_
    rw [Nat.testBit_div_two_pow]
    by_cases hj : j < 8
    · have hset := hbit (7 - j) (by omega)
      rw [getD_bitsOf (by omega)] at hset
      have hones : ∀ j < 8, (255 : Nat).testBit j = true := by decide
      rw [hones j hj, ← hset]
      congr 1
      omega
    · have hpow : 2 ^ n ≤ 2 ^ (j + (n - 8)) := Nat.pow_le_pow_right (by decide) (by omega)
      have h256 : 2 ^ 8 ≤ 2 ^ j := Nat.pow_le_pow_right (by decide) (by omega)
      rw [Nat.testBit_lt_two_pow (by omega), Nat.testBit_lt_two_pow (by omega)]
  refine hfree (n - 8) (by omega) ?_
  have hdm := Nat.div_add_mod numBlocks (2 ^ (n - 8))
  have hmod := Nat.mod_lt numBlocks (Nat.two_pow_pos (n - 8))
  rw [hdiv] at hdm
  constructor
  · omega
  · omega

/-! ## Bytes of eight ones -/

/-- The bytes of the scan are the first `m` of them and the rest. -/
theorem emptyScanBytes_split (numBlocks m : Nat) (mem : Nat → Nat)
    (hm : m ≤ (emptyScanStrm numBlocks mem).pStrm) :
    ∃ rest, emptyScanBytes numBlocks mem =
        (List.range m).map (emptyScanStrm numBlocks mem).mem ++ rest ∧
      rest.length = (emptyScanStrm numBlocks mem).pStrm - m := by
  obtain ⟨k, hk⟩ := Nat.exists_eq_add_of_le hm
  refine ⟨(List.range k).map fun i => (emptyScanStrm numBlocks mem).mem (m + i), ?_, ?_⟩
  · rw [emptyScanBytes, hk, List.range_add, List.map_append, List.map_map]
    rfl
  · rw [List.length_map, List.length_range]
    omega

/-- **A byte of ones** ends the data, or is the start of a code that the data cuts off. -/
theorem eobRuns_ones {rest : List Nat} (hrest : 8 * rest.length ≤ category true) (n : Nat) :
    eobRuns category n (bytesBits (destuff (0xFF :: rest))) = [] := by
  by_cases hstuffed : ∃ bytes, rest = 0 :: bytes
  · obtain ⟨bytes, rfl⟩ := hstuffed
    have hle := length_destuff_le bytes
    rw [List.length_cons] at hrest
    have hbits : byteBits 0xFF = true :: List.replicate 7 true := by decide
    rw [destuff_stuffed, bytesBits_cons, hbits, List.cons_append]
    refine eobRuns_short ?_
    rw [List.length_append, List.length_replicate, length_bytesBits]
    omega
  · rw [destuff_marker fun bytes hbytes => hstuffed ⟨bytes, hbytes⟩]
    cases n with
    | zero => rfl
    | succ n => rfl

/-- One run of 32767 blocks: its code ends in the byte of ones. -/
theorem sum_eobRuns_one (hfalse : category false = 14) {rest : List Nat}
    (hrest : 8 * rest.length < category true + 8) (n : Nat) :
    (eobRuns category n (bytesBits (destuff (127 :: 0xFF :: rest)))).sum ≤ 32767 := by
  rw [destuff_of_ne (by decide), bytesBits_cons]
  have hbits : byteBits 127 = false :: List.replicate 7 true := by decide
  by_cases hstuffed : ∃ bytes, rest = 0 :: bytes
  · obtain ⟨bytes, rfl⟩ := hstuffed
    have hle := length_destuff_le bytes
    rw [List.length_cons] at hrest
    have hcode : byteBits 127 ++ byteBits 0xFF = maxCode ++ [true] := by decide
    rw [destuff_stuffed, bytesBits_cons, ← List.append_assoc, hcode, List.append_assoc]
    cases n with
    | zero => exact Nat.zero_le _
    | succ n =>
      rw [eobRuns_maxCode hfalse, List.singleton_append,
        eobRuns_short (by rw [length_bytesBits]; omega)]
      exact Nat.le_refl _
  · rw [destuff_marker fun bytes hbytes => hstuffed ⟨bytes, hbytes⟩, hbits, List.cons_append,
      eobRuns_short (by rw [hfalse]; decide)]
    exact Nat.zero_le _

/-- More runs of 32767 blocks: the code of the second holds a byte of ones, and the byte
behind it is no zero. -/
theorem sum_eobRuns_two (hfalse : category false = 14) {b : Nat} (hb : b ≠ 0) (rest : List Nat)
    (n : Nat) :
    (eobRuns category n (bytesBits (destuff (127 :: 254 :: 0xFF :: b :: rest)))).sum ≤ 32767 := by
  rw [destuff_of_ne (by decide), destuff_of_ne (by decide), destuff_marker (by
    intro bytes hbytes
    exact hb (List.cons.inj hbytes).1)]
  have hcode : bytesBits [127, 254] = maxCode ++ [false] := by decide
  rw [hcode]
  cases n with
  | zero => exact Nat.zero_le _
  | succ n =>
    rw [eobRuns_maxCode hfalse, eobRuns_short (by rw [hfalse]; decide)]
    exact Nat.le_refl _

/-- **A run too many**: where the first run does not hold all blocks, it is the only one
that is read. -/
theorem sum_entropyRuns_le (hgt : 32767 < numBlocks) (mem : Nat → Nat) :
    (entropyRuns (emptyScanCodes (lastBits numBlocks)) (emptyScanBytes numBlocks mem)).sum ≤
      32767 := by
  have h : 1 ≤ numBlocks := by omega
  obtain ⟨hsum, hone, hmax⟩ := blocks_eq h
  obtain ⟨hpos, hn, hlow, hhigh⟩ := lastBits_spec h
  obtain ⟨hfalse, htrue⟩ := eobCategory_eq hpos hn
  obtain ⟨hwritten, hend⟩ := emptyScanStrm_written h mem
  obtain ⟨value, hbits, hlength, -⟩ := bitsOf_last hpos hlow hhigh
  have hle := hwritten.length_le
  rw [List.length_append, length_maxCodes, length_bitsOf] at hle
  rw [hbits] at hwritten
  -- two codes of 32767 blocks are 0x7F 0xFE 0xFF behind each other
  match hruns : maxRuns numBlocks with
  | 0 =>
    rw [hruns] at hsum
    omega
  | 1 =>
    rw [hruns] at hwritten hend hle
    have hcodes : maxCodes 1 ++ true :: value = (maxCode ++ [true]) ++ value := rfl
    rw [hcodes] at hwritten
    have h0 := hwritten.byte_eq_prefix (p := 0) (v := 127) (by decide) (by decide) (by decide)
    have h1 := hwritten.byte_eq_prefix (p := 1) (v := 0xFF) (by decide) (by decide) (by decide)
    obtain ⟨rest, hbytes, hrest⟩ := emptyScanBytes_split numBlocks 2 mem (by omega)
    have hfirst : (List.range 2).map (emptyScanStrm numBlocks mem).mem = [127, 0xFF] := by
      show [_, _] = _
      rw [h0, h1]
    have hshort : 8 * rest.length <
        eobCategory (emptyScanCodes (lastBits numBlocks)) true + 8 := by omega
    rw [entropyRuns, hbytes, hfirst]
    exact sum_eobRuns_one hfalse hshort _
  | k + 2 =>
    rw [hruns] at hwritten hend hle
    have hcodes : maxCodes (k + 2) = (maxCode ++ maxCode) ++ maxCodes k := by
      simp only [maxCodes, List.replicate_succ, List.flatten_cons, List.append_assoc]
    rw [hcodes, List.append_assoc] at hwritten
    have h0 := hwritten.byte_eq_prefix (p := 0) (v := 127) (by decide) (by decide) (by decide)
    have h1 := hwritten.byte_eq_prefix (p := 1) (v := 254) (by decide) (by decide) (by decide)
    have h2 := hwritten.byte_eq_prefix (p := 2) (v := 0xFF) (by decide) (by decide) (by decide)
    -- the byte behind starts in a code of ones, so it is not a stuffed zero
    have h3 : (emptyScanStrm numBlocks mem).mem 3 ≠ 0 := by
      intro hzero
      have hbit := hwritten.bitAt_eq 24 (by omega)
      rw [bitAt, List.getD_append _ _ _ _ (by decide)] at hbit
      change ((emptyScanStrm numBlocks mem).mem 3).testBit 7 = true at hbit
      rw [hzero] at hbit
      cases hbit
    obtain ⟨rest, hbytes, -⟩ := emptyScanBytes_split numBlocks 4 mem (by omega)
    have hfirst : (List.range 4).map (emptyScanStrm numBlocks mem).mem =
        [127, 254, 0xFF, (emptyScanStrm numBlocks mem).mem 3] := by
      show [_, _, _, _] = _
      rw [h0, h1, h2]
    rw [entropyRuns, hbytes, hfirst]
    exact sum_eobRuns_two hfalse h3 rest _

/-- One run alone whose first byte is all ones is not read at all. -/
theorem entropyRuns_of_ones (hle : numBlocks ≤ 32767) {k : Nat}
    (hlow : 255 * 2 ^ k ≤ numBlocks) (hhigh : numBlocks < 256 * 2 ^ k) (mem : Nat → Nat) :
    entropyRuns (emptyScanCodes (lastBits numBlocks)) (emptyScanBytes numBlocks mem) = [] := by
  have hk := Nat.two_pow_pos k
  have h : 1 ≤ numBlocks := by omega
  obtain ⟨hmax, hlast⟩ := split_of_le h hle
  obtain ⟨hpos, hn, hlown, hhighn⟩ := lastBits_spec h
  obtain ⟨-, htrue⟩ := eobCategory_eq hpos hn
  obtain ⟨hwritten, hend⟩ := emptyScanStrm_written h mem
  rw [hmax, hlast] at hwritten
  rw [hmax] at hend
  rw [hlast] at hlown hhighn
  obtain ⟨n, hnn⟩ : ∃ n, n = lastBits numBlocks := ⟨_, rfl⟩
  rw [← hnn] at htrue hpos hlown hhighn hwritten hend ⊢
  change Written _ _ (bitsOf n numBlocks) at hwritten
  -- the run lies between two powers of two in one way only
  have hnk : n = 8 + k := by
    have hlt : 2 ^ (7 + k) < 2 ^ n := by
      rw [Nat.pow_add]
      omega
    have hgt : 2 ^ (n - 1) < 2 ^ (8 + k) := by
      rw [Nat.pow_add]
      omega
    have h1 := (Nat.pow_lt_pow_iff_right (by decide : 1 < 2)).mp hlt
    have h2 := (Nat.pow_lt_pow_iff_right (by decide : 1 < 2)).mp hgt
    omega
  have hdiv : numBlocks / 2 ^ k = 255 := by
    rw [Nat.div_eq_iff hk]
    omega
  have hlen := hwritten.length_le
  rw [length_bitsOf] at hlen
  have hfirst : (emptyScanStrm numBlocks mem).mem 0 = 0xFF := by
    refine hwritten.byte_eq (by omega) (by decide) fun t ht => ?_
    rw [Nat.mul_zero, Nat.zero_add, getD_bitsOf (by omega), ← hdiv, Nat.testBit_div_two_pow]
    congr 1
    omega
  obtain ⟨rest, hbytes, hrest⟩ := emptyScanBytes_split numBlocks 1 mem (by omega)
  have hbyte : (List.range 1).map (emptyScanStrm numBlocks mem).mem = [0xFF] := by
    show [_] = _
    rw [hfirst]
  have hshort : 8 * rest.length ≤ eobCategory (emptyScanCodes n) true := by omega
  rw [entropyRuns, hbytes, hbyte]
  exact eobRuns_ones hshort _

/-- **The bytes stand for the blocks** if and only if none of them is all ones. -/
theorem strmExact_iff (h : 1 ≤ numBlocks) (mem : Nat → Nat) :
    StrmExact numBlocks mem ↔ Unstuffed numBlocks := by
  obtain ⟨-, hend⟩ := emptyScanStrm_written h mem
  constructor
  · rintro ⟨hexact, -⟩
    change (entropyRuns (emptyScanCodes (lastBits numBlocks)) _).sum = _ at hexact
    have hle : numBlocks ≤ 32767 := by
      by_contra hgt
      have hsum := sum_entropyRuns_le (by omega : 32767 < numBlocks) mem
      omega
    refine ⟨hle, fun k hk hbetween => ?_⟩
    rw [entropyRuns_of_ones hle hbetween.1 hbetween.2 mem] at hexact
    exact absurd hexact (by rw [List.sum_nil]; omega)
  · intro hun
    have hbytes := bytes_of_unstuffed h hun mem
    refine ⟨entropyRuns_of_forall h mem hbytes, ?_⟩
    obtain ⟨hmax, -⟩ := split_of_le h hun.1
    obtain ⟨-, hn, -⟩ := lastBits_spec h
    rw [hmax] at hend
    omega

/-! ## The start of an empty scan -/

/-- The states of an empty scan: a component of a progressive picture, a mapped table
memory, and room for the announced bytes where `tmpStrm` is mapped. -/
structure EmptyScanState (componentId : Nat) (c : JpegDecContainer) : Prop where
  progressive : c.info.operationType = JPEGDEC_PROGRESSIVE
  component : componentId < 3
  mapped : TableWord 143 c
  room : c.info.tmpStrm.virAddr ≠ 0 → 100 ≤ c.info.tmpStrm.size

variable {ρ : Type} {componentId : Nat} {c : JpegDecContainer}

/-- The fields `emptyScanRegisters` writes. -/
def emptyScanFields : List BitField :=
  [HWIF_RLC_VLC_BASE, HWIF_STRM_START_BIT, HWIF_STREAM_LEN, HWIF_JPEG_MODE, HWIF_PIC_MB_W_EXT,
   HWIF_PIC_MB_WIDTH, HWIF_PIC_MB_H_EXT, HWIF_PIC_MB_HEIGHT_P, HWIF_PJPEG_WDIV8,
   HWIF_JPEG_FILRIGHT_E, HWIF_PJPEG_HDIV8, HWIF_PJPEG_FILDOWN_E, HWIF_PJPEG_E, HWIF_PJPEG_SS,
   HWIF_PJPEG_SE, HWIF_PJPEG_AH, HWIF_PJPEG_AL, HWIF_PJPEG_COEFF_BUF, HWIF_DEC_OUT_DIS,
   HWIF_QTABLE_BASE, HWIF_SYNC_MARKER_E]

theorem emptyScanRegisters_fst (componentId : Nat) (c : JpegDecContainer) :
    (asWords (emptyScanRegisters componentId c)).map Prod.fst = emptyScanFields := rfl

/-- No two of the fields overlap, the codes are not among them, and the start bit is apart
from the length. -/
theorem emptyScanFields_apart :
    emptyScanFields.Pairwise BitField.Disjoint ∧
    (∀ f ∈ HWIF_DEC_E :: emptyScanFields, f.Disjoint HWIF_AC1_CODE1_CNT) ∧
    HWIF_DEC_E.Disjoint HWIF_STREAM_LEN := by
  decide +kernel

/-- What is left of the function behind the bytes of the scan. -/
def emptyScanStart (componentId : Nat) : Decoder ρ Unit := do
  rkSetRegisterFiles (emptyScanRegisters componentId)
  modify fun c => { c with asicRunning := 1 }
  rkSetRegisterFiles fun _ => [(HWIF_DEC_E, 1)]

/-- The length and the codes in the registers of a started scan. -/
theorem get_emptyScanStart (componentId : Nat) (c : JpegDecContainer) :
    ∃ c', (emptyScanStart componentId : Decoder ρ Unit) c = .next () c' ∧
      c'.tmpStrmMem = c.tmpStrmMem ∧ c'.tableMem = c.tableMem ∧
      rkGetRegisterFile HWIF_STREAM_LEN c' = 100 ∧
      rkGetRegisterFile HWIF_AC1_CODE1_CNT c' = rkGetRegisterFile HWIF_AC1_CODE1_CNT c := by
  obtain ⟨hpair, hcodes, hstart⟩ := emptyScanFields_apart
  have hfst := emptyScanRegisters_fst componentId c
  have hapart : (asWords (emptyScanRegisters componentId c)).Pairwise
      fun p q => p.1.Disjoint q.1 := by
    rw [← List.pairwise_map, hfst]
    exact hpair
  have hlength : (HWIF_STREAM_LEN, BitVec.ofNat 32 100) ∈
      asWords (emptyScanRegisters componentId c) :=
    List.mem_cons_of_mem _ (List.mem_cons_of_mem _ List.mem_cons_self)
  -- the start bit is written last, and overlaps neither register
  refine ⟨_, rfl, rfl, rfl, ?_, ?_⟩
  · show (HWIF_STREAM_LEN.get (HWIF_DEC_E.set _ (BitField.writes _ c.jpegRegs))).toNat = 100
    rw [BitField.get_set_of_disjoint hstart,
      BitField.get_writes_of_mem hapart (by decide) hlength]
    rfl
  · show (HWIF_AC1_CODE1_CNT.get (HWIF_DEC_E.set _ (BitField.writes _ c.jpegRegs))).toNat = _
    rw [BitField.get_set_of_disjoint (hcodes _ List.mem_cons_self),
      BitField.get_writes_of_disjoint _ fun p hp => hcodes _ (List.mem_cons_of_mem _ ?_)]
    · rfl
    · rw [← hfst]
      exact List.mem_map_of_mem hp

/-- **What comes before the bytes** installs the codes, and leaves `tmpStrm` alone. -/
theorem jpegDecInitHWEmptyScan_reaches (h : EmptyScanState componentId c) :
    ∃ s, s.info.tmpStrm = c.info.tmpStrm ∧ s.tmpStrmMem = c.tmpStrmMem ∧
      s.tableMem JPEGDEC_AC1_BASE = emptyScanCodes (lastBits (emptyScanBlocks componentId c)) ∧
      rkGetRegisterFile HWIF_AC1_CODE1_CNT s = 2 ∧
      (jpegDecInitHWEmptyScan true componentId : Decoder ρ Unit) c =
        (writeEmptyScan (emptyScanBlocks componentId c) >>= fun _ =>
          emptyScanStart componentId) s := by
  -- the state behind the addresses, behind the size, and behind the tables
  obtain ⟨c1, hc1⟩ : ∃ c1, c1 =
      (let c := { c with info.nonInterleaved := 1, info.componentId := componentId }
       if c.ppInstance = 0 ∧ c.info.userAllocMem = 1 then givenAddress2 (givenAddresses c)
       else c) := ⟨_, rfl⟩
  have hkept : ProgressiveState c1 ∧ c1.info.tmpStrm = c.info.tmpStrm ∧
      c1.tmpStrmMem = c.tmpStrmMem ∧
      emptyScanBlocks componentId c1 = emptyScanBlocks componentId c := by
    rw [hc1]
    dsimp only
    split
    · exact ⟨⟨h.progressive, fun _ => h.component, h.mapped⟩, rfl, rfl, rfl⟩
    · exact ⟨⟨h.progressive, fun _ => h.component, h.mapped⟩, rfl, rfl, rfl⟩
  obtain ⟨hstate, hstrm, hmem, hblocks⟩ := hkept
  obtain ⟨c2, hc2⟩ : ∃ c2, c2 = emptyScanSize componentId { c1 with
    jpegRegs := BitField.writes (asWords [(HWIF_DEC_OUT_BASE, outputBuffer componentId c1)])
      c1.jpegRegs } := ⟨_, rfl⟩
  have hsized : ProgressiveState c2 := by
    rw [hc2]
    exact ⟨hstate.progressive, hstate.component, hstate.mapped⟩
  obtain ⟨m, htables⟩ := jpegDecWriteTablesProgressive_next (ρ := ρ) hsized
  obtain ⟨c3, hc3⟩ : ∃ c3, c3 = { c2 with
    tableMem := m
    jpegRegs := BitField.writes (asWords [(HWIF_AC1_CODE1_CNT, 2)]) c2.jpegRegs } := ⟨_, rfl⟩
  have hmapped : TableWord JPEGDEC_AC1_BASE c3 := by
    rw [hc3]
    exact hsized.mapped.mono (by decide)
  have hfirst : (setThroughRegs true fun _ => [(HWIF_AC1_CODE1_CNT, 2)] : Decoder ρ Unit)
      { c2 with tableMem := m } = .next () c3 := by
    rw [hc3]
    rfl
  have hnumBlocks : (gets (emptyScanBlocks componentId) : Decoder ρ Nat) c3 =
      .next (emptyScanBlocks componentId c) c3 := by
    rw [← hblocks, hc3, hc2]
    rfl
  have hcodes := storeWord_eq (ρ := ρ)
    (emptyScanCodes (lastBits (emptyScanBlocks componentId c))) hmapped
  -- the parts of the function in their order, from the tables on
  have hrun : (jpegDecInitHWEmptyScan true componentId : Decoder ρ Unit) c =
      (jpegDecWriteTablesProgressive >>= fun _ => do
        setThroughRegs true fun _ => [(HWIF_AC1_CODE1_CNT, 2)]
        let numBlocks ← gets (emptyScanBlocks componentId)
        storeWord JPEGDEC_AC1_BASE (emptyScanCodes (lastBits numBlocks))
        writeEmptyScan numBlocks
        emptyScanStart componentId) c2 := by
    rw [hc2, hc1]
    rfl
  rw [bind_next htables, bind_next hfirst, bind_next hnumBlocks, bind_next hcodes] at hrun
  refine ⟨_, ?_, ?_, ?_, ?_, hrun⟩
  · rw [← hstrm, hc3, hc2]
    rfl
  · rw [← hmem, hc3, hc2]
    rfl
  · exact Function.update_self JPEGDEC_AC1_BASE _ c3.tableMem
  · rw [hc3]
    show (HWIF_AC1_CODE1_CNT.get (HWIF_AC1_CODE1_CNT.set _ c2.jpegRegs)).toNat = 2
    rw [BitField.get_set _ (by decide)]
    rfl

/-- The bytes fit behind `tmpStrm`. -/
def StrmRoom (numBlocks : Nat) (c : JpegDecContainer) : Prop :=
  c.info.tmpStrm.virAddr ≠ 0 ∧
    (emptyScanStrm numBlocks c.tmpStrmMem).pStrm ≤ c.info.tmpStrm.size

theorem writeEmptyScan_eq (numBlocks : Nat) (c : JpegDecContainer) :
    (writeEmptyScan numBlocks : Decoder ρ Unit) c =
      (assert .buffer (fun c' => (emptyScanStrm numBlocks c.tmpStrmMem).pStrm = 0 ∨
          c'.info.tmpStrm.virAddr ≠ 0 ∧
            (emptyScanStrm numBlocks c.tmpStrmMem).pStrm ≤ c'.info.tmpStrm.size) >>= fun _ =>
        modify fun c' => { c' with tmpStrmMem := (emptyScanStrm numBlocks c.tmpStrmMem).mem }) c :=
  rfl

theorem writeEmptyScan_of_room {numBlocks : Nat} (hroom : StrmRoom numBlocks c) :
    (writeEmptyScan numBlocks : Decoder ρ Unit) c =
      .next () { c with tmpStrmMem := (emptyScanStrm numBlocks c.tmpStrmMem).mem } := by
  rw [writeEmptyScan_eq]
  exact bind_next (if_pos (Or.inr hroom))

theorem writeEmptyScan_of_not_room {numBlocks : Nat} (h : 1 ≤ numBlocks)
    (hroom : ¬ StrmRoom numBlocks c) :
    (writeEmptyScan numBlocks : Decoder ρ Unit) c = .fault .buffer c := by
  obtain ⟨hpos, -⟩ := lastBits_spec h
  obtain ⟨hwritten, -⟩ := emptyScanStrm_written h c.tmpStrmMem
  have hle := hwritten.length_le
  rw [List.length_append, length_bitsOf] at hle
  rw [writeEmptyScan_eq]
  refine bind_fault (if_neg fun hor => ?_)
  rcases hor with hzero | hor
  · rw [hzero] at hle
    omega
  · exact hroom hor

/-- Room for the announced bytes is room for the written ones. -/
theorem EmptyScanState.strmRoom {numBlocks : Nat} (h : EmptyScanState componentId c)
    (hmapped : c.info.tmpStrm.virAddr ≠ 0) (hstrm : StrmExact numBlocks c.tmpStrmMem) :
    StrmRoom numBlocks c :=
  ⟨hmapped, le_trans hstrm.2 (h.room hmapped)⟩

/-! ## The claim -/

/-- **The scan is that of the picture**: the function returns, and the bytes it wrote,
read as entropy-coded data with the two codes it installs, stand for runs that add up to
the blocks of the component; the announced length holds them. -/
def EmptyScanExact (taken : Bool) (componentId : Nat) (c : JpegDecContainer) : Prop :=
  ∃ c', (jpegDecInitHWEmptyScan taken componentId : Decoder JpegDecRet Unit) c = .next () c' ∧
    rkGetRegisterFile HWIF_AC1_CODE1_CNT c' = 2 ∧
    let numBlocks := emptyScanBlocks componentId c
    let bytes := (List.range (emptyScanStrm numBlocks c.tmpStrmMem).pStrm).map c'.tmpStrmMem
    (entropyRuns (c'.tableMem JPEGDEC_AC1_BASE) bytes).sum = numBlocks ∧
      bytes.length ≤ rkGetRegisterFile HWIF_STREAM_LEN c'

/-- Where the address is taken for the handle, the scan is that of the picture if its
bytes are and have room. -/
theorem emptyScanExact_taken (h : EmptyScanState componentId c)
    (hblocks : 1 ≤ emptyScanBlocks componentId c) :
    EmptyScanExact true componentId c ↔ StrmRoom (emptyScanBlocks componentId c) c ∧
      StrmExact (emptyScanBlocks componentId c) c.tmpStrmMem := by
  obtain ⟨s, hstrm, hmem, hcodes, hcount, hrun⟩ :=
    jpegDecInitHWEmptyScan_reaches (ρ := JpegDecRet) h
  have hroom : StrmRoom (emptyScanBlocks componentId c) s ↔
      StrmRoom (emptyScanBlocks componentId c) c := by
    unfold StrmRoom
    rw [hstrm, hmem]
  by_cases hfits : StrmRoom (emptyScanBlocks componentId c) c
  · obtain ⟨c', hstart, hbytes, htable, hlength, hkept⟩ :=
      get_emptyScanStart (ρ := JpegDecRet) componentId
        { s with tmpStrmMem := (emptyScanStrm (emptyScanBlocks componentId c) s.tmpStrmMem).mem }
    rw [bind_next (writeEmptyScan_of_room (hroom.mpr hfits)), hstart] at hrun
    rw [and_iff_right hfits]
    have hread : c'.tableMem JPEGDEC_AC1_BASE =
        emptyScanCodes (lastBits (emptyScanBlocks componentId c)) := by rw [htable]; exact hcodes
    have hwritten : c'.tmpStrmMem =
        (emptyScanStrm (emptyScanBlocks componentId c) c.tmpStrmMem).mem := by rw [hbytes, ← hmem]
    constructor
    · rintro ⟨c'', hnext, -, hsum, hlen⟩
      rw [hrun] at hnext
      cases hnext
      rw [hread, hwritten] at hsum
      rw [List.length_map, List.length_range, hlength] at hlen
      exact ⟨hsum, hlen⟩
    · rintro ⟨hsum, hlen⟩
      refine ⟨c', hrun, hkept.trans hcount, ?_, ?_⟩
      · rw [hread, hwritten]
        exact hsum
      · rw [List.length_map, List.length_range, hlength]
        exact hlen
  · -- without room the function ends at the first byte
    rw [bind_fault (writeEmptyScan_of_not_room hblocks fun hs => hfits (hroom.mp hs))] at hrun
    refine iff_of_false ?_ fun hboth => hfits hboth.1
    rintro ⟨c', hnext, -⟩
    rw [hrun] at hnext
    cases hnext

/-- **An empty scan is that of the picture** if and only if the address of the registers
is taken for their handle, `tmpStrm` is mapped and no byte of the scan is all ones. -/
theorem emptyScanExact_iff {taken : Bool} (h : EmptyScanState componentId c)
    (hblocks : 1 ≤ emptyScanBlocks componentId c) :
    EmptyScanExact taken componentId c ↔
      taken = true ∧ c.info.tmpStrm.virAddr ≠ 0 ∧ Unstuffed (emptyScanBlocks componentId c) := by
  cases taken with
  | false =>
    refine iff_of_false ?_ fun hall => Bool.false_ne_true hall.1
    rintro ⟨c', hnext, -⟩
    rw [jpegDecInitHWEmptyScan_untaken] at hnext
    cases hnext
  | true =>
    rw [emptyScanExact_taken h hblocks, strmExact_iff hblocks]
    constructor
    · rintro ⟨hroom, hun⟩
      exact ⟨rfl, hroom.1, hun⟩
    · rintro ⟨-, hmapped, hun⟩
      exact ⟨h.strmRoom hmapped ((strmExact_iff hblocks _).mpr hun), hun⟩

/-- A progressive 4:2:0 picture of `hwX` × `hwY` pels with room for the tables; `tmpStrm` is
not mapped, as the decoder leaves it. -/
def emptySample (hwX hwY : Nat) : JpegDecContainer :=
  { jpegDecInit with
    frame.hwX := hwX
    frame.hwY := hwY
    frame.pTableBase := { virAddr := 4096, phyAddr := 4096, size := 576 }
    info.operationType := JPEGDEC_PROGRESSIVE
    info.yCbCrModeOrig := JPEGDEC_YUV420 }

/-- That picture with `tmpStrm` mapped. -/
def emptySampleMapped (hwX hwY : Nat) : JpegDecContainer :=
  { emptySample hwX hwY with
    info.tmpStrm := { virAddr := 8192, phyAddr := 8192, size := 100 } }

theorem emptyScanState_emptySample (hwX hwY : Nat) : EmptyScanState 1 (emptySample hwX hwY) :=
  ⟨rfl, by decide, ⟨Nat.succ_ne_zero 4095, Nat.le_refl 576⟩, fun hne => absurd rfl hne⟩

theorem emptyScanState_emptySampleMapped (hwX hwY : Nat) :
    EmptyScanState 1 (emptySampleMapped hwX hwY) :=
  ⟨rfl, by decide, ⟨Nat.succ_ne_zero 4095, Nat.le_refl 576⟩, fun _ => Nat.le_refl 100⟩

/-- A chroma component of six blocks, in one byte. -/
theorem emptyScanExact_iff_six : EmptyScanExact true 1 (emptySampleMapped 48 32) :=
  (emptyScanExact_iff (emptyScanState_emptySampleMapped 48 32) (by decide)).mpr
    ⟨rfl, Nat.succ_ne_zero 8191, by decide, by decide⟩

/-- **Nothing is written where `tmpStrm` is not mapped**; and where it is, a chroma
component of 255 blocks is written as the byte `0xFF` alone. -/
theorem emptyScan_not_exact :
    ¬ EmptyScanExact true 1 (emptySample 48 32) ∧
      ¬ EmptyScanExact true 1 (emptySampleMapped 240 272) := by
  constructor
  · rintro ⟨c', hnext, -⟩
    obtain ⟨s, hstrm, -, -, -, hrun⟩ :=
      jpegDecInitHWEmptyScan_reaches (ρ := JpegDecRet) (emptyScanState_emptySample 48 32)
    rw [hrun, bind_fault (writeEmptyScan_of_not_room (by decide) fun hroom => ?_)] at hnext
    · cases hnext
    · rw [StrmRoom, hstrm] at hroom
      exact hroom.1 rfl
  · rintro hexact
    have hroom := (emptyScanExact_taken (emptyScanState_emptySampleMapped 240 272)
      (by decide)).mp hexact
    obtain ⟨-, hfree⟩ := (strmExact_iff (by decide) _).mp hroom.2
    exact hfree 0 (by decide) (by decide)

end Jpeg

end Rk3399
