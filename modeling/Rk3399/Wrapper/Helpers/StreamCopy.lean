import Rk3399.Wrapper.Helpers.Stuffing
/-!
# The loops over the stream

What the accesses, the copying loops and the loop that goes back over stuffing
do with the bytes that are left, by induction over these.
-/

namespace Rk3399

namespace Wrapper

open Prog

variable {input : List UInt8} {size : Nat} {mem : Nat → UInt8} {s : StreamCopy}

/-! ## Looking ahead -/

/-- The bytes pass the tests. -/
def Passes : List (UInt8 → Bool) → List UInt8 → Bool
  | [], _ => true
  | _ :: _, [] => false
  | test :: tests, b :: l => test b && Passes tests l

theorem drop_succ_of_cons {k : Nat} {b : UInt8} {l : List UInt8} (h : input.drop k = b :: l) :
    input.drop (k + 1) = l := by
  rw [← List.drop_drop, h]
  rfl

theorem tmpAt_eq {k : Nat} {b : UInt8} {l : List UInt8} (h : input.drop k = b :: l) :
    tmpAt input k s = .next b s := by
  have hk : k < input.length := by
    have := congrArg List.length h
    rw [List.length_drop, List.length_cons] at this
    omega
  have hget : input.getD k 0 = b := by
    rw [List.getD_eq_getElem?_getD, ← List.head?_drop, h]
    rfl
  unfold tmpAt
  rw [bind_next (assert_of _ (by exact hk))]
  exact congrArg (Outcome.next · s) hget

theorem tmpIs_eq (tests : List (UInt8 → Bool)) :
    ∀ {k : Nat} {l : List UInt8}, input.drop k = l → tests.length ≤ l.length →
      tmpIs input tests k s = .next (Passes tests l) s := by
  induction tests with
  | nil => intro k l _ _; rfl
  | cons test tests ih =>
    intro k l h hlen
    cases l with
    | nil => exact absurd hlen (by simp)
    | cons b l =>
      unfold tmpIs Passes
      rw [bind_next (tmpAt_eq h)]
      cases hb : test b with
      | true =>
        rw [if_pos rfl, Bool.true_and]
        exact ih (drop_succ_of_cons h) (Nat.le_of_succ_le_succ hlen)
      | false => rfl

/-- The tests for a pair and a marker. -/
theorem passes_stuffedTests {a b c d : UInt8} {l : List UInt8} :
    Passes stuffedTests (a :: b :: c :: d :: l) = decide (Stuffed a b c d) := by
  rw [Bool.eq_iff_iff, decide_eq_true_iff]
  simp [Passes, stuffedTests, Stuffed]

/-! ## Copying -/

/-- `out` was copied, and the first `i` bytes of the input are passed. -/
def copiedTo (input : List UInt8) (mem : Nat → UInt8) (out : List UInt8) (i : Nat) :
    StreamCopy where
  mem := poke 0 out mem
  inputSize := input.length
  copyLen := out.length
  i := i
  dst := out.length
  stop := input.length

/-- What the copy from an AVI1 camera needs: the input fits the buffer and the `int`. -/
def Avi1Fits (input : List UInt8) (size : Nat) : Prop :=
  input.length ≤ size ∧ input.length < 2 ^ 31

/-- As much as was copied and passed is inside. -/
structure Inside (input : List UInt8) (size : Nat) (out : List UInt8) (i : Nat) : Prop where
  out_le : out.length ≤ i
  out_size : out.length ≤ size
  i_le : i ≤ input.length
  i_lt : i < 2 ^ 31

theorem wp_copyByte {N : Unit → StreamCopy → Prop} {X : Empty → StreamCopy → Prop}
    {out l : List UInt8} {b : UInt8} {i j : Nat} (h : input.drop i = b :: l) (hj : out.length ≤ j)
    (hji : j ≤ i) (hsize : out.length ≤ size)
    (hN : Inside input size (out ++ [b]) (i + 1) → N () (copiedTo input mem (out ++ [b]) (i + 1))) :
    wp (copyByte input size) N X (fun _ _ => ¬ Avi1Fits input size) (copiedTo input mem out i) := by
  have hi : i < input.length := by
    have := congrArg List.length h
    rw [List.length_drop, List.length_cons] at this
    omega
  unfold copyByte
  rw [wp_bind, wp_gets, wp_bind]
  refine (wp_of_next (tmpAt_eq (k := i) h)).2 ?_
  rw [wp_bind, wp_assert]
  by_cases hdst : out.length < size
  · rw [if_pos (by exact hdst), wp_bind, wp_modify]
    unfold advance
    rw [wp_bind, wp_assert]
    by_cases hint : i + 1 < 2 ^ 31
    · rw [if_pos (by exact hint), wp_modify]
      have hlen : (out ++ [b]).length = out.length + 1 := List.length_append
      have hpoke : poke 0 (out ++ [b]) mem = poke out.length [b] (poke 0 out mem) := by
        rw [poke_append, Nat.zero_add]
      have hinside : Inside input size (out ++ [b]) (i + 1) :=
        ⟨by omega, by omega, by omega, hint⟩
      have hgoal := hN hinside
      unfold copiedTo at hgoal
      rw [hpoke, hlen] at hgoal
      exact hgoal
    · rw [if_neg (by exact hint)]
      exact fun hfits => hint (Nat.lt_of_le_of_lt hi hfits.2)
  · rw [if_neg (by exact hdst)]
    exact fun hfits => hdst (by have := hfits.1; omega)

/-- Copies from `out` on that end in front of the last bytes: what they copied and what is left
make up `goal`. -/
def CopiesUpTo (input : List UInt8) (size : Nat) (mem : Nat → UInt8) (out goal : List UInt8)
    (t : StreamCopy) : Prop :=
  ∃ front j, t = copiedTo input mem (out ++ front) j ∧ front ++ input.drop j = goal ∧
    Inside input size (out ++ front) j

theorem CopiesUpTo.cons {out goal : List UInt8} {b : UInt8} {t : StreamCopy}
    (h : CopiesUpTo input size mem (out ++ [b]) goal t) :
    CopiesUpTo input size mem out (b :: goal) t := by
  obtain ⟨front, j, ht, hgoal, hinside⟩ := h
  rw [List.append_assoc] at ht hinside
  exact ⟨b :: front, j, ht, congrArg (b :: ·) hgoal, hinside⟩

/-- A round in front of the last four bytes. -/
theorem wp_stuffedRound {N : Bool → StreamCopy → Prop} {X : Empty → StreamCopy → Prop}
    {F : AccessFault → StreamCopy → Prop} {out l : List UInt8} {a b c d : UInt8} {i : Nat}
    (hi : i < sub32 input.length 4) (hdrop : input.drop i = a :: b :: c :: d :: l) :
    wp (stuffedRound input size) N X F (copiedTo input mem out i) ↔
      wp (do
        whenever (fun _ => decide (Stuffed a b c d) = true) (advance 2)
        copyByte input size
        pure true) N X F (copiedTo input mem out i) := by
  unfold stuffedRound
  rw [wp_bind, wp_gets]
  change wp (if i < sub32 input.length 4 then _ else _) N X F _ ↔ _
  rw [if_pos hi, wp_bind]
  refine (wp_of_next (tmpIs_eq stuffedTests hdrop (by simp [stuffedTests]))).trans ?_
  rw [passes_stuffedTests]

/-- The round behind them. -/
theorem stuffedRound_of_le (h : sub32 s.inputSize 4 ≤ s.i) :
    stuffedRound input size s = .next false s := by
  unfold stuffedRound
  rw [bind_next (show gets id s = .next s s from rfl), if_neg (Nat.not_lt.2 h)]
  rfl

/-- **The loop that looks for stuffing** copies all bytes but some of the last four. -/
theorem wp_stuffedLoop (hmin : 4 ≤ input.length) (hmax : input.length < 2 ^ 32)
    {X : Empty → StreamCopy → Prop} (l : List UInt8) :
    ∀ {out : List UInt8} {i n : Nat}, input.drop i = l → Inside input size out i → l.length < n →
      wp (loop .rounds (stuffedRound input size) n)
        (fun _ => CopiesUpTo input size mem out (stripFront l)) X
        (fun _ _ => ¬ Avi1Fits input size) (copiedTo input mem out i) := by
  have hlast : sub32 input.length 4 = input.length - 4 := sub32_of_le hmin hmax
  induction l using stripFront.induct with
  | case1 a b c d e l h ih =>
    intro out i n hdrop hinside hn
    obtain ⟨n, rfl⟩ : ∃ k, n = k + 1 := ⟨n - 1, by omega⟩
    have hlen := congrArg List.length hdrop
    simp only [List.length_drop, List.length_cons] at hlen hn
    -- the zero behind 0xFF is passed over, and the byte behind it copied
    have hskip : input.drop (i + 2) = c :: d :: e :: l := by
      rw [← List.drop_drop, hdrop]
      rfl
    rw [wp_loop_succ]
    rw [wp_stuffedRound (by omega) hdrop, wp_bind, wp_whenever, if_pos (decide_eq_true h)]
    unfold advance
    rw [wp_bind, wp_assert]
    by_cases hint : i + 2 < 2 ^ 31
    · rw [if_pos (by exact hint), wp_modify, wp_bind]
      refine wp_copyByte (j := i) hskip hinside.out_le (Nat.le_add_right i 2) hinside.out_size
        fun hinside' => ?_
      rw [wp_pure, if_pos rfl, stripFront, if_pos h]
      exact wp_mono (ih (drop_succ_of_cons hskip) hinside' (by simp only [List.length_cons]; omega))
        (fun _ t ht => ht.cons) (fun _ _ h => h) fun _ _ h => h
    · rw [if_neg (by exact hint)]
      exact fun hfits => hint (by have := hfits.2; omega)
  | case2 a b c d e l h ih =>
    intro out i n hdrop hinside hn
    obtain ⟨n, rfl⟩ : ∃ k, n = k + 1 := ⟨n - 1, by omega⟩
    have hlen := congrArg List.length hdrop
    simp only [List.length_drop, List.length_cons] at hlen hn
    rw [wp_loop_succ]
    rw [wp_stuffedRound (by omega) hdrop, wp_bind, wp_whenever,
      if_neg (by simpa using h), wp_bind]
    refine wp_copyByte (j := i) hdrop hinside.out_le (Nat.le_refl i) hinside.out_size
      fun hinside' => ?_
    rw [wp_pure, if_pos rfl, stripFront, if_neg h]
    exact wp_mono (ih (drop_succ_of_cons hdrop) hinside' (by simp only [List.length_cons]; omega))
      (fun _ t ht => ht.cons) (fun _ _ h => h) fun _ _ h => h
  | case3 l hshort =>
    intro out i n hdrop hinside hn
    obtain ⟨n, rfl⟩ : ∃ k, n = k + 1 := ⟨n - 1, by omega⟩
    have hlen := congrArg List.length hdrop
    rw [List.length_drop] at hlen
    have hle : l.length ≤ 4 := by
      rcases l with _ | ⟨a, _ | ⟨b, _ | ⟨c, _ | ⟨d, _ | ⟨e, l⟩⟩⟩⟩⟩
      · simp
      · simp
      · simp
      · simp
      · simp
      · exact absurd rfl (hshort a b c d e l)
    -- the last four bytes are left to the second loop
    have hround : stuffedRound input size (copiedTo input mem out i) = .next false _ :=
      stuffedRound_of_le (show sub32 input.length 4 ≤ i by omega)
    rw [wp_loop_succ, wp_of_next hround, if_neg (by decide)]
    have hfront : stripFront l = l := by
      unfold stripFront
      split
      · exact absurd rfl (hshort _ _ _ _ _ _)
      · rfl
    refine ⟨[], i, ?_, ?_, ?_⟩
    · rw [List.append_nil]
    · rw [hfront, hdrop, List.nil_append]
    · rwa [List.append_nil]

theorem restRound_of_lt (h : s.i < s.inputSize) :
    restRound input size s = (do copyByte input size; pure true : CopyProg Bool) s := by
  unfold restRound
  rw [bind_next (show gets id s = .next s s from rfl), if_pos h]

theorem restRound_of_le (h : s.inputSize ≤ s.i) : restRound input size s = .next false s := by
  unfold restRound
  rw [bind_next (show gets id s = .next s s from rfl), if_neg (Nat.not_lt.2 h)]
  rfl

/-- **The loop for the bytes left over** copies them all. -/
theorem wp_restLoop {X : Empty → StreamCopy → Prop} (l : List UInt8) :
    ∀ {out : List UInt8} {i n : Nat}, input.drop i = l → Inside input size out i → l.length < n →
      wp (loop .rounds (restRound input size) n)
        (fun _ t => t = copiedTo input mem (out ++ l) input.length ∧
          Inside input size (out ++ l) input.length) X
        (fun _ _ => ¬ Avi1Fits input size) (copiedTo input mem out i) := by
  induction l with
  | nil =>
    intro out i n hdrop hinside hn
    obtain ⟨n, rfl⟩ : ∃ k, n = k + 1 := ⟨n - 1, by omega⟩
    have hi : i = input.length := Nat.le_antisymm hinside.i_le (List.drop_eq_nil_iff.1 hdrop)
    subst hi
    rw [wp_loop_succ, wp_of_next (restRound_of_le (Nat.le_refl _)), if_neg (by decide),
      List.append_nil]
    exact ⟨rfl, hinside⟩
  | cons b l ih =>
    intro out i n hdrop hinside hn
    obtain ⟨n, rfl⟩ : ∃ k, n = k + 1 := ⟨n - 1, by omega⟩
    have hlen := congrArg List.length hdrop
    simp only [List.length_drop, List.length_cons] at hlen hn
    have hi : i < input.length := by omega
    rw [wp_loop_succ, wp_congr (restRound_of_lt (by exact hi)), wp_bind]
    refine wp_copyByte (j := i) hdrop hinside.out_le (Nat.le_refl i) hinside.out_size
      fun hinside' => ?_
    rw [wp_pure, if_pos rfl, List.append_cons]
    exact ih (drop_succ_of_cons hdrop) hinside' (by omega)

theorem wp_fill {N : Unit → StreamCopy → Prop} {X : Empty → StreamCopy → Prop}
    {F : AccessFault → StreamCopy → Prop} (pos : Nat) (bytes : List UInt8) :
    wp (fill size pos bytes) N X F s ↔
      if pos + bytes.length ≤ size then N () { s with mem := poke pos bytes s.mem }
      else F .stream s := by
  unfold fill
  rw [wp_bind, wp_assert]
  rfl

/-! ## Going back -/

/-- The bytes in front of `end` are `r`, from right to left. -/
structure EndsIn (size : Nat) (r : List UInt8) (s : StreamCopy) : Prop where
  block_eq : block s.mem 0 s.stop = r.reverse
  stop_le : s.stop ≤ size

theorem EndsIn.length {r : List UInt8} (h : EndsIn size r s) : s.stop = r.length := by
  have := congrArg List.length h.block_eq
  rwa [length_block, List.length_reverse] at this

/-- `end` goes back by the bytes of `u`. -/
theorem EndsIn.back {u r : List UInt8} (h : EndsIn size (u ++ r) s) :
    EndsIn size r { s with stop := s.stop - u.length } := by
  have hlen := h.length
  have hblock := h.block_eq
  rw [List.length_append] at hlen
  rw [List.reverse_append, show s.stop = s.stop - u.length + u.length by omega, block_add] at hblock
  refine ⟨?_, Nat.le_trans (Nat.sub_le _ _) h.stop_le⟩
  exact (List.append_inj hblock (by rw [length_block, List.length_reverse]; omega)).1

/-- `end[-k - 1]`. -/
theorem endAt_eq {r : List UInt8} {k : Nat} (h : EndsIn size r s) :
    endAt size (k + 1) s = match r.drop k with
      | b :: _ => .next b s
      | [] => .fault .stream s := by
  have hlen := h.length
  have hle := h.stop_le
  unfold endAt
  cases hdrop : r.drop k with
  | nil =>
    have : r.length ≤ k := List.drop_eq_nil_iff.1 hdrop
    rw [bind_fault (assert_of_not _ (by show ¬ (k + 1 ≤ s.stop ∧ _); omega))]
  | cons b l =>
    have hk : k < r.length := by
      have := congrArg List.length hdrop
      rw [List.length_drop, List.length_cons] at this
      omega
    rw [bind_next (assert_of _ (by show k + 1 ≤ s.stop ∧ s.stop - (k + 1) < size; omega))]
    have hget : s.mem (s.stop - (k + 1)) = b := by
      have hat : (block s.mem 0 s.stop)[s.stop - (k + 1)]? = some b := by
        rw [h.block_eq, List.getElem?_reverse (by omega), ← List.head?_drop,
          show r.length - 1 - (s.stop - (k + 1)) = k by omega, hdrop]
        rfl
      rw [List.getElem?_eq_getElem (by rw [length_block]; omega), getElem_block,
        Nat.zero_add] at hat
      exact Option.some.inj hat
    exact congrArg (Outcome.next · s) hget

/-- A comparison from right to left, as far as it is decided by the bytes there are. -/
def endTest : List UInt8 → List UInt8 → Option Bool
  | [], _ => some true
  | _ :: _, [] => none
  | b :: bs, a :: r => if a = b then endTest bs r else some false

theorem endIs_eq {r : List UInt8} (h : EndsIn size r s) (bs : List UInt8) :
    ∀ k, endIs size bs (k + 1) s = match endTest bs (r.drop k) with
      | some b => .next b s
      | none => .fault .stream s := by
  induction bs with
  | nil => intro k; rfl
  | cons b bs ih =>
    intro k
    have hat := endAt_eq (k := k) h
    unfold endIs
    cases hdrop : r.drop k with
    | nil =>
      rw [hdrop] at hat
      rw [bind_fault hat]
      rfl
    | cons a l =>
      rw [hdrop] at hat
      rw [bind_next hat]
      unfold endTest
      by_cases hab : a = b
      · rw [if_pos hab, if_pos hab, ih (k + 1), ← List.drop_drop, hdrop]
        rfl
      · rw [if_neg hab, if_neg hab]
        rfl

theorem endIs_of_test {r bs : List UInt8} {b : Bool} (h : EndsIn size r s)
    (ht : endTest bs r = some b) : endIs size bs 1 s = .next b s := by
  have hat := endIs_eq h bs 0
  rw [List.drop_zero, ht] at hat
  exact hat

theorem endIs_outside {r bs : List UInt8} (h : EndsIn size r s) (ht : endTest bs r = none) :
    endIs size bs 1 s = .fault .stream s := by
  have hat := endIs_eq h bs 0
  rw [List.drop_zero, ht] at hat
  exact hat

/-- A round goes back over `FF`. -/
theorem trimRound_pad {r : List UInt8} (h : EndsIn size (0xFF :: r) s) :
    trimRound size s = .next true { s with stop := s.stop - 1 } := by
  unfold trimRound
  rw [bind_next (endIs_of_test h rfl), if_pos rfl]
  rfl

/-- A round goes back over `FF 00`. -/
theorem trimRound_stuffed {r : List UInt8} (h : EndsIn size (0x00 :: 0xFF :: r) s) :
    trimRound size s = .next true { s with stop := s.stop - 2 } := by
  unfold trimRound
  rw [bind_next (endIs_of_test h rfl), if_neg (by decide), bind_next (endIs_of_test h rfl),
    if_pos rfl]
  rfl

/-- Any other byte ends the loop. -/
theorem trimRound_other {r : List UInt8} (h : EndsIn size r s)
    (hpad : endTest [0xFF] r = some false) (hstuffed : endTest [0x00, 0xFF] r = some false) :
    trimRound size s = .next false s := by
  unfold trimRound
  rw [bind_next (endIs_of_test h hpad), if_neg (by decide), bind_next (endIs_of_test h hstuffed),
    if_neg (by decide)]
  rfl

/-- The start of the buffer comes first. -/
theorem trimRound_start (h : EndsIn size [] s) : trimRound size s = .fault .stream s := by
  unfold trimRound
  rw [bind_fault (endIs_outside h rfl)]

/-- A zero at the start of the buffer comes first. -/
theorem trimRound_zero (h : EndsIn size [0x00] s) : trimRound size s = .fault .stream s := by
  unfold trimRound
  rw [bind_next (endIs_of_test h rfl), if_neg (by decide), bind_fault (endIs_outside h rfl)]

/-- Whether going back stops inside the buffer. -/
def StopsInside (r : List UInt8) : Prop := dropUnits r ≠ [] ∧ dropUnits r ≠ [0x00]

/-- **The loop goes back over all units**, and stays in the buffer just where a byte
of no unit stops it. -/
theorem wp_trimLoop {X : Empty → StreamCopy → Prop} (r : List UInt8) :
    ∀ {s : StreamCopy} {n : Nat}, EndsIn size r s → r.length < n →
      wp (loop .rounds (trimRound size) n)
        (fun _ t => StopsInside r ∧ t = { s with stop := (dropUnits r).length }) X
        (fun _ _ => ¬ StopsInside r) s := by
  induction r using dropUnits.induct with
  | case1 =>
    intro s n h hn
    obtain ⟨n, rfl⟩ : ∃ k, n = k + 1 := ⟨n - 1, by omega⟩
    -- nothing is left: the loop looks at the byte before the buffer
    rw [wp_loop_succ, wp_of_fault (trimRound_start h)]
    exact fun hstop => hstop.1 rfl
  | case2 =>
    intro s n h hn
    obtain ⟨n, rfl⟩ : ∃ k, n = k + 2 := ⟨n - 2, by simp only [List.length_singleton] at hn; omega⟩
    rw [wp_loop_succ, wp_of_next (trimRound_pad h), if_pos rfl, wp_loop_succ]
    refine (wp_of_fault (trimRound_start (EndsIn.back (u := [0xFF]) h))).2 ?_
    exact fun hstop => hstop.1 rfl
  | case3 a ha =>
    intro s n h hn
    obtain ⟨n, rfl⟩ : ∃ k, n = k + 1 := ⟨n - 1, by omega⟩
    have hdrop : dropUnits [a] = [a] := by rw [dropUnits, if_neg ha]
    unfold StopsInside
    rw [hdrop]
    by_cases hz : a = 0x00
    · subst hz
      rw [wp_loop_succ, wp_of_fault (trimRound_zero h)]
      exact fun hstop => hstop.2 rfl
    · have hround := trimRound_other h (by rw [endTest, if_neg ha]) (by rw [endTest, if_neg hz])
      rw [wp_loop_succ, wp_of_next hround, if_neg (by decide), ← h.length]
      exact ⟨⟨List.cons_ne_nil _ _, fun heq => hz (List.cons.inj heq).1⟩, rfl⟩
  | case4 b l ih =>
    intro s n h hn
    obtain ⟨n, rfl⟩ : ∃ k, n = k + 1 := ⟨n - 1, by omega⟩
    have hdrop : dropUnits (0xFF :: b :: l) = dropUnits (b :: l) := by rw [dropUnits, if_pos rfl]
    unfold StopsInside
    rw [wp_loop_succ, wp_of_next (trimRound_pad h), if_pos rfl, hdrop]
    exact ih (EndsIn.back (u := [0xFF]) h) (by simp only [List.length_cons] at hn ⊢; omega)
  | case5 a b l ha h ih =>
    obtain ⟨rfl, rfl⟩ := h
    intro s n h hn
    obtain ⟨n, rfl⟩ : ∃ k, n = k + 1 := ⟨n - 1, by omega⟩
    have hdrop : dropUnits (0x00 :: 0xFF :: l) = dropUnits l := by
      rw [dropUnits, if_neg (by decide), if_pos ⟨rfl, rfl⟩]
    unfold StopsInside
    rw [wp_loop_succ, wp_of_next (trimRound_stuffed h), if_pos rfl, hdrop]
    exact ih (EndsIn.back (u := [0x00, 0xFF]) h) (by simp only [List.length_cons] at hn; omega)
  | case6 a b l ha hunit =>
    intro s n h hn
    obtain ⟨n, rfl⟩ : ∃ k, n = k + 1 := ⟨n - 1, by omega⟩
    have hdrop : dropUnits (a :: b :: l) = a :: b :: l := by
      rw [dropUnits, if_neg ha, if_neg hunit]
    -- the two bytes are neither padding nor a stuffed 0xFF, and the loop ends
    have hstuffed : endTest [0x00, 0xFF] (a :: b :: l) = some false := by
      by_cases hz : a = 0x00
      · rw [endTest, if_pos hz, endTest, if_neg fun hb => hunit ⟨hz, hb⟩]
      · rw [endTest, if_neg hz]
    have hround := trimRound_other h (by rw [endTest, if_neg ha]) hstuffed
    unfold StopsInside
    rw [wp_loop_succ, wp_of_next hround, if_neg (by decide), hdrop, ← h.length]
    exact ⟨⟨List.cons_ne_nil _ _, fun heq => List.cons_ne_nil _ _ (List.cons.inj heq).2⟩, rfl⟩

end Wrapper

end Rk3399
