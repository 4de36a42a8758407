import Mathlib.Data.List.Basic
import Rk3399.SimpleConfig.Model.ScanResults
/-!
# What scan results say

The lines of a survey file and their fields, and when `parse_scanres` returns
those of the first line for the access point. It reads a file line by line as
long as the lines fit its buffer with their newline, and what it copies fits as
long as the channel has at most four characters and the SSID at most 63.
-/

namespace Rk3399

namespace SimpleConfig

open Prog

/-! ## The lines of a file -/

/-- The lines of a file, each with its newline. -/
def fileLines : List UInt8 → List (List UInt8)
  | [] => []
  | c :: s =>
    if c = 10 then [10] :: fileLines s
    else match fileLines s with
      | [] => [[c]]
      | l :: ls => (c :: l) :: ls

section lines

variable {s l : List UInt8} {ls : List (List UInt8)}

theorem fileLines_cons_newline (s : List UInt8) : fileLines (10 :: s) = [10] :: fileLines s :=
  if_pos rfl

theorem fileLines_cons_of_nil {c : UInt8} (hc : c ≠ 10) (h : fileLines s = []) :
    fileLines (c :: s) = [[c]] := by
  rw [fileLines, if_neg hc, h]

theorem fileLines_cons_of_cons {c : UInt8} (hc : c ≠ 10) (h : fileLines s = l :: ls) :
    fileLines (c :: s) = (c :: l) :: ls := by
  rw [fileLines, if_neg hc, h]

theorem eq_nil_of_fileLines (h : fileLines s = []) : s = [] := by
  cases s with
  | nil => rfl
  | cons c s =>
    by_cases hc : c = 10
    · rw [hc, fileLines_cons_newline] at h
      cases h
    · cases hs : fileLines s with
      | nil =>
        rw [fileLines_cons_of_nil hc hs] at h
        cases h
      | cons l ls =>
        rw [fileLines_cons_of_cons hc hs] at h
        cases h

theorem takeLine_nil (n : Nat) : takeLine n [] = ([], []) := by cases n <;> rfl

/-- **A line that fits is taken whole**; it has a newline where another line follows. -/
theorem takeLine_of_fileLines (s : List UInt8) : ∀ {n : Nat} {l : List UInt8}
    {ls : List (List UInt8)}, fileLines s = l :: ls → l.length ≤ n →
      l ≠ [] ∧ (takeLine n s).1 = l ∧ fileLines (takeLine n s).2 = ls ∧
        (l.getLast? ≠ some 10 → ls = []) := by
  induction s with
  | nil => intro n l ls h _; cases h
  | cons c s ih =>
    intro n l ls h hle
    by_cases hc : c = 10
    · subst hc
      rw [fileLines_cons_newline] at h
      cases h
      obtain ⟨n, rfl⟩ : ∃ m, n = m + 1 := ⟨n - 1, by simp at hle; omega⟩
      rw [takeLine, if_pos rfl]
      exact ⟨List.cons_ne_nil _ _, rfl, rfl, fun hlast => absurd rfl hlast⟩
    · cases hs : fileLines s with
      | nil =>
        rw [fileLines_cons_of_nil hc hs] at h
        cases h
        obtain ⟨n, rfl⟩ : ∃ m, n = m + 1 := ⟨n - 1, by simp at hle; omega⟩
        rw [eq_nil_of_fileLines hs, takeLine, if_neg hc, takeLine_nil]
        exact ⟨List.cons_ne_nil _ _, rfl, rfl, fun _ => rfl⟩
      | cons l' ls' =>
        rw [fileLines_cons_of_cons hc hs] at h
        cases h
        obtain ⟨n, rfl⟩ : ∃ m, n = m + 1 := ⟨n - 1, by simp at hle; omega⟩
        obtain ⟨hne, hline, hrest, hlast⟩ := ih hs (Nat.le_of_succ_le_succ hle)
        rw [takeLine, if_neg hc]
        refine ⟨List.cons_ne_nil _ _, by rw [hline], hrest, fun hlast' => hlast fun heq => ?_⟩
        exact hlast' (by rw [List.getLast?_cons_of_ne_nil hne, heq])

end lines

/-! ## The fields of a line -/

/-- Field `k` of a line: 1 is the BSSID, 2 the channel and 7 the flags. -/
def field (k : Nat) (line : List UInt8) : Option (List UInt8) :=
  (skipFields k (cString line)).bind fun rest => (strtok blanks rest).map Prod.fst

/-- The SSID: what follows the flags, without its blanks. -/
def ssidField (line : List UInt8) : Option (List UInt8) :=
  (skipFields 8 (cString line)).bind fun rest =>
    (strtok lineEnds rest).map fun r => skipBlanks r.1

theorem skipFields_add (m n : Nat) (s : List UInt8) :
    skipFields (m + n) s = (skipFields m s).bind (skipFields n) := by
  induction n with
  | zero => exact (Option.bind_some ..).symm.trans (by simp [skipFields])
  | succ n ih =>
    rw [← Nat.add_assoc, skipFields, ih, Option.bind_assoc]
    rfl

section line

variable {line rest rest' token : List UInt8} {k : Nat}

theorem field_eq_none_of_skipFields (h : skipFields k (cString line) = none) :
    field k line = none := by
  rw [field, h]
  rfl

theorem field_eq_none_of_strtok (h : skipFields k (cString line) = some rest)
    (htok : strtok blanks rest = none) : field k line = none := by
  rw [field, h, Option.bind_some, htok]
  rfl

theorem field_of_strtok (h : skipFields k (cString line) = some rest)
    (htok : strtok blanks rest = some (token, rest')) :
    field k line = some token ∧ skipFields (k + 1) (cString line) = some rest' := by
  rw [field, skipFields, h, Option.bind_some, Option.bind_some, htok]
  exact ⟨rfl, rfl⟩

/-- What the part behind the flags does. -/
def ssidOutcome (line : List UInt8) (s : Scan) : Outcome ScanFault Int Scan Bool :=
  if s.ssid = [] then
    match ssidField line with
    | none => .exit FALSE s
    | some ssid => if ssid.length < 64 then .exit TRUE { s with ssid := ssid } else .fault .ssid s
  else .exit TRUE s

/-- What a line for the access point does, from its fields. -/
def fieldsOutcome (line : List UInt8) (s : Scan) : Outcome ScanFault Int Scan Bool :=
  match field 2 line with
  | none => .next true s
  | some ch =>
    if ch.length < 5 then
      match field 7 line with
      | none => .next true { s with channel := ch }
      | some flags => ssidOutcome line { s with channel := ch, flag := flagsOf s.flag flags }
    else .fault .channel s

theorem copyChannel_eq (ch : List UInt8) (s : Scan) : copyChannel ch s =
    if ch.length < 5 then .next () { s with channel := ch } else .fault .channel s := by
  unfold copyChannel
  split
  · next h => exact bind_next (assert_of (p := fun _ => ch.length < 5) _ h)
  · next h => exact bind_fault (assert_of_not (p := fun _ => ch.length < 5) _ h)

theorem copySsid_eq (ch : List UInt8) (s : Scan) :
    copySsid ch s = if ch.length < 64 then .next () { s with ssid := ch } else .fault .ssid s := by
  unfold copySsid
  split
  · next h => exact bind_next (assert_of (p := fun _ => ch.length < 64) _ h)
  · next h => exact bind_fault (assert_of_not (p := fun _ => ch.length < 64) _ h)

theorem parseSsid_eq (h : skipFields 8 (cString line) = some rest) (s : Scan) :
    parseSsid rest s = ssidOutcome line s := by
  have hfield : ssidField line = (strtok lineEnds rest).map fun r => skipBlanks r.1 := by
    rw [ssidField, h, Option.bind_some]
  unfold parseSsid ssidOutcome
  split
  · rw [hfield]
    cases strtok lineEnds rest with
    | none => rfl
    | some r =>
      simp only [Option.map_some]
      have hcopy := copySsid_eq (skipBlanks r.1) s
      by_cases hlen : (skipBlanks r.1).length < 64
      · rw [if_pos hlen] at hcopy ⊢
        rw [bind_next hcopy]
        rfl
      · rw [if_neg hlen] at hcopy ⊢
        rw [bind_fault hcopy]
  · rfl

theorem parseFlags_eq (h : skipFields 7 (cString line) = some rest) (s : Scan) :
    parseFlags rest s = match field 7 line with
      | none => .next true s
      | some flags => ssidOutcome line { s with flag := flagsOf s.flag flags } := by
  unfold parseFlags
  cases htok : strtok blanks rest with
  | none =>
    rw [field_eq_none_of_strtok h htok]
    rfl
  | some r =>
    obtain ⟨hfield, hskip⟩ := field_of_strtok h htok
    rw [hfield]
    exact parseSsid_eq hskip _

theorem parseChannel_eq (h : skipFields 2 (cString line) = some rest) (s : Scan) :
    parseChannel rest s = fieldsOutcome line s := by
  unfold parseChannel fieldsOutcome
  cases htok : strtok blanks rest with
  | none =>
    rw [field_eq_none_of_strtok h htok]
    rfl
  | some r =>
    obtain ⟨hfield, hskip⟩ := field_of_strtok h htok
    have hcopy := copyChannel_eq r.1 s
    rw [hfield]
    simp only
    by_cases hlen : r.1.length < 5
    · rw [if_pos hlen] at hcopy ⊢
      rw [bind_next hcopy]
      -- RSSI, SdBm, noise and age are fields 3 to 6
      have hseven : skipFields 7 (cString line) = skipFields 4 r.2 := by
        rw [show 7 = 3 + 4 from rfl, skipFields_add, hskip, Option.bind_some]
      cases hskip4 : skipFields 4 r.2 with
      | none =>
        rw [field_eq_none_of_skipFields (hseven.trans hskip4)]
        rfl
      | some rest' => exact parseFlags_eq (hseven.trans hskip4) _
    · rw [if_neg hlen] at hcopy ⊢
      rw [bind_fault hcopy]

/-- The line is for the access point; a BSSID is 17 characters or more. -/
def Matches (target line : List UInt8) : Prop := field 1 line = some target ∧ 17 ≤ target.length

/-- **What a line does**, from its fields. -/
theorem parseLine_of_matches {target : List UInt8} (h : Matches target line) (s : Scan) :
    parseLine target (cString line) s = fieldsOutcome line s := by
  obtain ⟨hbssid, hlen⟩ := h
  unfold parseLine
  cases hskip : skipFields 1 (cString line) with
  | none =>
    rw [field_eq_none_of_skipFields hskip] at hbssid
    cases hbssid
  | some rest =>
    simp only
    cases htok : strtok blanks rest with
    | none =>
      rw [field_eq_none_of_strtok hskip htok] at hbssid
      cases hbssid
    | some r =>
      obtain ⟨hfield, hskip2⟩ := field_of_strtok hskip htok
      rw [hfield] at hbssid
      have hcond : ¬ (r.1.length < 17 ∨ r.1 ≠ target) := by
        rw [Option.some.inj hbssid]
        rintro (hshort | hne)
        · omega
        · exact hne rfl
      simp only [if_neg hcond]
      exact parseChannel_eq hskip2 s

/-- Another line does nothing. -/
theorem parseLine_of_not_matches {target : List UInt8} (h : ¬ Matches target line) (s : Scan) :
    parseLine target (cString line) s = .next true s := by
  unfold parseLine
  cases hskip : skipFields 1 (cString line) with
  | none => rfl
  | some rest =>
    simp only
    cases htok : strtok blanks rest with
    | none => rfl
    | some r =>
      obtain ⟨hfield, -⟩ := field_of_strtok hskip htok
      have hcond : r.1.length < 17 ∨ r.1 ≠ target := by
        by_contra hno
        rw [not_or, Decidable.not_not] at hno
        refine h ⟨hfield.trans (congrArg some hno.2), ?_⟩
        rw [← hno.2]
        omega
      simp only [if_pos hcond]
      rfl

end line

/-! ## What a line says -/

/-- The line takes the loop to its end. -/
def Stops (target line : List UInt8) : Prop :=
  Matches target line ∧ (field 2 line).isSome ∧ (field 7 line).isSome

instance (target line : List UInt8) : Decidable (Matches target line) :=
  inferInstanceAs (Decidable (_ ∧ _))

instance (target line : List UInt8) : Decidable (Stops target line) :=
  inferInstanceAs (Decidable (_ ∧ _))

/-- The line is for another access point, or what is copied of it fits: the channel in its 5
bytes, and the SSID, which is copied where there was none, in its 64. -/
def Fits (target ssid line : List UInt8) : Prop :=
  Matches target line → ∀ ch, field 2 line = some ch → ch.length < 5 ∧
    (ssid = [] → (field 7 line).isSome → ∀ t, ssidField line = some t → t.length < 64)

/-- What a line with all its fields says: the channel, the flags, and the SSID where there was
none. -/
def report (ssid line : List UInt8) : Option (List UInt8 × Nat × List UInt8) :=
  (field 2 line).bind fun ch => (field 7 line).bind fun flags =>
    (if ssid = [] then ssidField line else some ssid).map fun t => (ch, flagsOf 0 flags, t)

/-- What the first line for the access point with all its fields says. -/
def answer (target ssid : List UInt8) (lines : List (List UInt8)) :
    Option (List UInt8 × Nat × List UInt8) :=
  lines.findSome? fun line => if field 1 line = some target then report ssid line else none

section report

variable {target ssid line ch flags : List UInt8}

theorem report_eq (hch : field 2 line = some ch) (hflags : field 7 line = some flags) :
    report ssid line = (if ssid = [] then ssidField line else some ssid).map fun t =>
      (ch, flagsOf 0 flags, t) := by
  rw [report, hch, Option.bind_some, hflags, Option.bind_some]

theorem fits_of_not_matches (h : ¬ Matches target line) : Fits target ssid line :=
  fun hmatch => absurd hmatch h

theorem not_stops_of_channel (h : field 2 line = none) : ¬ Stops target line := by
  rintro ⟨-, hch, -⟩
  rw [h] at hch
  exact Bool.false_ne_true hch

theorem not_stops_of_flags (h : field 7 line = none) : ¬ Stops target line := by
  rintro ⟨-, -, hflags⟩
  rw [h] at hflags
  exact Bool.false_ne_true hflags

theorem report_of_not_stops (hlen : 17 ≤ target.length) (h : ¬ Stops target line) :
    (if field 1 line = some target then report ssid line else none) = none := by
  split
  · next hbssid =>
    cases hch : field 2 line with
    | none => rw [report, hch, Option.bind_none]
    | some ch =>
      cases hflags : field 7 line with
      | none => rw [report, hch, Option.bind_some, hflags, Option.bind_none]
      | some flags =>
        refine absurd ⟨⟨hbssid, hlen⟩, ?_, ?_⟩ h
        · rw [hch]
          rfl
        · rw [hflags]
          rfl
  · rfl

end report

/-! ## The reads of a file -/

theorem takeLine_length_lt (n : Nat) : ∀ {s : List UInt8}, s ≠ [] →
    (takeLine (n + 1) s).2.length < s.length := by
  induction n with
  | zero =>
    intro s hs
    cases s with
    | nil => exact absurd rfl hs
    | cons c s =>
      rw [takeLine]
      split <;> exact Nat.lt_succ_self _
  | succ n ih =>
    intro s hs
    cases s with
    | nil => exact absurd rfl hs
    | cons c s =>
      rw [takeLine]
      split
      · exact Nat.lt_succ_self _
      · by_cases hnil : s = []
        · subst hnil
          exact Nat.lt_succ_self _
        · exact Nat.lt_trans (ih hnil) (Nat.lt_succ_self _)

theorem takeLine_ne_nil (n : Nat) {s : List UInt8} (hs : s ≠ []) : (takeLine (n + 1) s).1 ≠ [] := by
  cases s with
  | nil => exact absurd rfl hs
  | cons c s =>
    rw [takeLine]
    split <;> exact List.cons_ne_nil _ _

/-- A short read without a newline is the last. -/
theorem takeLine_rest_eq_nil (n : Nat) : ∀ {s : List UInt8}, (takeLine n s).1.length < n →
    (takeLine n s).1.getLast? ≠ some 10 → (takeLine n s).2 = [] := by
  induction n with
  | zero => intro s h _; exact absurd h (Nat.not_lt_zero _)
  | succ n ih =>
    intro s hlen hlast
    cases s with
    | nil => rfl
    | cons c s =>
      by_cases hc : c = 10
      · rw [takeLine, if_pos hc] at hlast
        exact absurd rfl hlast
      · rw [takeLine, if_neg hc] at hlen hlast ⊢
        refine ih (Nat.lt_of_succ_lt_succ hlen) fun heq => hlast ?_
        have hne : (takeLine n s).1 ≠ [] := fun hnil => by
          rw [hnil] at heq
          cases heq
        rw [List.getLast?_cons_of_ne_nil hne, heq]

/-- What the calls of `fgets` read, one after the other. -/
def reads (s : List UInt8) : List (List UInt8) :=
  if h : s = [] then []
  else (takeLine (MAX_LINE_LEN - 1) s).1 :: reads (takeLine (MAX_LINE_LEN - 1) s).2
termination_by s.length
decreasing_by exact takeLine_length_lt _ h

theorem reads_nil : reads [] = [] := by rw [reads, dif_pos rfl]

theorem reads_of_ne_nil {s : List UInt8} (h : s ≠ []) :
    reads s = (takeLine (MAX_LINE_LEN - 1) s).1 :: reads (takeLine (MAX_LINE_LEN - 1) s).2 := by
  rw [reads, dif_neg h]

theorem reads_length_le (s : List UInt8) : (reads s).length ≤ s.length := by
  induction hn : s.length using Nat.strongRecOn generalizing s with
  | _ n ih =>
    by_cases hs : s = []
    · subst hs
      rw [reads_nil]
      exact Nat.zero_le _
    · have hlt : (takeLine (MAX_LINE_LEN - 1) s).2.length < s.length :=
        takeLine_length_lt (MAX_LINE_LEN - 2) hs
      have hrest : (reads (takeLine (MAX_LINE_LEN - 1) s).2).length ≤
          (takeLine (MAX_LINE_LEN - 1) s).2.length := ih _ (hn ▸ hlt) _ rfl
      rw [reads_of_ne_nil hs, List.length_cons]
      omega

/-- **Lines that fit are read as they are.** -/
theorem reads_eq_fileLines (s : List UInt8)
    (hshort : ∀ l ∈ fileLines s, l.length < MAX_LINE_LEN) : reads s = fileLines s := by
  induction hlines : fileLines s generalizing s with
  | nil => rw [eq_nil_of_fileLines hlines, reads_nil]
  | cons l ls ih =>
    rw [hlines] at hshort
    have hle : l.length ≤ MAX_LINE_LEN - 1 := Nat.le_sub_one_of_lt (hshort l List.mem_cons_self)
    obtain ⟨-, hline, hrest, -⟩ := takeLine_of_fileLines s hlines hle
    have hs : s ≠ [] := by
      rintro rfl
      cases hlines
    rw [reads_of_ne_nil hs, hline, ih _ _ hrest]
    rw [hrest]
    exact fun l' hl' => hshort l' (List.mem_cons_of_mem _ hl')

/-- The reads up to the one that takes the loop to its end. -/
def upTo (target : List UInt8) : List (List UInt8) → List (List UInt8)
  | [] => []
  | line :: lines => line :: if Stops target line then [] else upTo target lines

theorem upTo_subset {target line : List UInt8} : ∀ {lines : List (List UInt8)},
    line ∈ upTo target lines → line ∈ lines := by
  intro lines
  induction lines with
  | nil => exact id
  | cons l ls ih =>
    rw [upTo, List.mem_cons, List.mem_cons]
    split
    · rintro (rfl | h)
      · exact Or.inl rfl
      · cases h
    · exact Or.imp_right ih

/-! ## The loop -/

section scan

variable {target ssid : List UInt8} {s : Scan}

/-- What `fgets` reads and leaves. -/
theorem fgets_eq (size : Nat) (s : Scan) :
    fgets size s = .next
      (if (takeLine (size - 1) s.file).1 = [] then none else some (takeLine (size - 1) s.file).1)
      { s with
        file := (takeLine (size - 1) s.file).2
        eof := s.eof || ((takeLine (size - 1) s.file).1.length < size - 1 &&
          (takeLine (size - 1) s.file).1.getLast? ≠ some 10) } := rfl

/-- A round that finds nothing to read leaves the loop. -/
theorem scanRound_end (target : List UInt8) (hfile : s.file = []) :
    ∃ s', scanRound target s = .next false s' := by
  unfold scanRound
  split
  · exact ⟨s, rfl⟩
  · unfold scanBody
    rw [bind_next (show modify _ s = Outcome.next () _ from rfl), bind_next (fgets_eq _ _)]
    simp only [hfile, takeLine_nil, if_true]
    exact ⟨_, rfl⟩

/-- **A round reads a line**, with the channel and the flags cleared. -/
theorem scanRound_eq (target : List UInt8) (heof : s.eof = false) (hfile : s.file ≠ []) :
    ∃ s', scanRound target s =
        parseLine target (cString (takeLine (MAX_LINE_LEN - 1) s.file).1) s' ∧
      s'.file = (takeLine (MAX_LINE_LEN - 1) s.file).2 ∧ s'.ssid = s.ssid ∧ s'.flag = 0 ∧
      (s'.eof = true → s'.file = []) := by
  have hline : (takeLine (MAX_LINE_LEN - 1) s.file).1 ≠ [] :=
    takeLine_ne_nil (MAX_LINE_LEN - 2) hfile
  have hstate : (scanRound target s : Outcome ScanFault Int Scan Bool) = scanBody target s := by
    unfold scanRound
    rw [heof, if_neg Bool.false_ne_true]
  rw [hstate]
  unfold scanBody
  rw [bind_next (show modify _ s = Outcome.next () _ from rfl), bind_next (fgets_eq _ _),
    if_neg hline]
  refine ⟨_, rfl, rfl, rfl, rfl, fun h => ?_⟩
  have hshort : (s.eof || ((takeLine (MAX_LINE_LEN - 1) s.file).1.length < MAX_LINE_LEN - 1 &&
      (takeLine (MAX_LINE_LEN - 1) s.file).1.getLast? ≠ some 10)) = true := h
  rw [heof, Bool.false_or, Bool.and_eq_true] at hshort
  exact takeLine_rest_eq_nil _ (of_decide_eq_true hshort.1) (of_decide_eq_true hshort.2)

/-- What a read must meet: what is copied fits, and where the function returns `TRUE` for it the
answer is what it says. -/
def ReadRight (target ssid : List UInt8) (ans : Option (List UInt8 × Nat × List UInt8))
    (line : List UInt8) : Prop :=
  Fits target ssid line ∧
    (Stops target line → ∀ r, report ssid line = some r → ans = some r)

/-- The function is left with `TRUE` only where the answer is what it then says. -/
def LeavesRight (ans : Option (List UInt8 × Nat × List UInt8)) (r : Int) (s : Scan) : Prop :=
  r = TRUE → ans = some (s.channel, s.flag, s.ssid)

variable {ans : Option (List UInt8 × Nat × List UInt8)} {line : List UInt8}

theorem readRight_of_not_stops (hfits : Fits target ssid line) (hstops : ¬ Stops target line) :
    ReadRight target ssid ans line :=
  ⟨hfits, fun h => absurd h hstops⟩

/-- **What the part behind the flags does.** -/
theorem wp_ssidOutcome {ch flags : List UInt8} {N : Bool → Scan → Prop}
    (hmatch : Matches target line) (hch : field 2 line = some ch) (hfit : ch.length < 5)
    (hflags : field 7 line = some flags) (hssid : s.ssid = ssid) (hchannel : s.channel = ch)
    (hflag : s.flag = flagsOf 0 flags) :
    wp (ssidOutcome line) N (LeavesRight ans) (fun _ _ => False) s ↔
      ReadRight target ssid ans line := by
  have hstops : Stops target line := by
    refine ⟨hmatch, ?_, ?_⟩
    · rw [hch]
      rfl
    · rw [hflags]
      rfl
  unfold ReadRight Fits
  rw [report_eq hch hflags]
  unfold wp ssidOutcome
  by_cases hempty : s.ssid = []
  · rw [if_pos hempty, if_pos (hssid.symm.trans hempty)]
    -- a hidden network has no name in the line
    cases hfield : ssidField line with
    | none =>
      refine iff_of_true (fun h => ?_) ⟨fun _ ch' hch' => ⟨?_, fun _ _ t ht => ?_⟩, ?_⟩
      · exact absurd h (by decide)
      · rw [hch] at hch'
        exact Option.some.inj hch' ▸ hfit
      · cases ht
      · intro _ r hr
        cases hr
    | some t =>
      simp only
      by_cases hlen : t.length < 64
      · rw [if_pos hlen]
        constructor
        · intro hleave
          refine ⟨fun _ ch' hch' => ⟨?_, fun _ _ t' ht' => ?_⟩, fun _ r hr => ?_⟩
          · rw [hch] at hch'
            exact Option.some.inj hch' ▸ hfit
          · exact Option.some.inj ht' ▸ hlen
          · rw [← Option.some.inj hr, hleave rfl]
            show some (s.channel, s.flag, t) = _
            rw [hchannel, hflag]
        · rintro ⟨-, hans⟩ -
          rw [hans hstops _ rfl]
          show _ = some (s.channel, s.flag, t)
          rw [hchannel, hflag]
      · rw [if_neg hlen]
        refine iff_of_false id ?_
        rintro ⟨hfits, -⟩
        exact hlen ((hfits hmatch ch hch).2 (hssid.symm.trans hempty) hstops.2.2 t rfl)
  · rw [if_neg hempty, if_neg fun h => hempty (hssid.trans h)]
    constructor
    · intro hleave
      refine ⟨fun _ ch' hch' => ⟨?_, fun h => absurd (hssid.trans h) hempty⟩, fun _ r hr => ?_⟩
      · rw [hch] at hch'
        exact Option.some.inj hch' ▸ hfit
      · rw [← Option.some.inj hr, hleave rfl, hchannel, hflag, hssid]
    · rintro ⟨-, hans⟩ -
      rw [hans hstops _ rfl, hchannel, hflag, hssid]

/-- The state behind a line that does not stop the loop: it may have left its channel. -/
def passed (target line : List UInt8) (s : Scan) : Scan :=
  if Matches target line then { s with channel := (field 2 line).getD s.channel } else s

/-- **What a line does**: it stops the loop, or it changes the channel at most. -/
theorem wp_parseLine {N : Bool → Scan → Prop} (hssid : s.ssid = ssid) (hflag : s.flag = 0) :
    wp (parseLine target (cString line)) N (LeavesRight ans) (fun _ _ => False) s ↔
      ReadRight target ssid ans line ∧
        (¬ Stops target line → N true (passed target line s)) := by
  unfold passed
  by_cases hmatch : Matches target line
  · rw [wp_congr (parseLine_of_matches hmatch s), if_pos hmatch]
    unfold wp fieldsOutcome
    cases hch : field 2 line with
    | none =>
      -- a line without the field is passed over
      have hnot : ¬ Stops target line := not_stops_of_channel hch
      have hfits : Fits target ssid line := fun _ ch hch' => by
        rw [hch] at hch'
        cases hch'
      exact ⟨fun h => ⟨readRight_of_not_stops hfits hnot, fun _ => h⟩, fun h => h.2 hnot⟩
    | some ch =>
      simp only
      by_cases hfit : ch.length < 5
      · rw [if_pos hfit]
        cases hflags : field 7 line with
        | none =>
          have hnot : ¬ Stops target line := not_stops_of_flags hflags
          have hfits : Fits target ssid line := fun _ ch' hch' => by
            rw [hch] at hch'
            refine ⟨Option.some.inj hch' ▸ hfit, fun _ hsome => ?_⟩
            rw [hflags] at hsome
            exact absurd hsome Bool.false_ne_true
          exact ⟨fun h => ⟨readRight_of_not_stops hfits hnot, fun _ => h⟩, fun h => h.2 hnot⟩
        | some flags =>
          -- the line has all fields, and the survey ends with it
          have hstops : Stops target line := by
            refine ⟨hmatch, ?_, ?_⟩
            · rw [hch]
              rfl
            · rw [hflags]
              rfl
          have hout : wp (ssidOutcome line) N (LeavesRight ans) (fun _ _ => False)
              { s with channel := ch, flag := flagsOf s.flag flags } ↔
              ReadRight target ssid ans line :=
            wp_ssidOutcome hmatch hch hfit hflags hssid rfl (by rw [hflag])
          exact ⟨fun h => ⟨hout.mp h, fun hnot => absurd hstops hnot⟩, fun h => hout.mpr h.1⟩
      · rw [if_neg hfit]
        exact iff_of_false id fun h => hfit (h.1.1 hmatch ch hch).1
  · rw [wp_congr (parseLine_of_not_matches hmatch s), if_neg hmatch]
    have hnot : ¬ Stops target line := fun h => hmatch h.1
    exact ⟨fun h => ⟨readRight_of_not_stops (fits_of_not_matches hmatch) hnot, fun _ => h⟩,
      fun h => h.2 hnot⟩

/-- **The loop**, from the reads that are left: each that is reached must be right. -/
theorem wp_scan (lines : List (List UInt8)) : ∀ {s : Scan} {n : Nat}, reads s.file = lines →
    (s.eof = true → s.file = []) → s.ssid = ssid → lines.length < n →
    (wp (loop .rounds (scanRound target) n) (fun _ _ => True) (LeavesRight ans)
        (fun _ _ => False) s ↔
      ∀ line ∈ upTo target lines, ReadRight target ssid ans line) := by
  induction lines with
  | nil =>
    intro s n hreads heof hssid hn
    have hfile : s.file = [] := by
      by_contra hne
      rw [reads_of_ne_nil hne] at hreads
      cases hreads
    obtain ⟨n, rfl⟩ : ∃ m, n = m + 1 := ⟨n - 1, by omega⟩
    obtain ⟨s', hround⟩ := scanRound_end target hfile
    rw [wp_loop_succ, wp_of_next hround]
    exact iff_of_true trivial fun line hline => nomatch hline
  | cons l ls ih =>
    intro s n hreads heof hssid hn
    have hfile : s.file ≠ [] := by
      intro hnil
      rw [hnil, reads_nil] at hreads
      cases hreads
    have hopen : s.eof = false := by
      cases h : s.eof with
      | false => rfl
      | true => exact absurd (heof h) hfile
    obtain ⟨n, rfl⟩ : ∃ m, n = m + 1 := ⟨n - 1, by omega⟩
    rw [reads_of_ne_nil hfile] at hreads
    obtain ⟨hl, hls⟩ := List.cons.inj hreads
    -- one round takes the first line, and leaves the rest of the file
    obtain ⟨s1, hround, hrest, hssid1, hflag, heof1⟩ := scanRound_eq target hopen hfile
    rw [hl] at hround
    rw [wp_loop_succ, wp_congr hround, wp_parseLine (hssid1.trans hssid) hflag, if_pos rfl,
      upTo, List.forall_mem_cons]
    refine and_congr_right fun _ => ?_
    by_cases hstops : Stops target l
    · rw [if_pos hstops]
      exact iff_of_true (fun h => absurd hstops h) fun line hline => nomatch hline
    · rw [if_neg hstops]
      have hpassed : (passed target l s1).file = s1.file ∧ (passed target l s1).eof = s1.eof ∧
          (passed target l s1).ssid = s1.ssid := by
        unfold passed
        split <;> exact ⟨rfl, rfl, rfl⟩
      obtain ⟨hpfile, hpeof, hpssid⟩ := hpassed
      rw [← ih (s := passed target l s1) (n := n) ?_ ?_ ?_ ?_]
      · exact ⟨fun h => h hstops, fun h _ => h⟩
      · rw [hpfile, hrest, hls]
      · rw [hpeof, hpfile]
        exact heof1
      · exact hpssid.trans (hssid1.trans hssid)
      · exact Nat.lt_of_succ_lt_succ hn

end scan

/-! ## The function -/

/-- **Scan results are parsed safely and for the right access point**: no copy overruns, and with
`TRUE` what is returned is what the first line for the access point says. -/
def ParsesRight (opened : Bool) (content target ssid : List UInt8) : Prop :=
  wp (parseScanres opened target) (fun _ _ => False)
    (LeavesRight (answer target ssid (fileLines content))) (fun _ _ => False)
    { file := content, ssid := ssid }

section parses

variable {opened : Bool} {content target ssid : List UInt8}

/-- A target that is too short stops at no line. -/
theorem readRight_of_short {ans : Option (List UInt8 × Nat × List UInt8)} {line : List UInt8}
    (hshort : ¬ 17 ≤ target.length) : ReadRight target ssid ans line :=
  readRight_of_not_stops (fun h => absurd h.2 hshort) fun h => hshort h.1.2

/-- **When scan results are parsed right**: where the loop is reached, each read up to the first
for the access point with channel and flags fits what it is copied to, and where that read has
all its fields it says what the first line of the file with all its fields does. -/
theorem parsesRight_iff (opened : Bool) (content target ssid : List UInt8) :
    ParsesRight opened content target ssid ↔
      (opened = true → 17 ≤ target.length → ∀ line ∈ upTo target (reads content),
        ReadRight target ssid (answer target ssid (fileLines content)) line) := by
  unfold ParsesRight parseScanres
  rw [wp_bind, wp_exitIf]
  by_cases hopened : opened = true
  · rw [if_neg (fun h => Bool.false_ne_true (h.symm.trans hopened)), wp_bind, wp_exitIf]
    by_cases hlen : target.length < 6
    · rw [if_pos hlen]
      exact iff_of_true (fun h => absurd h (by decide)) fun _ h => by omega
    · rw [if_neg hlen, wp_bind, wp_gets, wp_bind]
      have hloop : wp (loop .rounds (scanRound target) (content.length + 2)) (fun _ _ => True)
          (LeavesRight (answer target ssid (fileLines content))) (fun _ _ => False)
          { file := content, ssid := ssid } ↔ _ :=
        wp_scan (reads content) rfl (fun h => absurd h Bool.false_ne_true) rfl
          (Nat.lt_of_le_of_lt (reads_length_le content) (by omega))
      -- what follows the loop is another code than `TRUE`
      refine ⟨fun h _ _ => hloop.mp
        (wp_mono h (fun _ _ _ => trivial) (fun _ _ h => h) fun _ _ h => h), fun h => ?_⟩
      refine wp_mono (hloop.mpr ?_) (fun _ s _ htrue => absurd htrue (by decide))
        (fun _ _ h => h) fun _ _ h => h
      by_cases hshort : 17 ≤ target.length
      · exact h hopened hshort
      · exact fun line _ => readRight_of_short hshort
  · rw [if_pos (by simpa using hopened)]
    exact iff_of_true (fun h => absurd h (by decide)) fun h => absurd h hopened

/-- The first read that stops the loop says what the first line does, where the reads are the
lines. -/
theorem answer_of_stops (hlen : 17 ≤ target.length) (lines : List (List UInt8)) :
    ∀ {line : List UInt8}, line ∈ upTo target lines → Stops target line →
      ∀ r, report ssid line = some r → answer target ssid lines = some r := by
  induction lines with
  | nil => intro line hmem; cases hmem
  | cons l ls ih =>
    intro line hmem hstops r hr
    unfold answer
    rw [List.findSome?_cons]
    rw [upTo, List.mem_cons] at hmem
    by_cases hl : Stops target l
    · rw [if_pos hl] at hmem
      obtain rfl | hmem := hmem
      · rw [if_pos hl.1.1, hr]
      · cases hmem
    · rw [if_neg hl] at hmem
      obtain rfl | hmem := hmem
      · exact absurd hstops hl
      · rw [report_of_not_stops hlen hl]
        exact ih hmem hstops r hr

/-- **Lines that fit the buffer are parsed right** where what is copied of them fits. -/
theorem parsesRight_of_lines (hshort : ∀ l ∈ fileLines content, l.length < MAX_LINE_LEN)
    (hfits : ∀ l ∈ fileLines content, Fits target ssid l) :
    ParsesRight opened content target ssid := by
  rw [parsesRight_iff, reads_eq_fileLines content hshort]
  intro _ hlen line hmem
  refine ⟨hfits line ?_, answer_of_stops hlen _ hmem⟩
  exact upTo_subset hmem

end parses

/-- A line for an access point whose channel has five digits. -/
def longChannel : List UInt8 := chars "1 00:11:22:33:44:55 10000 1 2 3 4 [ESS] net\n"

/-- The channel of `longChannel` overruns its buffer. -/
theorem not_parsesRight :
    ¬ ∀ (opened : Bool) (content target ssid : List UInt8),
      ParsesRight opened content target ssid := by
  intro hall
  have hright := hall true longChannel (chars "00:11:22:33:44:55") []
  have hfault : (parseScanres true (chars "00:11:22:33:44:55") { file := longChannel }).IsFault
      .channel := by decide
  exact wp_fault_of hright hfault.eq

end SimpleConfig

end Rk3399
