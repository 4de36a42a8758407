import Rk3399.Common.Words
import Rk3399.VendorStorage.Model.Tool
/-!
# Taking a command apart

What `splitCmd` does with a string, by the words in the part that its counter
counts: it runs off the front of a string without a word, it turns away a
single word, and it copies two words where the arrays are long enough for
them.
-/

namespace Rk3399

namespace VendorStorage

open Prog

section

variable {str : CmdString} {pre w core suf : List UInt8} {x : UInt8} {s : Tool} {n a m : Nat}

/-! ## Characters -/

theorem charAt_eq (h : str.chars = pre ++ x :: suf) : charAt str pre.length s = .next x s := by
  have hlt : pre.length < str.chars.length := by
    rw [h, List.length_append, List.length_cons]
    omega
  unfold charAt
  rw [if_pos ⟨by omega, by omega⟩]
  have hget : str.chars.getD pre.length 0 = x := by
    rw [h, List.getD_eq_getElem?_getD, List.getElem?_append_right (Nat.le_refl _), Nat.sub_self]
    rfl
  exact congrArg (Outcome.next · s) hget

/-- In front of the string there is no character. -/
theorem charAt_neg {k : Int} (h : k < 0) : charAt str k s = .fault .string s := by
  unfold charAt
  rw [if_neg (by omega)]

/-! ## The rounds -/

theorem trimRound_eq (hx : charAt str (s.cmd + (s.cnt - 1)) s = .next x s) :
    trimRound str s =
      if x = space then .next true { s with cnt := s.cnt - 1 } else .next false s := by
  unfold trimRound
  rw [bind_next (show gets id s = .next s s from rfl), bind_next hx]
  split <;> rfl

theorem skipRound_eq (hx : charAt str s.cmd s = .next x s) :
    skipRound str s =
      if x = space then
        if s.cnt - 1 = 0 then .exit .form { s with cmd := s.cmd + 1, cnt := s.cnt - 1 }
        else .next true { s with cmd := s.cmd + 1, cnt := s.cnt - 1 }
      else .next false s := by
  unfold skipRound
  rw [bind_next (show gets id s = .next s s from rfl), bind_next hx]
  by_cases hspace : x = space
  · rw [if_pos hspace, if_pos hspace, bind_next (show modify _ _ = .next () _ from rfl)]
    by_cases hcnt : s.cnt - 1 = 0
    · rw [bind_exit (exitIf_of _ (by exact hcnt)), if_pos hcnt]
    · rw [bind_next (exitIf_of_not _ (by exact hcnt)), if_neg hcnt]
      rfl
  · rw [if_neg hspace, if_neg hspace]
    rfl

/-- A character that is no space is passed on the way to the end of the identifier. -/
theorem splitRound_next (hi : (s.i : Int) < s.tmp) (hx : charAt str (s.cmd + s.i) s = .next x s)
    (hspace : x ≠ space) : splitRound str s = .next true { s with i := s.i + 1 } := by
  unfold splitRound
  rw [bind_next (show gets id s = .next s s from rfl), if_pos hi, bind_next hx, if_neg hspace]
  rfl

/-- A space ends the identifier. -/
theorem splitRound_space (hi : (s.i : Int) < s.tmp)
    (hx : charAt str (s.cmd + s.i) s = .next space s) :
    splitRound str s =
      if s.i + 1 ≤ 20 then .next false { s with
        vendorId := poke 0 ((str.chars.drop s.cmd).take (s.i + 1)) fun _ => 0
        cmd := s.cmd + s.i
        cnt := s.cnt - s.i }
      else .fault .vendorId { s with vendorId := fun _ => 0 } := by
  unfold splitRound
  rw [bind_next (show gets id s = .next s s from rfl), if_pos hi, bind_next hx, if_pos rfl]
  unfold takeId
  by_cases hlen : s.i + 1 ≤ 20
  · rw [if_pos hlen, bind_next (by
      rw [bind_next (show modify _ _ = .next () _ from rfl),
        bind_next (assert_of _ (by exact hlen))]
      rfl)]
    rfl
  · rw [if_neg hlen, bind_fault (by
      rw [bind_next (show modify _ _ = .next () _ from rfl),
        bind_fault (assert_of_not _ (by exact hlen))])]

theorem checkRound_eq (hi : (s.i : Int) < s.cnt) (hx : charAt str (s.cmd + s.i) s = .next x s) :
    checkRound str s =
      if x = space then .exit .form s else .next true { s with i := s.i + 1 } := by
  unfold checkRound
  rw [bind_next (show gets id s = .next s s from rfl), if_pos hi, bind_next hx]
  split <;> rfl

/-! ## The loops -/

/-- **The spaces at the end are passed**, up to a character that is none. -/
theorem loop_trim (hx : x ≠ space) (h : str.chars = pre ++ x :: (List.replicate a space ++ suf))
    (hcmd : s.cmd = 0) (hcnt : s.cnt = pre.length + 1 + a) (hn : a < n) :
    loop .rounds (trimRound str) n s =
      (.next () { s with cnt := pre.length + 1 } : Outcome VendorFault Reject Tool Unit) := by
  obtain ⟨n, rfl⟩ : ∃ k, n = k + 1 := ⟨n - 1, by omega⟩
  rw [loop_succ]
  induction a generalizing s suf n with
  | zero =>
    have hat : charAt str (s.cmd + (s.cnt - 1)) s = .next x s := by
      rw [hcmd, hcnt, show (((0 : Nat) : Int) + ((pre.length : Int) + 1 + (0 : Nat) - 1)) =
        pre.length by omega]
      exact charAt_eq h
    rw [trimRound_eq hat, if_neg hx]
    show Outcome.next () s = _
    rw [show (pre.length : Int) + 1 = s.cnt by omega]
  | succ a ih =>
    have hsplit : str.chars = (pre ++ x :: List.replicate a space) ++ space :: suf := by
      rw [h, List.replicate_succ']
      simp
    have hat : charAt str (s.cmd + (s.cnt - 1)) s = .next space s := by
      rw [hcmd, hcnt,
        show (((0 : Nat) : Int) + ((pre.length : Int) + 1 + ((a + 1 : Nat) : Int) - 1))
        = (pre ++ x :: List.replicate a space).length by simp; omega]
      exact charAt_eq hsplit
    obtain ⟨n, rfl⟩ : ∃ k, n = k + 1 := ⟨n - 1, by omega⟩
    have hnext : str.chars = pre ++ x :: (List.replicate a space ++ space :: suf) := by
      rw [hsplit, List.append_assoc, List.cons_append]
    rw [trimRound_eq hat, if_pos rfl]
    show loop .rounds (trimRound str) (n + 1) _ = _
    rw [loop_succ]
    exact ih (s := { s with cnt := s.cnt - 1 }) hnext hcmd (show s.cnt - 1 = _ by omega) n
      (by omega)

/-- **Spaces alone run off the front of the string.** -/
theorem loop_trim_blank (h : str.chars = List.replicate a space ++ suf) (hcmd : s.cmd = 0)
    (hcnt : s.cnt = a) (hn : a < n) :
    loop .rounds (trimRound str) n s =
      (.fault .string { s with cnt := 0 } : Outcome VendorFault Reject Tool Unit) := by
  obtain ⟨n, rfl⟩ : ∃ k, n = k + 1 := ⟨n - 1, by omega⟩
  rw [loop_succ]
  induction a generalizing s suf n with
  | zero =>
    unfold trimRound
    rw [bind_next (show gets id s = .next s s from rfl), bind_fault (charAt_neg (by omega))]
    show Outcome.fault VendorFault.string s = _
    rw [show (0 : Int) = s.cnt by omega]
  | succ a ih =>
    have hsplit : str.chars = List.replicate a space ++ space :: suf := by
      rw [h, List.replicate_succ']
      simp
    have hat : charAt str (s.cmd + (s.cnt - 1)) s = .next space s := by
      rw [hcmd, hcnt, show (((0 : Nat) : Int) + (((a + 1 : Nat) : Int) - 1))
        = (List.replicate a space).length by simp]
      exact charAt_eq hsplit
    obtain ⟨n, rfl⟩ : ∃ k, n = k + 1 := ⟨n - 1, by omega⟩
    rw [trimRound_eq hat, if_pos rfl]
    show loop .rounds (trimRound str) (n + 1) _ = _
    rw [loop_succ]
    exact ih (s := { s with cnt := s.cnt - 1 }) hsplit hcmd
      (show s.cnt - 1 = _ by omega) n (by omega)

/-- **The spaces in front are passed**, up to a character that is none. -/
theorem loop_skip (hx : x ≠ space) (h : str.chars = pre ++ (List.replicate a space ++ x :: suf))
    (hcmd : s.cmd = pre.length) (hcnt : (a : Int) < s.cnt) (hn : a < n) :
    loop .rounds (skipRound str) n s =
      (.next () { s with cmd := pre.length + a, cnt := s.cnt - a } :
        Outcome VendorFault Reject Tool Unit) := by
  obtain ⟨n, rfl⟩ : ∃ k, n = k + 1 := ⟨n - 1, by omega⟩
  rw [loop_succ]
  induction a generalizing s pre n with
  | zero =>
    have hat : charAt str s.cmd s = .next x s := by
      rw [hcmd]
      exact charAt_eq h
    rw [skipRound_eq hat, if_neg hx]
    show Outcome.next () s = _
    rw [Nat.add_zero, ← hcmd, show s.cnt - ((0 : Nat) : Int) = s.cnt by omega]
  | succ a ih =>
    have hsplit : str.chars = pre ++ space :: (List.replicate a space ++ x :: suf) := h
    have hat : charAt str s.cmd s = .next space s := by
      rw [hcmd]
      exact charAt_eq hsplit
    obtain ⟨n, rfl⟩ : ∃ k, n = k + 1 := ⟨n - 1, by omega⟩
    have hnext : str.chars = (pre ++ [space]) ++ (List.replicate a space ++ x :: suf) := by
      rw [hsplit, List.append_assoc]
      rfl
    rw [skipRound_eq hat, if_pos rfl, if_neg (by omega)]
    show loop .rounds (skipRound str) (n + 1) _ = _
    rw [loop_succ, ih (s := { s with cmd := s.cmd + 1, cnt := s.cnt - 1 }) hnext
      (by simp [hcmd]) (show (a : Int) < s.cnt - 1 by omega) n (by omega)]
    simp only [List.length_append, List.length_singleton, Outcome.next.injEq, Tool.mk.injEq,
      and_true, true_and]
    omega

/-- **The identifier is looked through**, from `done` on up to the space behind it. -/
theorem loop_split {done todo : List UInt8} (htodo : space ∉ todo)
    (h : str.chars = pre ++ (done ++ (todo ++ space :: suf))) (hcmd : s.cmd = pre.length)
    (hi : s.i = done.length) (htmp : ((done ++ todo).length : Int) < s.tmp) (hn : todo.length < n) :
    loop .rounds (splitRound str) n s =
      if (done ++ todo).length + 1 ≤ 20 then
        (.next () { s with
          i := (done ++ todo).length
          vendorId := poke 0 (done ++ todo ++ [space]) fun _ => 0
          cmd := pre.length + (done ++ todo).length
          cnt := s.cnt - (done ++ todo).length } : Outcome VendorFault Reject Tool Unit)
      else .fault .vendorId { s with i := (done ++ todo).length, vendorId := fun _ => 0 } := by
  obtain ⟨n, rfl⟩ : ∃ k, n = k + 1 := ⟨n - 1, by omega⟩
  rw [loop_succ]
  -- by induction on the characters up to the space
  induction todo generalizing done s n with
  | nil =>
    simp only [List.append_nil] at htmp ⊢
    have hsplit : str.chars = (pre ++ done) ++ space :: suf := by
      rw [h, List.append_assoc]
      rfl
    have hat : charAt str (s.cmd + s.i) s = .next space s := by
      rw [hcmd, hi, ← Int.natCast_add, ← List.length_append]
      exact charAt_eq hsplit
    have htake : (str.chars.drop s.cmd).take (s.i + 1) = done ++ [space] := by
      have hspace : done ++ ([] ++ space :: suf) = done ++ [space] ++ suf := by simp
      rw [h, hcmd, List.drop_left, hi, hspace, ← List.length_singleton (a := space),
        ← List.length_append, List.take_left]
    rw [splitRound_space (by omega) hat, htake, hi, hcmd]
    by_cases hlen : done.length + 1 ≤ 20
    · rw [if_pos hlen, if_pos hlen]
    · rw [if_neg hlen, if_neg hlen]
  | cons x todo ih =>
    obtain ⟨hx, htodo⟩ : space ≠ x ∧ space ∉ todo := by simpa using htodo
    have hsplit : str.chars = (pre ++ done) ++ x :: (todo ++ space :: suf) := by
      rw [h, List.append_assoc, List.cons_append]
    have hat : charAt str (s.cmd + s.i) s = .next x s := by
      rw [hcmd, hi, ← Int.natCast_add, ← List.length_append]
      exact charAt_eq hsplit
    have hnext : str.chars = pre ++ ((done ++ [x]) ++ (todo ++ space :: suf)) := by
      rw [hsplit]
      simp
    have hdone : done ++ x :: todo = done ++ [x] ++ todo := by simp
    rw [hdone] at htmp ⊢
    obtain ⟨n, rfl⟩ : ∃ k, n = k + 1 := ⟨n - 1, by rw [List.length_cons] at hn; omega⟩
    rw [splitRound_next (by rw [hi]; simp at htmp; omega) hat (Ne.symm hx)]
    show loop .rounds (splitRound str) (n + 1) _ = _
    rw [loop_succ]
    exact ih (s := { s with i := s.i + 1 }) htodo hnext hcmd
      (by simp [hi]) htmp n (by rw [List.length_cons] at hn; omega)

/-- A string without a space is looked through to its end. -/
theorem loop_split_none {done todo : List UInt8} (htodo : space ∉ todo)
    (h : str.chars = pre ++ (done ++ (todo ++ suf))) (hcmd : s.cmd = pre.length)
    (hi : s.i = done.length) (htmp : s.tmp = (done ++ todo).length) (hn : todo.length < n) :
    loop .rounds (splitRound str) n s =
      (.next () { s with i := (done ++ todo).length } : Outcome VendorFault Reject Tool Unit) := by
  obtain ⟨n, rfl⟩ : ∃ k, n = k + 1 := ⟨n - 1, by omega⟩
  rw [loop_succ]
  induction todo generalizing done s n with
  | nil =>
    rw [List.append_nil] at htmp ⊢
    unfold splitRound
    rw [bind_next (show gets id s = .next s s from rfl), if_neg (by omega), ← hi]
    rfl
  | cons x todo ih =>
    obtain ⟨hx, htodo⟩ : space ≠ x ∧ space ∉ todo := by simpa using htodo
    have hsplit : str.chars = (pre ++ done) ++ x :: (todo ++ suf) := by
      rw [h, List.append_assoc, List.cons_append]
    have hat : charAt str (s.cmd + s.i) s = .next x s := by
      rw [hcmd, hi, ← Int.natCast_add, ← List.length_append]
      exact charAt_eq hsplit
    have hnext : str.chars = pre ++ ((done ++ [x]) ++ (todo ++ suf)) := by
      rw [hsplit]
      simp
    have hdone : done ++ x :: todo = done ++ [x] ++ todo := by simp
    rw [hdone] at htmp ⊢
    obtain ⟨n, rfl⟩ : ∃ k, n = k + 1 := ⟨n - 1, by rw [List.length_cons] at hn; omega⟩
    rw [splitRound_next (by rw [hi]; simp at htmp; omega) hat (Ne.symm hx)]
    show loop .rounds (splitRound str) (n + 1) _ = _
    rw [loop_succ]
    exact ih (s := { s with i := s.i + 1 }) htodo hnext hcmd
      (by simp [hi]) htmp n (by rw [List.length_cons] at hn; omega)

/-- **The number is looked through**: a space in it is the end of the command. -/
theorem loop_check {done todo : List UInt8} (h : str.chars = pre ++ (done ++ (todo ++ suf)))
    (hcmd : s.cmd = pre.length) (hi : s.i = done.length) (hcnt : s.cnt = (done ++ todo).length)
    (hn : todo.length < n) :
    (space ∉ todo → loop .rounds (checkRound str) n s =
      (.next () { s with i := (done ++ todo).length } : Outcome VendorFault Reject Tool Unit)) ∧
    (space ∈ todo → ∃ i, loop .rounds (checkRound str) n s =
      (.exit .form { s with i := i } : Outcome VendorFault Reject Tool Unit)) := by
  obtain ⟨n, rfl⟩ : ∃ k, n = k + 1 := ⟨n - 1, by omega⟩
  rw [loop_succ]
  -- by induction on the characters that are left of the word
  induction todo generalizing done s n with
  | nil =>
    rw [List.append_nil] at hcnt ⊢
    refine ⟨fun _ => ?_, fun h => absurd h List.not_mem_nil⟩
    unfold checkRound
    rw [bind_next (show gets id s = .next s s from rfl), if_neg (by omega), ← hi]
    rfl
  | cons x todo ih =>
    have hsplit : str.chars = (pre ++ done) ++ x :: (todo ++ suf) := by
      rw [h, List.append_assoc, List.cons_append]
    have hat : charAt str (s.cmd + s.i) s = .next x s := by
      rw [hcmd, hi, ← Int.natCast_add, ← List.length_append]
      exact charAt_eq hsplit
    have hnext : str.chars = pre ++ ((done ++ [x]) ++ (todo ++ suf)) := by
      rw [hsplit]
      simp
    have hdone : done ++ x :: todo = done ++ [x] ++ todo := by simp
    rw [hdone] at hcnt ⊢
    obtain ⟨n, rfl⟩ : ∃ k, n = k + 1 := ⟨n - 1, by rw [List.length_cons] at hn; omega⟩
    rw [checkRound_eq (by rw [hi]; simp at hcnt; omega) hat]
    by_cases hx : x = space
    · rw [if_pos hx]
      refine ⟨fun hnot => absurd (hx ▸ List.mem_cons_self) hnot, fun _ => ⟨s.i, rfl⟩⟩
    · rw [if_neg hx]
      show (_ → loop .rounds (checkRound str) (n + 1) _ = _) ∧ (_ → ∃ i,
        loop .rounds (checkRound str) (n + 1) _ = _)
      rw [loop_succ]
      obtain ⟨hnone, hsome⟩ := ih (s := { s with i := s.i + 1 }) hnext hcmd (by simp [hi]) hcnt n
        (by rw [List.length_cons] at hn; omega)
      refine ⟨fun hnot => hnone fun hin => hnot (List.mem_cons_of_mem _ hin), fun hin => ?_⟩
      exact hsome ((List.mem_cons.1 hin).resolve_left fun h => hx h.symm)

/-! ## The parts of a command -/

/-- **The spaces around the command are passed.** -/
theorem trimCmd_eq {body : List UInt8} {c : Nat} (hbody : Trimmed space body)
    (h : str.chars = List.replicate a space ++ (body ++ (List.replicate c space ++ suf)))
    (hcnt : i32 str.chars.length = a + body.length + c) (hcmd : s.cmd = 0) :
    trimCmd str s = .next () { s with cmd := a, cnt := body.length } := by
  obtain ⟨x, l, hhead, hx⟩ := hbody.head
  obtain ⟨l', y, hlast, hy⟩ := hbody.last
  have hlen : str.chars.length = a + (body.length + (c + suf.length)) := by
    rw [h]
    simp
  have htrim : str.chars =
      (List.replicate a space ++ l') ++ y :: (List.replicate c space ++ suf) := by
    rw [h, hlast]
    simp
  have hskip : str.chars = [] ++ (List.replicate a space ++
      x :: (l ++ (List.replicate c space ++ suf))) := by
    rw [h, hhead]
    simp
  have hbodyLen : body.length = l'.length + 1 := by
    rw [hlast, List.length_append, List.length_singleton]
  have hpre : (List.replicate a space ++ l').length = a + l'.length := by simp
  have hcount : i32 str.chars.length = ((List.replicate a space ++ l').length : Int) + 1 + c := by
    omega
  have hloop := loop_trim (s := { s with cnt := i32 str.chars.length }) (n := str.rounds) hy htrim
    hcmd hcount (by unfold CmdString.rounds; omega)
  unfold trimCmd
  rw [bind_next (show modify _ s = .next () { s with cnt := i32 str.chars.length } from rfl),
    bind_next hloop, loop_skip hx hskip (by exact hcmd) (by show (a : Int) < _ + 1; omega)
      (by unfold CmdString.rounds; omega)]
  simp only [List.length_nil, Nat.zero_add, Outcome.next.injEq, Tool.mk.injEq, and_true, true_and]
  omega

/-- Spaces alone. -/
theorem trimCmd_blank (h : str.chars = List.replicate a space ++ suf)
    (hcnt : i32 str.chars.length = a) (hcmd : s.cmd = 0) :
    ∃ t, trimCmd str s = .fault .string t := by
  have hlen : str.chars.length = a + suf.length := by
    rw [h]
    simp
  have hloop := loop_trim_blank (s := { s with cnt := i32 str.chars.length }) (n := str.rounds) h
    hcmd hcnt (by unfold CmdString.rounds; omega)
  unfold trimCmd
  rw [bind_next (show modify _ s = .next () { s with cnt := i32 str.chars.length } from rfl),
    bind_fault hloop]
  exact ⟨_, rfl⟩

/-- A string that is too long for the counter. -/
theorem trimCmd_neg (h : i32 str.chars.length < 0) (hcmd : s.cmd = 0) :
    ∃ t, trimCmd str s = .fault .string t := by
  have hround : ∀ t : Tool, t.cmd = 0 → t.cnt < 0 → trimRound str t = .fault .string t := by
    intro t htcmd htcnt
    unfold trimRound
    rw [bind_next (show gets id t = .next t t from rfl), bind_fault (charAt_neg (by omega))]
  unfold trimCmd
  rw [bind_next (show modify _ s = .next () { s with cnt := i32 str.chars.length } from rfl),
    bind_fault (show loop .rounds (trimRound str) str.rounds _ =
      .fault .string { s with cnt := i32 str.chars.length } by
        rw [show str.rounds = str.chars.length + 1 + 1 from rfl, loop_succ,
          hround _ (by exact hcmd) (by exact h)])]
  exact ⟨_, rfl⟩

/-- **A command of one word** is turned away. -/
theorem cutId_single (hw : space ∉ w) (h : str.chars = pre ++ (w ++ suf))
    (hcmd : s.cmd = pre.length) (hcnt : s.cnt = w.length) :
    ∃ t, cutId str s = .exit .form t ∧ t.calls = s.calls := by
  have hlen : str.chars.length = pre.length + (w.length + suf.length) := by
    rw [h]
    simp
  have hloop := loop_split_none (s := { s with tmp := s.cnt, i := 0 }) (n := str.rounds) hw
    (show str.chars = pre ++ ([] ++ (w ++ suf)) from h) hcmd rfl (by exact hcnt)
    (by unfold CmdString.rounds; omega)
  unfold cutId
  rw [bind_next (show modify _ s = .next () { s with tmp := s.cnt, i := 0 } from rfl),
    bind_next hloop, bind_exit (exitIf_of _ (by rfl))]
  exact ⟨_, rfl, rfl⟩

/-- **The first of two words** is copied where it has a place, and the spaces behind it are
passed. -/
theorem cutId_pair {b : Nat} (hw : space ∉ w) (hne : w ≠ []) (hx : x ≠ space)
    (h : str.chars = pre ++ (w ++ (List.replicate (b + 1) space ++ x :: suf)))
    (hcmd : s.cmd = pre.length) (hcnt : (w.length + (b + 1) : Int) < s.cnt) :
    (w.length ≤ 19 → cutId str s = .next () { s with
        tmp := s.cnt
        i := w.length
        vendorId := poke 0 (w ++ [space]) fun _ => 0
        cmd := pre.length + w.length + (b + 1)
        cnt := s.cnt - w.length - (b + 1) }) ∧
      (19 < w.length → ∃ t, cutId str s = .fault .vendorId t) := by
  have hlen : str.chars.length = pre.length + (w.length + (b + 1 + (suf.length + 1))) := by
    rw [h]
    simp
  have hpos := List.length_pos_iff.2 hne
  have hsplit : str.chars =
      pre ++ ([] ++ (w ++ space :: (List.replicate b space ++ x :: suf))) := h
  have hskip : str.chars = (pre ++ w) ++ (List.replicate (b + 1) space ++ x :: suf) := by
    rw [h, List.append_assoc]
  unfold cutId
  rw [bind_next (show modify _ s = .next () { s with tmp := s.cnt, i := 0 } from rfl)]
  have hloop := loop_split (s := { s with tmp := s.cnt, i := 0 }) (n := str.rounds) hw hsplit hcmd
    rfl (by show (w.length : Int) < s.cnt; omega) (by unfold CmdString.rounds; omega)
  refine ⟨fun h19 => ?_, fun h19 => ?_⟩
  · rw [List.nil_append, if_pos (by omega)] at hloop
    rw [bind_next hloop, bind_next (exitIf_of_not _ (by show ¬ s.cnt - w.length = s.cnt; omega)),
      loop_skip hx hskip (by simp) (by show ((b + 1 : Nat) : Int) < s.cnt - w.length; omega)
        (by unfold CmdString.rounds; omega)]
    simp only [List.length_append, Outcome.next.injEq, Tool.mk.injEq, and_true, true_and]
    omega
  · rw [List.nil_append, if_neg (by omega)] at hloop
    rw [bind_fault hloop]
    exact ⟨_, rfl⟩

/-- **The second word** is copied where it is the last and has a place. -/
theorem cutNum_eq (h : str.chars = pre ++ (core ++ suf)) (hcmd : s.cmd = pre.length)
    (hcnt : s.cnt = core.length) :
    (space ∈ core → ∃ t, cutNum str s = .exit .form t ∧ t.calls = s.calls) ∧
      (space ∉ core → core.length ≤ 20 → cutNum str s = .next () { s with
        i := core.length
        vendorNum := poke 0 core fun _ => 0 }) ∧
      (space ∉ core → 20 < core.length → ∃ t, cutNum str s = .fault .vendorNum t) := by
  have hlen : str.chars.length = pre.length + (core.length + suf.length) := by
    rw [h]
    simp
  obtain ⟨hnone, hsome⟩ := loop_check (s := { s with i := 0 }) (n := str.rounds)
    (show str.chars = pre ++ ([] ++ (core ++ suf)) from h) hcmd rfl hcnt
    (by unfold CmdString.rounds; omega)
  have htake : ((str.chars.drop s.cmd).take s.cnt.toNat) = core := by
    rw [h, hcmd, List.drop_left, hcnt, Int.toNat_natCast, List.take_left]
  unfold cutNum
  rw [bind_next (show modify _ s = .next () { s with i := 0 } from rfl)]
  refine ⟨fun hin => ?_, fun hnot h20 => ?_, fun hnot h20 => ?_⟩
  · obtain ⟨i, hloop⟩ := hsome hin
    rw [bind_exit hloop]
    exact ⟨_, rfl, rfl⟩
  · rw [bind_next (hnone hnot)]
    unfold takeNum
    rw [bind_next (show modify _ _ = .next () _ from rfl),
      bind_next (assert_of _ (by show s.cnt ≤ 20; omega))]
    show Outcome.next () { s with i := _, vendorNum := poke 0 _ _ } = _
    rw [htake]
    rfl
  · rw [bind_next (hnone hnot)]
    unfold takeNum
    rw [bind_next (show modify _ _ = .next () _ from rfl),
      bind_fault (assert_of_not _ (by show ¬ s.cnt ≤ 20; omega))]
    exact ⟨_, rfl⟩

/-! ## By the words of the command -/

/-- The characters that the counter counts: all, unless there are more than an `int` can
say. -/
def CmdString.counted (str : CmdString) : List UInt8 :=
  str.chars.take (i32 str.chars.length).toNat

/-- The counted characters, and those behind them. -/
theorem exists_counted (str : CmdString) : ∃ suf, str.chars = str.counted ++ suf ∧
    (0 ≤ i32 str.chars.length → i32 str.chars.length = str.counted.length) := by
  refine ⟨str.chars.drop (i32 str.chars.length).toNat, (List.take_append_drop _ _).symm, ?_⟩
  intro h
  have hle := i32_le str.chars.length
  rw [CmdString.counted, List.length_take]
  omega

/-- **A string without a word** is read in front of its start. -/
theorem splitCmd_nil (hcmd : s.cmd = 0) (hwords : words space str.counted = []) :
    ∃ t, splitCmd str s = .fault .string t := by
  obtain ⟨suf, hsuf, hcnt⟩ := exists_counted str
  obtain ⟨a, ha⟩ := words_eq_nil_iff.1 hwords
  have htrim : ∃ t, trimCmd str s = .fault .string t := by
    by_cases hneg : i32 str.chars.length < 0
    · exact trimCmd_neg hneg hcmd
    · rw [ha] at hsuf hcnt
      refine trimCmd_blank hsuf ?_ hcmd
      rw [hcnt (by omega), List.length_replicate]
  obtain ⟨t, ht⟩ := htrim
  unfold splitCmd
  rw [bind_fault ht]
  exact ⟨t, rfl⟩

/-- The string around the words. -/
theorem trimCmd_words (hcmd : s.cmd = 0) (hwords : words space str.counted ≠ []) :
    ∃ a body c suf, str.chars = List.replicate a space ++
      (body ++ (List.replicate c space ++ suf)) ∧
      Trimmed space body ∧ words space body = words space str.counted ∧
      trimCmd str s = .next () { s with cmd := a, cnt := body.length } := by
  obtain ⟨suf, hsuf, hcnt⟩ := exists_counted str
  obtain ⟨a, body, c, heq, hbody⟩ := exists_trimmed hwords
  have hchars : str.chars =
      List.replicate a space ++ (body ++ (List.replicate c space ++ suf)) := by
    rw [hsuf, heq]
    simp
  have hpos : 0 ≤ i32 str.chars.length := by
    by_contra hneg
    refine hwords ?_
    rw [CmdString.counted, Int.toNat_of_nonpos (by omega)]
    rfl
  refine ⟨a, body, c, suf, hchars, hbody, ?_, trimCmd_eq hbody hchars ?_ hcmd⟩
  · rw [heq, words_replicate_append, words_append_replicate]
  · rw [hcnt hpos, heq]
    simp
    omega

/-- **A single word** is turned away. -/
theorem splitCmd_single (hcmd : s.cmd = 0) (hwords : words space str.counted = [w]) :
    ∃ t, splitCmd str s = .exit .form t ∧ t.calls = s.calls := by
  obtain ⟨a, body, c, suf, hchars, hbody, hw, htrim⟩ :=
    trimCmd_words hcmd (hwords ▸ List.cons_ne_nil _ _)
  obtain ⟨rfl, hnot⟩ := hbody.eq_word (hw.trans hwords)
  obtain ⟨t, ht, hcalls⟩ := cutId_single (s := { s with cmd := a, cnt := body.length }) hnot hchars
    (by simp) rfl
  unfold splitCmd
  rw [bind_next htrim, bind_exit ht]
  exact ⟨t, rfl, hcalls⟩

/-- The two words are in their arrays, and nothing is written yet. -/
structure HoldsWords (s : Tool) (w v : List UInt8) (t : Tool) : Prop where
  vendorId_eq : t.vendorId = poke 0 (w ++ [space]) fun _ => 0
  vendorNum_eq : t.vendorNum = poke 0 v fun _ => 0
  cnt_eq : t.cnt = v.length
  calls_eq : t.calls = s.calls
  requests_eq : t.requests = s.requests
  out_eq : t.out = s.out
  seen_eq : t.seen = s.seen

/-- **Two words and more**: the first is copied where it has a place, and the second where it
is the last and has one too. -/
theorem splitCmd_pair {v : List UInt8} {ws : List (List UInt8)} (hcmd : s.cmd = 0)
    (hwords : words space str.counted = w :: v :: ws) :
    (19 < w.length → ∃ t, splitCmd str s = .fault .vendorId t) ∧
      (w.length ≤ 19 → ws ≠ [] → ∃ t, splitCmd str s = .exit .form t ∧ t.calls = s.calls) ∧
      (w.length ≤ 19 → ws = [] → 20 < v.length → ∃ t, splitCmd str s = .fault .vendorNum t) ∧
      (w.length ≤ 19 → ws = [] → v.length ≤ 20 → ∃ t, splitCmd str s = .next () t ∧
        HoldsWords s w v t) := by
  obtain ⟨a, body, c, suf, hchars, hbody, hw, htrim⟩ :=
    trimCmd_words hcmd (hwords ▸ List.cons_ne_nil _ _)
  obtain ⟨hnot, hne, b, core, hsplit, hcore, hrest⟩ := hbody.split (hw.trans hwords)
  obtain ⟨x, l, hhead, hx⟩ := hcore.head
  -- the text around the first word, and around the second
  have hpair : str.chars = List.replicate a space ++ (w ++ (List.replicate (b + 1) space ++
      x :: (l ++ (List.replicate c space ++ suf)))) := by
    rw [hchars, hsplit, hhead]
    simp
  have hnum : str.chars = (List.replicate a space ++ (w ++ List.replicate (b + 1) space)) ++
      (core ++ (List.replicate c space ++ suf)) := by
    rw [hchars, hsplit]
    simp
  have hlen : body.length = w.length + (b + 1 + core.length) := by
    rw [hsplit]
    simp
  have hpos : 0 < core.length := by
    rw [hhead]
    simp
  obtain ⟨hid, hidFault⟩ := cutId_pair (s := { s with cmd := a, cnt := body.length }) hnot hne hx
    hpair (by simp) (by show (_ : Int) < (body.length : Int); omega)
  -- a third word leaves a space in what is taken as the number
  have hmem : ws ≠ [] → space ∈ core := by
    intro hws
    by_contra hnot'
    rw [words_word hnot' (List.length_pos_iff.1 hpos)] at hrest
    exact hws (List.cons.inj hrest).2.symm
  have hword : ws = [] → core = v ∧ space ∉ core := by
    rintro rfl
    obtain ⟨rfl, h⟩ := hcore.eq_word hrest
    exact ⟨rfl, h⟩
  unfold splitCmd
  rw [bind_next htrim]
  refine ⟨fun h19 => ?_, fun h19 hws => ?_, fun h19 hws h20 => ?_, fun h19 hws h20 => ?_⟩
  · obtain ⟨t, ht⟩ := hidFault h19
    rw [bind_fault ht]
    exact ⟨t, rfl⟩
  all_goals
    rw [bind_next (hid h19)]
    obtain ⟨hform, hnext, hfault⟩ := cutNum_eq (s := { s with
      tmp := (body.length : Int)
      i := w.length
      vendorId := poke 0 (w ++ [space]) fun _ => 0
      cmd := (List.replicate a space).length + w.length + (b + 1)
      cnt := (body.length : Int) - w.length - (b + 1) }) hnum (by simp; omega)
      (by show (body.length : Int) - w.length - (b + 1) = _; omega)
  · obtain ⟨t, ht, hcalls⟩ := hform (hmem hws)
    exact ⟨t, ht, hcalls⟩
  · obtain ⟨rfl, hnot'⟩ := hword hws
    exact hfault hnot' h20
  · obtain ⟨rfl, hnot'⟩ := hword hws
    refine ⟨_, hnext hnot' h20, rfl, rfl, ?_, rfl, rfl, rfl, rfl⟩
    show (body.length : Int) - w.length - (b + 1) = core.length
    omega

end

end VendorStorage

end Rk3399
