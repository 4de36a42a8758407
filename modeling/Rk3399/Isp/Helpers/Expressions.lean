import Mathlib.Data.List.Basic
import Rk3399.Isp.Model.SetPipeline
/-!
# Expressions of the script

What the shell reads back of the numbers the script writes, and `calcCrop` as a
function of the texts it is given where the shell reads them alike whatever its
variables hold: what each `let` makes of its variable, and which of them fails.
-/

namespace Rk3399

namespace Isp

open Prog

/-! ## Decimal texts -/

theorem digitsValue_toDigits (n : Nat) : digitsValue (Nat.toDigits 10 n) = n :=
  Nat.ofDigitChars_ten_toDigits

/-- There is no leading zero. -/
theorem head_toDigits_ne {n : Nat} (hn : 0 < n) : (Nat.toDigits 10 n).head? ≠ some '0' := by
  induction n using Nat.strongRecOn with
  | ind n ih =>
    by_cases hlt : n < 10
    · rw [Nat.toDigits_of_lt_base hlt]
      intro hhead
      have hzero : n.digitChar = '0' := Option.some.inj hhead
      rw [Nat.digitChar_eq_zero] at hzero
      omega
    · rw [Nat.toDigits_of_base_le (by decide) (by omega),
        List.head?_append_of_ne_nil _ Nat.toDigits_ne_nil]
      exact ih (n / 10) (by omega) (by omega)

theorem isNumeral_toDigits (n : Nat) : IsNumeral (Nat.toDigits 10 n) := by
  refine ⟨Nat.toDigits_ne_nil, fun c hc => ?_, fun hhead => ?_⟩
  · exact Nat.isDigit_of_mem_toDigits (by decide) (by decide) hc
  · rcases Nat.eq_zero_or_pos n with rfl | hn
    · rfl
    · exact absurd hhead (head_toDigits_ne hn)

theorem isConstant_toDigits {n : Nat} (hlt : n < 2 ^ 63) : IsConstant (Nat.toDigits 10 n) :=
  ⟨isNumeral_toDigits n, by rwa [digitsValue_toDigits]⟩

theorem decimal_natCast (n : Nat) : decimal n = Nat.toDigits 10 n := by
  change (Nat.repr n).toList = _
  rw [Nat.repr_eq_ofList_toDigits, String.toList_ofList]

theorem decimal_neg {n : Nat} (hn : 0 < n) : decimal (-n) = '-' :: Nat.toDigits 10 n := by
  obtain ⟨m, rfl⟩ : ∃ m, n = m + 1 := ⟨n - 1, by omega⟩
  change ("-" ++ Nat.repr (m + 1)).toList = _
  have hrepr : (Nat.repr (m + 1)).toList = Nat.toDigits 10 (m + 1) := by
    rw [Nat.repr_eq_ofList_toDigits, String.toList_ofList]
  rw [String.toList_append, hrepr]
  rfl

/-- A 64-bit integer. -/
def InRange (n : Int) : Prop := -2 ^ 63 ≤ n ∧ n < 2 ^ 63

/-- **The shell reads back what the script writes.** -/
theorem decimalValue_decimal {n : Int} (h : InRange n) : decimalValue (decimal n) = some n := by
  obtain ⟨hlo, hhi⟩ := h
  rcases Int.lt_or_le n 0 with hneg | hpos
  · obtain ⟨m, rfl⟩ : ∃ m : Nat, n = -m := ⟨n.natAbs, by omega⟩
    have hnumeral := isNumeral_toDigits m
    have hminus : ¬ IsConstant ('-' :: Nat.toDigits 10 m) := fun hconst =>
      absurd (hconst.1.2.1 '-' List.mem_cons_self) (by decide)
    rw [decimal_neg (by omega), decimalValue, if_neg hminus,
      if_pos ⟨rfl, hnumeral, by rw [List.tail_cons, digitsValue_toDigits]; omega⟩, List.tail_cons,
      digitsValue_toDigits]
  · obtain ⟨m, rfl⟩ := Int.eq_ofNat_of_zero_le hpos
    rw [decimal_natCast, decimalValue, if_pos (isConstant_toDigits (by omega)),
      digitsValue_toDigits]

theorem inRange_decimalValue {text : Str} {n : Int} (h : decimalValue text = some n) :
    InRange n := by
  unfold decimalValue at h
  unfold InRange
  split at h
  · next hconst =>
    cases h
    have hlt := hconst.2
    omega
  · split at h
    · next hneg =>
      cases h
      have hle := hneg.2.2
      omega
    · cases h

theorem decimal_ne_nil (n : Int) : decimal n ≠ [] := by
  rcases Int.lt_or_le n 0 with hneg | hpos
  · obtain ⟨m, rfl⟩ : ∃ m : Nat, n = -m := ⟨n.natAbs, by omega⟩
    rw [decimal_neg (by omega)]
    exact List.cons_ne_nil _ _
  · obtain ⟨m, rfl⟩ := Int.eq_ofNat_of_zero_le hpos
    rw [decimal_natCast]
    exact Nat.toDigits_ne_nil

theorem inRange_wrap64 (n : Int) : InRange (wrap64 n) := by
  unfold InRange wrap64
  omega

theorem InRange.andNot1 {n : Int} (h : InRange n) : InRange (Isp.andNot1 n) := by
  unfold InRange Isp.andNot1 at *
  omega

/-! ## Reading -/

section reading

variable (other : Reading)

/-- What the shell reads where no variable holds anything. -/
def Reading.plain : Str → Option Int := ({} : Shell).read other {}

/-- The shell reads the text alike whatever its variables hold. -/
def Closed (text : Str) : Prop :=
  ∀ (o : Options) (s : Shell), s.read other o text = other.plain text

variable {other} {o : Options} {s : Shell}

theorem read_decimal {n : Int} (h : InRange n) : s.read other o (decimal n) = some n := by
  rw [Shell.read, if_neg (decimal_ne_nil n), decimalValue_decimal h]
  rfl

theorem read_constant {text : Str} (h : IsConstant text) :
    s.read other o text = some (digitsValue text : Int) := by
  rw [Shell.read, if_neg h.1.1, decimalValue, if_pos h]
  rfl

/-- What is read is of 64 bits. -/
theorem inRange_read {text : Str} {n : Int} (h : s.read other o text = some n) : InRange n := by
  unfold Shell.read at h
  split at h
  · cases h
    exact ⟨by decide, by decide⟩
  rcases hv : decimalValue text with _ | v
  · rw [hv, Option.none_or] at h
    obtain ⟨m, -, rfl⟩ := Option.map_eq_some_iff.mp h
    exact inRange_wrap64 m
  · rw [hv, Option.some_or] at h
    cases h
    exact inRange_decimalValue hv

theorem closed_nil : Closed other [] := fun _ _ => rfl

theorem closed_decimal {n : Int} (h : InRange n) : Closed other (decimal n) := fun _ _ =>
  (read_decimal h).trans (read_decimal h).symm

theorem closed_constant {text : Str} (h : IsConstant text) : Closed other text := fun _ _ =>
  (read_constant h).trans (read_constant h).symm

end reading

/-! ## `calcCrop` on texts -/

/-- What a `let` leaves in its variable. -/
def letText (v : Option Int) (old : Str) : Str := (v.map decimal).getD old

section texts

variable (ρ : Str → Option Int)

/-- `w*100/h` of a size. -/
def ratioIn (size : Str) : Option Int := do
  let w ← ρ (beforeX size)
  let h ← ρ (afterX size)
  divide (wrap64 (w * 100)) h

/-- The width of a picture that is the wider one. -/
def narrowed (full target : Str) : Option Int := do
  let h ← ρ (afterX full)
  divide (wrap64 ((ratioIn ρ target).getD 0 * h)) 100

/-- The height of a picture that is the taller one. -/
def lowered (full target : Str) : Option Int := do
  let w ← ρ (beforeX full)
  divide (wrap64 (w * 100)) ((ratioIn ρ target).getD 0)

/-- The texts `cropSize` leaves. -/
def Temp.resize (full target : Str) (t : Temp) : Temp :=
  if (ratioIn ρ full).getD 0 = (ratioIn ρ target).getD 0 then
    { t with w := beforeX full, h := afterX full }
  else if (ratioIn ρ target).getD 0 < (ratioIn ρ full).getD 0 then
    { t with w := letText (narrowed ρ full target) t.w, h := afterX full }
  else { t with w := beforeX full, h := letText (lowered ρ full target) t.h }

/-- Whether its `let` fails. -/
def resizeFails (full target : Str) : Bool :=
  if (ratioIn ρ full).getD 0 = (ratioIn ρ target).getD 0 then false
  else if (ratioIn ρ target).getD 0 < (ratioIn ρ full).getD 0 then
    (narrowed ρ full target).isNone
  else (lowered ρ full target).isNone

/-- An offset that centres a size. -/
def offset (full size : Str) : Option Int := do
  let full ← ρ full
  let size ← ρ size
  return (wrap64 (full - size)).tdiv 2

/-- The texts `centreCrop` leaves: the size is made even before the offsets are computed. -/
def Temp.centre (full : Str) (t : Temp) : Temp :=
  let w := letText ((ρ t.w).map andNot1) t.w
  let h := letText ((ρ t.h).map andNot1) t.h
  { w, h
    offH := letText (offset ρ (beforeX full) w) t.offH
    offV := letText (offset ρ (afterX full) h) t.offV }

/-- Whether one of its `let`s fails. -/
def centreFails (full : Str) (t : Temp) : Bool :=
  let w := letText ((ρ t.w).map andNot1) t.w
  let h := letText ((ρ t.h).map andNot1) t.h
  (ρ t.w).isNone || (ρ t.h).isNone || (offset ρ (beforeX full) w).isNone ||
    (offset ρ (afterX full) h).isNone

/-- The texts `calcCrop` leaves. -/
def Temp.after (full target : Str) (t : Temp) : Temp := (t.resize ρ full target).centre ρ full

/-- Whether one of its `let`s fails. -/
def cropFails (full target : Str) (t : Temp) : Bool :=
  (ratioIn ρ full).isNone || (ratioIn ρ target).isNone || resizeFails ρ full target ||
    centreFails ρ full (t.resize ρ full target)

end texts

section run

variable {other : Reading} {o : Options} {s : Shell} {full target : Str}

/-- **A `let`** writes its variable, which `s'` has the new text in, or fails. -/
theorem letVar_eq (e : Shell → Option Int) (set : Int → Shell → Shell) (v : Option Int)
    (s' : Shell) (he : e s = v) (hsome : ∀ n, v = some n → set n s = { s' with failed := s.failed })
    (hnone : v = none → s = { s' with failed := s.failed }) :
    letVar e set s = .next () { s' with failed := s.failed || v.isNone } := by
  change Outcome.next () _ = _
  beta_reduce
  rw [he]
  cases v with
  | some n =>
    rw [Option.isNone_some, Bool.or_false, ← hsome n rfl]
  | none =>
    have hkeeps := congrArg (fun s : Shell => { s with failed := true }) (hnone rfl)
    rw [Option.isNone_none, Bool.or_true]
    exact congrArg (Outcome.next ()) hkeeps

/-- The sizes are read alike. -/
def ClosedSize (other : Reading) (size : Str) : Prop := ∀ text ∈ sizeTexts size, Closed other text

theorem ratioOf_eq {size : Str} (h : ClosedSize other size) :
    ratioOf other o (beforeX size) (afterX size) s = ratioIn other.plain size := by
  unfold ratioOf ratioIn
  rw [h _ List.mem_cons_self, h _ (List.mem_cons_of_mem _ List.mem_cons_self)]

/-- **`cropSize`** on sizes that are read alike. -/
theorem cropSize_eq (target : Str) (hfull : ClosedSize other full) (l : Locals)
    (hw : l.fullW = beforeX full) (hh : l.fullH = afterX full)
    (hrf : l.ratioFull = ratioIn other.plain full)
    (hrt : l.ratioTarget = ratioIn other.plain target) (hl : s.locals = l) :
    cropSize other o s = .next () { s with
      temp := s.temp.resize other.plain full target
      failed := s.failed || resizeFails other.plain full target } := by
  have hclosedW : Closed other (beforeX full) := hfull _ List.mem_cons_self
  have hclosedH : Closed other (afterX full) :=
    hfull _ (List.mem_cons_of_mem _ List.mem_cons_self)
  have hget : (gets (·.locals) : Script Locals) s = .next l s := congrArg (Outcome.next · s) hl
  unfold cropSize Temp.resize resizeFails
  rw [bind_next hget]
  simp only [hrf, hrt, hw, hh]
  by_cases heq : (ratioIn other.plain full).getD 0 = (ratioIn other.plain target).getD 0
  · rw [if_pos heq, if_pos heq, if_pos heq, Bool.or_false]
    rfl
  rw [if_neg heq, if_neg heq, if_neg heq]
  -- the wider picture: the width is computed, the height is the whole one
  by_cases hgt : (ratioIn other.plain target).getD 0 < (ratioIn other.plain full).getD 0
  · rw [if_pos hgt, if_pos hgt, if_pos hgt]
    have hlet := letVar_eq (s := s)
      (fun s => do
        divide (wrap64 ((ratioIn other.plain target).getD 0 * (← s.read other o (afterX full))))
          100)
      (fun v s => { s with temp.w := decimal v }) (narrowed other.plain full target)
      { s with temp.w := letText (narrowed other.plain full target) s.temp.w }
      (by rw [hclosedH]; rfl) (fun n hn => by rw [hn]; rfl) (fun hn => by rw [hn]; rfl)
    exact bind_next hlet
  · -- the taller picture: the width is set before the `let` for the height
    rw [if_neg hgt, if_neg hgt, if_neg hgt,
      bind_next (show modify _ s = Outcome.next () _ from rfl)]
    exact letVar_eq _ _ (lowered other.plain full target)
      { s with
        temp.w := beforeX full, temp.h := letText (lowered other.plain full target) s.temp.h }
      (by rw [hclosedW]; rfl) (fun n hn => by rw [hn]; rfl) (fun hn => by rw [hn]; rfl)

/-- What a `let` leaves is read alike. -/
theorem closed_letText {v : Option Int} {old : Str} (hold : Closed other old)
    (hv : ∀ n, v = some n → InRange n) : Closed other (letText v old) := by
  cases v with
  | some n => exact closed_decimal (hv n rfl)
  | none => exact hold

theorem closed_even {text : Str} (h : Closed other text) :
    Closed other (letText ((other.plain text).map andNot1) text) := by
  refine closed_letText h fun n hn => ?_
  obtain ⟨m, hm, rfl⟩ := Option.map_eq_some_iff.mp hn
  exact (inRange_read hm).andNot1

/-- **`centreCrop`** on sizes that are read alike. -/
theorem centreCrop_eq (hfull : ClosedSize other full) (hlw : s.locals.fullW = beforeX full)
    (hlh : s.locals.fullH = afterX full) (hw : Closed other s.temp.w)
    (hh : Closed other s.temp.h) :
    centreCrop other o s = .next () { s with
      temp := s.temp.centre other.plain full
      failed := s.failed || centreFails other.plain full s.temp } := by
  have hclosedW : Closed other (beforeX full) := hfull _ List.mem_cons_self
  have hclosedH : Closed other (afterX full) :=
    hfull _ (List.mem_cons_of_mem _ List.mem_cons_self)
  obtain ⟨w, hwdef⟩ : ∃ w, w = letText ((other.plain s.temp.w).map andNot1) s.temp.w := ⟨_, rfl⟩
  obtain ⟨h, hhdef⟩ : ∃ h, h = letText ((other.plain s.temp.h).map andNot1) s.temp.h := ⟨_, rfl⟩
  have hw' : Closed other w := hwdef ▸ closed_even hw
  have hh' : Closed other h := hhdef ▸ closed_even hh
  have heven : ∀ text, ((other.plain text).map andNot1).isNone = (other.plain text).isNone :=
    fun text => Option.isNone_map
  -- each `let` runs in the state the one before it left
  have hstepW := letVar_eq (s := s) (fun s => (s.read other o s.temp.w).map andNot1)
    (fun v s => { s with temp.w := decimal v }) ((other.plain s.temp.w).map andNot1)
    { s with temp.w := w } (by rw [hw]) (fun n hn => by rw [hwdef, hn]; rfl)
      (fun hn => by rw [hwdef, hn]; rfl)
  rw [heven] at hstepW
  rw [centreCrop, bind_next hstepW]
  obtain ⟨s1, hs1⟩ : ∃ s1 : Shell, s1 = { s with
    temp.w := w, failed := s.failed || (other.plain s.temp.w).isNone } := ⟨_, rfl⟩
  have hstepH := letVar_eq (s := s1) (fun s => (s.read other o s.temp.h).map andNot1)
    (fun v s => { s with temp.h := decimal v }) ((other.plain s.temp.h).map andNot1)
    { s1 with temp.h := h } (by rw [hs1, hh]) (fun n hn => by rw [hhdef, hn]; rfl)
    (fun hn => by rw [hhdef, hn, hs1]; rfl)
  rw [heven] at hstepH
  rw [← hs1, bind_next hstepH]
  obtain ⟨s2, hs2⟩ : ∃ s2 : Shell, s2 = { s1 with
    temp.h := h, failed := s1.failed || (other.plain s.temp.h).isNone } := ⟨_, rfl⟩
  -- the offsets see the even size, not the one `cropSize` left
  have hstepOffH := letVar_eq (s := s2)
    (fun s => do
      let full ← s.read other o s.locals.fullW
      let w ← s.read other o s.temp.w
      return (wrap64 (full - w)).tdiv 2)
    (fun v s => { s with temp.offH := decimal v }) (offset other.plain (beforeX full) w)
    { s2 with temp.offH := letText (offset other.plain (beforeX full) w) s.temp.offH }
    (by rw [hs2, hs1, hlw, hclosedW, hw']; rfl) (fun n hn => by rw [hn]; rfl)
    (fun hn => by rw [hn, hs2, hs1]; rfl)
  rw [← hs2, bind_next hstepOffH]
  obtain ⟨s3, hs3⟩ : ∃ s3 : Shell, s3 = { s2 with
    temp.offH := letText (offset other.plain (beforeX full) w) s.temp.offH
    failed := s2.failed || (offset other.plain (beforeX full) w).isNone } := ⟨_, rfl⟩
  have hstepOffV := letVar_eq (s := s3)
    (fun s => do
      let full ← s.read other o s.locals.fullH
      let h ← s.read other o s.temp.h
      return (wrap64 (full - h)).tdiv 2)
    (fun v s => { s with temp.offV := decimal v }) (offset other.plain (afterX full) h)
    { s3 with temp.offV := letText (offset other.plain (afterX full) h) s.temp.offV }
    (by rw [hs3, hs2, hs1, hlh, hclosedH, hh']; rfl) (fun n hn => by rw [hn]; rfl)
    (fun hn => by rw [hn, hs3, hs2, hs1]; rfl)
  rw [← hs3, hstepOffV, hs3, hs2, hs1, centreFails, Temp.centre, ← hwdef, ← hhdef]
  simp only [Bool.or_assoc]

/-- What `calcCrop` asks of the texts of its sizes: that the shell reads them alike, and assigns no
variable for them. -/
structure ClosedSizes (other : Reading) (full target : Str) : Prop where
  closed_full : ClosedSize other full
  closed_target : ClosedSize other target
  assigns : ∀ text ∈ sizeTexts full ++ sizeTexts target, ¬ MayAssign text

/-- **`calcCrop`** on sizes that are read alike. -/
theorem calcCrop_eq (hne : ¬ (full = [] ∨ target = [])) (hsizes : ClosedSizes other full target)
    (hw : Closed other (s.temp.resize other.plain full target).w)
    (hh : Closed other (s.temp.resize other.plain full target).h) :
    calcCrop other o full target s = .next () { s with
      temp := s.temp.after other.plain full target
      locals := {}
      failed := s.failed || cropFails other.plain full target s.temp } := by
  unfold calcCrop
  rw [bind_next (exitIf_of_not (p := fun _ => full = [] ∨ target = []) _ hne),
    bind_next (assert_of (p := fun _ => ∀ text ∈ sizeTexts full ++ sizeTexts target,
      ¬ MayAssign text) _ hsizes.assigns),
    bind_next (show modify _ s = Outcome.next () _ from rfl)]
  -- the locals hold the texts, and a ratio that fails stays unset
  have hfull := letVar_eq
    (s := { s with locals := {
      fullW := beforeX full, fullH := afterX full
      targetW := beforeX target, targetH := afterX target } })
    (ratioOf other o (beforeX full) (afterX full))
    (fun v s => { s with locals.ratioFull := some v }) (ratioIn other.plain full)
    { s with locals := {
      fullW := beforeX full, fullH := afterX full
      targetW := beforeX target, targetH := afterX target
      ratioFull := ratioIn other.plain full } }
    (ratioOf_eq hsizes.closed_full) (fun n hn => by rw [hn]) (fun hn => by rw [hn])
  rw [bind_next hfull]
  obtain ⟨s1, hs1⟩ : ∃ s1 : Shell, s1 = { s with
    failed := s.failed || (ratioIn other.plain full).isNone
    locals := {
      fullW := beforeX full, fullH := afterX full
      targetW := beforeX target, targetH := afterX target
      ratioFull := ratioIn other.plain full } } := ⟨_, rfl⟩
  have htarget := letVar_eq (s := s1) (ratioOf other o (beforeX target) (afterX target))
    (fun v s => { s with locals.ratioTarget := some v }) (ratioIn other.plain target)
    { s1 with locals.ratioTarget := ratioIn other.plain target }
    (ratioOf_eq hsizes.closed_target) (fun n hn => by rw [hn]) (fun hn => by rw [hn, hs1])
  rw [← hs1, bind_next htarget,
    bind_next (cropSize_eq target hsizes.closed_full
      { fullW := beforeX full, fullH := afterX full
        targetW := beforeX target, targetH := afterX target
        ratioFull := ratioIn other.plain full, ratioTarget := ratioIn other.plain target }
      rfl rfl rfl rfl (by rw [hs1])),
    bind_next (centreCrop_eq hsizes.closed_full (by rw [hs1]) (by rw [hs1]) (by rw [hs1]; exact hw)
      (by rw [hs1]; exact hh)), hs1]
  simp only [cropFails, Bool.or_assoc]
  rfl

end run

end Isp

end Rk3399
