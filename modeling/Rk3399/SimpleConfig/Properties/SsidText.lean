import Mathlib.Data.List.Basic
import Rk3399.SimpleConfig.Model.SsidText
/-!
# When the text of an SSID is right

`printf_encode` looks for room for four characters before each byte. A byte that
is written in hexadecimal takes all four, and where no more are left its NUL and
that of the text go one behind the other over the end: `snprintf` leaves the
last digit out to write its own, and returns four all the same. At every other
level of the buffer the text stays inside, ends in a NUL and reads as the input,
up to the byte that found no room.
-/

namespace Rk3399

namespace SimpleConfig

open Prog

/-! ## Reading the text -/

/-- The value of a hexadecimal digit. -/
def hexValue (c : UInt8) : Option Nat :=
  if 48 ≤ c ∧ c ≤ 57 then some (c.toNat - 48)
  else if 97 ≤ c ∧ c ≤ 102 then some (c.toNat - 87)
  else none

/-- The byte a letter behind the backslash stands for. -/
def unescapeLetter (c : UInt8) : Option UInt8 :=
  if c = 34 then some 34
  else if c = 92 then some 92
  else if c = 101 then some 27
  else if c = 110 then some 10
  else if c = 114 then some 13
  else if c = 116 then some 9
  else none

/-- The byte the start of a text stands for, and the rest of the text. -/
def unescapeUnit : List UInt8 → Option (UInt8 × List UInt8)
  | [] => none
  | c :: rest =>
    if c ≠ 92 then some (c, rest)
    else match rest with
      | [] => none
      | x :: rest =>
        if x = 120 then
          match rest with
          | hi :: lo :: rest =>
            (hexValue hi).bind fun h => (hexValue lo).map fun l => (UInt8.ofNat (16 * h + l), rest)
          | _ => none
        else (unescapeLetter x).map fun b => (b, rest)

/-- The bytes a text of at most `n` units stands for. -/
def unescapeUnits : Nat → List UInt8 → Option (List UInt8)
  | 0, text => if text = [] then some [] else none
  | n + 1, text =>
    if text = [] then some []
    else (unescapeUnit text).bind fun r => (unescapeUnits n r.2).map (r.1 :: ·)

/-- The bytes a text stands for, where it is well formed. -/
def unescape (text : List UInt8) : Option (List UInt8) := unescapeUnits text.length text

/-- A byte that is written in hexadecimal. -/
def IsHex (b : UInt8) : Prop := escapeLetter b = none ∧ ¬ (32 ≤ b ∧ b ≤ 127)

instance (b : UInt8) : Decidable (IsHex b) := inferInstanceAs (Decidable (_ ∧ _))

/-- What one byte is written as. -/
def escape (b : UInt8) : List UInt8 :=
  match escapeLetter b with
  | some c => [92, c]
  | none => if 32 ≤ b ∧ b ≤ 127 then [b] else hexText b

theorem hexValue_hexChar {n : Nat} (hn : n < 16) : hexValue (hexChar n) = some n := by
  have hall : ∀ n : Fin 16, hexValue (hexChar n) = some n.val := by decide
  exact hall ⟨n, hn⟩

theorem unescapeLetter_of_escapeLetter {b c : UInt8} (h : escapeLetter b = some c) :
    unescapeLetter c = some b ∧ c ≠ 120 ∧ c ≠ 0 := by
  unfold escapeLetter at h
  split_ifs at h <;> cases h <;> subst b <;> decide

theorem zero_notMem_escape (b : UInt8) : (0 : UInt8) ∉ escape b := by
  have hchar : ∀ n : Fin 16, hexChar n ≠ 0 := by decide
  have hlt : b.toNat < 256 := UInt8.toNat_lt b
  unfold escape
  cases hletter : escapeLetter b with
  | some c =>
    obtain ⟨-, -, hc⟩ := unescapeLetter_of_escapeLetter hletter
    simpa using Ne.symm hc
  | none =>
    by_cases hplain : 32 ≤ b ∧ b ≤ 127
    · have hb : (0 : UInt8) ≠ b := by
        rintro rfl
        exact absurd hplain.1 (by decide)
      simpa [hplain] using hb
    · have hhi := hchar ⟨b.toNat / 16, by omega⟩
      have hlo := hchar ⟨b.toNat % 16, by omega⟩
      simp [hplain, hexText, Ne.symm hhi, Ne.symm hlo]

theorem length_escape_of_isHex {b : UInt8} (h : IsHex b) : (escape b).length = 4 := by
  unfold escape
  rw [h.1]
  exact congrArg List.length (if_neg h.2)

theorem length_escape_of_not_isHex {b : UInt8} (h : ¬ IsHex b) :
    0 < (escape b).length ∧ (escape b).length ≤ 2 := by
  unfold escape
  cases hletter : escapeLetter b with
  | some c => exact ⟨Nat.two_pos, Nat.le_refl 2⟩
  | none =>
    have hplain : 32 ≤ b ∧ b ≤ 127 := by
      by_contra hplain
      exact h ⟨hletter, hplain⟩
    rw [if_pos hplain]
    exact ⟨Nat.one_pos, Nat.le_succ 1⟩

theorem length_escape_pos (b : UInt8) : 0 < (escape b).length := by
  by_cases h : IsHex b
  · rw [length_escape_of_isHex h]
    decide
  · exact (length_escape_of_not_isHex h).1

/-- **One byte is read back.** -/
theorem unescapeUnit_escape (b : UInt8) (text : List UInt8) :
    unescapeUnit (escape b ++ text) = some (b, text) := by
  unfold escape
  cases hletter : escapeLetter b with
  | some c =>
    obtain ⟨hback, hx, -⟩ := unescapeLetter_of_escapeLetter hletter
    change (if c = 120 then _ else (unescapeLetter c).map fun b => (b, text)) = _
    rw [if_neg hx, hback]
    rfl
  | none =>
    by_cases hplain : 32 ≤ b ∧ b ≤ 127
    · have hne : b ≠ 92 := by
        rintro rfl
        cases hletter
      rw [if_pos hplain]
      exact if_pos hne
    · rw [if_neg hplain]
      have hlt : b.toNat < 256 := UInt8.toNat_lt b
      change ((hexValue (hexChar (b.toNat / 16))).bind fun h =>
        (hexValue (hexChar (b.toNat % 16))).map fun l => (UInt8.ofNat (16 * h + l), text)) = _
      rw [hexValue_hexChar (by omega), hexValue_hexChar (by omega), Option.bind_some,
        Option.map_some, Nat.div_add_mod, UInt8.ofNat_toNat]

theorem unescapeUnits_flatMap_escape (data : List UInt8) :
    ∀ n, data.length ≤ n → unescapeUnits n (data.flatMap escape) = some data := by
  induction data with
  | nil => intro n _; cases n <;> rfl
  | cons b data ih =>
    intro n hn
    obtain ⟨n, rfl⟩ : ∃ m, n = m + 1 := ⟨n - 1, by rw [List.length_cons] at hn; omega⟩
    have hne : escape b ++ data.flatMap escape ≠ [] :=
      List.append_ne_nil_of_left_ne_nil (List.ne_nil_of_length_pos (length_escape_pos b)) _
    rw [List.flatMap_cons, unescapeUnits, if_neg hne, unescapeUnit_escape, Option.bind_some,
      ih n (Nat.le_of_succ_le_succ hn)]
    rfl

/-- **The whole text is read back.** -/
theorem unescape_flatMap_escape (data : List UInt8) :
    unescape (data.flatMap escape) = some data := by
  refine unescapeUnits_flatMap_escape data _ ?_
  rw [List.length_flatMap]
  induction data with
  | nil => exact Nat.le_refl 0
  | cons b data ih =>
    have hb := length_escape_pos b
    rw [List.length_cons, List.map_cons, List.sum_cons]
    omega

theorem length_flatMap_escape_le (data : List UInt8) :
    (data.flatMap escape).length ≤ 4 * data.length := by
  induction data with
  | nil => exact Nat.le_refl 0
  | cons b data ih =>
    have hb : (escape b).length ≤ 4 := by
      by_cases h : IsHex b
      · exact Nat.le_of_eq (length_escape_of_isHex h)
      · exact Nat.le_trans (length_escape_of_not_isHex h).2 (by decide)
    rw [List.flatMap_cons, List.length_append, List.length_cons]
    omega

/-! ## The buffer -/

/-- `out` is written, and nothing behind the buffer is. -/
structure Printed (maxlen : Nat) (mem : Nat → UInt8) (out : List UInt8) (s : Text) : Prop where
  txt : s.txt = out.length
  text : block s.mem 0 out.length = out
  frame : ∀ k, maxlen ≤ k → s.mem k = mem k

section run

variable {maxlen : Nat} {mem : Nat → UInt8} {out : List UInt8} {s : Text} {b : UInt8}

/-- A text is written, with something behind it that is not counted. -/
theorem Printed.write (h : Printed maxlen mem out s) (text more : List UInt8)
    (hle : out.length + text.length + more.length ≤ maxlen) :
    Printed maxlen mem (out ++ text)
      { mem := poke s.txt (text ++ more) s.mem, txt := s.txt + text.length } := by
  have hlen : (text ++ more).length = text.length + more.length := List.length_append
  refine ⟨?_, ?_, fun k hk => ?_⟩
  · rw [List.length_append, h.txt]
  · rw [List.length_append, block_add, Nat.zero_add, h.txt, block_poke_append rfl,
      block_poke_outside (.inl (by omega)), h.text]
  · have hout : poke s.txt (text ++ more) s.mem k = s.mem k :=
      poke_outside (.inr (by rw [h.txt]; omega))
    exact hout.trans (h.frame k hk)

theorem Printed.store (h : Printed maxlen mem out s) (c : UInt8) (hlt : out.length < maxlen) :
    ∃ s', store maxlen c s = .next () s' ∧ Printed maxlen mem (out ++ [c]) s' := by
  refine ⟨_, ?_, h.write [c] [] hlt⟩
  unfold SimpleConfig.store
  rw [bind_next (assert_of _ (by rw [h.txt]; exact hlt))]
  rfl

theorem Printed.snprintf (h : Printed maxlen mem out s) (text : List UInt8)
    (hlt : out.length + text.length < maxlen) :
    ∃ s', snprintf maxlen text s = .next () s' ∧ Printed maxlen mem (out ++ text) s' := by
  refine ⟨_, ?_, h.write text [0] hlt⟩
  have htake : text.take (maxlen - s.txt - 1) = text :=
    List.take_of_length_le (by rw [h.txt]; omega)
  change Outcome.next () (Text.mk (if s.txt < maxlen then _ else _) _) = _
  rw [if_pos (by rw [h.txt]; omega), htake]

/-- **One byte**, where it has the room it needs. -/
theorem Printed.encodeByte (h : Printed maxlen mem out s) (hle : out.length + 4 ≤ maxlen)
    (hclear : IsHex b → out.length + 4 ≠ maxlen) :
    ∃ s', encodeByte maxlen b s = .next () s' ∧ Printed maxlen mem (out ++ escape b) s' := by
  unfold SimpleConfig.encodeByte escape
  cases hletter : escapeLetter b with
  | some c =>
    obtain ⟨s1, hstep1, h1⟩ := h.store 92 (by omega)
    obtain ⟨s2, hstep2, h2⟩ := h1.store c (by rw [List.length_append, List.length_singleton]; omega)
    refine ⟨s2, (bind_next hstep1).trans hstep2, ?_⟩
    rwa [List.append_assoc] at h2
  | none =>
    by_cases hplain : 32 ≤ b ∧ b ≤ 127
    · simp only [if_pos hplain]
      exact h.store b (by omega)
    · simp only [if_neg hplain]
      have hne := hclear ⟨hletter, hplain⟩
      exact h.snprintf (hexText b) (by change out.length + 4 < maxlen; omega)

/-- **The last room** is taken by a byte in hexadecimal: `txt` is at the end of the buffer. -/
theorem encodeByte_full (h : s.txt + 4 = maxlen) (hb : IsHex b) :
    ∃ s', encodeByte maxlen b s = .next () s' ∧ s'.txt = maxlen := by
  unfold SimpleConfig.encodeByte
  rw [hb.1]
  simp only [if_neg hb.2]
  exact ⟨_, rfl, h⟩

/-- No byte in hexadecimal comes where there is room for its four characters and no more, the
buffer being filled up to `n`. -/
def Clear (maxlen n : Nat) (data : List UInt8) : Prop :=
  ∀ pre b post, data = pre ++ b :: post → IsHex b →
    n + (pre.flatMap escape).length + 4 ≠ maxlen

theorem clear_cons {n : Nat} {data : List UInt8} : Clear maxlen n (b :: data) ↔
    (IsHex b → n + 4 ≠ maxlen) ∧ Clear maxlen (n + (escape b).length) data := by
  constructor
  · intro h
    refine ⟨fun hb => h [] b data rfl hb, fun pre c post hdata hc => ?_⟩
    have hroom := h (b :: pre) c post (by rw [hdata]; rfl) hc
    rwa [List.flatMap_cons, List.length_append, ← Nat.add_assoc] at hroom
  · rintro ⟨hb, hdata⟩ pre c post heq hc
    cases pre with
    | nil =>
      cases heq
      exact hb hc
    | cons c' pre =>
      cases heq
      rw [List.flatMap_cons, List.length_append, ← Nat.add_assoc]
      exact hdata pre c post rfl hc

/-- **The loop**: it writes bytes up to the first without room; or it comes to a byte in
hexadecimal with the last room, and stops at the end of the buffer. -/
theorem encodeBytes_spec (data : List UInt8) : ∀ {out : List UInt8} {s : Text},
    Printed maxlen mem out s → out.length < maxlen →
      ∃ s', encodeBytes maxlen data s = .next () s' ∧
        ((Clear maxlen out.length data ∧ ∃ pre, pre <+: data ∧
            Printed maxlen mem (out ++ pre.flatMap escape) s' ∧ s'.txt < maxlen ∧
            (pre = data ∨ maxlen < s'.txt + 4)) ∨
          (¬ Clear maxlen out.length data ∧ s'.txt = maxlen)) := by
  induction data with
  | nil =>
    intro out s h hlt
    refine ⟨s, rfl, Or.inl ⟨fun pre b post heq => by simp at heq, [], List.prefix_refl _, ?_, ?_,
      Or.inl rfl⟩⟩
    · rwa [List.flatMap_nil, List.append_nil]
    · rwa [h.txt]
  | cons b data ih =>
    intro out s h hlt
    have htxt := h.txt
    by_cases hstop : maxlen < s.txt + 4
    · -- no room for four characters, so that no byte can be the one without its NUL
      refine ⟨s, if_pos hstop, Or.inl ⟨fun pre c post _ _ => by omega, [], List.nil_prefix, ?_, ?_,
        Or.inr hstop⟩⟩
      · rwa [List.flatMap_nil, List.append_nil]
      · omega
    · have hround : encodeBytes maxlen (b :: data) s =
          (do SimpleConfig.encodeByte maxlen b; encodeBytes maxlen data : Printer Unit) s :=
        if_neg hstop
      rw [clear_cons, hround]
      by_cases hclear : IsHex b → out.length + 4 ≠ maxlen
      · obtain ⟨s1, hstep, h1⟩ := h.encodeByte (by omega) hclear
        have hlt1 : (out ++ escape b).length < maxlen := by
          rw [List.length_append]
          by_cases hb : IsHex b
          · have hne := hclear hb
            rw [length_escape_of_isHex hb]
            omega
          · have hle := (length_escape_of_not_isHex hb).2
            omega
        obtain ⟨s', hrun, hspec⟩ := ih h1 hlt1
        rw [List.length_append] at hspec
        refine ⟨s', (bind_next hstep).trans hrun, hspec.imp ?_ ?_⟩
        · rintro ⟨hdata, pre, hpre, hprinted, hin, hend⟩
          refine ⟨⟨hclear, hdata⟩, b :: pre, List.cons_prefix_cons.mpr ⟨rfl, hpre⟩, ?_, hin,
            hend.imp_left (congrArg (b :: ·))⟩
          rwa [List.append_assoc] at hprinted
        · rintro ⟨hdata, hfull⟩
          exact ⟨fun hboth => hdata hboth.2, hfull⟩
      · have hb : IsHex b := by
          by_contra hb
          exact hclear fun h => absurd h hb
        -- the escape of four characters just fits, so its NUL does not
        have hfull : s.txt + 4 = maxlen := by
          by_contra hne
          exact hclear fun _ => by omega
        obtain ⟨s1, hstep, h1⟩ := encodeByte_full hfull hb
        refine ⟨s1, (bind_next hstep).trans ?_, Or.inr ⟨fun hboth => hclear hboth.1, h1⟩⟩
        cases data with
        | nil => rfl
        | cons c data => exact if_pos (by omega)

end run

/-! ## `printf_encode` -/

/-- **The text is right**: it is inside the buffer and ends in a NUL, it stands for bytes the input
starts with, and for all of them where four characters each and the NUL fit. -/
structure Faithful (maxlen : Nat) (mem : Nat → UInt8) (data : List UInt8) (s : Text) : Prop where
  frame : ∀ k, maxlen ≤ k → s.mem k = mem k
  text : ∃ text pre, text.length < maxlen ∧ block s.mem 0 text.length = text ∧ 0 ∉ text ∧
    s.mem text.length = 0 ∧ unescape text = some pre ∧ pre <+: data ∧
    (4 * data.length + 1 ≤ maxlen → pre = data)

section whole

variable {maxlen : Nat} {data : List UInt8}

/-- The NUL behind what the loop has written. -/
theorem printfEncode_eq {mem : Nat → UInt8} {s : Text}
    (h : encodeBytes maxlen data { mem := mem, txt := 0 } = .next () s) :
    printfEncode maxlen data { mem := mem, txt := 0 } =
      (do
        assert .outside fun s => s.txt < maxlen
        modify fun s => { s with mem := poke s.txt [0] s.mem } : Printer Unit) s :=
  bind_next h

theorem printed_start (maxlen : Nat) (mem : Nat → UInt8) :
    Printed maxlen mem [] { mem := mem, txt := 0 } := ⟨rfl, rfl, fun _ _ => rfl⟩

/-- At every other level the text is right. -/
theorem printfEncode_of_clear (hmaxlen : 1 ≤ maxlen) (mem : Nat → UInt8)
    (hclear : Clear maxlen 0 data) :
    ∃ s, printfEncode maxlen data { mem := mem, txt := 0 } = .next () s ∧
      Faithful maxlen mem data s := by
  obtain ⟨s, hrun, hspec⟩ := encodeBytes_spec data (printed_start maxlen mem) hmaxlen
  obtain ⟨-, pre, hpre, hprinted, hlt, hend⟩ := hspec.resolve_right fun h => h.1 hclear
  rw [List.nil_append] at hprinted
  have htxt := hprinted.txt
  rw [printfEncode_eq hrun]
  refine ⟨_, bind_next (assert_of _ hlt), fun k hk => ?_, pre.flatMap escape, pre, htxt ▸ hlt, ?_,
    fun hzero => ?_, ?_, unescape_flatMap_escape pre, hpre, fun hroom => ?_⟩
  · exact (poke_outside (.inr (by rw [List.length_singleton]; omega))).trans (hprinted.frame k hk)
  · exact (block_poke_outside (.inl (by omega))).trans hprinted.text
  · obtain ⟨b, -, hb⟩ := List.mem_flatMap.mp hzero
    exact zero_notMem_escape b hb
  · change poke s.txt [0] s.mem (pre.flatMap escape).length = 0
    rw [← htxt]
    exact poke_cons_self 0
  · rcases hend with heq | hstop
    · exact heq
    · have hle := length_flatMap_escape_le pre
      exact hpre.eq_of_length_le (by omega)

/-- At the last room the NUL goes behind the buffer. -/
theorem printfEncode_of_not_clear (hmaxlen : 1 ≤ maxlen) (mem : Nat → UInt8)
    (hclear : ¬ Clear maxlen 0 data) :
    (printfEncode maxlen data { mem := mem, txt := 0 }).IsFault .outside := by
  obtain ⟨s, hrun, hspec⟩ := encodeBytes_spec data (printed_start maxlen mem) hmaxlen
  obtain ⟨-, hfull⟩ := hspec.resolve_left fun h => hclear h.1
  rw [printfEncode_eq hrun, bind_fault (assert_of_not _ (by omega))]
  rfl

end whole

/-- **When `printf_encode` is right**: exactly where no byte in hexadecimal comes with room for four
characters and no more. -/
theorem printfEncode_faithful_iff {maxlen : Nat} (hmaxlen : 1 ≤ maxlen) (mem : Nat → UInt8)
    (data : List UInt8) :
    (∃ s, printfEncode maxlen data { mem := mem, txt := 0 } = .next () s ∧
      Faithful maxlen mem data s) ↔ Clear maxlen 0 data := by
  refine ⟨?_, printfEncode_of_clear hmaxlen mem⟩
  rintro ⟨s, hnext, -⟩
  by_contra hclear
  have hfault := printfEncode_of_not_clear hmaxlen mem hclear
  rw [hnext] at hfault
  exact hfault

/-- Room for a letter and a byte in hexadecimal. -/
theorem printfEncode_faithful_iff_eight :
    ∃ s, printfEncode 8 [65, 200] { mem := fun _ => 7, txt := 0 } = .next () s ∧
      Faithful 8 (fun _ => 7) [65, 200] s := by
  have hlast : Clear 8 (0 + (escape 65).length + (escape 200).length) [] := fun pre b post hnil =>
    absurd hnil.symm (List.append_ne_nil_of_right_ne_nil pre (List.cons_ne_nil b post))
  exact (printfEncode_faithful_iff (by decide) _ _).mpr
    (clear_cons.mpr ⟨fun _ => by decide, clear_cons.mpr ⟨fun _ => by decide, hlast⟩⟩)

/-- A byte in hexadecimal for a buffer of four. -/
theorem not_printfEncode_faithful :
    ¬ ∀ (maxlen : Nat) (mem : Nat → UInt8) (data : List UInt8), 1 ≤ maxlen →
      ∃ s, printfEncode maxlen data { mem := mem, txt := 0 } = .next () s ∧
        Faithful maxlen mem data s := by
  intro hall
  obtain ⟨s, hnext, -⟩ := hall 4 (fun _ => 7) [200] (by decide)
  have hfault : (printfEncode 4 [200] { mem := fun _ => 7, txt := 0 }).IsFault .outside := by
    decide
  rw [hnext] at hfault
  exact hfault

/-- **The caller**: the text of an SSID of up to 32 bytes is right, and it is that of all of it. -/
theorem wpaSsidTxt_faithful {ssid : List UInt8} (h : ssid.length ≤ 32) (mem : Nat → UInt8) :
    ∃ s, wpaSsidTxt (some ssid) { mem := mem, txt := 0 } = .next () s ∧
      Faithful sizeofSsidTxt mem ssid s := by
  refine printfEncode_of_clear (by decide) mem fun pre b post hssid _ => ?_
  have hle := length_flatMap_escape_le pre
  have hlen := congrArg List.length hssid
  rw [List.length_append, List.length_cons] at hlen
  unfold sizeofSsidTxt
  omega

end SimpleConfig

end Rk3399
