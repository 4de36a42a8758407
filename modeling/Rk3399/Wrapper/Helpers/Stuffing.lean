import Rk3399.Wrapper.Model.Normalise
/-!
# Stuffing in front of a marker

The lists of bytes that the copy and the trimming of a picture are about:
a picture without the pairs `FF 00` in front of the markers `FF Dx`, what the
copy from an AVI1 camera makes of it, and a picture without the units `FF` and
`FF 00` at its end.
-/

namespace Rk3399

namespace Wrapper

/-! ## Pairs in front of a marker -/

/-- A pair `FF 00` and a marker `FF Dx`. -/
def Stuffed (a b c d : UInt8) : Prop := a = 0xFF ∧ b = 0x00 ∧ c = 0xFF ∧ isD d = true

instance (a b c d : UInt8) : Decidable (Stuffed a b c d) := inferInstanceAs (Decidable (_ ∧ _))

/-- **The bytes without the pairs `FF 00` in front of a marker `FF Dx`**, from left to right. -/
def strip : List UInt8 → List UInt8
  | a :: b :: c :: d :: l =>
    if Stuffed a b c d then c :: strip (d :: l) else a :: strip (b :: c :: d :: l)
  | l => l

/-- The same where the last four bytes are not looked at. -/
def stripFront : List UInt8 → List UInt8
  | a :: b :: c :: d :: e :: l =>
    if Stuffed a b c d then c :: stripFront (d :: e :: l)
    else a :: stripFront (b :: c :: d :: e :: l)
  | l => l

/-- The last four bytes are a pair and a marker. -/
def EndsStuffed (l : List UInt8) : Prop := ∃ a b c d, Stuffed a b c d ∧ [a, b, c, d] <:+ l

theorem isD_ne {d : UInt8} (h : isD d = true) : d ≠ 0x00 ∧ d ≠ 0xFF := by
  constructor
  · rintro rfl
    exact absurd h (by decide)
  · rintro rfl
    exact absurd h (by decide)

theorem endsStuffed_cons {a b c d e : UInt8} {l : List UInt8} :
    EndsStuffed (a :: b :: c :: d :: e :: l) ↔ EndsStuffed (b :: c :: d :: e :: l) := by
  constructor
  · rintro ⟨w, x, y, z, h, hsuffix⟩
    rcases List.suffix_cons_iff.1 hsuffix with heq | hsuffix
    · exact absurd (congrArg List.length heq) (by simp)
    · exact ⟨w, x, y, z, h, hsuffix⟩
  · rintro ⟨w, x, y, z, h, hsuffix⟩
    exact ⟨w, x, y, z, h, List.suffix_cons_iff.2 (.inr hsuffix)⟩

/-- A pair and a marker overlap no other. -/
theorem endsStuffed_of_stuffed {a b c d e : UInt8} {l : List UInt8} (h : Stuffed a b c d) :
    EndsStuffed (a :: b :: c :: d :: e :: l) ↔ EndsStuffed (d :: e :: l) := by
  obtain ⟨rfl, rfl, rfl, hd⟩ := h
  rw [endsStuffed_cons]
  constructor
  · rintro ⟨w, x, y, z, ⟨rfl, rfl, rfl, hz⟩, hsuffix⟩
    rcases List.suffix_cons_iff.1 hsuffix with heq | hsuffix
    · exact absurd (List.cons.inj heq).1 (by decide)
    rcases List.suffix_cons_iff.1 hsuffix with heq | hsuffix
    · exact absurd (List.cons.inj (List.cons.inj heq).2).1.symm (isD_ne hd).1
    · exact ⟨_, _, _, _, ⟨rfl, rfl, rfl, hz⟩, hsuffix⟩
  · rintro ⟨w, x, y, z, hw, hsuffix⟩
    exact ⟨w, x, y, z, hw, hsuffix.trans ⟨[0x00, 0xFF], rfl⟩⟩

theorem endsStuffed_quad {a b c d : UInt8} : EndsStuffed [a, b, c, d] ↔ Stuffed a b c d := by
  constructor
  · rintro ⟨w, x, y, z, h, hsuffix⟩
    obtain ⟨rfl, rfl, rfl, rfl⟩ : w = a ∧ x = b ∧ y = c ∧ z = d := by
      simpa using hsuffix.eq_of_length rfl
    exact h
  · exact fun h => ⟨a, b, c, d, h, List.suffix_refl _⟩

theorem EndsStuffed.length_le {l : List UInt8} (h : EndsStuffed l) : 4 ≤ l.length := by
  obtain ⟨a, b, c, d, -, hsuffix⟩ := h
  exact hsuffix.length_le

/-- **The last four bytes make the difference.** -/
theorem stripFront_eq_strip_iff (l : List UInt8) : stripFront l = strip l ↔ ¬ EndsStuffed l := by
  induction l using stripFront.induct with
  | case1 a b c d e l h ih =>
    rw [stripFront, if_pos h, strip, if_pos h, endsStuffed_of_stuffed h, ← ih, List.cons_inj_right]
  | case2 a b c d e l h ih =>
    rw [stripFront, if_neg h, strip, if_neg h, endsStuffed_cons, ← ih, List.cons_inj_right]
  | case3 l hshort =>
    have hfront : stripFront l = l := by
      unfold stripFront
      split
      · exact absurd rfl (hshort _ _ _ _ _ _)
      · rfl
    rw [hfront]
    match l, hshort with
    | [a, b, c, d], _ =>
      rw [endsStuffed_quad]
      by_cases h : Stuffed a b c d
      · rw [strip, if_pos h]
        exact iff_of_false (fun heq => absurd (congrArg List.length heq) (by simp [strip]))
          (by simpa)
      · rw [strip, if_neg h]
        exact iff_of_true rfl h
    | [], _ => exact iff_of_true rfl fun h => absurd h.length_le (by simp)
    | [_], _ => exact iff_of_true rfl fun h => absurd h.length_le (by simp)
    | [_, _], _ => exact iff_of_true rfl fun h => absurd h.length_le (by simp)
    | [_, _, _], _ => exact iff_of_true rfl fun h => absurd h.length_le (by simp)
    | a :: b :: c :: d :: e :: l, hshort => exact absurd rfl (hshort a b c d e l)

theorem length_stripFront (l : List UInt8) :
    (stripFront l).length ≤ l.length ∧ ((stripFront l).length = l.length → stripFront l = l) := by
  induction l using stripFront.induct with
  | case1 a b c d e l h ih =>
    rw [stripFront, if_pos h]
    have := ih.1
    simp only [List.length_cons] at this ⊢
    omega
  | case2 a b c d e l h ih =>
    rw [stripFront, if_neg h]
    simp only [List.length_cons] at ih ⊢
    exact ⟨Nat.succ_le_succ ih.1, fun heq => congrArg (a :: ·) (ih.2 (Nat.succ.inj heq))⟩
  | case3 l hshort =>
    have hfront : stripFront l = l := by
      unfold stripFront
      split
      · exact absurd rfl (hshort _ _ _ _ _ _)
      · rfl
    rw [hfront]
    exact ⟨Nat.le_refl _, fun _ => rfl⟩

/-! ## Units at the end -/

/-- Bytes from right to left without the units `FF` and `FF 00` in front. -/
def dropUnits : List UInt8 → List UInt8
  | [] => []
  | [a] => if a = 0xFF then [] else [a]
  | a :: b :: l =>
    if a = 0xFF then dropUnits (b :: l)
    else if a = 0x00 ∧ b = 0xFF then dropUnits l
    else a :: b :: l

/-- **The bytes without the units `FF` and `FF 00` at the end.** -/
def core (body : List UInt8) : List UInt8 := (dropUnits body.reverse).reverse

/-- What is dropped is made of the two bytes of a unit. -/
theorem exists_units (r : List UInt8) :
    ∃ u, r = u ++ dropUnits r ∧ ∀ b ∈ u, b = 0xFF ∨ b = 0x00 := by
  induction r using dropUnits.induct with
  | case1 => exact ⟨[], rfl, by simp⟩
  | case2 => exact ⟨[0xFF], rfl, by simp⟩
  | case3 a h => exact ⟨[], by rw [dropUnits, if_neg h]; rfl, by simp⟩
  | case4 b l ih =>
    obtain ⟨u, hu, hunit⟩ := ih
    refine ⟨0xFF :: u, ?_, List.forall_mem_cons.2 ⟨.inl rfl, hunit⟩⟩
    rw [dropUnits, if_pos rfl, List.cons_append, ← hu]
  | case5 a b l ha h ih =>
    obtain ⟨rfl, rfl⟩ := h
    obtain ⟨u, hu, hunit⟩ := ih
    refine ⟨0x00 :: 0xFF :: u, ?_, ?_⟩
    · rw [dropUnits, if_neg (by decide), if_pos ⟨rfl, rfl⟩, List.cons_append, List.cons_append,
        ← hu]
    · exact List.forall_mem_cons.2 ⟨.inr rfl, List.forall_mem_cons.2 ⟨.inl rfl, hunit⟩⟩
  | case6 a b l ha h => exact ⟨[], by rw [dropUnits, if_neg ha, if_neg h]; rfl, by simp⟩

theorem core_append (body : List UInt8) :
    ∃ u, body = core body ++ u ∧ ∀ b ∈ u, b = 0xFF ∨ b = 0x00 := by
  obtain ⟨u, hu, hunit⟩ := exists_units body.reverse
  refine ⟨u.reverse, ?_, fun b hb => hunit b (List.mem_reverse.1 hb)⟩
  rw [core, ← List.reverse_append, ← hu, List.reverse_reverse]

/-- A byte of no unit stays. -/
theorem mem_core {body : List UInt8} {b : UInt8} (hb : b ∈ body) (hne : b ≠ 0xFF) (hnz : b ≠ 0x00) :
    b ∈ core body := by
  obtain ⟨u, hu, hunit⟩ := core_append body
  rw [hu] at hb
  rcases List.mem_append.1 hb with h | h
  · exact h
  · exact ((hunit b h).elim hne hnz).elim

end Wrapper

end Rk3399
