import Mathlib.Data.List.Induction
import Mathlib.Algebra.Order.Ring.Int
import Mathlib.Tactic.Common
/-!
# Words

A list split at a separator, where any number of separators stands between
two words and at the ends: `words` are the parts that are not empty. A list is its words
with separators around them, and the words say all of it but how many.
-/

namespace Rk3399

variable {α : Type} [DecidableEq α] {sep : α} {w v l r : List α}

/-- The parts between separators that are not empty. -/
def words (sep : α) (l : List α) : List (List α) := (l.splitOn sep).filter (· ≠ [])

theorem words_append_cons (l r : List α) :
    words sep (l ++ sep :: r) = words sep l ++ words sep r := by
  rw [words, List.splitOn_append_cons_self, List.filter_append]
  rfl

@[simp] theorem words_nil : words sep [] = [] := rfl

@[simp] theorem words_cons_sep (r : List α) : words sep (sep :: r) = words sep r :=
  words_append_cons [] r

/-- Separators in front say nothing. -/
@[simp] theorem words_replicate_append (n : Nat) (r : List α) :
    words sep (List.replicate n sep ++ r) = words sep r := by
  induction n with
  | zero => rfl
  | succ n ih => rw [List.replicate_succ, List.cons_append, words_cons_sep, ih]

@[simp] theorem words_replicate (n : Nat) : words sep (List.replicate n sep) = [] := by
  have h : words sep (List.replicate n sep ++ []) = words sep [] := words_replicate_append n []
  rwa [List.append_nil] at h

/-- Separators behind say nothing. -/
@[simp] theorem words_append_replicate (l : List α) (n : Nat) :
    words sep (l ++ List.replicate n sep) = words sep l := by
  cases n with
  | zero => rw [List.replicate_zero, List.append_nil]
  | succ n => rw [List.replicate_succ, words_append_cons, words_replicate, List.append_nil]

/-- A word is its only word. -/
theorem words_word (hw : sep ∉ w) (hne : w ≠ []) : words sep w = [w] := by
  rw [words, List.splitOn_eq_singleton hw, List.filter_cons_of_pos (by simpa using hne)]
  rfl

/-- **The first word** of what begins with it and a separator. -/
theorem words_word_append (hw : sep ∉ w) (hne : w ≠ []) (n : Nat) (r : List α) :
    words sep (w ++ (List.replicate (n + 1) sep ++ r)) = w :: words sep r := by
  rw [List.replicate_succ, List.cons_append, words_append_cons, words_word hw hne,
    words_replicate_append]
  rfl

/-! ## What words say of the list -/

/-- **A list is separators, or it has a first word**, and behind it nothing or a separator. -/
theorem exists_word (sep : α) (l : List α) :
    (∃ n, l = List.replicate n sep) ∨
      ∃ n w r, l = List.replicate n sep ++ (w ++ r) ∧ sep ∉ w ∧ w ≠ [] ∧
        (r = [] ∨ ∃ r', r = sep :: r') := by
  induction l with
  | nil => exact .inl ⟨0, rfl⟩
  | cons c l ih =>
    by_cases hc : c = sep
    · subst hc
      rcases ih with ⟨n, rfl⟩ | ⟨n, w, r, rfl, h⟩
      · exact .inl ⟨n + 1, rfl⟩
      · exact .inr ⟨n + 1, w, r, rfl, h⟩
    · right
      have hcons : ∀ {w : List α}, sep ∉ w → sep ∉ c :: w := fun hw h =>
        (List.mem_cons.1 h).elim (fun h => hc h.symm) hw
      rcases ih with ⟨n, rfl⟩ | ⟨n, w, r, rfl, hw, -, hr⟩
      · refine ⟨0, [c], List.replicate n sep, rfl, hcons List.not_mem_nil, List.cons_ne_nil _ _, ?_⟩
        cases n with
        | zero => exact .inl rfl
        | succ n => exact .inr ⟨_, rfl⟩
      · cases n with
        | zero => exact ⟨0, c :: w, r, rfl, hcons hw, List.cons_ne_nil _ _, hr⟩
        | succ n =>
          exact ⟨0, [c], List.replicate (n + 1) sep ++ (w ++ r), rfl, hcons List.not_mem_nil,
            List.cons_ne_nil _ _, .inr ⟨_, rfl⟩⟩

/-- **A list of no words is separators.** -/
theorem words_eq_nil_iff : words sep l = [] ↔ ∃ n, l = List.replicate n sep := by
  constructor
  · intro h
    rcases exists_word sep l with hl | ⟨n, w, r, rfl, hw, hne, hr⟩
    · exact hl
    · exfalso
      rw [words_replicate_append] at h
      rcases hr with rfl | ⟨r, rfl⟩
      · rw [List.append_nil, words_word hw hne] at h
        cases h
      · rw [words_append_cons, words_word hw hne] at h
        cases h
  · rintro ⟨n, rfl⟩
    exact words_replicate n

/-- **A list with a first word** is that word with separators in front, and the rest behind
separators. -/
theorem words_eq_cons {ws : List (List α)} (h : words sep l = w :: ws) :
    sep ∉ w ∧ w ≠ [] ∧ ∃ n r, l = List.replicate n sep ++ (w ++ r) ∧ words sep r = ws ∧
      (r = [] ∨ ∃ r', r = sep :: r') := by
  rcases exists_word sep l with hl | ⟨n, w', r, rfl, hw, hne, hr⟩
  · rw [words_eq_nil_iff.2 hl] at h
    cases h
  · rw [words_replicate_append] at h
    rcases hr with rfl | ⟨r, rfl⟩
    · rw [List.append_nil, words_word hw hne] at h
      cases h
      exact ⟨hw, hne, n, [], rfl, rfl, .inl rfl⟩
    · rw [words_append_cons, words_word hw hne] at h
      cases h
      exact ⟨hw, hne, n, sep :: r, rfl, words_cons_sep r, .inr ⟨r, rfl⟩⟩

/-- A word may go on in what follows. -/
theorem exists_words_append (hw : sep ∉ w) (hne : w ≠ []) (r : List α) :
    ∃ t ws, words sep (w ++ r) = (w ++ t) :: ws := by
  induction r generalizing w with
  | nil => exact ⟨[], [], by rw [List.append_nil, words_word hw hne]⟩
  | cons c r ih =>
    by_cases hc : c = sep
    · refine ⟨[], words sep r, ?_⟩
      rw [hc, words_append_cons, words_word hw hne, List.append_nil]
      rfl
    · have hw' : sep ∉ w ++ [c] := by simp [hw, Ne.symm hc]
      obtain ⟨t, ws, h⟩ := ih hw' (by simp)
      refine ⟨c :: t, ws, ?_⟩
      rwa [List.append_assoc, List.append_assoc] at h

/-- **What follows changes the last word alone**, and that by what it begins with. -/
theorem words_append_right {ws : List (List α)} (h : words sep l = ws ++ [v]) (r : List α) :
    ∃ t ws', words sep (l ++ r) = ws ++ (v ++ t) :: ws' := by
  induction ws generalizing l with
  | nil =>
    obtain ⟨hv, hne, n, l', rfl, -, hend⟩ := words_eq_cons h
    rw [List.append_assoc, words_replicate_append, List.append_assoc]
    rcases hend with rfl | ⟨l', rfl⟩
    · exact exists_words_append hv hne r
    · refine ⟨[], words sep (l' ++ r), ?_⟩
      rw [List.cons_append, words_append_cons, words_word hv hne, List.append_nil]
      rfl
  | cons w ws ih =>
    obtain ⟨hw, hne, n, l', rfl, hl', hend⟩ := words_eq_cons h
    rw [List.append_assoc, words_replicate_append, List.append_assoc]
    rcases hend with rfl | ⟨l', rfl⟩
    · rw [words_nil] at hl'
      simp at hl'
    · rw [words_cons_sep] at hl'
      obtain ⟨t, ws', h'⟩ := ih hl'
      refine ⟨t, ws', ?_⟩
      rw [List.cons_append, words_append_cons, words_word hw hne, h']
      rfl

/-- **A list of two words**: separators, a word, separators, a word, separators. -/
theorem words_eq_pair_iff :
    words sep l = [w, v] ↔ (sep ∉ w ∧ w ≠ []) ∧ (sep ∉ v ∧ v ≠ []) ∧ ∃ a b c,
      l = List.replicate a sep ++ (w ++ (List.replicate (b + 1) sep ++
        (v ++ List.replicate c sep))) := by
  constructor
  · intro h
    obtain ⟨hw, hwne, a, r, rfl, hr, hend⟩ := words_eq_cons h
    obtain ⟨hv, hvne, b, r', rfl, hr', -⟩ := words_eq_cons hr
    obtain ⟨c, rfl⟩ := words_eq_nil_iff.1 hr'
    refine ⟨⟨hw, hwne⟩, ⟨hv, hvne⟩, a, ?_⟩
    cases b with
    | succ b => exact ⟨b, c, rfl⟩
    | zero =>
      -- the rest begins with a separator, and the word does not
      exfalso
      obtain ⟨x, v, rfl⟩ := List.exists_cons_of_ne_nil hvne
      rcases hend with h | ⟨r, h⟩
      · cases h
      · cases h
        exact hv List.mem_cons_self
  · rintro ⟨⟨hw, hwne⟩, ⟨hv, hvne⟩, a, b, c, rfl⟩
    rw [words_replicate_append, words_word_append hw hwne, words_append_replicate,
      words_word hv hvne]

/-! ## Between the separators at the ends -/

/-- The list begins and ends with an element that is no separator. -/
structure Trimmed (sep : α) (l : List α) : Prop where
  head : ∃ x r, l = x :: r ∧ x ≠ sep
  last : ∃ r x, l = r ++ [x] ∧ x ≠ sep

omit [DecidableEq α] in
/-- Nothing stands in front of a list that does not begin with a separator. -/
theorem Trimmed.replicate_eq_zero {n : Nat} (h : Trimmed sep (List.replicate n sep ++ r)) :
    n = 0 := by
  cases n with
  | zero => rfl
  | succ n =>
    obtain ⟨x, l, heq, hx⟩ := h.head
    exact absurd (List.cons.inj heq).1.symm hx

omit [DecidableEq α] in
/-- And nothing behind one that does not end with one. -/
theorem Trimmed.replicate_eq_zero' {n : Nat} (h : Trimmed sep (r ++ List.replicate n sep)) :
    n = 0 := by
  cases n with
  | zero => rfl
  | succ n =>
    obtain ⟨l, x, heq, hx⟩ := h.last
    rw [List.replicate_succ', ← List.append_assoc] at heq
    exact absurd (List.append_inj_right' heq rfl) (by simpa using hx.symm)

/-- **A list with a word** is a trimmed one with separators at the ends. -/
theorem exists_trimmed (h : words sep l ≠ []) :
    ∃ a body c, l = List.replicate a sep ++ (body ++ List.replicate c sep) ∧ Trimmed sep body := by
  obtain ⟨w, ws, hws⟩ := List.exists_cons_of_ne_nil h
  obtain ⟨hw, hne, a, r, rfl, -, -⟩ := words_eq_cons hws
  clear h hws ws
  obtain ⟨x, w, rfl⟩ := List.exists_cons_of_ne_nil hne
  have hx : x ≠ sep := fun h => hw (h ▸ List.mem_cons_self)
  refine ⟨a, ?_⟩
  -- what stands behind the last element that is no separator
  induction r using List.reverseRecOn with
  | nil =>
    obtain ⟨l, y, hl⟩ := List.eq_nil_or_concat (x :: w) |>.resolve_left (List.cons_ne_nil _ _)
    have hy : y ≠ sep := fun h => hw (by rw [hl, h]; simp)
    exact ⟨x :: w, 0, by simp, ⟨x, w, rfl, hx⟩, ⟨l, y, by simpa using hl, hy⟩⟩
  | append_singleton r c ih =>
    by_cases hc : c = sep
    · obtain ⟨body, n, heq, hbody⟩ := ih
      refine ⟨body, n + 1, ?_, hbody⟩
      have heq := List.append_cancel_left heq
      rw [hc, List.replicate_succ', ← List.append_assoc (x :: w) r [sep], heq]
      simp
    · exact ⟨(x :: w) ++ (r ++ [c]), 0, by simp, ⟨x, w ++ (r ++ [c]), rfl, hx⟩,
        ⟨(x :: w) ++ r, c, by simp, hc⟩⟩

/-- A trimmed list of one word is the word. -/
theorem Trimmed.eq_word (h : Trimmed sep l) (hw : words sep l = [w]) : l = w ∧ sep ∉ w := by
  obtain ⟨hnot, -, n, r, rfl, hr, -⟩ := words_eq_cons hw
  obtain ⟨m, rfl⟩ := words_eq_nil_iff.1 hr
  cases h.replicate_eq_zero
  rw [← List.append_assoc] at h
  cases h.replicate_eq_zero'
  simp [hnot]

/-- **A trimmed list of several words** is the first, separators, and a trimmed list of the
others. -/
theorem Trimmed.split {ws : List (List α)} (h : Trimmed sep l) (hw : words sep l = w :: v :: ws) :
    sep ∉ w ∧ w ≠ [] ∧ ∃ b core, l = w ++ (List.replicate (b + 1) sep ++ core) ∧
      Trimmed sep core ∧ words sep core = v :: ws := by
  obtain ⟨hnot, hne, n, r, rfl, hr, hend⟩ := words_eq_cons hw
  cases h.replicate_eq_zero
  obtain ⟨a, core, c, rfl, hcore⟩ := exists_trimmed (show words sep r ≠ [] by simp [hr])
  have hc : c = 0 := by
    rw [List.replicate_zero, List.nil_append, ← List.append_assoc, ← List.append_assoc] at h
    exact h.replicate_eq_zero'
  subst hc
  rw [words_replicate_append, words_append_replicate] at hr
  refine ⟨hnot, hne, ?_⟩
  cases a with
  | succ a => exact ⟨a, core, by simp, hcore, hr⟩
  | zero =>
    -- the rest would begin with a separator, and a trimmed list does not
    exfalso
    obtain ⟨x, t, rfl, hx⟩ := hcore.head
    rcases hend with h | ⟨r, h⟩
    · cases h
    · exact hx (List.cons.inj h).1

end Rk3399
