import Mathlib.Data.List.Infix
import Rk3399.Common.Program
/-!
# Programs cut short

The failures around a program do not change what it does but end it: it puts
out the beginning of what it puts out where nothing fails. `Cuts out x y` says
so of `x` among failures and `y` without them, and `Grows out y` that `y` only
adds to what was put out. Both follow the way the two programs are built.
-/

namespace Rk3399

namespace Prog

variable {ε ρ σ α β ω : Type} (out : σ → List ω)

/-- However it ends, the program only adds to what was put out. -/
structure Grows (x : Prog ε ρ σ α) : Prop where
  run : ∀ s, out s <+: out (x s).state

/-- From every state `x` ends as `y` does, or it leaves with the beginning of what `y` puts
out. -/
structure Cuts (x y : Prog ε ρ σ α) : Prop where
  run : ∀ s, x s = y s ∨ ∃ r s', x s = .exit r s' ∧ out s' <+: out (y s).state

variable {out}

/-! ## Adding to the output -/

section grows

theorem grows_pure (a : α) : Grows out (pure a : Prog ε ρ σ α) := ⟨fun _ => List.prefix_rfl⟩

theorem grows_gets (f : σ → α) : Grows out (gets f : Prog ε ρ σ α) := ⟨fun _ => List.prefix_rfl⟩

theorem grows_exit (r : ρ) : Grows out (exit r : Prog ε ρ σ α) := ⟨fun _ => List.prefix_rfl⟩

theorem grows_fault (e : ε) : Grows out (fault e : Prog ε ρ σ α) := ⟨fun _ => List.prefix_rfl⟩

theorem grows_modify {f : σ → σ} (h : ∀ s, out s <+: out (f s)) :
    Grows out (modify f : Prog ε ρ σ Unit) := ⟨h⟩

theorem grows_exitIf (r : ρ) (p : σ → Prop) [DecidablePred p] :
    Grows out (exitIf r p : Prog ε ρ σ Unit) := by
  refine ⟨fun s => ?_⟩
  by_cases hp : p s
  · rw [exitIf, if_pos hp]
    exact List.prefix_rfl
  · rw [exitIf_of_not r hp]
    exact List.prefix_rfl

theorem grows_assert (e : ε) (p : σ → Prop) [DecidablePred p] :
    Grows out (assert e p : Prog ε ρ σ Unit) := by
  refine ⟨fun s => ?_⟩
  by_cases hp : p s
  · rw [assert_of e hp]
    exact List.prefix_rfl
  · rw [assert_of_not e hp]
    exact List.prefix_rfl

/-- What the first part puts out comes first. -/
theorem Grows.prefix_bind {x : Prog ε ρ σ α} {f : α → Prog ε ρ σ β} (hf : ∀ a, Grows out (f a))
    (s : σ) : out (x s).state <+: out ((x >>= f) s).state := by
  cases hx : x s with
  | next a t => rw [bind_next hx]; exact (hf a).run t
  | exit r t => rw [bind_exit hx]; exact List.prefix_rfl
  | fault e t => rw [bind_fault hx]; exact List.prefix_rfl

theorem grows_bind {x : Prog ε ρ σ α} {f : α → Prog ε ρ σ β} (hx : Grows out x)
    (hf : ∀ a, Grows out (f a)) : Grows out (x >>= f) :=
  ⟨fun s => (hx.run s).trans (Grows.prefix_bind hf s)⟩

theorem grows_ite (p : Prop) [Decidable p] {x y : Prog ε ρ σ α} (hx : Grows out x)
    (hy : Grows out y) : Grows out (if p then x else y) := by
  split
  · exact hx
  · exact hy

theorem grows_loop {e : ε} {body : Prog ε ρ σ Bool} (hbody : Grows out body) (n : Nat) :
    Grows out (loop e body n) := by
  induction n with
  | zero => exact ⟨fun _ => List.prefix_rfl⟩
  | succ n ih =>
    refine ⟨fun s => ?_⟩
    have hround := hbody.run s
    rw [loop_succ]
    cases hs : body s with
    | next go t =>
      rw [hs] at hround
      cases go with
      | true => exact hround.trans (ih.run t)
      | false => exact hround
    | exit r t => rw [hs] at hround; exact hround
    | fault e t => rw [hs] at hround; exact hround

end grows

/-! ## Ending early -/

section cuts

theorem cuts_refl (x : Prog ε ρ σ α) : Cuts out x x := ⟨fun _ => Or.inl rfl⟩

/-- **Sequence.** Where the first part is cut short, what it put out is the beginning of what
both parts put out. -/
theorem cuts_bind {x y : Prog ε ρ σ α} {f g : α → Prog ε ρ σ β} (hx : Cuts out x y)
    (hf : ∀ a, Cuts out (f a) (g a)) (hg : ∀ a, Grows out (g a)) :
    Cuts out (x >>= f) (y >>= g) := by
  refine ⟨fun s => ?_⟩
  obtain hsame | ⟨r, s', hexit, hout⟩ := hx.run s
  · cases hy : y s with
    | next a t =>
      rw [bind_next (hsame.trans hy), bind_next hy]
      exact (hf a).run t
    | exit r t => exact Or.inl (by rw [bind_exit (hsame.trans hy), bind_exit hy])
    | fault e t => exact Or.inl (by rw [bind_fault (hsame.trans hy), bind_fault hy])
  · exact Or.inr ⟨r, s', bind_exit hexit, hout.trans (Grows.prefix_bind hg s)⟩

/-- A sequence that is cut short behind its first part. -/
theorem cuts_same {x : Prog ε ρ σ α} {f g : α → Prog ε ρ σ β} (hf : ∀ a, Cuts out (f a) (g a)) :
    Cuts out (x >>= f) (x >>= g) := by
  refine ⟨fun s => ?_⟩
  cases hx : x s with
  | next a t =>
    rw [bind_next hx, bind_next hx]
    exact (hf a).run t
  | exit r t => exact Or.inl (by rw [bind_exit hx, bind_exit hx])
  | fault e t => exact Or.inl (by rw [bind_fault hx, bind_fault hx])

/-- A check that fails more often. -/
theorem cuts_exitIf (r : ρ) {p q : σ → Prop} [DecidablePred p] [DecidablePred q]
    (h : ∀ s, q s → p s) :
    Cuts out (exitIf r p : Prog ε ρ σ Unit) (exitIf r q) := by
  refine ⟨fun s => ?_⟩
  by_cases hp : p s
  · refine Or.inr ⟨r, s, exitIf_of r hp, (grows_exitIf r q).run s⟩
  · rw [exitIf_of_not r hp, exitIf_of_not r fun hq => hp (h s hq)]
    exact Or.inl rfl

theorem cuts_ite (p : Prop) [Decidable p] {x x' y y' : Prog ε ρ σ α} (hx : Cuts out x y)
    (hx' : Cuts out x' y') : Cuts out (if p then x else x') (if p then y else y') := by
  split
  · exact hx
  · exact hx'

theorem cuts_loop {e : ε} {body body' : Prog ε ρ σ Bool} (hbody : Cuts out body body')
    (hgrows : Grows out body') (n : Nat) : Cuts out (loop e body n) (loop e body' n) := by
  induction n with
  | zero => exact cuts_refl _
  | succ n ih =>
    refine ⟨fun s => ?_⟩
    rw [loop_succ, loop_succ]
    obtain hsame | ⟨r, s', hexit, hout⟩ := hbody.run s
    · rw [hsame]
      cases body' s with
      | next go t =>
        cases go with
        | true => exact ih.run t
        | false => exact Or.inl rfl
      | exit r t => exact Or.inl rfl
      | fault e t => exact Or.inl rfl
    · -- what the other loop puts out in later rounds comes behind this one's
      rw [hexit]
      refine Or.inr ⟨r, s', rfl, hout.trans ?_⟩
      cases body' s with
      | next go t =>
        cases go with
        | true => exact (grows_loop hgrows n).run t
        | false => exact List.prefix_rfl
      | exit r t => exact List.prefix_rfl
      | fault e t => exact List.prefix_rfl

/-- **However a program ends among failures**, it has put out the beginning of what it puts
out without them. -/
theorem Cuts.begins {x y : Prog ε ρ σ α} (h : Cuts out x y) (s : σ) :
    out (x s).state <+: out (y s).state := by
  obtain hsame | ⟨r, s', hexit, hout⟩ := h.run s
  · rw [hsame]
  · rw [hexit]
    exact hout

end cuts

end Prog

end Rk3399
