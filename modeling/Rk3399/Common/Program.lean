import Mathlib.Algebra.Order.Ring.Int
import Mathlib.Tactic.Common
/-!
# Programs with a state, early returns and faults

A shallow embedding of imperative code: a program reads and changes a
state of type `σ` and then goes on with a value, leaves the function it
is part of with a return code, or hits a fault (an operation the source
language gives no meaning to). `wp` is the weakest precondition of the
three ways to end, with one equation for each way to build a program, so
that an invariant of a program is read off its text.
-/

namespace Rk3399

/-- How a program ends: it goes on with a value, it leaves with a return
code, or it faults; each with the state it is in then. -/
inductive Outcome (ε ρ σ α : Type) where
  | next (a : α) (s : σ)
  | exit (r : ρ) (s : σ)
  | fault (e : ε) (s : σ)
  deriving DecidableEq, Repr

namespace Outcome

variable {ε ρ σ α : Type}

/-- The state a program ends in. -/
def state : Outcome ε ρ σ α → σ
  | next _ s => s
  | exit _ s => s
  | fault _ s => s

/-- The program goes on with the value `a`. -/
def IsNext (a : α) : Outcome ε ρ σ α → Prop
  | next a' _ => a' = a
  | exit _ _ => False
  | fault _ _ => False

/-- The program leaves with the return code `r`. -/
def IsExit (r : ρ) : Outcome ε ρ σ α → Prop
  | next _ _ => False
  | exit r' _ => r' = r
  | fault _ _ => False

/-- The program hits the fault `e`. -/
def IsFault (e : ε) : Outcome ε ρ σ α → Prop
  | next _ _ => False
  | exit _ _ => False
  | fault e' _ => e' = e

instance [DecidableEq α] (a : α) : (o : Outcome ε ρ σ α) → Decidable (o.IsNext a)
  | next a' _ => inferInstanceAs (Decidable (a' = a))
  | exit _ _ => isFalse id
  | fault _ _ => isFalse id

instance [DecidableEq ρ] (r : ρ) : (o : Outcome ε ρ σ α) → Decidable (o.IsExit r)
  | next _ _ => isFalse id
  | exit r' _ => inferInstanceAs (Decidable (r' = r))
  | fault _ _ => isFalse id

instance [DecidableEq ε] (e : ε) : (o : Outcome ε ρ σ α) → Decidable (o.IsFault e)
  | next _ _ => isFalse id
  | exit _ _ => isFalse id
  | fault e' _ => inferInstanceAs (Decidable (e' = e))

theorem IsNext.eq {a : α} {o : Outcome ε ρ σ α} (h : o.IsNext a) : o = .next a o.state := by
  cases o with
  | next a' s => exact congrArg (fun a => Outcome.next a s) h
  | exit _ _ => exact h.elim
  | fault _ _ => exact h.elim

theorem IsExit.eq {r : ρ} {o : Outcome ε ρ σ α} (h : o.IsExit r) : o = .exit r o.state := by
  cases o with
  | next _ _ => exact h.elim
  | exit r' s => exact congrArg (fun r => Outcome.exit r s) h
  | fault _ _ => exact h.elim

theorem IsFault.eq {e : ε} {o : Outcome ε ρ σ α} (h : o.IsFault e) : o = .fault e o.state := by
  cases o with
  | next _ _ => exact h.elim
  | exit _ _ => exact h.elim
  | fault e' s => exact congrArg (fun e => Outcome.fault e s) h

end Outcome

/-- Programs with faults `ε`, return codes `ρ`, state `σ` and value `α`. -/
def Prog (ε ρ σ α : Type) : Type := σ → Outcome ε ρ σ α

namespace Prog

variable {ε ρ ρ' σ τ α β : Type}

/-- The program that goes on at once. -/
protected def pure (a : α) : Prog ε ρ σ α := fun s => .next a s

/-- Run `x`, then what `f` makes of its value. -/
protected def bind (x : Prog ε ρ σ α) (f : α → Prog ε ρ σ β) : Prog ε ρ σ β := fun s =>
  match x s with
  | .next a s' => f a s'
  | .exit r s' => .exit r s'
  | .fault e s' => .fault e s'

instance : Monad (Prog ε ρ σ) where
  pure := Prog.pure
  bind := Prog.bind

/-- Leave the function with a return code. -/
def exit (r : ρ) : Prog ε ρ σ α := fun s => .exit r s

/-- The operation has no meaning. -/
def fault (e : ε) : Prog ε ρ σ α := fun s => .fault e s

/-- A value read from the state. -/
def gets (f : σ → α) : Prog ε ρ σ α := fun s => .next (f s) s

/-- A change of the state. -/
def modify (f : σ → σ) : Prog ε ρ σ Unit := fun s => .next () (f s)

/-- Fault unless a condition on the state holds. -/
def assert (e : ε) (p : σ → Prop) [DecidablePred p] : Prog ε ρ σ Unit := fun s =>
  if p s then .next () s else .fault e s

/-- Leave the function where a condition on the state holds. -/
def exitIf (r : ρ) (p : σ → Prop) [DecidablePred p] : Prog ε ρ σ Unit := fun s =>
  if p s then .exit r s else .next () s

/-- Run `x` where a condition on the state holds, and nothing elsewhere. -/
def whenever (p : σ → Prop) [DecidablePred p] (x : Prog ε ρ σ Unit) : Prog ε ρ σ Unit := fun s =>
  if p s then x s else .next () s

/-- Run a program on a part of the state. -/
def zoom (get : σ → τ) (put : τ → σ → σ) (x : Prog ε ρ τ α) : Prog ε ρ σ α := fun s =>
  match x (get s) with
  | .next a t => .next a (put t s)
  | .exit r t => .exit r (put t s)
  | .fault e t => .fault e (put t s)

/-- Call a function: its return code becomes a value of the caller, `none`
standing for the code of success. -/
def call (x : Prog ε ρ σ Unit) : Prog ε ρ' σ (Option ρ) := fun s =>
  match x s with
  | .next _ s' => .next none s'
  | .exit r s' => .next (some r) s'
  | .fault e s' => .fault e s'

/-- Go round `body` until it returns `false`; the bound `n` is on the number
of rounds, and reaching it is the fault `e`. -/
def loop (e : ε) (body : Prog ε ρ σ Bool) : Nat → Prog ε ρ σ Unit
  | 0 => fault e
  | n + 1 => fun s =>
    match body s with
    | .next true s' => loop e body n s'
    | .next false s' => .next () s'
    | .exit r s' => .exit r s'
    | .fault e' s' => .fault e' s'

theorem bind_next {x : Prog ε ρ σ α} {f : α → Prog ε ρ σ β} {s s' : σ} {a : α}
    (h : x s = .next a s') : (x >>= f) s = f a s' := by
  change Prog.bind x f s = f a s'
  rw [Prog.bind, h]

theorem bind_exit {x : Prog ε ρ σ α} {f : α → Prog ε ρ σ β} {s s' : σ} {r : ρ}
    (h : x s = .exit r s') : (x >>= f) s = .exit r s' := by
  change Prog.bind x f s = .exit r s'
  rw [Prog.bind, h]

theorem bind_fault {x : Prog ε ρ σ α} {f : α → Prog ε ρ σ β} {s s' : σ} {e : ε}
    (h : x s = .fault e s') : (x >>= f) s = .fault e s' := by
  change Prog.bind x f s = .fault e s'
  rw [Prog.bind, h]

/-- **Inversion**: a sequence goes on only where both its parts do. -/
theorem bind_eq_next {x : Prog ε ρ σ α} {f : α → Prog ε ρ σ β} {s s'' : σ} {b : β}
    (h : (x >>= f) s = .next b s'') : ∃ a s', x s = .next a s' ∧ f a s' = .next b s'' := by
  change Prog.bind x f s = .next b s'' at h
  unfold Prog.bind at h
  cases hx : x s with
  | next a s' => rw [hx] at h; exact ⟨a, s', rfl, h⟩
  | exit r s' => rw [hx] at h; cases h
  | fault e s' => rw [hx] at h; cases h

section checks

variable {p : σ → Prop} [DecidablePred p] {s : σ}

theorem assert_of (e : ε) (h : p s) : assert e p s = (.next () s : Outcome ε ρ σ Unit) := if_pos h

theorem assert_of_not (e : ε) (h : ¬ p s) : assert e p s = (.fault e s : Outcome ε ρ σ Unit) :=
  if_neg h

theorem exitIf_of (r : ρ) (h : p s) : exitIf r p s = (.exit r s : Outcome ε ρ σ Unit) := if_pos h

theorem exitIf_of_not (r : ρ) (h : ¬ p s) : exitIf r p s = (.next () s : Outcome ε ρ σ Unit) :=
  if_neg h

end checks

/-! ## Weakest preconditions -/

/-- The weakest precondition: `N` for going on, `X` for leaving, `F` for a
fault. -/
def wp (x : Prog ε ρ σ α) (N : α → σ → Prop) (X : ρ → σ → Prop) (F : ε → σ → Prop) (s : σ) : Prop :=
  match x s with
  | .next a s' => N a s'
  | .exit r s' => X r s'
  | .fault e s' => F e s'

section wp

variable {N N' : α → σ → Prop} {X X' : ρ → σ → Prop} {F F' : ε → σ → Prop} {s : σ}

theorem wp_def (x : Prog ε ρ σ α) :
    wp x N X F s ↔ (∀ a s', x s = .next a s' → N a s') ∧
      (∀ r s', x s = .exit r s' → X r s') ∧ ∀ e s', x s = .fault e s' → F e s' := by
  unfold wp
  cases x s <;> simp

theorem wp_next {x : Prog ε ρ σ α} (h : wp x N X F s) {a : α} {s' : σ}
    (hx : x s = .next a s') : N a s' := by
  unfold wp at h
  rwa [hx] at h

theorem wp_exit_of {x : Prog ε ρ σ α} (h : wp x N X F s) {r : ρ} {s' : σ}
    (hx : x s = .exit r s') : X r s' := by
  unfold wp at h
  rwa [hx] at h

theorem wp_fault_of {x : Prog ε ρ σ α} (h : wp x N X F s) {e : ε}
    {s' : σ} (hx : x s = .fault e s') : F e s' := by
  unfold wp at h
  rwa [hx] at h

/-- **Consequence.** A weaker demand is met wherever a stronger one is. -/
theorem wp_mono {x : Prog ε ρ σ α} (h : wp x N X F s) (hN : ∀ a s', N a s' → N' a s')
    (hX : ∀ r s', X r s' → X' r s') (hF : ∀ e s', F e s' → F' e s') : wp x N' X' F' s := by
  rw [wp_def] at h ⊢
  exact ⟨fun a s' hx => hN a s' (h.1 a s' hx), fun r s' hx => hX r s' (h.2.1 r s' hx),
    fun e s' hx => hF e s' (h.2.2 e s' hx)⟩

theorem wp_of_next {x : Prog ε ρ σ α} {a : α} {t : σ} (h : x s = .next a t) :
    wp x N X F s ↔ N a t := by
  unfold wp
  rw [h]

theorem wp_of_fault {x : Prog ε ρ σ α} {e : ε} {t : σ} (h : x s = .fault e t) :
    wp x N X F s ↔ F e t := by
  unfold wp
  rw [h]

/-- Programs that end alike meet the same demands. -/
theorem wp_congr {x y : Prog ε ρ σ α} {t : σ} (h : x s = y t) :
    wp x N X F s ↔ wp y N X F t := by
  unfold wp
  rw [h]

/-- What a program must go on with, it goes on with. -/
theorem next_of_wp {x : Prog ε ρ σ α} {a : α} {t : σ}
    (h : wp x (fun b s' => b = a ∧ s' = t) (fun _ _ => False) (fun _ _ => False) s) :
    x s = .next a t := by
  unfold wp at h
  cases hx : x s with
  | next b s' =>
    rw [hx] at h
    obtain ⟨rfl, rfl⟩ := h
    rfl
  | exit r s' => rw [hx] at h; exact h.elim
  | fault e s' => rw [hx] at h; exact h.elim

/-- A program that must go on does. -/
theorem exists_next_of_wp {x : Prog ε ρ σ α}
    (h : wp x N (fun _ _ => False) (fun _ _ => False) s) : ∃ a t, x s = .next a t ∧ N a t := by
  unfold wp at h
  cases hx : x s with
  | next a t => rw [hx] at h; exact ⟨a, t, rfl, h⟩
  | exit r t => rw [hx] at h; exact h.elim
  | fault e t => rw [hx] at h; exact h.elim

/-- Nothing is demanded. -/
theorem wp_any (x : Prog ε ρ σ α) (s : σ) :
    wp x (fun _ _ => True) (fun _ _ => True) (fun _ _ => True) s :=
  (wp_def x).mpr ⟨fun _ _ _ => trivial, fun _ _ _ => trivial, fun _ _ _ => trivial⟩

/-- A demand on the state alone, however the program ends. -/
theorem wp_state_iff {x : Prog ε ρ σ α} {P : σ → Prop} :
    wp x (fun _ s' => P s') (fun _ s' => P s') (fun _ s' => P s') s ↔ P (x s).state := by
  unfold wp
  cases x s <;> rfl

/-- Two demands are met together. -/
theorem wp_and {x : Prog ε ρ σ α} (h : wp x N X F s) (h' : wp x N' X' F' s) :
    wp x (fun a s' => N a s' ∧ N' a s') (fun r s' => X r s' ∧ X' r s')
      (fun e s' => F e s' ∧ F' e s') s := by
  unfold wp at *
  cases hx : x s with
  | next a s' => rw [hx] at h h'; exact ⟨h, h'⟩
  | exit r s' => rw [hx] at h h'; exact ⟨h, h'⟩
  | fault e s' => rw [hx] at h h'; exact ⟨h, h'⟩

@[simp] theorem wp_pure (a : α) : wp (pure a : Prog ε ρ σ α) N X F s ↔ N a s := Iff.rfl

@[simp] theorem wp_bind (x : Prog ε ρ σ β) (f : β → Prog ε ρ σ α) :
    wp (x >>= f) N X F s ↔ wp x (fun b => wp (f b) N X F) X F s := by
  change wp (Prog.bind x f) N X F s ↔ _
  unfold wp Prog.bind
  cases x s <;> rfl

/-- **Sequence**: what the first part goes on with is what the second starts
from. -/
theorem wp_seq {x : Prog ε ρ σ β} {f : β → Prog ε ρ σ α} {M : β → σ → Prop}
    (hx : wp x M X F s) (hf : ∀ b s', M b s' → wp (f b) N X F s') : wp (x >>= f) N X F s := by
  rw [wp_bind]
  exact wp_mono hx hf (fun _ _ h => h) (fun _ _ h => h)

@[simp] theorem wp_exit (r : ρ) : wp (exit r : Prog ε ρ σ α) N X F s ↔ X r s := Iff.rfl

@[simp] theorem wp_fault (e : ε) : wp (fault e : Prog ε ρ σ α) N X F s ↔ F e s := Iff.rfl

@[simp] theorem wp_gets (f : σ → α) : wp (gets f : Prog ε ρ σ α) N X F s ↔ N (f s) s := Iff.rfl

@[simp] theorem wp_modify (f : σ → σ) {N : Unit → σ → Prop} :
    wp (modify f : Prog ε ρ σ Unit) N X F s ↔ N () (f s) := Iff.rfl

@[simp] theorem wp_assert (e : ε) (p : σ → Prop) [DecidablePred p] {N : Unit → σ → Prop} :
    wp (assert e p : Prog ε ρ σ Unit) N X F s ↔ if p s then N () s else F e s := by
  by_cases hp : p s <;> simp [wp, assert, hp]

@[simp] theorem wp_exitIf (r : ρ) (p : σ → Prop) [DecidablePred p] {N : Unit → σ → Prop} :
    wp (exitIf r p : Prog ε ρ σ Unit) N X F s ↔ if p s then X r s else N () s := by
  by_cases hp : p s <;> simp [wp, exitIf, hp]

@[simp] theorem wp_whenever (p : σ → Prop) [DecidablePred p] (x : Prog ε ρ σ Unit)
    {N : Unit → σ → Prop} :
    wp (whenever p x) N X F s ↔ if p s then wp x N X F s else N () s := by
  by_cases hp : p s <;> simp [wp, whenever, hp]

@[simp] theorem wp_zoom (get : σ → τ) (put : τ → σ → σ) (x : Prog ε ρ τ α) :
    wp (zoom get put x) N X F s ↔
      wp x (fun a t => N a (put t s)) (fun r t => X r (put t s))
        (fun e t => F e (put t s)) (get s) := by
  unfold wp zoom
  cases x (get s) <;> rfl

@[simp] theorem wp_call (x : Prog ε ρ' σ Unit) {N : Option ρ' → σ → Prop} :
    wp (call x : Prog ε ρ σ (Option ρ')) N X F s ↔
      wp x (fun _ => N none) (fun r => N (some r)) F s := by
  unfold wp call
  cases x s <;> rfl

theorem wp_ite (c : Prop) [Decidable c] (x y : Prog ε ρ σ α) :
    wp (if c then x else y) N X F s ↔ if c then wp x N X F s else wp y N X F s := by
  split <;> rfl

end wp

/-! ## Loops -/

section loop

variable {e : ε} {body : Prog ε ρ σ Bool}

/-- Round after round of a loop leads from `s` to the state. -/
inductive Rounds (body : Prog ε ρ σ Bool) (s : σ) : σ → Prop
  | refl : Rounds body s s
  | step {s' s'' : σ} (h : Rounds body s s') (hs : body s' = .next true s'') : Rounds body s s''

theorem loop_succ (n : Nat) (s : σ) :
    loop e body (n + 1) s = match body s with
      | .next true s' => loop e body n s'
      | .next false s' => .next () s'
      | .exit r s' => .exit r s'
      | .fault e' s' => .fault e' s' := rfl

/-- The first round of a loop. -/
theorem wp_loop_succ (n : Nat) {N : Unit → σ → Prop} {X : ρ → σ → Prop} {F : ε → σ → Prop} {s : σ} :
    wp (loop e body (n + 1)) N X F s ↔
      wp body (fun go s' => if go then wp (loop e body n) N X F s' else N () s') X F s := by
  unfold wp
  rw [loop_succ]
  cases body s with
  | next go s' => cases go <;> simp
  | exit r s' => exact Iff.rfl
  | fault e' s' => exact Iff.rfl

/-- **The invariant rule.** What every round keeps, and what it leaves with,
the loop keeps and leaves with, however many rounds it takes. -/
theorem wp_loop {I : σ → Prop} {N : Unit → σ → Prop} {X : ρ → σ → Prop} {F : ε → σ → Prop}
    (hbody : ∀ s, I s → wp body (fun go s' => if go then I s' else N () s') X F s)
    (he : ∀ s, I s → F e s) : ∀ (n : Nat) (s : σ), I s → wp (loop e body n) N X F s := by
  intro n
  induction n with
  | zero => intro s hs; exact he s hs
  | succ n ih =>
    intro s hs
    have hb := hbody s hs
    unfold wp at hb ⊢
    rw [loop_succ]
    cases hx : body s with
    | next go s' =>
      rw [hx] at hb
      cases go with
      | true => exact ih s' (by simpa using hb)
      | false => simpa using hb
    | exit r s' => rw [hx] at hb; exact hb
    | fault e' s' => rw [hx] at hb; exact hb

/-- **The counting rule.** Where the invariant of the `m`-th round fails for every `m` above `M`, a
loop with more than `M` rounds does not run out of them. -/
theorem wp_loop_count {I : Nat → σ → Prop} {M : Nat} {N : Unit → σ → Prop} {X : ρ → σ → Prop}
    {F : ε → σ → Prop}
    (hbody : ∀ m s, I m s → wp body (fun go s' => if go then I (m + 1) s' else N () s') X F s)
    (he : ∀ m s, M < m → I m s → F e s) :
    ∀ (n m : Nat) (s : σ), M < m + n → I m s → wp (loop e body n) N X F s := by
  intro n
  induction n with
  | zero => intro m s hm hs; exact he m s hm hs
  | succ n ih =>
    intro m s hm hs
    rw [wp_loop_succ]
    refine wp_mono (hbody m s hs) (fun go s' h => ?_) (fun _ _ h => h) fun _ _ h => h
    cases go with
    | true => exact ih (m + 1) s' (by omega) h
    | false => exact h

end loop

/-! ## Loops that end -/

/-- The program goes on or leaves: it does not fault. -/
def Leaves (x : Prog ε ρ σ α) (s : σ) : Prop := ∀ e s', x s ≠ .fault e s'

/-- The state behind `n` rounds that all go on. -/
def after (body : Prog ε ρ σ Bool) : Nat → σ → Option σ
  | 0, s => some s
  | n + 1, s =>
    match body s with
    | .next true s' => after body n s'
    | .next false _ => none
    | .exit _ _ => none
    | .fault _ _ => none

section ends

variable {e : ε} {body : Prog ε ρ σ Bool}

/-- The rounds from a state begin with the one that starts in it. -/
theorem Rounds.head {s s1 : σ} (hs : body s = .next true s1) {s' : σ} (h : Rounds body s1 s') :
    Rounds body s s' := by
  induction h with
  | refl => exact .step .refl hs
  | step _ hround ih => exact .step ih hround

theorem Rounds.cases_head {s s' : σ} (h : Rounds body s s') :
    s' = s ∨ ∃ s1, body s = .next true s1 ∧ Rounds body s1 s' := by
  induction h with
  | refl => exact Or.inl rfl
  | step _ hround ih =>
    rcases ih with rfl | ⟨s1, hs1, h1⟩
    · exact Or.inr ⟨_, hround, .refl⟩
    · exact Or.inr ⟨s1, hs1, h1.step hround⟩

/-- A round that leads back to its state never ends its loop. -/
theorem loop_of_stalled {s : σ} (hs : body s = .next true s) :
    ∀ n, loop e body n s = (.fault e s : Outcome ε ρ σ Unit) := by
  intro n
  induction n with
  | zero => rfl
  | succ n ih => rw [loop_succ, hs]; exact ih

/-- **When a loop ends.** Where the rounds that make no progress are those that lead
back to their state, enough rounds end the loop if and only if no round it
reaches is one of these and none faults. -/
theorem leaves_loop_iff {Stalled : σ → Prop} (μ : σ → Nat)
    (hstalled : ∀ s, Stalled s → body s = .next true s)
    (hprogress : ∀ s s', ¬ Stalled s → body s = .next true s' → μ s' < μ s) (s : σ) :
    (∃ n, Leaves (loop e body n) s) ↔ ∀ s', Rounds body s s' → ¬ Stalled s' ∧ Leaves body s' := by
  constructor
  · rintro ⟨n, hn⟩
    -- enough rounds for a state are enough for every state it comes to
    induction n generalizing s with
    | zero => exact absurd rfl (hn e s)
    | succ n ih =>
      intro s' h
      have hhere : ¬ Stalled s ∧ Leaves body s := by
        refine ⟨fun hs => hn e s (loop_of_stalled (hstalled s hs) _), fun e' s1 hs => ?_⟩
        exact hn e' s1 (by rw [loop_succ, hs])
      rcases h.cases_head with rfl | ⟨s1, hs1, h1⟩
      · exact hhere
      · refine ih s1 (fun e' s2 h2 => ?_) s' h1
        exact hn e' s2 (by rw [loop_succ, hs1]; exact h2)
  · -- the rounds that go on count the measure down
    intro hall
    induction hμ : μ s using Nat.strongRecOn generalizing s with
    | ind k ih =>
      obtain ⟨hmoves, hleaves⟩ := hall s .refl
      cases hs : body s with
      | next go s1 =>
        cases go with
        | true =>
          have hless : μ s1 < k := hμ ▸ hprogress s s1 hmoves hs
          obtain ⟨n, hn⟩ := ih (μ s1) hless s1 (fun s' h => hall s' (h.head hs)) rfl
          refine ⟨n + 1, fun e' s2 h2 => ?_⟩
          rw [loop_succ, hs] at h2
          exact hn e' s2 h2
        | false =>
          refine ⟨1, fun e' s2 h2 => ?_⟩
          rw [loop_succ, hs] at h2
          cases h2
      | exit r s1 =>
        refine ⟨1, fun e' s2 h2 => ?_⟩
        rw [loop_succ, hs] at h2
        cases h2
      | fault e' s1 => exact absurd hs (hleaves e' s1)

end ends

end Prog

end Rk3399
