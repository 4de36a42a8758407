import Rk3399.Common.Program
/-!
# Invariants and frames

`Keeps F X I x` says that from a state with `I` the program `x` goes on
with `I`, leaves with `X`, and faults with `F` only. `Frame E f x` says
that `x` leaves the part `f` of the state alone however it ends, and that
its faults are among `E`: it is the invariant that the part has the value
it started with. Both follow the way a program is built.
-/

namespace Rk3399

namespace Prog

variable {ε ρ ρ' σ τ α β : Type}

/-- `x` keeps `I` when it goes on, leaves with `X`, and faults with `F`. -/
structure Keeps (F : ε → σ → Prop) (X I : σ → Prop) (x : Prog ε ρ σ α) : Prop where
  run : ∀ s, I s → wp x (fun _ => I) (fun _ => X) F s

section keeps

variable {F F' : ε → σ → Prop} {X X' I : σ → Prop} {x : Prog ε ρ σ α}

theorem keeps_pure (a : α) : Keeps F X I (pure a : Prog ε ρ σ α) := ⟨fun _ h => h⟩

theorem keeps_bind {y : Prog ε ρ σ β} {f : β → Prog ε ρ σ α} (hy : Keeps F X I y)
    (hf : ∀ b, Keeps F X I (f b)) : Keeps F X I (y >>= f) := by
  refine ⟨fun s hs => ?_⟩
  rw [wp_bind]
  exact wp_mono (hy.run s hs) (fun b s' h => (hf b).run s' h) (fun _ _ h => h) (fun _ _ h => h)

/-- A sequence, where the values the first part goes on with are known. -/
theorem keeps_bind_next {P : β → Prop} {y : Prog ε ρ σ β} {f : β → Prog ε ρ σ α}
    (hy : Keeps F X I y) (hP : ∀ s b s', y s = .next b s' → P b)
    (hf : ∀ b, P b → Keeps F X I (f b)) : Keeps F X I (y >>= f) := by
  refine ⟨fun s hs => ?_⟩
  have hrun := hy.run s hs
  rw [wp_bind]
  rw [wp_def] at hrun ⊢
  exact ⟨fun b s' h => (hf b (hP s b s' h)).run s' (hrun.1 b s' h), hrun.2⟩

theorem keeps_exit (h : ∀ s, I s → X s) (r : ρ) : Keeps F X I (exit r : Prog ε ρ σ α) := ⟨h⟩

theorem keeps_fault {e : ε} (h : ∀ s, I s → F e s) : Keeps F X I (fault e : Prog ε ρ σ α) := ⟨h⟩

theorem keeps_gets (f : σ → α) : Keeps F X I (gets f : Prog ε ρ σ α) := ⟨fun _ h => h⟩

/-- What is known of a value that is read goes on with it. -/
theorem keeps_bind_gets {g : σ → β} {f : β → Prog ε ρ σ α} (hf : ∀ s, I s → Keeps F X I (f (g s))) :
    Keeps F X I (gets g >>= f) :=
  ⟨fun s hs => (wp_bind _ _).mpr ((hf s hs).run s hs)⟩

theorem keeps_modify {f : σ → σ} (h : ∀ s, I s → I (f s)) :
    Keeps F X I (modify f : Prog ε ρ σ Unit) := ⟨h⟩

theorem keeps_assert {e : ε} {p : σ → Prop} [DecidablePred p] (h : ∀ s, I s → ¬ p s → F e s) :
    Keeps F X I (assert e p : Prog ε ρ σ Unit) := by
  refine ⟨fun s hs => ?_⟩
  rw [wp_assert]
  split
  · exact hs
  · exact h s hs ‹_›

theorem keeps_exitIf (h : ∀ s, I s → X s) (r : ρ) (p : σ → Prop) [DecidablePred p] :
    Keeps F X I (exitIf r p : Prog ε ρ σ Unit) := by
  refine ⟨fun s hs => ?_⟩
  rw [wp_exitIf]
  split
  · exact h s hs
  · exact hs

theorem keeps_ite (c : Prop) [Decidable c] {x y : Prog ε ρ σ α} (hx : Keeps F X I x)
    (hy : Keeps F X I y) : Keeps F X I (if c then x else y) := by
  split
  · exact hx
  · exact hy

theorem keeps_whenever (p : σ → Prop) [DecidablePred p] {x : Prog ε ρ σ Unit}
    (hx : Keeps F X I x) : Keeps F X I (whenever p x) := by
  refine ⟨fun s hs => ?_⟩
  rw [wp_whenever]
  split
  · exact hx.run s hs
  · exact hs

theorem keeps_zoom {get : σ → τ} {put : τ → σ → σ} {J Y : σ → τ → Prop} {G : σ → ε → τ → Prop}
    {x : Prog ε ρ τ α} (hx : ∀ s, I s → Keeps (G s) (Y s) (J s) x) (hget : ∀ s, I s → J s (get s))
    (hput : ∀ s t, I s → J s t → I (put t s)) (hX : ∀ s t, I s → Y s t → X (put t s))
    (hF : ∀ s e t, I s → G s e t → F e (put t s)) : Keeps F X I (zoom get put x) := by
  refine ⟨fun s hs => ?_⟩
  rw [wp_zoom]
  exact wp_mono ((hx s hs).run _ (hget s hs)) (fun _ t h => hput s t hs h)
    (fun _ t h => hX s t hs h) (fun e t h => hF s e t hs h)

/-- A call goes on where its function leaves. -/
theorem keeps_call {x : Prog ε ρ' σ Unit} (hx : Keeps F I I x) :
    Keeps F X I (call x : Prog ε ρ σ (Option ρ')) := by
  refine ⟨fun s hs => ?_⟩
  rw [wp_call]
  exact hx.run s hs

theorem keeps_loop {e : ε} {body : Prog ε ρ σ Bool} (hbody : Keeps F X I body)
    (he : ∀ s, I s → F e s) (n : Nat) : Keeps F X I (loop e body n) := by
  refine ⟨fun s hs => ?_⟩
  refine wp_loop (fun s hs => wp_mono (hbody.run s hs) ?_ (fun _ _ h => h) (fun _ _ h => h))
    he n s hs
  intro go s' h
  cases go
  · exact h
  · exact h

/-- What every round keeps holds in every state the rounds lead to. -/
theorem Keeps.rounds {body : Prog ε ρ σ Bool} (hbody : Keeps F X I body) {s s' : σ} (hs : I s)
    (h : Rounds body s s') : I s' := by
  induction h with
  | refl => exact hs
  | step _ hround ih => exact wp_next (hbody.run _ ih) hround

/-- What `x` keeps holds of the state it goes on with. -/
theorem Keeps.next (hx : Keeps F X I x) {s s' : σ} {a : α} (hs : I s) (h : x s = .next a s') :
    I s' :=
  wp_next (hx.run s hs) h

theorem Keeps.exit (hx : Keeps F X I x) {s s' : σ} {r : ρ} (hs : I s) (h : x s = .exit r s') :
    X s' :=
  wp_exit_of (hx.run s hs) h

theorem Keeps.fault (hx : Keeps F X I x) {s s' : σ} {e : ε} (hs : I s) (h : x s = .fault e s') :
    F e s' :=
  wp_fault_of (hx.run s hs) h

/-- Two invariants are kept together. -/
theorem Keeps.and {I' : σ → Prop} (hx : Keeps F X I x) (hx' : Keeps F' X' I' x) :
    Keeps (fun e s => F e s ∧ F' e s) (fun s => X s ∧ X' s) (fun s => I s ∧ I' s) x := by
  refine ⟨fun s hs => ?_⟩
  have h := (wp_def x).mp (hx.run s hs.1)
  have h' := (wp_def x).mp (hx'.run s hs.2)
  exact (wp_def x).mpr ⟨fun a s' hx => ⟨h.1 a s' hx, h'.1 a s' hx⟩,
    fun r s' hx => ⟨h.2.1 r s' hx, h'.2.1 r s' hx⟩, fun e s' hx => ⟨h.2.2 e s' hx, h'.2.2 e s' hx⟩⟩

theorem Keeps.mono (hx : Keeps F X I x) (hX : ∀ s, X s → X' s) (h : ∀ e s, F e s → F' e s) :
    Keeps F' X' I x :=
  ⟨fun s hs => wp_mono (hx.run s hs) (fun _ _ h => h) (fun _ s' => hX s') h⟩

end keeps

/-! ## Frames -/

/-- `x` leaves the part `f` of the state alone, and its faults are among `E`. -/
def Frame {φ : Type} (E : ε → Prop) (f : σ → φ) (x : Prog ε ρ σ α) : Prop :=
  ∀ v, Keeps (fun e s => E e ∧ f s = v) (fun s => f s = v) (fun s => f s = v) x

/-- Every fault. -/
def anyFault : ε → Prop := fun _ => True

section frame

variable {φ ψ : Type} {E E' : ε → Prop} {f : σ → φ} {x : Prog ε ρ σ α}

theorem frame_modify {g : σ → σ} (h : ∀ s, f (g s) = f s) :
    Frame E f (modify g : Prog ε ρ σ Unit) :=
  fun _ => keeps_modify fun s hs => (h s).trans hs

/-- A frame of a part of the state is one of the state. -/
theorem frame_zoom_part {get : σ → τ} {put : τ → σ → σ} {g : τ → ψ} {x : Prog ε ρ τ α}
    (hx : Frame E g x) (h : ∀ s t, g t = g (get s) → f (put t s) = f s) :
    Frame E f (zoom get put x) :=
  fun _ => keeps_zoom (fun s _ => hx (g (get s))) (fun _ _ => rfl)
    (fun s t hs ht => (h s t ht).trans hs) (fun s t hs ht => (h s t ht).trans hs)
    (fun s _ t hs he => ⟨he.1, (h s t he.2).trans hs⟩)

theorem frame_pure (a : α) : Frame E f (pure a : Prog ε ρ σ α) := fun _ => keeps_pure a

theorem frame_gets (g : σ → α) : Frame E f (gets g : Prog ε ρ σ α) := fun _ => keeps_gets g

theorem frame_exit (r : ρ) : Frame E f (exit r : Prog ε ρ σ α) :=
  fun _ => keeps_exit (fun _ h => h) r

theorem frame_fault {e : ε} (he : E e) : Frame E f (fault e : Prog ε ρ σ α) :=
  fun _ => keeps_fault fun _ hs => ⟨he, hs⟩

theorem frame_assert {e : ε} (he : E e) (p : σ → Prop) [DecidablePred p] :
    Frame E f (assert e p : Prog ε ρ σ Unit) := fun _ => keeps_assert fun _ hs _ => ⟨he, hs⟩

theorem frame_exitIf (r : ρ) (p : σ → Prop) [DecidablePred p] :
    Frame E f (exitIf r p : Prog ε ρ σ Unit) := fun _ => keeps_exitIf (fun _ h => h) r p

theorem frame_ite (c : Prop) [Decidable c] {x y : Prog ε ρ σ α} (hx : Frame E f x)
    (hy : Frame E f y) : Frame E f (if c then x else y) := fun v => keeps_ite c (hx v) (hy v)

theorem frame_whenever (p : σ → Prop) [DecidablePred p] {x : Prog ε ρ σ Unit}
    (hx : Frame E f x) : Frame E f (whenever p x) := fun v => keeps_whenever p (hx v)

theorem frame_call {x : Prog ε ρ' σ Unit} (hx : Frame E f x) :
    Frame E f (call x : Prog ε ρ σ (Option ρ')) := fun v => keeps_call (hx v)

theorem frame_loop {e : ε} {body : Prog ε ρ σ Bool} (he : E e) (hbody : Frame E f body) (n : Nat) :
    Frame E f (loop e body n) := fun v => keeps_loop (hbody v) (fun _ hs => ⟨he, hs⟩) n

theorem frame_bind {y : Prog ε ρ σ β} {g : β → Prog ε ρ σ α} (hy : Frame E f y)
    (hg : ∀ b, Frame E f (g b)) : Frame E f (y >>= g) :=
  fun v => keeps_bind (hy v) fun b => hg b v

theorem Frame.mono (hx : Frame E f x) (h : ∀ e, E e → E' e) : Frame E' f x :=
  fun v => (hx v).mono (fun _ h => h) fun e _ he => ⟨h e he.1, he.2⟩

/-- A part of what is left alone is left alone. -/
theorem Frame.part (hx : Frame E f x) (g : φ → ψ) : Frame E (fun s => g (f s)) x := by
  refine fun v => ⟨fun s hs => ?_⟩
  exact wp_mono ((hx (f s)).run s rfl) (fun _ s' h => (congrArg g h).trans hs)
    (fun _ s' h => (congrArg g h).trans hs) (fun _ s' h => ⟨h.1, (congrArg g h.2).trans hs⟩)

/-- **What is left alone is kept**: an invariant of the part is one of the
program. -/
theorem Frame.keeps (hx : Frame E f x) (I : φ → Prop) :
    Keeps (fun e s => E e ∧ I (f s)) (fun s => I (f s)) (fun s => I (f s)) x := by
  refine ⟨fun s hs => ?_⟩
  exact wp_mono ((hx (f s)).run s rfl) (fun _ s' h => h ▸ hs) (fun _ s' h => h ▸ hs)
    (fun _ s' h => ⟨h.1, h.2 ▸ hs⟩)

/-- A program that leaves `f` alone hands its value on. -/
theorem Frame.wp_bind {y : Prog ε ρ σ β} (hy : Frame E f y) {g : β → Prog ε ρ σ α}
    {N : α → σ → Prop} {X : ρ → σ → Prop} {F : ε → σ → Prop} {s : σ}
    (hX : ∀ r s', f s' = f s → X r s') (hF : ∀ e s', E e → f s' = f s → F e s')
    (hg : ∀ b s', f s' = f s → wp (g b) N X F s') : wp (y >>= g) N X F s := by
  rw [Prog.wp_bind]
  exact wp_mono ((hy (f s)).run s rfl) hg hX (fun e s' h => hF e s' h.1 h.2)

/-- What a program does, and what it leaves alone meanwhile. -/
theorem Frame.wp (hx : Frame E f x) {N : α → σ → Prop} {X : ρ → σ → Prop} {F : ε → σ → Prop}
    {s : σ} (h : Prog.wp x N X F s) :
    Prog.wp x (fun a s' => N a s' ∧ f s' = f s) (fun r s' => X r s' ∧ f s' = f s)
      (fun e s' => F e s' ∧ f s' = f s) s := by
  have hframe := (wp_def x).mp ((hx (f s)).run s rfl)
  have h := (wp_def x).mp h
  exact (wp_def x).mpr ⟨fun a s' hx => ⟨h.1 a s' hx, hframe.1 a s' hx⟩,
    fun r s' hx => ⟨h.2.1 r s' hx, hframe.2.1 r s' hx⟩,
    fun e s' hx => ⟨h.2.2 e s' hx, (hframe.2.2 e s' hx).2⟩⟩

theorem Frame.next (hx : Frame E f x) {s s' : σ} {a : α} (h : x s = .next a s') : f s' = f s :=
  wp_next ((hx (f s)).run s rfl) h

theorem Frame.exit (hx : Frame E f x) {s s' : σ} {r : ρ} (h : x s = .exit r s') : f s' = f s :=
  wp_exit_of ((hx (f s)).run s rfl) h

end frame

end Prog

end Rk3399
