import Mathlib.Algebra.Order.Ring.Int
import Mathlib.Tactic.Common
/-!
# Runs

A system of several parties, run as one list of events: `step` says what an
event does to the state, and disabled events leave it alone. `Always P` says
that every state of the run has `P`, `Steps C` that every event of it is
met in a state that allows it, and `trace` is what is seen of the run. The
rules below go from one step to the run: what it keeps, what it adds up to
(`total`), and where it comes to.
-/

namespace Rk3399

namespace Runs

variable {σ ε : Type} {step : σ → ε → σ}

/-- Every state of the run from `s` has `P`. -/
def Always (step : σ → ε → σ) (P : σ → Prop) : σ → List ε → Prop
  | s, [] => P s
  | s, e :: es => P s ∧ Always step P (step s e) es

/-- Every event of the run from `s` is met in a state where `C` allows it. -/
def Steps (step : σ → ε → σ) (C : σ → ε → Prop) : σ → List ε → Prop
  | _, [] => True
  | s, e :: es => C s e ∧ Steps step C (step s e) es

/-- What is seen of the events of the run from `s`. -/
def trace {ω : Type} (step : σ → ε → σ) (see : σ → ε → ω) : σ → List ε → List ω
  | _, [] => []
  | s, e :: es => see s e :: trace step see (step s e) es

/-- What the events of the run from `s` add up to. -/
def total (step : σ → ε → σ) (cost : σ → ε → Nat) : σ → List ε → Nat
  | _, [] => 0
  | s, e :: es => cost s e + total step cost (step s e) es

section rules

variable {I P : σ → Prop} {C : σ → ε → Prop} {D : ε → Prop}

/-- The first state of a run is one of its states. -/
theorem Always.head {s : σ} {es : List ε} (h : Always step P s es) : P s := by
  cases es with
  | nil => exact h
  | cons e es => exact h.1

/-- So is the last. -/
theorem Always.last : ∀ (es : List ε) (s : σ), Always step P s es → P (es.foldl step s)
  | [], _, h => h
  | e :: es, s, h => Always.last es (step s e) h.2

/-- **The invariant rule.** What the allowed steps keep holds along a run of
allowed steps; `D` is what is known of the events themselves. -/
theorem always_of_steps (hstep : ∀ s e, D e → I s → C s e → I (step s e)) (hP : ∀ s, I s → P s) :
    ∀ (es : List ε), (∀ e ∈ es, D e) → ∀ s, I s → Steps step C s es → Always step P s es := by
  intro es
  induction es with
  | nil => exact fun _ s hs _ => hP s hs
  | cons e es ih =>
    intro hD s hs hsteps
    have hnext : I (step s e) := hstep s e (hD e List.mem_cons_self) hs hsteps.1
    exact ⟨hP s hs, ih (fun e he => hD e (List.mem_cons_of_mem _ he)) (step s e) hnext hsteps.2⟩

/-- **The exact condition of a run.** Where a step that is not allowed breaks `P` at
once, the runs that keep `P` are the runs of allowed steps. -/
theorem always_iff_steps (hstep : ∀ s e, D e → I s → C s e → I (step s e)) (hP : ∀ s, I s → P s)
    (hbreak : ∀ s e, D e → I s → ¬ C s e → ¬ P (step s e)) :
    ∀ (es : List ε), (∀ e ∈ es, D e) → ∀ s, I s → (Always step P s es ↔ Steps step C s es) := by
  intro es hD s hs
  refine ⟨fun h => ?_, always_of_steps hstep hP es hD s hs⟩
  induction es generalizing s with
  | nil => trivial
  | cons e es ih =>
    have hDe := hD e List.mem_cons_self
    have hC : C s e := by
      by_contra hno
      exact hbreak s e hDe hs hno h.2.head
    exact ⟨hC, ih (fun e he => hD e (List.mem_cons_of_mem _ he)) (step s e)
      (hstep s e hDe hs hC) h.2⟩

/-- What an invariant and a condition give of each step they give of a run. -/
theorem steps_of_steps {C' : σ → ε → Prop} (hstep : ∀ s e, I s → C s e → I (step s e))
    (hC : ∀ s e, I s → C s e → C' s e) :
    ∀ (es : List ε) (s : σ), I s → Steps step C s es → Steps step C' s es := by
  intro es
  induction es with
  | nil => exact fun _ _ _ => trivial
  | cons e es ih =>
    intro s hs hsteps
    exact ⟨hC s e hs hsteps.1, ih (step s e) (hstep s e hs hsteps.1) hsteps.2⟩

/-- Where an invariant that the allowed steps keep makes two conditions on a step the same,
they are the same on a run. -/
theorem steps_iff_steps {C' : σ → ε → Prop} (hstep : ∀ s e, I s → C' s e → I (step s e))
    (hC : ∀ s e, I s → (C s e ↔ C' s e)) :
    ∀ (es : List ε) (s : σ), I s → (Steps step C s es ↔ Steps step C' s es) := by
  intro es
  induction es with
  | nil => exact fun _ _ => Iff.rfl
  | cons e es ih =>
    intro s hs
    refine (and_congr_left fun _ => hC s e hs).trans (and_congr_right fun hallowed => ?_)
    exact ih (step s e) (hstep s e hs hallowed)

/-- What every step keeps is there all along. -/
theorem always_of_kept (hstep : ∀ s e, D e → I s → I (step s e)) (hP : ∀ s, I s → P s) :
    ∀ (es : List ε), (∀ e ∈ es, D e) → ∀ s, I s → Always step P s es := by
  intro es
  induction es with
  | nil => exact fun _ s hs => hP s hs
  | cons e es ih =>
    intro hD s hs
    have hnext : I (step s e) := hstep s e (hD e List.mem_cons_self) hs
    exact ⟨hP s hs, ih (fun e he => hD e (List.mem_cons_of_mem _ he)) _ hnext⟩

/-- And at the end. -/
theorem kept (hstep : ∀ s e, D e → I s → I (step s e)) (es : List ε) (hD : ∀ e ∈ es, D e) (s : σ)
    (hs : I s) : I (es.foldl step s) :=
  Always.last es s (always_of_kept hstep (fun _ h => h) es hD s hs)

/-- A condition on the events alone. -/
theorem steps_of_forall : ∀ (es : List ε), (∀ e ∈ es, D e) → ∀ s, Steps step (fun _ e => D e) s es
  | [], _, _ => trivial
  | e :: es, hD, s =>
    ⟨hD e List.mem_cons_self,
      steps_of_forall es (fun e he => hD e (List.mem_cons_of_mem _ he)) (step s e)⟩

/-- Two conditions on a run. -/
theorem Steps.and {C' : σ → ε → Prop} : ∀ (es : List ε) (s : σ), Steps step C s es →
    Steps step C' s es → Steps step (fun s e => C s e ∧ C' s e) s es
  | [], _, _, _ => trivial
  | e :: es, s, h, h' => ⟨⟨h.1, h'.1⟩, Steps.and es (step s e) h.2 h'.2⟩

/-- Steps that cost nothing add up to nothing. -/
theorem total_zero (es : List ε) (s : σ) : total step (fun _ _ => 0) s es = 0 := by
  induction es generalizing s with
  | nil => rfl
  | cons e es ih => exact (Nat.zero_add _).trans (ih (step s e))

/-- **The accounting rule.** Where no step costs more than it is given and takes from what
there is, a run does not. -/
theorem total_le_of_credit {cost gain : σ → ε → Nat} {credit : σ → Nat}
    (hstep : ∀ s e, C s e → I s → I (step s e))
    (hcost : ∀ s e, C s e → I s → cost s e + credit (step s e) ≤ gain s e + credit s) :
    ∀ (es : List ε) (s : σ), I s → Steps step C s es →
      total step cost s es + credit (es.foldl step s) ≤ total step gain s es + credit s := by
  intro es
  induction es with
  | nil => exact fun s _ _ => Nat.le_refl _
  | cons e es ih =>
    intro s hs hsteps
    have hone := hcost s e hsteps.1 hs
    have hrest := ih _ (hstep s e hsteps.1 hs) hsteps.2
    show cost s e + total step cost (step s e) es + credit (es.foldl step (step s e)) ≤
      gain s e + total step gain (step s e) es + credit s
    omega

/-- **The progress rule.** Where each step brings down a rank that is not zero, a run
brings it down by its length. -/
theorem rank_le_sub {rank : σ → Nat} (hstep : ∀ s e, D e → I s → I (step s e))
    (hrank : ∀ s e, D e → I s → rank (step s e) ≤ rank s - 1) :
    ∀ (es : List ε), (∀ e ∈ es, D e) → ∀ s, I s →
      rank (es.foldl step s) ≤ rank s - es.length := by
  intro es
  induction es with
  | nil => exact fun _ s _ => Nat.le_refl _
  | cons e es ih =>
    intro hD s hs
    have hDe := hD e List.mem_cons_self
    have hone := hrank s e hDe hs
    have hrest := ih (fun e he => hD e (List.mem_cons_of_mem _ he)) _ (hstep s e hDe hs)
    show rank (es.foldl step (step s e)) ≤ rank s - (es.length + 1)
    omega

end rules

end Runs

end Rk3399
