import Rk3399.Common.Program
/-!
# Programs side by side

`Related R x y` says that from states related by `R` the programs `x` and
`y` end the same way: both go on with the same value, both leave with the
same return code, or both hit the same fault, and the states they end in
are related again. It follows the way the two programs are built. Where
`R` says that two states agree but for some part, a program related to
itself neither reads that part nor passes it on.
-/

namespace Rk3399

namespace Prog

variable {ε ρ ρ' σ σ' τ α β : Type}

/-- Two ways to end are the same, in related states. -/
inductive SameEnd (R : σ → σ' → Prop) : Outcome ε ρ σ α → Outcome ε ρ σ' α → Prop
  | next (a : α) {s : σ} {t : σ'} (h : R s t) : SameEnd R (.next a s) (.next a t)
  | exit (r : ρ) {s : σ} {t : σ'} (h : R s t) : SameEnd R (.exit r s) (.exit r t)
  | fault (e : ε) {s : σ} {t : σ'} (h : R s t) : SameEnd R (.fault e s) (.fault e t)

/-- The states two programs end in are related. -/
theorem SameEnd.state {R : σ → σ' → Prop} {o : Outcome ε ρ σ α} {o' : Outcome ε ρ σ' α}
    (h : SameEnd R o o') : R o.state o'.state := by
  cases h with
  | next a h => exact h
  | exit r h => exact h
  | fault e h => exact h

/-- From related states the two programs end the same way. -/
structure Related (R : σ → σ' → Prop) (x : Prog ε ρ σ α) (y : Prog ε ρ σ' α) : Prop where
  run : ∀ s t, R s t → SameEnd R (x s) (y t)

section sequence

variable {R : σ → σ' → Prop}

/-- **Sequence**, from two given states: what is known of the first parts there may be used of
the second ones. -/
theorem SameEnd.bind {x : Prog ε ρ σ α} {y : Prog ε ρ σ' α} {f : α → Prog ε ρ σ β}
    {g : α → Prog ε ρ σ' β} {s : σ} {t : σ'} (hx : SameEnd R (x s) (y t))
    (hf : ∀ a s' t', x s = .next a s' → R s' t' → SameEnd R (f a s') (g a t')) :
    SameEnd R ((x >>= f) s) ((y >>= g) t) := by
  show SameEnd R (Prog.bind x f s) (Prog.bind y g t)
  unfold Prog.bind
  generalize hs : x s = o, y t = o' at hx ⊢
  cases hx with
  | next a h => exact hf a _ _ hs h
  | exit r h => exact .exit r h
  | fault e h => exact .fault e h

/-- **Loops** whose rounds end the same way from every state the first one leads to. -/
theorem sameEnd_loop {e : ε} {body : Prog ε ρ σ Bool} {body' : Prog ε ρ σ' Bool}
    {s : σ} (hbody : ∀ s' t', Rounds body s s' → R s' t' → SameEnd R (body s') (body' t'))
    (n : Nat) : ∀ (s' : σ) (t' : σ'), Rounds body s s' → R s' t' →
      SameEnd R (loop e body n s') (loop e body' n t') := by
  induction n with
  | zero => exact fun s' t' _ h => .fault e h
  | succ n ih =>
    intro s' t' hrounds h
    rw [loop_succ, loop_succ]
    have hend := hbody s' t' hrounds h
    generalize hs : body s' = o, body' t' = o' at hend
    cases hend with
    | next go hnext =>
      cases go with
      | true => exact ih _ _ (.step hrounds hs) hnext
      | false => exact .next () hnext
    | exit r hexit => exact .exit r hexit
    | fault e' hfault => exact .fault e' hfault

end sequence

section related

variable {R : σ → σ' → Prop}

theorem related_pure (a : α) : Related R (pure a : Prog ε ρ σ α) (pure a) :=
  ⟨fun _ _ h => .next a h⟩

theorem related_bind {x : Prog ε ρ σ α} {y : Prog ε ρ σ' α} {f : α → Prog ε ρ σ β}
    {g : α → Prog ε ρ σ' β} (hx : Related R x y) (hf : ∀ a, Related R (f a) (g a)) :
    Related R (x >>= f) (y >>= g) := by
  exact ⟨fun s t h => (hx.run s t h).bind fun a s' t' _ => (hf a).run s' t'⟩

theorem related_exit (r : ρ) : Related R (exit r : Prog ε ρ σ α) (exit r) :=
  ⟨fun _ _ h => .exit r h⟩

theorem related_fault (e : ε) : Related R (fault e : Prog ε ρ σ α) (fault e) :=
  ⟨fun _ _ h => .fault e h⟩

theorem related_gets {f : σ → α} {g : σ' → α} (h : ∀ s t, R s t → f s = g t) :
    Related R (gets f : Prog ε ρ σ α) (gets g) := by
  refine ⟨fun s t hst => ?_⟩
  show SameEnd R (.next (f s) s) (.next (g t) t)
  rw [h s t hst]
  exact .next _ hst

theorem related_modify {f : σ → σ} {g : σ' → σ'} (h : ∀ s t, R s t → R (f s) (g t)) :
    Related R (modify f : Prog ε ρ σ Unit) (modify g) := ⟨fun s t hst => .next () (h s t hst)⟩

theorem related_exitIf (r : ρ) {p : σ → Prop} {q : σ' → Prop} [DecidablePred p] [DecidablePred q]
    (h : ∀ s t, R s t → (p s ↔ q t)) : Related R (exitIf r p : Prog ε ρ σ Unit) (exitIf r q) := by
  refine ⟨fun s t hst => ?_⟩
  show SameEnd R (if p s then .exit r s else .next () s) (if q t then .exit r t else .next () t)
  by_cases hp : p s
  · rw [if_pos hp, if_pos ((h s t hst).mp hp)]
    exact .exit r hst
  · rw [if_neg hp, if_neg fun hq => hp ((h s t hst).mpr hq)]
    exact .next () hst

theorem related_assert (e : ε) {p : σ → Prop} {q : σ' → Prop} [DecidablePred p] [DecidablePred q]
    (h : ∀ s t, R s t → (p s ↔ q t)) : Related R (assert e p : Prog ε ρ σ Unit) (assert e q) := by
  refine ⟨fun s t hst => ?_⟩
  show SameEnd R (if p s then .next () s else .fault e s) (if q t then .next () t else .fault e t)
  by_cases hp : p s
  · rw [if_pos hp, if_pos ((h s t hst).mp hp)]
    exact .next () hst
  · rw [if_neg hp, if_neg fun hq => hp ((h s t hst).mpr hq)]
    exact .fault e hst

theorem related_ite (c : Prop) [Decidable c] {x x' : Prog ε ρ σ α} {y y' : Prog ε ρ σ' α}
    (hx : Related R x y) (hy : Related R x' y') :
    Related R (if c then x else x') (if c then y else y') := by
  split
  · exact hx
  · exact hy

theorem related_whenever {p : σ → Prop} {q : σ' → Prop} [DecidablePred p] [DecidablePred q]
    (h : ∀ s t, R s t → (p s ↔ q t)) {x : Prog ε ρ σ Unit} {y : Prog ε ρ σ' Unit}
    (hx : Related R x y) : Related R (whenever p x) (whenever q y) := by
  refine ⟨fun s t hst => ?_⟩
  show SameEnd R (if p s then x s else .next () s) (if q t then y t else .next () t)
  by_cases hp : p s
  · rw [if_pos hp, if_pos ((h s t hst).mp hp)]
    exact hx.run s t hst
  · rw [if_neg hp, if_neg fun hq => hp ((h s t hst).mpr hq)]
    exact .next () hst

theorem related_call {x : Prog ε ρ' σ Unit} {y : Prog ε ρ' σ' Unit} (hx : Related R x y) :
    Related R (call x : Prog ε ρ σ (Option ρ')) (call y) := by
  refine ⟨fun s t hst => ?_⟩
  unfold call
  have hend := hx.run s t hst
  generalize x s = o, y t = o' at hend ⊢
  cases hend with
  | next a h => exact .next _ h
  | exit r h => exact .next _ h
  | fault e h => exact .fault e h

/-- A program on a part on which the states agree. -/
theorem related_zoom {get : σ → τ} {put : τ → σ → σ} {get' : σ' → τ} {put' : τ → σ' → σ'}
    (hget : ∀ s t, R s t → get s = get' t) (hput : ∀ s t u, R s t → R (put u s) (put' u t))
    (x : Prog ε ρ τ α) : Related R (zoom get put x) (zoom get' put' x) := by
  refine ⟨fun s t hst => ?_⟩
  unfold zoom
  rw [hget s t hst]
  cases x (get' t) with
  | next a u => exact .next a (hput s t u hst)
  | exit r u => exact .exit r (hput s t u hst)
  | fault e u => exact .fault e (hput s t u hst)

end related

end Prog

end Rk3399
