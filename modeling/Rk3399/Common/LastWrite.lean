import Mathlib.Algebra.Order.Ring.Int
import Mathlib.Tactic.Common
/-!
# The last write to a key

A run of writes to a store, each to the key it names: what a key reads
afterwards is what the last write to it left, and what it read before where
none named it. A write may look at the store, so what it leaves is a
property of the value and not the value itself.
-/

namespace Rk3399

section writes

variable {σ κ ν δ : Type} (get : σ → κ → ν) {set : σ → δ → σ} {key : δ → κ}

/-- The last of the writes to the key, and none behind it. -/
def IsLast (key : δ → κ) (ds : List δ) (k : κ) (d : δ) : Prop :=
  ∃ before behind, ds = before ++ d :: behind ∧ key d = k ∧ ∀ e ∈ behind, key e ≠ k

/-- A key no write names reads as before. -/
theorem get_foldl_of_unnamed (hother : ∀ s d k, key d ≠ k → get (set s d) k = get s k) {k : κ} :
    ∀ {ds : List δ} {s : σ}, (∀ d ∈ ds, key d ≠ k) → get (ds.foldl set s) k = get s k := by
  intro ds
  induction ds with
  | nil => exact fun _ => rfl
  | cons d ds ih =>
    intro s h
    rw [List.foldl_cons, ih fun e he => h e (List.mem_cons_of_mem d he),
      hother s d k (h d List.mem_cons_self)]

/-- **The last write counts.** -/
theorem get_foldl_of_isLast (P : ν → Prop) {ds : List δ} {k : κ} {d : δ} (h : IsLast key ds k d)
    (hself : ∀ s, P (get (set s d) (key d)))
    (hother : ∀ s d k, key d ≠ k → get (set s d) k = get s k) (s : σ) :
    P (get (ds.foldl set s) k) := by
  obtain ⟨before, behind, rfl, rfl, hbehind⟩ := h
  rw [List.foldl_append, List.foldl_cons, get_foldl_of_unnamed get hother hbehind]
  exact hself _

theorem IsLast.mem {ds : List δ} {k : κ} {d : δ} (h : IsLast key ds k d) : d ∈ ds := by
  obtain ⟨before, behind, rfl, -⟩ := h
  exact List.mem_append_right _ List.mem_cons_self

end writes

end Rk3399
