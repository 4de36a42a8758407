import Mathlib.Algebra.Order.Ring.Int
import Mathlib.Tactic.Common
/-!
# Locks

A lock that parties take and give back: `Excludes lock inside` says that its
holder is the one party that is inside. It follows what a party does to the
lock: nothing, taking it, or giving it back.
-/

namespace Rk3399

variable {π : Type}

/-- **The holder of the lock is the party inside.** -/
def Excludes (lock : Option π) (inside : π → Prop) : Prop := ∀ p, lock = some p ↔ inside p

namespace Excludes

variable {lock : Option π} {inside inside' : π → Prop} {p q : π}

/-- No two parties are inside. -/
theorem unique (h : Excludes lock inside) (hp : inside p) (hq : inside q) : p = q := by
  have hlp : lock = some p := (h p).mpr hp
  have hlq : lock = some q := (h q).mpr hq
  exact Option.some.inj (hlp.symm.trans hlq)

/-- While a party is inside, no other is. -/
theorem not_inside (h : Excludes lock inside) (hq : inside q) (hne : p ≠ q) : ¬ inside p :=
  fun hp => hne (h.unique hp hq)

/-- Nobody is inside a free lock. -/
theorem not_inside_of_none (h : Excludes none inside) : ¬ inside p :=
  fun hp => nomatch (h p).mpr hp

/-- A step that leaves the lock alone. -/
theorem keep (h : Excludes lock inside) (hother : ∀ p, inside' p ↔ inside p) :
    Excludes lock inside' := fun p => (h p).trans (hother p).symm

/-- A party takes the free lock. -/
theorem take (h : Excludes none inside) (hq : inside' q)
    (hother : ∀ p, p ≠ q → inside' p → inside p) :
    Excludes (some q) inside' := by
  intro p
  constructor
  · rintro hp
    obtain rfl : q = p := Option.some.inj hp
    exact hq
  · intro hp
    by_contra hne
    have hpq : p ≠ q := fun heq => hne (by rw [heq])
    exact h.not_inside_of_none (hother p hpq hp)

/-- The holder gives it back. -/
theorem release (h : Excludes lock inside) (hq : inside q) (hout : ¬ inside' q)
    (hother : ∀ p, p ≠ q → inside' p → inside p) : Excludes none inside' := by
  intro p
  constructor
  · exact nofun
  · intro hp
    have hpq : p ≠ q := fun heq => hout (heq ▸ hp)
    exact absurd (hother p hpq hp) (h.not_inside hq hpq)

end Excludes

end Rk3399
