import Rk3399.Common.Runs
import Rk3399.SimpleConfig.Model.ChannelPlan
/-!
# What the hopper programs

Each line of the monitor file is an entry of the plan, its offset mapped once, as
long as a plan with offsets left in it is not initialised again: the offsets are
mapped where they are, and neither `LOWER` nor `UPPER` is a sign to map.
-/

namespace Rk3399

namespace SimpleConfig

namespace Hopper

section

variable {plan : List Chplan} {s : Hopper} {e : Input}

/-- **A right line**: the index is inside the plan, and what is written is the entry that is there,
mapped once. -/
def RightLine (plan : List Chplan) (line : Nat × Option Chplan) : Prop :=
  ∃ c, plan[line.1]? = some c ∧ line.2 = some c.init

/-- Every line so far is right. -/
def Programs (plan : List Chplan) (s : Hopper) : Prop := ∀ line ∈ s.monitor, RightLine plan line

/-- Where the loop goes back to `sc_reinit`, no offset of the plan is left in it. -/
def ReinitPlain (s : Hopper) (e : Input) : Prop :=
  s.place = .loop → e.reinit = true → ∀ c ∈ s.plan, c.bwOs = HAL_PRIME_CHNL_OFFSET_DONT_CARE

/-- **The invariant**: the plan is initialised once, or the next step does it, and the index is
inside but for the place where it is looked for. -/
structure Inv (plan : List Chplan) (s : Hopper) : Prop where
  programs : Programs plan s
  plan_init : s.place ≠ .scReinit → s.plan = initChplan plan
  plan_reinit : s.place = .scReinit → initChplan s.plan = initChplan plan
  chidx_lt : s.place ≠ .findChannel → s.chidx < plan.length

theorem inv_start (hplan : plan ≠ []) : Inv plan (start plan) where
  programs := fun _ h => absurd h List.not_mem_nil
  plan_init := fun h => absurd rfl h
  plan_reinit := fun _ => rfl
  chidx_lt := fun _ => List.length_pos_iff.mpr hplan

/-- An entry without an offset stays as it is. -/
theorem init_of_dontCare {c : Chplan} (h : c.bwOs = HAL_PRIME_CHNL_OFFSET_DONT_CARE) :
    c.init = c := by
  obtain ⟨ch, bwOs⟩ := c
  cases h
  rfl

theorem initChplan_of_dontCare (h : ∀ c ∈ plan, c.bwOs = HAL_PRIME_CHNL_OFFSET_DONT_CARE) :
    initChplan plan = plan := by
  have hmap : plan.map Chplan.init = plan.map id :=
    List.map_congr_left fun c hc => init_of_dontCare (h c hc)
  rwa [List.map_id] at hmap

/-- A line that is written from the initialised plan is right. -/
theorem Programs.echo (h : Programs plan s) (hplan : s.plan = initChplan plan)
    (hlt : s.chidx < plan.length) : Programs plan s.echo := by
  intro line hline
  rcases List.mem_append.mp hline with hold | hnew
  · exact h line hold
  · rw [List.mem_singleton] at hnew
    subst hnew
    refine ⟨plan[s.chidx], List.getElem?_eq_getElem hlt, ?_⟩
    change s.plan[s.chidx]? = _
    rw [hplan, initChplan, List.getElem?_map, List.getElem?_eq_getElem hlt]
    rfl

theorem Inv.findChannel (h : Inv plan s) (hplace : s.place = .findChannel)
    (ch : Option (List UInt8)) : Inv plan (s.findChannel ch) := by
  have hplan := h.plan_init (by rw [hplace]; decide)
  match ch with
  | none => exact h
  | some [] => exact h
  | some (c :: cs) =>
    -- the index found, before the test whether it is inside
    have hfound : Inv plan
        { s with chidx := s.plan.findIdx fun p => atoi (c :: cs) = p.ch.toNat } :=
      ⟨h.programs, h.plan_init, h.plan_reinit, fun hne => absurd hplace hne⟩
    change Inv plan (if s.plan.findIdx (fun p => atoi (c :: cs) = p.ch.toNat) = s.plan.length
      then _ else _)
    split
    · exact hfound
    · next hne =>
      have hlen : s.plan.length = plan.length := by rw [hplan, initChplan, List.length_map]
      have hle : s.plan.findIdx (fun p => atoi (c :: cs) = p.ch.toNat) ≤ s.plan.length :=
        List.findIdx_le_length
      have hlt : s.plan.findIdx (fun p => atoi (c :: cs) = p.ch.toNat) < plan.length := by
        rw [← hlen]
        exact Nat.lt_of_le_of_ne hle hne
      exact ⟨hfound.programs.echo hplan hlt, fun _ => hplan, nofun, fun _ => hlt⟩

/-- **Every step keeps it**, but for one that initialises offsets again. -/
theorem Inv.step (h : Inv plan s) (hplain : ReinitPlain s e) : Inv plan (s.step e) := by
  unfold Hopper.step
  cases hplace : s.place with
  | scReinit =>
    exact ⟨h.programs, fun _ => h.plan_reinit hplace, nofun,
      fun _ => h.chidx_lt (by rw [hplace]; decide)⟩
  | loop =>
    have hplan := h.plan_init (by rw [hplace]; decide)
    have hlt := h.chidx_lt (by rw [hplace]; decide)
    by_cases hreinit : e.reinit = true
    · have hsame : initChplan s.plan = s.plan := initChplan_of_dontCare (hplain hplace hreinit)
      simp only [if_pos hreinit]
      exact ⟨h.programs, fun h => absurd rfl h, fun _ => hsame.trans hplan, fun _ => hlt⟩
    · simp only [if_neg hreinit]
      refine ⟨h.programs.echo hplan hlt, fun _ => hplan, fun hback => ?_, fun _ => hlt⟩
      cases hdecode : e.decode <;> simp [hdecode] at hback
  | findChannel => exact h.findChannel hplace e.ch
  | tests =>
    have hplan := h.plan_init (by rw [hplace]; decide)
    have hlt := h.chidx_lt (by rw [hplace]; decide)
    have hlen : s.plan.length = plan.length := by rw [hplan, initChplan, List.length_map]
    by_cases hfinished : e.finished = true
    · simp only [if_pos hfinished]
      exact ⟨h.programs, fun _ => hplan, nofun, fun _ => hlt⟩
    · simp only [if_neg hfinished]
      refine ⟨h.programs, fun _ => hplan, nofun, fun _ => ?_⟩
      change (if s.chidx + 1 = s.plan.length then 0 else s.chidx + 1) < plan.length
      split <;> omega
  | done =>
    exact h

end

/-- **The hopper programs the plan.** For every plan and in every run in which no offset is there
any more when the loop goes back to `sc_reinit`, every line is an entry with its offset mapped
once, read inside the plan. -/
theorem always_programs {plan : List Chplan} (hplan : plan ≠ []) (es : List Input)
    (hplain : Runs.Steps step ReinitPlain (start plan) es) :
    Runs.Always step (Programs plan) (start plan) es :=
  Runs.always_of_steps (D := fun _ => True) (fun _ _ _ h hplain => h.step hplain)
    (fun _ h => h.programs) es (fun _ _ => trivial) _ (inv_start hplan) hplain

/-- Two channels without a sign, the second of which is the one of the access point; the loop goes
back to `sc_reinit` in between. -/
theorem always_programs_reinit :
    Runs.Always step (Programs [⟨1, 32⟩, ⟨6, 32⟩]) (start [⟨1, 32⟩, ⟨6, 32⟩])
      [{}, {}, {}, { reinit := true }, {}, { decode := true }, { ch := some [54] }, {}] :=
  always_programs (by decide) _
    ⟨fun _ => nofun, fun _ => nofun, fun _ => nofun, fun _ _ => by decide, fun _ => nofun,
      fun _ => nofun, fun _ => nofun, fun _ => nofun, trivial⟩

example : (([{}, {}, {}] : List Input).foldl step (start [⟨1, 32⟩, ⟨6, 32⟩])).place = .loop := by
  decide

/-- One channel with the sign `+`, and a loop that goes back to `sc_reinit` once. -/
theorem not_always_programs :
    ¬ ∀ (plan : List Chplan) (es : List Input), plan ≠ [] →
      Runs.Always step (Programs plan) (start plan) es := by
  intro hall
  let es : List Input := [{}, {}, {}, { reinit := true }, {}, {}]
  have hlast : Programs [⟨1, 43⟩] (es.foldl step (start [⟨1, 43⟩])) :=
    Runs.Always.last es _ (hall [⟨1, 43⟩] es (by decide))
  obtain ⟨c, hc, hline⟩ := hlast (0, some ⟨1, 0⟩) (by decide)
  cases hc
  exact absurd hline (by decide)

end Hopper

end SimpleConfig

end Rk3399
