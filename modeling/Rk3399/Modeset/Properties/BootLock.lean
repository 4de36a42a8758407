import Rk3399.Modeset.Helpers.BootSteps
/-!
# The lock of the boot animation

The threads take their steps in any order. At most one of them is inside the
lock, and the thread of the animation does not sleep through a request that
enables it; but it can sleep through `stop_boot_thread`, which then waits for
it for ever.
-/

namespace Rk3399

namespace Modeset

open Runs

variable {ι : Type}

/-! ## What always holds -/

/-- **The lock and the requests are safe**: a thread is inside the lock exactly while it holds it,
so that no two threads are, the animation sleeps through no request that enables it but the one
about to be signalled, and plays only while the count is zero, so that the count never reaches
the frames after which it would start again. -/
structure Safe (s : BootThread ι) : Prop where
  holds : ∀ p, s.lock_ = some p ↔ s.Inside p
  exclusive : ∀ p q, s.Inside p → s.Inside q → p = q
  enabled : s.thread_ = .asleep → s.enabled_ = true →
    ∃ i, s.control i = .signal ∧ s.lock_ = some (.control i)
  played : s.thread_.Playing → s.vsyncCnt = 0
  neverAgain : s.thread_ ≠ .clearCnt
  ended : s.thread_ = .ended → s.stop.Asked

theorem Sound.safe {s : BootThread ι} (h : Sound s) : Safe s where
  holds := h.holds
  exclusive _ _ hp hq := h.holds.unique hp hq
  enabled hat hen := by
    obtain ⟨i, hi⟩ := h.sleeps hat hen
    refine ⟨i, hi, (h.holds (.control i)).mpr ?_⟩
    show (s.control i).Inside
    rw [hi]
    trivial
  played := h.plays
  neverAgain := h.counts
  ended hat := h.asked.mp (h.leaves (by rw [hat]; trivial))

/-- **They are in every order of steps.** -/
theorem always_safe [DecidableEq ι] (es : List (BootEvent ι)) :
    Always BootThread.step Safe (startBootThread ι) es :=
  always_of_kept (D := fun _ => True) (fun _ e _ h => h.step e) (fun _ h => h.safe) es
    (fun _ _ => trivial) _ sound_start

/-! ## The end of the thread -/

/-- The animation takes its steps alone. -/
def BootThread.alone [DecidableEq ι] (s : BootThread ι) (ds : List Display) : BootThread ι :=
  (ds.map .vsync).foldl BootThread.step s

/-- `stop_boot_thread` waits for the thread to end, and nobody is in `vsync_control`. -/
structure Stopping (s : BootThread ι) : Prop where
  join : s.stop = .join
  outside : ∀ i, s.control i = .outside

/-- **The wait ends**: from some number of steps on, whatever the display says. -/
def StopReturns [DecidableEq ι] (s : BootThread ι) : Prop :=
  ∃ n, ∀ ds : List Display, n ≤ ds.length → (s.alone ds).thread_ = .ended

/-- The animation has read `exit_` before it was set, and comes to its wait, or is there. -/
def VsyncAt.MissesExit : VsyncAt → Prop
  | .unlockExit false | .testExit false | .lockEnabled | .testEnabled | .condWait | .asleep => True
  | _ => False

/-- **The signal is lost on it**: it is disabled, and goes to sleep after the signal. -/
def BootThread.Deaf (s : BootThread ι) : Prop := s.enabled_ = false ∧ s.thread_.MissesExit

/-- How many steps the animation takes at most to its end. -/
def VsyncAt.toEnd : VsyncAt → Nat
  | .ended => 0
  | .testExit true => 1
  | .unlockExit true => 2
  | .readExit => 3
  | .lockExit => 4
  | .writeCnt _ => 5
  | .readCnt => 6
  | .clearCnt => 7
  | .testFps => 8
  | .bootAnimation => 9
  | .testCnt _ => 10
  | .checkVideo => 11
  | .waitVBlank => 12
  | .returnUnless _ => 13
  | .unlockEnabled _ => 14
  | .readEnabled => 15
  | .relock | .testEnabled | .condWait | .asleep => 16
  | .lockEnabled => 17
  | .testExit false => 18
  | .unlockExit false => 19

theorem Stopping.vsync {s : BootThread ι} (hs : Stopping s) (d : Display) :
    Stopping (s.vsync d) := by
  obtain ⟨hcontrol, hstop, -, -⟩ := vsync_frame s d
  exact ⟨hstop.trans hs.join, fun i => by rw [hcontrol]; exact hs.outside i⟩

/-- What the animation reads of `exit_` once it is set, unless it is deaf. -/
structure Hears (s : BootThread ι) : Prop where
  sound : Sound s
  stopping : Stopping s
  hears : ¬ s.Deaf

/-- A place is nearer to the end, and not one where the animation becomes deaf. -/
def VsyncAt.Nearer (next hat : VsyncAt) : Prop :=
  next.toEnd ≤ hat.toEnd - 1 ∧ (next.MissesExit → hat.MissesExit)

/-- It waits only at its end. -/
theorem Hears.ended {s : BootThread ι} (h : Hears s) (hstays : s.Stays) : s.thread_ = .ended := by
  have hfree : ¬ s.thread_.Inside → s.lock_ = none :=
    h.sound.free h.stopping.outside (by rw [h.stopping.join]; nofun)
  unfold BootThread.Stays at hstays
  split at hstays
  · rename_i hat
    exact absurd (hfree (by rw [hat]; nofun)) hstays
  · rename_i hat
    exact absurd (hfree (by rw [hat]; nofun)) hstays
  · rename_i hat
    exact absurd (hfree (by rw [hat]; nofun)) hstays
  · rename_i hat
    -- a thread that sleeps while it is enabled is about to be woken by another
    have hen : s.enabled_ = true := by
      by_contra hdis
      exact h.hears ⟨Bool.eq_false_iff.mpr hdis, by rw [hat]; trivial⟩
    obtain ⟨i, hi⟩ := h.sound.sleeps hat hen
    exact absurd hi (by rw [h.stopping.outside i]; decide)
  · assumption
  · exact hstays.elim

/-- **The next place of the animation that hears `exit_`.** -/
theorem Hears.nearer {s : BootThread ι} (h : Hears s) (d : Display) :
    (s.vsync d).thread_.Nearer s.thread_ := by
  obtain ⟨heq, hstays⟩ | hgoes := vsync_cases s d
  · rw [heq, h.ended hstays]
    exact ⟨by decide, nofun⟩
  · have hexit : s.exit_ = true := h.sound.asked.mpr (by rw [h.stopping.join]; trivial)
    have hears : ¬ s.Deaf := h.hears
    have hwaits := h.sound.waits
    unfold BootThread.Deaf at hears
    generalize (s.vsync d).thread_ = next at hgoes
    generalize s.thread_ = place at hgoes hears hwaits
    cases hgoes with
    | readExit =>
      rw [hexit]
      exact ⟨by decide, nofun⟩
    | unlockExit exit =>
      cases exit with
      | false => exact ⟨by decide, id⟩
      | true => exact ⟨by decide, nofun⟩
    | continues | lockEnabled => exact ⟨by decide, fun _ => trivial⟩
    | waits hdis => exact absurd ⟨hdis, trivial⟩ hears
    | condWait => exact absurd ⟨hwaits rfl, trivial⟩ hears
    | readEnabled => exact ⟨Nat.le_refl 14, nofun⟩
    | unlockEnabled enabled => exact ⟨Nat.le_refl 13, nofun⟩
    | checkVideo => exact ⟨Nat.le_refl 10, nofun⟩
    | skips win1State => exact ⟨show 6 ≤ 10 - 1 by omega, nofun⟩
    | readCnt => exact ⟨Nat.le_refl 5, nofun⟩
    | writeCnt cnt => exact ⟨Nat.le_refl 4, nofun⟩
    | _ => exact ⟨by decide, nofun⟩

theorem Hears.vsync {s : BootThread ι} (h : Hears s) (d : Display) : Hears (s.vsync d) := by
  obtain ⟨-, -, henabled, -⟩ := vsync_frame s d
  refine ⟨h.sound.vsync d, h.stopping.vsync d, ?_⟩
  rintro ⟨hen, hmiss⟩
  exact h.hears ⟨henabled.symm.trans hen, (h.nearer d).2 hmiss⟩

theorem isVsync_of_mem {ds : List Display} (e : BootEvent ι) (he : e ∈ ds.map .vsync) :
    e.IsVsync := by
  obtain ⟨d, -, rfl⟩ := List.mem_map.mp he
  exact ⟨d, rfl⟩

/-- How far the animation is from its end. -/
def BootThread.toEnd (s : BootThread ι) : Nat := s.thread_.toEnd

/-- Only the end is no step away from it. -/
theorem eq_ended_of_toEnd {place : VsyncAt} (h : place.toEnd = 0) : place = .ended := by
  cases place with
  | ended => rfl
  | unlockExit exit => cases exit <;> exact absurd h (by decide)
  | testExit exit => cases exit <;> exact absurd h (by decide)
  | _ => exact absurd h (by simp [VsyncAt.toEnd])

/-- **Whoever hears comes to the end.** -/
theorem Hears.returns [DecidableEq ι] {s : BootThread ι} (h : Hears s) : StopReturns s := by
  refine ⟨s.toEnd, fun ds hlen => eq_ended_of_toEnd ?_⟩
  have hrank : (s.alone ds).toEnd ≤ s.toEnd - (ds.map BootEvent.vsync).length :=
    rank_le_sub (I := Hears) (D := BootEvent.IsVsync) (by rintro s _ ⟨d, rfl⟩ hs; exact hs.vsync d)
      (by rintro s _ ⟨d, rfl⟩ hs; exact (hs.nearer d).1) (ds.map .vsync) isVsync_of_mem s h
  rw [List.length_map] at hrank
  have hend : (s.alone ds).toEnd = 0 := by omega
  exact hend

/-- It stays at a place where it misses `exit_`, as long as it is disabled. -/
theorem deaf_vsync {s : BootThread ι} (h : s.Deaf) (d : Display) : (s.vsync d).Deaf := by
  obtain ⟨hdis, hmiss⟩ := h
  obtain ⟨-, -, henabled, -⟩ := vsync_frame s d
  refine ⟨henabled.trans hdis, ?_⟩
  obtain ⟨heq, -⟩ | hgoes := vsync_cases s d
  · rw [heq]
    exact hmiss
  · generalize (s.vsync d).thread_ = next at hgoes
    generalize s.thread_ = place at hgoes hmiss
    cases hgoes with
    | unlockExit exit =>
      cases exit with
      | false => trivial
      | true => exact hmiss.elim
    | continues | lockEnabled | waits | condWait => trivial
    | doesNotWait hen => exact absurd hdis (by rw [hen]; decide)
    | _ => exact hmiss.elim

/-- **`stop_boot_thread` returns unless its signal is lost**: in every run of the threads, once
it waits for the thread and nobody is in `vsync_control`, it waits for ever exactly where the
animation is disabled and past its reading of `exit_`. -/
theorem stopReturns_iff [DecidableEq ι] (es : List (BootEvent ι))
    (hstop : Stopping (es.foldl BootThread.step (startBootThread ι))) :
    StopReturns (es.foldl BootThread.step (startBootThread ι)) ↔
      ¬ (es.foldl BootThread.step (startBootThread ι)).Deaf := by
  constructor
  · rintro ⟨n, hn⟩ hdeaf
    have hlast : BootThread.Deaf (BootThread.alone _ (List.replicate n ⟨true, true⟩)) :=
      kept (I := BootThread.Deaf) (D := BootEvent.IsVsync)
        (by rintro s _ ⟨d, rfl⟩ hs; exact deaf_vsync hs d) _ isVsync_of_mem _ hdeaf
    have hend := hn (List.replicate n ⟨true, true⟩) (Nat.le_of_eq List.length_replicate.symm)
    have hmiss := hlast.2
    rw [hend] at hmiss
    exact hmiss
  · exact fun hhears => Hears.returns ⟨sound_run es, hstop, hhears⟩

/-- A run in which `exit_` is set, and signalled, between the reading of it and the wait. -/
def lateStop : List (BootEvent Unit) :=
  List.replicate 4 (.vsync ⟨true, false⟩) ++ List.replicate 5 .stop

/-- **It can be lost.** -/
theorem stopReturns_iff_late :
    StopReturns (lateStop.foldl BootThread.step (startBootThread Unit)) ↔
      ¬ (lateStop.foldl BootThread.step (startBootThread Unit)).Deaf :=
  stopReturns_iff lateStop ⟨rfl, fun _ => rfl⟩

example : (lateStop.foldl BootThread.step (startBootThread Unit)).Deaf := ⟨rfl, trivial⟩

end Modeset

end Rk3399
