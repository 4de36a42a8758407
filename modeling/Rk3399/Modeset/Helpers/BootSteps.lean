import Rk3399.Common.Locks
import Rk3399.Common.Runs
import Rk3399.Modeset.Model.BootThread
/-!
# The steps of the threads of the boot animation

What a step of the animation does, as a relation (`Goes`), and what every step
of every thread keeps (`Sound`): who is inside the lock, and what the places
of the threads say of what they share.
-/

namespace Rk3399

namespace Modeset

open Runs

variable {ι : Type}

/-! ## The steps of the animation -/

/-- The animation waits: for the lock, for a signal, or no longer for anything. -/
def BootThread.Stays (s : BootThread ι) : Prop :=
  match s.thread_ with
  | .lockExit | .lockEnabled | .relock => s.lock_ ≠ none
  | .asleep | .ended => True
  | _ => False

/-- **Where the animation goes with a step**, unless it waits. -/
inductive Goes (s : BootThread ι) (d : Display) : VsyncAt → VsyncAt → Prop
  | lockExit : Goes s d .lockExit .readExit
  | readExit : Goes s d .readExit (.unlockExit s.exit_)
  | unlockExit (exit : Bool) : Goes s d (.unlockExit exit) (.testExit exit)
  | ends : Goes s d (.testExit true) .ended
  | continues : Goes s d (.testExit false) .lockEnabled
  | lockEnabled : Goes s d .lockEnabled .testEnabled
  | waits (h : s.enabled_ = false) : Goes s d .testEnabled .condWait
  | doesNotWait (h : s.enabled_ = true) : Goes s d .testEnabled .readEnabled
  | condWait : Goes s d .condWait .asleep
  | relock : Goes s d .relock .readEnabled
  | readEnabled : Goes s d .readEnabled (.unlockEnabled s.enabled_)
  | unlockEnabled (enabled : Bool) : Goes s d (.unlockEnabled enabled) (.returnUnless enabled)
  | returns : Goes s d (.returnUnless false) .lockExit
  | goesOn : Goes s d (.returnUnless true) .waitVBlank
  | noVBlank (h : d.vblank = false) : Goes s d .waitVBlank .lockExit
  | vblank (h : d.vblank = true) : Goes s d .waitVBlank .checkVideo
  | checkVideo : Goes s d .checkVideo (.testCnt d.win1State)
  | plays (h : s.vsyncCnt = 0) : Goes s d (.testCnt false) .bootAnimation
  | skips (win1State : Bool) (h : win1State = true ∨ s.vsyncCnt ≠ 0) :
      Goes s d (.testCnt win1State) .readCnt
  | played : Goes s d .bootAnimation .testFps
  | again (h : s.vsyncCnt = mfps) : Goes s d .testFps .clearCnt
  | notAgain : Goes s d .testFps .readCnt
  | clearCnt : Goes s d .clearCnt .readCnt
  | readCnt : Goes s d .readCnt (.writeCnt s.vsyncCnt)
  | writeCnt (cnt : Nat) : Goes s d (.writeCnt cnt) .lockExit

/-- It waits for the lock while another holds it. -/
theorem vsyncLock_cases {s : BootThread ι} {d : Display} {next : VsyncAt}
    (hstays : s.lock_ ≠ none → s.Stays) (hgoes : Goes s d s.thread_ next) :
    (s.vsyncLock next = s ∧ s.Stays) ∨ Goes s d s.thread_ (s.vsyncLock next).thread_ := by
  unfold BootThread.vsyncLock
  split
  · exact Or.inr hgoes
  · rename_i hheld
    exact Or.inl ⟨rfl, hstays hheld⟩

theorem vsync_cases (s : BootThread ι) (d : Display) :
    (s.vsync d = s ∧ s.Stays) ∨ Goes s d s.thread_ (s.vsync d).thread_ := by
  -- only the lock, the wait and the end can leave the state as it is
  have hlock : ∀ {hat next : VsyncAt}, s.thread_ = hat → (s.lock_ ≠ none → s.Stays) →
      Goes s d hat next →
      (s.vsyncLock next = s ∧ s.Stays) ∨ Goes s d hat (s.vsyncLock next).thread_ := by
    rintro _ next rfl hstays hgoes
    exact vsyncLock_cases hstays hgoes
  have hstays : ∀ {hat : VsyncAt}, s.thread_ = hat →
      (match hat with
        | .lockExit | .lockEnabled | .relock => s.lock_ ≠ none
        | .asleep | .ended => True
        | _ => False) → s.Stays := by
    rintro _ rfl h
    exact h
  unfold BootThread.vsync
  cases hat : s.thread_ with
  | lockExit => exact hlock hat (hstays hat) .lockExit
  | readExit => exact Or.inr .readExit
  | unlockExit exit => exact Or.inr (.unlockExit exit)
  | testExit exit =>
    cases exit with
    | false => exact Or.inr .continues
    | true => exact Or.inr .ends
  | lockEnabled => exact hlock hat (hstays hat) .lockEnabled
  | testEnabled =>
    right
    show Goes s d .testEnabled (if !s.enabled_ then .condWait else .readEnabled)
    cases hen : s.enabled_ with
    | false => exact .waits hen
    | true => exact .doesNotWait hen
  | condWait => exact Or.inr .condWait
  | asleep => exact Or.inl ⟨rfl, hstays hat trivial⟩
  | relock => exact hlock hat (hstays hat) .relock
  | readEnabled => exact Or.inr .readEnabled
  | unlockEnabled enabled => exact Or.inr (.unlockEnabled enabled)
  | returnUnless enabled =>
    cases enabled with
    | false => exact Or.inr .returns
    | true => exact Or.inr .goesOn
  | waitVBlank =>
    right
    show Goes s d .waitVBlank (if d.vblank then .checkVideo else .lockExit)
    cases hvblank : d.vblank with
    | false => exact .noVBlank hvblank
    | true => exact .vblank hvblank
  | checkVideo => exact Or.inr .checkVideo
  | testCnt win1State =>
    right
    show Goes s d (.testCnt win1State)
      (if !win1State && s.vsyncCnt == 0 then .bootAnimation else .readCnt)
    split
    · rename_i hplay
      rw [Bool.and_eq_true, Bool.not_eq_true', beq_iff_eq] at hplay
      rw [hplay.1]
      exact .plays hplay.2
    · rename_i hplay
      refine .skips win1State ?_
      rw [Bool.and_eq_true, Bool.not_eq_true', beq_iff_eq] at hplay
      cases win1State with
      | true => exact Or.inl rfl
      | false => exact Or.inr fun hcnt => hplay ⟨rfl, hcnt⟩
  | bootAnimation => exact Or.inr .played
  | testFps =>
    right
    show Goes s d .testFps (if s.vsyncCnt == mfps then .clearCnt else .readCnt)
    split
    · rename_i hfps
      exact .again (beq_iff_eq.mp hfps)
    · exact .notAgain
  | clearCnt => exact Or.inr .clearCnt
  | readCnt => exact Or.inr .readCnt
  | writeCnt cnt => exact Or.inr (.writeCnt cnt)
  | ended => exact Or.inl ⟨rfl, hstays hat trivial⟩

/-- What the animation's step leaves alone. -/
theorem vsync_frame (s : BootThread ι) (d : Display) :
    (s.vsync d).control = s.control ∧ (s.vsync d).stop = s.stop ∧
      (s.vsync d).enabled_ = s.enabled_ ∧ (s.vsync d).exit_ = s.exit_ := by
  have hlock : ∀ next, (s.vsyncLock next).control = s.control ∧ (s.vsyncLock next).stop = s.stop ∧
      (s.vsyncLock next).enabled_ = s.enabled_ ∧ (s.vsyncLock next).exit_ = s.exit_ := by
    intro next
    unfold BootThread.vsyncLock
    split <;> exact ⟨rfl, rfl, rfl, rfl⟩
  unfold BootThread.vsync
  split
  all_goals first | exact hlock _ | exact ⟨rfl, rfl, rfl, rfl⟩

/-! ### The other threads -/

/-- A step of the animation. -/
def BootEvent.IsVsync (e : BootEvent ι) : Prop := ∃ d, e = .vsync d

/-- The animation is where it was, or no longer asleep. -/
def Woken (s t : BootThread ι) : Prop :=
  t.thread_ = s.thread_ ∨ (s.thread_ = .asleep ∧ t.thread_ = .relock)

theorem woken_wake (s : BootThread ι) : Woken s s.wake := by
  unfold BootThread.wake
  split
  · rename_i hat
    exact Or.inr ⟨hat, rfl⟩
  · exact Or.inl rfl

/-- **What the other threads do to the animation.** -/
theorem woken_of_other [DecidableEq ι] {s : BootThread ι} {e : BootEvent ι} (he : ¬ e.IsVsync) :
    Woken s (s.step e) := by
  cases e with
  | vsync d => exact absurd ⟨d, rfl⟩ he
  | call i enabled =>
    show Woken s (s.call i enabled)
    unfold BootThread.call
    split <;> exact Or.inl rfl
  | control i =>
    show Woken s (s.controlStep i)
    unfold BootThread.controlStep
    split
    · exact Or.inl rfl
    · split <;> exact Or.inl rfl
    · exact Or.inl rfl
    · exact woken_wake s
    · exact Or.inl rfl
    · exact Or.inl rfl
  | stop =>
    show Woken s s.stopStep
    unfold BootThread.stopStep
    split
    · exact Or.inl rfl
    · split <;> exact Or.inl rfl
    · exact Or.inl rfl
    · exact Or.inl rfl
    · exact woken_wake s
    · split <;> exact Or.inl rfl
    · exact Or.inl rfl
  | spurious => exact woken_wake s

/-! ## The lock -/

/-- The animation is between its `pthread_mutex_lock` and what gives the lock back. -/
def VsyncAt.Inside : VsyncAt → Prop
  | .readExit | .unlockExit _ | .testEnabled | .condWait | .readEnabled | .unlockEnabled _ => True
  | _ => False

/-- So is a thread in `vsync_control`. -/
def ControlAt.Inside : ControlAt → Prop
  | .setEnabled _ | .signal | .clearCnt | .unlock => True
  | _ => False

/-- And the main thread in `stop_boot_thread`. -/
def StopAt.Inside : StopAt → Prop
  | .setExit | .unlock => True
  | _ => False

/-- `stop_boot_thread` has set `exit_`. -/
def StopAt.Asked : StopAt → Prop
  | .unlock | .signal | .join | .stopped => True
  | _ => False

/-- The animation has seen `exit_`. -/
def VsyncAt.Leaving : VsyncAt → Prop
  | .unlockExit true | .testExit true | .ended => True
  | _ => False

/-- The animation plays. -/
def VsyncAt.Playing : VsyncAt → Prop
  | .bootAnimation | .testFps => True
  | _ => False

/-- A thread is inside the lock. -/
def BootThread.Inside (s : BootThread ι) : Holder ι → Prop
  | .vsync => s.thread_.Inside
  | .control i => (s.control i).Inside
  | .stop => s.stop.Inside

/-- **What every step keeps.** -/
structure Sound (s : BootThread ι) : Prop where
  holds : Excludes s.lock_ s.Inside
  waits : s.thread_ = .condWait → s.enabled_ = false
  sleeps : s.thread_ = .asleep → s.enabled_ = true → ∃ i, s.control i = .signal
  plays : s.thread_.Playing → s.vsyncCnt = 0
  counts : s.thread_ ≠ .clearCnt
  asked : s.exit_ = true ↔ s.stop.Asked
  leaves : s.thread_.Leaving → s.exit_ = true
  joined : s.stop = .stopped → s.thread_ = .ended

theorem sound_start : Sound (startBootThread ι) where
  holds p := by
    cases p <;> simp [startBootThread, BootThread.Inside, VsyncAt.Inside, ControlAt.Inside,
      StopAt.Inside]
  waits := nofun
  sleeps := nofun
  plays := nofun
  counts := nofun
  asked := by simp [startBootThread, StopAt.Asked]
  leaves := nofun
  joined := nofun

section vsync

variable {s : BootThread ι} {next : VsyncAt}

/-- What the animation's next place has to have. -/
structure VsyncAt.Follows (s : BootThread ι) (cnt : Nat) (next : VsyncAt) : Prop where
  waits : next = .condWait → s.enabled_ = false
  sleeps : next = .asleep → s.enabled_ = false
  plays : next.Playing → cnt = 0
  counts : next ≠ .clearCnt
  leaves : next.Leaving → s.exit_ = true
  started : s.thread_ = .ended → next = .ended

/-- The animation goes on, with the lock as it has to be. -/
theorem Sound.move (h : Sound s) {lock : Option (Holder ι)} {cnt : Nat} (hnext : next.Follows s cnt)
    (hex : Excludes lock
      (BootThread.Inside { s with lock_ := lock, thread_ := next, vsyncCnt := cnt })) :
    Sound { s with lock_ := lock, thread_ := next, vsyncCnt := cnt } where
  holds := hex
  waits := hnext.waits
  sleeps heq hen := absurd (hnext.sleeps heq) (by rw [show s.enabled_ = true from hen]; decide)
  plays := hnext.plays
  counts := hnext.counts
  asked := h.asked
  leaves := hnext.leaves
  joined hstop := hnext.started (h.joined hstop)

/-- It does not touch the lock. -/
theorem Sound.go (h : Sound s) {cnt : Nat} (hnext : next.Follows s cnt)
    (hin : next.Inside ↔ s.thread_.Inside) :
    Sound { s with thread_ := next, vsyncCnt := cnt } := by
  refine h.move hnext (h.holds.keep fun p => ?_)
  cases p with
  | vsync => exact hin
  | control i => exact Iff.rfl
  | stop => exact Iff.rfl

/-- It takes the lock, or waits for it. -/
theorem Sound.lock (h : Sound s) (hnext : next.Follows s s.vsyncCnt) (hin : next.Inside) :
    Sound (s.vsyncLock next) := by
  unfold BootThread.vsyncLock
  split
  · rename_i hfree
    have hex : Excludes none s.Inside := hfree ▸ h.holds
    refine h.move hnext (hex.take (q := .vsync) hin fun p hp hi => ?_)
    cases p with
    | vsync => exact absurd rfl hp
    | control i => exact hi
    | stop => exact hi
  · exact h

/-- It gives the lock back. -/
theorem Sound.unlock (h : Sound s) (hnext : next.Follows s s.vsyncCnt) (hin : s.thread_.Inside)
    (hout : ¬ next.Inside) : Sound { s with lock_ := none, thread_ := next } := by
  refine h.move hnext (h.holds.release (q := .vsync) hin hout fun p hp hi => ?_)
  cases p with
  | vsync => exact absurd rfl hp
  | control i => exact hi
  | stop => exact hi

/-- A place that asks for nothing. -/
def VsyncAt.Plain : VsyncAt → Prop
  | .condWait | .asleep | .bootAnimation | .testFps | .clearCnt => False
  | .unlockExit true | .testExit true | .ended => False
  | _ => True

/-- It is reached from one where the animation goes on. -/
theorem VsyncAt.follows_of {place : VsyncAt} {cnt : Nat} (hat : s.thread_ = place)
    (hplace : place ≠ .ended) (hplain : next.Plain) : next.Follows s cnt where
  waits heq := by
    rw [heq] at hplain
    exact hplain.elim
  sleeps heq := by
    rw [heq] at hplain
    exact hplain.elim
  plays hplay := by
    unfold VsyncAt.Playing at hplay
    split at hplay
    · exact hplain.elim
    · exact hplain.elim
    · exact hplay.elim
  counts heq := by
    rw [heq] at hplain
    exact hplain
  leaves hleave := by
    unfold VsyncAt.Leaving at hleave
    split at hleave
    · exact hplain.elim
    · exact hplain.elim
    · exact hplain.elim
    · exact hleave.elim
  started heq := absurd (hat.symm.trans heq) hplace

/-- What `exit_` is read into. -/
theorem VsyncAt.follows_exit {place : VsyncAt} {exit : Bool} (hat : s.thread_ = place)
    (hplace : place ≠ .ended) (hexit : exit = true → s.exit_ = true)
    (hnext : next = .unlockExit exit ∨ next = .testExit exit) : next.Follows s s.vsyncCnt := by
  cases exit with
  | false =>
    obtain rfl | rfl := hnext
    · exact follows_of hat hplace trivial
    · exact follows_of hat hplace trivial
  | true =>
    have hthread : s.thread_ ≠ .ended := fun heq => hplace (hat.symm.trans heq)
    obtain rfl | rfl := hnext
    · exact ⟨nofun, nofun, nofun, nofun, fun _ => hexit rfl, fun heq => absurd heq hthread⟩
    · exact ⟨nofun, nofun, nofun, nofun, fun _ => hexit rfl, fun heq => absurd heq hthread⟩

/-- **The animation's steps keep it.** -/
theorem Sound.vsync (h : Sound s) (d : Display) : Sound (s.vsync d) := by
  unfold BootThread.vsync
  cases hat : s.thread_ with
  | lockExit =>
    exact h.lock (VsyncAt.follows_of hat nofun trivial) trivial
  | readExit =>
    exact h.go (VsyncAt.follows_exit hat nofun id (Or.inl rfl)) (by rw [hat]; exact Iff.rfl)
  | unlockExit exit =>
    have hexit : exit = true → s.exit_ = true := by
      rintro rfl
      exact h.leaves (by rw [hat]; trivial)
    exact h.unlock (VsyncAt.follows_exit hat nofun hexit (Or.inr rfl))
      (by rw [hat]; trivial) nofun
  | testExit exit =>
    cases exit with
    | false =>
      exact h.go (VsyncAt.follows_of hat nofun trivial)
        (by rw [hat]; exact Iff.rfl)
    | true =>
      have hexit : s.exit_ = true := h.leaves (by rw [hat]; trivial)
      exact h.go ⟨nofun, nofun, nofun, nofun, fun _ => hexit, fun _ => rfl⟩
        (by rw [hat]; exact Iff.rfl)
  | lockEnabled =>
    exact h.lock (VsyncAt.follows_of hat nofun trivial) trivial
  | testEnabled =>
    refine h.go
      (?_ : VsyncAt.Follows s s.vsyncCnt (if !s.enabled_ then .condWait else .readEnabled)) ?_
    · split
      · rename_i hen
        have hdis : s.enabled_ = false := by simpa using hen
        exact ⟨fun _ => hdis, nofun, nofun, nofun, nofun, by rw [hat]; nofun⟩
      · exact VsyncAt.follows_of hat nofun trivial
    · rw [hat]
      split <;> exact Iff.rfl
  | condWait =>
    have hen : s.enabled_ = false := h.waits hat
    exact h.unlock ⟨nofun, fun _ => hen, nofun, nofun, nofun, by rw [hat]; nofun⟩
      (by rw [hat]; trivial) nofun
  | asleep => exact h
  | relock =>
    exact h.lock (VsyncAt.follows_of hat nofun trivial) trivial
  | readEnabled =>
    exact h.go (VsyncAt.follows_of hat nofun trivial)
      (by rw [hat]; exact Iff.rfl)
  | unlockEnabled enabled =>
    exact h.unlock (VsyncAt.follows_of hat nofun trivial)
      (by rw [hat]; trivial) nofun
  | returnUnless enabled =>
    refine h.go (?_ : VsyncAt.Follows s s.vsyncCnt (if !enabled then .lockExit else .waitVBlank)) ?_
    · split <;> exact VsyncAt.follows_of hat nofun trivial
    · rw [hat]
      split <;> exact Iff.rfl
  | waitVBlank =>
    refine h.go (?_ : VsyncAt.Follows s s.vsyncCnt (if d.vblank then .checkVideo else .lockExit)) ?_
    · split <;> exact VsyncAt.follows_of hat nofun trivial
    · rw [hat]
      split <;> exact Iff.rfl
  | checkVideo =>
    exact h.go (VsyncAt.follows_of hat nofun trivial)
      (by rw [hat]; exact Iff.rfl)
  | testCnt win1State =>
    refine h.go (?_ : VsyncAt.Follows s s.vsyncCnt
      (if !win1State && s.vsyncCnt == 0 then .bootAnimation else .readCnt)) ?_
    · split
      · rename_i hplay
        have hcnt : s.vsyncCnt = 0 := by
          rw [Bool.and_eq_true, beq_iff_eq] at hplay
          exact hplay.2
        exact ⟨nofun, nofun, fun _ => hcnt, nofun, nofun, by rw [hat]; nofun⟩
      · exact VsyncAt.follows_of hat nofun trivial
    · rw [hat]
      split <;> exact Iff.rfl
  | bootAnimation =>
    have hcnt : s.vsyncCnt = 0 := h.plays (by rw [hat]; trivial)
    exact h.go ⟨nofun, nofun, fun _ => hcnt, nofun, nofun, by rw [hat]; nofun⟩
      (by rw [hat]; exact Iff.rfl)
  | testFps =>
    -- the count is still zero, so it is not the number of frames after which it starts again
    have hcnt : s.vsyncCnt = 0 := h.plays (by rw [hat]; trivial)
    refine h.go
      (?_ : VsyncAt.Follows s s.vsyncCnt (if s.vsyncCnt == mfps then .clearCnt else .readCnt)) ?_
    · rw [hcnt, if_neg (by decide)]
      exact VsyncAt.follows_of hat nofun trivial
    · rw [hat]
      split <;> exact Iff.rfl
  | clearCnt => exact absurd hat h.counts
  | readCnt =>
    exact h.go (VsyncAt.follows_of hat nofun trivial)
      (by rw [hat]; exact Iff.rfl)
  | writeCnt cnt =>
    exact h.go (VsyncAt.follows_of hat nofun trivial)
      (by rw [hat]; exact Iff.rfl)
  | ended => exact h

end vsync

/-- **A signal, or the end of a wait without one, keeps it.** -/
theorem Sound.wake {s : BootThread ι} (h : Sound s) : Sound s.wake := by
  unfold BootThread.wake
  split
  · rename_i hat
    exact h.go (VsyncAt.follows_of hat nofun trivial)
      (by rw [hat]; exact Iff.rfl)
  · exact h

/-- After it nobody sleeps. -/
theorem wake_not_asleep (s : BootThread ι) : s.wake.thread_ ≠ .asleep := by
  unfold BootThread.wake
  split
  · nofun
  · assumption

section control

variable [DecidableEq ι] {s : BootThread ι} {i : ι} {next : ControlAt}

theorem controlAt_self : (s.controlAt i next).control i = next := Function.update_self ..

theorem controlAt_of_ne {j : ι} (hne : j ≠ i) : (s.controlAt i next).control j = s.control j :=
  Function.update_of_ne hne ..

/-- The other parties stay where they are. -/
theorem inside_controlAt {p : Holder ι} (hp : p ≠ .control i) :
    (s.controlAt i next).Inside p ↔ s.Inside p := by
  cases p with
  | vsync => exact Iff.rfl
  | stop => exact Iff.rfl
  | control j =>
    have hne : j ≠ i := fun heq => hp (heq ▸ rfl)
    show ((s.controlAt i next).control j).Inside ↔ (s.control j).Inside
    rw [controlAt_of_ne hne]

/-- A thread goes on in `vsync_control`, with the lock as it has to be. -/
theorem Sound.controlAt (h : Sound s) {lock : Option (Holder ι)} {enabled : Bool} {cnt : Nat}
    (hex : Excludes lock (s.controlAt i next).Inside)
    (hwait : s.thread_ = .condWait → enabled = false)
    (hsleep : s.thread_ = .asleep → enabled = true →
      ∃ j, (s.controlAt i next).control j = .signal)
    (hcnt : cnt = 0 ∨ cnt = s.vsyncCnt) :
    Sound ({ s with lock_ := lock, enabled_ := enabled, vsyncCnt := cnt }.controlAt i next) where
  holds := hex
  waits := hwait
  sleeps := hsleep
  plays hp := hcnt.elim id fun heq => heq.trans (h.plays hp)
  counts := h.counts
  asked := h.asked
  leaves := h.leaves
  joined := h.joined

/-- Who was about to signal still is. -/
theorem signal_controlAt (hfrom : s.control i ≠ .signal) (hsig : ∃ j, s.control j = .signal) :
    ∃ j, (s.controlAt i next).control j = .signal := by
  obtain ⟨j, hj⟩ := hsig
  have hne : j ≠ i := by
    rintro rfl
    exact hfrom hj
  exact ⟨j, (controlAt_of_ne hne).trans hj⟩

/-- It goes on inside the lock, or outside. -/
theorem excludes_controlAt (h : Sound s) (hin : next.Inside ↔ (s.control i).Inside) :
    Excludes s.lock_ (s.controlAt i next).Inside := by
  refine h.holds.keep fun p => ?_
  by_cases hp : p = .control i
  · subst hp
    show ((s.controlAt i next).control i).Inside ↔ (s.control i).Inside
    rw [controlAt_self]
    exact hin
  · exact inside_controlAt hp

/-- It leaves it. -/
theorem excludes_unlock (h : Sound s) (hin : (s.control i).Inside) (hout : ¬ next.Inside) :
    Excludes none (s.controlAt i next).Inside := by
  refine h.holds.release (q := .control i) hin ?_ fun p hp hi => (inside_controlAt hp).mp hi
  show ¬ ((s.controlAt i next).control i).Inside
  rw [controlAt_self]
  exact hout

/-- It enters it. -/
theorem excludes_lock (h : Sound s) (hfree : s.lock_ = none) (hin : next.Inside) :
    Excludes (some (.control i)) (s.controlAt i next).Inside := by
  have hex : Excludes none s.Inside := hfree ▸ h.holds
  refine hex.take ?_ fun p hp hi => (inside_controlAt hp).mp hi
  show ((s.controlAt i next).control i).Inside
  rw [controlAt_self]
  exact hin

theorem Sound.call (h : Sound s) (i : ι) (enabled : Bool) : Sound (s.call i enabled) := by
  unfold BootThread.call
  split
  · rename_i hat
    exact h.controlAt (excludes_controlAt h (by rw [hat]; exact Iff.rfl)) h.waits
      (fun heq hen => signal_controlAt (by rw [hat]; nofun) (h.sleeps heq hen)) (Or.inr rfl)
  · exact h

/-- **The steps of `vsync_control` keep it.** -/
theorem Sound.controlStep (h : Sound s) (i : ι) : Sound (s.controlStep i) := by
  unfold BootThread.controlStep
  cases hat : s.control i with
  | outside => exact h
  | lock enabled =>
    show Sound (if s.lock_ = none ∧ s.stop ≠ .stopped then _ else s)
    split
    · rename_i hfree
      exact h.controlAt (excludes_lock h hfree.1 trivial) h.waits
        (fun heq hen => signal_controlAt (by rw [hat]; nofun) (h.sleeps heq hen)) (Or.inr rfl)
    · exact h
  | setEnabled enabled =>
    have hin : s.Inside (.control i) := by
      show (s.control i).Inside
      rw [hat]
      trivial
    refine h.controlAt (excludes_controlAt h (by rw [hat]; exact Iff.rfl)) ?_ ?_ (Or.inr rfl)
    · intro hwait
      -- between its test and its wait the animation holds the lock
      refine absurd (show s.Inside .vsync from ?_) (h.holds.not_inside hin nofun)
      show s.thread_.Inside
      rw [hwait]
      trivial
    · exact fun _ _ => ⟨i, controlAt_self⟩
  | signal =>
    have hwake : s.wake.control i = .signal := by
      unfold BootThread.wake
      split <;> exact hat
    have hex : Excludes s.wake.lock_ (s.wake.controlAt i .clearCnt).Inside :=
      excludes_controlAt h.wake (by rw [hwake]; exact Iff.rfl)
    exact h.wake.controlAt hex h.wake.waits (fun heq => absurd heq (wake_not_asleep s)) (Or.inr rfl)
  | clearCnt =>
    exact h.controlAt (excludes_controlAt h (by rw [hat]; exact Iff.rfl)) h.waits
      (fun heq hen => signal_controlAt (by rw [hat]; nofun) (h.sleeps heq hen)) (Or.inl rfl)
  | unlock =>
    exact h.controlAt (excludes_unlock h (by rw [hat]; trivial) nofun) h.waits
      (fun heq hen => signal_controlAt (by rw [hat]; nofun) (h.sleeps heq hen)) (Or.inr rfl)

end control

section stop

variable {s : BootThread ι} {next : StopAt}

/-- The main thread goes on in `stop_boot_thread`, with the lock as it has to be. -/
theorem Sound.stopAt (h : Sound s) {lock : Option (Holder ι)} {exit : Bool}
    (hex : Excludes lock (BootThread.Inside { s with stop := next }))
    (hasked : exit = true ↔ next.Asked) (hleaves : s.exit_ = true → exit = true)
    (hjoined : next = .stopped → s.thread_ = .ended) :
    Sound { s with lock_ := lock, exit_ := exit, stop := next } where
  holds := hex
  waits := h.waits
  sleeps := h.sleeps
  plays := h.plays
  counts := h.counts
  asked := hasked
  leaves hl := hleaves (h.leaves hl)
  joined := hjoined

/-- It goes on inside the lock, or outside. -/
theorem excludes_stop (h : Sound s) (hin : next.Inside ↔ s.stop.Inside) :
    Excludes s.lock_ (BootThread.Inside { s with stop := next }) := by
  refine h.holds.keep fun p => ?_
  cases p with
  | vsync => exact Iff.rfl
  | control i => exact Iff.rfl
  | stop => exact hin

/-- **The steps of `stop_boot_thread` keep it.** -/
theorem Sound.stopStep (h : Sound s) : Sound s.stopStep := by
  unfold BootThread.stopStep
  -- the other threads are inside where they were
  have hother : ∀ {next : StopAt} {p : Holder ι}, p ≠ .stop →
      BootThread.Inside { s with stop := next } p → s.Inside p := by
    intro next p hp hi
    cases p with
    | vsync => exact hi
    | control i => exact hi
    | stop => exact absurd rfl hp
  have hasked := h.asked
  cases hat : s.stop with
  | outside =>
    rw [hat] at hasked
    exact h.stopAt (excludes_stop h (by rw [hat]; exact Iff.rfl)) hasked id nofun
  | lock =>
    rw [hat] at hasked
    show Sound (if s.lock_ = none then { s with lock_ := some .stop, stop := .setExit } else s)
    split
    · rename_i hfree
      have hex : Excludes none s.Inside := hfree ▸ h.holds
      exact h.stopAt (hex.take (q := .stop) trivial fun _ => hother) hasked id nofun
    · exact h
  | setExit =>
    exact h.stopAt (excludes_stop h (by rw [hat]; exact Iff.rfl)) (iff_of_true rfl trivial)
      (fun _ => rfl) nofun
  | unlock =>
    rw [hat] at hasked
    have hin : s.Inside .stop := by
      show s.stop.Inside
      rw [hat]
      trivial
    exact h.stopAt (h.holds.release (q := .stop) hin nofun fun _ => hother) hasked id nofun
  | signal =>
    have hstop : s.wake.stop = .signal := by
      unfold BootThread.wake
      split <;> exact hat
    have hasked' := h.wake.asked
    rw [hstop] at hasked'
    have hex : Excludes s.wake.lock_ (BootThread.Inside { s.wake with stop := .join }) :=
      excludes_stop h.wake (by rw [hstop]; exact Iff.rfl)
    exact h.wake.stopAt hex hasked' id nofun
  | join =>
    rw [hat] at hasked
    show Sound (if s.thread_ = .ended then { s with stop := .stopped } else s)
    split
    · rename_i hend
      exact h.stopAt (excludes_stop h (by rw [hat]; exact Iff.rfl)) hasked id fun _ => hend
    · exact h
  | stopped => exact h

end stop

/-- **Every step keeps it.** -/
theorem Sound.step [DecidableEq ι] {s : BootThread ι} (h : Sound s) (e : BootEvent ι) :
    Sound (s.step e) := by
  cases e with
  | vsync d => exact h.vsync d
  | call i enabled => exact h.call i enabled
  | control i => exact h.controlStep i
  | stop => exact h.stopStep
  | spurious => exact h.wake

theorem sound_run [DecidableEq ι] (es : List (BootEvent ι)) :
    Sound (es.foldl BootThread.step (startBootThread ι)) :=
  kept (D := fun _ => True) (fun _ e _ h => h.step e) es (fun _ _ => trivial) _ sound_start

/-- The lock is free for the animation. -/
theorem Sound.free {s : BootThread ι} (h : Sound s) (houtside : ∀ i, s.control i = .outside)
    (hstop : ¬ s.stop.Inside) (hout : ¬ s.thread_.Inside) : s.lock_ = none := by
  cases hlock : s.lock_ with
  | none => rfl
  | some p =>
    have hin : s.Inside p := (h.holds p).mp hlock
    cases p with
    | vsync => exact absurd hin hout
    | control i =>
      have hin' : (s.control i).Inside := hin
      rw [houtside i] at hin'
      exact hin'.elim
    | stop => exact absurd hin hstop

end Modeset

end Rk3399
