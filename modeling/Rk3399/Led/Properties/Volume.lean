import Rk3399.Led.Helpers.Members
import Rk3399.Common.Runs
/-!
# The volume that is saved

Whether a volume that was set is written to `device_info.txt` in the end. What
is still to be done is kept in two flags and in the pending state. The pending
state can be overwritten before `mainloop` has seen it, and where it is the
state handled last `mainloop` does not see it at all: `volumeKept_iff` says
that the runs that lose no volume are exactly those without either of the two
where neither flag stands for the volume.
-/

namespace Rk3399

namespace Led

open Runs

namespace InfoLed

variable (s : InfoLed)

/-- The volume written to `device_info.txt` last, or the one the process starts with. -/
def savedVolume : Int := s.devInfo.getD 0

/-- The volume is saved, or a flag stands for it. -/
def Kept : Prop :=
  s.currentVolume = s.savedVolume ∨ s.isVolAdjust = true ∨ s.needSaveVol = true

/-- `mainloop` takes its turn, if it finds anything to do, and any iteration of
`led_system_start_t` that comes five seconds later saves the volume. -/
def WillSave : Prop :=
  ∀ now nowVol nowWifi : Int, now + 5 ≤ nowVol → s.tvVolAdjust + 5 ≤ nowVol →
    (([.wake, .mainloop now, .systemStart nowVol true true nowWifi] : List Event).foldl step
      s).savedVolume = s.currentVolume

/-- **A changed volume is saved or pending**, so that a later iteration will still save it. -/
def VolumeKept : Prop :=
  s.currentVolume ≠ s.savedVolume →
    (s.isVolAdjust = true ∨ s.needSaveVol = true ∨ s.currentState = .adjustVolume) ∧ s.WillSave

/-- The event overwrites the pending state with another. -/
def Overwrites : Event → Prop
  | .ledOpen mode _ =>
    s.isLedInitialized = true ∧ ∃ state, mode.state? = some state ∧ state ≠ .adjustVolume
  | .systemStart _ _ _ nowWifi => s.isWifiError = true ∧ nowWifi - s.tvWifiError ≥ 5
  | .start _ | .wake | .mainloop _ => False

/-- The request sets the state `mainloop` has handled last, while `mainloop` waits. -/
def Unseen : Prop :=
  s.isLedInitialized = true ∧ s.oldState = .adjustVolume ∧ s.thread ≠ .awake

/-- A pending volume is overwritten, and one is set that `mainloop` does not see, only
where a flag stands for it, or where it is the one that is saved. -/
def KeepsPending (e : Event) : Prop :=
  (s.currentState = .adjustVolume → s.Overwrites e → s.Kept) ∧
  ∀ val, e = .ledOpen .volume val → s.Unseen →
    val = s.savedVolume ∨ s.isVolAdjust = true ∨ s.needSaveVol = true

end InfoLed

/-- The volume file can be opened where the event opens it. -/
def Event.Writable : Event → Prop
  | .systemStart _ opensVol opensPending _ => opensVol = true ∧ opensPending = true
  | .start _ | .wake | .mainloop _ | .ledOpen _ _ => True

namespace InfoLed

/-! ## The invariant -/

/-- A volume is requested that `mainloop` is going to see. -/
def Pending (s : InfoLed) : Prop :=
  s.currentState = .adjustVolume ∧ (s.oldState ≠ .adjustVolume ∨ s.thread = .awake)

/-- What holds between two events. -/
structure VolumeInv (s : InfoLed) : Prop where
  sound : s.Sound
  /-- Before `mainloop` has started no volume was set. -/
  uninitialized : s.isLedInitialized = false → s.currentVolume = s.savedVolume
  kept : s.Kept ∨ s.Pending

variable {s : InfoLed}

theorem volumeInv_new (ledState : State) (scrollLedNum tvVolAdjust tvWifiError : Int) :
    (new ledState scrollLedNum tvVolAdjust tvWifiError).VolumeInv :=
  ⟨sound_new .., fun _ => rfl, .inl (.inl rfl)⟩

theorem volumeInv_mainloopStart (h : s.VolumeInv) (initRet : Bool) :
    (s.mainloopStart initRet).VolumeInv := by
  cases hthread : s.thread with
  | unstarted =>
    have hvol : s.currentVolume = s.devInfo.getD 0 :=
      h.uninitialized (h.sound.of_unstarted hthread)
    refine ⟨sound_mainloopStart h.sound initRet, fun _ => ?_, .inl (.inl ?_)⟩ <;>
      cases initRet <;> simp [mainloopStart, hthread, savedVolume, hvol]
  | waiting | awake | returned =>
    simpa [mainloopStart, hthread] using h

theorem volumeInv_wake (h : s.VolumeInv) : s.wake.VolumeInv := by
  have hsound := sound_wake h.sound
  unfold wake at hsound ⊢
  split at hsound
  · rw [if_pos (by assumption)]
    exact ⟨hsound, h.uninitialized, h.kept.imp id fun hpending => ⟨hpending.1, .inr rfl⟩⟩
  · rwa [if_neg (by assumption)]

/-- The volume goes from the pending state to the flag of the display, and from there to
the flag of the file. -/
theorem kept_mainloop (h : s.VolumeInv) (hawake : s.thread = .awake) (now : Int) :
    (s.mainloop now).Kept := by
  rw [mainloop_eq hawake h.sound.scrolling]
  rcases h.kept with (heq | hvol | hsave) | ⟨hcur, -⟩
  · exact .inl heq
  · by_cases hcur : s.currentState = .adjustVolume ∨ s.currentState = .idle ∨
      s.currentState = .off
    · exact .inr (.inl (by simpa [hvol] using hcur))
    · exact .inr (.inr (by simp [hvol, hcur]))
  · exact .inr (.inr (by simp [hsave]))
  · exact .inr (.inl (by simp [hcur]))

/-- An iteration of `mainloop` leaves the volume alone, and takes the time of a display. -/
theorem volume_mainloop (h : s.Scrolls) (now : Int) :
    (s.mainloop now).currentVolume = s.currentVolume ∧
      (s.mainloop now).isLedInitialized = s.isLedInitialized ∧
      (s.mainloop now).savedVolume = s.savedVolume ∧
      ((s.mainloop now).tvVolAdjust = now ∨ (s.mainloop now).tvVolAdjust = s.tvVolAdjust) := by
  by_cases hawake : s.thread = .awake
  · rw [mainloop_eq hawake h]
    exact ⟨rfl, rfl, rfl, ite_eq_or_eq ..⟩
  · rw [mainloop, if_neg hawake]
    exact ⟨rfl, rfl, rfl, .inr rfl⟩

theorem volumeInv_mainloop (h : s.VolumeInv) (now : Int) : (s.mainloop now).VolumeInv := by
  by_cases hawake : s.thread = .awake
  · obtain ⟨hvolume, hinit, hsaved, -⟩ := volume_mainloop h.sound.scrolling now
    refine ⟨sound_mainloop h.sound now, fun hno => ?_, .inl (kept_mainloop h hawake now)⟩
    rw [hvolume, hsaved]
    exact h.uninitialized (hinit.symm.trans hno)
  · rwa [mainloop, if_neg hawake]

/-- Only `MODE_VOLUME` requests the state, and its value is the volume. -/
theorem request_volume {mode : LColor} {state : State} {val volume leds : Int}
    (hinit : s.isLedInitialized = true) (hstate : mode.state? = some state)
    (hadjust : state = .adjustVolume)
    (hled : s.ledOpen mode val =
      { s with currentState := state, currentVolume := volume, scrollLedNum := leds }) :
    mode = .volume ∧ val = volume := by
  subst hadjust
  cases mode <;> simp only [LColor.state?, Option.some.injEq, reduceCtorEq] at hstate
  have hvolume := congrArg InfoLed.currentVolume hled
  simpa [ledOpen, hinit, setState] using hvolume

theorem volumeInv_ledOpen (h : s.VolumeInv) {mode : LColor} {val : Int}
    (hkeeps : s.KeepsPending (.ledOpen mode val)) : (s.ledOpen mode val).VolumeInv := by
  by_cases hinit : s.isLedInitialized = true
  · cases hstate : mode.state? with
    | none => rwa [ledOpen_of_none hstate]
    | some state =>
      have hsound := sound_ledOpen h.sound mode val
      obtain ⟨volume, leds, hled, hvolume, -⟩ := ledOpen_of_some hinit hstate val
      rw [hled] at hsound ⊢
      refine ⟨hsound, fun hno => absurd (hinit.symm.trans hno) nofun, ?_⟩
      by_cases hadjust : state = .adjustVolume
      · by_cases hseen : s.oldState ≠ .adjustVolume ∨ s.thread = .awake
        · exact .inr ⟨hadjust, hseen⟩
        · obtain ⟨hold, hasleep⟩ : s.oldState = .adjustVolume ∧ s.thread ≠ .awake := by
            simpa using hseen
          obtain ⟨rfl, rfl⟩ := request_volume hinit hstate hadjust hled
          exact .inl (hkeeps.2 val rfl ⟨hinit, hold, hasleep⟩)
      · have hkept : s.Kept := h.kept.elim id fun hpending =>
          hkeeps.1 hpending.1 ⟨hinit, state, hstate, hadjust⟩
        rw [hvolume hadjust]
        exact .inl hkept
  · rwa [ledOpen_of_not_initialized (by simpa using hinit)]

/-! ## The thread of `led_system_start_t` -/

/-- The end of the display of a volume saves it, or there is nothing to end. -/
theorem endVolAdjust_saves (now : Int) :
    (s.endVolAdjust now true).currentVolume = (s.endVolAdjust now true).savedVolume ∨
      s.endVolAdjust now true = s := by
  by_cases hdue : s.isVolAdjust ∧ now - s.tvVolAdjust ≥ 5
  · rw [endVolAdjust_of_due true hdue]
    exact .inl rfl
  · exact .inr (endVolAdjust_of_not_due true hdue)

/-- The flag of the file is cleared by saving the volume. -/
theorem savePending_saves :
    (s.savePending true).currentVolume = (s.savePending true).savedVolume ∨
      s.savePending true = s := by
  cases hsave : s.needSaveVol with
  | true => exact .inl (by simp [savePending, saveVolume, hsave, savedVolume])
  | false => exact .inr (by simp [savePending, hsave])

theorem saves_or_same (now : Int) :
    ((s.endVolAdjust now true).savePending true).currentVolume =
        ((s.endVolAdjust now true).savePending true).savedVolume ∨
      (s.endVolAdjust now true).savePending true = s := by
  rcases savePending_saves (s := s.endVolAdjust now true) with hsaved | hsame
  · exact .inl hsaved
  · rw [hsame]
    exact endVolAdjust_saves now

theorem volumeInv_systemStart (h : s.VolumeInv) {nowVol nowWifi : Int}
    (hkeeps : s.KeepsPending (.systemStart nowVol true true nowWifi)) :
    (s.step (.systemStart nowVol true true nowWifi)).VolumeInv := by
  have hsound := sound_step h.sound (.systemStart nowVol true true nowWifi)
  rw [step] at hsound ⊢
  rcases saves_or_same (s := s) nowVol with hsaved | hsame
  · have hwifi : ∀ s : InfoLed, s.currentVolume = s.savedVolume →
        (s.endWifiError nowWifi).currentVolume = (s.endWifiError nowWifi).savedVolume := by
      intro s h
      unfold endWifiError
      split <;> exact h
    exact ⟨hsound, fun _ => hwifi _ hsaved, .inl (.inl (hwifi _ hsaved))⟩
  · rw [hsame] at hsound ⊢
    by_cases hdue : s.isWifiError ∧ nowWifi - s.tvWifiError ≥ 5
    · have hkept : s.Kept := h.kept.elim id fun hpending => hkeeps.1 hpending.1 hdue
      rw [endWifiError, if_pos hdue] at hsound ⊢
      exact ⟨hsound, h.uninitialized, .inl hkept⟩
    · rwa [endWifiError, if_neg hdue]

/-- **An event that keeps what is pending keeps the invariant**, where the volume file can
be opened. -/
theorem volumeInv_step {e : Event} (hwritable : e.Writable) (h : s.VolumeInv)
    (hkeeps : s.KeepsPending e) : (s.step e).VolumeInv := by
  cases e with
  | start initRet => exact volumeInv_mainloopStart h initRet
  | wake => exact volumeInv_wake h
  | mainloop now => exact volumeInv_mainloop h now
  | ledOpen mode val => exact volumeInv_ledOpen h hkeeps
  | systemStart nowVol opensVol opensPending nowWifi =>
    obtain ⟨rfl, rfl⟩ := hwritable
    exact volumeInv_systemStart h hkeeps

/-! ## What will be saved -/

theorem savedVolume_endWifiError (now : Int) :
    (s.endWifiError now).savedVolume = s.savedVolume := by
  unfold endWifiError
  split <;> rfl

/-- Five seconds after the display of a volume, what is kept is saved. -/
theorem systemStart_saves (hkept : s.Kept) {nowVol : Int} (hlate : s.tvVolAdjust + 5 ≤ nowVol)
    (nowWifi : Int) :
    (s.step (.systemStart nowVol true true nowWifi)).savedVolume = s.currentVolume := by
  rw [step, savedVolume_endWifiError, savePending_eq]
  cases hvol : s.isVolAdjust with
  | true =>
    rw [endVolAdjust_of_due true ⟨hvol, by omega⟩]
    simp [savedVolume]
  | false =>
    rw [endVolAdjust_of_not_due true (fun hdue => absurd (hvol.symm.trans hdue.1) nofun)]
    cases hsave : s.needSaveVol with
    | true => simp [savedVolume]
    | false =>
      have heq : s.currentVolume = s.savedVolume := by simpa [Kept, hvol, hsave] using hkept
      simpa [savedVolume] using heq.symm

/-- Once `mainloop` has had its turn, the volume is saved or a flag stands for it. -/
theorem kept_turn (h : s.VolumeInv) (now : Int) : (s.wake.mainloop now).Kept := by
  by_cases hawake : s.wake.thread = .awake
  · exact kept_mainloop (volumeInv_wake h) hawake now
  · rw [mainloop, if_neg hawake]
    have hno : ¬ (s.thread = .waiting ∧ s.checkState) := by
      intro hwake
      simp [wake, hwake] at hawake
    rw [wake, if_neg hno] at hawake ⊢
    rcases h.kept with hkept | ⟨hcur, hold | hthread⟩
    · exact hkept
    · -- `mainloop` does not run, so no volume was set
      refine .inl (h.uninitialized ?_)
      by_contra hinit
      rcases h.sound.running.mp (by simpa using hinit) with hwait | hthread
      · exact hno ⟨hwait, fun heq => hold (heq.symm.trans hcur)⟩
      · exact hawake hthread
    · exact absurd hthread hawake

theorem VolumeInv.willSave (h : s.VolumeInv) : s.WillSave := by
  intro now nowVol nowWifi hnow htv
  have hwake : s.wake.currentVolume = s.currentVolume ∧ s.wake.tvVolAdjust = s.tvVolAdjust := by
    unfold wake
    split <;> exact ⟨rfl, rfl⟩
  obtain ⟨hvolume, -, -, hshown⟩ := volume_mainloop (sound_wake h.sound).scrolling now
  have hlate : (s.wake.mainloop now).tvVolAdjust + 5 ≤ nowVol := by
    rcases hshown with hshown | hshown <;> rw [hshown]
    · exact hnow
    · rwa [hwake.2]
  exact (systemStart_saves (kept_turn h now) hlate nowWifi).trans (hvolume.trans hwake.1)

theorem VolumeInv.volumeKept (h : s.VolumeInv) : s.VolumeKept := by
  refine fun hne => ⟨?_, h.willSave⟩
  rcases h.kept with (heq | hvol | hsave) | ⟨hcur, -⟩
  · exact absurd heq hne
  · exact .inl hvol
  · exact .inr (.inl hsave)
  · exact .inr (.inr hcur)

/-- A request `mainloop` does not see is not saved. -/
theorem not_willSave_of_unseen {val : Int} (hunseen : s.Unseen) (hvol : s.isVolAdjust = false)
    (hsave : s.needSaveVol = false) (hne : val ≠ s.savedVolume) :
    ¬ (s.ledOpen .volume val).WillSave := by
  obtain ⟨hinit, hold, hasleep⟩ := hunseen
  have hled : s.ledOpen .volume val =
      { s with currentState := .adjustVolume, currentVolume := val } := by
    simp [ledOpen, hinit, setState]
  intro hwill
  rw [hled] at hwill
  have hlate := hwill 0 (max 5 (s.tvVolAdjust + 5)) 0 (Int.le_max_left ..) (Int.le_max_right ..)
  simp only [List.foldl_cons, List.foldl_nil, step, savedVolume_endWifiError] at hlate
  have hsaved : s.savedVolume = val := by
    simpa [wake, checkState, hold, mainloop, hasleep, endVolAdjust, hvol, savePending, hsave,
      savedVolume] using hlate
  exact hne hsaved.symm

/-- A pending volume that is overwritten and that no flag stands for is lost, and so is one
that `mainloop` does not see. -/
theorem volume_lost {e : Event} (hno : ¬ s.KeepsPending e) : ¬ (s.step e).VolumeKept := by
  rcases not_and_or.mp hno with hno | hno
  case inr =>
    -- the request `mainloop` does not see
    obtain ⟨val, rfl, hunseen, hnot⟩ : ∃ val, e = .ledOpen .volume val ∧ s.Unseen ∧
        ¬ (val = s.savedVolume ∨ s.isVolAdjust = true ∨ s.needSaveVol = true) := by
      simpa only [not_forall, exists_prop] using hno
    obtain ⟨hne, hvol, hsave⟩ : val ≠ s.savedVolume ∧ s.isVolAdjust = false ∧
        s.needSaveVol = false := by
      simpa using hnot
    have hset : (s.ledOpen .volume val).currentVolume = val ∧
        (s.ledOpen .volume val).savedVolume = s.savedVolume := by
      simp [ledOpen, hunseen.1, setState, savedVolume]
    intro hkept
    exact not_willSave_of_unseen hunseen hvol hsave hne
      (hkept (by rw [step, hset.1, hset.2]; exact hne)).2
  -- the pending volume that is overwritten
  obtain ⟨hcur, hover, hnot⟩ : s.currentState = .adjustVolume ∧ s.Overwrites e ∧ ¬ s.Kept := by
    simpa only [Classical.not_imp] using hno
  have hlost : s.currentVolume ≠ s.savedVolume ∧ s.isVolAdjust = false ∧
      s.needSaveVol = false := by
    simpa [Kept] using hnot
  obtain ⟨hne, hvol, hsave⟩ := hlost
  cases e with
  | start | wake | mainloop => exact hover.elim
  | ledOpen mode val =>
    obtain ⟨hinit, state, hstate, hadjust⟩ := hover
    obtain ⟨volume, leds, hled, hvolume, -⟩ := ledOpen_of_some hinit hstate val
    intro hkept
    rw [step, hled, hvolume hadjust] at hkept
    rcases (hkept hne).1 with hv | hs | hc
    · exact Bool.false_ne_true (hvol.symm.trans hv)
    · exact Bool.false_ne_true (hsave.symm.trans hs)
    · exact hadjust hc
  | systemStart nowVol opensVol opensPending nowWifi =>
    intro hkept
    have hover : s.isWifiError ∧ nowWifi - s.tvWifiError ≥ 5 := hover
    have hstep : s.step (.systemStart nowVol opensVol opensPending nowWifi) = s.setState .off := by
      simp [step, endVolAdjust, hvol, savePending, hsave, endWifiError, hover]
    rw [hstep] at hkept
    rcases (hkept hne).1 with hv | hs | hc
    · exact Bool.false_ne_true (hvol.symm.trans hv)
    · exact Bool.false_ne_true (hsave.symm.trans hs)
    · cases hc

end InfoLed

/-- **A changed volume is always saved or pending, exactly where no pending volume is
overwritten that no flag stands for.** -/
theorem volumeKept_iff (ledState : State) (scrollLedNum tvVolAdjust tvWifiError : Int)
    (es : List Event) (hwritable : ∀ e ∈ es, e.Writable) :
    Always InfoLed.step InfoLed.VolumeKept
        (.new ledState scrollLedNum tvVolAdjust tvWifiError) es ↔
      Steps InfoLed.step InfoLed.KeepsPending
        (.new ledState scrollLedNum tvVolAdjust tvWifiError) es :=
  always_iff_steps (I := InfoLed.VolumeInv) (fun _ _ => InfoLed.volumeInv_step)
    (fun _ => InfoLed.VolumeInv.volumeKept) (fun _ _ _ _ => InfoLed.volume_lost) es hwritable _
    (InfoLed.volumeInv_new ..)

/-- The run in which a volume is set, shown and saved. -/
theorem volumeKept_iff_saved :
    Always InfoLed.step InfoLed.VolumeKept (.new .normalMode 3 0 0)
        [.start true, .ledOpen .volume 5, .wake, .mainloop 10, .systemStart 15 true true 15] ↔
      Steps InfoLed.step InfoLed.KeepsPending (.new .normalMode 3 0 0)
        [.start true, .ledOpen .volume 5, .wake, .mainloop 10, .systemStart 15 true true 15] :=
  volumeKept_iff .normalMode 3 0 0 _ (by simp [Event.Writable])

/-- **A volume is lost**: another request comes before `mainloop` has seen it. -/
theorem volume_not_kept :
    ¬ ∀ ledState scrollLedNum tvVolAdjust tvWifiError es, (∀ e ∈ es, Event.Writable e) →
      Always InfoLed.step InfoLed.VolumeKept
        (.new ledState scrollLedNum tvVolAdjust tvWifiError) es := by
  intro hall
  have hrun := hall .normalMode 3 0 0 [.start true, .ledOpen .volume 5, .ledOpen .vp 0]
    (by simp [Event.Writable])
  have hlast := hrun.2.2.2
  exact absurd (hlast (by decide)).1 (by decide)

end Led

end Rk3399
