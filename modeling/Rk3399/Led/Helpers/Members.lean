import Rk3399.Led.Model.InfoLed
/-!
# An event of the LED service, member by member

What an iteration of `mainloop` leaves in each member, and what the other
threads leave alone.
-/

namespace Rk3399

namespace Led

/-! ## Requests -/

/-- The state `led_open` requests for a mode. -/
def LColor.state? : LColor → Option State
  | .booted | .networkStarted | .javaclientStarted | .sensoryStarted => some .ledScrolling
  | .systemOk => some .systemOk
  | .start => some .systemStart
  | .off => some .off
  | .vp => some .vpProcess
  | .vpWakeup => some .vpWakeup
  | .wifiConnect => some .wifiMode
  | .bluetooth => some .btMode
  | .normal => some .normalMode
  | .volume => some .adjustVolume
  | .wifiErr => some .wifiErr
  | .micMute => some .micMute
  | .test | .auxiliary | .other _ => none

/-- The states that stand for a display. -/
def State.Requestable (state : State) : Prop := state ≠ .idle ∧ state ≠ .uninitialized

theorem LColor.requestable {mode : LColor} {state : State} (h : mode.state? = some state) :
    state.Requestable := by
  cases mode <;> simp only [LColor.state?, Option.some.injEq, reduceCtorEq] at h <;> subst h <;>
    exact ⟨nofun, nofun⟩

/-- The display a state stands for, with the volume and the number of scrolling LEDs. -/
def State.display (volume scrollLedNum : Int) : State → Option Display
  | .systemStart | .normalMode | .off => some .allOff
  | .btMode => some (.setScroll 0x1f .green .black 3 100)
  | .wifiMode => some (.setScroll 0x1f .nonGreen .black 3 100)
  | .wifiErr => some (.setScroll 0x1f .red .black 3 100)
  | .vpWakeup => some (.setBreath .white .black 200 8)
  | .vpProcess => some (.setScroll 0x333 .white .blue 3 50)
  | .adjustVolume => some (.certainOn (InfoLed.lowBits volume) .white)
  | .ledScrolling => some (.setScroll (InfoLed.lowBits scrollLedNum) .white .blue 3 80)
  | .micMute => some (.allOn .red)
  | .systemOk => some (.allOn .white)
  | .uninitialized | .idle => none

/-- The states the display of a volume returns to. -/
def State.IsMode (state : State) : Prop :=
  state = .normalMode ∨ state = .btMode ∨ state = .wifiMode ∨ state = .micMute

instance (state : State) : Decidable state.IsMode := inferInstanceAs (Decidable (_ ∨ _))

theorem State.IsMode.requestable {state : State} (h : state.IsMode) : state.Requestable := by
  rcases h with rfl | rfl | rfl | rfl <;> exact ⟨nofun, nofun⟩

theorem State.IsMode.ne_ledScrolling {state : State} (h : state.IsMode) :
    state ≠ .ledScrolling := by
  rcases h with rfl | rfl | rfl | rfl <;> nofun

namespace InfoLed

variable {s : InfoLed}

theorem ledOpen_of_not_initialized (h : s.isLedInitialized = false) (mode : LColor) (val : Int) :
    s.ledOpen mode val = s := by
  simp [ledOpen, h]

theorem ledOpen_of_none {mode : LColor} (h : mode.state? = none) (val : Int) :
    s.ledOpen mode val = s := by
  cases mode <;> simp_all [ledOpen, LColor.state?]

/-- **A request** sets the state, and with it no more than the volume and the number of
scrolling LEDs. -/
theorem ledOpen_of_some {mode : LColor} {state : State} (hinit : s.isLedInitialized = true)
    (h : mode.state? = some state) (val : Int) :
    ∃ volume leds,
      s.ledOpen mode val =
        { s with currentState := state, currentVolume := volume, scrollLedNum := leds } ∧
      (state ≠ .adjustVolume → volume = s.currentVolume) ∧
      (state = .ledScrolling → leds ≠ 0) := by
  cases mode <;> simp only [LColor.state?, Option.some.injEq, reduceCtorEq] at h <;> subst h <;>
    simp only [ledOpen, hinit, setState, not_true_eq_false, if_false]
  case volume => exact ⟨val, s.scrollLedNum, rfl, by simp, by simp⟩
  all_goals exact ⟨s.currentVolume, _, rfl, by simp, by simp⟩

/-! ## The iteration of `mainloop` -/

/-- LEDs that are to scroll have a number. -/
def Scrolls (s : InfoLed) : Prop := s.currentState = .ledScrolling → s.scrollLedNum ≠ 0

section mainloop

variable {now : Int} (hawake : s.thread = .awake) (hscroll : s.Scrolls)

include hawake in
theorem mainloop_of_awake :
    s.mainloop now = { s.mainloopFlags.mainloopSwitch now with thread := .waiting } := by
  simp [mainloop, hawake]

include hscroll in
/-- The flags an iteration sets before its `switch`. -/
theorem mainloopFlags_eq :
    s.mainloopFlags = { s with
      isVolAdjust := s.isVolAdjust &&
        (s.currentState = .adjustVolume ∨ s.currentState = .idle ∨ s.currentState = .off)
      needSaveVol := s.needSaveVol || (s.isVolAdjust &&
        ¬ (s.currentState = .adjustVolume ∨ s.currentState = .idle ∨ s.currentState = .off))
      isWifiError := s.isWifiError && (s.currentState = .wifiErr ∨ s.currentState = .idle)
      oldState := s.currentState } := by
  have hno : ¬ (s.scrollLedNum = 0 ∧ s.currentState = .ledScrolling) := fun h => hscroll h.2 h.1
  obtain ⟨init, cur, old, led, vol, oldVol, leds, adj, wifi, save, tv, tw, thread, disp, dev⟩ := s
  simp only at hno
  cases cur <;> cases adj <;> simp_all [mainloopFlags]

/-- The switch leaves a state that stands for no display, and an `OFF` where a volume is
shown. -/
def Left (s : InfoLed) : Prop :=
  s.currentState = .idle ∨ s.currentState = .uninitialized ∨
    (s.currentState = .off ∧ s.isVolAdjust = true)

instance (s : InfoLed) : Decidable s.Left := inferInstanceAs (Decidable (_ ∨ _))

theorem mainloopSwitch_eq : s.mainloopSwitch now = { s with
    currentState := if s.Left then s.currentState else .idle
    display := if s.Left then s.display
      else s.currentState.display s.currentVolume s.scrollLedNum
    ledState := if s.currentState.IsMode then s.currentState else s.ledState
    isVolAdjust := s.isVolAdjust || s.currentState = .adjustVolume
    isWifiError := s.isWifiError || s.currentState = .wifiErr
    tvVolAdjust := if s.currentState = .adjustVolume then now else s.tvVolAdjust
    tvWifiError := if s.currentState = .wifiErr then now else s.tvWifiError
    oldVolume := if s.currentState = .adjustVolume then s.currentVolume else s.oldVolume } := by
  obtain ⟨init, cur, old, led, vol, oldVol, leds, adj, wifi, save, tv, tw, thread, disp, dev⟩ := s
  cases cur <;> cases adj <;>
    simp [mainloopSwitch, Left, State.IsMode, State.display, program, setState]

include hawake hscroll in
/-- **An iteration of `mainloop`**: what is pending goes to the display, and the flags
say what is still shown and what is still to be saved. -/
theorem mainloop_eq : s.mainloop now = { s with
    currentState := if s.Left then s.currentState else .idle
    oldState := s.currentState
    ledState := if s.currentState.IsMode then s.currentState else s.ledState
    isVolAdjust := s.currentState = .adjustVolume ||
      (s.isVolAdjust && (s.currentState = .idle ∨ s.currentState = .off))
    needSaveVol := s.needSaveVol || (s.isVolAdjust &&
      ¬ (s.currentState = .adjustVolume ∨ s.currentState = .idle ∨ s.currentState = .off))
    isWifiError := s.currentState = .wifiErr || (s.isWifiError && s.currentState = .idle)
    tvVolAdjust := if s.currentState = .adjustVolume then now else s.tvVolAdjust
    tvWifiError := if s.currentState = .wifiErr then now else s.tvWifiError
    oldVolume := if s.currentState = .adjustVolume then s.currentVolume else s.oldVolume
    display := if s.Left then s.display
      else s.currentState.display s.currentVolume s.scrollLedNum
    thread := .waiting } := by
  rw [mainloop_of_awake hawake, mainloopFlags_eq hscroll, mainloopSwitch_eq]
  obtain ⟨init, cur, old, led, vol, oldVol, leds, adj, wifi, save, tv, tw, thread, disp, dev⟩ := s
  cases cur <;> simp [Left, State.IsMode]

include hawake hscroll in
/-- LEDs that are left to scroll keep their number. -/
theorem scrolls_mainloop : (s.mainloop now).Scrolls := by
  rw [mainloop_eq hawake hscroll]
  intro hcur
  have hleft : s.Left := by
    by_contra hno
    simp [hno] at hcur
  simp only [hleft, if_true] at hcur
  exact hscroll hcur

end mainloop

/-! ## What every event keeps -/

/-- What holds of the members whatever is requested. -/
structure Sound (s : InfoLed) : Prop where
  /-- Nothing is shown before `mainloop` has started. -/
  uninitialized : s.isLedInitialized = false → s.isVolAdjust = false ∧ s.isWifiError = false
  /-- Requests are taken where the thread runs. -/
  running : s.isLedInitialized = true ↔ s.thread = .waiting ∨ s.thread = .awake
  /-- The display to return to is one of the modes. -/
  ledState : s.isLedInitialized = true → s.ledState.IsMode
  scrolling : s.Scrolls

theorem Sound.of_awake (h : s.Sound) (hawake : s.thread = .awake) : s.isLedInitialized = true :=
  h.running.mpr (.inr hawake)

theorem Sound.of_volAdjust (h : s.Sound) (hvol : s.isVolAdjust = true) :
    s.isLedInitialized = true := by
  by_contra hno
  exact absurd ((h.uninitialized (by simpa using hno)).1.symm.trans hvol) nofun

theorem Sound.of_wifiError (h : s.Sound) (hwifi : s.isWifiError = true) :
    s.isLedInitialized = true := by
  by_contra hno
  exact absurd ((h.uninitialized (by simpa using hno)).2.symm.trans hwifi) nofun

theorem Sound.of_unstarted (h : s.Sound) (hthread : s.thread = .unstarted) :
    s.isLedInitialized = false := by
  by_contra hno
  have hrun := h.running.mp (by simpa using hno)
  simp [hthread] at hrun

theorem sound_new (ledState : State) (scrollLedNum tvVolAdjust tvWifiError : Int) :
    (new ledState scrollLedNum tvVolAdjust tvWifiError).Sound := by
  constructor <;> simp [new, Scrolls]

theorem sound_mainloopStart (h : s.Sound) (initRet : Bool) : (s.mainloopStart initRet).Sound := by
  cases hthread : s.thread with
  | unstarted =>
    obtain ⟨hvol, hwifi⟩ := h.uninitialized (h.of_unstarted hthread)
    cases initRet <;> constructor <;>
      simp [mainloopStart, hthread, Scrolls, State.IsMode, hvol, hwifi]
  | waiting | awake | returned =>
    simpa [mainloopStart, hthread] using h

theorem sound_wake (h : s.Sound) : s.wake.Sound := by
  unfold wake
  split
  · next hwake =>
    have hinit := h.running.mpr (.inl hwake.1)
    exact ⟨h.uninitialized, ⟨fun _ => .inr rfl, fun _ => hinit⟩, h.ledState, h.scrolling⟩
  · exact h

theorem sound_mainloop (h : s.Sound) (now : Int) : (s.mainloop now).Sound := by
  by_cases hawake : s.thread = .awake
  · have hinit := h.of_awake hawake
    have hmode := h.ledState hinit
    have hscrolls : (s.mainloop now).Scrolls := scrolls_mainloop hawake h.scrolling
    rw [mainloop_eq hawake h.scrolling] at hscrolls ⊢
    refine ⟨fun hno => ?_, ⟨fun _ => .inl rfl, fun _ => hinit⟩, fun _ => ?_, hscrolls⟩
    · exact absurd (hinit.symm.trans hno) nofun
    · dsimp only
      split
      · assumption
      · exact hmode
  · rw [mainloop, if_neg hawake]
    exact h

theorem sound_ledOpen (h : s.Sound) (mode : LColor) (val : Int) : (s.ledOpen mode val).Sound := by
  by_cases hinit : s.isLedInitialized = true
  · cases hstate : mode.state? with
    | none => rwa [ledOpen_of_none hstate]
    | some state =>
      obtain ⟨volume, leds, hled, -, hscroll⟩ := ledOpen_of_some hinit hstate val
      rw [hled]
      exact ⟨h.uninitialized, h.running, h.ledState, hscroll⟩
  · rwa [ledOpen_of_not_initialized (by simpa using hinit)]

/-- The end of the display of a volume. -/
theorem endVolAdjust_of_due {now : Int} (opens : Bool)
    (hdue : s.isVolAdjust ∧ now - s.tvVolAdjust ≥ 5) :
    s.endVolAdjust now opens = { s with
      currentState := s.ledState
      isVolAdjust := false
      devInfo := if opens then some s.currentVolume else s.devInfo } := by
  rw [endVolAdjust, if_pos hdue]
  cases opens <;> rfl

theorem endVolAdjust_of_not_due {now : Int} (opens : Bool)
    (hdue : ¬ (s.isVolAdjust ∧ now - s.tvVolAdjust ≥ 5)) : s.endVolAdjust now opens = s := by
  rw [endVolAdjust, if_neg hdue]

/-- The file gets the volume a flag stands for. -/
theorem savePending_eq (opens : Bool) :
    s.savePending opens = { s with
      needSaveVol := false
      devInfo := if s.needSaveVol ∧ opens then some s.currentVolume else s.devInfo } := by
  obtain ⟨init, cur, old, led, vol, oldVol, leds, adj, wifi, save, tv, tw, thread, disp, dev⟩ := s
  cases save <;> cases opens <;> rfl

theorem sound_endVolAdjust (h : s.Sound) (now : Int) (opens : Bool) :
    (s.endVolAdjust now opens).Sound := by
  by_cases hdue : s.isVolAdjust ∧ now - s.tvVolAdjust ≥ 5
  · have hmode := h.ledState (h.of_volAdjust hdue.1)
    rw [endVolAdjust_of_due opens hdue]
    exact ⟨fun hno => ⟨rfl, (h.uninitialized hno).2⟩, h.running, h.ledState,
      fun hcur => absurd hcur hmode.ne_ledScrolling⟩
  · rwa [endVolAdjust_of_not_due opens hdue]

theorem sound_savePending (h : s.Sound) (opens : Bool) : (s.savePending opens).Sound := by
  rw [savePending_eq]
  exact ⟨h.uninitialized, h.running, h.ledState, h.scrolling⟩

theorem sound_endWifiError (h : s.Sound) (now : Int) : (s.endWifiError now).Sound := by
  unfold endWifiError
  split
  · exact ⟨h.uninitialized, h.running, h.ledState, nofun⟩
  · exact h

theorem sound_step (h : s.Sound) (e : Event) : (s.step e).Sound := by
  cases e with
  | start initRet => exact sound_mainloopStart h initRet
  | wake => exact sound_wake h
  | mainloop now => exact sound_mainloop h now
  | ledOpen mode val => exact sound_ledOpen h mode val
  | systemStart nowVol opensVol opensPending nowWifi =>
    exact sound_endWifiError (sound_savePending (sound_endVolAdjust h nowVol opensVol) opensPending)
      nowWifi

end InfoLed

end Led

end Rk3399
