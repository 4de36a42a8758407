import Rk3399.Led.Helpers.Members
import Rk3399.Common.Runs
/-!
# Requests of the LED service

Whether a request reaches the display. A request is one variable that
`mainloop` compares with the state it handled last, so a second request for
the state handled last looks like none, whatever volume or number of LEDs it
carries. `notDropped_iff` says that the runs that drop no request are exactly
those in which `led_open` is never met in that situation.
-/

namespace Rk3399

namespace Led

open Runs

/-! ## What was requested -/

/-- A request: its state, the display it asks for, and whether the code may leave it
on purpose. -/
structure Request where
  state : State
  display : Option Display
  excepted : Bool
  deriving DecidableEq, Repr

/-- The service, with the request made last and whether a caller has said that the
system is up. -/
structure Watched where
  led : InfoLed
  latest : Option Request
  systemOk : Bool
  deriving DecidableEq, Repr

namespace Watched

/-- The request of `state`, made where the service was in `before` and is in `after`.
The exceptions are an `OFF` while a volume is shown and LEDs that are to
scroll once the system is up. -/
def request (systemOk : Bool) (before after : InfoLed) (state : State) : Request where
  state := state
  display := state.display after.currentVolume after.scrollLedNum
  excepted := (state = .off ∧ before.isVolAdjust) ∨ (state = .ledScrolling ∧ systemOk)

variable (w : Watched)

/-- What an event requests, if it requests anything. -/
def requested : Event → Option Request
  | .ledOpen mode val =>
    if w.led.isLedInitialized then
      mode.state?.map (request w.systemOk w.led (w.led.ledOpen mode val))
    else none
  | .systemStart nowVol opensVol opensPending nowWifi =>
    let led := (w.led.endVolAdjust nowVol opensVol).savePending opensPending
    if led.isWifiError ∧ nowWifi - led.tvWifiError ≥ 5 then
      some (request w.systemOk led led .off)
    else if w.led.isVolAdjust ∧ nowVol - w.led.tvVolAdjust ≥ 5 then
      some (request w.systemOk w.led w.led w.led.ledState)
    else none
  | .start _ | .wake | .mainloop _ => none

def step (e : Event) : Watched where
  led := w.led.step e
  latest := (w.requested e).or w.latest
  systemOk := w.systemOk ||
    match e with
    | .ledOpen .systemOk _ => w.led.isLedInitialized
    | _ => false

/-- The service as it starts. -/
def new (ledState : State) (scrollLedNum tvVolAdjust tvWifiError : Int) : Watched where
  led := .new ledState scrollLedNum tvVolAdjust tvWifiError
  latest := none
  systemOk := false

/-- `mainloop` is blocked in its wait. -/
def Blocked : Prop := w.led.thread = .waiting ∧ w.led.currentState = w.led.oldState

/-- **The request made last is on the display** where `mainloop` is blocked, but for the
exceptions. -/
def NotDropped : Prop :=
  w.Blocked → ∀ r ∈ w.latest, r.excepted = false → w.led.display = r.display

/-- **A request can be told from none**: `mainloop` has left its wait, the request is not
for the state handled last, or there is nothing to do. -/
def Told (e : Event) : Prop :=
  match e with
  | .ledOpen _ _ =>
    ∀ r ∈ w.requested e,
      w.led.thread = .awake ∨ r.state ≠ w.led.oldState ∨ r.excepted = true ∨
        w.led.display = r.display
  | _ => True

/-! ## The invariant -/

/-- The request made last is on the display, or `mainloop` has it still to handle, or
it is one that may be left. -/
def Pending (r : Request) : Prop :=
  (w.led.currentState = .idle ∧ w.led.display = r.display) ∨
  (w.led.currentState = r.state ∧ r.state.Requestable ∧
    r.display = r.state.display w.led.currentVolume w.led.scrollLedNum ∧
    (w.led.thread = .awake ∨ w.led.currentState ≠ w.led.oldState ∨ r.excepted = true ∨
      w.led.display = r.display))

/-- What holds of the service between two events. -/
structure Inv : Prop where
  sound : w.led.Sound
  /-- Nothing is requested before `mainloop` has started. -/
  uninitialized : w.led.isLedInitialized = false → w.latest = none
  /-- A volume is shown only after the states that let it be. -/
  volAdjust : w.led.isVolAdjust = true →
    w.led.oldState = .adjustVolume ∨ w.led.oldState = .idle ∨ w.led.oldState = .off
  /-- A WiFi error is shown only after the states that let it be. -/
  wifiError : w.led.isWifiError = true →
    w.led.oldState = .wifiErr ∨ w.led.oldState = .idle
  /-- Not both are shown. -/
  notBoth : w.led.isVolAdjust = true → w.led.isWifiError = false
  /-- An `OFF` left where a volume is shown is one that may be. -/
  off : w.led.currentState = .off → w.led.isVolAdjust = true →
    ∃ r ∈ w.latest, r.excepted = true
  /-- The request made last is not lost. -/
  latest : ∀ r ∈ w.latest, w.Pending r

variable {w : Watched}

theorem Inv.not_dropped (h : w.Inv) : w.NotDropped := by
  rintro ⟨hwaiting, hsame⟩ r hr hexcepted
  rcases h.latest r hr with ⟨-, hdisplay⟩ | ⟨-, -, -, hawake | hne | hexc | hdisplay⟩
  · exact hdisplay
  · rw [hwaiting] at hawake
    cases hawake
  · exact absurd hsame hne
  · rw [hexcepted] at hexc
    cases hexc
  · exact hdisplay

/-! ## What an event keeps -/

theorem inv_new (ledState : State) (scrollLedNum tvVolAdjust tvWifiError : Int) :
    (new ledState scrollLedNum tvVolAdjust tvWifiError).Inv where
  sound := InfoLed.sound_new ..
  uninitialized _ := rfl
  volAdjust := nofun
  wifiError := nofun
  notBoth := nofun
  off := nofun
  latest _ hr := by cases hr

theorem inv_start (h : w.Inv) (initRet : Bool) : (w.step (.start initRet)).Inv := by
  cases hthread : w.led.thread with
  | unstarted =>
    have hinit := h.sound.of_unstarted hthread
    obtain ⟨hvol, hwifi⟩ := h.sound.uninitialized hinit
    have hlatest := h.uninitialized hinit
    refine ⟨InfoLed.sound_mainloopStart h.sound initRet, ?_, ?_, ?_, ?_, ?_, ?_⟩ <;>
      cases initRet <;>
        simp [step, InfoLed.step, InfoLed.mainloopStart, requested, hthread, hlatest, hvol, hwifi]
  | waiting | awake | returned =>
    have hsame : w.step (.start initRet) = w := by
      simp [step, InfoLed.step, InfoLed.mainloopStart, requested, hthread]
    rwa [hsame]

theorem inv_wake (h : w.Inv) : (w.step .wake).Inv := by
  by_cases hwake : w.led.thread = .waiting ∧ w.led.checkState
  · have hsound := InfoLed.sound_step h.sound .wake
    have hled : w.led.step .wake = { w.led with thread := .awake } := by
      simp [InfoLed.step, InfoLed.wake, hwake]
    have hstep : w.step .wake = { w with led := { w.led with thread := .awake } } := by
      simp [step, requested, hled]
    rw [hled] at hsound
    rw [hstep]
    refine ⟨hsound, h.uninitialized, h.volAdjust, h.wifiError, h.notBoth, h.off, fun r hr => ?_⟩
    rcases h.latest r hr with hdone | ⟨hcur, hreq, hdisplay, -⟩
    · exact .inl hdone
    · exact .inr ⟨hcur, hreq, hdisplay, .inl rfl⟩
  · have hsame : w.step .wake = w := by
      simp [step, InfoLed.step, InfoLed.wake, requested, hwake]
    rwa [hsame]

theorem inv_mainloop (h : w.Inv) (now : Int) : (w.step (.mainloop now)).Inv := by
  by_cases hawake : w.led.thread = .awake
  · have hinit := h.sound.of_awake hawake
    have hsound := InfoLed.sound_mainloop h.sound now
    have hstep : w.step (.mainloop now) = { w with led := w.led.mainloop now } := by
      simp [step, InfoLed.step, requested]
    rw [hstep]
    rw [InfoLed.mainloop_eq hawake h.sound.scrolling] at hsound ⊢
    refine ⟨hsound, fun hno => ?_, fun hvol => ?_, fun hwifi => ?_, fun hvol => ?_,
      fun hcur hvol => ?_, fun r hr => ?_⟩
    · exact absurd (hinit.symm.trans hno) nofun
    · simp only [Bool.or_eq_true, decide_eq_true_eq, Bool.and_eq_true] at hvol ⊢
      exact hvol.imp_right (·.2)
    · simp only [Bool.or_eq_true, decide_eq_true_eq, Bool.and_eq_true] at hwifi ⊢
      exact hwifi.imp_right (·.2)
    · have hnot := h.notBoth
      grind
    · -- what is left of an `OFF` was left before
      have hleft : w.led.Left := by
        by_contra hno
        simp [hno] at hcur
      simp only [hleft, if_true] at hcur
      simp only [hcur, reduceCtorEq, decide_false, Bool.false_or, or_true, decide_true,
        Bool.and_true] at hvol
      exact h.off hcur hvol
    · rcases h.latest r hr with ⟨hidle, hdisplay⟩ | ⟨hcur, hreq, hdisplay, -⟩
      · have hleft : w.led.Left := .inl hidle
        exact .inl ⟨by simpa [hleft] using hidle, by simpa [hleft] using hdisplay⟩
      · by_cases hleft : w.led.Left
        · -- only an `OFF` that may be left is left
          rcases hleft with hidle | hun | ⟨hoff, hvol⟩
          · exact absurd (hcur.symm.trans hidle) hreq.1
          · exact absurd (hcur.symm.trans hun) hreq.2
          · obtain ⟨r', hr', hexcepted⟩ := h.off hoff hvol
            obtain rfl : r = r' := Option.mem_unique hr hr'
            have hleft : w.led.Left := .inr (.inr ⟨hoff, hvol⟩)
            exact .inr ⟨by simpa [hleft] using hcur, hreq, hdisplay, .inr (.inr (.inl hexcepted))⟩
        · exact .inl ⟨by simp [hleft], by simp [hleft, hcur, hdisplay]⟩
  · have hsame : w.step (.mainloop now) = w := by
      simp [step, InfoLed.step, InfoLed.mainloop, requested, hawake]
    rwa [hsame]

/-- A request that can be told from none is pending. -/
theorem Inv.request (h : w.Inv) {r : Request} {systemOk : Bool} {volume leds : Int}
    {volAdjust : Bool} {devInfo : Option Int} (hinit : w.led.isLedInitialized = true)
    (hvol : volAdjust = true → w.led.isVolAdjust = true) (hreq : r.state.Requestable)
    (hdisplay : r.display = r.state.display volume leds)
    (hscroll : r.state = .ledScrolling → leds ≠ 0)
    (hoff : r.state = .off → volAdjust = true → r.excepted = true)
    (htold : w.led.thread = .awake ∨ r.state ≠ w.led.oldState ∨ r.excepted = true ∨
      w.led.display = r.display) :
    Inv {
      led := { w.led with
        currentState := r.state, currentVolume := volume, scrollLedNum := leds
        isVolAdjust := volAdjust, devInfo := devInfo }
      latest := some r, systemOk := systemOk } where
  sound := ⟨fun hno => absurd (hinit.symm.trans hno) nofun, h.sound.running, h.sound.ledState,
    hscroll⟩
  uninitialized hno := absurd (hinit.symm.trans hno) nofun
  volAdjust hv := h.volAdjust (hvol hv)
  wifiError := h.wifiError
  notBoth hv := h.notBoth (hvol hv)
  off hcur hv := ⟨r, rfl, hoff hcur hv⟩
  latest := by
    rintro r' ⟨⟩
    exact .inr ⟨rfl, hreq, hdisplay, htold⟩

/-- Saving the volume is no matter of the display. -/
theorem Inv.saved (h : w.Inv) (needSaveVol : Bool) (devInfo : Option Int) :
    Inv { w with led := { w.led with needSaveVol := needSaveVol, devInfo := devInfo } } where
  sound := ⟨h.sound.uninitialized, h.sound.running, h.sound.ledState, h.sound.scrolling⟩
  uninitialized := h.uninitialized
  volAdjust := h.volAdjust
  wifiError := h.wifiError
  notBoth := h.notBoth
  off := h.off
  latest := h.latest

theorem inv_ledOpen (h : w.Inv) {mode : LColor} {val : Int} (htold : w.Told (.ledOpen mode val)) :
    (w.step (.ledOpen mode val)).Inv := by
  by_cases hinit : w.led.isLedInitialized = true
  · cases hstate : mode.state? with
    | none =>
      have hled := InfoLed.ledOpen_of_none (s := w.led) hstate val
      have hok : (w.step (.ledOpen mode val)) =
          { w with systemOk := (w.step (.ledOpen mode val)).systemOk } := by
        simp [step, InfoLed.step, requested, hinit, hstate, hled]
      rw [hok]
      exact ⟨h.sound, h.uninitialized, h.volAdjust, h.wifiError, h.notBoth, h.off, h.latest⟩
    | some state =>
      obtain ⟨volume, leds, hled, -, hscroll⟩ := InfoLed.ledOpen_of_some hinit hstate val
      -- the call is a request, with the display it asks for
      obtain ⟨r, hr⟩ : ∃ r, r = request w.systemOk w.led (w.led.ledOpen mode val) state := ⟨_, rfl⟩
      have hrequested : w.requested (.ledOpen mode val) = some r := by
        simp [requested, hinit, hstate, hr]
      have hreq : r.state.Requestable := hr ▸ LColor.requestable hstate
      have hdisplay : r.display = r.state.display volume leds := by
        simp [hr, request, hled]
      have hscroll : r.state = .ledScrolling → leds ≠ 0 := hr ▸ hscroll
      have hoff : r.state = .off → w.led.isVolAdjust = true → r.excepted = true := by
        intro hoff hvol
        rw [hr] at hoff ⊢
        simp_all [request]
      have hstep : w.step (.ledOpen mode val) =
          ⟨w.led.ledOpen mode val, some r, (w.step (.ledOpen mode val)).systemOk⟩ := by
        simp only [step, hrequested, InfoLed.step, Option.some_or]
      have hcur : state = r.state := hr ▸ rfl
      rw [hstep, hled, hcur]
      exact h.request hinit id hreq hdisplay hscroll hoff (htold r hrequested)
  · have hsame : w.step (.ledOpen mode val) = w := by
      have hled := InfoLed.ledOpen_of_not_initialized (by simpa using hinit) mode val
      cases mode <;> simp [step, InfoLed.step, requested, hinit, hled]
    rw [hsame]
    exact h

/-- The end of the display of a volume requests the mode that was shown before. -/
theorem inv_endVolAdjust (h : w.Inv) {now : Int} (opens : Bool)
    (hdue : w.led.isVolAdjust ∧ now - w.led.tvVolAdjust ≥ 5) :
    Inv { w with
      led := w.led.endVolAdjust now opens
      latest := some (request w.systemOk w.led w.led w.led.ledState) } := by
  have hinit := h.sound.of_volAdjust hdue.1
  have hmode := h.sound.ledState hinit
  have hne : w.led.ledState ≠ w.led.oldState := by
    rcases h.volAdjust hdue.1 with hold | hold | hold <;> rw [hold] <;>
      rcases hmode with hmode | hmode | hmode | hmode <;> rw [hmode] <;> nofun
  rw [InfoLed.endVolAdjust_of_due opens hdue]
  exact h.request (r := request w.systemOk w.led w.led w.led.ledState) hinit nofun
    hmode.requestable rfl (fun hled => absurd hled hmode.ne_ledScrolling)
      (fun _ => nofun) (.inr (.inl hne))

theorem inv_savePending (h : w.Inv) (opens : Bool) :
    Inv { w with led := w.led.savePending opens } := by
  rw [InfoLed.savePending_eq]
  exact h.saved false _

/-- The end of the display of a WiFi error requests `OFF`. -/
theorem inv_endWifiError (h : w.Inv) {now : Int}
    (hdue : w.led.isWifiError ∧ now - w.led.tvWifiError ≥ 5) :
    Inv { w with
      led := w.led.endWifiError now
      latest := some (request w.systemOk w.led w.led .off) } := by
  have hinit := h.sound.of_wifiError hdue.1
  have hne : State.off ≠ w.led.oldState := by
    rcases h.wifiError hdue.1 with hold | hold <;> rw [hold] <;> nofun
  have hvol : w.led.isVolAdjust = false := by
    by_contra hno
    have hwifi := h.notBoth (by simpa using hno)
    exact absurd (hwifi.symm.trans hdue.1) nofun
  have hled : w.led.endWifiError now = { w.led with currentState := .off } := by
    rw [InfoLed.endWifiError, if_pos hdue]
    rfl
  rw [hled]
  exact h.request (r := request w.systemOk w.led w.led .off) hinit id ⟨nofun, nofun⟩ rfl nofun
    (fun _ hv => absurd (hvol.symm.trans hv) nofun) (.inr (.inl hne))

theorem inv_systemStart (h : w.Inv) (nowVol : Int) (opensVol opensPending : Bool) (nowWifi : Int) :
    (w.step (.systemStart nowVol opensVol opensPending nowWifi)).Inv := by
  obtain ⟨w', hw', hinv⟩ : ∃ w' : Watched, w' = Watched.mk (w.led.endVolAdjust nowVol opensVol)
      (if w.led.isVolAdjust ∧ nowVol - w.led.tvVolAdjust ≥ 5 then
        some (request w.systemOk w.led w.led w.led.ledState) else w.latest) w.systemOk ∧
      w'.Inv := by
    refine ⟨_, rfl, ?_⟩
    by_cases hdue : w.led.isVolAdjust ∧ nowVol - w.led.tvVolAdjust ≥ 5
    · rw [if_pos hdue]
      exact inv_endVolAdjust h opensVol hdue
    · rw [if_neg hdue, InfoLed.endVolAdjust_of_not_due opensVol hdue]
      exact h
  have hpending := inv_savePending hinv opensPending
  by_cases hdue : (w'.led.savePending opensPending).isWifiError ∧
      nowWifi - (w'.led.savePending opensPending).tvWifiError ≥ 5
  · have hwifi := inv_endWifiError hpending hdue
    subst hw'
    simpa [step, InfoLed.step, requested, hdue] using hwifi
  · have hstep : w.step (.systemStart nowVol opensVol opensPending nowWifi) =
        { w' with led := w'.led.savePending opensPending } := by
      subst hw'
      simp only [step, InfoLed.step, requested, InfoLed.endWifiError, if_neg hdue, Bool.or_false]
      split <;> rfl
    rw [hstep]
    exact hpending

/-- **An allowed event keeps the invariant.** -/
theorem inv_step {e : Event} (h : w.Inv) (htold : w.Told e) : (w.step e).Inv := by
  cases e with
  | start initRet => exact inv_start h initRet
  | wake => exact inv_wake h
  | mainloop now => exact inv_mainloop h now
  | ledOpen mode val => exact inv_ledOpen h htold
  | systemStart nowVol opensVol opensPending nowWifi =>
    exact inv_systemStart h nowVol opensVol opensPending nowWifi

/-- A request that cannot be told from none is dropped at once. -/
theorem dropped_of_not_told {e : Event} (h : w.Inv) (hno : ¬ w.Told e) :
    ¬ (w.step e).NotDropped := by
  cases e with
  | start | wake | mainloop | systemStart => exact absurd trivial hno
  | ledOpen mode val =>
    intro hkept
    refine hno fun r hr => ?_
    obtain ⟨hinit, state, hstate, hreq⟩ : w.led.isLedInitialized = true ∧ ∃ state,
        mode.state? = some state ∧ r = request w.systemOk w.led (w.led.ledOpen mode val) state := by
      simp only [requested] at hr
      split at hr
      · obtain ⟨state, hstate, hr⟩ := Option.map_eq_some_iff.mp hr
        exact ⟨‹_›, state, hstate, hr.symm⟩
      · cases hr
    obtain ⟨volume, leds, hled, -⟩ := InfoLed.ledOpen_of_some hinit hstate val
    rcases h.sound.running.mp hinit with hwaiting | hawake
    · by_cases hold : r.state = w.led.oldState
      · -- `mainloop` goes on waiting
        have hlatest : r ∈ (w.step (.ledOpen mode val)).latest := by
          rw [Option.mem_def] at hr
          simp [step, hr]
        have hblocked : (w.step (.ledOpen mode val)).Blocked := by
          have hcur : state = w.led.oldState := by
            rw [← hold, hreq]
            rfl
          simp [Blocked, step, InfoLed.step, hled, hwaiting, hcur]
        cases hexcepted : r.excepted with
        | true => exact .inr (.inr (.inl rfl))
        | false =>
          have hdisplay := hkept hblocked r hlatest hexcepted
          simp only [step, InfoLed.step, hled] at hdisplay
          exact .inr (.inr (.inr hdisplay))
      · exact .inr (.inl hold)
    · exact .inl hawake

end Watched

/-- **No LED request is dropped, exactly where every request can be told from none.** -/
theorem notDropped_iff (ledState : State) (scrollLedNum tvVolAdjust tvWifiError : Int)
    (es : List Event) :
    Always Watched.step Watched.NotDropped
        (.new ledState scrollLedNum tvVolAdjust tvWifiError) es ↔
      Steps Watched.step Watched.Told (.new ledState scrollLedNum tvVolAdjust tvWifiError) es :=
  always_iff_steps (D := fun _ => True) (fun _ _ _ => Watched.inv_step)
    (fun _ => Watched.Inv.not_dropped) (fun _ _ _ => Watched.dropped_of_not_told) es
    (fun _ _ => trivial) _ (Watched.inv_new ..)

/-- **A request is dropped**: a second volume comes before `mainloop` has seen that the
first one is done. -/
theorem request_dropped :
    ¬ ∀ ledState scrollLedNum tvVolAdjust tvWifiError es,
      Always Watched.step Watched.NotDropped
        (.new ledState scrollLedNum tvVolAdjust tvWifiError) es := by
  intro hall
  have hrun := hall .uninitialized 0 0 0
    [.start true, .ledOpen .volume 5, .wake, .mainloop 0, .ledOpen .volume 7]
  have hlast := hrun.2.2.2.2.2
  exact absurd (hlast ⟨by decide, by decide⟩ _ rfl (by decide)) (by decide)

end Led

end Rk3399
