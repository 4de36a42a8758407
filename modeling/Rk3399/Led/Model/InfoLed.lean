import Mathlib.Algebra.Order.Ring.Int
import Mathlib.Tactic.Common
/-!
# The LED service

`InfoLed` of `led_control_app`. Three threads share its members: the callers of
`led_open`, `mainloop`, which programs the display, and `led_system_start_t`,
which ends the display of a volume or of a WiFi error after five seconds and
writes the volume to `device_info.txt`. What each does under `led_mutex` is one
event of the model.
-/

namespace Rk3399

namespace Led

/-! ## The members -/

/-- `InfoLed::State`. -/
inductive State where
  | uninitialized
  | off
  | idle
  | systemStart
  | normalMode
  | btMode
  | wifiMode
  | wifiErr
  | vpWakeup
  | vpProcess
  | adjustVolume
  | ledScrolling
  | micMute
  | systemOk
  deriving DecidableEq, Repr

/-- `LED_MULTI_PURE_COLOR_*`. -/
inductive Color where
  | green
  | red
  | blue
  | white
  | black
  | nonGreen
  | nonRed
  | nonBlue
  deriving DecidableEq, Repr

/-- `L_color`, the modes of `led_open`; an `int` that is none of them is `other`. -/
inductive LColor where
  | start
  | off
  | vp
  | vpWakeup
  | normal
  | wifiConnect
  | bluetooth
  | auxiliary
  | volume
  | wifiErr
  | micMute
  | test
  | booted
  | networkStarted
  | javaclientStarted
  | sensoryStarted
  | systemOk
  | other (mode : Int)
  deriving DecidableEq, Repr

/-- What the LED driver was programmed with: the call of `leds_multi_*` and its
arguments. -/
inductive Display where
  | allOn (color : Color)
  | allOff
  | certainOn (idxBitmap : BitVec 32) (color : Color)
  | setScroll (bitmapColor : BitVec 32) (color bgColor : Color) (shift delayMs : Nat)
  | setBreath (breathColor bgColor : Color) (delayMs steps : Nat)
  deriving DecidableEq, Repr

/-- Where the thread of `mainloop` is: it has not run yet, it waits on
`mStateChange`, it has found `m_currentState != m_oldState` and is about to take
`led_mutex`, or it has returned. -/
inductive Thread where
  | unstarted
  | waiting
  | awake
  | returned
  deriving DecidableEq, Repr

/-- The members of `InfoLed`, with the thread of `mainloop`, the display
programmed last and the volume written to `device_info.txt` last. Times are in
seconds. -/
structure InfoLed where
  isLedInitialized : Bool
  currentState : State
  oldState : State
  ledState : State
  currentVolume : Int
  oldVolume : Int
  scrollLedNum : Int
  isVolAdjust : Bool
  isWifiError : Bool
  needSaveVol : Bool
  tvVolAdjust : Int
  tvWifiError : Int
  thread : Thread
  display : Option Display
  devInfo : Option Int
  deriving DecidableEq, Repr

namespace InfoLed

/-- The constructor, with what it leaves in the members it does not set. -/
def new (ledState : State) (scrollLedNum tvVolAdjust tvWifiError : Int) : InfoLed where
  isLedInitialized := false
  currentState := .idle
  oldState := .idle
  ledState := ledState
  currentVolume := 0
  oldVolume := 0
  scrollLedNum := scrollLedNum
  isVolAdjust := false
  isWifiError := false
  needSaveVol := false
  tvVolAdjust := tvVolAdjust
  tvWifiError := tvWifiError
  thread := .unstarted
  display := none
  devInfo := none

variable (s : InfoLed)

def setState (state : State) : InfoLed := { s with currentState := state }

/-- The `leds_multi_*` functions program the driver. -/
def program (display : Display) : InfoLed := { s with display := some display }

/-! ## Callers -/

/-- `led_open`: request a state. -/
def ledOpen (mode : LColor) (val : Int) : InfoLed :=
  if ¬ s.isLedInitialized then s
  else
    match mode with
    | .booted => { s with scrollLedNum := 3 }.setState .ledScrolling
    | .networkStarted => { s with scrollLedNum := 8 }.setState .ledScrolling
    | .javaclientStarted => { s with scrollLedNum := 4 }.setState .ledScrolling
    | .sensoryStarted => { s with scrollLedNum := 6 }.setState .ledScrolling
    | .systemOk => { s with scrollLedNum := 0 }.setState .systemOk
    | .start => s.setState .systemStart
    | .off => s.setState .off
    | .vp => s.setState .vpProcess
    | .vpWakeup => s.setState .vpWakeup
    | .wifiConnect => s.setState .wifiMode
    | .bluetooth => s.setState .btMode
    | .normal => s.setState .normalMode
    | .volume => { s with currentVolume := val }.setState .adjustVolume
    | .wifiErr => s.setState .wifiErr
    | .micMute => s.setState .micMute
    | .test | .auxiliary | .other _ => s

/-! ## The thread of `mainloop` -/

/-- The first part of `mainloop`, up to its loop; `initRet` says whether
`leds_multi_init` succeeded. -/
def mainloopStart (initRet : Bool) : InfoLed :=
  match s.thread with
  | .unstarted =>
    let s := { s with
      oldState := .off, ledState := .normalMode, currentState := .off, scrollLedNum := 3 }
    if initRet then { s with isLedInitialized := true, thread := .waiting }
    else { s with isLedInitialized := false, thread := .returned }
  | .waiting | .awake | .returned => s

/-- `checkState`, on which `mainloop` waits. -/
def checkState : Prop := s.currentState ≠ s.oldState

instance : Decidable s.checkState := inferInstanceAs (Decidable (_ ≠ _))

/-- The wait ends. -/
def wake : InfoLed :=
  if s.thread = .waiting ∧ s.checkState then { s with thread := .awake } else s

/-- `(1 << n) - 1`, where the machine takes the count of the shift modulo 32. -/
def lowBits (n : Int) : BitVec 32 := (1#32 <<< (n % 32).toNat) - 1#32

/-- The part of an iteration of `mainloop` before its `switch`: a state that ends the
display of a volume leaves the volume to be saved, one that ends the display
of a WiFi error clears the error, and LEDs do not scroll once the system is up. -/
def mainloopFlags : InfoLed :=
  let s :=
    if s.currentState ≠ .adjustVolume ∧ s.currentState ≠ .idle ∧ s.currentState ≠ .off ∧
        s.isVolAdjust then
      { s with isVolAdjust := false, needSaveVol := true }
    else s
  let s :=
    if s.currentState ≠ .wifiErr ∧ s.currentState ≠ .idle then { s with isWifiError := false }
    else s
  let s :=
    if s.scrollLedNum = 0 ∧ s.currentState = .ledScrolling then s.setState .idle else s
  { s with oldState := s.currentState }

/-- The `switch` of `mainloop`. -/
def mainloopSwitch (now : Int) : InfoLed :=
  match s.currentState with
  | .ledScrolling =>
    (s.program (.setScroll (lowBits s.scrollLedNum) .white .blue 3 80)).setState .idle
  | .systemOk => (s.program (.allOn .white)).setState .idle
  | .systemStart => (s.program .allOff).setState .idle
  | .wifiMode =>
    ({ s with ledState := .wifiMode }.program (.setScroll 0x1f .nonGreen .black 3 100)).setState
      .idle
  | .btMode =>
    ({ s with ledState := .btMode }.program (.setScroll 0x1f .green .black 3 100)).setState .idle
  | .normalMode => ({ s with ledState := .normalMode }.program .allOff).setState .idle
  | .wifiErr =>
    ({ s with tvWifiError := now, isWifiError := true }.program
      (.setScroll 0x1f .red .black 3 100)).setState .idle
  | .vpWakeup => (s.program (.setBreath .white .black 200 8)).setState .idle
  | .vpProcess => (s.program (.setScroll 0x333 .white .blue 3 50)).setState .idle
  | .adjustVolume =>
    { ({ s with tvVolAdjust := now, isVolAdjust := true }.program
      (.certainOn (lowBits s.currentVolume) .white)).setState .idle with
      oldVolume := s.currentVolume }
  | .micMute => ({ s with ledState := .micMute }.program (.allOn .red)).setState .idle
  | .off => if s.isVolAdjust then s else (s.program .allOff).setState .idle
  | .idle | .uninitialized => s

/-- An iteration of `mainloop` after its wait. -/
def mainloop (now : Int) : InfoLed :=
  if s.thread = .awake then { s.mainloopFlags.mainloopSwitch now with thread := .waiting } else s

/-! ## The thread of `led_system_start_t` -/

/-- Write the volume to `device_info.txt`, where it can be opened. -/
def saveVolume (opens : Bool) : InfoLed :=
  if opens then { s with devInfo := some s.currentVolume } else s

/-- The first part of an iteration of `led_system_start_t`. -/
def endVolAdjust (now : Int) (opens : Bool) : InfoLed :=
  if s.isVolAdjust ∧ now - s.tvVolAdjust ≥ 5 then
    { (s.setState s.ledState).saveVolume opens with isVolAdjust := false }
  else s

/-- The second part. -/
def savePending (opens : Bool) : InfoLed :=
  if s.needSaveVol then { s.saveVolume opens with needSaveVol := false } else s

/-- The third part. -/
def endWifiError (now : Int) : InfoLed :=
  if s.isWifiError ∧ now - s.tvWifiError ≥ 5 then s.setState .off else s

end InfoLed

/-! ## Events -/

/-- What the threads do, each under `led_mutex`. The events of the threads carry the
clock they read and whether the volume file opened. -/
inductive Event where
  | start (initRet : Bool)
  | wake
  | mainloop (now : Int)
  | ledOpen (mode : LColor) (val : Int)
  | systemStart (nowVol : Int) (opensVol opensPending : Bool) (nowWifi : Int)
  deriving DecidableEq, Repr

/-- The members after an event. -/
def InfoLed.step (s : InfoLed) : Event → InfoLed
  | .start initRet => s.mainloopStart initRet
  | .wake => s.wake
  | .mainloop now => s.mainloop now
  | .ledOpen mode val => s.ledOpen mode val
  | .systemStart nowVol opensVol opensPending nowWifi =>
    ((s.endVolAdjust nowVol opensVol).savePending opensPending).endWifiError nowWifi

end Led

end Rk3399
