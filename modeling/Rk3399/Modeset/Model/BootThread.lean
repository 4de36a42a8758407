import Mathlib.Logic.Function.Basic
import Rk3399.Common.Word
/-!
# The thread of the boot animation

`bootanimation.cpp` plays the animation in a thread of its own, `vsyncThread`,
which calls `Routine` until `exit_` is set. `vsync_control` switches it, from
the main thread and from the one for hotplug events, and `stop_boot_thread`
ends it. The three share `enabled_` and `exit_` behind `lock_` and `cond_`,
and `vsync_cnt`, which `vsyncThread` does not lock. A step is one access to
what is shared, and the threads take their steps in any order.
-/

namespace Rk3399

namespace Modeset

/-! ## Where the threads stand -/

/-- Where the thread of the animation stands: in the loop of `vsyncThread`, from `lockExit`
to `testExit`, or in `Routine`. -/
inductive VsyncAt where
  | lockExit
  | readExit
  | unlockExit (exit : Bool)
  | testExit (exit : Bool)
  | lockEnabled
  | testEnabled
  | condWait
  | asleep
  | relock
  | readEnabled
  | unlockEnabled (enabled : Bool)
  | returnUnless (enabled : Bool)
  | waitVBlank
  | checkVideo
  | testCnt (win1State : Bool)
  | bootAnimation
  | testFps
  | clearCnt
  | readCnt
  | writeCnt (cnt : Nat)
  | ended
  deriving DecidableEq, Repr

/-- Where a thread stands in `vsync_control`. -/
inductive ControlAt where
  | outside
  | lock (enabled : Bool)
  | setEnabled (enabled : Bool)
  | signal
  | clearCnt
  | unlock
  deriving DecidableEq, Repr

/-- Where the main thread stands in `stop_boot_thread`, past the slots. -/
inductive StopAt where
  | outside
  | lock
  | setExit
  | unlock
  | signal
  | join
  | stopped
  deriving DecidableEq, Repr

/-- The holders of `lock_`. -/
inductive Holder (ι : Type) where
  | vsync
  | control (i : ι)
  | stop
  deriving DecidableEq, Repr

/-- What the threads share, and where each of them stands; `ι` are the threads that call
`vsync_control`. The count is the word of an `int`. -/
structure BootThread (ι : Type) where
  lock_ : Option (Holder ι)
  enabled_ : Bool
  exit_ : Bool
  vsyncCnt : Nat
  thread_ : VsyncAt
  control : ι → ControlAt
  stop : StopAt

def mfps : Nat := 6000

/-- What `start_boot_thread` leaves. -/
def startBootThread (ι : Type) : BootThread ι where
  lock_ := none
  enabled_ := false
  exit_ := false
  vsyncCnt := 0
  thread_ := .lockExit
  control := fun _ => .outside
  stop := .outside

/-! ## Their steps -/

/-- What the system says to a step of the animation: whether the wait for a vblank succeeds,
and whether `drm_check_video` finds a plane of a video. -/
structure Display where
  vblank : Bool
  win1State : Bool
  deriving DecidableEq, Repr

namespace BootThread

variable {ι : Type}

/-- `pthread_mutex_lock` of the animation, which blocks while the lock is held. -/
def vsyncLock (s : BootThread ι) (next : VsyncAt) : BootThread ι :=
  if s.lock_ = none then { s with lock_ := some .vsync, thread_ := next } else s

/-- The next step of `vsyncThread`. -/
def vsync (d : Display) (s : BootThread ι) : BootThread ι :=
  match s.thread_ with
  | .lockExit => s.vsyncLock .readExit
  | .readExit => { s with thread_ := .unlockExit s.exit_ }
  | .unlockExit exit => { s with lock_ := none, thread_ := .testExit exit }
  | .testExit exit => { s with thread_ := if exit then .ended else .lockEnabled }
  | .lockEnabled => s.vsyncLock .testEnabled
  | .testEnabled => { s with thread_ := if !s.enabled_ then .condWait else .readEnabled }
  | .condWait => { s with lock_ := none, thread_ := .asleep }
  | .asleep => s
  | .relock => s.vsyncLock .readEnabled
  | .readEnabled => { s with thread_ := .unlockEnabled s.enabled_ }
  | .unlockEnabled enabled => { s with lock_ := none, thread_ := .returnUnless enabled }
  | .returnUnless enabled => { s with thread_ := if !enabled then .lockExit else .waitVBlank }
  | .waitVBlank => { s with thread_ := if d.vblank then .checkVideo else .lockExit }
  | .checkVideo => { s with thread_ := .testCnt d.win1State }
  | .testCnt win1State =>
    { s with thread_ := if !win1State && s.vsyncCnt == 0 then .bootAnimation else .readCnt }
  | .bootAnimation => { s with thread_ := .testFps }
  | .testFps => { s with thread_ := if s.vsyncCnt == mfps then .clearCnt else .readCnt }
  | .clearCnt => { s with vsyncCnt := 0, thread_ := .readCnt }
  | .readCnt => { s with thread_ := .writeCnt s.vsyncCnt }
  | .writeCnt cnt => { s with vsyncCnt := u32 (cnt + 1), thread_ := .lockExit }
  | .ended => s

/-- `pthread_cond_signal`: a thread that waits goes on to take the lock again. -/
def wake (s : BootThread ι) : BootThread ι :=
  if s.thread_ = .asleep then { s with thread_ := .relock } else s

section control

variable [DecidableEq ι]

/-- A thread goes on in `vsync_control`. -/
def controlAt (s : BootThread ι) (i : ι) (next : ControlAt) : BootThread ι :=
  { s with control := Function.update s.control i next }

/-- The next step of `vsync_control`; after the end of `stop_boot_thread` there is no lock
left to take. -/
def controlStep (i : ι) (s : BootThread ι) : BootThread ι :=
  match s.control i with
  | .outside => s
  | .lock enabled =>
    if s.lock_ = none ∧ s.stop ≠ .stopped then
      { s with lock_ := some (.control i) }.controlAt i (.setEnabled enabled)
    else s
  | .setEnabled enabled => { s with enabled_ := enabled }.controlAt i .signal
  | .signal => s.wake.controlAt i .clearCnt
  | .clearCnt => { s with vsyncCnt := 0 }.controlAt i .unlock
  | .unlock => { s with lock_ := none }.controlAt i .outside

/-- A thread calls `vsync_control`. -/
def call (i : ι) (enabled : Bool) (s : BootThread ι) : BootThread ι :=
  if s.control i = .outside then s.controlAt i (.lock enabled) else s

end control

/-- The next step of `stop_boot_thread`. -/
def stopStep (s : BootThread ι) : BootThread ι :=
  match s.stop with
  | .outside => { s with stop := .lock }
  | .lock => if s.lock_ = none then { s with lock_ := some .stop, stop := .setExit } else s
  | .setExit => { s with exit_ := true, stop := .unlock }
  | .unlock => { s with lock_ := none, stop := .signal }
  | .signal => { s.wake with stop := .join }
  | .join => if s.thread_ = .ended then { s with stop := .stopped } else s
  | .stopped => s

end BootThread

/-- What happens next: a thread takes its step, a thread calls `vsync_control`, or a wait ends
without a signal. -/
inductive BootEvent (ι : Type) where
  | vsync (d : Display)
  | call (i : ι) (enabled : Bool)
  | control (i : ι)
  | stop
  | spurious
  deriving DecidableEq, Repr

/-- One step of the threads. -/
def BootThread.step {ι : Type} [DecidableEq ι] (s : BootThread ι) : BootEvent ι → BootThread ι
  | .vsync d => s.vsync d
  | .call i enabled => s.call i enabled
  | .control i => s.controlStep i
  | .stop => s.stopStep
  | .spurious => s.wake

end Modeset

end Rk3399
