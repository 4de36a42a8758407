import Mathlib.Algebra.Order.Ring.Int
import Mathlib.Tactic.Common
/-!
# The control loop of simple config

`control_handler` of `rtw_simple_config`: the loop that answers discovery
messages on the scan socket and takes requests on the control socket. What
the functions of `libsc` return for a datagram is part of the datagram here,
so a run is a list of iterations.
-/

namespace Rk3399

namespace SimpleConfig

/-! ## Messages -/

/-- The flag of a message, and the values of `ctrl_cmd`. -/
inductive Flag where
  | scan
  | saveProfile
  | delProfile
  | rename
  | successAck
  | other (flag : Int)
  deriving DecidableEq, Repr

/-- The flags of a response, `SC_RSP_*`. -/
inductive Rsp where
  | scan
  | save
  | del
  | rename
  | invalid
  deriving DecidableEq, Repr

/-- A datagram on the control socket: what `rtk_sc_valid_ctrlframe` says of it, its flag,
and the device name it carries. -/
structure CtrlFrame where
  status : Int
  flag : Flag
  deviceName : List UInt8
  deriving DecidableEq, Repr

/-- One iteration of the loop: whether `rtk_sc_send_finishack` asks for another
round, the flag of the datagram on the scan socket and the datagram on the
control socket, where there is one. Neither is there after a timeout. -/
structure Iteration where
  finishack : Bool
  scan : Option Flag
  ctrl : Option CtrlFrame
  deriving DecidableEq, Repr

/-- What an iteration does outside: an answer to a discovery message, a response with its
status byte, or a call of `do_ctrl_cmd`. -/
inductive Action where
  | scanAck (flag : Rsp)
  | response (flag : Rsp) (status : BitVec 8)
  | doCtrlCmd (ctrlCmd : Flag)
  deriving DecidableEq, Repr

/-! ## The loop -/

/-- The variables of `control_handler`, the device name `libsc` stores, and whether the
process has exited. -/
structure Control where
  acceptControl : Bool
  stopComfirm : Bool
  ctrlCmd : Flag
  scConfigSuccess : Bool
  deviceName : List UInt8
  exited : Bool
  deriving DecidableEq, Repr

namespace Control

/-- The variables as the loop starts. -/
def start (deviceName : List UInt8) : Control where
  acceptControl := true
  stopComfirm := false
  ctrlCmd := .scan
  scConfigSuccess := false
  deviceName := deviceName
  exited := false

variable (s : Control)

/-- `ctrlmsg_handler`: take the request of a frame, and say whether it is an
acknowledgement. -/
def ctrlmsgHandler (buf : CtrlFrame) : Bool × Control × List Action :=
  let status := buf.status
  match buf.flag with
  | .saveProfile =>
    if ¬ s.acceptControl then (false, s, [])
    else
      (false, { s with ctrlCmd := .saveProfile, acceptControl := false },
        [.response .save (BitVec.ofInt 8 status)])
  | .delProfile =>
    if ¬ s.acceptControl then (false, s, [])
    else
      (false, { s with acceptControl := false, ctrlCmd := .delProfile },
        [.response .del (BitVec.ofInt 8 status)])
  | .rename =>
    if ¬ s.acceptControl then (false, s, [])
    else
      (false,
        { s with acceptControl := false, ctrlCmd := .rename, deviceName := buf.deviceName },
        [.response .rename (BitVec.ofInt 8 status)])
  | .successAck => (true, s, [])
  | .scan | .other _ => (false, s, [.response .invalid 0])

/-- `do_ctrl_cmd`: deleting the profile ends the process. -/
def doCtrlCmd (ctrlCmd : Flag) : Control × List Action :=
  match ctrlCmd with
  | .delProfile => ({ s with exited := true }, [.doCtrlCmd ctrlCmd])
  | .saveProfile | .rename | .scan | .successAck | .other _ => (s, [.doCtrlCmd ctrlCmd])

/-- The part of an iteration for the scan socket. -/
def scanSocket (scan : Option Flag) : Control × List Action :=
  match scan with
  | none => (s, [])
  | some flag =>
    let s := { s with stopComfirm := true }
    match flag with
    | .successAck => ({ s with ctrlCmd := .scan }, [])
    | .scan => (s, [.scanAck .scan])
    | .saveProfile | .delProfile | .rename | .other _ => (s, [])

/-- The part of an iteration without a datagram on the control socket. -/
def idle : Control × List Action :=
  if s.scConfigSuccess then
    let (s, actions) := s.doCtrlCmd s.ctrlCmd
    if s.exited then (s, actions)
    else ({ s with ctrlCmd := .scan, scConfigSuccess := false, acceptControl := true }, actions)
  else ({ s with acceptControl := true }, [])

/-- The part of an iteration for the control socket. -/
def ctrlSocket (ctrl : Option CtrlFrame) : Control × List Action :=
  match ctrl with
  | some buf =>
    let (success, s, actions) := { s with stopComfirm := true }.ctrlmsgHandler buf
    ({ s with scConfigSuccess := success }, actions)
  | none => s.idle

/-- The iteration goes past `rtk_sc_send_finishack`. -/
def Handles (e : Iteration) : Prop :=
  s.exited = false ∧ ¬ (s.stopComfirm = false ∧ e.finishack = true)

instance (e : Iteration) : Decidable (s.Handles e) := inferInstanceAs (Decidable (_ ∧ _))

/-- One iteration of `control_handler`. -/
def iterate (e : Iteration) : Control × List Action :=
  if s.Handles e then
    let (s, scanActions) := s.scanSocket e.scan
    let (s, actions) := s.ctrlSocket e.ctrl
    (s, scanActions ++ actions)
  else (s, [])

/-- The variables after an iteration. -/
def step (e : Iteration) : Control := (s.iterate e).1

/-- The commands among what an iteration does. `SC_SCAN` is none: `do_ctrl_cmd` does
nothing then. -/
def commands (actions : List Action) : List Flag :=
  actions.filterMap fun action =>
    match action with
    | .doCtrlCmd ctrlCmd => if ctrlCmd = .scan then none else some ctrlCmd
    | .scanAck _ | .response _ _ => none

/-- The commands an iteration executes. -/
def executed (e : Iteration) : List Flag := commands (s.iterate e).2

end Control

end SimpleConfig

end Rk3399
