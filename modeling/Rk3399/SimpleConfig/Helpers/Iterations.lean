import Rk3399.SimpleConfig.Model.Control
/-!
# An iteration of the control loop

What an iteration leaves in the variables, with and without a datagram on
the control socket.
-/

namespace Rk3399

namespace SimpleConfig

/-- The flags of the requests. -/
def Flag.IsRequest (flag : Flag) : Prop :=
  flag = .saveProfile ∨ flag = .delProfile ∨ flag = .rename

instance (flag : Flag) : Decidable flag.IsRequest := inferInstanceAs (Decidable (_ ∨ _))

theorem Flag.IsRequest.ne_scan {flag : Flag} (h : flag.IsRequest) : flag ≠ .scan := by
  rintro rfl
  simp [IsRequest] at h

namespace Control

variable {s : Control} {e : Iteration} {buf : CtrlFrame}

/-- The command after the part of the iteration for the scan socket. -/
def command (s : Control) (e : Iteration) : Flag :=
  if e.scan = some .successAck then .scan else s.ctrlCmd

/-- The datagram is a request that is accepted. -/
def Accepts (s : Control) (buf : CtrlFrame) : Prop := s.acceptControl = true ∧ buf.flag.IsRequest

instance (s : Control) (buf : CtrlFrame) : Decidable (s.Accepts buf) :=
  inferInstanceAs (Decidable (_ ∧ _))

theorem scanSocket_eq (s : Control) (scan : Option Flag) :
    (s.scanSocket scan).1 = { s with
      stopComfirm := s.stopComfirm || scan.isSome
      ctrlCmd := if scan = some .successAck then .scan else s.ctrlCmd } := by
  rcases scan with _ | flag
  · simp [scanSocket]
  · cases flag <;> simp [scanSocket]

/-- **A datagram on the control socket.** -/
theorem step_ctrl (h : s.Handles e) (hctrl : e.ctrl = some buf) :
    s.step e = { s with
      stopComfirm := true
      acceptControl := s.acceptControl && ¬ buf.flag.IsRequest
      ctrlCmd := if s.Accepts buf then buf.flag else s.command e
      scConfigSuccess := buf.flag = .successAck
      deviceName :=
        if s.acceptControl ∧ buf.flag = .rename then buf.deviceName else s.deviceName } := by
  obtain ⟨accept, stop, cmd, success, name, exited⟩ := s
  obtain ⟨status, flag, bufName⟩ := buf
  cases accept <;> cases flag <;>
    simp [step, iterate, h, scanSocket_eq, ctrlSocket, hctrl, ctrlmsgHandler, Accepts,
      Flag.IsRequest, command]

theorem commands_scanSocket (s : Control) (scan : Option Flag) (actions : List Action) :
    commands ((s.scanSocket scan).2 ++ actions) = commands actions := by
  rcases scan with _ | flag
  · rfl
  · cases flag <;> rfl

theorem executed_ctrl (h : s.Handles e) (hctrl : e.ctrl = some buf) : s.executed e = [] := by
  rw [executed, iterate, if_pos h]
  dsimp only
  rw [commands_scanSocket, hctrl, scanSocket_eq]
  obtain ⟨accept, stop, cmd, success, name, exited⟩ := s
  obtain ⟨status, flag, bufName⟩ := buf
  cases accept <;> cases flag <;> rfl

theorem commands_doCtrlCmd (s : Control) (ctrlCmd : Flag) :
    commands (s.doCtrlCmd ctrlCmd).2 = if ctrlCmd ≠ .scan then [ctrlCmd] else [] := by
  cases ctrlCmd <;> rfl

/-- **An iteration without one** executes the command where it is acknowledged. -/
theorem executed_idle (h : s.Handles e) (hctrl : e.ctrl = none) :
    s.executed e =
      if s.scConfigSuccess = true ∧ s.command e ≠ .scan then [s.command e] else [] := by
  rw [executed, iterate, if_pos h]
  dsimp only
  rw [commands_scanSocket, hctrl, scanSocket_eq, ctrlSocket, idle]
  cases hsuccess : s.scConfigSuccess with
  | true =>
    simp only [if_true, true_and]
    rw [apply_ite Prod.snd, ite_self, commands_doCtrlCmd]
    rfl
  | false => simp [commands]

theorem step_idle (h : s.Handles e) (hctrl : e.ctrl = none) :
    s.step e = { s with
      stopComfirm := s.stopComfirm || e.scan.isSome
      acceptControl := s.acceptControl || ¬ (s.scConfigSuccess ∧ s.command e = .delProfile)
      ctrlCmd :=
        if s.scConfigSuccess = true ∧ s.command e ≠ .delProfile then .scan else s.command e
      scConfigSuccess := s.scConfigSuccess && s.command e = .delProfile
      exited := s.scConfigSuccess && s.command e = .delProfile } := by
  have hexited : s.exited = false := h.1
  rw [step, iterate, if_pos h]
  dsimp only
  rw [hctrl, scanSocket_eq, ctrlSocket, idle]
  unfold command
  cases hsuccess : s.scConfigSuccess with
  | true =>
    simp only [if_true]
    cases hcmd : (if e.scan = some Flag.successAck then Flag.scan else s.ctrlCmd) <;>
      simp [doCtrlCmd, hexited]
  | false => simp [hexited]

theorem step_of_not_handles (h : ¬ s.Handles e) : s.step e = s := by
  simp [step, iterate, h]

theorem executed_of_not_handles (h : ¬ s.Handles e) : s.executed e = [] := by
  simp [executed, iterate, h, commands]

end Control

end SimpleConfig

end Rk3399
