import Rk3399.SimpleConfig.Helpers.Iterations
import Rk3399.Common.Runs
/-!
# The exchanges of simple config

Whether an acknowledged request is executed, and nothing else. An exchange
starts where a request is accepted, and an acknowledgement on the control
socket ends it, however many iterations later; the request is then due at the
next iteration without a datagram there. The code keeps of all this the last
command and one bit for the last datagram. `executesExactly_iff` says which
runs this is enough for.
-/

namespace Rk3399

namespace SimpleConfig

open Runs

/-- What the control socket asks for: the request that was accepted and waits for its
acknowledgement, and those that are acknowledged and due. Beside them, whether the last
datagram since an iteration without one was an acknowledgement, and whether one came on the
scan socket since the last request was accepted. -/
structure Exchange where
  waiting : Option Flag
  due : List Flag
  lastAck : Bool
  cleared : Bool
  deriving DecidableEq, Repr

namespace Exchange

def empty : Exchange where
  waiting := none
  due := []
  lastAck := false
  cleared := false

variable (x : Exchange)

/-- A datagram on the control socket. A request that is accepted takes the place of one that
was not acknowledged. -/
def receive (s : Control) (scan : Option Flag) (buf : CtrlFrame) : Exchange :=
  let waiting := if s.Accepts buf then some buf.flag else x.waiting
  let ack := buf.flag = .successAck
  { waiting := if ack then none else waiting
    due := if ack then x.due ++ waiting.toList else x.due
    lastAck := ack
    cleared := ¬ s.Accepts buf ∧ (x.cleared = true ∨ scan = some .successAck) }

/-- An iteration without one: what was due is no longer. -/
def idle (scan : Option Flag) : Exchange :=
  { x with due := [], lastAck := false, cleared := x.cleared || scan = some .successAck }

/-- The request that was accepted last, as far as it is not over. -/
def last : Flag := (x.due ++ x.waiting.toList).getLast?.getD .scan

end Exchange

/-- The control loop with its exchange. -/
structure Watched where
  control : Control
  exchange : Exchange
  deriving DecidableEq, Repr

namespace Watched

variable (w : Watched) (e : Iteration)

def start (deviceName : List UInt8) : Watched := ⟨.start deviceName, .empty⟩

def step : Watched where
  control := w.control.step e
  exchange :=
    if w.control.Handles e then
      match e.ctrl with
      | some buf => w.exchange.receive w.control e.scan buf
      | none => w.exchange.idle e.scan
    else w.exchange

/-- **An iteration executes what is due**: without a datagram on the control socket the
requests that were accepted and then acknowledged, each of them once, and else nothing. -/
def ExecutesExactly : Prop :=
  w.control.executed e =
    if w.control.Handles e ∧ e.ctrl = none then w.exchange.due else []

instance : Decidable (w.ExecutesExactly e) := inferInstanceAs (Decidable (_ = _))

/-- What is due is not disturbed: it is one request, the last datagram is its
acknowledgement and none has come on the scan socket since the request. -/
def Undisturbed : Prop :=
  w.control.Handles e → e.ctrl = none → w.exchange.due ≠ [] →
    w.exchange.due.length = 1 ∧ w.exchange.lastAck = true ∧ w.exchange.cleared = false ∧
      e.scan ≠ some .successAck

/-! ## The invariant -/

/-- The variables of the loop, as far as they follow the exchange. -/
structure Follows : Prop where
  lastAck : w.control.scConfigSuccess = w.exchange.lastAck
  request : ∀ c ∈ w.exchange.due ++ w.exchange.waiting.toList, c.IsRequest
  ctrlCmd : w.control.ctrlCmd = if w.exchange.cleared then .scan else w.exchange.last
  ack : w.exchange.lastAck = true → w.exchange.waiting = none

/-- The process has exited, or the loop follows the exchange. -/
def Inv : Prop := w.control.exited = true ∨ w.Follows

variable {w e}

theorem inv_start (deviceName : List UInt8) : (start deviceName).Inv :=
  .inr ⟨rfl, nofun, rfl, nofun⟩

/-- A request that is accepted is the last one. -/
theorem follows_accepted (h : w.Follows) {buf : CtrlFrame} (hhandles : w.control.Handles e)
    (hctrl : e.ctrl = some buf) (haccepts : w.control.Accepts buf) : (w.step e).Follows := by
  have hstep : w.step e = ⟨w.control.step e, w.exchange.receive w.control e.scan buf⟩ := by
    simp [step, hhandles, hctrl]
  have hno : buf.flag ≠ .successAck := by
    intro hack
    have hrequest := haccepts.2
    rw [hack] at hrequest
    exact absurd hrequest (by decide)
  rw [hstep, Control.step_ctrl hhandles hctrl]
  refine ⟨rfl, ?_, ?_, fun hack => absurd (of_decide_eq_true hack) hno⟩
  · intro c hc
    simp only [Exchange.receive, if_neg hno, if_pos haccepts, Option.toList_some, List.mem_append,
      List.mem_singleton] at hc
    rcases hc with hc | rfl
    · exact h.request c (List.mem_append_left _ hc)
    · exact haccepts.2
  · simp [Exchange.receive, Exchange.last, hno, haccepts]

/-- Any other datagram: an acknowledgement ends the wait of a request. -/
theorem follows_other (h : w.Follows) {buf : CtrlFrame} (hhandles : w.control.Handles e)
    (hctrl : e.ctrl = some buf) (hno : ¬ w.control.Accepts buf) : (w.step e).Follows := by
  have hstep : w.step e = ⟨w.control.step e, w.exchange.receive w.control e.scan buf⟩ := by
    simp [step, hhandles, hctrl]
  have hsame : (w.exchange.receive w.control e.scan buf).due ++
      (w.exchange.receive w.control e.scan buf).waiting.toList =
      w.exchange.due ++ w.exchange.waiting.toList := by
    by_cases hack : buf.flag = .successAck
    · simp [Exchange.receive, hno, hack]
    · simp [Exchange.receive, hno, hack]
  rw [hstep, Control.step_ctrl hhandles hctrl]
  refine ⟨rfl, ?_, ?_, fun hack => ?_⟩
  · show ∀ c ∈ _ ++ _, _
    rw [hsame]
    exact h.request
  · have hlast : (w.exchange.receive w.control e.scan buf).last = w.exchange.last := by
      rw [Exchange.last, hsame, Exchange.last]
    show (if w.control.Accepts buf then buf.flag else w.control.command e) = _
    rw [if_neg hno, hlast, Control.command, h.ctrlCmd]
    by_cases hscan : e.scan = some .successAck
    · simp [Exchange.receive, hno, hscan]
    · simp [Exchange.receive, hno, hscan]
  · have hflag : buf.flag = .successAck := of_decide_eq_true hack
    simp [Exchange.receive, hflag]

/-- What is due is over; a request that waits goes on to. -/
theorem inv_idle (h : w.Follows) (hhandles : w.control.Handles e) (hctrl : e.ctrl = none)
    (hundisturbed : w.Undisturbed e) : (w.step e).Inv := by
  have hstep : w.step e = ⟨w.control.step e, w.exchange.idle e.scan⟩ := by
    simp [step, hhandles, hctrl]
  rw [hstep, Control.step_idle hhandles hctrl]
  by_cases hexit : w.control.scConfigSuccess = true ∧ w.control.command e = .delProfile
  · exact .inl (by simp [hexit])
  refine .inr ⟨?_, ?_, ?_, nofun⟩
  · simpa [Exchange.idle] using hexit
  · exact fun c hc => h.request c (List.mem_append_right _ hc)
  · show (if w.control.scConfigSuccess = true ∧ w.control.command e ≠ .delProfile then Flag.scan
      else w.control.command e) = _
    cases hlast : w.exchange.lastAck with
    | true =>
      -- the command was executed, and nothing waits
      have hsuccess := h.lastAck.trans hlast
      rw [if_pos ⟨hsuccess, fun hdel => hexit ⟨hsuccess, hdel⟩⟩]
      simp [Exchange.idle, Exchange.last, h.ack hlast]
    | false =>
      have hsuccess := h.lastAck.trans hlast
      have hnone : w.exchange.due = [] := by
        by_contra hdue
        exact absurd (hlast.symm.trans (hundisturbed hhandles hctrl hdue).2.1) nofun
      have hsame : (w.exchange.idle e.scan).last = w.exchange.last := by
        rw [Exchange.last, Exchange.last, hnone]
        rfl
      have hkept : ¬ (w.control.scConfigSuccess = true ∧ w.control.command e ≠ .delProfile) := by
        simp [hsuccess]
      rw [if_neg hkept, hsame, Control.command, h.ctrlCmd]
      by_cases hscan : e.scan = some .successAck
      · simp [Exchange.idle, hscan]
      · simp [Exchange.idle, hscan]

theorem inv_step (h : w.Inv) (hundisturbed : w.Undisturbed e) : (w.step e).Inv := by
  -- a round that waits for the finish acknowledgement changes neither side
  by_cases hhandles : w.control.Handles e
  · rcases h with hexited | hfollows
    · exact absurd (hhandles.1.symm.trans hexited) nofun
    · cases hctrl : e.ctrl with
      | some buf =>
        by_cases haccepts : w.control.Accepts buf
        · exact .inr (follows_accepted hfollows hhandles hctrl haccepts)
        · exact .inr (follows_other hfollows hhandles hctrl haccepts)
      | none => exact inv_idle hfollows hhandles hctrl hundisturbed
  · have hsame : w.step e = w := by
      simp [step, hhandles, Control.step_of_not_handles hhandles]
    rwa [hsame]

theorem length_le_of_ite {p : Prop} [Decidable p] {c : Flag} {cs : List Flag}
    (h : (if p then [c] else []) = cs) : cs.length ≤ 1 := by
  subst h
  split
  · exact Nat.le_refl 1
  · exact Nat.zero_le 1

/-- What is executed without a datagram is what is due, exactly where it is not disturbed. -/
theorem Follows.executed_idle (h : w.Follows) (hhandles : w.control.Handles e)
    (hctrl : e.ctrl = none) :
    w.control.executed e = w.exchange.due ↔
      (w.exchange.due ≠ [] → w.exchange.due.length = 1 ∧ w.exchange.lastAck = true ∧
        w.exchange.cleared = false ∧ e.scan ≠ some .successAck) := by
  rw [Control.executed_idle hhandles hctrl, h.lastAck, Control.command, h.ctrlCmd]
  -- without a last acknowledgement nothing is executed, whatever is due
  cases hlast : w.exchange.lastAck with
  | false =>
    rw [if_neg fun hno => Bool.false_ne_true hno.1]
    refine ⟨fun hdue hne => absurd hdue.symm hne, fun himp => ?_⟩
    by_contra hne
    exact Bool.false_ne_true (himp fun hdue => hne hdue.symm).2.1
  | true =>
    have hrequest := h.request
    rw [Exchange.last, h.ack hlast]
    cases hdue : w.exchange.due with
    | nil => simp
    | cons c cs =>
      rw [hdue] at hrequest
      have hne : c ≠ .scan := (hrequest c List.mem_cons_self).ne_scan
      cases cs with
      | nil =>
        by_cases hscan : e.scan = some .successAck
        · simp [hscan]
        · cases hcleared : w.exchange.cleared with
          | true => simp [hscan]
          | false => simp [hscan, hne]
      | cons d cs =>
        -- two requests are due, and at most one is executed
        refine ⟨fun hexecuted => ?_, fun himp => ?_⟩
        · have hfew := length_le_of_ite hexecuted
          simp at hfew
        · have hone := (himp (List.cons_ne_nil _ _)).1
          simp at hone

theorem executesExactly_step (h : w.Inv) : w.ExecutesExactly e ↔ w.Undisturbed e := by
  by_cases hhandles : w.control.Handles e
  · rcases h with hexited | hfollows
    · exact absurd (hhandles.1.symm.trans hexited) nofun
    · cases hctrl : e.ctrl with
      | some buf =>
        simp [ExecutesExactly, Undisturbed, hctrl, Control.executed_ctrl hhandles hctrl]
      | none =>
        have hidle := hfollows.executed_idle hhandles hctrl
        simpa [ExecutesExactly, Undisturbed, hctrl, hhandles] using hidle
  · simp [ExecutesExactly, Undisturbed, hhandles, Control.executed_of_not_handles hhandles]

end Watched

/-- **Exactly the acknowledged requests are executed, where none that is due is disturbed.** -/
theorem executesExactly_iff (deviceName : List UInt8) (es : List Iteration) :
    Steps Watched.step Watched.ExecutesExactly (.start deviceName) es ↔
      Steps Watched.step Watched.Undisturbed (.start deviceName) es :=
  steps_iff_steps (fun _ _ h hundisturbed => Watched.inv_step h hundisturbed)
    (fun _ _ h => Watched.executesExactly_step h) es _ (Watched.inv_start deviceName)

/-- **An acknowledged request is lost**: the request comes once more after the
acknowledgement. -/
theorem request_lost :
    ¬ ∀ deviceName es, Steps Watched.step Watched.ExecutesExactly (.start deviceName) es := by
  intro hall
  have hrun := hall [] [
    ⟨false, none, some ⟨0, .saveProfile, []⟩⟩, ⟨false, none, some ⟨0, .successAck, []⟩⟩,
    ⟨false, none, some ⟨0, .saveProfile, []⟩⟩, ⟨false, none, none⟩]
  exact absurd hrun.2.2.2.1 (by decide)

end SimpleConfig

end Rk3399
