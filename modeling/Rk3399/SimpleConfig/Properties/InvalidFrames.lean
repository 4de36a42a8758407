import Rk3399.SimpleConfig.Helpers.Iterations
import Rk3399.Common.Runs
import Mathlib.Data.List.Forall2
/-!
# Invalid frames of simple config

Whether a frame that fails validation can change anything but the response
to it. The loop only passes the status on, so a frame that fails validation
is taken as any other. `invalidInert_iff` says in which runs the invalid
frames can be exchanged for others without a trace.
-/

namespace Rk3399

namespace SimpleConfig

open Runs

/-- What is seen of an iteration: the commands it executes, the values of
`accept_control` and `ctrl_cmd` where it is one without a control datagram,
the device name that is stored then, and the answers it sends, but for the
response to a datagram that fails validation. -/
structure View where
  executed : List Flag
  tick : Option (Bool × Flag)
  deviceName : List UInt8
  answers : List Action
  deriving DecidableEq, Repr

section inert

variable (Failure : Int → Prop)

/-- The iteration takes a control datagram for which `rtk_sc_valid_ctrlframe` reports
failure. -/
def Iteration.Invalid (e : Iteration) : Prop := ∃ buf ∈ e.ctrl, Failure buf.status

open Classical in
/-- An action of the iteration is an answer that is seen. -/
noncomputable def Iteration.shows (e : Iteration) : Action → Bool
  | .scanAck _ => true
  | .response _ _ => ¬ e.Invalid Failure
  | .doCtrlCmd _ => false

namespace Control

/-- The answers of an iteration that are seen. -/
noncomputable def answers (s : Control) (e : Iteration) : List Action :=
  (s.iterate e).2.filter (e.shows Failure)

/-- The view of an iteration. -/
noncomputable def view (s : Control) (e : Iteration) : View where
  executed := s.executed e
  tick := if s.Handles e ∧ e.ctrl = none then some (s.acceptControl, s.command e) else none
  deviceName := (s.step e).deviceName
  answers := s.answers Failure e

variable {Failure} {s : Control} {e e' : Iteration}

/-! ## The answers -/

theorem answers_of_not_handles (h : ¬ s.Handles e) : s.answers Failure e = [] := by
  rw [answers, iterate, if_neg h]
  rfl

/-- The answers to discovery messages do not look at the variables. -/
theorem scanSocket_actions (s t : Control) (scan : Option Flag) :
    (s.scanSocket scan).2 = (t.scanSocket scan).2 := by
  rcases scan with _ | flag
  · rfl
  · cases flag <;> rfl

theorem filter_scanSocket (scan : Option Flag) :
    (s.scanSocket scan).2.filter (e.shows Failure) = (s.scanSocket scan).2 := by
  rcases scan with _ | flag
  · rfl
  · cases flag <;> rfl

theorem filter_idle : s.idle.2.filter (e.shows Failure) = [] := by
  have hcmd : ∀ t : Control, ∀ flag, (t.doCtrlCmd flag).2.filter (e.shows Failure) = [] := by
    intro t flag
    cases flag <;> rfl
  rw [idle]
  cases s.scConfigSuccess with
  | true =>
    simp only [if_true]
    rw [apply_ite Prod.snd, ite_self]
    exact hcmd _ _
  | false => rfl

/-- A handled iteration answers on the two sockets. -/
theorem answers_of_handles (h : s.Handles e) : s.answers Failure e =
    (s.scanSocket e.scan).2 ++
      (((s.scanSocket e.scan).1.ctrlSocket e.ctrl).2.filter (e.shows Failure)) := by
  rw [answers, iterate, if_pos h]
  dsimp only
  rw [List.filter_append, filter_scanSocket]

/-- **The response to an invalid datagram** is not seen. -/
theorem answers_invalid (h : s.Handles e) (hinvalid : e.Invalid Failure) :
    s.answers Failure e = (s.scanSocket e.scan).2 := by
  obtain ⟨buf, hctrl, -⟩ := id hinvalid
  have hresponses : ∀ t : Control, (t.ctrlSocket e.ctrl).2.filter (e.shows Failure) = [] := by
    intro t
    have hhides : ∀ flag status, e.shows Failure (.response flag status) = false := fun _ _ => by
      simp [Iteration.shows, hinvalid]
    obtain ⟨accept, stop, cmd, success, name, exited⟩ := t
    obtain ⟨status, flag, bufName⟩ := buf
    rw [Option.mem_def.mp hctrl]
    cases accept <;> cases flag <;> simp [ctrlSocket, ctrlmsgHandler, hhides]
  rw [answers_of_handles h, hresponses, List.append_nil]

/-- The answers do not look at whether the last control datagram was an acknowledgement. -/
theorem answers_success (success : Bool) :
    Control.answers Failure { s with scConfigSuccess := success } e = s.answers Failure e := by
  by_cases h : s.Handles e
  · have h' : Control.Handles { s with scConfigSuccess := success } e := h
    rw [answers_of_handles h, answers_of_handles h', scanSocket_actions _ s e.scan]
    congr 1
    cases hctrl : e.ctrl with
    | none =>
      change List.filter _ (Control.idle _).2 = List.filter _ (Control.idle _).2
      rw [filter_idle, filter_idle]
    | some buf =>
      rw [scanSocket_eq, scanSocket_eq]
      obtain ⟨accept, stop, cmd, success', name, exited⟩ := s
      obtain ⟨status, flag, bufName⟩ := buf
      cases accept <;> cases flag <;> rfl
  · have h' : ¬ Control.Handles { s with scConfigSuccess := success } e := h
    rw [answers_of_not_handles h, answers_of_not_handles h']

end Control

/-! ## Runs that differ in invalid frames -/

/-- The iterations differ in such a datagram at most. -/
def SameButInvalid (e e' : Iteration) : Prop :=
  e' = e ∨ (e'.finishack = e.finishack ∧ e'.scan = e.scan ∧ e.Invalid Failure ∧ e'.Invalid Failure)

/-- **The invalid frames of a run change nothing**: every run that differs from it in
invalid frames only looks the same. -/
def InvalidInert (s : Control) (es : List Iteration) : Prop :=
  ∀ es', List.Forall₂ (SameButInvalid Failure) es es' →
    trace Control.step (Control.view Failure) s es' =
      trace Control.step (Control.view Failure) s es

/-- The control loop, with whether the last control datagram since the last iteration
without one was invalid. -/
structure Marked where
  control : Control
  lastInvalid : Prop

namespace Marked

/-- An iteration of the loop. -/
def step (w : Marked) (e : Iteration) : Marked where
  control := w.control.step e
  lastInvalid := if w.control.Handles e then e.Invalid Failure else w.lastInvalid

/-- **An invalid frame is not noticed**: it does not come where a request is taken, and where
it was the last one of an exchange, no command is left to execute. -/
def Unnoticed (w : Marked) (e : Iteration) : Prop :=
  w.control.Handles e →
    (e.Invalid Failure → w.control.acceptControl = false) ∧
    (e.ctrl = none → w.lastInvalid → w.control.ctrlCmd = .scan ∨ e.scan = some .successAck)

/-! ## Variants of a state -/

/-- The states a run can have where another one, with other invalid frames, has `w`: they
differ in the bit for the last datagram at most, and only where that was invalid. -/
def Variant (w : Marked) (s : Control) : Prop :=
  ∃ success, s = { w.control with scConfigSuccess := success } ∧
    (w.lastInvalid ∨ success = w.control.scConfigSuccess)

variable {Failure} {w : Marked} {s : Control} {e e' : Iteration}

theorem variant_self (w : Marked) : w.Variant w.control := ⟨_, rfl, .inr rfl⟩

theorem Variant.handles (h : w.Variant s) (hfin : e'.finishack = e.finishack) :
    s.Handles e' ↔ w.control.Handles e := by
  obtain ⟨success, rfl, -⟩ := h
  simp [Control.Handles, hfin]

/-- **A datagram that is the same** leads to the same state: the bit is set anew. -/
theorem Variant.step_same (h : w.Variant s) (hhandles : w.control.Handles e)
    (hsome : e.ctrl ≠ none) : s.step e = w.control.step e := by
  obtain ⟨buf, hctrl⟩ := Option.ne_none_iff_exists'.mp hsome
  rw [Control.step_ctrl ((h.handles rfl).mpr hhandles) hctrl, Control.step_ctrl hhandles hctrl]
  obtain ⟨success, rfl, -⟩ := h
  rfl

/-- **An invalid datagram** only sets the bit, where no request is taken. -/
theorem step_invalid {buf : CtrlFrame} (hhandles : s.Handles e) (hctrl : e.ctrl = some buf)
    (haccept : s.acceptControl = false) :
    s.step e = { s with
      stopComfirm := true
      ctrlCmd := s.command e
      scConfigSuccess := buf.flag = .successAck } := by
  rw [Control.step_ctrl hhandles hctrl]
  simp [Control.Accepts, haccept]

/-- **An iteration without a datagram** leads to the same state where nothing is left to
execute. -/
theorem Variant.step_idle (h : w.Variant s) (hhandles : w.control.Handles e)
    (hctrl : e.ctrl = none)
    (hnone : w.lastInvalid → w.control.command e = .scan) :
    s.step e = w.control.step e ∧ s.executed e = w.control.executed e := by
  have hs := (h.handles rfl).mpr hhandles
  rw [Control.step_idle hs hctrl, Control.step_idle hhandles hctrl, Control.executed_idle hs hctrl,
    Control.executed_idle hhandles hctrl]
  obtain ⟨success, rfl, hinvalid | rfl⟩ := h
  · have hcmd := hnone hinvalid
    have hcmd' : Control.command { w.control with scConfigSuccess := success } e = .scan := hcmd
    simp [hcmd, hcmd']
  · exact ⟨rfl, rfl⟩

theorem view_of_not_handles (h : ¬ s.Handles e) :
    s.view Failure e = ⟨[], none, s.deviceName, []⟩ := by
  simp [Control.view, h, Control.executed_of_not_handles h, Control.step_of_not_handles h,
    Control.answers_of_not_handles h]

/-- **The answers of two runs** are the same. -/
theorem Variant.answers (h : w.Variant s) (hsame : SameButInvalid Failure e e') :
    s.answers Failure e' = w.control.answers Failure e := by
  rcases hsame with rfl | ⟨hfin, hscan, hinvalid, hinvalid'⟩
  · obtain ⟨success, rfl, -⟩ := h
    exact Control.answers_success success
  · by_cases hhandles : w.control.Handles e
    · have hs := (h.handles hfin).mpr hhandles
      rw [Control.answers_invalid hs hinvalid', Control.answers_invalid hhandles hinvalid, hscan]
      exact Control.scanSocket_actions s w.control e.scan
    · have hs : ¬ s.Handles e' := fun hs => hhandles ((h.handles hfin).mp hs)
      rw [Control.answers_of_not_handles hs, Control.answers_of_not_handles hhandles]

/-- **The same iteration** in two runs, where no command is left to execute behind an invalid
frame. -/
theorem Variant.view_same (h : w.Variant s) (hhandles : w.control.Handles e)
    (hleft : e.ctrl = none → w.lastInvalid →
      w.control.ctrlCmd = .scan ∨ e.scan = some .successAck) :
    s.view Failure e = w.control.view Failure e ∧ s.step e = w.control.step e := by
  have hs := (h.handles rfl).mpr hhandles
  have hanswers : s.answers Failure e = w.control.answers Failure e := h.answers (.inl rfl)
  cases hctrl : e.ctrl with
  | some buf =>
    have hstep := h.step_same hhandles (by simp [hctrl])
    refine ⟨?_, hstep⟩
    simp [Control.view, hctrl, Control.executed_ctrl hs hctrl, Control.executed_ctrl hhandles hctrl,
      hstep, hanswers]
  | none =>
    have hcmd : w.lastInvalid → w.control.command e = .scan := by
      intro hinvalid
      rcases hleft hctrl hinvalid with hcmd | hscan
      · simp [Control.command, hcmd]
      · simp [Control.command, hscan]
    obtain ⟨hstep, hexecuted⟩ := h.step_idle hhandles hctrl hcmd
    have htick : s.acceptControl = w.control.acceptControl ∧
        s.command e = w.control.command e := by
      obtain ⟨success, rfl, -⟩ := h
      exact ⟨rfl, rfl⟩
    refine ⟨?_, hstep⟩
    simp [Control.view, hctrl, hs, hhandles, hstep, hexecuted, htick, hanswers]

/-- **Two invalid frames** where no request is taken: the runs now differ in what the frame
acknowledges. -/
theorem Variant.view_invalid (h : w.Variant s) (hhandles : w.control.Handles e)
    (hsame : SameButInvalid Failure e e') (hscan : e'.scan = e.scan)
    (hinvalid : e.Invalid Failure) (hinvalid' : e'.Invalid Failure) (hs : s.Handles e')
    (haccept : w.control.acceptControl = false) :
    s.view Failure e' = w.control.view Failure e ∧
      (w.step Failure e).Variant (s.step e') := by
  have hanswers := h.answers hsame
  obtain ⟨buf, hctrl, -⟩ := id hinvalid
  obtain ⟨buf', hctrl', -⟩ := id hinvalid'
  have hother : s.step e' = { w.control.step e with
      scConfigSuccess := buf'.flag = .successAck } := by
    obtain ⟨success, rfl, -⟩ := h
    rw [step_invalid hhandles hctrl haccept, step_invalid hs hctrl' haccept]
    simp [Control.command, hscan]
  refine ⟨?_, decide (buf'.flag = .successAck), hother, .inl ?_⟩
  · have hno : e.ctrl ≠ none := by simp [Option.mem_def.mp hctrl]
    have hno' : e'.ctrl ≠ none := by simp [Option.mem_def.mp hctrl']
    simp [Control.view, hno, hno', Control.executed_ctrl hs hctrl',
      Control.executed_ctrl hhandles hctrl, hother, hanswers]
  · simp [Marked.step, hhandles, hinvalid]

/-- **One step of two runs.** Where invalid frames are not noticed, both look the same and
remain variants. -/
theorem Variant.step (h : w.Variant s) (hunnoticed : w.Unnoticed Failure e)
    (hsame : SameButInvalid Failure e e') :
    s.view Failure e' = w.control.view Failure e ∧
      (w.step Failure e).Variant (s.step e') := by
  have hfin : e'.finishack = e.finishack := by
    rcases hsame with rfl | ⟨hfin, -⟩
    · rfl
    · exact hfin
  by_cases hhandles : w.control.Handles e
  · have hs := (h.handles hfin).mpr hhandles
    obtain ⟨haccept, hleft⟩ := hunnoticed hhandles
    rcases id hsame with rfl | ⟨-, hscan, hinvalid, hinvalid'⟩
    · obtain ⟨hview, hstep⟩ := h.view_same hhandles hleft
      rw [hstep]
      exact ⟨hview, variant_self (w.step Failure e')⟩
    · exact h.view_invalid hhandles hsame hscan hinvalid hinvalid' hs (haccept hinvalid)
  · -- an iteration that is not handled changes and shows nothing
    have hs : ¬ s.Handles e' := fun hs => hhandles ((h.handles hfin).mp hs)
    have hname : s.deviceName = w.control.deviceName := by
      obtain ⟨success, rfl, -⟩ := h
      rfl
    refine ⟨?_, ?_⟩
    · rw [view_of_not_handles hs, view_of_not_handles hhandles, hname]
    · rw [Control.step_of_not_handles hs]
      simpa [Marked.step, hhandles, Control.step_of_not_handles hhandles] using h

/-- **Two runs**: invalid frames that are not noticed change nothing. -/
theorem Variant.trace (es : List Iteration) : ∀ (w : Marked) (s : Control), w.Variant s →
    Steps (Marked.step Failure) (Marked.Unnoticed Failure) w es →
    ∀ es', List.Forall₂ (SameButInvalid Failure) es es' →
      trace Control.step (Control.view Failure) s es' =
        trace Control.step (Control.view Failure) w.control es := by
  induction es with
  | nil =>
    rintro w s - - es' hsame
    cases hsame
    rfl
  | cons e es ih =>
    rintro w s hvariant ⟨hunnoticed, hsteps⟩ es' hsame
    cases hsame with
    | cons hhead htail =>
      obtain ⟨hview, hnext⟩ := hvariant.step hunnoticed hhead
      exact congrArg₂ List.cons hview (ih _ _ hnext hsteps _ htail)

/-! ## Invalid frames that are noticed -/

/-- Every run that is like `w` and `es` up to invalid frames looks like it. -/
def Inert (Failure : Int → Prop) (w : Marked) (es : List Iteration) : Prop :=
  ∀ s, w.Variant s → ∀ es', List.Forall₂ (SameButInvalid Failure) es es' →
    Runs.trace Control.step (Control.view Failure) s es' =
      Runs.trace Control.step (Control.view Failure) w.control es

theorem same_self (es : List Iteration) : List.Forall₂ (SameButInvalid Failure) es es :=
  List.forall₂_same.mpr fun _ _ => .inl rfl

/-- **An invalid frame where a request is taken** can rename the device. -/
theorem Inert.not_accepts {es : List Iteration} (h : w.Inert Failure (e :: es))
    (hhandles : w.control.Handles e) (hinvalid : e.Invalid Failure) :
    w.control.acceptControl = false := by
  by_contra hno
  have haccept : w.control.acceptControl = true := by simpa using hno
  obtain ⟨buf, hctrl, hfailure⟩ := id hinvalid
  obtain ⟨name, hname⟩ : ∃ name, name ≠ (w.control.step e).deviceName :=
    ⟨0 :: (w.control.step e).deviceName, List.cons_ne_self _ _⟩
  let other : Iteration := { e with ctrl := some ⟨buf.status, .rename, name⟩ }
  have hsame : SameButInvalid Failure e other :=
    .inr ⟨rfl, rfl, hinvalid, ⟨buf.status, .rename, name⟩, rfl, hfailure⟩
  have htrace := h w.control w.variant_self (other :: es) (.cons hsame (same_self es))
  have hview := (List.cons.inj htrace).1
  have hrenamed : (w.control.step other).deviceName = name := by
    rw [Control.step_ctrl (e := other) hhandles rfl]
    simp [haccept]
  refine hname ?_
  calc name = (w.control.view Failure other).deviceName := hrenamed.symm
    _ = (w.control.view Failure e).deviceName := congrArg View.deviceName hview

/-- **An invalid frame at the end of an exchange** can acknowledge what is left over. -/
theorem Inert.nothing_left {es : List Iteration} (h : w.Inert Failure (e :: es))
    (hhandles : w.control.Handles e) (hctrl : e.ctrl = none) (hinvalid : w.lastInvalid) :
    w.control.ctrlCmd = .scan ∨ e.scan = some .successAck := by
  have hexecuted : ∀ success,
      Control.executed { w.control with scConfigSuccess := success } e = w.control.executed e := by
    intro success
    have htrace := h _ ⟨success, rfl, .inl hinvalid⟩ (e :: es) (same_self _)
    exact congrArg View.executed (List.cons.inj htrace).1
  have hidle : ∀ success,
      Control.executed { w.control with scConfigSuccess := success } e =
        if success = true ∧ w.control.command e ≠ .scan then [w.control.command e] else [] :=
    fun success =>
      Control.executed_idle (s := { w.control with scConfigSuccess := success }) hhandles hctrl
  have hcmd : w.control.command e = .scan := by
    by_contra hne
    have hboth := (hexecuted true).trans (hexecuted false).symm
    simp [hidle, hne] at hboth
  by_cases hscan : e.scan = some .successAck
  · exact .inr hscan
  · exact .inl (by simpa [Control.command, hscan] using hcmd)

/-- Every variant after a step comes from one before it. -/
theorem Inert.tail {es : List Iteration} (h : w.Inert Failure (e :: es))
    (haccept : w.control.Handles e → e.Invalid Failure → w.control.acceptControl = false) :
    (w.step Failure e).Inert Failure es := by
  intro s' hvariant es' hsame
  obtain ⟨s, e', hs, he, rfl⟩ : ∃ s e', w.Variant s ∧ SameButInvalid Failure e e' ∧
      s.step e' = s' := by
    by_cases hhandles : w.control.Handles e
    · by_cases hinvalid : e.Invalid Failure
      · -- the flag of the frame before it is the one the variant has
        obtain ⟨buf, hctrl, hfailure⟩ := id hinvalid
        obtain ⟨success, rfl, -⟩ := hvariant
        let flag : Flag := if success then .successAck else .other 0
        let other : Iteration := { e with ctrl := some ⟨buf.status, flag, []⟩ }
        refine ⟨w.control, other, w.variant_self,
          .inr ⟨rfl, rfl, hinvalid, ⟨buf.status, flag, []⟩, rfl, hfailure⟩, ?_⟩
        have hflag : decide (flag = .successAck) = success := by
          cases success <;> rfl
        rw [step_invalid (e := other) hhandles rfl (haccept hhandles hinvalid), Marked.step,
          step_invalid hhandles hctrl (haccept hhandles hinvalid)]
        simp [hflag, Control.command, other]
      · refine ⟨w.control, e, w.variant_self, .inl rfl, ?_⟩
        obtain ⟨success, rfl, hlast | rfl⟩ := hvariant
        · simp [Marked.step, hhandles, hinvalid] at hlast
        · rfl
    · have hsame : w.step Failure e = w := by
        simp [Marked.step, hhandles, Control.step_of_not_handles hhandles]
      rw [hsame] at hvariant
      exact ⟨s', e, hvariant, .inl rfl,
        Control.step_of_not_handles fun hs => hhandles ((hvariant.handles rfl).mp hs)⟩
  have htrace := h s hs (e' :: es') (.cons he hsame)
  exact (List.cons.inj htrace).2

theorem Inert.steps (es : List Iteration) : ∀ w : Marked, w.Inert Failure es →
    Steps (Marked.step Failure) (Marked.Unnoticed Failure) w es := by
  induction es with
  | nil => exact fun _ _ => trivial
  | cons e es ih =>
    intro w h
    have haccept : w.control.Handles e → e.Invalid Failure → w.control.acceptControl = false :=
      h.not_accepts
    exact ⟨fun hhandles => ⟨haccept hhandles, h.nothing_left hhandles⟩, ih _ (h.tail haccept)⟩

end Marked

end inert

/-- **Invalid frames change nothing, exactly where they are not noticed**, whatever statuses
report failure. -/
theorem invalidInert_iff (Failure : Int → Prop) (deviceName : List UInt8) (es : List Iteration) :
    InvalidInert Failure (.start deviceName) es ↔
      Steps (Marked.step Failure) (Marked.Unnoticed Failure) ⟨.start deviceName, False⟩ es := by
  have hinert : InvalidInert Failure (.start deviceName) es ↔
      Marked.Inert Failure ⟨.start deviceName, False⟩ es := by
    refine ⟨fun h s hs es' => ?_, fun h => h _ (Marked.variant_self _)⟩
    obtain ⟨success, rfl, hno | rfl⟩ := hs
    · exact hno.elim
    · exact h es'
  rw [hinert]
  exact ⟨Marked.Inert.steps es _, fun h s hs => Marked.Variant.trace es _ s hs h⟩

/-- **An invalid frame is noticed**: a request that fails validation is executed. -/
theorem invalid_noticed :
    ¬ ∀ (Failure : Int → Prop) deviceName es, InvalidInert Failure (.start deviceName) es := by
  intro hall
  have hinvalid : ∀ flag, (Iteration.mk false none (some ⟨1, flag, []⟩)).Invalid (· ≠ 0) :=
    fun flag => ⟨⟨1, flag, []⟩, rfl, nofun⟩
  have hrun := hall (· ≠ 0) []
    [⟨false, none, some ⟨1, .saveProfile, []⟩⟩, ⟨false, none, some ⟨0, .successAck, []⟩⟩,
      ⟨false, none, none⟩]
    [⟨false, none, some ⟨1, .other 9, []⟩⟩, ⟨false, none, some ⟨0, .successAck, []⟩⟩,
      ⟨false, none, none⟩]
    (.cons (.inr ⟨rfl, rfl, hinvalid _, hinvalid _⟩) (.cons (.inl rfl) (.cons (.inl rfl) .nil)))
  exact absurd (congrArg (List.map View.executed) hrun) (by decide)

end SimpleConfig

end Rk3399
