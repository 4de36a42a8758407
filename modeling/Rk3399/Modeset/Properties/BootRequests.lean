import Rk3399.Modeset.Helpers.BootSteps
/-!
# The requests for the boot animation

A call of `vsync_control` leads to at most one animation, whether it enables
it or disables it, and to none where it comes while a frame is counted: the
count is cleared behind the lock, but tested and written in front of it.
-/

namespace Rk3399

namespace Modeset

open Runs

variable {ι : Type}

/-! ## After it is disabled -/

/-- A step at which an animation starts. -/
def starts [DecidableEq ι] (s : BootThread ι) (e : BootEvent ι) : Nat :=
  if s.thread_ ≠ .bootAnimation ∧ (s.step e).thread_ = .bootAnimation then 1 else 0

/-- The animation is disabled, and nobody is in `vsync_control`. -/
structure Disabled (s : BootThread ι) : Prop where
  disabled : s.enabled_ = false
  outside : ∀ i, s.control i = .outside

/-- Nobody calls `vsync_control`. -/
def BootEvent.Quiet : BootEvent ι → Prop
  | .call _ _ => False
  | _ => True

/-- The animation has read `enabled_` as set, and comes to its test of the count. -/
def VsyncAt.Committed : VsyncAt → Prop
  | .unlockEnabled true | .returnUnless true | .waitVBlank | .checkVideo | .testCnt _ => True
  | _ => False

/-- The animation is past its test of the count, and counts the frame next. -/
def VsyncAt.Counting : VsyncAt → Prop
  | .testCnt true | .bootAnimation | .testFps | .clearCnt | .readCnt | .writeCnt _ => True
  | _ => False

instance : DecidablePred VsyncAt.Committed := fun place => by
  unfold VsyncAt.Committed
  split <;> infer_instance

instance : DecidablePred VsyncAt.Counting := fun place => by
  unfold VsyncAt.Counting
  split <;> infer_instance

/-- A request waits for its animation: the count is zero, and will be when it is tested. -/
def BootThread.Armed (s : BootThread ι) : Prop := s.vsyncCnt = 0 ∧ ¬ s.thread_.Counting

instance (s : BootThread ι) : Decidable s.Armed := inferInstanceAs (Decidable (_ ∧ _))

/-- The animation plays on whatever `enabled_` becomes. -/
def BootThread.Due (s : BootThread ι) : Prop := s.Armed ∧ s.thread_.Committed

instance (s : BootThread ι) : Decidable s.Due := inferInstanceAs (Decidable (_ ∧ _))

/-- The requests that wait. -/
def BootThread.armed (s : BootThread ι) : Nat := if s.Armed then 1 else 0

/-- The animations that are still to come. -/
def BootThread.due (s : BootThread ι) : Nat := if s.Due then 1 else 0

/-- A step that leaves the animation where it is. -/
theorem starts_of_same [DecidableEq ι] {s : BootThread ι} {e : BootEvent ι}
    (h : (s.step e).thread_ = s.thread_) : starts s e = 0 := by
  unfold starts
  rw [h]
  exact if_neg fun hboth => hboth.1 hboth.2

/-- They start none. -/
theorem starts_of_other [DecidableEq ι] {s : BootThread ι} {e : BootEvent ι} (he : ¬ e.IsVsync) :
    starts s e = 0 := by
  obtain heq | ⟨-, hnext⟩ := woken_of_other (s := s) he
  · exact starts_of_same heq
  · unfold starts
    rw [hnext]
    exact if_neg fun hboth => absurd hboth.2 nofun

/-- What the others leave of a request, but for the count. -/
theorem armed_of_woken {s t : BootThread ι} (h : Woken s t) (hcnt : t.vsyncCnt = s.vsyncCnt) :
    (t.Armed ↔ s.Armed) ∧ (t.thread_.Committed ↔ s.thread_.Committed) := by
  unfold BootThread.Armed
  obtain heq | ⟨hat, hnext⟩ := h
  · rw [hcnt, heq]
    exact ⟨Iff.rfl, Iff.rfl⟩
  · rw [hcnt, hat, hnext]
    exact ⟨Iff.rfl, Iff.rfl⟩

/-- The animation counts a frame. -/
theorem vsync_of_writeCnt {s : BootThread ι} {cnt : Nat} (h : s.thread_ = .writeCnt cnt)
    (d : Display) : s.vsync d = { s with vsyncCnt := u32 (cnt + 1), thread_ := .lockExit } := by
  unfold BootThread.vsync
  rw [h]

/-- Otherwise it leaves the count alone, or clears it past its test. -/
theorem vsync_cnt {s : BootThread ι} (h : ∀ cnt, s.thread_ ≠ .writeCnt cnt) (d : Display) :
    (s.vsync d).vsyncCnt = s.vsyncCnt ∨
      ((s.vsync d).thread_ = .readCnt ∧ (s.vsync d).vsyncCnt = 0) := by
  have hlock : ∀ next, (s.vsyncLock next).vsyncCnt = s.vsyncCnt := by
    intro next
    unfold BootThread.vsyncLock
    split <;> rfl
  unfold BootThread.vsync
  cases hat : s.thread_ with
  | clearCnt => exact Or.inr ⟨rfl, rfl⟩
  | writeCnt cnt => exact absurd hat (h cnt)
  | lockExit => exact Or.inl (hlock _)
  | lockEnabled => exact Or.inl (hlock _)
  | relock => exact Or.inl (hlock _)
  | _ => exact Or.inl rfl

/-- The count of the animation does not overflow with its next step. -/
def NoOverflow (s : BootThread ι) : Prop := ∀ cnt, s.thread_ = .writeCnt cnt → cnt + 1 < 2 ^ 31

/-- After counting a frame no request waits. -/
theorem not_armed_of_writeCnt {s : BootThread ι} (h : NoOverflow s) {cnt : Nat}
    (hat : s.thread_ = .writeCnt cnt) (d : Display) : ¬ (s.vsync d).Armed := by
  have hlt : cnt + 1 < 2 ^ 31 := h cnt hat
  rw [vsync_of_writeCnt hat]
  rintro ⟨hcnt, -⟩
  have hzero : u32 (cnt + 1) = 0 := hcnt
  rw [u32_of_lt (by omega)] at hzero
  omega

/-- **What is left of a request that waits**: it waited before, and its animation has not
started. -/
theorem armed_of_vsync {s : BootThread ι} (hne : ∀ cnt, s.thread_ ≠ .writeCnt cnt) {d : Display}
    (harmed : (s.vsync d).Armed) : s.Armed ∧ (s.vsync d).thread_ ≠ .bootAnimation := by
  obtain ⟨hcnt, hnot⟩ := harmed
  refine ⟨⟨?_, ?_⟩, ?_⟩
  · obtain hsame | ⟨hread, -⟩ := vsync_cnt hne d
    · exact hsame.symm.trans hcnt
    · exact absurd (by rw [hread]; trivial) hnot
  · obtain ⟨heq, -⟩ | hgoes := vsync_cases s d
    · rw [heq] at hnot
      exact hnot
    · generalize (s.vsync d).thread_ = next at hgoes hnot
      generalize s.thread_ = place at hgoes hne
      cases hgoes with
      | writeCnt cnt => exact absurd rfl (hne cnt)
      | played | again | clearCnt | readCnt | notAgain | skips => exact absurd trivial hnot
      | _ => nofun
  · intro heq
    rw [heq] at hnot
    exact hnot trivial

/-- An animation starts on a request that waits, and the thread is past its test then. -/
theorem armed_of_starts {s : BootThread ι} {d : Display} (hat : s.thread_ ≠ .bootAnimation)
    (hnext : (s.vsync d).thread_ = .bootAnimation) : s.Due := by
  obtain ⟨heq, -⟩ | hgoes := vsync_cases s d
  · rw [heq] at hnext
    exact absurd hnext hat
  · rw [hnext] at hgoes
    generalize hplace : s.thread_ = place at hgoes
    cases hgoes with
    | plays hcnt =>
      refine ⟨⟨hcnt, ?_⟩, ?_⟩
      · rw [hplace]
        nofun
      · rw [hplace]
        trivial

/-- No animation starts with it. -/
theorem not_starts_of_writeCnt [DecidableEq ι] {s : BootThread ι} {cnt : Nat}
    (hat : s.thread_ = .writeCnt cnt) (d : Display) : starts s (.vsync d) = 0 := by
  refine if_neg fun hboth => ?_
  have hnext : (s.vsync d).thread_ = .bootAnimation := hboth.2
  rw [vsync_of_writeCnt hat] at hnext
  exact absurd hnext nofun

/-- **One animation for what waits**: where an animation starts it was waited for, and what
waits after a step waited before it. -/
theorem starts_add [DecidableEq ι] {s : BootThread ι} {d : Display} {P : BootThread ι → Prop}
    [DecidablePred P] (hP : ∀ {t : BootThread ι}, P t → t.Armed) (hdue : s.Due → P s)
    (hne : ∀ cnt, s.thread_ ≠ .writeCnt cnt) (hback : P (s.vsync d) → P s) :
    starts s (.vsync d) + (if P (s.vsync d) then 1 else 0) ≤ if P s then 1 else 0 := by
  unfold starts
  by_cases hstarts : s.thread_ ≠ .bootAnimation ∧ (s.step (.vsync d)).thread_ = .bootAnimation
  · have hspent : ¬ P (s.vsync d) := fun hleft => (armed_of_vsync hne (hP hleft)).2 hstarts.2
    have hdue' : P s := hdue (armed_of_starts hstarts.1 hstarts.2)
    exact Nat.le_of_eq (by rw [if_pos hstarts, if_pos hdue', if_neg hspent])
  · rw [if_neg hstarts]
    by_cases hleft : P (s.vsync d)
    · exact Nat.le_of_eq (by rw [if_pos hleft, if_pos (hback hleft)])
    · rw [if_neg hleft]
      omega

/-- **The animation's step plays an animation only on a request that waits.** -/
theorem starts_add_armed [DecidableEq ι] {s : BootThread ι} (h : NoOverflow s) (d : Display) :
    starts s (.vsync d) + (s.vsync d).armed ≤ s.armed := by
  by_cases hat : ∃ cnt, s.thread_ = .writeCnt cnt
  · obtain ⟨cnt, hat⟩ := hat
    rw [not_starts_of_writeCnt hat, BootThread.armed, if_neg (not_armed_of_writeCnt h hat d)]
    omega
  · have hne : ∀ cnt, s.thread_ ≠ .writeCnt cnt := fun cnt heq => hat ⟨cnt, heq⟩
    exact starts_add (P := BootThread.Armed) id (fun hdue => hdue.1) hne
      fun hleft => (armed_of_vsync hne hleft).1

/-! ### Where it is disabled -/

/-- What there is to come was to come before. -/
theorem due_of_vsync {s : BootThread ι} (hdis : s.enabled_ = false)
    (hne : ∀ cnt, s.thread_ ≠ .writeCnt cnt) {d : Display} (hdue : (s.vsync d).Due) : s.Due := by
  obtain ⟨harmed, hcommitted⟩ := hdue
  refine ⟨(armed_of_vsync hne harmed).1, ?_⟩
  have hnot := harmed.2
  obtain ⟨heq, -⟩ | hgoes := vsync_cases s d
  · rw [heq] at hcommitted
    exact hcommitted
  · generalize (s.vsync d).thread_ = next at hgoes hnot hcommitted
    generalize s.thread_ = place at hgoes
    cases hgoes with
    | readEnabled =>
      rw [hdis] at hcommitted
      exact hcommitted.elim
    | unlockEnabled enabled =>
      cases enabled with
      | false => exact hcommitted.elim
      | true => trivial
    | goesOn | vblank | checkVideo => trivial
    | _ => exact hcommitted.elim

/-- Nobody calls: the rest goes on, and leaves the count alone. -/
theorem Disabled.other [DecidableEq ι] {s : BootThread ι} (h : Disabled s) {e : BootEvent ι}
    (he : e.Quiet) (hvsync : ¬ e.IsVsync) :
    Disabled (s.step e) ∧ (s.step e).vsyncCnt = s.vsyncCnt := by
  have hwake : Disabled s.wake ∧ s.wake.vsyncCnt = s.vsyncCnt := by
    unfold BootThread.wake
    split <;> exact ⟨⟨h.disabled, h.outside⟩, rfl⟩
  cases e with
  | vsync d => exact absurd ⟨d, rfl⟩ hvsync
  | call i enabled => exact he.elim
  | control i =>
    have hstay : s.step (.control i) = s := by
      show s.controlStep i = s
      unfold BootThread.controlStep
      rw [h.outside i]
    rw [hstay]
    exact ⟨h, rfl⟩
  | stop =>
    show Disabled s.stopStep ∧ s.stopStep.vsyncCnt = s.vsyncCnt
    unfold BootThread.stopStep
    split
    · exact ⟨⟨h.disabled, h.outside⟩, rfl⟩
    · split <;> exact ⟨⟨h.disabled, h.outside⟩, rfl⟩
    · exact ⟨⟨h.disabled, h.outside⟩, rfl⟩
    · exact ⟨⟨h.disabled, h.outside⟩, rfl⟩
    · exact ⟨⟨hwake.1.disabled, hwake.1.outside⟩, hwake.2⟩
    · split <;> exact ⟨⟨h.disabled, h.outside⟩, rfl⟩
    · exact ⟨h, rfl⟩
  | spurious => exact hwake

theorem Disabled.step [DecidableEq ι] {s : BootThread ι} (h : Disabled s) {e : BootEvent ι}
    (he : e.Quiet) : Disabled (s.step e) := by
  by_cases hvsync : e.IsVsync
  · obtain ⟨d, rfl⟩ := hvsync
    obtain ⟨hcontrol, -, henabled, -⟩ := vsync_frame s d
    refine ⟨henabled.trans h.disabled, fun i => ?_⟩
    show (s.vsync d).control i = .outside
    rw [hcontrol]
    exact h.outside i
  · exact (h.other he hvsync).1

/-- **A step plays an animation only on what there is to come.** -/
theorem starts_add_due [DecidableEq ι] {s : BootThread ι} (h : Disabled s) {e : BootEvent ι}
    (he : e.Quiet) : starts s e + (s.step e).due ≤ s.due := by
  by_cases hvsync : e.IsVsync
  · obtain ⟨d, rfl⟩ := hvsync
    by_cases hat : ∃ cnt, s.thread_ = .writeCnt cnt
    · obtain ⟨cnt, hat⟩ := hat
      have hnot : ¬ (s.step (.vsync d)).Due := by
        rintro ⟨-, hcommitted⟩
        rw [show s.step (.vsync d) = _ from vsync_of_writeCnt hat d] at hcommitted
        exact hcommitted
      rw [not_starts_of_writeCnt hat, BootThread.due, if_neg hnot]
      omega
    · have hne : ∀ cnt, s.thread_ ≠ .writeCnt cnt := fun cnt heq => hat ⟨cnt, heq⟩
      exact starts_add (P := BootThread.Due) (fun hdue => hdue.1) id hne
        (due_of_vsync h.disabled hne)
  · obtain ⟨harmed, hcommitted⟩ := armed_of_woken (woken_of_other hvsync) (h.other he hvsync).2
    rw [starts_of_other hvsync, Nat.zero_add]
    exact Nat.le_of_eq (if_congr (and_congr harmed hcommitted) rfl rfl)

/-- At most one animation starts while nobody calls. -/
theorem starts_le_due [DecidableEq ι] {s : BootThread ι} (h : Disabled s) (es : List (BootEvent ι))
    (hquiet : ∀ e ∈ es, e.Quiet) : total BootThread.step starts s es ≤ s.due := by
  have hle : total BootThread.step starts s es + (es.foldl BootThread.step s).due ≤
      total BootThread.step (fun _ _ => 0) s es + s.due :=
    total_le_of_credit (I := Disabled) (C := fun _ e => BootEvent.Quiet e)
      (fun _ _ he hs => hs.step he)
      (fun _ _ he hs => Nat.le_trans (starts_add_due hs he) (Nat.le_of_eq (Nat.zero_add _).symm))
      es s h (steps_of_forall es hquiet s)
  rw [total_zero] at hle
  omega

/-! ### What becomes of a request -/

/-- A display with a vblank and without a video. -/
def Display.free : Display := ⟨true, false⟩

/-- How many steps it is to the start of an animation. -/
def VsyncAt.toStart : VsyncAt → Nat
  | .testCnt false => 1
  | .checkVideo => 2
  | .waitVBlank => 3
  | .returnUnless true => 4
  | .unlockEnabled true => 5
  | .readEnabled => 6
  | .relock | .testEnabled => 7
  | .lockEnabled => 8
  | .testExit false => 9
  | .unlockExit false => 10
  | .readExit => 11
  | .lockExit => 12
  | .returnUnless false => 13
  | .unlockEnabled false => 14
  | _ => 0

/-- The animation is enabled, and nothing else goes on. -/
structure Enabled (s : BootThread ι) : Prop where
  enabled : s.enabled_ = true
  outside : ∀ i, s.control i = .outside
  stop : s.stop = .outside

/-- And the rest is as every step keeps it. -/
structure Ready (s : BootThread ι) : Prop extends Enabled s where
  sound : Sound s

theorem Ready.vsync {s : BootThread ι} (h : Ready s) (d : Display) : Ready (s.vsync d) := by
  obtain ⟨hcontrol, hstop, henabled, -⟩ := vsync_frame s d
  exact
    { enabled := henabled.trans h.enabled
      outside := fun i => by rw [hcontrol]; exact h.outside i
      stop := hstop.trans h.stop
      sound := h.sound.vsync d }

/-- It does not wait where a request waits for it. -/
theorem not_stays {s : BootThread ι} (hon : s.thread_.Committed ∨ Ready s) : ¬ s.Stays := by
  intro hstays
  have hen : ¬ s.thread_.Committed → Ready s := hon.resolve_left
  have hfree : ¬ s.thread_.Committed → ¬ s.thread_.Inside → s.lock_ = none := fun hno =>
    (hen hno).sound.free (hen hno).outside (by rw [(hen hno).stop]; nofun)
  unfold BootThread.Stays at hstays
  split at hstays
  · rename_i hat
    exact absurd (hfree (by rw [hat]; nofun) (by rw [hat]; nofun)) hstays
  · rename_i hat
    exact absurd (hfree (by rw [hat]; nofun) (by rw [hat]; nofun)) hstays
  · rename_i hat
    exact absurd (hfree (by rw [hat]; nofun) (by rw [hat]; nofun)) hstays
  · rename_i hat
    have henabled := hen (by rw [hat]; nofun)
    obtain ⟨i, hi⟩ := henabled.sound.sleeps hat henabled.enabled
    exact absurd hi (by rw [henabled.outside i]; decide)
  · rename_i hat
    have henabled := hen (by rw [hat]; nofun)
    have hasked := henabled.sound.asked.mp (henabled.sound.leaves (by rw [hat]; trivial))
    rw [henabled.stop] at hasked
    exact hasked
  · exact hstays

/-- **The next place on the way to an animation.** -/
theorem Goes.nearer_start {s : BootThread ι} {place next : VsyncAt}
    (hgoes : Goes s .free place next) (hcnt : s.vsyncCnt = 0) (hnot : ¬ place.Counting)
    (hexit : place.Leaving → place.Committed) (hread : s.exit_ = true → place.Committed)
    (hwait : place = .condWait → place.Committed)
    (hon : ¬ place.Committed → s.enabled_ = true) :
    (place ≠ .bootAnimation ∧ next = .bootAnimation) ∨
      (¬ next.Counting ∧ (place.Committed → next.Committed) ∧ next.toStart < place.toStart) := by
  -- the places of a thread that is disabled or asked to end are excluded
  cases hgoes with
  | plays => exact Or.inl ⟨nofun, rfl⟩
  | readExit =>
    have hno : s.exit_ = false := by
      by_contra hyes
      exact hread (by simpa using hyes)
    rw [hno]
    exact Or.inr ⟨nofun, nofun, by decide⟩
  | unlockExit exit =>
    cases exit with
    | false => exact Or.inr ⟨nofun, nofun, by decide⟩
    | true => exact absurd (hexit trivial) nofun
  | ends => exact absurd (hexit trivial) nofun
  | waits hdis => exact absurd hdis (by rw [hon nofun]; decide)
  | condWait => exact absurd (hwait rfl) nofun
  | readEnabled =>
    rw [hon nofun]
    exact Or.inr ⟨nofun, nofun, by decide⟩
  | unlockEnabled enabled =>
    cases enabled with
    | false => exact Or.inr ⟨nofun, nofun, by decide⟩
    | true => exact Or.inr ⟨nofun, fun _ => trivial, by decide⟩
  | returns => exact Or.inr ⟨nofun, nofun, by decide⟩
  | noVBlank h => exact absurd h (by decide)
  | goesOn | vblank | checkVideo => exact Or.inr ⟨nofun, fun _ => trivial, by decide⟩
  | skips win1State h =>
    cases win1State with
    | false => exact absurd (h.resolve_left nofun) (fun hne => hne hcnt)
    | true => exact absurd trivial hnot
  | played | again | notAgain | clearCnt | readCnt | writeCnt => exact absurd trivial hnot
  | _ => exact Or.inr ⟨nofun, nofun, by decide⟩

/-- **The animation comes nearer to its start**, or starts. -/
theorem nearer_start [DecidableEq ι] {s : BootThread ι} (harmed : s.Armed)
    (hon : s.thread_.Committed ∨ Ready s) :
    starts s (.vsync .free) = 1 ∨
      (s.vsync .free).Armed ∧ ((s.vsync .free).thread_.Committed ∨ Ready (s.vsync .free)) ∧
        (s.vsync .free).thread_.toStart < s.thread_.toStart := by
  obtain ⟨heq, hstays⟩ | hgoes := vsync_cases s .free
  · exact absurd hstays (not_stays hon)
  have hne : ∀ cnt, s.thread_ ≠ .writeCnt cnt := by
    intro cnt heq
    exact harmed.2 (by rw [heq]; trivial)
  have hunasked : Ready s → s.exit_ = true → False := by
    intro hen hexit
    have hasked := hen.sound.asked.mp hexit
    rw [hen.stop] at hasked
    exact hasked
  have hnext := hgoes.nearer_start harmed.1 harmed.2
    (fun hleave => hon.resolve_right fun hen => hunasked hen (hen.sound.leaves hleave))
    (fun hexit => hon.resolve_right fun hen => hunasked hen hexit)
    (fun hwait => hon.resolve_right fun hen =>
      absurd (hen.sound.waits hwait) (by rw [hen.enabled]; decide))
    (fun hno => (hon.resolve_left hno).enabled)
  obtain hstart | ⟨hgo, hcommitted, hlt⟩ := hnext
  · exact Or.inl (if_pos hstart)
  · refine Or.inr ⟨⟨?_, hgo⟩, hon.imp hcommitted fun hen => hen.vsync _, hlt⟩
    obtain hsame | ⟨hread, -⟩ := vsync_cnt hne .free
    · exact hsame.trans harmed.1
    · rw [hread] at hgo
      exact absurd trivial hgo

/-- **A request that waits has its animation.** -/
theorem plays_of_armed [DecidableEq ι] (n : Nat) : ∀ {s : BootThread ι}, s.Armed →
    (s.thread_.Committed ∨ Ready s) → s.thread_.toStart ≤ n →
      0 < total BootThread.step starts s (List.replicate (n + 1) (.vsync .free)) := by
  induction n with
  | zero =>
    intro s harmed hon hle
    show 0 < starts s (.vsync .free) + 0
    obtain hstart | ⟨-, -, hlt⟩ := nearer_start harmed hon
    · omega
    · omega
  | succ n ih =>
    intro s harmed hon hle
    show 0 < starts s (.vsync .free) +
      total BootThread.step starts (s.vsync .free) (List.replicate (n + 1) (.vsync .free))
    obtain hstart | ⟨hnext, hon', hlt⟩ := nearer_start harmed hon
    · omega
    · have := ih hnext hon' (by omega)
      omega

theorem toStart_le (place : VsyncAt) : place.toStart ≤ 14 := by
  unfold VsyncAt.toStart
  split <;> omega

/-- **What a request that disables the animation leaves of it**: at most one animation starts
before the next request, and one can where the animation has read `enabled_`, its test of the
count is still to come, and the count is zero. -/
theorem playsOn_iff_due [DecidableEq ι] {s : BootThread ι} (h : Disabled s) :
    (∀ es, (∀ e ∈ es, BootEvent.Quiet e) → total BootThread.step starts s es ≤ 1) ∧
      ((∃ es, (∀ e ∈ es, BootEvent.Quiet e) ∧ total BootThread.step starts s es = 1) ↔ s.Due) := by
  have hone : s.due ≤ 1 := by
    unfold BootThread.due
    split <;> omega
  refine ⟨fun es hquiet => Nat.le_trans (starts_le_due h es hquiet) hone, ?_, ?_⟩
  · rintro ⟨es, hquiet, hplays⟩
    have hle := starts_le_due h es hquiet
    by_contra hno
    rw [BootThread.due, if_neg hno] at hle
    omega
  · intro hdue
    have hquiet : ∀ e ∈ List.replicate 15 (.vsync .free : BootEvent ι), e.Quiet := by
      intro e he
      rw [List.eq_of_mem_replicate he]
      trivial
    refine ⟨_, hquiet, ?_⟩
    have hle := starts_le_due h _ hquiet
    have hpos : 0 < total BootThread.step starts s (List.replicate 15 (.vsync .free)) :=
      plays_of_armed 14 hdue.1 (Or.inl hdue.2) (toStart_le _)
    omega

/-! ### One animation for a request -/

/-- A request comes to its `vsync_cnt = 0`. -/
def clears (s : BootThread ι) : BootEvent ι → Nat
  | .control i => if s.control i = .clearCnt then 1 else 0
  | _ => 0

/-- A request has set `enabled_`, and has not cleared the count yet. -/
def BootThread.Pending (s : BootThread ι) : Prop :=
  ∃ i, s.control i = .signal ∨ s.control i = .clearCnt

/-- The animation has not seen a request yet: `enabled_` is only set while the request that
sets it is inside the lock. -/
structure Fresh (s : BootThread ι) : Prop where
  enabled : s.enabled_ = true → s.Pending
  unseen : ¬ s.thread_.Committed ∧ ¬ s.thread_.Counting

theorem fresh_start : Fresh (startBootThread ι) := ⟨nofun, nofun, nofun⟩

open Classical in
/-- The animations owed to the requests so far. -/
noncomputable def BootThread.owed (s : BootThread ι) : Nat := if Fresh s then 0 else s.armed

theorem owed_le_armed (s : BootThread ι) : s.owed ≤ s.armed := by
  unfold BootThread.owed
  split <;> omega

theorem owed_of_fresh {s : BootThread ι} (h : Fresh s) : s.owed = 0 := if_pos h

/-- The animation's step does not see a request before its time. -/
theorem Fresh.vsync {s : BootThread ι} (h : Fresh s) (hsound : Sound s) (d : Display) :
    Fresh (s.vsync d) := by
  obtain ⟨hcontrol, -, henabled, -⟩ := vsync_frame s d
  refine ⟨by unfold BootThread.Pending; rw [hcontrol, henabled]; exact h.enabled, ?_⟩
  have hunseen := h.unseen
  obtain ⟨heq, -⟩ | hgoes := vsync_cases s d
  · rw [heq]
    exact hunseen
  · have hread : s.thread_ = .readEnabled → s.enabled_ = false := by
      intro hat
      by_contra hen
      obtain ⟨i, hi⟩ := h.enabled (by simpa using hen)
      have hin : s.Inside (.control i) := by
        show (s.control i).Inside
        obtain hi | hi := hi <;> (rw [hi]; trivial)
      refine absurd (show s.Inside .vsync from ?_) (hsound.holds.not_inside hin nofun)
      show s.thread_.Inside
      rw [hat]
      trivial
    generalize (s.vsync d).thread_ = next at hgoes
    generalize s.thread_ = place at hgoes hunseen hread
    cases hgoes with
    | readEnabled =>
      rw [hread rfl]
      exact ⟨nofun, nofun⟩
    | unlockEnabled enabled =>
      cases enabled with
      | false => exact ⟨nofun, nofun⟩
      | true => exact absurd trivial hunseen.1
    | goesOn | vblank | checkVideo | plays | noVBlank => exact absurd trivial hunseen.1
    | skips win1State => exact absurd trivial hunseen.1
    | played | again | notAgain | clearCnt | readCnt | writeCnt => exact absurd trivial hunseen.2
    | _ => exact ⟨nofun, nofun⟩

/-- Waking it shows it none. -/
theorem Fresh.woken {s t : BootThread ι} (h : Fresh s) (hwoken : Woken s t)
    (hen : t.enabled_ = true → t.Pending) : Fresh t := by
  refine ⟨hen, ?_⟩
  obtain heq | ⟨-, hnext⟩ := hwoken
  · rw [heq]
    exact h.unseen
  · rw [hnext]
    exact ⟨nofun, nofun⟩

/-- A thread elsewhere in `vsync_control` leaves a request pending. -/
theorem Pending.controlAt [DecidableEq ι] {s : BootThread ι} {i : ι} {next : ControlAt}
    (h : s.Pending) (hsignal : s.control i ≠ .signal) (hclear : s.control i ≠ .clearCnt) :
    (s.controlAt i next).Pending := by
  obtain ⟨j, hj⟩ := h
  have hne : j ≠ i := by
    rintro rfl
    exact hj.elim hsignal hclear
  exact ⟨j, by rw [controlAt_of_ne hne]; exact hj⟩

/-- What the other steps leave of the count, and of a request that is pending. -/
def Leaves (s t : BootThread ι) : Prop :=
  t.vsyncCnt = s.vsyncCnt ∧ ((s.enabled_ = true → s.Pending) → t.enabled_ = true → t.Pending)

theorem leaves_wake (s : BootThread ι) : Leaves s s.wake := by
  unfold BootThread.wake
  split <;> exact ⟨rfl, id⟩

/-- **The other steps show the animation no request before its time.** -/
theorem leaves_of_other [DecidableEq ι] {s : BootThread ι} {e : BootEvent ι} (he : ¬ e.IsVsync)
    (hclear : clears s e = 0) : Leaves s (s.step e) := by
  cases e with
  | vsync d => exact absurd ⟨d, rfl⟩ he
  | call i enabled =>
    show Leaves s (s.call i enabled)
    unfold BootThread.call
    split
    · rename_i hat
      exact ⟨rfl, fun h hen => Pending.controlAt (h hen) (by rw [hat]; nofun) (by rw [hat]; nofun)⟩
    · exact ⟨rfl, id⟩
  | control i =>
    show Leaves s (s.controlStep i)
    unfold BootThread.controlStep
    split
    · exact ⟨rfl, id⟩
    · rename_i hat
      split
      · exact ⟨rfl, fun h hen =>
          Pending.controlAt (h hen) (by rw [hat]; nofun) (by rw [hat]; nofun)⟩
      · exact ⟨rfl, id⟩
    · exact ⟨rfl, fun _ _ => ⟨i, Or.inl controlAt_self⟩⟩
    · exact ⟨(leaves_wake s).1, fun _ _ => ⟨i, Or.inr controlAt_self⟩⟩
    · rename_i hat
      -- the step that clears the count is excluded
      have hone : clears s (.control i) = 1 := if_pos hat
      exact absurd hclear (by rw [hone]; decide)
    · rename_i hat
      exact ⟨rfl, fun h hen => Pending.controlAt (h hen) (by rw [hat]; nofun) (by rw [hat]; nofun)⟩
  | stop =>
    show Leaves s s.stopStep
    unfold BootThread.stopStep
    split
    · exact ⟨rfl, id⟩
    · split <;> exact ⟨rfl, id⟩
    · exact ⟨rfl, id⟩
    · exact ⟨rfl, id⟩
    · exact leaves_wake s
    · split <;> exact ⟨rfl, id⟩
    · exact ⟨rfl, id⟩
  | spurious => exact leaves_wake s

/-- **A step plays an animation only on what is owed to a request.** -/
theorem starts_add_owed [DecidableEq ι] {s : BootThread ι} (h : Sound s) (hcnt : NoOverflow s)
    (e : BootEvent ι) : starts s e + (s.step e).owed ≤ clears s e + s.owed := by
  by_cases he : e.IsVsync
  · obtain ⟨d, rfl⟩ := he
    by_cases hfresh : Fresh s
    · have hnot : starts s (.vsync d) = 0 := if_neg fun hboth =>
        hfresh.unseen.1 (armed_of_starts hboth.1 hboth.2).2
      have hnext : (s.step (.vsync d)).owed = 0 := owed_of_fresh (hfresh.vsync h d)
      omega
    · have hle := starts_add_armed hcnt d
      have hnext : (s.step (.vsync d)).owed ≤ (s.vsync d).armed := owed_le_armed _
      rw [show s.owed = s.armed from if_neg hfresh]
      show starts s (.vsync d) + (s.step (.vsync d)).owed ≤ 0 + s.armed
      omega
  · rw [starts_of_other he]
    by_cases hclear : clears s e = 0
    · obtain ⟨hsame, hpending⟩ := leaves_of_other he hclear
      have hwoken := woken_of_other (s := s) he
      by_cases hfresh : Fresh s
      · rw [owed_of_fresh (hfresh.woken hwoken (hpending hfresh.enabled))]
        omega
      · have hle := owed_le_armed (s.step e)
        have heq : (s.step e).armed = s.armed := if_congr (armed_of_woken hwoken hsame).1 rfl rfl
        rw [show s.owed = s.armed from if_neg hfresh]
        omega
    · have hle := owed_le_armed (s.step e)
      have hone : (s.step e).armed ≤ 1 := by
        unfold BootThread.armed
        split <;> omega
      omega

/-- How far the count can have come. -/
structure Counted (k : Nat) (s : BootThread ι) : Prop where
  cnt : s.vsyncCnt ≤ k
  next : ∀ cnt, s.thread_ = .writeCnt cnt → cnt ≤ k

theorem Counted.vsync {s : BootThread ι} {k : Nat} (h : Counted k s) (d : Display) :
    Counted (k + 1) (s.vsync d) := by
  by_cases hat : ∃ cnt, s.thread_ = .writeCnt cnt
  · obtain ⟨cnt, hat⟩ := hat
    have hle := h.next cnt hat
    rw [vsync_of_writeCnt hat]
    refine ⟨?_, nofun⟩
    have := u32_le (cnt + 1)
    show u32 (cnt + 1) ≤ k + 1
    omega
  · have hne : ∀ cnt, s.thread_ ≠ .writeCnt cnt := fun cnt heq => hat ⟨cnt, heq⟩
    have hcnt := h.cnt
    constructor
    · obtain hsame | ⟨-, hzero⟩ := vsync_cnt hne d <;> omega
    · intro cnt hnext
      obtain ⟨heq, -⟩ | hgoes := vsync_cases s d
      · rw [heq] at hnext
        exact absurd hnext (hne cnt)
      · rw [hnext] at hgoes
        generalize s.thread_ = place at hgoes
        cases hgoes with
        | readCnt => omega

theorem Counted.step [DecidableEq ι] {s : BootThread ι} {k : Nat} (h : Counted k s)
    (e : BootEvent ι) : Counted (k + 1) (s.step e) := by
  by_cases he : e.IsVsync
  · obtain ⟨d, rfl⟩ := he
    exact h.vsync d
  · have hcnt := h.cnt
    constructor
    · by_cases hclear : clears s e = 0
      · have hsame := (leaves_of_other he hclear).1
        omega
      · cases e with
        | control i =>
          have hat : s.control i = .clearCnt := by
            by_contra hno
            exact hclear (if_neg hno)
          show (s.controlStep i).vsyncCnt ≤ k + 1
          unfold BootThread.controlStep
          rw [hat]
          exact Nat.zero_le _
        | _ => exact absurd rfl hclear
    · intro cnt hnext
      obtain heq | ⟨-, hrelock⟩ := woken_of_other (s := s) he
      · have := h.next cnt (heq.symm.trans hnext)
        omega
      · rw [hrelock] at hnext
        exact absurd hnext nofun

theorem counted_start : Counted 0 (startBootThread ι) := ⟨Nat.le_refl 0, nofun⟩

theorem counted_run [DecidableEq ι] : ∀ (es : List (BootEvent ι)) (s : BootThread ι) (k : Nat),
    Counted k s → Counted (k + es.length) (es.foldl BootThread.step s)
  | [], _, _, h => h
  | e :: es, s, k, h => by
    have hrest := counted_run es (s.step e) (k + 1) (h.step e)
    rw [List.length_cons, ← Nat.add_assoc, Nat.add_right_comm]
    exact hrest

/-- It does not overflow in a run that is not too long. -/
theorem noOverflow_of_length [DecidableEq ι] : ∀ (es : List (BootEvent ι)) (s : BootThread ι)
    (k : Nat), Counted k s → k + es.length < 2 ^ 31 →
      Steps BootThread.step (fun s _ => NoOverflow s) s es := by
  intro es
  induction es with
  | nil => exact fun _ _ _ _ => trivial
  | cons e es ih =>
    intro s k h hlen
    rw [List.length_cons] at hlen
    refine ⟨fun cnt hat => ?_, ih _ (k + 1) (h.step e) (by omega)⟩
    have := h.next cnt hat
    omega

/-- **No animation without a request**: the animations that start are no more than the
requests that have come to clear the count, whatever the order of the steps. -/
theorem starts_le_clears [DecidableEq ι] (es : List (BootEvent ι)) (hlen : es.length < 2 ^ 31) :
    total BootThread.step starts (startBootThread ι) es ≤
      total BootThread.step clears (startBootThread ι) es := by
  have hle : total BootThread.step starts (startBootThread ι) es +
      (es.foldl BootThread.step (startBootThread ι)).owed ≤
        total BootThread.step clears (startBootThread ι) es + (startBootThread ι).owed :=
    total_le_of_credit (fun _ e _ h => h.step e) (fun _ e hcnt h => starts_add_owed h hcnt e) es _
      sound_start (noOverflow_of_length es _ 0 counted_start (by omega))
  rw [owed_of_fresh fresh_start] at hle
  omega

/-- The animation alone plays what waits, and no more. -/
theorem starts_le_armed [DecidableEq ι] {s : BootThread ι} {k n : Nat} (h : Counted k s)
    (hlen : k + n < 2 ^ 31) :
    total BootThread.step starts s (List.replicate n (.vsync .free)) ≤ s.armed := by
  have hvsync : ∀ e ∈ List.replicate n (.vsync .free : BootEvent ι), e.IsVsync := by
    intro e he
    exact ⟨.free, List.eq_of_mem_replicate he⟩
  have hsteps := Steps.and _ _ (noOverflow_of_length (List.replicate n (.vsync .free)) s k h
    (by rw [List.length_replicate]; exact hlen)) (steps_of_forall _ hvsync s)
  have hle : total BootThread.step starts s (List.replicate n (.vsync .free)) +
      ((List.replicate n (.vsync .free)).foldl BootThread.step s).armed ≤
        total BootThread.step (fun _ _ => 0) s (List.replicate n (.vsync .free)) + s.armed := by
    refine total_le_of_credit (I := fun _ => True) (fun _ _ _ _ => trivial) ?_ _ s trivial hsteps
    rintro t _ ⟨hcnt, d, rfl⟩ -
    have := starts_add_armed hcnt d
    show starts t (.vsync d) + (t.vsync d).armed ≤ 0 + t.armed
    omega
  rw [total_zero] at hle
  omega

/-- **A request is served unless it comes while a frame is counted**: in every run, where the
animation is enabled and left alone, it starts if and only if the count is zero and its test
is still to come. -/
theorem served_iff [DecidableEq ι] (es : List (BootEvent ι)) (n : Nat)
    (hen : Enabled (es.foldl BootThread.step (startBootThread ι))) (hn : 15 ≤ n)
    (hlen : es.length + n < 2 ^ 31) :
    0 < total BootThread.step starts (es.foldl BootThread.step (startBootThread ι))
        (List.replicate n (.vsync .free)) ↔
      (es.foldl BootThread.step (startBootThread ι)).Armed := by
  constructor
  · intro hpos
    have hcounted := counted_run es (startBootThread ι) 0 counted_start
    have hle := starts_le_armed (n := n) hcounted (by omega)
    by_contra hno
    rw [BootThread.armed, if_neg hno] at hle
    omega
  · intro harmed
    obtain ⟨m, rfl⟩ := Nat.exists_eq_add_of_le' hn
    have hready : Ready (es.foldl BootThread.step (startBootThread ι)) :=
      { hen with sound := sound_run es }
    exact plays_of_armed (m + 14) harmed (Or.inr hready)
      (Nat.le_trans (toStart_le _) (by omega))

/-- A thread calls `vsync_control` and runs through it. -/
def request (enabled : Bool) : List (BootEvent Unit) :=
  .call () enabled :: List.replicate 5 (.control ())

/-- The animation is enabled, waits for the vblank, and is disabled. -/
def disabledLate : List (BootEvent Unit) :=
  request true ++ List.replicate 9 (.vsync .free) ++ request false

theorem playsOn_iff_due_late :
    (∀ es, (∀ e ∈ es, BootEvent.Quiet e) → total BootThread.step starts
        (disabledLate.foldl BootThread.step (startBootThread Unit)) es ≤ 1) ∧
      ((∃ es, (∀ e ∈ es, BootEvent.Quiet e) ∧ total BootThread.step starts
        (disabledLate.foldl BootThread.step (startBootThread Unit)) es = 1) ↔
          (disabledLate.foldl BootThread.step (startBootThread Unit)).Due) :=
  playsOn_iff_due ⟨rfl, fun _ => rfl⟩

example : (disabledLate.foldl BootThread.step (startBootThread Unit)).Due := by decide

theorem starts_le_clears_late : total BootThread.step starts (startBootThread Unit)
      (disabledLate ++ List.replicate 3 (.vsync .free)) ≤
    total BootThread.step clears (startBootThread Unit)
      (disabledLate ++ List.replicate 3 (.vsync .free)) :=
  starts_le_clears _ (by decide)

/-- A request comes while the animation plays. -/
def requestedTwice : List (BootEvent Unit) :=
  request true ++ List.replicate 12 (.vsync .free) ++ request true

theorem served_iff_twice :
    0 < total BootThread.step starts (requestedTwice.foldl BootThread.step (startBootThread Unit))
        (List.replicate 15 (.vsync .free)) ↔
      (requestedTwice.foldl BootThread.step (startBootThread Unit)).Armed :=
  served_iff requestedTwice 15 ⟨rfl, fun _ => rfl, rfl⟩ (by decide) (by decide)

example : ¬ (requestedTwice.foldl BootThread.step (startBootThread Unit)).Armed := by decide

end Modeset

end Rk3399
