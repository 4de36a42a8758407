import Rk3399.Jpeg.Helpers.Inside
import Rk3399.Jpeg.Model.Session
/-!
# The probing parser returns

`JpegDecGetImageInfo` reads no byte outside the stream and its look-ahead byte,
and both of its loops end, whatever the stream holds, unless a segment gave a
wrong length. Each round counts at least one bit, a loop is left where the
count reaches the end, and the count does not go back.
-/

namespace Rk3399

namespace Jpeg

open Prog StreamStorage

namespace Probe

variable (mem : Nat → UInt8)

/-- **The probe goes on**: `P` is what is known besides, `A` says that the test for stuffing is
switched off, and at least `m` bits are counted, or all of the stream. -/
structure Going (P A : Prop) (m k : Nat) (p : Probe) : Prop where
  known : P
  inside : p.stream.Inside k
  counted : min m (8 * p.stream.streamLength) ≤ p.stream.readBits
  bits : 8 ∣ p.appBits
  flag : A → p.stream.appnFlag ≠ 0

/-- The probe goes on, unless a segment gave a wrong length. -/
def Within (P A : Prop) (m k : Nat) (p : Probe) : Prop := p.stream.Misled ∨ Going P A m k p

/-- From `I` the program goes on with `J` of its value, and faults only after a wrong length. -/
abbrev LeadsTo {α : Type} (I : Probe → Prop) (J : α → Probe → Prop) (x : Probing α) : Prop :=
  ∀ p, I p → wp x J (fun _ _ => True) (fun _ p => p.stream.Misled) p

/-- From `I` the program goes on with `J`. -/
abbrev Leads {α : Type} (I J : Probe → Prop) (x : Probing α) : Prop := LeadsTo I (fun _ => J) x

section within

variable {P Q A B : Prop} {m k l : Nat}

theorem Going.mono {p : Probe} (h : Going P A m k p) (hP : P → Q) (hA : B → A) (hkl : k ≤ l) :
    Going Q B m l p :=
  ⟨hP h.known, h.inside.mono hkl, h.counted, h.bits, fun hb => h.flag (hA hb)⟩

theorem Within.mono {p : Probe} (h : Within P A m k p) (hP : P → Q) (hA : B → A) (hkl : k ≤ l) :
    Within Q B m l p :=
  h.imp id fun hgoing => hgoing.mono hP hA hkl

theorem Going.less {p : Probe} {n : Nat} (h : Going P A m k p) (hn : n ≤ m) : Going P A n k p := by
  refine ⟨h.known, h.inside, ?_, h.bits, h.flag⟩
  have hcounted := h.counted
  omega

/-- Where the reader goes on, the probe does. -/
theorem Going.passes {p : Probe} {t : StreamStorage} (h : Going P A m k p)
    (ht : Passes l p.stream t) : Going P A m l { p with stream := t } where
  known := h.known
  inside := ht.inside
  counted := by
    have hforward := ht.forward
    have hcounted := h.counted
    show min m (8 * t.streamLength) ≤ t.readBits
    rw [ht.length]
    omega
  bits := h.bits
  flag hA := by
    show t.appnFlag ≠ 0
    rw [ht.flag]
    exact h.flag hA

/-- What the reader is not part of may change. -/
theorem Going.set {p p' : Probe} (h : Going P A m k p) (hstream : p'.stream = p.stream)
    (hbits : 8 ∣ p'.appBits) : Going P A m k p' := by
  refine ⟨h.known, ?_, ?_, hbits, ?_⟩
  · rw [hstream]
    exact h.inside
  · rw [hstream]
    exact h.counted
  · rw [hstream]
    exact h.flag

/-- The test for stuffing is switched. -/
theorem Going.setFlag {p : Probe} (h : Going P A m k p) (appn : Nat) (hB : B → appn ≠ 0) :
    Going P B m k { p with stream.appnFlag := appn } where
  known := h.known
  inside := ⟨h.inside.aligned, h.inside.started, h.inside.position, h.inside.bound, h.inside.small⟩
  counted := h.counted
  bits := h.bits
  flag := hB

variable {α β : Type}

theorem Leads.bind {I J : Probe → Prop} {K : α → Probe → Prop} {x : Probing β}
    {f : β → Probing α} (hx : Leads I J x) (hf : ∀ b, LeadsTo J K (f b)) : LeadsTo I K (x >>= f) :=
  fun p hp => wp_seq (hx p hp) fun b p' hp' => hf b p' hp'

theorem leads_pure {I : Probe → Prop} (a : α) : Leads I I (pure a : Probing α) := fun _ hp => hp

theorem leads_gets {I : Probe → Prop} (f : Probe → α) : Leads I I (gets f : Probing α) :=
  fun _ hp => hp

theorem leads_modify {I J : Probe → Prop} {f : Probe → Probe} (h : ∀ p, I p → J (f p)) :
    Leads I J (modify f : Probing Unit) := h

theorem leads_exit {I : Probe → Prop} {J : α → Probe → Prop} (r : JpegDecRet) :
    LeadsTo I J (exit r : Probing α) :=
  fun _ _ => trivial

theorem leads_exitIf {I : Probe → Prop} (r : JpegDecRet) (q : Probe → Prop) [DecidablePred q] :
    Leads I I (exitIf r q : Probing Unit) := by
  intro p hp
  rw [wp_exitIf]
  split
  · trivial
  · exact hp

theorem leads_ite {I : Probe → Prop} {J : α → Probe → Prop} (c : Prop) [Decidable c]
    {x y : Probing α} (hx : LeadsTo I J x) (hy : LeadsTo I J y) :
    LeadsTo I J (if c then x else y) := by
  split
  · exact hx
  · exact hy

theorem Leads.mono {I I' J J' : Probe → Prop} {x : Probing α} (hx : Leads I J x)
    (hI : ∀ p, I' p → I p) (hJ : ∀ p, J p → J' p) : Leads I' J' x :=
  fun p hp => wp_mono (hx p (hI p hp)) (fun _ p' hp' => hJ p' hp') (fun _ _ h => h) fun _ _ h => h

/-- A reader that stays inside the stream. -/
theorem leads_onStream {x : Prog Fault JpegDecRet StreamStorage α}
    (hframe : Frame anyFault StreamStorage.passed x)
    (hx : ∀ s : StreamStorage, s.Inside k → (A → s.appnFlag ≠ 0) →
      wp x (fun _ t => Passes l s t) (fun _ _ => True) (fun _ _ => False) s) :
    Leads (Within P A m k) (Within P A m l) (onStream x) := by
  intro p hp
  unfold onStream
  rw [wp_zoom]
  obtain hmisled | hgoing := hp
  · exact wp_mono (wp_of_misled hframe hmisled) (fun _ _ h => Or.inl h) (fun _ _ _ => trivial)
      fun _ _ h => h
  · exact wp_mono (hx p.stream hgoing.inside hgoing.flag) (fun _ t ht => Or.inr (hgoing.passes ht))
      (fun _ _ h => h) fun _ _ h => h.elim

theorem leads_getByte (hk : k ≤ 2 ^ 20) :
    Leads (Within P A m k) (Within P A m k) (getByte mem) := by
  refine leads_onStream (unmoved_passed.getByte mem) fun s hs _ => ?_
  refine wp_mono (wp_getByte_inside mem hs hk) (fun v t ht => ?_) (fun _ _ h => h) fun _ _ h => h
  obtain ⟨-, rfl⟩ | ⟨-, hpasses⟩ := ht
  · exact hs.passes
  · exact hpasses.mono (Nat.zero_le k)

theorem leads_get2Bytes (hk : k ≤ 2 ^ 20) :
    Leads (Within P A m k) (Within P A m k) (get2Bytes mem) := by
  refine leads_onStream (unmoved_passed.get2Bytes mem) fun s hs _ => ?_
  refine wp_mono (wp_get2Bytes_inside mem hs hk) (fun v t ht => ?_) (fun _ _ h => h) fun _ _ h => h
  obtain ⟨-, rfl⟩ | ⟨-, hpasses⟩ := ht
  · exact hs.passes
  · exact hpasses.mono (Nat.zero_le k)

/-- A byte that is passed. -/
theorem leads_flushByte (hk : k ≤ 2 ^ 20) (h8 : 8 ≤ k) :
    Leads (Within P A m k) (Within P A m k) (flushBits mem 8) := by
  refine leads_onStream (unmoved_passed.flushBits mem 8) fun s hs _ => ?_
  exact wp_mono (wp_flushByte_inside mem hs hk) (fun _ _ ht => ht.mono h8) (fun _ _ h => h)
    fun _ _ h => h

/-- Two bytes that are passed with the test for stuffing switched off. -/
theorem leads_flushWhole (hk : k ≤ 2 ^ 20) (hA : A) :
    Leads (Within P A m k) (Within P A m k) (flushBits mem 16) := by
  refine leads_onStream (unmoved_passed.flushBits mem 16) fun s hs hflag => ?_
  exact wp_mono (wp_flushBits_appn mem hs hk (hflag hA) (by decide) (by decide))
    (fun _ _ ht => ht.mono (Nat.zero_le k)) (fun _ _ h => h) fun _ _ h => h

/-- What the reader is not part of changes. -/
theorem leads_set {f : Probe → Probe} (hstream : ∀ p, (f p).stream = p.stream)
    (hbits : ∀ p, 8 ∣ p.appBits → 8 ∣ (f p).appBits) :
    Leads (Within P A m k) (Within P A m k) (modify f : Probing Unit) := by
  refine leads_modify fun p hp => hp.imp (fun hmisled => ?_) fun hgoing => ?_
  · rw [hstream]
    exact hmisled
  · exact hgoing.set (hstream p) (hbits p hgoing.bits)

theorem leads_fail : Leads (Within P A m k) (Within P A m k) fail :=
  leads_set (fun _ => rfl) fun _ h => h

theorem leads_countBits {n : Nat} (hn : 8 ∣ n) :
    Leads (Within P A m k) (Within P A m k) (countBits n) := by
  refine leads_set (fun _ => rfl) fun p hbits => ?_
  show 8 ∣ u32 (p.appBits + n)
  unfold u32
  omega

theorem leads_flushOrFail {bits : Nat} {next : Probing Unit}
    (hflush : Leads (Within P A m k) (Within P A m k) (flushBits mem bits))
    (hnext : Leads (Within P A m k) (Within P A m k) next) :
    Leads (Within P A m k) (Within P A m k) (flushOrFail mem bits next) :=
  hflush.bind fun _ => leads_ite _ leads_fail hnext

/-- The rest of an APP0 segment is passed, with the test for stuffing switched off. -/
theorem leads_flushRestOrFail (hk : k ≤ 2 ^ 20) (hA : A) (L n : Nat) {next : Probing Unit}
    (hnext : Leads (Within P False m k) (Within P False m k) next) :
    Leads (Within (P ∧ 8 ∣ n) A m k) (Within P False m k) (flushRestOrFail mem L n next) := by
  refine Leads.bind (J := Within P False m k) ?_ fun _ =>
    leads_ite _ leads_fail hnext
  intro p hp
  unfold onStream
  rw [wp_zoom]
  obtain hmisled | hgoing := hp
  · exact wp_mono (wp_flushSegment_misled mem hmisled L n) (fun _ _ h => Or.inl h)
      (fun _ _ _ => trivial) fun _ _ h => h
  · obtain ⟨-, hn⟩ := hgoing.known
    refine wp_mono (wp_flushSegment_inside mem hgoing.inside hk (hgoing.flag hA) L hn)
      (fun _ t ht => ht.imp id fun hpasses => ?_) (fun _ _ _ => trivial) fun _ _ h => h
    exact (hgoing.passes hpasses).mono And.left False.elim (Nat.zero_le k)

theorem leads_flushAppRest (hk : k ≤ 2 ^ 20) (hA : A) {next : Probing Unit}
    (hnext : Leads (Within P False m k) (Within P False m k) next) :
    Leads (Within P A m k) (Within P False m k) (flushAppRest mem next) := by
  intro p hp
  unfold flushAppRest
  rw [wp_bind, wp_gets]
  refine leads_flushRestOrFail mem hk hA p.appLength p.appBits hnext p (hp.imp id fun hgoing => ?_)
  exact hgoing.mono (fun hP => ⟨hP, hgoing.bits⟩) id (Nat.le_refl k)

/-- Two bytes, which are known to be two bytes unless the stream has ended. -/
theorem leads_read2Bytes (hk : k ≤ 2 ^ 20) {f : Nat → Probing α} {J : α → Probe → Prop}
    (hend : LeadsTo (Within P A m k) J (f strmErrorWord))
    (hread : ∀ v, LeadsTo (Within (P ∧ v < 2 ^ 16) A m 0) J (f v)) :
    LeadsTo (Within P A m k) J (get2Bytes mem >>= f) := by
  intro p hp
  unfold get2Bytes onStream
  rw [wp_bind, wp_zoom]
  obtain hmisled | hgoing := hp
  · exact wp_mono (wp_of_misled (unmoved_passed.get2Bytes mem) hmisled)
      (fun v t ht => hread v _ (Or.inl ht)) (fun _ _ _ => trivial) fun _ _ h => h
  · refine wp_mono (wp_get2Bytes_inside mem hgoing.inside hk) (fun v t ht => ?_) (fun _ _ h => h)
      fun _ _ h => h
    obtain ⟨rfl, rfl⟩ | ⟨hv, hpasses⟩ := ht
    · exact hend _ (Or.inr hgoing)
    · refine hread v _ (Or.inr ?_)
      exact (hgoing.passes hpasses).mono (fun hP => ⟨hP, hv⟩) id (Nat.le_refl 0)

/-- The length of a segment, and what is behind it. -/
theorem leads_segmentLength (hk : k ≤ 2 ^ 20) (hkl : k ≤ l) {next : Nat → Probing Unit}
    (hnext : ∀ L, Leads (Within (P ∧ L < 2 ^ 16) A m 0) (Within P A m l) (next L)) :
    Leads (Within P A m k) (Within P A m l) (segmentLength mem next) := by
  refine leads_read2Bytes mem hk ?_ fun L => ?_
  · intro p hp
    rw [wp_bind, wp_gets, wp_ite, if_pos (decide_eq_true (Or.inl rfl))]
    exact leads_fail p (hp.mono id id hkl)
  · refine Leads.bind (leads_gets _) fun short => leads_ite _ ?_ (hnext L)
    exact leads_fail.mono (fun _ h => h.mono And.left id (Nat.zero_le l)) fun _ h => h

/-- A segment is jumped over. -/
theorem leads_skipSegment (L : Nat) :
    Leads (Within (P ∧ L < 2 ^ 16) A m 0) (Within P A m jumpSlack)
      (modify fun p => { p with stream := p.stream.skipSegment L }) := by
  intro p hp
  rw [wp_modify]
  obtain hmisled | hgoing := hp
  · exact Or.inl (misled_skipSegment hmisled L)
  · obtain ⟨-, hL⟩ := hgoing.known
    refine (passes_skipSegment hL hgoing.inside).imp id fun hpasses => ?_
    exact (hgoing.passes hpasses).mono And.left id (Nat.le_refl _)

/-- **Inside the stream** the count is not ahead of the end, and less than all of it is counted. -/
theorem leads_ifInside {x y : Probing α} {J : α → Probe → Prop}
    (hx : LeadsTo (Within (P ∧ m < 2 ^ 31) A m 0) J x) (hy : LeadsTo (Within P A m k) J y) :
    LeadsTo (Within P A m k) J (do
      if ← gets (fun p => decide (p.stream.readBits / 8 < p.stream.streamLength)) then x
      else y) := by
  intro p hp
  rw [wp_bind, wp_gets, wp_ite]
  split
  · rename_i hinside
    have hlt : p.stream.readBits / 8 < p.stream.streamLength := of_decide_eq_true hinside
    refine hx p (hp.imp id fun hgoing => ?_)
    have hin := hgoing.inside
    have hsmall := hin.small
    have hcounted := hgoing.counted
    refine ⟨⟨hgoing.known, by omega⟩, ?_, hcounted, hgoing.bits, hgoing.flag⟩
    exact ⟨hin.aligned, hin.started, hin.position, by omega, hsmall⟩
  · exact hy p hp

/-- A round ends with one bit that is counted. -/
theorem leads_nextBit (hk : k + 1 ≤ 2 ^ 20) :
    Leads (Within P A m k) (Within P A (m + 1) (k + 1)) nextBit := by
  refine leads_modify fun p hp => hp.imp id fun hgoing => ?_
  have hbound := hgoing.inside.bound
  have hsmall := hgoing.inside.small
  have hpasses : Passes (k + 1) p.stream ((p.stream.advance 0).account 1) :=
    hgoing.inside.step (Nat.zero_le _) (by omega) hk
  refine ⟨hgoing.known, hpasses.inside, ?_, hgoing.bits, hgoing.flag⟩
  have hcounted := hgoing.counted
  show min (m + 1) (8 * p.stream.streamLength) ≤ u32 (p.stream.readBits + 1)
  rw [u32_of_lt (by omega)]
  omega

end within

/-! ### The segments -/

section segments

variable {P A : Prop} {m : Nat} {α : Type}

/-- `x` stays inside the stream. -/
abbrev Stays (P A : Prop) (m : Nat) (x : Probing α) : Prop :=
  Leads (Within P A m jumpSlack) (Within P A m jumpSlack) x

/-- Where the test for stuffing may be on again. -/
abbrev Clears (P A : Prop) (m : Nat) (x : Probing α) : Prop :=
  Leads (Within P A m jumpSlack) (Within P False m jumpSlack) x

theorem Stays.clears {x : Probing α} (hx : Stays P A m x) : Clears P A m x :=
  hx.mono (fun _ h => h) fun _ h => h.mono id False.elim (Nat.le_refl _)

theorem stays_getByte : Stays P A m (getByte mem) := leads_getByte mem (by decide)

theorem stays_get2Bytes : Stays P A m (get2Bytes mem) := leads_get2Bytes mem (by decide)

theorem stays_flushByte {next : Probing Unit} (hnext : Stays P A m next) :
    Stays P A m (flushOrFail mem 8 next) :=
  leads_flushOrFail mem (leads_flushByte mem (by decide) (by decide)) hnext

theorem stays_segmentLength {next : Nat → Probing Unit} (hnext : ∀ L, Stays P A m (next L)) :
    Stays P A m (segmentLength mem next) := by
  refine leads_segmentLength mem (by decide) (Nat.le_refl _) fun L => ?_
  exact (hnext L).mono (fun _ h => h.mono And.left id (Nat.zero_le _)) fun _ h => h

theorem stays_set {f : Probe → Probe} (hstream : ∀ p, (f p).stream = p.stream)
    (hbits : ∀ p, 8 ∣ p.appBits → 8 ∣ (f p).appBits) : Stays P A m (modify f : Probing Unit) :=
  leads_set hstream hbits

theorem stays_jumpOver : Stays P A m (jumpOver mem) :=
  leads_segmentLength mem (by decide) (Nat.le_refl _) fun L => leads_skipSegment L

theorem stays_probeComponents (n : Nat) : ∀ j, Stays P A m (probeComponents mem n j) := by
  induction n with
  | zero => exact fun _ => leads_pure _
  | succ n ih =>
    intro j
    rw [probeComponents]
    refine stays_flushByte mem ((stays_getByte mem).bind fun tmp => ?_)
    refine Leads.bind (stays_set (fun _ => rfl) fun _ h => h) fun _ => stays_flushByte mem ?_
    exact Leads.bind (stays_set (fun _ => rfl) fun _ h => h) fun _ => ih (j + 1)

theorem stays_probeSampling : Stays P A m probeSampling := by
  have hset : ∀ format w area, Stays P A m (modify (setFormat format w area) : Probing Unit) :=
    fun _ _ _ => stays_set (fun _ => rfl) fun _ h => h
  refine (leads_gets _).bind fun p => ?_
  refine leads_ite _ (hset _ _ _) (leads_ite _ (hset _ _ _) ?_)
  refine leads_ite _ (hset _ _ _) (leads_ite _ (hset _ _ _) ?_)
  refine leads_ite _ ?_ (leads_ite _ (hset _ _ _) (leads_exit _))
  refine Leads.bind (stays_set (fun p => ?_) fun p => ?_) fun _ => ?_
  · unfold roundUp411
    split <;> rfl
  · intro hbits
    unfold roundUp411
    split
    · exact hbits
    · exact hbits
  exact (leads_exitIf _ _).bind fun _ => hset _ _ _

theorem stays_probeFrame (marker : Nat) : Stays P A m (probeFrame mem marker) := by
  refine Leads.bind (stays_set (fun _ => rfl) fun _ h => h) fun _ =>
    stays_segmentLength mem fun _ => ?_
  refine (stays_getByte mem).bind fun precision => ?_
  refine Leads.bind (stays_set (fun _ => rfl) fun _ h => h) fun _ => ?_
  refine (leads_exitIf _ _).bind fun _ => (stays_get2Bytes mem).bind fun lines => ?_
  refine Leads.bind (stays_set (fun _ => rfl) fun _ h => h) fun _ => ?_
  refine (leads_exitIf _ _).bind fun _ =>
    Leads.bind (stays_set (fun _ => rfl) fun _ h => h) fun _ => ?_
  refine (stays_get2Bytes mem).bind fun samples => ?_
  refine Leads.bind (stays_set (fun _ => rfl) fun _ h => h) fun _ => ?_
  refine (leads_exitIf _ _).bind fun _ =>
    Leads.bind (stays_set (fun _ => rfl) fun _ h => h) fun _ => ?_
  refine (leads_exitIf _ _).bind fun _ => (stays_getByte mem).bind fun Nf => ?_
  refine (leads_exitIf _ _).bind fun _ => (stays_probeComponents mem Nf 0).bind fun _ => ?_
  refine (leads_exitIf _ _).bind fun _ => stays_probeSampling.bind fun _ => ?_
  exact stays_set (fun _ => rfl) fun _ h => h

/-- A scan header: its length is used to jump behind it when the number of its components is
read. -/
theorem stays_scan {next : Nat → Probing Unit} (hnext : ∀ Ns, ∀ {P k},
      Leads (Within P A m k) (Within P A m k) (next Ns))
    {done : Probing Unit} (hdone : Stays P A m done) :
    Stays P A m (segmentLength mem fun headerLength => do
      let Ns ← getByte mem
      next Ns
      modify fun p => { p with stream := p.stream.skipSegment headerLength }
      done) := by
  refine leads_segmentLength mem (by decide) (Nat.le_refl _) fun L => ?_
  refine (leads_getByte mem (Nat.zero_le _)).bind fun Ns => (hnext Ns).bind fun _ => ?_
  exact (leads_skipSegment L).bind fun _ => hdone

theorem stays_scanDone : Stays P A m (do
    exitIf .increaseInputBuffer fun p : Probe =>
      u32 (8 * p.stream.streamLength) ≤ u32 (p.stream.readBits + 8)
    modify fun p => { p with cont.info.init := 1, init := 1 }) :=
  (leads_exitIf _ _).bind fun _ => stays_set (fun _ => rfl) fun _ h => h

theorem stays_probeScan : Stays P A m (probeScan mem) := by
  refine stays_scan mem (fun Ns => leads_set (fun p => ?_) fun p hbits => ?_) stays_scanDone
  · split <;> rfl
  · split
    · exact hbits
    · exact hbits

theorem stays_probeRestart : Stays P A m (probeRestart mem) :=
  stays_segmentLength mem fun _ => stays_segmentLength mem fun _ =>
    stays_set (fun _ => rfl) fun _ h => h

/-! ### Thumbnails -/

theorem stays_countBits {n : Nat} (hn : 8 ∣ n) : Stays P A m (countBits n) := leads_countBits hn

theorem stays_thumbComponents (n : Nat) : ∀ j, Stays P A m (thumbComponents mem n j) := by
  induction n with
  | zero => exact fun _ => leads_pure _
  | succ n ih =>
    intro j
    rw [thumbComponents]
    have hcount : ∀ {n b : Nat}, 8 ∣ n → 8 ∣ b → 8 ∣ u32 (b + n) := by
      intro n b hn hb
      unfold u32
      omega
    refine stays_flushByte mem ((stays_getByte mem).bind fun tmp => ?_)
    refine Leads.bind (stays_set (fun _ => rfl) fun _ h => ?_) fun _ => stays_flushByte mem ?_
    · exact hcount (n := 16) (by decide) h
    refine Leads.bind (stays_set (fun _ => rfl) fun _ h => ?_) fun _ => ih (j + 1)
    exact hcount (n := 8) (by decide) h

theorem stays_thumbFrame (hA : A) (marker : Nat) : Stays P A m (thumbFrame mem marker) := by
  refine Leads.bind (stays_set (fun _ => rfl) fun _ h => h) fun _ =>
    leads_flushOrFail mem (leads_flushWhole mem (by decide) hA) ?_
  refine (stays_countBits (by decide)).bind fun _ => (stays_getByte mem).bind fun precision => ?_
  refine Leads.bind (stays_set (fun _ => rfl) fun _ h => h) fun _ => ?_
  refine (stays_countBits (by decide)).bind fun _ => (leads_exitIf _ _).bind fun _ => ?_
  refine (stays_get2Bytes mem).bind fun lines => (stays_countBits (by decide)).bind fun _ => ?_
  refine Leads.bind (stays_set (fun _ => rfl) fun _ h => h) fun _ =>
    (leads_exitIf _ _).bind fun _ => ?_
  refine Leads.bind (stays_set (fun _ => rfl) fun _ h => h) fun _ => ?_
  refine (stays_get2Bytes mem).bind fun samples => (stays_countBits (by decide)).bind fun _ => ?_
  refine Leads.bind (stays_set (fun _ => rfl) fun _ h => h) fun _ =>
    (leads_exitIf _ _).bind fun _ => ?_
  refine Leads.bind (stays_set (fun _ => rfl) fun _ h => h) fun _ =>
    (leads_exitIf _ _).bind fun _ => ?_
  refine (stays_getByte mem).bind fun Nf => (stays_countBits (by decide)).bind fun _ => ?_
  refine (leads_exitIf _ _).bind fun _ => (stays_thumbComponents mem Nf 0).bind fun _ => ?_
  refine (leads_exitIf _ _).bind fun _ => (leads_gets _).bind fun format => ?_
  cases format with
  | none => exact leads_exit _
  | some format => exact stays_set (fun _ => rfl) fun _ h => h

theorem stays_thumbScan : Stays P A m (thumbScan mem) := by
  refine stays_scan mem (fun Ns => leads_set (fun p => ?_) fun p hbits => ?_) stays_scanDone
  · split <;> rfl
  · split
    · exact hbits
    · exact hbits

theorem stays_thumbJump : Stays P A m (thumbJump mem) := by
  refine leads_read2Bytes mem (by decide) ?_ fun L => leads_ite _ ?_ ?_
  · rw [if_pos rfl]
    exact leads_fail
  · exact leads_fail.mono (fun _ h => h.mono And.left id (Nat.zero_le _)) fun _ h => h
  · exact Leads.bind (leads_skipSegment L) fun _ => stays_countBits (Nat.dvd_mul_left 8 L)

theorem stays_thumbSegment (hA : A) (marker : Nat) : Stays P A m (thumbSegment mem marker) := by
  refine leads_ite _ (stays_thumbFrame mem hA marker) ?_
  refine leads_ite _ (stays_thumbScan mem) (leads_ite _ (stays_thumbJump mem) ?_)
  exact leads_ite _ (leads_exit _) (leads_pure _)

/-- `stream.appnFlag = 0`. -/
theorem clears_clearAppn : Clears P A m clearAppn := by
  exact leads_modify fun p hp => hp.imp id fun hgoing => hgoing.setFlag 0 False.elim

theorem clears_flushAppRest (hA : A) {next : Probing Unit} (hnext : Clears P False m next) :
    Clears P A m (flushAppRest mem next) :=
  leads_flushAppRest mem (by decide) hA hnext

/-- **A round of the loop over a thumbnail**: the test for stuffing stays off until the loop is
left, and a round that does not leave it counts a bit. -/
theorem leads_thumbRound (hA : A) (bufferSize : Nat) :
    LeadsTo (Within P A m (jumpSlack + 1))
      (fun go => Within (P ∧ (go = true → m < 2 ^ 31)) (A ∧ go = true) (bif go then m + 1 else m)
        (jumpSlack + 1)) (thumbRound mem bufferSize) := by
  refine leads_ifInside (Leads.bind (leads_countBits (by decide)) fun _ => ?_) ?_
  · refine Leads.bind (leads_getByte mem (Nat.zero_le _)) fun b => leads_ite _ ?_ ?_
    · refine Leads.bind (leads_countBits (by decide)) fun _ => ?_
      refine Leads.bind (leads_getByte mem (Nat.zero_le _)) fun marker => ?_
      refine Leads.bind (leads_set (fun _ => rfl) fun _ h => h) fun _ => ?_
      refine Leads.bind (J := Within (P ∧ m < 2 ^ 31) A m jumpSlack) ?_ fun _ => ?_
      · exact (stays_thumbSegment mem hA marker).mono
          (fun _ h => h.mono id id (Nat.zero_le _)) fun _ h => h
      refine Leads.bind (leads_gets _) fun done => leads_ite _ ?_ ?_
      · refine Leads.bind (clears_flushAppRest mem hA clears_clearAppn) fun _ p hp => ?_
        exact hp.mono (fun hP => ⟨hP.1, fun hgo => absurd hgo Bool.false_ne_true⟩)
          (fun h => absurd h.2 Bool.false_ne_true) (Nat.le_succ _)
      · refine Leads.bind (leads_nextBit (by decide)) fun _ p hp => ?_
        exact hp.mono (fun hP => ⟨hP.1, fun _ => hP.2⟩) And.left (Nat.le_refl _)
    · exact Leads.bind (leads_exitIf _ _) fun _ => leads_exit _
  · exact fun p hp => hp.mono (fun hP => ⟨hP, fun hgo => absurd hgo Bool.false_ne_true⟩) And.left
      (Nat.le_refl _)

/-- **The loop over a thumbnail ends.** -/
theorem leads_thumbLoop (hP : P → m ≤ 2 ^ 31) {rounds : Nat} (hrounds : 2 ^ 31 < rounds)
    (bufferSize : Nat) :
    Leads (Within P True m (jumpSlack + 1)) (Within P False m (jumpSlack + 1))
      (loop .rounds (thumbRound mem bufferSize) rounds) := by
  intro p hp
  refine wp_loop_count (M := 2 ^ 31)
    (I := fun n => Within (P ∧ m ≤ n ∧ n ≤ 2 ^ 31) True n (jumpSlack + 1)) (fun n p hp => ?_)
    (fun n p hn hp => hp.elim id fun hgoing => ?_) rounds m p (by omega) ?_
  · refine wp_mono (leads_thumbRound mem trivial bufferSize p hp) (fun go p' hp' => ?_)
      (fun _ _ h => h) fun _ _ h => h
    cases go with
    | true =>
      exact hp'.mono (fun h => ⟨h.1.1, by omega, h.2 rfl⟩) (fun h => ⟨h, rfl⟩) (Nat.le_refl _)
    | false =>
      refine hp'.imp id fun hgoing => ?_
      have hless : m ≤ n := hgoing.known.1.2.1
      exact (hgoing.less hless).mono (fun h => h.1.1) False.elim (Nat.le_refl _)
  · have hle := hgoing.known.2.2
    omega
  · exact hp.mono (fun h => ⟨h, Nat.le_refl m, hP h⟩) id (Nat.le_refl _)

/-! ### Application segments -/

/-- What is left of an APP0 segment is passed with the test for stuffing switched off. -/
theorem clears_flushApp {next : Probing Unit} (hnext : Clears P False m next) :
    Clears P A m (flushApp mem next) := by
  refine Leads.bind (J := Within P True m jumpSlack) ?_ fun _ =>
    clears_flushAppRest mem trivial hnext
  exact leads_modify fun p hp => hp.imp id fun hgoing => hgoing.setFlag 1 fun _ => Nat.one_ne_zero

/-- `x` is an APP0 segment, or a part of one. -/
abbrev EndsApp (P : Prop) (m : Nat) (x : Probing α) : Prop :=
  Leads (Within P False m jumpSlack) (Within P False m (jumpSlack + 1)) x

theorem Clears.endsApp {x : Probing α} (hx : Clears P False m x) : EndsApp P m x :=
  hx.mono (fun _ h => h) fun _ h => h.mono id id (Nat.le_succ _)

theorem endsApp_probeThumbnail (hP : P → m ≤ 2 ^ 31) {rounds : Nat} (hrounds : 2 ^ 31 < rounds)
    (bufferSize : Nat) : EndsApp P m (probeThumbnail mem rounds bufferSize) := by
  refine Leads.bind (stays_getByte mem) fun extension => ?_
  refine Leads.bind (stays_set (fun _ => rfl) fun _ h => h) fun _ => leads_ite _ ?_ ?_
  · refine Leads.bind (stays_countBits (by decide)) fun _ => ?_
    refine Leads.bind ?_ fun _ => leads_thumbLoop mem hP hrounds bufferSize
    refine leads_modify fun p hp => hp.imp id fun hgoing => ?_
    have hset : Going P True m (jumpSlack + 1) { p with stream.appnFlag := 1 } :=
      (hgoing.setFlag 1 fun _ => Nat.one_ne_zero).mono id id (Nat.le_succ _)
    exact hset.set rfl hgoing.bits
  · refine Leads.bind (stays_countBits (by decide)) fun _ => ?_
    refine Leads.bind (stays_set (fun _ => rfl) fun _ h => h) fun _ => ?_
    exact (clears_flushApp mem clears_clearAppn).endsApp

theorem endsApp_probeJfif : EndsApp P m (probeJfif mem) := by
  refine Leads.bind (stays_get2Bytes mem) fun version => ?_
  refine Leads.bind (stays_set (fun _ => rfl) fun _ h => h) fun _ => ?_
  refine Leads.bind (stays_countBits (by decide)) fun _ => ?_
  refine Leads.bind (stays_getByte mem) fun units => ?_
  refine Leads.bind (stays_set (fun _ => rfl) fun _ h => h) fun _ => ?_
  refine Leads.bind (stays_countBits (by decide)) fun _ => ?_
  refine Leads.bind (stays_get2Bytes mem) fun xDensity => ?_
  refine Leads.bind (stays_set (fun _ => rfl) fun _ h => h) fun _ => ?_
  refine Leads.bind (stays_countBits (by decide)) fun _ => ?_
  refine Leads.bind (stays_get2Bytes mem) fun yDensity => ?_
  refine Leads.bind (stays_set (fun _ => rfl) fun _ h => h) fun _ => ?_
  refine Leads.bind (stays_countBits (by decide)) fun _ => ?_
  exact (clears_flushApp mem clears_clearAppn).endsApp

theorem endsApp_probeApp0Body (hP : P → m ≤ 2 ^ 31) {rounds : Nat} (hrounds : 2 ^ 31 < rounds)
    (bufferSize : Nat) : EndsApp P m (probeApp0Body mem rounds bufferSize) := by
  have hflush : EndsApp P m (flushApp mem (pure ())) :=
    (clears_flushApp mem (leads_pure ())).endsApp
  refine Leads.bind (stays_countBits (by decide)) fun _ => ?_
  refine Leads.bind (stays_get2Bytes mem) fun ident => ?_
  refine Leads.bind (stays_countBits (by decide)) fun _ => leads_ite _ hflush ?_
  refine Leads.bind (stays_get2Bytes mem) fun ident => ?_
  refine Leads.bind (stays_countBits (by decide)) fun _ => leads_ite _ hflush ?_
  refine Leads.bind (stays_set (fun _ => rfl) fun _ h => h) fun _ => ?_
  refine Leads.bind (stays_getByte mem) fun ending => ?_
  refine Leads.bind (stays_set (fun _ => rfl) fun _ h => h) fun _ => ?_
  refine Leads.bind (stays_countBits (by decide)) fun _ => leads_ite _ ?_ ?_
  · exact (clears_flushApp mem clears_clearAppn).endsApp
  refine Leads.bind (leads_gets _) fun thumbnail => ?_
  exact leads_ite _ (endsApp_probeThumbnail mem hP hrounds bufferSize) (endsApp_probeJfif mem)

theorem endsApp_probeApp0 (hP : P → m ≤ 2 ^ 31) {rounds : Nat} (hrounds : 2 ^ 31 < rounds)
    (bufferSize : Nat) : EndsApp P m (probeApp0 mem rounds bufferSize) := by
  refine Leads.bind (J := Within P False m jumpSlack) ?_ fun _ => ?_
  · refine leads_modify fun p hp => hp.imp id fun hgoing => ?_
    exact (hgoing.setFlag 0 False.elim).set rfl (Nat.dvd_zero 8)
  refine leads_segmentLength mem (by decide) (Nat.le_succ _) fun L => ?_
  refine Leads.bind (leads_set (fun _ => rfl) fun _ h => h) fun _ => ?_
  refine Leads.mono (I := Within P False m jumpSlack) (leads_ite _ ?_ ?_)
    (fun _ h => h.mono And.left id (Nat.zero_le _)) fun _ h => h
  · refine Leads.bind (J := Within (P ∧ 8 ∣ 16) True m jumpSlack) ?_ fun _ => ?_
    · refine leads_modify fun p hp => hp.imp id fun hgoing => ?_
      exact (hgoing.setFlag 1 fun _ => Nat.one_ne_zero).mono (fun h => ⟨h, by decide⟩) id
        (Nat.le_refl _)
    · exact (leads_flushRestOrFail mem (by decide) trivial L 16 (leads_pure ())).mono
        (fun _ h => h) fun _ h => h.mono id id (Nat.le_succ _)
  · exact endsApp_probeApp0Body mem hP hrounds bufferSize

/-! ### The marker loop -/

theorem endsApp_segment (hP : P → m ≤ 2 ^ 31) {rounds : Nat} (hrounds : 2 ^ 31 < rounds)
    (bufferSize marker : Nat) : EndsApp P m (segment mem rounds bufferSize marker) := by
  refine leads_ite _ (stays_probeFrame mem marker).clears.endsApp ?_
  refine leads_ite _ (stays_probeScan mem).clears.endsApp ?_
  refine leads_ite _ (stays_probeRestart mem).clears.endsApp ?_
  refine leads_ite _ (endsApp_probeApp0 mem hP hrounds bufferSize) ?_
  refine leads_ite _ (stays_jumpOver mem).clears.endsApp ?_
  exact leads_ite _ (leads_exit _) (Clears.endsApp (leads_pure ()))

/-- The slack of the marker loop. -/
def loopSlack : Nat := jumpSlack + 2

/-- **A round of the marker loop** stays inside the stream, and one that does not leave the loop
counts a bit. -/
theorem leads_round {rounds : Nat} (hrounds : 2 ^ 31 < rounds) (bufferSize : Nat) :
    LeadsTo (Within P False m loopSlack)
      (fun go => Within (P ∧ (go = true → m < 2 ^ 31)) False (bif go then m + 1 else m) loopSlack)
      (round mem rounds bufferSize) := by
  have hprefix : ∀ {P : Prop}, Leads (Within P False m 0) (Within P False m 0) (prefixByte mem) :=
    Leads.bind (leads_gets _) fun again => leads_ite _ (leads_pure _)
      (Leads.bind (leads_getByte mem (Nat.zero_le _)) fun b => leads_pure _)
  have hleave : ∀ {P : Prop} {k : Nat}, k ≤ loopSlack → LeadsTo (Within P False m k)
      (fun go => Within (P ∧ (go = true → m < 2 ^ 31)) False (bif go then m + 1 else m) loopSlack)
      (pure false : Probing Bool) := by
    intro P k hk p hp
    exact hp.mono (fun h => ⟨h, fun hgo => absurd hgo Bool.false_ne_true⟩) id hk
  refine leads_ifInside (Leads.bind hprefix fun found => leads_ite _ ?_ ?_) (hleave (Nat.le_refl _))
  · refine Leads.bind (leads_getByte mem (Nat.zero_le _)) fun marker => ?_
    refine Leads.bind (leads_set (fun _ => rfl) fun _ h => h) fun _ => ?_
    refine Leads.bind (J := Within (P ∧ m < 2 ^ 31) False m (jumpSlack + 1)) ?_ fun _ => ?_
    · exact (endsApp_segment mem (fun h => Nat.le_of_lt h.2) hrounds bufferSize marker).mono
        (fun _ h => h.mono id id (Nat.zero_le _)) fun _ h => h
    refine Leads.bind (leads_gets _) fun done => leads_ite _ ?_ ?_
    · intro p hp
      exact hp.mono (fun h => ⟨h.1, fun hgo => absurd hgo Bool.false_ne_true⟩) id (Nat.le_succ _)
    · refine Leads.bind (leads_exitIf _ _) fun _ => Leads.bind (leads_nextBit (by decide)) ?_
      intro _ p hp
      exact hp.mono (fun h => ⟨h.1, fun _ => h.2⟩) id (Nat.le_refl _)
  · exact Leads.bind (leads_exitIf _ _) fun _ => leads_exit _

/-- **The marker loop ends.** -/
theorem wp_probeLoop {rounds : Nat} (hrounds : 2 ^ 31 < rounds) (bufferSize : Nat) {p : Probe}
    (hp : Going True False 0 loopSlack p) :
    wp (loop .rounds (round mem rounds bufferSize) rounds) (fun _ _ => True) (fun _ _ => True)
      (fun _ p => p.stream.Misled) p := by
  refine wp_loop_count (M := 2 ^ 31) (I := fun n => Within (n ≤ 2 ^ 31) False n loopSlack)
    (fun n p hp => ?_) (fun n p hn hp => hp.elim id fun hgoing => ?_) rounds 0 p (by omega) ?_
  · refine wp_mono (leads_round mem hrounds bufferSize p hp) (fun go p' hp' => ?_)
      (fun _ _ h => h) fun _ _ h => h
    cases go with
    | true => exact hp'.mono (fun h => h.2 rfl) id (Nat.le_refl _)
    | false => trivial
  · exact absurd hgoing.known (Nat.not_le_of_gt hn)
  · exact Or.inr (hp.mono (fun _ => Nat.zero_le _) id (Nat.le_refl _))

end segments

end Probe

open Probe in
/-- **`JpegDecGetImageInfo` returns**, whatever the stream holds, and reads no byte outside of it,
unless a segment gave a wrong length. -/
theorem getImageInfo_returns {mem : Nat → UInt8} {rounds : Nat} (hrounds : 2 ^ 31 < rounds)
    {pDecIn : JpegDecInput} {junk : JpegDecImageInfo} {c : JpegDecContainer} {e : Fault} {p : Probe}
    (h : jpegDecGetImageInfo mem rounds pDecIn (probeStart pDecIn junk c) = .fault e p) :
    p.stream.Misled := by
  have hrun : wp (jpegDecGetImageInfo mem rounds pDecIn) (fun _ _ => True) (fun _ _ => True)
      (fun _ p => p.stream.Misled) (probeStart pDecIn junk c) := by
    unfold jpegDecGetImageInfo
    rw [wp_bind, wp_exitIf]
    split
    · trivial
    rw [wp_bind, wp_exitIf]
    split
    · trivial
    rw [wp_bind, wp_exitIf]
    split
    · trivial
    rw [wp_bind, wp_exitIf]
    split
    · trivial
    rename_i hlength hbuffer
    -- behind the checks of the sizes the reader stands at the start of a short stream
    have hstart : Going True False 0 loopSlack (probeStart pDecIn junk c) := by
      refine ⟨trivial, ⟨rfl, Nat.le_refl _, ?_, Nat.zero_le _, ?_⟩, ?_, Nat.dvd_zero 8, False.elim⟩
      · show 8 * (pDecIn.streamBuffer.pVirtualAddress - pDecIn.streamBuffer.pVirtualAddress) ≤ 0
        omega
      · show (if pDecIn.bufferSize = 0 then pDecIn.streamLength else pDecIn.bufferSize) < 2 ^ 28
        unfold BadBufferSize JPEGDEC_RK70_MIN_BUFFER JPEGDEC_RK70_MAX_BUFFER at hlength hbuffer
        unfold DEC_RK70_MAX_STREAM at hlength
        split
        · omega
        · omega
      · rw [Nat.zero_min]
        exact Nat.zero_le _
    refine wp_seq (wp_probeLoop mem hrounds pDecIn.bufferSize hstart) fun _ p' _ => ?_
    rw [wp_bind, wp_exitIf]
    split
    · trivial
    · trivial
  exact wp_fault_of hrun h

/-- A segment whose length is one. -/
def shortLength : List UInt8 := [0xFF, 0xD8, 0xFF, 0xE1, 0, 1, 0xFF, 0xD9]

/-- The probing parser on it. -/
def probeShort : Outcome Fault JpegDecRet Probe Unit :=
  jpegDecGetImageInfo (memoryOf shortLength) (2 ^ 31 + 1) (inputOf shortLength 0)
    (probeStart (inputOf shortLength 0) {} jpegDecInit)

/-- Behind a segment of length one the parser reads half a gigabyte ahead. -/
theorem getImageInfo_returns_short :
    probeShort.IsFault (.stream 536875013) ∧ probeShort.state.stream.Misled := by
  have hfault : probeShort.IsFault (.stream 536875013) := by decide +kernel
  exact ⟨hfault, getImageInfo_returns (Nat.lt_succ_self _) (Outcome.IsFault.eq hfault)⟩

end Jpeg

end Rk3399
