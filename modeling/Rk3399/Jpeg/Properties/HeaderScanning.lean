import Rk3399.Jpeg.Helpers.Position
import Rk3399.Jpeg.Model.Session
/-!
# The end of header scanning

Both marker loops move forward in the stream with every byte they read. At
the end of the stream the readers return `STRM_ERROR` and move no more; the
loops leave where that is the byte behind a marker prefix, and stand still
where it is the byte in front of one.
-/

namespace Rk3399

namespace Jpeg

open Prog Scanning

/-! ## Forward in the stream -/

/-- The position is `r` or beyond, in the stream of `n` bytes from `a` on. -/
structure Past (a n r : Nat) (s : StreamStorage) : Prop where
  start : s.pStartOfStream = a
  length : s.streamLength = n
  pos : r ≤ s.pCurrPos

section past

variable {a n r : Nat} {mem : Nat → UInt8}

theorem forward_past : Forward (Past a n r) where
  advance _ _ h := ⟨h.start, h.length, Nat.le_trans h.pos (Nat.le_add_right _ _)⟩
  account _ _ h := ⟨h.start, h.length, h.pos⟩
  bits _ _ h := ⟨h.start, h.length, h.pos⟩
  note _ _ _ h := ⟨h.start, h.length, h.pos⟩

/-- A flush of the instance goes forward where it reports no error. -/
theorem wp_flush_past {x : Prog Fault JpegDecRet StreamStorage Nat} {c : JpegDecContainer}
    (hx : wp x (fun flushed t => flushed ≠ strmErrorWord → Past a n r t) (fun _ => Past a n r)
      (fun e _ => IsStream e) c.stream) :
    wp (onStream x : Decoder JpegDecRet Nat)
      (fun flushed c' => flushed ≠ strmErrorWord → Past a n r c'.stream) (fun _ _ => True)
      (fun _ _ => True) c := by
  unfold onStream
  rw [wp_zoom]
  exact wp_mono hx (fun _ _ h => h) (fun _ _ _ => trivial) fun _ _ _ => trivial

theorem past_skipSegment (L : Nat) {s : StreamStorage} (h : Past a n r s) :
    Past a n r (s.skipSegment L) := by
  unfold StreamStorage.skipSegment
  split
  · exact forward_past.advance _ _ (forward_past.account _ _ (forward_past.note _ _ _ h))
  · exact h

theorem reads_past (mem : Nat → UInt8) : Reads mem (fun _ _ => True) (Past a n r) where
  byte := (keeps_jpegDecGetByte mem forward_past).mono (fun _ h => h) fun _ _ _ => trivial
  bytes := (keeps_jpegDecGet2Bytes mem forward_past).mono (fun _ h => h) fun _ _ _ => trivial
  index _ _ _ := trivial
  heap _ _ _ := trivial
  rounds _ _ := trivial

/-- **Every segment goes forward.** -/
theorem moves_past (env : Env) : Moves env (fun _ _ => True) (fun _ => True) (Past a n r) where
  toReads := reads_past env.mem
  exit _ _ := trivial
  jump := by
    refine keeps_bind (((parses_get2Bytes standing_stream).stream (reads_past env.mem)).mono
      (fun _ _ => trivial) fun _ _ h => h) fun L => ?_
    refine keeps_bind (keeps_exitIf (fun _ _ => trivial) _ _) fun _ => ?_
    exact keeps_modify fun _ h => past_skipSegment L h
  flush := by
    intro L k _
    refine keeps_bind (keeps_modify fun _ h => ⟨h.start, h.length, h.pos⟩) fun _ => ⟨fun c hc => ?_⟩
    refine wp_seq (wp_flush_past (wp_flushSegment_forward env.mem forward_past L k hc)) ?_
    intro flushed c' h
    rw [wp_bind, wp_exitIf]
    split
    · trivial
    · next hne => exact ⟨(h hne).start, (h hne).length, (h hne).pos⟩
  stuffing := by
    refine keeps_whenever _ ⟨fun c hc => ?_⟩
    rw [wp_bind, wp_gets]
    refine wp_seq (wp_flush_past (wp_jpegDecFlushBits_forward env.mem forward_past _ hc)) ?_
    intro flushed c' h
    rw [wp_exitIf]
    split
    · trivial
    · next hne => exact h hne
  thumbnail _ h := ⟨⟨h.start, h.length, h.pos⟩, ⟨h.start, h.length, h.pos⟩⟩

end past

/-! ## Reading a byte -/

section byte

variable {mem : Nat → UInt8} {s : StreamStorage}

theorem jpegDecGetByte_of_short (h : s.Short 8) :
    (jpegDecGetByte mem : Prog Fault JpegDecRet StreamStorage Nat) s = .next strmErrorWord s := by
  unfold jpegDecGetByte
  rw [bind_next (show gets _ s = Outcome.next (decide (s.Short 8)) s from rfl), decide_eq_true h]
  rfl

theorem wp_deref_inRange (k : Nat) :
    wp (deref mem k : Prog Fault JpegDecRet StreamStorage Nat)
      (fun _ s' => s' = s ∧ s.InRange (s.pCurrPos + k)) (fun _ _ => True) (fun _ _ => True) s := by
  unfold wp deref
  by_cases h : s.InRange (s.pCurrPos + k)
  · rw [if_pos h]
    exact ⟨rfl, h⟩
  · rw [if_neg h]
    trivial

/-- **A byte**: the end of the stream, where the position stays, or one byte forward. -/
theorem wp_jpegDecGetByte_forward :
    wp (jpegDecGetByte mem : Prog Fault JpegDecRet StreamStorage Nat)
      (fun b s' => (s.Short 8 ∧ b = strmErrorWord ∧ s' = s) ∨
        (s.pCurrPos ≤ s.pStartOfStream + s.streamLength ∧
          Past s.pStartOfStream s.streamLength (s.pCurrPos + 1) s'))
      (fun _ _ => True) (fun _ _ => True) s := by
  by_cases hshort : s.Short 8
  · exact (wp_of_next (jpegDecGetByte_of_short hshort)).mpr (Or.inl ⟨hshort, rfl, rfl⟩)
  unfold jpegDecGetByte
  rw [wp_bind, wp_gets, wp_ite, if_neg (by simpa using hshort)]
  refine wp_seq (wp_deref_inRange 0) ?_
  rintro b0 _ ⟨rfl, hin⟩
  rw [wp_bind, wp_modify]
  refine wp_seq (wp_deref_inRange 0) ?_
  rintro b1 _ ⟨rfl, -⟩
  rw [wp_bind, wp_gets, wp_bind, wp_modify, wp_pure]
  exact Or.inr ⟨hin.2, rfl, rfl, Nat.le_refl _⟩

end byte

/-! ## The end of the stream -/

/-- A round reads the end of the stream where a marker prefix is due, and the loop goes on: no
header is ready, and the byte behind the last prefix was no end of the stream. -/
def AtEnd (s : Scanning) : Prop :=
  s.cont.stream.Short 8 ∧ s.currentByte ≠ strmErrorWord ∧ s.cont.image.headerReady = 0 ∧
    s.cont.stream.readBits / 8 ≤ s.cont.stream.streamLength

/-- The loop of `JpegDecDecode` stands still; where the last byte was `0xFF` it takes it for a
prefix once more. -/
def Stalled (s : Scanning) : Prop := AtEnd s ∧ s.currentByte ≠ 0xFF

/-- What is left of the stream, and whether its end was read behind a prefix. -/
def remaining (s : Scanning) : Nat :=
  2 * (s.cont.stream.pStartOfStream + s.cont.stream.streamLength + 1 - s.cont.stream.pCurrPos) +
    if s.currentByte = strmErrorWord then 0 else 1

section rounds

variable {env : Env} {s s' : Scanning}

theorem remaining_lt
    (hin : s.cont.stream.pCurrPos ≤ s.cont.stream.pStartOfStream + s.cont.stream.streamLength)
    (h : Past s.cont.stream.pStartOfStream s.cont.stream.streamLength (s.cont.stream.pCurrPos + 1)
      s'.cont.stream) : remaining s' < remaining s := by
  obtain ⟨hstart, hlength, hpos⟩ := h
  unfold remaining
  rw [hstart, hlength]
  split <;> split <;> omega

/-- A byte that is no prefix: the loop is left or goes on from the same state. -/
theorem wp_noMarker :
    wp noMarker (fun go s' => s' = s ∧ (go = true ↔ s.currentByte ≠ strmErrorWord ∧
        s.cont.image.headerReady = 0 ∧
        s.cont.stream.readBits / 8 ≤ s.cont.stream.streamLength))
      (fun _ _ => False) (fun _ _ => False) s := by
  unfold noMarker
  rw [wp_bind, wp_gets]
  by_cases h : s.currentByte = strmErrorWord
  · rw [decide_eq_true h]
    exact ⟨rfl, iff_of_false Bool.false_ne_true fun hgo => hgo.1 h⟩
  · rw [decide_eq_false h]
    refine ⟨rfl, ?_⟩
    rw [decide_eq_true_eq]
    exact (and_iff_right h).symm

/-- A byte in front of which the state is `s`. -/
theorem wp_onCont_getByte {N : Nat → Scanning → Prop} {X : JpegDecRet → Scanning → Prop}
    {F : Fault → Scanning → Prop} :
    wp (onCont (getByte env.mem)) N X F s ↔
      wp (jpegDecGetByte env.mem : Prog Fault JpegDecRet StreamStorage Nat)
        (fun b t => N b { s with cont := { s.cont with stream := t } })
        (fun r t => X r { s with cont := { s.cont with stream := t } })
        (fun e t => F e { s with cont := { s.cont with stream := t } }) s.cont.stream := by
  unfold onCont getByte Jpeg.onStream
  rw [wp_zoom, wp_zoom]

/-- **A round of `JpegDecNextScanHdrs`** moves forward or stands still at the end. -/
theorem wp_nextScanRound_progress :
    wp (nextScanRound env) (fun go s' => go = true → ¬ AtEnd s → remaining s' < remaining s)
      (fun _ _ => True) (fun _ _ => True) s := by
  unfold nextScanRound
  rw [wp_bind, wp_onCont_getByte]
  refine wp_mono wp_jpegDecGetByte_forward ?_ (fun _ _ _ => trivial) fun _ _ _ => trivial
  rintro b t (⟨hshort, rfl, rfl⟩ | ⟨hin, hpast⟩)
  · rw [if_neg (by decide)]
    refine wp_mono wp_noMarker ?_ (fun _ _ _ => trivial) fun _ _ _ => trivial
    rintro go s' ⟨-, hgo⟩ htrue hnot
    exact absurd ⟨hshort, hgo.mp htrue⟩ hnot
  · rw [wp_ite]
    split
    · refine wp_mono ((keepsScan_marker (moves_past env) fun m => keepsScan_onCont
        (keepsStream_nextScanSegment (moves_past env) m)).run _ hpast) ?_
        (fun _ _ _ => trivial) fun _ _ _ => trivial
      exact fun go s' h _ _ => remaining_lt hin h
    · refine wp_mono wp_noMarker ?_ (fun _ _ _ => trivial) fun _ _ _ => trivial
      rintro go s' ⟨rfl, -⟩ _ _
      exact remaining_lt hin hpast

/-- The end of the stream is no marker. -/
theorem decodeSegment_strmError (decImageType : Nat) :
    decodeSegment env decImageType strmErrorWord = pure () := by
  unfold decodeSegment
  rw [if_neg (by decide), if_neg (by decide), if_neg (by decide), if_neg (by decide),
    if_neg (by decide), if_neg (by decide), if_neg (by decide), if_neg (by decide),
    if_neg (by decide), if_neg (by decide)]

/-- A marker moves forward, or reads the end of the stream and notes it. -/
theorem wp_marker_progress (decImageType : Nat) :
    wp (marker env (decodeSegment env decImageType))
      (fun go s' => go = true → s.currentByte = 0xFF → remaining s' < remaining s)
      (fun _ _ => True) (fun _ _ => True) s := by
  unfold marker
  rw [wp_bind, wp_onCont_getByte]
  refine wp_mono wp_jpegDecGetByte_forward ?_ (fun _ _ _ => trivial) fun _ _ _ => trivial
  rintro b t (⟨-, rfl, rfl⟩ | ⟨hin, hpast⟩)
  · rw [decodeSegment_strmError, wp_bind, wp_modify, wp_bind, wp_pure]
    intro _ hagain
    unfold remaining
    rw [hagain]
    exact Nat.lt_succ_self _
  · rw [wp_bind, wp_modify]
    refine wp_seq ((keepsScan_decodeSegment (moves_past env) decImageType b).run _ hpast) ?_
    intro _ s' h _ _
    exact remaining_lt hin h

/-- **A round of the loop of `JpegDecDecode`** moves forward, notes the end of the stream, or
stands still at it. -/
theorem wp_decodeRound_progress (decImageType : Nat) :
    wp (decodeRound env decImageType)
      (fun go s' => go = true → ¬ Stalled s → remaining s' < remaining s)
      (fun _ _ => True) (fun _ _ => True) s := by
  unfold decodeRound
  rw [wp_bind, wp_gets, wp_ite]
  split
  · exact fun h => absurd h Bool.false_ne_true
  rw [wp_bind]
  unfold decodePrefix
  rw [wp_bind, wp_gets, wp_ite]
  split
  · next hagain =>
    rw [wp_pure, if_pos rfl]
    refine wp_mono (wp_marker_progress decImageType) ?_ (fun _ _ _ => trivial) fun _ _ _ => trivial
    exact fun go s' h hgo _ => h hgo (of_decide_eq_true hagain)
  · next hagain =>
    rw [wp_bind, wp_onCont_getByte]
    refine wp_mono wp_jpegDecGetByte_forward ?_ (fun _ _ _ => trivial) fun _ _ _ => trivial
    rintro b t (⟨hshort, rfl, rfl⟩ | ⟨hin, hpast⟩)
    · rw [wp_pure, if_neg (by decide)]
      refine wp_mono wp_noMarker ?_ (fun _ _ _ => trivial) fun _ _ _ => trivial
      rintro go s' ⟨-, hgo⟩ htrue hnot
      exact absurd ⟨⟨hshort, hgo.mp htrue⟩, fun h => hagain (decide_eq_true h)⟩ hnot
    · rw [wp_pure, wp_ite]
      split
      · refine wp_mono ((keepsScan_marker (moves_past env)
          (keepsScan_decodeSegment (moves_past env) decImageType)).run _ hpast) ?_
          (fun _ _ _ => trivial) fun _ _ _ => trivial
        exact fun go s' h _ _ => remaining_lt hin h
      · refine wp_mono wp_noMarker ?_ (fun _ _ _ => trivial) fun _ _ _ => trivial
        rintro go s' ⟨rfl, -⟩ _ _
        exact remaining_lt hin hpast

/-! ## Loops that end -/

theorem wp_onCont_getByte_of_short (h : s.cont.stream.Short 8) {N : Nat → Scanning → Prop}
    {X : JpegDecRet → Scanning → Prop} {F : Fault → Scanning → Prop} :
    wp (onCont (getByte env.mem)) N X F s ↔ N strmErrorWord s := by
  rw [wp_onCont_getByte, wp_of_next (jpegDecGetByte_of_short h)]

theorem noMarker_of_atEnd (h : AtEnd s) :
    (noMarker s : Outcome Fault JpegDecRet Scanning Bool) = .next true s := by
  refine next_of_wp (wp_mono wp_noMarker ?_ (fun _ _ h => h) fun _ _ h => h)
  rintro go s' ⟨rfl, hgo⟩
  exact ⟨hgo.mpr h.2, rfl⟩

theorem nextScanRound_of_atEnd (h : AtEnd s) : nextScanRound env s = .next true s := by
  refine next_of_wp ?_
  unfold nextScanRound
  rw [wp_bind, wp_onCont_getByte_of_short h.1, if_neg (by decide),
    wp_of_next (noMarker_of_atEnd h)]
  exact ⟨rfl, rfl⟩

theorem decodeRound_of_stalled (decImageType : Nat) (h : Stalled s) :
    decodeRound env decImageType s = .next true s := by
  obtain ⟨hend, hagain⟩ := h
  refine next_of_wp ?_
  unfold decodeRound
  rw [wp_bind, wp_gets, wp_ite, if_neg (fun h => (of_decide_eq_true h).1 hend.2.2.1), wp_bind]
  unfold decodePrefix
  rw [wp_bind, wp_gets, wp_ite, if_neg (fun h => hagain (of_decide_eq_true h)), wp_bind,
    wp_onCont_getByte_of_short hend.1, wp_pure, wp_ite, if_neg (by decide),
    wp_of_next (noMarker_of_atEnd hend)]
  exact ⟨rfl, rfl⟩

/-- **When the loop of `JpegDecDecode` ends.** -/
theorem decodeLoop_leaves_iff (env : Env) (decImageType : Nat) (s : Scanning) :
    (∃ n, Leaves (loop .rounds (decodeRound env decImageType) n) s) ↔
      ∀ s', Rounds (decodeRound env decImageType) s s' →
        ¬ Stalled s' ∧ Leaves (decodeRound env decImageType) s' :=
  leaves_loop_iff remaining (fun _ h => decodeRound_of_stalled decImageType h)
    (fun _ _ hnot h => wp_next (wp_decodeRound_progress decImageType) h rfl hnot) s

/-- **When the loop of `JpegDecNextScanHdrs` ends.** -/
theorem nextScanLoop_leaves_iff (env : Env) (s : Scanning) :
    (∃ n, Leaves (loop .rounds (nextScanRound env) n) s) ↔
      ∀ s', Rounds (nextScanRound env) s s' → ¬ AtEnd s' ∧ Leaves (nextScanRound env) s' :=
  leaves_loop_iff remaining (fun _ h => nextScanRound_of_atEnd h)
    (fun _ _ hnot h => wp_next wp_nextScanRound_progress h rfl hnot) s

end rounds

/-! ## Both loops -/

/-- The marker loop of `JpegDecDecode` starts from the instance `c'` in a call on `c`. -/
def Scans (env : Env) (junk : JpegDecImageInfo) (pDecIn : JpegDecInput) (c c' : JpegDecContainer) :
    Prop :=
  (do openStream env junk pDecIn
      checkPicture pDecIn
      modify (startStreaming pDecIn) : Decoder JpegDecRet Unit) c = .next () c'

/-- **Header scanning ends**: enough rounds take both marker loops to a way out. -/
structure ScanningEnds (env : Env) (decImageType : Nat) (c : JpegDecContainer) : Prop where
  decode : ∃ n, Leaves (loop .rounds (decodeRound env decImageType) n) { cont := c }
  nextScan : ∃ n, Leaves (loop .rounds (nextScanRound env) n)
    { cont := { c with image.headerReady := 0 } }

/-- **When header scanning ends**, for every instance, stream and memory: where no round of either
loop starts at the end of the stream with a prefix due, and none does what C gives no meaning to. -/
theorem scanningEnds_iff (env : Env) (decImageType : Nat) (c : JpegDecContainer) :
    ScanningEnds env decImageType c ↔
      (∀ s, Rounds (decodeRound env decImageType) { cont := c } s →
        ¬ Stalled s ∧ Leaves (decodeRound env decImageType) s) ∧
      ∀ s, Rounds (nextScanRound env) { cont := { c with image.headerReady := 0 } } s →
        ¬ AtEnd s ∧ Leaves (nextScanRound env) s := by
  rw [← decodeLoop_leaves_iff, ← nextScanLoop_leaves_iff]
  exact ⟨fun h => ⟨h.decode, h.nextScan⟩, fun h => ⟨h.1, h.2⟩⟩

/-- The call up to the marker loop, for a stream of one zero byte. -/
def scanZero (c : JpegDecContainer) : Outcome Fault JpegDecRet JpegDecContainer Unit :=
  (do openStream (envOf [0] readyRegs).toEnv {} (inputOf [0] 0)
      checkPicture (inputOf [0] 0)
      modify (startStreaming (inputOf [0] 0)) : Decoder JpegDecRet Unit) c

/-- An instance that decoded a picture. -/
def usedInstance : JpegDecContainer :=
  ((Step.decode (envOf (plainPicture 48 48 0) readyRegs) (inputOf (plainPicture 48 48 0) 0)).run
    jpegDecInit).state

theorem reachable_usedInstance : Reachable usedInstance :=
  .step (.decode (envOf (plainPicture 48 48 0) readyRegs) (inputOf (plainPicture 48 48 0) 0))
    .init trivial (.inr ⟨.frameReady, Outcome.IsExit.eq (by decide +kernel)⟩)

/-- **A stream of one byte** behind a picture: the loop of `JpegDecDecode` never ends. -/
theorem not_scanningEnds :
    ¬ ∀ c, Reachable c → ∀ (env : Env) (junk : JpegDecImageInfo) (pDecIn : JpegDecInput) c',
      Scans env junk pDecIn c c' → ScanningEnds env pDecIn.decImageType c' := by
  intro hall
  have hscans : Scans (envOf [0] readyRegs).toEnv {} (inputOf [0] 0) usedInstance
      (scanZero usedInstance).state := Outcome.IsNext.eq (by decide +kernel)
  have hends := (hall _ reachable_usedInstance _ _ _ _ hscans).decode
  -- the first round reads the byte, the second stands still
  let s0 : Scanning := { cont := (scanZero usedInstance).state }
  let s1 := (decodeRound (envOf [0] readyRegs).toEnv 0 s0).state
  have hround : decodeRound (envOf [0] readyRegs).toEnv 0 s0 = .next true s1 :=
    Outcome.IsNext.eq (by decide +kernel)
  have hstalled : Stalled s1 := by
    unfold Stalled AtEnd
    decide +kernel
  exact ((decodeLoop_leaves_iff _ 0 s0).mp hends s1 (.step .refl hround)).1 hstalled

end Jpeg

end Rk3399
