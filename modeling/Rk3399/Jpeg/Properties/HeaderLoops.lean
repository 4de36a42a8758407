import Rk3399.Jpeg.Helpers.Inside
import Rk3399.Jpeg.Helpers.Position
import Rk3399.Jpeg.Helpers.SideBySide
import Rk3399.Jpeg.Model.Session
/-!
# The two header loops

`JpegDecDecode` and `JpegDecNextScanHdrs` read headers in loops of their own.
They end the same way, and leave the same tables, scan header and position,
as long as no round starts behind a fill byte, which the loop of
`JpegDecDecode` takes for a prefix once more, and no marker is one of the
three that only one of them has a case for.
-/

namespace Rk3399

namespace Jpeg

open Prog Scanning StreamStorage

variable {env : Env} {decImageType : Nat}

/-! ## Where the loops read alike -/

/-- An APP0 segment of an image that lies in the stream: `JpegDecDecode` flushes it where
`JpegDecNextScanHdrs` jumps over it. -/
def FlushesLikeJump (env : Env) (decImageType : Nat) (c : JpegDecContainer) : Prop :=
  decImageType ≠ JPEGDEC_THUMBNAIL ∧
    ∀ L c', get2Bytes env.mem c = (.next L c' : Outcome Fault JpegDecRet JpegDecContainer Nat) →
      L ≠ 0 ∧ L ≠ strmErrorWord ∧ ¬ c'.stream.Short (restOf L 16)

/-- The segment of a marker is read alike: it is no frame header. -/
def SegmentAlike (env : Env) (decImageType marker : Nat) (c : JpegDecContainer) : Prop :=
  marker ≠ SOF0 ∧ marker ≠ SOF2 ∧ (marker = APP0 → FlushesLikeJump env decImageType c)

/-- **A round that both loops read alike**: it does not start behind a fill byte, and where it
comes to a marker, the segment is read alike. -/
def RoundAlike (env : Env) (decImageType : Nat) (s : Scanning) : Prop :=
  s.currentByte ≠ 0xFF ∧
    ∀ s1 marker s2, onCont (getByte env.mem) s = .next 0xFF s1 →
      onCont (getByte env.mem) s1 = .next marker s2 →
        SegmentAlike env decImageType marker s2.cont

/-- The loops are in the same state but for the notes of `JpegDecDecode` on the segments it came
across. -/
structure Agree (s t : Scanning) : Prop where
  cont : SameButDri s.cont t.cont
  currentByte : s.currentByte = t.currentByte

/-! ## The test for stuffing -/

section stuffing

variable (env)

/-- Every segment leaves the test for stuffing switched on, unless reading ends with it. -/
theorem moves_appn : Moves env (fun _ _ => True) (fun _ => True) (fun s => s.appnFlag = 0) where
  byte := ⟨fun s hs => wp_mono ((unmoved_appnFlag.getByte env.mem 0).run s hs) (fun _ _ h => h)
    (fun _ _ h => h) fun _ _ _ => trivial⟩
  bytes := ⟨fun s hs => wp_mono ((unmoved_appnFlag.get2Bytes env.mem 0).run s hs) (fun _ _ h => h)
    (fun _ _ h => h) fun _ _ _ => trivial⟩
  index _ _ _ := trivial
  heap _ _ _ := trivial
  rounds _ _ := trivial
  exit _ _ := trivial
  jump := by
    refine ⟨fun c hc => ?_⟩
    unfold jumpSegment get2Bytes onStream
    rw [wp_bind, wp_zoom]
    refine wp_mono ((unmoved_appnFlag.get2Bytes env.mem 0).run c.stream hc) (fun L t ht => ?_)
      (fun _ _ _ => trivial) fun _ _ _ => trivial
    rw [wp_bind, wp_exitIf]
    split
    · trivial
    · -- the jump moves the reader only
      show (t.skipSegment L).appnFlag = 0
      unfold skipSegment
      split
      · exact ht
      · exact ht
  flush := by
    intro L n _
    refine ⟨fun c _ => ?_⟩
    unfold flushApp0
    refine wp_seq (M := fun _ _ => True) trivial fun _ d _ => ?_
    refine wp_seq (wp_any _ d) fun flushed d' _ => ?_
    rw [wp_bind, wp_exitIf]
    split
    · trivial
    · rfl
  stuffing := by
    refine ⟨fun c hc => ?_⟩
    unfold deleteStuffing flushBits onStream
    rw [wp_whenever]
    split
    · rw [wp_bind, wp_gets, wp_bind, wp_zoom]
      refine wp_mono ((unmoved_appnFlag.flushBits env.mem _ 0).run c.stream hc) (fun b t ht => ?_)
        (fun _ _ _ => trivial) fun _ _ _ => trivial
      rw [wp_exitIf]
      split
      · trivial
      · exact ht
    · exact hc
  thumbnail _ h := ⟨rfl, h⟩

end stuffing

/-! ## Segments -/

section segments

variable {α : Type} {s t : Scanning}

theorem Agree.onCont {x y : Decoder JpegDecRet α} (h : Agree s t)
    (hend : SameEnd SameButDri (x s.cont) (y t.cont)) :
    SameEnd Agree (Scanning.onCont x s) (Scanning.onCont y t) := by
  unfold Scanning.onCont zoom
  generalize x s.cont = o, y t.cont = o' at hend ⊢
  cases hend with
  | next a hc => exact .next a ⟨hc, h.currentByte⟩
  | exit r hc => exact .exit r ⟨hc, h.currentByte⟩
  | fault e hc => exact .fault e ⟨hc, h.currentByte⟩

theorem agree_onCont {x : Decoder JpegDecRet α} (hx : Blind x) :
    Related Agree (onCont x) (onCont x) :=
  ⟨fun s t h => h.onCont (hx.run s.cont t.cont h.cont)⟩

/-- A segment `JpegDecDecode` makes a note on. -/
theorem agree_note {x : Decoder JpegDecRet Unit} (hx : Blind x) {f : Scanning → Scanning}
    (hf : ∀ s t, Agree s t → Agree (f s) t) :
    Related Agree (do onCont x; modify f) (onCont x) := by
  refine ⟨fun s t h => ?_⟩
  show SameEnd Agree (Prog.bind (onCont x) (fun _ => modify f) s) (onCont x t)
  unfold Prog.bind
  have hend := (agree_onCont hx).run s t h
  generalize onCont x s = o, onCont x t = o' at hend ⊢
  cases hend with
  | next a h' => exact .next () (hf _ _ h')
  | exit r h' => exact .exit r h'
  | fault e h' => exact .fault e h'

theorem blind_endSegment : Blind endSegment :=
  related_bind (blind_exitIf _ fun _ _ => Iff.rfl) fun _ => related_exit _

/-- A flush with the test for stuffing switched off goes to the end of a segment that lies in
the stream. -/
theorem flushSegment_appn {ρ : Type} (mem : Nat → UInt8) {s : StreamStorage} {L n : Nat}
    (happn : s.appnFlag ≠ 0) (hwhole : restOf L n % 8 = 0) (hshort : ¬ s.Short (restOf L n)) :
    (flushSegment mem L n : Prog Fault ρ StreamStorage Nat) s =
      .next 0 (((s.note L n).account (restOf L n)).advance (restOf L n / 8)) := by
  refine next_of_wp ?_
  unfold flushSegment jpegDecFlushBits
  rw [wp_bind, wp_modify, if_neg hshort, wp_bind, wp_gets, wp_ite]
  have hgoes : ¬ decide ((s.note L n).Short (restOf L n)) = true :=
    fun hstops => hshort (of_decide_eq_true hstops)
  rw [if_neg hgoes]
  rw [wp_bind, wp_flushBytes_appn mem (show (s.note L n).appnFlag ≠ 0 from happn), hwhole]
  exact ⟨rfl, rfl⟩

/-- **An APP0 segment that lies in the stream** is flushed like it is jumped over. -/
theorem flushApp0_eq {c : JpegDecContainer} {L : Nat} (hL : L ≠ 0)
    (hshort : ¬ c.stream.Short (restOf L 16)) (happn : c.stream.appnFlag = 0) :
    flushApp0 env L 16 c = .next () { c with stream := c.stream.skipSegment L } := by
  have hwhole : restOf L 16 % 8 = 0 := by
    unfold restOf sub32 u32
    omega
  have hflush : (flushSegment env.mem L 16 : Prog Fault JpegDecRet StreamStorage Nat)
      { c.stream with appnFlag := 1 } = .next 0 _ :=
    flushSegment_appn env.mem Nat.one_ne_zero hwhole hshort
  refine next_of_wp ?_
  unfold flushApp0 flushSegmentBits onStream
  rw [wp_bind, wp_modify, wp_bind, wp_zoom, wp_of_next hflush, wp_bind, wp_exitIf,
    if_neg (by decide), wp_modify]
  refine ⟨rfl, ?_⟩
  unfold skipSegment
  rw [if_pos hL, ← happn]
  rfl

theorem app0_agree {c c' : JpegDecContainer} (h : SameButDri c c') (happn : c.stream.appnFlag = 0)
    (hlike : FlushesLikeJump env decImageType c) :
    SameEnd SameButDri (app0Image env c) (jumpSegment env c') := by
  refine ((blind_get2Bytes env.mem).run c c' h).bind fun L d d' hread hd => ?_
  obtain ⟨hL, hend, hshort⟩ := hlike.2 L d hread
  have hflag : d.stream.appnFlag = 0 := wp_next ((moves_appn env).get2Bytes.run c happn) hread
  have hgoes : (do
      exitIf .strmError fun _ => L = strmErrorWord
      modify fun c => { c with stream := c.stream.skipSegment L } : Decoder JpegDecRet Unit) d' =
        .next () { d' with stream := d'.stream.skipSegment L } :=
    bind_next (exitIf_of_not _ hend)
  show SameEnd SameButDri (flushApp0 env L 16 d) _
  rw [flushApp0_eq hL hshort hflag, hgoes]
  obtain ⟨n, rfl⟩ := hd
  exact .next () ⟨n, rfl⟩

/-- **A segment** that both loops have a case for. -/
theorem segment_agree {marker : Nat} (h : Agree s t) (happn : s.cont.stream.appnFlag = 0)
    (halike : SegmentAlike env decImageType marker s.cont) :
    SameEnd Agree (decodeSegment env decImageType marker s)
      (onCont (nextScanSegment env marker) t) := by
  obtain ⟨h0, h2, happ0⟩ := halike
  unfold decodeSegment nextScanSegment
  -- neither loop is at a frame header, and the kinds of segment come in the same order
  rw [if_neg (by omega)]
  split
  · exact (agree_onCont (blind_scanSegment env)).run s t h
  split
  · have hnote : ∀ s t, Agree s t → Agree { s with findhufftable := 1 } t :=
      fun _ _ h => ⟨h.cont, h.currentByte⟩
    exact (agree_note (blind_jpegDecDecodeHuffmanTables env.mem) hnote).run s t h
  split
  · exact (agree_onCont (blind_jpegDecDecodeQuantTables env.mem)).run s t h
  split
  · exact (agree_onCont blind_endSegment).run s t h
  split
  · have hnote : ∀ s t, Agree s t → Agree { s with cont.driEn := 0xFFD0 } t := by
      rintro s t ⟨⟨d, hd⟩, hbyte⟩
      exact ⟨⟨t.cont.driEn, by rw [hd]⟩, hbyte⟩
    exact (agree_note (blind_restartSegment env) hnote).run s t h
  split
  · exact (agree_onCont blind_clearPredictors).run s t h
  split
  · exact .exit _ h
  · -- only `JpegDecDecode` looks into an APP0 segment
    by_cases hmarker : marker = APP0
    · obtain ⟨himage, hread⟩ := happ0 hmarker
      rw [if_pos hmarker, if_neg himage, if_pos (show IsScanJump marker from Or.inl hmarker)]
      exact h.onCont (app0_agree h.cont happn ⟨himage, hread⟩)
    · rw [if_neg hmarker]
      split
      · rename_i hjump
        rw [if_pos (show IsScanJump marker from Or.inr hjump)]
        exact (agree_onCont (blind_jumpSegment env)).run s t h
      · rename_i hjump
        rw [if_neg (show ¬ IsScanJump marker from fun hscan => hscan.elim hmarker hjump)]
        exact .next () h

end segments

/-! ## Rounds -/

section rounds

variable {s t : Scanning}

theorem related_goOn : Related Agree goOn goOn := by
  refine related_gets ?_
  rintro s t ⟨⟨d, hd⟩, -⟩
  rw [hd]

theorem related_noMarker : Related Agree noMarker noMarker := by
  refine related_bind (related_gets fun s t h => ?_) fun atEnd => ?_
  · rw [h.currentByte]
  · exact related_ite _ (related_pure _) related_goOn

/-- `JpegDecDecode` reads the prefix where it is not behind a fill byte. -/
theorem decodePrefix_eq (hbyte : s.currentByte ≠ 0xFF) :
    decodePrefix env s =
      (do return decide ((← onCont (getByte env.mem)) = 0xFF) : Prog Fault JpegDecRet Scanning Bool)
        s := by
  have hgets : gets (fun s : Scanning => decide (s.currentByte = 0xFF)) s =
      (.next false s : Outcome Fault JpegDecRet Scanning Bool) := by simp [gets, hbyte]
  exact bind_next hgets

/-- A round of `JpegDecDecode`, before a header is ready. -/
theorem decodeRound_eq (hready : s.cont.image.headerReady = 0) (hbyte : s.currentByte ≠ 0xFF) :
    decodeRound env decImageType s = (do
      if (← onCont (getByte env.mem)) = 0xFF then
        marker env (decodeSegment env decImageType)
      else
        noMarker : Prog Fault JpegDecRet Scanning Bool) s := by
  have hgets : gets (fun s : Scanning =>
      decide (s.cont.image.headerReady ≠ 0 ∧ s.cont.info.SliceReadyForPause ≠ 0)) s =
      (.next false s : Outcome Fault JpegDecRet Scanning Bool) := by simp [gets, hready]
  have hfound : decodePrefix env s = _ := decodePrefix_eq hbyte
  unfold decodeRound
  rw [bind_next hgets, if_neg Bool.false_ne_true]
  cases hread : onCont (getByte env.mem) s with
  | next b s1 =>
    rw [bind_next hread] at hfound
    rw [bind_next hfound, bind_next hread]
    simp only [decide_eq_true_eq]
  | exit r s1 => rw [bind_exit (hfound.trans (bind_exit hread)), bind_exit hread]
  | fault e s1 => rw [bind_fault (hfound.trans (bind_fault hread)), bind_fault hread]

/-- **A round** that both loops read alike. -/
theorem round_agree (h : Agree s t) (hready : s.cont.image.headerReady = 0)
    (happn : s.cont.stream.appnFlag = 0) (halike : RoundAlike env decImageType s) :
    SameEnd Agree (decodeRound env decImageType s) (nextScanRound env t) := by
  obtain ⟨hbyte, hsegment⟩ := halike
  have hbyte_appn := (keepsScan_onCont (moves_appn env).getByte).run
  rw [decodeRound_eq hready hbyte]
  unfold nextScanRound
  refine ((agree_onCont (blind_getByte env.mem)).run s t h).bind fun b s1 t1 hb h1 => ?_
  split
  · rename_i hprefix
    subst hprefix
    have happn1 : s1.cont.stream.appnFlag = 0 := wp_next (hbyte_appn s happn) hb
    refine ((agree_onCont (blind_getByte env.mem)).run s1 t1 h1).bind fun m s2 t2 hm h2 => ?_
    have happn2 : s2.cont.stream.appnFlag = 0 := wp_next (hbyte_appn s1 happn1) hm
    show SameEnd Agree ((do decodeSegment env decImageType m; goOn) { s2 with currentByte := m })
      ((do onCont (nextScanSegment env m); goOn) { t2 with currentByte := m })
    have h2' : Agree { s2 with currentByte := m } { t2 with currentByte := m } := ⟨h2.cont, rfl⟩
    refine (segment_agree h2' happn2 (hsegment s1 m s2 hb hm)).bind ?_
    exact fun _ s3 t3 _ h3 => related_goOn.run s3 t3 h3
  · exact related_noMarker.run s1 t1 h1

/-- `x` goes round once more only where no header is ready. -/
def GoesOnUnready (x : Prog Fault JpegDecRet Scanning Bool) : Prop :=
  ∀ s, wp x (fun go s' => go = true → s'.cont.image.headerReady = 0) (fun _ _ => True)
    (fun _ _ => True) s

theorem goesOnUnready_bind {α : Type} {x : Prog Fault JpegDecRet Scanning α}
    {f : α → Prog Fault JpegDecRet Scanning Bool} (hf : ∀ a, GoesOnUnready (f a)) :
    GoesOnUnready (x >>= f) := fun s => wp_seq (wp_any x s) fun a s' _ => hf a s'

theorem goesOnUnready_ite (p : Prop) [Decidable p] {x y : Prog Fault JpegDecRet Scanning Bool}
    (hx : GoesOnUnready x) (hy : GoesOnUnready y) : GoesOnUnready (if p then x else y) := by
  split
  · exact hx
  · exact hy

theorem goesOnUnready_stop : GoesOnUnready (pure false) := fun _ => nofun

theorem goesOnUnready_goOn : GoesOnUnready goOn := fun _ hgo => (of_decide_eq_true hgo).1

theorem goesOnUnready_decodeRound : GoesOnUnready (decodeRound env decImageType) := by
  refine goesOnUnready_bind fun ready => goesOnUnready_ite _ goesOnUnready_stop ?_
  refine goesOnUnready_bind fun atMarker => goesOnUnready_ite _ ?_ ?_
  · refine goesOnUnready_bind fun m => goesOnUnready_bind fun _ => ?_
    exact goesOnUnready_bind fun _ => goesOnUnready_goOn
  · refine goesOnUnready_bind fun atEnd => ?_
    exact goesOnUnready_ite _ goesOnUnready_stop goesOnUnready_goOn

/-- A round that goes on has no header ready, and leaves the test for stuffing switched on. -/
theorem round_goesOn (happn : s.cont.stream.appnFlag = 0) {s' : Scanning}
    (hround : decodeRound env decImageType s = .next true s') :
    s'.cont.image.headerReady = 0 ∧ s'.cont.stream.appnFlag = 0 :=
  ⟨wp_next (goesOnUnready_decodeRound s) hround rfl,
    wp_next ((keepsScan_decodeRound (moves_appn env) decImageType).run s happn) hround⟩

end rounds

/-- **The two header loops agree.** As long as the rounds of `JpegDecDecode` are read alike, the
loop of `JpegDecNextScanHdrs` ends as its loop does: both go on, leave with the same return code
or hit the same fault, with the same tables, scan header, restart interval and position. -/
theorem headerLoops_agree {c : JpegDecContainer} (hready : c.image.headerReady = 0)
    (happn : c.stream.appnFlag = 0)
    (halike : ∀ s, Rounds (decodeRound env decImageType) { cont := c } s →
      RoundAlike env decImageType s) (n : Nat) :
    SameEnd Agree (loop .rounds (decodeRound env decImageType) n { cont := c })
      (loop .rounds (nextScanRound env) n { cont := c }) := by
  have hstanding : ∀ s, Rounds (decodeRound env decImageType) { cont := c } s →
      s.cont.image.headerReady = 0 ∧ s.cont.stream.appnFlag = 0 := by
    intro s hrounds
    induction hrounds with
    | refl => exact ⟨hready, happn⟩
    | step _ hround ih => exact round_goesOn ih.2 hround
  refine sameEnd_loop (fun s t hrounds h => ?_) n _ _ .refl ⟨.refl c, rfl⟩
  obtain ⟨hready', happn'⟩ := hstanding s hrounds
  exact round_agree h hready' happn' (halike s hrounds)

/-- An APP0 segment and EOI. -/
def app0Stream : List UInt8 := [0xFF, 0xE0, 0, 4, 0, 0, 0xFF, 0xD9]

def app0Env : Env := (envOf app0Stream readyRegs).toEnv

/-- The loop of `JpegDecDecode` before it, and behind the round of the APP0 segment. -/
def app0Start : Scanning where
  cont := { jpegDecInit with
    stream := { pStartOfStream := 4096, pCurrPos := 4096, streamLength := 8 } }

def app0Behind : Scanning := (decodeRound app0Env JPEGDEC_IMAGE app0Start).state

/-- Behind the prefix and behind the marker of the next segment. -/
def atMarker (env : Env) (s : Scanning) : Scanning := (onCont (getByte env.mem) s).state

theorem app0Start_alike : RoundAlike app0Env JPEGDEC_IMAGE app0Start := by
  have h1 : onCont (getByte app0Env.mem) app0Start = .next 0xFF (atMarker app0Env app0Start) :=
    Outcome.IsNext.eq (by decide +kernel)
  have h2 : onCont (getByte app0Env.mem) (atMarker app0Env app0Start) =
      .next APP0 (atMarker app0Env (atMarker app0Env app0Start)) :=
    Outcome.IsNext.eq (by decide +kernel)
  have hL : get2Bytes app0Env.mem (atMarker app0Env (atMarker app0Env app0Start)).cont =
      (.next 4 (get2Bytes app0Env.mem (atMarker app0Env (atMarker app0Env app0Start)).cont :
        Outcome Fault JpegDecRet JpegDecContainer Nat).state : Outcome Fault JpegDecRet _ _) :=
    Outcome.IsNext.eq (by decide +kernel)
  refine ⟨by decide, fun s1 m s2 hs1 hs2 => ?_⟩
  rw [h1] at hs1
  cases hs1
  rw [h2] at hs2
  cases hs2
  refine ⟨by decide, by decide, fun _ => ⟨by decide, fun L c' hread => ?_⟩⟩
  rw [hL] at hread
  cases hread
  exact ⟨by decide, by decide, by decide +kernel⟩

theorem app0Behind_alike : RoundAlike app0Env JPEGDEC_IMAGE app0Behind := by
  have h1 : onCont (getByte app0Env.mem) app0Behind = .next 0xFF (atMarker app0Env app0Behind) :=
    Outcome.IsNext.eq (by decide +kernel)
  have h2 : onCont (getByte app0Env.mem) (atMarker app0Env app0Behind) =
      .next EOI (atMarker app0Env (atMarker app0Env app0Behind)) :=
    Outcome.IsNext.eq (by decide +kernel)
  refine ⟨by decide +kernel, fun s1 m s2 hs1 hs2 => ?_⟩
  rw [h1] at hs1
  cases hs1
  rw [h2] at hs2
  cases hs2
  exact ⟨by decide, by decide, nofun⟩

/-- The rounds of the stream. -/
theorem app0_rounds {s : Scanning} (h : Rounds (decodeRound app0Env JPEGDEC_IMAGE) app0Start s) :
    s = app0Start ∨ s = app0Behind := by
  have hfirst : decodeRound app0Env JPEGDEC_IMAGE app0Start = .next true app0Behind :=
    Outcome.IsNext.eq (by decide +kernel)
  have hlast : decodeRound app0Env JPEGDEC_IMAGE app0Behind =
      .exit .error (decodeRound app0Env JPEGDEC_IMAGE app0Behind).state :=
    Outcome.IsExit.eq (by decide +kernel)
  obtain rfl | ⟨s1, hs1, h1⟩ := h.cases_head
  · exact Or.inl rfl
  · rw [hfirst] at hs1
    cases hs1
    obtain rfl | ⟨s2, hs2, -⟩ := h1.cases_head
    · exact Or.inr rfl
    · rw [hlast] at hs2
      cases hs2

/-- The loops on an APP0 segment and EOI. -/
theorem headerLoops_agree_app0 :
    SameEnd Agree (loop .rounds (decodeRound app0Env JPEGDEC_IMAGE) 2 { cont := app0Start.cont })
      (loop .rounds (nextScanRound app0Env) 2 { cont := app0Start.cont }) := by
  refine headerLoops_agree rfl rfl (fun s hs => ?_) 2
  obtain rfl | rfl := app0_rounds hs
  · exact app0Start_alike
  · exact app0Behind_alike

end Jpeg

end Rk3399
