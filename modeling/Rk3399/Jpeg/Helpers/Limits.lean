import Rk3399.Jpeg.Helpers.HuffmanRun
/-!
# The limits of the hardware over a session

`JpegDecInit` asks the hardware once what it supports. No later call
changes the answer, so every instance a caller can have in hand has the
limits of a fresh one.
-/

namespace Rk3399

namespace Jpeg

open Prog

variable {α : Type}

/-- A step that leaves alone what stands leaves alone the limits. -/
theorem Frame.limits {ρ : Type} {E : Fault → Prop} {x : Decoder ρ α} (hx : Frame E standing x) :
    Frame anyFault Jpeg.limits x :=
  (hx.mono fun _ _ => trivial).part Standing.limits

theorem Parses.limits {mem : Nat → UInt8} {x : Decoder JpegDecRet α} (hx : Parses mem standing x) :
    Frame anyFault Jpeg.limits x :=
  Frame.limits hx.frame

/-! ## The marker loops -/

theorem frame_limits_scanSegment (env : Env) : Frame anyFault limits (scanSegment env) :=
  ((frame_scanSegment env).mono fun _ _ => trivial).part Standing.limits

theorem frame_limits_huffmanTables (mem : Nat → UInt8) :
    Frame anyFault limits (jpegDecDecodeHuffmanTables mem) :=
  ((parses_jpegDecDecodeHuffmanTables mem).frame.mono fun _ _ => trivial).part Standing.limits

theorem frame_limits_nextScanSegment (env : Env) (marker : Nat) :
    Frame anyFault limits (nextScanSegment env marker) := by
  refine frame_ite _ (frame_limits_scanSegment env) ?_
  refine frame_ite _ (frame_limits_huffmanTables env.mem) ?_
  refine frame_ite _ (parses_jpegDecDecodeQuantTables env.mem).limits ?_
  refine frame_ite _ (Frame.limits frame_endSegment) ?_
  refine frame_ite _ (parses_restartSegment env).limits ?_
  refine frame_ite _ (Frame.limits frame_clearPredictors) (frame_ite _ (frame_exit _) ?_)
  exact frame_ite _ (Frame.limits (frame_jumpSegment env)) (frame_pure _)

namespace Scanning

/-- The limits in the state of a marker loop. -/
def limits (s : Scanning) : Limits := Jpeg.limits s.cont

theorem frame_limits_onCont {x : Decoder JpegDecRet α} (hx : Frame anyFault Jpeg.limits x) :
    Frame anyFault limits (onCont x) :=
  frame_zoom_part hx fun _ _ h => h

theorem frame_limits_getByte (env : Env) : Frame anyFault limits (onCont (getByte env.mem)) :=
  frame_limits_onCont (Frame.limits (frame_getByte env.mem standing_stream))

theorem frame_limits_marker (env : Env) {segment : Nat → Prog Fault JpegDecRet Scanning Unit}
    (hsegment : ∀ m, Frame anyFault limits (segment m)) :
    Frame anyFault limits (marker env segment) := by
  refine frame_bind (frame_limits_getByte env) fun currentByte => ?_
  refine frame_bind (frame_modify fun _ => rfl) fun _ => ?_
  exact frame_bind (hsegment currentByte) fun _ => frame_gets _

theorem frame_limits_noMarker : Frame anyFault limits noMarker :=
  frame_bind (frame_gets _) fun _ => frame_ite _ (frame_pure _) (frame_gets _)

end Scanning

open Scanning

theorem frame_limits_jpegDecNextScanHdrs (env : Env) :
    Frame anyFault limits (jpegDecNextScanHdrs env) := by
  have hround : Frame anyFault Scanning.limits (nextScanRound env) := by
    refine frame_bind (frame_limits_getByte env) fun b => frame_ite _ ?_ frame_limits_noMarker
    exact frame_limits_marker env fun m => frame_limits_onCont (frame_limits_nextScanSegment env m)
  refine frame_bind (frame_modify fun _ => rfl) fun _ => ?_
  exact frame_zoom_part (frame_loop trivial hround env.rounds) fun _ _ h => h

theorem frame_limits_app0Thumbnail (env : Env) :
    Frame anyFault Scanning.limits (app0Thumbnail env) := by
  have h2 : Frame anyFault Scanning.limits (onCont (get2Bytes env.mem)) :=
    frame_limits_onCont (Frame.limits (frame_get2Bytes env.mem standing_stream))
  have hflush : ∀ L n, Frame anyFault Scanning.limits (onCont (flushApp0 env L n)) :=
    fun L n => frame_limits_onCont (Frame.limits (frame_flushApp0 env L n))
  refine frame_bind h2 fun appLength => frame_bind h2 fun jf => frame_ite _ (hflush _ _) ?_
  refine frame_bind h2 (fun xx => frame_ite _ (hflush _ _) ?_)
  refine frame_bind (frame_limits_getByte env)
    (fun ending => frame_bind (frame_modify fun _ => rfl) fun _ => ?_)
  refine frame_ite _ (hflush _ _) (frame_bind (frame_limits_getByte env) fun code => ?_)
  refine frame_bind (frame_modify fun _ => rfl) fun _ => ?_
  exact frame_bind (frame_exitIf _ _) fun _ => frame_modify fun _ => rfl

theorem frame_limits_decodeSegment (env : Env) (decImageType marker : Nat) :
    Frame anyFault Scanning.limits (decodeSegment env decImageType marker) := by
  refine frame_ite _ (frame_limits_onCont ?_) ?_
  · refine frame_bind (frame_modify fun _ => rfl) (fun _ => ?_)
    exact (parses_jpegDecDecodeFrameHdr env.mem).limits
  refine frame_ite _ (frame_limits_onCont (frame_limits_scanSegment env)) (frame_ite _ ?_ ?_)
  · refine frame_bind (frame_limits_onCont (frame_limits_huffmanTables env.mem)) (fun _ => ?_)
    exact frame_modify fun _ => rfl
  refine frame_ite _ (frame_limits_onCont (parses_jpegDecDecodeQuantTables env.mem).limits) ?_
  refine frame_ite _ (frame_limits_onCont (Frame.limits frame_endSegment)) (frame_ite _ ?_ ?_)
  · refine frame_bind (frame_limits_onCont (parses_restartSegment env).limits) (fun _ => ?_)
    exact frame_modify fun _ => rfl
  refine frame_ite _ (frame_limits_onCont (Frame.limits frame_clearPredictors)) ?_
  refine frame_ite _ (frame_exit _)
    (frame_ite _ (frame_ite _ (frame_limits_app0Thumbnail env) ?_) ?_)
  · exact frame_limits_onCont (Frame.limits (frame_app0Image env))
  · exact frame_ite _ (frame_limits_onCont (Frame.limits (frame_jumpSegment env))) (frame_pure _)

theorem frame_limits_findMarkers (env : Env) (decImageType : Nat) :
    Frame anyFault limits (findMarkers env decImageType) := by
  have hround : Frame anyFault Scanning.limits (decodeRound env decImageType) := by
    refine frame_bind (frame_gets _) fun paused => frame_ite _ (frame_pure _) ?_
    refine frame_bind ?_ (fun found => frame_ite _ ?_ frame_limits_noMarker)
    · refine frame_bind (frame_gets _) fun again => frame_ite _ (frame_pure _) ?_
      exact frame_bind (frame_limits_getByte env) (fun _ => frame_pure _)
    · exact frame_limits_marker env (frame_limits_decodeSegment env decImageType)
  refine frame_zoom_part (g := Scanning.limits) ?_ fun _ _ h => h
  refine frame_bind (frame_loop trivial hround env.rounds) fun _ =>
    frame_bind (frame_gets _) fun _ => ?_
  exact frame_ite _ (frame_limits_onCont (frame_modify fun _ => rfl)) (frame_pure _)

/-! ## The call -/

namespace Decoding

/-- The limits in the state of a call. -/
def limits (d : Decoding) : Limits := Jpeg.limits d.cont

theorem frame_limits_onCont {x : Decoder JpegDecRet α} (hx : Frame anyFault Jpeg.limits x) :
    Frame anyFault limits (onCont x) :=
  frame_zoom_part hx fun _ _ h => h

end Decoding

open Decoding

theorem frame_limits_beforeStart (env : DecodeEnv) (pDecIn : JpegDecInput) :
    Frame anyFault Decoding.limits (beforeStart env pDecIn) := by
  have hprobe : Frame anyFault limits (probeImage env.toEnv env.junk pDecIn) :=
    ((frame_probeImage env.toEnv env.junk pDecIn).mono fun _ _ => trivial).part Standing.limits
  refine frame_bind (Decoding.frame_limits_onCont ?_) fun _ => ?_
  · refine frame_bind (frame_modify fun _ => rfl) fun _ => ?_
    refine frame_bind (Frame.limits (frame_checkInput pDecIn)) fun _ =>
      frame_bind hprobe fun _ => ?_
    refine frame_modify fun c => ?_
    unfold storeStream
    split <;> rfl
  refine frame_bind (frame_modify fun d => ?_) fun _ => ?_
  · split <;> rfl
  refine frame_bind (Decoding.frame_limits_onCont (Frame.limits (frame_checkPicture pDecIn)))
    fun _ => ?_
  refine frame_bind (frame_gets _) fun finish => frame_ite _ (frame_pure _) ?_
  refine frame_bind (Decoding.frame_limits_onCont ?_) (fun _ => frame_pure _)
  refine frame_bind (frame_modify fun c => ?_) fun _ => frame_limits_findMarkers env.toEnv _
  exact congrArg Standing.limits (standing_startStreaming pDecIn c)

/-- `x` keeps the limits `L`. -/
abbrev KeepsLimits (L : Limits) (x : DecodeStep α) : Prop :=
  Keeps anyEnd (fun d => d.limits = L) (fun d => d.limits = L) x

section call

variable {L : Limits}

theorem keepsLimits_of_frame {x : DecodeStep α} (hx : Frame anyFault Decoding.limits x) :
    KeepsLimits L x :=
  (hx L).mono (fun _ h => h) fun _ _ _ => trivial

theorem keepsLimits_of_part {x : DecodeStep α} (hx : Frame NoTable Decoding.part x) :
    KeepsLimits L x :=
  keepsLimits_of_frame ((hx.mono fun _ _ => trivial).part Standing.limits)

theorem keepsLimits_hwRound (env : DecodeEnv) : KeepsLimits L (hwRound env) := by
  have hscan : KeptByScan fun s => s.limits = L := fun _ h _ => h
  have hstart : Frame anyFault limits startHw := frame_startHw.part Standing.limits
  refine keeps_bind (keepsLimits_of_frame (Decoding.frame_limits_onCont hstart)) fun _ => ?_
  refine keeps_bind ((keepsPart_hwAnswer hscan env).mono (fun _ h => h) fun _ _ _ => trivial)
    fun _ => ?_
  refine keeps_bind (keeps_whenever _ ?_) fun _ => keeps_gets _
  refine keeps_bind (keepsLimits_of_frame (Decoding.frame_limits_onCont ?_)) fun retCode => ?_
  · exact frame_call (frame_limits_jpegDecNextScanHdrs env.toEnv)
  · exact keeps_ite _ (keepsLimits_of_frame (frame_orReturn retCode)) (keeps_pure _)

theorem keepsLimits_jpegDecDecode (env : DecodeEnv) (pDecIn : JpegDecInput) :
    KeepsLimits L (jpegDecDecode env pDecIn) := by
  refine keeps_bind (keepsLimits_of_frame (frame_limits_beforeStart env pDecIn)) fun go => ?_
  refine keeps_ite _ ?_ ?_
  · refine keeps_bind (keeps_whenever _ ?_) (fun _ => keepsLimits_of_part (frame_imageReady env))
    exact keeps_loop (keepsLimits_hwRound env) (fun _ _ => trivial) env.rounds
  · refine keeps_bind (keepsLimits_of_part (frame_modify part_imageOutputNoPp)) (fun _ => ?_)
    exact keeps_bind (keeps_gets _) fun i => keepsLimits_of_part (frame_finishComponent env i)

end call

/-- **Every instance has the limits of a fresh one.** -/
theorem limits_of_reachable {c : JpegDecContainer} (hc : Reachable c) :
    limits c = limits jpegDecInit := by
  refine Session.induct (I := fun c => limits c = limits jpegDecInit) rfl (fun s c hc _ => ?_) hc
  cases s with
  | attach pp pictureMem => exact hc
  | probe env junk pDecIn =>
    have hprobe : Frame anyFault (fun p : Probe => limits p.cont)
        (jpegDecGetImageInfo env.mem env.rounds pDecIn) :=
      ((frame_jpegDecGetImageInfo env.mem env.rounds pDecIn).mono fun _ _ => trivial).part
        Standing.limits
    have hzoom : Frame anyFault limits (zoom (probeStart pDecIn junk) (fun p _ => p.cont)
        (jpegDecGetImageInfo env.mem env.rounds pDecIn)) :=
      frame_zoom_part hprobe fun _ _ h => h
    exact wp_mono ((hzoom _).run c hc) (fun _ _ h => h) (fun _ _ h => h) fun _ _ _ => trivial
  | decode env pDecIn =>
    have hdecode := (keepsLimits_jpegDecDecode (L := limits jpegDecInit) env pDecIn).run
      { cont := c } hc
    simp only [Step.run]
    rw [wp_zoom]
    exact wp_mono hdecode (fun _ _ h => h) (fun _ _ h => h) fun _ _ _ => trivial

end Jpeg

end Rk3399
