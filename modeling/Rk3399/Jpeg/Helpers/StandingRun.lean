import Rk3399.Jpeg.Helpers.StandingProbe
/-!
# The calls and what stands

The rest of `JpegDecDecode`: the checks before the headers, the start of
the hardware, its answer and the end of the picture. None of them changes
what stands but for the flags that a header or a scan is ready.
-/

namespace Rk3399

namespace Jpeg

open Prog

variable {ρ : Type}

/-- What stands but for the flag that a header is ready. -/
def Standing.settled (s : Standing) : Standing := { s with headerReady := 0 }

/-- What stands but for the flag that a progressive scan is ready. -/
def Standing.unready (s : Standing) : Standing := { s with scanReady := 0 }

/-- The settled part of an instance. -/
def settled (c : JpegDecContainer) : Standing := (standing c).settled

/-! ## Before the headers -/

theorem frame_checkInput {φ : Type} {f : JpegDecContainer → φ} (pDecIn : JpegDecInput) :
    Frame NoTable f (checkInput pDecIn) := by
  refine frame_bind (frame_exitIf _ _) fun _ => ?_
  refine frame_bind (frame_exitIf _ _) fun _ => ?_
  refine frame_bind (frame_exitIf _ _) fun _ => ?_
  refine frame_bind (frame_exitIf _ _) fun _ => ?_
  refine frame_bind (frame_gets _) fun first => frame_ite _ ?_ (frame_pure _)
  refine frame_bind (frame_exitIf _ _) (fun _ => ?_)
  exact frame_bind (frame_exitIf _ _) fun _ => frame_exitIf _ _

theorem frame_checkFeatures {φ : Type} {f : JpegDecContainer → φ} (pDecIn : JpegDecInput) :
    Frame NoTable f (checkFeatures pDecIn) := by
  refine frame_bind (frame_bind (frame_gets _) fun small => frame_ite _ ?_ ?_) fun _ =>
    frame_exitIf _ _
  · refine frame_bind (frame_exitIf _ _) (fun _ => ?_)
    exact frame_bind (frame_exitIf _ _) fun _ => frame_exitIf _ _
  · refine frame_bind (frame_exitIf _ _) (fun _ => ?_)
    refine frame_bind (frame_exitIf _ _) fun _ => ?_
    exact frame_bind (frame_exitIf _ _) fun _ => frame_exitIf _ _

theorem frame_probeImage (env : Env) (junk : JpegDecImageInfo) (pDecIn : JpegDecInput) :
    Frame NoTable (fun c => (standing c).base) (probeImage env junk pDecIn) := by
  refine frame_bind (frame_gets _) fun wanted => frame_ite _ ?_ (frame_pure _)
  exact frame_zoom_part (frame_jpegDecGetImageInfo env.mem env.rounds pDecIn) (fun _ _ h => h)

theorem frame_checkPicture (pDecIn : JpegDecInput) :
    Frame NoTable standing (checkPicture pDecIn) := by
  refine frame_bind (frame_modify fun _ => rfl) fun _ => ?_
  refine frame_bind ?_ fun _ =>
    frame_bind (frame_modify fun c => ?_) fun _ => frame_modify fun _ => rfl
  · refine frame_bind ?_ fun _ => frame_exitIf _ _
    refine frame_bind (frame_gets _) fun small => frame_ite _ ?_ ?_
    · refine frame_bind (frame_exitIf _ _) (fun _ => ?_)
      exact frame_bind (frame_exitIf _ _) fun _ => frame_exitIf _ _
    · refine frame_bind (frame_exitIf _ _) (fun _ => ?_)
      refine frame_bind (frame_exitIf _ _) fun _ => ?_
      exact frame_bind (frame_exitIf _ _) fun _ => frame_exitIf _ _
  · unfold nextBuffer
    split <;> rfl

theorem standing_startStreaming (pDecIn : JpegDecInput) (c : JpegDecContainer) :
    standing (startStreaming pDecIn c) = standing c := by
  unfold startStreaming
  split <;> rfl

/-! ## Starts -/

theorem frame_standing_rkSetRegisterFiles {E : Fault → Prop}
    (ws : JpegDecContainer → List (BitField × Nat)) :
    Frame E standing (rkSetRegisterFiles ws : Decoder ρ Unit) :=
  frame_modify fun _ => rfl

theorem frame_jpegDecInitHWContinue :
    Frame NoTable standing (jpegDecInitHWContinue : Decoder ρ Unit) := by
  refine frame_bind (frame_modify fun _ => rfl) fun _ => ?_
  refine frame_bind (frame_modify fun c => ?_) fun _ => ?_
  · split <;> rfl
  refine frame_bind (frame_standing_rkSetRegisterFiles _) fun _ => ?_
  refine frame_bind (frame_whenever _ ?_) fun _ => ?_
  · exact frame_bind (frame_standing_rkSetRegisterFiles _) fun _ => frame_modify fun _ => rfl
  refine frame_bind (frame_whenever _ ?_) fun _ => frame_standing_rkSetRegisterFiles _
  refine frame_bind (frame_modify fun _ => rfl) fun _ => ?_
  exact frame_bind (frame_standing_rkSetRegisterFiles _) fun _ => frame_modify fun _ => rfl

theorem frame_jpegDecInitHWInputBuffLoad :
    Frame NoTable standing (jpegDecInitHWInputBuffLoad : Decoder ρ Unit) :=
  frame_bind (frame_modify fun _ => rfl) fun _ => frame_standing_rkSetRegisterFiles _

theorem frame_jpegDecInitHWProgressiveContinue :
    Frame anyFault standing (jpegDecInitHWProgressiveContinue : Decoder ρ Unit) := by
  refine frame_bind (frame_modify fun c => ?_) fun _ => ?_
  · split <;> rfl
  refine frame_bind (frame_standing_rkSetRegisterFiles _) fun _ => ?_
  refine frame_bind (frame_modify fun _ => rfl) fun _ => ?_
  refine frame_bind (frame_jpegDecSetHwStrmParams.part standing) fun _ => ?_
  refine frame_bind (frame_standing_rkSetRegisterFiles _) fun _ => ?_
  refine frame_bind ((frame_setCoeffBuffers fun _ => trivial).part standing) fun _ => ?_
  refine frame_bind (frame_jpegDecWriteLenBitsProgressive.part standing) fun _ => ?_
  refine frame_bind (frame_jpegDecWriteTablesProgressive fun _ _ => rfl) fun _ => ?_
  refine frame_bind (frame_jpegDecChromaTableSelectors.part standing) fun _ => ?_
  refine frame_bind (frame_standing_rkSetRegisterFiles _) fun _ => ?_
  exact frame_bind (frame_modify fun _ => rfl) fun _ => frame_standing_rkSetRegisterFiles _

/-- What stands over a start: the flag that a progressive scan is ready is used
up. -/
def unready (c : JpegDecContainer) : Standing := (standing c).unready

theorem frame_startOrContinue : Frame anyFault unready startOrContinue := by
  refine frame_bind (frame_gets _) fun fresh => frame_ite _ ?_ ?_
  · refine frame_bind (frame_gets _) (fun first => frame_ite _ ?_ ?_)
    · refine frame_bind (frame_jpegDecInitHW.part unready) (fun _ => frame_modify fun _ => rfl)
    · refine frame_bind ?_ (fun _ => frame_modify fun _ => rfl)
      exact frame_jpegDecInitHWProgressiveContinue.part Standing.unready
  · exact (frame_jpegDecInitHWContinue.mono fun _ _ => trivial).part Standing.unready

theorem standing_jpegDecSliceSizeCalculation (c : JpegDecContainer) :
    standing (jpegDecSliceSizeCalculation c) = standing c := rfl

theorem frame_startHw : Frame anyFault unready startHw := by
  refine frame_bind (frame_modify fun _ => rfl) fun _ => ?_
  refine frame_bind (frame_gets _) fun loaded => frame_ite _ ?_ ?_
  · refine frame_bind (frame_modify fun c => ?_) (fun _ => ?_)
    · split
      · exact congrArg Standing.unready (standing_jpegDecSliceSizeCalculation c)
      · rfl
    exact frame_bind frame_startOrContinue fun _ => frame_modify fun _ => rfl
  · refine frame_bind ?_ (fun _ => frame_modify fun _ => rfl)
    exact (frame_jpegDecInitHWInputBuffLoad.mono fun _ _ => trivial).part Standing.unready

/-! ## Answers -/

namespace Decoding

/-- What stands in the instance of a call. -/
def part (d : Decoding) : Standing := settled d.cont

theorem frame_onCont {α : Type} {E : Fault → Prop} {x : Decoder JpegDecRet α}
    (hx : Frame E settled x) : Frame E part (onCont x) :=
  frame_zoom_part hx fun _ _ h => h

theorem part_setOutputs (luma chroma chroma2 : JpegDecLinearMem) (d : Decoding) :
    (d.setOutputs luma chroma chroma2).part = d.part := by
  unfold setOutputs
  split <;> rfl

theorem part_imageOutputNoPp (d : Decoding) : d.imageOutputNoPp.part = d.part := by
  unfold imageOutputNoPp
  split
  · exact part_setOutputs _ _ _ d
  · rfl

end Decoding

open Decoding

theorem Frame.settled {α : Type} {E : Fault → Prop} {x : Decoder ρ α} (hx : Frame E standing x) :
    Frame E settled x := Frame.part hx Standing.settled

theorem frame_clearStatus : Frame NoTable part clearStatus :=
  frame_onCont (frame_bind (frame_modify fun _ => rfl) fun _ => frame_modify fun _ => rfl)

theorem frame_waitResult (env : DecodeEnv) : Frame NoTable part (waitResult env) := by
  refine frame_bind (frame_gets _) fun reply => ?_
  refine frame_bind (frame_modify fun _ => rfl) fun _ => frame_ite _ ?_ (frame_pure _)
  exact frame_bind (frame_modify fun _ => rfl) (fun _ => frame_exit _)

theorem frame_checkIrq : Frame NoTable part checkIrq := by
  refine frame_bind (frame_gets _) fun c => ?_
  refine frame_bind (frame_whenever _ ?_) fun _ => ?_
  · exact frame_bind frame_clearStatus fun _ => frame_exit _
  refine frame_bind (frame_whenever _ ?_) fun _ => ?_
  · refine frame_bind (frame_modify part_imageOutputNoPp) fun _ => ?_
    exact frame_bind frame_clearStatus fun _ => frame_exit _
  refine frame_bind (frame_whenever _ ?_) fun _ => ?_
  · refine frame_bind (frame_onCont ?_) fun _ => ?_
    · exact frame_bind (frame_modify fun _ => rfl) fun _ => frame_modify fun _ => rfl
    exact frame_bind (frame_modify part_imageOutputNoPp) fun _ => frame_exit _
  exact frame_onCont (frame_modify fun _ => rfl)

theorem frame_sliceReady : Frame NoTable part sliceReady := by
  refine frame_bind (frame_modify fun _ => rfl) fun _ => ?_
  refine frame_bind (frame_modify fun d => ?_) fun _ => ?_
  · split
    · split
      · exact part_setOutputs _ _ _ d
      · split
        · exact part_setOutputs _ _ _ d
        · rfl
    · rfl
  refine frame_bind (frame_gets _) fun post => frame_ite _ ?_ (frame_exit _)
  exact frame_bind (frame_modify (part_setOutputs _ _ _)) (fun _ => frame_modify fun _ => rfl)

theorem frame_findEnd (mem : Nat → UInt8) (n : Nat) :
    ∀ i, Frame NoTable settled (findEnd mem n i) := by
  induction n with
  | zero => exact fun _ => frame_pure _
  | succ n ih =>
    intro i
    rw [findEnd]
    refine frame_bind (frame_onStream (keeps_deref mem i) fun _ _ => rfl) fun b => ?_
    refine frame_ite _ ?_ (ih (i + 1))
    refine frame_bind (frame_onStream (keeps_deref mem (i + 1)) fun _ _ => rfl)
      (fun currentByte => ?_)
    exact frame_ite _ (frame_pure _) (frame_ite _ (frame_pure _) (ih (i + 1)))

theorem frame_componentDone : Frame NoTable settled componentDone := by
  refine frame_bind (frame_gets _) fun i => ?_
  refine frame_bind (frame_subscript (noTable_index i)) fun k => ?_
  refine frame_bind (frame_modify fun _ => rfl) fun _ => ?_
  refine frame_bind (frame_gets _) fun all => ?_
  exact frame_bind (frame_modify fun _ => rfl) fun _ => frame_pure _

/-- An invariant of what stands that outlives the end of a progressive scan. -/
def KeptByScan (I : Standing → Prop) : Prop :=
  ∀ s, I s → s.progressive = true → I { s with scanReady := 1 }

section answer

variable {I : Standing → Prop}

/-- `I` of what stands in the instance of a call. -/
def OfPart (I : Standing → Prop) (d : Decoding) : Prop := I d.part

/-- `x` keeps `I`, and none of its faults is one of the table memory. -/
abbrev KeepsPart (I : Standing → Prop) {α : Type} (x : DecodeStep α) : Prop :=
  Keeps (fun e _ => NoTable e) (OfPart I) (OfPart I) x

theorem keepsPart_of_frame {α : Type} {x : DecodeStep α} (hx : Frame NoTable part x) :
    KeepsPart I x :=
  (Frame.keeps hx I).mono (fun _ h => h) fun _ _ h => h.1

theorem keepsPart_scanReady (hI : KeptByScan I) (env : DecodeEnv) :
    KeepsPart I (scanReady env) := by
  refine keeps_bind (keepsPart_of_frame (frame_onCont ?_)) fun endOfImage => ?_
  · refine frame_bind (frame_modify fun _ => rfl) fun _ => ?_
    refine frame_bind (frame_gets _) fun n => ?_
    refine frame_bind (frame_findEnd env.mem n 0) fun endOfImage => ?_
    exact frame_bind (frame_modify fun _ => rfl) fun _ => frame_pure _
  refine keeps_bind (keeps_modify fun _ h => h) fun _ => keeps_ite _ ?_ ?_
  · refine keeps_bind (keepsPart_of_frame (frame_modify fun d => ?_)) (fun _ => ?_)
    · split
      · exact part_imageOutputNoPp d
      · rfl
    refine keeps_bind (keeps_modify fun _ h => h) fun _ => ⟨fun d hd => ?_⟩
    rw [wp_bind, wp_gets, wp_ite]
    split
    · -- the flag is set for a progressive picture only
      next hprogressive =>
      refine wp_seq (M := fun _ => OfPart I) (hI _ hd hprogressive) fun _ d hd => ?_
      refine Keeps.run (I := OfPart I) ?_ d hd
      exact keeps_bind (keeps_exitIf (fun _ h => h) _ _) fun _ => keeps_modify fun _ h => h
    · refine Keeps.run (I := OfPart I) ?_ d hd
      refine keeps_bind (keeps_modify fun _ h => h) fun _ => ?_
      refine keeps_bind (keepsPart_of_frame (frame_onCont frame_componentDone)) fun _ => ?_
      exact keeps_modify fun _ h => h
  · refine keeps_bind (keeps_gets _) (fun non => keeps_ite _ ?_ (keeps_pure _))
    refine keeps_bind (keepsPart_of_frame (frame_onCont frame_componentDone)) (fun all => ?_)
    exact keeps_modify fun _ h => h

theorem keepsPart_hwFinished (hI : KeptByScan I) (env : DecodeEnv) :
    KeepsPart I (hwFinished env) := by
  refine keeps_bind (keeps_gets _) fun slice => ?_
  refine keeps_ite _ (keepsPart_of_frame frame_sliceReady) ?_
  refine keeps_bind (keeps_gets _) (fun multi => keeps_ite _ (keepsPart_scanReady hI env) ?_)
  exact keeps_modify fun _ h => h

/-- The answer of the hardware leaves the tables and the mode alone. -/
theorem keepsPart_hwAnswer (hI : KeptByScan I) (env : DecodeEnv) : KeepsPart I (hwAnswer env) := by
  refine keeps_bind (keepsPart_of_frame (frame_waitResult env)) fun _ => ?_
  refine keeps_bind (keepsPart_of_frame frame_checkIrq) fun _ => ?_
  refine keeps_bind (keepsPart_hwFinished hI env) fun _ => ?_
  refine keeps_bind (keepsPart_of_frame (frame_modify fun d => ?_)) fun _ => ?_
  · split
    · exact part_imageOutputNoPp d
    · rfl
  refine keepsPart_of_frame (frame_modify fun d => ?_)
  split <;> rfl

end answer

theorem frame_finishComponent (env : DecodeEnv) (i : Nat) :
    Frame NoTable part (finishComponent env i) := by
  have hempty :
      Frame NoTable settled (jpegDecInitHWEmptyScan false i : Decoder JpegDecRet Unit) := by
    rw [jpegDecInitHWEmptyScan_untaken]
    refine frame_bind (frame_modify fun _ => rfl) fun _ => ?_
    refine frame_bind (frame_modify fun c => ?_) fun _ => frame_fault noTable_handle
    split <;> rfl
  refine frame_bind (frame_onCont hempty) fun _ => ?_
  refine frame_bind (frame_waitResult env) fun _ => ?_
  refine frame_bind (frame_gets _) fun next => frame_ite _ ?_ ?_
  · exact frame_bind (frame_modify fun _ => rfl) (fun _ => frame_exit _)
  · exact frame_bind (frame_modify fun _ => rfl) (fun _ => frame_exit _)

theorem frame_imageReady (env : DecodeEnv) : Frame NoTable part (imageReady env) := by
  refine frame_bind (frame_exitIf _ _) fun _ => ?_
  refine frame_bind (frame_modify fun _ => rfl) fun _ => ?_
  refine frame_bind (frame_exitIf _ _) fun _ => ?_
  refine frame_bind (frame_exitIf _ _) fun _ => ?_
  refine frame_bind (frame_exitIf _ _) fun _ => ?_
  refine frame_bind (frame_gets _) fun i => ?_
  exact frame_bind (frame_exitIf _ _) fun _ => frame_finishComponent env i

end Jpeg

end Rk3399
