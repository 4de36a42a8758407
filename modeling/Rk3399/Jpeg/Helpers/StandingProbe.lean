import Rk3399.Jpeg.Helpers.Standing
/-!
# The probing parser and what stands

`JpegDecGetImageInfo` changes the instance as it goes, but neither the
Huffman tables nor the table memory, and no header counts as ready for
it.
-/

namespace Rk3399

namespace Jpeg

open Prog

/-- The standing part but for the mode of the picture, which the probing parser
sets. -/
def Standing.base (s : Standing) : Standing := { s with progressive := false }

namespace Probe

variable (mem : Nat → UInt8)

/-- What stands in the instance of a probe. -/
def base (p : Probe) : Standing := (standing p.cont).base

/-- The size and the format of the picture, as the record and the instance have
them. -/
structure Geometry where
  outputWidth : Nat
  outputHeight : Nat
  outputFormat : Nat
  hwX : Nat
  hwY : Nat
  numMcuInRow : Nat
  numMcuInFrame : Nat
  getInfoYCbCrMode : Nat
  deriving DecidableEq, Repr

/-- The size and the format a probe has found. -/
def geometry (p : Probe) : Geometry where
  outputWidth := p.imageInfo.outputWidth
  outputHeight := p.imageInfo.outputHeight
  outputFormat := p.imageInfo.outputFormat
  hwX := p.cont.frame.hwX
  hwY := p.cont.frame.hwY
  numMcuInRow := p.cont.frame.numMcuInRow
  numMcuInFrame := p.cont.frame.numMcuInFrame
  getInfoYCbCrMode := p.cont.info.getInfoYCbCrMode

/-- What every segment but a frame header leaves alone. -/
def kept (p : Probe) : Standing × Geometry := (base p, geometry p)

/-! ## Readers -/

section readers

variable {φ : Type} {f : Probe → φ}

/-- The part `f` of a probe depends neither on its position nor on its error
code. -/
structure Apart (f : Probe → φ) : Prop where
  stream : ∀ p t, f { p with stream := t } = f p
  errorCode : ∀ p n, f { p with errorCode := n } = f p

theorem apart_base : Apart base := ⟨fun _ _ => rfl, fun _ _ => rfl⟩

theorem apart_kept : Apart kept := ⟨fun _ _ => rfl, fun _ _ => rfl⟩

variable (hf : Apart f)

include hf

theorem frame_onStream {α : Type} {x : Prog Fault JpegDecRet StreamStorage α}
    (hx : KeepsForward (fun _ => True) x) : Frame NoTable f (onStream x) :=
  fun _ => keeps_zoom (fun _ _ => hx) (fun _ _ => trivial) (fun p t h _ => (hf.stream p t).trans h)
    (fun p t h _ => (hf.stream p t).trans h)
    (fun p _ t h he => ⟨noTable_of_isStream he, (hf.stream p t).trans h⟩)

theorem frame_getByte : Frame NoTable f (getByte mem) :=
  frame_onStream hf (keeps_jpegDecGetByte mem forward_true)

theorem frame_get2Bytes : Frame NoTable f (get2Bytes mem) :=
  frame_onStream hf (keeps_jpegDecGet2Bytes mem forward_true)

theorem frame_fail : Frame NoTable f fail := frame_modify fun p => hf.errorCode p 1

theorem frame_flushOrFail (bits : Nat) {k : Probing Unit} (hk : Frame NoTable f k) :
    Frame NoTable f (flushOrFail mem bits k) :=
  frame_bind (frame_onStream hf (keeps_jpegDecFlushBits mem bits)) fun _ =>
    frame_ite _ (frame_fail hf) hk

theorem frame_flushRestOrFail (L n : Nat) {k : Probing Unit} (hk : Frame NoTable f k) :
    Frame NoTable f (flushRestOrFail mem L n k) :=
  frame_bind (frame_onStream hf (keeps_flushSegment mem L n)) fun _ =>
    frame_ite _ (frame_fail hf) hk

theorem frame_flushAppRest {k : Probing Unit} (hk : Frame NoTable f k) :
    Frame NoTable f (flushAppRest mem k) :=
  frame_bind (frame_gets _) fun p => frame_flushRestOrFail mem hf p.appLength p.appBits hk

theorem frame_segmentLength {k : Nat → Probing Unit} (hk : ∀ n, Frame NoTable f (k n)) :
    Frame NoTable f (segmentLength mem k) := by
  refine frame_bind (frame_get2Bytes mem hf) fun headerLength => ?_
  exact frame_bind (frame_gets _) fun short => frame_ite _ (frame_fail hf) (hk headerLength)

end readers

theorem frame_jumpOver : Frame NoTable kept (jumpOver mem) :=
  frame_segmentLength mem apart_kept fun _ => frame_modify fun _ => rfl

/-! ## The picture -/

theorem frame_probeComponents (n : Nat) : ∀ j, Frame NoTable kept (probeComponents mem n j) := by
  induction n with
  | zero => exact fun _ => frame_pure _
  | succ n ih =>
    intro j
    rw [probeComponents]
    refine frame_flushOrFail mem apart_kept 8
      (frame_bind (frame_getByte mem apart_kept) fun tmp => ?_)
    refine frame_bind (frame_modify fun _ => rfl) fun _ => frame_flushOrFail mem apart_kept 8 ?_
    exact frame_bind (frame_modify fun _ => rfl) fun _ => ih (j + 1)

theorem frame_probeSampling : Frame NoTable base probeSampling := by
  have hset : ∀ format w area,
    Frame NoTable base (modify (setFormat format w area) : Probing Unit) :=
    fun _ _ _ => frame_modify fun _ => rfl
  refine frame_bind (frame_gets _) fun p => ?_
  refine frame_ite _ (hset _ _ _) (frame_ite _ (hset _ _ _) ?_)
  refine frame_ite _ (hset _ _ _) (frame_ite _ (hset _ _ _) ?_)
  refine frame_ite _ ?_ (frame_ite _ (hset _ _ _) (frame_exit _))
  refine frame_bind (frame_modify fun p => ?_) (fun _ => ?_)
  · unfold roundUp411
    split <;> rfl
  exact frame_bind (frame_exitIf _ _) fun _ => hset _ _ _

theorem frame_probeFrame (marker : Nat) : Frame NoTable base (probeFrame mem marker) := by
  refine frame_bind (frame_modify fun _ => rfl) fun _ =>
    frame_segmentLength mem apart_base fun _ => ?_
  refine frame_bind (frame_getByte mem apart_base) fun precision => ?_
  refine frame_bind (frame_modify fun _ => rfl) fun _ => ?_
  refine frame_bind (frame_exitIf _ _) fun _ => ?_
  refine frame_bind (frame_get2Bytes mem apart_base) fun lines => ?_
  refine frame_bind (frame_modify fun _ => rfl) fun _ => ?_
  refine frame_bind (frame_exitIf _ _) fun _ => ?_
  refine frame_bind (frame_modify fun _ => rfl) fun _ => ?_
  refine frame_bind (frame_get2Bytes mem apart_base) fun samples => ?_
  refine frame_bind (frame_modify fun _ => rfl) fun _ => ?_
  refine frame_bind (frame_exitIf _ _) fun _ => ?_
  refine frame_bind (frame_modify fun _ => rfl) fun _ => ?_
  refine frame_bind (frame_exitIf _ _) fun _ => ?_
  refine frame_bind (frame_getByte mem apart_base) fun Nf => ?_
  refine frame_bind (frame_exitIf _ _) fun _ => ?_
  refine frame_bind ((frame_probeComponents mem Nf 0).part Prod.fst) fun _ => ?_
  refine frame_bind (frame_exitIf _ _) fun _ => ?_
  exact frame_bind frame_probeSampling fun _ => frame_modify fun _ => rfl

theorem frame_probeScan : Frame NoTable kept (probeScan mem) := by
  refine frame_segmentLength mem apart_kept fun headerLength => ?_
  refine frame_bind (frame_getByte mem apart_kept) fun Ns => ?_
  refine frame_bind (frame_modify fun p => ?_) fun _ => ?_
  · split <;> rfl
  refine frame_bind (frame_modify fun _ => rfl) fun _ => ?_
  exact frame_bind (frame_exitIf _ _) fun _ => frame_modify fun _ => rfl

theorem frame_probeRestart : Frame NoTable kept (probeRestart mem) :=
  frame_segmentLength mem apart_kept fun _ => frame_segmentLength mem apart_kept fun _ =>
    frame_modify fun _ => rfl

/-! ## The thumbnail -/

theorem frame_countBits (n : Nat) : Frame NoTable kept (countBits n) := frame_modify fun _ => rfl

theorem frame_thumbComponents (n : Nat) : ∀ j, Frame NoTable kept (thumbComponents mem n j) := by
  induction n with
  | zero => exact fun _ => frame_pure _
  | succ n ih =>
    intro j
    rw [thumbComponents]
    refine frame_flushOrFail mem apart_kept 8
      (frame_bind (frame_getByte mem apart_kept) fun tmp => ?_)
    refine frame_bind (frame_modify fun _ => rfl) fun _ => frame_flushOrFail mem apart_kept 8 ?_
    exact frame_bind (frame_modify fun _ => rfl) fun _ => ih (j + 1)

theorem frame_thumbFrame (marker : Nat) : Frame NoTable kept (thumbFrame mem marker) := by
  refine frame_bind (frame_modify fun _ => rfl) fun _ => frame_flushOrFail mem apart_kept 16 ?_
  refine frame_bind (frame_countBits _) fun _ => ?_
  refine frame_bind (frame_getByte mem apart_kept) fun precision => ?_
  refine frame_bind (frame_modify fun _ => rfl) fun _ => ?_
  refine frame_bind (frame_countBits _) fun _ => ?_
  refine frame_bind (frame_exitIf _ _) fun _ => ?_
  refine frame_bind (frame_get2Bytes mem apart_kept) fun lines => ?_
  refine frame_bind (frame_countBits _) fun _ => ?_
  refine frame_bind (frame_modify fun _ => rfl) fun _ => ?_
  refine frame_bind (frame_exitIf _ _) fun _ => ?_
  refine frame_bind (frame_modify fun _ => rfl) fun _ => ?_
  refine frame_bind (frame_get2Bytes mem apart_kept) fun samples => ?_
  refine frame_bind (frame_countBits _) fun _ => ?_
  refine frame_bind (frame_modify fun _ => rfl) fun _ => ?_
  refine frame_bind (frame_exitIf _ _) fun _ => ?_
  refine frame_bind (frame_modify fun _ => rfl) fun _ => ?_
  refine frame_bind (frame_exitIf _ _) fun _ => ?_
  refine frame_bind (frame_getByte mem apart_kept) fun Nf => ?_
  refine frame_bind (frame_countBits _) fun _ => ?_
  refine frame_bind (frame_exitIf _ _) fun _ => ?_
  refine frame_bind (frame_thumbComponents mem Nf 0) fun _ => ?_
  refine frame_bind (frame_exitIf _ _) fun _ => ?_
  refine frame_bind (frame_gets _) fun format => ?_
  cases format with
  | none => exact frame_exit _
  | some format => exact frame_modify fun _ => rfl

theorem frame_thumbScan : Frame NoTable kept (thumbScan mem) := by
  refine frame_segmentLength mem apart_kept fun headerLength => ?_
  refine frame_bind (frame_getByte mem apart_kept) fun Ns => ?_
  refine frame_bind (frame_modify fun p => ?_) fun _ => ?_
  · split <;> rfl
  refine frame_bind (frame_modify fun _ => rfl) fun _ => ?_
  exact frame_bind (frame_exitIf _ _) fun _ => frame_modify fun _ => rfl

theorem frame_thumbJump : Frame NoTable kept (thumbJump mem) := by
  refine frame_bind (frame_get2Bytes mem apart_kept) fun headerLength =>
    frame_ite _ (frame_fail apart_kept) ?_
  exact frame_bind (frame_modify fun _ => rfl) (fun _ => frame_countBits _)

theorem frame_thumbSegment (marker : Nat) : Frame NoTable kept (thumbSegment mem marker) := by
  refine frame_ite _ (frame_thumbFrame mem marker) ?_
  refine frame_ite _ (frame_thumbScan mem) (frame_ite _ (frame_thumbJump mem) ?_)
  exact frame_ite _ (frame_exit _) (frame_pure _)

theorem frame_nextBit : Frame NoTable kept nextBit := frame_modify fun _ => rfl

theorem frame_clearAppn : Frame NoTable kept clearAppn := frame_modify fun _ => rfl

theorem frame_thumbRound (bufferSize : Nat) : Frame NoTable kept (thumbRound mem bufferSize) := by
  refine frame_bind (frame_gets _) fun inside => frame_ite _ ?_ (frame_pure _)
  refine frame_bind (frame_countBits _) (fun _ => ?_)
  refine frame_bind (frame_getByte mem apart_kept) fun b => frame_ite _ ?_ ?_
  · refine frame_bind (frame_countBits _) (fun _ => ?_)
    refine frame_bind (frame_getByte mem apart_kept) fun marker => ?_
    refine frame_bind (frame_modify fun _ => rfl) fun _ => ?_
    refine frame_bind (frame_thumbSegment mem marker) fun _ => ?_
    refine frame_bind (frame_gets _) fun done => frame_ite _ ?_ ?_
    · exact frame_bind (frame_flushAppRest mem apart_kept frame_clearAppn) (fun _ => frame_pure _)
    · exact frame_bind frame_nextBit (fun _ => frame_pure _)
  · exact frame_bind (frame_exitIf _ _) (fun _ => frame_exit _)

/-! ## Application segments and the loop -/

theorem frame_flushApp {k : Probing Unit} (hk : Frame NoTable kept k) :
    Frame NoTable kept (flushApp mem k) :=
  frame_bind (frame_modify fun _ => rfl) fun _ => frame_flushAppRest mem apart_kept hk

theorem frame_probeThumbnail (rounds bufferSize : Nat) :
    Frame NoTable kept (probeThumbnail mem rounds bufferSize) := by
  refine frame_bind (frame_getByte mem apart_kept) fun extension => ?_
  refine frame_bind (frame_modify fun _ => rfl) fun _ => frame_ite _ ?_ ?_
  · refine frame_bind (frame_countBits _) (fun _ => ?_)
    refine frame_bind (frame_modify fun _ => rfl) fun _ => ?_
    exact frame_loop noTable_rounds (frame_thumbRound mem bufferSize) rounds
  · refine frame_bind (frame_countBits _) (fun _ => ?_)
    exact frame_bind (frame_modify fun _ => rfl) fun _ => frame_flushApp mem frame_clearAppn

theorem frame_probeJfif : Frame NoTable kept (probeJfif mem) := by
  refine frame_bind (frame_get2Bytes mem apart_kept) fun version => ?_
  refine frame_bind (frame_modify fun _ => rfl) fun _ => ?_
  refine frame_bind (frame_countBits _) fun _ => ?_
  refine frame_bind (frame_getByte mem apart_kept) fun units => ?_
  refine frame_bind (frame_modify fun _ => rfl) fun _ => ?_
  refine frame_bind (frame_countBits _) fun _ => ?_
  refine frame_bind (frame_get2Bytes mem apart_kept) fun xDensity => ?_
  refine frame_bind (frame_modify fun _ => rfl) fun _ => ?_
  refine frame_bind (frame_countBits _) fun _ => ?_
  refine frame_bind (frame_get2Bytes mem apart_kept) fun yDensity => ?_
  refine frame_bind (frame_modify fun _ => rfl) fun _ => ?_
  exact frame_bind (frame_countBits _) fun _ => frame_flushApp mem frame_clearAppn

theorem frame_probeApp0 (rounds bufferSize : Nat) :
    Frame NoTable kept (probeApp0 mem rounds bufferSize) := by
  refine frame_bind (frame_modify fun _ => rfl) fun _ =>
    frame_segmentLength mem apart_kept fun L => ?_
  refine frame_bind (frame_modify fun _ => rfl) fun _ => frame_ite _ ?_ ?_
  · exact frame_bind (frame_modify fun _ => rfl) (fun _ =>
      frame_flushRestOrFail mem apart_kept _ _ (frame_pure _))
  refine frame_bind (frame_countBits _) (fun _ => ?_)
  refine frame_bind (frame_get2Bytes mem apart_kept) fun ident => ?_
  refine frame_bind (frame_countBits _) fun _ => ?_
  refine frame_ite _ (frame_flushApp mem (frame_pure _)) ?_
  refine frame_bind (frame_get2Bytes mem apart_kept) (fun ident => ?_)
  refine frame_bind (frame_countBits _) fun _ => ?_
  refine frame_ite _ (frame_flushApp mem (frame_pure _)) ?_
  refine frame_bind (frame_modify fun _ => rfl) (fun _ => ?_)
  refine frame_bind (frame_getByte mem apart_kept) fun ending => ?_
  refine frame_bind (frame_modify fun _ => rfl) fun _ => ?_
  refine frame_bind (frame_countBits _) fun _ => ?_
  refine frame_ite _ (frame_flushApp mem frame_clearAppn) ?_
  refine frame_bind (frame_gets _) (fun thumbnail => ?_)
  exact frame_ite _ (frame_probeThumbnail mem rounds bufferSize) (frame_probeJfif mem)

theorem frame_segment (rounds bufferSize marker : Nat) :
    Frame NoTable base (segment mem rounds bufferSize marker) := by
  refine frame_ite _ (frame_probeFrame mem marker) ?_
  refine frame_ite _ ((frame_probeScan mem).part Prod.fst) ?_
  refine frame_ite _ ((frame_probeRestart mem).part Prod.fst) ?_
  refine frame_ite _ ((frame_probeApp0 mem _ _).part Prod.fst) ?_
  refine frame_ite _ ((frame_jumpOver mem).part Prod.fst) ?_
  exact frame_ite _ (frame_exit _) (frame_pure _)

theorem frame_prefixByte : Frame NoTable base (prefixByte mem) := by
  refine frame_bind (frame_gets _) fun again => frame_ite _ (frame_pure _) ?_
  exact frame_bind (frame_getByte mem apart_base) (fun b => frame_pure _)

theorem frame_round (rounds bufferSize : Nat) :
    Frame NoTable base (round mem rounds bufferSize) := by
  refine frame_bind (frame_gets _) fun inside => frame_ite _ ?_ (frame_pure _)
  refine frame_bind (frame_prefixByte mem) (fun found => frame_ite _ ?_ ?_)
  · refine frame_bind (frame_getByte mem apart_base) (fun marker => ?_)
    refine frame_bind (frame_modify fun _ => rfl) fun _ => ?_
    refine frame_bind (frame_segment mem rounds bufferSize marker) fun _ => ?_
    refine frame_bind (frame_gets _) fun done => frame_ite _ (frame_pure _) ?_
    refine frame_bind (frame_exitIf _ _) (fun _ => ?_)
    exact frame_bind (frame_nextBit.part Prod.fst) fun _ => frame_pure _
  · exact frame_bind (frame_exitIf _ _) (fun _ => frame_exit _)

end Probe

/-- **The probing parser leaves the tables alone.** -/
theorem frame_jpegDecGetImageInfo (mem : Nat → UInt8) (rounds : Nat) (pDecIn : JpegDecInput) :
    Frame NoTable Probe.base (jpegDecGetImageInfo mem rounds pDecIn) := by
  refine frame_bind (frame_exitIf _ _) fun _ => ?_
  refine frame_bind (frame_exitIf _ _) fun _ => ?_
  refine frame_bind (frame_exitIf _ _) fun _ => ?_
  refine frame_bind (frame_exitIf _ _) fun _ => ?_
  refine frame_bind (frame_loop noTable_rounds (Probe.frame_round mem _ _) rounds) fun _ => ?_
  exact frame_bind (frame_exitIf _ _) fun _ => frame_modify fun _ => rfl

end Jpeg

end Rk3399
