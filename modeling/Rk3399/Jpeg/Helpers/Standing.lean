import Rk3399.Jpeg.Model.Session
import Rk3399.Jpeg.Helpers.Reading
import Rk3399.Jpeg.Helpers.Start
/-!
# What stands while a picture is read

The Huffman tables with the events that defined them, the table memory,
whether a header or a progressive scan is ready, whether the picture is
progressive, and the limits of the hardware: few functions change these. Every
other one leaves them alone, and a parser moves in the stream by the readers
only, so that an invariant of the two readers is one of the parser. No fault
of a parser is one of the table memory.
-/

namespace Rk3399

namespace Jpeg

open Prog

variable {ρ : Type} (mem : Nat → UInt8)

/-- What `JpegDecInit` finds out about the hardware. -/
structure Limits where
  is8190 : Nat
  fuseBurned : Nat
  minSupportedWidth : Nat
  minSupportedHeight : Nat
  maxSupportedWidth : Nat
  maxSupportedHeight : Nat
  maxSupportedPixelAmount : Nat
  maxSupportedSliceSize : Nat
  extensionsSupported : Nat
  deriving DecidableEq, Repr

/-- The limits of an instance. -/
def limits (c : JpegDecContainer) : Limits where
  is8190 := c.is8190
  fuseBurned := c.fuseBurned
  minSupportedWidth := c.minSupportedWidth
  minSupportedHeight := c.minSupportedHeight
  maxSupportedWidth := c.maxSupportedWidth
  maxSupportedHeight := c.maxSupportedHeight
  maxSupportedPixelAmount := c.maxSupportedPixelAmount
  maxSupportedSliceSize := c.maxSupportedSliceSize
  extensionsSupported := c.extensionsSupported

/-- The standing part of an instance. -/
structure Standing where
  vlc : HuffmanTables
  events : List Event
  pTableBase : MppBufferInfo
  allocated : Nat
  headerReady : Nat
  scanReady : Nat
  progressive : Bool
  limits : Limits

/-- The event is one of Huffman tables. -/
def Event.isHuffman : Event → Bool
  | .dht _ _ _ => true
  | .defaultTables => true
  | _ => false

/-- The standing part. -/
def standing (c : JpegDecContainer) : Standing where
  vlc := c.vlc
  events := c.log.filter Event.isHuffman
  pTableBase := c.frame.pTableBase
  allocated := c.info.allocated
  headerReady := c.image.headerReady
  scanReady := c.info.progressiveScanReady
  progressive := decide (c.info.operationType = JPEGDEC_PROGRESSIVE)
  limits := Jpeg.limits c

/-- A fault that is not one of the table memory. -/
def NoTable (e : Fault) : Prop := ∀ w, e ≠ .table w

theorem noTable_stream (a : Nat) : NoTable (.stream a) := fun _ => nofun
theorem noTable_index (i : Nat) : NoTable (.index i) := fun _ => nofun
theorem noTable_heap (n : Nat) : NoTable (.heap n) := fun _ => nofun
theorem noTable_rounds : NoTable .rounds := fun _ => nofun
theorem noTable_handle : NoTable .handle := fun _ => nofun

theorem noTable_of_isStream {e : Fault} (h : IsStream e) : NoTable e := by
  obtain ⟨a, rfl⟩ := h
  exact noTable_stream a

/-! ## The bit reader -/

section stream

variable {φ : Type} {f : JpegDecContainer → φ}

/-- A reader leaves alone what does not depend on the stream. -/
theorem frame_onStream {α : Type} {x : Prog Fault ρ StreamStorage α}
    (hx : KeepsForward (fun _ => True) x) (h : ∀ c t, f { c with stream := t } = f c) :
    Frame NoTable f (onStream x : Decoder ρ α) :=
  fun _ => keeps_zoom (fun _ _ => hx) (fun _ _ => trivial) (fun c t hc _ => (h c t).trans hc)
    (fun c t hc _ => (h c t).trans hc)
    (fun c _ t hc he => ⟨noTable_of_isStream he, (h c t).trans hc⟩)

theorem frame_getByte (h : ∀ c t, f { c with stream := t } = f c) :
    Frame NoTable f (getByte mem : Decoder ρ Nat) :=
  frame_onStream (keeps_jpegDecGetByte mem forward_true) h

theorem frame_get2Bytes (h : ∀ c t, f { c with stream := t } = f c) :
    Frame NoTable f (get2Bytes mem : Decoder ρ Nat) :=
  frame_onStream (keeps_jpegDecGet2Bytes mem forward_true) h

theorem frame_getBytes (n : Nat) (h : ∀ c t, f { c with stream := t } = f c) :
    Frame NoTable f (onStream (getBytes mem n) : Decoder ρ (List Nat)) :=
  frame_onStream (keeps_getBytes mem forward_true n) h

theorem keeps_jpegDecFlushBits (bits : Nat) :
    KeepsForward (fun _ => True) (jpegDecFlushBits mem bits : Prog Fault ρ StreamStorage Nat) :=
  ⟨fun _ _ => wp_mono (wp_jpegDecFlushBits_forward mem forward_true bits trivial)
    (fun _ _ _ => trivial) (fun _ _ h => h) (fun _ _ h => h)⟩

theorem keeps_flushSegment (L n : Nat) :
    KeepsForward (fun _ => True) (flushSegment mem L n : Prog Fault ρ StreamStorage Nat) :=
  ⟨fun _ _ => wp_mono (wp_flushSegment_forward mem forward_true L n trivial)
    (fun _ _ _ => trivial) (fun _ _ h => h) (fun _ _ h => h)⟩

theorem frame_flushBits (bits : Nat) (h : ∀ c t, f { c with stream := t } = f c) :
    Frame NoTable f (flushBits mem bits : Decoder ρ Nat) :=
  frame_onStream (keeps_jpegDecFlushBits mem bits) h

theorem frame_flushSegmentBits (L n : Nat) (h : ∀ c t, f { c with stream := t } = f c) :
    Frame NoTable f (flushSegmentBits mem L n : Decoder ρ Nat) :=
  frame_onStream (keeps_flushSegment mem L n) h

end stream

theorem standing_stream (c : JpegDecContainer) (t : StreamStorage) :
    standing { c with stream := t } = standing c := rfl

/-! ## Parsers -/

/-- A demand on faults and an invariant of the stream that the two readers keep, and
that the other faults of a parser meet. -/
structure Reads (F : Fault → StreamStorage → Prop) (I : StreamStorage → Prop) : Prop where
  byte : Keeps F I I (jpegDecGetByte mem : Prog Fault JpegDecRet StreamStorage Nat)
  bytes : Keeps F I I (jpegDecGet2Bytes mem : Prog Fault JpegDecRet StreamStorage Nat)
  index : ∀ i s, I s → F (.index i) s
  heap : ∀ n s, I s → F (.heap n) s
  rounds : ∀ s, I s → F .rounds s

/-- `x` moves in the stream by the two readers only, and leaves the part `f` of the
instance alone. -/
structure Parses {φ α : Type} (f : JpegDecContainer → φ) (x : Decoder JpegDecRet α) : Prop where
  keeps : ∀ {F : Fault → StreamStorage → Prop} {I : StreamStorage → Prop}, Reads mem F I →
    ∀ v, Keeps (fun e c => F e c.stream ∧ f c = v) (fun c => I c.stream ∧ f c = v)
      (fun c => I c.stream ∧ f c = v) x

section parses

variable {φ ψ α β : Type} {f : JpegDecContainer → φ} {x : Decoder JpegDecRet α} {mem}

theorem reads_noTable : Reads mem (fun e _ => NoTable e) (fun _ => True) where
  byte := (keeps_jpegDecGetByte mem forward_true).mono (fun _ h => h) fun _ _ =>
    noTable_of_isStream
  bytes := (keeps_jpegDecGet2Bytes mem forward_true).mono (fun _ h => h) fun _ _ =>
    noTable_of_isStream
  index i _ _ := noTable_index i
  heap n _ _ := noTable_heap n
  rounds _ _ := noTable_rounds

/-- What a parser leaves alone. -/
theorem Parses.frame (hx : Parses mem f x) : Frame NoTable f x := by
  refine fun v => ⟨fun c hc => ?_⟩
  exact wp_mono ((hx.keeps reads_noTable v).run c ⟨trivial, hc⟩) (fun _ _ h => h.2)
    (fun _ _ h => h.2) (fun _ _ h => h)

/-- What the readers keep, a parser keeps. -/
theorem Parses.stream {F : Fault → StreamStorage → Prop} {I : StreamStorage → Prop}
    (hx : Parses mem f x) (h : Reads mem F I) :
    Keeps (fun e c => F e c.stream) (fun c => I c.stream) (fun c => I c.stream) x := by
  refine ⟨fun c hc => ?_⟩
  exact wp_mono ((hx.keeps h (f c)).run c ⟨hc, rfl⟩) (fun _ _ h => h.1) (fun _ _ h => h.1)
    (fun _ _ h => h.1)

/-- A part of what is left alone is left alone. -/
theorem Parses.part (hx : Parses mem f x) (g : φ → ψ) : Parses mem (fun c => g (f c)) x := by
  refine ⟨fun h v => ⟨fun c hc => ?_⟩⟩
  exact wp_mono ((hx.keeps h (f c)).run c ⟨hc.1, rfl⟩)
    (fun _ _ h => ⟨h.1, (congrArg g h.2).trans hc.2⟩)
    (fun _ _ h => ⟨h.1, (congrArg g h.2).trans hc.2⟩)
    (fun _ _ h => ⟨h.1, (congrArg g h.2).trans hc.2⟩)

theorem parses_pure (a : α) : Parses mem f (pure a : Decoder JpegDecRet α) :=
  ⟨fun _ _ => keeps_pure a⟩

theorem parses_bind {y : Decoder JpegDecRet β} {g : β → Decoder JpegDecRet α}
    (hy : Parses mem f y) (hg : ∀ b, Parses mem f (g b)) : Parses mem f (y >>= g) :=
  ⟨fun h v => keeps_bind (hy.keeps h v) fun b => (hg b).keeps h v⟩

theorem parses_exit (r : JpegDecRet) : Parses mem f (exit r : Decoder JpegDecRet α) :=
  ⟨fun _ _ => keeps_exit (fun _ h => h) r⟩

theorem parses_rounds : Parses mem f (fault .rounds : Decoder JpegDecRet α) :=
  ⟨fun h _ => keeps_fault fun c hc => ⟨h.rounds c.stream hc.1, hc.2⟩⟩

theorem parses_gets (g : JpegDecContainer → α) :
    Parses mem f (gets g : Decoder JpegDecRet α) := ⟨fun _ _ => keeps_gets g⟩

/-- A change that neither moves in the stream nor touches the part. -/
theorem parses_modify {g : JpegDecContainer → JpegDecContainer}
    (h : ∀ c, ((g c).stream, f (g c)) = (c.stream, f c)) :
    Parses mem f (modify g : Decoder JpegDecRet Unit) := by
  refine ⟨fun _ v => keeps_modify fun c hc => ?_⟩
  obtain ⟨hstream, hf⟩ := Prod.mk.inj (h c)
  rwa [hstream, hf]

theorem parses_exitIf (r : JpegDecRet) (p : JpegDecContainer → Prop) [DecidablePred p] :
    Parses mem f (exitIf r p : Decoder JpegDecRet Unit) :=
  ⟨fun _ _ => keeps_exitIf (fun _ h => h) r p⟩

theorem parses_ite (c : Prop) [Decidable c] {x y : Decoder JpegDecRet α} (hx : Parses mem f x)
    (hy : Parses mem f y) : Parses mem f (if c then x else y) :=
  ⟨fun h v => keeps_ite c (hx.keeps h v) (hy.keeps h v)⟩

theorem parses_whenever (p : JpegDecContainer → Prop) [DecidablePred p]
    {x : Decoder JpegDecRet Unit} (hx : Parses mem f x) : Parses mem f (whenever p x) :=
  ⟨fun h v => keeps_whenever p (hx.keeps h v)⟩

theorem parses_subscript (i : Nat) : Parses mem f (subscript i : Decoder JpegDecRet (Fin 3)) := by
  refine ⟨fun h v => ⟨fun c hc => ?_⟩⟩
  unfold wp subscript
  by_cases hi : i < 3
  · simpa [hi] using hc
  · simpa [hi] using ⟨h.index i c.stream hc.1, hc.2⟩

/-- A reader of the stream. -/
theorem parses_onStream {x : Prog Fault JpegDecRet StreamStorage α}
    (hx : ∀ {F : Fault → StreamStorage → Prop} {I : StreamStorage → Prop}, Reads mem F I →
      Keeps F I I x) (h : ∀ c t, f { c with stream := t } = f c) :
    Parses mem f (onStream x : Decoder JpegDecRet α) := by
  refine ⟨fun hreads v => keeps_zoom (fun _ _ => hx hreads) (fun _ hc => hc.1) ?_ ?_ ?_⟩
  · exact fun c t hc ht => ⟨ht, (h c t).trans hc.2⟩
  · exact fun c t hc ht => ⟨ht, (h c t).trans hc.2⟩
  · exact fun c _ t hc ht => ⟨ht, (h c t).trans hc.2⟩

theorem parses_getByte (h : ∀ c t, f { c with stream := t } = f c) :
    Parses mem f (getByte mem : Decoder JpegDecRet Nat) :=
  parses_onStream (fun hreads => hreads.byte) h

theorem parses_get2Bytes (h : ∀ c t, f { c with stream := t } = f c) :
    Parses mem f (get2Bytes mem : Decoder JpegDecRet Nat) :=
  parses_onStream (fun hreads => hreads.bytes) h

theorem parses_getBytes (n : Nat) (h : ∀ c t, f { c with stream := t } = f c) :
    Parses mem f (onStream (getBytes mem n) : Decoder JpegDecRet (List Nat)) := by
  refine parses_onStream (fun hreads => ?_) h
  induction n with
  | zero => exact keeps_pure _
  | succ n ih => exact keeps_bind hreads.byte fun b => keeps_bind ih fun bs => keeps_pure _

end parses

/-! ## Frame headers -/

theorem parses_frameSize : Parses mem standing (frameSize mem) := by
  refine parses_bind (parses_get2Bytes standing_stream) fun Lf => ?_
  refine parses_bind (parses_modify fun _ => rfl) fun _ => ?_
  refine parses_bind (parses_exitIf _ _) fun _ => ?_
  refine parses_bind (parses_getByte standing_stream) fun P => ?_
  refine parses_bind (parses_modify fun _ => rfl) fun _ => ?_
  refine parses_bind (parses_exitIf _ _) fun _ => ?_
  refine parses_bind (parses_get2Bytes standing_stream) fun Y => ?_
  refine parses_bind (parses_modify fun _ => rfl) fun _ => ?_
  refine parses_bind (parses_exitIf _ _) fun _ => ?_
  refine parses_bind (parses_modify fun _ => rfl) fun _ => ?_
  refine parses_bind (parses_get2Bytes standing_stream) fun X => ?_
  refine parses_bind (parses_modify fun _ => rfl) fun _ => ?_
  refine parses_bind (parses_exitIf _ _) fun _ => ?_
  refine parses_bind (parses_modify fun _ => rfl) fun _ => ?_
  refine parses_bind (parses_exitIf _ _) fun _ => ?_
  refine parses_bind (parses_getByte standing_stream) fun Nf => ?_
  exact parses_bind (parses_modify fun _ => rfl) fun _ => parses_exitIf _ _

theorem parses_frameComponent (i : Fin 3) : Parses mem standing (frameComponent mem i) := by
  refine parses_bind (parses_getByte standing_stream) fun C => ?_
  refine parses_bind (parses_modify fun _ => rfl) fun _ => ?_
  refine parses_bind (parses_ite _ (parses_modify fun _ => rfl) (parses_exitIf _ _)) fun _ => ?_
  refine parses_bind (parses_getByte standing_stream) fun tmp1 => ?_
  refine parses_bind (parses_modify fun _ => rfl) fun _ => ?_
  exact parses_bind (parses_getByte standing_stream) fun Tq => parses_modify fun _ => rfl

theorem parses_frameComponents (is : List (Fin 3)) :
    Parses mem standing (frameComponents mem is) := by
  induction is with
  | nil => exact parses_pure _
  | cons i is ih => exact parses_bind (parses_frameComponent mem i) fun _ => ih

theorem standing_setGeometry (Hmax Vmax : Nat) (c : JpegDecContainer) :
    ((setGeometry Hmax Vmax c).stream, standing (setGeometry Hmax Vmax c)) =
      (c.stream, standing c) := by
  have hplanes : ∀ (width height : Nat) (is : List (Fin 3)) (c : JpegDecContainer),
      ((is.foldl (setPlane width height Hmax Vmax) c).stream,
        standing (is.foldl (setPlane width height Hmax Vmax) c)) = (c.stream, standing c) := by
    intro width height is
    induction is with
    | nil => exact fun _ => rfl
    | cons i is ih => exact fun c => (ih _).trans rfl
  exact (hplanes _ _ _ _).trans rfl

theorem parses_frameGeometry : Parses mem standing frameGeometry := by
  refine parses_bind (parses_modify fun c => ?_) fun _ => ?_
  · unfold normaliseSingle
    split <;> rfl
  refine parses_bind (parses_gets _) fun Hmax => ?_
  refine parses_bind (parses_gets _) fun Vmax => ?_
  refine parses_bind (parses_exitIf _ _) fun _ => ?_
  refine parses_bind (parses_whenever _ ?_) fun _ => parses_modify (standing_setGeometry Hmax Vmax)
  exact parses_bind (parses_modify fun _ => rfl) fun _ => parses_exitIf _ _

theorem standing_samplingOf {fr : FrameInfo} {g : JpegDecContainer → JpegDecContainer}
    (h : samplingOf fr = some g) (c : JpegDecContainer) :
    ((g c).stream, standing (g c)) = (c.stream, standing c) := by
  have hset : ∀ mode right bottom row chroma,
      ((setSampling mode right bottom row chroma c).stream,
        standing (setSampling mode right bottom row chroma c)) = (c.stream, standing c) :=
    fun _ _ _ _ _ => rfl
  unfold samplingOf at h
  split_ifs at h
  all_goals cases h
  all_goals exact hset _ _ _ _ _

theorem parses_jpegDecMode : Parses mem standing jpegDecMode := by
  refine parses_bind (parses_gets _) fun fr => ?_
  cases h : samplingOf fr with
  | none => exact parses_exit _
  | some g =>
    exact parses_bind (parses_modify (standing_samplingOf h)) fun _ => parses_modify fun _ => rfl

theorem parses_record {e : Event} (he : e.isHuffman = false) :
    Parses mem standing (record e : Decoder JpegDecRet Unit) := by
  refine parses_modify fun c => ?_
  simp only [standing, List.filter_cons, he]
  rfl

theorem parses_jpegDecDecodeFrameHdr : Parses mem standing (jpegDecDecodeFrameHdr mem) := by
  refine parses_bind (parses_frameSize mem) fun _ => ?_
  refine parses_bind (parses_gets _) fun Nf => ?_
  refine parses_bind (parses_frameComponents mem _) fun _ => ?_
  refine parses_bind (parses_frameGeometry mem) fun _ => ?_
  exact parses_bind (parses_jpegDecMode mem) fun _ => parses_record mem rfl

/-! ## Tables -/

theorem parses_quantTable (t : Nat) : Parses mem standing (quantTable mem t) := by
  refine parses_bind (parses_getByte standing_stream) fun tmp => ?_
  refine parses_bind (parses_exitIf _ _) fun _ => ?_
  cases tableId (tmp % 16) with
  | none => exact parses_exit _
  | some Tq =>
    refine parses_bind (parses_getBytes 64 standing_stream) fun table => ?_
    refine parses_bind (parses_modify fun _ => rfl) fun _ => ?_
    exact parses_bind (parses_record mem rfl) fun _ => parses_pure _

theorem parses_quantTables (Lq n : Nat) : ∀ t, Parses mem standing (quantTables mem Lq n t) := by
  induction n with
  | zero => exact fun _ => parses_rounds
  | succ n ih =>
    intro t
    rw [quantTables]
    exact parses_ite _ (parses_bind (parses_quantTable mem t) fun t => ih t) (parses_pure _)

theorem parses_jpegDecDecodeQuantTables :
    Parses mem standing (jpegDecDecodeQuantTables mem) := by
  refine parses_bind (parses_get2Bytes standing_stream) fun Lq => ?_
  refine parses_bind (parses_modify fun _ => rfl) fun _ => ?_
  exact parses_bind (parses_exitIf _ _) fun _ => parses_quantTables mem Lq _ _

/-- What stands but for the Huffman tables and their events, which a DHT segment
changes. -/
def tableless (c : JpegDecContainer) : Standing := { standing c with vlc := {}, events := [] }

theorem tableless_stream (c : JpegDecContainer) (t : StreamStorage) :
    tableless { c with stream := t } = tableless c := rfl

theorem parses_heap {φ : Type} {f : JpegDecContainer → φ} (n : Nat) (p : JpegDecContainer → Prop)
    [DecidablePred p] :
    Parses mem f (assert (.heap n) p : Decoder JpegDecRet Unit) :=
  ⟨fun h _ => keeps_assert fun c hc _ => ⟨h.heap n c.stream hc.1, hc.2⟩⟩

theorem parses_huffmanTable (len : Nat) : Parses mem tableless (huffmanTable mem len) := by
  refine parses_bind (parses_getByte tableless_stream) fun tmp => ?_
  cases tableClass (tmp / 16) with
  | none => exact parses_exit _
  | some Tc =>
    refine parses_bind (parses_exitIf _ _) fun _ => parses_bind (parses_exitIf _ _) fun _ => ?_
    cases tableId (tmp % 16) with
    | none => exact parses_exit _
    | some Th =>
      refine parses_bind (parses_getBytes 16 tableless_stream) fun bits => ?_
      refine parses_bind (parses_heap mem _ _) fun _ => ?_
      refine parses_bind (parses_getBytes _ tableless_stream) fun vals => ?_
      refine parses_bind (parses_gets _) fun table => ?_
      refine parses_bind (parses_modify fun _ => rfl) fun _ => ?_
      exact parses_bind (parses_modify fun _ => rfl) fun _ => parses_pure _

theorem parses_jpegDecDecodeHuffmanTables :
    Parses mem tableless (jpegDecDecodeHuffmanTables mem) := by
  have htables : ∀ Lh n len, Parses mem tableless (huffmanTables mem Lh n len) := by
    intro Lh n
    induction n with
    | zero => exact fun _ => parses_rounds
    | succ n ih =>
      intro len
      rw [huffmanTables]
      exact parses_ite _ (parses_bind (parses_huffmanTable mem len) ih) (parses_pure _)
  refine parses_bind (parses_get2Bytes tableless_stream) fun Lh => ?_
  refine parses_bind (parses_modify fun _ => rfl) fun _ => ?_
  exact parses_bind (parses_exitIf _ _) fun _ => htables Lh _ _

theorem frame_clearPredictors : Frame NoTable standing clearPredictors :=
  frame_modify fun _ => rfl

theorem frame_jumpSegment (env : Env) : Frame NoTable standing (jumpSegment env) := by
  refine frame_bind (frame_get2Bytes env.mem standing_stream) fun currentBytes => ?_
  exact frame_bind (frame_exitIf _ _) fun _ => frame_modify fun _ => rfl

theorem parses_restartSegment (env : Env) : Parses env.mem standing (restartSegment env) := by
  refine parses_bind (parses_get2Bytes standing_stream) fun currentBytes => ?_
  refine parses_bind (parses_exitIf _ _) fun _ => ?_
  refine parses_bind (parses_get2Bytes standing_stream) fun Ri => ?_
  exact parses_bind (parses_modify fun _ => rfl) fun _ => parses_record env.mem rfl

theorem frame_endSegment : Frame NoTable standing endSegment :=
  frame_bind (frame_exitIf _ _) fun _ => frame_exit _

theorem frame_flushApp0 (env : Env) (L appBits : Nat) :
    Frame NoTable standing (flushApp0 env L appBits) := by
  refine frame_bind (frame_modify fun _ => rfl) fun _ => ?_
  refine frame_bind (frame_flushSegmentBits env.mem L appBits standing_stream) fun flushed => ?_
  exact frame_bind (frame_exitIf _ _) fun _ => frame_modify fun _ => rfl

theorem frame_app0Image (env : Env) : Frame NoTable standing (app0Image env) :=
  frame_bind (frame_get2Bytes env.mem standing_stream) fun _ => frame_flushApp0 env _ _

theorem frame_deleteStuffing (env : Env) : Frame NoTable standing (deleteStuffing env) := by
  refine frame_whenever _ (frame_bind (frame_gets _) fun bitPos => ?_)
  exact frame_bind (frame_flushBits env.mem _ standing_stream) fun flushed => frame_exitIf _ _

/-! ## Scan headers -/

theorem parses_scanChroma : Parses mem standing scanChroma := by
  refine parses_bind (parses_whenever _ ?_) fun _ => parses_modify fun _ => rfl
  refine parses_bind (parses_gets _) fun orig => ?_
  refine parses_ite _ (parses_modify fun _ => rfl) ?_
  refine parses_ite _ (parses_modify fun _ => rfl) ?_
  refine parses_ite _ (parses_modify fun _ => rfl) ?_
  exact parses_bind (parses_modify fun _ => rfl) fun _ => parses_exit _

theorem parses_scanLuma (cIndex : Nat) : Parses mem standing (scanLuma cIndex) := by
  refine parses_bind (parses_modify fun _ => rfl) fun _ => ?_
  refine parses_bind (parses_gets _) fun mode => ?_
  refine parses_ite _ (parses_modify fun _ => rfl) ?_
  refine parses_ite _ (parses_modify fun _ => rfl) ?_
  refine parses_ite _ ?_ (parses_pure _)
  exact parses_bind (parses_modify fun _ => rfl) fun _ => parses_exit _

theorem parses_scanUpdate (cIndex : Fin 3) (Cs : Nat) :
    Parses mem standing (scanUpdate cIndex Cs) := by
  have hcomponent : Parses mem standing (scanComponent cIndex Cs) := by
    refine parses_ite _ (parses_scanChroma mem) (parses_ite _ (parses_scanLuma mem _) ?_)
    exact parses_bind (parses_modify fun _ => rfl) fun _ => parses_exit _
  refine parses_bind (parses_gets _) fun Nf => parses_ite _ ?_ ?_
  · refine parses_bind (parses_modify fun _ => rfl) (fun _ => ?_)
    refine parses_bind (parses_subscript _) fun k => ?_
    refine parses_bind (parses_modify fun _ => rfl) fun _ => ?_
    exact parses_bind hcomponent fun _ => parses_modify fun _ => rfl
  · exact parses_ite _ (parses_modify fun _ => rfl) (parses_pure _)

theorem parses_scanSingle : Parses mem standing (scanSingle mem) := by
  refine parses_bind (parses_modify fun c => ?_) fun _ => ?_
  · -- a scan of one component makes a baseline picture non-interleaved, no more
    have hop : (if c.info.operationType = JPEGDEC_BASELINE ∧ c.info.yCbCrMode ≠ JPEGDEC_YUV400 then
        JPEGDEC_NONINTERLEAVED else c.info.operationType) = JPEGDEC_PROGRESSIVE ↔
        c.info.operationType = JPEGDEC_PROGRESSIVE := by
      split
      · next h => rw [h.1]; decide
      · rfl
    simp only [standing, limits, hop]
  refine parses_bind (parses_getByte standing_stream) fun Cs => ?_
  refine parses_bind (parses_modify fun _ => rfl) fun _ => ?_
  refine parses_bind (parses_subscript _) fun k => ?_
  refine parses_bind (parses_modify fun _ => rfl) fun _ => ?_
  refine parses_bind (parses_getByte standing_stream) fun tmp => ?_
  refine parses_bind (parses_modify fun _ => rfl) fun _ => ?_
  exact parses_bind (parses_scanUpdate mem k Cs) fun _ => parses_modify fun _ => rfl

theorem parses_scanComponents (n : Nat) : ∀ i, Parses mem standing (scanComponents mem n i) := by
  induction n with
  | zero => exact fun _ => parses_pure _
  | succ n ih =>
    intro i
    rw [scanComponents]
    refine parses_bind (parses_getByte standing_stream) fun Cs => ?_
    refine parses_bind (parses_subscript _) fun k => ?_
    refine parses_bind (parses_modify fun _ => rfl) fun _ => ?_
    refine parses_bind (parses_getByte standing_stream) fun tmp => ?_
    exact parses_bind (parses_modify fun _ => rfl) fun _ => ih (i + 1)

theorem parses_scanParams : Parses mem standing (scanParams mem) := by
  refine parses_bind (parses_getByte standing_stream) fun Ss => ?_
  refine parses_bind (parses_modify fun _ => rfl) fun _ => ?_
  refine parses_bind (parses_getByte standing_stream) fun Se => ?_
  refine parses_bind (parses_modify fun _ => rfl) fun _ => ?_
  refine parses_bind (parses_getByte standing_stream) fun tmp => ?_
  refine parses_bind (parses_modify fun _ => rfl) fun _ => ?_
  refine parses_bind (parses_whenever _ ?_) fun _ => parses_whenever _ ?_
  · refine parses_bind (parses_exitIf _ _) fun _ => ?_
    refine parses_bind (parses_exitIf _ _) fun _ => ?_
    refine parses_bind (parses_exitIf _ _) fun _ => ?_
    exact parses_bind (parses_exitIf _ _) fun _ => parses_modify fun _ => rfl
  · refine parses_bind (parses_exitIf _ _) fun _ => ?_
    refine parses_bind (parses_exitIf _ _) fun _ => ?_
    refine parses_bind (parses_exitIf _ _) fun _ => parses_modify fun c => ?_
    unfold progressiveScan
    split <;> rfl

theorem parses_jpegDecDecodeScanHeader : Parses mem standing (jpegDecDecodeScanHeader mem) := by
  refine parses_bind (parses_get2Bytes standing_stream) fun Ls => ?_
  refine parses_bind (parses_modify fun _ => rfl) fun _ => ?_
  refine parses_bind (parses_exitIf _ _) fun _ => ?_
  refine parses_bind (parses_getByte standing_stream) fun Ns => ?_
  refine parses_bind (parses_modify fun _ => rfl) fun _ => ?_
  refine parses_bind (parses_ite _ (parses_scanSingle mem) ?_) fun _ => parses_scanParams mem
  exact parses_bind (parses_scanComponents mem Ns 0) fun _ => parses_modify fun _ => rfl

end Jpeg

end Rk3399
