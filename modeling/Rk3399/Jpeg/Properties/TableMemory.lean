import Rk3399.Jpeg.Helpers.HuffmanRun
import Rk3399.Jpeg.Helpers.MemoryRun
/-!
# The table memory is large enough

The memory a start writes its tables to is the one the first scan header
on the instance allocated. It has the size of the mode of that picture, its
mapping is not checked, and a scan header that failed counts as ready. A
session stays inside the table memory where its calls meet none of the
three.
-/

namespace Rk3399

namespace Jpeg

open Prog TableState

/-! ## Headers -/

/-- The table memory, and whether a header counts as ready. -/
def reading (c : JpegDecContainer) : TableState × Nat := (tableState c, c.image.headerReady)

theorem frame_reading {α : Type} {x : Decoder JpegDecRet α} (hx : Frame NoTable standing x) :
    Frame NoTable reading x :=
  Frame.part hx fun s => (s.table, s.headerReady)

theorem frame_reading_jpegDecDecodeHuffmanTables (mem : Nat → UInt8) :
    Frame NoTable reading (jpegDecDecodeHuffmanTables mem) :=
  Frame.part (parses_jpegDecDecodeHuffmanTables mem).frame fun s => (s.table, s.headerReady)

section headers

/-- Until a scan header is read the memory is the one before the headers, and no
header counts as ready but one from before. -/
def Reading (s0 : TableState) (p : TableState × Nat) : Prop :=
  p.1 = s0.withMode p.1.progressive ∧ (p.2 ≠ 0 → s0.allocated ≠ 0)

/-- Where a header counts as ready, the memory is the one a scan header left. -/
def Read (s0 : TableState) (p : TableState × Nat) : Prop :=
  p.1.Sized ∧ (p.2 ≠ 0 → ∃ mode, Scanned (s0.withMode mode) p.1)

variable {s0 : TableState}

theorem Reading.sized {p : TableState × Nat} (h : Reading s0 p) (hs : s0.Sized) : p.1.Sized := by
  rw [h.1]
  exact hs.withMode _

theorem Reading.read {p : TableState × Nat} (h : Reading s0 p) (hs : s0.Sized) : Read s0 p :=
  ⟨h.sized hs, fun hready => ⟨p.1.progressive, Or.inl ⟨h.2 hready, h.1⟩⟩⟩

/-- `x` keeps `Reading` on the instance of a marker loop. -/
abbrev KeepsReading (s0 : TableState) {α : Type} (x : Prog Fault JpegDecRet Scanning α) : Prop :=
  Keeps (fun e _ => NoTable e) (fun s => (tableState s.cont).Sized)
    (fun s => Reading s0 (reading s.cont)) x

theorem keepsReading_onCont (hs : s0.Sized) {α : Type} {x : Decoder JpegDecRet α}
    (hx : Frame NoTable reading x) : KeepsReading s0 (Scanning.onCont x) := by
  have hkeeps := Scanning.keeps_onCont ((Frame.keeps hx (Reading s0)).mono (fun _ h => h)
    fun _ _ h => h.1)
  exact hkeeps.mono (fun _ h => h.sized hs) fun _ _ h => h

theorem keepsReading_standing (hs : s0.Sized) {α : Type} {x : Decoder JpegDecRet α}
    (hx : Frame NoTable standing x) : KeepsReading s0 (Scanning.onCont x) :=
  keepsReading_onCont hs (frame_reading hx)

/-- Behind a segment: as before, or a scan header was read. -/
def Behind (s0 : TableState) (s : Scanning) : Prop :=
  Reading s0 (reading s.cont) ∨ (Read s0 (reading s.cont) ∧ s.cont.image.headerReady ≠ 0)

theorem keepsReading_app0Thumbnail (hs : s0.Sized) (env : Env) :
    KeepsReading s0 (app0Thumbnail env) := by
  have h2 : KeepsReading s0 (Scanning.onCont (get2Bytes env.mem)) :=
    keepsReading_standing hs (frame_get2Bytes env.mem standing_stream)
  have h1 : KeepsReading s0 (Scanning.onCont (getByte env.mem)) :=
    keepsReading_standing hs (frame_getByte env.mem standing_stream)
  have hflush : ∀ L n, KeepsReading s0 (Scanning.onCont (flushApp0 env L n)) :=
    fun L n => keepsReading_standing hs (frame_flushApp0 env L n)
  refine keeps_bind h2 fun appLength => keeps_bind h2 fun jf => keeps_ite _ (hflush _ _) ?_
  refine keeps_bind h2 (fun xx => keeps_ite _ (hflush _ _) ?_)
  refine keeps_bind h1 (fun ending => keeps_bind (keeps_modify fun _ h => h) fun _ => ?_)
  refine keeps_ite _ (hflush _ _) (keeps_bind h1 fun code => ?_)
  refine keeps_bind (keeps_modify fun _ h => h) fun _ => ?_
  exact keeps_bind (keeps_exitIf (fun _ h => h.sized hs) _ _) fun _ => keeps_modify fun _ h => h

theorem wp_decodeSegment (hs : s0.Sized) {env : Env} (hmaps : env.alloc.Maps)
    (decImageType marker : Nat) {s : Scanning} (h : Reading s0 (reading s.cont)) :
    wp (decodeSegment env decImageType marker) (fun _ => Behind s0)
      (fun _ s' => (tableState s'.cont).Sized) (fun e _ => NoTable e) s := by
  have hkept : ∀ {x : Prog Fault JpegDecRet Scanning Unit}, KeepsReading s0 x →
      wp x (fun _ => Behind s0) (fun _ s' => (tableState s'.cont).Sized) (fun e _ => NoTable e) s :=
    fun hx => wp_mono (hx.run s h) (fun _ _ h => Or.inl h) (fun _ _ h => h) (fun _ _ h => h)
  have hunsupported : KeepsReading s0 (exit .unsupported : Prog Fault JpegDecRet Scanning Unit) :=
    keeps_exit (fun _ h => h.sized hs) _
  rw [decodeSegment, wp_ite]
  by_cases hsof : marker = SOF0 ∨ marker = SOF2
  · -- a frame header sets the mode
    rw [if_pos hsof]
    have hframe : KeepsReading s0 (Scanning.onCont (frameSegment env marker)) := by
      refine (Scanning.keeps_onCont (F := fun e _ => NoTable e)
        (J := fun c => Reading s0 (reading c))
        (X := fun c => (tableState c).Sized) ?_)
      refine keeps_bind (keeps_modify fun c h => ⟨?_, h.2⟩) fun _ => ?_
      · exact congrArg (TableState.withMode _) h.1
      · exact (Frame.keeps (frame_reading (parses_jpegDecDecodeFrameHdr env.mem).frame)
          (Reading s0)).mono
          (fun _ h => h.sized hs) fun _ _ h => h.1
    exact hkept hframe
  rw [if_neg hsof, wp_ite]
  by_cases hsos : marker = SOS
  · -- a scan header finds or allocates the table memory
    rw [if_pos hsos, Scanning.onCont, wp_zoom]
    have hmode : Sized (tableState s.cont) := h.sized hs
    refine wp_mono (wp_scanSegment hmaps s.cont) (fun _ c' hc' => ?_) (fun _ c' hc' => ?_)
      (fun _ _ h => h)
    · refine Or.inr ⟨⟨hc'.1.sized hmode, fun _ => ⟨(tableState s.cont).progressive, ?_⟩⟩, hc'.2⟩
      have hstate : tableState s.cont = s0.withMode (tableState s.cont).progressive := h.1
      rw [← hstate]
      exact hc'.1
    · rcases hc' with hc' | hc'
      · exact hc'.sized hmode
      · exact hc'.sized hmode
  rw [if_neg hsos]
  -- no other segment touches what the table memory depends on
  refine hkept ?_
  refine keeps_ite _ ?_ (keeps_ite _ (keepsReading_standing hs ?_) ?_)
  · refine keeps_bind (keepsReading_onCont hs (frame_reading_jpegDecDecodeHuffmanTables env.mem)) ?_
    exact fun _ => keeps_modify fun _ h => h
  · exact (parses_jpegDecDecodeQuantTables env.mem).frame
  refine keeps_ite _ (keepsReading_standing hs frame_endSegment) ?_
  refine keeps_ite _ (keeps_bind (keepsReading_standing hs (parses_restartSegment env).frame)
    fun _ => keeps_modify fun _ h => h) ?_
  refine keeps_ite _ (keepsReading_standing hs frame_clearPredictors) ?_
  refine keeps_ite _ hunsupported (keeps_ite _ (keeps_ite _ ?_ ?_) ?_)
  · exact keepsReading_app0Thumbnail hs env
  · exact keepsReading_standing hs (frame_app0Image env)
  · exact keeps_ite _ (keepsReading_standing hs (frame_jumpSegment env)) (keeps_pure _)

/-- The end of a round. -/
theorem wp_goOn {s : Scanning} (hs : s0.Sized) (h : Behind s0 s) {X : JpegDecRet → Scanning → Prop}
    {F : Fault → Scanning → Prop} :
    wp Scanning.goOn (fun go s' => if go then Reading s0 (reading s'.cont)
      else Read s0 (reading s'.cont)) X F s := by
  rw [Scanning.goOn, wp_gets]
  rcases h with h | ⟨h, hready⟩
  · split
    · exact h
    · exact h.read hs
  · rw [if_neg (by simp [hready])]
    exact h

theorem wp_decodeRound (hs : s0.Sized) {env : Env} (hmaps : env.alloc.Maps) (decImageType : Nat)
    {s : Scanning} (h : Reading s0 (reading s.cont)) :
    wp (decodeRound env decImageType) (fun go s' => if go then Reading s0 (reading s'.cont)
      else Read s0 (reading s'.cont)) (fun _ s' => (tableState s'.cont).Sized)
      (fun e _ => NoTable e) s := by
  have hbyte : KeepsReading s0 (Scanning.onCont (getByte env.mem)) :=
    keepsReading_standing hs (frame_getByte env.mem standing_stream)
  have hfound : KeepsReading s0 (decodePrefix env) := by
    refine keeps_bind (keeps_gets _) fun again => keeps_ite _ (keeps_pure _) ?_
    exact keeps_bind hbyte (fun _ => keeps_pure _)
  unfold decodeRound
  rw [wp_bind, wp_gets, wp_ite]
  split
  · exact h.read hs
  refine wp_seq (hfound.run s h) fun found s1 h1 => ?_
  rw [wp_ite]
  split
  · unfold Scanning.marker
    refine wp_seq (hbyte.run s1 h1) fun marker s2 h2 => ?_
    rw [wp_bind, wp_modify]
    refine wp_seq (wp_decodeSegment hs hmaps decImageType marker
      (s := { s2 with currentByte := marker }) h2) fun _ s3 h3 => ?_
    exact wp_goOn hs h3
  · unfold Scanning.noMarker
    rw [wp_bind, wp_gets, wp_ite]
    split
    · exact h1.read hs
    · exact wp_goOn hs (Or.inl h1)

/-- **The headers of a call** leave the memory that was there, or one in the size of
the mode. -/
theorem wp_findMarkers_table {env : Env} (hmaps : env.alloc.Maps) (decImageType : Nat)
    {c : JpegDecContainer} (hs : (tableState c).Sized)
    (hready : c.image.headerReady ≠ 0 → c.info.allocated ≠ 0) :
    wp (findMarkers env decImageType) (fun _ c' => Read (tableState c) (reading c'))
      (fun _ c' => (tableState c').Sized) (fun e _ => NoTable e) c := by
  unfold findMarkers
  rw [wp_zoom]
  refine wp_seq (M := fun _ s => Read (tableState c) (reading s.cont)) ?_ fun _ s h => ?_
  · refine wp_loop (I := fun s : Scanning => Reading (tableState c) (reading s.cont)) ?_
      (fun _ _ => noTable_rounds) env.rounds { cont := c } ⟨rfl, hready⟩
    exact fun s h => wp_decodeRound hs hmaps decImageType h
  · rw [wp_bind, wp_gets, wp_ite]
    split
    · exact h
    · exact h

end headers

/-! ## Calls -/

section call

variable {c : JpegDecContainer} {env : DecodeEnv} {pDecIn : JpegDecInput}

/-- **The call fits the table memory**: the allocator maps what it allocates, a
header that counts as ready came with a memory, and no progressive picture
comes behind a memory of the baseline size. -/
def CallFits (env : DecodeEnv) (pDecIn : JpegDecInput) (c : JpegDecContainer) : Prop :=
  env.alloc.Maps ∧ (c.image.headerReady ≠ 0 → c.info.allocated ≠ 0) ∧
    (c.info.allocated ≠ 0 → c.frame.pTableBase.size = JPEGDEC_BASELINE_TABLE_SIZE →
      ∀ d, beforeStart env pDecIn { cont := c } = .next true d →
        d.cont.info.operationType ≠ JPEGDEC_PROGRESSIVE)

/-- The same of the steps of a session that decode. -/
def TableFits : Step → JpegDecContainer → Prop
  | .decode env pDecIn, c => CallFits env pDecIn c
  | _, _ => True

/-- What a scan header left fits the start behind it, unless the mode is
progressive and the memory of the baseline size. -/
theorem fits_of_scanned {s0 s : TableState} {mode : Bool} (hs0 : s0.Sized) (hs : s.Sized)
    (h : Scanned (s0.withMode mode) s)
    (hmode : s0.allocated ≠ 0 → s0.pTableBase.size = JPEGDEC_BASELINE_TABLE_SIZE →
      s.progressive ≠ true) : s.Fits := by
  rcases h with ⟨h0, rfl⟩ | ⟨h0, hstate, -, hsize⟩
  · refine ⟨hs, h0, fun hp => ?_⟩
    obtain ⟨progressive, hsize⟩ := hs0.size h0
    cases progressive with
    | true => exact hsize
    | false => exact absurd hp (hmode h0 hsize)
  · have hallocated : s.allocated = 1 := by rw [hstate]
    refine ⟨hs, by rw [hallocated]; exact Nat.one_ne_zero, fun hp => ?_⟩
    have hmode : mode = true := by rw [hstate] at hp; exact hp
    rw [hsize, hmode]
    rfl

theorem wp_openStream_table (env : Env) (junk : JpegDecImageInfo) (pDecIn : JpegDecInput)
    (hs : (tableState c).Sized) (hready : c.image.headerReady ≠ 0 → c.info.allocated ≠ 0) :
    wp (openStream env junk pDecIn)
      (fun _ c' => Reading (tableState c) (reading c')) (fun _ c' => (tableState c').Sized)
      (fun e _ => NoTable e) c := by
  -- what leaves the standing fields leaves the table memory
  have hkeeps : ∀ {x : Decoder JpegDecRet Unit}, Frame NoTable (fun c => (standing c).base) x →
      Keeps (fun e _ => NoTable e) (fun c' => (tableState c').Sized)
        (fun c' => Reading (tableState c) (reading c')) x := by
    intro x hx
    refine ⟨fun c' h => ?_⟩
    have hsame : ∀ {d : JpegDecContainer}, (standing d).base = (standing c').base →
        Reading (tableState c) (reading d) := by
      intro d hd
      have htable := congrArg (fun s : Standing => (s.pTableBase, s.allocated, s.scanReady)) hd
      simp only [Prod.mk.injEq, Standing.base] at htable
      refine ⟨?_, ?_⟩
      · have hstate : tableState c' = (tableState c).withMode (tableState c').progressive := h.1
        rw [TableState.mk.injEq] at hstate
        change tableState d = _
        rw [TableState.mk.injEq]
        exact ⟨htable.1.trans hstate.1, htable.2.1.trans hstate.2.1,
          htable.2.2.trans hstate.2.2.1, rfl⟩
      · have hheader : d.image.headerReady = c'.image.headerReady :=
          congrArg Standing.headerReady hd
        exact fun hne => h.2 (fun h0 => hne (hheader.trans h0))
    exact wp_mono ((hx _).run c' rfl) (fun _ _ hd => hsame hd) (fun _ _ hd => (hsame hd).sized hs)
      (fun _ _ hd => hd.1)
  unfold openStream
  rw [wp_bind, wp_modify]
  refine Keeps.run (I := fun c' => Reading (tableState c) (reading c')) ?_
    ({ c with log := [] } : JpegDecContainer) ⟨rfl, hready⟩
  refine keeps_bind (hkeeps ((frame_checkInput pDecIn).part Standing.base)) fun _ => ?_
  refine keeps_bind (hkeeps (frame_probeImage env junk pDecIn)) fun _ => ?_
  refine keeps_modify fun c' h => ?_
  unfold storeStream
  split
  · exact h
  · exact ⟨h.1, fun hne => absurd rfl hne⟩

/-- **Before the start**: a header that counts as ready comes with a memory that
fits. -/
theorem wp_beforeStart_table (hs : (tableState c).Sized) (hfits : CallFits env pDecIn c) :
    wp (beforeStart env pDecIn)
      (fun go d => if go then Read (tableState c) (reading d.cont) else (tableState d.cont).Sized)
      (fun _ d => (tableState d.cont).Sized) (fun e _ => NoTable e) { cont := c } := by
  obtain ⟨hmaps, hready, -⟩ := hfits
  refine wp_seq (M := fun _ d => Reading (tableState c) (reading d.cont)) ?_ fun _ d1 h1 => ?_
  · rw [Decoding.onCont, wp_zoom]
    exact wp_openStream_table env.toEnv env.junk pDecIn hs hready
  refine wp_seq (M := fun _ d => Reading (tableState c) (reading d.cont)) ?_ fun _ d2 h2 => ?_
  · rw [wp_modify]
    split
    · exact h1
    · exact h1
  refine wp_seq (M := fun _ d => Reading (tableState c) (reading d.cont)) ?_ fun _ d3 h3 => ?_
  · have hcheck := Frame.keeps (frame_reading (frame_checkPicture pDecIn)) (Reading (tableState c))
    exact (Decoding.keeps_onCont (hcheck.mono (fun _ h => h.sized hs) fun _ _ h => h.1)).run d2 h2
  refine wp_seq (M := fun _ d => d = d3) rfl fun finish d4 h4 => ?_
  subst h4
  rw [wp_ite]
  split
  · rw [wp_pure, if_neg Bool.false_ne_true]
    exact h3.sized hs
  -- taking over the stream leaves the table memory and the header state
  have hstart : tableState (startStreaming pDecIn d4.cont) = tableState d4.cont :=
    congrArg Standing.table (standing_startStreaming pDecIn d4.cont)
  have hheader : (startStreaming pDecIn d4.cont).image.headerReady = d4.cont.image.headerReady :=
    congrArg Standing.headerReady (standing_startStreaming pDecIn d4.cont)
  have hstate : tableState d4.cont = (tableState c).withMode (tableState d4.cont).progressive :=
    h3.1
  have hallocated : d4.cont.info.allocated = c.info.allocated :=
    congrArg TableState.allocated hstate
  refine wp_seq (M := fun _ d => Read (tableState c) (reading d.cont)) ?_ fun _ d h => ?_
  · rw [Decoding.onCont, wp_zoom, readHeaders, wp_bind, wp_modify]
    refine wp_mono (wp_findMarkers_table hmaps pDecIn.decImageType
      (c := startStreaming pDecIn d4.cont) ?_ ?_) (fun _ c' hc' => ⟨hc'.1, fun hne => ?_⟩)
      (fun _ _ h => h) (fun _ _ h => h)
    · rw [hstart]
      exact h3.sized hs
    · have hkept : (startStreaming pDecIn d4.cont).info.allocated = d4.cont.info.allocated :=
        congrArg TableState.allocated hstart
      rw [hheader, hkept, hallocated]
      exact h3.2
    · obtain ⟨mode, hscanned⟩ := hc'.2 hne
      rw [hstart, hstate] at hscanned
      exact ⟨mode, hscanned⟩
  · rw [wp_pure, if_pos rfl]
    exact h

/-- The headers of the next scan find a memory. -/
theorem keepsTable_jpegDecNextScanHdrs {env : Env} (hmaps : env.alloc.Maps) :
    KeepsTable Fits (jpegDecNextScanHdrs env) := by
  have hframe : ∀ {x : Decoder JpegDecRet Unit}, Frame NoTable reading x → KeepsTable Fits x :=
    fun hx => keepsTable_of_frame (Frame.part hx Prod.fst)
  have hstanding : ∀ {x : Decoder JpegDecRet Unit}, Frame NoTable standing x →
      KeepsTable Fits x := fun hx => keepsTable_of_standing hx
  have hscan : KeepsTable Fits (scanSegment env) := by
    refine ⟨fun c hc => ?_⟩
    -- a memory that is allocated is kept, whether the header is refused or not
    have hsame : ∀ {s' : TableState}, Scanned (tableState c) s' → s' = tableState c := by
      rintro s' (⟨-, h⟩ | ⟨h0, -⟩)
      · exact h
      · exact absurd h0 hc.allocated
    refine wp_mono (wp_scanSegment hmaps c) (fun _ c' h => ?_) (fun _ c' h => ?_) (fun _ _ h => h)
    · rw [hsame h.1]
      exact hc
    · rcases h with h | h
      · rw [hsame h]
        exact hc
      · rw [h.2 hc.allocated]
        exact hc
  have hsegment : ∀ m, KeepsTable Fits (nextScanSegment env m) := by
    intro m
    refine keeps_ite _ hscan
      (keeps_ite _ (hframe (frame_reading_jpegDecDecodeHuffmanTables env.mem)) ?_)
    refine keeps_ite _ (hstanding (parses_jpegDecDecodeQuantTables env.mem).frame) ?_
    refine keeps_ite _ (hstanding frame_endSegment) ?_
    refine keeps_ite _ (hstanding (parses_restartSegment env).frame) ?_
    refine keeps_ite _ (hstanding frame_clearPredictors)
      (keeps_ite _ (keeps_exit (fun _ h => h) _) ?_)
    exact keeps_ite _ (hstanding (frame_jumpSegment env)) (keeps_pure _)
  have hround := Scanning.keeps_nextScanRound env
    (keepsTable_of_standing (I := Fits) (frame_getByte env.mem standing_stream)) hsegment
  refine keeps_bind (keeps_modify fun _ h => h) fun _ => ?_
  exact keeps_zoom (fun _ _ => keeps_loop hround (fun _ _ => noTable_rounds) env.rounds)
    (fun _ h => h) (fun _ _ _ h => h) (fun _ _ _ h => h) (fun _ _ _ _ h => h)

theorem keepsPart_hwRound {env : DecodeEnv} (hmaps : env.alloc.Maps) :
    KeepsPart (fun s => s.table.Fits) (hwRound env) := by
  have hscan : KeptByScan fun s => s.table.Fits := fun s h hp =>
    ⟨⟨h.mapped, h.size, fun _ => ⟨h.allocated, h.progressive hp⟩⟩, h.allocated, h.progressive⟩
  refine keeps_bind (Decoding.keeps_onCont keepsTable_startHw) fun _ => ?_
  refine keeps_bind (keepsPart_hwAnswer hscan env) fun _ => ?_
  refine keeps_bind (keeps_whenever _ ?_) fun _ => keeps_gets _
  have hnext : KeepsTable Fits (call (jpegDecNextScanHdrs env.toEnv) : Decoder JpegDecRet _) :=
    keeps_call (keepsTable_jpegDecNextScanHdrs hmaps)
  refine keeps_bind (Decoding.keeps_onCont hnext) fun retCode => keeps_ite _ ?_ (keeps_pure _)
  exact keepsPart_of_frame (frame_orReturn retCode)

/-- **A call that fits** stays inside the table memory, and leaves one for the next
call. -/
theorem wp_jpegDecDecode_table (hs : (tableState c).Sized) (hfits : CallFits env pDecIn c) :
    wp (jpegDecDecode env pDecIn) (fun _ d => (tableState d.cont).Sized)
      (fun _ d => (tableState d.cont).Sized) (fun e _ => NoTable e) { cont := c } := by
  have hfinish : ∀ i, KeepsPart (fun s => s.table.Sized) (finishComponent env i) := fun i =>
    keepsPart_of_frame (frame_finishComponent env i)
  have himage : KeepsPart (fun s => s.table.Sized) (imageReady env) :=
    keepsPart_of_frame (frame_imageReady env)
  have hbefore := wp_beforeStart_table hs hfits
  unfold jpegDecDecode
  rw [wp_bind]
  rw [wp_def] at hbefore ⊢
  refine ⟨fun go d h => ?_, hbefore.2.1, hbefore.2.2⟩
  have hd := hbefore.1 go d h
  rw [wp_ite]
  split
  · next hgo =>
    subst hgo
    rw [if_pos rfl] at hd
    refine wp_seq (M := fun _ d' => (tableState d'.cont).Sized) ?_ fun _ d' hd' => himage.run d' hd'
    rw [wp_whenever]
    split
    · next hready =>
      obtain ⟨mode, hscanned⟩ := hd.2 hready
      -- behind the markers the memory is as large as the scan needs
      have hstart : (tableState d.cont).Fits := by
        refine fits_of_scanned hs hd.1 hscanned fun h0 hsize hp => ?_
        exact hfits.2.2 h0 hsize d h (of_decide_eq_true hp)
      have hloop := keeps_loop (keepsPart_hwRound hfits.1) (fun _ _ => noTable_rounds)
        (e := .rounds) env.rounds
      exact wp_mono (hloop.run d hstart) (fun _ _ h => h.toSized) (fun _ _ h => h.toSized)
        (fun _ _ h => h)
    · exact hd.1
  · next hgo =>
    rw [if_neg hgo] at hd
    have hrest : KeepsPart (fun s => s.table.Sized) (do
        modify Decoding.imageOutputNoPp
        finishComponent env (← gets (·.cont.info.pfCompId))) := by
      refine keeps_bind (keepsPart_of_frame (frame_modify Decoding.part_imageOutputNoPp))
        fun _ => ?_
      exact keeps_bind (keeps_gets _) fun i => hfinish i
    exact hrest.run d hd

end call

/-! ## Sessions -/

theorem sized_of_session {c : JpegDecContainer} (h : Session TableFits c) :
    (tableState c).Sized := by
  refine Session.induct (I := fun c => (tableState c).Sized) ?_ (fun s c hs hfits => ?_) h
  · exact ⟨fun h0 => absurd rfl h0, fun h0 => absurd rfl h0, fun h0 => absurd rfl h0⟩
  cases s with
  | attach pp pictureMem => exact hs
  | probe env junk pDecIn =>
    have hprobe := (frame_jpegDecGetImageInfo env.mem env.rounds pDecIn).keeps
      fun s => s.table.Sized
    change wp (zoom (probeStart pDecIn junk) (fun p _ => p.cont)
      (jpegDecGetImageInfo env.mem env.rounds pDecIn)) _ _ _ c
    rw [wp_zoom]
    exact wp_mono (hprobe.run _ (hs.withMode false)) (fun _ p h => h.withMode _)
      (fun _ p h => h.withMode _) (fun _ _ _ => trivial)
  | decode env pDecIn =>
    change wp (zoom (fun c => ({ cont := c } : Decoding)) (fun d _ => d.cont)
      (jpegDecDecode env pDecIn)) _ _ _ c
    rw [wp_zoom]
    exact wp_mono (wp_jpegDecDecode_table hs hfits) (fun _ _ h => h) (fun _ _ h => h)
      (fun _ _ _ => trivial)

/-- **The table memory is large enough** in every session whose calls fit it: no
writer of a call finds it unmapped or writes beyond it. -/
theorem inTable_of_tableFits {c : JpegDecContainer} (h : Session TableFits c) (env : DecodeEnv)
    (pDecIn : JpegDecInput) (hfits : CallFits env pDecIn c) (w : Nat) (d : Decoding) :
    jpegDecDecode env pDecIn { cont := c } ≠ .fault (.table w) d := by
  intro hfault
  have hno : NoTable (.table w) :=
    wp_fault_of (wp_jpegDecDecode_table (sized_of_session h) hfits) hfault
  exact hno w rfl

/-! ## A picture behind another -/

/-- A progressive picture of one interleaved scan. -/
def progressivePicture (width height : Nat) : List UInt8 :=
  [0xFF, 0xD8] ++ frameHeader 0xC2 width height 0 ++
    segment 0xDA [3, 1, 0, 2, 0, 3, 0, 0, 0, 0] ++ [0x12, 0x34, 0xFF, 0xD9]

/-- The call for a plain picture. -/
def plainDecode : Step :=
  .decode (envOf (plainPicture 48 48 0) readyRegs) (inputOf (plainPicture 48 48 0) 0)

/-- The instance behind one. -/
def plainDecoded : JpegDecContainer := (plainDecode.run jpegDecInit).state

theorem plainDecode_ends : plainDecode.Ends jpegDecInit plainDecoded :=
  .inr ⟨.frameReady, Outcome.IsExit.eq (by decide +kernel)⟩

/-- The call on a fresh instance fits. -/
theorem session_plainDecoded : Session TableFits plainDecoded :=
  .step plainDecode .init ⟨fun _ => by decide, fun h => absurd rfl h, fun h => absurd rfl h⟩
    plainDecode_ends

/-- So does the same call behind it, which finds the memory of the first. -/
theorem callFits_plainDecoded :
    CallFits (envOf (plainPicture 48 48 0) readyRegs) (inputOf (plainPicture 48 48 0) 0)
      plainDecoded := by
  refine ⟨fun _ => by decide, fun _ => by decide +kernel, fun _ _ d hd => ?_⟩
  have hmode : (beforeStart (envOf (plainPicture 48 48 0) readyRegs)
      (inputOf (plainPicture 48 48 0) 0)
        { cont := plainDecoded }).state.cont.info.operationType ≠ JPEGDEC_PROGRESSIVE := by
    decide +kernel
  rw [hd] at hmode
  exact hmode

/-- The second picture does not write beyond the 136 words of the baseline size. -/
theorem inTable_secondPicture :
    jpegDecDecode (envOf (plainPicture 48 48 0) readyRegs) (inputOf (plainPicture 48 48 0) 0)
      { cont := plainDecoded } ≠ .fault (.table 136) { cont := plainDecoded } :=
  inTable_of_tableFits session_plainDecoded _ _ callFits_plainDecoded 136 _

/-- **A progressive picture behind a baseline one** is written beyond the table
memory. -/
theorem not_inTable : ¬ ∀ c, Reachable c → ∀ (env : DecodeEnv) (pDecIn : JpegDecInput) (w : Nat)
    (d : Decoding), jpegDecDecode env pDecIn { cont := c } ≠ .fault (.table w) d := by
  intro hall
  exact hall plainDecoded (.step plainDecode .init trivial plainDecode_ends)
    (envOf (progressivePicture 48 48) readyRegs) (inputOf (progressivePicture 48 48) 0) 143 _
    (Outcome.IsFault.eq (by decide +kernel))

end Jpeg

end Rk3399
