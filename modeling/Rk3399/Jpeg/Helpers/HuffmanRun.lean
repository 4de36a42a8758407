import Mathlib.Data.Fintype.Basic
import Mathlib.Tactic.FinCases
import Rk3399.Jpeg.Helpers.StandingRun
/-!
# The Huffman tables over a call

A call changes the Huffman tables in two places: a DHT segment defines a
table, and the marker loop is followed by the default tables where it
found no DHT segment. An invariant of the tables and the events that
defined them is kept by a call where it is kept by the definition of a
table; what the default tables make of it is left to the caller.
-/

namespace Rk3399

namespace Jpeg

open Prog

theorem HuffmanTables.get_set (v : HuffmanTables) (t : VlcTable) (Tc Tc' : TableClass)
    (Th Th' : Fin 4) :
    (v.set t Tc Th).get Tc' Th' = if Tc' = Tc ∧ Th' = Th then t else v.get Tc' Th' := by
  cases Tc <;> cases Tc' <;> fin_cases Th <;> fin_cases Th' <;> rfl

theorem HuffmanTables.get_length (v : HuffmanTables) (Lh : Nat) (Tc : TableClass) (Th : Fin 4) :
    ({ v with Lh := Lh } : HuffmanTables).get Tc Th = v.get Tc Th := by
  cases Tc <;> fin_cases Th <;> rfl

/-- An invariant of the tables and the events that DHT segments keep. -/
structure KeptByDht (I : HuffmanTables → List Event → Prop) : Prop where
  length : ∀ (v : HuffmanTables) (es : List Event) (Lh : Nat), I v es → I { v with Lh := Lh } es
  define : ∀ (v : HuffmanTables) (es : List Event) (Tc : TableClass) (Th : Fin 4)
    (bits vals : List Nat), bits.length = 16 → vals.length = countSum bits → I v es →
      I (v.set ((v.get Tc Th).define bits vals) Tc Th)
        (.dht Tc Th ((v.get Tc Th).define bits vals) :: es)

/-- The Huffman part of what stands. -/
def Standing.huffman (s : Standing) : HuffmanTables × List Event := (s.vlc, s.events)

/-- The tables and the events of an instance. -/
def huffman (c : JpegDecContainer) : HuffmanTables × List Event := (standing c).huffman

/-- The event is a table from a DHT segment. -/
def Event.IsDht : Event → Prop
  | .dht _ _ _ => True
  | _ => False

instance : DecidablePred Event.IsDht
  | .dht _ _ _ => isTrue trivial
  | .dqt _ => isFalse id
  | .dri => isFalse id
  | .sof => isFalse id
  | .defaultTables => isFalse id

section call

variable {I : HuffmanTables → List Event → Prop}

/-- `I` of the tables and events of an instance. -/
def OfHuffman (I : HuffmanTables → List Event → Prop) (c : JpegDecContainer) : Prop :=
  I (huffman c).1 (huffman c).2

/-- No demand on faults. -/
abbrev anyEnd {ε σ : Type} : ε → σ → Prop := fun _ _ => True

theorem Frame.keepsHuffman {ρ α : Type} {E : Fault → Prop} {x : Decoder ρ α}
    (hx : Frame E huffman x) : Keeps anyEnd (OfHuffman I) (OfHuffman I) x :=
  (Frame.keeps hx fun p => I p.1 p.2).mono (fun _ h => h) fun _ _ _ => trivial

theorem Frame.standing_keepsHuffman {ρ α : Type} {E : Fault → Prop} {x : Decoder ρ α}
    (hx : Frame E standing x) : Keeps anyEnd (OfHuffman I) (OfHuffman I) x :=
  Frame.keepsHuffman (Frame.part hx Standing.huffman)

/-! ## DHT segments -/

theorem length_getBytes (mem : Nat → UInt8) (n : Nat) : ∀ (s s' : StreamStorage) (bs : List Nat),
    (getBytes mem n : Prog Fault JpegDecRet StreamStorage (List Nat)) s = .next bs s' →
      bs.length = n := by
  induction n with
  | zero =>
    intro s s' bs h
    cases h
    rfl
  | succ n ih =>
    intro s s' bs h
    obtain ⟨b, s1, -, h⟩ := bind_eq_next h
    obtain ⟨bs', s2, hbs, h⟩ := bind_eq_next h
    cases h
    rw [List.length_cons, ih _ _ _ hbs]

theorem length_onStream_getBytes (mem : Nat → UInt8) (n : Nat) (c : JpegDecContainer)
    (bs : List Nat) (c' : JpegDecContainer)
    (h : (onStream (getBytes mem n) : Decoder JpegDecRet (List Nat)) c = .next bs c') :
    bs.length = n := by
  unfold onStream zoom at h
  cases hx : (getBytes mem n : Prog Fault JpegDecRet StreamStorage (List Nat)) c.stream with
  | next a t =>
    rw [hx] at h
    cases h
    exact length_getBytes mem n _ _ _ hx
  | exit r t => rw [hx] at h; cases h
  | fault e t => rw [hx] at h; cases h

theorem keeps_huffmanTable (hI : KeptByDht I) (mem : Nat → UInt8) (len : Nat) :
    Keeps anyEnd (OfHuffman I) (OfHuffman I) (huffmanTable mem len) := by
  refine keeps_bind (Frame.standing_keepsHuffman (frame_getByte mem standing_stream)) fun tmp => ?_
  cases tableClass (tmp / 16) with
  | none => exact keeps_exit (fun _ h => h) _
  | some Tc =>
    refine keeps_bind (keeps_exitIf (fun _ h => h) _ _) fun _ =>
      keeps_bind (keeps_exitIf (fun _ h => h) _ _) fun _ => ?_
    cases tableId (tmp % 16) with
    | none => exact keeps_exit (fun _ h => h) _
    | some Th =>
      refine keeps_bind_next (P := fun bits => bits.length = 16)
        (Frame.standing_keepsHuffman (frame_getBytes mem 16 standing_stream))
        (length_onStream_getBytes mem 16) fun bits hbits => ?_
      refine keeps_bind (keeps_assert fun _ _ _ => trivial) fun _ => ?_
      refine keeps_bind_next (P := fun vals => vals.length = countSum bits)
        (Frame.standing_keepsHuffman (frame_getBytes mem _ standing_stream))
        (length_onStream_getBytes mem _) fun vals hvals => ?_
      -- the table and its event are put in place by two steps in a row
      exact ⟨fun c hc => hI.define _ _ Tc Th bits vals hbits hvals hc⟩

theorem keeps_huffmanTables (hI : KeptByDht I) (mem : Nat → UInt8) (Lh n : Nat) :
    ∀ len, Keeps anyEnd (OfHuffman I) (OfHuffman I) (huffmanTables mem Lh n len) := by
  induction n with
  | zero => exact fun _ => keeps_fault fun _ _ => trivial
  | succ n ih =>
    intro len
    rw [huffmanTables]
    exact keeps_ite _ (keeps_bind (keeps_huffmanTable hI mem len) ih) (keeps_pure _)

theorem keeps_jpegDecDecodeHuffmanTables (hI : KeptByDht I) (mem : Nat → UInt8) :
    Keeps anyEnd (OfHuffman I) (OfHuffman I) (jpegDecDecodeHuffmanTables mem) := by
  refine keeps_bind (Frame.standing_keepsHuffman (frame_get2Bytes mem standing_stream)) fun Lh => ?_
  refine keeps_bind (keeps_modify fun _ h => hI.length _ _ Lh h) fun _ => ?_
  exact keeps_bind (keeps_exitIf (fun _ h => h) _ _) fun _ => keeps_huffmanTables hI mem Lh _ _

/-! ## Scans -/

/-- What stands but for the table memory and the flag that a header is ready, which a
scan header changes. -/
def Standing.memoryless (s : Standing) : Standing :=
  { s with pTableBase := {}, allocated := 0, headerReady := 0 }

/-- What a scan header leaves alone. -/
def memoryless (c : JpegDecContainer) : Standing := (standing c).memoryless

theorem memoryless_layoutPlanes (chroma2 : OperationType → Nat → Nat → Nat)
    (c : JpegDecContainer) :
    ((layoutPlanes chroma2 c).stream, memoryless (layoutPlanes chroma2 c)) =
      (c.stream, memoryless c) := by
  unfold layoutPlanes
  dsimp only
  split <;> rfl

theorem parses_jpegDecDecodeScan (mem : Nat → UInt8) (reply : AllocReply) :
    Parses mem memoryless (jpegDecDecodeScan mem reply) := by
  refine parses_bind ((parses_jpegDecDecodeScanHeader mem).part Standing.memoryless) fun _ => ?_
  refine parses_bind (parses_gets _) fun fresh => parses_ite _ ?_ ?_
  · refine parses_bind ?_ (fun _ => parses_modify fun _ => rfl)
    refine parses_bind (parses_gets _) fun size => ?_
    refine parses_bind (parses_whenever _ ?_) fun _ => parses_whenever _ (parses_modify fun c => ?_)
    · exact parses_bind (parses_modify fun _ => rfl) fun _ => parses_exitIf _ _
    · split
      · exact memoryless_layoutPlanes _ c
      · rfl
  · exact parses_modify (memoryless_layoutPlanes _)

theorem frame_orReturn {σ φ : Type} {E : Fault → Prop} {f : σ → φ} (retCode : Option JpegDecRet) :
    Frame E f (orReturn retCode) := by
  cases retCode with
  | none => exact frame_pure _
  | some r => exact frame_exit _

theorem frame_scanSegment (env : Env) : Frame NoTable memoryless (scanSegment env) := by
  refine frame_bind (frame_modify fun _ => rfl) fun _ => ?_
  refine frame_bind (frame_call (parses_jpegDecDecodeScan env.mem env.alloc).frame) fun r => ?_
  refine frame_bind (frame_modify fun _ => rfl) fun _ => ?_
  exact frame_bind (frame_orReturn r) fun _ => (frame_deleteStuffing env).part Standing.memoryless

theorem frame_huffman_scanSegment (env : Env) : Frame NoTable huffman (scanSegment env) :=
  (frame_scanSegment env).part Standing.huffman

/-! ## The marker loops -/

theorem keeps_nextScanSegment (hI : KeptByDht I) (env : Env) (marker : Nat) :
    Keeps anyEnd (OfHuffman I) (OfHuffman I) (nextScanSegment env marker) := by
  refine keeps_ite _ (Frame.keepsHuffman (frame_huffman_scanSegment env)) ?_
  refine keeps_ite _ (keeps_jpegDecDecodeHuffmanTables hI env.mem) ?_
  refine keeps_ite _ (Frame.standing_keepsHuffman (parses_jpegDecDecodeQuantTables env.mem).frame)
    ?_
  refine keeps_ite _ (Frame.standing_keepsHuffman frame_endSegment) ?_
  refine keeps_ite _ (Frame.standing_keepsHuffman (parses_restartSegment env).frame) ?_
  refine keeps_ite _ (Frame.standing_keepsHuffman frame_clearPredictors) ?_
  refine keeps_ite _ (keeps_exit (fun _ h => h) _) ?_
  exact keeps_ite _ (Frame.standing_keepsHuffman (frame_jumpSegment env)) (keeps_pure _)

namespace Scanning

variable {F : Fault → JpegDecContainer → Prop} {J X : JpegDecContainer → Prop}

/-- A demand on the instance of a marker loop. -/
abbrev KeepsCont (F : Fault → JpegDecContainer → Prop) (X J : JpegDecContainer → Prop) {α : Type}
    (x : Prog Fault JpegDecRet Scanning α) : Prop :=
  Keeps (fun e s => F e s.cont) (fun s => X s.cont) (fun s => J s.cont) x

/-- A step on the instance keeps what it keeps there. -/
theorem keeps_onCont {α : Type} {x : Decoder JpegDecRet α} (hx : Keeps F X J x) :
    KeepsCont F X J (onCont x) :=
  keeps_zoom (fun _ _ => hx) (fun _ h => h) (fun _ _ _ h => h) (fun _ _ _ h => h)
    (fun _ _ _ _ h => h)

theorem keeps_marker (env : Env) {segment : Nat → Prog Fault JpegDecRet Scanning Unit}
    (hbyte : Keeps F X J (getByte env.mem : Decoder JpegDecRet Nat))
    (hsegment : ∀ m, KeepsCont F X J (segment m)) : KeepsCont F X J (marker env segment) := by
  refine keeps_bind (keeps_onCont hbyte) fun currentByte => ?_
  refine keeps_bind (keeps_modify fun _ h => h) fun _ => ?_
  exact keeps_bind (hsegment currentByte) fun _ => keeps_gets _

theorem keeps_noMarker : KeepsCont F X J noMarker :=
  keeps_bind (keeps_gets _) fun _ => keeps_ite _ (keeps_pure _) (keeps_gets _)

/-- A round of the loop over the headers of the next scan. -/
theorem keeps_nextScanRound (env : Env)
    (hbyte : Keeps F X J (getByte env.mem : Decoder JpegDecRet Nat))
    (hsegment : ∀ m, Keeps F X J (nextScanSegment env m)) :
    KeepsCont F X J (nextScanRound env) := by
  refine keeps_bind (keeps_onCont hbyte) fun b => keeps_ite _ ?_ keeps_noMarker
  exact keeps_marker env hbyte fun m => keeps_onCont (hsegment m)

end Scanning

open Scanning

theorem keeps_jpegDecNextScanHdrs (hI : KeptByDht I) (env : Env) :
    Keeps anyEnd (OfHuffman I) (OfHuffman I) (jpegDecNextScanHdrs env) := by
  have hbyte : Keeps anyEnd (OfHuffman I) (OfHuffman I)
    (getByte env.mem : Decoder JpegDecRet Nat) :=
    Frame.standing_keepsHuffman (frame_getByte env.mem standing_stream)
  have hround := keeps_nextScanRound env hbyte fun m => keeps_nextScanSegment hI env m
  refine keeps_bind (keeps_modify fun _ h => h) fun _ => ?_
  exact keeps_zoom (fun _ _ => keeps_loop hround (fun _ _ => trivial) env.rounds) (fun _ h => h)
    (fun _ _ _ h => h) (fun _ _ _ h => h) (fun _ _ _ _ _ => trivial)

/-! ## The marker loop of a call -/

/-- No table was defined by a DHT segment. -/
def NoDht (es : List Event) : Prop := ∀ e ∈ es, ¬ e.IsDht

theorem noDht_nil : NoDht [] := fun _ h => nomatch h

/-- The state of the marker loop of a call: `I` holds, and the local flag is set
where a DHT segment was read. -/
def MarkerState (I : HuffmanTables → List Event → Prop) (s : Scanning) : Prop :=
  OfHuffman I s.cont ∧ (s.findhufftable = 0 → NoDht (huffman s.cont).2)

/-- What the marker loop looks at in its state. -/
def Scanning.part (s : Scanning) : (HuffmanTables × List Event) × Nat :=
  (huffman s.cont, s.findhufftable)

theorem Scanning.frame_onCont {α : Type} {x : Decoder JpegDecRet α} (hx : Frame NoTable huffman x) :
    Frame NoTable Scanning.part (onCont x) :=
  frame_zoom_part hx fun s c h => by rw [Scanning.part, h]; rfl

theorem frame_huffman {α : Type} {x : Decoder JpegDecRet α} (hx : Frame NoTable standing x) :
    Frame NoTable huffman x := Frame.part hx Standing.huffman

theorem frame_app0Thumbnail (env : Env) : Frame NoTable Scanning.part (app0Thumbnail env) := by
  have h2 : Frame NoTable Scanning.part (onCont (get2Bytes env.mem)) :=
    Scanning.frame_onCont (frame_huffman (frame_get2Bytes env.mem standing_stream))
  have h1 : Frame NoTable Scanning.part (onCont (getByte env.mem)) :=
    Scanning.frame_onCont (frame_huffman (frame_getByte env.mem standing_stream))
  have hflush : ∀ L n, Frame NoTable Scanning.part (onCont (flushApp0 env L n)) :=
    fun L n => Scanning.frame_onCont (frame_huffman (frame_flushApp0 env L n))
  refine frame_bind h2 fun appLength => frame_bind h2 fun jf => frame_ite _ (hflush _ _) ?_
  refine frame_bind h2 (fun xx => frame_ite _ (hflush _ _) ?_)
  refine frame_bind h1 (fun ending => frame_bind (frame_modify fun _ => rfl) fun _ => ?_)
  refine frame_ite _ (hflush _ _) (frame_bind h1 fun code => ?_)
  refine frame_bind (frame_modify fun _ => rfl) fun _ => ?_
  exact frame_bind (frame_exitIf _ _) fun _ => frame_modify fun _ => rfl

/-- `x` keeps `MarkerState I`; it may leave with the flag behind the tables. -/
abbrev KeepsMarker (I : HuffmanTables → List Event → Prop) {α : Type}
    (x : Prog Fault JpegDecRet Scanning α) : Prop :=
  Keeps anyEnd (fun s => OfHuffman I s.cont) (MarkerState I) x

/-- A step that changes neither the tables nor the flag. -/
theorem keepsMarker_of_frame {α : Type} {x : Prog Fault JpegDecRet Scanning α}
    (hx : Frame NoTable Scanning.part x) : KeepsMarker I x :=
  (Frame.keeps hx fun p => I p.1.1 p.1.2 ∧ (p.2 = 0 → NoDht p.1.2)).mono (fun _ h => h.1)
    fun _ _ _ => trivial

theorem keepsMarker_onCont {α : Type} {x : Decoder JpegDecRet α} (hx : Frame NoTable huffman x) :
    KeepsMarker I (onCont x) :=
  keepsMarker_of_frame (Scanning.frame_onCont hx)

theorem keepsMarker_decodeSegment (hI : KeptByDht I) (env : Env) (decImageType marker : Nat) :
    KeepsMarker I (decodeSegment env decImageType marker) := by
  have hexit : ∀ s, MarkerState I s → OfHuffman I s.cont := fun _ h => h.1
  refine keeps_ite _ (keepsMarker_onCont ?_) (keeps_ite _ (keepsMarker_onCont ?_) ?_)
  · refine frame_bind (frame_modify fun _ => rfl) fun _ => ?_
    exact frame_huffman (parses_jpegDecDecodeFrameHdr env.mem).frame
  · exact frame_huffman_scanSegment env
  refine keeps_ite _ ?_ (keeps_ite _ (keepsMarker_onCont ?_) ?_)
  · refine ⟨fun s hs => ?_⟩
    rw [wp_bind]
    refine wp_mono ((keeps_onCont (keeps_jpegDecDecodeHuffmanTables hI env.mem)).run s hs.1) ?_
      (fun _ _ h => h) (fun _ _ h => h)
    exact fun _ s' h => ⟨h, fun h0 => absurd h0 Nat.one_ne_zero⟩
  · exact frame_huffman (parses_jpegDecDecodeQuantTables env.mem).frame
  refine keeps_ite _ (keepsMarker_onCont (frame_huffman frame_endSegment)) ?_
  refine keeps_ite _ (keeps_bind (keepsMarker_onCont ?_) fun _ => keeps_modify fun _ h => h) ?_
  · exact frame_huffman (parses_restartSegment env).frame
  refine keeps_ite _ (keepsMarker_onCont (frame_huffman frame_clearPredictors)) ?_
  refine keeps_ite _ (keeps_exit hexit _) (keeps_ite _ (keeps_ite _ ?_ (keepsMarker_onCont ?_)) ?_)
  · exact keepsMarker_of_frame (frame_app0Thumbnail env)
  · exact frame_huffman (frame_app0Image env)
  exact keeps_ite _ (keepsMarker_onCont (frame_huffman (frame_jumpSegment env))) (keeps_pure _)

theorem keepsMarker_decodeRound (hI : KeptByDht I) (env : Env) (decImageType : Nat) :
    KeepsMarker I (decodeRound env decImageType) := by
  have hbyte : KeepsMarker I (onCont (getByte env.mem)) :=
    keepsMarker_onCont (frame_huffman (frame_getByte env.mem standing_stream))
  refine keeps_bind (keeps_gets _) fun paused => keeps_ite _ (keeps_pure _) ?_
  refine keeps_bind ?_ (fun found => keeps_ite _ ?_ ?_)
  · refine keeps_bind (keeps_gets _) fun again => keeps_ite _ (keeps_pure _) ?_
    exact keeps_bind hbyte (fun _ => keeps_pure _)
  · refine keeps_bind hbyte (fun currentByte => ?_)
    refine keeps_bind (keeps_modify fun _ h => h) fun _ => ?_
    exact keeps_bind (keepsMarker_decodeSegment hI env decImageType currentByte)
      fun _ => keeps_gets _
  · exact keeps_bind (keeps_gets _) (fun _ => keeps_ite _ (keeps_pure _) (keeps_gets _))

/-! ## The call -/

/-- What the headers of a call leave: `I`, or the default tables over tables no
DHT segment of the call defined. -/
def AfterHeaders (I : HuffmanTables → List Event → Prop) (c : JpegDecContainer) : Prop :=
  OfHuffman I c ∨ ∃ v es, I v es ∧ NoDht es ∧ huffman c = (defaultTables v, .defaultTables :: es)

theorem huffman_defaultTables (c : JpegDecContainer) :
    huffman { c with vlc := defaultTables c.vlc, log := .defaultTables :: c.log } =
      (defaultTables (huffman c).1, .defaultTables :: (huffman c).2) := rfl

theorem wp_findMarkers (hI : KeptByDht I) (env : Env) (decImageType : Nat) {c : JpegDecContainer}
    (hc : OfHuffman I c) (hno : NoDht (huffman c).2) :
    wp (findMarkers env decImageType) (fun _ => AfterHeaders I)
      (fun _ => OfHuffman I) anyEnd c := by
  unfold findMarkers
  rw [wp_zoom, wp_bind]
  have hloop := keeps_loop (keepsMarker_decodeRound hI env decImageType)
    (fun _ _ => trivial) (e := .rounds) env.rounds
  refine wp_mono (hloop.run { cont := c } ⟨hc, fun _ => hno⟩) (fun _ s hs => ?_) (fun _ _ h => h)
    (fun _ _ _ => trivial)
  rw [wp_bind, wp_gets, wp_ite]
  by_cases hflag : s.findhufftable = 0
  · rw [if_pos (decide_eq_true hflag)]
    exact Or.inr ⟨_, _, hs.1, hs.2 hflag, huffman_defaultTables s.cont⟩
  · rw [if_neg (by simpa using hflag)]
    exact Or.inl hs.1

theorem huffman_storeStream (pDecIn : JpegDecInput) (c : JpegDecContainer) :
    huffman (storeStream pDecIn c) = huffman c := by
  unfold storeStream
  split <;> rfl

/-- The call up to the headers leaves the tables alone, and its trace is
empty. -/
theorem wp_openStream (env : Env) (junk : JpegDecImageInfo) (pDecIn : JpegDecInput)
    (c : JpegDecContainer) :
    wp (openStream env junk pDecIn) (fun _ c' => huffman c' = (c.vlc, []))
      (fun _ c' => huffman c' = (c.vlc, [])) anyEnd c := by
  have hinput : Frame NoTable huffman (checkInput pDecIn) := frame_huffman (frame_checkInput pDecIn)
  have hprobe : Frame NoTable huffman (probeImage env junk pDecIn) :=
    Frame.part (frame_probeImage env junk pDecIn) Standing.huffman
  have hrest : Frame NoTable huffman (do
      checkInput pDecIn
      probeImage env junk pDecIn
      modify (storeStream pDecIn)) :=
    frame_bind hinput fun _ => frame_bind hprobe fun _ => frame_modify (huffman_storeStream pDecIn)
  unfold openStream
  rw [wp_bind, wp_modify]
  exact wp_mono ((hrest (c.vlc, [])).run { c with log := [] } rfl) (fun _ _ h => h) (fun _ _ h => h)
    (fun _ _ _ => trivial)

namespace Decoding

theorem keeps_onCont {α : Type} {F : Fault → Prop} {J X : JpegDecContainer → Prop}
    {x : Decoder JpegDecRet α} (hx : Keeps (fun e _ => F e) X J x) :
    Keeps (fun e _ => F e) (fun d : Decoding => X d.cont) (fun d => J d.cont) (onCont x) :=
  keeps_zoom (fun _ _ => hx) (fun _ h => h) (fun _ _ _ h => h) (fun _ _ _ h => h)
    (fun _ _ _ _ h => h)

end Decoding

open Decoding

/-- `I` of the instance of a call. -/
def InCall (I : HuffmanTables → List Event → Prop) (d : Decoding) : Prop := OfHuffman I d.cont

theorem keeps_of_part {α : Type} {x : DecodeStep α} (hx : Frame NoTable Decoding.part x) :
    Keeps anyEnd (InCall I) (InCall I) x :=
  (Frame.keeps hx fun s => I s.vlc s.events).mono (fun _ h => h) fun _ _ _ => trivial

theorem keeps_startHw : Keeps anyEnd (OfHuffman I) (OfHuffman I) startHw :=
  Frame.keepsHuffman (frame_startHw.part Standing.huffman)

theorem keeps_hwRound (hI : KeptByDht I) (env : DecodeEnv) :
    Keeps anyEnd (InCall I) (InCall I) (hwRound env) := by
  refine keeps_bind (Decoding.keeps_onCont keeps_startHw) fun _ => ?_
  have hscan : KeptByScan fun s => I s.vlc s.events := fun _ h _ => h
  refine keeps_bind ((keepsPart_hwAnswer hscan env).mono (fun _ h => h) fun _ _ _ => trivial)
    fun _ => ?_
  refine keeps_bind (keeps_whenever _ ?_) fun _ => keeps_gets _
  refine keeps_bind (Decoding.keeps_onCont (keeps_call (keeps_jpegDecNextScanHdrs hI env.toEnv)))
    fun retCode => keeps_ite _ ?_ (keeps_pure _)
  cases retCode with
  | none => exact keeps_pure _
  | some r => exact keeps_exit (fun _ h => h) _

theorem wp_beforeStart (hI : KeptByDht I) (env : DecodeEnv) (pDecIn : JpegDecInput)
    {d : Decoding} (hd : I d.cont.vlc []) :
    wp (beforeStart env pDecIn) (fun _ d' => AfterHeaders I d'.cont) (fun _ => InCall I) anyEnd
      d := by
  have hkept : ∀ {c : JpegDecContainer}, huffman c = (d.cont.vlc, []) → OfHuffman I c := by
    intro c hc
    rw [OfHuffman, hc]
    exact hd
  refine wp_seq (M := fun _ d' => huffman d'.cont = (d.cont.vlc, [])) ?_ fun _ d1 h1 => ?_
  · rw [Decoding.onCont, wp_zoom]
    exact wp_mono (wp_openStream env.toEnv env.junk pDecIn d.cont) (fun _ _ h => h)
      (fun _ _ h => hkept h) (fun _ _ _ => trivial)
  refine wp_seq (M := fun _ d' => huffman d'.cont = (d.cont.vlc, [])) ?_ fun _ d2 h2 => ?_
  · rw [wp_modify]
    split <;> exact h1
  refine wp_seq (M := fun _ d' => huffman d'.cont = (d.cont.vlc, [])) ?_ fun _ d3 h3 => ?_
  · rw [Decoding.onCont, wp_zoom]
    have hcheck := (frame_huffman (frame_checkPicture pDecIn) (d.cont.vlc, [])).run d2.cont h2
    exact wp_mono hcheck (fun _ _ h => h) (fun _ _ h => hkept h) (fun _ _ _ => trivial)
  refine wp_seq (M := fun _ d' => d' = d3) rfl fun finish d4 h4 => ?_
  subst h4
  rw [wp_ite]
  split
  · exact Or.inl (hkept h3)
  refine wp_seq (M := fun _ d' => AfterHeaders I d'.cont) ?_ fun _ _ h => h
  have hstart : huffman (startStreaming pDecIn d4.cont) = (d.cont.vlc, []) :=
    (congrArg Standing.huffman (standing_startStreaming pDecIn d4.cont)).trans h3
  rw [Decoding.onCont, wp_zoom, readHeaders, wp_bind, wp_modify]
  refine wp_findMarkers hI env.toEnv pDecIn.decImageType (hkept hstart) ?_
  rw [hstart]
  exact noDht_nil

/-- **The tables over a call.** Where the default tables over tables no DHT
segment of the call defined keep `I` too, so does the call. -/
theorem wp_jpegDecDecode_huffman (hI : KeptByDht I) (env : DecodeEnv) (pDecIn : JpegDecInput)
    {d : Decoding} (hd : I d.cont.vlc [])
    (hdefault : ∀ go d', beforeStart env pDecIn d = .next go d' → AfterHeaders I d'.cont →
      InCall I d') :
    wp (jpegDecDecode env pDecIn) (fun _ => InCall I) (fun _ => InCall I) anyEnd d := by
  have hrest : ∀ go : Bool, Keeps anyEnd (InCall I) (InCall I) (if go then do
      whenever (fun d => d.cont.image.headerReady ≠ 0) (loop .rounds (hwRound env) env.rounds)
      imageReady env
    else do
      modify imageOutputNoPp
      finishComponent env (← gets (·.cont.info.pfCompId))) := by
    intro go
    refine keeps_ite _ ?_ ?_
    · refine keeps_bind (keeps_whenever _ ?_) (fun _ => keeps_of_part (frame_imageReady env))
      exact keeps_loop (keeps_hwRound hI env) (fun _ _ => trivial) env.rounds
    · refine keeps_bind (keeps_of_part (frame_modify part_imageOutputNoPp)) (fun _ => ?_)
      exact keeps_bind (keeps_gets _) fun i => keeps_of_part (frame_finishComponent env i)
  have hbefore := wp_beforeStart hI env pDecIn hd
  unfold jpegDecDecode
  rw [wp_bind]
  rw [wp_def] at hbefore ⊢
  refine ⟨fun go d' h => ?_, hbefore.2.1, hbefore.2.2⟩
  exact (hrest go).run d' (hdefault go d' h (hbefore.1 go d' h))

end call

end Jpeg

end Rk3399
