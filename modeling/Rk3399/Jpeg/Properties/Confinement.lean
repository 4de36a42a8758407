import Rk3399.Jpeg.Helpers.Inside
import Rk3399.Jpeg.Properties.HeaderScanning
/-!
# Reading headers inside the stream

The marker loops of the decoder read no byte outside the stream and its
look-ahead byte, whatever the stream holds, unless a segment gave a wrong
length: one that is less than what was read of the segment, or one that could
not be read.
-/

namespace Rk3399

namespace Jpeg

open Prog StreamStorage

/-! ## The decoder -/

section decoder

variable (env : Env)

theorem reads_confined : Reads env.mem Outside (Confined jumpSlack) where
  byte := keepsConfined_getByte env.mem (by decide)
  bytes := keepsConfined_get2Bytes env.mem (by decide)
  index _ _ _ := nofun
  heap _ _ _ := nofun
  rounds _ _ := nofun

/-- **Every segment stays inside the stream.** -/
theorem moves_confined : Moves env Outside (Confined jumpSlack) (Confined jumpSlack) where
  toReads := reads_confined env
  exit _ h := h
  jump := by
    refine ⟨fun c hc => ?_⟩
    unfold jumpSegment get2Bytes onStream
    rw [wp_bind, wp_zoom]
    refine wp_mono (wp_get2Bytes_confined env.mem hc (by decide)) ?_ (fun _ _ h => h) fun _ _ h => h
    rintro L t ⟨hconfined, hread⟩
    rw [wp_bind, wp_exitIf]
    split
    · exact hconfined
    · rename_i hne
      exact confined_skipSegment (hread hne)
  flush := by
    intro L n hn
    refine ⟨fun c hc => ?_⟩
    unfold flushApp0 flushSegmentBits onStream
    rw [wp_bind, wp_modify, wp_bind, wp_zoom]
    have hflag : ({ c.stream with appnFlag := 1 } : StreamStorage).Confined jumpSlack :=
      hc.flags 1 c.stream.thumbnail
    refine wp_mono (wp_flushSegment_confined env.mem hflag (by decide) Nat.one_ne_zero L hn) ?_
      (fun _ _ h => h.mono (Nat.zero_le _)) fun _ _ h => h
    intro flushed t ht
    have hnext : t.Confined jumpSlack := ht.mono (Nat.zero_le _)
    rw [wp_bind, wp_exitIf]
    split
    · exact hnext
    · exact hnext.flags 0 t.thumbnail
  stuffing := by
    refine ⟨fun c hc => ?_⟩
    unfold deleteStuffing flushBits onStream
    rw [wp_whenever]
    split
    · rename_i hbits
      obtain hmisled | hin := hc
      · -- only a reader that was misled stands inside a byte
        rw [wp_bind, wp_gets, wp_bind, wp_zoom]
        refine wp_mono (wp_of_misled (unmoved_passed.flushBits env.mem _) hmisled) ?_
          (fun _ _ h => Or.inl h) fun _ _ h _ => h
        intro flushed t ht
        rw [wp_exitIf]
        split
        · exact Or.inl ht
        · exact Or.inl ht
      · exact absurd hin.aligned hbits
    · exact hc
  thumbnail s h := ⟨h.flags 0 s.thumbnail, h.flags s.appnFlag 1⟩

/-- A byte outside the stream is read only after a wrong length. -/
def ReadsInside (x : Decoder JpegDecRet Unit) (c : JpegDecContainer) : Prop :=
  ∀ a c', x c = .fault (.stream a) c' → c'.stream.Misled

theorem readsInside_of_keeps {x : Decoder JpegDecRet Unit}
    (hx : KeepsStream Outside (Confined jumpSlack) (Confined jumpSlack) x) {c : JpegDecContainer}
    (h : c.stream.Inside jumpSlack) : ReadsInside x c :=
  fun _ _ hfault => hx.fault (Or.inr h) hfault ⟨_, rfl⟩

/-- **The headers of a further scan** are read inside the stream, wherever the reader is
inside it. -/
theorem nextScanHdrs_readInside {c : JpegDecContainer} (h : c.stream.Inside jumpSlack) :
    ReadsInside (jpegDecNextScanHdrs env) c :=
  readsInside_of_keeps (keepsStream_nextScanHdrs (moves_confined env)) h

end decoder

/-! ## The first headers of a call -/

section call

variable {env : Env} {junk : JpegDecImageInfo} {pDecIn : JpegDecInput} {c c' : JpegDecContainer}

/-- The reader, and whether the call takes over the stream. -/
def opened (c : JpegDecContainer) : StreamStorage × Nat × Nat :=
  (c.stream, c.info.progressiveScanReady, c.info.nonInterleavedScanReady)

/-- The reader is at the start of the stream, where the call takes one over. -/
def AtStart (c : JpegDecContainer) : Prop :=
  TakesStream c → c.stream.bitPosInByte = 0 ∧ c.stream.pCurrPos = c.stream.pStartOfStream ∧
    c.stream.readBits = 0 ∧ c.stream.streamLength < 2 ^ 28

theorem atStart_storeStream (hlength : pDecIn.streamLength < 2 ^ 28) (c : JpegDecContainer) :
    AtStart (storeStream pDecIn c) := by
  unfold storeStream
  split
  · exact fun _ => ⟨rfl, rfl, rfl, hlength⟩
  · rename_i hkept
    exact fun htakes => absurd htakes hkept

theorem atStart_nextBuffer (h : AtStart c) : AtStart (nextBuffer pDecIn c) := by
  unfold nextBuffer
  split
  · intro htakes
    obtain ⟨-, -, hread, hsmall⟩ := h htakes
    exact ⟨rfl, rfl, hread, hsmall⟩
  · exact h

theorem atStart_startStreaming (h : AtStart c) : AtStart (startStreaming pDecIn c) := by
  unfold startStreaming
  split
  · exact h
  · exact h

/-- **The marker loop starts inside the stream.** -/
theorem inside_of_scans (hlength : pDecIn.streamLength < 2 ^ 28)
    (hscans : Scans env junk pDecIn c c') (htakes : TakesStream c') : c'.stream.Inside 0 := by
  have hrun : wp (do openStream env junk pDecIn
                     checkPicture pDecIn
                     modify (startStreaming pDecIn) : Decoder JpegDecRet Unit)
      (fun _ => AtStart) (fun _ _ => True) (fun _ _ => True) c := by
    have hfeatures : Keeps anyEnd (fun _ => True) AtStart (checkFeatures pDecIn) :=
      (Frame.keeps (frame_checkFeatures (f := opened) pDecIn) fun v => v.2.1 = 0 ∧ v.2.2 = 0 →
        v.1.bitPosInByte = 0 ∧ v.1.pCurrPos = v.1.pStartOfStream ∧ v.1.readBits = 0 ∧
          v.1.streamLength < 2 ^ 28).mono (fun _ _ => trivial) fun _ _ _ => trivial
    have hpicture : Keeps anyEnd (fun _ => True) AtStart (checkPicture pDecIn) := by
      refine keeps_bind (keeps_modify fun _ h => h) fun _ => keeps_bind hfeatures fun _ => ?_
      exact keeps_bind (keeps_modify fun _ => atStart_nextBuffer) fun _ => keeps_modify fun _ h => h
    refine wp_seq (M := fun _ => AtStart) ?_ fun _ d hd => ?_
    · refine wp_seq (wp_any _ _) fun _ d _ => wp_seq (wp_any _ _) fun _ d _ => ?_
      exact wp_seq (wp_any _ _) fun _ d _ => atStart_storeStream hlength d
    · exact wp_seq (hpicture.run d hd) fun _ d hd => atStart_startStreaming hd
  obtain ⟨haligned, hstart, hread, hsmall⟩ := wp_next hrun hscans htakes
  refine ⟨haligned, Nat.le_of_eq hstart.symm, ?_, ?_, hsmall⟩
  · rw [hstart, hread]
    omega
  · rw [hread]
    exact Nat.zero_le _

/-- **The first headers of a call are read inside the stream**: in a call that takes over a stream,
the marker loop reads a byte outside of it only after a segment gave a wrong length. -/
theorem findMarkers_readInside (hlength : pDecIn.streamLength < 2 ^ 28)
    (hscans : Scans env junk pDecIn c c') (htakes : TakesStream c') :
    ReadsInside (findMarkers env pDecIn.decImageType) c' :=
  readsInside_of_keeps (keepsStream_findMarkers (moves_confined env) _)
    ((inside_of_scans hlength hscans htakes).mono (Nat.zero_le _))

/-- The call up to the marker loop, for a plain picture. -/
def scanPlain : Outcome Fault JpegDecRet JpegDecContainer Unit :=
  (do openStream (envOf (plainPicture 48 48 0) readyRegs).toEnv {}
        (inputOf (plainPicture 48 48 0) 0)
      checkPicture (inputOf (plainPicture 48 48 0) 0)
      modify (startStreaming (inputOf (plainPicture 48 48 0) 0)) : Decoder JpegDecRet Unit)
    jpegDecInit

theorem scans_plain : Scans (envOf (plainPicture 48 48 0) readyRegs).toEnv {}
    (inputOf (plainPicture 48 48 0) 0) jpegDecInit scanPlain.state :=
  Outcome.IsNext.eq (by decide +kernel)

theorem takesStream_plain : TakesStream scanPlain.state := by decide +kernel

/-- The headers of a plain picture. -/
theorem findMarkers_readInside_plain :
    ReadsInside (findMarkers (envOf (plainPicture 48 48 0) readyRegs).toEnv
      (inputOf (plainPicture 48 48 0) 0).decImageType) scanPlain.state := by
  have hlength : (inputOf (plainPicture 48 48 0) 0).streamLength < 2 ^ 28 := by decide
  exact findMarkers_readInside hlength scans_plain takesStream_plain

end call

end Jpeg

end Rk3399
