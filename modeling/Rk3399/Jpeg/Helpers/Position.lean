import Rk3399.Jpeg.Helpers.HuffmanRun
/-!
# The position in the stream over a marker loop

The segments of both marker loops move in the stream in four ways: by the
two readers, by a jump over a segment, by a flush of an APP0 segment and
by the deletion of stuffing bits. An invariant of the stream that the four
keep is kept by every segment, and by every round.
-/

namespace Rk3399

namespace Jpeg

open Prog Scanning

/-- `x` keeps an invariant of the stream of the instance. -/
abbrev KeepsStream (F : Fault → StreamStorage → Prop) (X I : StreamStorage → Prop) {α : Type}
    (x : Decoder JpegDecRet α) : Prop :=
  Keeps (fun e c => F e c.stream) (fun c => X c.stream) (fun c => I c.stream) x

/-- The four ways to move keep `I`, and leave with `X`. -/
structure Moves (env : Env) (F : Fault → StreamStorage → Prop) (X I : StreamStorage → Prop) :
    Prop extends Reads env.mem F I where
  exit : ∀ s, I s → X s
  jump : KeepsStream F X I (jumpSegment env)
  flush : ∀ L n, 8 ∣ n → KeepsStream F X I (flushApp0 env L n)
  stuffing : KeepsStream F X I (deleteStuffing env)
  thumbnail : ∀ s, I s → I { s with appnFlag := 0 } ∧ I { s with thumbnail := 1 }

section moves

variable {env : Env} {F : Fault → StreamStorage → Prop} {X I : StreamStorage → Prop} {φ α : Type}

/-- A parser moves by the readers. -/
theorem Parses.keepsStream {f : JpegDecContainer → φ} {x : Decoder JpegDecRet α}
    (hx : Parses env.mem f x) (h : Moves env F X I) : KeepsStream F X I x :=
  (hx.stream h.toReads).mono (fun _ hc => h.exit _ hc) fun _ _ hc => hc

theorem Moves.getByte (h : Moves env F X I) : KeepsStream F X I (getByte env.mem) :=
  (parses_getByte standing_stream).keepsStream h

theorem Moves.get2Bytes (h : Moves env F X I) : KeepsStream F X I (get2Bytes env.mem) :=
  (parses_get2Bytes standing_stream).keepsStream h

theorem keepsStream_scanSegment (h : Moves env F X I) : KeepsStream F X I (scanSegment env) := by
  refine keeps_bind (keeps_modify fun _ hc => hc) fun _ => ?_
  refine keeps_bind (keeps_call ((parses_jpegDecDecodeScan _ _).stream h.toReads)) fun r => ?_
  refine keeps_bind (keeps_modify fun _ hc => hc) fun _ => keeps_bind ?_ fun _ => h.stuffing
  cases r with
  | none => exact keeps_pure _
  | some retCode => exact keeps_exit (fun _ hc => h.exit _ hc) _

theorem keepsStream_endSegment (h : Moves env F X I) : KeepsStream F X I endSegment :=
  keeps_bind (keeps_exitIf (fun _ hc => h.exit _ hc) _ _) fun _ =>
    keeps_exit (fun _ hc => h.exit _ hc) _

theorem keepsStream_nextScanSegment (h : Moves env F X I) (marker : Nat) :
    KeepsStream F X I (nextScanSegment env marker) := by
  refine keeps_ite _ (keepsStream_scanSegment h) ?_
  refine keeps_ite _ ((parses_jpegDecDecodeHuffmanTables env.mem).keepsStream h) ?_
  refine keeps_ite _ ((parses_jpegDecDecodeQuantTables env.mem).keepsStream h) ?_
  refine keeps_ite _ (keepsStream_endSegment h) ?_
  refine keeps_ite _ ((parses_restartSegment env).keepsStream h) ?_
  refine keeps_ite _ (keeps_modify fun _ hc => hc) ?_
  exact keeps_ite _ (keeps_exit (fun _ hc => h.exit _ hc) _) (keeps_ite _ h.jump (keeps_pure _))

theorem keepsStream_app0Image (h : Moves env F X I) : KeepsStream F X I (app0Image env) :=
  keeps_bind h.get2Bytes fun L => h.flush L 16 (by decide)

/-- `x` keeps an invariant of the stream of a marker loop. -/
abbrev KeepsScan (F : Fault → StreamStorage → Prop) (X I : StreamStorage → Prop) {α : Type}
    (x : Prog Fault JpegDecRet Scanning α) : Prop :=
  KeepsCont (fun e c => F e c.stream) (fun c => X c.stream) (fun c => I c.stream) x

theorem keepsScan_onCont {x : Decoder JpegDecRet α} (hx : KeepsStream F X I x) :
    KeepsScan F X I (onCont x) := keeps_onCont hx

theorem keepsScan_app0Thumbnail (h : Moves env F X I) :
    KeepsScan F X I (app0Thumbnail env) := by
  have h2 : KeepsScan F X I (onCont (get2Bytes env.mem)) := keepsScan_onCont h.get2Bytes
  have h1 : KeepsScan F X I (onCont (getByte env.mem)) := keepsScan_onCont h.getByte
  have hflush : ∀ L n, 8 ∣ n → KeepsScan F X I (onCont (flushApp0 env L n)) :=
    fun L n hn => keepsScan_onCont (h.flush L n hn)
  refine keeps_bind h2 fun appLength => keeps_bind h2 fun jf => ?_
  refine keeps_ite _ (hflush _ _ (by decide)) (keeps_bind h2 fun xx => ?_)
  refine keeps_ite _ (hflush _ _ (by decide)) (keeps_bind h1 fun ending => ?_)
  refine keeps_bind (keeps_modify fun _ hs => hs) fun _ => ?_
  refine keeps_ite _ (hflush _ _ (by decide)) (keeps_bind h1 fun code => ?_)
  refine keeps_bind (keeps_modify fun s hs => (h.thumbnail s.cont.stream hs).1) fun _ => ?_
  refine keeps_bind (keeps_exitIf (fun _ hs => h.exit _ hs) _ _) fun _ => ?_
  exact keeps_modify fun s hs => (h.thumbnail s.cont.stream hs).2

theorem keepsScan_decodeSegment (h : Moves env F X I) (decImageType marker : Nat) :
    KeepsScan F X I (decodeSegment env decImageType marker) := by
  refine keeps_ite _ (keepsScan_onCont ?_)
    (keeps_ite _ (keepsScan_onCont (keepsStream_scanSegment h)) ?_)
  · refine keeps_bind (keeps_modify fun _ hc => hc) (fun _ => ?_)
    exact (parses_jpegDecDecodeFrameHdr env.mem).keepsStream h
  refine keeps_ite _ (keeps_bind (keepsScan_onCont ?_) fun _ => keeps_modify fun _ hs => hs) ?_
  · exact (parses_jpegDecDecodeHuffmanTables env.mem).keepsStream h
  refine keeps_ite _ (keepsScan_onCont ((parses_jpegDecDecodeQuantTables env.mem).keepsStream h)) ?_
  refine keeps_ite _ (keepsScan_onCont (keepsStream_endSegment h)) ?_
  refine keeps_ite _ (keeps_bind (keepsScan_onCont ?_) fun _ => keeps_modify fun _ hs => hs) ?_
  · exact (parses_restartSegment env).keepsStream h
  refine keeps_ite _ (keepsScan_onCont (keeps_modify fun _ hc => hc)) ?_
  refine keeps_ite _ (keeps_exit (fun _ hs => h.exit _ hs) _) (keeps_ite _ ?_ ?_)
  · exact keeps_ite _ (keepsScan_app0Thumbnail h) (keepsScan_onCont (keepsStream_app0Image h))
  · exact keeps_ite _ (keepsScan_onCont h.jump) (keeps_pure _)

/-! ## Rounds -/

theorem keepsScan_marker (h : Moves env F X I)
    {segment : Nat → Prog Fault JpegDecRet Scanning Unit}
    (hsegment : ∀ m, KeepsScan F X I (segment m)) : KeepsScan F X I (marker env segment) :=
  keeps_marker env h.getByte hsegment

theorem keepsScan_nextScanRound (h : Moves env F X I) : KeepsScan F X I (nextScanRound env) :=
  keeps_nextScanRound env h.getByte (keepsStream_nextScanSegment h)

theorem keepsScan_decodePrefix (h : Moves env F X I) : KeepsScan F X I (decodePrefix env) := by
  refine keeps_bind (keeps_gets _) fun again => keeps_ite _ (keeps_pure _) ?_
  exact keeps_bind (keepsScan_onCont h.getByte) (fun b => keeps_pure _)

theorem keepsScan_decodeRound (h : Moves env F X I) (decImageType : Nat) :
    KeepsScan F X I (decodeRound env decImageType) := by
  refine keeps_bind (keeps_gets _) fun ready => keeps_ite _ (keeps_pure _) ?_
  have hnone : KeepsScan F X I noMarker := keeps_noMarker
  refine keeps_bind (keepsScan_decodePrefix h) (fun found => keeps_ite _ ?_ hnone)
  exact keepsScan_marker h (keepsScan_decodeSegment h decImageType)

/-! ## Loops -/

theorem keepsStream_findMarkers (h : Moves env F X I) (decImageType : Nat) :
    KeepsStream F X I (findMarkers env decImageType) := by
  have hloop : KeepsScan F X I (do
      loop .rounds (decodeRound env decImageType) env.rounds
      if ← gets (fun s => decide (s.findhufftable = 0)) then
        onCont jpegDefaultHuffmanTables) := by
    refine keeps_bind ?_ fun _ => keeps_bind (keeps_gets _) fun absent =>
      keeps_ite _ ?_ (keeps_pure _)
    · exact keeps_loop (keepsScan_decodeRound h decImageType) (fun s hs => h.rounds _ hs) _
    · refine keepsScan_onCont (keeps_bind (keeps_modify fun _ hc => hc) fun _ => ?_)
      exact keeps_modify fun _ hc => hc
  exact keeps_zoom (fun _ _ => hloop) (fun _ hc => hc) (fun _ _ _ hs => hs) (fun _ _ _ hs => hs)
    fun _ _ _ _ hs => hs

theorem keepsStream_nextScanHdrs (h : Moves env F X I) :
    KeepsStream F X I (jpegDecNextScanHdrs env) := by
  refine keeps_bind (keeps_modify fun _ hc => hc) fun _ => ?_
  refine keeps_zoom (fun _ _ => ?_) (fun _ hc => hc) (fun _ _ _ hs => hs) (fun _ _ _ hs => hs)
    fun _ _ _ _ hs => hs
  exact keeps_loop (keepsScan_nextScanRound h) (fun s hs => h.rounds _ hs) _

end moves

end Jpeg

end Rk3399
