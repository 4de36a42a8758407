import Rk3399.Wrapper.Helpers.Ledger
import Rk3399.Common.Runs
/-!
# Who owns a buffer

Whether every buffer is released once, and a picture given to the caller is still
there. The wrapper frees its picture buffer at the end of every call without
an output buffer, whatever became of the picture: `ownsBuffers_of_careful` says
which runs own their buffers nevertheless.
-/

namespace Rk3399

namespace Wrapper

open Prog Runs

/-! ## What is claimed of a run -/

/-- The call comes back. -/
def Returns (w : RkJpegDecoder) (c : Call) : Prop :=
  ∃ r w', pvRkJpegdecoderOneframe c w = .exit r w'

/-- After a call, nothing was freed but buffers that were allocated and not yet released, and a
picture that was given to the caller is allocated and mapped. -/
structure Owned (w : RkJpegDecoder) : Prop where
  misfreed : w.drm.misfreed = []
  given : ∀ info ∈ w.jpegmem,
    w.drm.Live info.phyAddr ∧ info.virAddr.isSome ∧ w.pictureMem.virAddr = info.virAddr

/-- **A run owns its buffers**: its calls come back and leave the buffers owned, and
`pv_rkJpegdecoder_deinit` releases all that are left. -/
structure OwnsBuffers (i : Init) (cs : List Call) : Prop where
  returns : Steps oneframe Returns (pvRkJpegdecoderInit i) cs
  owned : Always oneframe Owned (pvRkJpegdecoderInit i) cs
  released : (pvRkJpegdecoderDeinit (cs.foldl oneframe (pvRkJpegdecoderInit i))).drm.misfreed = []
  empty : (pvRkJpegdecoderDeinit (cs.foldl oneframe (pvRkJpegdecoderInit i))).drm.live = []

/-! ## When a call is careful -/

/-- `j_end` finds a picture buffer to free, if it frees one. -/
def Call.EndsWell (c : Call) (w : RkJpegDecoder) : Prop :=
  c.outPhyaddr = 0 → w.drm.ctx = true → w.drm.Live w.pictureMem.phyAddr

instance (c : Call) (w : RkJpegDecoder) : Decidable (c.EndsWell w) :=
  inferInstanceAs (Decidable (_ → _))

/-- Every try for a picture buffer but the last fails to allocate it, and the last does not
map what it could not allocate. -/
def Call.TriesWell (c : Call) : Prop :=
  ∀ i < 256, (∀ j < i, c.pictureMmap j = false) →
    (c.pictureMmap i = true → c.pictureAlloc i = .ok) ∧
      (c.pictureMmap i = false → c.pictureAlloc i = .ok → i = 255)

instance (c : Call) : Decidable c.TriesWell :=
  Nat.decidableBallLT 256 _

/-- From the copy on: bad headers lead to `j_end`; with good ones the picture buffer was
released, and the wrapper's own is not given to the caller. -/
def Call.DecodesWell (c : Call) (w : RkJpegDecoder) : Prop :=
  if c.imageInfo ≠ .ok then c.EndsWell w
  else ¬ w.drm.Live w.pictureMem.phyAddr ∧
    (c.outPhyaddr = 0 →
      c.TriesWell ∧ (c.GetsPicture → c.decoding.jpegRet ≠ .frameReady))

instance (c : Call) (w : RkJpegDecoder) : Decidable (c.DecodesWell w) :=
  inferInstanceAs (Decidable (ite _ _ _))

/-- **The call is careful** with the buffers it finds. -/
def Careful (w : RkJpegDecoder) (c : Call) : Prop :=
  if c.inputSize < 16 then c.EndsWell w
  else ¬ c.FailsInit w →
    if c.Grows w then
      (w.drm.ctx = true → w.drm.Live w.streamMem.phyAddr) ∧
        if (w.drm.ctx && c.streamMmap) = false then c.EndsWell w else c.DecodesWell w
    else c.Fits w.streamMem.virAddr ∧ c.DecodesWell w

instance (w : RkJpegDecoder) (c : Call) : Decidable (Careful w c) :=
  inferInstanceAs (Decidable (ite _ _ _))

/-- What `pv_rkJpegdecoder_deinit` should find: the stream buffer is mapped if it is there, there
is no picture buffer, and the instance has no copy of one that was mapped. -/
structure Releasable (w : RkJpegDecoder) : Prop where
  stream : w.streamMem.virAddr.isSome ↔ w.drm.Live w.streamMem.phyAddr
  picture : ¬ w.drm.Live w.pictureMem.phyAddr
  inst : ∀ inst ∈ w.jpegInst, inst.outLumaBuffer.virAddr = none

/-! ## The ledger through a call -/

section call

variable {c : Call}

/-- How the ledger stands in the middle of a call. -/
structure Tidy (w : RkJpegDecoder) : Prop where
  ledger : w.Ledger
  given : w.jpegmem = none

theorem ledger_freePicture {w : RkJpegDecoder} (h : w.Ledger)
    (hlive : w.drm.ctx = true → w.drm.Live w.pictureMem.phyAddr) : w.freePicture.Ledger := by
  unfold RkJpegDecoder.Ledger RkJpegDecoder.freePicture
  dsimp only
  rw [Drm.phyAddr_free]
  cases hctx : w.drm.ctx with
  | false =>
    rw [Drm.free_closed hctx]
    exact h
  | true => exact (h.symm.free hctx (hlive hctx)).1.symm

/-- **`j_end`.** -/
theorem tidy_jEnd {w : RkJpegDecoder} (h : Tidy w) (hends : c.EndsWell w) :
    wp (jEnd c) (fun _ _ => False) (fun _ w' => Tidy w') (fun _ _ => False) w := by
  unfold jEnd
  simp only [wp_bind, wp_whenever, wp_modify, wp_exitIf, wp_exit]
  split
  · rename_i hout
    have hfreed : Tidy w.freePicture := ⟨ledger_freePicture h.ledger (hends hout), h.given⟩
    split
    · exact hfreed
    · exact hfreed
  · split
    · exact h
    · exact h

/-- **The tries for a picture buffer** end with one that is allocated, or without any. -/
theorem tidy_allocPicture (k : Nat) : ∀ (i : Nat) (w : RkJpegDecoder), w.drm.ctx = true →
    w.pictureMem.virAddr = none → Tidy w → ¬ w.drm.Live w.pictureMem.phyAddr →
    (∀ m, i ≤ m → m < i + k → (∀ j, i ≤ j → j < m → c.pictureMmap j = false) →
      (c.pictureMmap m = true → c.pictureAlloc m = .ok) ∧
        (c.pictureMmap m = false → c.pictureAlloc m = .ok → m + 1 = i + k)) →
    wp (allocPicture c i k) (fun _ w' => Tidy w' ∧ w'.drm.Live w'.pictureMem.phyAddr)
      (fun l w' => l = .ret (-4) ∧ Tidy w') (fun _ _ => False) w := by
  induction k with
  | zero => exact fun i w _ _ h _ _ => ⟨rfl, h⟩
  | succ k ih =>
    intro i w hctx hnone h hfree htries
    have hfirst := htries i (Nat.le_refl i) (by omega) fun j hle hlt => absurd hlt (by omega)
    rw [allocPicture]
    simp only [wp_bind, wp_modify, wp_gets, id]
    obtain ⟨w0, hw0⟩ : ∃ w0 : RkJpegDecoder,
        w0 = { w with pictureMem := { w.pictureMem with size := c.picSize } } := ⟨_, rfl⟩
    have hledger0 : Ledger w0.drm w0.pictureMem.phyAddr w0.streamMem.phyAddr := by
      rw [hw0]
      exact h.ledger.symm
    have hctx0 : w0.drm.ctx = true := by rw [hw0]; exact hctx
    have hfree0 : ¬ w0.drm.Live w0.pictureMem.phyAddr := by rw [hw0]; exact hfree
    have hnone0 : w0.pictureMem.virAddr = none := by rw [hw0]; exact hnone
    have hgiven0 : w0.jpegmem = none := by rw [hw0]; exact h.given
    rw [← hw0]
    obtain ⟨w1, hw1⟩ : ∃ w1 : RkJpegDecoder, w1 = w0.allocPicture (c.pictureAlloc i) := ⟨_, rfl⟩
    have hctx1 : w1.drm.ctx = true := by
      rw [hw1]
      simpa [RkJpegDecoder.allocPicture] using hctx0
    have hnone1 : w1.pictureMem.virAddr = none := by
      rw [hw1]
      exact Drm.virAddr_alloc _ hnone0
    have hgiven1 : w1.jpegmem = none := by rw [hw1]; exact hgiven0
    have hmmap := w1.drm.mmap_of_none (c.pictureMmap i) hnone1
    rw [← hw1, wp_ite]
    by_cases halloc : c.pictureAlloc i = .ok
    · obtain ⟨hledger, hlive, -⟩ := hledger0.alloc_ok hctx0 hfree0
      rw [← halloc] at hledger hlive
      have hledger1 : Ledger w1.drm w1.pictureMem.phyAddr w1.streamMem.phyAddr := by
        rw [hw1]
        exact hledger
      have hlive1 : w1.drm.Live w1.pictureMem.phyAddr := by rw [hw1]; exact hlive
      have htidy : Tidy (w1.mmapPicture (c.pictureMmap i)) := by
        refine ⟨?_, hgiven1⟩
        unfold RkJpegDecoder.Ledger RkJpegDecoder.mmapPicture
        dsimp only
        rw [Drm.phyAddr_mmap]
        exact hledger1.symm
      have hlive2 : (w1.mmapPicture (c.pictureMmap i)).drm.Live
          (w1.mmapPicture (c.pictureMmap i)).pictureMem.phyAddr := by
        unfold RkJpegDecoder.mmapPicture
        dsimp only
        rw [Drm.phyAddr_mmap]
        exact hlive1
      cases hmap : c.pictureMmap i with
      | true =>
        rw [hmap, if_pos ⟨hctx1, rfl⟩] at hmmap
        rw [hmap] at htidy hlive2
        rw [if_pos (congrArg (·.1) hmmap)]
        exact ⟨htidy, hlive2⟩
      | false =>
        -- the last try: the buffer stays allocated
        have hk : k = 0 := by
          have hlast := hfirst.2 hmap halloc
          omega
        rw [hmap, if_neg fun hno => Bool.noConfusion hno.2] at hmmap
        rw [hmap] at htidy
        have hno : ¬ (w1.drm.mmap w1.pictureMem false).1 = true := by simp [hmmap]
        rw [if_neg hno, hk]
        exact ⟨rfl, htidy⟩
    · have hmap : c.pictureMmap i = false := by
        cases hmap : c.pictureMmap i with
        | true => exact absurd (hfirst.1 hmap) halloc
        | false => rfl
      have hledger := hledger0.alloc_fails (.inr halloc)
      obtain ⟨hphy, hlive, -⟩ := w0.drm.alloc_fails w0.pictureMem (.inr halloc)
      have hfree1 : ¬ w1.drm.Live w1.pictureMem.phyAddr := by
        rw [hw1]
        unfold RkJpegDecoder.allocPicture Drm.Live
        dsimp only
        rw [hphy, hlive]
        exact hfree0
      have hledger1 : Ledger w1.drm w1.pictureMem.phyAddr w1.streamMem.phyAddr := by
        rw [hw1]
        exact hledger
      rw [hmap, if_neg fun hno => Bool.noConfusion hno.2] at hmmap
      have hno : ¬ (w1.drm.mmap w1.pictureMem false).1 = true := by simp [hmmap]
      have hsame : w1.mmapPicture false = w1 := by
        unfold RkJpegDecoder.mmapPicture
        rw [hmmap]
      rw [hmap, if_neg hno, hsame]
      refine wp_mono (ih (i + 1) w1 hctx1 hnone1 ⟨hledger1.symm, hgiven1⟩ hfree1 ?_)
        (fun _ _ h => h) (fun _ _ h => h) (fun _ _ h => h)
      intro m hle hlt hbefore
      have hm := htries m (by omega) (by omega) fun j hle' hlt' => by
        rcases Nat.lt_or_ge i j with hgt | hge
        · exact hbefore j hgt hlt'
        · obtain rfl : j = i := by omega
          exact hmap
      exact ⟨hm.1, fun hmap' halloc' => by
        have hlast := hm.2 hmap' halloc'
        omega⟩

/-- **From the copy on.** -/
theorem tidy_decodeInput {w : RkJpegDecoder} (hinv : Inv w) (h : Tidy w)
    (hfits : c.Fits w.streamMem.virAddr) (hdecodes : c.DecodesWell w) :
    wp (decodeInput c) (fun _ w' => Tidy w' ∧ c.EndsWell w')
      (fun l w' => Tidy w' ∧ (l = .jEnd → c.EndsWell w')) (fun _ _ => False) w := by
  have hctx : w.drm.ctx = true := by
    obtain ⟨n, hn, -⟩ := hfits
    exact (hinv.mapped n hn).2
  unfold decodeInput
  rw [wp_bind, wp_copyInput, if_pos hfits, wp_bind, wp_modify, wp_bind, wp_exitIf]
  unfold Call.DecodesWell at hdecodes
  by_cases hinfo : c.imageInfo ≠ .ok
  · rw [if_pos hinfo] at hdecodes
    rw [if_pos hinfo]
    exact ⟨⟨h.ledger, h.given⟩, fun _ => hdecodes⟩
  rw [if_neg hinfo] at hdecodes
  rw [if_neg hinfo]
  obtain ⟨w1, hw1⟩ : ∃ w1 : RkJpegDecoder, w1 = { w with
      events := w.events ++ [.copy w.streamMem.virAddr w.streamSize c.copied],
      jpegRet := c.imageInfo } := ⟨_, rfl⟩
  have hctx1 : w1.drm.ctx = true := by rw [hw1]; exact hctx
  have hnone1 : w1.pictureMem.virAddr = none := by rw [hw1]; exact hinv.picture
  have htidy1 : Tidy w1 := by rw [hw1]; exact ⟨h.ledger, h.given⟩
  have hfree1 : ¬ w1.drm.Live w1.pictureMem.phyAddr := by rw [hw1]; exact hdecodes.1
  -- a picture of its own or the address of the caller
  have hpicture : wp (openPicture c)
      (fun _ w' => Tidy w' ∧ c.EndsWell w' ∧ (c.outPhyaddr = 0 → c.decoding.jpegRet ≠ .frameReady))
      (fun l w' => l = .ret (-4) ∧ Tidy w') (fun _ _ => False) w1 := by
    unfold openPicture
    by_cases hout : c.outPhyaddr = 0
    · obtain ⟨htries, hready⟩ := hdecodes.2 hout
      rw [if_pos hout]
      have hledger := tidy_allocPicture (c := c) 256 0 w1 hctx1 hnone1 htidy1 hfree1 ?_
      · refine wp_mono (wp_and (wp_allocPicture 256 0 w1 hctx1 hnone1) hledger) ?_
          (fun _ _ h => h.2) (fun _ _ h => h.1)
        rintro _ w' ⟨⟨j, -, hlt, hj⟩, htidy, hlive⟩
        exact ⟨htidy, fun _ _ => hlive, fun _ => hready (.inr ⟨j, by omega, hj⟩)⟩
      · intro m _ hlt hbefore
        have hm := htries m (by omega) fun j hj => hbefore j (Nat.zero_le j) hj
        exact ⟨hm.1, fun hmap halloc => by
          have hlast := hm.2 hmap halloc
          omega⟩
    · rw [if_neg hout, wp_modify]
      refine ⟨⟨?_, htidy1.given⟩, fun hno => absurd hno hout, fun hno => absurd hno hout⟩
      exact (htidy1.ledger.symm.caller hfree1 c.outPhyaddr).symm
  rw [← hw1, wp_bind]
  refine wp_mono hpicture ?_ ?_ (fun _ _ => False.elim)
  · rintro _ w2 ⟨htidy, hends, hready⟩
    unfold decodeFrame
    simp only [wp_bind, wp_modify, wp_whenever]
    split
    · rw [if_neg fun hno => hready hno.2 hno.1]
      exact ⟨⟨htidy.ledger, htidy.given⟩, hends⟩
    · rw [if_neg fun hno => hready hno.2 hno.1]
      exact ⟨⟨htidy.ledger, htidy.given⟩, hends⟩
  · rintro l w2 ⟨rfl, htidy⟩
    refine ⟨htidy, ?_⟩
    intro hend
    cases hend

/-- How the picture buffer stands. -/
def RkJpegDecoder.SamePicture (w w' : RkJpegDecoder) : Prop :=
  (w'.drm.Live w'.pictureMem.phyAddr ↔ w.drm.Live w.pictureMem.phyAddr) ∧ w'.drm.ctx = w.drm.ctx

theorem Call.EndsWell.congr {w w' : RkJpegDecoder} (hsame : w.SamePicture w')
    (h : c.EndsWell w) : c.EndsWell w' := by
  intro hout hctx
  exact hsame.1.mpr (h hout (hsame.2.symm.trans hctx))

theorem Call.DecodesWell.congr {w w' : RkJpegDecoder} (hsame : w.SamePicture w')
    (h : c.DecodesWell w) : c.DecodesWell w' := by
  unfold Call.DecodesWell at *
  split
  · rename_i hinfo
    rw [if_pos hinfo] at h
    exact h.congr hsame
  · rename_i hinfo
    rw [if_neg hinfo] at h
    exact ⟨fun hlive => h.1 (hsame.1.mp hlive), h.2⟩

/-- The stream buffer is released before another is allocated. -/
theorem ledger_grown {w : RkJpegDecoder} (h : w.Ledger)
    (hlive : w.drm.ctx = true → w.drm.Live w.streamMem.phyAddr) :
    (c.grown w).Ledger ∧ w.SamePicture (c.grown w) := by
  obtain ⟨info, hinfo⟩ : ∃ info : MppBufferInfo, info =
      { w.freeStream.streamMem with size := u32 (c.strSize + SZ_4K) } := ⟨_, rfl⟩
  have hphy : info.phyAddr = w.streamMem.phyAddr := by
    rw [hinfo]
    exact Drm.phyAddr_free
  have hgrown : c.grown w = { w.freeStream with
      streamMem := (w.freeStream.drm.alloc info c.streamAlloc).2.1,
      drm := (w.freeStream.drm.alloc info c.streamAlloc).2.2,
      events := w.events ++ [.alloc (w.freeStream.drm.alloc info c.streamAlloc).1] } := by
    rw [hinfo]
    rfl
  have hctx : (c.grown w).drm.ctx = w.drm.ctx := grown_ctx
  -- with the device closed nothing is freed, and with it open one handle
  have hsuffices : Ledger (w.freeStream.drm.alloc info c.streamAlloc).2.2
        (w.freeStream.drm.alloc info c.streamAlloc).2.1.phyAddr w.pictureMem.phyAddr ∧
      ((w.freeStream.drm.alloc info c.streamAlloc).2.2.Live w.pictureMem.phyAddr ↔
        w.drm.Live w.pictureMem.phyAddr) := by
    cases hopen : w.drm.ctx with
    | false =>
      have hsame : w.freeStream.drm = w.drm := by
        show (w.drm.free w.streamMem).2 = w.drm
        rw [Drm.free_closed hopen]
      rw [hsame]
      have hledger : Ledger w.drm info.phyAddr w.pictureMem.phyAddr := hphy ▸ h
      have hsameLive : (w.drm.alloc info c.streamAlloc).2.2.live = w.drm.live :=
        (w.drm.alloc_fails info (.inl hopen)).2.1
      refine ⟨hledger.alloc_fails (.inl hopen), ?_⟩
      unfold Drm.Live
      rw [hsameLive]
    | true =>
      obtain ⟨hfreed, hnot, hother⟩ := Ledger.free h hopen (hlive hopen)
      have hledger : Ledger w.freeStream.drm info.phyAddr w.pictureMem.phyAddr := hphy ▸ hfreed
      have hopen' : w.freeStream.drm.ctx = true := Drm.ctx_free.trans hopen
      have hfree : ¬ w.freeStream.drm.Live info.phyAddr := by
        rw [hphy]
        exact hnot
      by_cases halloc : c.streamAlloc = .ok
      · obtain ⟨hnew, -, hother'⟩ := hledger.alloc_ok hopen' hfree
        rw [halloc]
        exact ⟨hnew, hother'.trans hother⟩
      · obtain ⟨-, hsameLive, -⟩ := w.freeStream.drm.alloc_fails info (.inr halloc)
        refine ⟨hledger.alloc_fails (.inr halloc), ?_⟩
        rw [← hother]
        unfold Drm.Live
        rw [hsameLive]
        exact Iff.rfl
  refine ⟨?_, ?_, hctx⟩
  · rw [hgrown]
    exact hsuffices.1
  · rw [hgrown]
    exact hsuffices.2

/-- **Getting a longer stream buffer.** -/
theorem tidy_growStream {w : RkJpegDecoder} (h : Tidy w)
    (hlive : c.Grows w → w.drm.ctx = true → w.drm.Live w.streamMem.phyAddr) :
    wp (growStream c) (fun _ w' => Tidy w' ∧ w.SamePicture w')
      (fun _ w' => Tidy w' ∧ w.SamePicture w') (fun _ _ => False) w := by
  unfold growStream
  rw [wp_whenever]
  by_cases hgrows : c.Grows w
  · rw [if_pos hgrows]
    simp only [wp_bind, wp_modify, wp_gets, id, wp_exitIf]
    obtain ⟨hledger, hsame⟩ := ledger_grown (c := c) h.ledger (hlive hgrows)
    have htidy : Tidy ((c.grown w).mmapStream c.streamMmap) := by
      refine ⟨?_, h.given⟩
      unfold RkJpegDecoder.Ledger RkJpegDecoder.mmapStream
      dsimp only
      rw [Drm.phyAddr_mmap]
      exact hledger
    split
    · exact ⟨htidy, hsame⟩
    · exact ⟨⟨htidy.ledger, htidy.given⟩, hsame⟩
  · rw [if_neg hgrows]
    exact ⟨h, Iff.rfl, rfl⟩

/-- **The body of a careful call.** -/
theorem tidy_oneframeBody {w : RkJpegDecoder} (hinv : Inv w) (h : Tidy w) (hcareful : Careful w c) :
    wp (oneframeBody c) (fun _ w' => Tidy w' ∧ c.EndsWell w')
      (fun l w' => Tidy w' ∧ (l = .jEnd → c.EndsWell w')) (fun _ _ => False) w := by
  unfold Careful at hcareful
  unfold oneframeBody
  rw [wp_bind, wp_exitIf]
  by_cases hshort : c.inputSize < 16
  · rw [if_pos hshort] at hcareful
    rw [if_pos hshort]
    exact ⟨h, fun _ => hcareful⟩
  rw [if_neg hshort] at hcareful
  rw [if_neg hshort, wp_bind]
  refine wp_mono wp_openInst ?_ ?_ (fun _ _ => False.elim)
  · rintro _ w1 ⟨hinit, jpegRet, jpegInst, hw1⟩
    have hcareful := hcareful hinit
    have hinv1 : Inv w1 := by
      rw [hw1]
      exact ⟨hinv.toStreamInv.congr rfl, hinv.picture⟩
    have htidy1 : Tidy w1 := by
      rw [hw1]
      exact ⟨h.ledger, h.given⟩
    have hgrows1 : c.Grows w1 ↔ c.Grows w := by
      rw [hw1]
      exact Iff.rfl
    have hdrm1 : w1.drm = w.drm := by rw [hw1]
    have hmem1 : w1.streamMem = w.streamMem := by rw [hw1]
    have hsame1 : w.SamePicture w1 := by
      rw [hw1]
      exact ⟨Iff.rfl, rfl⟩
    -- the stream that is freed to grow is one that lives
    have hlive1 : c.Grows w1 → w1.drm.ctx = true → w1.drm.Live w1.streamMem.phyAddr := by
      intro hgrow
      rw [if_pos (hgrows1.mp hgrow)] at hcareful
      rw [hdrm1, hmem1]
      exact hcareful.1
    rw [wp_bind]
    refine wp_mono (wp_and (wp_growStream (c := c) hinv1) (tidy_growStream htidy1 hlive1)) ?_ ?_
      (fun _ _ h => h.1)
    · rintro _ w2 ⟨hgrown, htidy2, hsame2⟩
      have hsame : w.SamePicture w2 := ⟨hsame2.1.trans hsame1.1, hsame2.2.trans hsame1.2⟩
      by_cases hgrow : c.Grows w
      · rw [if_pos (hgrows1.mpr hgrow), hdrm1] at hgrown
        obtain ⟨hok, hinv2, hmem2, hsize2, -⟩ := hgrown
        rw [if_pos hgrow, hok] at hcareful
        refine tidy_decodeInput hinv2 htidy2 ?_ (hcareful.2.congr hsame)
        rw [hmem2]
        exact ⟨_, rfl, copied_le_of_grows hinv.toStreamInv hgrow⟩
      · rw [if_neg fun hno => hgrow (hgrows1.mp hno)] at hgrown
        rw [if_neg hgrow] at hcareful
        subst hgrown
        refine tidy_decodeInput hinv1 htidy1 ?_ (hcareful.2.congr hsame)
        rw [hmem1]
        exact hcareful.1
    · rintro l w2 ⟨⟨rfl, hgrow, hno, -, -⟩, htidy2, hsame2⟩
      have hsame : w.SamePicture w2 := ⟨hsame2.1.trans hsame1.1, hsame2.2.trans hsame1.2⟩
      rw [hdrm1] at hno
      rw [if_pos (hgrows1.mp hgrow), if_pos hno] at hcareful
      exact ⟨htidy2, fun _ => hcareful.2.congr hsame⟩
  · rintro l w1 ⟨rfl, -, rfl⟩
    exact ⟨⟨h.ledger, h.given⟩, nofun⟩

/-- **A careful call** comes back and leaves the ledger in order. -/
theorem tidy_oneframe {w : RkJpegDecoder} (hinv : Inv w) (h : w.Ledger) (hcareful : Careful w c) :
    Returns w c ∧ Tidy (oneframe w c) := by
  have hcall : wp (pvRkJpegdecoderOneframe c) (fun _ _ => False) (fun _ w' => Tidy w')
      (fun _ _ => False) w := by
    unfold pvRkJpegdecoderOneframe
    rw [wp_bind, wp_modify, wp_bind, wp_call]
    have hinv' : Inv { w with events := [], jpegmem := none } :=
      ⟨hinv.toStreamInv.congr rfl, hinv.picture⟩
    have htidy' : Tidy { w with events := [], jpegmem := none } := ⟨h, rfl⟩
    refine wp_mono (tidy_oneframeBody hinv' htidy' hcareful) ?_ ?_ (fun _ _ h => h)
    · rintro _ w' ⟨htidy, hends⟩
      exact tidy_jEnd htidy hends
    · rintro l w' ⟨htidy, hends⟩
      cases l with
      | ret code => exact htidy
      | jEnd => exact tidy_jEnd htidy (hends rfl)
  unfold Returns oneframe
  rw [wp_def] at hcall
  cases hout : pvRkJpegdecoderOneframe c w with
  | next a w' => exact (hcall.1 a w' hout).elim
  | exit r w' => exact ⟨⟨r, w', rfl⟩, hcall.2.1 r w' hout⟩
  | fault e w' => exact (hcall.2.2 e w' hout).elim

end call

/-! ## Whole runs -/

/-- **`pv_rkJpegdecoder_deinit`** releases what is left. -/
theorem deinit_releases {w : RkJpegDecoder} (hinv : Inv w) (h : w.Ledger) (hrel : Releasable w) :
    (pvRkJpegdecoderDeinit w).drm.misfreed = [] ∧ (pvRkJpegdecoderDeinit w).drm.live = [] := by
  obtain ⟨w1, hw1⟩ : ∃ w1, w1 = if w.streamMem.virAddr.isSome then w.freeStream else w := ⟨_, rfl⟩
  have hpicture1 : w1.pictureMem = w.pictureMem := by
    rw [hw1]
    split
    · rfl
    · rfl
  have hinst1 : w1.jpegInst = w.jpegInst := by
    rw [hw1]
    split
    · rfl
    · rfl
  -- neither the picture buffer nor a copy of it is mapped
  have hdeinit : (pvRkJpegdecoderDeinit w).drm = { w1.drm with ctx := false } := by
    unfold pvRkJpegdecoderDeinit
    dsimp only
    rw [← hw1, hpicture1, hinv.picture]
    rw [if_neg (show ¬ (none : Option Nat).isSome = true by simp), hinst1]
    cases hinst : w.jpegInst with
    | none => rfl
    | some inst =>
      have hrelease : jpegDecRelease inst w1 = w1 := by
        unfold jpegDecRelease
        rw [hrel.inst inst hinst]
        rfl
      dsimp only
      rw [hrelease]
  have hempty : w1.drm.misfreed = [] ∧ w1.drm.live = [] := by
    by_cases hmapped : w.streamMem.virAddr.isSome = true
    · obtain ⟨n, hn⟩ := Option.isSome_iff_exists.mp hmapped
      obtain ⟨hledger, hfree, hother⟩ :=
        Ledger.free h (hinv.mapped n hn).2 (hrel.stream.mp hmapped)
      rw [hw1, if_pos hmapped]
      exact ⟨hledger.misfreed, hledger.live_eq_nil hfree fun hno => hrel.picture (hother.mp hno)⟩
    · rw [hw1, if_neg hmapped]
      exact ⟨h.misfreed, h.live_eq_nil (fun hno => hmapped (hrel.stream.mpr hno)) hrel.picture⟩
  rw [hdeinit]
  exact hempty

/-- **A run of careful calls owns its buffers**, if it leaves the buffers to be released. -/
theorem ownsBuffers_of_careful (i : Init) (cs : List Call)
    (hcareful : Steps oneframe Careful (pvRkJpegdecoderInit i) cs)
    (hrel : Releasable (cs.foldl oneframe (pvRkJpegdecoderInit i))) : OwnsBuffers i cs := by
  have hstep : ∀ w c, Inv w ∧ Tidy w → Careful w c →
      Inv (oneframe w c) ∧ Tidy (oneframe w c) := fun w c h hc =>
    ⟨(oneframe_spec h.1).1, (tidy_oneframe h.1 h.2.ledger hc).2⟩
  have hstart : Inv (pvRkJpegdecoderInit i) ∧ Tidy (pvRkJpegdecoderInit i) :=
    ⟨inv_init i, ledger_init i, rfl⟩
  have hrun : Always oneframe (fun w => Inv w ∧ Tidy w) (pvRkJpegdecoderInit i) cs :=
    always_of_steps (D := fun _ => True) (fun w c _ => hstep w c) (fun _ h => h) cs
      (fun _ _ => trivial) _ hstart hcareful
  obtain ⟨hinv, htidy⟩ := hrun.last
  obtain ⟨hmisfreed, hempty⟩ := deinit_releases hinv htidy.ledger hrel
  refine ⟨?_, ?_, hmisfreed, hempty⟩
  · exact steps_of_steps hstep (fun w c h hc => (tidy_oneframe h.1 h.2.ledger hc).1) cs _ hstart
      hcareful
  · refine always_of_steps (D := fun _ => True) (fun w c _ => hstep w c) (fun w h => ?_) cs
      (fun _ _ => trivial) _ hstart hcareful
    refine ⟨h.2.ledger.misfreed, fun info hinfo => ?_⟩
    rw [h.2.given] at hinfo
    cases hinfo

/-- A device on which everything works. -/
def workingInit : Init := ⟨true, .ok, true, .ok⟩

/-- A call with a JPEG input of 1000 bytes in which everything works. -/
def workingCall (outPhyaddr : Nat) : Call where
  inputSize := 1000
  avi1 := false
  outPhyaddr := outPhyaddr
  init := .ok
  streamAlloc := .ok
  streamMmap := true
  imageInfo := .ok
  picSize := 6144
  pictureAlloc _ := .ok
  pictureMmap _ := true
  decoding := ⟨.frameReady, true, frameReady_ends⟩
  inputSize_lt := by decide

/-- One with an input that the stream buffer of the others is too small for. -/
def largeCall (outPhyaddr : Nat) : Call :=
  { workingCall outPhyaddr with inputSize := 700000, inputSize_lt := by decide }

/-- One in which the picture is not decoded. -/
def brokenCall (outPhyaddr : Nat) : Call :=
  { workingCall outPhyaddr with decoding := ⟨.strmError, true, by decide⟩ }

/-- A run that allocates the stream buffer, uses it again, gives up a picture of its own and takes
a larger stream buffer owns its buffers. -/
theorem ownsBuffers_of_careful_caller :
    OwnsBuffers workingInit [workingCall 9, workingCall 9, brokenCall 0, largeCall 9] :=
  ownsBuffers_of_careful workingInit [workingCall 9, workingCall 9, brokenCall 0, largeCall 9]
    ⟨by decide +kernel, by decide +kernel, by decide +kernel, by decide +kernel, trivial⟩
    ⟨by decide +kernel, by decide +kernel, by decide +kernel⟩

/-- **A picture of the wrapper** is freed before the caller has it. -/
theorem not_ownsBuffers : ¬ ∀ i cs, OwnsBuffers i cs := by
  intro hall
  obtain ⟨-, hlast⟩ := (hall workingInit [workingCall 0]).owned
  have hgiven := hlast.given ⟨6144, some 6144, some 1, .buffer 1⟩ (by decide +kernel)
  exact absurd hgiven.1 (by decide +kernel)

end Wrapper

end Rk3399
