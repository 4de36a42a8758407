import Rk3399.Wrapper.Model.Api
import Rk3399.Common.Invariant
/-!
# What a call leaves behind

The calls of `pv_rkJpegdecoder_oneframe` keep the stream buffer mapped with
its size, or not mapped, and the picture buffer not mapped. Under this
invariant the events of a call are a list that can be read off the state
before it.
-/

namespace Rk3399

namespace Wrapper

open Prog

/-! ## The allocator -/

namespace Drm

variable {drm : Drm} {info : MppBufferInfo}

@[simp] theorem ctx_alloc (outcome : AllocRet) :
    (drm.alloc info outcome).2.2.ctx = drm.ctx := by
  unfold alloc
  split
  · rfl
  · cases outcome <;> rfl

@[simp] theorem ctx_close (fd : Descriptor) : (drm.close fd).ctx = drm.ctx := by
  unfold close
  cases fd with
  | zero => rfl
  | caller fd => rfl
  | buffer n =>
    dsimp only
    split <;> rfl

@[simp] theorem ctx_free : (drm.free info).2.ctx = drm.ctx := by
  unfold free
  split
  · rfl
  · exact ctx_close _

/-- `alloc` works on an open device. -/
theorem alloc_fst (outcome : AllocRet) :
    (drm.alloc info outcome).1 = decide (drm.ctx = true ∧ outcome = .ok) := by
  unfold alloc
  cases hctx : drm.ctx with
  | false => simp
  | true => cases outcome <;> simp

theorem virAddr_alloc (outcome : AllocRet) (h : info.virAddr = none) :
    (drm.alloc info outcome).2.1.virAddr = none := by
  unfold alloc
  split
  · exact h
  · cases outcome with
    | ok => rfl
    | noBuffer => exact h
    | noDescriptor => exact h

@[simp] theorem size_alloc (outcome : AllocRet) :
    (drm.alloc info outcome).2.1.size = info.size := by
  unfold alloc
  split
  · rfl
  · cases outcome <;> rfl

/-- `mmap` of a buffer that is not mapped. -/
theorem mmap_of_none (drm : Drm) (outcome : Bool) (h : info.virAddr = none) :
    drm.mmap info outcome = if drm.ctx = true ∧ outcome = true
      then (true, { info with virAddr := some info.size }) else (false, info) := by
  unfold mmap
  cases drm.ctx <;> cases outcome <;> simp [h]

theorem virAddr_free (h : info.virAddr ≠ none → drm.ctx = true) :
    (drm.free info).1.virAddr = none := by
  unfold free
  cases hctx : drm.ctx with
  | false =>
    rw [hctx] at h
    exact not_not.mp fun hno => Bool.noConfusion (h hno)
  | true => rfl

end Drm

/-! ## The invariant -/

/-- The stream buffer has its size where it is mapped. -/
structure StreamInv (w : RkJpegDecoder) : Prop where
  mapped : ∀ n ∈ w.streamMem.virAddr, n = w.streamSize ∧ w.drm.ctx = true
  large : 1024 * 500 ≤ w.streamSize
  small : w.streamSize < 2 ^ 32

/-- Between two calls the picture buffer is not mapped. -/
structure Inv (w : RkJpegDecoder) : Prop extends StreamInv w where
  picture : w.pictureMem.virAddr = none

/-- How a call comes out of its body: `j_end` is still to unmap the picture buffer. -/
structure AtEnd (c : Call) (w : RkJpegDecoder) : Prop extends StreamInv w where
  picture : w.pictureMem.virAddr ≠ none → c.outPhyaddr = 0 ∧ w.drm.ctx = true

theorem Inv.atEnd {c : Call} {w : RkJpegDecoder} (h : Inv w) : AtEnd c w where
  toStreamInv := h.toStreamInv
  picture := fun hno => absurd h.picture hno

/-- What of the state the invariant of the stream buffer is about. -/
def RkJpegDecoder.stream (w : RkJpegDecoder) : MppBufferInfo × Nat × Bool :=
  (w.streamMem, w.streamSize, w.drm.ctx)

theorem StreamInv.congr {w w' : RkJpegDecoder} (h : StreamInv w) (heq : w'.stream = w.stream) :
    StreamInv w' := by
  have hmem : w'.streamMem = w.streamMem := congrArg (·.1) heq
  have hsize : w'.streamSize = w.streamSize := congrArg (·.2.1) heq
  have hctx : w'.drm.ctx = w.drm.ctx := congrArg (·.2.2) heq
  refine ⟨?_, hsize ▸ h.large, hsize ▸ h.small⟩
  rw [hmem, hsize, hctx]
  exact h.mapped

/-! ## The events of a call -/

/-- There is a picture buffer in the end. -/
def Call.GetsPicture (c : Call) : Prop :=
  c.outPhyaddr ≠ 0 ∨ ∃ i, i < 256 ∧ c.pictureMmap i = true

instance (c : Call) : Decidable c.GetsPicture := inferInstanceAs (Decidable (_ ∨ _))

/-- The input fits in what is mapped. -/
def Call.Fits (c : Call) (virAddr : Option Nat) : Prop := ∃ n ∈ virAddr, c.copied ≤ n

instance (c : Call) (virAddr : Option Nat) : Decidable (c.Fits virAddr) :=
  inferInstanceAs (Decidable (∃ _, _ ∧ _))

/-- The events of a call once the stream buffer has its size: the decoder is called where the
input fits, its headers are good and there is a picture buffer. -/
def Call.inputEvents (c : Call) (virAddr : Option Nat) (streamSize : Nat) : List Event :=
  .copy virAddr streamSize c.copied ::
    if c.Fits virAddr ∧ c.imageInfo = .ok ∧ c.GetsPicture then [.decode] else []

/-- The instance cannot be made. -/
def Call.FailsInit (c : Call) (w : RkJpegDecoder) : Prop := w.jpegInst = none ∧ c.init ≠ .ok

instance (c : Call) (w : RkJpegDecoder) : Decidable (c.FailsInit w) :=
  inferInstanceAs (Decidable (_ ∧ _))

/-- The events of a call, from the state before it. -/
def Call.events (c : Call) (w : RkJpegDecoder) : List Event :=
  if c.inputSize < 16 ∨ c.FailsInit w then []
  else if c.Grows w then
    let size := u32 (c.strSize + SZ_4K)
    [.alloc (w.drm.ctx && c.streamAlloc = .ok), .mmap (w.drm.ctx && c.streamMmap)] ++
      if w.drm.ctx && c.streamMmap then c.inputEvents (some size) size else []
  else c.inputEvents w.streamMem.virAddr w.streamSize

/-! ## From the copy on -/

section decodeInput

variable {c : Call}

theorem wp_copyInput {w : RkJpegDecoder} {N : Unit → RkJpegDecoder → Prop}
    {X : Leave → RkJpegDecoder → Prop} {F : Fault → RkJpegDecoder → Prop} :
    wp (copyInput c) N X F w ↔
      let copied :=
        { w with events := w.events ++ [.copy w.streamMem.virAddr w.streamSize c.copied] }
      if c.Fits w.streamMem.virAddr then N () copied else F .copy copied := by
  unfold copyInput
  rw [wp_bind, wp_modify, wp_assert]
  exact Iff.rfl

/-- What getting a picture buffer leaves alone. -/
def RkJpegDecoder.others (w : RkJpegDecoder) : (MppBufferInfo × Nat × Bool) × List Event :=
  (w.stream, w.events)

theorem frame_allocPicture (k : Nat) : ∀ i,
    Frame anyFault RkJpegDecoder.others (allocPicture c i k) := by
  induction k with
  | zero => exact fun i => frame_exit _
  | succ k ih =>
    intro i
    refine frame_bind (frame_modify fun w => rfl) fun _ => ?_
    refine frame_bind (frame_modify fun w => ?_) fun _ => ?_
    · simp [RkJpegDecoder.others, RkJpegDecoder.stream, RkJpegDecoder.allocPicture]
    refine frame_bind (frame_gets _) fun w => ?_
    refine frame_bind (frame_modify fun w => rfl) fun _ => ?_
    exact frame_ite _ (frame_pure _) (ih (i + 1))

/-- **The tries for a picture buffer** go on to the first that is mapped. -/
theorem wp_allocPicture (k : Nat) : ∀ (i : Nat) (w : RkJpegDecoder), w.drm.ctx = true →
    w.pictureMem.virAddr = none →
    wp (allocPicture c i k)
      (fun _ _ => ∃ j, i ≤ j ∧ j < i + k ∧ c.pictureMmap j = true)
      (fun l w' => l = .ret (-4) ∧ (∀ j, i ≤ j → j < i + k → c.pictureMmap j = false) ∧
        w'.pictureMem.virAddr = none)
      (fun _ _ => False) w := by
  induction k with
  | zero =>
    intro i w _ hnone
    exact ⟨rfl, fun j hle hlt => absurd hlt (by omega), hnone⟩
  | succ k ih =>
    intro i w hctx hnone
    rw [allocPicture]
    simp only [wp_bind, wp_modify, wp_gets, id]
    obtain ⟨w1, hw1⟩ : ∃ w1 : RkJpegDecoder, w1 = RkJpegDecoder.allocPicture
        { w with pictureMem := { w.pictureMem with size := c.picSize } } (c.pictureAlloc i) :=
      ⟨_, rfl⟩
    have hctx1 : w1.drm.ctx = true := by
      rw [hw1]
      simpa [RkJpegDecoder.allocPicture] using hctx
    have hnone1 : w1.pictureMem.virAddr = none := by
      rw [hw1]
      exact Drm.virAddr_alloc _ hnone
    -- a try that maps the picture ends the search, another leaves no address
    have hmmap := w1.drm.mmap_of_none (c.pictureMmap i) hnone1
    rw [← hw1, wp_ite]
    by_cases hmap : c.pictureMmap i = true
    · rw [if_pos ⟨hctx1, hmap⟩] at hmmap
      rw [if_pos (congrArg (·.1) hmmap)]
      exact ⟨i, Nat.le_refl i, by omega, hmap⟩
    · rw [if_neg fun h => hmap h.2] at hmmap
      have hno : ¬ (w1.drm.mmap w1.pictureMem (c.pictureMmap i)).1 = true := by simp [hmmap]
      have hsame : (w1.mmapPicture (c.pictureMmap i)).pictureMem.virAddr = none := by
        simp [RkJpegDecoder.mmapPicture, hmmap, hnone1]
      rw [if_neg hno]
      refine wp_mono (ih (i + 1) (w1.mmapPicture (c.pictureMmap i)) hctx1 hsame) ?_ ?_
        (fun _ _ h => h)
      · rintro _ w' ⟨j, hle, hlt, hj⟩
        exact ⟨j, by omega, by omega, hj⟩
      · rintro l w' ⟨hl, hall, hw'⟩
        refine ⟨hl, fun j hle hlt => ?_, hw'⟩
        rcases Nat.lt_or_ge i j with hlt' | hge
        · exact hall j hlt' (by omega)
        · obtain rfl : j = i := by omega
          simpa using hmap

theorem wp_openPicture {w : RkJpegDecoder} (hctx : w.drm.ctx = true)
    (hnone : w.pictureMem.virAddr = none) :
    wp (openPicture c)
      (fun _ w' => (c.GetsPicture ∧ (w'.pictureMem.virAddr ≠ none → c.outPhyaddr = 0)) ∧
        w'.others = w.others)
      (fun l w' => (l = .ret (-4) ∧ ¬ c.GetsPicture ∧ w'.pictureMem.virAddr = none) ∧
        w'.others = w.others)
      (fun _ _ => False) w := by
  unfold openPicture
  by_cases hout : c.outPhyaddr = 0
  · rw [if_pos hout]
    refine wp_mono (Frame.wp (frame_allocPicture 256 0) (wp_allocPicture 256 0 w hctx hnone))
      ?_ ?_ (fun _ _ h => h.1)
    · rintro _ w' ⟨⟨j, -, hlt, hj⟩, hsame⟩
      exact ⟨⟨.inr ⟨j, by omega, hj⟩, fun _ => hout⟩, hsame⟩
    · rintro l w' ⟨⟨hl, hall, hnone'⟩, hsame⟩
      refine ⟨⟨hl, ?_, hnone'⟩, hsame⟩
      rintro (hno | ⟨i, hlt, hi⟩)
      · exact hno hout
      · exact absurd (hall i (Nat.zero_le i) (by omega)) (by simp [hi])
  · rw [if_neg hout, wp_modify]
    exact ⟨⟨.inl hout, fun hno => absurd hnone hno⟩, rfl⟩

/-- How the body of a call is left. -/
def AfterBody (c : Call) : Leave → RkJpegDecoder → Prop
  | .jEnd, w => AtEnd c w
  | .ret _, w => Inv w

/-- **From the copy on**, the events are those of the input. -/
theorem wp_decodeInput {w : RkJpegDecoder} (h : Inv w) {es : List Event}
    (hes : es = w.events ++ c.inputEvents w.streamMem.virAddr w.streamSize) :
    wp (decodeInput c) (fun _ w' => AtEnd c w' ∧ w'.events = es)
      (fun l w' => AfterBody c l w' ∧ w'.events = es)
      (fun _ w' => Inv w' ∧ w'.events = es) w := by
  unfold decodeInput
  rw [wp_bind, wp_copyInput]
  by_cases hfits : c.Fits w.streamMem.virAddr
  · have hctx : w.drm.ctx = true := by
      obtain ⟨n, hn, -⟩ := hfits
      exact (h.mapped n hn).2
    rw [if_pos hfits, wp_bind, wp_modify, wp_bind, wp_exitIf]
    by_cases hinfo : c.imageInfo = .ok
    · rw [if_neg (not_not.mpr hinfo)]
      obtain ⟨w1, hw1⟩ : ∃ w1 : RkJpegDecoder, w1 = { w with
          events := w.events ++ [.copy w.streamMem.virAddr w.streamSize c.copied],
          jpegRet := c.imageInfo } := ⟨_, rfl⟩
      have hpicture1 : w1.pictureMem.virAddr = none := by rw [hw1]; exact h.picture
      rw [← hw1, wp_bind]
      refine wp_mono (wp_openPicture (hw1 ▸ hctx) hpicture1) ?_ ?_ (fun _ _ => False.elim)
      · rintro _ w2 ⟨⟨hgets, hmapped⟩, hsame⟩
        have hstream : w2.stream = w.stream := (congrArg (·.1) hsame).trans (by rw [hw1]; rfl)
        have hevents : w2.events =
            w.events ++ [.copy w.streamMem.virAddr w.streamSize c.copied] :=
          (congrArg (·.2) hsame).trans (by rw [hw1]; rfl)
        have hctx2 : w2.drm.ctx = true := (congrArg (·.2.2) hstream).trans hctx
        have hevents' : w2.events ++ [.decode] = es := by
          rw [hevents, hes, Call.inputEvents, if_pos ⟨hfits, hinfo, hgets⟩, List.append_assoc]
          rfl
        have hinv := h.toStreamInv.congr hstream
        unfold decodeFrame
        simp only [wp_bind, wp_modify, wp_whenever]
        split
        · split
          all_goals exact ⟨⟨⟨hinv.mapped, hinv.large, hinv.small⟩,
            fun hno => ⟨hmapped hno, hctx2⟩⟩, hevents'⟩
        · split
          all_goals exact ⟨⟨⟨hinv.mapped, hinv.large, hinv.small⟩,
            fun hno => ⟨hmapped hno, hctx2⟩⟩, hevents'⟩
      · rintro l w2 ⟨⟨rfl, hno, hnone⟩, hsame⟩
        have hstream : w2.stream = w.stream := (congrArg (·.1) hsame).trans (by rw [hw1]; rfl)
        refine ⟨⟨h.toStreamInv.congr hstream, hnone⟩, ?_⟩
        have hevents : w2.events = w1.events := congrArg (·.2) hsame
        rw [hevents, hw1, hes, Call.inputEvents, if_neg fun hall => hno hall.2.2]
    · rw [if_pos hinfo, hes, Call.inputEvents, if_neg fun hall => hinfo hall.2.1]
      have hinv : Inv { w with
          events := w.events ++ [.copy w.streamMem.virAddr w.streamSize c.copied],
          jpegRet := c.imageInfo } := ⟨h.toStreamInv.congr rfl, h.picture⟩
      exact ⟨hinv.atEnd, rfl⟩
  · rw [if_neg hfits, hes, Call.inputEvents, if_neg fun hall => hfits hall.1]
    exact ⟨⟨h.toStreamInv.congr rfl, h.picture⟩, rfl⟩

end decodeInput

/-! ## The stream buffer -/

section growStream

variable {c : Call}

/-- The events of getting a longer stream buffer. -/
def Call.growEvents (c : Call) (w : RkJpegDecoder) : List Event :=
  [.alloc (w.drm.ctx && c.streamAlloc = .ok), .mmap (w.drm.ctx && c.streamMmap)]

/-- A longer buffer holds the input: its size did not wrap. -/
theorem copied_le_of_grows {w : RkJpegDecoder} (h : StreamInv w) (hgrows : c.Grows w) :
    c.copied ≤ u32 (c.strSize + SZ_4K) := by
  have hlarge := h.large
  have hsize : w.streamSize < u32 (c.strSize + SZ_4K) := hgrows
  have h4K : SZ_4K = 4096 := by
    unfold SZ_4K
    rfl
  have hstr : c.strSize < 2 ^ 32 := by
    have hlt := u32_lt (c.inputSize + 255)
    unfold Call.strSize
    omega
  -- a sum that wraps is below the 4 KiB
  have hsum : u32 (c.strSize + SZ_4K) = c.strSize + SZ_4K := by
    refine u32_of_lt ?_
    by_contra hno
    have hwrap : u32 (c.strSize + SZ_4K) = c.strSize + SZ_4K - 2 ^ 32 := by
      unfold u32
      omega
    omega
  have hinput : c.inputSize ≤ c.strSize := by
    have hlt := c.inputSize_lt
    unfold Call.strSize at hsize hsum ⊢
    by_cases hwrap : c.inputSize + 255 < 2 ^ 32
    · rw [u32_of_lt hwrap]
      omega
    · have hzero : u32 (c.inputSize + 255) / 256 * 256 = 0 := by
        have hsmall : u32 (c.inputSize + 255) = c.inputSize + 255 - 2 ^ 32 := by
          unfold u32
          omega
        omega
      omega
  rw [hsum]
  unfold Call.copied
  split
  · omega
  · rw [sub32_of_le hinput hstr]
    omega

theorem grown_virAddr {w : RkJpegDecoder} (h : StreamInv w) :
    (c.grown w).streamMem.virAddr = none := by
  have hfreed : w.freeStream.streamMem.virAddr = none := by
    refine Drm.virAddr_free fun hno => ?_
    obtain ⟨n, hn⟩ := Option.ne_none_iff_exists'.mp hno
    exact (h.mapped n hn).2
  unfold Call.grown RkJpegDecoder.allocStream
  exact Drm.virAddr_alloc _ hfreed

theorem grown_size {w : RkJpegDecoder} :
    (c.grown w).streamMem.size = u32 (c.strSize + SZ_4K) := Drm.size_alloc _

theorem grown_ctx {w : RkJpegDecoder} : (c.grown w).drm.ctx = w.drm.ctx := by
  simp [Call.grown, RkJpegDecoder.allocStream, RkJpegDecoder.freeStream]

theorem grown_events {w : RkJpegDecoder} :
    (c.grown w).events = w.events ++ [.alloc (w.drm.ctx && c.streamAlloc = .ok)] := by
  simp [Call.grown, RkJpegDecoder.allocStream, RkJpegDecoder.freeStream, Drm.alloc_fst]

/-- **Getting a longer stream buffer** comes down to mapping it, whether it was allocated or
not. -/
theorem wp_growStream {w : RkJpegDecoder} (h : Inv w) :
    wp (growStream c)
      (fun _ w' => if c.Grows w then
          (w.drm.ctx && c.streamMmap) = true ∧ Inv w' ∧
            w'.streamMem.virAddr = some (u32 (c.strSize + SZ_4K)) ∧
            w'.streamSize = u32 (c.strSize + SZ_4K) ∧ w'.events = w.events ++ c.growEvents w
        else w' = w)
      (fun l w' => l = .jEnd ∧ c.Grows w ∧ (w.drm.ctx && c.streamMmap) = false ∧ Inv w' ∧
        w'.events = w.events ++ c.growEvents w)
      (fun _ _ => False) w := by
  unfold growStream
  rw [wp_whenever]
  by_cases hgrows : c.Grows w
  · rw [if_pos hgrows]
    simp only [wp_bind, wp_modify, wp_gets, id, wp_exitIf]
    have hnone := grown_virAddr (c := c) h.toStreamInv
    have hmmap := (c.grown w).drm.mmap_of_none c.streamMmap hnone
    rw [grown_ctx, grown_size] at hmmap
    have hevents : ((c.grown w).mmapStream c.streamMmap).events =
        w.events ++ c.growEvents w := by
      have hret : ((c.grown w).drm.mmap (c.grown w).streamMem c.streamMmap).1 =
          (w.drm.ctx && c.streamMmap) := by
        rw [hmmap]
        split
        · rename_i hall
          simp [hall]
        · rename_i hno
          simpa using hno
      rw [RkJpegDecoder.mmapStream, hret]
      dsimp only
      rw [grown_events, List.append_assoc]
      rfl
    have hpicture : ((c.grown w).mmapStream c.streamMmap).pictureMem.virAddr = none := h.picture
    have hlarge : 1024 * 500 ≤ u32 (c.strSize + SZ_4K) :=
      Nat.le_trans h.large (Nat.le_of_lt hgrows)
    have hctx : ((c.grown w).mmapStream c.streamMmap).drm.ctx = w.drm.ctx := grown_ctx
    -- the new stream is mapped where the device is open and `mmap` succeeds
    have hmem : ((c.grown w).mmapStream c.streamMmap).streamMem.virAddr =
        if w.drm.ctx = true ∧ c.streamMmap = true then some (u32 (c.strSize + SZ_4K))
        else none := by
      have hsnd : ((c.grown w).mmapStream c.streamMmap).streamMem =
          ((c.grown w).drm.mmap (c.grown w).streamMem c.streamMmap).2 := rfl
      rw [hsnd, hmmap]
      split
      · rfl
      · exact hnone
    by_cases hok : w.drm.ctx = true ∧ c.streamMmap = true
    · have hret : ¬ ((c.grown w).drm.mmap (c.grown w).streamMem c.streamMmap).1 = false := by
        simp [hmmap, if_pos hok]
      rw [if_pos hok] at hmem
      rw [if_neg hret, if_pos hgrows]
      refine ⟨by simp [hok], ⟨⟨?_, hlarge, u32_lt _⟩, hpicture⟩, hmem, trivial, hevents⟩
      intro n hn
      have hn : n ∈ ((c.grown w).mmapStream c.streamMmap).streamMem.virAddr := hn
      rw [hmem] at hn
      cases hn
      exact ⟨rfl, hctx.trans hok.1⟩
    · have hret : ((c.grown w).drm.mmap (c.grown w).streamMem c.streamMmap).1 = false := by
        simp [hmmap, if_neg hok]
      rw [if_neg hok] at hmem
      rw [if_pos hret]
      refine ⟨trivial, hgrows, by simpa using hok, ⟨⟨?_, h.large, h.small⟩, hpicture⟩, hevents⟩
      intro n hn
      rw [hmem] at hn
      cases hn
  · rw [if_neg hgrows, if_neg hgrows]

end growStream

/-! ## The whole call -/

section oneframe

variable {c : Call}

/-- **The end of a call** unmaps the picture buffer. -/
theorem wp_jEnd {w : RkJpegDecoder} (h : AtEnd c w) {es : List Event} (hes : w.events = es) :
    wp (jEnd c) (fun _ w' => Inv w' ∧ w'.events = es) (fun _ w' => Inv w' ∧ w'.events = es)
      (fun _ _ => False) w := by
  have hfreed : Inv (if c.outPhyaddr = 0 then w.freePicture else w) ∧
      (if c.outPhyaddr = 0 then w.freePicture else w).events = es := by
    split
    · have hstream : w.freePicture.stream = w.stream := by
        simp [RkJpegDecoder.stream, RkJpegDecoder.freePicture]
      exact ⟨⟨h.toStreamInv.congr hstream, Drm.virAddr_free fun hno => (h.picture hno).2⟩, hes⟩
    · rename_i hout
      refine ⟨⟨h.toStreamInv, ?_⟩, hes⟩
      exact not_not.mp fun hno => hout (h.picture hno).1
  unfold jEnd
  simp only [wp_bind, wp_whenever, wp_modify, wp_exitIf, wp_exit]
  split
  · rename_i hout
    rw [if_pos hout] at hfreed
    split
    · exact hfreed
    · exact hfreed
  · rename_i hout
    rw [if_neg hout] at hfreed
    split
    · exact hfreed
    · exact hfreed

theorem wp_openInst {w : RkJpegDecoder} :
    wp (openInst c)
      (fun _ w' => ¬ c.FailsInit w ∧ ∃ jpegRet jpegInst,
        w' = { w with jpegRet := jpegRet, jpegInst := jpegInst })
      (fun l w' => l = .ret (-1) ∧ c.FailsInit w ∧ w' = { w with jpegRet := c.init })
      (fun _ _ => False) w := by
  unfold openInst
  simp only [wp_bind, wp_whenever, wp_modify, wp_exitIf]
  split
  · rename_i hnone
    split
    · rename_i hfails
      exact ⟨trivial, ⟨hnone, hfails⟩, trivial⟩
    · rename_i hok
      exact ⟨fun h => hok h.2, _, _, rfl⟩
  · rename_i hsome
    exact ⟨fun h => hsome h.1, _, _, rfl⟩

/-- **The body of a call.** -/
theorem wp_oneframeBody {w : RkJpegDecoder} (h : Inv w) (hes : w.events = []) :
    wp (oneframeBody c) (fun _ w' => AtEnd c w' ∧ w'.events = c.events w)
      (fun l w' => AfterBody c l w' ∧ w'.events = c.events w)
      (fun _ w' => Inv w' ∧ w'.events = c.events w) w := by
  unfold oneframeBody Call.events
  rw [wp_bind, wp_exitIf]
  by_cases hshort : c.inputSize < 16
  · rw [if_pos hshort, if_pos (.inl hshort)]
    exact ⟨h.atEnd, hes⟩
  rw [if_neg hshort, wp_bind]
  refine wp_mono wp_openInst ?_ ?_ (fun _ _ => False.elim)
  · rintro _ w1 ⟨hinit, jpegRet, jpegInst, hw1⟩
    have hinv : Inv w1 := hw1 ▸ ⟨h.toStreamInv.congr rfl, h.picture⟩
    have hes1 : w1.events = [] := hw1 ▸ hes
    -- opening the instance changes nothing that the stream depends on
    have hgrows : c.Grows w1 ↔ c.Grows w := by rw [hw1]; exact Iff.rfl
    have hgrowEvents : c.growEvents w1 = c.growEvents w := by rw [hw1]; rfl
    have hctx : w1.drm.ctx = w.drm.ctx := by rw [hw1]
    rw [if_neg fun hno => hno.elim hshort hinit, wp_bind]
    refine wp_mono (wp_growStream hinv) ?_ ?_ (fun _ _ => False.elim)
    · intro _ w2 hw2
      by_cases hgrow : c.Grows w
      · rw [if_pos (hgrows.mpr hgrow), hctx] at hw2
        obtain ⟨hok, hinv2, hmem, hsize, hes2⟩ := hw2
        refine wp_decodeInput hinv2 ?_
        rw [if_pos hgrow, hok, hmem, hsize, hes2, hes1, hgrowEvents, Call.growEvents, hok]
        rfl
      · rw [if_neg fun hno => hgrow (hgrows.mp hno)] at hw2
        subst hw2
        refine wp_decodeInput hinv ?_
        rw [if_neg hgrow, hes1, hw1]
        rfl
    · rintro l w2 ⟨rfl, hgrow, hno, hinv2, hes2⟩
      rw [hctx] at hno
      refine ⟨hinv2.atEnd, ?_⟩
      rw [if_pos (hgrows.mp hgrow), hno, hes2, hes1, hgrowEvents, Call.growEvents, hno]
      rfl
  · rintro l w1 ⟨rfl, hfails, rfl⟩
    rw [if_pos (.inr hfails)]
    exact ⟨⟨h.toStreamInv.congr rfl, h.picture⟩, hes⟩

/-- What a call of `pv_rkJpegdecoder_oneframe` leaves behind, also where it crashes. -/
def oneframe (w : RkJpegDecoder) (c : Call) : RkJpegDecoder := (pvRkJpegdecoderOneframe c w).state

/-- **A call** keeps the invariant, and its events are those read off the state before it. -/
theorem oneframe_spec {w : RkJpegDecoder} (h : Inv w) :
    Inv (oneframe w c) ∧ (oneframe w c).events = c.events w := by
  have hcall : wp (pvRkJpegdecoderOneframe c)
      (fun _ w' => Inv w' ∧ w'.events = c.events w) (fun _ w' => Inv w' ∧ w'.events = c.events w)
      (fun _ w' => Inv w' ∧ w'.events = c.events w) w := by
    unfold pvRkJpegdecoderOneframe
    rw [wp_bind, wp_modify, wp_bind, wp_call]
    have hinv : Inv { w with events := [], jpegmem := none } :=
      ⟨h.toStreamInv.congr rfl, h.picture⟩
    refine wp_mono (wp_oneframeBody (c := c) hinv rfl) ?_ ?_ (fun _ _ h => h)
    · rintro _ w' ⟨hend, hes⟩
      exact wp_mono (wp_jEnd hend hes) (fun _ _ h => h) (fun _ _ h => h) (fun _ _ => False.elim)
    · rintro l w' ⟨hafter, hes⟩
      cases l with
      | ret code => exact ⟨hafter, hes⟩
      | jEnd =>
        exact wp_mono (wp_jEnd hafter hes) (fun _ _ h => h) (fun _ _ h => h)
          (fun _ _ => False.elim)
  unfold oneframe
  rw [wp_def] at hcall
  cases hout : pvRkJpegdecoderOneframe c w with
  | next a w' => exact hcall.1 a w' hout
  | exit r w' => exact hcall.2.1 r w' hout
  | fault e w' => exact hcall.2.2 e w' hout

/-- **Setting up** gives the invariant. -/
theorem inv_init (i : Init) : Inv (pvRkJpegdecoderInit i) := by
  obtain ⟨opens, streamAlloc, streamMmap, jpegRet⟩ := i
  refine ⟨⟨?_, ?_, ?_⟩, rfl⟩
  · cases opens <;> cases streamAlloc <;> cases streamMmap <;>
      simp [pvRkJpegdecoderInit, RkJpegDecoder.allocStream, RkJpegDecoder.mmapStream, Drm.alloc,
        Drm.mmap]
  · exact Nat.le_refl _
  · show 1024 * 500 < 2 ^ 32
    decide

end oneframe

end Wrapper

end Rk3399
