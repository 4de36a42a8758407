import Rk3399.Wrapper.Helpers.Oneframe
import Rk3399.Common.Runs
/-!
# Reallocating the stream buffer

Whether the wrapper stays consistent when a longer stream buffer cannot be had.
It frees the old one first, keeps `stream_size` when the new one fails, and
lets the code of `mmap` stand for both calls: `reallocationsSafe_iff` says
which runs come through nevertheless.
-/

namespace Rk3399

namespace Wrapper

open Runs

/-- **A call is consistent**: whatever it copies goes to a buffer that maps at least
`stream_size` bytes and all of the copy, be it the one it found or the one it has
allocated; and it does not decode where an allocation or a mapping has failed. -/
structure Consistent (w : RkJpegDecoder) : Prop where
  copied : ∀ virAddr streamSize n, .copy virAddr streamSize n ∈ w.events →
    ∃ m ∈ virAddr, streamSize ≤ m ∧ n ≤ m
  failed : .alloc false ∈ w.events ∨ .mmap false ∈ w.events → .decode ∉ w.events

/-- The call does without a longer buffer only where the stream buffer is mapped and holds its
input, and where a longer one cannot be allocated, it cannot be mapped either (or there
is nothing to decode). A call that does not come to the buffer is fine. -/
def Sound (w : RkJpegDecoder) (c : Call) : Prop :=
  c.inputSize < 16 ∨ c.FailsInit w ∨
    if c.Grows w then
      w.drm.ctx = true → c.streamAlloc ≠ .ok → c.streamMmap = true →
        ¬ (c.imageInfo = .ok ∧ c.GetsPicture)
    else c.Fits w.streamMem.virAddr

section

variable {c : Call}

/-- The copy into a buffer that maps `n` bytes, `stream_size` as it is. -/
theorem consistent_inputEvents {w : RkJpegDecoder} {virAddr : Option Nat} {streamSize : Nat}
    (hmapped : ∀ n ∈ virAddr, n = streamSize) (hes : w.events = c.inputEvents virAddr streamSize) :
    Consistent w ↔ c.Fits virAddr := by
  constructor
  · intro h
    obtain ⟨m, hm, -, hle⟩ := h.copied virAddr streamSize c.copied (by
      rw [hes]
      exact List.mem_cons_self)
    exact ⟨m, hm, hle⟩
  · rintro ⟨m, hm, hle⟩
    obtain rfl := hmapped m hm
    refine ⟨fun virAddr' streamSize' n hmem => ?_, fun hfailed => ?_⟩
    · rw [hes, Call.inputEvents] at hmem
      rcases List.mem_cons.mp hmem with heq | hmem
      · cases heq
        exact ⟨m, hm, Nat.le_refl m, hle⟩
      · split at hmem
        · cases List.mem_singleton.mp hmem
        · cases hmem
    · rw [hes, Call.inputEvents] at hfailed
      split at hfailed
      · simp at hfailed
      · simp at hfailed

/-- **One call.** -/
theorem consistent_oneframe_iff {w : RkJpegDecoder} (h : Inv w) :
    Consistent (oneframe w c) ↔ Sound w c := by
  have hes := (oneframe_spec (c := c) h).2
  unfold Call.events at hes
  by_cases hearly : c.inputSize < 16 ∨ c.FailsInit w
  · rw [if_pos hearly] at hes
    refine ⟨fun _ => or_assoc.mp (.inl hearly), fun _ => ⟨?_, ?_⟩⟩
    · rw [hes]
      exact fun _ _ _ hmem => absurd hmem List.not_mem_nil
    · rw [hes]
      exact fun _ => List.not_mem_nil
  rw [if_neg hearly] at hes
  have hsound : Sound w c ↔ if c.Grows w then
      w.drm.ctx = true → c.streamAlloc ≠ .ok → c.streamMmap = true →
        ¬ (c.imageInfo = .ok ∧ c.GetsPicture)
      else c.Fits w.streamMem.virAddr := by
    unfold Sound
    rw [← or_assoc]
    exact or_iff_right hearly
  rw [hsound]
  by_cases hgrows : c.Grows w
  · rw [if_pos hgrows] at hes
    rw [if_pos hgrows]
    -- the new stream is large enough for what is copied
    have hfits : c.Fits (some (u32 (c.strSize + SZ_4K))) :=
      ⟨_, rfl, copied_le_of_grows h.toStreamInv hgrows⟩
    by_cases hmmap : w.drm.ctx = true ∧ c.streamMmap = true
    · have hok : (w.drm.ctx && c.streamMmap) = true := by simp [hmmap]
      dsimp only at hes
      rw [hok, if_pos rfl, Call.inputEvents] at hes
      have hcopied : ∀ virAddr streamSize n, .copy virAddr streamSize n ∈ (oneframe w c).events →
          ∃ m ∈ virAddr, streamSize ≤ m ∧ n ≤ m := by
        intro virAddr streamSize n hmem
        have hcopy : Event.copy virAddr streamSize n =
            .copy (some (u32 (c.strSize + SZ_4K))) (u32 (c.strSize + SZ_4K)) c.copied := by
          rw [hes] at hmem
          split at hmem
          · simpa using hmem
          · simpa using hmem
        cases hcopy
        exact ⟨_, rfl, Nat.le_refl _, copied_le_of_grows h.toStreamInv hgrows⟩
      have halloc : .alloc false ∈ (oneframe w c).events ∨ .mmap false ∈ (oneframe w c).events ↔
          c.streamAlloc ≠ .ok := by
        rw [hes, hmmap.1]
        split
        · simp
        · simp
      have hdecode : .decode ∈ (oneframe w c).events ↔ c.imageInfo = .ok ∧ c.GetsPicture := by
        rw [hes]
        split
        · rename_i hall
          exact iff_of_true (by simp) hall.2
        · rename_i hno
          exact iff_of_false (by simp) fun hall => hno ⟨hfits, hall⟩
      constructor
      · intro hcons _ hfails _ hall
        exact hcons.failed (halloc.mpr hfails) (hdecode.mpr hall)
      · intro hsound
        refine ⟨hcopied, fun hfailed hmem => ?_⟩
        exact hsound hmmap.1 (halloc.mp hfailed) hmmap.2 (hdecode.mp hmem)
    · have hno : (w.drm.ctx && c.streamMmap) = false := by simpa using hmmap
      rw [hno] at hes
      refine ⟨fun _ hctx _ hmap => absurd ⟨hctx, hmap⟩ hmmap, fun _ => ⟨?_, ?_⟩⟩
      · rw [hes]
        intro virAddr streamSize n hmem
        simp at hmem
      · rw [hes]
        intro _ hmem
        simp at hmem
  · rw [if_neg hgrows] at hes
    rw [if_neg hgrows]
    exact consistent_inputEvents (fun n hn => (h.mapped n hn).1) hes

end

/-- **A run comes through failed reallocations, exactly where every call is sound in the state
it is met in.** -/
theorem reallocationsSafe_iff (i : Init) (cs : List Call) :
    Always oneframe Consistent (pvRkJpegdecoderInit i) cs ↔
      Steps oneframe Sound (pvRkJpegdecoderInit i) cs := by
  have hstart : Inv (pvRkJpegdecoderInit i) ∧ Consistent (pvRkJpegdecoderInit i) := by
    refine ⟨inv_init i, fun virAddr streamSize n hmem => ?_, fun _ hmem => ?_⟩
    · cases hmem with
      | tail _ hmem => cases hmem with
        | tail _ hmem => cases hmem
    · cases hmem with
      | tail _ hmem => cases hmem with
        | tail _ hmem => cases hmem
  refine always_iff_steps (I := fun w => Inv w ∧ Consistent w) (D := fun _ => True)
    ?_ (fun w h => h.2) ?_ cs (fun _ _ => trivial) _ hstart
  · exact fun w c _ h hsound => ⟨(oneframe_spec h.1).1, (consistent_oneframe_iff h.1).mpr hsound⟩
  · exact fun w c _ h hno hcons => hno ((consistent_oneframe_iff h.1).mp hcons)

/-- A call with a JPEG input of `inputSize` bytes and an output buffer, in which everything
works but for the mapping of a longer stream buffer. -/
def unmappedCall (inputSize : Nat) (h : inputSize < 2 ^ 32) : Call where
  inputSize := inputSize
  avi1 := false
  outPhyaddr := 9
  init := .ok
  streamAlloc := .ok
  streamMmap := false
  imageInfo := .ok
  picSize := 0
  pictureAlloc _ := .ok
  pictureMmap _ := true
  decoding := ⟨.frameReady, true, frameReady_ends⟩
  inputSize_lt := h

/-- **A longer buffer that cannot be mapped**: the next call copies to `NULL`. -/
theorem reallocation_lost : ¬ ∀ i cs, Always oneframe Consistent (pvRkJpegdecoderInit i) cs := by
  intro hall
  obtain ⟨-, -, hcons⟩ := hall ⟨true, .ok, true, .ok⟩
    [unmappedCall 600000 (by decide), unmappedCall 1000 (by decide)]
  obtain ⟨m, hm, -⟩ := hcons.copied none 512000 1024 (by decide +kernel)
  cases hm

end Wrapper

end Rk3399
