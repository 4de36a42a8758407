import Rk3399.Wrapper.Helpers.Oneframe
/-!
# The ledger

What is true of the buffers in a run that never frees the wrong one and never
loses one: every buffer that was allocated and not released is the stream
buffer or the picture buffer, and only one of them. Each operation keeps
this ledger under a condition on the buffer it is applied to.
-/

namespace Rk3399

namespace Wrapper

open Prog

/-- The descriptor is that of a buffer that was allocated and not released. -/
def Drm.Live (drm : Drm) (fd : Descriptor) : Prop := ∃ n ∈ drm.live, fd = .buffer n

instance (drm : Drm) (fd : Descriptor) : Decidable (drm.Live fd) :=
  inferInstanceAs (Decidable (∃ n ∈ drm.live, fd = .buffer n))

/-- **The ledger** of two records, by their descriptors: nothing was freed but buffers, and
every buffer is that of one of the two. -/
structure Ledger (drm : Drm) (fd fd' : Descriptor) : Prop where
  misfreed : drm.misfreed = []
  nodup : drm.live.Nodup
  owner : ∀ n ∈ drm.live, fd = .buffer n ∨ fd' = .buffer n
  distinct : ∀ n ∈ drm.live, ¬ (fd = .buffer n ∧ fd' = .buffer n)
  lt_count : ∀ n, fd = .buffer n ∨ fd' = .buffer n → n < drm.count

/-- The ledger of the stream buffer and the picture buffer. -/
def RkJpegDecoder.Ledger (w : RkJpegDecoder) : Prop :=
  Wrapper.Ledger w.drm w.streamMem.phyAddr w.pictureMem.phyAddr

/-! ## The operations of the device -/

namespace Drm

variable {drm : Drm} {info : MppBufferInfo}

/-- Freeing a buffer releases it, and no other. -/
theorem free_live (hctx : drm.ctx = true) {n : Nat} (hn : n ∈ drm.live)
    (hphy : info.phyAddr = .buffer n) :
    (drm.free info).2.live = drm.live.erase n ∧
      (drm.free info).2.misfreed = drm.misfreed ∧ (drm.free info).2.count = drm.count := by
  have hclose : drm.close (.buffer n) = { drm with live := drm.live.erase n } := by
    unfold close
    dsimp only
    rw [if_pos hn]
  unfold free
  rw [if_neg (by simp [hctx]), hphy, hclose]
  exact ⟨rfl, rfl, rfl⟩

theorem free_closed (hctx : drm.ctx = false) : drm.free info = (info, drm) := by
  unfold free
  rw [if_pos hctx]

@[simp] theorem phyAddr_free : (drm.free info).1.phyAddr = info.phyAddr := by
  unfold free
  split
  · rfl
  · rfl

/-- What `alloc` gives is a new buffer. -/
theorem alloc_ok (drm : Drm) (info : MppBufferInfo) (hctx : drm.ctx = true) :
    (drm.alloc info .ok).2.1.phyAddr = .buffer drm.count ∧
      (drm.alloc info .ok).2.2.live = drm.count :: drm.live ∧
      (drm.alloc info .ok).2.2.misfreed = drm.misfreed ∧
      (drm.alloc info .ok).2.2.count = drm.count + 1 := by
  unfold alloc
  rw [if_neg (by simp [hctx])]
  exact ⟨rfl, rfl, rfl, rfl⟩

/-- An `alloc` that fails changes no descriptor. -/
theorem alloc_fails (drm : Drm) (info : MppBufferInfo) {outcome : AllocRet}
    (h : drm.ctx = false ∨ outcome ≠ .ok) :
    (drm.alloc info outcome).2.1.phyAddr = info.phyAddr ∧
      (drm.alloc info outcome).2.2.live = drm.live ∧
      (drm.alloc info outcome).2.2.misfreed = drm.misfreed ∧
      drm.count ≤ (drm.alloc info outcome).2.2.count := by
  unfold alloc
  split
  · exact ⟨rfl, rfl, rfl, Nat.le_refl _⟩
  · rename_i hctx
    cases outcome with
    | ok => exact absurd rfl (h.resolve_left hctx)
    | noBuffer => exact ⟨rfl, rfl, rfl, Nat.le_refl _⟩
    | noDescriptor => exact ⟨rfl, rfl, rfl, Nat.le_succ _⟩

@[simp] theorem phyAddr_mmap (outcome : Bool) :
    (drm.mmap info outcome).2.phyAddr = info.phyAddr := by
  unfold mmap
  split
  · rfl
  · split
    · rfl
    · split
      · rfl
      · rfl

end Drm

/-! ## The operations on the ledger -/

namespace Ledger

variable {drm : Drm} {fd fd' : Descriptor} {info : MppBufferInfo}

/-- The two records are alike. -/
theorem symm (h : Ledger drm fd fd') : Ledger drm fd' fd where
  misfreed := h.misfreed
  nodup := h.nodup
  owner := fun n hn => (h.owner n hn).symm
  distinct := fun n hn hno => h.distinct n hn hno.symm
  lt_count := fun n hn => h.lt_count n hn.symm

/-- A ledger sees the device only through its buffers. -/
theorem congr (h : Ledger drm fd fd') {drm' : Drm} (hlive : drm'.live = drm.live)
    (hmisfreed : drm'.misfreed = drm.misfreed) (hcount : drm.count ≤ drm'.count) :
    Ledger drm' fd fd' where
  misfreed := hmisfreed.trans h.misfreed
  nodup := hlive ▸ h.nodup
  owner := hlive ▸ h.owner
  distinct := hlive ▸ h.distinct
  lt_count := fun n hn => Nat.lt_of_lt_of_le (h.lt_count n hn) hcount

/-- **Freeing** a buffer that is allocated. -/
theorem free (h : Ledger drm info.phyAddr fd') (hctx : drm.ctx = true)
    (hlive : drm.Live info.phyAddr) :
    Ledger (drm.free info).2 info.phyAddr fd' ∧ ¬ (drm.free info).2.Live info.phyAddr ∧
      ((drm.free info).2.Live fd' ↔ drm.Live fd') := by
  obtain ⟨n, hn, hphy⟩ := hlive
  obtain ⟨hfreed, hmisfreed, hcount⟩ := drm.free_live hctx hn hphy
  have hmem : ∀ m, m ∈ (drm.free info).2.live ↔ m ≠ n ∧ m ∈ drm.live := fun m => by
    rw [hfreed]
    exact h.nodup.mem_erase_iff
  refine ⟨⟨hmisfreed.trans h.misfreed, ?_, ?_, ?_, ?_⟩, ?_, ?_⟩
  · rw [hfreed]
    exact h.nodup.erase n
  · exact fun m hm => h.owner m ((hmem m).mp hm).2
  · exact fun m hm => h.distinct m ((hmem m).mp hm).2
  · exact fun m hm => hcount ▸ h.lt_count m hm
  · rintro ⟨m, hm, hphy'⟩
    rw [hphy] at hphy'
    cases hphy'
    exact ((hmem n).mp hm).1 rfl
  · constructor
    · rintro ⟨m, hm, rfl⟩
      exact ⟨m, ((hmem m).mp hm).2, rfl⟩
    · rintro ⟨m, hm, rfl⟩
      refine ⟨m, (hmem m).mpr ⟨?_, hm⟩, rfl⟩
      rintro rfl
      exact h.distinct m hm ⟨hphy, rfl⟩

/-- **Allocating** where the record does not stand for a buffer yet. -/
theorem alloc_ok (h : Ledger drm info.phyAddr fd') (hctx : drm.ctx = true)
    (hfree : ¬ drm.Live info.phyAddr) :
    Ledger (drm.alloc info .ok).2.2 (drm.alloc info .ok).2.1.phyAddr fd' ∧
      (drm.alloc info .ok).2.2.Live (drm.alloc info .ok).2.1.phyAddr ∧
      ((drm.alloc info .ok).2.2.Live fd' ↔ drm.Live fd') := by
  obtain ⟨hphy, hlive, hmisfreed, hcount⟩ := drm.alloc_ok info hctx
  have hmem : ∀ m, m ∈ (drm.alloc info .ok).2.2.live ↔ m = drm.count ∨ m ∈ drm.live := fun m => by
    rw [hlive]
    exact List.mem_cons
  -- a buffer that is allocated is that of the other record, and is not the new one
  have hother : ∀ m ∈ drm.live, fd' = .buffer m := fun m hm =>
    (h.owner m hm).resolve_left fun hno => hfree ⟨m, hm, hno⟩
  have hnew : fd' ≠ .buffer drm.count := fun hno =>
    Nat.lt_irrefl _ (h.lt_count drm.count (.inr hno))
  rw [hphy]
  refine ⟨⟨hmisfreed.trans h.misfreed, ?_, ?_, ?_, ?_⟩, ?_, ?_⟩
  · rw [hlive]
    refine List.nodup_cons.mpr ⟨fun hno => ?_, h.nodup⟩
    exact hnew (hother drm.count hno)
  · intro m hm
    rcases (hmem m).mp hm with rfl | hm
    · exact .inl rfl
    · exact .inr (hother m hm)
  · rintro m hm ⟨hfd, hfd'⟩
    cases hfd
    exact hnew hfd'
  · rintro m (hfd | hfd')
    · cases hfd
      omega
    · have hlt := h.lt_count m (.inr hfd')
      omega
  · exact ⟨drm.count, (hmem drm.count).mpr (.inl rfl), rfl⟩
  · constructor
    · rintro ⟨m, hm, rfl⟩
      rcases (hmem m).mp hm with rfl | hm
      · exact absurd rfl hnew
      · exact ⟨m, hm, rfl⟩
    · rintro ⟨m, hm, rfl⟩
      exact ⟨m, (hmem m).mpr (.inr hm), rfl⟩

/-- An `alloc` that fails keeps the ledger as it is. -/
theorem alloc_fails (h : Ledger drm info.phyAddr fd') {outcome : AllocRet}
    (hfails : drm.ctx = false ∨ outcome ≠ .ok) :
    Ledger (drm.alloc info outcome).2.2 (drm.alloc info outcome).2.1.phyAddr fd' := by
  obtain ⟨hphy, hlive, hmisfreed, hcount⟩ := drm.alloc_fails info hfails
  rw [hphy]
  exact h.congr hlive hmisfreed hcount

/-- A record that does not stand for a buffer can be given another descriptor. -/
theorem caller (h : Ledger drm fd fd') (hfree : ¬ drm.Live fd) (fd'' : Nat) :
    Ledger drm (.caller fd'') fd' where
  misfreed := h.misfreed
  nodup := h.nodup
  owner := fun m hm => .inr ((h.owner m hm).resolve_left fun hno => hfree ⟨m, hm, hno⟩)
  distinct := fun m _ hno => by cases hno.1
  lt_count := fun m hm => h.lt_count m (.inr (hm.resolve_left nofun))

/-- Where neither record stands for a buffer, there is none. -/
theorem live_eq_nil (h : Ledger drm fd fd') (hfree : ¬ drm.Live fd) (hfree' : ¬ drm.Live fd') :
    drm.live = [] := by
  refine List.eq_nil_iff_forall_not_mem.mpr fun n hn => ?_
  rcases h.owner n hn with hfd | hfd'
  · exact hfree ⟨n, hn, hfd⟩
  · exact hfree' ⟨n, hn, hfd'⟩

end Ledger

/-- **Setting up** gives a ledger. -/
theorem ledger_init (i : Init) : (pvRkJpegdecoderInit i).Ledger := by
  have hnone : ({ ctx := i.opens } : Drm).live = [] := rfl
  have hledger : Ledger { ctx := i.opens } .zero .zero :=
    ⟨rfl, List.nodup_nil, fun n hn => absurd hn List.not_mem_nil,
      fun n hn => absurd hn List.not_mem_nil, fun n hn => hn.elim nofun nofun⟩
  have hfree : ¬ Drm.Live { ctx := i.opens } .zero := fun ⟨n, hn, _⟩ => absurd hn List.not_mem_nil
  obtain ⟨info, hinfo⟩ : ∃ info : MppBufferInfo, info = { size := 1024 * 500 } := ⟨_, rfl⟩
  have hphy : info.phyAddr = .zero := by rw [hinfo]
  rw [← hphy] at hfree
  have hledger : Ledger { ctx := i.opens } info.phyAddr .zero := hphy ▸ hledger
  unfold RkJpegDecoder.Ledger pvRkJpegdecoderInit RkJpegDecoder.mmapStream
    RkJpegDecoder.allocStream
  dsimp only
  rw [Drm.phyAddr_mmap, ← hinfo]
  by_cases hok : i.opens = true ∧ i.streamAlloc = .ok
  · rw [hok.2]
    exact (hledger.alloc_ok hok.1 hfree).1
  · refine hledger.alloc_fails ?_
    rcases not_and_or.mp hok with hno | hno
    · exact .inl (by simpa using hno)
    · exact .inr hno

end Wrapper

end Rk3399
