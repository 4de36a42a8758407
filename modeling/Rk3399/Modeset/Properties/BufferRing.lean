import Rk3399.Modeset.Model.Animation
/-!
# The slots as a ring of buffers

Each buffer is in one slot or destroyed, as long as every framebuffer can be
added and the buffer in the last slot can be freed; and the paths are right as
long as they do not get shorter. `stop_boot_thread` starts with the slot that
is empty between two frames.
-/

namespace Rk3399

namespace Modeset

open Prog

/-! ## What is asked for -/

/-- A slot holds a buffer. -/
def Anim.occ (s : Anim) (i b : Nat) : Nat := if (s.mBufSlotInfo i).bo = some b then 1 else 0

/-- How many slots hold a buffer. -/
def Anim.holders (s : Anim) (b : Nat) : Nat := s.occ 0 b + s.occ 1 b + s.occ 2 b + s.occ 3 b

/-- **The slots keep the buffers**: each is in one slot or destroyed once, the one that is
displayed is not, and the path of a slot is that of its buffer. -/
structure KeepsBuffers (s : Anim) : Prop where
  owned : ∀ b < s.created, (s.holders b = 1 ∧ b ∉ s.destroyed) ∨
    (s.holders b = 0 ∧ s.destroyed.count b = 1)
  shown : ∀ b, s.displayed = some b → b ∉ s.destroyed
  named : ∀ i < MAX_OUTPUT_RSV_CNT, ∀ b, (s.mBufSlotInfo i).bo = some b →
    ∃ rest, block (s.mBufSlotInfo i).mPath 0 pathSize = (s.bos b).path ++ 0 :: rest

/-- A frame has a meaning, and the slots keep the buffers after it. -/
def KeptAfter (drmFd : Int) (dir : AnimPath) (s : Anim) (j : Nat) (f : Frame) : Prop :=
  (∀ e t, bootFrame drmFd dir j f s ≠ .fault e t) ∧
    KeepsBuffers (bootFrame drmFd dir j f s).state

section

variable (drmFd : Int) (dir : AnimPath)

/-- A condition on each frame of a run, and the state before it. -/
def AlongFrames (P : Anim → Nat → Frame → Prop) : Nat → List Frame → Anim → Prop
  | _, [], _ => True
  | j, f :: fs, s =>
    P s j f ∧ ∀ t, bootFrame drmFd dir j f s = .next () t → AlongFrames P (j + 1) fs t

/-- A condition on each frame of all runs. -/
def AlongRuns (P : Anim → Nat → Frame → Prop) : List (List Frame) → Anim → Prop
  | [], _ => True
  | frames :: runs, s =>
    AlongFrames drmFd dir P 0 frames s ∧
      ∀ t, bootAnimation drmFd dir frames s = .next () t → AlongRuns P runs t

/-- **The ring neither leaks nor reuses buffers**: the slots keep the buffers after each
frame, and in the end every one is destroyed once. -/
structure RingKept (runs : List (List Frame)) : Prop where
  frames : AlongRuns drmFd dir (KeptAfter drmFd dir) runs {}
  stop : ∃ s, bootAnimations drmFd dir runs {} = .next () s ∧
    ∃ t, stopBootThread s = .next () t ∧ ∀ b < t.created, t.destroyed.count b = 1

end

/-- The path of a frame. -/
def framePath (dir : AnimPath) (j : Nat) (f : Frame) : List UInt8 :=
  picName dir j (if f.jpg = true then ".jpg" else ".jpeg")

/-- **A frame that does no harm**: its paths fit, there is a buffer for it, and where it is
mapped a framebuffer is added, the buffer in the last slot can be freed, and the path is no
shorter than the one before. -/
structure FrameOk (dir : AnimPath) (s : Anim) (j : Nat) (f : Frame) : Prop where
  jpg : (picName dir j ".jpg").length < pathSize
  jpeg : f.jpg = false → (picName dir j ".jpeg").length < pathSize
  buffer : f.Shown → f.create ≠ .noBuffer
  added : f.Shown → ∀ ptr, f.create = .mapped ptr → f.addFails = false
  freeable : f.Shown → ∀ ptr, f.create = .mapped ptr →
    ∀ b, (s.mBufSlotInfo 3).bo = some b → s.Freeable b
  longer : f.Shown → ∀ ptr, f.create = .mapped ptr → ∀ n k,
    strlen (block (s.mBufSlotInfo 1).mPath 0 pathSize) = some (n, k) →
      n ≤ (framePath dir j f).length

/-! ## Paths -/

/-- An array with a path, and zeroes behind it. -/
def padded (p : List UInt8) : Nat → UInt8 := poke 0 p fun _ => 0

section

variable {p q : List UInt8} {s t : Anim} {dir : AnimPath} {drmFd : Int} {j b i : Nat} {f : Frame}

theorem padded_nil : padded [] = fun _ => 0 := poke_nil

/-- Behind the path there are zeroes. -/
theorem padded_behind {k : Nat} (h : p.length ≤ k) : padded p k = 0 :=
  poke_outside (.inr (by omega))

/-- The array is the path and a NUL. -/
theorem block_padded (h : p.length < pathSize) :
    ∃ rest, block (padded p) 0 pathSize = p ++ 0 :: rest := by
  obtain ⟨m, hm⟩ : ∃ m, pathSize = p.length + (m + 1) := ⟨pathSize - p.length - 1, by omega⟩
  refine ⟨block (padded p) (0 + p.length + 1) m, ?_⟩
  rw [hm, block_add, block_succ, padded_behind (by omega)]
  unfold padded
  rw [block_poke rfl]

/-- **The string in the array is the path.** -/
theorem cstring_padded (hlen : p.length < pathSize) (hzero : 0 ∉ p) :
    cstring (padded p) s = .next p s := by
  obtain ⟨rest, hblock⟩ := block_padded hlen
  unfold cstring
  rw [hblock, strlen_append rest hzero]
  show Outcome.next (block (poke 0 p fun _ => 0) 0 p.length) s = _
  rw [block_poke rfl]

/-- **A path over one that is no longer** is that path. -/
theorem poke_padded (h : q.length ≤ p.length) : poke 0 p (padded q) = padded p := by
  funext k
  by_cases hk : k < p.length
  · have hin : ∀ mem : Nat → UInt8, poke 0 p mem k = p[k] := by
      intro mem
      have hinside : poke 0 p mem (0 + k) = p[k] := poke_inside hk
      rwa [Nat.zero_add] at hinside
    unfold padded
    rw [hin, hin]
  · rw [poke_outside (.inr (by omega)), padded_behind (by omega), padded_behind (by omega)]

/-- The NUL behind a path changes nothing. -/
theorem poke_nul_padded (h : q.length ≤ p.length) : poke 0 (p ++ [0]) (padded q) = padded p := by
  rw [poke_append, poke_padded h]
  funext k
  by_cases hk : k = 0 + p.length
  · rw [hk, poke_cons_self, padded_behind (by omega)]
  · rw [poke_outside (by show k < 0 + p.length ∨ 0 + p.length + 1 ≤ k; omega)]

theorem zero_not_mem_picName (dir : AnimPath) (j : Nat) {ext : String} (hext : 0 ∉ chars ext) :
    0 ∉ picName dir j ext := by
  have hdigits : 0 ∉ decimal j := by
    intro h
    obtain ⟨c, hc, hzero⟩ := List.mem_map.1 h
    have hdigit := Nat.isDigit_of_mem_toDigits (by decide) (by decide) hc
    have hrange : 48 ≤ c.toNat ∧ c.toNat ≤ 57 := by
      simpa [Char.isDigit, UInt32.le_iff_toNat_le] using hdigit
    have hval : c.toNat % 2 ^ 8 = 0 := by
      rw [← UInt8.toNat_ofNat', hzero]
      rfl
    omega
  have hslash : (0 : UInt8) ∉ chars "/" := by decide
  unfold picName
  simp only [List.mem_append, not_or]
  exact ⟨⟨⟨fun h => dir.nonzero 0 h rfl, hslash⟩, hdigits⟩, hext⟩

theorem zero_not_mem_framePath (dir : AnimPath) (j : Nat) (f : Frame) : 0 ∉ framePath dir j f := by
  unfold framePath
  split <;> exact zero_not_mem_picName dir j (by decide)

theorem FrameOk.length_lt (h : FrameOk dir s j f) : (framePath dir j f).length < pathSize := by
  unfold framePath
  split
  · exact h.jpg
  · exact h.jpeg (by simpa using ‹¬ f.jpg = true›)

/-- **The path of the frame is in `picPath`.** -/
theorem nameFrame_eq (h : FrameOk dir s j f) :
    nameFrame dir j f s = .next () { s with picPath := padded (framePath dir j f) } := by
  have hjpg : sprintfPicPath (picName dir j ".jpg") { s with picPath := fun _ => 0 } =
      .next () { s with picPath := padded (picName dir j ".jpg") } := by
    unfold sprintfPicPath
    rw [bind_next (assert_of _ (by exact h.jpg))]
    show Outcome.next () { s with picPath := poke 0 _ _ } = _
    rw [← padded_nil, poke_nul_padded (Nat.zero_le _)]
  unfold nameFrame
  rw [bind_next (show modify _ s = .next () { s with picPath := fun _ => 0 } from rfl),
    bind_next hjpg]
  unfold whenever framePath
  by_cases hread : f.jpg = true
  · rw [if_neg (by show ¬ f.jpg = false; rw [hread]; decide), if_pos hread]
  · have hfalse : f.jpg = false := by simpa using hread
    rw [if_pos hfalse, if_neg hread]
    unfold sprintfPicPath
    rw [bind_next (assert_of _ (by exact h.jpeg hfalse))]
    show Outcome.next () { s with picPath := poke 0 _ _ } = _
    have hext : (chars ".jpg").length ≤ (chars ".jpeg").length := by decide
    rw [poke_nul_padded (by simp only [picName, List.length_append]; omega)]

/-! ## The ring -/

@[simp] theorem setSlot_self (slot : SfJpegOutputBuf) :
    (s.setSlot i slot).mBufSlotInfo i = slot := Function.update_self _ _ _

theorem setSlot_of_ne {k : Nat} (h : k ≠ i) (slot : SfJpegOutputBuf) :
    (s.setSlot i slot).mBufSlotInfo k = s.mBufSlotInfo k := Function.update_of_ne h _ _

/-- A slot has a path, which is the one its buffer was decoded from. -/
structure Holds (s : Anim) (i : Nat) (p : List UInt8) : Prop where
  path_eq : (s.mBufSlotInfo i).mPath = padded p
  length_lt : p.length < pathSize
  nonzero : 0 ∉ p
  empty : (s.mBufSlotInfo i).bo = none → p = []
  decoded : ∀ b, (s.mBufSlotInfo i).bo = some b → (s.bos b).path = p

/-- The invariant between two frames: the first slot is empty, the others hold their paths,
which do not get longer from slot to slot, and what was created is held or destroyed. -/
structure Ring (s : Anim) (p₁ p₂ p₃ : List UInt8) : Prop where
  first : s.mBufSlotInfo 0 = {}
  second : Holds s 1 p₁
  third : Holds s 2 p₂
  fourth : Holds s 3 p₃
  shorter : p₂.length ≤ p₁.length
  owned : ∀ b < s.created, (s.holders b = 1 ∧ b ∉ s.destroyed) ∨
    (s.holders b = 0 ∧ s.destroyed.count b = 1)
  fresh : ∀ b, s.created ≤ b → s.holders b = 0 ∧ b ∉ s.destroyed
  shown : ∀ b, s.displayed = some b → (s.mBufSlotInfo 1).bo = some b

variable {p₁ p₂ p₃ : List UInt8}

theorem occ_eq_one (h : (s.mBufSlotInfo i).bo = some b) : s.occ i b = 1 := if_pos h

theorem occ_eq_zero (h : (s.mBufSlotInfo i).bo = none) : s.occ i b = 0 := by
  unfold Anim.occ
  rw [h]
  exact if_neg (by simp)

/-- Before the first frame all slots are empty. -/
theorem Ring.start : Ring {} [] [] [] := by
  have hholds : ∀ i, Holds {} i [] := fun i =>
    ⟨padded_nil.symm, by decide, List.not_mem_nil, fun _ => rfl, fun b h => by cases h⟩
  refine ⟨rfl, hholds 1, hholds 2, hholds 3, Nat.le_refl _, fun b hb => ?_, fun b _ => ?_,
    fun b h => by cases h⟩
  · exact absurd hb (Nat.not_lt_zero b)
  · exact ⟨rfl, List.not_mem_nil⟩

/-- A buffer in a slot is held once, and was created. -/
theorem Ring.held (h : Ring s p₁ p₂ p₃) (hpos : 0 < s.holders b) :
    b < s.created ∧ s.holders b = 1 ∧ b ∉ s.destroyed := by
  have hlt : b < s.created := by
    by_contra hge
    have := (h.fresh b (by omega)).1
    omega
  rcases h.owned b hlt with ⟨hone, hnot⟩ | ⟨hzero, -⟩
  · exact ⟨hlt, hone, hnot⟩
  · omega

/-- **The ring keeps the buffers.** -/
theorem Ring.keepsBuffers (h : Ring s p₁ p₂ p₃) : KeepsBuffers s := by
  have hnamed : ∀ {i p}, Holds s i p → ∀ b, (s.mBufSlotInfo i).bo = some b →
      ∃ rest, block (s.mBufSlotInfo i).mPath 0 pathSize = (s.bos b).path ++ 0 :: rest := by
    intro i p hi b hb
    rw [hi.path_eq, hi.decoded b hb]
    exact block_padded hi.length_lt
  refine ⟨h.owned, fun b hb => ?_, fun i hi b hb => ?_⟩
  · have hone := occ_eq_one (h.shown b hb)
    exact (h.held (show 0 < s.holders b by unfold Anim.holders; omega)).2.2
  · match i, hi with
    | 0, _ =>
      rw [h.first] at hb
      cases hb
    | 1, _ => exact hnamed h.second b hb
    | 2, _ => exact hnamed h.third b hb
    | 3, _ => exact hnamed h.fourth b hb

/-- The path of the frame is in no slot. -/
theorem Ring.setPicPath (h : Ring s p₁ p₂ p₃) (path : Nat → UInt8) :
    Ring { s with picPath := path } p₁ p₂ p₃ :=
  ⟨h.first, ⟨h.second.1, h.second.2, h.second.3, h.second.4, h.second.5⟩,
    ⟨h.third.1, h.third.2, h.third.3, h.third.4, h.third.5⟩,
    ⟨h.fourth.1, h.fourth.2, h.fourth.3, h.fourth.4, h.fourth.5⟩, h.shorter, h.owned, h.fresh,
    h.shown⟩

/-! ## The last slot is freed -/

/-- The slots of a state are those of another, and so are the paths of their buffers. -/
theorem Holds.congr {p : List UInt8} (h : Holds s i p)
    (hslot : t.mBufSlotInfo i = s.mBufSlotInfo i)
    (hpath : ∀ b, (s.mBufSlotInfo i).bo = some b → (t.bos b).path = (s.bos b).path) :
    Holds t i p := by
  refine ⟨hslot ▸ h.path_eq, h.length_lt, h.nonzero, fun hn => h.empty (hslot ▸ hn), fun b hb => ?_⟩
  rw [hslot] at hb
  rw [hpath b hb, h.decoded b hb]

/-- An empty slot holds no path. -/
theorem Holds.of_empty (h : s.mBufSlotInfo i = {}) : Holds s i [] := by
  refine ⟨?_, by decide, List.not_mem_nil, fun _ => rfl, fun b hb => ?_⟩
  · rw [h, padded_nil]
  · rw [h] at hb
    cases hb

theorem unmap_path (b' : Nat) : ((s.unmap b).bos b').path = (s.bos b').path := by
  show (Function.update s.bos b { s.bos b with ptr := 0 } b').path = _
  by_cases hb : b' = b
  · rw [hb, Function.update_self]
  · rw [Function.update_of_ne hb]

/-- A buffer of the last slot is freed. -/
theorem Ring.freed (h : Ring s p₁ p₂ p₃) (hbo : (s.mBufSlotInfo 3).bo = some b) :
    Ring (((s.unmap b).destroy b).setSlot 3 {}) p₁ p₂ [] := by
  have hocc := occ_eq_one hbo
  obtain ⟨hcreated, hone, hnot⟩ := h.held (b := b) (by unfold Anim.holders; omega)
  have hslot : ∀ i, i ≠ 3 → (((s.unmap b).destroy b).setSlot 3 {}).mBufSlotInfo i =
      s.mBufSlotInfo i := fun i hi => setSlot_of_ne hi _
  have hlast : (((s.unmap b).destroy b).setSlot 3 {}).mBufSlotInfo 3 = {} := setSlot_self _
  -- the last slot is empty, the others hold what they held
  have hholders : ∀ b', (((s.unmap b).destroy b).setSlot 3 {}).holders b' + s.occ 3 b' =
      s.holders b' := by
    intro b'
    unfold Anim.holders
    have hzero := occ_eq_zero (b := b') (show ((((s.unmap b).destroy b).setSlot 3 {}).mBufSlotInfo
      3).bo = none by rw [hlast])
    have hsame : ∀ i, i ≠ 3 → (((s.unmap b).destroy b).setSlot 3 {}).occ i b' = s.occ i b' := by
      intro i hi
      unfold Anim.occ
      rw [hslot i hi]
    rw [hzero, hsame 0 (by decide), hsame 1 (by decide), hsame 2 (by decide)]
    omega
  have hother : ∀ b', b' ≠ b → s.occ 3 b' = 0 := by
    intro b' hb'
    unfold Anim.occ
    rw [hbo]
    exact if_neg (by simpa using Ne.symm hb')
  refine ⟨(hslot 0 (by decide)).trans h.first,
    h.second.congr (hslot 1 (by decide)) fun b' _ => unmap_path b',
    h.third.congr (hslot 2 (by decide)) fun b' _ => unmap_path b', .of_empty hlast, h.shorter,
    fun b' hb' => ?_, fun b' hb' => ?_, fun b' hb' => ?_⟩
  · have hsum := hholders b'
    show (_ ∧ b' ∉ s.destroyed ++ [b]) ∨ (_ ∧ (s.destroyed ++ [b]).count b' = 1)
    by_cases heq : b' = b
    · subst heq
      refine .inr ⟨by omega, ?_⟩
      rw [List.count_append, List.count_eq_zero_of_not_mem hnot, List.count_singleton_self]
    · have hzero := hother b' heq
      have hcount : [b].count b' = 0 := List.count_eq_zero_of_not_mem (by simpa using heq)
      rcases h.owned b' hb' with ⟨hheld, hmem⟩ | ⟨hheld, hmem⟩
      · exact .inl ⟨by omega, by simp [hmem, heq]⟩
      · exact .inr ⟨by omega, by rw [List.count_append, hmem, hcount]⟩
  · have hsum := hholders b'
    obtain ⟨hheld, hmem⟩ := h.fresh b' hb'
    have heq : b' ≠ b := by
      rintro rfl
      exact absurd hcreated (Nat.not_lt.2 hb')
    exact ⟨by omega, by show b' ∉ s.destroyed ++ [b]; simp [hmem, heq]⟩
  · rw [hslot 1 (by decide)]
    exact h.shown b' hb'

/-- **Freeing the last slot** keeps the ring, and leaves it empty where its buffer can be
freed. -/
theorem Ring.freeSlot (h : Ring s p₁ p₂ p₃) : ∃ p, Ring (s.freeSlot 3) p₁ p₂ p ∧
    (s.freeSlot 3).mBufSlotInfo 1 = s.mBufSlotInfo 1 ∧ (s.freeSlot 3).picPath = s.picPath ∧
    ((∀ b, (s.mBufSlotInfo 3).bo = some b → s.Freeable b) →
      (s.freeSlot 3).mBufSlotInfo 3 = {}) := by
  cases hbo : (s.mBufSlotInfo 3).bo with
  | none =>
    have heq : s.freeSlot 3 = s := by
      unfold Anim.freeSlot
      rw [hbo]
    rw [heq]
    refine ⟨p₃, h, rfl, rfl, fun _ => ?_⟩
    have hpath := h.fourth.path_eq
    rw [h.fourth.empty hbo, padded_nil] at hpath
    cases hslot : s.mBufSlotInfo 3 with
    | mk bo mPath =>
      rw [hslot] at hbo hpath
      cases hbo
      cases hpath
      rfl
  | some b =>
    by_cases hfree : s.Freeable b
    · have heq : s.freeSlot 3 = ((s.unmap b).destroy b).setSlot 3 {} := by
        unfold Anim.freeSlot
        rw [hbo]
        exact if_pos hfree
      rw [heq]
      exact ⟨[], h.freed hbo, setSlot_of_ne (by decide) _, rfl, fun _ => setSlot_self _⟩
    · have heq : s.freeSlot 3 = s := by
        unfold Anim.freeSlot
        rw [hbo]
        exact if_neg hfree
      rw [heq]
      exact ⟨p₃, h, rfl, rfl, fun hall => absurd (hall b rfl) hfree⟩

/-! ## A buffer is displayed -/

/-- **A slot takes the buffer and the path of the one before it.** -/
theorem shiftSlot_eq {k : Nat} (hk : k = i + 1) (hp : (s.mBufSlotInfo i).mPath = padded p)
    (hlen : p.length < pathSize) (hzero : 0 ∉ p) (hq : (s.mBufSlotInfo k).mPath = padded q)
    (hle : q.length ≤ p.length) :
    shiftSlot k s = .next () (s.setSlot k ⟨(s.mBufSlotInfo i).bo, padded p⟩) := by
  subst hk
  have hstring : cstring (s.mBufSlotInfo (i + 1 - 1)).mPath s = .next p s := by
    rw [Nat.add_sub_cancel, hp]
    exact cstring_padded hlen hzero
  unfold shiftSlot
  rw [bind_next (show gets id s = .next s s from rfl), bind_next hstring]
  show Outcome.next () (s.setSlot (i + 1) ⟨(s.mBufSlotInfo (i + 1 - 1)).bo,
    poke 0 p (s.mBufSlotInfo (i + 1)).mPath⟩) = _
  rw [Nat.add_sub_cancel, hq, poke_padded hle]

/-- The slots after a buffer is displayed. -/
structure Shifted (s : Anim) (b : Nat) (p p₁ p₂ : List UInt8) (t : Anim) : Prop where
  first : t.mBufSlotInfo 0 = {}
  second : t.mBufSlotInfo 1 = ⟨some b, padded p⟩
  third : t.mBufSlotInfo 2 = ⟨(s.mBufSlotInfo 1).bo, padded p₁⟩
  fourth : t.mBufSlotInfo 3 = ⟨(s.mBufSlotInfo 2).bo, padded p₂⟩
  created_eq : t.created = s.created
  bos_eq : t.bos = s.bos
  destroyed_eq : t.destroyed = s.destroyed
  displayed_eq : t.displayed = some b

/-- **The buffer goes to the second slot, and the others shift.** -/
theorem display_eq (hpic : s.picPath = padded p) (hlen : p.length < pathSize) (hzero : 0 ∉ p)
    (h0 : s.mBufSlotInfo 0 = {}) (h1 : Holds s 1 p₁) (h2 : Holds s 2 p₂)
    (h3 : s.mBufSlotInfo 3 = {}) (h21 : p₂.length ≤ p₁.length) (h1p : p₁.length ≤ p.length) :
    ∃ t, display b s = .next () t ∧ Shifted s b p p₁ p₂ t := by
  -- the state behind each shift, from the last slot to the second
  let s₀ := ({ s with displayed := some b } : Anim).setSlot 0 ⟨some b, padded p⟩
  let s₃ := s₀.setSlot 3 ⟨(s.mBufSlotInfo 2).bo, padded p₂⟩
  let s₂ := s₃.setSlot 2 ⟨(s.mBufSlotInfo 1).bo, padded p₁⟩
  let s₁ := s₂.setSlot 1 ⟨some b, padded p⟩
  have hfirst : (modify fun s => s.setSlot 0
      { bo := some b, mPath := poke 0 (p ++ [0]) (s.mBufSlotInfo 0).mPath } : Animates Unit)
        { s with displayed := some b } = .next () s₀ := by
    show Outcome.next () (Anim.setSlot _ 0 ⟨some b, poke 0 (p ++ [0]) (s.mBufSlotInfo 0).mPath⟩) = _
    rw [h0, show (({} : SfJpegOutputBuf).mPath) = padded [] from padded_nil.symm,
      poke_nul_padded (Nat.zero_le _)]
  have hshift₃ : shiftSlot 3 s₀ = .next () s₃ := shiftSlot_eq (i := 2) (q := []) rfl h2.path_eq
    h2.length_lt h2.nonzero (by
      show (s.mBufSlotInfo 3).mPath = _
      rw [h3, padded_nil]) (Nat.zero_le _)
  have hshift₂ : shiftSlot 2 s₃ = .next () s₂ := shiftSlot_eq (i := 1) rfl h1.path_eq h1.length_lt
    h1.nonzero h2.path_eq h21
  have hshift₁ : shiftSlot 1 s₂ = .next () s₁ := shiftSlot_eq (i := 0) rfl rfl hlen hzero
    h1.path_eq h1p
  refine ⟨s₁.setSlot 0 {}, ?_, ⟨rfl, rfl, rfl, rfl, rfl, rfl, rfl, rfl⟩⟩
  unfold display
  rw [bind_next (show gets id s = .next s s from rfl),
    bind_next (show cstring s.picPath s = .next p s by rw [hpic]; exact cstring_padded hlen hzero),
    bind_next (show modify _ s = .next () { s with displayed := some b } from rfl),
    bind_next hfirst]
  have hslots : shiftSlots (MAX_OUTPUT_RSV_CNT - 1) s₀ = .next () s₁ := by
    show shiftSlots 3 s₀ = _
    unfold shiftSlots
    rw [bind_next hshift₃]
    unfold shiftSlots
    rw [bind_next hshift₂]
    unfold shiftSlots
    rw [bind_next hshift₁]
    rfl
  rw [bind_next hslots]
  rfl

/-! ## A frame -/

theorem create_bos (bo : ArmsocBo) (hb : b ≠ s.created) : (s.create bo).bos b = s.bos b :=
  Function.update_of_ne hb _ _

/-- A buffer that is held is not one that is created. -/
theorem Ring.ne_created (h : Ring s p₁ p₂ p₃) (hi : i < MAX_OUTPUT_RSV_CNT)
    (hbo : (s.mBufSlotInfo i).bo = some b) : b ≠ s.created := by
  have hocc := occ_eq_one hbo
  have hpos : 0 < s.holders b := by
    unfold Anim.holders
    match i, hi with
    | 0, _ => omega
    | 1, _ => omega
    | 2, _ => omega
    | 3, _ => omega
  exact Nat.ne_of_lt (h.held hpos).1

/-- **A buffer that cannot be mapped** is destroyed at once. -/
theorem Ring.unmapped (h : Ring s p₁ p₂ p₃) (bo : ArmsocBo) :
    Ring ((s.create bo).destroy s.created) p₁ p₂ p₃ := by
  have hpath : ∀ {i}, i < MAX_OUTPUT_RSV_CNT → ∀ b, (s.mBufSlotInfo i).bo = some b →
      ((s.create bo).bos b).path = (s.bos b).path := by
    intro i hi b hb
    rw [create_bos bo (h.ne_created hi hb)]
  obtain ⟨hnone, hnot⟩ := h.fresh s.created (Nat.le_refl _)
  refine ⟨h.first, h.second.congr rfl (hpath (by decide)), h.third.congr rfl (hpath (by decide)),
    h.fourth.congr rfl (hpath (by decide)), h.shorter, fun b hb => ?_, fun b hb => ?_, h.shown⟩
  · show (s.holders b = 1 ∧ b ∉ s.destroyed ++ [s.created]) ∨
      (s.holders b = 0 ∧ (s.destroyed ++ [s.created]).count b = 1)
    by_cases heq : b = s.created
    · subst heq
      refine .inr ⟨hnone, ?_⟩
      rw [List.count_append, List.count_eq_zero_of_not_mem hnot, List.count_singleton_self]
    · have hcount : [s.created].count b = 0 := List.count_eq_zero_of_not_mem (by simpa using heq)
      have hlt : b < s.created := by
        have : b < s.created + 1 := hb
        omega
      rcases h.owned b hlt with ⟨hheld, hmem⟩ | ⟨hheld, hmem⟩
      · exact .inl ⟨hheld, by simp [hmem, heq]⟩
      · exact .inr ⟨hheld, by rw [List.count_append, hmem, hcount]⟩
  · have hge : s.created + 1 ≤ b := hb
    obtain ⟨hheld, hmem⟩ := h.fresh b (by omega)
    refine ⟨hheld, ?_⟩
    show b ∉ s.destroyed ++ [s.created]
    simp [hmem, show b ≠ s.created by omega]

/-- **A buffer that is displayed** is in the ring, with the path of its picture. -/
theorem Ring.displayed (h : Ring s p₁ p₂ []) (hlast : s.mBufSlotInfo 3 = {}) {bo : ArmsocBo}
    (hbo : bo.path = p) (hlen : p.length < pathSize) (hzero : 0 ∉ p)
    (h1p : p₁.length ≤ p.length) (ht : Shifted (s.create bo) s.created p p₁ p₂ t) :
    Ring t p p₁ p₂ := by
  obtain ⟨hnone, hnot⟩ := h.fresh s.created (Nat.le_refl _)
  have hself : (t.bos s.created).path = p := by
    rw [ht.bos_eq]
    show (Function.update s.bos s.created bo s.created).path = p
    rw [Function.update_self, hbo]
  have hkept : ∀ {i q}, i < MAX_OUTPUT_RSV_CNT → Holds s i q →
      ∀ b, (s.mBufSlotInfo i).bo = some b → (t.bos b).path = q := by
    intro i q hi hq b hb
    rw [ht.bos_eq, create_bos bo (h.ne_created hi hb), hq.decoded b hb]
  -- each slot has what the one before it had, and the second has the new buffer
  have hholders : ∀ b, t.holders b = (if b = s.created then 1 else 0) + s.holders b := by
    intro b
    have h0 : t.occ 0 b = 0 := occ_eq_zero (by rw [ht.first])
    have h1 : t.occ 1 b = if b = s.created then 1 else 0 := by
      unfold Anim.occ
      rw [ht.second]
      exact if_congr (by rw [Option.some.injEq, eq_comm]) rfl rfl
    have h2 : t.occ 2 b = s.occ 1 b := by
      unfold Anim.occ
      rw [ht.third]
      rfl
    have h3 : t.occ 3 b = s.occ 2 b := by
      unfold Anim.occ
      rw [ht.fourth]
      rfl
    have hs0 : s.occ 0 b = 0 := occ_eq_zero (by rw [h.first])
    have hs3 : s.occ 3 b = 0 := occ_eq_zero (by rw [hlast])
    unfold Anim.holders
    omega
  have hcreated : t.created = s.created + 1 := ht.created_eq
  have hdestroyed : t.destroyed = s.destroyed := ht.destroyed_eq
  refine ⟨ht.first, ⟨by rw [ht.second], hlen, hzero, fun hn => ?_, fun b hb => ?_⟩,
    ⟨by rw [ht.third], h.second.length_lt, h.second.nonzero, fun hn => ?_, fun b hb => ?_⟩,
    ⟨by rw [ht.fourth], h.third.length_lt, h.third.nonzero, fun hn => ?_, fun b hb => ?_⟩, h1p,
    fun b hb => ?_, fun b hb => ?_, fun b hb => ?_⟩
  · rw [ht.second] at hn
    cases hn
  · rw [ht.second] at hb
    cases hb
    exact hself
  · rw [ht.third] at hn
    exact h.second.empty hn
  · rw [ht.third] at hb
    exact hkept (by decide) h.second b hb
  · rw [ht.fourth] at hn
    exact h.third.empty hn
  · rw [ht.fourth] at hb
    exact hkept (by decide) h.third b hb
  · rw [hholders, hdestroyed]
    by_cases heq : b = s.created
    · subst heq
      exact .inl ⟨by rw [if_pos rfl, hnone], hnot⟩
    · rw [if_neg heq, Nat.zero_add]
      exact h.owned b (by omega)
  · obtain ⟨hheld, hmem⟩ := h.fresh b (by omega)
    rw [hholders, hdestroyed, if_neg (by omega), Nat.zero_add]
    exact ⟨hheld, hmem⟩
  · rw [ht.displayed_eq] at hb
    rw [ht.second, ← hb]

/-- The picture is decoded into a new buffer. -/
theorem decodeInto_eq (hpic : s.picPath = padded p) (hlen : p.length < pathSize) (hzero : 0 ∉ p)
    (bo : ArmsocBo) :
    decodeInto s.created (s.create bo) = .next () (s.create { bo with path := p }) := by
  have hstring : cstring (s.create bo).picPath (s.create bo) = .next p (s.create bo) := by
    show cstring s.picPath _ = _
    rw [hpic]
    exact cstring_padded hlen hzero
  unfold decodeInto
  rw [bind_next (show gets id (s.create bo) = .next (s.create bo) (s.create bo) from rfl),
    bind_next hstring]
  show Outcome.next () { s with
    created := s.created + 1
    bos := Function.update (Function.update s.bos s.created bo) s.created
      { Function.update s.bos s.created bo s.created with path := p } } = _
  rw [Function.update_self, Function.update_idem]
  rfl

/-- **A picture that is shown** keeps the ring. -/
theorem showFrame_ring (h : Ring s p₁ p₂ p₃) (hok : FrameOk dir s j f) (hshown : f.Shown) :
    ∃ t q₁ q₂ q₃, (showFrame drmFd f { s with picPath := padded (framePath dir j f) } = .next () t ∨
      showFrame drmFd f { s with picPath := padded (framePath dir j f) } = .exit () t) ∧
      Ring t q₁ q₂ q₃ := by
  have hlen := hok.length_lt
  have hzero := zero_not_mem_framePath dir j f
  obtain ⟨p, hring, hslot, hpic, hempty⟩ := (h.setPicPath (padded (framePath dir j f))).freeSlot
  let s₁ := ({ s with picPath := padded (framePath dir j f) } : Anim).freeSlot 3
  have hs₁ : (modify fun s => s.freeSlot (MAX_OUTPUT_RSV_CNT - 1) : Animates Unit)
      { s with picPath := padded (framePath dir j f) } = .next () s₁ := rfl
  unfold showFrame
  rw [bind_next hs₁]
  cases hret : f.create with
  | noBuffer => exact absurd hret (hok.buffer hshown)
  | unmapped =>
    have hcreate : boCreate drmFd .unmapped s₁ =
        .exit () ((s₁.create { fd := drmFd }).destroy s₁.created) := rfl
    rw [bind_exit hcreate]
    exact ⟨_, _, _, _, .inr rfl, hring.unmapped _⟩
  | mapped ptr =>
    have hcreate : boCreate drmFd (.mapped ptr) s₁ =
        .next s₁.created (s₁.create { fd := drmFd, ptr := ptr }) := rfl
    have hlast : s₁.mBufSlotInfo 3 = {} := hempty (hok.freeable hshown ptr hret)
    have hp : p = [] := hring.fourth.empty (by rw [hlast])
    subst hp
    -- the path of the frame is no shorter than the one it is written over
    have hlonger : p₁.length ≤ (framePath dir j f).length := by
      obtain ⟨rest, hblock⟩ := block_padded h.second.length_lt
      refine hok.longer hshown ptr hret _ (p₁.length + 1) ?_
      rw [h.second.path_eq, hblock, strlen_append rest h.second.nonzero]
    obtain ⟨t, ht, hshift⟩ := display_eq (b := s₁.created)
      (s := s₁.create { fd := drmFd, ptr := ptr, path := framePath dir j f }) hpic hlen hzero
      hring.first
      (hring.second.congr rfl fun b hb => by
        rw [create_bos _ (hring.ne_created (by decide) hb)])
      (hring.third.congr rfl fun b hb => by
        rw [create_bos _ (hring.ne_created (by decide) hb)])
      hlast hring.shorter hlonger
    rw [bind_next hcreate, bind_next (decodeInto_eq hpic hlen hzero _)]
    refine ⟨t, _, _, _, .inl ?_, hring.displayed hlast rfl hlen hzero hlonger hshift⟩
    exact (if_pos (hok.added hshown ptr hret)).trans ht

/-- **A frame that does no harm** keeps the ring. -/
theorem bootFrame_ring (drmFd : Int) (h : Ring s p₁ p₂ p₃) (hok : FrameOk dir s j f) :
    ∃ t q₁ q₂ q₃,
      (bootFrame drmFd dir j f s = .next () t ∨ bootFrame drmFd dir j f s = .exit () t) ∧
      Ring t q₁ q₂ q₃ := by
  have hstart : bootFrame drmFd dir j f s = if f.Shown then
      showFrame drmFd f { s with picPath := padded (framePath dir j f) }
      else .next () { s with picPath := padded (framePath dir j f) } := by
    unfold bootFrame
    rw [bind_next (nameFrame_eq hok)]
    rfl
  rw [hstart]
  by_cases hshown : f.Shown
  · rw [if_pos hshown]
    exact showFrame_ring h hok hshown
  · rw [if_neg hshown]
    exact ⟨_, _, _, _, .inl rfl, h.setPicPath _⟩

/-! ## A whole run -/

/-- **The frames of a run** keep the ring. -/
theorem alongFrames_kept {frames : List Frame} (h : Ring s p₁ p₂ p₃)
    (hok : AlongFrames drmFd dir (FrameOk dir) j frames s) :
    AlongFrames drmFd dir (KeptAfter drmFd dir) j frames s ∧
      ∃ t q₁ q₂ q₃, (bootFrames drmFd dir j frames s = .next () t ∨
        bootFrames drmFd dir j frames s = .exit () t) ∧ Ring t q₁ q₂ q₃ := by
  induction frames generalizing s j p₁ p₂ p₃ with
  | nil => exact ⟨trivial, s, _, _, _, .inl rfl, h⟩
  | cons f frames ih =>
    obtain ⟨hf, hrest⟩ := hok
    obtain ⟨t, q₁, q₂, q₃, hframe, hring⟩ := bootFrame_ring drmFd h hf
    have hkept : KeptAfter drmFd dir s j f := by
      rcases hframe with hframe | hframe
      · exact ⟨fun e u hfault => (by rw [hframe] at hfault; cases hfault),
          hframe ▸ hring.keepsBuffers⟩
      · exact ⟨fun e u hfault => (by rw [hframe] at hfault; cases hfault),
          hframe ▸ hring.keepsBuffers⟩
    rcases hframe with hframe | hframe
    · obtain ⟨halong, u, r₁, r₂, r₃, hframes, hring'⟩ := ih hring (hrest t hframe)
      refine ⟨⟨hkept, fun t' ht' => ?_⟩, u, r₁, r₂, r₃, ?_, hring'⟩
      · cases hframe.symm.trans ht'
        exact halong
      · unfold bootFrames
        rw [bind_next hframe]
        exact hframes
    · refine ⟨⟨hkept, fun t' ht' => ?_⟩, t, q₁, q₂, q₃, .inr ?_, hring⟩
      · cases hframe.symm.trans ht'
      · unfold bootFrames
        rw [bind_exit hframe]

/-- **All runs** keep the ring. -/
theorem alongRuns_kept {runs : List (List Frame)} (h : Ring s p₁ p₂ p₃)
    (hok : AlongRuns drmFd dir (FrameOk dir) runs s) :
    AlongRuns drmFd dir (KeptAfter drmFd dir) runs s := by
  induction runs generalizing s p₁ p₂ p₃ with
  | nil => trivial
  | cons frames runs ih =>
    obtain ⟨hframes, hrest⟩ := hok
    obtain ⟨halong, t, q₁, q₂, q₃, hrun, hring⟩ := alongFrames_kept h hframes
    refine ⟨halong, fun u hu => ?_⟩
    have hboot : bootAnimation drmFd dir frames s = .next () t := by
      have hcall : ∃ r, call (bootFrames drmFd dir 0 frames) s =
          (.next r t : Outcome AnimFault Unit Anim (Option Unit)) := by
        unfold call
        rcases hrun with hrun | hrun
        · exact ⟨none, by rw [hrun]⟩
        · exact ⟨some (), by rw [hrun]⟩
      obtain ⟨r, hcall⟩ := hcall
      unfold bootAnimation
      rw [bind_next hcall]
      rfl
    cases hboot.symm.trans hu
    exact ih hring (hrest t hboot)

/-! ## The end -/

/-- The first slot is empty. -/
def FirstEmpty (s : Anim) : Prop := (s.mBufSlotInfo 0).bo = none

/-- A program that leaves the first slot empty, however it ends. -/
def EmptiesFirst {α : Type} (x : Animates α) (s : Anim) : Prop :=
  wp x (fun _ => FirstEmpty) (fun _ => FirstEmpty) (fun _ _ => True) s

theorem wp_cstring {N : List UInt8 → Anim → Prop} {X : Unit → Anim → Prop} {array : Nat → UInt8}
    (h : ∀ path, N path s) : wp (cstring array) N X (fun _ _ => True) s := by
  unfold wp cstring
  cases strlen (block array 0 pathSize) with
  | none => trivial
  | some r => exact h _

theorem shiftSlots_next {N : Unit → Anim → Prop} {X : Unit → Anim → Prop} {n : Nat}
    (h : ∀ t, N () t) : wp (shiftSlots n) N X (fun _ _ => True) s := by
  induction n generalizing s with
  | zero => exact h s
  | succ n ih =>
    unfold shiftSlots shiftSlot
    simp only [wp_bind, wp_gets]
    exact wp_cstring fun path => ih

theorem freeSlot_first (h : FirstEmpty s) : FirstEmpty (s.freeSlot 3) := by
  unfold Anim.freeSlot
  cases (s.mBufSlotInfo 3).bo with
  | none => exact h
  | some b =>
    show FirstEmpty (if s.Freeable b then _ else s)
    by_cases hfree : s.Freeable b
    · rw [if_pos hfree]
      exact (congrArg SfJpegOutputBuf.bo (setSlot_of_ne (by decide) _)).trans h
    · rw [if_neg hfree]
      exact h

theorem display_first : EmptiesFirst (display b) s := by
  unfold EmptiesFirst display
  simp only [wp_bind, wp_gets]
  refine wp_cstring fun path => ?_
  simp only [wp_bind, wp_modify]
  exact shiftSlots_next fun t => congrArg SfJpegOutputBuf.bo (setSlot_self _)

theorem showFrame_first (h : FirstEmpty s) : EmptiesFirst (showFrame drmFd f) s := by
  unfold EmptiesFirst showFrame boCreate decodeInto
  simp only [wp_bind, wp_gets, wp_modify]
  have hfree := freeSlot_first h
  cases f.create with
  | noBuffer => trivial
  | unmapped => exact hfree
  | mapped ptr =>
    simp only [wp_bind, wp_gets, wp_modify, wp_pure]
    refine wp_cstring fun path => ?_
    simp only [wp_modify, wp_whenever]
    by_cases hadd : f.addFails = false
    · rw [if_pos hadd]
      exact display_first
    · rw [if_neg hadd]
      exact hfree

theorem sprintfPicPath_first (h : FirstEmpty s) (name : List UInt8) :
    EmptiesFirst (sprintfPicPath name) s := by
  unfold EmptiesFirst sprintfPicPath
  simp only [wp_bind, wp_assert]
  split
  · exact h
  · trivial

theorem nameFrame_first (h : FirstEmpty s) : EmptiesFirst (nameFrame dir j f) s := by
  unfold EmptiesFirst nameFrame
  simp only [wp_bind, wp_modify]
  have hclear : FirstEmpty { s with picPath := fun _ => 0 } := h
  refine wp_mono (sprintfPicPath_first hclear _) (fun _ t ht => ?_) (fun _ _ ht => ht)
    fun _ _ ht => ht
  rw [wp_whenever]
  split
  · exact sprintfPicPath_first ht _
  · exact ht

/-- **Between two frames the first slot is empty.** -/
theorem bootFrame_first (h : FirstEmpty s) : EmptiesFirst (bootFrame drmFd dir j f) s := by
  unfold EmptiesFirst bootFrame
  refine wp_seq (M := fun _ => FirstEmpty) (nameFrame_first h) fun _ t ht => ?_
  rw [wp_whenever]
  by_cases hshown : f.Shown
  · rw [if_pos hshown]
    exact showFrame_first ht
  · rw [if_neg hshown]
    exact ht

theorem bootFrames_first {frames : List Frame} (h : FirstEmpty s) :
    EmptiesFirst (bootFrames drmFd dir j frames) s := by
  induction frames generalizing s j with
  | nil => exact h
  | cons f frames ih =>
    unfold EmptiesFirst bootFrames
    exact wp_seq (bootFrame_first h) fun _ t ht => ih ht

theorem bootAnimations_first (drmFd : Int) (dir : AnimPath) (runs : List (List Frame))
    (h : FirstEmpty s) :
    EmptiesFirst (bootAnimations drmFd dir runs) s := by
  induction runs generalizing s with
  | nil => exact h
  | cons frames runs ih =>
    unfold EmptiesFirst bootAnimations
    refine wp_seq (M := fun _ => FirstEmpty) ?_ fun _ t ht => ih ht
    unfold bootAnimation
    simp only [wp_bind, wp_call]
    exact bootFrames_first h

/-- **Stopping after any runs** follows a null pointer. -/
theorem stopBootThread_null (h : FirstEmpty s) : stopBootThread s = .fault .null s := by
  have hslot : stopSlot 0 s = .fault .null s := by
    unfold stopSlot
    rw [bind_next (show gets id s = .next s s from rfl), h]
    rfl
  unfold stopBootThread
  show stopSlots 0 4 s = _
  unfold stopSlots
  rw [bind_fault hslot]

end

theorem not_ringKept (drmFd : Int) (dir : AnimPath) (runs : List (List Frame)) :
    ¬ RingKept drmFd dir runs := by
  rintro ⟨-, s, hs, t, ht, -⟩
  have hfirst := wp_next (bootAnimations_first drmFd dir runs (show FirstEmpty {} from rfl)) hs
  cases (stopBootThread_null hfirst).symm.trans ht

/-- **The ring is kept after every frame that does no harm, and never to the end.** -/
theorem ringKept_never (drmFd : Int) (dir : AnimPath) (runs : List (List Frame)) :
    (AlongRuns drmFd dir (FrameOk dir) runs {} →
      AlongRuns drmFd dir (KeptAfter drmFd dir) runs {}) ∧ ¬ RingKept drmFd dir runs :=
  ⟨alongRuns_kept Ring.start, not_ringKept drmFd dir runs⟩

/-- The default directory of the pictures. -/
def mediaDir : AnimPath where
  chars := chars "/media/bootanimation"
  nonzero _ hc := ne_of_mem_of_not_mem hc (by decide)
  length_lt := by decide

/-- A frame for which all calls succeed. -/
def goodFrame : Frame where
  jpg := true
  jpeg := false
  displayWidth := 1920
  displayHeight := 1080
  create := .mapped 4096
  addFails := false

/-- **One picture, and then the end.** -/
theorem not_ringKept_one : ¬ ∀ drmFd dir runs, RingKept drmFd dir runs := fun h =>
  not_ringKept 3 mediaDir [[goodFrame]] (h 3 mediaDir [[goodFrame]])

end Modeset

end Rk3399
