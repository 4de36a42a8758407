import Rk3399.Jpeg.Helpers.Limits
/-!
# The pictures the probing parser admits

A frame header is the only segment that sets the size and the format of the
picture. Where it is passed they are inside the limits of the hardware, and
the counts of MCUs in the instance are those of that size and format.
-/

namespace Rk3399

namespace Jpeg

open Prog

namespace Probe

/-! ## Sizes -/

/-- The limits a probe works under. -/
def limits (p : Probe) : Limits := Jpeg.limits p.cont

/-- The width and the height are multiples of sixteen inside the limits, and those the
hardware is given. -/
structure Sized (l : Limits) (g : Geometry) : Prop where
  width_dvd : 16 ∣ g.outputWidth
  height_dvd : 16 ∣ g.outputHeight
  width_le : g.outputWidth ≤ l.maxSupportedWidth
  height_le : g.outputHeight ≤ l.maxSupportedHeight
  hwX_eq : g.hwX = g.outputWidth
  hwY_eq : g.hwY = g.outputHeight

/-- The formats, each with the width of its MCUs and the number of pels the probing
parser counts for one. -/
def formats : List (Nat × Nat × Nat) :=
  [(JPEGDEC_YCbCr420_SEMIPLANAR, 16, 256), (JPEGDEC_YCbCr422_SEMIPLANAR, 16, 128),
   (JPEGDEC_YCbCr440, 8, 128), (JPEGDEC_YCbCr400, 8, 64),
   (JPEGDEC_YCbCr411_SEMIPLANAR, 32, 256), (JPEGDEC_YCbCr444_SEMIPLANAR, 8, 64)]

/-- The numbers of MCUs are those of the size and the format. -/
def Counted (g : Geometry) : Prop :=
  ∃ w area, (g.outputFormat, w, area) ∈ formats ∧ g.numMcuInRow = g.hwX / w ∧
    g.numMcuInFrame = u32 (g.hwX * g.hwY) / area

/-- **The picture is one the hardware supports.** -/
structure Admitted (l : Limits) (g : Geometry) : Prop extends Sized l g where
  counted : Counted g
  mode_eq : g.getInfoYCbCrMode = g.outputFormat

/-- There is no picture yet. -/
def Blank (g : Geometry) : Prop := g.outputWidth = 0 ∧ g.outputHeight = 0

/-- **What every round keeps**: there is no picture yet, or it is one the hardware
supports. -/
def Sound (p : Probe) : Prop := Blank (geometry p) ∨ Admitted (limits p) (geometry p)

variable (mem : Nat → UInt8)

/-- What a segment leaves alone, `Sound` among it. -/
theorem sound_of_frame {α : Type} {x : Probing α} (hx : Frame NoTable kept x) :
    Keeps anyEnd (fun _ => True) Sound x := by
  have hkeeps := Frame.keeps hx fun k => Blank k.2 ∨ Admitted k.1.limits k.2
  exact hkeeps.mono (fun _ _ => trivial) fun _ _ _ => trivial

/-! ## The frame header -/

theorem dvd_roundUp16 (n : Nat) : 16 ∣ roundUp16 n := Nat.dvd_mul_left 16 _

/-- The height is known. -/
def Rows (p : Probe) : Prop :=
  16 ∣ p.imageInfo.outputHeight ∧ p.cont.frame.hwY = p.imageInfo.outputHeight

/-- What is kept with the geometry is kept. -/
theorem wp_of_frame {α β : Type} {x : Probing β} {f : β → Probing α} (hx : Frame NoTable kept x)
    {N : α → Probe → Prop} {p : Probe}
    (hf : ∀ b p', kept p' = kept p → wp (f b) N (fun _ _ => True) anyEnd p') :
    wp (x >>= f) N (fun _ _ => True) anyEnd p :=
  Frame.wp_bind hx (fun _ _ _ => trivial) (fun _ _ _ _ => trivial) hf

/-- Behind a check its condition does not hold. -/
theorem wp_of_check {α : Type} {r : JpegDecRet} {c : Probe → Prop} [DecidablePred c]
    {f : Unit → Probing α} {N : α → Probe → Prop} {p : Probe}
    (hf : ¬ c p → wp (f ()) N (fun _ _ => True) anyEnd p) :
    wp (exitIf r c >>= f) N (fun _ _ => True) anyEnd p := by
  rw [wp_bind, wp_exitIf]
  split
  · trivial
  · next hc => exact hf hc

theorem Rows.congr {p p' : Probe} (h : Rows p) (hk : kept p' = kept p) : Rows p' := by
  have hg : geometry p' = geometry p := congrArg Prod.snd hk
  have hheight : p'.imageInfo.outputHeight = p.imageInfo.outputHeight :=
    congrArg Geometry.outputHeight hg
  have hwY : p'.cont.frame.hwY = p.cont.frame.hwY := congrArg Geometry.hwY hg
  unfold Rows
  rw [hheight, hwY]
  exact h

theorem sized_congr {p p' : Probe} (h : Sized (limits p) (geometry p)) (hk : kept p' = kept p) :
    Sized (limits p') (geometry p') := by
  have hg : geometry p' = geometry p := congrArg Prod.snd hk
  have hl : limits p' = limits p := congrArg (fun k => k.1.limits) hk
  rw [hg, hl]
  exact h

/-- A picture that passes the check of its size is inside the limits. -/
theorem sized_of_supported {p : Probe} (hrows : Rows p) (hwidth : 16 ∣ p.imageInfo.outputWidth)
    (hwX : p.cont.frame.hwX = p.imageInfo.outputWidth) (h : ¬ SizeUnsupported p) :
    Sized (limits p) (geometry p) := by
  unfold SizeUnsupported at h
  simp only [not_or, Nat.not_lt] at h
  exact ⟨hwidth, hrows.1, h.2.2.1, h.2.2.2.1, hwX, hrows.2⟩

/-- The format of a picture of this size. -/
theorem counted_setFormat {p : Probe} {format w area : Nat} (h : (format, w, area) ∈ formats) :
    Counted (geometry (setFormat format w area p)) :=
  ⟨w, area, h, rfl, rfl⟩

theorem sized_setFormat {p : Probe} (format w area : Nat) (h : Sized (limits p) (geometry p)) :
    Sized (limits (setFormat format w area p)) (geometry (setFormat format w area p)) :=
  ⟨h.width_dvd, h.height_dvd, h.width_le, h.height_le, h.hwX_eq, h.hwY_eq⟩

/-- Rounding up for 4:1:1 keeps the size one the hardware supports, where the check
behind it is passed. -/
theorem sized_roundUp411 {p : Probe} (h : Sized (limits p) (geometry p))
    (hle : (roundUp411 p).imageInfo.outputWidth ≤ p.cont.maxSupportedWidth) :
    Sized (limits p) (geometry (roundUp411 p)) := by
  unfold roundUp411 at hle ⊢
  split
  · next hodd =>
    rw [if_pos hodd] at hle
    have hdvd : 16 ∣ p.imageInfo.outputWidth := h.width_dvd
    have hwidth : 16 ∣ u32 (p.imageInfo.outputWidth + 16) := by
      unfold u32
      omega
    exact ⟨hwidth, h.height_dvd, hle, h.height_le, rfl, h.hwY_eq⟩
  · exact h

theorem limits_roundUp411 (p : Probe) : limits (roundUp411 p) = limits p := by
  unfold roundUp411
  split <;> rfl

/-- A picture whose format is one of the list has its MCUs counted. -/
theorem wp_probeSampling {p : Probe} (h : Sized (limits p) (geometry p)) :
    wp probeSampling (fun _ p' => Sized (limits p') (geometry p') ∧ Counted (geometry p'))
      (fun _ _ => True) anyEnd p := by
  have hset : ∀ {format w area : Nat}, (format, w, area) ∈ formats → ∀ {q : Probe},
      Sized (limits q) (geometry q) →
      Sized (limits (setFormat format w area q)) (geometry (setFormat format w area q)) ∧
        Counted (geometry (setFormat format w area q)) :=
    fun hmem _ hq => ⟨sized_setFormat _ _ _ hq, counted_setFormat hmem⟩
  unfold probeSampling
  rw [wp_bind, wp_gets]
  dsimp only [id]
  split
  · exact hset (by decide) h
  split
  · exact hset (by decide) h
  split
  · exact hset (by decide) h
  split
  · exact hset (by decide) h
  split
  · rw [wp_bind, wp_modify]
    refine wp_of_check fun hfits => ?_
    rw [not_or, Nat.not_lt, Nat.not_lt] at hfits
    refine hset (by decide) ?_
    have hl := limits_roundUp411 p
    rw [hl]
    have hmax : (roundUp411 p).cont.maxSupportedWidth = p.cont.maxSupportedWidth :=
      congrArg Limits.maxSupportedWidth hl
    exact sized_roundUp411 h (hmax ▸ hfits.1)
  split
  · exact hset (by decide) h
  · trivial

/-- **A frame header that is passed is one of a picture the hardware supports.** -/
theorem wp_probeFrameBody (p : Probe) :
    wp (probeFrameBody mem) (fun _ => Sound) (fun _ _ => True) anyEnd p := by
  unfold probeFrameBody
  refine wp_of_frame (frame_getByte mem apart_kept) fun precision p1 _ => ?_
  rw [wp_bind, wp_modify]
  refine wp_of_check fun _ => ?_
  refine wp_of_frame (frame_get2Bytes mem apart_kept) fun lines p2 _ => ?_
  rw [wp_bind, wp_modify]
  refine wp_of_check fun _ => ?_
  rw [wp_bind, wp_modify]
  refine wp_of_frame (frame_get2Bytes mem apart_kept) fun samples p3 h3 => ?_
  have hrows : Rows p3 := Rows.congr ⟨dvd_roundUp16 lines, rfl⟩ h3
  rw [wp_bind, wp_modify]
  refine wp_of_check fun _ => ?_
  rw [wp_bind, wp_modify]
  refine wp_of_check fun hsupported => ?_
  have hsized := sized_of_supported (p := { p3 with
    imageInfo.outputWidth := roundUp16 samples
    imageInfo.displayWidth := samples
    cont.frame.hwX := roundUp16 samples }) hrows (dvd_roundUp16 samples) rfl hsupported
  refine wp_of_frame (frame_getByte mem apart_kept) fun Nf p4 h4 => ?_
  refine wp_of_check fun _ => ?_
  refine wp_of_frame (frame_probeComponents mem Nf 0) fun _ p5 h5 => ?_
  refine wp_of_check fun _ => ?_
  unfold probeFormat
  refine wp_seq (wp_probeSampling (sized_congr (sized_congr hsized h4) h5)) fun _ p6 h6 => ?_
  obtain ⟨h6, hcounted⟩ := h6
  exact Or.inr ⟨⟨h6.width_dvd, h6.height_dvd, h6.width_le, h6.height_le, h6.hwX_eq, h6.hwY_eq⟩,
    hcounted, rfl⟩

/-! ## The loop -/

theorem sound_probeFrame (marker : Nat) :
    Keeps anyEnd (fun _ => True) Sound (probeFrame mem marker) := by
  refine keeps_bind (keeps_modify fun _ h => h) fun _ => ?_
  -- a header that is too short leaves the picture as it was
  refine keeps_bind (sound_of_frame (frame_get2Bytes mem apart_kept)) fun headerLength => ?_
  refine keeps_bind (keeps_gets _) fun short => keeps_ite _ ?_ ⟨fun p _ => wp_probeFrameBody mem p⟩
  exact sound_of_frame (frame_fail apart_kept)

theorem sound_segment (rounds bufferSize marker : Nat) :
    Keeps anyEnd (fun _ => True) Sound (segment mem rounds bufferSize marker) := by
  refine keeps_ite _ (sound_probeFrame mem marker) ?_
  refine keeps_ite _ (sound_of_frame (frame_probeScan mem)) ?_
  refine keeps_ite _ (sound_of_frame (frame_probeRestart mem)) ?_
  refine keeps_ite _ (sound_of_frame (frame_probeApp0 mem rounds bufferSize)) ?_
  refine keeps_ite _ (sound_of_frame (frame_jumpOver mem)) ?_
  exact keeps_ite _ (keeps_exit (fun _ _ => trivial) _) (keeps_pure _)

theorem sound_round (rounds bufferSize : Nat) :
    Keeps anyEnd (fun _ => True) Sound (round mem rounds bufferSize) := by
  have hbyte : Keeps anyEnd (fun _ => True) Sound (getByte mem) :=
    sound_of_frame (frame_getByte mem apart_kept)
  have hcheck : ∀ (r : JpegDecRet) (c : Probe → Prop) [DecidablePred c],
      Keeps anyEnd (fun _ => True) Sound (exitIf r c : Probing Unit) :=
    fun r c _ => keeps_exitIf (fun _ _ => trivial) r c
  refine keeps_bind (keeps_gets _) fun inside => keeps_ite _ ?_ (keeps_pure _)
  refine keeps_bind ?_ (fun found => keeps_ite _ ?_ ?_)
  · refine keeps_bind (keeps_gets _) fun again => keeps_ite _ (keeps_pure _) ?_
    exact keeps_bind hbyte (fun b => keeps_pure _)
  · refine keeps_bind hbyte (fun marker => keeps_bind (keeps_modify fun _ h => h) fun _ => ?_)
    refine keeps_bind (sound_segment mem rounds bufferSize marker) fun _ => ?_
    refine keeps_bind (keeps_gets _) fun done => keeps_ite _ (keeps_pure _) ?_
    refine keeps_bind (hcheck _ _) (fun _ => ?_)
    exact keeps_bind (sound_of_frame frame_nextBit) fun _ => keeps_pure _
  · exact keeps_bind (hcheck _ _) (fun _ => keeps_exit (fun _ _ => trivial) _)

end Probe

open Probe

/-- **What `JpegDecGetImageInfo` admits**: there is no picture, or it is one the hardware
supports; and a scan header was found. -/
structure Probed (c : JpegDecContainer) (p : Probe) : Prop where
  limits_eq : limits p.cont = limits c
  picture : Blank (geometry p) ∨ Admitted (limits c) (geometry p)
  init_ne : p.cont.info.init ≠ 0

/-- The image information that is asked for of any instance is of that kind. -/
theorem probed_of_next {mem : Nat → UInt8} {rounds : Nat} {pDecIn : JpegDecInput}
    {junk : JpegDecImageInfo} {c : JpegDecContainer} {p : Probe}
    (h : jpegDecGetImageInfo mem rounds pDecIn (probeStart pDecIn junk c) = .next () p) :
    Probed c p := by
  have hlimits : Probe.limits p = limits c :=
    (Frame.part (frame_jpegDecGetImageInfo mem rounds pDecIn) Standing.limits).next h
  have hblank : Sound (probeStart pDecIn junk c) := Or.inl ⟨rfl, rfl⟩
  have hsound : wp (jpegDecGetImageInfo mem rounds pDecIn)
      (fun _ p => Sound p ∧ p.cont.info.init ≠ 0) (fun _ _ => True) anyEnd
      (probeStart pDecIn junk c) := by
    refine wp_of_check fun _ => wp_of_check fun _ => wp_of_check fun _ => wp_of_check fun _ => ?_
    have hloop := keeps_loop (sound_round mem rounds pDecIn.bufferSize) (fun _ _ => trivial)
      (e := .rounds) rounds
    refine wp_seq (hloop.run _ hblank) fun _ p hp => wp_of_check fun hinit => ?_
    exact ⟨hp, hinit⟩
  obtain ⟨hp, hinit⟩ := wp_next hsound h
  unfold Sound at hp
  rw [hlimits] at hp
  exact ⟨hlimits, hp, hinit⟩

end Jpeg

end Rk3399
