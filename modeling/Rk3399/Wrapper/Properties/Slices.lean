import Mathlib.Order.Bounds.Basic
import Rk3399.Jpeg.Helpers.Geometry
import Rk3399.Wrapper.Model.Picture
/-!
# The slices of a large picture

A picture of more pels than the hardware takes at once is decoded in slices.
The wrapper counts the MCUs of a row itself and makes the slices as high as
their MCUs allow; the decoder checks the height with counts of its own. Both
are the counts of the probing parser, so that what the wrapper chooses the
decoder takes.
-/

namespace Rk3399

namespace Wrapper

open Prog
open Jpeg (JpegDecContainer JpegDecImageInfo JpegDecInput JpegDecRet)

/-! ## The loop -/

section loop

variable {mcus n : Nat}

/-- The largest number of rows whose MCUs stay below the bound. -/
def highest (mcus : Nat) : Nat := (Jpeg.JPEGDEC_MAX_SLICE_SIZE_8190 - 1) / mcus

theorem le_highest_iff (hmcus : 0 < mcus) : n ≤ highest mcus ↔ n * mcus < 8100 := by
  have hdiv : n ≤ highest mcus ↔ n * mcus ≤ 8099 := Nat.le_div_iff_mul_le hmcus
  omega

theorem isGreatest_highest (hmcus : 0 < mcus) :
    IsGreatest {n | n * mcus < Jpeg.JPEGDEC_MAX_SLICE_SIZE_8190} (highest mcus) :=
  ⟨(le_highest_iff hmcus).mp (Nat.le_refl _), fun _ h => (le_highest_iff hmcus).mpr h⟩

/-- A round below the highest slice makes it one row higher, and goes on where there is
room for another. -/
theorem sliceRound_eq (hmcus : 0 < mcus) (hn : n < highest mcus) :
    sliceRound mcus n = .next (decide (n + 1 < highest mcus)) (n + 1) := by
  have hlt : (n + 1) * mcus < 8100 := (le_highest_iff hmcus).mp hn
  have hle : mcus ≤ (n + 1) * mcus := Nat.le_mul_of_pos_left _ (Nat.succ_pos n)
  have hrows : n + 1 ≤ (n + 1) * mcus := Nat.le_mul_of_pos_right _ hmcus
  have hnext : (n + 1) * mcus + mcus < 8100 ↔ n + 1 < highest mcus := by
    rw [← Nat.succ_mul]
    exact (le_highest_iff hmcus).symm
  have hround : sliceRound mcus n =
      .next (decide (u32 (u32 (u32 (n + 1) * mcus) + mcus) < 8100)) (u32 (n + 1)) := rfl
  rw [hround, u32_of_lt (n := n + 1) (by omega), u32_of_lt (n := (n + 1) * mcus) (by omega),
    u32_of_lt (by omega)]
  simp only [hnext]

/-- **The loop ends with the highest slice.** -/
theorem loop_sliceRound (hmcus : 0 < mcus) : ∀ (rounds n : Nat), n < highest mcus →
    highest mcus ≤ n + rounds →
      loop .rounds (sliceRound mcus) rounds n = .next () (highest mcus) := by
  intro rounds
  induction rounds with
  | zero =>
    intro n hn hle
    omega
  | succ rounds ih =>
    intro n hn hle
    rw [loop_succ, sliceRound_eq hmcus hn]
    by_cases hgo : n + 1 < highest mcus
    · rw [decide_eq_true hgo]
      exact ih (n + 1) hgo (by omega)
    · rw [decide_eq_false hgo]
      show Outcome.next () (n + 1) = _
      rw [show n + 1 = highest mcus by omega]

end loop

/-! ## The picture -/

section picture

variable {c : JpegDecContainer} {p : Jpeg.Probe}

/-- A probe whose picture is sliced: the numbers of MCUs of the wrapper and of the decoder. -/
structure Large (p : Jpeg.Probe) : Prop where
  rowMcus_pos : 63 ≤ rowMcus p.imageInfo
  rowMcus_le : rowMcus p.imageInfo ≤ 511
  row_eq : p.cont.frame.numMcuInRow / Jpeg.mcuSizeDivider p.cont = rowMcus p.imageInfo
  frame_le : Jpeg.JPEGDEC_MAX_SLICE_SIZE_8190 ≤ p.cont.frame.numMcuInFrame

/-- A large picture is inside the limits, and neither of its sides is short. -/
theorem sides_of_large {w h : Nat} (hw : w ≤ 8176) (hh : h ≤ 8176) (hlarge : 16370688 < w * h) :
    2002 < w ∧ w * h < 2 ^ 32 := by
  constructor
  · by_contra hle
    have hmul : w * h ≤ 2002 * 8176 := Nat.mul_le_mul (by omega) hh
    omega
  · have hmul : w * h ≤ 8176 * 8176 := Nat.mul_le_mul hw hh
    omega

/-- The wrapper counts MCUs of the width the probing parser does. -/
theorem mcuInRow_eq {info : JpegDecImageInfo} {w area : Nat}
    (hmem : (info.outputFormat, w, area) ∈ Jpeg.Probe.formats) :
    mcuInRow info = info.outputWidth / w := by
  simp only [Jpeg.Probe.formats, List.mem_cons, Prod.mk.injEq, List.not_mem_nil, or_false] at hmem
  rcases hmem with ⟨h, rfl, -⟩ | ⟨h, rfl, -⟩ | ⟨h, rfl, -⟩ | ⟨h, rfl, -⟩ | ⟨h, rfl, -⟩ | ⟨h, rfl, -⟩
  all_goals
    unfold mcuInRow
    rw [h]
    rfl

/-- An MCU as both count it is one or two macroblocks wide, and has no more pels than
a macroblock. -/
theorem format_size (info : JpegDecImageInfo) {w area : Nat}
    (hmem : (info.outputFormat, w, area) ∈ Jpeg.Probe.formats) :
    (w * mcuSizeDivider info = 16 ∨ w * mcuSizeDivider info = 32) ∧ 0 < area ∧ area ≤ 256 := by
  simp only [Jpeg.Probe.formats, List.mem_cons, Prod.mk.injEq, List.not_mem_nil, or_false] at hmem
  rcases hmem with ⟨h, rfl, rfl⟩ | ⟨h, rfl, rfl⟩ | ⟨h, rfl, rfl⟩ | ⟨h, rfl, rfl⟩ | ⟨h, rfl, rfl⟩ |
    ⟨h, rfl, rfl⟩
  all_goals
    unfold mcuSizeDivider
    rw [h]
    decide

/-- **The counts agree**, in every format. -/
theorem large_of_admitted (hlimits : Jpeg.limits c = Jpeg.limits Jpeg.jpegDecInit)
    (h : Jpeg.Probe.Admitted (Jpeg.limits c) (Jpeg.Probe.geometry p))
    (hlarge : Jpeg.JPEGDEC_MAX_PIXEL_AMOUNT <
      p.imageInfo.outputWidth * p.imageInfo.outputHeight) : Large p := by
  rw [hlimits] at h
  have hw : p.imageInfo.outputWidth ≤ 8176 := h.width_le
  have hh : p.imageInfo.outputHeight ≤ 8176 := h.height_le
  have hdvd : 16 ∣ p.imageInfo.outputWidth := h.width_dvd
  have hX : p.cont.frame.hwX = p.imageInfo.outputWidth := h.hwX_eq
  have hY : p.cont.frame.hwY = p.imageInfo.outputHeight := h.hwY_eq
  have hmode : p.cont.info.getInfoYCbCrMode = p.imageInfo.outputFormat := h.mode_eq
  have hpels : 16370688 < p.imageInfo.outputWidth * p.imageInfo.outputHeight := hlarge
  obtain ⟨hwide, hamount⟩ := sides_of_large hw hh hpels
  obtain ⟨w, area, hmem, hrow, hframe⟩ := h.counted
  obtain ⟨hsize, harea, harea256⟩ := format_size p.imageInfo hmem
  have hrow : p.cont.frame.numMcuInRow = p.imageInfo.outputWidth / w := hX ▸ hrow
  have hframe : p.cont.frame.numMcuInFrame =
      p.imageInfo.outputWidth * p.imageInfo.outputHeight / area := by
    rw [← u32_of_lt hamount, ← hX, ← hY]
    exact hframe
  have hdivider : Jpeg.mcuSizeDivider p.cont = mcuSizeDivider p.imageInfo := by
    unfold Jpeg.mcuSizeDivider mcuSizeDivider
    rw [hmode]
  -- the macroblocks of a row, by the width of an MCU
  have hcount : rowMcus p.imageInfo =
      p.imageInfo.outputWidth / (w * mcuSizeDivider p.imageInfo) := by
    rw [rowMcus, mcuInRow_eq hmem, Nat.div_div_eq_div_mul]
  refine ⟨?_, ?_, ?_, ?_⟩
  · rcases hsize with hsize | hsize
    · rw [hcount, hsize]
      omega
    · rw [hcount, hsize]
      omega
  · rcases hsize with hsize | hsize
    · rw [hcount, hsize]
      omega
    · rw [hcount, hsize]
      omega
  · rw [hrow, hdivider, rowMcus, mcuInRow_eq hmem]
  · show 8100 ≤ p.cont.frame.numMcuInFrame
    rw [hframe, Nat.le_div_iff_mul_le harea]
    have hmul : 8100 * area ≤ 8100 * 256 := Nat.mul_le_mul_left 8100 harea256
    omega

/-! ## The checks of the decoder -/

/-- What the checks of a slice look at. -/
def sliceView (c : JpegDecContainer) : Jpeg.FrameInfo × Jpeg.DecInfo × Jpeg.Limits :=
  (c.frame, c.info, Jpeg.limits c)

/-- A call on an instance with its image information leaves alone what the checks look
at until it comes to them. -/
theorem sliceView_openStream {env : Jpeg.Env} {junk : JpegDecImageInfo} {pDecIn : JpegDecInput}
    {c c' : JpegDecContainer} (hinit : c.info.init ≠ 0)
    (h : Jpeg.openStream env junk pDecIn c = .next () c') : sliceView c' = sliceView c := by
  unfold Jpeg.openStream at h
  obtain ⟨_, c1, h1, h⟩ := bind_eq_next h
  cases h1
  obtain ⟨_, c2, h2, h⟩ := bind_eq_next h
  have hinput := Frame.next (f := sliceView) (Jpeg.frame_checkInput pDecIn) h2
  have hview : sliceView c2 = sliceView c := hinput
  have hinfo : c2.info = c.info := congrArg (fun v => v.2.1) hview
  have hinit2 : c2.info.init ≠ 0 := hinfo ▸ hinit
  -- the image information is not asked for again
  obtain ⟨_, c3, h3, h⟩ := bind_eq_next h
  unfold Jpeg.probeImage at h3
  rw [bind_next (show gets _ c2 = .next _ c2 from rfl), if_neg (by simp [hinit2])] at h3
  cases h3
  cases h
  unfold Jpeg.storeStream
  split
  · exact hview
  · exact hview

/-- **The checks of the slices are passed**: behind the checks of the other arguments
`JpegDecDecode` goes on. -/
def PassesSliceChecks (pDecIn : JpegDecInput) (c : JpegDecContainer) : Prop :=
  ∀ (env : Jpeg.Env) (junk : JpegDecImageInfo) (c' : JpegDecContainer),
    Jpeg.openStream env junk pDecIn c = .next () c' →
      Jpeg.checkFeatures pDecIn { c' with info.sliceMbSetValue := pDecIn.sliceMbSet } =
        .next () { c' with info.sliceMbSetValue := pDecIn.sliceMbSet }

variable {pDecIn : JpegDecInput}

/-- Slices whose MCUs fit the hardware and the picture pass the checks of a baseline
picture. -/
theorem checkFeatures_baseline {n : Nat}
    (hlimits : Jpeg.limits c = Jpeg.limits Jpeg.jpegDecInit)
    (hop : c.info.operationType = Jpeg.JPEGDEC_BASELINE) (hn : n ≠ 0)
    (hslice : Jpeg.mcusInSlice n c ≤ 8100) (hframe : 8100 ≤ c.frame.numMcuInFrame) :
    Jpeg.checkFeatures (jpegIn pDecIn n) c = .next () c := by
  have hsupport : Jpeg.checkSupport (jpegIn pDecIn n) c = .next () c := by
    have h8190 : c.is8190 = 1 := congrArg Jpeg.Limits.is8190 hlimits
    have hmax : c.maxSupportedSliceSize = 8100 := congrArg Jpeg.Limits.maxSupportedSliceSize hlimits
    have hnot : c.info.operationType ≠ Jpeg.JPEGDEC_PROGRESSIVE := by
      rw [hop]
      decide
    unfold Jpeg.checkSupport
    rw [bind_next (show gets _ c = .next _ c from rfl), if_neg (by simp [h8190])]
    rw [bind_next (exitIf_of_not _ fun h => hnot h.2)]
    rw [bind_next (exitIf_of_not _ ?_), bind_next (exitIf_of_not _ fun h => hn h.1)]
    · exact exitIf_of_not _ (hmax ▸ Nat.not_lt.mpr hslice)
    · rintro (h | h)
      · exact h.2.2 hop
      · exact (show ¬ Jpeg.JPEGDEC_IMAGE = Jpeg.JPEGDEC_THUMBNAIL by decide) h.2.1
  unfold Jpeg.checkFeatures
  rw [bind_next hsupport]
  exact exitIf_of_not _ fun h => absurd (Nat.le_trans hslice hframe) (Nat.not_le.mpr h.2.2.2)

/-- **The slices the wrapper chooses are admissible.** For every large picture the image
information of which was asked for, the loop ends, with the highest slices whose MCUs
stay below the bound; their height fits its register, and the decoder takes them for a
baseline picture. -/
theorem chooseSliceMbSet_admissible (hc : Jpeg.Reachable c) (env : Jpeg.Env)
    (junk : JpegDecImageInfo)
    (hp : Jpeg.jpegDecGetImageInfo env.mem env.rounds pDecIn (Jpeg.probeStart pDecIn junk c) =
      .next () p)
    (hlarge : Jpeg.JPEGDEC_MAX_PIXEL_AMOUNT <
      p.imageInfo.outputWidth * p.imageInfo.outputHeight) :
    ∃ n, (∀ rounds before, 255 < rounds →
        chooseSliceMbSet rounds p.imageInfo before = .next () n) ∧
      n ≤ 255 ∧
      IsGreatest {k | k * rowMcus p.imageInfo < Jpeg.JPEGDEC_MAX_SLICE_SIZE_8190} n ∧
      (p.cont.info.operationType = Jpeg.JPEGDEC_BASELINE → ∀ colorConv pictureMem,
        PassesSliceChecks (jpegIn pDecIn n)
          (attach colorConv pictureMem p.imageInfo p.cont)) := by
  have hlimits := Jpeg.limits_of_reachable hc
  have hprobed := Jpeg.probed_of_next hp
  have hadmitted := hprobed.picture.resolve_left fun hblank => by
    have hzero : p.imageInfo.outputWidth = 0 := hblank.1
    rw [hzero, Nat.zero_mul] at hlarge
    exact Nat.not_lt_zero _ hlarge
  obtain ⟨hpos, hle, hrow, hframe⟩ := large_of_admitted hlimits hadmitted hlarge
  have hmcus : 0 < rowMcus p.imageInfo := by omega
  have hone : 1 ≤ highest (rowMcus p.imageInfo) := (le_highest_iff hmcus).mpr (by omega)
  have hhigh : highest (rowMcus p.imageInfo) * rowMcus p.imageInfo < 8100 :=
    (le_highest_iff hmcus).mp (Nat.le_refl _)
  -- a picture of this size has at least 63 MCUs in a row
  have hbyte : highest (rowMcus p.imageInfo) ≤ 255 := by
    by_contra hlt
    have hmul : 256 * 63 ≤ highest (rowMcus p.imageInfo) * rowMcus p.imageInfo :=
      Nat.mul_le_mul (by omega) hpos
    omega
  refine ⟨highest (rowMcus p.imageInfo), fun rounds before hrounds => ?_, hbyte,
    isGreatest_highest hmcus, fun hop colorConv pictureMem env' junk' c' hopen => ?_⟩
  · have hsliced : Sliced p.imageInfo := by
      obtain ⟨-, hamount⟩ := sides_of_large (hlimits ▸ hadmitted).width_le
        (hlimits ▸ hadmitted).height_le hlarge
      unfold Sliced
      rwa [u32_of_lt hamount]
    unfold chooseSliceMbSet
    rw [bind_next (show modify (fun _ => 0) before = .next () 0 from rfl)]
    unfold whenever
    rw [if_pos ⟨rfl, hsliced⟩]
    exact loop_sliceRound hmcus rounds 0 (by omega) (by omega)
  · -- opening the stream keeps what the checks look at
    have hview : sliceView c' = sliceView p.cont :=
      sliceView_openStream (c := attach colorConv pictureMem p.imageInfo p.cont)
        hprobed.init_ne hopen
    have hc' : Jpeg.limits c' = Jpeg.limits Jpeg.jpegDecInit :=
      (congrArg (fun v => v.2.2) hview).trans (hprobed.limits_eq.trans hlimits)
    have hframe' : c'.frame = p.cont.frame := congrArg Prod.fst hview
    have hinfo' : c'.info = p.cont.info := congrArg (fun v => v.2.1) hview
    have hcount : Jpeg.mcusInSlice (highest (rowMcus p.imageInfo)) p.cont =
        highest (rowMcus p.imageInfo) * rowMcus p.imageInfo := by
      rw [Jpeg.mcusInSlice, hrow, u32_of_lt (by omega)]
    have hslice : Jpeg.mcusInSlice (highest (rowMcus p.imageInfo)) c' ≤ 8100 := by
      have hsame : Jpeg.mcusInSlice (highest (rowMcus p.imageInfo)) c' =
          Jpeg.mcusInSlice (highest (rowMcus p.imageInfo)) p.cont := by
        rw [Jpeg.mcusInSlice, Jpeg.mcusInSlice, Jpeg.mcuSizeDivider, Jpeg.mcuSizeDivider, hframe',
          hinfo']
      omega
    exact checkFeatures_baseline (c := { c' with info.sliceMbSetValue := _ }) hc'
      ((congrArg Jpeg.DecInfo.operationType hinfo').trans hop) (by omega) hslice (hframe' ▸ hframe)

/-- A picture of 4096 by 4096 pels is large. -/
theorem chooseSliceMbSet_admissible_4096 :
    ∃ n, (∀ rounds before, 255 < rounds →
        chooseSliceMbSet rounds (probeOf (paddedPicture 4096 4096)).imageInfo before =
          .next () n) ∧
      n ≤ 255 ∧
      IsGreatest {k | k * rowMcus (probeOf (paddedPicture 4096 4096)).imageInfo <
        Jpeg.JPEGDEC_MAX_SLICE_SIZE_8190} n ∧
      ((probeOf (paddedPicture 4096 4096)).cont.info.operationType = Jpeg.JPEGDEC_BASELINE →
        ∀ colorConv pictureMem, PassesSliceChecks
          (jpegIn (streamInput (paddedPicture 4096 4096)) n)
          (attach colorConv pictureMem (probeOf (paddedPicture 4096 4096)).imageInfo
            (probeOf (paddedPicture 4096 4096)).cont)) :=
  chooseSliceMbSet_admissible .init (streamEnv (paddedPicture 4096 4096)).toEnv {}
    (p := probeOf (paddedPicture 4096 4096)) (Outcome.IsNext.eq (by decide +kernel))
    (by decide +kernel)

end picture

end Wrapper

end Rk3399
