import Rk3399.Jpeg.Helpers.Geometry
import Rk3399.Jpeg.Helpers.Start
import Rk3399.Wrapper.Model.Picture
/-!
# What the post-processor is told of the size

The decoder takes pictures of up to 8176 by 8176 pels, and the wrapper has
the post-processor leave them at that size. The fields of the input size
hold such numbers, those of the output size have eleven bits: a larger size
loses its upper bits, and nothing looks at the field again before the
hardware is started.
-/

namespace Rk3399

namespace Wrapper

open Jpeg

/-! ## The writes -/

/-- The writes of the sizes. -/
def sizeWrites (dst : Jpeg.MppBufferInfo) (width height outWidth outHeight : Nat) :
    List (BitField × Nat) :=
  (HWIF_EXT_ORIG_WIDTH, width >>> 4) :: ppInSize width height ++ ppOutSize dst outWidth outHeight

/-- The words of the sizes. -/
def sizeWords : List Nat := [34, 35, 39]

/-- None of the writes goes to a word of the sizes. -/
def Sizeless (ws : List (BitField × Nat)) : Prop := ∀ f ∈ ws.map Prod.fst, f.reg ∉ sizeWords

theorem Sizeless.append {ws ws' : List (BitField × Nat)} (h : Sizeless ws) (h' : Sizeless ws') :
    Sizeless (ws ++ ws') := by
  unfold Sizeless
  rw [List.map_append]
  intro f hf
  rcases List.mem_append.mp hf with hf | hf
  · exact h f hf
  · exact h' f hf

theorem sizeless_ppInFormat {inColor : Nat} {ws : List (BitField × Nat)}
    (h : ppInFormat inColor = some ws) : Sizeless ws := by
  unfold ppInFormat at h
  split_ifs at h
  all_goals
    cases h
    simp only [Sizeless, List.map_cons, List.map_nil]
    decide

theorem sizeless_ppColour (outColor : Nat) : Sizeless (ppColour outColor) := by
  unfold ppColour
  split
  all_goals
    simp only [Sizeless, List.map_cons, List.map_nil, List.map_append]
    decide

theorem sizeless_ppOutFormat {dst : Jpeg.MppBufferInfo} {outColor dither : Nat}
    {ws : List (BitField × Nat)} (h : ppOutFormat dst outColor dither = some ws) : Sizeless ws := by
  unfold ppOutFormat at h
  split_ifs at h
  all_goals
    cases h
    simp only [Sizeless, List.map_cons, List.map_nil, List.map_append]
    decide

theorem sizeless_ppScaling (inWidth inHeigth outWidth outHeight : Nat) (ppInfo : PostProcessInfo) :
    Sizeless (ppScaling inWidth inHeigth outWidth outHeight ppInfo) := by
  have hscale : ∀ {mode ratio invra : BitField}, mode.reg ∉ sizeWords → ratio.reg ∉ sizeWords →
      invra.reg ∉ sizeWords → ∀ round n m, Sizeless (ppScale mode ratio invra round n m) := by
    intro mode ratio invra hmode hratio hinvra round n m
    unfold ppScale Sizeless
    split_ifs
    all_goals simp [hmode, hratio, hinvra]
  have hfixed : Sizeless [(HWIF_ROTATION_MODE, 0)] ∧
      Sizeless [(HWIF_PP_PIPELINE_E, ppInfo.enable)] := by
    simp only [Sizeless, List.map_cons, List.map_nil]
    decide
  refine .append (.append (.append hfixed.1 (hscale ?_ ?_ ?_ _ _ _)) (hscale ?_ ?_ ?_ _ _ _))
    hfixed.2
  all_goals decide

/-- **The sizes are written once**, behind the registers that do not depend on the picture. -/
theorem setPostProcessor_writes (dst : Jpeg.MppBufferInfo)
    (inWidth inHeigth outWidth outHeight inColor : Nat) {ppInfo : PostProcessInfo}
    (hcrop : ppInfo.cropW = 0) : ∃ rest, Sizeless rest ∧
      (setPostProcessor dst inWidth inHeigth outWidth outHeight inColor ppInfo).2 =
        ppFixed ++ sizeWrites dst inWidth inHeigth outWidth outHeight ++ rest := by
  unfold setPostProcessor
  simp only [hcrop, ne_eq, not_true_eq_false, decide_false, Bool.false_eq_true, if_false]
  cases hin : ppInFormat inColor with
  | none =>
    refine ⟨[], ?_, by simp [sizeWrites]⟩
    intro f hf
    cases hf
  | some input =>
    have hinput : Sizeless (input ++ ppColour ppInfo.outFomart) :=
      (sizeless_ppInFormat hin).append (sizeless_ppColour _)
    cases hout : ppOutFormat dst ppInfo.outFomart ppInfo.shouldDither with
    | none => exact ⟨_, hinput, by simp [sizeWrites]⟩
    | some output =>
      refine ⟨_, (hinput.append (sizeless_ppOutFormat hout)).append
        (sizeless_ppScaling inWidth inHeigth outWidth outHeight ppInfo), by simp [sizeWrites]⟩

/-! ## What is read back -/

section geometry

variable {dst : Jpeg.MppBufferInfo} {inWidth inHeigth outWidth outHeight inColor : Nat}
  {ppInfo : PostProcessInfo} {c : JpegDecContainer} {file : WordFile 32}

/-- A size reads back modulo the width of its field. -/
theorem rkGetRegisterFile_size (hcrop : ppInfo.cropW = 0)
    (hc : c.jpegRegs = BitField.writes (asWords (setPostProcessor dst inWidth inHeigth outWidth
      outHeight inColor ppInfo).2) file) {f : BitField} {value : Nat}
    (hmem : (f, value) ∈ sizeWrites dst inWidth inHeigth outWidth outHeight)
    (hword : f.reg ∈ sizeWords) (hf : f.Fits 32) :
    rkGetRegisterFile f c = value % 2 ^ f.bits := by
  obtain ⟨rest, hrest, hwrites⟩ :=
    setPostProcessor_writes dst inWidth inHeigth outWidth outHeight inColor hcrop
  have hpairwise : (sizeWrites dst inWidth inHeigth outWidth outHeight).Pairwise
      fun p q => p.1.Disjoint q.1 := by
    rw [← List.pairwise_map (f := Prod.fst) (R := BitField.Disjoint)]
    simp only [sizeWrites, ppInSize, ppOutSize, List.map_cons, List.map_nil, List.map_append]
    decide
  have hbehind : ∀ p ∈ asWords rest, p.1.Disjoint f := by
    intro p hp
    obtain ⟨q, hq, rfl⟩ := List.mem_map.mp hp
    refine Or.inl fun heq => hrest q.1 (List.mem_map_of_mem hq) ?_
    rw [heq]
    exact hword
  rw [hwrites, asWords, List.map_append, List.map_append, BitField.writes_append,
    BitField.writes_append] at hc
  have hget : rkGetRegisterFile f c = (f.get (BitField.writes (asWords (sizeWrites dst inWidth
      inHeigth outWidth outHeight)) (BitField.writes (asWords ppFixed) file))).toNat := by
    rw [rkGetRegisterFile, hc]
    exact congrArg BitVec.toNat (BitField.get_writes_of_disjoint _ hbehind _)
  rw [hget]
  exact rkGetRegisterFile_writes (c := { c with jpegRegs := _ }) hpairwise hf hmem rfl

end geometry

/-- A number of macroblocks over a field of nine bits and its extension of three. -/
theorem split_width (n : Nat) :
    512 * (((n &&& 0xE00) >>> 9) % 2 ^ 3) + (n &&& 0x1FF) % 2 ^ 9 = n % 4096 := by
  have hlow : n &&& 0x1FF = n % 512 := Nat.and_two_pow_sub_one_eq_mod n 9
  have hhigh : (n &&& 0xE00) >>> 9 = n / 512 % 8 := by
    rw [Nat.shiftRight_and_distrib, Nat.shiftRight_eq_div_pow]
    exact Nat.and_two_pow_sub_one_eq_mod _ 3
  omega

/-- The same over a field of eight bits. -/
theorem split_height (n : Nat) :
    256 * (((n &&& 0x700) >>> 8) % 2 ^ 3) + (n &&& 0x0FF) % 2 ^ 8 = n % 2048 := by
  have hlow : n &&& 0x0FF = n % 256 := Nat.and_two_pow_sub_one_eq_mod n 8
  have hhigh : (n &&& 0x700) >>> 8 = n / 256 % 8 := by
    rw [Nat.shiftRight_and_distrib, Nat.shiftRight_eq_div_pow]
    exact Nat.and_two_pow_sub_one_eq_mod _ 3
  omega

/-- **The sizes read back**: the input size over the fields it is split into, the output
size and the width of the display. -/
structure GeometryKept (info : JpegDecImageInfo) (c : JpegDecContainer) : Prop where
  inWidth : 16 * (512 * rkGetRegisterFile HWIF_PP_IN_W_EXT c +
    rkGetRegisterFile HWIF_PP_IN_WIDTH c) =
    info.outputWidth
  inHeigth : 16 * (256 * rkGetRegisterFile HWIF_PP_IN_H_EXT c +
    rkGetRegisterFile HWIF_PP_IN_HEIGHT c) = info.outputHeight
  outWidth : rkGetRegisterFile HWIF_PP_OUT_WIDTH c = (ppScaleSize true info).1
  outHeight : rkGetRegisterFile HWIF_PP_OUT_HEIGHT c = (ppScaleSize true info).2
  displayWidth : rkGetRegisterFile HWIF_DISPLAY_WIDTH c = (ppScaleSize true info).1

/-- **The picture is refused**: the call leaves with a return code before it starts the
hardware, at an argument or a segment or because there is no scan header. -/
def RefusesPicture (env : DecodeEnv) (pDecIn : JpegDecInput) (c : JpegDecContainer) : Prop :=
  (∃ r d, beforeStart env pDecIn { cont := c } = .exit r d) ∨
    ∃ d, beforeStart env pDecIn { cont := c } = .next true d ∧ d.cont.image.headerReady = 0 ∧
      d.cont.image.imageReady = 0

/-- The output size fits its fields. -/
def OutputFits (info : JpegDecImageInfo) : Prop :=
  info.outputWidth < 2048 ∧ info.outputHeight < 2048

/-- A size in macroblocks is one the wrapper need not round up. -/
theorem alignUp_eq {m a : Nat} (hm : m ∣ 16) (ha : 16 ∣ a) (hlt : a < 2 ^ 31) :
    alignUp m a = a := by
  obtain ⟨k, rfl⟩ := Nat.dvd_trans hm ha
  have hpos : 0 < m := Nat.pos_of_dvd_of_pos hm (by decide)
  have hle : m ≤ 16 := Nat.le_of_dvd (by decide) hm
  rw [alignUp, alignDown, u32_of_lt (by omega)]
  rw [Nat.mul_add_div hpos, Nat.div_eq_of_lt (by omega : m - 1 < m), Nat.add_zero, Nat.mul_comm]

section picture

variable {c : JpegDecContainer} {p : Probe} {info : JpegDecImageInfo} {dst : Jpeg.MppBufferInfo}

/-- A size is a multiple of sixteen the decoder takes. -/
structure IsSize (info : JpegDecImageInfo) : Prop where
  width_dvd : 16 ∣ info.outputWidth
  height_dvd : 16 ∣ info.outputHeight
  width_le : info.outputWidth ≤ 8176
  height_le : info.outputHeight ≤ 8176

theorem isSize_of_probed (hc : Reachable c) (hp : Probed c p) : IsSize p.imageInfo := by
  rcases hp.picture with hblank | hadmitted
  · have hw : p.imageInfo.outputWidth = 0 := hblank.1
    have hh : p.imageInfo.outputHeight = 0 := hblank.2
    exact ⟨hw ▸ Nat.dvd_zero 16, hh ▸ Nat.dvd_zero 16, hw ▸ Nat.zero_le _, hh ▸ Nat.zero_le _⟩
  · rw [limits_of_reachable hc] at hadmitted
    exact ⟨hadmitted.width_dvd, hadmitted.height_dvd, hadmitted.width_le, hadmitted.height_le⟩

theorem IsSize.ppScaleSize (h : IsSize info) :
    ppScaleSize true info = (info.outputWidth, info.outputHeight) := by
  have hw := h.width_le
  have hh := h.height_le
  unfold Wrapper.ppScaleSize
  split
  · rw [alignUp_eq (by decide) h.width_dvd (by omega),
      alignUp_eq (by decide) h.height_dvd (by omega)]
  · rw [alignUp_eq (by decide) h.width_dvd (by omega),
      alignUp_eq (by decide) h.height_dvd (by omega)]

/-- **The sizes read back just where the output size fits its fields.** -/
theorem geometryKept_iff (h : IsSize info) (c : JpegDecContainer) :
    GeometryKept info (attach true dst info c) ↔ OutputFits info := by
  -- each field of the size is read back as it was written, cut to its bits
  have hget : ∀ {f : BitField} {value : Nat}, (f, value) ∈ sizeWrites dst info.outputWidth
      info.outputHeight info.outputWidth info.outputHeight →
      f.reg ∈ sizeWords → f.Fits 32 →
      rkGetRegisterFile f (attach true dst info c) = value % 2 ^ f.bits := by
    intro f value hmem hword hf
    have hregs : (attach true dst info c).jpegRegs =
        BitField.writes (asWords (setPostProcessor dst info.outputWidth info.outputHeight
          info.outputWidth info.outputHeight (ppInputFomart info) (ppInfo true)).2)
          c.jpegRegs := by
      simp only [attach, h.ppScaleSize]
    exact rkGetRegisterFile_size rfl hregs hmem hword hf
  have hWExt : rkGetRegisterFile HWIF_PP_IN_W_EXT (attach true dst info c) =
      (info.outputWidth / 16 &&& 0xE00) >>> 9 % 2 ^ 3 :=
    hget (by simp [sizeWrites, ppInSize]) (by decide) (by decide)
  have hW : rkGetRegisterFile HWIF_PP_IN_WIDTH (attach true dst info c) =
      (info.outputWidth / 16 &&& 0x1FF) % 2 ^ 9 :=
    hget (by simp [sizeWrites, ppInSize]) (by decide) (by decide)
  have hHExt : rkGetRegisterFile HWIF_PP_IN_H_EXT (attach true dst info c) =
      (info.outputHeight / 16 &&& 0x700) >>> 8 % 2 ^ 3 :=
    hget (by simp [sizeWrites, ppInSize]) (by decide) (by decide)
  have hH : rkGetRegisterFile HWIF_PP_IN_HEIGHT (attach true dst info c) =
      (info.outputHeight / 16 &&& 0x0FF) % 2 ^ 8 :=
    hget (by simp [sizeWrites, ppInSize]) (by decide) (by decide)
  have hOutW : rkGetRegisterFile HWIF_PP_OUT_WIDTH (attach true dst info c) =
      info.outputWidth % 2 ^ 11 :=
    hget (by simp [sizeWrites, ppOutSize]) (by decide) (by decide)
  have hOutH : rkGetRegisterFile HWIF_PP_OUT_HEIGHT (attach true dst info c) =
      info.outputHeight % 2 ^ 11 :=
    hget (by simp [sizeWrites, ppOutSize]) (by decide) (by decide)
  have hDisplay : rkGetRegisterFile HWIF_DISPLAY_WIDTH (attach true dst info c) =
      info.outputWidth % 2 ^ 12 :=
    hget (by simp [sizeWrites, ppOutSize]) (by decide) (by decide)
  -- the two fields of an input size hold all of its bits
  have hwidth := split_width (info.outputWidth / 16)
  have hheight := split_height (info.outputHeight / 16)
  have hwdvd := h.width_dvd
  have hhdvd := h.height_dvd
  have hw := h.width_le
  have hh := h.height_le
  constructor
  · intro hkept
    have hoW : _ = info.outputWidth := hkept.outWidth.trans (congrArg Prod.fst h.ppScaleSize)
    have hoH : _ = info.outputHeight := hkept.outHeight.trans (congrArg Prod.snd h.ppScaleSize)
    unfold OutputFits
    omega
  · rintro ⟨hW11, hH11⟩
    refine ⟨?_, ?_, ?_, ?_, ?_⟩
    · omega
    · omega
    · rw [h.ppScaleSize]
      omega
    · rw [h.ppScaleSize]
      omega
    · rw [h.ppScaleSize]
      omega

/-- **The sizes read back or the picture is refused** just where the output size fits its
fields or it is refused, for every picture the image information of which was asked for. -/
theorem geometryKept_or_refused_iff (hc : Reachable c) {env : Env} {junk : JpegDecImageInfo}
    {pDecIn : JpegDecInput}
    (hp : jpegDecGetImageInfo env.mem env.rounds pDecIn (probeStart pDecIn junk c) = .next () p)
    (dst : Jpeg.MppBufferInfo) (decodeEnv : DecodeEnv) (sliceMbSet : Nat) :
    (GeometryKept p.imageInfo (attach true dst p.imageInfo p.cont) ∨
        RefusesPicture decodeEnv (jpegIn pDecIn sliceMbSet)
          (attach true dst p.imageInfo p.cont)) ↔
      OutputFits p.imageInfo ∨
        RefusesPicture decodeEnv (jpegIn pDecIn sliceMbSet)
          (attach true dst p.imageInfo p.cont) :=
  or_congr_left (geometryKept_iff (isSize_of_probed hc (probed_of_next hp)) p.cont)

/-- A picture of 48 by 48 pels fits. -/
theorem geometryKept_or_refused_iff_48 :
    (GeometryKept (probeOf (paddedPicture 48 48)).imageInfo
        (attach true {} (probeOf (paddedPicture 48 48)).imageInfo
          (probeOf (paddedPicture 48 48)).cont) ∨
      RefusesPicture (streamEnv (paddedPicture 48 48))
        (jpegIn (streamInput (paddedPicture 48 48)) 0)
        (attach true {} (probeOf (paddedPicture 48 48)).imageInfo
          (probeOf (paddedPicture 48 48)).cont)) ↔
    OutputFits (probeOf (paddedPicture 48 48)).imageInfo ∨
      RefusesPicture (streamEnv (paddedPicture 48 48))
        (jpegIn (streamInput (paddedPicture 48 48)) 0)
        (attach true {} (probeOf (paddedPicture 48 48)).imageInfo
          (probeOf (paddedPicture 48 48)).cont) :=
  geometryKept_or_refused_iff .init
    (show jpegDecGetImageInfo (streamEnv (paddedPicture 48 48)).toEnv.mem
        (streamEnv (paddedPicture 48 48)).toEnv.rounds (streamInput (paddedPicture 48 48))
        (probeStart (streamInput (paddedPicture 48 48)) {} jpegDecInit) =
      .next () (probeOf (paddedPicture 48 48)) from Outcome.IsNext.eq (by decide +kernel)) {} _ 0

/-- The state before the hardware is started for a stream on a fresh instance. -/
def startOf (bytes : List UInt8) : Jpeg.Decoding :=
  (beforeStart (streamEnv bytes) (jpegIn (streamInput bytes) 0)
    { cont := attach true {} (probeOf bytes).imageInfo (probeOf bytes).cont }).state

/-- **A picture of 2048 by 48 pels** is not refused, and its output width reads back as
zero. -/
theorem not_geometryKept_2048 : ¬ ∀ (c : JpegDecContainer) (p : Probe) (env : Env)
    (junk : JpegDecImageInfo) (pDecIn : JpegDecInput) (dst : Jpeg.MppBufferInfo)
    (decodeEnv : DecodeEnv) (sliceMbSet : Nat), Reachable c →
    jpegDecGetImageInfo env.mem env.rounds pDecIn (probeStart pDecIn junk c) = .next () p →
    GeometryKept p.imageInfo (attach true dst p.imageInfo p.cont) ∨
      RefusesPicture decodeEnv (jpegIn pDecIn sliceMbSet)
        (attach true dst p.imageInfo p.cont) := by
  intro hall
  have hstart : beforeStart (streamEnv (paddedPicture 2048 48))
      (jpegIn (streamInput (paddedPicture 2048 48)) 0)
      { cont := attach true {} (probeOf (paddedPicture 2048 48)).imageInfo
          (probeOf (paddedPicture 2048 48)).cont } =
      .next true (startOf (paddedPicture 2048 48)) := Outcome.IsNext.eq (by decide +kernel)
  rcases hall jpegDecInit (probeOf (paddedPicture 2048 48))
    (streamEnv (paddedPicture 2048 48)).toEnv {} (streamInput (paddedPicture 2048 48)) {}
    (streamEnv (paddedPicture 2048 48)) 0 .init (Outcome.IsNext.eq (by decide +kernel)) with h | h
  · exact absurd h.outWidth (by decide +kernel)
  · rcases h with ⟨r, d, h⟩ | ⟨d, h, hready, -⟩
    · cases hstart.symm.trans h
    · have hd : startOf (paddedPicture 2048 48) = d :=
        (Outcome.next.inj (hstart.symm.trans h)).2
      rw [← hd] at hready
      exact absurd hready (by decide +kernel)

end picture

end Wrapper

end Rk3399
