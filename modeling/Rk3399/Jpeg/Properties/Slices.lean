import Rk3399.Jpeg.Helpers.SliceSteps
/-!
# The slices of a picture

A baseline picture that is decoded slice by slice takes one call and one
start of the hardware for each slice. The height of a slice is computed from
counters that live over the calls and is handed over in a register of eight
bits. While rows are left, the slices take them in turn, each `S` rows or the
rows that are left, exactly where `S` fits the register, or where one slice
takes the whole picture and its size in pels does not wrap.
-/

namespace Rk3399

namespace Jpeg

open Prog

/-! ## Tilings -/

/-- Heights, the last one first, that **tile** `rows` rows in slices of `S`: each slice takes
`S` rows, or what is left. -/
inductive Tiles (S rows : Nat) : List Nat → Prop
  | nil : Tiles S rows []
  | cons {h : Nat} {hs : List Nat} (htiles : Tiles S rows hs) (hh : h = min S (rows - hs.sum)) :
      Tiles S rows (h :: hs)

section tiles

variable {S rows : Nat} {hs : List Nat}

/-- **The rows of a tiling** are those of its slices, up to the last row. -/
theorem Tiles.sum (h : Tiles S rows hs) : hs.sum = min (hs.length * S) rows := by
  induction h with
  | nil => simp
  | cons _ hh ih =>
    rw [List.sum_cons, List.length_cons, Nat.add_one_mul, hh, ih]
    omega

/-- A slice behind which rows are left has `S` of them. -/
theorem Tiles.full {h : Nat} (htiles : Tiles S rows (h :: hs))
    (hleft : (h :: hs).length * S < rows) : h = S := by
  cases htiles with
  | cons htiles hh =>
    have hsum := htiles.sum
    rw [List.length_cons, Nat.add_one_mul] at hleft
    omega

end tiles

/-! ## Runs -/

/-- What the first slice of a picture starts from: no slice is counted, and the picture has
rows of macroblocks. -/
structure FirstSlice (S : Nat) (c : JpegDecContainer) : Prop extends Slicing S (slicePart c) where
  pos : 0 < S
  count : c.info.SliceCount = 0
  rows : 16 ≤ c.info.Y
  height : c.info.Y < 2 ^ 17

/-- **The starts of a picture**: the instances behind them, the last one first. The next start
is that of the call behind an answer that a slice is ready. -/
inductive Slices (S : Nat) (c : JpegDecContainer) : List JpegDecContainer → Prop
  | first {b : JpegDecContainer} (hstart : startHw c = .next () b) : Slices S c [b]
  | next {env env' : DecodeEnv} {pDecIn : JpegDecInput} {d d' e : Decoding}
      {b : JpegDecContainer} {bs : List JpegDecContainer} (h : Slices S c (d.cont :: bs))
      (hready : hwAnswer env d = .exit .sliceReady d') (hS : pDecIn.sliceMbSet = S)
      (hcall : beforeStart env' pDecIn { cont := d'.cont } = .next true e)
      (hstart : startHw e.cont = .next () b) : Slices S c (b :: d.cont :: bs)

/-- The macroblock rows of a picture. -/
def mbRows (c : JpegDecContainer) : Nat := c.info.Y / 16

/-- **The slices tile the picture**, in the instance and in the register. -/
structure Tiled (S rows : Nat) (bs : List JpegDecContainer) : Prop where
  heights : Tiles S rows (bs.map (·.info.sliceHeight))
  registers : ∀ b ∈ bs, rkGetRegisterFile HWIF_JPEG_SLICE_H b = b.info.sliceHeight

/-- The height of a slice fits its register, or one slice takes the picture. -/
def SliceFits (S Y : Nat) : Prop := S ≤ 255 ∨ (Y / 16 ≤ 255 ∧ Y < u32 (S * 16))

instance (S Y : Nat) : Decidable (SliceFits S Y) := inferInstanceAs (Decidable (_ ∨ _))

/-! ## One start -/

section start

variable {S Y n : Nat} {p : SlicePart}

/-- The part that the start of slice `n` finds, while rows are left. -/
structure Before (S Y n : Nat) (p : SlicePart) : Prop extends Slicing S p where
  Y_eq : p.Y = Y
  count : p.SliceCount = n
  height : n = 0 ∨ p.sliceHeight = S
  left : n * S < Y / 16

/-- **The height of a slice** is `S`, or the rows that are left, and fits the register. -/
theorem Before.nextHeight_eq (h : Before S Y n p) (hpos : 0 < S) (hY : Y < 2 ^ 17)
    (hfits : SliceFits S Y) : p.nextHeight = min S (Y / 16 - n * S) ∧ p.nextHeight ≤ 255 := by
  obtain ⟨hslicing, hYp, hcount, hheight, hleft⟩ := h
  have hS := hslicing.sliceMbSetValue
  have hdone : u32 (p.SliceCount * p.sliceHeight) = n * S := by
    rw [hcount]
    rcases hheight with rfl | hheight
    · rw [Nat.zero_mul, Nat.zero_mul]
      rfl
    · rw [hheight, u32_of_lt (by omega)]
  have hn : n ≤ n * S := Nat.le_mul_of_pos_right n hpos
  unfold SlicePart.nextHeight
  rw [hdone, hYp, hcount, hS, sub32_of_le (Nat.le_of_lt hleft) (by omega),
    u32_of_lt (show n + 1 < 2 ^ 32 by omega)]
  rcases Nat.lt_or_ge 255 S with hlarge | hsmall
  · -- a slice that does not fit the register is the only one
    obtain ⟨hrows, hwhole⟩ := hfits.resolve_left (by omega)
    obtain rfl : n = 0 := by
      by_contra hmore
      have := Nat.le_mul_of_pos_left S (Nat.pos_of_ne_zero hmore)
      omega
    have hroom : Y < S * 16 := Nat.lt_of_lt_of_le hwhole (u32_le _)
    rw [Nat.zero_add, Nat.one_mul, u32_u32, if_pos hwhole, Nat.zero_mul]
    omega
  · have hsize : (n + 1) * (S * 16) = n * S * 16 + S * 16 := by
      rw [Nat.add_one_mul, Nat.mul_assoc]
    rw [u32_of_lt (show S * 16 < 2 ^ 32 by omega), hsize, u32_of_lt (by omega)]
    split
    · omega
    · omega

/-- A start behind slices that tile the picture leaves one more of them. -/
theorem Tiled.cons {bs : List JpegDecContainer} {c b : JpegDecContainer} (h : Tiled S (Y / 16) bs)
    (hbefore : Before S Y bs.length (slicePart c)) (hpos : 0 < S) (hY : Y < 2 ^ 17)
    (hfits : SliceFits S Y) (hstart : startHw c = .next () b) :
    Tiled S (Y / 16) (b :: bs) ∧ slicePart b = (slicePart c).started := by
  obtain ⟨hpart, hregister⟩ := wp_next (wp_startHw hbefore.toSlicing hpos.ne') hstart
  obtain ⟨hheight, hsmall⟩ := hbefore.nextHeight_eq hpos hY hfits
  have hb : b.info.sliceHeight = (slicePart c).nextHeight := congrArg SlicePart.sliceHeight hpart
  have hleft := hbefore.left
  have hsum : (bs.map (·.info.sliceHeight)).sum = bs.length * S := by
    rw [h.heights.sum, List.length_map]
    omega
  refine ⟨⟨.cons h.heights ?_, List.forall_mem_cons.mpr ⟨?_, h.registers⟩⟩, hpart⟩
  · show b.info.sliceHeight = min S (Y / 16 - (bs.map (·.info.sliceHeight)).sum)
    rw [hb, hheight, hsum]
  · rw [hregister, hb]
    exact Nat.mod_eq_of_lt (by omega)

end start

/-! ## The run -/

section run

variable {S : Nat} {c : JpegDecContainer} {bs : List JpegDecContainer}

/-- What a start leaves for the next one. -/
structure BehindStart (S Y : Nat) (bs : List JpegDecContainer) (p : SlicePart) : Prop
    extends Slicing S p where
  tiled : Tiled S (Y / 16) bs
  Y_eq : p.Y = Y
  count : p.SliceCount = bs.length

theorem Tiled.start {Y : Nat} {b e : JpegDecContainer} (htiled : Tiled S (Y / 16) bs)
    (hbefore : Before S Y bs.length (slicePart e)) (hpos : 0 < S) (hY : Y < 2 ^ 17)
    (hfits : SliceFits S Y) (hstart : startHw e = .next () b) :
    BehindStart S Y (b :: bs) (slicePart b) := by
  obtain ⟨hmore, hpart⟩ := htiled.cons hbefore hpos hY hfits hstart
  have hfew : bs.length ≤ bs.length * S := Nat.le_mul_of_pos_right _ hpos
  have hleft := hbefore.left
  rw [hpart]
  refine ⟨hbefore.toSlicing.started, hmore, hbefore.Y_eq, ?_⟩
  show u32 ((slicePart e).SliceCount + 1) = bs.length + 1
  rw [hbefore.count, u32_of_lt (by omega)]

/-- **The starts of a picture tile it** while rows are left. -/
theorem Slices.behind (hfirst : FirstSlice S c) (hfits : SliceFits S c.info.Y)
    (h : Slices S c bs) (hleft : (bs.length - 1) * S < mbRows c) :
    ∃ b bs', bs = b :: bs' ∧ BehindStart S c.info.Y bs (slicePart b) := by
  induction h with
  | @first b hstart =>
    have hrows := hfirst.rows
    have hnone : Tiled S (c.info.Y / 16) [] := ⟨.nil, fun b hb => absurd hb List.not_mem_nil⟩
    have hbefore : Before S c.info.Y ([] : List JpegDecContainer).length (slicePart c) := by
      refine ⟨hfirst.toSlicing, rfl, hfirst.count, Or.inl rfl, ?_⟩
      rw [List.length_nil, Nat.zero_mul]
      omega
    exact ⟨b, [], rfl, hnone.start hbefore hfirst.pos hfirst.height hfits hstart⟩
  | @next env env' pDecIn d d' e b bs h hready hS hcall hstart ih =>
    rw [List.length_cons, Nat.add_sub_cancel] at hleft
    have hfewer : ((d.cont :: bs).length - 1) * S < mbRows c := by
      refine Nat.lt_of_le_of_lt (Nat.mul_le_mul_right S ?_) hleft
      omega
    obtain ⟨b0, bs0, heq, hbehind⟩ := ih hfewer
    obtain ⟨rfl, -⟩ := List.cons.inj heq
    -- the answer pauses, and the next call comes back to the start
    have hpaused := wp_exit_of (wp_hwAnswer env hbehind.toSlicing) hready rfl
    have hwaiting : Waiting S (slicePart d'.cont) := by
      rw [hpaused]
      exact ⟨hbehind.toSlicing.paused, Nat.one_ne_zero⟩
    have hagain : slicePart e.cont = slicePart d'.cont :=
      wp_next (wp_beforeStart_again (d := { cont := d'.cont }) env' hwaiting hS rfl) hcall
    have hfull : d.cont.info.sliceHeight = S := by
      refine hbehind.tiled.heights.full ?_
      rw [List.length_cons, List.length_map]
      exact hleft
    have hbefore : Before S c.info.Y (d.cont :: bs).length (slicePart e.cont) := by
      rw [hagain, hpaused]
      exact ⟨hpaused ▸ hwaiting.toSlicing, hbehind.Y_eq, hbehind.count, Or.inr hfull, hleft⟩
    exact ⟨b, _, rfl, hbehind.tiled.start hbefore hfirst.pos hfirst.height hfits hstart⟩

/-- **When slices tile the picture.** In every run of calls, as long as rows are left before
the last start, if and only if `S` fits the register or one slice takes the picture. -/
theorem slices_tiled_iff {b : JpegDecContainer} (hfirst : FirstSlice S c)
    (hstart : startHw c = .next () b) :
    (∀ bs, Slices S c bs → (bs.length - 1) * S < mbRows c → Tiled S (mbRows c) bs) ↔
      SliceFits S c.info.Y := by
  constructor
  · intro hall
    have hrows := hfirst.rows
    have hY := hfirst.height
    have htiled := hall [b] (.first hstart) (by rw [List.length_singleton]; unfold mbRows; omega)
    obtain ⟨hpart, hregister⟩ := wp_next (wp_startHw hfirst.toSlicing hfirst.pos.ne') hstart
    have hb : b.info.sliceHeight = (slicePart c).nextHeight := congrArg SlicePart.sliceHeight hpart
    have hheld : (slicePart c).nextHeight % 2 ^ 8 = (slicePart c).nextHeight := by
      rw [← hregister, htiled.registers b List.mem_cons_self, hb]
    have hheight : (slicePart c).nextHeight = min S (c.info.Y / 16) := by
      have h1 : Tiles S (mbRows c) [b.info.sliceHeight] := htiled.heights
      cases h1 with
      | cons _ hh => exact hb.symm.trans hh
    by_contra hfits
    obtain ⟨hlarge, hwhole⟩ := not_or.mp hfits
    have hS : c.info.sliceMbSetValue = S := hfirst.sliceMbSetValue
    have hcount := hfirst.count
    -- the first slice is `S` rows high where its size in pels wraps
    have hsmall : c.info.Y / 16 ≤ 255 := by omega
    have hfull : (slicePart c).nextHeight = S := by
      unfold SlicePart.nextHeight
      show (if c.info.Y < u32 (u32 (c.info.SliceCount + 1) * u32 (c.info.sliceMbSetValue * 16))
        then _ else c.info.sliceMbSetValue) = S
      have hone : u32 (0 + 1) = 1 := rfl
      rw [hcount, hS, hone, Nat.one_mul, u32_u32, if_neg fun h => hwhole ⟨hsmall, h⟩]
    omega
  · intro hfits bs h hleft
    obtain ⟨_, _, -, hbehind⟩ := h.behind hfirst hfits hleft
    exact hbehind.tiled

/-- Two starts of a picture. -/
theorem slices_pair {env env' : DecodeEnv} {pDecIn : JpegDecInput} {d e : Decoding}
    {b b' : JpegDecContainer} (hfirst : startHw c = .next () b)
    (hanswer : hwAnswer env { cont := b } = .exit .sliceReady d) (hS : pDecIn.sliceMbSet = S)
    (hcall : beforeStart env' pDecIn { cont := d.cont } = .next true e)
    (hstart : startHw e.cont = .next () b') : Slices S c [b', b] :=
  .next (d := { cont := b }) (.first hfirst) hanswer hS hcall hstart

/-- A picture of 48 by 48 pels: three rows of macroblocks. -/
def plainSlices : List UInt8 := plainPicture 48 48 0

/-- The hardware stops behind every slice. -/
def slicedRegs : WordFile 32 := fun i => if i = 55 then 0x210 else if i = 148 then 2 else 0

/-- The first call, up to the start of the hardware. -/
def sliceCall1 : Outcome Fault JpegDecRet Decoding Bool :=
  beforeStart (envOf plainSlices slicedRegs) (inputOf plainSlices 2) { cont := jpegDecInit }

/-- The start of the first slice, the answer to it, and the call behind the answer. -/
def sliceStart1 : Outcome Fault JpegDecRet JpegDecContainer Unit := startHw sliceCall1.state.cont
def sliceAnswer1 : Outcome Fault JpegDecRet Decoding Unit :=
  hwAnswer (envOf plainSlices slicedRegs) { cont := sliceStart1.state }
def sliceCall2 : Outcome Fault JpegDecRet Decoding Bool :=
  beforeStart (envOf plainSlices slicedRegs) (inputOf plainSlices 2)
    { cont := sliceAnswer1.state.cont }
def sliceStart2 : Outcome Fault JpegDecRet JpegDecContainer Unit := startHw sliceCall2.state.cont

theorem slices_two : Slices 2 sliceCall1.state.cont [sliceStart2.state, sliceStart1.state] := by
  have hfirst : sliceStart1 = .next () sliceStart1.state := Outcome.IsNext.eq (by decide +kernel)
  have hanswer : sliceAnswer1 = .exit .sliceReady sliceAnswer1.state :=
    Outcome.IsExit.eq (by decide +kernel)
  have hcall : sliceCall2 = .next true sliceCall2.state := Outcome.IsNext.eq (by decide +kernel)
  have hsecond : sliceStart2 = .next () sliceStart2.state := Outcome.IsNext.eq (by decide +kernel)
  exact slices_pair hfirst hanswer rfl hcall hsecond

/-- Two rows, then one. -/
theorem slices_tiled_iff_plain :
    ((∀ bs, Slices 2 sliceCall1.state.cont bs →
        (bs.length - 1) * 2 < mbRows sliceCall1.state.cont →
      Tiled 2 (mbRows sliceCall1.state.cont) bs) ↔ SliceFits 2 sliceCall1.state.cont.info.Y) ∧
      Slices 2 sliceCall1.state.cont [sliceStart2.state, sliceStart1.state] := by
  have hstart : sliceStart1 = .next () sliceStart1.state := Outcome.IsNext.eq (by decide +kernel)
  refine ⟨slices_tiled_iff ⟨⟨?_, ?_, ?_, ?_, ?_, ?_, ?_, ?_⟩, ?_, ?_, ?_, ?_⟩ hstart, slices_two⟩
  all_goals decide +kernel

end run

end Jpeg

end Rk3399
