import Rk3399.Isp.Helpers.Expressions
/-!
# The centre crop

`calcCrop` on sizes that are positive and small enough for the products of the
script: no division is by zero, and the crop is even, inside the picture, in its
middle, and as large as one of the dimensions allows. Which dimension is cropped
follows the ratios in hundredths: the ratio is truncated, so that the width it is
multiplied up to stays below the full one, and the height divided out of it below
the full height.
-/

namespace Rk3399

namespace Isp

open Prog

/-! ## Sizes -/

/-- The text is the size `w` by `h`, in decimal constants. -/
structure IsSize (text : Str) (w h : Nat) : Prop where
  constant_w : IsConstant (beforeX text)
  constant_h : IsConstant (afterX text)
  value_w : digitsValue (beforeX text) = w
  value_h : digitsValue (afterX text) = h

/-- The usual text for a size. -/
def sizeText (w h : Nat) : Str := Nat.toDigits 10 w ++ 'x' :: Nat.toDigits 10 h

theorem x_notMem_toDigits (n : Nat) : 'x' ∉ Nat.toDigits 10 n := by
  intro hx
  have hdigit := Nat.isDigit_of_mem_toDigits (by decide) (by decide) hx
  exact absurd hdigit (by decide)

theorem beforeX_append {s t : Str} (ht : 'x' ∉ t) : beforeX (s ++ 'x' :: t) = s := by
  have hrev : (s ++ 'x' :: t).reverse = t.reverse ++ 'x' :: s.reverse := by simp
  unfold beforeX
  rw [if_pos (by simp), hrev, List.dropWhile_append_of_pos, List.dropWhile_cons_of_neg (by simp),
    List.tail_cons, List.reverse_reverse]
  intro c hc
  rw [List.mem_reverse] at hc
  exact decide_eq_true fun hx : c = 'x' => ht (hx ▸ hc)

theorem afterX_append {s t : Str} (hs : 'x' ∉ s) : afterX (s ++ 'x' :: t) = t := by
  unfold afterX
  rw [if_pos (by simp), List.dropWhile_append_of_pos, List.dropWhile_cons_of_neg (by simp),
    List.tail_cons]
  intro c hc
  exact decide_eq_true fun hx : c = 'x' => hs (hx ▸ hc)

/-- Every size has a text. -/
theorem isSize_sizeText {w h : Nat} (hw : w < 2 ^ 63) (hh : h < 2 ^ 63) :
    IsSize (sizeText w h) w h := by
  have hbefore : beforeX (sizeText w h) = Nat.toDigits 10 w :=
    beforeX_append (x_notMem_toDigits h)
  have hafter : afterX (sizeText w h) = Nat.toDigits 10 h := afterX_append (x_notMem_toDigits w)
  constructor
  · rw [hbefore]
    exact isConstant_toDigits hw
  · rw [hafter]
    exact isConstant_toDigits hh
  · rw [hbefore, digitsValue_toDigits]
  · rw [hafter, digitsValue_toDigits]

/-! ## Legal crops -/

/-- A crop, in numbers. -/
structure Crop where
  w : Int := 0
  h : Int := 0
  offH : Int := 0
  offV : Int := 0
  deriving DecidableEq, Repr

/-- The texts of its numbers. -/
def Crop.texts (c : Crop) : Temp where
  w := decimal c.w
  h := decimal c.h
  offH := decimal c.offH
  offV := decimal c.offV

/-- The crop made even and put in the middle. -/
def Crop.centre (fullW fullH : Int) (c : Crop) : Crop :=
  let w := andNot1 c.w
  let h := andNot1 c.h
  { w, h, offH := (wrap64 (fullW - w)).tdiv 2, offV := (wrap64 (fullH - h)).tdiv 2 }

/-- Width over height in hundredths. -/
def hundredths (w h : Int) : Int := w * 100 / h

/-- Positive sizes whose hundredfolds stay in 64 bits. -/
structure Representable (fullW fullH targetW targetH : Int) : Prop where
  fullW_pos : 0 < fullW
  fullH_pos : 0 < fullH
  targetW_pos : 0 < targetW
  targetH_pos : 0 < targetH
  fullH_lt : fullH < 2 ^ 63
  full_lt : fullW * 100 < 2 ^ 63
  target_lt : targetW * 100 < 2 ^ 63

/-- The crop leaves something of the picture out, but for the last odd column or row. -/
def Crop.Crops (fullW fullH : Int) (c : Crop) : Prop :=
  c.w < andNot1 fullW ∨ c.h < andNot1 fullH

/-- **A legal crop** of a picture, for a target. -/
structure Crop.Legal (fullW fullH targetW targetH : Int) (c : Crop) : Prop where
  even_w : c.w % 2 = 0
  even_h : c.h % 2 = 0
  w_nonneg : 0 ≤ c.w
  h_nonneg : 0 ≤ c.h
  w_le : c.w ≤ fullW
  h_le : c.h ≤ fullH
  offH_nonneg : 0 ≤ c.offH
  offV_nonneg : 0 ≤ c.offV
  inside_w : c.offH + c.w ≤ fullW
  inside_h : c.offV + c.h ≤ fullH
  /-- What is left on the right is what is left on the left, or one pixel more. -/
  centred_w : fullW - (c.offH + c.w) - c.offH = 0 ∨ fullW - (c.offH + c.w) - c.offH = 1
  centred_h : fullH - (c.offV + c.h) - c.offV = 0 ∨ fullH - (c.offV + c.h) - c.offV = 1
  /-- One of the dimensions is the full one, made even. -/
  full : c.w = andNot1 fullW ∨ c.h = andNot1 fullH
  /-- It is narrower exactly where the picture is the wider one. -/
  narrower : c.Crops fullW fullH →
    (c.w < andNot1 fullW ↔ hundredths targetW targetH < hundredths fullW fullH)
  /-- It is lower exactly where the picture is the taller one. -/
  lower : c.Crops fullW fullH →
    (c.h < andNot1 fullH ↔ hundredths fullW fullH < hundredths targetW targetH)

section arithmetic

variable {fullW fullH targetW targetH : Int}

theorem wrap64_of_nonneg {n : Int} (h0 : 0 ≤ n) (h1 : n < 2 ^ 63) : wrap64 n = n := by
  unfold wrap64
  omega

theorem hundredths_nonneg {w h : Int} (hw : 0 < w) (hh : 0 < h) : 0 ≤ hundredths w h :=
  Int.ediv_nonneg (by omega) (by omega)

/-- The ratio is truncated. -/
theorem hundredths_mul_le {w h : Int} (hh : 0 < h) : hundredths w h * h ≤ w * 100 :=
  Int.ediv_mul_le _ (by omega)

theorem lt_hundredths_add_one_mul {w h : Int} (hh : 0 < h) : w * 100 < (hundredths w h + 1) * h :=
  Int.lt_ediv_add_one_mul_self _ hh

/-- **The width stays below the full one** where the target is the narrower shape. -/
theorem narrowed_le (hfits : Representable fullW fullH targetW targetH)
    (hlt : hundredths targetW targetH < hundredths fullW fullH) :
    hundredths targetW targetH * fullH / 100 ≤ fullW := by
  have hmul : hundredths targetW targetH * fullH ≤ hundredths fullW fullH * fullH :=
    Int.mul_le_mul_of_nonneg_right (by omega) (by have := hfits.fullH_pos; omega)
  have hfull := hundredths_mul_le (w := fullW) hfits.fullH_pos
  omega

/-- **The height stays below the full one** where the target is the wider shape. -/
theorem lowered_le (hfits : Representable fullW fullH targetW targetH)
    (hlt : hundredths fullW fullH < hundredths targetW targetH) :
    fullW * 100 / hundredths targetW targetH ≤ fullH := by
  have hnonneg := hundredths_nonneg hfits.fullW_pos hfits.fullH_pos
  have hfull := lt_hundredths_add_one_mul (w := fullW) hfits.fullH_pos
  have hmul : (hundredths fullW fullH + 1) * fullH ≤ hundredths targetW targetH * fullH :=
    Int.mul_le_mul_of_nonneg_right (by omega) (by have := hfits.fullH_pos; omega)
  have hquot : fullW * 100 / hundredths targetW targetH < fullH := by
    refine Int.ediv_lt_of_lt_mul (by omega) ?_
    rw [Int.mul_comm fullH]
    omega
  omega

/-- **Even and in the middle.** What the script makes of a width and a height inside the picture,
one of them the full one, is a legal crop. -/
theorem Crop.legal_centre {c : Crop} (hW : 0 ≤ c.w) (hH : 0 ≤ c.h) (hWle : c.w ≤ fullW)
    (hHle : c.h ≤ fullH) (hfits : Representable fullW fullH targetW targetH)
    (hfull : c.w = fullW ∨ c.h = fullH)
    (hnarrow : c.w < fullW → hundredths targetW targetH < hundredths fullW fullH)
    (hlower : c.h < fullH → hundredths fullW fullH < hundredths targetW targetH) :
    (c.centre fullW fullH).Legal fullW fullH targetW targetH := by
  have hwide := hfits.full_lt
  have htall := hfits.fullH_lt
  -- nothing wraps, since the crop lies inside the picture
  have hoffH : (c.centre fullW fullH).offH = (fullW - andNot1 c.w) / 2 := by
    change (wrap64 _).tdiv 2 = _
    rw [wrap64_of_nonneg (by unfold andNot1; omega) (by unfold andNot1; omega),
      Int.tdiv_eq_ediv_of_nonneg (by unfold andNot1; omega)]
  have hoffV : (c.centre fullW fullH).offV = (fullH - andNot1 c.h) / 2 := by
    change (wrap64 _).tdiv 2 = _
    rw [wrap64_of_nonneg (by unfold andNot1; omega) (by unfold andNot1; omega),
      Int.tdiv_eq_ediv_of_nonneg (by unfold andNot1; omega)]
  have hw : (c.centre fullW fullH).w = andNot1 c.w := rfl
  have hh : (c.centre fullW fullH).h = andNot1 c.h := rfl
  -- A dimension that is full before it is made even is full afterwards.
  have hnarrowed : andNot1 c.w < andNot1 fullW → c.w < fullW := by unfold andNot1; omega
  have hlowered : andNot1 c.h < andNot1 fullH → c.h < fullH := by unfold andNot1; omega
  constructor
  case full =>
    rw [hw, hh]
    exact hfull.imp (congrArg andNot1) (congrArg andNot1)
  case narrower =>
    rw [Crop.Crops, hw, hh]
    intro hcrops
    refine ⟨fun hlt => hnarrow (hnarrowed hlt), fun hlt => hcrops.resolve_right fun hlow => ?_⟩
    have := hlower (hlowered hlow)
    omega
  case lower =>
    rw [Crop.Crops, hw, hh]
    intro hcrops
    refine ⟨fun hlt => hlower (hlowered hlt), fun hlt => hcrops.resolve_left fun hnar => ?_⟩
    have := hnarrow (hnarrowed hnar)
    omega
  all_goals
    simp only [hw, hh, hoffH, hoffV]
    unfold andNot1
    omega

end arithmetic

/-! ## What `calcCrop` leaves -/

/-- The shell reads the text as the number, whatever its variables hold. -/
def Reads (other : Reading) (text : Str) (n : Int) : Prop :=
  ∀ (o : Options) (s : Shell), s.read other o text = some n

section reads

variable {other : Reading} {text full target : Str} {n fw fh w h : Int}

theorem reads_decimal (hn : InRange n) : Reads other (decimal n) n := fun _ _ => read_decimal hn

theorem reads_constant (h : IsConstant text) (other : Reading) :
    Reads other text (digitsValue text) :=
  fun _ _ => read_constant h

theorem Reads.plain (h : Reads other text n) : other.plain text = some n := h _ _

theorem Reads.closed (h : Reads other text n) : Closed other text := fun o s =>
  (h o s).trans h.plain.symm

theorem Reads.inRange (h : Reads other text n) : InRange n := inRange_read h.plain

/-- **`centreCrop` in numbers**, where all its texts are read. -/
theorem centre_of_reads {t : Temp} (hfw : Reads other (beforeX full) fw)
    (hfh : Reads other (afterX full) fh) (hw : Reads other t.w w) (hh : Reads other t.h h) :
    t.centre other.plain full = (({ w, h } : Crop).centre fw fh).texts ∧
      centreFails other.plain full t = false := by
  have hread : ∀ {n : Int}, InRange n → other.plain (decimal n) = some n := read_decimal
  have hoffset : ∀ {full size : Str} {n m : Int}, Reads other full n → other.plain size = some m →
      offset other.plain full size = some ((wrap64 (n - m)).tdiv 2) := by
    intro full size n m hfull hsize
    rw [offset, hfull.plain, hsize]
    rfl
  have heven : ∀ {text : Str} {n : Int}, Reads other text n →
      letText ((other.plain text).map andNot1) text = decimal (andNot1 n) := by
    intro text n htext
    rw [htext.plain]
    rfl
  constructor
  · rw [Temp.centre, heven hw, heven hh, hoffset hfw (hread hw.inRange.andNot1),
      hoffset hfh (hread hh.inRange.andNot1)]
    rfl
  · rw [centreFails, heven hw, heven hh, hoffset hfw (hread hw.inRange.andNot1),
      hoffset hfh (hread hh.inRange.andNot1), hw.plain, hh.plain]
    rfl

/-- **`calcCrop` in numbers**, where the texts of the picture and those `cropSize` leaves are
read. -/
theorem calcCrop_of_reads {o : Options} {s : Shell} (hne : ¬ (full = [] ∨ target = []))
    (hsizes : ClosedSizes other full target) (hfw : Reads other (beforeX full) fw)
    (hfh : Reads other (afterX full) fh)
    (hw : Reads other (s.temp.resize other.plain full target).w w)
    (hh : Reads other (s.temp.resize other.plain full target).h h) :
    calcCrop other o full target s = .next () { s with
      temp := (({ w, h } : Crop).centre fw fh).texts
      locals := {}
      failed := s.failed || ((ratioIn other.plain full).isNone ||
        (ratioIn other.plain target).isNone || resizeFails other.plain full target) } := by
  obtain ⟨hcentre, hfails⟩ := centre_of_reads hfw hfh hw hh
  rw [calcCrop_eq hne hsizes hw.closed hh.closed, Temp.after, hcentre, cropFails, hfails,
    Bool.or_false]

end reads

section representable

variable {other : Reading} {full target : Str} {fw fh tw th : Nat}

theorem IsSize.reads (h : IsSize full fw fh) (other : Reading) :
    Reads other (beforeX full) fw ∧ Reads other (afterX full) fh := by
  have hw := reads_constant h.constant_w other
  have hh := reads_constant h.constant_h other
  rw [h.value_w] at hw
  rw [h.value_h] at hh
  exact ⟨hw, hh⟩

/-- A constant assigns nothing. -/
theorem IsConstant.not_mayAssign {text : Str} (h : IsConstant text) : ¬ MayAssign text := by
  have hdigit : ∀ c ∈ text, c.isDigit = true := h.1.2.1
  rintro (heq | hbracket | hplus | hminus)
  · exact absurd (hdigit _ heq) (by decide)
  · exact absurd (hdigit _ hbracket) (by decide)
  · exact absurd (hdigit _ (hplus.subset List.mem_cons_self)) (by decide)
  · exact absurd (hdigit _ (hminus.subset List.mem_cons_self)) (by decide)

theorem IsSize.constant (h : IsSize full fw fh) : ∀ text ∈ sizeTexts full, IsConstant text := by
  intro text htext
  rcases List.mem_cons.mp htext with rfl | htext
  · exact h.constant_w
  · rw [List.mem_singleton.mp htext]
    exact h.constant_h

theorem closedSizes_of_isSize (hfull : IsSize full fw fh) (htarget : IsSize target tw th) :
    ClosedSizes other full target where
  closed_full text htext := closed_constant (hfull.constant text htext)
  closed_target text htext := closed_constant (htarget.constant text htext)
  assigns text htext := by
    rcases List.mem_append.mp htext with htext | htext
    · exact (hfull.constant text htext).not_mayAssign
    · exact (htarget.constant text htext).not_mayAssign

theorem IsSize.ne_nil (h : IsSize full fw fh) : full ≠ [] := by
  rintro rfl
  exact h.constant_w.1.1 rfl

/-- Where nothing leaves the 64 bits the ratio of the shell is the one in hundredths. -/
theorem ratioIn_of_isSize (h : IsSize full fw fh) (hw : 0 < fw) (hh : 0 < fh)
    (hlt : (fw : Int) * 100 < 2 ^ 63) :
    ratioIn other.plain full = some (hundredths fw fh) := by
  have hnonneg : 0 ≤ (fw : Int) * 100 := by omega
  have hquot : wrap64 (((fw : Int) * 100).tdiv fh) = hundredths fw fh := by
    rw [Int.tdiv_eq_ediv_of_nonneg hnonneg]
    exact wrap64_of_nonneg (Int.ediv_nonneg hnonneg (by omega))
      (Int.lt_of_le_of_lt (Int.ediv_le_self _ hnonneg) hlt)
  rw [ratioIn, (h.reads other).1.plain, (h.reads other).2.plain, ← hquot]
  change divide (wrap64 ((fw : Int) * 100)) fh = _
  rw [wrap64_of_nonneg hnonneg hlt]
  exact if_neg (by omega)

/-- **Inside the picture**: the size before it is made even. -/
theorem resize_spec (hfull : IsSize full fw fh) (htarget : IsSize target tw th)
    (hfits : Representable fw fh tw th) (other : Reading) (t : Temp) :
    ∃ w h : Int, Reads other (t.resize other.plain full target).w w ∧
      Reads other (t.resize other.plain full target).h h ∧
      resizeFails other.plain full target = false ∧
      0 ≤ w ∧ 0 ≤ h ∧ w ≤ fw ∧ h ≤ fh ∧ (w = fw ∨ h = fh) ∧
      (w < fw → hundredths tw th < hundredths fw fh) ∧
      (h < fh → hundredths fw fh < hundredths tw th) := by
  have hw := hfits.fullW_pos
  have hh := hfits.fullH_pos
  have hratio := hundredths_nonneg hw hh
  have hratio' := hundredths_nonneg hfits.targetW_pos hfits.targetH_pos
  have hbound := hfits.full_lt
  obtain ⟨hreadW, hreadH⟩ := hfull.reads other
  have hrf : ratioIn other.plain full = some (hundredths fw fh) :=
    ratioIn_of_isSize hfull (by omega) (by omega) hbound
  have hrt : ratioIn other.plain target = some (hundredths tw th) :=
    ratioIn_of_isSize htarget (by have := hfits.targetW_pos; omega)
      (by have := hfits.targetH_pos; omega) hfits.target_lt
  unfold Temp.resize resizeFails
  rw [hrf, hrt, Option.getD_some, Option.getD_some]
  rcases Int.lt_trichotomy (hundredths fw fh) (hundredths tw th) with hlt | heq | hgt
  · -- the ratio it divides by is above one that is not negative
    have hle := lowered_le hfits hlt
    have hnonneg : 0 ≤ (fw : Int) * 100 / hundredths tw th := Int.ediv_nonneg (by omega) (by omega)
    have hself : (fw : Int) * 100 / hundredths tw th ≤ fw * 100 := Int.ediv_le_self _ (by omega)
    have hlowered : lowered other.plain full target = some (fw * 100 / hundredths tw th) := by
      rw [lowered, hreadW.plain, hrt]
      change divide (wrap64 ((fw : Int) * 100)) (hundredths tw th) = _
      rw [divide, if_neg (by omega), wrap64_of_nonneg (by omega) hbound,
        Int.tdiv_eq_ediv_of_nonneg (by omega), wrap64_of_nonneg hnonneg (by omega)]
    rw [if_neg (by omega), if_neg (by omega), if_neg (by omega), if_neg (by omega), hlowered]
    exact ⟨fw, _, hreadW, reads_decimal (by unfold InRange; omega), rfl, Int.le_of_lt hw, hnonneg,
      Int.le_refl _, hle, Or.inl rfl, fun h => absurd h (Int.lt_irrefl _), fun _ => hlt⟩
  · rw [if_pos heq, if_pos heq]
    exact ⟨fw, fh, hreadW, hreadH, rfl, Int.le_of_lt hw, Int.le_of_lt hh, Int.le_refl _,
      Int.le_refl _, Or.inl rfl, fun h => absurd h (Int.lt_irrefl _),
      fun h => absurd h (Int.lt_irrefl _)⟩
  · have hle := narrowed_le hfits hgt
    have hprod : 0 ≤ hundredths tw th * (fh : Int) := Int.mul_nonneg hratio' (by omega)
    -- The product is below the hundredfold of the full width.
    have hmul : hundredths tw th * (fh : Int) ≤ hundredths fw fh * fh :=
      Int.mul_le_mul_of_nonneg_right (by omega) (by omega)
    have hfullW := hundredths_mul_le (w := (fw : Int)) hh
    have hnonneg : 0 ≤ hundredths tw th * (fh : Int) / 100 := by omega
    have hnarrowed :
        narrowed other.plain full target = some (hundredths tw th * fh / 100) := by
      rw [narrowed, hreadH.plain, hrt]
      change divide (wrap64 (hundredths tw th * (fh : Int))) 100 = _
      rw [divide, if_neg (by decide), wrap64_of_nonneg hprod (by omega),
        Int.tdiv_eq_ediv_of_nonneg hprod, wrap64_of_nonneg hnonneg (by omega)]
    rw [if_neg (by omega), if_pos hgt, if_neg (by omega), if_pos hgt, hnarrowed]
    exact ⟨_, fh, reads_decimal (by unfold InRange; omega), hreadH, rfl, hnonneg, Int.le_of_lt hh,
      hle, Int.le_refl _, Or.inr rfl, fun _ => hgt, fun h => absurd h (Int.lt_irrefl _)⟩

end representable

/-- **`calcCrop` is right.** On every two positive sizes whose hundredfolds stay in 64 bits none of
its expressions fails, it writes the variables of the crop and no other, and the crop is legal. -/
theorem calcCrop_legal {full target : Str} {fw fh tw th : Nat} (hfull : IsSize full fw fh)
    (htarget : IsSize target tw th) (hfits : Representable fw fh tw th) (other : Reading)
    (o : Options) (s : Shell) :
    ∃ c : Crop, calcCrop other o full target s =
      .next () { s with temp := c.texts, locals := {} } ∧ c.Legal fw fh tw th := by
  obtain ⟨w, h, hw, hh, hresize, hW, hH, hWle, hHle, hone, hnarrow, hlower⟩ :=
    resize_spec hfull htarget hfits other s.temp
  obtain ⟨hfw, hfh⟩ := hfull.reads other
  have hratio : ratioIn other.plain full = some (hundredths fw fh) :=
    ratioIn_of_isSize hfull (by have := hfits.fullW_pos; omega)
      (by have := hfits.fullH_pos; omega) hfits.full_lt
  have hratio' : ratioIn other.plain target = some (hundredths tw th) :=
    ratioIn_of_isSize htarget (by have := hfits.targetW_pos; omega)
      (by have := hfits.targetH_pos; omega) hfits.target_lt
  refine ⟨({ w, h } : Crop).centre fw fh, ?_,
    Crop.legal_centre hW hH hWle hHle hfits hone hnarrow hlower⟩
  rw [calcCrop_of_reads (not_or.mpr ⟨hfull.ne_nil, htarget.ne_nil⟩)
    (closedSizes_of_isSize hfull htarget) hfw hfh hw hh, hratio, hratio', hresize,
    Option.isNone_some, Option.isNone_some, Bool.or_false, Bool.or_false, Bool.or_false]

/-- A picture of 1920 by 1080 for a target of 640 by 480. -/
theorem calcCrop_legal_1080p : IsSize (sizeText 1920 1080) 1920 1080 ∧
    IsSize (sizeText 640 480) 640 480 ∧ Representable 1920 1080 640 480 ∧
    ∃ c : Crop, calcCrop (fun _ _ _ => none) {} (sizeText 1920 1080) (sizeText 640 480) {} =
      .next () { temp := c.texts } ∧ c.Legal 1920 1080 640 480 := by
  have hfull : IsSize (sizeText 1920 1080) 1920 1080 := isSize_sizeText (by decide) (by decide)
  have htarget : IsSize (sizeText 640 480) 640 480 := isSize_sizeText (by decide) (by decide)
  have hfits : Representable 1920 1080 640 480 := by constructor <;> decide
  exact ⟨hfull, htarget, hfits, calcCrop_legal hfull htarget hfits _ _ _⟩

end Isp

end Rk3399
