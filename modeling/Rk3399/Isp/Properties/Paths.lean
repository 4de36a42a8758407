import Rk3399.Isp.Properties.Crop
/-!
# What the two paths are sent

The arguments each node gets, as functions of the options. Those of the main path
are made of its own options. The crop of the self path is made of its own
options too, but its format takes the width and the height of the main path: what
the self path gets is what it should be where the two sizes are printed alike, and
where no `let` that fails leaves a variable of the crop to the path before it.
-/

namespace Rk3399

namespace Isp

open Prog

/-! ## The crop, from its texts -/

section determined

variable (ρ : Str → Option Int)

/-- `calcCrop` writes all its variables: the width and the height of the picture are read, and the
last division is by no zero. -/
structure Determined (full target : Str) : Prop where
  width : (ρ (beforeX full)).isSome
  height : (ρ (afterX full)).isSome
  ratio : ¬ ((ratioIn ρ target).getD 0 = 0 ∧ (ratioIn ρ full).getD 0 < 0)

end determined

section calcCrop

variable {other : Reading} {full target : Str}

theorem divide_of_ne (a : Int) {b : Int} (hb : b ≠ 0) : divide a b = some (wrap64 (a.tdiv b)) :=
  if_neg hb

theorem inRange_divide {a b n : Int} (h : divide a b = some n) : InRange n := by
  unfold divide at h
  split at h
  · cases h
  · cases h
    exact inRange_wrap64 _

theorem inRange_narrowed {n : Int} (h : narrowed other.plain full target = some n) :
    InRange n := by
  obtain ⟨h100, -, hdiv⟩ := Option.bind_eq_some_iff.mp h
  exact inRange_divide hdiv

theorem inRange_lowered {n : Int} (h : lowered other.plain full target = some n) : InRange n := by
  obtain ⟨w, -, hdiv⟩ := Option.bind_eq_some_iff.mp h
  exact inRange_divide hdiv

/-- What `cropSize` leaves is read alike where what it finds is. -/
theorem closed_resize (target : Str) (hfull : ClosedSize other full) {t : Temp}
    (hw : Closed other t.w) (hh : Closed other t.h) :
    Closed other (t.resize other.plain full target).w ∧
      Closed other (t.resize other.plain full target).h := by
  have hclosedW : Closed other (beforeX full) := hfull _ List.mem_cons_self
  have hclosedH : Closed other (afterX full) :=
    hfull _ (List.mem_cons_of_mem _ List.mem_cons_self)
  unfold Temp.resize
  split
  · exact ⟨hclosedW, hclosedH⟩
  · split
    · exact ⟨closed_letText hw fun _ => inRange_narrowed, hclosedH⟩
    · exact ⟨hclosedW, closed_letText hh fun _ => inRange_lowered⟩

/-- **Nothing is left of the crop before**, where `calcCrop` writes all its variables. -/
theorem reads_resize (hfull : ClosedSize other full) (hdet : Determined other.plain full target) :
    ∃ w h fw fh : Int, Reads other (beforeX full) fw ∧ Reads other (afterX full) fh ∧
      ∀ t : Temp, Reads other (t.resize other.plain full target).w w ∧
        Reads other (t.resize other.plain full target).h h := by
  obtain ⟨fw, hfw⟩ := Option.isSome_iff_exists.mp hdet.width
  obtain ⟨fh, hfh⟩ := Option.isSome_iff_exists.mp hdet.height
  have hreadW : Reads other (beforeX full) fw := fun o s =>
    (hfull _ List.mem_cons_self o s).trans hfw
  have hreadH : Reads other (afterX full) fh := fun o s =>
    (hfull _ (List.mem_cons_of_mem _ List.mem_cons_self) o s).trans hfh
  unfold Temp.resize
  by_cases heq : (ratioIn other.plain full).getD 0 = (ratioIn other.plain target).getD 0
  · simp only [if_pos heq]
    exact ⟨fw, fh, fw, fh, hreadW, hreadH, fun _ => ⟨hreadW, hreadH⟩⟩
  simp only [if_neg heq]
  by_cases hgt : (ratioIn other.plain target).getD 0 < (ratioIn other.plain full).getD 0
  · -- a division by 100 does not fail
    obtain ⟨w, hw⟩ : ∃ w, narrowed other.plain full target = some w := by
      rw [narrowed, hfh]
      exact ⟨_, divide_of_ne (b := 100) (wrap64 _) (by decide)⟩
    simp only [if_pos hgt, hw]
    exact ⟨w, fh, fw, fh, hreadW, hreadH,
      fun _ => ⟨reads_decimal (inRange_narrowed hw), hreadH⟩⟩
  · obtain ⟨h, hh⟩ : ∃ h, lowered other.plain full target = some h := by
      -- the target has the greater ratio, so that a zero one leaves a negative ratio of the picture
      have hratio : (ratioIn other.plain target).getD 0 ≠ 0 := fun hzero =>
        hdet.ratio ⟨hzero, by omega⟩
      rw [lowered, hfw]
      exact ⟨_, divide_of_ne (wrap64 _) hratio⟩
    simp only [if_neg hgt, hh]
    exact ⟨fw, h, fw, fh, hreadW, hreadH,
      fun _ => ⟨hreadW, reads_decimal (inRange_lowered hh)⟩⟩

/-- `calcCrop` leaves the crop `c` whatever the options and the variables are. -/
def Computes (other : Reading) (full target : Str) (c : Temp) : Prop :=
  ∀ (o : Options) (s : Shell), ∃ t, calcCrop other o full target s = .next () t ∧ t.temp = c

/-- A crop is computed once. -/
theorem Computes.unique {c c' : Temp} (h : Computes other full target c)
    (h' : Computes other full target c') : c = c' := by
  obtain ⟨t, hnext, rfl⟩ := h {} {}
  obtain ⟨t', hnext', rfl⟩ := h' {} {}
  rw [hnext] at hnext'
  cases hnext'
  rfl

/-- What is computed from texts that are read alike. -/
theorem Computes.eq_after {c : Temp} (h : Computes other full target c)
    (hne : ¬ (full = [] ∨ target = [])) (hsizes : ClosedSizes other full target) {t : Temp}
    (hw : Closed other t.w) (hh : Closed other t.h) : t.after other.plain full target = c := by
  obtain ⟨hclosedW, hclosedH⟩ := closed_resize target hsizes.closed_full hw hh
  obtain ⟨s', hnext, rfl⟩ := h {} { temp := t }
  rw [calcCrop_eq hne hsizes hclosedW hclosedH] at hnext
  cases hnext
  rfl

/-- **What is computed**: the crop is a function of the two texts exactly where `calcCrop` writes
all its variables. A variable that is kept differs for two crops that differ in it. -/
theorem computes_iff (hne : ¬ (full = [] ∨ target = []))
    (hsizes : ClosedSizes other full target) :
    (∃ c, Computes other full target c) ↔ Determined other.plain full target := by
  constructor
  · rintro ⟨c, hcomp⟩
    -- runs from two states are told apart by a variable that is kept
    have hclosed : ∀ n : Int, InRange n → Closed other (decimal n) := fun n => closed_decimal
    have hsame : ∀ t t' : Temp, Closed other t.w → Closed other t.h → Closed other t'.w →
        Closed other t'.h → t.after other.plain full target = t'.after other.plain full target :=
      fun t t' hw hh hw' hh' => (hcomp.eq_after hne hsizes hw hh).trans
        (hcomp.eq_after hne hsizes hw' hh').symm
    constructor
    case width =>
      by_contra hnone
      have hoffset : ∀ size, offset other.plain (beforeX full) size = none := fun size => by
        rw [offset, Option.not_isSome_iff_eq_none.mp hnone]
        rfl
      have hkept : ∀ t : Temp, (t.after other.plain full target).offH = t.offH := fun t => by
        rw [Temp.after, Temp.centre, hoffset]
        unfold Temp.resize
        split_ifs <;> rfl
      have hoffH := congrArg Temp.offH
        (hsame { offH := ['0'] } {} closed_nil closed_nil closed_nil closed_nil)
      rw [hkept, hkept] at hoffH
      cases hoffH
    case height =>
      by_contra hnone
      have hoffset : ∀ size, offset other.plain (afterX full) size = none := fun size => by
        rw [offset, Option.not_isSome_iff_eq_none.mp hnone]
        rfl
      have hkept : ∀ t : Temp, (t.after other.plain full target).offV = t.offV := fun t => by
        rw [Temp.after, Temp.centre, hoffset]
        unfold Temp.resize
        split_ifs <;> rfl
      have hoffV := congrArg Temp.offV
        (hsame { offV := ['0'] } {} closed_nil closed_nil closed_nil closed_nil)
      rw [hkept, hkept] at hoffV
      cases hoffV
    case ratio =>
      rintro ⟨hzero, hneg⟩
      have hlowered : lowered other.plain full target = none := by
        rw [lowered, hzero]
        cases other.plain (beforeX full) with
        | none => rfl
        | some w => exact (if_pos rfl : divide (wrap64 (w * 100)) 0 = none)
      -- a height that is even and read stays
      have hkept : ∀ (t : Temp) (n : Int), t.h = decimal n → InRange n → n % 2 = 0 →
          (t.after other.plain full target).h = decimal n := by
        intro t n ht hn heven
        have hread : other.plain (decimal n) = some n := read_decimal hn
        have hresize : (t.resize other.plain full target).h = decimal n := by
          unfold Temp.resize
          rw [if_neg (by omega), if_neg (by omega), hlowered]
          exact ht
        rw [Temp.after, Temp.centre, hresize, hread]
        change decimal (n - n % 2) = _
        rw [heven, Int.sub_zero]
      have hzeroRange : InRange 0 := ⟨by decide, by decide⟩
      have htwoRange : InRange 2 := ⟨by decide, by decide⟩
      have hheight := congrArg Temp.h
        (hsame { h := decimal 0 } { h := decimal 2 } closed_nil (hclosed 0 hzeroRange) closed_nil
          (hclosed 2 htwoRange))
      rw [hkept _ 0 rfl hzeroRange rfl, hkept _ 2 rfl htwoRange rfl] at hheight
      exact absurd hheight (by decide)
  · intro hdet
    obtain ⟨w, h, fw, fh, hfw, hfh, hresize⟩ := reads_resize hsizes.closed_full hdet
    refine ⟨(({ w, h } : Crop).centre fw fh).texts, fun o s => ⟨_, calcCrop_of_reads hne hsizes hfw
      hfh (hresize s.temp).1 (hresize s.temp).2, rfl⟩⟩

end calcCrop

/-! ## The variables `calcCrop` leaves alone -/

/-- The variables are the same but for those of `calcCrop`. -/
def SameButCrop (s t : Shell) : Prop :=
  ∃ temp locals failed, t = { s with temp := temp, locals := locals, failed := failed }

theorem SameButCrop.refl (s : Shell) : SameButCrop s s := ⟨_, _, _, rfl⟩

theorem SameButCrop.trans {s t u : Shell} (h : SameButCrop s t) (h' : SameButCrop t u) :
    SameButCrop s u := by
  obtain ⟨_, _, _, rfl⟩ := h
  obtain ⟨temp, locals, failed, rfl⟩ := h'
  exact ⟨temp, locals, failed, rfl⟩

/-- A piece of `calcCrop`. -/
def KeepsOthers {α : Type} (x : Script α) : Prop :=
  ∀ s, wp x (fun _ t => SameButCrop s t) (fun _ _ => True) (fun _ _ => True) s

section frame

variable {α β : Type}

theorem KeepsOthers.bind {x : Script α} {f : α → Script β} (hx : KeepsOthers x)
    (hf : ∀ a, KeepsOthers (f a)) : KeepsOthers (x >>= f) := fun s =>
  wp_seq (hx s) fun a t ht =>
    wp_mono (hf a t) (fun _ _ => ht.trans) (fun _ _ h => h) (fun _ _ h => h)

theorem keepsOthers_modify {f : Shell → Shell} (h : ∀ s, SameButCrop s (f s)) :
    KeepsOthers (modify f : Script Unit) := h

theorem keepsOthers_letVar {e : Shell → Option Int} {set : Int → Shell → Shell}
    (h : ∀ v s, SameButCrop s (set v s)) : KeepsOthers (letVar e set) := by
  refine keepsOthers_modify fun s => ?_
  cases e s with
  | some v => exact h v s
  | none => exact ⟨_, _, true, rfl⟩

theorem keepsOthers_assert (e : Fault) (p : Shell → Prop) [DecidablePred p] :
    KeepsOthers (assert e p : Script Unit) := fun s => by
  rw [wp_assert]
  split
  · exact .refl s
  · trivial

theorem keepsOthers_exitIf (r : Refusal) (p : Shell → Prop) [DecidablePred p] :
    KeepsOthers (exitIf r p : Script Unit) := fun s => by
  rw [wp_exitIf]
  split
  · trivial
  · exact .refl s

theorem keepsOthers_gets (f : Shell → α) : KeepsOthers (gets f : Script α) := SameButCrop.refl

variable {other : Reading} {o : Options}

theorem keepsOthers_cropSize : KeepsOthers (cropSize other o) := by
  refine (keepsOthers_gets _).bind fun l => ?_
  dsimp only
  split
  · exact keepsOthers_modify fun s => ⟨_, _, _, rfl⟩
  · split
    · exact (keepsOthers_letVar fun v s => ⟨_, _, _, rfl⟩).bind fun _ =>
        keepsOthers_modify fun s => ⟨_, _, _, rfl⟩
    · exact (keepsOthers_modify fun s => ⟨_, _, _, rfl⟩).bind fun _ =>
        keepsOthers_letVar fun v s => ⟨_, _, _, rfl⟩

theorem keepsOthers_centreCrop : KeepsOthers (centreCrop other o) :=
  (keepsOthers_letVar fun _ _ => ⟨_, _, _, rfl⟩).bind fun _ =>
    (keepsOthers_letVar fun _ _ => ⟨_, _, _, rfl⟩).bind fun _ =>
      (keepsOthers_letVar fun _ _ => ⟨_, _, _, rfl⟩).bind fun _ =>
        keepsOthers_letVar fun _ _ => ⟨_, _, _, rfl⟩

/-- **All `calcCrop` changes** is the crop, and the flag of a `let` that failed. -/
theorem keepsOthers_calcCrop (full target : Str) : KeepsOthers (calcCrop other o full target) :=
  (keepsOthers_exitIf _ _).bind fun _ => (keepsOthers_assert _ _).bind fun _ =>
    (keepsOthers_modify fun _ => ⟨_, _, _, rfl⟩).bind fun _ =>
      (keepsOthers_letVar fun _ _ => ⟨_, _, _, rfl⟩).bind fun _ =>
        (keepsOthers_letVar fun _ _ => ⟨_, _, _, rfl⟩).bind fun _ =>
          keepsOthers_cropSize.bind fun _ => keepsOthers_centreCrop.bind fun _ =>
            keepsOthers_modify fun _ => ⟨_, _, _, rfl⟩

end frame

/-! ## What the script sends -/

namespace Options

variable (o : Options)

/-- The picture the main path crops. -/
def mainCrop : Str := if o.mpcrop = [] then o.outcrop else o.mpcrop

/-- The picture the self path crops. -/
def selfCrop : Str := if o.spcrop = [] then o.outcrop else o.spcrop

/-- The script configures the main path. -/
def MainConfigured : Prop := o.mpnode ≠ [] ∧ o.mpfmt ≠ [] ∧ o.mpres ≠ [] ∧ o.mainCrop ≠ []

/-- The script configures the self path. -/
def SelfConfigured : Prop := o.spnode ≠ [] ∧ o.spfmt ≠ [] ∧ o.spres ≠ [] ∧ o.selfCrop ≠ []

instance : Decidable o.MainConfigured := inferInstanceAs (Decidable (_ ∧ _))

instance : Decidable o.SelfConfigured := inferInstanceAs (Decidable (_ ∧ _))

variable (ρ : Str → Option Int)

/-- `$mpcrop` when the commands are sent. -/
def mainSelection : Str :=
  if o.MainConfigured then selection (({} : Temp).after ρ o.mainCrop o.mpres) else o.mainCrop

/-- `$mpfmt` when the commands are sent. -/
def mainFormat : Str := if o.MainConfigured then fmtVideo o.mpres o.mpfmt else o.mpfmt

/-- What the node of the main path is sent. -/
def mainArguments : List (Str × Str) :=
  (if o.mainSelection ρ ≠ [] ∧ o.mpnode ≠ [] then [(o.mpnode, o.mainSelection ρ)] else []) ++
    if o.mainFormat ≠ [] ∧ o.mpres ≠ [] ∧ o.mpnode ≠ [] then [(o.mpnode, o.mainFormat)] else []

end Options

/-- The texts of the paths the script configures are read alike whatever its variables hold, and
assign none. -/
structure ClosedPaths (other : Reading) (o : Options) : Prop where
  self : ClosedSizes other o.selfCrop o.spres
  main : o.MainConfigured → ClosedSizes other o.mainCrop o.mpres

section run

variable {other : Reading} {o : Options} {s : Shell}

theorem wp_checkOptions :
    wp (checkOptions o) (fun _ t => t = s) (fun _ _ => True) (fun _ _ => True) s := by
  unfold checkOptions
  simp only [wp_bind, wp_exitIf]
  split_ifs

theorem wp_mainPath (hne : ¬ (s.mpcrop = [] ∨ o.mpres = []))
    (hsizes : ClosedSizes other s.mpcrop o.mpres) (hw : Closed other s.temp.w)
    (hh : Closed other s.temp.h) :
    wp (mainPath other o)
      (fun _ t => ∃ failed, t = { s with
        mpcrop := selection (s.temp.after other.plain s.mpcrop o.mpres)
        mpfmt := fmtVideo o.mpres s.mpfmt
        temp := s.temp.after other.plain s.mpcrop o.mpres
        locals := {}
        failed := failed })
      (fun _ _ => True) (fun _ _ => True) s := by
  obtain ⟨hclosedW, hclosedH⟩ := closed_resize o.mpres hsizes.closed_full hw hh
  unfold mainPath
  rw [wp_bind, wp_exitIf]
  split
  · trivial
  rw [wp_bind, wp_exitIf]
  split
  · trivial
  rw [wp_bind, wp_exitIf]
  split
  · trivial
  rw [wp_bind, wp_gets, wp_bind]
  exact (wp_of_next (calcCrop_eq hne hsizes hclosedW hclosedH)).mpr ⟨_, rfl⟩

/-- **The copied code**: the format of the self path has the size of the main path. -/
theorem wp_selfPath :
    wp (selfPath other o)
      (fun _ t => ∃ t', calcCrop other o s.spcrop o.spres s = .next () t' ∧ SameButCrop s t' ∧
        t = { t' with spcrop := selection t'.temp, spfmt := fmtVideo o.mpres s.spfmt })
      (fun _ _ => True) (fun _ _ => True) s := by
  unfold selfPath
  rw [wp_bind, wp_exitIf]
  split
  · trivial
  rw [wp_bind, wp_assert]
  split
  swap
  · trivial
  rw [wp_bind, wp_exitIf]
  split
  · trivial
  rw [wp_bind, wp_gets]
  have hcrop : wp (calcCrop other o s.spcrop o.spres)
      (fun _ t => calcCrop other o s.spcrop o.spres s = .next () t ∧ SameButCrop s t)
      (fun _ _ => True) (fun _ _ => True) s :=
    (wp_def _).mpr ⟨fun _ t hrun => ⟨hrun, wp_next (keepsOthers_calcCrop _ _ s) hrun⟩,
      fun _ _ _ => trivial, fun _ _ _ => trivial⟩
  refine wp_seq hcrop ?_
  rintro _ t ⟨hrun, temp, locals, failed, rfl⟩
  exact ⟨_, hrun, ⟨temp, locals, failed, rfl⟩, rfl⟩

/-- The variables when both paths are configured. -/
structure Configured (other : Reading) (o : Options) (t : Shell) : Prop where
  mpcrop : t.mpcrop = o.mainSelection other.plain
  mpfmt : t.mpfmt = o.mainFormat
  mainSent : t.mainSent = []
  selfSent : t.selfSent = []
  self : o.SelfConfigured → ∃ s t', calcCrop other o o.selfCrop o.spres s = .next () t' ∧
    t.spcrop = selection t'.temp ∧ t.spfmt = fmtVideo o.mpres o.spfmt

/-- The variables between the two paths. -/
theorem wp_configMain (hmain : o.MainConfigured → ClosedSizes other o.mainCrop o.mpres) :
    wp (do
        modify fun s => if s.mpcrop = [] then { s with mpcrop := o.outcrop } else s
        whenever (fun s => o.mpnode ≠ [] ∧ s.mpfmt ≠ [] ∧ o.mpres ≠ [] ∧ s.mpcrop ≠ [])
          (mainPath other o))
      (fun _ t => ∃ c failed, t = { o.shell with
        mpcrop := o.mainSelection other.plain, mpfmt := o.mainFormat, temp := c, failed := failed })
      (fun _ _ => True) (fun _ _ => True) o.shell := by
  -- a path without a crop of its own takes the one of the ISP
  have hdefault : (if o.shell.mpcrop = [] then { o.shell with mpcrop := o.outcrop } else o.shell) =
      { o.shell with mpcrop := o.mainCrop } := by
    unfold Options.mainCrop
    change (if o.mpcrop = [] then _ else _) = _
    split <;> rfl
  rw [wp_bind, wp_modify, hdefault, wp_whenever]
  change if o.MainConfigured then _ else _
  by_cases hconf : o.MainConfigured
  · rw [if_pos hconf]
    have hne : ¬ (o.mainCrop = [] ∨ o.mpres = []) := not_or.mpr ⟨hconf.2.2.2, hconf.2.2.1⟩
    refine wp_mono (wp_mainPath (s := { o.shell with mpcrop := o.mainCrop }) hne (hmain hconf)
      closed_nil closed_nil) ?_ (fun _ _ _ => trivial) (fun _ _ _ => trivial)
    rintro _ _ ⟨failed, rfl⟩
    unfold Options.mainSelection Options.mainFormat
    rw [if_pos hconf, if_pos hconf]
    exact ⟨_, failed, rfl⟩
  · rw [if_neg hconf]
    unfold Options.mainSelection Options.mainFormat
    rw [if_neg hconf, if_neg hconf]
    exact ⟨_, _, rfl⟩

theorem wp_configPaths (hmain : o.MainConfigured → ClosedSizes other o.mainCrop o.mpres) :
    wp (configPaths other o) (fun _ t => Configured other o t) (fun _ _ => True) (fun _ _ => True)
      o.shell := by
  have hconfig := wp_configMain hmain
  rw [wp_bind, wp_modify] at hconfig
  unfold configPaths
  rw [wp_bind, wp_modify, wp_bind]
  refine wp_mono hconfig ?_ (fun _ _ _ => trivial) (fun _ _ _ => trivial)
  rintro _ _ ⟨c, failed, rfl⟩
  have hdefault : ∀ t : Shell, t.spcrop = o.spcrop →
      (if t.spcrop = [] then { t with spcrop := o.outcrop } else t) =
        { t with spcrop := o.selfCrop } := by
    intro t ht
    unfold Options.selfCrop
    rw [← ht]
    split <;> rfl
  rw [wp_bind, wp_modify, hdefault _ rfl, wp_whenever]
  change if o.SelfConfigured then _ else _
  by_cases hconf : o.SelfConfigured
  · rw [if_pos hconf]
    refine wp_mono wp_selfPath ?_ (fun _ _ _ => trivial) (fun _ _ _ => trivial)
    rintro _ _ ⟨_, hrun, ⟨temp, locals, failed', rfl⟩, rfl⟩
    exact ⟨rfl, rfl, rfl, rfl, fun _ => ⟨_, _, hrun, rfl, rfl⟩⟩
  · rw [if_neg hconf]
    exact ⟨rfl, rfl, rfl, rfl, fun h => absurd h hconf⟩

theorem whenever_sendMain (p : Shell → Prop) [DecidablePred p] (arg : Shell → Str) :
    whenever p (sendMain o arg) s = .next ()
      { s with mainSent := s.mainSent ++ if p s then [(o.mpnode, arg s)] else [] } := by
  unfold whenever
  split
  · rfl
  · rw [List.append_nil]

theorem whenever_sendSelf (p : Shell → Prop) [DecidablePred p] (arg : Shell → Str) :
    whenever p (sendSelf o arg) s = .next ()
      { s with selfSent := s.selfSent ++ if p s then [(o.spnode, arg s)] else [] } := by
  unfold whenever
  split
  · rfl
  · rw [List.append_nil]

/-- What is sent when the paths are configured. -/
theorem sendPaths_eq : sendPaths o s = .next ()
    { s with
      mainSent := (s.mainSent ++ if s.mpcrop ≠ [] ∧ o.mpnode ≠ [] then [(o.mpnode, s.mpcrop)]
        else []) ++ if s.mpfmt ≠ [] ∧ o.mpres ≠ [] ∧ o.mpnode ≠ [] then [(o.mpnode, s.mpfmt)]
        else []
      selfSent := (s.selfSent ++ if s.spcrop ≠ [] ∧ o.spnode ≠ [] then [(o.spnode, s.spcrop)]
        else []) ++ if s.spfmt ≠ [] ∧ o.spres ≠ [] ∧ o.spnode ≠ [] then [(o.spnode, s.spfmt)]
        else [] } := by
  unfold sendPaths
  rw [bind_next (whenever_sendMain ..), bind_next (whenever_sendMain ..),
    bind_next (whenever_sendSelf ..)]
  exact whenever_sendSelf ..

theorem toList_append_ne_nil {text : String} (h : text ≠ "") (s : Str) : text.toList ++ s ≠ [] :=
  List.append_ne_nil_of_left_ne_nil (fun hnil => h (String.toList_eq_nil_iff.mp hnil)) s

theorem selection_ne_nil (c : Temp) : selection c ≠ [] := by
  unfold selection
  simp only [List.append_assoc]
  exact toList_append_ne_nil (by decide) _

theorem fmtVideo_ne_nil (res fmt : Str) : fmtVideo res fmt ≠ [] := by
  unfold fmtVideo
  simp only [List.append_assoc]
  exact toList_append_ne_nil (by decide) _

/-- **What the nodes are sent**, where the script goes through. -/
theorem wp_setPipeline (hmain : o.MainConfigured → ClosedSizes other o.mainCrop o.mpres) :
    wp (setPipeline other o)
      (fun _ t => t.mainSent = o.mainArguments other.plain ∧ (o.SelfConfigured →
        ∃ s t', calcCrop other o o.selfCrop o.spres s = .next () t' ∧
          t.selfSent = [(o.spnode, selection t'.temp), (o.spnode, fmtVideo o.mpres o.spfmt)]))
      (fun _ _ => True) (fun _ _ => True) o.shell := by
  unfold setPipeline
  refine wp_seq wp_checkOptions ?_
  rintro _ _ rfl
  refine wp_seq (wp_configPaths hmain) ?_
  intro _ t hconf
  rw [wp_of_next sendPaths_eq]
  refine ⟨?_, fun hself => ?_⟩
  · rw [hconf.mainSent, hconf.mpcrop, hconf.mpfmt, List.nil_append]
    rfl
  · obtain ⟨s, t', hrun, hcrop, hfmt⟩ := hconf.self hself
    refine ⟨s, t', hrun, ?_⟩
    change (t.selfSent ++ if t.spcrop ≠ [] ∧ o.spnode ≠ [] then _ else _) ++
      (if t.spfmt ≠ [] ∧ o.spres ≠ [] ∧ o.spnode ≠ [] then _ else _) = _
    rw [hconf.selfSent, hcrop, hfmt, if_pos ⟨selection_ne_nil _, hself.1⟩,
      if_pos ⟨fmtVideo_ne_nil _ _, hself.2.2.1, hself.1⟩]
    rfl

end run

/-! ## Independence -/

/-- The script goes through, and configures the self path. -/
structure Reaches (other : Reading) (o : Options) (s : Shell) : Prop where
  run : setPipeline other o o.shell = .next () s
  configured : o.SelfConfigured

/-- The options are the same but for those of the self path. -/
def SameButSelf (o o' : Options) : Prop :=
  ∃ spnode spcrop spfmt spres,
    o' = { o with spnode := spnode, spcrop := spcrop, spfmt := spfmt, spres := spres }

/-- The options are the same but for those of the main path. -/
def SameButMain (o o' : Options) : Prop :=
  ∃ mpnode mpcrop mpfmt mpres,
    o' = { o with mpnode := mpnode, mpcrop := mpcrop, mpfmt := mpfmt, mpres := mpres }

/-- What the self path should get: the crop of its picture for its size, its size and its
format. -/
def SelfRight (other : Reading) (o : Options) (s : Shell) : Prop :=
  ∃ c, Computes other o.selfCrop o.spres c ∧
    s.selfSent = [(o.spnode, selection c), (o.spnode, fmtVideo o.spres o.spfmt)]

/-- **The two paths are independent** in a run. -/
structure Independent (other : Reading) (o : Options) (s : Shell) : Prop where
  self : SelfRight other o s
  self_same : ∀ o' s', SameButMain o o' → Reaches other o' s' → SelfRight other o' s' →
    s'.selfSent = s.selfSent
  main_same : ∀ o' s', SameButSelf o o' → setPipeline other o' o'.shell = .next () s' →
    s'.mainSent = s.mainSent

/-- A size as an argument has it. -/
def sizeArgument (res : Str) : Str := beforeX res ++ ",height=".toList ++ afterX res

/-- The two sizes are printed alike. -/
def SizesAlike (o : Options) : Prop := sizeArgument o.mpres = sizeArgument o.spres

instance (o : Options) : Decidable (SizesAlike o) := inferInstanceAs (Decidable (_ = _))

/-- The arguments for a format are the same exactly where the sizes are printed alike. -/
theorem fmtVideo_eq_iff {res res' fmt : Str} :
    fmtVideo res fmt = fmtVideo res' fmt ↔ sizeArgument res = sizeArgument res' := by
  have hsplit : ∀ res : Str, fmtVideo res fmt =
      "--set-fmt-video=width=".toList ++ (sizeArgument res ++ (",pixelformat=".toList ++ fmt)) :=
    fun res => by
      unfold fmtVideo sizeArgument
      simp only [List.append_assoc]
  rw [hsplit, hsplit, List.append_cancel_left_eq, List.append_cancel_right_eq]

section independent

variable {other : Reading} {o : Options} {s : Shell}

/-- The run of the script, on the side of the self path. -/
theorem Reaches.selfSent (h : Reaches other o s) (hclosed : ClosedPaths other o) :
    ∃ s' t, calcCrop other o o.selfCrop o.spres s' = .next () t ∧
      s.selfSent = [(o.spnode, selection t.temp), (o.spnode, fmtVideo o.mpres o.spfmt)] :=
  (wp_next (wp_setPipeline hclosed.main) h.run).2 h.configured

/-- What the main path gets is made of its own options. -/
theorem mainSent_eq (h : setPipeline other o o.shell = .next () s)
    (hmain : o.MainConfigured → ClosedSizes other o.mainCrop o.mpres) :
    s.mainSent = o.mainArguments other.plain :=
  (wp_next (wp_setPipeline hmain) h).1

theorem sizesAlike_of_selfRight (h : Reaches other o s) (hclosed : ClosedPaths other o)
    (hright : SelfRight other o s) : SizesAlike o := by
  obtain ⟨s', t, -, hsent⟩ := h.selfSent hclosed
  obtain ⟨c, -, hsent'⟩ := hright
  rw [hsent] at hsent'
  exact fmtVideo_eq_iff.mp (congrArg (fun l => (l.getD 1 ([], [])).2) hsent')

/-- **What the self path gets is right** exactly where the sizes are printed alike and `calcCrop`
writes all its variables. -/
theorem selfRight_iff (h : Reaches other o s) (hclosed : ClosedPaths other o) :
    SelfRight other o s ↔
      SizesAlike o ∧ Determined other.plain o.selfCrop o.spres := by
  have hne : ¬ (o.selfCrop = [] ∨ o.spres = []) :=
    not_or.mpr ⟨h.configured.2.2.2, h.configured.2.2.1⟩
  rw [← computes_iff hne hclosed.self]
  constructor
  · intro hright
    exact ⟨sizesAlike_of_selfRight h hclosed hright, hright.imp fun _ => And.left⟩
  · rintro ⟨halike, c, hcomp⟩
    obtain ⟨s', t, hrun, hsent⟩ := h.selfSent hclosed
    obtain ⟨t', hrun', htemp⟩ := hcomp o s'
    rw [hrun] at hrun'
    cases hrun'
    refine ⟨c, hcomp, ?_⟩
    rw [hsent, htemp, fmtVideo_eq_iff.mpr halike]

end independent

/-- **When the paths are independent**, where no text of a size names a variable: exactly where the
sizes of both are printed alike, and `calcCrop` writes all its variables for the self path. -/
theorem independent_iff {other : Reading} {o : Options} {s : Shell} (h : Reaches other o s)
    (hclosed : ClosedPaths other o) :
    Independent other o s ↔ SizesAlike o ∧ Determined other.plain o.selfCrop o.spres := by
  rw [← selfRight_iff h hclosed]
  refine ⟨fun hind => hind.self, fun hright => ⟨hright, ?_, ?_⟩⟩
  · rintro o' s' ⟨mpnode, mpcrop, mpfmt, mpres, rfl⟩ - ⟨c', hcomp', hsent'⟩
    obtain ⟨c, hcomp, hsent⟩ := hright
    rw [hsent, hsent', hcomp.unique hcomp']
  · -- the arguments of the main path name no option of the self path
    rintro o' s' ⟨spnode, spcrop, spfmt, spres, rfl⟩ hrun
    rw [mainSent_eq hrun hclosed.main, mainSent_eq h.run hclosed.main]
    rfl

/-- Options with a main path and a self path of the given sizes. -/
def bothPaths (mpres spres : Str) : Options where
  mpnode := "/dev/video1".toList
  mpcrop := "1920x1080".toList
  mpres := mpres
  spnode := "/dev/video2".toList
  spcrop := "1920x1080".toList
  spfmt := "NV12".toList
  spres := spres

/-- The script gets to its end where it gets through the configuration. -/
theorem reaches_of_isNext {other : Reading} {o : Options}
    (h : ((checkOptions o >>= fun _ => configPaths other o) o.shell).IsNext ())
    (hconf : o.SelfConfigured) : Reaches other o (setPipeline other o o.shell).state := by
  obtain ⟨_, s, hcheck, hconfig⟩ := bind_eq_next h.eq
  refine ⟨?_, hconf⟩
  unfold setPipeline
  rw [bind_next hcheck, bind_next hconfig, sendPaths_eq]
  rfl

/-- Constants are read alike. -/
theorem closedSizes_of_constants {other : Reading} {full target : Str}
    (h : ∀ text ∈ sizeTexts full ++ sizeTexts target, IsConstant text) :
    ClosedSizes other full target where
  closed_full text htext := closed_constant (h text (List.mem_append_left _ htext))
  closed_target text htext := closed_constant (h text (List.mem_append_right _ htext))
  assigns text htext := (h text htext).not_mayAssign

/-- Both paths at 640 by 480. -/
theorem independent_iff_vga :
    let o := bothPaths "640x480".toList "640x480".toList
    let other : Reading := fun _ _ _ => none
    Independent other o (setPipeline other o o.shell).state ↔
      SizesAlike o ∧ Determined other.plain o.selfCrop o.spres := by
  have hclosed : ClosedPaths (fun _ _ _ => none) (bothPaths "640x480".toList "640x480".toList) :=
    ⟨closedSizes_of_constants (by decide +kernel),
      fun _ => closedSizes_of_constants (by decide +kernel)⟩
  exact independent_iff (reaches_of_isNext (by decide +kernel) (by decide +kernel)) hclosed

/-- A self path of 320 by 240 next to a main path of 640 by 480. -/
theorem not_independent :
    ¬ ∀ (other : Reading) (o : Options) (s : Shell), Reaches other o s →
      Independent other o s := by
  intro hall
  let o := bothPaths "640x480".toList "320x240".toList
  let other : Reading := fun _ _ _ => none
  have hreach : Reaches other o (setPipeline other o o.shell).state :=
    reaches_of_isNext (by decide +kernel) (by decide +kernel)
  have hclosed : ClosedPaths other o :=
    ⟨closedSizes_of_constants (by decide +kernel),
      fun _ => closedSizes_of_constants (by decide +kernel)⟩
  have halike : SizesAlike o :=
    sizesAlike_of_selfRight hreach hclosed (hall other o _ hreach).self
  exact absurd halike (by decide +kernel)

end Isp

end Rk3399
