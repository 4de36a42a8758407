import Rk3399.Update.Helpers.Items
/-!
# Malformed images

Whether an image that is not well formed can reach the recovery partition, or
memory behind the header. The tag of the header is never looked at, and the
item count only for being positive: `contained_iff` says which images and
names are handled safely nevertheless.
-/

namespace Rk3399

namespace Update

open Prog

/-- The head, or the header of the items, has a wrong tag or cannot be read. -/
def Malformed (image : ImageFile) : Prop :=
  ¬ (image.HasHead ∧ image.HdrReadable ∧ image.hdr.tag = RKIMAGE_TAG)

/-- A byte outside the item array, or behind the header, is read. -/
def Fault.Foreign (e : Fault) : Prop := ∃ idx, e = .item idx ∨ e = .name idx

/-- **The image is contained**, in a build that keeps the load of a high word or one that
drops it: if it is malformed then `WriteFwData` fails before it opens the recovery partition,
and neither function leaves the item array or the header, for `CheckFwData` after any call
of `WriteFwData` that has found the image and has returned. -/
structure Contained (keepsLoad : Bool) (image : ImageFile) (fwName : CString) : Prop where
  refused : Malformed image → ∀ env imgPath s, env.keepsLoad = keepsLoad → env.image = image →
    s.recoveryOpened = false →
    ∃ s', writeFwData env imgPath fwName s = .exit (-1) s' ∧ s'.recoveryOpened = false
  written : ∀ env imgPath s e s', env.keepsLoad = keepsLoad → env.image = image →
    writeFwData env imgPath fwName s = .fault e s' → ¬ e.Foreign
  checked : ∀ env imgPath s r s', env.keepsLoad = keepsLoad → env.image = image →
    env.Opens imgPath → writeFwData env imgPath fwName s = .exit r s' →
    ∀ env' e s'', env'.keepsLoad = keepsLoad → env'.image = image →
      checkFwData env' fwName s' = .fault e s'' → ¬ e.Foreign

/-- A malformed image has no header that can be read, or one without items, and going
through the items of the header does not leave it. -/
def StaysInside (keepsLoad : Bool) (image : ImageFile) (fwName : CString) : Prop :=
  (Malformed image → ¬ image.HdrReadable ∨ image.hdr.itemCount ≤ 0) ∧
    (image.HdrReadable → image.walk keepsLoad fwName ≠ .overrun)

section

variable {keepsLoad : Bool} {image : ImageFile} {fwName : CString}

/-- A fault outside the header is one of a walk that leaves it. -/
theorem Fault.Ends.overrun_of_foreign {e : Fault} {w : Walk} (h : e.Ends w) (he : e.Foreign) :
    w = .overrun := by
  rcases h with ⟨-, address, rfl⟩ | ⟨hw, -⟩
  · obtain ⟨idx, hno | hno⟩ := he <;> cases hno
  · exact hw

/-- A walk that leaves the header has items to go through. -/
theorem count_pos_of_overrun (h : image.walk keepsLoad fwName = .overrun) :
    0 < image.hdr.itemCount := by
  rcases Int.lt_or_le 0 image.hdr.itemCount with hpos | hle
  · exact hpos
  · rw [ImageFile.walk, Int.toNat_of_nonpos hle] at h
    cases h

/-- **Necessity**: where everything works, a malformed header with items is written from, and
a walk that leaves the header is followed. -/
theorem staysInside_of_contained (h : Contained keepsLoad image fwName) :
    StaysInside keepsLoad image fwName := by
  obtain ⟨platform, rfl⟩ : ∃ platform : Platform, platform.keepsLoad = keepsLoad :=
    ⟨⟨keepsLoad, id⟩, rfl⟩
  constructor
  · intro hmalformed
    by_contra hno
    obtain ⟨hread, hcount⟩ : image.HdrReadable ∧ 0 < image.hdr.itemCount := by
      obtain ⟨hread, hcount⟩ := not_or.mp hno
      exact ⟨not_not.mp hread, by omega⟩
    obtain ⟨s', hout, hs'⟩ := h.refused hmalformed (.working platform image image.toContent true)
      "update.img" .initial rfl rfl rfl
    have hopened :=
      (wp_exit_of (writeFwData_working platform image.toContent fwName .initial hread hcount)
      hout).1
    rw [hs'] at hopened
    cases hopened
  · intro hread hover
    have hwrite := writeFwData_working platform image.toContent fwName .initial hread
      (count_pos_of_overrun hover)
    rw [hover, wp_def] at hwrite
    cases hout : writeFwData (.working platform image image.toContent true) "update.img" fwName
        .initial with
    | next a s' => exact hwrite.1 a s' hout
    | exit r s' =>
      rcases (hwrite.2.1 r s' hout).2.2 with ⟨-, hno⟩ | ⟨-, hno⟩ <;> cases hno
    | fault e s' =>
      rcases hwrite.2.2 e s' hout with ⟨hno, -⟩ | ⟨-, hforeign⟩
      · cases hno
      · exact h.written _ _ _ e s' rfl rfl hout hforeign

/-- **Sufficiency.** -/
theorem contained_of_staysInside (h : StaysInside keepsLoad image fwName) :
    Contained keepsLoad image fwName where
  refused := by
    rintro hmalformed env imgPath s rfl rfl hs
    have hno : ¬ GetsToItems env imgPath := by
      rintro ⟨-, hread, hcount, -⟩
      rcases h.1 hmalformed with hunread | hempty
      · exact hunread hread
      · omega
    have hwrite := wp_writeFwData env imgPath fwName s
    rw [wp_def] at hwrite
    cases hout : writeFwData env imgPath fwName s with
    | next a s' => exact (hwrite.1 a s' hout).elim
    | exit r s' =>
      rcases (hwrite.2.1 r s' hout).2 with ⟨-, rfl, hopened, -⟩ | ⟨hgets, -⟩
      · exact ⟨s', rfl, hopened.trans hs⟩
      · exact absurd hgets hno
    | fault e s' => exact absurd (hwrite.2.2 e s' hout).1 hno
  written := by
    rintro env imgPath s e s' rfl rfl hout hforeign
    obtain ⟨hgets, hends⟩ := wp_fault_of (wp_writeFwData env imgPath fwName s) hout
    exact h.2 hgets.2.1 (hends.overrun_of_foreign hforeign)
  checked := by
    rintro env imgPath s r s' rfl rfl hopens hwrite env' e s'' hload' henv' hout hforeign
    have hknows := (wp_exit_of (wp_writeFwData env imgPath fwName s) hwrite).1 hopens
    rw [← hload', ← henv'] at h
    rw [← henv'] at hknows
    obtain ⟨hread, hends⟩ := wp_fault_of (wp_checkFwData env' fwName hknows) hout
    exact h.2 hread (hends.overrun_of_foreign hforeign)

end

/-- **A malformed image is contained, exactly where its header has no items or cannot be read
and its items stay inside the header.** -/
theorem contained_iff (keepsLoad : Bool) (image : ImageFile) (fwName : CString) :
    Contained keepsLoad image fwName ↔ StaysInside keepsLoad image fwName :=
  ⟨staysInside_of_contained, contained_of_staysInside⟩

/-- **Seventeen items**: the one behind the array is looked at. -/
theorem not_contained : ¬ ∀ keepsLoad image fwName, Contained keepsLoad image fwName := by
  intro hall
  have hout : writeFwData (.working .sound (bootImage 17) (bootImage 17).toContent true)
      "update.img" partitionName .initial = .fault (.item 16) _ :=
    Outcome.IsFault.eq (by decide +kernel)
  exact (hall false (bootImage 17) partitionName).written _ _ _ _ _ rfl rfl hout ⟨16, .inl rfl⟩

end Update

end Rk3399
