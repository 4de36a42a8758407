import Rk3399.Update.Helpers.Items
/-!
# Writing an item of an image

Whether `WriteFwData` writes the item it is asked for. It adds the offset of
the item to that of the header as 32-bit words, it succeeds where no item has
the name, and it does not look at what `fclose` returns: `writesExactly_iff`
says for which images, names and platforms the bytes on the partition are
those of the item nevertheless.
-/

namespace Rk3399

namespace Update

open Prog

/-- **A write that succeeds is exact**: the image has an item of that name, and its bytes are
what was written to the partition. -/
def WritesExactly (platform : Platform) (image : ImageFile) (fwName : CString) : Prop :=
  ∀ env imgPath s s', env.toPlatform = platform → env.image = image →
    writeFwData env imgPath fwName s = .exit 0 s' →
      ∃ idx, image.IsItem fwName idx ∧ s'.written = image.itemBytes idx

/-- The image has an item of the name that is empty, or whose offset has a high word, which
the build tries to load, or whose bytes are also at its position as a 32-bit word and all
get to the partition. -/
def FoundAt32 (platform : Platform) (image : ImageFile) (fwName : CString) : Prop :=
  ∃ idx, image.IsItem fwName idx ∧
    (image.hdr.fullSize idx = 0 ∨ (platform.keepsLoad = true ∧ image.hdr.file idx 50 = 0x48) ∨
      image.hdr.fullSize idx ≤ platform.flushes (image.hdr.fullSize idx) ∧
        image.bytes (u32 (fwOffset image + image.hdr.offset idx)) (image.hdr.fullSize idx) =
          image.itemBytes idx)

section

variable {platform : Platform} {image : ImageFile} {fwName : CString}

/-- What the walk finds is what is at the 32-bit position. -/
theorem ImageFile.found_eq_done {keepsLoad : Bool} {idx : Nat} {data : List UInt8}
    (h : image.found keepsLoad idx = .done data) :
    data = image.bytes (u32 (fwOffset image + image.hdr.offset idx)) (image.hdr.fullSize idx) ∧
      (image.hdr.fullSize idx = 0 ∨ ¬ (keepsLoad = true ∧ image.hdr.file idx 50 = 0x48)) := by
  unfold ImageFile.found at h
  split at h
  · rename_i hzero
    cases h
    exact ⟨by rw [hzero, Content.bytes_zero], .inl hzero⟩
  · split at h
    · cases h
    · rename_i hhigh
      cases h
      exact ⟨rfl, .inr hhigh⟩

/-- The walk is stuck at an item only where the build tries to load its high word. -/
theorem ImageFile.load_of_found {keepsLoad : Bool} {idx : Nat}
    (h : ∀ data, image.found keepsLoad idx ≠ .done data) :
    keepsLoad = true ∧ image.hdr.file idx 50 = 0x48 := by
  unfold ImageFile.found at h
  split at h
  · exact absurd rfl (h [])
  · split at h
    · assumption
    · exact absurd rfl (h _)

/-- What a successful write has taken from the image, and has written. -/
theorem walk_of_success {env : Env} {imgPath : String} {s s' : Updater}
    (h : writeFwData env imgPath fwName s = .exit 0 s') :
    env.image.walk env.keepsLoad fwName = .done s'.taken ∧
      s'.written = s'.flushed env.toPlatform := by
  have hwrite := wp_exit_of (wp_writeFwData env imgPath fwName s) h
  rcases hwrite.2 with ⟨-, hr, -⟩ | ⟨-, -, hwritten, -, ⟨-, hdone⟩ | ⟨hr, -⟩⟩
  · cases hr
  · exact ⟨hdone, hwritten⟩
  · cases hr

/-- Where everything works, a walk that ends is a successful write. -/
theorem success_of_walk (hread : image.HdrReadable) (hcount : 0 < image.hdr.itemCount)
    {data : List UInt8} (hwalk : image.walk platform.keepsLoad fwName = .done data) :
    ∃ s', writeFwData (.working platform image image.toContent true) "update.img" fwName .initial =
        .exit 0 s' ∧
      s'.written = data.take (platform.flushes data.length) := by
  have hwrite := writeFwData_working platform image.toContent fwName .initial hread
    hcount
  rw [wp_def, hwalk] at hwrite
  cases hout : writeFwData (.working platform image image.toContent true) "update.img" fwName
      .initial with
  | next a s' => exact (hwrite.1 a s' hout).elim
  | exit r s' =>
    rcases (hwrite.2.1 r s' hout).2 with ⟨hwritten, ⟨rfl, hdone⟩ | ⟨-, hstuck⟩⟩
    · refine ⟨s', rfl, ?_⟩
      rw [hwritten, Updater.flushed, ← Walk.done.inj hdone]
    · cases hstuck
  | fault e s' =>
    rcases hwrite.2.2 e s' hout with ⟨hno, -⟩ | ⟨hno, -⟩ <;> cases hno

/-- Bytes of which a beginning gets to the partition are those of the item where it has all of
them. -/
theorem take_eq_itemBytes_iff {idx pos n : Nat} :
    (image.bytes pos (image.hdr.fullSize idx)).take n = image.itemBytes idx ↔
      image.hdr.fullSize idx ≤ n ∧
        image.bytes pos (image.hdr.fullSize idx) = image.itemBytes idx := by
  have hlen : (image.bytes pos (image.hdr.fullSize idx)).length = image.hdr.fullSize idx :=
    Content.length_bytes _ _ _
  constructor
  · intro h
    have hall : image.hdr.fullSize idx ≤ n := by
      have hlength := congrArg List.length h
      rw [List.length_take, hlen, ImageFile.itemBytes, Content.length_bytes] at hlength
      omega
    rw [List.take_of_length_le (by omega)] at h
    exact ⟨hall, h⟩
  · rintro ⟨hall, h⟩
    rw [List.take_of_length_le (by omega), h]

end

/-- **Writing a well-formed image is exact, exactly where the 32-bit position of the item will
do** and all of the item gets to the partition. -/
theorem writesExactly_iff {image : ImageFile} (h : image.WellFormed) (platform : Platform)
    (fwName : CString) :
    WritesExactly platform image fwName ↔ FoundAt32 platform image fwName := by
  have hcount : 0 < image.hdr.itemCount := h.count_pos
  constructor
  · intro hexact
    by_cases hitem : ∃ idx, image.IsItem fwName idx
    · obtain ⟨idx, hitem⟩ := hitem
      refine ⟨idx, hitem, ?_⟩
      -- where the build stops at the load there is no success to be wrong
      by_cases hload : platform.keepsLoad = true ∧ image.hdr.file idx 50 = 0x48
      · exact .inr (.inl hload)
      obtain ⟨data, hfound⟩ : ∃ data, image.found platform.keepsLoad idx = .done data := by
        by_contra hno
        exact hload (ImageFile.load_of_found (not_exists.mp hno))
      have hwalk := (h.walk_of_isItem platform.keepsLoad hitem).trans hfound
      obtain ⟨s', hsuccess, hs'⟩ := success_of_walk h.hdr hcount hwalk
      obtain ⟨idx', hitem', hbytes⟩ := hexact _ _ _ s' rfl rfl hsuccess
      obtain ⟨hidx, hname⟩ := h.isItem.mp hitem
      obtain ⟨hidx', hname'⟩ := h.isItem.mp hitem'
      -- the names are distinct, so that the item is the one the walk found
      obtain rfl := h.distinct idx idx' hidx hidx' (hname.trans hname'.symm)
      rw [hs', (ImageFile.found_eq_done hfound).1, Content.length_bytes,
        take_eq_itemBytes_iff] at hbytes
      exact .inr (.inr hbytes)
    · -- without an item of the name the walk moves nothing, and succeeds
      have hwalk := h.walk_of_no_item platform.keepsLoad fun idx hno => hitem ⟨idx, hno⟩
      obtain ⟨s', hsuccess, -⟩ := success_of_walk h.hdr hcount hwalk
      obtain ⟨idx, hno, -⟩ := hexact _ _ _ s' rfl rfl hsuccess
      exact absurd ⟨idx, hno⟩ hitem
  · rintro ⟨idx, hitem, hcases⟩ env imgPath s s' rfl rfl hsuccess
    obtain ⟨hdone, hwritten⟩ := walk_of_success hsuccess
    obtain ⟨hdata, hload⟩ := ImageFile.found_eq_done ((h.walk_of_isItem _ hitem).symm.trans hdone)
    refine ⟨idx, hitem, ?_⟩
    have hempty : env.image.hdr.fullSize idx = 0 → s'.written = env.image.itemBytes idx := by
      intro hzero
      rw [hwritten, Updater.flushed, hdata, ImageFile.itemBytes, hzero, Content.bytes_zero,
        Content.bytes_zero, List.take_nil]
    rcases hcases with hzero | hhigh | ⟨hall, hbytes⟩
    · exact hempty hzero
    · exact hempty (hload.resolve_right fun hno => hno hhigh)
    · rw [hwritten, Updater.flushed, hdata, Content.length_bytes, hbytes]
      exact List.take_of_length_le (by rw [ImageFile.itemBytes, Content.length_bytes]; exact hall)

theorem writesExactly_iff_bootImage :
    WritesExactly .sound (bootImage 1) bootName ↔ FoundAt32 .sound (bootImage 1) bootName :=
  writesExactly_iff wellFormed_bootImage .sound bootName

/-- **Writing an item the image does not have succeeds.** -/
theorem not_writesExactly :
    ¬ ∀ (platform : Platform) (image : ImageFile), image.WellFormed → ∀ fwName,
      WritesExactly platform image fwName := by
  intro hall
  have hexact := hall .sound (bootImage 1) wellFormed_bootImage partitionName
  have hout : writeFwData (.working .sound (bootImage 1) (bootImage 1).toContent true) "update.img"
      partitionName .initial = .exit 0 _ :=
    Outcome.IsExit.eq (by decide +kernel)
  obtain ⟨idx, hitem, -⟩ := hexact _ _ _ _ rfl rfl hout
  exact not_isItem_recovery idx hitem

end Update

end Rk3399
