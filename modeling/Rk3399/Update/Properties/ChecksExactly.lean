import Rk3399.Update.Helpers.Items
/-!
# Checking an item of an image

Whether `CheckFwData` says that the recovery partition holds the item. It
follows the same walk as `WriteFwData`, whatever that has done before:
`checksExactly_iff` says for which images and names the data of the walk
stands for the item.
-/

namespace Rk3399

namespace Update

open Prog

/-- The recovery partition holds an item of the image with the name, from its start. -/
def HoldsItem (image : ImageFile) (fwName : CString) (recovery : Content) : Prop :=
  ∃ idx, image.IsItem fwName idx ∧ image.Inside idx ∧ recovery.Holds 0 (image.itemBytes idx)

/-- **The check is exact**, in a build that keeps the load of a high word or one that drops
it: after any call of `WriteFwData` that has found the image and has returned, `CheckFwData`
returns true only where the partition holds the item, and there it does where its files
can be opened and there is memory. So the tool calls `rebootUpdate` only where the
partition holds the item `recovery`. -/
structure ChecksExactly (keepsLoad : Bool) (image : ImageFile) (fwName : CString) : Prop where
  sound : ∀ env imgPath s r s', env.keepsLoad = keepsLoad → env.image = image →
    env.Opens imgPath → writeFwData env imgPath fwName s = .exit r s' →
    ∀ env', env'.keepsLoad = keepsLoad → env'.image = image →
      (checkFwData env' fwName s').IsExit true → HoldsItem image fwName env'.recovery
  complete : ∀ env imgPath s r s', env.keepsLoad = keepsLoad → env.image = image →
    env.Opens imgPath → writeFwData env imgPath fwName s = .exit r s' →
    ∀ env', env'.keepsLoad = keepsLoad → env'.image = image → env'.imageOpens = true →
      env'.recoveryOpens = true → env'.Reads →
      HoldsItem image fwName env'.recovery → (checkFwData env' fwName s').IsExit true
  reboots : fwName = partitionName → ∀ env env' imgPath s, env.keepsLoad = keepsLoad →
    env'.keepsLoad = keepsLoad → env.image = image → env'.image = image →
      (main env env' imgPath s).IsNext () → HoldsItem image fwName env'.recovery

/-- The data of the walk stands for the items with the name: it is the data of one, and the
start of every other. Where the walk does not come to an end there is none. -/
def WalkIsItem (keepsLoad : Bool) (image : ImageFile) (fwName : CString) : Prop :=
  image.HdrReadable →
    match image.walk keepsLoad fwName with
    | .done data =>
      (∃ idx, image.IsItem fwName idx ∧ image.Inside idx ∧ image.itemBytes idx = data) ∧
        ∀ idx, image.IsItem fwName idx → image.Inside idx → data <+: image.itemBytes idx
    | .stuck | .overrun => ∀ idx, image.IsItem fwName idx → ¬ image.Inside idx

/-- Bytes as what a partition holds. -/
def Content.ofBytes (data : List UInt8) : Content where
  size := data.length
  byte i := data.getD i 0

section

variable {keepsLoad : Bool} {image : ImageFile} {fwName : CString}

theorem WalkIsItem.of_done (h : WalkIsItem keepsLoad image fwName) (hread : image.HdrReadable)
    {data : List UInt8} (hwalk : image.walk keepsLoad fwName = .done data) :
    (∃ idx, image.IsItem fwName idx ∧ image.Inside idx ∧ image.itemBytes idx = data) ∧
      ∀ idx, image.IsItem fwName idx → image.Inside idx → data <+: image.itemBytes idx := by
  have hitem := h hread
  rwa [hwalk] at hitem

theorem holds_ofBytes {data data' : List UInt8} :
    (Content.ofBytes data).Holds 0 data' ↔ data' <+: data := by
  constructor
  · intro h
    have hlen : data'.length ≤ data.length := by
      cases hcases : data'.length with
      | zero => exact Nat.zero_le _
      | succ n =>
        have hlast := (h n (by omega)).1
        simp only [Content.ofBytes] at hlast
        omega
    refine List.prefix_iff_getElem.mpr ⟨hlen, fun i hi => ?_⟩
    have hbyte := (h i hi).2
    simp only [Content.ofBytes, Nat.zero_add] at hbyte
    rw [← hbyte, List.getD_eq_getElem?_getD, List.getElem?_eq_getElem (by omega), Option.getD_some]
  · intro h i hi
    obtain ⟨hlen, hget⟩ := List.prefix_iff_getElem.mp h
    refine ⟨by simp only [Content.ofBytes]; omega, ?_⟩
    simp only [Content.ofBytes, Nat.zero_add]
    rw [List.getD_eq_getElem?_getD, List.getElem?_eq_getElem (by omega), Option.getD_some,
      hget i hi]

/-- The check after a write that has found the image and could not open the partition. -/
theorem check_working (platform : Platform) (image : ImageFile) (fwName : CString)
    (recovery : Content) : ∃ env imgPath s r s',
    env.keepsLoad = platform.keepsLoad ∧ env.image = image ∧ env.Opens imgPath ∧
      writeFwData env imgPath fwName s = .exit r s' ∧
      ((checkFwData (.working platform image recovery true) fwName s').IsExit true ↔
        image.HdrReadable ∧ ∃ data, image.walk platform.keepsLoad fwName = .done data ∧
          recovery.Holds 0 data) := by
  obtain ⟨r, s', hwrite, hknows⟩ := writeFwData_unopened recovery fwName .initial platform image
  refine ⟨_, _, _, r, s', rfl, rfl, opens_working _ false, hwrite, ?_⟩
  have hcheck := wp_checkFwData (.working platform image recovery true) fwName hknows
  rw [wp_def] at hcheck
  cases hout : checkFwData (.working platform image recovery true) fwName s' with
  | next a s'' => exact (hcheck.1 a s'' hout).elim
  | exit checked s'' =>
    obtain ⟨htrue, hfalse⟩ := hcheck.2.1 checked s'' hout
    refine ⟨fun h => htrue h, fun ⟨hread, data, hwalk, hholds⟩ => ?_⟩
    cases checked with
    | true => rfl
    | false => exact absurd hholds (hfalse rfl rfl rfl (reads_working _ true) hread data hwalk)
  | fault e s'' =>
    refine ⟨False.elim, fun ⟨hread, data, hwalk, hholds⟩ => ?_⟩
    have hends : e.Ends (image.walk platform.keepsLoad fwName) := (hcheck.2.2 e s'' hout).2
    rw [hwalk] at hends
    rcases hends with ⟨hno, -⟩ | ⟨hno, -⟩ <;> cases hno

/-- **Necessity**: partitions that hold just the data of the walk, or just an item, tell the
two apart. -/
theorem walkIsItem_of_checksExactly (h : ChecksExactly keepsLoad image fwName) :
    WalkIsItem keepsLoad image fwName := by
  intro hread
  obtain ⟨platform, rfl⟩ : ∃ platform : Platform, platform.keepsLoad = keepsLoad :=
    ⟨⟨keepsLoad, id⟩, rfl⟩
  -- a partition with the bytes of an item passes, so these begin with the data of the walk
  have hitem : ∀ idx, image.IsItem fwName idx → image.Inside idx →
      ∃ data, image.walk platform.keepsLoad fwName = .done data ∧ data <+: image.itemBytes idx := by
    intro idx hitem hinside
    obtain ⟨env, imgPath, s, r, s', hload, henv, hopens, hwrite, hcheck⟩ :=
      check_working platform image fwName (Content.ofBytes (image.itemBytes idx))
    have hholds : HoldsItem image fwName (Content.ofBytes (image.itemBytes idx)) :=
      ⟨idx, hitem, hinside, holds_ofBytes.mpr (List.prefix_refl _)⟩
    have hchecked := h.complete env imgPath s r s' hload henv hopens hwrite
      (.working platform image (Content.ofBytes (image.itemBytes idx)) true) rfl rfl rfl rfl
      (reads_working _ true) hholds
    obtain ⟨-, data, hwalk, hdata⟩ := hcheck.mp hchecked
    exact ⟨data, hwalk, holds_ofBytes.mp hdata⟩
  cases hwalk : image.walk platform.keepsLoad fwName with
  | done data =>
    refine ⟨?_, fun idx hidx hinside => ?_⟩
    · -- a partition with just that data passes too, so it begins with the bytes of an item
      obtain ⟨env, imgPath, s, r, s', hload, henv, hopens, hwrite, hcheck⟩ :=
        check_working platform image fwName (Content.ofBytes data)
      have hchecked := hcheck.mpr ⟨hread, data, hwalk, holds_ofBytes.mpr (List.prefix_refl _)⟩
      obtain ⟨idx, hidx, hinside, hholds⟩ := h.sound env imgPath s r s' hload henv hopens
        hwrite (.working platform image (Content.ofBytes data) true) rfl rfl hchecked
      obtain ⟨data', hwalk', hhead⟩ := hitem idx hidx hinside
      rw [hwalk] at hwalk'
      cases hwalk'
      have hitemPrefix : image.itemBytes idx <+: data := holds_ofBytes.mp hholds
      exact ⟨idx, hidx, hinside, hitemPrefix.eq_of_length_le hhead.length_le⟩
    · obtain ⟨data', hwalk', hhead⟩ := hitem idx hidx hinside
      rw [hwalk] at hwalk'
      cases hwalk'
      exact hhead
  | stuck | overrun =>
    intro idx hidx hinside
    obtain ⟨data, hdone, -⟩ := hitem idx hidx hinside
    rw [hwalk] at hdone
    cases hdone

/-- A check that says true has compared the data of the walk, which is that of an item. -/
theorem holdsItem_of_check (h : WalkIsItem keepsLoad image fwName) {env : Env} {s : Updater}
    (hload : env.keepsLoad = keepsLoad) (henv : env.image = image) (hknows : s.Knows image)
    (hchecked : (checkFwData env fwName s).IsExit true) :
    HoldsItem image fwName env.recovery := by
  subst hload henv
  obtain ⟨hread, data, hwalk, hholds⟩ :=
    (wp_exit_of (wp_checkFwData env fwName hknows) hchecked.eq).1 rfl
  obtain ⟨⟨idx, hitem, hinside, rfl⟩, -⟩ := h.of_done hread hwalk
  exact ⟨idx, hitem, hinside, hholds⟩

/-- **`main` gets to the reboot only with an item on the partition.** -/
theorem wp_main_holdsItem {env env' : Env} {imgPath : String} {s : Updater}
    (h : WalkIsItem keepsLoad env.image partitionName) (hload' : env'.keepsLoad = keepsLoad)
    (henv' : env'.image = env.image) :
    wp (main env env' imgPath) (fun _ _ => HoldsItem env.image partitionName env'.recovery)
      (fun _ _ => True) (fun _ _ => True) s := by
  rw [main, wp_bind, wp_call]
  refine wp_mono (wp_writeFwData env imgPath partitionName s) (fun _ _ h => h.elim) ?_
    (fun _ _ _ => trivial)
  rintro r s' ⟨hknows, hends⟩
  rw [wp_bind, wp_exitIf]
  split
  · trivial
  · rename_i hr
    -- a write that left early has returned -1
    have hopens : env.Opens imgPath := by
      rcases hends with ⟨-, rfl, -⟩ | ⟨hgets, -⟩
      · exact absurd (by decide) hr
      · exact hgets.1
    rw [wp_bind, wp_call, wp_def]
    refine ⟨fun _ _ _ => ?_, fun checked s'' hchecked => ?_, fun _ _ _ => trivial⟩
    · rw [wp_exitIf, if_pos (by decide)]
      trivial
    · rw [wp_exitIf]
      split
      · trivial
      · rename_i hne
        obtain rfl : checked = true := by simpa using hne
        refine holdsItem_of_check h hload' henv' (hknows hopens) ?_
        rw [hchecked]
        rfl

/-- **Sufficiency.** -/
theorem checksExactly_of_walkIsItem (h : WalkIsItem keepsLoad image fwName) :
    ChecksExactly keepsLoad image fwName where
  sound := by
    rintro env imgPath s r s' - rfl hopens hwrite env' hload' henv' hchecked
    have hknows := (wp_exit_of (wp_writeFwData env imgPath fwName s) hwrite).1 hopens
    exact holdsItem_of_check h hload' henv' hknows hchecked
  complete := by
    rintro env imgPath s r s' - rfl hopens hwrite env' hload' henv' himage hrecovery hreads
      ⟨idx, hitem, hinside, hholds⟩
    have hknows := (wp_exit_of (wp_writeFwData env imgPath fwName s) hwrite).1 hopens
    rw [← hload', ← henv'] at h
    rw [← henv'] at hknows hitem hinside hholds
    have hcheck := wp_checkFwData env' fwName hknows
    cases hwalk : env'.image.walk env'.keepsLoad fwName with
    | done data =>
      -- the partition holds the item, which begins with the data of the walk
      obtain ⟨rest, hrest⟩ := (h.of_done hitem.hdr hwalk).2 idx hitem hinside
      have hdata : env'.recovery.Holds 0 data := by
        rw [← hrest] at hholds
        exact (Content.holds_append.mp hholds).1
      rw [wp_def] at hcheck
      cases hout : checkFwData env' fwName s' with
      | next a s'' => exact (hcheck.1 a s'' hout).elim
      | exit checked s'' =>
        cases checked with
        | true => rfl
        | false =>
          exact absurd hdata
            ((hcheck.2.1 false s'' hout).2 rfl himage hrecovery hreads hitem.hdr data hwalk)
      | fault e s'' =>
        have hends := (hcheck.2.2 e s'' hout).2
        rw [hwalk] at hends
        rcases hends with ⟨hno, -⟩ | ⟨hno, -⟩ <;> cases hno
    | stuck | overrun =>
      have hnone := h hitem.hdr
      rw [hwalk] at hnone
      exact absurd hinside (hnone idx hitem)
  reboots := by
    rintro rfl env env' imgPath s - hload' rfl henv' hreboots
    exact wp_next (wp_main_holdsItem h hload' henv') hreboots.eq

end

/-- **The check is exact, exactly where the data of the walk stands for the item.** -/
theorem checksExactly_iff (keepsLoad : Bool) (image : ImageFile) (fwName : CString) :
    ChecksExactly keepsLoad image fwName ↔ WalkIsItem keepsLoad image fwName :=
  ⟨walkIsItem_of_checksExactly, checksExactly_of_walkIsItem⟩

/-- For a well-formed image the condition is on the one item with the name: it is empty, or the
build does not try to load a high word of its offset and its bytes are also at its position
as a 32-bit word. -/
theorem walkIsItem_wellFormed (keepsLoad : Bool) {image : ImageFile} (h : image.WellFormed)
    {fwName : CString} :
    WalkIsItem keepsLoad image fwName ↔ ∃ idx, image.IsItem fwName idx ∧
      (image.hdr.fullSize idx = 0 ∨ ¬ (keepsLoad = true ∧ image.hdr.file idx 50 = 0x48) ∧
        image.bytes (u32 (fwOffset image + image.hdr.offset idx)) (image.hdr.fullSize idx) =
          image.itemBytes idx) := by
  have hsame : ∀ idx idx', image.IsItem fwName idx → image.IsItem fwName idx' → idx = idx' := by
    intro idx idx' hitem hitem'
    exact h.distinct idx idx' hitem.count hitem'.count (hitem.name.trans hitem'.name.symm)
  constructor
  · intro hwalkIs
    by_cases hsome : ∃ idx, image.IsItem fwName idx
    · obtain ⟨idx, hitem⟩ := hsome
      refine ⟨idx, hitem, ?_⟩
      have hwalk := h.walk_of_isItem keepsLoad hitem
      by_cases hzero : image.hdr.fullSize idx = 0
      · exact .inl hzero
      · rw [ImageFile.found, if_neg hzero] at hwalk
        by_cases hhigh : keepsLoad = true ∧ image.hdr.file idx 50 = 0x48
        · have hnone := hwalkIs h.hdr
          rw [hwalk, if_pos hhigh] at hnone
          exact absurd (h.inside idx hitem.count) (hnone idx hitem)
        · rw [if_neg hhigh] at hwalk
          obtain ⟨⟨idx', hitem', -, hbytes⟩, -⟩ := hwalkIs.of_done h.hdr hwalk
          -- the names are distinct, so the item of the walk is this one
          obtain rfl := hsame idx idx' hitem hitem'
          exact .inr ⟨hhigh, hbytes.symm⟩
    · have hwalk := h.walk_of_no_item keepsLoad fun idx hitem => hsome ⟨idx, hitem⟩
      obtain ⟨⟨idx, hitem, -⟩, -⟩ := hwalkIs.of_done h.hdr hwalk
      exact absurd ⟨idx, hitem⟩ hsome
  · rintro ⟨idx, hitem, hcases⟩ -
    have hinside := h.inside idx hitem.count
    have hwalk : image.walk keepsLoad fwName = .done (image.itemBytes idx) := by
      rw [h.walk_of_isItem keepsLoad hitem, ImageFile.found, ImageFile.itemBytes]
      rcases hcases with hzero | ⟨hhigh, hbytes⟩
      · rw [if_pos hzero, hzero, Content.bytes_zero]
      · rw [if_neg hhigh, hbytes, ImageFile.itemBytes]
        split
        · rename_i hzero
          rw [hzero, Content.bytes_zero]
        · rfl
    rw [hwalk]
    refine ⟨⟨idx, hitem, hinside, rfl⟩, fun idx' hitem' _ => ?_⟩
    obtain rfl := hsame idx idx' hitem hitem'
    exact List.prefix_refl _

/-- **The check of an item the image does not have succeeds.** -/
theorem not_checksExactly :
    ¬ ∀ keepsLoad image fwName, ChecksExactly keepsLoad image fwName := by
  intro hall
  have hwalk : (bootImage 1).walk false partitionName = .done [] := by decide +kernel
  have hexact := walkIsItem_of_checksExactly (hall false (bootImage 1) partitionName)
  obtain ⟨⟨idx, hitem, -⟩, -⟩ := hexact.of_done (by decide +kernel) hwalk
  exact not_isItem_recovery idx hitem

end Update

end Rk3399
