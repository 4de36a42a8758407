import Rk3399.Update.Helpers.Outcomes
/-!
# The items of an image

What an image holds, in terms of its layout: its items with their names and
their bytes at the full 64-bit position. For a well-formed image the walk of
the code comes down to the one item with the name.
-/

namespace Rk3399

namespace Update

/-! ## Names -/

/-- The string at `pos`, of at most `n` characters. -/
def cstr (hdr : Hdr) : Nat → Nat → List UInt8
  | _, 0 => []
  | pos, n + 1 => if hdr pos = 0 then [] else hdr pos :: cstr hdr (pos + 1) n

/-- `item[idx].name`. -/
def Hdr.name (hdr : Hdr) (idx : Nat) : List UInt8 := cstr hdr (Hdr.item idx) PART_NAME

/-- A string that ends in its field is compared inside the field. -/
theorem strcmp_cstr {hdr : Hdr} (n : Nat) : ∀ (pos : Nat) (cs : List UInt8), (∀ c ∈ cs, c ≠ 0) →
    (cstr hdr pos n).length < n → pos + n ≤ sizeofHdr →
    strcmp hdr pos cs = some (decide (cstr hdr pos n = cs)) := by
  induction n with
  | zero => exact fun pos cs _ hlen => absurd hlen (Nat.not_lt_zero _)
  | succ n ih =>
    intro pos cs hcs hlen hpos
    have hin : pos < sizeofHdr := by omega
    by_cases hend : hdr pos = 0
    · cases cs with
      | nil => simp [strcmp, cstr, hin, hend]
      | cons c cs =>
        have hc : ¬ (0 : UInt8) = c := fun h => hcs c List.mem_cons_self h.symm
        simp [strcmp, cstr, hin, hend, hc]
    · cases cs with
      | nil => simp [strcmp, cstr, hin, hend]
      | cons c cs =>
        have hlen' : (cstr hdr (pos + 1) n).length < n := by
          simpa [cstr, hend] using hlen
        have hrest := ih (pos + 1) cs (fun c hc => hcs c (List.mem_cons_of_mem _ hc)) hlen'
          (by omega)
        by_cases heq : hdr pos = c
        · have hne : ¬ c = 0 := heq ▸ hend
          simp [strcmp, cstr, hin, heq, hne, hrest]
        · simp [strcmp, cstr, hin, hend, heq]

/-! ## Items -/

/-- The low word of an offset is not above it. -/
theorem Hdr.offset_le (hdr : Hdr) (idx : Nat) : hdr.offset idx ≤ hdr.fullOffset idx := by
  unfold Hdr.fullOffset
  split
  · exact Nat.le_add_left _ _
  · exact Nat.le_refl _

namespace ImageFile

variable (image : ImageFile)

/-- The head of the image can be read and has its tag. -/
def HasHead : Prop := sizeofHead ≤ image.size ∧ uiTag image.byte = RKFW_TAG

instance : Decidable image.HasHead := inferInstanceAs (Decidable (_ ∧ _))

/-- Where item `idx` is in the image, with the high word of its offset. -/
def itemPos (idx : Nat) : Nat := fwOffset image + image.hdr.fullOffset idx

/-- The bytes of item `idx`. -/
def itemBytes (idx : Nat) : List UInt8 := image.bytes (image.itemPos idx) (image.hdr.fullSize idx)

/-- Item `idx` of the image has the name. -/
structure IsItem (fwName : CString) (idx : Nat) : Prop where
  head : image.HasHead
  hdr : image.HdrReadable
  count : (idx : Int) < image.hdr.itemCount
  index : idx < MAX_PACKAGE_FILES
  terminated : fwName.chars.length < PART_NAME
  name : image.hdr.name idx = fwName.chars

/-- Item `idx` is inside the file. -/
def Inside (idx : Nat) : Prop := image.itemPos idx + image.hdr.fullSize idx ≤ image.size

/-- A well-formed RKFW image. -/
structure WellFormed : Prop where
  head : image.HasHead
  hdr : image.HdrReadable
  tag : image.hdr.tag = RKIMAGE_TAG
  count_pos : 1 ≤ image.hdr.itemCount
  count_le : image.hdr.itemCount ≤ MAX_PACKAGE_FILES
  terminated : ∀ idx : Nat, idx < image.hdr.itemCount → (image.hdr.name idx).length < PART_NAME
  distinct : ∀ idx idx' : Nat, idx < image.hdr.itemCount → idx' < image.hdr.itemCount →
    image.hdr.name idx = image.hdr.name idx' → idx = idx'
  inside : ∀ idx : Nat, idx < image.hdr.itemCount → image.Inside idx

variable {image} {fwName : CString} (keepsLoad : Bool)

/-- A size inside the file is the same as a `long long`. -/
theorem fileBufferSize_of_inside {idx : Nat} (h : image.Inside idx) :
    image.hdr.fileBufferSize idx = image.hdr.fullSize idx := by
  have hlt : image.hdr.fullSize idx < 2 ^ 63 := by
    have := image.size_lt
    unfold Inside at h
    omega
  have hmod : image.hdr.fullSize idx % 2 ^ 64 = image.hdr.fullSize idx :=
    Nat.mod_eq_of_lt (by omega)
  rw [Hdr.fileBufferSize, int64, hmod, if_pos hlt]

/-- What the walk finds at the item with the name: its data at the 32-bit position. -/
def found (keepsLoad : Bool) (image : ImageFile) (idx : Nat) : Walk :=
  if image.hdr.fullSize idx = 0 then .done []
  else if keepsLoad = true ∧ image.hdr.file idx 50 = 0x48 then .stuck
  else .done (image.bytes (u32 (fwOffset image + image.hdr.offset idx)) (image.hdr.fullSize idx))

section wellFormed

variable (h : image.WellFormed)
include h

theorem WellFormed.strcmp {idx : Nat} (hidx : (idx : Int) < image.hdr.itemCount) :
    Update.strcmp image.hdr (Hdr.item idx) fwName.chars =
      some (decide (image.hdr.name idx = fwName.chars)) := by
  have hle := h.count_le
  refine strcmp_cstr PART_NAME _ _ fwName.nonzero (h.terminated idx hidx) ?_
  simp only [Hdr.item, PART_NAME, sizeofHdr, MAX_PACKAGE_FILES] at hle ⊢
  omega

theorem WellFormed.isItem {idx : Nat} :
    image.IsItem fwName idx ↔
      (idx : Int) < image.hdr.itemCount ∧ image.hdr.name idx = fwName.chars := by
  refine ⟨fun hitem => ⟨hitem.count, hitem.name⟩, fun ⟨hidx, hname⟩ => ?_⟩
  have hle := h.count_le
  refine ⟨h.head, h.hdr, hidx, by omega, hname ▸ h.terminated idx hidx, hname⟩

/-- Items with other names are passed. -/
theorem WellFormed.walk_none (k : Nat) : ∀ (idx entryOffset : Nat),
    (idx + k : Nat) ≤ image.hdr.itemCount →
    (∀ i, idx ≤ i → i < idx + k → image.hdr.name i ≠ fwName.chars) →
    Update.walk keepsLoad image image.hdr (fwOffset image) fwName idx k entryOffset = .done [] := by
  have hle := h.count_le
  induction k with
  | zero => exact fun _ _ _ _ => rfl
  | succ k ih =>
    intro idx entryOffset hcount hno
    have hidx : (idx : Int) < image.hdr.itemCount := by omega
    have hmax : idx < MAX_PACKAGE_FILES := by omega
    have hne : image.hdr.name idx ≠ fwName.chars := hno idx (Nat.le_refl _) (by omega)
    rw [walk_other hmax (by rw [h.strcmp hidx, decide_eq_false hne])]
    exact ih (idx + 1) entryOffset (by omega) fun i hi hi' => hno i (by omega) (by omega)

/-- **The walk comes to the item with the name** and ends with its data. -/
theorem WellFormed.walk_found {item : Nat} (hitem : image.IsItem fwName item) (k : Nat) :
    ∀ idx, (idx + k : Nat) = image.hdr.itemCount → idx ≤ item →
      Update.walk keepsLoad image image.hdr (fwOffset image) fwName idx k 0 =
        image.found keepsLoad item := by
  obtain ⟨hcount, hname⟩ := h.isItem.mp hitem
  have hle := h.count_le
  have hother : ∀ i : Nat, (i : Int) < image.hdr.itemCount → i ≠ item →
      image.hdr.name i ≠ fwName.chars :=
    fun i hi hne heq => hne (h.distinct i item hi hcount (heq.trans hname.symm))
  induction k with
  | zero => exact fun idx hidx hitem => by omega
  | succ k ih =>
    intro idx hidx hitem
    have hcmp : Update.strcmp image.hdr (Hdr.item idx) fwName.chars =
        some (decide (image.hdr.name idx = fwName.chars)) := h.strcmp (by omega)
    have hmax : idx < MAX_PACKAGE_FILES := by omega
    by_cases hidx' : idx = item
    · subst hidx'
      -- behind the item no other one has the name
      have hrest : ∀ entryOffset,
          Update.walk keepsLoad image image.hdr (fwOffset image) fwName (idx + 1) k entryOffset =
            .done [] :=
        fun entryOffset => h.walk_none keepsLoad k (idx + 1) entryOffset (by omega)
          fun i hi hi' => hother i (by omega) (by omega)
      have hinside := h.inside idx hcount
      rw [walk_same hmax (by rw [hcmp, decide_eq_true hname]) (fileBufferSize_of_inside hinside),
        hrest, hrest, found]
      split
      · rfl
      · split
        · rfl
        · have hin : entryPos image.hdr idx (fwOffset image) 0 + image.hdr.fullSize idx ≤
              image.size := by
            have hle := u32_le (fwOffset image + image.hdr.offset idx)
            have hlow := image.hdr.offset_le idx
            simp only [Inside, itemPos] at hinside
            simp only [entryPos]
            omega
          rw [if_pos hin, Walk.after, List.append_nil, entryPos, Nat.add_zero]
    · rw [walk_other hmax (by rw [hcmp, decide_eq_false (hother idx (by omega) hidx')])]
      exact ih (idx + 1) (by omega) (by omega)

/-- **The walk of a well-formed image.** -/
theorem WellFormed.walk_of_isItem {idx : Nat} (hitem : image.IsItem fwName idx) :
    image.walk keepsLoad fwName = image.found keepsLoad idx := by
  have hpos := h.count_pos
  exact h.walk_found keepsLoad hitem _ 0 (by omega) (Nat.zero_le _)

theorem WellFormed.walk_of_no_item (hno : ∀ idx, ¬ image.IsItem fwName idx) :
    image.walk keepsLoad fwName = .done [] := by
  have hpos := h.count_pos
  exact h.walk_none keepsLoad _ 0 0 (by omega) fun i _ hi hname =>
    hno i (h.isItem.mpr ⟨by omega, hname⟩)

end wellFormed

end ImageFile

/-! ## A sample image -/

/-- An optimised build on a device that takes what it is given. -/
def Platform.sound : Platform where
  keepsLoad := false
  flushes n := n

/-- An image with the header behind its head, the item count given, and one item: `boot`,
of four bytes, behind the header. -/
def bootImage (itemCount : UInt8) : ImageFile where
  size := 2038
  byte i := ([(0, 0x52), (1, 0x4B), (2, 0x46), (3, 0x57), (33, 102),
    (102, 0x52), (103, 0x4B), (104, 0x41), (105, 0x46), (238, itemCount),
    (242, 0x62), (243, 0x6F), (244, 0x6F), (245, 0x74), (338, 0x8C), (339, 0x07), (350, 4),
    (2034, 1), (2035, 2), (2036, 3), (2037, 4)] : List (Nat × UInt8)).lookup i |>.getD 0
  size_lt := by decide

/-- `boot`. -/
def bootName : CString := ⟨[0x62, 0x6F, 0x6F, 0x74], by simp⟩

theorem wellFormed_bootImage : (bootImage 1).WellFormed := by
  have hcount : (bootImage 1).hdr.itemCount = 1 := by decide +kernel
  refine ⟨by decide +kernel, by decide +kernel, by decide +kernel, by omega, ?_, ?_, ?_, ?_⟩
  · rw [hcount]
    decide
  · intro idx hidx
    obtain rfl : idx = 0 := by omega
    decide +kernel
  · exact fun idx idx' hidx hidx' _ => by omega
  · intro idx hidx
    obtain rfl : idx = 0 := by omega
    show (bootImage 1).itemPos 0 + (bootImage 1).hdr.fullSize 0 ≤ (bootImage 1).size
    decide +kernel

/-- The sample has no item `recovery`. -/
theorem not_isItem_recovery (idx : Nat) : ¬ (bootImage 1).IsItem partitionName idx := by
  intro hitem
  have hcount : (bootImage 1).hdr.itemCount = 1 := by decide +kernel
  have hidx := hitem.count
  obtain rfl : idx = 0 := by omega
  exact absurd hitem.name (by decide +kernel)

end Update

end Rk3399
