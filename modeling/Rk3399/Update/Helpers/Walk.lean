import Rk3399.Update.Helpers.Transfer
/-!
# Going through the items

What the loop over the items moves, in terms of the image and the name alone:
`walk` is the data of all entries with the name, read where the code reads
it. Both functions follow it, whatever they do with the data.
-/

namespace Rk3399

namespace Update

open Prog

/-- How going through the items ends: with all the data of the entries with the name, at
an entry that cannot be moved, or outside the header. -/
inductive Walk where
  | done (data : List UInt8)
  | stuck
  | overrun
  deriving DecidableEq, Repr

/-- Data that comes before. -/
def Walk.after (data : List UInt8) : Walk → Walk
  | done rest => done (data ++ rest)
  | stuck => stuck
  | overrun => overrun

/-- Go through `k` items from `idx` on, with the running offset at `entryOffset`, in a build
that keeps the load of the high word or one that drops it. -/
def walk (keepsLoad : Bool) (image : ImageFile) (hdr : Hdr) (fwOffset : Nat) (fwName : CString) :
    Nat → Nat → Nat → Walk
  | _, 0, _ => .done []
  | idx, k + 1, entryOffset =>
    if idx < MAX_PACKAGE_FILES then
      match strcmp hdr (Hdr.item idx) fwName.chars with
      | none => .overrun
      | some false => walk keepsLoad image hdr fwOffset fwName (idx + 1) k entryOffset
      | some true =>
        if 0 < hdr.fileBufferSize idx then
          if keepsLoad = true ∧ hdr.file idx 50 = 0x48 then .stuck
          else
            let n := (hdr.fileBufferSize idx).toNat
            let pos := entryPos hdr idx fwOffset entryOffset
            if pos + n ≤ image.size then
              (walk keepsLoad image hdr fwOffset fwName (idx + 1) k (entryOffset + n)).after
                (image.bytes pos n)
            else .stuck
        else walk keepsLoad image hdr fwOffset fwName (idx + 1) k entryOffset
    else .overrun

theorem prefix_of_after {data all : List UInt8} {w : Walk} (h : w.after data = .done all) :
    data <+: all := by
  cases w with
  | done rest =>
    cases h
    exact List.prefix_append data rest
  | stuck => cases h
  | overrun => cases h

section walk

variable {keepsLoad : Bool} {image : ImageFile} {hdr : Hdr} {fwOffset idx k entryOffset : Nat}
    {fwName : CString}

/-- An item with another name is passed. -/
theorem walk_other (hidx : idx < MAX_PACKAGE_FILES)
    (hcmp : strcmp hdr (Hdr.item idx) fwName.chars = some false) :
    walk keepsLoad image hdr fwOffset fwName idx (k + 1) entryOffset =
      walk keepsLoad image hdr fwOffset fwName (idx + 1) k entryOffset := by
  rw [walk, if_pos hidx, hcmp]

/-- An item with the name. -/
theorem walk_same (hidx : idx < MAX_PACKAGE_FILES)
    (hcmp : strcmp hdr (Hdr.item idx) fwName.chars = some true) {n : Nat}
    (hn : hdr.fileBufferSize idx = n) :
    walk keepsLoad image hdr fwOffset fwName idx (k + 1) entryOffset =
      if n = 0 then walk keepsLoad image hdr fwOffset fwName (idx + 1) k entryOffset
      else if keepsLoad = true ∧ hdr.file idx 50 = 0x48 then .stuck
      else if entryPos hdr idx fwOffset entryOffset + n ≤ image.size then
        (walk keepsLoad image hdr fwOffset fwName (idx + 1) k (entryOffset + n)).after
          (image.bytes (entryPos hdr idx fwOffset entryOffset) n)
      else .stuck := by
  have hto : (hdr.fileBufferSize idx).toNat = n := by omega
  rw [walk, if_pos hidx, hcmp]
  dsimp only
  rw [hto]
  by_cases hzero : n = 0
  · have hno : ¬ 0 < hdr.fileBufferSize idx := by omega
    rw [if_neg hno, if_pos hzero]
  · have hpos : 0 < hdr.fileBufferSize idx := by omega
    rw [if_pos hpos, if_neg hzero]

end walk

section visit

variable {ρ : Type} {env : Env} {sink : Sink ρ} {hdr : Hdr} (fwName : CString)
variable {move : Nat → Prog Fault ρ Updater Unit}

/-- The sink refuses the data of the walk, or the walk is stuck. -/
def Sink.Refuses (sink : Sink ρ) (s : Updater) (w : Walk) : Prop :=
  sink.Bad ∨ w = .stuck ∨
    ∃ data, ¬ sink.Good data s ∧ ∀ all, w = .done all → data <+: all

/-- What a fault says of the walk. -/
def Fault.Ends (e : Fault) (w : Walk) : Prop :=
  (w = .stuck ∧ ∃ address, e = .pointer address) ∨
    (w = .overrun ∧ ∃ idx, e = .item idx ∨ e = .name idx)

theorem Sink.Refuses.after {s : Updater} {data : List UInt8} {left : Nat} {w : Walk}
    (h : sink.Refuses (sink.moved data left s) w) : sink.Refuses s (w.after data) := by
  rcases h with hbad | rfl | ⟨rest, hrest, hends⟩
  · exact .inl hbad
  · exact .inr (.inl rfl)
  · refine .inr (.inr ⟨data ++ rest, fun hgood => hrest ?_, fun all hall => ?_⟩)
    · exact (good_moved data rest left s).mpr ((sink.good_append _ _ _).mp hgood).2
    · cases w with
      | done all' =>
        cases hall
        exact List.prefix_append_right_inj data |>.mpr (hends all' rfl)
      | stuck => cases hall
      | overrun => cases hall

theorem Fault.Ends.after {e : Fault} {data : List UInt8} {w : Walk} (h : e.Ends w) :
    e.Ends (w.after data) := by
  rcases h with ⟨rfl, h⟩ | ⟨rfl, h⟩
  · exact .inl ⟨rfl, h⟩
  · exact .inr ⟨rfl, h⟩

variable (sink)

/-- **The loop over the items follows the walk.** -/
theorem wp_visitItems
    (hmove : ∀ idx s n pos, s.fileSize = env.image.size → hdr.fileBufferSize idx = (n : Nat) →
      0 < n → pos = entryPos hdr idx s.fwOffset s.entryOffset →
      wp (move idx)
        (fun _ s' => pos + n ≤ env.image.size ∧ sink.Good (env.image.bytes pos n) s ∧
          s' = sink.moved (env.image.bytes pos n) 0 s)
        (fun r _ => r = sink.fail ∧
          (sink.Bad ∨ ¬ (pos + n ≤ env.image.size ∧ sink.Good (env.image.bytes pos n) s)))
        (fun _ _ => False) s) (k : Nat) :
    ∀ (idx : Nat) (s : Updater), s.fileSize = env.image.size →
      ∀ w, w = walk env.keepsLoad env.image hdr s.fwOffset fwName idx k s.entryOffset →
      wp (visitItems env hdr fwName move idx k)
        (fun _ s' => ∃ data left, w = .done data ∧ sink.Good data s ∧ s' = sink.moved data left s)
        (fun r _ => r = sink.fail ∧ sink.Refuses s w) (fun e _ => e.Ends w) s := by
  induction k with
  | zero =>
    rintro idx s - w rfl
    exact ⟨[], s.fileBufferSize, rfl, sink.good_nil s, (moved_nil rfl).symm⟩
  | succ k ih =>
    rintro idx s hsize w rfl
    rw [visitItems, wp_bind]
    unfold visitItem walk
    rw [wp_bind, wp_assert]
    by_cases hidx : idx < MAX_PACKAGE_FILES
    · rw [if_pos hidx, if_pos hidx]
      cases hcmp : strcmp hdr (Hdr.item idx) fwName.chars with
      | none => exact .inr ⟨rfl, idx, .inr rfl⟩
      | some found =>
        cases found with
        | false => exact ih (idx + 1) s hsize _ rfl
        | true =>
          dsimp only
          by_cases hpos : 0 < hdr.fileBufferSize idx
          · rw [if_pos hpos, if_pos hpos, wp_bind, wp_assert]
            by_cases hhigh : env.keepsLoad = true ∧ hdr.file idx 50 = 0x48
            · -- the build keeps the load: the walk is stuck here too
              rw [if_neg (not_not.mpr hhigh), if_pos hhigh]
              exact .inl ⟨rfl, _, rfl⟩
            · rw [if_pos hhigh, if_neg hhigh]
              obtain ⟨n, hn⟩ : ∃ n : Nat, hdr.fileBufferSize idx = n :=
                Int.eq_ofNat_of_zero_le (Int.le_of_lt hpos)
              have hto : (hdr.fileBufferSize idx).toNat = n := by omega
              rw [hto]
              obtain ⟨pos, hstart⟩ : ∃ pos, pos = entryPos hdr idx s.fwOffset s.entryOffset :=
                ⟨_, rfl⟩
              rw [← hstart]
              refine wp_mono (hmove idx s n pos hsize hn (by omega) hstart) ?_ ?_
                (fun _ _ => False.elim)
              · rintro _ s' ⟨hin, hgood, rfl⟩
                rw [if_pos hin]
                have hentry : (sink.moved (env.image.bytes pos n) 0 s).entryOffset =
                    s.entryOffset + n := by
                  simp [Sink.moved]
                have hfw : (sink.moved (env.image.bytes pos n) 0 s).fwOffset = s.fwOffset :=
                  sink.put_fwOffset _ s
                -- the rest of the items, from where this one has moved the offset to
                have hrest := ih (idx + 1) (sink.moved (env.image.bytes pos n) 0 s)
                  ((sink.put_fileSize _ s).trans hsize) _ rfl
                rw [hentry, hfw] at hrest
                refine wp_mono hrest ?_ ?_ (fun e _ h => h.after)
                · rintro _ s' ⟨data, left, hw, hgood', rfl⟩
                  refine ⟨env.image.bytes pos n ++ data, left, ?_, ?_, ?_⟩
                  · rw [hw]
                    rfl
                  · exact (sink.good_append _ _ _).mpr ⟨hgood, (good_moved _ _ _ _).mp hgood'⟩
                  · exact moved_moved _ _ _ _ _
                · rintro r s' ⟨hr, hrefuses⟩
                  exact ⟨hr, hrefuses.after⟩
              · rintro r s' ⟨hr, hbad⟩
                refine ⟨hr, hbad.imp_right fun hno => ?_⟩
                by_cases hin : pos + n ≤ env.image.size
                · rw [if_pos hin]
                  exact .inr ⟨_, fun hgood => hno ⟨hin, hgood⟩, fun all => prefix_of_after⟩
                · exact .inl (if_neg hin)
          · rw [if_neg hpos, if_neg hpos]
            exact ih (idx + 1) s hsize _ rfl
    · rw [if_neg hidx, if_neg hidx]
      exact .inr ⟨rfl, idx, .inl rfl⟩

end visit

end Update

end Rk3399
