import Rk3399.Common.Memory
import Rk3399.Update.Properties.WritesExactly
/-!
# Writing again after a failure

`WriteFwData` starts from the beginning of the recovery partition whenever it
is called. However many calls before it ended in the middle, and wherever the
machine failed them, a call that succeeds and whose stream is flushed to the
end leaves the partition as if it had been the only one; and so do the calls
after it, which write what is there already.
-/

namespace Rk3399

namespace Update

open Prog

/-! ## The partition -/

/-- The partition behind a call that wrote the data from its beginning. -/
def Content.overwrite (recovery : Content) (data : List UInt8) : Content where
  size := max recovery.size data.length
  byte := poke 0 data recovery.byte

/-- The partition behind two calls one of which wrote the beginning of what the other one did. -/
theorem overwrite_overwrite (recovery : Content) {data data' : List UInt8}
    (h : data <+: data') :
    (recovery.overwrite data).overwrite data' = recovery.overwrite data' ∧
      (recovery.overwrite data').overwrite data = recovery.overwrite data' := by
  have hlen := h.length_le
  have hsize : max (max recovery.size data.length) data'.length =
      max recovery.size data'.length := by omega
  have hsize' : max (max recovery.size data'.length) data.length =
      max recovery.size data'.length := by omega
  refine ⟨?_, ?_⟩
  · simp only [Content.overwrite, hsize, poke_over h]
  · simp only [Content.overwrite, hsize', poke_again h]

/-- **Calls that wrote the beginnings of the same data**, in any order, leave the longest of
them. -/
theorem overwrites_eq {data : List UInt8} (runs : List (List UInt8)) (h : ∀ w ∈ runs, w <+: data) :
    ∀ recovery : Content, ∃ longest, longest <+: data ∧ (∀ w ∈ runs, w <+: longest) ∧
      runs.foldl Content.overwrite recovery = recovery.overwrite longest := by
  induction runs with
  | nil =>
    intro recovery
    refine ⟨[], List.nil_prefix, nofun, ?_⟩
    simp [Content.overwrite]
  | cons w runs ih =>
    intro recovery
    have hw : w <+: data := h w List.mem_cons_self
    obtain ⟨longest, hdata, hruns, heq⟩ :=
      ih (fun w hw => h w (List.mem_cons_of_mem _ hw)) (recovery.overwrite w)
    rw [List.foldl_cons, heq]
    obtain hle | hle := List.prefix_or_prefix_of_prefix hw hdata
    · refine ⟨longest, hdata, List.forall_mem_cons.mpr ⟨hle, hruns⟩, ?_⟩
      exact (overwrite_overwrite recovery hle).1
    · refine ⟨w, hw, List.forall_mem_cons.mpr ⟨List.prefix_rfl, ?_⟩, ?_⟩
      · exact fun w' hw' => (hruns w' hw').trans hle
      · exact (overwrite_overwrite recovery hle).2

/-! ## The calls -/

/-- A call of `WriteFwData` for the image, in the build, on a machine that may fail it
anywhere. -/
structure Attempt (keepsLoad : Bool) (image : ImageFile) where
  env : Env
  imgPath : String
  start : Updater
  build_eq : env.keepsLoad = keepsLoad
  image_eq : env.image = image
  written_nil : start.written = []

namespace Attempt

variable {keepsLoad : Bool} {image : ImageFile} (a : Attempt keepsLoad image) (fwName : CString)

/-- How it ends. -/
def outcome : Outcome Fault Int Updater Unit := writeFwData a.env a.imgPath fwName a.start

/-- What it wrote to the partition, however it ends: where it faults, the process is gone and
the stream with it. -/
def written : List UInt8 :=
  match a.outcome fwName with
  | .next _ s | .exit _ s => s.written
  | .fault _ s => s.flushed a.env.toPlatform

/-- It reports success. -/
def Succeeds : Prop := (a.outcome fwName).IsExit 0

instance : Decidable (a.Succeeds fwName) := inferInstanceAs (Decidable (Outcome.IsExit _ _))

/-- All that its stream took is flushed, so that `fclose` does not fail. -/
def Flushes : Prop :=
  (a.outcome fwName).state.taken.length ≤ a.env.flushes (a.outcome fwName).state.taken.length

instance : Decidable (a.Flushes fwName) := inferInstanceAs (Decidable (_ ≤ _))

/-- The partition behind the calls. -/
def after (attempts : List (Attempt keepsLoad image)) (recovery : Content) : Content :=
  (attempts.map fun a => a.written fwName).foldl Content.overwrite recovery

variable {a fwName}

/-- A call that succeeds and is flushed writes the data of the walk. -/
theorem walk_eq (hsucceeds : a.Succeeds fwName) (hflushes : a.Flushes fwName) :
    image.walk keepsLoad fwName = .done (a.written fwName) := by
  have hrun := Outcome.IsExit.eq hsucceeds
  obtain ⟨hwalk, hwritten⟩ := walk_of_success hrun
  rw [a.image_eq, a.build_eq] at hwalk
  have hall : (a.outcome fwName).state.written = (a.outcome fwName).state.taken :=
    hwritten.trans (List.take_of_length_le hflushes)
  have hsame : a.written fwName = (a.outcome fwName).state.written := by
    unfold written
    rw [hrun]
    rfl
  rw [hwalk, hsame, hall]

/-- **A call among failures writes the beginning of the data of the walk.** -/
theorem written_begins {data : List UInt8} (hwalk : image.walk keepsLoad fwName = .done data) :
    a.written fwName <+: data := by
  have hends := wp_writeFwData a.env a.imgPath fwName a.start
  have hwalk' : a.env.image.walk a.env.keepsLoad fwName = .done data := by
    rw [a.image_eq, a.build_eq, hwalk]
  rw [hwalk', wp_def] at hends
  unfold written
  cases hout : a.outcome fwName with
  | next b s' => exact (hends.1 b s' hout).elim
  | exit r s' =>
    obtain ⟨-, ⟨-, -, -, hnothing⟩ | ⟨-, hitems⟩⟩ := hends.2.1 r s' hout
    · show s'.written <+: data
      rw [hnothing, a.written_nil]
      exact List.nil_prefix
    · show s'.written <+: data
      rw [hitems.written]
      exact (List.take_prefix _ _).trans (hitems.begins data hwalk')
  | fault e s' => obtain ⟨-, ⟨hno, -⟩ | ⟨hno, -⟩⟩ := hends.2.2 e s' hout <;> cases hno

/-- **Calls that were cut short leave no trace** once one of them succeeds and its stream is
flushed: behind the calls before it and after it, the partition is what that one call makes of
it. -/
theorem after_of_succeeds {attempts : List (Attempt keepsLoad image)} (ha : a ∈ attempts)
    (hsucceeds : a.Succeeds fwName) (hflushes : a.Flushes fwName) (recovery : Content) :
    after fwName attempts recovery = recovery.overwrite (a.written fwName) := by
  have hruns : ∀ w ∈ attempts.map fun a => a.written fwName, w <+: a.written fwName := by
    intro w hw
    obtain ⟨b, -, rfl⟩ := List.mem_map.mp hw
    exact written_begins (walk_eq hsucceeds hflushes)
  obtain ⟨longest, hdata, hall, heq⟩ := overwrites_eq _ hruns recovery
  have hwhole : longest = a.written fwName :=
    hdata.eq_of_length_le (hall _ (List.mem_map_of_mem ha)).length_le
  rw [after, heq, hwhole]

/-- A call on a machine whose disk takes `n` bytes of a piece, and flushes `m` bytes. -/
def stalling (n m : Nat) : Attempt false (bootImage 1) where
  env := { Env.working ⟨false, fun _ => m⟩ (bootImage 1) ⟨0, fun _ => 0⟩ true with
    fwrite := fun _ => n }
  imgPath := "update.img"
  start := .initial
  build_eq := rfl
  image_eq := rfl
  written_nil := rfl

/-- A call that is cut short after two bytes, one that reports success with one byte on the
partition, one that succeeds, and one cut short after one byte. -/
theorem after_of_succeeds_stalling :
    after bootName [stalling 2 4, stalling 4 1, stalling 4 4, stalling 1 4] ⟨8, fun _ => 0xFF⟩ =
      Content.overwrite ⟨8, fun _ => 0xFF⟩ ((stalling 4 4).written bootName) := by
  have hsucceeds : (stalling 4 4).Succeeds bootName := by decide +kernel
  have hflushes : (stalling 4 4).Flushes bootName := by decide +kernel
  exact after_of_succeeds (by simp) hsucceeds hflushes _

end Attempt

/-! ## The tool -/

section tool

variable {platform : Platform} {image : ImageFile}

/-- A call on a machine on which everything works. -/
def Attempt.working (platform : Platform) (image : ImageFile) (recovery : Content) :
    Attempt platform.keepsLoad image where
  env := .working platform image recovery true
  imgPath := "update.img"
  start := .initial
  build_eq := rfl
  image_eq := rfl
  written_nil := rfl

theorem holds_overwrite (recovery : Content) (data : List UInt8) :
    (recovery.overwrite data).Holds 0 data := by
  intro i hi
  refine ⟨?_, ?_⟩
  · show 0 + i < max recovery.size data.length
    omega
  · show poke 0 data recovery.byte (0 + i) = data[i]
    exact poke_inside hi

/-- A machine that works writes the data of the walk, as far as it is flushed. -/
theorem written_working (hread : image.HdrReadable) (hcount : 0 < image.hdr.itemCount)
    {fwName : CString} {data : List UInt8}
    (hwalk : image.walk platform.keepsLoad fwName = .done data) (recovery : Content) :
    (Attempt.working platform image recovery).written fwName =
      data.take (platform.flushes data.length) := by
  have hends := writeFwData_working platform recovery fwName .initial hread hcount
  rw [hwalk, wp_def] at hends
  unfold Attempt.written
  cases hout : (Attempt.working platform image recovery).outcome fwName with
  | next u s' => exact (hends.1 u s' hout).elim
  | exit r s' =>
    obtain ⟨-, hwritten, ⟨-, hdone⟩ | ⟨-, hno⟩⟩ := hends.2.1 r s' hout
    · show s'.written = _
      rw [hwritten, Updater.flushed, ← Walk.done.inj hdone]
    · cases hno
  | fault e s' => obtain ⟨hno, -⟩ | ⟨hno, -⟩ := hends.2.2 e s' hout <;> cases hno

/-- Checking what was written succeeds. -/
theorem check_written {data : List UInt8} (hread : image.HdrReadable)
    (hwalk : image.walk platform.keepsLoad partitionName = .done data) {recovery : Content}
    (hholds : recovery.Holds 0 data) {s : Updater} (hknows : s.Knows image) :
    wp (checkFwData (.working platform image recovery true) partitionName) (fun _ _ => False)
      (fun r _ => r = true) (fun _ _ => False) s := by
  refine wp_mono (wp_checkFwData (.working platform image recovery true) partitionName hknows)
    (fun _ _ h => h) ?_ ?_
  · rintro r s' ⟨-, hfails⟩
    cases r with
    | true => rfl
    | false => exact absurd hholds (hfails rfl rfl rfl (reads_working _ true) hread data hwalk)
  · rintro e s' ⟨-, ⟨hno, -⟩ | ⟨hno, -⟩⟩
    · exact nomatch hwalk.symm.trans hno
    · exact nomatch hwalk.symm.trans hno

/-- The tool is called behind the calls, on a machine that works: it finds on the partition what
the calls left there, and checks what its own call made of that. -/
def mainAfter (platform : Platform) (attempts : List (Attempt platform.keepsLoad image))
    (recovery : Content) : Outcome Fault Int Updater Unit :=
  let before := Attempt.after partitionName attempts recovery
  let last := Attempt.working platform image before
  main last.env (.working platform image (before.overwrite (last.written partitionName)) true)
    last.imgPath last.start

section goesOn

variable {before behind : Content} {start : Updater}

theorem main_of_walk (hread : image.HdrReadable) (hcount : 0 < image.hdr.itemCount)
    {data : List UInt8} (hwalk : image.walk platform.keepsLoad partitionName = .done data)
    (hholds : behind.Holds 0 data) :
    (main (.working platform image before true) (.working platform image behind true)
      "update.img" start).IsNext () := by
  have hgets := getsToItems_working platform before hread hcount
  have hends := wp_writeFwData (.working platform image before true) "update.img" partitionName
    start
  have hruns : wp (main (.working platform image before true) (.working platform image behind true)
      "update.img") (fun _ _ => True) (fun _ _ => False) (fun _ _ => False) start := by
    unfold main
    rw [wp_bind, wp_call]
    refine wp_mono hends (fun _ _ h => h.elim) ?_ ?_
    · rintro r s1 ⟨hknows, ⟨hno, -⟩ | ⟨-, -, -, -, ⟨rfl, -⟩ | ⟨-, hfail⟩⟩⟩
      · exact absurd hgets hno
      · rw [wp_bind, wp_exitIf, if_neg (by decide), wp_bind, wp_call]
        refine wp_mono (check_written hread hwalk hholds (hknows hgets.1)) (fun _ _ h => h.elim) ?_
          fun _ _ h => h
        rintro r s2 rfl
        rw [wp_exitIf, if_neg (by decide)]
        trivial
      · obtain hno | hno := hfail
        · exact absurd (writes_working before true) hno
        · exact nomatch hwalk.symm.trans hno
    · rintro e s1 ⟨-, ⟨hno, -⟩ | ⟨hno, -⟩⟩
      · exact nomatch hwalk.symm.trans hno
      · exact nomatch hwalk.symm.trans hno
  obtain ⟨u, s', hnext, -⟩ := exists_next_of_wp hruns
  rw [hnext]
  rfl

theorem walk_of_main (hread : image.HdrReadable) (hcount : 0 < image.hdr.itemCount)
    (hmain : (main (.working platform image before true) (.working platform image behind true)
      "update.img" start).IsNext ()) :
    ∃ data, image.walk platform.keepsLoad partitionName = .done data := by
  have hgets := getsToItems_working platform before hread hcount
  have hends := wp_writeFwData (.working platform image before true) "update.img" partitionName
    start
  refine wp_next (N := fun _ _ => ∃ data, image.walk platform.keepsLoad partitionName = .done data)
    (X := fun _ _ => True) (F := fun _ _ => True) ?_ (Outcome.IsNext.eq hmain)
  unfold main
  rw [wp_bind, wp_call]
  refine wp_mono hends (fun _ _ h => h.elim) ?_ fun _ _ _ => trivial
  rintro r s1 ⟨-, ⟨hno, -⟩ | ⟨-, -, -, -, ⟨-, hdata⟩ | ⟨rfl, -⟩⟩⟩
  · exact absurd hgets hno
  · exact wp_mono (wp_any _ _) (fun _ _ _ => ⟨s1.taken, hdata⟩) (fun _ _ h => h) fun _ _ h => h
  · trivial

end goesOn

/-- **The tool gets to the reboot** on a machine that works and flushes what it takes, whatever
the calls before it left on the partition, exactly where all items of the name can be read. -/
theorem mainAfter_isNext_iff (hread : image.HdrReadable) (hcount : 0 < image.hdr.itemCount)
    (hflushes : ∀ n, n ≤ platform.flushes n)
    (attempts : List (Attempt platform.keepsLoad image)) (recovery : Content) :
    (mainAfter platform attempts recovery).IsNext () ↔
      ∃ data, image.walk platform.keepsLoad partitionName = .done data := by
  refine ⟨walk_of_main hread hcount, ?_⟩
  rintro ⟨data, hwalk⟩
  refine main_of_walk hread hcount hwalk ?_
  rw [written_working hread hcount hwalk, List.take_of_length_le (hflushes _)]
  exact holds_overwrite _ data

theorem mainAfter_isNext_iff_stalling :
    (mainAfter .sound [Attempt.stalling 2 4, Attempt.stalling 4 1] ⟨8, fun _ => 0xFF⟩).IsNext () ↔
      ∃ data, (bootImage 1).walk false partitionName = .done data :=
  mainAfter_isNext_iff (by decide +kernel) (by decide +kernel) (fun _ => Nat.le_refl _) _ _

end tool

end Update

end Rk3399
