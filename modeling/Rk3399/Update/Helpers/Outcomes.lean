import Rk3399.Update.Helpers.Failures
import Rk3399.Update.Helpers.Walk
import Rk3399.Common.Invariant
/-!
# How writing and checking end

The recovery partition as a sink: written to, and compared with. With that
each function is described by the walk over the items of the image, from
the first check of its files to its return code.
-/

namespace Rk3399

namespace Update

open Prog

/-! ## Writing -/

section write

variable (env : Env)

/-- `malloc` gives the buffers of `WriteFwData`, and `fwrite` takes every piece. -/
def Env.Writes : Prop :=
  (∀ idx, env.malloc idx 0 = true) ∧ ∀ entryOffset, LBA_TRANSFER_SIZE ≤ env.fwrite entryOffset

theorem wp_writeChunk (data : List UInt8) (s : Updater) (_hpos : 0 < data.length)
    (hlen : data.length ≤ LBA_TRANSFER_SIZE) :
    wp (writeChunk env data) (fun _ s' => s' = { s with taken := s.taken ++ data } ∧ True)
      (fun r _ => r = -1 ∧ (¬ env.Writes ∨ ¬ True)) (fun _ _ => False) s := by
  unfold writeChunk
  simp only [wp_bind, wp_gets, wp_modify, wp_exitIf, id]
  split
  · rename_i hshort
    refine ⟨trivial, .inl fun hwrites => hshort ?_⟩
    have := hwrites.2 s.entryOffset
    omega
  · rename_i hfull
    have hall : min data.length (env.fwrite s.entryOffset) = data.length := not_not.mp hfull
    rw [hall, List.take_length]
    exact ⟨rfl, trivial⟩

theorem taken_nil (s : Updater) : { s with taken := s.taken ++ [] } = s := by simp

theorem taken_append (data data' : List UInt8) (s : Updater) :
    { s with taken := s.taken ++ data ++ data' } =
      { s with taken := s.taken ++ (data ++ data') } := by simp

/-- The recovery partition, written to. -/
def writeSink : Sink Int where
  fail := -1
  chunk := writeChunk env
  put data s := { s with taken := s.taken ++ data }
  Good _ _ := True
  Bad := ¬ env.Writes
  chunk_spec := wp_writeChunk env
  put_nil := taken_nil
  put_append := taken_append
  put_vars _ _ _ _ := rfl
  put_fwOffset _ _ := rfl
  put_fileSize _ _ := rfl
  put_fileBufferSize _ _ := rfl
  put_entryOffset _ _ := rfl
  good_nil _ := trivial
  good_append _ _ _ := by simp
  good_vars _ _ _ _ := Iff.rfl

end write

/-! ## Checking -/

/-- The file holds the data from `pos` on. -/
def Content.Holds (file : Content) (pos : Nat) (data : List UInt8) : Prop :=
  ∀ i (h : i < data.length), pos + i < file.size ∧ file.byte (pos + i) = data[i]

namespace Content

variable {file : Content}

theorem holds_append {pos : Nat} {data data' : List UInt8} :
    file.Holds pos (data ++ data') ↔
      file.Holds pos data ∧ file.Holds (pos + data.length) data' := by
  constructor
  · intro h
    refine ⟨fun i hi => ?_, fun i hi => ?_⟩
    · have hboth := h i (by simp; omega)
      rwa [List.getElem_append_left hi] at hboth
    · have hboth := h (data.length + i) (by simp; omega)
      simpa [Nat.add_assoc] using hboth
  · rintro ⟨h, h'⟩ i hi
    by_cases hleft : i < data.length
    · rw [List.getElem_append_left hleft]
      exact h i hleft
    · have hright := h' (i - data.length) (by simp at hi; omega)
      rw [List.getElem_append_right (by omega)]
      rwa [show pos + data.length + (i - data.length) = pos + i by omega] at hright

theorem holds_iff {pos : Nat} {data : List UInt8} (h : 0 < data.length) :
    file.Holds pos data ↔ pos + data.length ≤ file.size ∧ file.bytes pos data.length = data := by
  constructor
  · intro hholds
    refine ⟨?_, ?_⟩
    · have hlast := (hholds (data.length - 1) (by omega)).1
      omega
    · refine List.ext_getElem (by simp) fun i _ hi => ?_
      simpa [bytes] using (hholds i hi).2
  · rintro ⟨hsize, hbytes⟩ i hi
    refine ⟨by omega, ?_⟩
    have hget := congrArg (fun l => l[i]?) hbytes
    simpa [bytes, hi] using hget

end Content

section check

variable (env : Env)

/-- `malloc` gives the buffers of `CheckFwData`. -/
def Env.Reads : Prop := ∀ idx, env.malloc idx 0 = true ∧ env.malloc idx 1 = true

theorem wp_checkChunk (data : List UInt8) (s : Updater) (hpos : 0 < data.length)
    (_hlen : data.length ≤ LBA_TRANSFER_SIZE) :
    wp (checkChunk env data)
      (fun _ s' => s' = { s with recoveryPos := s.recoveryPos + data.length } ∧
        env.recovery.Holds s.recoveryPos data)
      (fun r _ => r = false ∧ (¬ env.Reads ∨ ¬ env.recovery.Holds s.recoveryPos data))
      (fun _ _ => False) s := by
  unfold checkChunk
  simp only [wp_bind, wp_gets, wp_modify, wp_exitIf, id, Content.holds_iff hpos]
  split
  · exact ⟨trivial, .inr fun h => by omega⟩
  · split
    · rename_i hne
      exact ⟨trivial, .inr fun h => hne h.2⟩
    · rename_i hle heq
      exact ⟨trivial, by omega, not_not.mp heq⟩

theorem recoveryPos_append (data data' : List UInt8) (s : Updater) :
    { s with recoveryPos := s.recoveryPos + data.length + data'.length } =
      { s with recoveryPos := s.recoveryPos + (data ++ data').length } := by
  simp [Nat.add_assoc]

/-- The recovery partition, compared with. -/
def checkSink : Sink Bool where
  fail := false
  chunk := checkChunk env
  put data s := { s with recoveryPos := s.recoveryPos + data.length }
  Good data s := env.recovery.Holds s.recoveryPos data
  Bad := ¬ env.Reads
  chunk_spec := wp_checkChunk env
  put_nil _ := rfl
  put_append := recoveryPos_append
  put_vars _ _ _ _ := rfl
  put_fwOffset _ _ := rfl
  put_fileSize _ _ := rfl
  put_fileBufferSize _ _ := rfl
  put_entryOffset _ _ := rfl
  good_nil _ := fun _ h => absurd h (Nat.not_lt_zero _)
  good_append _ _ _ := Content.holds_append
  good_vars _ _ _ _ := Iff.rfl

end check

/-! ## What going through the items leaves alone -/

/-- The global variables, and whether the recovery partition was opened for writing. -/
def Updater.globals (s : Updater) : Nat × Nat × String × Bool :=
  (s.fwOffset, s.fileSize, s.mntPoint, s.recoveryOpened)

section frame

variable {ρ : Type} {env : Env} {hdr : Hdr}

theorem frame_transfer {fail : ρ} {chunk : List UInt8 → Prog Fault ρ Updater Unit}
    (hchunk : ∀ data, Frame anyFault Updater.globals (chunk data)) (idx : Nat) :
    Frame anyFault Updater.globals (transfer env fail chunk hdr idx) := by
  refine frame_bind (frame_modify fun s => rfl) fun _ => frame_loop trivial ?_ _
  refine frame_bind (frame_gets _) fun s => frame_ite _ ?_ (frame_pure _)
  dsimp only
  split
  · exact frame_exit _
  · exact frame_bind (hchunk _) fun _ => frame_bind (frame_modify fun s => rfl) fun _ =>
      frame_pure _

theorem frame_visitItems {fwName : CString} {move : Nat → Prog Fault ρ Updater Unit}
    (hmove : ∀ idx, Frame anyFault Updater.globals (move idx)) (k : Nat) :
    ∀ idx, Frame anyFault Updater.globals (visitItems env hdr fwName move idx k) := by
  induction k with
  | zero => exact fun _ => frame_pure _
  | succ k ih =>
    refine fun idx => frame_bind (frame_bind (frame_assert trivial _) fun _ => ?_) fun _ => ih _
    split
    · exact frame_fault trivial
    · exact frame_pure _
    · exact frame_ite _ (frame_bind (frame_assert trivial _) fun _ => hmove idx) (frame_pure _)

theorem frame_writeChunk (data : List UInt8) :
    Frame anyFault Updater.globals (writeChunk env data) := by
  refine frame_bind (frame_gets _) fun s => ?_
  refine frame_bind (frame_modify ?_) fun _ => frame_exitIf _ _
  exact fun _ => rfl

theorem frame_writeItem (idx : Nat) : Frame anyFault Updater.globals (writeItem env hdr idx) := by
  refine frame_bind (frame_exitIf _ _) fun _ => ?_
  exact frame_transfer frame_writeChunk idx

end frame

/-! ## The items of an image -/

namespace ImageFile

variable (image : ImageFile)

/-- The header of the items, where the code reads it. -/
def hdr : Hdr := fun i => image.byte (fwOffset image + i)

/-- The header can be read. -/
def HdrReadable : Prop := fwOffset image + sizeofHdr ≤ image.size

instance : Decidable image.HdrReadable := inferInstanceAs (Decidable (_ ≤ _))

/-- Going through all the items of the image. -/
def walk (keepsLoad : Bool) (fwName : CString) : Walk :=
  Update.walk keepsLoad image image.hdr (fwOffset image) fwName 0 image.hdr.itemCount.toNat 0

end ImageFile

section items

variable {env : Env} {fwName : CString}

theorem wp_writeItem (idx : Nat) (s : Updater) (n pos : Nat) (hsize : s.fileSize = env.image.size)
    (hn : env.image.hdr.fileBufferSize idx = (n : Nat)) (hleft : 0 < n)
    (hpos : pos = entryPos env.image.hdr idx s.fwOffset s.entryOffset) :
    wp (writeItem env env.image.hdr idx)
      (fun _ s' => pos + n ≤ env.image.size ∧ (writeSink env).Good (env.image.bytes pos n) s ∧
        s' = (writeSink env).moved (env.image.bytes pos n) 0 s)
      (fun r _ => r = (writeSink env).fail ∧ ((writeSink env).Bad ∨
        ¬ (pos + n ≤ env.image.size ∧ (writeSink env).Good (env.image.bytes pos n) s)))
      (fun _ _ => False) s := by
  rw [writeItem, wp_bind, wp_exitIf]
  split
  · rename_i hmalloc
    refine ⟨rfl, .inl fun hwrites => ?_⟩
    exact absurd (hwrites.1 idx) (by simp [hmalloc])
  · exact wp_transfer (writeSink env) hsize (by omega) hn hpos

/-- Going through the items, on a machine that does not fail or with what it takes then. -/
theorem wp_writeItems_ends {s : Updater} (hsize : s.fileSize = env.image.size)
    (hfw : s.fwOffset = fwOffset env.image) (hentry : s.entryOffset = 0) :
    wp (visitItems env env.image.hdr fwName (writeItem env env.image.hdr) 0
        env.image.hdr.itemCount.toNat)
      (fun _ s' => (∃ data, env.image.walk env.keepsLoad fwName = .done data ∧
        s'.taken = s.taken ++ data) ∧ s'.globals = s.globals)
      (fun r s' => (r = -1 ∧ (¬ env.Writes ∨ env.image.walk env.keepsLoad fwName = .stuck)) ∧
        s'.globals = s.globals)
      (fun e s' => e.Ends (env.image.walk env.keepsLoad fwName) ∧ s'.globals = s.globals) s := by
  refine Frame.wp (frame_visitItems frame_writeItem _ 0) ?_
  have hwalk := wp_visitItems (writeSink env) fwName wp_writeItem env.image.hdr.itemCount.toNat
    0 s hsize (env.image.walk env.keepsLoad fwName) (by rw [ImageFile.walk, hfw, hentry])
  refine wp_mono hwalk ?_ ?_ (fun _ _ h => h)
  · rintro _ s' ⟨data, left, hw, -, rfl⟩
    exact ⟨data, hw, rfl⟩
  · rintro r s' ⟨hr, hrefuses⟩
    refine ⟨hr, ?_⟩
    rcases hrefuses with hbad | hstuck | ⟨data, hno, -⟩
    · exact .inl hbad
    · exact .inr hstuck
    · exact absurd trivial hno

theorem writes_repaired (env : Env) : env.repaired.Writes :=
  ⟨fun _ => rfl, fun _ => Nat.le_max_right _ _⟩

/-- **What the stream takes among failures** is the beginning of the data of the walk. -/
theorem begins_writeItems {s : Updater} (hsize : s.fileSize = env.image.size)
    (hfw : s.fwOffset = fwOffset env.image) (hentry : s.entryOffset = 0) {data : List UInt8}
    (hwalk : env.image.walk env.keepsLoad fwName = .done data) :
    (visitItems env env.image.hdr fwName (writeItem env env.image.hdr) 0
      env.image.hdr.itemCount.toNat s).state.taken <+: s.taken ++ data := by
  have hless := (takesLess_visitItems env env.image.hdr fwName env.image.hdr.itemCount.toNat
    0).begins s
  refine hless.trans ((wp_state_iff (P := fun s' : Updater => s'.taken <+: s.taken ++ data)).mp ?_)
  have hwalk' : env.repaired.image.walk env.repaired.keepsLoad fwName = .done data := hwalk
  have hends : wp (visitItems env.repaired env.repaired.image.hdr fwName
      (writeItem env.repaired env.repaired.image.hdr) 0 env.repaired.image.hdr.itemCount.toNat)
      _ _ _ s := wp_writeItems_ends hsize hfw hentry
  rw [hwalk'] at hends
  refine wp_mono hends ?_ ?_ ?_
  · rintro _ s' ⟨⟨data', hdone, htaken⟩, -⟩
    cases hdone
    exact htaken ▸ List.prefix_rfl
  · rintro r s' ⟨⟨-, hno | hno⟩, -⟩
    · exact absurd (writes_repaired env) hno
    · cases hno
  · rintro e s' ⟨⟨hno, -⟩ | ⟨hno, -⟩, -⟩ <;> cases hno

/-- **Going through the items**, from the start of a stream. -/
theorem wp_writeItems {s : Updater} (hsize : s.fileSize = env.image.size)
    (hfw : s.fwOffset = fwOffset env.image) (hentry : s.entryOffset = 0) (htaken : s.taken = []) :
    wp (visitItems env env.image.hdr fwName (writeItem env env.image.hdr) 0
        env.image.hdr.itemCount.toNat)
      (fun _ s' => env.image.walk env.keepsLoad fwName = .done s'.taken ∧
        s'.globals = s.globals)
      (fun r s' => (r = -1 ∧ (¬ env.Writes ∨ env.image.walk env.keepsLoad fwName = .stuck)) ∧
        s'.globals = s.globals ∧ ∀ data, env.image.walk env.keepsLoad fwName = .done data →
          s'.taken <+: data)
      (fun e _ => e.Ends (env.image.walk env.keepsLoad fwName)) s := by
  have hbegins : wp (visitItems env env.image.hdr fwName (writeItem env env.image.hdr) 0
      env.image.hdr.itemCount.toNat)
      (fun _ s' => ∀ data, env.image.walk env.keepsLoad fwName = .done data → s'.taken <+: data)
      (fun _ s' => ∀ data, env.image.walk env.keepsLoad fwName = .done data → s'.taken <+: data)
      (fun _ s' => ∀ data, env.image.walk env.keepsLoad fwName = .done data → s'.taken <+: data)
      s := by
    refine wp_state_iff.mpr fun data hwalk => ?_
    have htake := begins_writeItems hsize hfw hentry hwalk
    rwa [htaken, List.nil_append] at htake
  refine wp_mono (wp_and (wp_writeItems_ends hsize hfw hentry) hbegins) ?_ ?_ ?_
  · rintro _ _ ⟨⟨⟨data, hwalk, hall⟩, hglobals⟩, -⟩
    rw [htaken, List.nil_append] at hall
    exact ⟨hall ▸ hwalk, hglobals⟩
  · exact fun _ _ h => ⟨h.1.1, h.1.2, h.2⟩
  · exact fun _ _ h => h.1.1

theorem wp_checkItem (idx : Nat) (s : Updater) (n pos : Nat) (hsize : s.fileSize = env.image.size)
    (hn : env.image.hdr.fileBufferSize idx = (n : Nat)) (hleft : 0 < n)
    (hpos : pos = entryPos env.image.hdr idx s.fwOffset s.entryOffset) :
    wp (checkItem env env.image.hdr idx)
      (fun _ s' => pos + n ≤ env.image.size ∧ (checkSink env).Good (env.image.bytes pos n) s ∧
        s' = (checkSink env).moved (env.image.bytes pos n) 0 s)
      (fun r _ => r = (checkSink env).fail ∧ ((checkSink env).Bad ∨
        ¬ (pos + n ≤ env.image.size ∧ (checkSink env).Good (env.image.bytes pos n) s)))
      (fun _ _ => False) s := by
  have hbad : env.malloc idx 0 = false ∨ env.malloc idx 1 = false → ¬ env.Reads := by
    rintro (hmalloc | hmalloc) hreads
    · exact absurd (hreads idx).1 (by simp [hmalloc])
    · exact absurd (hreads idx).2 (by simp [hmalloc])
  rw [checkItem, wp_bind, wp_exitIf]
  split
  · rename_i hmalloc
    exact ⟨rfl, .inl (hbad (.inl hmalloc))⟩
  · rw [wp_bind, wp_exitIf]
    split
    · rename_i hmalloc
      exact ⟨rfl, .inl (hbad (.inr hmalloc))⟩
    · exact wp_transfer (checkSink env) hsize (by omega) hn hpos

theorem wp_checkItems {s : Updater} (hsize : s.fileSize = env.image.size)
    (hfw : s.fwOffset = fwOffset env.image) (hentry : s.entryOffset = 0)
    (hpos : s.recoveryPos = 0) :
    wp (visitItems env env.image.hdr fwName (checkItem env env.image.hdr) 0
        env.image.hdr.itemCount.toNat)
      (fun _ _ => ∃ data, env.image.walk env.keepsLoad fwName = .done data ∧
        env.recovery.Holds 0 data)
      (fun r _ => r = false ∧ (¬ env.Reads ∨
        ∀ data, env.image.walk env.keepsLoad fwName = .done data → ¬ env.recovery.Holds 0 data))
      (fun e _ => e.Ends (env.image.walk env.keepsLoad fwName)) s := by
  have hwalk := wp_visitItems (checkSink env) fwName wp_checkItem env.image.hdr.itemCount.toNat
    0 s hsize (env.image.walk env.keepsLoad fwName) (by rw [ImageFile.walk, hfw, hentry])
  refine wp_mono hwalk ?_ ?_ (fun _ _ h => h)
  · rintro _ s' ⟨data, left, hw, hgood, -⟩
    have hgood : env.recovery.Holds s.recoveryPos data := hgood
    exact ⟨data, hw, hpos ▸ hgood⟩
  · rintro r s' ⟨hr, hrefuses⟩
    refine ⟨hr, ?_⟩
    rcases hrefuses with hbad | hstuck | ⟨part, hno, hends⟩
    · exact .inl hbad
    · exact .inr fun data hdata => by rw [hstuck] at hdata; cases hdata
    · refine .inr fun data hdata hholds => hno ?_
      obtain ⟨rest, rfl⟩ := hends data hdata
      have hpart : env.recovery.Holds s.recoveryPos part :=
        hpos ▸ (Content.holds_append.mp hholds).1
      exact hpart

/-! ## The functions -/

/-- The header of the items is read where it is in the file. -/
theorem wp_readHdr {ρ : Type} {fail : ρ} {s : Updater} (hsize : s.fileSize = env.image.size)
    (hfw : s.fwOffset = fwOffset env.image) {N : Hdr → Updater → Prop} {X : ρ → Updater → Prop}
    {F : Fault → Updater → Prop} :
    wp (readHdr env fail) N X F s ↔
      if env.image.HdrReadable then N env.image.hdr s else X fail s := by
  unfold readHdr
  simp only [wp_bind, wp_gets, id, hsize, hfw, getData_eq env (show 0 < sizeofHdr by decide)]
  by_cases hread : env.image.HdrReadable
  · have hle : fwOffset env.image + sizeofHdr ≤ env.image.size := hread
    simp only [if_pos hle, if_pos hread]
    exact Iff.rfl
  · have hgt : ¬ fwOffset env.image + sizeofHdr ≤ env.image.size := hread
    simp only [if_neg hgt, if_neg hread]
    exact Iff.rfl

/-- The image is found, and can be opened. -/
def Env.Opens (env : Env) (imgPath : String) : Prop :=
  (∃ szName, env.path imgPath = some szName ∧ szName ≠ "") ∧ env.stat = true ∧
    env.imageOpens = true

/-- The global variables are those of the image. -/
def Updater.Knows (s : Updater) (image : ImageFile) : Prop :=
  s.fwOffset = Update.fwOffset image ∧ s.fileSize = image.size ∧ s.mntPoint ≠ ""

theorem Updater.knows_of_globals {s s' : Updater} {image : ImageFile}
    (h : s'.globals = s.globals) (hs : s.Knows image) : s'.Knows image := by
  obtain ⟨hfw, hsize, hname⟩ := hs
  have hfw' : s'.fwOffset = s.fwOffset := congrArg (·.1) h
  have hsize' : s'.fileSize = s.fileSize := congrArg (·.2.1) h
  have hname' : s'.mntPoint = s.mntPoint := congrArg (·.2.2.1) h
  exact ⟨hfw'.trans hfw, hsize'.trans hsize, hname' ▸ hname⟩

/-- `WriteFwData` leaves before it opens the recovery partition. -/
def LeavesEarly (s : Updater) (r : Int) (s' : Updater) : Prop :=
  r = -1 ∧ s'.recoveryOpened = s.recoveryOpened ∧ s'.written = s.written

/-- `WriteFwData` has gone through the items, as far as it came, and closed the stream. -/
structure WritesItems (env : Env) (fwName : CString) (r : Int) (s' : Updater) : Prop where
  opened : s'.recoveryOpened = true
  written : s'.written = s'.flushed env.toPlatform
  begins : ∀ data, env.image.walk env.keepsLoad fwName = .done data → s'.taken <+: data
  ends : (r = 0 ∧ env.image.walk env.keepsLoad fwName = .done s'.taken) ∨
    (r = -1 ∧ (¬ env.Writes ∨ env.image.walk env.keepsLoad fwName = .stuck))

/-- What `WriteFwData` needs to get to the items. -/
def GetsToItems (env : Env) (imgPath : String) : Prop :=
  env.Opens imgPath ∧ env.image.HdrReadable ∧ 0 < env.image.hdr.itemCount ∧
    env.recoveryOpens = true

/-- **How `WriteFwData` ends.** -/
theorem wp_writeFwData (env : Env) (imgPath : String) (fwName : CString) (s : Updater) :
    wp (writeFwData env imgPath fwName) (fun _ _ => False)
      (fun r s' => (env.Opens imgPath → s'.Knows env.image) ∧
        ((¬ GetsToItems env imgPath ∧ LeavesEarly s r s') ∨
          (GetsToItems env imgPath ∧ WritesItems env fwName r s')))
      (fun e _ => GetsToItems env imgPath ∧ e.Ends (env.image.walk env.keepsLoad fwName)) s := by
  unfold writeFwData getFwSize
  simp only [wp_bind, wp_modify]
  -- each return before the items is the negation of a part of `GetsToItems`
  cases hpath : env.path imgPath with
  | none =>
    have hno : ¬ env.Opens imgPath := by
      rintro ⟨⟨szName, hsome, -⟩, -⟩
      rw [hpath] at hsome
      cases hsome
    simp only [wp_pure]
    exact ⟨fun h => absurd h hno, .inl ⟨fun h => hno h.1, rfl, rfl, rfl⟩⟩
  | some szName =>
    have hopens : env.Opens imgPath ↔
        szName ≠ "" ∧ env.stat = true ∧ env.imageOpens = true := by
      simp [Env.Opens, hpath]
    simp only [wp_bind, wp_exitIf, wp_modify]
    split
    · rename_i hstat
      have hno : ¬ env.Opens imgPath := fun h => by simp [hstat] at hopens; exact hopens h
      exact ⟨fun h => absurd h hno, .inl ⟨fun h => hno h.1, rfl, rfl, rfl⟩⟩
    rename_i hstat
    split
    · rename_i hname
      have hno : ¬ env.Opens imgPath := fun h => (hopens.mp h).1 hname
      exact ⟨fun h => absurd h hno, .inl ⟨fun h => hno h.1, rfl, rfl, rfl⟩⟩
    rename_i hname
    split
    · rename_i himage
      have hno : ¬ env.Opens imgPath := fun h => by simp [himage] at hopens; exact hopens h
      exact ⟨fun h => absurd h hno, .inl ⟨fun h => hno h.1, rfl, rfl, rfl⟩⟩
    rename_i himage
    have hopens : env.Opens imgPath :=
      hopens.mpr ⟨hname, by simpa using hstat, by simpa using himage⟩
    simp only [getFwOffset, wp_bind, wp_modify, wp_pure, wp_exitIf, Nat.not_lt_zero, and_false,
      if_false]
    rw [wp_readHdr rfl rfl]
    by_cases hread : env.image.HdrReadable
    · rw [if_pos hread, wp_bind, wp_exitIf]
      by_cases hcount : env.image.hdr.itemCount ≤ 0
      · have hno : ¬ GetsToItems env imgPath := fun h => absurd h.2.2.1 (by omega)
        rw [if_pos hcount]
        exact ⟨fun _ => ⟨rfl, rfl, hname⟩, .inl ⟨hno, rfl, rfl, rfl⟩⟩
      rw [if_neg hcount, wp_bind, wp_exitIf]
      by_cases hrecovery : env.recoveryOpens = false
      · have hno : ¬ GetsToItems env imgPath := fun h => absurd h.2.2.2 (by simp [hrecovery])
        rw [if_pos hrecovery]
        exact ⟨fun _ => ⟨rfl, rfl, hname⟩, .inl ⟨hno, rfl, rfl, rfl⟩⟩
      have hgets : GetsToItems env imgPath :=
        ⟨hopens, hread, by omega, by simpa using hrecovery⟩
      rw [if_neg hrecovery, wp_bind, wp_modify, wp_bind, wp_call]
      -- `fclose` comes behind the items, whether they were gone through or not
      refine wp_mono (wp_writeItems rfl rfl rfl rfl) ?_ ?_ (fun e s' h => ⟨hgets, h⟩)
      · rintro _ s' ⟨hdone, hglobals⟩
        have hknows := Updater.knows_of_globals hglobals ⟨rfl, rfl, hname⟩
        have hbegins : ∀ data, env.image.walk env.keepsLoad fwName = .done data →
            s'.taken <+: data := fun data hdata => by rw [hdone] at hdata; cases hdata; rfl
        exact ⟨fun _ => hknows,
          .inr ⟨hgets, congrArg (·.2.2.2) hglobals, rfl, hbegins, .inl ⟨rfl, hdone⟩⟩⟩
      · rintro r s' ⟨⟨rfl, hfail⟩, hglobals, hbegins⟩
        have hknows := Updater.knows_of_globals hglobals ⟨rfl, rfl, hname⟩
        exact ⟨fun _ => hknows,
          .inr ⟨hgets, congrArg (·.2.2.2) hglobals, rfl, hbegins, .inr ⟨rfl, hfail⟩⟩⟩
    · rw [if_neg hread]
      exact ⟨fun _ => ⟨rfl, rfl, hname⟩, .inl ⟨fun h => hread h.2.1, rfl, rfl, rfl⟩⟩

/-- **How `CheckFwData` ends**, after `WriteFwData` has found the image. -/
theorem wp_checkFwData (env : Env) (fwName : CString) {s : Updater} (hknows : s.Knows env.image) :
    wp (checkFwData env fwName) (fun _ _ => False)
      (fun r _ =>
        (r = true → env.image.HdrReadable ∧
          ∃ data, env.image.walk env.keepsLoad fwName = .done data ∧ env.recovery.Holds 0 data) ∧
        (r = false → env.imageOpens = true → env.recoveryOpens = true → env.Reads →
          env.image.HdrReadable →
          ∀ data, env.image.walk env.keepsLoad fwName = .done data → ¬ env.recovery.Holds 0 data))
      (fun e _ => env.image.HdrReadable ∧ e.Ends (env.image.walk env.keepsLoad fwName)) s := by
  obtain ⟨hfw, hsize, hname⟩ := hknows
  unfold checkFwData
  rw [wp_bind, wp_exitIf, if_neg hname, wp_bind, wp_exitIf]
  by_cases himage : env.imageOpens = false
  · rw [if_pos himage]
    exact ⟨nofun, fun _ h => absurd h (by simp [himage])⟩
  -- the test of the `DWORD` is never true
  rw [if_neg himage, wp_bind, wp_exitIf, if_neg fun h => Nat.not_lt_zero _ h.2, wp_bind,
    wp_readHdr hsize hfw]
  by_cases hread : env.image.HdrReadable
  · rw [if_pos hread, wp_bind, wp_exitIf]
    by_cases hrecovery : env.recoveryOpens = false
    · rw [if_pos hrecovery]
      exact ⟨nofun, fun _ _ h => absurd h (by simp [hrecovery])⟩
    rw [if_neg hrecovery, wp_bind, wp_modify, wp_bind]
    refine wp_mono (wp_checkItems hsize hfw rfl rfl) ?_ ?_ ?_
    · exact fun _ s' h => ⟨fun _ => ⟨hread, h⟩, nofun⟩
    · rintro r s' ⟨rfl, hfail⟩
      refine ⟨nofun, fun _ _ _ hreads _ => ?_⟩
      exact hfail.resolve_left fun hno => hno hreads
    · exact fun e s' h => ⟨hread, h⟩
  · rw [if_neg hread]
    exact ⟨nofun, fun _ _ _ _ h => absurd h hread⟩

end items

/-! ## A machine on which everything works -/

/-- Every path exists, and every operation succeeds, but perhaps for the opening of the
recovery partition and the last flush. -/
def Env.working (platform : Platform) (image : ImageFile) (recovery : Content)
    (recoveryOpens : Bool) : Env where
  toPlatform := platform
  access _ := true
  stat := true
  image := image
  imageOpens := true
  recoveryOpens := recoveryOpens
  malloc _ _ := true
  fwrite _ := LBA_TRANSFER_SIZE
  recovery := recovery

section working

variable {platform : Platform} {image : ImageFile} (recovery : Content) (fwName : CString)
  (s : Updater)

theorem opens_working (recoveryOpens : Bool) :
    (Env.working platform image recovery recoveryOpens).Opens "update.img" :=
  ⟨⟨"update.img", rfl, by decide⟩, rfl, rfl⟩

theorem writes_working (recoveryOpens : Bool) :
    (Env.working platform image recovery recoveryOpens).Writes :=
  ⟨fun _ => rfl, fun _ => Nat.le_refl _⟩

theorem reads_working (recoveryOpens : Bool) :
    (Env.working platform image recovery recoveryOpens).Reads := fun _ => ⟨rfl, rfl⟩

/-- Where the recovery partition cannot be opened, `WriteFwData` fails but knows the image. -/
theorem writeFwData_unopened (platform : Platform) (image : ImageFile) : ∃ r s',
    writeFwData (.working platform image recovery false) "update.img" fwName s = .exit r s' ∧
      s'.Knows image := by
  have hwrite := wp_writeFwData (.working platform image recovery false) "update.img" fwName s
  have hno : ¬ GetsToItems (.working platform image recovery false) "update.img" := fun h => by
    cases h.2.2.2
  rw [wp_def] at hwrite
  cases hout : writeFwData (.working platform image recovery false) "update.img" fwName s with
  | next a s' => exact (hwrite.1 a s' hout).elim
  | exit r s' => exact ⟨r, s', rfl, (hwrite.2.1 r s' hout).1 (opens_working _ false)⟩
  | fault e s' => exact absurd (hwrite.2.2 e s' hout).1 hno

variable (platform)

theorem getsToItems_working (hread : image.HdrReadable) (hcount : 0 < image.hdr.itemCount) :
    GetsToItems (.working platform image recovery true) "update.img" :=
  ⟨opens_working _ true, hread, hcount, rfl⟩

/-- **Where everything works**, `WriteFwData` does what the walk says. -/
theorem writeFwData_working (hread : image.HdrReadable) (hcount : 0 < image.hdr.itemCount) :
    wp (writeFwData (.working platform image recovery true) "update.img" fwName) (fun _ _ => False)
      (fun r s' => s'.recoveryOpened = true ∧ s'.written = s'.flushed platform ∧
        ((r = 0 ∧ image.walk platform.keepsLoad fwName = .done s'.taken) ∨
          (r = -1 ∧ image.walk platform.keepsLoad fwName = .stuck)))
      (fun e _ => e.Ends (image.walk platform.keepsLoad fwName)) s := by
  have hgets := getsToItems_working platform recovery hread hcount
  refine wp_mono (wp_writeFwData _ "update.img" _ s) (fun _ _ h => h) ?_ (fun e _ h => h.2)
  rintro r s' ⟨-, ⟨hno, -⟩ | ⟨-, hitems⟩⟩
  · exact absurd hgets hno
  · refine ⟨hitems.opened, hitems.written, hitems.ends.imp_right fun ⟨hr, hfail⟩ => ⟨hr, ?_⟩⟩
    exact hfail.resolve_left fun hno => hno (writes_working _ true)

end working

end Update

end Rk3399
