import Rk3399.Update.Model.Recv
/-!
# Moving the data of an item

The loop over an item, for whatever takes its pieces: what it moves is the
bytes of the image from one position on, in order and each once, and it
leaves early only where they are not all in the file or not all taken.
-/

namespace Rk3399

namespace Update

open Prog

/-! ## Bytes of a file -/

namespace Content

variable (file : Content)

@[simp] theorem bytes_zero (offset : Nat) : file.bytes offset 0 = [] := rfl

@[simp] theorem length_bytes (offset n : Nat) : (file.bytes offset n).length = n := by
  simp [bytes]

/-- Bytes are read in pieces. -/
theorem bytes_add (offset m n : Nat) :
    file.bytes offset (m + n) = file.bytes offset m ++ file.bytes (offset + m) n := by
  simp [bytes, List.range_add, Nat.add_assoc, Function.comp_def]

end Content

/-! ## Sinks -/

/-- What takes the pieces of an item: `put` is what a piece does to the state, `Good`
what it takes for the piece to be taken, and `Bad` says that any piece may be
refused. The variables of the loop are no matter of it. -/
structure Sink (ρ : Type) where
  fail : ρ
  chunk : List UInt8 → Prog Fault ρ Updater Unit
  put : List UInt8 → Updater → Updater
  Good : List UInt8 → Updater → Prop
  Bad : Prop
  chunk_spec : ∀ data s, 0 < data.length → data.length ≤ LBA_TRANSFER_SIZE →
    wp (chunk data) (fun _ s' => s' = put data s ∧ Good data s)
      (fun r _ => r = fail ∧ (Bad ∨ ¬ Good data s)) (fun _ _ => False) s
  put_nil : ∀ s, put [] s = s
  put_append : ∀ data data' s, put data' (put data s) = put (data ++ data') s
  put_vars : ∀ data s n e,
    put data { s with fileBufferSize := n, entryOffset := e } =
      { put data s with fileBufferSize := n, entryOffset := e }
  put_fwOffset : ∀ data s, (put data s).fwOffset = s.fwOffset
  put_fileSize : ∀ data s, (put data s).fileSize = s.fileSize
  put_fileBufferSize : ∀ data s, (put data s).fileBufferSize = s.fileBufferSize
  put_entryOffset : ∀ data s, (put data s).entryOffset = s.entryOffset
  good_nil : ∀ s, Good [] s
  good_append : ∀ data data' s, Good (data ++ data') s ↔ Good data s ∧ Good data' (put data s)
  good_vars : ∀ data s n e,
    Good data { s with fileBufferSize := n, entryOffset := e } ↔ Good data s

/-- `GetData` where the file did not change since its size was read. -/
theorem getData_eq (env : Env) {dwOffset dwSize : Nat} (hpos : 0 < dwSize) :
    getData env env.image.size dwOffset dwSize =
      if dwOffset + dwSize ≤ env.image.size then some (env.image.bytes dwOffset dwSize)
      else none := by
  unfold getData
  split_ifs <;> first | omega | rfl

section transfer

variable {ρ : Type} (env : Env) (sink : Sink ρ) (hdr : Hdr) (idx : Nat)

/-- Where the running offset `entryOffset` of the item is in the image. -/
def entryPos (fwOffset entryOffset : Nat) : Nat := u32 (fwOffset + hdr.offset idx) + entryOffset

/-- The state after data was moved, with the variables of the loop. -/
def Sink.moved (data : List UInt8) (left : Nat) (s : Updater) : Updater :=
  { sink.put data s with
    fileBufferSize := left, entryOffset := s.entryOffset + data.length }

variable {env sink hdr idx}

/-- **A round of the loop** moves a piece that is not longer than the buffer. -/
theorem wp_transferRound {s : Updater} (hsize : s.fileSize = env.image.size)
    (hleft : 0 < s.fileBufferSize) :
    wp (transferRound env sink.fail sink.chunk hdr idx)
      (fun go s' => go = true ∧ ∃ c pos, 0 < c ∧ c ≤ s.fileBufferSize ∧
        pos = entryPos hdr idx s.fwOffset s.entryOffset ∧ pos + c ≤ env.image.size ∧
        sink.Good (env.image.bytes pos c) s ∧
        s' = sink.moved (env.image.bytes pos c) (s.fileBufferSize - c) s)
      (fun r _ => r = sink.fail ∧ ∃ c pos, c ≤ s.fileBufferSize ∧
        pos = entryPos hdr idx s.fwOffset s.entryOffset ∧
        (sink.Bad ∨ ¬ (pos + c ≤ env.image.size ∧ sink.Good (env.image.bytes pos c) s)))
      (fun _ _ => False) s := by
  obtain ⟨c, hc⟩ : ∃ c, c = min s.fileBufferSize LBA_TRANSFER_SIZE := ⟨_, rfl⟩
  have hpos : 0 < c := by
    simp only [hc, LBA_TRANSFER_SIZE]
    omega
  have hle : c ≤ s.fileBufferSize := hc ▸ Nat.min_le_left _ _
  have hmax : c ≤ LBA_TRANSFER_SIZE := hc ▸ Nat.min_le_right _ _
  unfold transferRound
  simp only [wp_bind, wp_gets, id, if_pos hleft, hsize, ← hc, getData_eq env hpos]
  by_cases hin : entryPos hdr idx s.fwOffset s.entryOffset + c ≤ env.image.size
  · have hin' : u32 (s.fwOffset + hdr.offset idx) + s.entryOffset + c ≤ env.image.size := hin
    simp only [if_pos hin', wp_bind]
    refine wp_mono (sink.chunk_spec _ s (by simpa using hpos) (by simpa using hmax)) ?_ ?_
      (fun _ _ h => h)
    · rintro _ s' ⟨rfl, hgood⟩
      refine ⟨rfl, c, _, hpos, hle, rfl, hin, hgood, ?_⟩
      simp [Sink.moved, sink.put_fileBufferSize, sink.put_entryOffset, entryPos]
    · rintro r s' ⟨hr, hbad⟩
      exact ⟨hr, c, _, hle, rfl, hbad.imp_right fun hno h => hno h.2⟩
  · have hin' : ¬ u32 (s.fwOffset + hdr.offset idx) + s.entryOffset + c ≤ env.image.size := hin
    simp only [if_neg hin', wp_exit]
    exact ⟨trivial, c, _, hle, rfl, .inr fun h => hin h.1⟩

theorem wp_transferRound_done {s : Updater} (hleft : s.fileBufferSize = 0)
    {N : Bool → Updater → Prop} {X : ρ → Updater → Prop} {F : Fault → Updater → Prop} :
    wp (transferRound env sink.fail sink.chunk hdr idx) N X F s ↔ N false s := by
  unfold transferRound
  simp [hleft]

/-- What can be moved to the end can be moved up to any point. -/
theorem good_of_le {pos c n : Nat} {s : Updater} (hle : c ≤ n)
    (h : pos + n ≤ env.image.size ∧ sink.Good (env.image.bytes pos n) s) :
    pos + c ≤ env.image.size ∧ sink.Good (env.image.bytes pos c) s := by
  obtain ⟨m, rfl⟩ : ∃ m, n = c + m := ⟨n - c, by omega⟩
  rw [env.image.bytes_add, sink.good_append] at h
  exact ⟨by omega, h.2.1⟩

theorem moved_nil {s : Updater} {left : Nat} (h : s.fileBufferSize = left) :
    sink.moved [] left s = s := by
  rw [Sink.moved, sink.put_nil]
  cases s
  subst h
  rfl

theorem good_moved (data data' : List UInt8) (left : Nat) (s : Updater) :
    sink.Good data' (sink.moved data left s) ↔ sink.Good data' (sink.put data s) :=
  sink.good_vars ..

/-- Data that is moved in two parts is moved. -/
theorem moved_moved (data data' : List UInt8) (left left' : Nat) (s : Updater) :
    sink.moved data' left' (sink.moved data left s) = sink.moved (data ++ data') left' s := by
  unfold Sink.moved
  rw [sink.put_vars, sink.put_append]
  simp [Nat.add_assoc]

variable (sink)

/-- **The loop over an item** moves all of it, or leaves. The induction is on what is
left of it. -/
theorem wp_transferLoop (n : Nat) : ∀ (fuel : Nat) (s : Updater), n < fuel →
    s.fileBufferSize = n → s.fileSize = env.image.size →
    ∀ pos, pos = entryPos hdr idx s.fwOffset s.entryOffset →
    wp (loop .rounds (transferRound env sink.fail sink.chunk hdr idx) fuel)
      (fun _ s' => (0 < n → pos + n ≤ env.image.size) ∧ sink.Good (env.image.bytes pos n) s ∧
        s' = sink.moved (env.image.bytes pos n) 0 s)
      (fun r _ => r = sink.fail ∧
        (sink.Bad ∨ ¬ (pos + n ≤ env.image.size ∧ sink.Good (env.image.bytes pos n) s)))
      (fun _ _ => False) s := by
  -- by induction on the bytes that are left, of which a round moves a chunk
  induction n using Nat.strongRecOn with
  | _ n ih =>
    intro fuel s hfuel hn hsize pos hpos
    obtain ⟨fuel, rfl⟩ : ∃ k, fuel = k + 1 := ⟨fuel - 1, by omega⟩
    rw [wp_loop_succ]
    rcases Nat.eq_zero_or_pos n with rfl | hleft
    · rw [wp_transferRound_done hn]
      exact ⟨fun h => absurd h (Nat.lt_irrefl 0), sink.good_nil s, (moved_nil hn).symm⟩
    · refine wp_mono (wp_transferRound hsize (hn ▸ hleft)) ?_ ?_ (fun _ _ h => h)
      · rintro go s' ⟨rfl, c, pos', hc, hle, hpos', hin, hgood, hs'⟩
        rw [hn] at hle hs'
        rw [← hpos] at hpos'
        subst hpos'
        have hstart : pos' + c = entryPos hdr idx s'.fwOffset s'.entryOffset := by
          rw [hs']
          simp only [Sink.moved, sink.put_fwOffset, Content.length_bytes, entryPos, hpos]
          omega
        have hfw : s'.fileSize = env.image.size := by
          rw [hs']
          simpa [Sink.moved, sink.put_fileSize] using hsize
        have hrest := ih (n - c) (by omega) fuel s' (by omega) (by rw [hs']; rfl) hfw _ hstart
        -- the chunk and what is left are the data of the item
        have hsplit : env.image.bytes pos' n =
            env.image.bytes pos' c ++ env.image.bytes (pos' + c) (n - c) := by
          rw [← Content.bytes_add]
          congr 1
          omega
        have hwhole : sink.Good (env.image.bytes pos' n) s ↔
            sink.Good (env.image.bytes (pos' + c) (n - c)) s' := by
          rw [hsplit, sink.good_append, hs', good_moved]
          exact and_iff_right hgood
        refine wp_mono hrest ?_ ?_ (fun _ _ h => h)
        · rintro _ s'' ⟨hin', hgood', rfl⟩
          refine ⟨fun _ => ?_, hwhole.mpr hgood', ?_⟩
          · rcases Nat.eq_zero_or_pos (n - c) with h0 | hp
            · omega
            · have := hin' hp
              omega
          · rw [hs', moved_moved, ← hsplit]
        · rintro r s'' ⟨hr, hbad⟩
          refine ⟨hr, hbad.imp_right fun hno hall => hno ⟨by omega, hwhole.mp hall.2⟩⟩
      · rintro r s' ⟨hr, c, pos', hle, hpos', hbad⟩
        rw [hn] at hle
        rw [← hpos] at hpos'
        subst hpos'
        exact ⟨hr, hbad.imp_right fun hno hall => hno (good_of_le hle hall)⟩

/-- **The data of an item**, from the position the code starts at. -/
theorem wp_transfer {s : Updater} (hsize : s.fileSize = env.image.size)
    (hn : 0 < hdr.fileBufferSize idx) {n pos : Nat} (hsigned : hdr.fileBufferSize idx = n)
    (hpos : pos = entryPos hdr idx s.fwOffset s.entryOffset) :
    wp (transfer env sink.fail sink.chunk hdr idx)
      (fun _ s' => pos + n ≤ env.image.size ∧ sink.Good (env.image.bytes pos n) s ∧
        s' = sink.moved (env.image.bytes pos n) 0 s)
      (fun r _ => r = sink.fail ∧
        (sink.Bad ∨ ¬ (pos + n ≤ env.image.size ∧ sink.Good (env.image.bytes pos n) s)))
      (fun _ _ => False) s := by
  have hto : (hdr.fileBufferSize idx).toNat = n := by omega
  unfold transfer
  simp only [wp_bind, wp_modify, hto]
  have hloop := wp_transferLoop sink n (n + 1) { s with fileBufferSize := n }
    (by omega) rfl hsize pos hpos
  have hgood : sink.Good (env.image.bytes pos n) { s with fileBufferSize := n } ↔
      sink.Good (env.image.bytes pos n) s := sink.good_vars _ s n s.entryOffset
  refine wp_mono hloop ?_ ?_ (fun _ _ h => h)
  · rintro _ s' ⟨hin, hg, rfl⟩
    refine ⟨hin (by omega), hgood.mp hg, ?_⟩
    have hput := sink.put_vars (env.image.bytes pos n) s n s.entryOffset
    simp only [Sink.moved]
    rw [hput]
  · rintro r s' ⟨hr, hbad⟩
    exact ⟨hr, hbad.imp_right fun hno hall => hno ⟨hall.1, hgood.mpr hall.2⟩⟩

end transfer

end Update

end Rk3399
