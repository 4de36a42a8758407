import Rk3399.Common.Truncation
import Rk3399.Update.Model.Recv
/-!
# Writing among failures

`malloc` and `fwrite` may fail anywhere while `WriteFwData` goes through the
items. What the stream has then taken is the beginning of what it takes on a
machine on which they do not.
-/

namespace Rk3399

namespace Update

open Prog

/-! ## The failures of the machine -/

/-- The machine without its failures: it has the same files and the same build. -/
def Env.repaired (env : Env) : Env where
  toPlatform := env.toPlatform
  access := env.access
  stat := true
  image := env.image
  imageOpens := true
  recoveryOpens := true
  malloc _ _ := true
  fwrite entryOffset := max (env.fwrite entryOffset) LBA_TRANSFER_SIZE
  recovery := env.recovery

/-- `x` does what `y` does, or leaves with the beginning of what `y` takes. -/
abbrev TakesLess {ρ α : Type} (x y : Prog Fault ρ Updater α) : Prop := Cuts Updater.taken x y

/-- What was taken stays. -/
abbrev Appends {ρ α : Type} (x : Prog Fault ρ Updater α) : Prop := Grows Updater.taken x

section failures

variable {ρ : Type} (env : Env) (hdr : Hdr)

theorem appends_writeChunk (data : List UInt8) : Appends (writeChunk env data) := by
  refine grows_bind (grows_gets _) fun s => grows_bind (grows_modify fun s => ?_) fun _ =>
    grows_exitIf _ _
  exact List.prefix_append _ _

theorem appends_transferRound {fail : ρ} {chunk : List UInt8 → Prog Fault ρ Updater Unit}
    (hchunk : ∀ data, Appends (chunk data)) (idx : Nat) :
    Appends (transferRound env fail chunk hdr idx) := by
  refine grows_bind (grows_gets _) fun s => grows_ite _ ?_ (grows_pure _)
  dsimp only
  split
  · exact grows_exit _
  · exact grows_bind (hchunk _) fun _ => grows_bind (grows_modify fun _ => List.prefix_rfl) fun _ =>
      grows_pure _

theorem appends_transfer {fail : ρ} {chunk : List UInt8 → Prog Fault ρ Updater Unit}
    (hchunk : ∀ data, Appends (chunk data)) (idx : Nat) :
    Appends (transfer env fail chunk hdr idx) :=
  grows_bind (grows_modify fun _ => List.prefix_rfl) fun _ =>
    grows_loop (appends_transferRound env hdr hchunk idx) _

theorem appends_writeItem (idx : Nat) : Appends (writeItem env hdr idx) :=
  grows_bind (grows_exitIf _ _) fun _ => appends_transfer env hdr (appends_writeChunk env) idx

theorem appends_visitItem {fwName : CString} {move : Nat → Prog Fault ρ Updater Unit}
    (hmove : ∀ idx, Appends (move idx)) (idx : Nat) :
    Appends (visitItem env hdr fwName move idx) := by
  refine grows_bind (grows_assert _ _) fun _ => ?_
  split
  · exact grows_fault _
  · exact grows_pure _
  · exact grows_ite _ (grows_bind (grows_assert _ _) fun _ => hmove idx) (grows_pure _)

theorem appends_visitItems {fwName : CString} {move : Nat → Prog Fault ρ Updater Unit}
    (hmove : ∀ idx, Appends (move idx)) (k : Nat) :
    ∀ idx, Appends (visitItems env hdr fwName move idx k) := by
  induction k with
  | zero => exact fun _ => grows_pure _
  | succ k ih => exact fun idx => grows_bind (appends_visitItem env hdr hmove idx) fun _ => ih _

/-- **A piece** of which less is taken. -/
theorem takesLess_writeChunk (data : List UInt8) :
    TakesLess (writeChunk env data) (writeChunk env.repaired data) := by
  refine ⟨fun s => ?_⟩
  obtain ⟨n, hn⟩ : ∃ n, n = min data.length (env.fwrite s.entryOffset) := ⟨_, rfl⟩
  obtain ⟨m, hm⟩ : ∃ m, m = min data.length (env.repaired.fwrite s.entryOffset) := ⟨_, rfl⟩
  have hnm : n ≤ m := by
    have hfwrite : env.fwrite s.entryOffset ≤ env.repaired.fwrite s.entryOffset :=
      Nat.le_max_left _ _
    omega
  have hless : writeChunk env data s =
      exitIf (-1) (fun _ => n ≠ data.length) { s with taken := s.taken ++ data.take n } := by
    rw [hn]
    rfl
  have hmore : writeChunk env.repaired data s =
      exitIf (-1) (fun _ => m ≠ data.length) { s with taken := s.taken ++ data.take m } := by
    rw [hm]
    rfl
  rw [hless, hmore]
  by_cases hall : n = data.length
  · have hboth : m = n := by omega
    exact Or.inl (by rw [hboth])
  · refine Or.inr ⟨-1, _, exitIf_of _ hall, ?_⟩
    have hbegins : s.taken ++ data.take n <+: s.taken ++ data.take m :=
      (List.prefix_append_right_inj _).mpr (List.take_prefix_take_left hnm)
    have hcheck : Appends (exitIf (-1) fun _ => m ≠ data.length : Prog Fault Int Updater Unit) :=
      grows_exitIf _ _
    exact hbegins.trans (hcheck.run { s with taken := s.taken ++ data.take m })

theorem takesLess_transferRound {fail : ρ} {chunk chunk' : List UInt8 → Prog Fault ρ Updater Unit}
    (hchunk : ∀ data, TakesLess (chunk data) (chunk' data)) (idx : Nat) :
    TakesLess (transferRound env fail chunk hdr idx) (transferRound env fail chunk' hdr idx) := by
  have hrest : ∀ n, Appends (do
      modify fun s : Updater => { s with
        fileBufferSize := s.fileBufferSize - n, entryOffset := s.entryOffset + n }
      pure true : Prog Fault ρ Updater Bool) :=
    fun n => grows_bind (grows_modify fun _ => List.prefix_rfl) fun _ => grows_pure _
  -- both read the same piece
  refine cuts_same fun s => cuts_ite _ ?_ (cuts_refl _)
  dsimp only
  split
  · exact cuts_refl _
  · exact cuts_bind (hchunk _) (fun _ => cuts_refl _) fun _ => hrest _

theorem takesLess_writeItem (idx : Nat) :
    TakesLess (writeItem env hdr idx) (writeItem env.repaired hdr idx) := by
  refine cuts_bind (cuts_exitIf _ fun _ h => nomatch h) (fun _ => ?_) fun _ =>
    appends_transfer _ hdr (appends_writeChunk _) idx
  have hgrows : Appends (transferRound env (-1 : Int) (writeChunk env.repaired) hdr idx) :=
    appends_transferRound env hdr (appends_writeChunk env.repaired) idx
  have hround : TakesLess (transferRound env (-1 : Int) (writeChunk env) hdr idx)
      (transferRound env (-1) (writeChunk env.repaired) hdr idx) :=
    takesLess_transferRound env hdr (takesLess_writeChunk env) idx
  exact cuts_bind (cuts_refl _) (fun _ => cuts_loop hround hgrows _) fun _ => grows_loop hgrows _

theorem takesLess_visitItems (fwName : CString) (k : Nat) : ∀ idx,
    TakesLess (visitItems env hdr fwName (writeItem env hdr) idx k)
      (visitItems env.repaired hdr fwName (writeItem env.repaired hdr) idx k) := by
  have hgrows := appends_writeItem env.repaired hdr
  induction k with
  | zero => exact fun _ => cuts_refl _
  | succ k ih =>
    refine fun idx => cuts_bind (cuts_bind (cuts_refl _) (fun _ => ?_) fun _ => ?_) (fun _ => ih _)
      fun _ => appends_visitItems env.repaired hdr hgrows k _
    · split
      · exact cuts_refl _
      · exact cuts_refl _
      · refine cuts_ite _ (cuts_bind (cuts_refl _) (fun _ => takesLess_writeItem env hdr idx) ?_)
          (cuts_refl _)
        exact fun _ => hgrows idx
    · split
      · exact grows_fault _
      · exact grows_pure _
      · exact grows_ite _ (grows_bind (grows_assert _ _) fun _ => hgrows idx) (grows_pure _)

end failures

end Update

end Rk3399
