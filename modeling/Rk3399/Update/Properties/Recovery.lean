import Rk3399.Update.Model.Recovery
/-!
# Whether recovery is armed exactly

`bootCommand` puts the newline one byte behind the NUL that ends the
command, so a command that fits the field is never followed by it. And it
opens the command file for writing before it knows that the other two open.
-/

namespace Rk3399

namespace Update

open Prog BootloaderMessage

/-! ## What is asked for -/

/-- The line of the argument fits in the field `recovery`. -/
def Fits (arg : CString) : Prop := recoveryStr.length + arg.chars.length + 1 ≤ sizeofRecovery

instance (arg : CString) : Decidable (Fits arg) := inferInstanceAs (Decidable (_ ≤ _))

/-- All three files open. -/
def BootEnv.AllOpen (env : BootEnv) : Prop :=
  env.commandOpens = true ∧ env.logOpens = true ∧ env.miscOpens = true

instance (env : BootEnv) : Decidable env.AllOpen := inferInstanceAs (Decidable (_ ∧ _))

/-- The message with the command in it, and zeroes elsewhere. -/
def armedMsg (arg : CString) : Nat → UInt8 :=
  poke recovery (recoveryStr ++ arg.chars ++ chars "\n")
    (poke command (chars "boot-recovery") fun _ => 0)

/-- **Recovery is armed exactly, or not at all**: a line that fits is written to the message
and to the command file; a longer one stays in the message; and where a file
cannot be opened the command file and the partition keep what they held. -/
structure ArmsExactly (env : BootEnv) (arg : CString) (before : Files)
    (o : Outcome MsgFault Unit Booting Unit) : Prop where
  armed : env.AllOpen → Fits arg → ∃ t, o = .next () t ∧
    block t.files.misc MISC_MSG_OFFSET size = block (armedMsg arg) 0 size ∧
      t.files.command = some (arg.chars ++ chars "\n")
  inside : env.AllOpen → ¬ Fits arg → ∃ t, o = .next () t ∧
    ∀ k, k < MISC_MSG_OFFSET ∨ MISC_MSG_OFFSET + size ≤ k → t.files.misc k = before.misc k
  kept : ¬ env.AllOpen → (∀ b, before.command = some b → o.state.files.command = some b) ∧
    o.state.files.misc = before.misc

/-- The line does not fit, where the files open; and where one of the other files does not,
the command file opens only if it held nothing. -/
def Harmless (env : BootEnv) (arg : CString) (before : Files) : Prop :=
  (env.AllOpen → ¬ Fits arg) ∧
    (¬ env.AllOpen → env.commandOpens = true → ∀ b, before.command = some b → b = [])

/-! ## The message -/

section

variable {env : BootEnv} {arg : CString} {before : Files} {junk : Nat → UInt8} {s : Booting}

theorem store_eq {pos : Nat} {bytes : List UInt8} (h : pos + bytes.length ≤ size) :
    store pos bytes s = .next () { s with msg := poke pos bytes s.msg } := by
  unfold store
  rw [bind_next (assert_of _ (by exact h))]
  rfl

theorem copied_le (arg : CString) : copied arg ≤ sizeofRecovery := by
  unfold copied
  split <;> omega

theorem length_take_copied (arg : CString) : (arg.chars.take (copied arg)).length = copied arg := by
  rw [List.length_take]
  unfold copied
  split <;> omega

/-- The message before the newline is stored. -/
def filledMsg (arg : CString) (junk : Nat → UInt8) : Nat → UInt8 :=
  poke (recovery + recoveryStr.length) (arg.chars.take (copied arg))
    (poke recovery (recoveryStr ++ [0])
      (poke command (chars "boot-recovery" ++ [0]) (poke 0 (List.replicate size 0) junk)))

/-- Behind the argument the message is zero. -/
theorem filledMsg_behind {k : Nat} (hk : recovery + recoveryStr.length + copied arg ≤ k)
    (hsize : k < size) : filledMsg arg junk k = 0 := by
  have hlen := length_take_copied arg
  have hrec : recovery = 64 ∧ recoveryStr.length = 9 ∧ command = 0 ∧
      (chars "boot-recovery" ++ [0]).length = 14 ∧ ([0] : List UInt8).length = 1 := by decide
  obtain ⟨h64, h9, h0, h14, h1⟩ := hrec
  unfold filledMsg
  rw [poke_outside (.inr (by omega)), poke_append]
  have hzero : poke 0 (List.replicate size 0) junk (0 + k) = 0 := by
    rw [poke_inside (by rw [List.length_replicate]; exact hsize), List.getElem_replicate]
  rw [Nat.zero_add] at hzero
  by_cases hk' : k = recovery + recoveryStr.length
  · rw [hk', poke_cons_self]
  · rw [poke_outside (.inr (by omega)), poke_outside (.inr (by omega)),
      poke_outside (.inr (by omega)), hzero]

/-- The string in the field: the argument behind its first line, and a NUL. -/
theorem block_filledMsg (arg : CString) (junk : Nat → UInt8) :
    ∃ rest, block (filledMsg arg junk) recovery (size - recovery) =
    (recoveryStr ++ arg.chars.take (copied arg)) ++ 0 :: rest := by
  have hlen := length_take_copied arg
  have hle := copied_le arg
  have hsizes : recovery = 64 ∧ recoveryStr.length = 9 ∧ size = 2048 ∧ sizeofRecovery = 768 := by
    decide
  obtain ⟨h64, h9, h2048, h768⟩ := hsizes
  obtain ⟨n, hn⟩ : ∃ n, size - recovery = recoveryStr.length + (copied arg + (n + 1)) :=
    ⟨size - recovery - recoveryStr.length - copied arg - 1, by omega⟩
  refine ⟨block (filledMsg arg junk) (recovery + recoveryStr.length + copied arg + 1) n, ?_⟩
  have hline : block (filledMsg arg junk) recovery recoveryStr.length = recoveryStr := by
    unfold filledMsg
    rw [block_poke_outside (.inl (Nat.le_refl _)), block_poke_append rfl]
  have harg : block (filledMsg arg junk) (recovery + recoveryStr.length) (copied arg) =
      arg.chars.take (copied arg) := block_poke hlen
  rw [hn, block_add, block_add, block_succ, filledMsg_behind (Nat.le_refl _) (by omega), hline,
    harg, List.append_assoc]

/-- **The newline is stored behind the NUL.** -/
theorem fillMsg_eq : fillMsg arg s = .next () { s with
    msg := poke (recovery + (recoveryStr.length + copied arg + 1)) (chars "\n")
      (filledMsg arg s.msg) } := by
  have hlen := length_take_copied arg
  have hle := copied_le arg
  have hsizes : recovery = 64 ∧ recoveryStr.length = 9 ∧ size = 2048 ∧ sizeofRecovery = 768 := by
    decide
  obtain ⟨h64, h9, h2048, h768⟩ := hsizes
  obtain ⟨rest, hblock⟩ := block_filledMsg arg s.msg
  have hnul : 0 ∉ recoveryStr ++ arg.chars.take (copied arg) := by
    intro h
    rcases List.mem_append.1 h with h | h
    · exact absurd h (by decide)
    · exact arg.nonzero 0 (List.mem_of_mem_take h) rfl
  have hstrlen := strlen_append rest hnul
  rw [← hblock, List.length_append, hlen] at hstrlen
  unfold fillMsg
  rw [bind_next (store_eq (by rw [List.length_replicate]; omega)), bind_next (store_eq (by decide)),
    bind_next (store_eq (by decide)),
    bind_next (show store _ _ _ = .next () { s with msg := filledMsg arg s.msg } from
      store_eq (by omega)),
    bind_next (show gets Booting.msg _ = .next (filledMsg arg s.msg) _ from rfl)]
  rw [hstrlen]
  exact store_eq (show recovery + (recoveryStr.length + copied arg + 1) + 1 ≤ size by omega)

/-! ## The files -/

theorem fopen_eq {opens : Bool} {truncate : Files → Files} (h : opens = true) :
    fopen opens truncate s = .next () { s with files := truncate s.files } := by
  unfold fopen
  rw [bind_next (exitIf_of_not _ (by rw [h]; decide))]
  rfl

/-- The call where all files open. -/
theorem bootCommand_allOpen (arg : CString) (before : Files) (junk : Nat → UInt8)
    (h : env.AllOpen) :
    ∃ t, bootCommand env (some arg) ⟨before, junk, false⟩ = .next () t ∧
      t.files.command = some (arg.chars ++ chars "\n") ∧
      t.files.misc = poke MISC_MSG_OFFSET (block
        (poke (recovery + (recoveryStr.length + copied arg + 1)) (chars "\n")
          (filledMsg arg junk)) 0 size) before.misc := by
  obtain ⟨hc, hl, hm⟩ := h
  show ∃ t, bootWith env arg ⟨before, junk, false⟩ = .next () t ∧ _
  unfold bootWith
  rw [bind_next (fopen_eq hc), bind_next (fopen_eq hl), bind_next (fopen_eq hm),
    bind_next (show modify _ _ = .next () _ from rfl), bind_next fillMsg_eq,
    bind_next (show modify _ _ = .next () _ from rfl),
    bind_next (show modify _ _ = .next () _ from rfl)]
  exact ⟨_, rfl, rfl, rfl⟩

/-- A file that cannot be opened: the call returns, and the command file is empty where it
was opened. -/
theorem bootCommand_closed (arg : CString) (before : Files) (junk : Nat → UInt8)
    (h : ¬ env.AllOpen) :
    ∃ t, bootCommand env (some arg) ⟨before, junk, false⟩ = .exit () t ∧
      t.files.command = (if env.commandOpens then some [] else before.command) ∧
      t.files.misc = before.misc := by
  obtain ⟨co, lo, mo⟩ := env
  cases co with
  | false => exact ⟨_, rfl, rfl, rfl⟩
  | true =>
    cases lo with
    | false => exact ⟨_, rfl, rfl, rfl⟩
    | true =>
      cases mo with
      | false => exact ⟨_, rfl, rfl, rfl⟩
      | true => exact absurd ⟨rfl, rfl, rfl⟩ h

/-- **A line that fits is not written as it should be**: the byte behind the argument is
zero. -/
theorem not_armsExactly_of_fits (h : env.AllOpen) (hfits : Fits arg) :
    ¬ ArmsExactly env arg before (bootCommand env (some arg) ⟨before, junk, false⟩) := by
  intro harms
  obtain ⟨t, ht, hmisc, -⟩ := harms.armed h hfits
  obtain ⟨t', ht', -, hmisc'⟩ := bootCommand_allOpen arg before junk h
  cases ht.symm.trans ht'
  have hsizes : recovery = 64 ∧ recoveryStr.length = 9 ∧ size = 2048 ∧ sizeofRecovery = 768 ∧
      (chars "\n").length = 1 := by decide
  obtain ⟨h64, h9, h2048, h768, h1⟩ := hsizes
  have hcopied : copied arg = arg.chars.length := by
    unfold copied
    unfold Fits at hfits
    rw [if_neg (by omega)]
  have hk : recovery + recoveryStr.length + arg.chars.length < size := by
    unfold Fits at hfits
    omega
  rw [hmisc', block_poke length_block] at hmisc
  have hbyte : ∀ {mem mem' : Nat → UInt8}, block mem 0 size = block mem' 0 size →
      mem (recovery + recoveryStr.length + arg.chars.length) =
        mem' (recovery + recoveryStr.length + arg.chars.length) := by
    intro mem mem' heq
    have := List.getElem_of_eq heq (i := recovery + recoveryStr.length + arg.chars.length)
      (by rw [length_block]; exact hk)
    rwa [getElem_block, getElem_block, Nat.zero_add] at this
  have hzero := hbyte hmisc
  rw [poke_outside (.inl (by omega)), filledMsg_behind (by omega) hk, armedMsg, poke_append,
    List.length_append, ← Nat.add_assoc] at hzero
  exact absurd (hzero.trans (poke_cons_self _)) (by decide)

/-- The command for a package fits where its name fits in the buffer it is put together in. -/
theorem fits_packageArg {updateFile : CString}
    (h : strUpdatePackage.length + updateFile.chars.length + 1 ≤ 512) :
    Fits (packageArg updateFile) := by
  have hsizes : recoveryStr.length = 9 ∧ sizeofRecovery = 768 := by decide
  obtain ⟨h9, h768⟩ := hsizes
  unfold Fits
  rw [show (packageArg updateFile).chars = strUpdatePackage ++ updateFile.chars from rfl,
    List.length_append]
  omega

/-- **No package is handed over exactly** where the files open. -/
theorem installPackage_not_exact (h : env.AllOpen) (updateFile : CString) :
    ¬ ArmsExactly env (packageArg updateFile) before
      (installPackage env updateFile ⟨before, junk, false⟩) := by
  unfold installPackage
  by_cases hlen : strUpdatePackage.length + updateFile.chars.length + 1 ≤ 512
  · rw [bind_next (assert_of _ (by exact hlen))]
    exact not_armsExactly_of_fits h (fits_packageArg hlen)
  · rw [bind_fault (assert_of_not _ (by exact hlen))]
    intro harms
    by_cases hfits : Fits (packageArg updateFile)
    · obtain ⟨t, ht, -⟩ := harms.armed h hfits
      cases ht
    · obtain ⟨t, ht, -⟩ := harms.inside h hfits
      cases ht

end

/-- **Arming recovery is exact just where it is harmless**: the line does not fit, where all
files open, and where one does not, the command file held nothing or does not open either. -/
theorem armsExactly_iff (env : BootEnv) (arg : CString) (before : Files) (junk : Nat → UInt8) :
    ArmsExactly env arg before (bootCommand env (some arg) ⟨before, junk, false⟩) ↔
      Harmless env arg before := by
  constructor
  · refine fun h => ⟨fun hall hfits => not_armsExactly_of_fits hall hfits h, ?_⟩
    intro hclosed hopens b hb
    obtain ⟨t, ht, hcommand, -⟩ := bootCommand_closed arg before junk hclosed
    have hkept := (h.kept hclosed).1 b hb
    rw [ht] at hkept
    rw [if_pos hopens] at hcommand
    exact (Option.some.inj (hcommand.symm.trans hkept)).symm
  · rintro ⟨hlong, hempty⟩
    refine ⟨fun hall hfits => absurd hfits (hlong hall), fun hall _ => ?_, fun hclosed => ?_⟩
    · obtain ⟨t, ht, -, hmisc⟩ := bootCommand_allOpen arg before junk hall
      refine ⟨t, ht, fun k hk => ?_⟩
      rw [hmisc, poke_outside (by rw [length_block]; exact hk)]
    · obtain ⟨t, ht, hcommand, hmisc⟩ := bootCommand_closed arg before junk hclosed
      rw [ht]
      refine ⟨fun b hb => ?_, hmisc⟩
      by_cases hopens : env.commandOpens = true
      · show t.files.command = some b
        rw [hcommand, if_pos hopens, hempty hclosed hopens b hb]
      · show t.files.command = some b
        rw [hcommand, if_neg hopens, hb]

/-- The command of a factory reset, `--wipe_all`. -/
def wipeAll : CString where
  chars := chars "--wipe_all"
  nonzero _ hc := ne_of_mem_of_not_mem hc (by decide)

/-- **A factory reset** is not handed over as it should be. -/
theorem not_armsExactly_wipeAll :
    ¬ ∀ env arg before junk,
      ArmsExactly env arg before (bootCommand env (some arg) ⟨before, junk, false⟩) := by
  intro hall
  exact not_armsExactly_of_fits (show BootEnv.AllOpen ⟨true, true, true⟩ from ⟨rfl, rfl, rfl⟩)
    (show Fits wipeAll by decide) (hall _ wipeAll ⟨none, none, fun _ => 0⟩ fun _ => 0)

end Update

end Rk3399
