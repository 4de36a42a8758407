import Mathlib.Algebra.Order.Ring.Int
import Mathlib.Tactic.Common
import Mathlib.Logic.Function.Basic
/-!
# Bit fields of a file of words

A field is a run of bits of one word of a register file. Reading and
writing a field are done with a mask and a shift, as C does it; the laws
say that they form a lens, that fields which do not overlap do not see
each other's writes, and that after a run of writes to such fields each
of them reads back the value written to it.
-/

namespace Rk3399

/-- A field: the word it lies in, its width and the position of its lowest
bit. -/
structure BitField where
  reg : Nat
  bits : Nat
  pos : Nat
  deriving DecidableEq, Repr

/-- A file of `w`-bit words. -/
abbrev WordFile (w : Nat) : Type := Nat → BitVec w

namespace BitField

variable {w : Nat}

/-- The word with the lowest `n` bits set. -/
def mask (w n : Nat) : BitVec w := BitVec.ofNat w (2 ^ n - 1)

/-- The word with the field replaced. -/
def put (f : BitField) (word value : BitVec w) : BitVec w :=
  (word &&& ~~~(mask w f.bits <<< f.pos)) ||| ((value &&& mask w f.bits) <<< f.pos)

/-- The value of the field. -/
def take (f : BitField) (word : BitVec w) : BitVec w := (word >>> f.pos) &&& mask w f.bits

/-- The file with the field replaced. -/
def set (f : BitField) (value : BitVec w) (file : WordFile w) : WordFile w :=
  Function.update file f.reg (f.put (file f.reg) value)

/-- The value of the field in the file. -/
def get (f : BitField) (file : WordFile w) : BitVec w := f.take (file f.reg)

/-- The field lies inside a word. -/
def Fits (w : Nat) (f : BitField) : Prop := f.pos + f.bits ≤ w

/-- The two fields share no bit. -/
def Disjoint (f g : BitField) : Prop :=
  f.reg ≠ g.reg ∨ f.pos + f.bits ≤ g.pos ∨ g.pos + g.bits ≤ f.pos

/-- The field has a bit of a word. -/
def HasBit (f : BitField) (reg i : Nat) : Prop := reg = f.reg ∧ f.pos ≤ i ∧ i < f.pos + f.bits

instance (f : BitField) : Decidable (f.Fits w) := inferInstanceAs (Decidable (_ ≤ _))

instance (f g : BitField) : Decidable (f.Disjoint g) := inferInstanceAs (Decidable (_ ∨ _))

theorem Disjoint.symm {f g : BitField} (h : f.Disjoint g) : g.Disjoint f := by
  unfold Disjoint at h ⊢
  omega

@[simp] theorem getLsbD_mask (n i : Nat) :
    (mask w n).getLsbD i = (decide (i < w) && decide (i < n)) := by
  simp [mask, BitVec.getLsbD_ofNat, Nat.testBit_two_pow_sub_one]

@[simp] theorem getLsbD_put (f : BitField) (word value : BitVec w) (i : Nat) :
    (f.put word value).getLsbD i =
      if i < w ∧ f.pos ≤ i ∧ i < f.pos + f.bits then value.getLsbD (i - f.pos)
      else word.getLsbD i := by
  simp only [put, BitVec.getLsbD_or, BitVec.getLsbD_and, BitVec.getLsbD_not,
    BitVec.getLsbD_shiftLeft, getLsbD_mask]
  by_cases hw : i < w
  · by_cases hp : f.pos ≤ i
    · have hlt : ¬ i < f.pos := by omega
      have hsub : (i - f.pos < f.bits) ↔ i < f.pos + f.bits := by omega
      have hsw : i - f.pos < w := by omega
      by_cases hb : i < f.pos + f.bits
      · simp [hw, hp, hlt, hsub, hb, hsw]
      · simp [hw, hp, hlt, hsub, hb, hsw]
    · have hlt : i < f.pos := by omega
      simp [hw, hp, hlt]
  · have hword : word.getLsbD i = false := BitVec.getLsbD_of_ge _ _ (by omega)
    simp [hw, hword]

@[simp] theorem getLsbD_take (f : BitField) (word : BitVec w) (i : Nat) :
    (f.take word).getLsbD i = (word.getLsbD (f.pos + i) && decide (i < f.bits)) := by
  simp only [take, BitVec.getLsbD_and, BitVec.getLsbD_ushiftRight, getLsbD_mask]
  by_cases hw : i < w
  · simp [hw]
  · have hword : word.getLsbD (f.pos + i) = false := BitVec.getLsbD_of_ge _ _ (by omega)
    simp [hw, hword]

/-- **A field reads back the low bits of what was written to it.** -/
theorem take_put (f : BitField) (hf : f.Fits w) (word value : BitVec w) :
    f.take (f.put word value) = value &&& mask w f.bits := by
  unfold Fits at hf
  apply BitVec.eq_of_getLsbD_eq
  intro i hi
  simp only [getLsbD_take, getLsbD_put, BitVec.getLsbD_and, getLsbD_mask]
  by_cases hb : i < f.bits
  · have hin : f.pos + i < w ∧ f.pos ≤ f.pos + i ∧ f.pos + i < f.pos + f.bits := by omega
    rw [if_pos hin, Nat.add_sub_cancel_left]
    simp [hb, hi]
  · simp [hb]

/-- **A write to one field is not seen by another.** -/
theorem take_put_of_disjoint {f g : BitField} (word value : BitVec w)
    (h : f.pos + f.bits ≤ g.pos ∨ g.pos + g.bits ≤ f.pos) :
    g.take (f.put word value) = g.take word := by
  apply BitVec.eq_of_getLsbD_eq
  intro i _
  simp only [getLsbD_take, getLsbD_put]
  by_cases hb : i < g.bits
  · have hout : ¬ (g.pos + i < w ∧ f.pos ≤ g.pos + i ∧ g.pos + i < f.pos + f.bits) := by omega
    rw [if_neg hout]
  · simp [hb]

theorem get_set (f : BitField) (hf : f.Fits w) (value : BitVec w) (file : WordFile w) :
    f.get (f.set value file) = value &&& mask w f.bits := by
  simp only [get, set, Function.update_self]
  exact f.take_put hf _ _

theorem get_set_of_disjoint {f g : BitField} (h : f.Disjoint g) (value : BitVec w)
    (file : WordFile w) : g.get (f.set value file) = g.get file := by
  unfold get set
  by_cases hr : g.reg = f.reg
  · rw [hr, Function.update_self]
    refine take_put_of_disjoint _ _ ?_
    rcases h with h | h
    · exact absurd hr.symm h
    · exact h
  · rw [Function.update_of_ne hr]

/-- **The second write to a field wins.** -/
theorem put_put (f : BitField) (word value value' : BitVec w) :
    f.put (f.put word value) value' = f.put word value' := by
  apply BitVec.eq_of_getLsbD_eq
  intro i _
  rw [getLsbD_put, getLsbD_put, getLsbD_put]
  by_cases h : i < w ∧ f.pos ≤ i ∧ i < f.pos + f.bits
  · rw [if_pos h, if_pos h]
  · rw [if_neg h, if_neg h, if_neg h]

/-- Writes to fields of a word that share no bit commute. -/
theorem put_comm {f g : BitField} (word value value' : BitVec w)
    (h : ∀ i, ¬ (f.HasBit f.reg i ∧ g.HasBit g.reg i)) :
    g.put (f.put word value) value' = f.put (g.put word value') value := by
  apply BitVec.eq_of_getLsbD_eq
  intro i _
  rw [getLsbD_put, getLsbD_put, getLsbD_put, getLsbD_put]
  by_cases hf : i < w ∧ f.pos ≤ i ∧ i < f.pos + f.bits
  · have hg : ¬ (i < w ∧ g.pos ≤ i ∧ i < g.pos + g.bits) := fun hg =>
      h i ⟨⟨rfl, hf.2⟩, ⟨rfl, hg.2⟩⟩
    rw [if_neg hg, if_pos hf, if_pos hf]
  · rw [if_neg hf, if_neg hf]

/-- **A write changes the bits of its field alone.** -/
theorem getLsbD_set_of_not_hasBit {f : BitField} {reg i : Nat} (h : ¬ f.HasBit reg i)
    (value : BitVec w) (file : WordFile w) :
    (f.set value file reg).getLsbD i = (file reg).getLsbD i := by
  unfold set
  by_cases hr : reg = f.reg
  · rw [hr, Function.update_self, getLsbD_put, if_neg]
    exact fun hin => h ⟨hr, hin.2⟩
  · rw [Function.update_of_ne hr]

theorem set_set (f : BitField) (value value' : BitVec w) (file : WordFile w) :
    f.set value' (f.set value file) = f.set value' file := by
  unfold set
  rw [Function.update_self, Function.update_idem, put_put]

/-- **Writes to fields that do not overlap commute.** -/
theorem set_comm {f g : BitField} (h : ∀ reg i, ¬ (f.HasBit reg i ∧ g.HasBit reg i))
    (value value' : BitVec w) (file : WordFile w) :
    g.set value' (f.set value file) = f.set value (g.set value' file) := by
  unfold set
  by_cases hr : f.reg = g.reg
  · have hapart : ∀ i, ¬ (f.HasBit f.reg i ∧ g.HasBit g.reg i) := fun i hi =>
      h f.reg i ⟨hi.1, hr ▸ hi.2⟩
    rw [hr, Function.update_self, Function.update_self, Function.update_idem,
      Function.update_idem, put_comm _ _ _ hapart]
  · rw [Function.update_of_ne (Ne.symm hr), Function.update_of_ne hr, Function.update_comm hr]

/-- A field that covers its word replaces it. -/
theorem set_whole (reg : Nat) (value : BitVec w) (file : WordFile w) :
    (⟨reg, w, 0⟩ : BitField).set value file reg = value := by
  rw [set, Function.update_self]
  apply BitVec.eq_of_getLsbD_eq
  intro i hi
  rw [getLsbD_put, if_pos ⟨hi, Nat.zero_le i, by simpa using hi⟩]
  rfl

/-- A value that fits the field is unchanged by the mask. -/
theorem toNat_and_mask (value : BitVec w) (n : Nat) (hn : n ≤ w) :
    (value &&& mask w n).toNat = value.toNat % 2 ^ n := by
  have hle : 2 ^ n ≤ 2 ^ w := Nat.pow_le_pow_right (by decide) hn
  have hpos : 0 < 2 ^ n := Nat.two_pow_pos n
  rw [BitVec.toNat_and, mask, BitVec.toNat_ofNat, Nat.mod_eq_of_lt (by omega),
    Nat.and_two_pow_sub_one_eq_mod]

/-- The value of a field that lies inside its word. -/
theorem toNat_take {f : BitField} (hf : f.Fits w) (word : BitVec w) :
    (f.take word).toNat = word.toNat / 2 ^ f.pos % 2 ^ f.bits := by
  have hbits : f.bits ≤ w := Nat.le_trans (Nat.le_add_left _ _) hf
  rw [take, toNat_and_mask _ _ hbits, BitVec.toNat_ushiftRight, Nat.shiftRight_eq_div_pow]

/-! ## Runs of writes -/

/-- The writes of a list, in order. -/
def writes (ws : List (BitField × BitVec w)) (file : WordFile w) : WordFile w :=
  ws.foldl (fun file p => p.1.set p.2 file) file

theorem writes_cons (p : BitField × BitVec w) (ws : List (BitField × BitVec w))
    (file : WordFile w) : writes (p :: ws) file = writes ws (p.1.set p.2 file) := rfl

theorem writes_append (ws ws' : List (BitField × BitVec w)) (file : WordFile w) :
    writes (ws ++ ws') file = writes ws' (writes ws file) := by
  simp [writes]

/-- A field that none of the writes touches keeps its value. -/
theorem get_writes_of_disjoint {g : BitField} (ws : List (BitField × BitVec w))
    (h : ∀ p ∈ ws, p.1.Disjoint g) (file : WordFile w) :
    g.get (writes ws file) = g.get file := by
  induction ws generalizing file with
  | nil => rfl
  | cons p ws ih =>
    rw [writes_cons, ih (fun q hq => h q (List.mem_cons_of_mem p hq)),
      get_set_of_disjoint (h p List.mem_cons_self)]

/-- **After writes to fields that do not overlap, each reads back its
value.** -/
theorem get_writes_of_mem {f : BitField} {value : BitVec w} {ws : List (BitField × BitVec w)}
    (hd : ws.Pairwise fun p q => p.1.Disjoint q.1) (hf : f.Fits w) (hmem : (f, value) ∈ ws)
    (file : WordFile w) : f.get (writes ws file) = value &&& mask w f.bits := by
  induction ws generalizing file with
  | nil => cases hmem
  | cons p ws ih =>
    rw [List.pairwise_cons] at hd
    rw [writes_cons]
    rcases List.mem_cons.mp hmem with rfl | hmem
    · rw [get_writes_of_disjoint ws (fun q hq => (hd.1 q hq).symm), get_set _ hf]
    · exact ih hd.2 hmem _

/-- What a word holds after the writes depends on that word alone. -/
theorem writes_reg_congr {ws : List (BitField × BitVec w)} {r : Nat} :
    ∀ {file file' : WordFile w}, file r = file' r → writes ws file r = writes ws file' r := by
  induction ws with
  | nil => exact fun h => h
  | cons p ws ih =>
    intro file file' h
    rw [writes_cons, writes_cons]
    refine ih ?_
    unfold set
    by_cases hr : r = p.1.reg
    · subst hr
      rw [Function.update_self, Function.update_self, h]
    · rw [Function.update_of_ne hr, Function.update_of_ne hr, h]

/-- What a field reads after writes to itself and to fields apart from it depends on
what it read before. -/
theorem get_writes_congr {f : BitField} (hf : f.Fits w) {ws : List (BitField × BitVec w)}
    (hws : ∀ p ∈ ws, p.1 = f ∨ p.1.Disjoint f) : ∀ {file file' : WordFile w},
    f.get file = f.get file' → f.get (writes ws file) = f.get (writes ws file') := by
  induction ws with
  | nil => exact fun h => h
  | cons p ws ih =>
    intro file file' h
    rw [writes_cons, writes_cons]
    refine ih (fun q hq => hws q (List.mem_cons_of_mem p hq)) ?_
    rcases hws p List.mem_cons_self with heq | hdisjoint
    · rw [heq, get_set f hf, get_set f hf]
    · rw [get_set_of_disjoint hdisjoint, get_set_of_disjoint hdisjoint, h]

/-- **Only the writes to its own fields count**: the others may be left out. -/
theorem get_writes_filter {f : BitField} (hf : f.Fits w) {F : List BitField} (hmem : f ∈ F)
    {ws : List (BitField × BitVec w)} (hws : ∀ p ∈ ws, p.1 = f ∨ p.1.Disjoint f) :
    ∀ file : WordFile w,
      f.get (writes ws file) = f.get (writes (ws.filter fun p => decide (p.1 ∈ F)) file) := by
  induction ws with
  | nil => exact fun _ => rfl
  | cons p ws ih =>
    intro file
    have hrest : ∀ q ∈ ws, q.1 = f ∨ q.1.Disjoint f :=
      fun q hq => hws q (List.mem_cons_of_mem p hq)
    by_cases hp : p.1 ∈ F
    · rw [List.filter_cons_of_pos (by simpa using hp), writes_cons, writes_cons, ih hrest]
    · have hdisjoint : p.1.Disjoint f := by
        rcases hws p List.mem_cons_self with heq | hdisjoint
        · exact absurd (heq ▸ hmem) hp
        · exact hdisjoint
      rw [List.filter_cons_of_neg (by simpa using hp), writes_cons, ih hrest]
      exact get_writes_congr hf (fun q hq => hrest q (List.mem_filter.mp hq).1)
        (get_set_of_disjoint hdisjoint _ _)

end BitField

end Rk3399
