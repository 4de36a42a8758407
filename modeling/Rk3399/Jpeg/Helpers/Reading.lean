import Rk3399.Common.Invariant
import Rk3399.Jpeg.Model.Container
/-!
# The bit reader on whole bytes

Between segments the reader stands at a byte. There it reads the bytes of
the stream one after another as long as it counts enough of them ahead,
and it passes one byte or, where `0xFF` is followed by the stuffed `0x00`,
two.
-/

namespace Rk3399

namespace Jpeg

open Prog

namespace StreamStorage

/-- The reader stands at a byte and counts `n` bytes ahead. -/
structure Ahead (n : Nat) (s : StreamStorage) : Prop where
  aligned : s.bitPosInByte = 0
  started : s.pStartOfStream ≤ s.pCurrPos
  position : s.readBits = 8 * (s.pCurrPos - s.pStartOfStream)
  enough : s.readBits + 8 * n ≤ u32 (8 * s.streamLength)

/-- `n` bytes on. -/
def skip (n : Nat) (s : StreamStorage) : StreamStorage :=
  { s with pCurrPos := s.pCurrPos + n, readBits := s.readBits + 8 * n }

variable {s : StreamStorage} {m n : Nat}

theorem skip_skip (m n : Nat) (s : StreamStorage) : (s.skip m).skip n = s.skip (m + n) := by
  simp only [skip, StreamStorage.mk.injEq, true_and, and_true]
  omega

theorem Ahead.mono (h : s.Ahead n) (hm : m ≤ n) : s.Ahead m :=
  ⟨h.aligned, h.started, h.position, by have := h.enough; omega⟩

theorem Ahead.skip (h : s.Ahead n) (hm : m ≤ n) : (s.skip m).Ahead (n - m) := by
  have hstarted := h.started
  have hposition := h.position
  have henough := h.enough
  refine ⟨h.aligned, ?_, ?_, ?_⟩
  · change s.pStartOfStream ≤ s.pCurrPos + m
    omega
  · change s.readBits + 8 * m = 8 * (s.pCurrPos + m - s.pStartOfStream)
    omega
  · change s.readBits + 8 * m + 8 * (n - m) ≤ u32 (8 * s.streamLength)
    omega

theorem Ahead.lt (h : s.Ahead n) : s.readBits + 8 * n < 2 ^ 32 :=
  Nat.lt_of_le_of_lt h.enough (u32_lt _)

theorem Ahead.not_short (h : s.Ahead n) {bits : Nat} (hbits : bits ≤ 8 * n) : ¬ s.Short bits := by
  have henough := h.enough
  have hlt := h.lt
  unfold Short
  rw [u32_of_lt (by omega : s.readBits + bits < 2 ^ 32)]
  omega

theorem Ahead.account (h : s.Ahead n) {bits : Nat} (hbits : bits ≤ 8 * n) :
    u32 (s.readBits + bits) = s.readBits + bits :=
  u32_of_lt (by have := h.lt; omega)

/-- The bytes ahead and the one behind them may be dereferenced. -/
theorem Ahead.inRange (h : s.Ahead n) {k : Nat} (hk : k ≤ n) : s.InRange (s.pCurrPos + k) := by
  have hstarted := h.started
  have hposition := h.position
  have henough := h.enough
  have hle : u32 (8 * s.streamLength) ≤ 8 * s.streamLength := Nat.mod_le _ _
  unfold InRange
  omega

end StreamStorage

open StreamStorage

/-! ## Reading -/

section reading

variable {ρ : Type} {mem : Nat → UInt8} {s : StreamStorage} {N : Nat → StreamStorage → Prop}
  {X : ρ → StreamStorage → Prop} {F : Fault → StreamStorage → Prop}

theorem wp_deref {k : Nat} (h : s.InRange (s.pCurrPos + k)) :
    wp (deref mem k) N X F s ↔ N (mem (s.pCurrPos + k)).toNat s := by
  unfold wp deref
  rw [if_pos h]

/-- The byte at the position. -/
theorem wp_jpegDecGetByte (h : s.Ahead 1) :
    wp (jpegDecGetByte mem) N X F s ↔ N (mem s.pCurrPos).toNat (s.skip 1) := by
  have hb0 := (mem s.pCurrPos).toNat_lt
  have hb1 := (mem (s.pCurrPos + 1)).toNat_lt
  have hvalue : ((mem s.pCurrPos).toNat * 2 ^ 8 + (mem (s.pCurrPos + 1)).toNat) /
      2 ^ (8 - s.bitPosInByte) % 2 ^ 8 = (mem s.pCurrPos).toNat := by
    rw [h.aligned]
    omega
  have hskip : (s.advance 1).account 8 = s.skip 1 := by
    simp only [advance, account, skip, StreamStorage.mk.injEq, true_and, and_true]
    exact h.account (Nat.le_refl 8)
  unfold jpegDecGetByte
  rw [wp_bind, wp_gets, wp_ite, if_neg (by simpa using h.not_short (Nat.le_refl _))]
  rw [wp_bind, wp_deref (h.inRange (Nat.zero_le 1)), wp_bind, wp_modify]
  rw [wp_bind, wp_deref (s := s.advance 1) (k := 0) (h.inRange (Nat.le_refl 1))]
  rw [wp_bind, wp_gets, wp_bind, wp_modify, wp_pure]
  rw [← hskip, ← hvalue]
  rfl

/-- The two bytes at an address, the first one high. -/
def bytesAt (mem : Nat → UInt8) (a : Nat) : Nat := (mem a).toNat * 256 + (mem (a + 1)).toNat

theorem bytesAt_lt (a : Nat) : bytesAt mem a < 2 ^ 16 := by
  have hb0 := (mem a).toNat_lt
  have hb1 := (mem (a + 1)).toNat_lt
  unfold bytesAt
  omega

theorem wp_jpegDecGet2Bytes (h : s.Ahead 2) :
    wp (jpegDecGet2Bytes mem) N X F s ↔ N (bytesAt mem s.pCurrPos) (s.skip 2) := by
  have hb0 := (mem s.pCurrPos).toNat_lt
  have hb1 := (mem (s.pCurrPos + 1)).toNat_lt
  have hb2 := (mem (s.pCurrPos + 2)).toNat_lt
  have hvalue : (((mem s.pCurrPos).toNat * 2 ^ 8 + (mem (s.pCurrPos + 1)).toNat) * 2 ^ 8 +
      (mem (s.pCurrPos + 2)).toNat) / 2 ^ (8 - s.bitPosInByte) % 2 ^ 16 =
      bytesAt mem s.pCurrPos := by
    unfold bytesAt
    rw [h.aligned]
    omega
  have hskip : ((s.advance 1).advance 1).account 16 = s.skip 2 := by
    simp only [advance, account, skip, StreamStorage.mk.injEq, true_and, and_true]
    exact h.account (Nat.le_refl 16)
  unfold jpegDecGet2Bytes
  rw [wp_bind, wp_gets, wp_ite, if_neg (by simpa using h.not_short (Nat.le_refl _))]
  rw [wp_bind, wp_deref (h.inRange (Nat.zero_le 2)), wp_bind, wp_modify]
  rw [wp_bind, wp_deref (s := s.advance 1) (k := 0) (h.inRange (by decide : 1 ≤ 2))]
  rw [wp_bind, wp_modify]
  rw [wp_bind, wp_deref (s := (s.advance 1).advance 1) (k := 0) (h.inRange (Nat.le_refl 2))]
  rw [wp_bind, wp_gets, wp_bind, wp_modify, wp_pure]
  rw [← hskip, ← hvalue]
  rfl

end reading

/-! ## Invariants of the readers -/

/-- A fault of the readers. -/
def IsStream (e : Fault) : Prop := ∃ a, e = .stream a

/-- Going on in the stream keeps `I`. -/
structure Forward (I : StreamStorage → Prop) : Prop where
  advance : ∀ n s, I s → I (s.advance n)
  account : ∀ n s, I s → I (s.account n)
  bits : ∀ n s, I s → I { s with bitPosInByte := n }
  note : ∀ L n s, I s → I (s.note L n)

theorem forward_true : Forward fun _ => True :=
  ⟨fun _ _ _ => trivial, fun _ _ _ => trivial, fun _ _ _ => trivial, fun _ _ _ _ => trivial⟩

section forward

variable {ρ : Type} (mem : Nat → UInt8) {I : StreamStorage → Prop}

/-- `x` keeps `I`, and its faults are those of the readers. -/
abbrev KeepsForward {α : Type} (I : StreamStorage → Prop) (x : Prog Fault ρ StreamStorage α) :
    Prop :=
  Keeps (fun e _ => IsStream e) I I x

theorem keeps_deref (k : Nat) :
    KeepsForward I (deref mem k : Prog Fault ρ StreamStorage Nat) := by
  refine ⟨fun s hs => ?_⟩
  unfold wp deref
  by_cases h : s.InRange (s.pCurrPos + k)
  · simpa [h] using hs
  · simpa [h] using ⟨_, rfl⟩

variable (hI : Forward I)

include hI

theorem keeps_jpegDecGetByte :
    KeepsForward I (jpegDecGetByte mem : Prog Fault ρ StreamStorage Nat) := by
  refine keeps_bind (keeps_gets _) fun short => keeps_ite _ (keeps_pure _) ?_
  refine keeps_bind (keeps_deref mem 0) fun b0 => ?_
  refine keeps_bind (keeps_modify fun s => hI.advance 1 s) fun _ => ?_
  refine keeps_bind (keeps_deref mem 0) fun b1 => ?_
  refine keeps_bind (keeps_gets _) fun bitPos => ?_
  exact keeps_bind (keeps_modify fun s => hI.account 8 s) fun _ => keeps_pure _

theorem keeps_jpegDecGet2Bytes :
    KeepsForward I (jpegDecGet2Bytes mem : Prog Fault ρ StreamStorage Nat) := by
  refine keeps_bind (keeps_gets _) fun short => keeps_ite _ (keeps_pure _) ?_
  refine keeps_bind (keeps_deref mem 0) fun b0 => ?_
  refine keeps_bind (keeps_modify fun s => hI.advance 1 s) fun _ => ?_
  refine keeps_bind (keeps_deref mem 0) fun b1 => ?_
  refine keeps_bind (keeps_modify fun s => hI.advance 1 s) fun _ => ?_
  refine keeps_bind (keeps_deref mem 0) fun b2 => ?_
  refine keeps_bind (keeps_gets _) fun bitPos => ?_
  exact keeps_bind (keeps_modify fun s => hI.account 16 s) fun _ => keeps_pure _

theorem keeps_getBytes (n : Nat) :
    KeepsForward I (getBytes mem n : Prog Fault ρ StreamStorage (List Nat)) := by
  induction n with
  | zero => exact keeps_pure _
  | succ n ih =>
    exact keeps_bind (keeps_jpegDecGetByte mem hI) fun b => keeps_bind ih fun bs => keeps_pure _

theorem keeps_flushStuffed :
    KeepsForward I (flushStuffed mem : Prog Fault ρ StreamStorage Nat) := by
  have one : ∀ n m, KeepsForward I (do
      modify (StreamStorage.advance n)
      return m : Prog Fault ρ StreamStorage Nat) :=
    fun n m => keeps_bind (keeps_modify fun s => hI.advance n s) fun _ => keeps_pure _
  refine keeps_bind (keeps_deref mem 0) fun b0 => keeps_ite _ ?_ (one 1 0)
  exact keeps_bind (keeps_deref mem 1) (fun b1 => keeps_ite _ (one 2 8) (one 1 0))

theorem keeps_flushBytes (n : Nat) : ∀ extraBits,
    KeepsForward I (flushBytes mem n extraBits : Prog Fault ρ StreamStorage Nat) := by
  induction n with
  | zero => exact fun _ => keeps_pure _
  | succ n ih =>
    intro extraBits
    rw [flushBytes]
    refine keeps_bind (keeps_gets _) fun appn => keeps_ite _ ?_ ?_
    · exact keeps_bind (keeps_modify fun s => hI.advance 1 s) (fun _ => ih _)
    · exact keeps_bind (keeps_flushStuffed mem hI) (fun e => ih _)

theorem keeps_flushRest (rest extraBits : Nat) :
    KeepsForward I (flushRest mem rest extraBits : Prog Fault ρ StreamStorage Nat) := by
  refine keeps_ite _ (keeps_pure _) ?_
  refine keeps_bind (keeps_gets _) (fun inside => keeps_ite _ ?_ ?_)
  · exact keeps_bind (keeps_modify fun s => hI.bits _ s) (fun _ => keeps_pure _)
  · refine keeps_bind (keeps_flushStuffed mem hI) (fun e => ?_)
    exact keeps_bind (keeps_modify fun s => hI.bits _ s) fun _ => keeps_pure _

/-- A flush keeps `I` where it does not stop at the end of the stream. -/
theorem wp_jpegDecFlushBits_forward (bits : Nat) {s : StreamStorage} (hs : I s) :
    wp (jpegDecFlushBits mem bits : Prog Fault ρ StreamStorage Nat)
      (fun flushed s' => flushed ≠ strmErrorWord → I s') (fun _ => I)
        (fun e _ => IsStream e) s := by
  unfold jpegDecFlushBits
  rw [wp_bind, wp_gets, wp_ite]
  split
  · exact fun h => absurd rfl h
  · have hrest : KeepsForward I (do
        let extraBits ← flushBytes mem (bits / 8) 0
        let extraBits ← flushRest mem (bits % 8) extraBits
        modify (StreamStorage.account (bits + extraBits))
        return 0 : Prog Fault ρ StreamStorage Nat) := by
      refine keeps_bind (keeps_flushBytes mem hI _ _) fun extraBits => ?_
      refine keeps_bind (keeps_flushRest mem hI _ _) fun extraBits => ?_
      exact keeps_bind (keeps_modify fun s => hI.account _ s) fun _ => keeps_pure _
    exact wp_mono (hrest.run s hs) (fun _ _ h _ => h) (fun _ _ h => h) (fun _ _ h => h)

theorem wp_flushSegment_forward (L n : Nat) {s : StreamStorage} (hs : I s) :
    wp (flushSegment mem L n : Prog Fault ρ StreamStorage Nat)
      (fun flushed s' => flushed ≠ strmErrorWord → I s') (fun _ => I)
        (fun e _ => IsStream e) s := by
  refine wp_seq (M := fun _ => I) ?_ fun _ s' hs' => wp_jpegDecFlushBits_forward mem hI _ hs'
  rw [wp_modify]
  split
  · exact hs
  · exact hI.note L n s hs

end forward

end Jpeg

end Rk3399
