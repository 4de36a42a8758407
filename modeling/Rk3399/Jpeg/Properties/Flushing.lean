import Mathlib.Logic.Function.Iterate
import Rk3399.Jpeg.Model.Stream
/-!
# Passing bits of stuffed data

`JpegDecFlushBits` moves along the data bytes of a stream, which are all of
its bytes but the zeroes behind an `0xFF`. Where it goes on it reaches the bit
as many bits on among these, and accounts for the bytes it left out, so that
passing bits in two steps and in one comes to the same.
-/

namespace Rk3399

namespace Jpeg

open Prog

section

variable {ρ : Type} {mem : Nat → UInt8} {s t : StreamStorage}

/-! ## Data bytes -/

/-- A zero behind an `0xFF`, in a stream that is read from `pos` on. -/
def Stuffing (mem : Nat → UInt8) (pos k : Nat) : Prop :=
  pos < k ∧ (mem (k - 1)).toNat = 0xFF ∧ (mem k).toNat = 0x00

instance (mem : Nat → UInt8) (pos k : Nat) : Decidable (Stuffing mem pos k) :=
  inferInstanceAs (Decidable (_ ∧ _))

/-- How many of the bytes from `pos` to `pos'` are data. -/
def dataBytes (mem : Nat → UInt8) (pos pos' : Nat) : Nat :=
  (List.range' pos (pos' - pos)).countP fun k => ¬ Stuffing mem pos k

/-- The data byte behind the one at `k`. -/
def leave (mem : Nat → UInt8) (k : Nat) : Nat :=
  if (mem k).toNat = 0xFF ∧ (mem (k + 1)).toNat = 0x00 then k + 2 else k + 1

theorem lt_leave (mem : Nat → UInt8) (k : Nat) : k < leave mem k := by
  unfold leave
  split <;> omega

theorem le_leave_iterate (mem : Nat → UInt8) (n k : Nat) : k + n ≤ (leave mem)^[n] k := by
  induction n with
  | zero => exact Nat.le_refl _
  | succ n ih =>
    rw [Function.iterate_succ_apply']
    have := lt_leave mem ((leave mem)^[n] k)
    omega

/-- Behind a data byte comes a data byte, and the count goes up by one. -/
theorem dataBytes_leave {pos k : Nat} (hpos : pos ≤ k) (hk : ¬ Stuffing mem pos k) :
    ¬ Stuffing mem pos (leave mem k) ∧
      dataBytes mem pos (leave mem k) = dataBytes mem pos k + 1 := by
  have hsucc : List.range' pos (k + 1 - pos) = List.range' pos (k - pos) ++ [k] := by
    rw [show k + 1 - pos = k - pos + 1 by omega, List.range'_1_concat,
      show pos + (k - pos) = k by omega]
  have hcount : dataBytes mem pos (k + 1) = dataBytes mem pos k + 1 := by
    unfold dataBytes
    rw [hsucc, List.countP_append, List.countP_singleton, if_pos (by simpa using hk)]
  unfold leave
  by_cases h : (mem k).toNat = 0xFF ∧ (mem (k + 1)).toNat = 0x00
  · rw [if_pos h]
    have hstuffing : Stuffing mem pos (k + 1) := ⟨by omega, h⟩
    constructor
    · rintro ⟨-, hff, -⟩
      rw [show k + 2 - 1 = k + 1 by omega] at hff
      omega
    · rw [← hcount]
      unfold dataBytes
      rw [show k + 2 - pos = k + 1 - pos + 1 by omega, List.range'_1_concat,
        show pos + (k + 1 - pos) = k + 1 by omega, List.countP_append, List.countP_singleton,
        if_neg (by simpa using hstuffing), Nat.add_zero]
  · rw [if_neg h]
    refine ⟨?_, hcount⟩
    rintro ⟨-, hff, hzero⟩
    exact h ⟨hff, hzero⟩

theorem dataBytes_iterate (mem : Nat → UInt8) (pos n : Nat) :
    ¬ Stuffing mem pos ((leave mem)^[n] pos) ∧
      dataBytes mem pos ((leave mem)^[n] pos) = n := by
  induction n with
  | zero =>
    refine ⟨fun h => Nat.lt_irrefl _ h.1, ?_⟩
    unfold dataBytes
    rw [Function.iterate_zero_apply, Nat.sub_self]
    rfl
  | succ n ih =>
    rw [Function.iterate_succ_apply']
    have hle : pos ≤ (leave mem)^[n] pos := by
      have := le_leave_iterate mem n pos
      omega
    obtain ⟨hnot, hcount⟩ := dataBytes_leave hle ih.1
    exact ⟨hnot, by rw [hcount, ih.2]⟩

/-! ## The rounds -/

theorem deref_next {k b : Nat}
    (h : deref mem k s = (.next b t : Outcome Fault ρ StreamStorage Nat)) :
    b = (mem (s.pCurrPos + k)).toNat ∧ t = s := by
  unfold deref at h
  split at h
  · cases h
    exact ⟨rfl, rfl⟩
  · cases h

theorem flushStuffed_next {e : Nat}
    (h : flushStuffed mem s = (.next e t : Outcome Fault ρ StreamStorage Nat)) :
    t = { s with pCurrPos := leave mem s.pCurrPos } ∧
      e + 8 * (s.pCurrPos + 1) = 8 * leave mem s.pCurrPos := by
  unfold flushStuffed at h
  obtain ⟨b0, s', h0, h⟩ := bind_eq_next h
  obtain ⟨rfl, rfl⟩ := deref_next h0
  unfold leave
  split at h
  · rename_i hff
    obtain ⟨b1, s'', h1, h⟩ := bind_eq_next h
    obtain ⟨rfl, rfl⟩ := deref_next h1
    split at h
    · rename_i hzero
      rw [if_pos ⟨hff, hzero⟩]
      cases h
      exact ⟨rfl, by omega⟩
    · rename_i hzero
      rw [if_neg fun hboth => hzero hboth.2]
      cases h
      exact ⟨rfl, by omega⟩
  · rename_i hff
    rw [if_neg fun hboth => hff hboth.1]
    cases h
    exact ⟨rfl, by omega⟩

/-- The rounds that pass whole bytes. -/
theorem flushBytes_next (n : Nat) : ∀ {e e' : Nat} {s : StreamStorage}, s.appnFlag = 0 →
    flushBytes mem n e s = (.next e' t : Outcome Fault ρ StreamStorage Nat) →
      t = { s with pCurrPos := (leave mem)^[n] s.pCurrPos } ∧
        e' + 8 * (s.pCurrPos + n) = e + 8 * t.pCurrPos := by
  induction n with
  | zero =>
    intro e e' s _ h
    cases h
    exact ⟨rfl, rfl⟩
  | succ n ih =>
    intro e e' s happn h
    unfold flushBytes at h
    rw [bind_next (show gets _ s = .next _ s from rfl), if_neg (by simpa using happn)] at h
    obtain ⟨x, s', hx, h⟩ := bind_eq_next h
    obtain ⟨rfl, hextra⟩ := flushStuffed_next hx
    obtain ⟨rfl, hsum⟩ := ih (by exact happn) h
    refine ⟨rfl, ?_⟩
    simp only at hsum ⊢
    omega

/-- The round for the bits that do not fill a byte. -/
theorem flushRest_next {rest e e' : Nat} (hrest : rest < 8) (hbit : s.bitPosInByte < 8)
    (h : flushRest mem rest e s = (.next e' t : Outcome Fault ρ StreamStorage Nat)) :
    t = { s with
        pCurrPos := (leave mem)^[(s.bitPosInByte + rest) / 8] s.pCurrPos,
        bitPosInByte := (s.bitPosInByte + rest) % 8 } ∧
      e' + 8 * (s.pCurrPos + (s.bitPosInByte + rest) / 8) = e + 8 * t.pCurrPos := by
  unfold flushRest at h
  split at h
  · rename_i hzero
    cases h
    rw [hzero, Nat.add_zero, Nat.div_eq_of_lt hbit, Nat.mod_eq_of_lt hbit]
    exact ⟨rfl, rfl⟩
  · rw [bind_next (show gets _ s = .next _ s from rfl)] at h
    by_cases hinside : rest < 8 - s.bitPosInByte
    · rw [if_pos (by simpa using hinside)] at h
      cases h
      rw [Nat.div_eq_of_lt (by omega), Nat.mod_eq_of_lt (by omega)]
      exact ⟨rfl, rfl⟩
    · rw [if_neg (by simpa using hinside)] at h
      obtain ⟨x, s', hx, h⟩ := bind_eq_next h
      obtain ⟨rfl, hextra⟩ := flushStuffed_next hx
      have hone : (s.bitPosInByte + rest) / 8 = 1 := by omega
      have hmod : (s.bitPosInByte + rest) % 8 = rest - (8 - s.bitPosInByte) := by omega
      cases h
      rw [hone, hmod]
      refine ⟨rfl, ?_⟩
      show e + x + 8 * (s.pCurrPos + 1) = e + 8 * leave mem s.pCurrPos
      omega

/-! ## Passing bits -/

/-- The state `bits` bits on. -/
def flushed (mem : Nat → UInt8) (bits : Nat) (s : StreamStorage) : StreamStorage :=
  let bytes := (s.bitPosInByte + bits) / 8
  let pos := (leave mem)^[bytes] s.pCurrPos
  { s with
    pCurrPos := pos
    bitPosInByte := (s.bitPosInByte + bits) % 8
    readBits := u32 (s.readBits + (bits + 8 * (pos - (s.pCurrPos + bytes)))) }

/-- **Passing bits that are there** leads to the state as many bits on. -/
theorem jpegDecFlushBits_next {bits : Nat} (happn : s.appnFlag = 0) (hbit : s.bitPosInByte < 8)
    (h : jpegDecFlushBits mem bits s = (.next 0 t : Outcome Fault ρ StreamStorage Nat)) :
    t = flushed mem bits s := by
  unfold jpegDecFlushBits at h
  rw [bind_next (show gets _ s = .next _ s from rfl)] at h
  split at h
  · rw [bind_next (show modify _ s = .next () _ from rfl)] at h
    cases h
  · obtain ⟨e, s₁, h₁, h⟩ := bind_eq_next h
    obtain ⟨rfl, hsum₁⟩ := flushBytes_next _ happn h₁
    obtain ⟨e', s₂, h₂, h⟩ := bind_eq_next h
    obtain ⟨rfl, hsum₂⟩ := flushRest_next (Nat.mod_lt _ (by decide)) (by exact hbit) h₂
    have hbytes : (s.bitPosInByte + bits) / 8 =
        (s.bitPosInByte + bits % 8) / 8 + bits / 8 := by omega
    have hmod : (s.bitPosInByte + bits) % 8 = (s.bitPosInByte + bits % 8) % 8 := by omega
    have hle := le_leave_iterate mem ((s.bitPosInByte + bits) / 8) s.pCurrPos
    unfold flushed
    simp only at hsum₁ hsum₂
    rw [← Function.iterate_add_apply, ← hbytes] at hsum₂
    have hextra : 8 * ((leave mem)^[(s.bitPosInByte + bits) / 8] s.pCurrPos -
        (s.pCurrPos + (s.bitPosInByte + bits) / 8)) = e' := by
      omega
    cases h
    simp only [StreamStorage.account, ← Function.iterate_add_apply, ← hbytes, hextra, hmod]

/-- **Passing bits in two steps and in one is the same.** -/
theorem flushed_flushed (mem : Nat → UInt8) (a b : Nat) (s : StreamStorage) :
    flushed mem b (flushed mem a s) = flushed mem (a + b) s := by
  have hbytes : ((s.bitPosInByte + a) % 8 + b) / 8 + (s.bitPosInByte + a) / 8 =
      (s.bitPosInByte + (a + b)) / 8 := by omega
  have hmod : ((s.bitPosInByte + a) % 8 + b) % 8 = (s.bitPosInByte + (a + b)) % 8 := by omega
  have hle := le_leave_iterate mem ((s.bitPosInByte + a) / 8) s.pCurrPos
  have hle' := le_leave_iterate mem (((s.bitPosInByte + a) % 8 + b) / 8)
    ((leave mem)^[(s.bitPosInByte + a) / 8] s.pCurrPos)
  unfold flushed
  simp only [hmod]
  rw [← Function.iterate_add_apply, hbytes] at hle' ⊢
  congr 1
  unfold u32
  rw [Nat.mod_add_mod]
  congr 1
  omega

/-! ## The law -/

/-- The bits read are those up to the position. -/
def Tracks (s : StreamStorage) : Prop :=
  8 * s.pStartOfStream + s.readBits = 8 * s.pCurrPos + s.bitPosInByte

/-- The state is `bits` bits of data on from another. -/
structure Reached (mem : Nat → UInt8) (s : StreamStorage) (bits : Nat) (t : StreamStorage) :
    Prop where
  le : s.pCurrPos ≤ t.pCurrPos
  data : ¬ Stuffing mem s.pCurrPos t.pCurrPos
  bit_lt : t.bitPosInByte < 8
  bits_eq : 8 * dataBytes mem s.pCurrPos t.pCurrPos + t.bitPosInByte = s.bitPosInByte + bits

theorem reached_flushed (mem : Nat → UInt8) (bits : Nat) (s : StreamStorage) :
    Reached mem s bits (flushed mem bits s) := by
  obtain ⟨hdata, hcount⟩ := dataBytes_iterate mem s.pCurrPos ((s.bitPosInByte + bits) / 8)
  have hle := le_leave_iterate mem ((s.bitPosInByte + bits) / 8) s.pCurrPos
  refine ⟨?_, hdata, Nat.mod_lt _ (by decide), ?_⟩
  · show s.pCurrPos ≤ (leave mem)^[(s.bitPosInByte + bits) / 8] s.pCurrPos
    omega
  · show 8 * dataBytes mem s.pCurrPos ((leave mem)^[(s.bitPosInByte + bits) / 8] s.pCurrPos) +
      (s.bitPosInByte + bits) % 8 = s.bitPosInByte + bits
    rw [hcount]
    omega

/-- The bits read stay those up to the position, where these can be counted. -/
theorem tracks_flushed {bits : Nat} (htracks : Tracks s)
    (hcount : 8 * ((flushed mem bits s).pCurrPos - s.pStartOfStream) +
      (flushed mem bits s).bitPosInByte < 2 ^ 32) : Tracks (flushed mem bits s) := by
  have hle := le_leave_iterate mem ((s.bitPosInByte + bits) / 8) s.pCurrPos
  unfold Tracks flushed at *
  simp only at hcount ⊢
  rw [u32_of_lt (by omega)]
  omega

/-- **Passing bits is additive**, along the data bytes of the stream. -/
theorem jpegDecFlushBits_add {s₁ s₂ : StreamStorage} {a b : Nat} (happn : s.appnFlag = 0)
    (hbit : s.bitPosInByte < 8) (htracks : Tracks s)
    (ha : jpegDecFlushBits mem a s = (.next 0 s₁ : Outcome Fault ρ StreamStorage Nat))
    (hb : jpegDecFlushBits mem b s₁ = (.next 0 s₂ : Outcome Fault ρ StreamStorage Nat))
    (hab : jpegDecFlushBits mem (a + b) s = (.next 0 t : Outcome Fault ρ StreamStorage Nat))
    (hcount : 8 * (t.pCurrPos - t.pStartOfStream) + t.bitPosInByte < 2 ^ 32) :
    (s₂.pCurrPos = t.pCurrPos ∧ s₂.bitPosInByte = t.bitPosInByte ∧ s₂.readBits = t.readBits) ∧
      Reached mem s (a + b) t ∧ Tracks t := by
  have h₁ : s₁ = flushed mem a s := jpegDecFlushBits_next happn hbit ha
  have hbit₁ : s₁.bitPosInByte < 8 := h₁ ▸ (reached_flushed mem a s).bit_lt
  have h₂ : s₂ = flushed mem b s₁ := jpegDecFlushBits_next (h₁ ▸ happn) hbit₁ hb
  have ht : t = flushed mem (a + b) s := jpegDecFlushBits_next happn hbit hab
  have hsame : s₂ = t := by rw [h₂, h₁, ht, flushed_flushed]
  subst hsame
  refine ⟨⟨rfl, rfl, rfl⟩, ?_, ?_⟩
  · rw [ht]
    exact reached_flushed mem (a + b) s
  · rw [ht] at hcount ⊢
    exact tracks_flushed htracks hcount

/-- Twelve bits behind four, over a stuffed zero. -/
theorem jpegDecFlushBits_add_stuffed :
    (flushed (fun k => [0xFF, 0x00, 0x12, 0x34].getD k 0) 16 { streamLength := 4 }).pCurrPos = 3 ∧
      Reached (fun k => [0xFF, 0x00, 0x12, 0x34].getD k 0) { streamLength := 4 } (4 + 12)
        (flushed (fun k => [0xFF, 0x00, 0x12, 0x34].getD k 0) 16 { streamLength := 4 }) :=
  ⟨rfl, (jpegDecFlushBits_add (a := 4) (b := 12) (s := { streamLength := 4 }) rfl (by decide) rfl
    (show jpegDecFlushBits (fun k => [0xFF, 0x00, 0x12, 0x34].getD k 0) 4 { streamLength := 4 } =
      (.next 0 (flushed (fun k => [0xFF, 0x00, 0x12, 0x34].getD k 0) 4 { streamLength := 4 }) :
        Outcome Fault JpegDecRet StreamStorage Nat) from rfl)
    (show _ = Outcome.next 0
      (flushed (fun k => [0xFF, 0x00, 0x12, 0x34].getD k 0) 16 { streamLength := 4 }) from rfl)
    rfl (by decide)).2.1⟩

end

end Jpeg

end Rk3399
