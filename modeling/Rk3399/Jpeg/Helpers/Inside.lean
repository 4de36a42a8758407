import Rk3399.Jpeg.Helpers.Reading
/-!
# Inside the stream

The readers count the bits they pass, and stop where the count reaches the end
of the stream. They stay inside it as long as the count is not behind the
position: stuffing bits and the last bit of a round only put it ahead. It
falls behind where the rest of a segment is computed from a length that is
less than what was read of the segment, or from one that could not be read.
-/

namespace Rk3399

namespace Jpeg

open Prog

namespace StreamStorage

/-- **A segment gave a wrong length**: less than what was read of it, or none at all, as the
reader has stopped before it. -/
def Misled (s : StreamStorage) : Prop := ∃ p ∈ s.passed, p.1 < p.2 ∨ 2 ^ 19 ≤ p.1

/-- **The count is not behind the position**, and at most `k` bits behind the end. -/
structure Inside (k : Nat) (s : StreamStorage) : Prop where
  aligned : s.bitPosInByte = 0
  started : s.pStartOfStream ≤ s.pCurrPos
  position : 8 * (s.pCurrPos - s.pStartOfStream) ≤ s.readBits
  bound : s.readBits ≤ 8 * s.streamLength + k
  small : s.streamLength < 2 ^ 28

/-- The reader is inside the stream, unless a segment gave a wrong length. -/
def Confined (k : Nat) (s : StreamStorage) : Prop := s.Misled ∨ s.Inside k

variable {s : StreamStorage} {k l bits : Nat}

theorem Inside.mono (h : s.Inside k) (hkl : k ≤ l) : s.Inside l where
  aligned := h.aligned
  started := h.started
  position := h.position
  bound := by have := h.bound; omega
  small := h.small

theorem Confined.mono (h : s.Confined k) (hkl : k ≤ l) : s.Confined l :=
  h.imp id fun hin => hin.mono hkl

/-- The flags of the reader are not part of it. -/
theorem Confined.flags (h : s.Confined k) (appn thumb : Nat) :
    ({ s with appnFlag := appn, thumbnail := thumb } : StreamStorage).Confined k :=
  h.imp id fun hin => ⟨hin.aligned, hin.started, hin.position, hin.bound, hin.small⟩

/-- The count is inside the stream where it does not stop. -/
theorem Inside.enough (h : s.Inside k) (hk : k ≤ 2 ^ 20) (hbits : bits ≤ 2 ^ 20)
    (hshort : ¬ s.Short bits) : s.readBits + bits ≤ 8 * s.streamLength := by
  have hbound := h.bound
  have hsmall := h.small
  unfold Short at hshort
  rw [u32_of_lt (by omega), u32_of_lt (by omega)] at hshort
  omega

/-- The bytes that are counted and the one behind them may be read. -/
theorem Inside.inRange (h : s.Inside k) {n : Nat}
    (henough : s.readBits + 8 * n ≤ 8 * s.streamLength) : s.InRange (s.pCurrPos + n) := by
  have hstarted := h.started
  have hposition := h.position
  unfold InRange
  omega

/-- **A reader goes on from `s` to `t`**: it is still inside the stream, and the count does not
go back, other than from behind the end to the end. -/
structure Passes (k : Nat) (s t : StreamStorage) : Prop where
  inside : t.Inside k
  flag : t.appnFlag = s.appnFlag
  length : t.streamLength = s.streamLength
  forward : min s.readBits (8 * s.streamLength) ≤ t.readBits

theorem Passes.mono {t : StreamStorage} (h : Passes k s t) (hkl : k ≤ l) : Passes l s t :=
  ⟨h.inside.mono hkl, h.flag, h.length, h.forward⟩

/-- The reader stays where it is. -/
theorem Inside.passes (h : s.Inside k) : Passes k s s := ⟨h, rfl, rfl, Nat.min_le_left _ _⟩

/-- A step of `n` bytes that counts `bits` for them. -/
theorem Inside.step (h : s.Inside k) {n : Nat} (hn : 8 * n ≤ bits)
    (hle : s.readBits + bits ≤ 8 * s.streamLength + l) (hl : l ≤ 2 ^ 20) :
    Passes l s ((s.advance n).account bits) := by
  have hstarted := h.started
  have hposition := h.position
  have hsmall := h.small
  have hcount : u32 (s.readBits + bits) = s.readBits + bits := u32_of_lt (by omega)
  refine ⟨⟨h.aligned, ?_, ?_, ?_, h.small⟩, rfl, rfl, ?_⟩
  · show s.pStartOfStream ≤ s.pCurrPos + n
    omega
  · show 8 * (s.pCurrPos + n - s.pStartOfStream) ≤ u32 (s.readBits + bits)
    omega
  · show u32 (s.readBits + bits) ≤ 8 * s.streamLength + l
    omega
  · show min s.readBits (8 * s.streamLength) ≤ u32 (s.readBits + bits)
    omega

end StreamStorage

open StreamStorage

section readers

variable {ρ : Type} (mem : Nat → UInt8) {s : StreamStorage} {k : Nat}
  {X : ρ → StreamStorage → Prop} {F : Fault → StreamStorage → Prop}

/-- **The byte that is read, or the end.** -/
theorem wp_getByte_inside (h : s.Inside k) (hk : k ≤ 2 ^ 20) :
    wp (jpegDecGetByte mem)
      (fun v t => v = strmErrorWord ∧ t = s ∨ v < 2 ^ 8 ∧ Passes 0 s t) X F s := by
  unfold jpegDecGetByte
  rw [wp_bind, wp_gets, wp_ite]
  split
  · exact Or.inl ⟨rfl, rfl⟩
  · rename_i hshort
    have henough : s.readBits + 8 * 1 ≤ 8 * s.streamLength :=
      h.enough hk (by omega) (by simpa using hshort)
    rw [wp_bind, wp_deref (h.inRange (n := 0) (by omega)), wp_bind, wp_modify]
    rw [wp_bind, wp_deref (s := s.advance 1) (k := 0) (h.inRange henough)]
    rw [wp_bind, wp_gets, wp_bind, wp_modify, wp_pure]
    exact Or.inr ⟨Nat.mod_lt _ (by decide), h.step (Nat.le_refl _) henough (by omega)⟩

/-- The two bytes that are read, or the end. -/
theorem wp_get2Bytes_inside (h : s.Inside k) (hk : k ≤ 2 ^ 20) :
    wp (jpegDecGet2Bytes mem)
      (fun v t => v = strmErrorWord ∧ t = s ∨ v < 2 ^ 16 ∧ Passes 0 s t) X F s := by
  unfold jpegDecGet2Bytes
  rw [wp_bind, wp_gets, wp_ite]
  split
  · exact Or.inl ⟨rfl, rfl⟩
  · rename_i hshort
    have henough : s.readBits + 8 * 2 ≤ 8 * s.streamLength :=
      h.enough hk (by omega) (by simpa using hshort)
    rw [wp_bind, wp_deref (h.inRange (n := 0) (by omega)), wp_bind, wp_modify]
    rw [wp_bind, wp_deref (s := s.advance 1) (k := 0) (h.inRange (n := 1) (by omega)), wp_bind,
      wp_modify]
    rw [wp_bind, wp_deref (s := (s.advance 1).advance 1) (k := 0) (h.inRange henough)]
    rw [wp_bind, wp_gets, wp_bind, wp_modify, wp_pure]
    have hstep : Passes 0 s ((s.advance 2).account 16) := h.step (Nat.le_refl 16) henough (by omega)
    exact Or.inr ⟨Nat.mod_lt _ (by decide), hstep⟩

/-- With the test for stuffing switched off, bytes are passed unread. -/
theorem wp_flushBytes_appn (happn : s.appnFlag ≠ 0) (n e : Nat) {N : Nat → StreamStorage → Prop} :
    wp (flushBytes mem n e) N X F s ↔ N e (s.advance n) := by
  induction n generalizing s with
  | zero => exact Iff.rfl
  | succ n ih =>
    unfold flushBytes
    rw [wp_bind, wp_gets, wp_ite, if_pos (by simpa using happn), wp_bind, wp_modify]
    rw [ih (s := s.advance 1) happn]
    unfold advance
    rw [show s.pCurrPos + 1 + n = s.pCurrPos + (n + 1) by omega]

/-- The end of the stream, where a flush stops. -/
theorem passes_end (h : s.Inside k) :
    Passes 0 s { s with
        readBits := u32 (8 * s.streamLength)
        bitPosInByte := 0
        pCurrPos := s.pStartOfStream + s.streamLength } := by
  have hsmall := h.small
  have hcount : u32 (8 * s.streamLength) = 8 * s.streamLength := u32_of_lt (by omega)
  refine ⟨⟨rfl, Nat.le_add_right _ _, ?_, ?_, h.small⟩, rfl, rfl, ?_⟩
  · show 8 * (s.pStartOfStream + s.streamLength - s.pStartOfStream) ≤ u32 (8 * s.streamLength)
    omega
  · show u32 (8 * s.streamLength) ≤ 8 * s.streamLength + 0
    omega
  · show min s.readBits (8 * s.streamLength) ≤ u32 (8 * s.streamLength)
    omega

/-- **Whole bytes are passed with the test for stuffing switched off**, or the rest of the
stream. -/
theorem wp_flushBits_appn (h : s.Inside k) (hk : k ≤ 2 ^ 20) (happn : s.appnFlag ≠ 0) {bits : Nat}
    (hwhole : 8 ∣ bits) (hbits : bits ≤ 2 ^ 20) :
    wp (jpegDecFlushBits mem bits) (fun _ t => Passes 0 s t) X F s := by
  unfold jpegDecFlushBits
  rw [wp_bind, wp_gets, wp_ite]
  split
  · exact passes_end h
  · rename_i hshort
    have henough : s.readBits + bits ≤ 8 * s.streamLength :=
      h.enough hk hbits (by simpa using hshort)
    rw [wp_bind, wp_flushBytes_appn mem happn, wp_bind]
    have hrest : bits % 8 = 0 := Nat.mod_eq_zero_of_dvd hwhole
    rw [hrest]
    show Passes 0 s ((s.advance (bits / 8)).account (bits + 0))
    exact h.step (by omega) henough (by omega)

/-- **A byte is passed, with the one stuffed behind it.** -/
theorem wp_flushByte_inside (h : s.Inside k) (hk : k ≤ 2 ^ 20) :
    wp (jpegDecFlushBits mem 8) (fun _ t => Passes 8 s t) X F s := by
  unfold jpegDecFlushBits
  rw [wp_bind, wp_gets, wp_ite]
  split
  · exact (passes_end h).mono (by omega)
  · rename_i hshort
    have henough : s.readBits + 8 * 1 ≤ 8 * s.streamLength :=
      h.enough hk (by omega) (by simpa using hshort)
    have hlast : ∀ {e n : Nat}, e ≤ 8 → 8 * n ≤ 8 + e →
        Passes 8 s ((s.advance n).account (8 + e)) :=
      fun he hn => h.step hn (by omega) (by omega)
    rw [wp_bind]
    show wp (flushBytes mem 1 0) _ X F s
    unfold flushBytes
    rw [wp_bind, wp_gets, wp_ite]
    split
    · exact hlast (e := 0) (n := 1) (by omega) (by omega)
    · rw [wp_bind]
      unfold flushStuffed
      rw [wp_bind, wp_deref (h.inRange (n := 0) (by omega)), wp_ite]
      split
      · rw [wp_bind, wp_deref (h.inRange henough), wp_ite]
        split
        · exact hlast (e := 8) (n := 2) (by omega) (by omega)
        · exact hlast (e := 0) (n := 1) (by omega) (by omega)
      · exact hlast (e := 0) (n := 1) (by omega) (by omega)

end readers

/-! ## What does not move -/

/-- A part of the reader that stays as it is where the position moves. -/
def Unmoved {φ : Type} (f : StreamStorage → φ) : Prop :=
  ∀ s p r b, f { s with pCurrPos := p, readBits := r, bitPosInByte := b } = f s

theorem unmoved_passed : Unmoved StreamStorage.passed := fun _ _ _ _ => rfl

theorem unmoved_appnFlag : Unmoved StreamStorage.appnFlag := fun _ _ _ _ => rfl

section unmoved

variable {ρ φ : Type} (mem : Nat → UInt8) {f : StreamStorage → φ}

theorem frame_deref (i : Nat) :
    Frame anyFault f (deref mem i : Prog Fault ρ StreamStorage Nat) := by
  refine fun v => ⟨fun s hs => ?_⟩
  unfold wp deref
  by_cases h : s.InRange (s.pCurrPos + i)
  · simpa [h] using hs
  · simpa [h, anyFault] using hs

theorem Unmoved.advance (hf : Unmoved f) (n : Nat) (s : StreamStorage) : f (s.advance n) = f s :=
  hf s _ s.readBits s.bitPosInByte

theorem Unmoved.account (hf : Unmoved f) (n : Nat) (s : StreamStorage) : f (s.account n) = f s :=
  hf s s.pCurrPos _ s.bitPosInByte

theorem Unmoved.getByte (hf : Unmoved f) :
    Frame anyFault f (jpegDecGetByte mem : Prog Fault ρ StreamStorage Nat) := by
  refine frame_bind (frame_gets _) fun short => frame_ite _ (frame_pure _) ?_
  refine frame_bind (frame_deref mem 0) fun b0 =>
    frame_bind (frame_modify (hf.advance 1)) fun _ => ?_
  refine frame_bind (frame_deref mem 0) fun b1 => frame_bind (frame_gets _) fun bitPos => ?_
  exact frame_bind (frame_modify (hf.account 8)) fun _ => frame_pure _

theorem Unmoved.get2Bytes (hf : Unmoved f) :
    Frame anyFault f (jpegDecGet2Bytes mem : Prog Fault ρ StreamStorage Nat) := by
  refine frame_bind (frame_gets _) fun short => frame_ite _ (frame_pure _) ?_
  refine frame_bind (frame_deref mem 0) fun b0 =>
    frame_bind (frame_modify (hf.advance 1)) fun _ => ?_
  refine frame_bind (frame_deref mem 0) fun b1 =>
    frame_bind (frame_modify (hf.advance 1)) fun _ => ?_
  refine frame_bind (frame_deref mem 0) fun b2 => frame_bind (frame_gets _) fun bitPos => ?_
  exact frame_bind (frame_modify (hf.account 16)) fun _ => frame_pure _

theorem Unmoved.flushStuffed (hf : Unmoved f) :
    Frame anyFault f (flushStuffed mem : Prog Fault ρ StreamStorage Nat) := by
  have one : ∀ n m, Frame anyFault f (do
      modify (StreamStorage.advance n)
      return m : Prog Fault ρ StreamStorage Nat) :=
    fun n m => frame_bind (frame_modify (hf.advance n)) fun _ => frame_pure _
  refine frame_bind (frame_deref mem 0) fun b0 => frame_ite _ ?_ (one 1 0)
  exact frame_bind (frame_deref mem 1) fun b1 => frame_ite _ (one 2 8) (one 1 0)

theorem Unmoved.flushBytes (hf : Unmoved f) (n : Nat) :
    ∀ e, Frame anyFault f (flushBytes mem n e : Prog Fault ρ StreamStorage Nat) := by
  induction n with
  | zero => exact fun _ => frame_pure _
  | succ n ih =>
    intro e
    rw [Jpeg.flushBytes]
    refine frame_bind (frame_gets _) fun appn => frame_ite _ ?_ ?_
    · exact frame_bind (frame_modify (hf.advance 1)) fun _ => ih _
    · exact frame_bind (hf.flushStuffed mem) fun e => ih _

theorem Unmoved.flushBits (hf : Unmoved f) (bits : Nat) :
    Frame anyFault f (jpegDecFlushBits mem bits : Prog Fault ρ StreamStorage Nat) := by
  refine frame_bind (frame_gets _) fun short => frame_ite _ ?_ ?_
  · exact frame_bind (frame_modify fun s => hf s _ _ _) fun _ => frame_pure _
  · refine frame_bind (hf.flushBytes mem _ _) fun e => frame_bind ?_ fun e => ?_
    · refine frame_ite _ (frame_pure _) ?_
      refine frame_bind (frame_gets _) fun inside => frame_ite _ ?_ ?_
      · refine frame_bind (frame_modify fun s => ?_) fun _ => frame_pure _
        exact hf s s.pCurrPos s.readBits _
      · refine frame_bind (hf.flushStuffed mem) fun e => ?_
        refine frame_bind (frame_modify fun s => ?_) fun _ => frame_pure _
        exact hf s s.pCurrPos s.readBits _
    · exact frame_bind (frame_modify (hf.account _)) fun _ => frame_pure _

end unmoved

/-! ## What the readers keep -/

section confined

variable {ρ : Type} (mem : Nat → UInt8) {s : StreamStorage} {k : Nat}

/-- A byte outside the stream is read only after a wrong length. -/
def Outside (e : Fault) (s : StreamStorage) : Prop := IsStream e → s.Misled

/-- `x` stays inside the stream, unless a segment gave a wrong length. -/
abbrev KeepsConfined {α : Type} (k : Nat) (x : Prog Fault ρ StreamStorage α) : Prop :=
  Keeps Outside (Confined k) (Confined k) x

/-- After a wrong length everything goes. -/
theorem wp_of_misled {α : Type} {x : Prog Fault ρ StreamStorage α}
    (hx : Frame anyFault StreamStorage.passed x) (h : s.Misled) :
    wp x (fun _ t => t.Misled) (fun _ t => t.Misled) (fun _ t => t.Misled) s := by
  have hkeep : ∀ {t : StreamStorage}, t.passed = s.passed → t.Misled := by
    intro t ht
    unfold Misled
    rw [ht]
    exact h
  exact wp_mono ((hx s.passed).run s rfl) (fun _ _ ht => hkeep ht) (fun _ _ ht => hkeep ht)
    (fun _ _ ht => hkeep ht.2)

/-- What is left to show of a program that stays inside the stream. -/
theorem keepsConfined_of {α : Type} {x : Prog Fault ρ StreamStorage α}
    (hx : Frame anyFault StreamStorage.passed x)
    (hin : ∀ s : StreamStorage, s.Inside k →
      wp x (fun _ t => t.Confined k) (fun _ t => t.Confined k) Outside s) : KeepsConfined k x := by
  refine ⟨fun s hs => hs.elim (fun hmisled => ?_) (hin s)⟩
  exact wp_mono (wp_of_misled hx hmisled) (fun _ _ ht => Or.inl ht) (fun _ _ ht => Or.inl ht)
    (fun _ _ ht _ => ht)

theorem keepsConfined_getByte (hk : k ≤ 2 ^ 20) :
    KeepsConfined k (jpegDecGetByte mem : Prog Fault ρ StreamStorage Nat) := by
  refine keepsConfined_of (unmoved_passed.getByte mem) fun s hs => ?_
  refine wp_mono (wp_getByte_inside mem hs hk) (fun v t ht => Or.inr ?_) (fun _ _ h => h)
    (fun _ _ h => h)
  obtain ⟨-, rfl⟩ | ⟨-, hpasses⟩ := ht
  · exact hs
  · exact hpasses.inside.mono (Nat.zero_le k)

theorem keepsConfined_get2Bytes (hk : k ≤ 2 ^ 20) :
    KeepsConfined k (jpegDecGet2Bytes mem : Prog Fault ρ StreamStorage Nat) := by
  refine keepsConfined_of (unmoved_passed.get2Bytes mem) fun s hs => ?_
  refine wp_mono (wp_get2Bytes_inside mem hs hk) (fun v t ht => Or.inr ?_) (fun _ _ h => h)
    (fun _ _ h => h)
  obtain ⟨-, rfl⟩ | ⟨-, hpasses⟩ := ht
  · exact hs
  · exact hpasses.inside.mono (Nat.zero_le k)

theorem misled_note {L n : Nat} (h : s.Misled) : (s.note L n).Misled := by
  obtain ⟨p, hp, hwrong⟩ := h
  exact ⟨p, List.mem_cons_of_mem _ hp, hwrong⟩

/-- The rest of a segment whose length is right. -/
theorem restOf_of_le {L n : Nat} (hle : n ≤ 8 * L) (hL : 8 * L < 2 ^ 19) :
    restOf L n = 8 * L - n := by
  unfold restOf
  rw [u32_of_lt (by omega), sub32_of_le (by omega) (by omega), Nat.mul_comm]

/-- After a wrong length the rest of a segment goes too. -/
theorem wp_flushSegment_misled (h : s.Misled) (L n : Nat) :
    wp (flushSegment mem L n : Prog Fault ρ StreamStorage Nat) (fun _ t => t.Misled)
      (fun _ t => t.Misled) (fun _ t => t.Misled) s := by
  unfold flushSegment
  rw [wp_bind, wp_modify]
  split
  · exact wp_of_misled (unmoved_passed.flushBits mem _) h
  · exact wp_of_misled (unmoved_passed.flushBits mem _) (misled_note h)

/-- **The rest of a segment is passed inside the stream**, or the segment gave a wrong
length. -/
theorem wp_flushSegment_inside (h : s.Inside k) (hk : k ≤ 2 ^ 20) (happn : s.appnFlag ≠ 0)
    (L : Nat) {n : Nat} (hn : 8 ∣ n) :
    wp (flushSegment mem L n : Prog Fault ρ StreamStorage Nat) (fun _ t => t.Misled ∨ Passes 0 s t)
      (fun _ t => t.Misled) (fun _ t => t.Misled) s := by
  unfold flushSegment
  rw [wp_bind, wp_modify]
  split
  · rename_i hshort
    -- the reader stops at the end of the stream
    unfold jpegDecFlushBits
    rw [wp_bind, wp_gets, wp_ite, if_pos (by simpa using hshort)]
    exact Or.inr (passes_end h)
  · by_cases hwrong : 8 * L < n ∨ 2 ^ 19 ≤ 8 * L
    · have hmisled : (s.note L n).Misled := ⟨_, List.mem_cons_self, hwrong⟩
      exact wp_mono (wp_of_misled (unmoved_passed.flushBits mem _) hmisled) (fun _ _ h => Or.inl h)
        (fun _ _ h => h) (fun _ _ h => h)
    · have hrest : restOf L n = 8 * L - n := restOf_of_le (by omega) (by omega)
      rw [hrest]
      have hnote : (s.note L n).Inside k := ⟨h.aligned, h.started, h.position, h.bound, h.small⟩
      refine wp_mono (wp_flushBits_appn mem hnote hk happn ?_ (by omega)) (fun _ t ht => Or.inr ?_)
        (fun _ _ ht => ht) (fun _ _ ht => ht)
      · exact Nat.dvd_sub (Nat.dvd_mul_right 8 L) hn
      · exact ⟨ht.inside, ht.flag, ht.length, ht.forward⟩

theorem wp_flushSegment_confined (h : s.Confined k) (hk : k ≤ 2 ^ 20) (happn : s.appnFlag ≠ 0)
    (L : Nat) {n : Nat} (hn : 8 ∣ n) :
    wp (flushSegment mem L n : Prog Fault ρ StreamStorage Nat) (fun _ t => t.Confined 0)
      (fun _ t => t.Confined 0) Outside s := by
  obtain hmisled | hin := h
  · exact wp_mono (wp_flushSegment_misled mem hmisled L n) (fun _ _ h => Or.inl h)
      (fun _ _ h => Or.inl h) (fun _ _ h _ => h)
  · exact wp_mono (wp_flushSegment_inside mem hin hk happn L hn)
      (fun _ _ h => h.imp id fun hpasses => hpasses.inside) (fun _ _ h => Or.inl h)
      (fun _ _ h _ => h)

/-- A length that was read, with the reader inside the stream behind it. -/
def LengthRead (L : Nat) (s : StreamStorage) : Prop := s.Misled ∨ (L < 2 ^ 16 ∧ s.Inside 0)

/-- The length of a segment, or the end. -/
theorem wp_get2Bytes_confined (h : s.Confined k) (hk : k ≤ 2 ^ 20) :
    wp (jpegDecGet2Bytes mem : Prog Fault ρ StreamStorage Nat)
      (fun L t => t.Confined k ∧ (L ≠ strmErrorWord → LengthRead L t)) (fun _ t => t.Confined k)
      Outside s := by
  obtain hmisled | hin := h
  · exact wp_mono (wp_of_misled (unmoved_passed.get2Bytes mem) hmisled)
      (fun _ _ ht => ⟨Or.inl ht, fun _ => Or.inl ht⟩) (fun _ _ ht => Or.inl ht) (fun _ _ ht _ => ht)
  · refine wp_mono (wp_get2Bytes_inside mem hin hk) (fun L t ht => ?_) (fun _ _ h => h)
      (fun _ _ h => h)
    obtain ⟨hend, rfl⟩ | ⟨hL, hpasses⟩ := ht
    · exact ⟨Or.inr hin, fun hne => absurd hend hne⟩
    · exact ⟨Or.inr (hpasses.inside.mono (Nat.zero_le k)), fun _ => Or.inr ⟨hL, hpasses.inside⟩⟩

/-- How far the count gets ahead of the end with a jump. -/
def jumpSlack : Nat := 8 * 65535 - 16

/-- A segment that is jumped over, after a wrong length. -/
theorem misled_skipSegment (h : s.Misled) (L : Nat) : (s.skipSegment L).Misled := by
  unfold skipSegment
  split
  · exact misled_note h
  · exact h

/-- **A segment that is jumped over**: the count may get ahead of the end. -/
theorem passes_skipSegment {L : Nat} (hL : L < 2 ^ 16) (hin : s.Inside 0) :
    (s.skipSegment L).Misled ∨ Passes jumpSlack s (s.skipSegment L) := by
  unfold skipSegment
  split
  · by_cases hwrong : 8 * L < 16
    · exact Or.inl ⟨_, List.mem_cons_self, Or.inl hwrong⟩
    · right
      have hbound := hin.bound
      have hrest : restOf L 16 = 8 * L - 16 := restOf_of_le (by omega) (by omega)
      rw [hrest]
      have hnote : (s.note L 16).Inside 0 :=
        ⟨hin.aligned, hin.started, hin.position, hin.bound, hin.small⟩
      have hstep : Passes jumpSlack (s.note L 16)
          (((s.note L 16).advance ((8 * L - 16) / 8)).account (8 * L - 16)) := by
        refine hnote.step (by omega) ?_ (by decide)
        show s.readBits + (8 * L - 16) ≤ 8 * s.streamLength + (8 * 65535 - 16)
        omega
      exact ⟨hstep.inside, hstep.flag, hstep.length, hstep.forward⟩
  · exact Or.inr (hin.passes.mono (Nat.zero_le _))

theorem confined_skipSegment {L : Nat} (h : LengthRead L s) :
    (s.skipSegment L).Confined jumpSlack := by
  obtain hmisled | ⟨hL, hin⟩ := h
  · exact Or.inl (misled_skipSegment hmisled L)
  · exact (passes_skipSegment hL hin).imp id fun hpasses => hpasses.inside

end confined

end Jpeg

end Rk3399
