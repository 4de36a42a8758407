import Rk3399.Jpeg.Helpers.Reading
/-!
# The bytes ahead

At a byte the readers are functions of the bytes ahead: each byte of the
stream once, in order, and the error value behind its end. What a parser
does there is then an equation, whether the stream ends early or not.
-/

namespace Rk3399

namespace Jpeg

open Prog

namespace StreamStorage

/-- The reader stands at a byte of the stream or at its end. The readers count in 32
bits, which is enough for every stream the hardware takes. -/
structure AtByte (s : StreamStorage) : Prop where
  aligned : s.bitPosInByte = 0
  started : s.pStartOfStream ≤ s.pCurrPos
  position : s.readBits = 8 * (s.pCurrPos - s.pStartOfStream)
  inside : s.pCurrPos ≤ s.pStartOfStream + s.streamLength
  counted : 8 * (s.streamLength + 2) < 2 ^ 32

/-- The number of bytes ahead. -/
def left (s : StreamStorage) : Nat := s.pStartOfStream + s.streamLength - s.pCurrPos

/-- `n` bytes on, or at the end of the stream. -/
def read (n : Nat) (s : StreamStorage) : StreamStorage := s.skip (min n s.left)

/-- The byte `i` bytes ahead, as the readers give it. -/
def byteAt (mem : Nat → UInt8) (s : StreamStorage) (i : Nat) : Nat :=
  if i < s.left then (mem (s.pCurrPos + i)).toNat else strmErrorWord

/-- The `n` bytes from the one `i` bytes ahead on. -/
def bytesFrom (mem : Nat → UInt8) (s : StreamStorage) (i n : Nat) : List Nat :=
  (List.range n).map fun j => s.byteAt mem (i + j)

/-- The two bytes ahead. -/
def pairAt (mem : Nat → UInt8) (s : StreamStorage) : Nat :=
  if 2 ≤ s.left then bytesAt mem s.pCurrPos else strmErrorWord

/-- Behind the two bytes ahead, if they are there. -/
def readPair (s : StreamStorage) : StreamStorage := if 2 ≤ s.left then s.read 2 else s

variable {mem : Nat → UInt8} {s : StreamStorage} {m n : Nat}

@[simp] theorem left_read (n : Nat) (s : StreamStorage) : (s.read n).left = s.left - n := by
  unfold left read skip
  show s.pStartOfStream + s.streamLength - (s.pCurrPos + min n s.left) = _
  unfold left
  omega

theorem read_zero (s : StreamStorage) : s.read 0 = s := by
  rw [read, Nat.zero_min]
  rfl

@[simp] theorem read_read (m n : Nat) (s : StreamStorage) : (s.read m).read n = s.read (m + n) := by
  rw [read, left_read, read, read, skip_skip]
  congr 1
  omega

@[simp] theorem byteAt_read (n : Nat) (s : StreamStorage) (i : Nat) :
    (s.read n).byteAt mem i = s.byteAt mem (n + i) := by
  unfold byteAt
  rw [left_read]
  by_cases h : n + i < s.left
  · have hmin : (s.read n).pCurrPos = s.pCurrPos + n := by
      show s.pCurrPos + min n s.left = _
      omega
    rw [if_pos (by omega), if_pos h, hmin, Nat.add_assoc]
  · rw [if_neg (by omega), if_neg h]

@[simp] theorem bytesFrom_read (m : Nat) (s : StreamStorage) (i n : Nat) :
    (s.read m).bytesFrom mem i n = s.bytesFrom mem (m + i) n := by
  simp only [bytesFrom, byteAt_read, Nat.add_assoc]

@[simp] theorem length_bytesFrom (i n : Nat) : (s.bytesFrom mem i n).length = n := by
  rw [bytesFrom, List.length_map, List.length_range]

theorem bytesFrom_succ (i n : Nat) :
    s.bytesFrom mem i (n + 1) = s.byteAt mem i :: s.bytesFrom mem (i + 1) n := by
  rw [bytesFrom, List.range_succ_eq_map, List.map_cons, List.map_map, Nat.add_zero]
  simp only [bytesFrom, Function.comp_def, Nat.succ_eq_add_one]
  refine congrArg _ (List.map_congr_left fun j _ => ?_)
  rw [Nat.add_assoc, Nat.add_comm 1 j]

/-- A byte that is there is a byte. -/
theorem byteAt_lt {i : Nat} (h : i < s.left) : s.byteAt mem i < 256 := by
  rw [byteAt, if_pos h]
  exact (mem (s.pCurrPos + i)).toNat_lt

theorem byteAt_lt_word (mem : Nat → UInt8) (s : StreamStorage) (i : Nat) :
    s.byteAt mem i < 2 ^ 32 := by
  unfold byteAt
  split
  · exact Nat.lt_trans (mem (s.pCurrPos + i)).toNat_lt (by decide)
  · decide

/-- What looks like a byte is there. -/
theorem lt_left_of_byteAt {i : Nat} (h : s.byteAt mem i < 256) : i < s.left := by
  by_contra hout
  rw [byteAt, if_neg hout] at h
  exact absurd h (by decide)

theorem bytesFrom_lt {i n : Nat} (h : i + n ≤ s.left) : ∀ b ∈ s.bytesFrom mem i n, b < 256 := by
  intro b hb
  obtain ⟨j, hj, rfl⟩ := List.mem_map.mp hb
  have hlt := List.mem_range.mp hj
  exact byteAt_lt (by omega)

theorem AtByte.ahead (h : s.AtByte) (hn : n ≤ s.left) : s.Ahead n := by
  have hposition := h.position
  have hinside := h.inside
  have hstarted := h.started
  have hcounted := h.counted
  unfold left at hn
  exact ⟨h.aligned, hstarted, hposition, by rw [u32_of_lt (by omega)]; omega⟩

theorem AtByte.skip (h : s.AtByte) (hn : n ≤ s.left) : (s.skip n).AtByte := by
  have hposition := h.position
  have hstarted := h.started
  have hinside := h.inside
  unfold left at hn
  refine ⟨h.aligned, ?_, ?_, ?_, h.counted⟩
  · show s.pStartOfStream ≤ s.pCurrPos + n
    omega
  · show s.readBits + 8 * n = 8 * (s.pCurrPos + n - s.pStartOfStream)
    omega
  · show s.pCurrPos + n ≤ s.pStartOfStream + s.streamLength
    omega

theorem AtByte.read (h : s.AtByte) (n : Nat) : (s.read n).AtByte := h.skip (Nat.min_le_right _ _)

theorem AtByte.readPair (h : s.AtByte) : s.readPair.AtByte := by
  unfold StreamStorage.readPair
  split
  · exact h.read 2
  · exact h

/-- The readers miss bytes exactly at the end. -/
theorem AtByte.short_iff (h : s.AtByte) (hn : n ≤ 2) : s.Short (8 * n) ↔ s.left < n := by
  have hposition := h.position
  have hinside := h.inside
  have hcounted := h.counted
  have hstarted := h.started
  constructor
  · intro hshort
    by_contra hle
    exact (h.ahead (Nat.le_of_not_lt hle)).not_short (Nat.le_refl _) hshort
  · intro hlt
    unfold left at hlt
    unfold Short
    rw [u32_of_lt (by omega), u32_of_lt (by omega)]
    omega

end StreamStorage

open StreamStorage

/-! ## The readers -/

section readers

variable {ρ : Type} {mem : Nat → UInt8} {s : StreamStorage} {n : Nat}

/-- A reader at the end of the stream. -/
theorem jpegDecGetByte_eq (h : s.AtByte) :
    (jpegDecGetByte mem : Prog Fault ρ StreamStorage Nat) s =
      .next (s.byteAt mem 0) (s.read 1) := by
  by_cases hleft : s.left < 1
  · have hread : s.read 1 = s := by
      rw [StreamStorage.read, show min 1 s.left = 0 by omega]
      rfl
    have hshort := (h.short_iff (by decide)).mpr hleft
    refine next_of_wp ?_
    unfold jpegDecGetByte
    rw [wp_bind, wp_gets, wp_ite, if_pos (by simpa using hshort), wp_pure, byteAt,
      if_neg (by omega), hread]
    exact ⟨rfl, rfl⟩
  · refine next_of_wp ((wp_jpegDecGetByte (h.ahead (by omega))).mpr ⟨?_, ?_⟩)
    · rw [byteAt, if_pos (by omega), Nat.add_zero]
    · rw [StreamStorage.read, Nat.min_eq_left (by omega)]

theorem jpegDecGet2Bytes_eq (h : s.AtByte) :
    (jpegDecGet2Bytes mem : Prog Fault ρ StreamStorage Nat) s =
      .next (s.pairAt mem) s.readPair := by
  unfold pairAt readPair
  by_cases hleft : 2 ≤ s.left
  · rw [if_pos hleft, if_pos hleft]
    refine next_of_wp ((wp_jpegDecGet2Bytes (h.ahead hleft)).mpr ⟨rfl, ?_⟩)
    rw [StreamStorage.read, Nat.min_eq_left hleft]
  · have hshort := (h.short_iff (Nat.le_refl 2)).mpr (by omega)
    rw [if_neg hleft, if_neg hleft]
    refine next_of_wp ?_
    unfold jpegDecGet2Bytes
    rw [wp_bind, wp_gets, wp_ite, if_pos (by simpa using hshort), wp_pure]
    exact ⟨rfl, rfl⟩

theorem getBytes_eq (mem : Nat → UInt8) (n : Nat) : ∀ {s : StreamStorage}, s.AtByte →
    (getBytes mem n : Prog Fault ρ StreamStorage (List Nat)) s =
      .next (s.bytesFrom mem 0 n) (s.read n) := by
  induction n with
  | zero =>
    intro s _
    rw [read_zero]
    rfl
  | succ n ih =>
    intro s h
    rw [getBytes, bind_next (jpegDecGetByte_eq h), bind_next (ih (h.read 1)), bytesFrom_read,
      read_read, Nat.add_comm 1 n, bytesFrom_succ]
    rfl

variable {c : JpegDecContainer}

/-- A reader on the stream of the instance. -/
theorem onStream_eq {α : Type} {x : Prog Fault ρ StreamStorage α} {a : α} {t : StreamStorage}
    (h : x c.stream = .next a t) : onStream x c = .next a { c with stream := t } := by
  unfold onStream zoom
  rw [h]

theorem getByte_eq (h : c.stream.AtByte) : (getByte mem : Decoder ρ Nat) c =
    .next (c.stream.byteAt mem 0) { c with stream := c.stream.read 1 } :=
  onStream_eq (jpegDecGetByte_eq h)

theorem get2Bytes_eq (h : c.stream.AtByte) : (get2Bytes mem : Decoder ρ Nat) c =
    .next (c.stream.pairAt mem) { c with stream := c.stream.readPair } :=
  onStream_eq (jpegDecGet2Bytes_eq h)

end readers

/-! ## Segments -/

section segments

variable {mem : Nat → UInt8} {c : JpegDecContainer}

/-- The length of the segment ahead. -/
def segmentLength (mem : Nat → UInt8) (c : JpegDecContainer) : Nat := c.stream.pairAt mem

/-- The segment does not fit into the stream, as the parsers check behind its length. -/
def SegmentCut (mem : Nat → UInt8) (c : JpegDecContainer) : Prop :=
  SegmentShort (segmentLength mem c) { c with stream := c.stream.readPair }

instance (mem : Nat → UInt8) (c : JpegDecContainer) : Decidable (SegmentCut mem c) :=
  inferInstanceAs (Decidable (SegmentShort _ _))

/-- A segment that passes the check is there, where its length is. -/
theorem length_le_left (h : c.stream.AtByte) (hpair : 2 ≤ c.stream.left)
    (hcut : ¬ SegmentCut mem c) : 2 + segmentLength mem c ≤ c.stream.left := by
  have hlt : segmentLength mem c < 2 ^ 16 := by
    rw [segmentLength, pairAt, if_pos hpair]
    exact bytesAt_lt _
  have hposition := (h.read 2).position
  have hstarted := h.started
  have hinside := h.inside
  have hcounted := h.counted
  unfold SegmentCut SegmentShort StreamStorage.readPair at hcut
  rw [if_pos hpair] at hcut
  have hpos : (c.stream.read 2).pCurrPos = c.stream.pCurrPos + 2 := by
    show c.stream.pCurrPos + min 2 c.stream.left = _
    omega
  change ¬ c.stream.streamLength <
    u32 ((c.stream.read 2).readBits / 8 + segmentLength mem c) at hcut
  change (c.stream.read 2).readBits = 8 * ((c.stream.read 2).pCurrPos - c.stream.pStartOfStream)
    at hposition
  rw [hpos] at hposition
  unfold left at hpair ⊢
  rw [u32_of_lt (by omega)] at hcut
  omega

/-- The instance at the start of a stream of `n` bytes. -/
def atStart (n : Nat) : JpegDecContainer where
  stream := { streamLength := n }

/-- A segment of length `n`, all other bytes of which are zero. -/
def zeroSegment (n : UInt8) (a : Nat) : UInt8 := if a = 1 then n else 0

theorem atByte_atStart {n : Nat} (h : 8 * (n + 2) < 2 ^ 32) : (atStart n).stream.AtByte :=
  ⟨rfl, Nat.le_refl 0, rfl, Nat.zero_le _, h⟩

end segments

end Jpeg

end Rk3399
