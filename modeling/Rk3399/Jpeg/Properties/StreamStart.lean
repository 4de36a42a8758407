import Rk3399.Jpeg.Model.Decode
import Rk3399.Jpeg.Helpers.Start
/-!
# The hardware starts at the next unread bit

`JpegDecSetHwStrmParams` splits the position of the reader into an offset
that is a multiple of eight bytes, which it puts above the descriptor of
the buffer, and a start bit. The offset has 22 bits there, and the
position itself is cut to 32 bits; both cuts lie inside the admitted
buffers and addresses.
-/

namespace Rk3399

namespace Jpeg

open Prog

variable {ρ : Type} {c : JpegDecContainer}

/-! ## The position -/

/-- The length of the buffer that is decoded. -/
def bufferLength (c : JpegDecContainer) : Nat :=
  if c.info.inputStreaming ≠ 0 then c.info.inputBufferLen else c.stream.streamLength

/-- The bytes of the buffer behind the reader. -/
def bytesRead (c : JpegDecContainer) : Nat := c.stream.pCurrPos - c.stream.pStartOfStream

/-- The bytes added to the length for pictures whose height is not a multiple of
16. -/
def lengthWorkaround (c : JpegDecContainer) : Nat :=
  if c.info.inputStreaming ≠ 0 ∧ TimeoutMode c then 100 else 0

/-- **The states of the claim**: a reader inside a buffer that starts at a multiple
of eight, has a descriptor below 1024 and is no longer than the hardware takes. -/
structure ReaderInside (c : JpegDecContainer) : Prop where
  aligned : 8 ∣ c.stream.pStartOfStream
  fd : c.stream.streamBus < 1024
  length : bufferLength c ≤ JPEGDEC_RK70_MAX_BUFFER
  started : c.stream.pStartOfStream ≤ c.stream.pCurrPos
  ended : c.stream.pCurrPos ≤ c.stream.pStartOfStream + bufferLength c
  bit : c.stream.bitPosInByte < 8

/-- The offset the registers hold, above the descriptor. -/
def hwOffset (c : JpegDecContainer) : Nat := rkGetRegisterFile HWIF_RLC_VLC_BASE c / 2 ^ 10

/-- The descriptor they hold. -/
def hwDescriptor (c : JpegDecContainer) : Nat := rkGetRegisterFile HWIF_RLC_VLC_BASE c % 2 ^ 10

/-- The registers of `c'` make the hardware go on where the reader of `c` is, and the
position stays in the buffer. -/
structure StartsAtNextBit (c c' : JpegDecContainer) : Prop where
  position : 8 * hwOffset c' + rkGetRegisterFile HWIF_STRM_START_BIT c' =
    8 * bytesRead c + c.stream.bitPosInByte
  fd : hwDescriptor c' = c.stream.streamBus
  length : rkGetRegisterFile HWIF_STREAM_LEN c' + hwOffset c' = bufferLength c + lengthWorkaround c
  inside : c.stream.pStartOfStream ≤ c'.stream.pCurrPos ∧
    c'.stream.pCurrPos ≤ c.stream.pStartOfStream + bufferLength c

/-! ## The registers -/

/-- The start of the buffer, above the descriptor. -/
def startAddress (c : JpegDecContainer) : Nat :=
  u32 c.stream.streamBus |||
    u32 ((u32 (c.stream.pStartOfStream % 4 +
      sub32 c.stream.pCurrPos c.stream.pStartOfStream) / 8 * 8) <<< 10)

/-- The bytes the hardware is given. -/
def hwLength (c : JpegDecContainer) : Nat :=
  let used := sub32 (u32 c.stream.pCurrPos / 8 * 8) c.stream.pStartOfStream
  if c.info.inputStreaming ≠ 0 then
    if TimeoutMode c then u32 (sub32 c.info.inputBufferLen used + 100)
    else sub32 c.info.inputBufferLen used
  else sub32 c.stream.streamLength used

/-- The registers of the stream. -/
def streamRegisters (c : JpegDecContainer) : List (BitField × Nat) :=
  [(HWIF_RLC_VLC_BASE, startAddress c),
   (HWIF_STRM_START_BIT, c.stream.bitPosInByte + 8 * (c.stream.pCurrPos % 8)),
   (HWIF_STREAM_LEN, hwLength c), (HWIF_JPEG_STREAM_ALL, 1)]

/-- The state `JpegDecSetHwStrmParams` leaves. -/
def streamStarted (c : JpegDecContainer) : JpegDecContainer :=
  { c with
    jpegRegs := BitField.writes (asWords (streamRegisters c)) c.jpegRegs
    stream.bitPosInByte := c.stream.bitPosInByte + 8 * (c.stream.pCurrPos % 8)
    stream.pCurrPos := u32 c.stream.pCurrPos / 8 * 8
    info.streamEnd := 1 }

theorem jpegDecSetHwStrmParams_eq (c : JpegDecContainer) :
    (jpegDecSetHwStrmParams : Decoder ρ Unit) c = .next () (streamStarted c) := by
  rfl

/-- Each of the registers reads back the low bits of what it is set to. -/
theorem streamRegister_eq {f : BitField} {value : Nat} (hf : f.Fits 32)
    (hmem : (f, value) ∈ streamRegisters c) :
    rkGetRegisterFile f (streamStarted c) = value % 2 ^ f.bits := by
  have hd : (streamRegisters c).Pairwise fun p q => p.1.Disjoint q.1 := by
    rw [← List.pairwise_map]
    change [HWIF_RLC_VLC_BASE, HWIF_STRM_START_BIT, HWIF_STREAM_LEN,
      HWIF_JPEG_STREAM_ALL].Pairwise BitField.Disjoint
    decide
  exact rkGetRegisterFile_writes hd hf hmem rfl

/-- The offset of a reader inside its buffer. -/
def alignedOffset (c : JpegDecContainer) : Nat := bytesRead c / 8 * 8

namespace ReaderInside

variable (h : ReaderInside c)

include h

theorem bytesRead_le : bytesRead c ≤ JPEGDEC_RK70_MAX_BUFFER := by
  have hlength := h.length
  have hended := h.ended
  unfold bytesRead
  omega

theorem startAddress_eq :
    startAddress c = c.stream.streamBus + alignedOffset c % 2 ^ 22 * 2 ^ 10 := by
  have hread := h.bytesRead_le
  have hfd := h.fd
  have hstarted := h.started
  have hsub : sub32 c.stream.pCurrPos c.stream.pStartOfStream = bytesRead c := by
    unfold sub32 bytesRead at *
    simp only [JPEGDEC_RK70_MAX_BUFFER] at hread
    omega
  have hstart : c.stream.pStartOfStream % 4 = 0 := by
    have haligned := h.aligned
    omega
  have hoffset : u32 ((u32 (c.stream.pStartOfStream % 4 +
      sub32 c.stream.pCurrPos c.stream.pStartOfStream) / 8 * 8) <<< 10) =
      (alignedOffset c % 2 ^ 22) <<< 10 := by
    rw [hsub, hstart, Nat.zero_add]
    unfold u32 alignedOffset
    simp only [JPEGDEC_RK70_MAX_BUFFER] at hread
    rw [Nat.shiftLeft_eq, Nat.shiftLeft_eq]
    omega
  rw [startAddress, hoffset, u32_of_lt (by omega), Nat.or_comm,
    ← Nat.shiftLeft_add_eq_or_of_lt (by omega : c.stream.streamBus < 2 ^ 10), Nat.shiftLeft_eq,
    Nat.add_comm]

theorem hwOffset_eq : hwOffset (streamStarted c) = alignedOffset c % 2 ^ 22 := by
  have hfd := h.fd
  have hreg := streamRegister_eq (c := c) (f := HWIF_RLC_VLC_BASE) (by decide)
    List.mem_cons_self
  rw [h.startAddress_eq] at hreg
  change _ = _ % 2 ^ 32 at hreg
  rw [hwOffset, hreg]
  omega

theorem hwDescriptor_eq : hwDescriptor (streamStarted c) = c.stream.streamBus := by
  have hfd := h.fd
  have hreg := streamRegister_eq (c := c) (f := HWIF_RLC_VLC_BASE) (by decide)
    List.mem_cons_self
  rw [h.startAddress_eq] at hreg
  change _ = _ % 2 ^ 32 at hreg
  rw [hwDescriptor, hreg]
  omega

theorem startBit_eq : rkGetRegisterFile HWIF_STRM_START_BIT (streamStarted c) =
    c.stream.bitPosInByte + 8 * (bytesRead c % 8) := by
  have hbit := h.bit
  have haligned := h.aligned
  have hstarted := h.started
  have hreg := streamRegister_eq (c := c) (f := HWIF_STRM_START_BIT) (by decide)
    (List.mem_cons_of_mem _ List.mem_cons_self)
  change _ = _ % 2 ^ 6 at hreg
  rw [hreg]
  unfold bytesRead
  omega

/-- The bytes the hardware is given are those from the offset on. -/
theorem hwLength_eq :
    rkGetRegisterFile HWIF_STREAM_LEN (streamStarted c) + alignedOffset c =
      bufferLength c + lengthWorkaround c := by
  have haligned := h.aligned
  have hstarted := h.started
  have hended := h.ended
  have hread := h.bytesRead_le
  have hlength := h.length
  simp only [JPEGDEC_RK70_MAX_BUFFER] at hread hlength
  have hused : sub32 (u32 c.stream.pCurrPos / 8 * 8) c.stream.pStartOfStream =
      alignedOffset c := by
    unfold sub32 u32 alignedOffset bytesRead at *
    omega
  have hle : alignedOffset c ≤ bufferLength c := by
    unfold alignedOffset bytesRead
    omega
  have hreg := streamRegister_eq (c := c) (f := HWIF_STREAM_LEN) (by decide)
    (List.mem_cons_of_mem _ (List.mem_cons_of_mem _ List.mem_cons_self))
  change _ = _ % 2 ^ 24 at hreg
  rw [hreg, hwLength, hused]
  unfold bufferLength lengthWorkaround at *
  by_cases hinput : c.info.inputStreaming ≠ 0
  · rw [if_pos hinput] at hlength hle ⊢
    rw [sub32_of_le hle (by omega)]
    by_cases hmode : TimeoutMode c
    · rw [if_pos hmode, if_pos hinput, if_pos ⟨hinput, hmode⟩, u32_of_lt (by omega)]
      omega
    · rw [if_neg hmode, if_pos hinput, if_neg (fun h => hmode h.2)]
      omega
  · rw [if_neg hinput] at hlength hle ⊢
    rw [sub32_of_le hle (by omega), if_neg hinput, if_neg (fun h => hinput h.1)]
    omega

/-- The position that is cut to 32 bits is in the buffer where it is not cut. -/
theorem inside_iff :
    (c.stream.pStartOfStream ≤ (streamStarted c).stream.pCurrPos ∧
      (streamStarted c).stream.pCurrPos ≤ c.stream.pStartOfStream + bufferLength c) ↔
      c.stream.pCurrPos < 2 ^ 32 := by
  have haligned := h.aligned
  have hstarted := h.started
  have hended := h.ended
  have hlength := h.length
  simp only [JPEGDEC_RK70_MAX_BUFFER] at hlength
  change (_ ≤ u32 c.stream.pCurrPos / 8 * 8 ∧ u32 c.stream.pCurrPos / 8 * 8 ≤ _) ↔ _
  unfold u32
  constructor
  · intro hin
    omega
  · intro hlt
    omega

end ReaderInside

/-- **The hardware starts at the next unread bit** exactly where the offset has 22
bits and the position has 32. -/
theorem startsAtNextBit_iff (h : ReaderInside c) :
    ∃ c', (jpegDecSetHwStrmParams : Decoder ρ Unit) c = .next () c' ∧
      (StartsAtNextBit c c' ↔ bytesRead c < 2 ^ 22 ∧ c.stream.pCurrPos < 2 ^ 32) := by
  refine ⟨streamStarted c, jpegDecSetHwStrmParams_eq c, ?_⟩
  have hoffset := h.hwOffset_eq
  have hbit := h.startBit_eq
  have hlength := h.hwLength_eq
  have hdiv : alignedOffset c = bytesRead c / 8 * 8 := rfl
  constructor
  · intro hstarts
    have hposition := hstarts.position
    rw [hoffset, hbit] at hposition
    exact ⟨by omega, h.inside_iff.mp hstarts.inside⟩
  · rintro ⟨hlt, hpos⟩
    have hmod : alignedOffset c % 2 ^ 22 = alignedOffset c := by omega
    refine ⟨?_, h.hwDescriptor_eq, ?_, h.inside_iff.mpr hpos⟩
    · rw [hoffset, hbit, hmod]
      omega
    · rw [hoffset, hmod]
      exact hlength

/-- A reader `n` bytes into a buffer of eight megabytes. -/
def readerAt (n : Nat) : JpegDecContainer where
  stream := { pStartOfStream := 4096, pCurrPos := 4096 + n, streamBus := 5, streamLength := 2 ^ 23 }

theorem readerInside_readerAt {n : Nat} (hn : n ≤ 2 ^ 23) : ReaderInside (readerAt n) where
  aligned := (by decide : 8 ∣ 4096)
  fd := (by decide : 5 < 1024)
  length := (by decide : 2 ^ 23 ≤ JPEGDEC_RK70_MAX_BUFFER)
  started := Nat.le_add_right 4096 n
  ended := Nat.add_le_add_left hn 4096
  bit := (by decide : 0 < 8)

theorem startsAtNextBit_iff_header :
    ReaderInside (readerAt 1000) ∧
    ∃ c', (jpegDecSetHwStrmParams : Decoder JpegDecRet Unit) (readerAt 1000) = .next () c' ∧
      (StartsAtNextBit (readerAt 1000) c' ↔
        bytesRead (readerAt 1000) < 2 ^ 22 ∧ (readerAt 1000).stream.pCurrPos < 2 ^ 32) :=
  ⟨readerInside_readerAt (by decide), startsAtNextBit_iff (readerInside_readerAt (by decide))⟩

/-- **An offset of four megabytes is lost**: the hardware is told to start at the
beginning of the buffer. -/
theorem not_startsAtNextBit : ReaderInside (readerAt (2 ^ 22)) ∧
    ¬ ∃ c', (jpegDecSetHwStrmParams : Decoder JpegDecRet Unit) (readerAt (2 ^ 22)) = .next () c' ∧
      StartsAtNextBit (readerAt (2 ^ 22)) c' := by
  have hinside : ReaderInside (readerAt (2 ^ 22)) := readerInside_readerAt (by decide)
  refine ⟨hinside, ?_⟩
  rintro ⟨c', hc', hstarts⟩
  cases hc'
  have hoffset := hinside.hwOffset_eq
  have hbit := hinside.startBit_eq
  have hposition := hstarts.position
  have hread : bytesRead (readerAt (2 ^ 22)) = 2 ^ 22 := Nat.add_sub_cancel_left 4096 (2 ^ 22)
  have hentry : (readerAt (2 ^ 22)).stream.bitPosInByte = 0 := rfl
  rw [alignedOffset, hread] at hoffset
  rw [hread] at hbit hposition
  change 8 * hwOffset (streamStarted (readerAt (2 ^ 22))) +
    rkGetRegisterFile HWIF_STRM_START_BIT (streamStarted (readerAt (2 ^ 22))) = _ at hposition
  rw [hoffset, hbit, hentry] at hposition
  omega

end Jpeg

end Rk3399
