import Rk3399.Common.Invariant
import Rk3399.Jpeg.Model.Hardware
/-!
# What a start of the hardware leaves alone

The functions that start the hardware change the shadow registers, the
table memory, the position in the stream and a few counters. Everything
else, the headers and the tables above all, is as the parsers left it.
-/

namespace Rk3399

namespace Jpeg

open Prog

variable {ρ : Type} {E : Fault → Prop}

/-- What the functions that start the hardware from scratch leave alone: the
instance without the parts they write. -/
def unstarted (c : JpegDecContainer) : JpegDecContainer :=
  { c with
    jpegRegs := fun _ => 0
    tableMem := fun _ => 0
    asicRunning := 0
    stream.pCurrPos := 0
    stream.bitPosInByte := 0
    info.streamEnd := 0
    info.pipeline := 0
    info.sliceStartCount := 0 }

@[simp] theorem unstarted_jpegRegs (c : JpegDecContainer) (r : WordFile 32) :
    unstarted { c with jpegRegs := r } = unstarted c := rfl

@[simp] theorem unstarted_tableMem (c : JpegDecContainer) (m : Nat → Nat) :
    unstarted { c with tableMem := m } = unstarted c := rfl

/-! ## Registers -/

/-- A register reads back the low bits of the last value written to it. -/
theorem rkGetRegisterFile_writes {f : BitField} {value : Nat} {ws : List (BitField × Nat)}
    {c : JpegDecContainer} {file : WordFile 32}
    (hd : ws.Pairwise fun p q => p.1.Disjoint q.1) (hf : f.Fits 32) (hmem : (f, value) ∈ ws)
    (hc : c.jpegRegs = BitField.writes (asWords ws) file) :
    rkGetRegisterFile f c = value % 2 ^ f.bits := by
  have hle : f.bits ≤ 32 := by unfold BitField.Fits at hf; omega
  have hd' : (asWords ws).Pairwise fun p q => p.1.Disjoint q.1 := List.pairwise_map.mpr hd
  have hmem' : (f, BitVec.ofNat 32 value) ∈ asWords ws := List.mem_map.mpr ⟨_, hmem, rfl⟩
  have hget := BitField.get_writes_of_mem hd' hf hmem' file
  rw [rkGetRegisterFile, hc, hget, BitField.toNat_and_mask _ _ hle, BitVec.toNat_ofNat]
  exact Nat.mod_mod_of_dvd _ (Nat.pow_dvd_pow 2 hle)

theorem frame_rkSetRegisterFiles (ws : JpegDecContainer → List (BitField × Nat)) :
    Frame E unstarted (rkSetRegisterFiles ws : Decoder ρ Unit) :=
  frame_modify fun c => unstarted_jpegRegs c _

theorem frame_subscript {φ : Type} {f : JpegDecContainer → φ} {i : Nat}
    (he : E (.index i)) : Frame E f (subscript i : Decoder ρ (Fin 3)) := by
  refine fun v => ⟨fun c hc => ?_⟩
  unfold wp subscript
  by_cases h : i < 3
  · simpa [h] using hc
  · simpa [h] using ⟨he, hc⟩

theorem frame_jpegDecWriteLenBits : Frame E unstarted (jpegDecWriteLenBits : Decoder ρ Unit) := by
  refine frame_bind (frame_rkSetRegisterFiles _) fun _ => ?_
  refine frame_bind (frame_rkSetRegisterFiles _) fun _ => ?_
  exact frame_bind (frame_rkSetRegisterFiles _) fun _ => frame_rkSetRegisterFiles _

theorem frame_jpegDecWriteLenBitsNonInterleaved (hE : ∀ i, E (.index i)) :
    Frame E unstarted (jpegDecWriteLenBitsNonInterleaved : Decoder ρ Unit) := by
  refine frame_bind (frame_gets _) fun i => ?_
  refine frame_bind (frame_subscript (hE _)) fun k => ?_
  exact frame_bind (frame_rkSetRegisterFiles _) fun _ => frame_rkSetRegisterFiles _

theorem frame_jpegDecWriteLenBitsProgressive :
    Frame E unstarted (jpegDecWriteLenBitsProgressive : Decoder ρ Unit) := by
  refine frame_bind (frame_modify fun c => unstarted_jpegRegs c _) fun _ => ?_
  refine frame_bind (frame_gets _) fun single => frame_ite _ ?_ ?_
  · exact frame_bind (frame_gets _) (fun k => frame_rkSetRegisterFiles _)
  · refine frame_bind (frame_rkSetRegisterFiles _) (fun _ => ?_)
    exact frame_bind (frame_rkSetRegisterFiles _) fun _ => frame_rkSetRegisterFiles _

theorem frame_jpegDecChromaTableSelectors :
    Frame E unstarted (jpegDecChromaTableSelectors : Decoder ρ Unit) :=
  frame_bind (frame_rkSetRegisterFiles _) fun _ => frame_rkSetRegisterFiles _

/-! ## The table memory -/

section memory

variable {φ : Type} {f : JpegDecContainer → φ}
  (hf : ∀ (c : JpegDecContainer) (m : Nat → Nat), f { c with tableMem := m } = f c)

include hf

theorem frame_storeWord (w value : Nat) :
    Frame anyFault f (storeWord w value : Decoder ρ Unit) :=
  frame_bind (frame_assert trivial _) fun _ => frame_modify fun c => hf c _

theorem frame_storeWords (words : List Nat) :
    ∀ w, Frame anyFault f (storeWords w words : Decoder ρ Unit) := by
  induction words with
  | nil => exact fun _ => frame_pure ()
  | cons value values ih =>
    exact fun w => frame_bind (frame_storeWord hf w value) fun _ => ih (w + 1)

theorem frame_storeAt (b value : Nat) : Frame anyFault f (storeAt b value : Decoder ρ Unit) :=
  frame_bind (frame_assert trivial _) fun _ => frame_modify fun c => hf c _

theorem frame_storesAt (words : List Nat) :
    ∀ b, Frame anyFault f (storesAt b words : Decoder ρ Unit) := by
  induction words with
  | nil => exact fun _ => frame_pure ()
  | cons value values ih =>
    exact fun b => frame_bind (frame_storeAt hf b value) fun _ => ih (b + 4)

theorem frame_clearTable (words : Nat) : Frame anyFault f (clearTable words : Decoder ρ Unit) := by
  unfold clearTable
  refine frame_bind (frame_assert trivial _) fun _ => ?_
  exact frame_modify fun c => hf c _

theorem frame_storeQuantTables (n : Nat) :
    ∀ j w, Frame anyFault f (storeQuantTables n j w : Decoder ρ Unit) := by
  induction n with
  | zero => exact fun _ _ => frame_pure ()
  | succ n ih =>
    intro j w
    rw [storeQuantTables]
    refine frame_bind (frame_subscript trivial) fun k => ?_
    refine frame_bind (frame_gets _) fun words => ?_
    exact frame_bind (frame_storeWords hf words w) fun _ => ih (j + 1) (w + 16)

theorem frame_storeProgressive (count n : Nat) :
    ∀ i word pos, Frame anyFault f (storeProgressive count n i word pos : Decoder ρ Nat) := by
  induction n with
  | zero => exact fun _ _ _ => frame_pure _
  | succ n ih =>
    intro i word pos
    rw [storeProgressive]
    refine frame_bind (frame_subscript trivial) fun k => ?_
    refine frame_bind (frame_gets _) fun c => frame_ite _ ?_ ?_
    · exact frame_bind (frame_storesAt hf _ _) (fun _ => ih _ _ _)
    · exact frame_bind (frame_storesAt hf _ _) (fun _ => ih _ _ _)

theorem frame_jpegDecWriteTables : Frame anyFault f (jpegDecWriteTables : Decoder ρ Unit) := by
  refine frame_bind (frame_gets _) fun count => ?_
  refine frame_bind (frame_storeQuantTables hf count 0 0) fun _ => ?_
  refine frame_bind ?_ fun packed => frame_storeWords hf _ _
  refine frame_bind (frame_gets _) fun colour => frame_ite _ (frame_gets _) ?_
  refine frame_bind (frame_gets _) (fun first => frame_ite _ (frame_gets _) ?_)
  refine frame_bind (frame_gets _) (fun i => ?_)
  exact frame_bind (frame_subscript trivial) fun k => frame_gets _

theorem frame_jpegDecWriteTablesNonInterleaved :
    Frame anyFault f (jpegDecWriteTablesNonInterleaved : Decoder ρ Unit) := by
  refine frame_bind (frame_clearTable hf _) fun _ => ?_
  refine frame_bind (frame_gets _) fun i => ?_
  refine frame_bind (frame_subscript trivial) fun k => ?_
  refine frame_bind (frame_storeQuantTables hf _ _ _) fun _ => ?_
  refine frame_bind (frame_gets _) fun c => ?_
  refine frame_bind (frame_storesAt hf _ _) fun _ => ?_
  exact frame_bind (frame_storesAt hf _ _) fun _ => frame_storeAt hf _ _

theorem frame_jpegDecWriteTablesProgressive :
    Frame anyFault f (jpegDecWriteTablesProgressive : Decoder ρ Unit) := by
  refine frame_bind (frame_clearTable hf _) fun _ => ?_
  refine frame_bind (frame_gets _) fun single => ?_
  refine frame_bind (frame_gets _) fun first => ?_
  refine frame_bind (frame_storeQuantTables hf _ _ _) fun _ => ?_
  refine frame_bind (frame_gets _) fun refining => frame_ite _ (frame_pure ()) ?_
  refine frame_bind (frame_subscript trivial) (fun k => ?_)
  refine frame_bind (frame_gets _) fun word => ?_
  exact frame_bind (frame_storeProgressive hf _ _ _ _ _) fun pos => frame_storeAt hf _ _

end memory

/-! ## The starts -/

/-- An address that is not taken for the registers ends the empty scan at its first
register. -/
theorem jpegDecInitHWEmptyScan_untaken (i : Nat) :
    (jpegDecInitHWEmptyScan false i : Decoder ρ Unit) = (do
      modify fun c => { c with info.nonInterleaved := 1, info.componentId := i }
      modify fun c =>
        if c.ppInstance = 0 ∧ c.info.userAllocMem = 1 then givenAddress2 (givenAddresses c) else c
      fault .handle) := rfl

theorem frame_coeffBuffer (hE : ∀ i, E (.index i)) (n : Nat) :
    ∀ i buffer, Frame E unstarted (coeffBuffer n i buffer : Decoder ρ Nat) := by
  induction n with
  | zero => exact fun _ _ => frame_pure _
  | succ n ih =>
    intro i buffer
    rw [coeffBuffer]
    refine frame_bind (frame_subscript (hE _)) fun k => ?_
    exact frame_bind (frame_gets _) fun blocks => ih _ _

theorem frame_setCoeffBuffers (hE : ∀ i, E (.index i)) :
    Frame E unstarted (setCoeffBuffers : Decoder ρ Unit) := by
  refine frame_bind (frame_gets _) fun progressive => frame_ite _ ?_ (frame_pure ())
  refine frame_bind (frame_gets _) (fun base => ?_)
  refine frame_bind (frame_gets _) fun single => frame_ite _ ?_ ?_
  · refine frame_bind (frame_gets _) (fun id => ?_)
    exact frame_bind (frame_coeffBuffer hE _ _ _) fun buffer => frame_rkSetRegisterFiles _
  · refine frame_bind (frame_coeffBuffer hE _ _ _) (fun cb => ?_)
    exact frame_bind (frame_coeffBuffer hE _ _ _) fun cr => frame_rkSetRegisterFiles _

theorem frame_setTables : Frame anyFault unstarted (setTables : Decoder ρ Unit) := by
  refine frame_bind (frame_gets _) fun operationType => frame_ite _ ?_ ?_
  · exact frame_bind frame_jpegDecWriteLenBits (fun _ =>
      frame_jpegDecWriteTables unstarted_tableMem)
  · refine frame_ite _ ?_ ?_
    · exact frame_bind (frame_jpegDecWriteLenBitsNonInterleaved fun _ => trivial)
        (fun _ => frame_jpegDecWriteTablesNonInterleaved unstarted_tableMem)
    · exact frame_bind frame_jpegDecWriteLenBitsProgressive
        (fun _ => frame_jpegDecWriteTablesProgressive unstarted_tableMem)

theorem frame_jpegDecSetHwStrmParams :
    Frame E unstarted (jpegDecSetHwStrmParams : Decoder ρ Unit) := by
  refine frame_bind (frame_rkSetRegisterFiles _) fun _ => ?_
  refine frame_bind (frame_modify fun _ => rfl) fun _ => ?_
  refine frame_bind (frame_rkSetRegisterFiles _) fun _ => ?_
  refine frame_bind (frame_modify fun _ => rfl) fun _ => ?_
  refine frame_bind (frame_rkSetRegisterFiles _) fun _ => ?_
  exact frame_bind (frame_modify fun _ => rfl) fun _ => frame_rkSetRegisterFiles _

theorem frame_setOutput : Frame E unstarted (setOutput : Decoder ρ Unit) :=
  frame_bind (frame_rkSetRegisterFiles _) fun _ => frame_modify fun _ => rfl

/-- **Starting the hardware leaves the headers and the tables alone.** -/
theorem frame_jpegDecInitHW : Frame anyFault unstarted (jpegDecInitHW : Decoder ρ Unit) := by
  refine frame_bind (frame_rkSetRegisterFiles _) fun _ => ?_
  refine frame_bind (frame_setCoeffBuffers fun _ => trivial) fun _ => ?_
  refine frame_bind frame_setTables fun _ => ?_
  refine frame_bind frame_jpegDecChromaTableSelectors fun _ => ?_
  refine frame_bind (frame_rkSetRegisterFiles _) fun _ => ?_
  refine frame_bind frame_jpegDecSetHwStrmParams fun _ => ?_
  refine frame_bind (frame_rkSetRegisterFiles _) fun _ => ?_
  refine frame_bind frame_setOutput fun _ => ?_
  exact frame_bind (frame_modify fun _ => rfl) fun _ => frame_rkSetRegisterFiles _

end Jpeg

end Rk3399
