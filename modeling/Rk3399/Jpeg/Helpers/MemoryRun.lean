import Rk3399.Jpeg.Helpers.StandingRun
import Rk3399.Jpeg.Helpers.TableBounds
/-!
# The table memory over a call

The table memory is allocated with the first scan header, in the size of
the mode the picture has then, and kept for the pictures behind it. `Sized`
is what holds of it between calls and `Fits` what a start needs: the
writer the start chooses stays inside. A call gets from the one to the
other by reading a header.
-/

namespace Rk3399

namespace Jpeg

open Prog

/-! ## What is known of the memory -/

/-- The table memory and what decides which writer uses it. -/
structure TableState where
  pTableBase : MppBufferInfo
  allocated : Nat
  scanReady : Nat
  progressive : Bool

def Standing.table (s : Standing) : TableState where
  pTableBase := s.pTableBase
  allocated := s.allocated
  scanReady := s.scanReady
  progressive := s.progressive

/-- The table memory of an instance. -/
def tableState (c : JpegDecContainer) : TableState := (standing c).table

/-- The size a mode needs. -/
def sizeOf (progressive : Bool) : Nat :=
  if progressive then JPEGDEC_PROGRESSIVE_TABLE_SIZE else JPEGDEC_BASELINE_TABLE_SIZE

namespace TableState

/-- An allocated memory is mapped and has one of the two sizes, the larger where a
progressive picture goes on. -/
structure Sized (s : TableState) : Prop where
  mapped : s.allocated ≠ 0 → s.pTableBase.virAddr ≠ 0
  size : s.allocated ≠ 0 → ∃ progressive, s.pTableBase.size = sizeOf progressive
  ready : s.scanReady ≠ 0 → s.allocated ≠ 0 ∧ s.pTableBase.size = JPEGDEC_PROGRESSIVE_TABLE_SIZE

/-- The memory fits the writer a start chooses. -/
structure Fits (s : TableState) : Prop extends Sized s where
  allocated : s.allocated ≠ 0
  progressive : s.progressive = true → s.pTableBase.size = JPEGDEC_PROGRESSIVE_TABLE_SIZE

/-- The same memory under another mode. -/
def withMode (mode : Bool) (s : TableState) : TableState := { s with progressive := mode }

theorem Sized.withMode {s : TableState} (h : s.Sized) (mode : Bool) : (s.withMode mode).Sized :=
  ⟨h.mapped, h.size, h.ready⟩

theorem room_of_size {b : MppBufferInfo} (hmapped : b.virAddr ≠ 0)
    (hsize : b.size = JPEGDEC_PROGRESSIVE_TABLE_SIZE) : b.Room 144 :=
  ⟨hmapped, Nat.le_of_eq hsize.symm⟩

theorem Fits.room {s : TableState} (h : s.Fits) : s.pTableBase.Room 136 := by
  refine ⟨h.mapped h.allocated, ?_⟩
  obtain ⟨progressive, hsize⟩ := h.size h.allocated
  rw [hsize]
  cases progressive <;> decide

theorem Fits.room_progressive {s : TableState} (h : s.Fits) (hp : s.progressive = true) :
    s.pTableBase.Room 144 :=
  room_of_size (h.mapped h.allocated) (h.progressive hp)

theorem Sized.unready {s : TableState} (h : s.Sized) : Sized { s with scanReady := 0 } :=
  ⟨h.mapped, h.size, fun h0 => absurd rfl h0⟩

theorem Fits.unready {s : TableState} (h : s.Fits) : Fits { s with scanReady := 0 } :=
  ⟨h.toSized.unready, h.allocated, h.progressive⟩

end TableState

open TableState

section keeps

variable {ρ α : Type} {I : TableState → Prop} {n : Nat}

/-- `x` keeps `I` of the table memory and stays inside it. -/
abbrev KeepsTable (I : TableState → Prop) (x : Decoder ρ α) : Prop :=
  Keeps (fun e _ => NoTable e) (fun c => I (tableState c)) (fun c => I (tableState c)) x

theorem keepsTable_of_frame {x : Decoder ρ α} (hx : Frame NoTable tableState x) : KeepsTable I x :=
  (Frame.keeps hx I).mono (fun _ h => h) fun _ _ h => h.1

theorem keepsTable_of_standing {x : Decoder ρ α} (hx : Frame NoTable standing x) :
    KeepsTable I x :=
  keepsTable_of_frame (Frame.part hx Standing.table)

theorem keepsTable_of_unstarted {x : Decoder ρ α} (hx : Frame NoTable unstarted x) :
    KeepsTable I x :=
  keepsTable_of_frame (Frame.part hx tableState)

/-- A writer that stays in `n` words keeps what gives it the room. -/
theorem keepsTable_of_inTable {x : Decoder ρ α} (hx : InTable n x)
    (hframe : Frame anyFault tableState x) (hroom : ∀ s, I s → s.pTableBase.Room n) :
    KeepsTable I x := by
  refine ⟨fun c hc => ?_⟩
  have hboth := wp_and (hx.run c (hroom _ hc)) ((Frame.keeps hframe I).run c hc)
  exact wp_mono hboth (fun _ _ h => h.2) (fun _ _ h => h.2) (fun _ _ h => h.1)

end keeps

/-! ## Starts -/

section start

variable {ρ : Type} {I : TableState → Prop}

theorem tableState_tableMem (c : JpegDecContainer) (m : Nat → Nat) :
    tableState { c with tableMem := m } = tableState c := rfl

/-- Every mode has a writer of its own. -/
theorem keepsTable_setTables : KeepsTable Fits (setTables : Decoder ρ Unit) := by
  refine ⟨fun c hc => wp_seq (M := fun op c' => op = c.info.operationType ∧ c' = c) ⟨rfl, rfl⟩ ?_⟩
  rintro op c' ⟨rfl, rfl⟩
  rw [wp_ite]
  split
  · refine Keeps.run (I := fun c => Fits (tableState c)) ?_ c' hc
    refine keeps_bind (keepsTable_of_unstarted frame_jpegDecWriteLenBits) fun _ => ?_
    exact keepsTable_of_inTable (inTable_jpegDecWriteTables (Nat.le_refl _))
      (frame_jpegDecWriteTables tableState_tableMem) fun _ h => h.room
  rw [wp_ite]
  split
  · refine Keeps.run (I := fun c => Fits (tableState c)) ?_ c' hc
    refine keeps_bind (keepsTable_of_unstarted
      (frame_jpegDecWriteLenBitsNonInterleaved noTable_index)) fun _ => ?_
    exact keepsTable_of_inTable (inTable_jpegDecWriteTablesNonInterleaved (Nat.le_refl _))
      (frame_jpegDecWriteTablesNonInterleaved tableState_tableMem) fun _ h => h.room
  · next hbaseline hnon =>
    have hop : c'.info.operationType = JPEGDEC_PROGRESSIVE := by
      cases h : c'.info.operationType with
      | baseline => exact absurd h hbaseline
      | nonInterleaved => exact absurd h hnon
      | progressive => rfl
    have hwriter : KeepsTable (fun s => Fits s ∧ s.progressive = true) (do
        jpegDecWriteLenBitsProgressive
        jpegDecWriteTablesProgressive : Decoder ρ Unit) := by
      refine keeps_bind (keepsTable_of_unstarted (I := fun s => Fits s ∧ s.progressive = true)
        frame_jpegDecWriteLenBitsProgressive) fun _ => ?_
      exact keepsTable_of_inTable (I := fun s => Fits s ∧ s.progressive = true)
        (inTable_jpegDecWriteTablesProgressive (Nat.le_refl _))
        (frame_jpegDecWriteTablesProgressive tableState_tableMem)
        fun _ h => h.1.room_progressive h.2
    exact wp_mono (hwriter.run c' ⟨hc, decide_eq_true hop⟩) (fun _ _ h => h.1) (fun _ _ h => h.1)
      (fun _ _ h => h)

theorem keepsTable_jpegDecInitHW : KeepsTable Fits (jpegDecInitHW : Decoder ρ Unit) := by
  have hregs : ∀ ws, KeepsTable Fits (rkSetRegisterFiles ws : Decoder ρ Unit) := fun ws =>
    keepsTable_of_unstarted (frame_rkSetRegisterFiles ws)
  refine keeps_bind (hregs _) fun _ => ?_
  refine keeps_bind (keepsTable_of_unstarted (frame_setCoeffBuffers noTable_index)) fun _ => ?_
  refine keeps_bind keepsTable_setTables fun _ => ?_
  refine keeps_bind (keepsTable_of_unstarted frame_jpegDecChromaTableSelectors) fun _ => ?_
  refine keeps_bind (hregs _) fun _ => ?_
  refine keeps_bind (keepsTable_of_unstarted frame_jpegDecSetHwStrmParams) fun _ => ?_
  refine keeps_bind (hregs _) fun _ => ?_
  refine keeps_bind (keepsTable_of_unstarted frame_setOutput) fun _ => ?_
  exact keeps_bind (keeps_modify fun _ h => h) fun _ => hregs _

/-- The restart of a progressive picture takes the writer of that mode, whatever the
mode is. -/
theorem keepsTable_jpegDecInitHWProgressiveContinue (hroom : ∀ s, I s → s.pTableBase.Room 144) :
    KeepsTable I (jpegDecInitHWProgressiveContinue : Decoder ρ Unit) := by
  have hregs : ∀ ws, KeepsTable I (rkSetRegisterFiles ws : Decoder ρ Unit) := fun ws =>
    keepsTable_of_unstarted (frame_rkSetRegisterFiles ws)
  refine keeps_bind (keepsTable_of_frame (frame_modify fun c => ?_)) fun _ => ?_
  · split <;> rfl
  refine keeps_bind (hregs _) fun _ => ?_
  refine keeps_bind (keeps_modify fun _ h => h) fun _ => ?_
  refine keeps_bind (keepsTable_of_unstarted frame_jpegDecSetHwStrmParams) fun _ => ?_
  refine keeps_bind (hregs _) fun _ => ?_
  refine keeps_bind (keepsTable_of_unstarted (frame_setCoeffBuffers noTable_index)) fun _ => ?_
  refine keeps_bind (keepsTable_of_unstarted frame_jpegDecWriteLenBitsProgressive) fun _ => ?_
  refine keeps_bind (keepsTable_of_inTable (inTable_jpegDecWriteTablesProgressive (Nat.le_refl _))
    (frame_jpegDecWriteTablesProgressive tableState_tableMem) hroom) fun _ => ?_
  refine keeps_bind (keepsTable_of_unstarted frame_jpegDecChromaTableSelectors) fun _ => ?_
  refine keeps_bind (hregs _) fun _ => ?_
  exact keeps_bind (keeps_modify fun _ h => h) fun _ => hregs _

theorem keepsTable_startOrContinue : KeepsTable Fits startOrContinue := by
  refine ⟨fun c hc => ?_⟩
  unfold startOrContinue
  rw [wp_bind, wp_gets, wp_ite]
  split
  · rw [wp_bind, wp_gets, wp_ite]
    split
    · refine wp_seq (keepsTable_jpegDecInitHW.run c hc) fun _ c' hc' => ?_
      exact hc'
    · next hready =>
      -- a scan is ready, so the memory has the larger size
      have hscan : (tableState c).scanReady ≠ 0 := by
        intro h0
        exact hready (decide_eq_true (Or.inl h0))
      have hroom : ∀ s, Fits s ∧ s.scanReady ≠ 0 → s.pTableBase.Room 144 := fun s h =>
        room_of_size (h.1.mapped h.1.allocated) (h.1.ready h.2).2
      refine wp_seq (M := fun _ c' => Fits (tableState c')) ?_ fun _ c' hc' => hc'.unready
      exact wp_mono ((keepsTable_jpegDecInitHWProgressiveContinue hroom).run c ⟨hc, hscan⟩)
        (fun _ _ h => h.1) (fun _ _ h => h.1) (fun _ _ h => h)
  · exact (keepsTable_of_standing frame_jpegDecInitHWContinue).run c hc

/-- **A start stays in a table memory that fits.** -/
theorem keepsTable_startHw : KeepsTable Fits startHw := by
  refine keeps_bind (keeps_modify fun _ h => h) fun _ => ?_
  refine keeps_bind (keeps_gets _) fun loaded => keeps_ite _ ?_ ?_
  · refine keeps_bind (keepsTable_of_standing (frame_modify fun c => ?_)) (fun _ => ?_)
    · split
      · exact standing_jpegDecSliceSizeCalculation c
      · rfl
    exact keeps_bind keepsTable_startOrContinue fun _ => keeps_modify fun _ h => h
  · refine keeps_bind (keepsTable_of_standing frame_jpegDecInitHWInputBuffLoad) (fun _ => ?_)
    exact keeps_modify fun _ h => h

end start

/-! ## Scan headers -/

section scan

variable {c : JpegDecContainer}

/-- What a scan header makes of the table memory: one that is there is kept, and
otherwise one is allocated in the size of the mode. -/
def Scanned (s s' : TableState) : Prop :=
  (s.allocated ≠ 0 ∧ s' = s) ∨
  (s.allocated = 0 ∧ s' = { s with pTableBase := s'.pTableBase, allocated := 1 } ∧
    s'.pTableBase.virAddr ≠ 0 ∧ s'.pTableBase.size = sizeOf s.progressive)

/-- What a scan header that is refused leaves of it. -/
def Refused (s s' : TableState) : Prop :=
  s' = { s with pTableBase := s'.pTableBase } ∧ (s.allocated ≠ 0 → s' = s)

theorem refused_self (s : TableState) : Refused s s := ⟨rfl, fun _ => rfl⟩

theorem Refused.sized {s s' : TableState} (h : Refused s s') (hs : s.Sized) : s'.Sized := by
  by_cases h0 : s.allocated = 0
  · have hready : s.scanReady = 0 := by
      by_contra hne
      exact (hs.ready hne).1 h0
    rw [h.1]
    exact ⟨fun hne => absurd h0 hne, fun hne => absurd h0 hne, fun hne => absurd hready hne⟩
  · rw [h.2 h0]
    exact hs

theorem Scanned.sized {s s' : TableState} (h : Scanned s s') (hs : s.Sized) : s'.Sized := by
  rcases h with ⟨-, rfl⟩ | ⟨h0, hs', hmapped, hsize⟩
  · exact hs
  · have hready : s'.scanReady = 0 := by
      rw [hs']
      by_contra hne
      exact (hs.ready hne).1 h0
    exact ⟨fun _ => hmapped, fun _ => ⟨_, hsize⟩, fun hne => absurd hready hne⟩

theorem tableState_layoutPlanes (chroma2 : OperationType → Nat → Nat → Nat)
    (c : JpegDecContainer) : tableState (layoutPlanes chroma2 c) = tableState c := by
  unfold layoutPlanes
  dsimp only
  split <;> rfl

theorem tableSize_eq (op : OperationType) :
    tableSize op = sizeOf (decide (op = JPEGDEC_PROGRESSIVE)) := by
  unfold tableSize sizeOf
  cases op <;> rfl

/-- An allocator whose memory is mapped where it has some. -/
def AllocReply.Maps (reply : AllocReply) : Prop := reply.ret ≠ -1 → reply.virAddr ≠ 0

/-- A memory in the size of the mode is mapped. -/
def Mapped (s s' : TableState) : Prop :=
  s' = { s with pTableBase := s'.pTableBase } ∧ s'.pTableBase.virAddr ≠ 0 ∧
    s'.pTableBase.size = sizeOf s.progressive

/-- The allocation, where no memory is allocated yet. -/
theorem wp_jpegDecAllocateResidual {reply : AllocReply} (hmaps : reply.Maps)
    (h0 : c.info.allocated = 0) :
    wp (jpegDecAllocateResidual reply) (fun _ c' => Mapped (tableState c) (tableState c'))
      (fun _ c' => Refused (tableState c) (tableState c')) (fun e _ => NoTable e) c := by
  unfold jpegDecAllocateResidual
  rw [wp_bind, wp_gets]
  refine wp_seq (M := fun _ c' => Mapped (tableState c) (tableState c')) ?_ fun _ c' hc' => ?_
  · rw [wp_whenever]
    split
    · rw [allocTable, wp_bind, wp_modify, wp_exitIf]
      split
      · exact ⟨rfl, fun hne => absurd h0 hne⟩
      · next hret => exact ⟨rfl, hmaps hret, tableSize_eq _⟩
    · -- a memory in the right size is there from an allocation that was given up
      next hsame =>
      rw [not_or, not_not] at hsame
      exact ⟨rfl, hsame.1, hsame.2.symm.trans (tableSize_eq _)⟩
  · have hplanes : tableState (if c'.info.givenOutLuma.virAddr = 0 then
        layoutPlanes residualChroma2 c' else givenPlanes c') = tableState c' := by
      split
      · exact tableState_layoutPlanes _ c'
      · rfl
    rw [wp_whenever, wp_modify]
    split
    · rwa [hplanes]
    · exact hc'

/-- **A scan** keeps the memory that is there, and leaves one in the size of the
mode. -/
theorem wp_jpegDecDecodeScan (mem : Nat → UInt8) {reply : AllocReply} (hmaps : reply.Maps)
    (c : JpegDecContainer) :
    wp (jpegDecDecodeScan mem reply) (fun _ c' => Scanned (tableState c) (tableState c'))
      (fun _ c' => Refused (tableState c) (tableState c')) (fun e _ => NoTable e) c := by
  have hheader : wp (jpegDecDecodeScanHeader mem) (fun _ c' => tableState c' = tableState c)
      (fun _ c' => Refused (tableState c) (tableState c')) (fun e _ => NoTable e) c := by
    refine wp_mono (((parses_jpegDecDecodeScanHeader mem).frame.part Standing.table _).run c rfl)
      (fun _ _ h => h) (fun _ c' h => ?_) (fun _ _ h => h.1)
    have hsame : tableState c' = tableState c := h
    rw [hsame]
    exact refused_self _
  refine wp_seq hheader fun _ c1 h1 => ?_
  rw [← h1, wp_bind, wp_gets, wp_ite]
  split
  · next h0 =>
    rw [decide_eq_true_eq] at h0
    refine wp_seq (wp_jpegDecAllocateResidual hmaps h0) fun _ c2 h2 => ?_
    have hstate : tableState { c2 with info.allocated := 1 } =
        { tableState c1 with pTableBase := c2.frame.pTableBase, allocated := 1 } := by
      change { tableState c2 with allocated := 1 } = _
      rw [h2.1]
      rfl
    exact Or.inr ⟨h0, hstate, h2.2⟩
  · next h0 =>
    rw [decide_eq_true_eq] at h0
    rw [wp_modify, tableState_layoutPlanes]
    exact Or.inl ⟨h0, rfl⟩

/-- The segment of a scan, after which a header counts as ready. -/
theorem wp_scanSegment {env : Env} (hmaps : env.alloc.Maps) (c : JpegDecContainer) :
    wp (scanSegment env)
      (fun _ c' => Scanned (tableState c) (tableState c') ∧ c'.image.headerReady ≠ 0)
      (fun _ c' => Scanned (tableState c) (tableState c') ∨ Refused (tableState c) (tableState c'))
      (fun e _ => NoTable e) c := by
  unfold scanSegment
  rw [wp_bind, wp_modify, wp_bind, wp_call]
  refine wp_mono (wp_jpegDecDecodeScan env.mem hmaps _) (fun _ c1 h1 => ?_) (fun r c1 h1 => ?_)
    (fun _ _ h => h)
  · rw [wp_bind, wp_modify, wp_bind, orReturn, wp_pure]
    have hstuffing := ((frame_deleteStuffing env).part
      (fun s => (s.table, s.headerReady)) _).run { c1 with image.headerReady := 1 } rfl
    refine wp_mono hstuffing (fun _ c2 h2 => ?_) (fun _ c2 h2 => ?_) (fun _ _ h => h.1)
    · have htable : tableState c2 = tableState c1 := congrArg Prod.fst h2
      have hready : c2.image.headerReady = 1 := congrArg Prod.snd h2
      rw [htable, hready]
      exact ⟨h1, Nat.one_ne_zero⟩
    · have htable : tableState c2 = tableState c1 := congrArg Prod.fst h2
      rw [htable]
      exact Or.inl h1
  · exact Or.inr h1

end scan

end Jpeg

end Rk3399
