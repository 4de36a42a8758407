import Rk3399.Jpeg.Model.Scan
/-!
# The shadow registers

The fields of the specification table `hwDecRegSpec` of `reg.cpp` the
decoder uses, as `6731table.h` lists them: word, width and position. The
shadow registers are written by `rk_SetRegisterFile` and read by
`rk_GetRegisterFile`, the write and the read of a bit field.
-/

namespace Rk3399

namespace Jpeg

open Prog

/-! ## Fields -/

def HWIF_DEC_LATENCY : BitField := ⟨50, 6, 1⟩
def HWIF_DEC_OUT_TILED_E : BitField := ⟨50, 1, 0⟩
def HWIF_FILTERING_DIS : BitField := ⟨50, 1, 8⟩
def HWIF_DEC_SCMD_DIS : BitField := ⟨50, 1, 10⟩
def HWIF_STREAM_LEN : BitField := ⟨51, 24, 0⟩
def HWIF_DEC_MODE : BitField := ⟨53, 4, 0⟩
def HWIF_DEC_IN_ENDIAN : BitField := ⟨54, 1, 0⟩
def HWIF_DEC_OUT_ENDIAN : BitField := ⟨54, 1, 1⟩
def HWIF_DEC_INSWAP32_E : BitField := ⟨54, 1, 2⟩
def HWIF_DEC_OUTSWAP32_E : BitField := ⟨54, 1, 3⟩
def HWIF_DEC_STRSWAP32_E : BitField := ⟨54, 1, 4⟩
def HWIF_DEC_STRENDIAN_E : BitField := ⟨54, 1, 5⟩
def HWIF_DEC_IRQ : BitField := ⟨55, 1, 0⟩
def HWIF_DEC_IRQ_DIS : BitField := ⟨55, 1, 1⟩
def HWIF_DEC_RDY_INT : BitField := ⟨55, 1, 4⟩
def HWIF_DEC_BUFFER_INT : BitField := ⟨55, 1, 6⟩
def HWIF_DEC_SLICE_INT : BitField := ⟨55, 1, 9⟩
def HWIF_DEC_IRQ_STAT : BitField := ⟨55, 10, 4⟩
def HWIF_DEC_AXI_RD_ID : BitField := ⟨56, 8, 0⟩
def HWIF_DEC_AXI_WR_ID : BitField := ⟨56, 8, 8⟩
def HWIF_DEC_MAX_BURST : BitField := ⟨56, 5, 16⟩
def HWIF_DEC_DATA_DISC_E : BitField := ⟨56, 1, 22⟩
def HWIF_DEC_E : BitField := ⟨57, 1, 0⟩
def HWIF_DEC_OUT_DIS : BitField := ⟨57, 1, 2⟩
def HWIF_DEC_CLK_GATE_E : BitField := ⟨57, 1, 4⟩
def HWIF_DEC_TIMEOUT_E : BitField := ⟨57, 1, 5⟩
def HWIF_PJPEG_E : BitField := ⟨57, 1, 18⟩
def HWIF_RLC_MODE_E : BitField := ⟨57, 1, 20⟩
def HWIF_QTABLE_BASE : BitField := ⟨61, 32, 0⟩
def HWIF_DEC_OUT_BASE : BitField := ⟨63, 32, 0⟩
def HWIF_RLC_VLC_BASE : BitField := ⟨64, 32, 0⟩
def HWIF_PIC_MB_H_EXT : BitField := ⟨120, 3, 0⟩
def HWIF_PIC_MB_W_EXT : BitField := ⟨120, 3, 3⟩
def HWIF_PIC_MB_HEIGHT_P : BitField := ⟨120, 8, 11⟩
def HWIF_PIC_MB_WIDTH : BitField := ⟨120, 9, 23⟩
def HWIF_PJPEG_SE : BitField := ⟨121, 8, 0⟩
def HWIF_PJPEG_SS : BitField := ⟨121, 8, 8⟩
def HWIF_PJPEG_AL : BitField := ⟨121, 4, 16⟩
def HWIF_PJPEG_AH : BitField := ⟨121, 4, 20⟩
def HWIF_PJPEG_HDIV8 : BitField := ⟨121, 1, 24⟩
def HWIF_PJPEG_WDIV8 : BitField := ⟨121, 1, 25⟩
def HWIF_PJPEG_FILDOWN_E : BitField := ⟨121, 1, 26⟩
def HWIF_CB_DC_VLCTABLE3 : BitField := ⟨122, 1, 0⟩
def HWIF_CR_DC_VLCTABLE3 : BitField := ⟨122, 1, 1⟩
def HWIF_CB_DC_VLCTABLE : BitField := ⟨122, 1, 2⟩
def HWIF_CR_DC_VLCTABLE : BitField := ⟨122, 1, 3⟩
def HWIF_CB_AC_VLCTABLE : BitField := ⟨122, 1, 4⟩
def HWIF_CR_AC_VLCTABLE : BitField := ⟨122, 1, 5⟩
def HWIF_JPEG_STREAM_ALL : BitField := ⟨122, 1, 6⟩
def HWIF_JPEG_FILRIGHT_E : BitField := ⟨122, 1, 7⟩
def HWIF_JPEG_MODE : BitField := ⟨122, 3, 8⟩
def HWIF_JPEG_QTABLES : BitField := ⟨122, 2, 11⟩
def HWIF_SYNC_MARKER_E : BitField := ⟨122, 1, 25⟩
def HWIF_STRM_START_BIT : BitField := ⟨122, 6, 26⟩
def HWIF_PJPEG_REST_FREQ : BitField := ⟨123, 16, 0⟩
def HWIF_PJPEG_DCCB_BASE : BitField := ⟨125, 32, 0⟩
def HWIF_PJPEG_DCCR_BASE : BitField := ⟨126, 32, 0⟩
/-- The enumeration gives it the value of `HWIF_DIR_MV_BASE`. -/
def HWIF_PJPEG_COEFF_BUF : BitField := ⟨62, 32, 0⟩
def HWIF_JPG_CH_OUT_BASE : BitField := ⟨131, 32, 0⟩
def HWIF_REFER13_BASE : BitField := ⟨145, 32, 0⟩
def HWIF_JPEG_SLICE_H : BitField := ⟨148, 8, 0⟩

def HWIF_AC1_CODE1_CNT : BitField := ⟨134, 2, 0⟩

/-- `HWIF_AC1_CODE1_CNT` to `HWIF_AC1_CODE16_CNT`. -/
def HWIF_AC1_CODE_CNT : List BitField :=
  [⟨134, 2, 0⟩, ⟨134, 3, 3⟩, ⟨134, 4, 7⟩, ⟨134, 5, 11⟩,
   ⟨134, 6, 16⟩, ⟨134, 7, 24⟩, ⟨135, 8, 0⟩, ⟨135, 8, 8⟩,
   ⟨135, 8, 16⟩, ⟨135, 8, 24⟩, ⟨136, 8, 0⟩, ⟨136, 8, 8⟩,
   ⟨136, 8, 16⟩, ⟨136, 8, 24⟩, ⟨137, 8, 0⟩, ⟨137, 8, 8⟩]

/-- `HWIF_AC2_CODE1_CNT` to `HWIF_AC2_CODE16_CNT`. -/
def HWIF_AC2_CODE_CNT : List BitField :=
  [⟨137, 2, 16⟩, ⟨137, 3, 19⟩, ⟨137, 4, 23⟩, ⟨137, 5, 27⟩,
   ⟨138, 6, 0⟩, ⟨138, 7, 8⟩, ⟨138, 8, 16⟩, ⟨138, 8, 24⟩,
   ⟨139, 8, 0⟩, ⟨139, 8, 8⟩, ⟨139, 8, 16⟩, ⟨139, 8, 24⟩,
   ⟨140, 8, 0⟩, ⟨140, 8, 8⟩, ⟨140, 8, 16⟩, ⟨140, 8, 24⟩]

/-- `HWIF_DC1_CODE1_CNT` to `HWIF_DC1_CODE16_CNT`. -/
def HWIF_DC1_CODE_CNT : List BitField :=
  [⟨141, 2, 0⟩, ⟨141, 3, 4⟩, ⟨141, 4, 8⟩, ⟨141, 4, 12⟩,
   ⟨141, 4, 16⟩, ⟨141, 4, 20⟩, ⟨141, 4, 24⟩, ⟨141, 4, 28⟩,
   ⟨142, 4, 0⟩, ⟨142, 4, 4⟩, ⟨142, 4, 8⟩, ⟨142, 4, 12⟩,
   ⟨142, 4, 16⟩, ⟨142, 4, 20⟩, ⟨142, 4, 24⟩, ⟨142, 4, 28⟩]

/-- `HWIF_DC2_CODE1_CNT` to `HWIF_DC2_CODE16_CNT`. -/
def HWIF_DC2_CODE_CNT : List BitField :=
  [⟨143, 2, 0⟩, ⟨143, 3, 4⟩, ⟨143, 4, 8⟩, ⟨143, 4, 12⟩,
   ⟨143, 4, 16⟩, ⟨143, 4, 20⟩, ⟨143, 4, 24⟩, ⟨143, 4, 28⟩,
   ⟨144, 4, 0⟩, ⟨144, 4, 4⟩, ⟨144, 4, 8⟩, ⟨144, 4, 12⟩,
   ⟨144, 4, 16⟩, ⟨144, 4, 20⟩, ⟨144, 4, 24⟩, ⟨144, 4, 28⟩]

/-- `HWIF_DC3_CODE1_CNT` to `HWIF_DC3_CODE16_CNT`. -/
def HWIF_DC3_CODE_CNT : List BitField :=
  [⟨145, 2, 0⟩, ⟨145, 3, 4⟩, ⟨145, 4, 8⟩, ⟨145, 4, 12⟩,
   ⟨145, 4, 16⟩, ⟨145, 4, 20⟩, ⟨145, 4, 24⟩, ⟨145, 4, 28⟩,
   ⟨146, 4, 0⟩, ⟨146, 4, 4⟩, ⟨146, 4, 8⟩, ⟨146, 4, 12⟩,
   ⟨146, 4, 16⟩, ⟨146, 4, 20⟩, ⟨146, 4, 24⟩, ⟨146, 4, 28⟩]

/-! ## Access -/

variable {ρ : Type}

/-- `rk_GetRegisterFile(reghandle, id)`. -/
def rkGetRegisterFile (id : BitField) (c : JpegDecContainer) : Nat := (id.get c.jpegRegs).toNat

/-- Register values as 32-bit words. -/
def asWords (ws : List (BitField × Nat)) : List (BitField × BitVec 32) :=
  ws.map fun p => (p.1, BitVec.ofNat 32 p.2)

/-- `rk_SetRegisterFile(reghandle, id, value)` for the fields and values of a
list, in order. -/
def rkSetRegisterFiles (ws : JpegDecContainer → List (BitField × Nat)) : Decoder ρ Unit :=
  modify fun c => { c with jpegRegs := BitField.writes (asWords (ws c)) c.jpegRegs }

/-- The counts of a table for the fields of a code table. -/
def counts (fields : List BitField) (bits : List Nat) : List (BitField × Nat) :=
  fields.zipIdx.map fun p => (p.1, bits.getD p.2 0)

/-! ## Code-length counts -/

/-- The identifiers of the table the two baseline writers take for the selector
of the luma table, and of the one they take for the other table. -/
def tablePair (sel : Nat) : Fin 4 × Fin 4 := if sel = 0 then (0, 1) else (1, 0)

/-- The AC tables of a selector. -/
def acTables (Ta : Nat) (v : HuffmanTables) : VlcTable × VlcTable :=
  (v.get .ac (tablePair Ta).1, v.get .ac (tablePair Ta).2)

/-- The DC tables of a selector. -/
def dcTables (Td : Nat) (v : HuffmanTables) : VlcTable × VlcTable :=
  (v.get .dc (tablePair Td).1, v.get .dc (tablePair Td).2)

/-- The counts of an interleaved baseline scan. -/
def jpegDecWriteLenBits : Decoder ρ Unit := do
  rkSetRegisterFiles fun c => counts HWIF_AC1_CODE_CNT (acTables (c.scan.Ta 0) c.vlc).1.bits
  rkSetRegisterFiles fun c => counts HWIF_AC2_CODE_CNT (acTables (c.scan.Ta 0) c.vlc).2.bits
  rkSetRegisterFiles fun c => counts HWIF_DC1_CODE_CNT (dcTables (c.scan.Td 0) c.vlc).1.bits
  rkSetRegisterFiles fun c => counts HWIF_DC2_CODE_CNT (dcTables (c.scan.Td 0) c.vlc).2.bits

/-- The counts of a non-interleaved baseline scan. -/
def jpegDecWriteLenBitsNonInterleaved : Decoder ρ Unit := do
  let k ← subscript (← gets (·.info.componentId))
  rkSetRegisterFiles fun c => counts HWIF_AC1_CODE_CNT (acTables (c.scan.Ta k) c.vlc).1.bits
  rkSetRegisterFiles fun c => counts HWIF_DC1_CODE_CNT (dcTables (c.scan.Td k) c.vlc).1.bits

/-- The table a selector of a progressive scan names: every value above two is
the last one. -/
def selectTable (Tc : TableClass) (n : Nat) (v : HuffmanTables) : VlcTable :=
  v.get Tc (if n = 0 then 0 else if n = 1 then 1 else if n = 2 then 2 else 3)

/-- The component `JpegDecWriteLenBitsProgressive` takes for a component
index. -/
def lenBitsComponent (componentId : Nat) : Fin 3 :=
  if componentId = 0 then 0 else if componentId = 1 then 1 else 2

/-- The DC counts of a progressive scan, none where it refines. -/
def progressiveCounts (k : Fin 3) (c : JpegDecContainer) : List Nat :=
  if c.scan.Ah = 0 then (selectTable .dc (c.scan.Td k) c.vlc).bits else List.replicate 16 0

/-- The counts of a progressive scan. -/
def jpegDecWriteLenBitsProgressive : Decoder ρ Unit := do
  modify fun c => { c with jpegRegs := fun i => if 134 ≤ i ∧ i < 147 then 0 else c.jpegRegs i }
  if ← gets (fun c => decide (c.info.nonInterleaved ≠ 0)) then
    let k ← gets fun c => lenBitsComponent c.info.componentId
    rkSetRegisterFiles fun c =>
      if c.scan.Ss = 0 then counts HWIF_DC1_CODE_CNT (progressiveCounts k c)
      else counts HWIF_AC1_CODE_CNT (selectTable .ac (c.scan.Ta k) c.vlc).bits
  else
    rkSetRegisterFiles fun c => counts HWIF_DC1_CODE_CNT (progressiveCounts 0 c)
    rkSetRegisterFiles fun c => counts HWIF_DC2_CODE_CNT (progressiveCounts 1 c)
    rkSetRegisterFiles fun c => counts HWIF_DC3_CODE_CNT (progressiveCounts 2 c)

/-! ## Table selectors -/

/-- The selector of a chroma component: the luma table is always table one of
the hardware, so the selectors are swapped where luma does not use table
zero. -/
def chromaSelector (luma chroma : Nat) : Nat :=
  if luma = 0 then chroma else if luma = chroma then 0 else 1

/-- The DC selectors of a scan: the third table is there for progressive scans
only. -/
def dcSelectors (c : JpegDecContainer) : List (BitField × Nat) :=
  if c.info.operationType ≠ JPEGDEC_PROGRESSIVE then
    [(HWIF_CR_DC_VLCTABLE, chromaSelector (c.scan.Td 0) (c.scan.Td 2)),
     (HWIF_CB_DC_VLCTABLE, chromaSelector (c.scan.Td 0) (c.scan.Td 1)),
     (HWIF_CR_DC_VLCTABLE3, 0), (HWIF_CB_DC_VLCTABLE3, 0)]
  else if c.info.nonInterleaved ≠ 0 ∨ (c.scan.Ah ≠ 0 ∧ c.scan.Ss = 0) then
    [(HWIF_CR_DC_VLCTABLE, 0), (HWIF_CB_DC_VLCTABLE, 0),
     (HWIF_CR_DC_VLCTABLE3, 0), (HWIF_CB_DC_VLCTABLE3, 0)]
  else
    [(HWIF_CR_DC_VLCTABLE, 0), (HWIF_CR_DC_VLCTABLE3, 1),
     (HWIF_CB_DC_VLCTABLE, 1), (HWIF_CB_DC_VLCTABLE3, 0)]

/-- The AC selectors of a scan. -/
def acSelectors (c : JpegDecContainer) : List (BitField × Nat) :=
  [(HWIF_CR_AC_VLCTABLE, chromaSelector (c.scan.Ta 0) (c.scan.Ta 2)),
   (HWIF_CB_AC_VLCTABLE, chromaSelector (c.scan.Ta 0) (c.scan.Ta 1))]

/-- The tables the chroma components use. -/
def jpegDecChromaTableSelectors : Decoder ρ Unit := do
  rkSetRegisterFiles acSelectors
  rkSetRegisterFiles dcSelectors

end Jpeg

end Rk3399
