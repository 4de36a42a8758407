import Rk3399.Jpeg.Helpers.Bytes
import Rk3399.Jpeg.Helpers.TableImage
import Rk3399.Jpeg.Model.Scan
/-!
# Scan headers

`JpegDecDecodeScanHeader` takes the index of a single component from its
identifier, and loops over the components of an interleaved scan without
asking how many there are; the identifiers are compared with nothing, and
of the spectral selection a progressive scan is asked only whether a DC
scan is one. What it accepts is in bounds and well formed where the bytes
happen to be so.
-/

namespace Rk3399

namespace Jpeg

open Prog StreamStorage

variable {mem : Nat → UInt8} {c : JpegDecContainer}

/-! ## What is refused -/

/-- The operation type a scan of one component goes on with. -/
def singleOperation (c : JpegDecContainer) : OperationType :=
  if c.info.operationType = JPEGDEC_BASELINE ∧ c.info.yCbCrMode ≠ JPEGDEC_YUV400 then
    JPEGDEC_NONINTERLEAVED
  else c.info.operationType

/-- A scan of the chroma component alone has sizes for its sampling only. -/
def ChromaRefused (op : OperationType) (c : JpegDecContainer) : Prop :=
  (op = JPEGDEC_PROGRESSIVE ∨ op = JPEGDEC_NONINTERLEAVED ∨ c.info.nonInterleavedScanReady ≠ 0) ∧
    c.info.yCbCrModeOrig ≠ JPEGDEC_YUV420 ∧ c.info.yCbCrModeOrig ≠ JPEGDEC_YUV422 ∧
      c.info.yCbCrModeOrig ≠ JPEGDEC_YUV440

/-- A scan of the component `Cs` of three is refused for the sampling of the picture. -/
def ComponentRefused (op : OperationType) (Cs : Nat) (c : JpegDecContainer) : Prop :=
  if Cs = 1 then c.info.yCbCrMode = JPEGDEC_YUV444 else ChromaRefused op c

instance (op : OperationType) (c : JpegDecContainer) : Decidable (ChromaRefused op c) :=
  inferInstanceAs (Decidable (_ ∧ _))

instance (op : OperationType) (Cs : Nat) (c : JpegDecContainer) :
    Decidable (ComponentRefused op Cs c) := by
  unfold ComponentRefused
  infer_instance

/-- The spectral selection and the approximation are refused for the coding type. -/
def ParamsRefused (codingType Ss Se Ah Al : Nat) : Prop :=
  (codingType = SOF0 ∧ (Ss ≠ 0 ∨ Se ≠ 63 ∨ Ah ≠ 0 ∨ Al ≠ 0)) ∨
    (codingType = SOF2 ∧ ((Ss = 0 ∧ Se ≠ 0) ∨ 13 < Ah ∨ 13 < Al))

instance (codingType Ss Se Ah Al : Nat) : Decidable (ParamsRefused codingType Ss Se Ah Al) :=
  inferInstanceAs (Decidable (_ ∨ _))

/-! ## The steps -/

/-- What a step on the sizes and modes leaves alone. -/
def SameScanFrame (c c' : JpegDecContainer) : Prop :=
  c'.stream = c.stream ∧ c'.scan = c.scan ∧ c'.frame = c.frame

theorem wp_scanChroma (c : JpegDecContainer) :
    wp scanChroma (fun _ c' => ¬ ChromaRefused c.info.operationType c ∧ SameScanFrame c c')
      (fun _ _ => ChromaRefused c.info.operationType c) (fun _ _ => False) c := by
  unfold scanChroma
  rw [wp_bind, wp_whenever]
  by_cases hsizes : c.info.operationType = JPEGDEC_PROGRESSIVE ∨
      c.info.operationType = JPEGDEC_NONINTERLEAVED ∨ c.info.nonInterleavedScanReady ≠ 0
  · rw [if_pos hsizes, wp_bind, wp_gets, wp_ite]
    by_cases h420 : c.info.yCbCrModeOrig = JPEGDEC_YUV420
    · rw [if_pos h420, wp_modify, wp_modify]
      exact ⟨fun h => h.2.1 h420, rfl, rfl, rfl⟩
    · rw [if_neg h420, wp_ite]
      by_cases h422 : c.info.yCbCrModeOrig = JPEGDEC_YUV422
      · rw [if_pos h422, wp_modify, wp_modify]
        exact ⟨fun h => h.2.2.1 h422, rfl, rfl, rfl⟩
      · rw [if_neg h422, wp_ite]
        by_cases h440 : c.info.yCbCrModeOrig = JPEGDEC_YUV440
        · rw [if_pos h440, wp_modify, wp_modify]
          exact ⟨fun h => h.2.2.2 h440, rfl, rfl, rfl⟩
        · rw [if_neg h440, wp_bind, wp_modify, wp_exit]
          exact ⟨hsizes, h420, h422, h440⟩
  · rw [if_neg hsizes, wp_modify]
    exact ⟨fun h => hsizes h.1, rfl, rfl, rfl⟩

theorem wp_scanLuma (cIndex : Nat) (c : JpegDecContainer) :
    wp (scanLuma cIndex) (fun _ c' => c.info.yCbCrMode ≠ JPEGDEC_YUV444 ∧ SameScanFrame c c')
      (fun _ _ => c.info.yCbCrMode = JPEGDEC_YUV444) (fun _ _ => False) c := by
  have hdiffer : JPEGDEC_YUV420 ≠ JPEGDEC_YUV444 ∧ JPEGDEC_YUV422 ≠ JPEGDEC_YUV444 := by decide
  unfold scanLuma
  rw [wp_bind, wp_modify, wp_bind, wp_gets, wp_ite]
  by_cases h420 : c.info.yCbCrMode = JPEGDEC_YUV420
  · rw [if_pos h420, wp_modify]
    exact ⟨fun h => hdiffer.1 (h420.symm.trans h), rfl, rfl, rfl⟩
  · rw [if_neg h420, wp_ite]
    by_cases h422 : c.info.yCbCrMode = JPEGDEC_YUV422
    · rw [if_pos h422, wp_modify]
      exact ⟨fun h => hdiffer.2 (h422.symm.trans h), rfl, rfl, rfl⟩
    · rw [if_neg h422, wp_ite]
      by_cases h444 : c.info.yCbCrMode = JPEGDEC_YUV444
      · rw [if_pos h444, wp_bind, wp_modify, wp_exit]
        exact h444
      · rw [if_neg h444, wp_pure]
        exact ⟨h444, rfl, rfl, rfl⟩

/-- The component update, for an identifier that is an index one too high. -/
theorem wp_scanUpdate {Cs : Nat} (hCs : 1 ≤ Cs ∧ Cs ≤ 3) (cIndex : Fin 3) (c : JpegDecContainer) :
    wp (scanUpdate cIndex Cs)
      (fun _ c' => ¬ (c.frame.Nf = 3 ∧ ComponentRefused c.info.operationType Cs c) ∧
        SameScanFrame c c')
      (fun _ _ => c.frame.Nf = 3 ∧ ComponentRefused c.info.operationType Cs c)
      (fun _ _ => False) c := by
  have hindex : sub32 Cs 1 < 3 := by
    unfold sub32
    omega
  unfold scanUpdate
  rw [wp_bind, wp_gets, wp_ite]
  by_cases h3 : c.frame.Nf = 3
  · rw [if_pos h3, wp_bind, wp_modify, wp_bind, wp_of_next (subscript_eq hindex), wp_bind,
      wp_modify, wp_bind]
    -- the checks of the luma component, or those of a chroma one
    unfold scanComponent
    by_cases h1 : Cs = 1
    · rw [wp_ite, if_neg (by omega), wp_ite, if_pos h1]
      refine wp_mono (wp_scanLuma _ _) ?_ ?_ fun _ _ h => h
      · rintro - c' ⟨hmode, hstream, hscan, hframe⟩
        rw [wp_modify]
        refine ⟨fun h => hmode ?_, hstream, hscan, hframe⟩
        have hrefused := h.2
        rwa [ComponentRefused, if_pos h1] at hrefused
      · intro r c' hmode
        exact ⟨h3, by rw [ComponentRefused, if_pos h1]; exact hmode⟩
    · rw [wp_ite, if_pos (by omega)]
      refine wp_mono (wp_scanChroma _) ?_ ?_ fun _ _ h => h
      · rintro - c' ⟨hchroma, hstream, hscan, hframe⟩
        rw [wp_modify]
        refine ⟨fun h => hchroma ?_, hstream, hscan, hframe⟩
        have hrefused := h.2
        rwa [ComponentRefused, if_neg h1] at hrefused
      · intro r c' hchroma
        exact ⟨h3, by rw [ComponentRefused, if_neg h1]; exact hchroma⟩
  · rw [if_neg h3, wp_ite]
    split
    · rw [wp_modify]
      exact ⟨fun h => h3 h.1, rfl, rfl, rfl⟩
    · rw [wp_pure]
      exact ⟨fun h => h3 h.1, rfl, rfl, rfl⟩

/-! ## The body -/

/-- What the body of a header of `n` bytes leaves for the parameters. -/
structure BodyRead (n : Nat) (c c' : JpegDecContainer) : Prop where
  stream : c'.stream = c.stream.read n
  Ns : c'.scan.Ns = c.scan.Ns
  codingType : c'.frame.codingType = c.frame.codingType

/-- A scan of one component. -/
theorem wp_scanSingle (h : c.stream.AtByte) :
    wp (scanSingle mem)
      (fun _ c' => (1 ≤ c.stream.byteAt mem 0 ∧ c.stream.byteAt mem 0 ≤ 3) ∧
        ¬ (c.frame.Nf = 3 ∧ ComponentRefused (singleOperation c) (c.stream.byteAt mem 0) c) ∧
        BodyRead 2 c c')
      (fun _ _ => (1 ≤ c.stream.byteAt mem 0 ∧ c.stream.byteAt mem 0 ≤ 3) ∧
        c.frame.Nf = 3 ∧ ComponentRefused (singleOperation c) (c.stream.byteAt mem 0) c)
      (fun _ _ => ¬ (1 ≤ c.stream.byteAt mem 0 ∧ c.stream.byteAt mem 0 ≤ 3)) c := by
  obtain ⟨Cs, hCs⟩ : ∃ Cs, Cs = c.stream.byteAt mem 0 := ⟨_, rfl⟩
  have hlt : Cs < 2 ^ 32 := hCs ▸ byteAt_lt_word mem c.stream 0
  -- the state behind the operation type, and behind the component byte
  obtain ⟨c0, hc0⟩ : ∃ c0, c0 = { c with info.operationType := singleOperation c } := ⟨_, rfl⟩
  have hstart : (modify fun c => { c with info.operationType :=
      if c.info.operationType = JPEGDEC_BASELINE ∧ c.info.yCbCrMode ≠ JPEGDEC_YUV400 then
        JPEGDEC_NONINTERLEAVED
      else c.info.operationType } : Decoder JpegDecRet Unit) c = .next () c0 := by
    rw [hc0]
    rfl
  obtain ⟨c1, hc1⟩ : ∃ c1, c1 = { c with
    info.operationType := singleOperation c, stream := c.stream.read 1 } := ⟨_, rfl⟩
  have hfirst : wp (getByte mem : Decoder JpegDecRet Nat) (fun b s => b = Cs ∧ s = c1)
      (fun _ _ => False) (fun _ _ => False) c0 := by
    rw [wp_of_next (getByte_eq (by rw [hc0]; exact h)), hCs, hc1, hc0]
    exact ⟨rfl, rfl⟩
  rw [← hCs]
  unfold scanSingle
  rw [wp_bind, wp_of_next hstart]
  refine wp_seq (wp_mono hfirst (fun _ _ h => h) (fun _ _ h => h.elim) fun _ _ h => h.elim) ?_
  rintro b s ⟨rfl, rfl⟩
  rw [wp_bind, wp_modify, wp_bind]
  by_cases hin : 1 ≤ b ∧ b ≤ 3
  · have hindex : sub32 b 1 < 3 := by
      unfold sub32
      omega
    rw [wp_of_next (subscript_eq hindex), wp_bind, wp_modify, wp_bind]
    rw [wp_of_next (getByte_eq (by rw [hc1]; exact h.read 1)), wp_bind, wp_modify]
    refine wp_seq (wp_mono (wp_scanUpdate hin _ _) (fun _ _ h => h) ?_ fun _ _ h => h.elim) ?_
    · intro r c' hrefused
      rw [hc1] at hrefused
      exact ⟨hin, hrefused⟩
    · rintro - c' ⟨hok, hstream, hscan, hframe⟩
      rw [hc1] at hok hstream hscan hframe
      rw [wp_modify]
      refine ⟨hin, hok, ⟨?_, ?_, ?_⟩⟩
      · show c'.stream = _
        rw [hstream]
        exact read_read 1 1 c.stream
      · show c'.scan.Ns = _
        rw [hscan]
      · show c'.frame.codingType = _
        rw [hframe]
  · -- a component the frame does not have is out of its array
    have hout : ¬ sub32 b 1 < 3 := by
      unfold sub32
      omega
    unfold wp subscript
    rw [dif_neg hout]
    exact hin

/-- The loop over the components of an interleaved scan. -/
theorem wp_scanComponents (n : Nat) : ∀ {i : Nat} {c : JpegDecContainer}, c.stream.AtByte →
    wp (scanComponents mem n i) (fun _ c' => (i + n ≤ 3 ∨ n = 0) ∧ BodyRead (2 * n) c c')
      (fun _ _ => False) (fun _ _ => 3 < i + n) c := by
  induction n with
  | zero =>
    intro i c _
    exact ⟨Or.inr rfl, ⟨(read_zero c.stream).symm, rfl, rfl⟩⟩
  | succ n ih =>
    intro i c h
    rw [scanComponents, wp_bind, wp_of_next (getByte_eq h), wp_bind]
    by_cases hi : i < 3
    · rw [wp_of_next (subscript_eq hi), wp_bind, wp_modify, wp_bind,
        wp_of_next (getByte_eq (h.read 1)), wp_bind, wp_modify]
      refine wp_mono (ih ((h.read 1).read 1)) ?_ (fun _ _ h => h) fun _ _ h => by omega
      rintro - c' ⟨hn, hstream, hNs, hcoding⟩
      refine ⟨Or.inl (by omega), ⟨?_, hNs, hcoding⟩⟩
      rw [hstream]
      show ((c.stream.read 1).read 1).read (2 * n) = _
      rw [read_read, read_read]
      congr 1
      omega
    · unfold wp subscript
      rw [dif_neg hi]
      show 3 < i + (n + 1)
      omega

theorem wp_scanInterleaved (h : c.stream.AtByte) (Ns : Nat) :
    wp (scanInterleaved mem Ns) (fun _ c' => Ns ≤ 3 ∧ BodyRead (2 * Ns) c c') (fun _ _ => False)
      (fun _ _ => ¬ Ns ≤ 3) c := by
  unfold scanInterleaved
  refine wp_seq (wp_mono (wp_scanComponents Ns h) (fun _ _ h => h) (fun _ _ h => h)
    fun _ _ h => by omega) ?_
  rintro - c' ⟨hn, hbody⟩
  rw [wp_modify]
  exact ⟨by omega, ⟨hbody.stream, hbody.Ns, hbody.codingType⟩⟩

/-! ## The parameters -/

/-- The checks of the parameters. -/
theorem wp_scanChecks (c : JpegDecContainer) :
    wp (do
      whenever (fun c => c.frame.codingType = SOF0) do
        exitIf .unsupported fun c => c.scan.Ss ≠ 0
        exitIf .unsupported fun c => c.scan.Se ≠ 63
        exitIf .unsupported fun c => c.scan.Ah ≠ 0
        exitIf .unsupported fun c => c.scan.Al ≠ 0
        modify baselineScan
      whenever (fun c => c.frame.codingType = SOF2) do
        exitIf .unsupported fun c => c.scan.Ss = 0 ∧ c.scan.Se ≠ 0
        exitIf .unsupported fun c => 13 < c.scan.Ah
        exitIf .unsupported fun c => 13 < c.scan.Al
        modify progressiveScan : Decoder JpegDecRet Unit)
      (fun _ c' => ¬ ParamsRefused c.frame.codingType c.scan.Ss c.scan.Se c.scan.Ah c.scan.Al ∧
        c'.scan = c.scan)
      (fun _ _ => ParamsRefused c.frame.codingType c.scan.Ss c.scan.Se c.scan.Ah c.scan.Al)
      (fun _ _ => False) c := by
  have hdiffer : SOF0 ≠ SOF2 := by decide
  have hprogressive : (progressiveScan c).scan = c.scan := by
    unfold progressiveScan
    split
    · rfl
    · rfl
  unfold ParamsRefused
  rw [wp_bind, wp_whenever]
  by_cases h0 : c.frame.codingType = SOF0
  · have h2 : c.frame.codingType ≠ SOF2 := fun h => hdiffer (h0.symm.trans h)
    -- a baseline scan: four checks in turn
    rw [if_pos h0, wp_bind, wp_exitIf]
    split
    · rename_i hSs
      exact Or.inl ⟨h0, Or.inl hSs⟩
    · rename_i hSs
      rw [wp_bind, wp_exitIf]
      split
      · rename_i hSe
        exact Or.inl ⟨h0, Or.inr (Or.inl hSe)⟩
      · rename_i hSe
        rw [wp_bind, wp_exitIf]
        split
        · rename_i hAh
          exact Or.inl ⟨h0, Or.inr (Or.inr (Or.inl hAh))⟩
        · rename_i hAh
          rw [wp_bind, wp_exitIf]
          split
          · rename_i hAl
            exact Or.inl ⟨h0, Or.inr (Or.inr (Or.inr hAl))⟩
          · rename_i hAl
            rw [wp_modify, wp_whenever,
              if_neg (show ¬ (baselineScan c).frame.codingType = SOF2 from h2)]
            refine ⟨?_, rfl⟩
            rintro (⟨-, hbad⟩ | ⟨hbad, -⟩)
            · rcases hbad with hbad | hbad | hbad | hbad
              · exact hSs hbad
              · exact hSe hbad
              · exact hAh hbad
              · exact hAl hbad
            · exact h2 hbad
  · rw [if_neg h0, wp_whenever]
    by_cases h2 : c.frame.codingType = SOF2
    · -- a progressive scan: three checks in turn
      rw [if_pos h2, wp_bind, wp_exitIf]
      split
      · rename_i hSe
        exact Or.inr ⟨h2, Or.inl hSe⟩
      · rename_i hSe
        rw [wp_bind, wp_exitIf]
        split
        · rename_i hAh
          exact Or.inr ⟨h2, Or.inr (Or.inl hAh)⟩
        · rename_i hAh
          rw [wp_bind, wp_exitIf]
          split
          · rename_i hAl
            exact Or.inr ⟨h2, Or.inr (Or.inr hAl)⟩
          · rename_i hAl
            rw [wp_modify]
            refine ⟨?_, hprogressive⟩
            rintro (⟨hbad, -⟩ | ⟨-, hbad⟩)
            · exact h0 hbad
            · rcases hbad with hbad | hbad | hbad
              · exact hSe hbad
              · exact hAh hbad
              · exact hAl hbad
    · rw [if_neg h2]
      refine ⟨?_, rfl⟩
      rintro (⟨hbad, -⟩ | ⟨hbad, -⟩)
      · exact h0 hbad
      · exact h2 hbad

theorem wp_scanParams (h : c.stream.AtByte) :
    wp (scanParams mem)
      (fun _ c' => ¬ ParamsRefused c.frame.codingType (c.stream.byteAt mem 0)
          (c.stream.byteAt mem 1) (c.stream.byteAt mem 2 / 16) (c.stream.byteAt mem 2 % 16) ∧
        c'.scan.Ns = c.scan.Ns ∧ c'.scan.Ss = c.stream.byteAt mem 0 ∧
        c'.scan.Se = c.stream.byteAt mem 1)
      (fun _ _ => ParamsRefused c.frame.codingType (c.stream.byteAt mem 0)
          (c.stream.byteAt mem 1) (c.stream.byteAt mem 2 / 16) (c.stream.byteAt mem 2 % 16))
      (fun _ _ => False) c := by
  obtain ⟨Ss, hSs⟩ : ∃ Ss, Ss = c.stream.byteAt mem 0 := ⟨_, rfl⟩
  obtain ⟨Se, hSe⟩ : ∃ Se, Se = c.stream.byteAt mem 1 := ⟨_, rfl⟩
  obtain ⟨tmp, htmp⟩ : ∃ tmp, tmp = c.stream.byteAt mem 2 := ⟨_, rfl⟩
  obtain ⟨c3, hc3⟩ : ∃ c3, c3 = { c with
    stream := ((c.stream.read 1).read 1).read 1
    scan := { c.scan with Ss := Ss, Se := Se, Ah := tmp / 16, Al := tmp % 16 } } := ⟨_, rfl⟩
  have h2 : ((c.stream.read 1).read 1).AtByte := (h.read 1).read 1
  unfold scanParams
  rw [wp_bind, wp_of_next (getByte_eq h), wp_bind, wp_modify, wp_bind,
    wp_of_next (getByte_eq (h.read 1)), wp_bind, wp_modify, wp_bind,
    wp_of_next (getByte_eq h2), wp_bind, wp_modify]
  -- the state of the model is `c3`, with the bytes under their names
  have hstate : ∀ {N : Unit → JpegDecContainer → Prop} {X : JpegDecRet → JpegDecContainer → Prop}
      {F : Fault → JpegDecContainer → Prop} {x : Decoder JpegDecRet Unit}, wp x N X F c3 →
      wp x N X F { c with
        stream := ((c.stream.read 1).read 1).read 1
        scan := { c.scan with
          Ss := c.stream.byteAt mem 0
          Se := (c.stream.read 1).byteAt mem 0
          Ah := ((c.stream.read 1).read 1).byteAt mem 0 / 16
          Al := ((c.stream.read 1).read 1).byteAt mem 0 % 16 } } := by
    intro N X F x hx
    rw [byteAt_read, byteAt_read, byteAt_read, ← hSs, ← hSe, ← htmp, ← hc3]
    exact hx
  refine hstate ?_
  rw [← hSs, ← hSe, ← htmp]
  have hcoding : c3.frame.codingType = c.frame.codingType := by rw [hc3]
  have hscan : c3.scan = { c.scan with Ss := Ss, Se := Se, Ah := tmp / 16, Al := tmp % 16 } := by
    rw [hc3]
  refine wp_mono (wp_scanChecks c3) ?_ ?_ fun _ _ h => h
  · rintro - c' ⟨hok, hsame⟩
    rw [hcoding, hscan] at hok
    rw [hsame, hscan]
    exact ⟨hok, rfl, rfl, rfl⟩
  · intro r c' hrefused
    rw [hcoding, hscan] at hrefused
    exact hrefused

/-! ## The header -/

/-- The number of components in the header ahead. -/
def scanNs (mem : Nat → UInt8) (c : JpegDecContainer) : Nat := c.stream.readPair.byteAt mem 0

/-- The identifier of its component `i`. -/
def scanId (mem : Nat → UInt8) (c : JpegDecContainer) (i : Nat) : Nat :=
  c.stream.readPair.byteAt mem (1 + 2 * i)

/-- The byte `i` behind its components: the spectral selection, and the approximation. -/
def scanParam (mem : Nat → UInt8) (c : JpegDecContainer) (i : Nat) : Nat :=
  c.stream.readPair.byteAt mem (1 + 2 * scanNs mem c + i)

/-- The frame header declared the identifier. -/
def Declared (id : Nat) (c : JpegDecContainer) : Prop :=
  ∃ k : Fin 3, k.val < c.frame.Nf ∧ (c.frame.component k).C = id

/-- **What an accepted header should be**: of one component or of those of the frame,
which it declared, with a spectral selection in order. -/
structure ScanSound (mem : Nat → UInt8) (c c' : JpegDecContainer) : Prop where
  components : c'.scan.Ns = 1 ∨ c'.scan.Ns = c.frame.Nf
  declared : ∀ i < c'.scan.Ns, Declared (scanId mem c i) c
  selection : c'.scan.Ss ≤ c'.scan.Se ∧ c'.scan.Se ≤ 63

/-- No index lies outside the component arrays: a single component has one of the
identifiers 1 to 3, and there are no more than three components. -/
def ScanInBounds (mem : Nat → UInt8) (c : JpegDecContainer) : Prop :=
  if scanNs mem c = 1 then 1 ≤ scanId mem c 0 ∧ scanId mem c 0 ≤ 3 else scanNs mem c ≤ 3

/-- The header is refused behind its length. -/
def ScanRefused (mem : Nat → UInt8) (c : JpegDecContainer) : Prop :=
  (scanNs mem c = 1 ∧ c.frame.Nf = 3 ∧
      ComponentRefused (singleOperation c) (scanId mem c 0) c) ∨
    ParamsRefused c.frame.codingType (scanParam mem c 0) (scanParam mem c 1)
      (scanParam mem c 2 / 16) (scanParam mem c 2 % 16)

/-- The bytes of the header are those of a sound one. -/
def ScanBytesSound (mem : Nat → UInt8) (c : JpegDecContainer) : Prop :=
  (scanNs mem c = 1 ∨ scanNs mem c = c.frame.Nf) ∧
    (∀ i < scanNs mem c, Declared (scanId mem c i) c) ∧
    scanParam mem c 0 ≤ scanParam mem c 1 ∧ scanParam mem c 1 ≤ 63

/-- **What the header parser does**, by the bytes ahead. -/
theorem wp_jpegDecDecodeScanHeader (mem : Nat → UInt8) (h : c.stream.AtByte) :
    wp (jpegDecDecodeScanHeader mem)
      (fun _ c' => ScanInBounds mem c ∧ ¬ SegmentCut mem c ∧ ¬ ScanRefused mem c ∧
        c'.scan.Ns = scanNs mem c ∧ c'.scan.Ss = scanParam mem c 0 ∧
        c'.scan.Se = scanParam mem c 1)
      (fun _ _ => SegmentCut mem c ∨ (ScanInBounds mem c ∧ ScanRefused mem c))
      (fun _ _ => ¬ SegmentCut mem c ∧ ¬ ScanInBounds mem c) c := by
  have hat := h.readPair
  obtain ⟨c0, hc0⟩ : ∃ c0, c0 = { c with
    stream := c.stream.readPair, scan.Ls := segmentLength mem c } := ⟨_, rfl⟩
  obtain ⟨c1, hc1⟩ : ∃ c1, c1 = { c with
    stream := c.stream.readPair.read 1
    scan := { c.scan with Ls := segmentLength mem c, Ns := scanNs mem c }
    info := { c.info with fillX := 0, fillY := 0 } } := ⟨_, rfl⟩
  have hlength : (modify fun d => { d with scan.Ls := segmentLength mem c } :
      Decoder JpegDecRet Unit) { c with stream := c.stream.readPair } = .next () c0 := by
    rw [hc0]
    rfl
  have hcut : SegmentShort (segmentLength mem c) c0 ↔ SegmentCut mem c := by
    rw [hc0]
    exact Iff.rfl
  have hbyte : (getByte mem : Decoder JpegDecRet Nat) c0 =
      .next (scanNs mem c) { c0 with stream := c0.stream.read 1 } := by
    rw [getByte_eq (by rw [hc0]; exact hat), hc0]
    rfl
  have hNs : (modify fun d => { d with
      scan.Ns := scanNs mem c, info.fillX := 0, info.fillY := 0 } : Decoder JpegDecRet Unit)
      { c0 with stream := c0.stream.read 1 } = .next () c1 := by
    rw [hc1, hc0]
    rfl
  have hat1 : c1.stream.AtByte := by
    rw [hc1]
    exact hat.read 1
  have hbytes : ∀ i, c1.stream.byteAt mem i = c.stream.readPair.byteAt mem (1 + i) := by
    intro i
    rw [hc1]
    exact byteAt_read 1 c.stream.readPair i
  have hNs1 : c1.scan.Ns = scanNs mem c := by rw [hc1]
  have hcoding1 : c1.frame.codingType = c.frame.codingType := by rw [hc1]
  have hread : (get2Bytes mem : Decoder JpegDecRet Nat) c =
      .next (segmentLength mem c) { c with stream := c.stream.readPair } := get2Bytes_eq h
  unfold jpegDecDecodeScanHeader
  rw [wp_bind, wp_of_next hread, wp_bind, wp_of_next hlength, wp_bind, wp_exitIf]
  by_cases hc : SegmentCut mem c
  · rw [if_pos (hcut.mpr hc)]
    exact Or.inl hc
  rw [if_neg (fun hno => hc (hcut.mp hno)), wp_bind, wp_of_next hbyte, wp_bind, wp_of_next hNs]
  -- the parameters behind the body, which leaves nothing else
  have hparams : ∀ {n : Nat} {c' : JpegDecContainer}, n = 2 * scanNs mem c →
      BodyRead n c1 c' → ScanInBounds mem c →
      ¬ (scanNs mem c = 1 ∧ c.frame.Nf = 3 ∧
        ComponentRefused (singleOperation c) (scanId mem c 0) c) →
      wp (scanParams mem)
        (fun _ c' => ScanInBounds mem c ∧ ¬ SegmentCut mem c ∧ ¬ ScanRefused mem c ∧
          c'.scan.Ns = scanNs mem c ∧ c'.scan.Ss = scanParam mem c 0 ∧
          c'.scan.Se = scanParam mem c 1)
        (fun _ _ => SegmentCut mem c ∨ (ScanInBounds mem c ∧ ScanRefused mem c))
        (fun _ _ => ¬ SegmentCut mem c ∧ ¬ ScanInBounds mem c) c' := by
    rintro n c' rfl ⟨hstream, hNs', hcoding⟩ hin hbody
    have hparam : ∀ i, c'.stream.byteAt mem i = scanParam mem c i := by
      intro i
      rw [hstream, byteAt_read, hbytes, ← Nat.add_assoc]
      rfl
    refine wp_mono (wp_scanParams (by rw [hstream]; exact hat1.read _)) ?_ ?_ fun _ _ h => h.elim
    · rintro - c'' ⟨hok, hNs'', hSs, hSe⟩
      rw [hparam, hparam, hparam, hcoding, hcoding1] at hok
      rw [hparam] at hSs hSe
      refine ⟨hin, hc, ?_, hNs''.trans (hNs'.trans hNs1), hSs, hSe⟩
      rintro (hrefused | hrefused)
      · exact hbody hrefused
      · exact hok hrefused
    · intro r c'' hrefused
      rw [hparam, hparam, hparam, hcoding, hcoding1] at hrefused
      exact Or.inr ⟨hin, Or.inr hrefused⟩
  by_cases h1 : scanNs mem c = 1
  · have hid : c1.stream.byteAt mem 0 = scanId mem c 0 := hbytes 0
    have hop : singleOperation c1 = singleOperation c := by rw [hc1]; rfl
    have hrefused : ComponentRefused (singleOperation c) (scanId mem c 0) c1 ↔
        ComponentRefused (singleOperation c) (scanId mem c 0) c := by rw [hc1]; exact Iff.rfl
    have hNf : c1.frame.Nf = c.frame.Nf := by rw [hc1]
    have hin : ScanInBounds mem c ↔ 1 ≤ scanId mem c 0 ∧ scanId mem c 0 ≤ 3 := by
      rw [ScanInBounds, if_pos h1]
    rw [if_pos h1, wp_bind]
    refine wp_mono (wp_scanSingle hat1) ?_ ?_ ?_
    · rintro - c' ⟨hbounds, hok, hbody⟩
      rw [hid] at hbounds hok
      rw [hNf, hop, hrefused] at hok
      exact hparams (by omega) hbody (hin.mpr hbounds) fun hno => hok hno.2
    · rintro r c' ⟨hbounds, hno⟩
      rw [hid] at hbounds hno
      rw [hNf, hop, hrefused] at hno
      exact Or.inr ⟨hin.mpr hbounds, Or.inl ⟨h1, hno⟩⟩
    · intro e c' hout
      rw [hid] at hout
      exact ⟨hc, fun hno => hout (hin.mp hno)⟩
  · have hin : ScanInBounds mem c ↔ scanNs mem c ≤ 3 := by rw [ScanInBounds, if_neg h1]
    rw [if_neg h1, wp_bind]
    refine wp_mono (wp_scanInterleaved hat1 _) ?_ (fun _ _ h => h.elim) ?_
    · rintro - c' ⟨hle, hbody⟩
      exact hparams rfl hbody (hin.mpr hle) fun hno => h1 hno.1
    · intro e c' hout
      exact ⟨hc, fun hno => hout (hin.mp hno)⟩

/-- **When the header parser is safe.** It stays inside the component arrays and accepts
sound headers alone if and only if the header is cut, or it is in bounds and refused or
sound by its bytes. -/
theorem scanSound_iff (h : c.stream.AtByte) :
    ((∀ e c', jpegDecDecodeScanHeader mem c ≠ .fault e c') ∧
      ∀ c', jpegDecDecodeScanHeader mem c = .next () c' → ScanSound mem c c') ↔
      SegmentCut mem c ∨
        (ScanInBounds mem c ∧ (ScanRefused mem c ∨ ScanBytesSound mem c)) := by
  have hrun := wp_jpegDecDecodeScanHeader mem h
  -- only a header that is taken over has to be sound
  cases hend : jpegDecDecodeScanHeader mem c with
  | next a c' =>
    obtain ⟨hin, hcut, hok, hNs, hSs, hSe⟩ := wp_next hrun hend
    constructor
    · rintro ⟨-, hall⟩
      obtain ⟨hcomponents, hdeclared, hselection⟩ := hall c' rfl
      rw [hNs] at hcomponents hdeclared
      rw [hSs, hSe] at hselection
      exact Or.inr ⟨hin, Or.inr ⟨hcomponents, hdeclared, hselection⟩⟩
    · intro hcond
      obtain ⟨hcomponents, hdeclared, hselection⟩ :=
        (hcond.resolve_left hcut).2.resolve_left hok
      refine ⟨fun _ _ => nofun, ?_⟩
      rintro c'' hnext
      cases hnext
      refine ⟨?_, ?_, ?_⟩
      · rw [hNs]
        exact hcomponents
      · rw [hNs]
        exact hdeclared
      · rw [hSs, hSe]
        exact hselection
  | exit r c' =>
    have hexit := wp_exit_of hrun hend
    refine ⟨fun _ => ?_, fun _ => ⟨fun _ _ => nofun, fun _ => nofun⟩⟩
    rcases hexit with hcut | ⟨hin, hno⟩
    · exact Or.inl hcut
    · exact Or.inr ⟨hin, Or.inl hno⟩
  | fault e c' =>
    obtain ⟨hcut, hout⟩ := wp_fault_of hrun hend
    refine ⟨fun hall => absurd rfl (hall.1 e c'), fun hcond => ?_⟩
    exact absurd (hcond.resolve_left hcut).1 hout

/-! ## Two headers -/

/-- A scan header of three components. -/
def threeScan (a : Nat) : UInt8 := [0, 12, 3, 1, 0, 2, 17, 3, 17, 0, 63, 0].getD a 0

/-- At its start, behind a frame header with the same components. -/
def threeStart : JpegDecContainer where
  stream := { streamLength := 14 }
  frame := { Nf := 3, codingType := SOF0, component := fun k => { C := k + 1 } }

/-- It is accepted, and sound. -/
theorem scanSound_iff_three : ∃ c', jpegDecDecodeScanHeader threeScan threeStart = .next () c' ∧
    ScanSound threeScan threeStart c' := by
  have hbounds : ScanInBounds threeScan threeStart := by
    unfold ScanInBounds
    rw [if_neg (by decide)]
    decide
  have hbytes : ScanBytesSound threeScan threeStart :=
    ⟨Or.inr (by decide),
      (by decide : ∀ i < 3, ∃ k : Fin 3, k.val < 3 ∧ k.val + 1 = scanId threeScan threeStart i),
      by decide, by decide⟩
  have hat : threeStart.stream.AtByte := atByte_atStart (n := 14) (by decide)
  obtain ⟨c', hnext⟩ : ∃ c', jpegDecDecodeScanHeader threeScan threeStart = .next () c' :=
    ⟨_, Outcome.IsNext.eq (by decide +kernel)⟩
  exact ⟨c', hnext, ((scanSound_iff hat).mpr (Or.inr ⟨hbounds, Or.inr hbytes⟩)).2 c' hnext⟩

/-- A scan header of one component, with the identifier zero. -/
def zeroScan (a : Nat) : UInt8 := if a = 1 then 8 else if a = 2 then 1 else 0

/-- **The identifier zero** makes the index wrap around. -/
theorem not_scanSound : (atStart 10).stream.AtByte ∧
    ¬ ((∀ e c', jpegDecDecodeScanHeader zeroScan (atStart 10) ≠ .fault e c') ∧
      ∀ c', jpegDecDecodeScanHeader zeroScan (atStart 10) = .next () c' →
        ScanSound zeroScan (atStart 10) c') := by
  refine ⟨atByte_atStart (by decide), fun hall => ?_⟩
  have hfault : (jpegDecDecodeScanHeader zeroScan (atStart 10)).IsFault (.index (2 ^ 32 - 1)) := by
    decide +kernel
  exact hall.1 _ _ hfault.eq

end Jpeg

end Rk3399
