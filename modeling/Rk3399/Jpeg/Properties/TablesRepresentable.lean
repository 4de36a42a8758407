import Mathlib.Data.Fintype.Basic
import Mathlib.Tactic.FinCases
import Rk3399.Jpeg.Helpers.TableRegisters
import Rk3399.Jpeg.Helpers.HuffmanRun
/-!
# What a start can represent

The headers allow sixteen selectors, any counts and the components in any
order; the writers take one of two tables, by the place in the scan header,
and the registers hold counts of two to eight bits. Nothing between the
headers and the start compares them. So at the start of an interleaved
baseline scan the hardware is given what the headers say exactly where the
headers happen to fit.
-/

namespace Rk3399

namespace Jpeg

open Prog

/-! ## Tables of a reachable instance -/

/-- A table as `JpegDecInit`, a DHT segment or the default tables leave it. -/
structure SoundTable (t : VlcTable) : Prop where
  length_bits : t.bits.length = 16
  tableLength_eq : t.tableLength = countSum t.bits

/-- Every table is sound. -/
def SoundTables (v : HuffmanTables) (_ : List Event) : Prop := ∀ Tc Th, SoundTable (v.get Tc Th)

theorem soundTable_define (t : VlcTable) {bits vals : List Nat} (hlen : bits.length = 16)
    (hvals : vals.length = countSum bits) : SoundTable (t.define bits vals) := ⟨hlen, hvals⟩

theorem keptByDht_soundTables : KeptByDht SoundTables where
  length := by
    intro v es Lh h Tc Th
    rw [HuffmanTables.get_length]
    exact h Tc Th
  define := by
    intro v es Tc Th bits vals hlen hvals h Tc' Th'
    rw [HuffmanTables.get_set]
    split
    · exact soundTable_define _ hlen hvals
    · exact h Tc' Th'

theorem soundTables_defaultTables {v : HuffmanTables} {es es' : List Event}
    (h : SoundTables v es) : SoundTables (defaultTables v) es' := by
  intro Tc Th
  match Tc, Th with
  | .dc, 0 => exact soundTable_define _ rfl (by decide)
  | .dc, 1 => exact soundTable_define _ rfl (by decide)
  | .ac, 0 => exact soundTable_define _ rfl (by decide +kernel)
  | .ac, 1 => exact soundTable_define _ rfl (by decide +kernel)
  | .dc, 2 => exact h .dc 2
  | .dc, 3 => exact h .dc 3
  | .ac, 2 => exact h .ac 2
  | .ac, 3 => exact h .ac 3

theorem soundTables_of_afterHeaders {c : JpegDecContainer} (h : AfterHeaders SoundTables c) :
    SoundTables c.vlc [] := by
  rcases h with h | ⟨v, es, hv, -, heq⟩
  · exact h
  · have hvlc : c.vlc = defaultTables v := congrArg Prod.fst heq
    rw [hvlc]
    exact soundTables_defaultTables hv

/-- **The tables of every instance a caller can have are sound.** -/
theorem soundTables_of_reachable {c : JpegDecContainer} (h : Reachable c) :
    SoundTables c.vlc [] := by
  refine Session.induct (I := fun c => SoundTables c.vlc []) ?_ ?_ h
  · intro Tc Th
    cases Tc <;> fin_cases Th <;> exact ⟨rfl, by decide⟩
  · rintro (⟨pp, mem⟩ | ⟨env, junk, pDecIn⟩ | ⟨env, pDecIn⟩) c hc -
    · exact hc
    · refine (wp_zoom _ _ _).mpr ?_
      have hprobe := Frame.keeps (frame_jpegDecGetImageInfo env.mem env.rounds pDecIn)
        fun s => SoundTables s.vlc []
      exact wp_mono (hprobe.run (probeStart pDecIn junk c) hc) (fun _ _ h => h) (fun _ _ h => h)
        (fun _ _ _ => trivial)
    · refine (wp_zoom _ _ _).mpr ?_
      have hdecode :=
        wp_jpegDecDecode_huffman keptByDht_soundTables env pDecIn (d := { cont := c }) hc
        fun _ _ _ h => soundTables_of_afterHeaders h
      exact wp_mono hdecode (fun _ _ h => h) (fun _ _ h => h) (fun _ _ _ => trivial)

/-! ## The registers of a start -/

/-- The fields a start writes behind the tables. -/
def laterFields : List BitField :=
  [HWIF_QTABLE_BASE, HWIF_RLC_VLC_BASE, HWIF_STRM_START_BIT, HWIF_STREAM_LEN, HWIF_JPEG_STREAM_ALL,
   HWIF_SYNC_MARKER_E, HWIF_PJPEG_REST_FREQ, HWIF_DEC_OUT_DIS, HWIF_DEC_OUT_BASE,
   HWIF_JPG_CH_OUT_BASE, HWIF_DEC_E]

theorem laterFields_disjoint : ∀ f ∈ laterFields, ∀ g ∈ tableFields, f.Disjoint g := by
  decide +kernel

section start

variable {ρ : Type} {c : JpegDecContainer}

/-- The state behind the table writers: what a start leaves alone is as in `c`,
and the tables of `c` are in the registers. -/
def BehindTables (c d : JpegDecContainer) : Prop := unstarted d = unstarted c ∧ TablesSet c d

/-- Writes to later fields stay behind the tables. -/
theorem keeps_behindTables (hop : c.info.operationType ≠ JPEGDEC_PROGRESSIVE)
    {ws : JpegDecContainer → List (BitField × Nat)} (hws : ∀ d, ∀ p ∈ ws d, p.1 ∈ laterFields) :
    Keeps anyEnd (BehindTables c) (BehindTables c) (rkSetRegisterFiles ws : Decoder ρ Unit) := by
  refine keeps_modify fun d hd => ⟨hd.1, hd.2.mono hop fun f hf => ?_⟩
  have hget := BitField.get_writes_of_disjoint (g := f) (asWords (ws d)) (fun p hp => ?_) d.jpegRegs
  · exact congrArg BitVec.toNat hget
  · obtain ⟨q, hq, rfl⟩ := List.mem_map.mp hp
    exact laterFields_disjoint _ (hws d q hq) f hf

/-- The part of a start behind the table writers. -/
theorem keeps_afterTables (hop : c.info.operationType ≠ JPEGDEC_PROGRESSIVE) :
    Keeps anyEnd (BehindTables c) (BehindTables c) (do
      rkSetRegisterFiles fun c => [(HWIF_QTABLE_BASE, c.frame.pTableBase.phyAddr)]
      jpegDecSetHwStrmParams
      rkSetRegisterFiles (restartRegisters HWIF_PJPEG_REST_FREQ)
      setOutput
      modify fun c => { c with info.sliceStartCount := 1, asicRunning := 1 }
      rkSetRegisterFiles fun _ => [(HWIF_DEC_E, 1)] : Decoder ρ Unit) := by
  -- a single field that is written after the tables is none of theirs
  have hone : ∀ {f : BitField} (hf : f ∈ laterFields) (v : JpegDecContainer → Nat),
      Keeps anyEnd (BehindTables c) (BehindTables c)
        (rkSetRegisterFiles fun c => [(f, v c)] : Decoder ρ Unit) := by
    refine fun hf v => keeps_behindTables hop fun d p hp => ?_
    rw [List.mem_singleton.mp hp]
    exact hf
  have hstream : Keeps anyEnd (BehindTables c) (BehindTables c)
      (jpegDecSetHwStrmParams : Decoder ρ Unit) := by
    refine keeps_bind (hone (by decide) _) fun _ => ?_
    refine keeps_bind (keeps_modify fun _ h => h) fun _ => ?_
    refine keeps_bind (hone (by decide) _) fun _ => ?_
    refine keeps_bind (keeps_modify fun _ h => h) fun _ => ?_
    refine keeps_bind (hone (by decide) _) fun _ => ?_
    exact keeps_bind (keeps_modify fun _ h => h) fun _ => hone (by decide) _
  have hrestart : ∀ d, ∀ p ∈ restartRegisters HWIF_PJPEG_REST_FREQ d, p.1 ∈ laterFields := by
    intro d p hp
    unfold restartRegisters at hp
    split at hp
    · simp only [List.mem_cons, List.not_mem_nil, or_false] at hp
      rcases hp with rfl | rfl <;> simp [laterFields]
    · rw [List.mem_singleton.mp hp]
      simp [laterFields]
  have houtput : ∀ d, ∀ p ∈ outputRegisters d, p.1 ∈ laterFields := by
    intro d p hp
    have hfst : p.1 ∈ (outputRegisters d).map Prod.fst := List.mem_map_of_mem hp
    have hsub : (outputRegisters d).map Prod.fst ⊆
        [HWIF_DEC_OUT_DIS, HWIF_DEC_OUT_BASE, HWIF_JPG_CH_OUT_BASE] := by
      unfold outputRegisters
      split_ifs <;> simp
    have hin := hsub hfst
    simp only [List.mem_cons, List.not_mem_nil, or_false] at hin
    rcases hin with h | h | h <;> simp [h, laterFields]
  refine keeps_bind (hone (by decide) _) fun _ => keeps_bind hstream fun _ => ?_
  refine keeps_bind (keeps_behindTables hop hrestart) fun _ => ?_
  refine keeps_bind ?_ fun _ => keeps_bind (keeps_modify fun _ h => h) fun _ => hone (by decide) _
  exact keeps_bind (keeps_behindTables hop houtput) fun _ => keeps_modify fun _ h => h

/-- **A baseline start leaves the tables of its instance in the registers.** -/
theorem tablesSet_jpegDecInitHW {c' : JpegDecContainer}
    (hop : c.info.operationType = JPEGDEC_BASELINE)
    (h : (jpegDecInitHW : Decoder ρ Unit) c = .next () c') : TablesSet c c' := by
  have hprog : c.info.operationType ≠ JPEGDEC_PROGRESSIVE := by
    rw [hop]
    decide
  -- what the writers read of the instance is among what a start leaves alone
  have hsame : ∀ {d : JpegDecContainer}, unstarted d = unstarted c →
      d.info.operationType = c.info.operationType ∧ codeRegisters d = codeRegisters c ∧
        acSelectors d ++ dcSelectors d = acSelectors c ++ dcSelectors c := by
    intro d hd
    refine ⟨congrArg (fun c => c.info.operationType) hd, ?_, ?_⟩
    · calc codeRegisters d = codeRegisters (unstarted d) := rfl
        _ = codeRegisters (unstarted c) := congrArg codeRegisters hd
        _ = codeRegisters c := rfl
    · calc acSelectors d ++ dcSelectors d
          = acSelectors (unstarted d) ++ dcSelectors (unstarted d) := rfl
        _ = acSelectors (unstarted c) ++ dcSelectors (unstarted c) :=
          congrArg (fun c => acSelectors c ++ dcSelectors c) hd
        _ = acSelectors c ++ dcSelectors c := rfl
  have hstart : wp (jpegDecInitHW : Decoder ρ Unit) (fun _ => BehindTables c) (fun _ _ => True)
      anyEnd c := by
    have hframe : ∀ {β : Type} {y : Decoder ρ β} {d : JpegDecContainer}, unstarted d = unstarted c →
        Frame anyFault unstarted y →
        wp y (fun _ d => unstarted d = unstarted c) (fun _ _ => True) anyEnd d := fun hd hy =>
      wp_mono ((hy _).run _ hd) (fun _ _ h => h) (fun _ _ _ => trivial) (fun _ _ _ => trivial)
    refine wp_seq (hframe rfl (frame_rkSetRegisterFiles _)) fun _ d hd => ?_
    refine wp_seq (hframe hd (frame_setCoeffBuffers fun _ => trivial)) fun _ d hd => ?_
    refine wp_seq (M := fun _ d => unstarted d = unstarted c ∧
      ∃ file, d.jpegRegs = BitField.writes (asWords (codeRegisters c)) file) ?_
      fun _ d hd => ?_
    · -- the counts are written first, and the table memory does not touch them
      refine wp_seq (M := fun op d' => op = JPEGDEC_BASELINE ∧ d' = d)
        ⟨(hsame hd).1.trans hop, rfl⟩ fun op d' hd' => ?_
      obtain ⟨rfl, rfl⟩ := hd'
      rw [if_pos rfl]
      refine wp_seq (M := fun _ d' => unstarted d' = unstarted c ∧
        ∃ file, d'.jpegRegs = BitField.writes (asWords (codeRegisters c)) file) ?_ fun _ e he => ?_
      · unfold wp
        rw [jpegDecWriteLenBits_eq, (hsame hd).2.1]
        exact ⟨hd, d'.jpegRegs, rfl⟩
      · have hboth := frame_jpegDecWriteTables (ρ := ρ) (f := fun d => (unstarted d, d.jpegRegs))
          (fun _ _ => rfl)
        have hrun := (hboth _).run e rfl
        refine wp_mono hrun (fun _ e' h => ?_) (fun _ _ _ => trivial) (fun _ _ _ => trivial)
        exact ⟨(congrArg Prod.fst h).trans he.1,
          he.2.imp fun _ hf => (congrArg Prod.snd h).trans hf⟩
    refine wp_seq (M := fun _ => BehindTables c) ?_ fun _ d hd => ?_
    · obtain ⟨hd, file, hfile⟩ := hd
      have hregs : BitField.writes (asWords (acSelectors d ++ dcSelectors d)) d.jpegRegs =
          BitField.writes (asWords (tableRegisters c)) file := by
        rw [(hsame hd).2.2, hfile, ← BitField.writes_append, ← asWords_append, ← tableRegisters_eq]
      unfold wp
      rw [jpegDecChromaTableSelectors_eq]
      exact ⟨hd, tablesSet_of_writes hprog hregs⟩
    exact wp_mono ((keeps_afterTables hprog).run d hd) (fun _ _ h => h) (fun _ _ _ => trivial)
      (fun _ _ _ => trivial)
  exact (wp_next hstart h).2

/-- The next start is the first one of a picture or of a scan. -/
def FirstStart (c : JpegDecContainer) : Prop :=
  c.info.inputBufferEmpty = 0 ∧ c.info.SliceReadyForPause = 0 ∧
    (c.info.progressiveScanReady = 0 ∨ c.info.nonInterleavedScanReady ≠ 0)

instance (c : JpegDecContainer) : Decidable (FirstStart c) := inferInstanceAs (Decidable (_ ∧ _))

theorem TablesSet.congr {d c' c'' : JpegDecContainer} (h : TablesSet d c') (hscan : d.scan = c.scan)
    (hvlc : d.vlc = c.vlc) (hop : d.info.operationType = c.info.operationType)
    (hnon : d.info.nonInterleaved = c.info.nonInterleaved) (hregs : c''.jpegRegs = c'.jpegRegs) :
    TablesSet c c'' := by
  have hregisters : tableRegisters d = tableRegisters c := by
    simp only [tableRegisters, slotTable, slotId, selector, acSelectors, dcSelectors, hscan, hvlc,
      hop, hnon]
  intro p hp
  rw [rkGetRegisterFile, hregs]
  exact h p (hregisters ▸ hp)

/-- What the slice calculation and the choice of the pipeline leave alone of
what a start reads. -/
def startView (c : JpegDecContainer) :
    ScanInfo × HuffmanTables × OperationType × Nat × Nat × Nat × Nat × Nat :=
  (c.scan, c.vlc, c.info.operationType, c.info.nonInterleaved, c.info.inputBufferEmpty,
    c.info.SliceReadyForPause, c.info.progressiveScanReady, c.info.nonInterleavedScanReady)

/-- **The first start of a baseline scan leaves the tables of its instance in the
registers.** -/
theorem tablesSet_startHw {c' : JpegDecContainer} (hfirst : FirstStart c)
    (hop : c.info.operationType = JPEGDEC_BASELINE) (h : startHw c = .next () c') :
    TablesSet c c' := by
  -- each test of the first start goes to `JpegDecInitHW`
  obtain ⟨hempty, hpause, hready⟩ := hfirst
  have hstart : wp startHw (fun _ => TablesSet c) (fun _ _ => True) anyEnd c := by
    refine wp_seq (M := fun _ d => startView d = startView c) rfl fun _ d hd => ?_
    refine wp_seq (M := fun go d' => go = decide (d.info.inputBufferEmpty = 0) ∧ d' = d)
      ⟨rfl, rfl⟩ fun go d' hgo => ?_
    obtain ⟨rfl, rfl⟩ := hgo
    simp only [startView, Prod.mk.injEq] at hd
    obtain ⟨hscan, hvlc, hopd, hnon, hemptyd, hpaused, hprogd, hnond⟩ := hd
    rw [if_pos (decide_eq_true (hemptyd.trans hempty))]
    refine wp_seq (M := fun _ d => startView d = startView c) ?_ fun _ d hd => ?_
    · rw [wp_modify]
      split <;> simp [startView, jpegDecSliceSizeCalculation, *]
    simp only [startView, Prod.mk.injEq] at hd
    obtain ⟨hscan, hvlc, hopd, hnon, hemptyd, hpaused, hprogd, hnond⟩ := hd
    refine wp_seq (M := fun _ => TablesSet c) ?_ fun _ d hd => ?_
    · refine wp_seq (M := fun go d' => go = decide (d.info.SliceReadyForPause = 0) ∧ d' = d)
        ⟨rfl, rfl⟩ fun go d' hgo => ?_
      obtain ⟨rfl, rfl⟩ := hgo
      rw [if_pos (decide_eq_true (hpaused.trans hpause))]
      refine wp_seq (M := fun go d'' => go = decide
        (d'.info.progressiveScanReady = 0 ∨ d'.info.nonInterleavedScanReady ≠ 0) ∧ d'' = d')
        ⟨rfl, rfl⟩ fun go d'' hgo => ?_
      obtain ⟨rfl, rfl⟩ := hgo
      rw [if_pos (decide_eq_true (by rwa [hprogd, hnond]))]
      refine wp_seq (M := fun _ => TablesSet c) ?_ fun _ e he => ?_
      · rw [wp_def]
        refine ⟨fun _ e he => ?_, fun _ _ _ => trivial, fun _ _ _ => trivial⟩
        exact (tablesSet_jpegDecInitHW (hopd.trans hop) he).congr hscan hvlc hopd hnon rfl
      · exact he
    · exact hd
  exact wp_next hstart h

end start

/-! ## What the hardware is given -/

/-- The places the last scan header has entries at. -/
def scanPlaces (c : JpegDecContainer) : List (Fin 3) :=
  if c.scan.Ns = 1 then [Fin.ofNat 3 c.frame.cIndex]
  else [0, 1, 2].filter fun i => decide (i.val < c.scan.Ns)

/-- The entry at place `i` is one for component `k` of the frame. -/
def EntryFor (c : JpegDecContainer) (k i : Fin 3) : Prop :=
  i ∈ scanPlaces c ∧ c.scan.Cs i = (c.frame.component k).C

instance (c : JpegDecContainer) (k i : Fin 3) : Decidable (EntryFor c k i) :=
  inferInstanceAs (Decidable (_ ∧ _))

/-- **Nothing is lost at a start**: the hardware takes of every component of `c` the tables
its headers name, with all their counts and values; the scan header names them in the entry
with the identifier of the component. `c'` is the state behind the start. -/
def TablesRepresented (c c' : JpegDecContainer) : Prop :=
  ∀ k ∈ componentsOf c.frame.Nf,
    (quantId (c.frame.component k).Tq).val = (c.frame.component k).Tq ∧
    (∃ i, EntryFor c k i) ∧ ∀ i, EntryFor c k i →
    ∀ Tc, (slotId c Tc (hwSlot c' Tc k)).val = selector c Tc i ∧
      (slotTable c Tc (hwSlot c' Tc k)).vals ≠ none ∧
      hwCounts c' Tc (hwSlot c' Tc k) = (slotTable c Tc (hwSlot c' Tc k)).bits ∧
      (slotTable c Tc (hwSlot c' Tc k)).tableLength ≤ maxValues Tc

/-- **The headers fit the hardware**: every component names quantisation table zero or one,
the scan header has an entry for it, that entry names the tables its place amounts to, and
these Huffman tables are there, with counts that fit their fields and add up to no more
than the values there is room for. -/
def HeadersRepresentable (c : JpegDecContainer) : Prop :=
  ∀ k ∈ componentsOf c.frame.Nf,
    (c.frame.component k).Tq < 2 ∧
    (∃ i, EntryFor c k i) ∧ ∀ i, EntryFor c k i →
    ∀ Tc, selector c Tc i = amountsTo (selector c Tc 0) (selector c Tc k) ∧
      ∀ Th : Fin 4, Th.val = selector c Tc i →
        (c.vlc.get Tc Th).vals ≠ none ∧ CountsFit Tc (c.vlc.get Tc Th).bits ∧
          countSum (c.vlc.get Tc Th).bits ≤ maxValues Tc

theorem quantId_eq_iff (Tq : Nat) : (quantId Tq).val = Tq ↔ Tq < 2 := by
  unfold quantId
  split
  · simp [*]
  · change 1 = Tq ↔ _
    omega

theorem zero_mem_componentsOf (Nf : Nat) : (0 : Fin 3) ∈ componentsOf Nf := by
  unfold componentsOf
  split <;> simp

section representable

variable {c c' : JpegDecContainer}

/-- With the tables in the registers, the hardware is given what the headers
say exactly where they fit. -/
theorem represented_iff_of_tablesSet (hset : TablesSet c c')
    (hop : c.info.operationType = JPEGDEC_BASELINE) (hsound : SoundTables c.vlc []) :
    TablesRepresented c c' ↔ HeadersRepresentable c := by
  have hprog : c.info.operationType ≠ JPEGDEC_PROGRESSIVE := by
    rw [hop]
    decide
  have hslot : ∀ Tc k, hwSlot c' Tc k < 2 := by
    intro Tc k
    rw [hwSlot_eq hset hprog]
    exact Nat.mod_lt _ (by decide)
  have hfit : ∀ Tc k, hwCounts c' Tc (hwSlot c' Tc k) = (slotTable c Tc (hwSlot c' Tc k)).bits ↔
      CountsFit Tc (slotTable c Tc (hwSlot c' Tc k)).bits := fun Tc k =>
    hwCounts_eq_iff hset Tc (hslot Tc k) (hsound Tc _).length_bits
  -- the slot the hardware is given amounts to the table its place selects
  have hid : ∀ Tc k, (slotId c Tc (hwSlot c' Tc k)).val =
      amountsTo (selector c Tc 0) (selector c Tc k) := by
    intro Tc k
    rw [hwSlot_eq hset hprog]
    exact slotId_amountsTo c Tc k
  constructor
  · intro h k hk
    obtain ⟨hquant, hentry, hnamed⟩ := h k hk
    refine ⟨(quantId_eq_iff _).mp hquant, hentry, fun i hi Tc => ?_⟩
    obtain ⟨hsame, hthere, hcounts, hvalues⟩ := hnamed i hi Tc
    refine ⟨hsame.symm.trans (hid Tc k), fun Th hTh => ?_⟩
    have htable : slotTable c Tc (hwSlot c' Tc k) = c.vlc.get Tc Th := by
      rw [slotTable, Fin.ext (hsame.trans hTh.symm)]
    refine ⟨htable ▸ hthere, htable ▸ (hfit Tc k).mp hcounts, ?_⟩
    rw [← (hsound Tc Th).tableLength_eq, ← htable]
    exact hvalues
  · intro h k hk
    obtain ⟨hquant, hentry, hnamed⟩ := h k hk
    refine ⟨(quantId_eq_iff _).mpr hquant, hentry, fun i hi Tc => ?_⟩
    obtain ⟨hplace, htables⟩ := hnamed i hi Tc
    have hsame : (slotId c Tc (hwSlot c' Tc k)).val = selector c Tc i :=
      (hid Tc k).trans hplace.symm
    obtain ⟨hthere, hcounts, hvalues⟩ := htables _ hsame
    refine ⟨hsame, hthere, (hfit Tc k).mpr hcounts, ?_⟩
    rw [slotTable, (hsound Tc _).tableLength_eq]
    exact hvalues

/-- **The start of an interleaved baseline scan gives the hardware what the
headers say exactly where the headers fit it**, at every start of every call
of a session. -/
theorem tablesRepresented_iff (hc : Reachable c) (env : DecodeEnv) (pDecIn : JpegDecInput)
    {d0 d : Decoding} (hbefore : beforeStart env pDecIn { cont := c } = .next true d0)
    (hrounds : Rounds (hwRound env) d0 d) (hop : d.cont.info.operationType = JPEGDEC_BASELINE)
    (hfirst : FirstStart d.cont) (hstart : startHw d.cont = .next () c') :
    TablesRepresented d.cont c' ↔ HeadersRepresentable d.cont := by
  have hsound0 : SoundTables d0.cont.vlc [] :=
    soundTables_of_afterHeaders (wp_next (wp_beforeStart keptByDht_soundTables env pDecIn
      (d := { cont := c }) (soundTables_of_reachable hc)) hbefore)
  have hsound : SoundTables d.cont.vlc [] :=
    (keeps_hwRound keptByDht_soundTables env).rounds (s := d0) hsound0 hrounds
  exact represented_iff_of_tablesSet (tablesSet_startHw hfirst hop hstart) hop hsound

end representable

/-! ## Two streams -/

/-- The state before the first start for a stream on a fresh instance. -/
def firstStart (bytes : List UInt8) : Decoding :=
  (beforeStart (envOf bytes readyRegs) (inputOf bytes 0) { cont := jpegDecInit }).state

/-- The state behind it. -/
def firstStarted (bytes : List UInt8) : JpegDecContainer := (startHw (firstStart bytes).cont).state

/-- A picture that takes the default tables meets the condition. -/
theorem tablesRepresented_iff_plainPicture :
    TablesRepresented (firstStart (plainPicture 48 48 0)).cont
      (firstStarted (plainPicture 48 48 0)) ↔
      HeadersRepresentable (firstStart (plainPicture 48 48 0)).cont :=
  tablesRepresented_iff .init (envOf _ readyRegs) (inputOf _ 0)
    (Outcome.IsNext.eq (by decide +kernel)) .refl (by decide +kernel) (by decide +kernel)
    (Outcome.IsNext.eq (by decide +kernel))

/-- **A start may lose what the headers say**: the quantisation table three of this
picture is not the one the hardware is given. -/
theorem tables_lost : ¬ ∀ c, Reachable c → ∀ (env : DecodeEnv) (pDecIn : JpegDecInput)
    (d : Decoding) (c' : JpegDecContainer),
    beforeStart env pDecIn { cont := c } = .next true d →
    d.cont.info.operationType = JPEGDEC_BASELINE → FirstStart d.cont →
    startHw d.cont = .next () c' → TablesRepresented d.cont c' := by
  intro hall
  have hlost := hall jpegDecInit .init (envOf (plainPicture 48 48 3) readyRegs)
    (inputOf (plainPicture 48 48 3) 0) (firstStart (plainPicture 48 48 3))
    (firstStarted (plainPicture 48 48 3)) (Outcome.IsNext.eq (by decide +kernel))
    (by decide +kernel) (by decide +kernel) (Outcome.IsNext.eq (by decide +kernel))
  have hquant := (hlost 0 (zero_mem_componentsOf _)).1
  exact absurd hquant (by decide +kernel)

end Jpeg

end Rk3399
