import Rk3399.Jpeg.Helpers.HuffmanRun
/-!
# The tables of a picture in force

A picture may take several calls: one for each slice, scan or buffer of it.
The flag that remembers a DHT segment is a local variable of one call, so a
later call that finds no DHT segment puts the default tables over those the
picture defined. A picture keeps its tables where every call that comes
behind a DHT segment finds another one.
-/

namespace Rk3399

namespace Jpeg

open Prog

/-! ## Pictures -/

/-- The return codes after which the caller goes on with the same picture. -/
def GoesOn (r : JpegDecRet) : Prop := r = .sliceReady ∨ r = .scanProcessed ∨ r = .strmProcessed

/-- What the segments the last call read did to the Huffman tables, newest first. -/
def tableEvents (c : JpegDecContainer) : List Event := c.log.filter Event.isHuffman

/-- Between the calls of a picture that begins on `c`: the instance, and the
table events of the picture so far, newest first. Every call meets `P`, which sees
the events before it. -/
inductive Picture (P : List Event → DecodeEnv → JpegDecInput → JpegDecContainer → Prop)
    (c : JpegDecContainer) : JpegDecContainer → List Event → Prop
  | start : Picture P c c []
  | call {c' c'' : JpegDecContainer} {es : List Event} {r : JpegDecRet} (env : DecodeEnv)
      (pDecIn : JpegDecInput) (h : Picture P c c' es) (hP : P es env pDecIn c') (hr : GoesOn r)
      (hs : (Step.decode env pDecIn).run c' = .exit r c'') : Picture P c c'' (tableEvents c'' ++ es)

/-- The states of a picture: between its calls, and at the starts of the hardware
within one. -/
inductive InPicture (P : List Event → DecodeEnv → JpegDecInput → JpegDecContainer → Prop)
    (c : JpegDecContainer) : JpegDecContainer → List Event → Prop
  | between {c' : JpegDecContainer} {es : List Event} (h : Picture P c c' es) : InPicture P c c' es
  | within {c' : JpegDecContainer} {es : List Event} {d0 d : Decoding} (env : DecodeEnv)
      (pDecIn : JpegDecInput) (h : Picture P c c' es) (hP : P es env pDecIn c')
      (hbefore : beforeStart env pDecIn { cont := c' } = .next true d0)
      (hrounds : Rounds (hwRound env) d0 d) : InPicture P c d.cont (tableEvents d.cont ++ es)

/-! ## Tables in force -/

/-- The table an event defines for a class and an identifier. -/
def Event.defines (Tc : TableClass) (Th : Fin 4) : Event → Option VlcTable
  | .dht Tc' Th' table => if Tc = Tc' ∧ Th = Th' then some table else none
  | _ => none

/-- The table the newest DHT segment defined for a class and an identifier. -/
def definedTable (Tc : TableClass) (Th : Fin 4) (es : List Event) : Option VlcTable :=
  es.findSome? (Event.defines Tc Th)

/-- **The tables are in force**: every table a DHT segment defined is the one it
defined last, and the default tables came before every DHT segment. -/
structure TablesInForce (v : HuffmanTables) (es : List Event) : Prop where
  kept : ∀ Tc Th table, definedTable Tc Th es = some table → v.get Tc Th = table
  defaults : ∀ newer older, es = newer ++ .defaultTables :: older → NoDht older

theorem definedTable_of_noDht {es : List Event} (h : NoDht es) (Tc : TableClass) (Th : Fin 4) :
    definedTable Tc Th es = none := by
  rw [definedTable, List.findSome?_eq_none_iff]
  intro e he
  have hno := h e he
  cases e with
  | dht Tc' Th' table => exact absurd trivial hno
  | _ => rfl

/-- Where no table was defined, every tables are in force. -/
theorem tablesInForce_of_noDht {es : List Event} (h : NoDht es) (v : HuffmanTables) :
    TablesInForce v es where
  kept := by
    intro Tc Th table hdefined
    rw [definedTable_of_noDht h] at hdefined
    cases hdefined
  defaults := by
    rintro newer older rfl
    exact fun e he => h e (List.mem_append_right _ (List.mem_cons_of_mem _ he))

/-- The table a DHT segment defines is in force from then on, and the others stay
in force. -/
theorem TablesInForce.define {v : HuffmanTables} {es : List Event} (h : TablesInForce v es)
    (Tc : TableClass) (Th : Fin 4) (table : VlcTable) :
    TablesInForce (v.set table Tc Th) (.dht Tc Th table :: es) where
  kept := by
    intro Tc' Th' table' hdefined
    rw [definedTable, List.findSome?_cons, Event.defines] at hdefined
    rw [HuffmanTables.get_set]
    by_cases hsame : Tc' = Tc ∧ Th' = Th
    · rw [if_pos hsame] at hdefined ⊢
      exact Option.some.inj hdefined
    · rw [if_neg hsame] at hdefined ⊢
      exact h.kept Tc' Th' table' hdefined
  defaults := by
    intro newer older hsplit
    cases newer with
    | nil => cases hsplit
    | cons e newer => exact h.defaults newer older (List.cons.inj hsplit).2

/-- The tables of a picture, of which the calls before this one left the events
`es`. -/
def InForceAfter (es : List Event) (v : HuffmanTables) (es' : List Event) : Prop :=
  TablesInForce v (es' ++ es)

theorem keptByDht_inForceAfter (es : List Event) : KeptByDht (InForceAfter es) where
  length := by
    intro v es' Lh h
    refine ⟨fun Tc Th table hdefined => ?_, h.defaults⟩
    rw [HuffmanTables.get_length]
    exact h.kept Tc Th table hdefined
  define := fun _ _ Tc Th _ _ _ _ h => h.define Tc Th _

/-! ## Calls -/

/-- The headers the call reads before it starts the hardware define a Huffman
table. -/
def FindsDht (env : DecodeEnv) (pDecIn : JpegDecInput) (c : JpegDecContainer) : Prop :=
  ∀ go d, beforeStart env pDecIn { cont := c } = .next go d → ∃ e ∈ tableEvents d.cont, e.IsDht

/-- Where the picture defined a Huffman table in an earlier call, this one finds a
DHT segment again. -/
def FindsAgain (es : List Event) (env : DecodeEnv) (pDecIn : JpegDecInput)
    (c : JpegDecContainer) : Prop :=
  NoDht es ∨ FindsDht env pDecIn c

section call

variable {c : JpegDecContainer} {es : List Event} {env : DecodeEnv} {pDecIn : JpegDecInput}

/-- The default tables do no harm in such a call. -/
theorem inForce_beforeStart (hfinds : FindsAgain es env pDecIn c) {go : Bool} {d : Decoding}
    (hbefore : beforeStart env pDecIn { cont := c } = .next go d)
    (hafter : AfterHeaders (InForceAfter es) d.cont) : InCall (InForceAfter es) d := by
  rcases hafter with hkept | ⟨v, es', -, hno, hdefault⟩
  · exact hkept
  -- the default tables: no DHT segment was read by this call, nor by one before it
  have hlog : tableEvents d.cont = .defaultTables :: es' := congrArg Prod.snd hdefault
  have hnone : NoDht (.defaultTables :: es') := by
    intro e he
    rcases List.mem_cons.mp he with rfl | he
    · exact id
    · exact hno e he
  rcases hfinds with hes | hfinds
  · refine tablesInForce_of_noDht ?_ _
    intro e he
    rcases List.mem_append.mp he with he | he
    · exact hnone e (hlog ▸ he)
    · exact hes e he
  · obtain ⟨e, he, hdht⟩ := hfinds go d hbefore
    exact absurd hdht (hnone e (hlog ▸ he))

/-- **One call** keeps the tables of the picture in force. -/
theorem inForce_call (h : TablesInForce c.vlc es) (hfinds : FindsAgain es env pDecIn c)
    {r : JpegDecRet} {c' : JpegDecContainer} (hs : (Step.decode env pDecIn).run c = .exit r c') :
    TablesInForce c'.vlc (tableEvents c' ++ es) := by
  have hrun : wp (jpegDecDecode env pDecIn) (fun _ => InCall (InForceAfter es))
      (fun _ => InCall (InForceAfter es)) anyEnd { cont := c } :=
    wp_jpegDecDecode_huffman (keptByDht_inForceAfter es) env pDecIn h
      fun go d hbefore hafter => inForce_beforeStart hfinds hbefore hafter
  have hzoom : wp (fun c => (Step.decode env pDecIn).run c)
      (fun _ => OfHuffman (InForceAfter es)) (fun _ => OfHuffman (InForceAfter es)) anyEnd c :=
    (wp_zoom _ _ _).mpr hrun
  exact wp_exit_of hzoom hs

/-- So do the starts of the hardware within it. -/
theorem inForce_rounds (h : TablesInForce c.vlc es) (hfinds : FindsAgain es env pDecIn c)
    {d0 d : Decoding} (hbefore : beforeStart env pDecIn { cont := c } = .next true d0)
    (hrounds : Rounds (hwRound env) d0 d) :
    TablesInForce d.cont.vlc (tableEvents d.cont ++ es) := by
  have hheaders : AfterHeaders (InForceAfter es) d0.cont :=
    wp_next (wp_beforeStart (keptByDht_inForceAfter es) env pDecIn (d := { cont := c }) h) hbefore
  exact (keeps_hwRound (keptByDht_inForceAfter es) env).rounds
    (inForce_beforeStart hfinds hbefore hheaders) hrounds

theorem Picture.inForce {c' : JpegDecContainer} (h : Picture FindsAgain c c' es) :
    TablesInForce c'.vlc es := by
  induction h with
  | start => exact tablesInForce_of_noDht noDht_nil _
  | call env pDecIn _ hP _ hs ih => exact inForce_call ih hP hs

/-- **The tables of a picture stay in force** in each of its states, where every
call behind a DHT segment finds another one. -/
theorem inForce_of_findsAgain {c' : JpegDecContainer} (h : InPicture FindsAgain c c' es) :
    TablesInForce c'.vlc es := by
  cases h with
  | between h => exact h.inForce
  | within env pDecIn h hP hbefore hrounds => exact inForce_rounds h.inForce hP hbefore hrounds

end call

/-! ## A picture in slices -/

/-- A baseline picture that defines the DC table zero. -/
def tablePicture : List UInt8 :=
  [0xFF, 0xD8] ++ frameHeader 0xC0 48 48 0 ++
    segment 0xC4 [0, 0, 1, 0, 0, 0, 0, 0, 0, 0, 0, 0, 0, 0, 0, 0, 0, 7] ++ scanHeader 0 ++
    [0x12, 0x34, 0xFF, 0xD9]

/-- The registers of a slice that is ready. -/
def sliceRegs : WordFile 32 := fun i => if i = 55 then 0x200 else if i = 148 then 1 else 0

/-- The instance behind the call for one slice of a row of macroblocks. -/
def sliceDecoded (bytes : List UInt8) (c : JpegDecContainer) : JpegDecContainer :=
  ((Step.decode (envOf bytes sliceRegs) (inputOf bytes 1)).run c).state

/-- The picture without a table of its own, behind one slice and behind two. -/
def firstSlice : JpegDecContainer := sliceDecoded (plainPicture 48 48 0) jpegDecInit

def secondSlice : JpegDecContainer := sliceDecoded (plainPicture 48 48 0) firstSlice

/-- One slice of it and the next. -/
theorem picture_firstSlice :
    Picture FindsAgain jpegDecInit firstSlice (tableEvents firstSlice ++ []) :=
  .call (envOf (plainPicture 48 48 0) sliceRegs) (inputOf (plainPicture 48 48 0) 1) .start
    (.inl noDht_nil) (.inl rfl) (Outcome.IsExit.eq (by decide +kernel))

theorem noDht_firstSlice : NoDht (tableEvents firstSlice ++ []) :=
  (by decide +kernel : ∀ e ∈ tableEvents firstSlice ++ [], ¬ e.IsDht)

/-- The default tables are put again, and stay in force. -/
theorem inForce_secondSlice :
    TablesInForce secondSlice.vlc (tableEvents secondSlice ++ (tableEvents firstSlice ++ [])) :=
  inForce_of_findsAgain (.between (picture_firstSlice.call
    (envOf (plainPicture 48 48 0) sliceRegs) (inputOf (plainPicture 48 48 0) 1)
    (.inl noDht_firstSlice) (.inl rfl) (Outcome.IsExit.eq (by decide +kernel))))

/-- **The second slice of a picture is decoded with the default tables**, whatever
the picture defined. -/
theorem tables_not_in_force : ¬ ∀ c, Reachable c → ∀ c' es,
    InPicture (fun _ _ _ _ => True) c c' es → TablesInForce c'.vlc es := by
  intro hall
  have hfirst : Picture (fun _ _ _ _ => True) jpegDecInit (sliceDecoded tablePicture jpegDecInit)
      (tableEvents (sliceDecoded tablePicture jpegDecInit) ++ []) :=
    .call (envOf tablePicture sliceRegs) (inputOf tablePicture 1) .start trivial (.inl rfl)
      (Outcome.IsExit.eq (by decide +kernel))
  have hsecond := hall jpegDecInit .init _ _ (.between (hfirst.call (envOf tablePicture sliceRegs)
    (inputOf tablePicture 1) trivial (.inl rfl) (Outcome.IsExit.eq (by decide +kernel))))
  have hkept := hsecond.kept .dc 0 ((sliceDecoded tablePicture jpegDecInit).vlc.get .dc 0)
    (by decide +kernel)
  exact absurd hkept (by decide +kernel)

end Jpeg

end Rk3399
