import Mathlib.Data.List.Basic
import Rk3399.Common.Invariant
import Rk3399.SimpleConfig.Model.Capture
/-!
# Where captured frames are read

The layout of a radiotap header, and when the code reads what it says. The rate is
where the code looks for it if nothing but the flags stands before it. The MCS
field is there if the padding and the fields the code leaves out come to the
three bytes it adds. What the field then says is an index into `rate_array` only
for some of its values, and the addresses of a frame are taken for two of the
four values of its DS bits.
-/

namespace Rk3399

namespace SimpleConfig

open Prog

/-! ## The layout of a radiotap header -/

/-- A field of the header: its bit, its alignment and size, and the bytes of it that
`get_rtheader_rate` counts. -/
structure Field where
  bit : Nat
  align : Nat
  size : Nat
  counted : Nat := 0

/-- The fields before the MCS field, in the order of their bits. -/
def fieldsBeforeMcs : List Field :=
  [{ bit := 0, align := 8, size := 8 }, { bit := 1, align := 1, size := 1, counted := 1 },
    { bit := 2, align := 1, size := 1 }, { bit := 3, align := 2, size := 4, counted := 2 },
    { bit := 4, align := 2, size := 2 }, { bit := 5, align := 1, size := 1, counted := 1 },
    { bit := 6, align := 1, size := 1 }, { bit := 7, align := 2, size := 2 },
    { bit := 8, align := 2, size := 2 }, { bit := 9, align := 2, size := 2 },
    { bit := 10, align := 1, size := 1 }, { bit := 11, align := 1, size := 1, counted := 1 },
    { bit := 12, align := 1, size := 1 }, { bit := 13, align := 1, size := 1 },
    { bit := 14, align := 2, size := 2, counted := 2 }, { bit := 15, align := 2, size := 2 },
    { bit := 16, align := 1, size := 1 }, { bit := 17, align := 1, size := 1 },
    { bit := 18, align := 4, size := 8 }]

/-- The next multiple of an alignment. -/
def alignUp (align pos : Nat) : Nat := (pos + align - 1) / align * align

section layout

variable (buf : Nat → UInt8)

/-- The end of a field, where it is present. -/
def Field.next (pos : Nat) (f : Field) : Nat :=
  if present buf f.bit then alignUp f.align pos + f.size else pos

/-- The padding before a field and the bytes of it that are not counted, where it is present. -/
def Field.uncounted (pos : Nat) (f : Field) : Nat :=
  if present buf f.bit then alignUp f.align pos - pos + (f.size - f.counted) else 0

/-- The words behind `it_present` that extend it: each is announced by bit 31 of the one before. -/
def extraWords : Nat → Nat → Nat
  | 0, _ => 0
  | fuel + 1, i => if (le32 buf i).testBit 31 then 1 + extraWords fuel (i + 4) else 0

/-- The words that extend the bitmap of a header, whose length is below `2 ^ 16`. -/
def extensions : Nat := extraWords buf (2 ^ 14) 4

/-- The start of the first field. -/
def fieldsStart : Nat := 8 + 4 * extensions buf

/-- The start of the rate. -/
def rateStart : Nat := (fieldsBeforeMcs.take 2).foldl (Field.next buf) (fieldsStart buf)

/-- The start of the MCS field. -/
def mcsStart : Nat := fieldsBeforeMcs.foldl (Field.next buf) (fieldsStart buf)

/-- The bytes behind a position that are not counted, field by field. -/
def uncountedFrom : Nat → List Field → Nat
  | _, [] => 0
  | pos, f :: fs => f.uncounted buf pos + uncountedFrom (f.next buf pos) fs

/-- **The bytes the code leaves out** before the MCS field: the words that extend the bitmap, the
padding, and the fields or parts of fields it does not count. -/
def uncounted : Nat := 4 * extensions buf + uncountedFrom buf (fieldsStart buf) fieldsBeforeMcs

/-- The bytes of the field the code looks for. -/
def fieldBytes : List Nat :=
  if present buf 2 then [rateStart buf]
  else if present buf 19 then [mcsStart buf, mcsStart buf + 1, mcsStart buf + 2]
  else []

end layout

section positions

variable {buf : Nat → UInt8}

theorem le_alignUp {align : Nat} (h : 0 < align) (pos : Nat) : pos ≤ alignUp align pos := by
  have hdiv := Nat.div_add_mod (pos + align - 1) align
  have hmod := Nat.mod_lt (pos + align - 1) h
  unfold alignUp
  rw [Nat.mul_comm]
  omega

/-- A field ends behind what is counted of it and what is not. -/
theorem Field.next_eq {f : Field} (halign : 0 < f.align) (hcounted : f.counted ≤ f.size)
    (pos : Nat) :
    f.next buf pos = pos + ifPresent buf f.bit f.counted + f.uncounted buf pos := by
  have hle := le_alignUp halign pos
  unfold Field.next Field.uncounted ifPresent
  split <;> omega

/-- **Where a row of fields ends.** -/
theorem foldl_next_eq (fs : List Field) (h : ∀ f ∈ fs, 0 < f.align ∧ f.counted ≤ f.size) :
    ∀ pos, fs.foldl (Field.next buf) pos =
      pos + (fs.map fun f => ifPresent buf f.bit f.counted).sum + uncountedFrom buf pos fs := by
  induction fs with
  | nil => exact fun pos => rfl
  | cons f fs ih =>
    intro pos
    obtain ⟨halign, hcounted⟩ := h f List.mem_cons_self
    have hnext : f.next buf pos = _ := f.next_eq halign hcounted pos
    rw [List.foldl_cons, ih (fun g hg => h g (List.mem_cons_of_mem _ hg)), List.map_cons,
      List.sum_cons, uncountedFrom, hnext]
    omega

theorem ifPresent_zero (bit : Nat) : ifPresent buf bit 0 = 0 := ite_self 0

/-- The position the code computes counts three bytes for what it leaves out. -/
theorem mcsPos_eq : mcsPos buf + uncounted buf = mcsStart buf + 3 := by
  have hall : ∀ f ∈ fieldsBeforeMcs, 0 < f.align ∧ f.counted ≤ f.size := by decide
  have hsum : (fieldsBeforeMcs.map fun f => ifPresent buf f.bit f.counted).sum + 11 =
      mcsPos buf := by
    simp only [fieldsBeforeMcs, List.map_cons, List.map_nil, List.sum_cons, List.sum_nil,
      ifPresent_zero, mcsPos, ratePos]
    omega
  have hstart : fieldsBeforeMcs.foldl (Field.next buf) (fieldsStart buf) = _ :=
    foldl_next_eq fieldsBeforeMcs hall (fieldsStart buf)
  unfold uncounted mcsStart
  unfold fieldsStart at hstart ⊢
  omega

theorem extensions_eq_zero_iff : extensions buf = 0 ↔ present buf 31 = false := by
  have hstep : extensions buf =
      if (le32 buf 4).testBit 31 then 1 + extraWords buf (2 ^ 14 - 1) (4 + 4) else 0 := rfl
  rw [hstep]
  change _ ↔ (le32 buf 4).testBit 31 = false
  cases (le32 buf 4).testBit 31
  · simp
  · simp

/-- **The rate** is where the code looks for it if only the flags are before it. -/
theorem ratePos_eq_iff : ratePos buf = rateStart buf ↔
    present buf 0 = false ∧ present buf 31 = false := by
  have hstart : rateStart buf = Field.next buf (Field.next buf (fieldsStart buf)
      { bit := 0, align := 8, size := 8 }) { bit := 1, align := 1, size := 1, counted := 1 } := rfl
  rw [hstart, ← extensions_eq_zero_iff]
  unfold ratePos ifPresent Field.next alignUp fieldsStart
  cases present buf 0 <;> cases present buf 1 <;> simp <;> omega

end positions

/-! ## The rate -/

/-- What the MCS field at a position says is an index into `rate_array`: the bandwidth is one of
the first two, the guard interval is long, and the MCS is below 32, where they are known. -/
def McsIndexed (buf : Nat → UInt8) (pos : Nat) : Prop :=
  (buf pos &&& 0x02 ≠ 0 → (buf (pos + 2)).toNat < 32) ∧
    ¬ (buf pos &&& 0x01 ≠ 0 ∧ buf (pos + 1) &&& 0x02 ≠ 0) ∧
    ¬ (buf pos &&& 0x04 ≠ 0 ∧ buf (pos + 1) &&& 0x04 ≠ 0)

/-- The offsets an MCS field at a position is read at. -/
def mcsReads (buf : Nat → UInt8) (pos : Nat) : List Nat :=
  [pos, pos + 1] ++ if buf pos &&& 0x02 ≠ 0 then [pos + 2] else []

section rate

variable {buf : Nat → UInt8} {s : Capture}

theorem mcsBw_lt_iff (known flag : UInt8) :
    (mcsBw known flag).toNat < 2 ↔ ¬ (known &&& 0x01 ≠ 0 ∧ flag &&& 0x02 ≠ 0) := by
  have hflag : ∀ flag : Fin 256, (UInt8.ofNat flag &&& 0x03).toNat < 2 ↔
      UInt8.ofNat flag &&& 0x02 = 0 := by decide +kernel
  have hbits := hflag ⟨flag.toNat, UInt8.toNat_lt flag⟩
  rw [UInt8.ofNat_toNat] at hbits
  unfold mcsBw
  split
  · next hknown =>
    rw [hbits]
    exact ⟨fun h hboth => hboth.2 h, fun h => by_contra fun hne => h ⟨hknown, hne⟩⟩
  · next hknown => exact iff_of_true (by decide) fun hboth => hknown hboth.1

theorem mcsGi_lt_iff (known flag : UInt8) :
    (mcsGi known flag).toNat < 2 ↔ ¬ (known &&& 0x04 ≠ 0 ∧ flag &&& 0x04 ≠ 0) := by
  have hflag : ∀ flag : Fin 256, (UInt8.ofNat flag &&& 0x04).toNat < 2 ↔
      UInt8.ofNat flag &&& 0x04 = 0 := by decide +kernel
  have hbits := hflag ⟨flag.toNat, UInt8.toNat_lt flag⟩
  rw [UInt8.ofNat_toNat] at hbits
  unfold mcsGi
  split
  · next hknown =>
    rw [hbits]
    exact ⟨fun h hboth => hboth.2 h, fun h => by_contra fun hne => h ⟨hknown, hne⟩⟩
  · next hknown => exact iff_of_true (by decide) fun hboth => hknown hboth.1

theorem mcsIndex_eq (known : UInt8) (pos : Nat) : mcsIndex buf known pos s =
    .next (if known &&& 0x02 ≠ 0 then buf (pos + 2) else 0)
      { s with reads := s.reads ++ if known &&& 0x02 ≠ 0 then [pos + 2] else [] } := by
  unfold mcsIndex
  split
  · rfl
  · rw [List.append_nil]
    rfl

/-- **The MCS field**: its bytes are read, and the rate is looked up where they are an index. -/
theorem wp_calMcsrate {N : Nat → Capture → Prop} {X : Unit → Capture → Prop}
    {F : CaptureFault → Capture → Prop} (pos : Nat)
    (hN : ∀ rate, McsIndexed buf pos → N rate { s with reads := s.reads ++ mcsReads buf pos })
    (hF : ¬ McsIndexed buf pos → F .rateArray { s with reads := s.reads ++ mcsReads buf pos }) :
    wp (calMcsrate buf pos) N X F s := by
  have hreads : s.reads ++ [pos] ++ [pos + 1] ++
      (if buf pos &&& 0x02 ≠ 0 then [pos + 2] else []) = s.reads ++ mcsReads buf pos := by
    simp only [mcsReads, List.append_assoc, List.cons_append, List.nil_append]
  unfold calMcsrate
  rw [wp_bind, wp_of_next (show fieldByte buf pos s = Outcome.next _ _ from rfl), wp_bind,
    wp_of_next (show fieldByte buf (pos + 1) _ = Outcome.next _ _ from rfl), wp_bind,
    wp_of_next (mcsIndex_eq ..)]
  have hmcs : (if buf pos &&& 0x02 ≠ 0 then buf (pos + 2) else 0).toNat < 32 ↔
      (buf pos &&& 0x02 ≠ 0 → (buf (pos + 2)).toNat < 32) := by
    split
    · next hknown => exact ⟨fun h _ => h, fun h => h hknown⟩
    · next hknown => exact ⟨fun _ h => absurd h hknown, fun _ => by decide⟩
  -- the assertion of the array is `McsIndexed` in its own words
  have hindexed : (if buf pos &&& 0x02 ≠ 0 then buf (pos + 2) else 0).toNat < 32 ∧
      (mcsBw (buf pos) (buf (pos + 1))).toNat < 2 ∧
      (mcsGi (buf pos) (buf (pos + 1))).toNat < 2 ↔ McsIndexed buf pos := by
    rw [hmcs, mcsBw_lt_iff, mcsGi_lt_iff]
    rfl
  unfold rateAt
  rw [wp_bind, wp_assert]
  by_cases h : McsIndexed buf pos
  · have hgoal := hN (((rateArray.getD (if buf pos &&& 0x02 ≠ 0 then buf (pos + 2) else 0).toNat
      []).getD (mcsBw (buf pos) (buf (pos + 1))).toNat []).getD
      (mcsGi (buf pos) (buf (pos + 1))).toNat 0 / 10) h
    rw [← hreads] at hgoal
    rw [if_pos (hindexed.mpr h)]
    exact hgoal
  · have hgoal := hF h
    rw [← hreads] at hgoal
    rw [if_neg (fun hall => h (hindexed.mp hall))]
    exact hgoal

/-- Reading a rate leaves the frame information alone, and fails in no other way. -/
theorem frame_getRtheaderRate :
    Frame (· = .rateArray) (fun s : Capture => s.frinfo) (getRtheaderRate buf) := by
  have hbyte : ∀ i, Frame (· = CaptureFault.rateArray) (fun s : Capture => s.frinfo)
      (fieldByte buf i) := by
    intro i
    exact frame_bind (frame_modify fun _ => rfl) fun _ => frame_pure _
  unfold getRtheaderRate
  refine frame_ite _ ?_ (frame_ite _ ?_ (frame_ite _ (frame_pure _) (frame_pure _)))
  · exact frame_bind (hbyte _) fun _ => frame_pure _
  · refine frame_bind (hbyte _) fun known => frame_bind (hbyte _) fun flag => ?_
    refine frame_bind (frame_ite _ (hbyte _) (frame_pure _)) fun mcs => ?_
    exact frame_bind (frame_assert (E := (· = CaptureFault.rateArray)) rfl _) fun _ => frame_pure _

/-- **The rate is read right**: the bytes that are read are those of the field in the layout of
the header, from its first on, they are inside the header, and no index leaves `rate_array`. -/
def RateRight (buf : Nat → UInt8) (n : Nat) : Prop :=
  wp (getRtheaderRate buf) (fun _ s => s.reads <+: fieldBytes buf ∧ ∀ i ∈ s.reads, i < n)
    (fun _ _ => False) (fun _ _ => False) {}

/-- The rate is read right where it is present: nothing but the flags is before it, and it is
inside the header. -/
def RateReadable (buf : Nat → UInt8) (n : Nat) : Prop :=
  (present buf 0 = false ∧ present buf 31 = false) ∧ 8 + ifPresent buf 1 1 < n

/-- The MCS field is read right where it is present, and the rate is not: three bytes are left out
before it, what is read of it is inside the header, and it says an index. -/
def McsReadable (buf : Nat → UInt8) (n : Nat) : Prop :=
  uncounted buf = 3 ∧ (∀ i ∈ mcsReads buf (mcsStart buf), i < n) ∧ McsIndexed buf (mcsStart buf)

/-- **When the rate is read right.** -/
theorem rateRight_iff (n : Nat) : RateRight buf n ↔
    (present buf 2 = true → RateReadable buf n) ∧
      (present buf 2 = false → present buf 19 = true → McsReadable buf n) := by
  unfold RateRight getRtheaderRate fieldBytes
  cases hrate : present buf 2 with
  | true =>
    rw [if_pos rfl, if_pos rfl]
    -- the rate field is one byte, read where the fields counted before it end
    have hread : calCckrate buf (ratePos buf) ({} : Capture) =
      .next ((buf (ratePos buf)).toNat / 2) { reads := [ratePos buf] } := rfl
    rw [wp_of_next hread]
    unfold RateReadable
    rw [← ratePos_eq_iff]
    simp [ratePos]
  | false =>
    rw [if_neg Bool.false_ne_true, if_neg Bool.false_ne_true]
    cases hmcs : present buf 19 with
    | true =>
      rw [if_pos rfl, if_pos rfl]
      have hspec : wp (calMcsrate buf (mcsPos buf))
          (fun _ s => McsIndexed buf (mcsPos buf) ∧ s.reads = mcsReads buf (mcsPos buf))
          (fun _ _ => False) (fun _ _ => ¬ McsIndexed buf (mcsPos buf)) {} :=
        wp_calMcsrate _ (fun _ h => ⟨h, rfl⟩) id
      -- the position is right where the fields not counted make up for three bytes
      have hpos : uncounted buf = 3 ↔ mcsPos buf = mcsStart buf := by
        have heq : mcsPos buf + uncounted buf = mcsStart buf + 3 := mcsPos_eq
        omega
      constructor
      · intro hright
        refine ⟨nofun, fun _ _ => ?_⟩
        obtain ⟨_, s, -, ⟨hpre, hlt⟩, hindexed, hreads⟩ := exists_next_of_wp
          (wp_mono (wp_and hright hspec) (fun _ _ h => h) (fun _ _ h => h.1) (fun _ _ h => h.1))
        rw [hreads] at hpre hlt
        have hstart : mcsPos buf = mcsStart buf := (List.cons_prefix_cons.mp hpre).1
        rw [hstart] at hlt hindexed
        exact ⟨hpos.mpr hstart, hlt, hindexed⟩
      · rintro ⟨-, hreadable⟩
        obtain ⟨hthree, hlt, hindexed⟩ := hreadable rfl rfl
        rw [← hpos.mp hthree] at hlt hindexed ⊢
        refine wp_mono hspec ?_ (fun _ _ h => h) (fun _ _ h => h hindexed)
        rintro _ s ⟨-, hreads⟩
        rw [hreads]
        refine ⟨?_, hlt⟩
        unfold mcsReads
        split
        · exact List.prefix_refl _
        · exact List.prefix_append [mcsPos buf, mcsPos buf + 1] [mcsPos buf + 2]
    | false =>
      rw [if_neg Bool.false_ne_true, if_neg Bool.false_ne_true]
      refine iff_of_true ?_ ⟨nofun, fun _ => nofun⟩
      split
      · exact ⟨List.nil_prefix, fun _ h => absurd h List.not_mem_nil⟩
      · exact ⟨List.nil_prefix, fun _ h => absurd h List.not_mem_nil⟩

end rate

/-! ## The addresses -/

/-- The source and the destination address of a frame, as its DS bits prescribe. -/
def dsAddresses (pframe : Nat) (ds : UInt8) : Nat × Nat :=
  if ds = 1 then (addr2 pframe, addr3 pframe)
  else if ds = 2 then (addr3 pframe, addr1 pframe)
  else if ds = 0 then (addr2 pframe, addr1 pframe)
  else (pframe + 24, addr3 pframe)

/-- **The addresses are right**: both are assigned as prescribed, and inside the frame. -/
structure AddressesRight (buf : Nat → UInt8) (pframe len : Nat) (frinfo : RxFrinfo) : Prop where
  sa : frinfo.sa = some (dsAddresses pframe (frameDs buf pframe)).1
  da : frinfo.da = some (dsAddresses pframe (frameDs buf pframe)).2
  sa_inside : (dsAddresses pframe (frameDs buf pframe)).1 + 6 ≤ len
  da_inside : (dsAddresses pframe (frameDs buf pframe)).2 + 6 ≤ len

/-- Both addresses are right in whatever way the frame is done with, but for a frame without data,
of which none is used. -/
def UsesAddresses (buf : Nat → UInt8) (nofcs : Bool) (len : Nat) : Prop :=
  wp (receive buf nofcs len) (fun _ s => AddressesRight buf (itLen buf) len s.frinfo)
    (fun _ s => frameType buf (itLen buf) ≠ 0x08 ∨ AddressesRight buf (itLen buf) len s.frinfo)
    (fun e s => e = .rateArray ∧ AddressesRight buf (itLen buf) len s.frinfo) {}

/-- One of the two DS bits is set. -/
def OneDs (buf : Nat → UInt8) (pframe : Nat) : Prop :=
  frameDs buf pframe = 1 ∨ frameDs buf pframe = 2

section addresses

variable {buf : Nat → UInt8} {pframe len : Nat} {frinfo : RxFrinfo}

theorem AddressesRight.rxRate (h : AddressesRight buf pframe len frinfo) (rate : UInt8)
    (seq pktlen : Nat) : AddressesRight buf pframe len
      { frinfo with rxRate := rate, seq := seq, pktlen := pktlen } :=
  ⟨h.sa, h.da, h.sa_inside, h.da_inside⟩

theorem wp_parseBroadcast {s : Capture} (h : AddressesRight buf pframe len s.frinfo) :
    wp (parseBroadcast buf pframe) (fun _ s => AddressesRight buf pframe len s.frinfo)
      (fun _ s => AddressesRight buf pframe len s.frinfo)
      (fun e s => e = .rateArray ∧ AddressesRight buf pframe len s.frinfo) s := by
  unfold parseBroadcast
  refine frame_getRtheaderRate.wp_bind (fun _ s' hs' => hs' ▸ h)
    (fun e s' he hs' => ⟨he, hs' ▸ h⟩) fun rate s' hs' => ?_
  have h' : AddressesRight buf pframe len s'.frinfo := hs' ▸ h
  rw [wp_bind, wp_modify, wp_bind, wp_modify, wp_bind, wp_modify, wp_modify]
  split
  · exact h'.rxRate (UInt8.ofNat rate) (getSequence buf pframe) (s'.frinfo.pktlen + 2)
  · exact h'.rxRate (UInt8.ofNat rate) (getSequence buf pframe) s'.frinfo.pktlen

/-- The frame from its DS bits on. -/
theorem processPacket_eq {size : Nat} {s : Capture} (hdata : frameType buf pframe = 0x08)
    (hsize : pframe + 50 ≤ size) :
    ∃ s', processPacket buf size pframe s = (do
        assignAddresses pframe
        assert .uninitialised fun s => s.frinfo.da.isSome ∧ s.frinfo.sa.isSome
        let s ← gets id
        let da := s.frinfo.da.getD 0
        if IsMulticast buf da then pure ()
        else if IsBroadcast buf da then parseBroadcast buf pframe
        else pure () : Receiver Unit) s' ∧
      s'.frinfo.toFrDs = frameDs buf pframe ∧ s'.frinfo.sa = s.frinfo.sa ∧
      s'.frinfo.da = s.frinfo.da := by
  unfold processPacket
  rw [bind_next (show modify _ s = Outcome.next () _ from rfl), bind_next (exitIf_of_not _ ?_),
    bind_next (show modify _ _ = Outcome.next () _ from rfl)]
  · exact ⟨_, rfl, rfl, rfl, rfl⟩
  · rintro (htype | hshort)
    · exact htype hdata
    · have : size - pframe < 50 := hshort
      omega

/-- What follows once both addresses are right. -/
theorem wp_useAddresses {s : Capture} (h : AddressesRight buf pframe len s.frinfo) :
    wp (do
        assert .uninitialised fun s => s.frinfo.da.isSome ∧ s.frinfo.sa.isSome
        let s ← gets id
        let da := s.frinfo.da.getD 0
        if IsMulticast buf da then pure ()
        else if IsBroadcast buf da then parseBroadcast buf pframe
        else pure () : Receiver Unit)
      (fun _ s => AddressesRight buf pframe len s.frinfo)
      (fun _ s => AddressesRight buf pframe len s.frinfo)
      (fun e s => e = .rateArray ∧ AddressesRight buf pframe len s.frinfo) s := by
  have hsome : s.frinfo.da.isSome ∧ s.frinfo.sa.isSome := by
    rw [h.sa, h.da]
    exact ⟨rfl, rfl⟩
  rw [wp_bind, wp_assert, if_pos hsome, wp_bind, wp_gets]
  change wp (if IsMulticast buf (s.frinfo.da.getD 0) then _ else
    if IsBroadcast buf (s.frinfo.da.getD 0) then _ else _) _ _ _ s
  split
  · exact h
  · split
    · exact wp_parseBroadcast h
    · exact h

theorem isExit_processPacket {size : Nat} {s : Capture} (hdata : frameType buf pframe ≠ 0x08) :
    (processPacket buf size pframe s).IsExit () := by
  unfold processPacket
  rw [bind_next (show modify _ s = Outcome.next () _ from rfl), bind_exit (exitIf_of _ ?_)]
  · exact rfl
  · exact Or.inl hdata

/-- **When the addresses are right.** -/
theorem usesAddresses_iff {nofcs : Bool} (haccept : getRtheaderLen buf len = itLen buf)
    (hpos : 1 ≤ itLen buf) (hframe : itLen buf + 50 ≤ len) :
    UsesAddresses buf nofcs len ↔
      (frameType buf (itLen buf) = 0x08 → OneDs buf (itLen buf)) := by
  have hsize : itLen buf + 50 ≤ if nofcs then len + 4 else len := by split <;> omega
  unfold UsesAddresses receive
  rw [haccept, if_neg (by omega), Int.toNat_natCast]
  by_cases hdata : frameType buf (itLen buf) = 0x08
  · -- a data frame is copied, with the bits that say which addresses it has
    obtain ⟨s, heq, hds, hsa, -⟩ := processPacket_eq (s := {}) hdata hsize
    rw [wp_congr heq, wp_bind]
    unfold assignAddresses
    rw [wp_modify]
    by_cases hone : OneDs buf (itLen buf)
    · refine iff_of_true ?_ fun _ => hone
      refine wp_mono (wp_useAddresses ?_) (fun _ _ h => h) (fun _ _ h => Or.inr h)
        (fun _ _ h => h)
      rcases hone with hone | htwo
      · rw [if_pos (hds.trans hone)]
        constructor <;> rw [hone]
        · rfl
        · rfl
        · change itLen buf + 10 + 6 ≤ len
          omega
        · change itLen buf + 16 + 6 ≤ len
          omega
      · rw [if_neg (by rw [hds, htwo]; decide), if_pos (hds.trans htwo)]
        constructor <;> rw [htwo]
        · rfl
        · rfl
        · change itLen buf + 16 + 6 ≤ len
          omega
        · change itLen buf + 4 + 6 ≤ len
          omega
    · refine iff_of_false ?_ fun h => hone (h hdata)
      -- both bits or none: no source address is set
      have hunassigned : ¬ (s.frinfo.da.isSome ∧ s.frinfo.sa.isSome) := by
        rw [hsa]
        exact fun h => Bool.false_ne_true h.2
      rw [if_neg (fun h => hone (Or.inl (hds.symm.trans h))),
        if_neg (fun h => hone (Or.inr (hds.symm.trans h))), wp_bind, wp_assert, if_neg hunassigned]
      exact fun h => nomatch h.1
  · refine iff_of_true ?_ fun h => absurd h hdata
    unfold wp
    rw [(isExit_processPacket hdata).eq]
    exact Or.inl hdata

end addresses

/-! ## The frame -/

/-- **A captured frame is interpreted inside its bytes.** -/
structure Interpreted (buf : Nat → UInt8) (nofcs : Bool) (len : Nat) : Prop where
  addresses : UsesAddresses buf nofcs len
  rate : RateRight buf (itLen buf)

/-- **When a frame is interpreted right**, for every buffer that is accepted and every frame of 50
bytes and more in it. -/
theorem interpreted_iff {buf : Nat → UInt8} {nofcs : Bool} {len : Nat}
    (haccept : getRtheaderLen buf len = itLen buf) (hpos : 1 ≤ itLen buf)
    (hframe : itLen buf + 50 ≤ len) :
    Interpreted buf nofcs len ↔
      (frameType buf (itLen buf) = 0x08 → OneDs buf (itLen buf)) ∧
        (present buf 2 = true → RateReadable buf (itLen buf)) ∧
        (present buf 2 = false → present buf 19 = true → McsReadable buf (itLen buf)) := by
  rw [← rateRight_iff, ← usesAddresses_iff haccept hpos hframe]
  exact ⟨fun h => ⟨h.addresses, h.rate⟩, fun h => ⟨h.1, h.2⟩⟩

/-- A header of nine bytes with a rate, and a frame of data with the given DS bits. -/
def someFrame (ds : UInt8) : Nat → UInt8 := fun i => [0, 0, 9, 0, 4, 0, 0, 0, 12, 8, ds].getD i 0

/-- A frame to the distribution system. -/
theorem interpreted_iff_toDs :
    Interpreted (someFrame 1) false 59 ↔
      (frameType (someFrame 1) 9 = 0x08 → OneDs (someFrame 1) 9) ∧
        (present (someFrame 1) 2 = true → RateReadable (someFrame 1) 9) ∧
        (present (someFrame 1) 2 = false → present (someFrame 1) 19 = true →
          McsReadable (someFrame 1) 9) :=
  interpreted_iff (by decide) (by decide) (by decide)

/-- A frame between two stations, without a DS bit. -/
theorem not_interpreted :
    ¬ ∀ (buf : Nat → UInt8) (nofcs : Bool) (len : Nat), getRtheaderLen buf len = itLen buf →
      1 ≤ itLen buf → itLen buf + 50 ≤ len → Interpreted buf nofcs len := by
  intro hall
  have hright := hall (someFrame 0) false 59 (by decide) (by decide) (by decide)
  have hone := (usesAddresses_iff (by decide) (by decide) (by decide)).mp hright.addresses
    (by decide)
  exact absurd hone (by unfold OneDs; decide)

end SimpleConfig

end Rk3399
