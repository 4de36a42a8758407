import Rk3399.Common.Simulation
import Rk3399.Jpeg.Model.Markers
/-!
# The marker loops side by side

`JpegDecDecode` notes that it came across a DRI segment, which
`JpegDecNextScanHdrs` does not, and no function reads the note. The
functions both loops call end the same way from instances that agree but
for it.
-/

namespace Rk3399

namespace Jpeg

open Prog

/-- The instances agree but for the note on DRI segments. -/
def SameButDri (c c' : JpegDecContainer) : Prop := ∃ d, c' = { c with driEn := d }

theorem SameButDri.refl (c : JpegDecContainer) : SameButDri c c := ⟨c.driEn, rfl⟩

/-- `x` neither reads the note nor passes it on. -/
abbrev Blind {α ρ : Type} (x : Decoder ρ α) : Prop := Related SameButDri x x

section steps

variable {α β ρ : Type} (mem : Nat → UInt8)

theorem blind_gets {f : JpegDecContainer → α} (h : ∀ c d, f { c with driEn := d } = f c) :
    Blind (gets f : Decoder ρ α) := by
  refine related_gets ?_
  rintro c - ⟨d, rfl⟩
  exact (h c d).symm

theorem blind_modify {f : JpegDecContainer → JpegDecContainer}
    (h : ∀ c d, f { c with driEn := d } = { f c with driEn := d }) :
    Blind (modify f : Decoder ρ Unit) := by
  refine related_modify ?_
  rintro c - ⟨d, rfl⟩
  exact ⟨d, h c d⟩

theorem blind_exitIf (r : ρ) {p : JpegDecContainer → Prop} [DecidablePred p]
    (h : ∀ c d, p { c with driEn := d } ↔ p c) : Blind (exitIf r p : Decoder ρ Unit) := by
  refine related_exitIf r ?_
  rintro c - ⟨d, rfl⟩
  exact (h c d).symm

theorem blind_whenever {p : JpegDecContainer → Prop} [DecidablePred p]
    (h : ∀ c d, p { c with driEn := d } ↔ p c) {x : Decoder ρ Unit} (hx : Blind x) :
    Blind (whenever p x) := by
  refine related_whenever ?_ hx
  rintro c - ⟨d, rfl⟩
  exact (h c d).symm

theorem blind_onStream (x : Prog Fault ρ StreamStorage α) : Blind (onStream x) := by
  refine related_zoom ?_ ?_ x
  · rintro c - ⟨d, rfl⟩
    rfl
  · rintro c - t ⟨d, rfl⟩
    exact ⟨d, rfl⟩

theorem blind_record (e : Event) : Blind (record e : Decoder ρ Unit) :=
  blind_modify fun _ _ => rfl

theorem blind_subscript (i : Nat) : Blind (subscript i : Decoder ρ (Fin 3)) := by
  refine ⟨?_⟩
  rintro c - ⟨d, rfl⟩
  unfold subscript
  by_cases h : i < 3
  · rw [dif_pos h, dif_pos h]
    exact .next _ ⟨d, rfl⟩
  · rw [dif_neg h, dif_neg h]
    exact .fault _ ⟨d, rfl⟩

theorem blind_getByte : Blind (getByte mem : Decoder ρ Nat) := blind_onStream _

theorem blind_get2Bytes : Blind (get2Bytes mem : Decoder ρ Nat) := blind_onStream _

end steps

section segments

variable (mem : Nat → UInt8)

/-! ## Tables -/

theorem blind_quantTable (t : Nat) : Blind (quantTable mem t) := by
  refine related_bind (blind_getByte mem) fun tmp => ?_
  refine related_bind (blind_exitIf _ fun _ _ => Iff.rfl) fun _ => ?_
  cases tableId (tmp % 16) with
  | none => exact related_exit _
  | some Tq =>
    refine related_bind (blind_onStream _) fun table => ?_
    refine related_bind (blind_modify fun _ _ => rfl) fun _ => ?_
    exact related_bind (blind_record _) fun _ => related_pure _

theorem blind_quantTables (Lq n : Nat) : ∀ t, Blind (quantTables mem Lq n t) := by
  induction n with
  | zero => exact fun _ => related_fault _
  | succ n ih =>
    exact fun t => related_ite _ (related_bind (blind_quantTable mem t) ih) (related_pure _)

theorem blind_jpegDecDecodeQuantTables : Blind (jpegDecDecodeQuantTables mem) := by
  refine related_bind (blind_get2Bytes mem) fun Lq => ?_
  refine related_bind (blind_modify fun _ _ => rfl) fun _ => ?_
  exact related_bind (blind_exitIf _ fun _ _ => Iff.rfl) fun _ => blind_quantTables mem _ _ _

theorem blind_huffmanTable (len : Nat) : Blind (huffmanTable mem len) := by
  refine related_bind (blind_getByte mem) fun tmp => ?_
  cases tableClass (tmp / 16) with
  | none => exact related_exit _
  | some Tc =>
    refine related_bind (blind_exitIf _ fun _ _ => Iff.rfl) fun _ => ?_
    refine related_bind (blind_exitIf _ fun _ _ => Iff.rfl) fun _ => ?_
    cases tableId (tmp % 16) with
    | none => exact related_exit _
    | some Th =>
      refine related_bind (blind_onStream _) fun bits => ?_
      refine related_bind (related_assert _ fun _ _ _ => Iff.rfl) fun _ => ?_
      refine related_bind (blind_onStream _) fun vals => ?_
      refine related_bind (blind_gets fun _ _ => rfl) fun table => ?_
      refine related_bind (blind_modify fun _ _ => rfl) fun _ => ?_
      exact related_bind (blind_record _) fun _ => related_pure _

theorem blind_huffmanTables (Lh n : Nat) : ∀ len, Blind (huffmanTables mem Lh n len) := by
  induction n with
  | zero => exact fun _ => related_fault _
  | succ n ih =>
    exact fun len => related_ite _ (related_bind (blind_huffmanTable mem len) ih) (related_pure _)

theorem blind_jpegDecDecodeHuffmanTables : Blind (jpegDecDecodeHuffmanTables mem) := by
  refine related_bind (blind_get2Bytes mem) fun Lh => ?_
  refine related_bind (blind_modify fun _ _ => rfl) fun _ => ?_
  exact related_bind (blind_exitIf _ fun _ _ => Iff.rfl) fun _ => blind_huffmanTables mem _ _ _

/-! ## The scan header -/

theorem blind_scanChroma : Blind scanChroma := by
  refine related_bind (blind_whenever (fun _ _ => Iff.rfl) ?_) fun _ =>
    blind_modify fun _ _ => rfl
  refine related_bind (blind_gets fun _ _ => rfl) fun orig => ?_
  refine related_ite _ (blind_modify fun _ _ => rfl) ?_
  refine related_ite _ (blind_modify fun _ _ => rfl) ?_
  refine related_ite _ (blind_modify fun _ _ => rfl) ?_
  exact related_bind (blind_modify fun _ _ => rfl) fun _ => related_exit _

theorem blind_scanLuma (cIndex : Nat) : Blind (scanLuma cIndex) := by
  refine related_bind (blind_modify fun _ _ => rfl) fun _ => ?_
  refine related_bind (blind_gets fun _ _ => rfl) fun mode => ?_
  refine related_ite _ (blind_modify fun _ _ => rfl) ?_
  refine related_ite _ (blind_modify fun _ _ => rfl) (related_ite _ ?_ (related_pure _))
  exact related_bind (blind_modify fun _ _ => rfl) fun _ => related_exit _

theorem blind_scanComponent (cIndex : Fin 3) (Cs : Nat) : Blind (scanComponent cIndex Cs) := by
  refine related_ite _ blind_scanChroma (related_ite _ (blind_scanLuma _) ?_)
  exact related_bind (blind_modify fun _ _ => rfl) fun _ => related_exit _

theorem blind_scanUpdate (cIndex : Fin 3) (Cs : Nat) : Blind (scanUpdate cIndex Cs) := by
  refine related_bind (blind_gets fun _ _ => rfl) fun Nf => related_ite _ ?_ ?_
  · refine related_bind (blind_modify fun _ _ => rfl) fun _ => ?_
    refine related_bind (blind_subscript _) fun k => ?_
    refine related_bind (blind_modify fun _ _ => rfl) fun _ => ?_
    exact related_bind (blind_scanComponent _ _) fun _ => blind_modify fun _ _ => rfl
  · exact related_ite _ (blind_modify fun _ _ => rfl) (related_pure _)

theorem blind_scanSingle : Blind (scanSingle mem) := by
  refine related_bind (blind_modify fun _ _ => rfl) fun _ => ?_
  refine related_bind (blind_getByte mem) fun Cs => ?_
  refine related_bind (blind_modify fun _ _ => rfl) fun _ => ?_
  refine related_bind (blind_subscript _) fun k => ?_
  refine related_bind (blind_modify fun _ _ => rfl) fun _ => ?_
  refine related_bind (blind_getByte mem) fun tmp => ?_
  refine related_bind (blind_modify fun _ _ => rfl) fun _ => ?_
  exact related_bind (blind_scanUpdate _ _) fun _ => blind_modify fun _ _ => rfl

theorem blind_scanComponents (n : Nat) : ∀ i, Blind (scanComponents mem n i) := by
  induction n with
  | zero => exact fun _ => related_pure _
  | succ n ih =>
    intro i
    refine related_bind (blind_getByte mem) fun Cs => ?_
    refine related_bind (blind_subscript _) fun k => ?_
    refine related_bind (blind_modify fun _ _ => rfl) fun _ => ?_
    refine related_bind (blind_getByte mem) fun tmp => ?_
    exact related_bind (blind_modify fun _ _ => rfl) fun _ => ih _

theorem blind_scanInterleaved (Ns : Nat) : Blind (scanInterleaved mem Ns) :=
  related_bind (blind_scanComponents mem Ns 0) fun _ => blind_modify fun _ _ => rfl

theorem blind_scanParams : Blind (scanParams mem) := by
  refine related_bind (blind_getByte mem) fun Ss => ?_
  refine related_bind (blind_modify fun _ _ => rfl) fun _ => ?_
  refine related_bind (blind_getByte mem) fun Se => ?_
  refine related_bind (blind_modify fun _ _ => rfl) fun _ => ?_
  refine related_bind (blind_getByte mem) fun tmp => ?_
  refine related_bind (blind_modify fun _ _ => rfl) fun _ => ?_
  refine related_bind (blind_whenever (fun _ _ => Iff.rfl) ?_) fun _ =>
    blind_whenever (fun _ _ => Iff.rfl) ?_
  · refine related_bind (blind_exitIf _ fun _ _ => Iff.rfl) fun _ => ?_
    refine related_bind (blind_exitIf _ fun _ _ => Iff.rfl) fun _ => ?_
    refine related_bind (blind_exitIf _ fun _ _ => Iff.rfl) fun _ => ?_
    refine related_bind (blind_exitIf _ fun _ _ => Iff.rfl) fun _ => ?_
    exact blind_modify fun _ _ => rfl
  · refine related_bind (blind_exitIf _ fun _ _ => Iff.rfl) fun _ => ?_
    refine related_bind (blind_exitIf _ fun _ _ => Iff.rfl) fun _ => ?_
    refine related_bind (blind_exitIf _ fun _ _ => Iff.rfl) fun _ => ?_
    refine blind_modify fun c d => ?_
    unfold progressiveScan
    split
    · rfl
    · rfl

theorem blind_jpegDecDecodeScanHeader : Blind (jpegDecDecodeScanHeader mem) := by
  refine related_bind (blind_get2Bytes mem) fun Ls => ?_
  refine related_bind (blind_modify fun _ _ => rfl) fun _ => ?_
  refine related_bind (blind_exitIf _ fun _ _ => Iff.rfl) fun _ => ?_
  refine related_bind (blind_getByte mem) fun Ns => ?_
  refine related_bind (blind_modify fun _ _ => rfl) fun _ => ?_
  refine related_bind (related_ite _ (blind_scanSingle mem) (blind_scanInterleaved mem Ns)) ?_
  exact fun _ => blind_scanParams mem

/-! ## The buffers -/

theorem layoutPlanes_blind (chroma2 : OperationType → Nat → Nat → Nat) (c : JpegDecContainer)
    (d : Nat) : layoutPlanes chroma2 { c with driEn := d } =
      { layoutPlanes chroma2 c with driEn := d } := by
  unfold layoutPlanes
  by_cases hchroma : c.image.sizeChroma ≠ 0
  · simp only [if_pos hchroma]
  · simp only [if_neg hchroma]

theorem blind_jpegDecAllocateResidual (reply : AllocReply) :
    Blind (jpegDecAllocateResidual reply) := by
  refine related_bind (blind_gets fun _ _ => rfl) fun size => ?_
  refine related_bind (blind_whenever (fun _ _ => Iff.rfl) ?_) fun _ =>
    blind_whenever (fun _ _ => Iff.rfl) ?_
  · refine related_bind (blind_modify fun _ _ => rfl) fun _ => ?_
    exact blind_exitIf _ fun _ _ => Iff.rfl
  · refine blind_modify fun c d => ?_
    by_cases hgiven : c.info.givenOutLuma.virAddr = 0
    · rw [if_pos hgiven, if_pos hgiven]
      exact layoutPlanes_blind _ c d
    · rw [if_neg hgiven, if_neg hgiven]
      rfl

theorem blind_jpegDecDecodeScan (reply : AllocReply) : Blind (jpegDecDecodeScan mem reply) := by
  refine related_bind (blind_jpegDecDecodeScanHeader mem) fun _ => ?_
  refine related_bind (blind_gets fun _ _ => rfl) fun fresh => related_ite _ ?_ ?_
  · exact related_bind (blind_jpegDecAllocateResidual reply) fun _ => blind_modify fun _ _ => rfl
  · exact blind_modify fun c d => layoutPlanes_blind _ c d

/-! ## The segments -/

variable (env : Env)

theorem blind_scanSegment : Blind (scanSegment env) := by
  refine related_bind (blind_modify fun _ _ => rfl) fun _ => ?_
  refine related_bind (related_call (blind_jpegDecDecodeScan _ _)) fun retCode => ?_
  refine related_bind (blind_modify fun _ _ => rfl) fun _ => ?_
  refine related_bind ?_ fun _ => blind_whenever (fun _ _ => Iff.rfl) ?_
  · cases retCode with
    | none => exact related_pure _
    | some r => exact related_exit _
  · refine related_bind (blind_gets fun _ _ => rfl) fun bitPos => ?_
    refine related_bind (blind_onStream _) fun flushed => ?_
    exact blind_exitIf _ fun _ _ => Iff.rfl

theorem blind_restartSegment : Blind (restartSegment env) := by
  refine related_bind (blind_get2Bytes _) fun currentBytes => ?_
  refine related_bind (blind_exitIf _ fun _ _ => Iff.rfl) fun _ => ?_
  refine related_bind (blind_get2Bytes _) fun Ri => ?_
  exact related_bind (blind_modify fun _ _ => rfl) fun _ => blind_record _

theorem blind_clearPredictors : Blind clearPredictors := blind_modify fun _ _ => rfl

theorem blind_jumpSegment : Blind (jumpSegment env) := by
  refine related_bind (blind_get2Bytes _) fun currentBytes => ?_
  refine related_bind (blind_exitIf _ fun _ _ => Iff.rfl) fun _ => ?_
  exact blind_modify fun _ _ => rfl

end segments

end Jpeg

end Rk3399
