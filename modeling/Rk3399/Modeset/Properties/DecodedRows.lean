import Rk3399.Modeset.Model.Decoding
import Mathlib.Tactic.Ring
/-!
# Where the rows of a picture land

The rows are copied one behind the other, and read with the pitch of the
buffer. The two agree where a row fills its pitch; and the offsets are right
as long as their type holds them.
-/

namespace Rk3399

namespace Modeset

open Prog

/-! ## What is asked for -/

/-- One or three components. -/
inductive Components where
  | one
  | three
  deriving DecidableEq, Repr

def Components.toNat : Components → Nat
  | .one => 1
  | .three => 3

/-- The index of a channel of a pixel in a row of samples: a grey value is all three. -/
def Components.index (c : Components) (x channel : Nat) : Nat :=
  match c with
  | .one => x
  | .three => 3 * x + channel

/-- **Decoded rows land where the display reads them**, for every picture of a size: the
decoder stays in the buffer, and the pixel at `x` and `y` is where the framebuffer has it. -/
def RowsLand {width height : UInt16} (c : Components) (bo : Bo width height) : Prop :=
  ∀ sample output, ∃ t, jpegSfDecode bo.size (some ⟨width, height, c.toNat, sample⟩)
      { output := output } = .next () t ∧
    ∀ y < height.toNat, ∀ x < width.toNat, ∀ channel < 3,
      t.output ((register bo).pixel x y + channel) = sample y (c.index x channel)

/-- Rows fill their pitch, or there is but one; and the offsets are held by their types. -/
def Packs {width height : UInt16} (c : Components) (bo : Bo width height) : Prop :=
  width.toNat = 0 ∨ height.toNat = 0 ∨
    ((bo.pitch = 3 * width.toNat ∨ height.toNat = 1) ∧
      match c with
      | .one => 3 * width.toNat * height.toNat ≤ 2 ^ 31
      | .three => 3 * width.toNat * (height.toNat - 1) < 2 ^ 32)

/-! ## The rows -/

/-- The bytes a row of samples becomes. -/
def Components.bytes (c : Components) (row : List UInt8) : List UInt8 :=
  match c with
  | .one => row.flatMap fun col => [col, col, col]
  | .three => row

/-- The offset of a row of one component. -/
def greyOffset (pic : Picture) (y : Nat) : Nat := pic.outputWidth.toNat * 3 * y

/-- The offset a row is copied to. -/
def Components.offset (c : Components) (pic : Picture) (y : Nat) : Nat :=
  match c with
  | .one => greyOffset pic y
  | .three => rowOffset pic y

/-- The bytes that are copied for a row. -/
def Components.rowBytes (c : Components) (pic : Picture) (y : Nat) : List UInt8 :=
  c.bytes (pic.row y)

section

variable {pic : Picture} {size : Nat} {s : Decoding} {c : Components}

theorem length_row (pic : Picture) (y : Nat) :
    (pic.row y).length = pic.outputWidth.toNat * pic.outputComponents := by
  unfold Picture.row
  rw [List.length_map, List.length_range]

theorem getElem_row {y i : Nat} (h : i < (pic.row y).length) : (pic.row y)[i] = pic.sample y i := by
  simp [Picture.row]

theorem length_flatMap_triple (row : List UInt8) :
    (row.flatMap fun col => [col, col, col]).length = 3 * row.length := by
  induction row with
  | nil => rfl
  | cons col row ih =>
    rw [List.flatMap_cons, List.length_append, ih, List.length_cons]
    show 3 + 3 * row.length = 3 * (row.length + 1)
    omega

theorem length_bytes (pic : Picture) (hc : pic.outputComponents = c.toNat) (y : Nat) :
    (c.bytes (pic.row y)).length = 3 * pic.outputWidth.toNat := by
  cases c with
  | one =>
    show (List.flatMap _ _).length = _
    rw [length_flatMap_triple, length_row, hc]
    show 3 * (pic.outputWidth.toNat * 1) = _
    omega
  | three =>
    show (pic.row y).length = _
    rw [length_row, hc]
    show pic.outputWidth.toNat * 3 = _
    omega

theorem getElem_flatMap_triple (row : List UInt8) {x channel : Nat} (hx : x < row.length)
    (hchannel : channel < 3) :
    (row.flatMap fun col => [col, col, col])[3 * x + channel]? = some row[x] := by
  induction row generalizing x with
  | nil => cases hx
  | cons col row ih =>
    rw [List.flatMap_cons]
    cases x with
    | zero =>
      rw [List.getElem?_append_left (by simp; omega)]
      match channel, hchannel with
      | 0, _ => rfl
      | 1, _ => rfl
      | 2, _ => rfl
    | succ x =>
      rw [List.getElem?_append_right (by simp; omega)]
      have hidx : 3 * (x + 1) + channel - [col, col, col].length = 3 * x + channel := by
        show 3 * (x + 1) + channel - 3 = _
        omega
      rw [hidx, ih (by rw [List.length_cons] at hx; omega)]
      rfl

/-- **The bytes of a pixel** are the samples it is read from. -/
theorem getElem_bytes (hc : pic.outputComponents = c.toNat) {y x channel : Nat}
    (hx : x < pic.outputWidth.toNat) (hchannel : channel < 3) :
    (c.bytes (pic.row y))[3 * x + channel]? = some (pic.sample y (c.index x channel)) := by
  cases c with
  | one =>
    have hlt : x < (pic.row y).length := by
      rw [length_row, hc]
      show x < pic.outputWidth.toNat * 1
      omega
    refine (getElem_flatMap_triple _ hlt hchannel).trans ?_
    rw [getElem_row]
    rfl
  | three =>
    have hlt : 3 * x + channel < (pic.row y).length := by
      rw [length_row, hc]
      show 3 * x + channel < pic.outputWidth.toNat * 3
      omega
    refine (List.getElem?_eq_getElem hlt).trans ?_
    rw [getElem_row]
    rfl

theorem jpegReadScanline_eq (h : s.outputScanline = s.y) :
    jpegReadScanline pic s = .next () { s with
      lineBuf := pic.row s.y
      outputScanline := s.y + 1 } := by
  show Outcome.next () { s with
    lineBuf := pic.row s.outputScanline
    outputScanline := s.outputScanline + 1 } = _
  rw [h]

/-! ## Three components -/

theorem rgbRound_eq (hc : pic.outputComponents = 3) (hy : s.y < pic.outputHeight.toNat)
    (hline : s.outputScanline = s.y)
    (hsize : rowOffset pic s.y + 3 * pic.outputWidth.toNat ≤ size) :
    rgbRound size pic s = .next true { s with
      lineBuf := pic.row s.y
      outputScanline := s.y + 1
      output := poke (rowOffset pic s.y) (pic.row s.y) s.output
      y := s.y + 1 } := by
  have hlen : (pic.row s.y).length = 3 * pic.outputWidth.toNat := by
    rw [length_row, hc]
    omega
  have hcopy : copyRow size (rowOffset pic s.y) (3 * pic.outputWidth.toNat)
      { s with lineBuf := pic.row s.y, outputScanline := s.y + 1 } = .next () { s with
        lineBuf := pic.row s.y
        outputScanline := s.y + 1
        output := poke (rowOffset pic s.y) (pic.row s.y) s.output } := by
    unfold copyRow
    rw [bind_next (assert_of _ (by exact Nat.le_of_eq hlen.symm)),
      bind_next (assert_of _ (by exact hsize))]
    show Outcome.next () { s with
      lineBuf := pic.row s.y
      outputScanline := s.y + 1
      output := poke _ ((pic.row s.y).take _) s.output } = _
    rw [List.take_of_length_le (Nat.le_of_eq hlen)]
  unfold rgbRound
  rw [bind_next (show gets id s = .next s s from rfl), if_pos hy,
    bind_next (jpegReadScanline_eq hline), bind_next hcopy]
  rfl

/-- **All rows are copied**, in their order. -/
theorem loop_rgb (hc : pic.outputComponents = 3) {mem : Nat → UInt8} {n : Nat}
    (hy : s.y ≤ pic.outputHeight.toNat) (hline : s.outputScanline = s.y)
    (hout : s.output = pokeRows (rowOffset pic) pic.row s.y mem)
    (hsize : ∀ y < pic.outputHeight.toNat, rowOffset pic y + 3 * pic.outputWidth.toNat ≤ size)
    (hn : pic.outputHeight.toNat - s.y < n) :
    ∃ t, loop .rounds (rgbRound size pic) n s =
      (.next () t : Outcome DecodeFault Int Decoding Unit) ∧
      t.output = pokeRows (rowOffset pic) pic.row pic.outputHeight.toNat mem := by
  obtain ⟨d, hd⟩ : ∃ d, d = pic.outputHeight.toNat - s.y := ⟨_, rfl⟩
  obtain ⟨n, rfl⟩ : ∃ k, n = k + 1 := ⟨n - 1, by omega⟩
  rw [loop_succ]
  -- by induction on the rows that are left
  induction d generalizing s n with
  | zero =>
    have hend : rgbRound size pic s = .next false s := by
      unfold rgbRound
      rw [bind_next (show gets id s = .next s s from rfl), if_neg (by omega)]
      rfl
    rw [hend]
    refine ⟨s, rfl, ?_⟩
    rw [hout, show s.y = pic.outputHeight.toNat by omega]
  | succ d ih =>
    obtain ⟨n, rfl⟩ : ∃ k, n = k + 1 := ⟨n - 1, by omega⟩
    rw [rgbRound_eq hc (by omega) hline (hsize s.y (by omega))]
    show ∃ t, loop .rounds (rgbRound size pic) (n + 1) _ = _ ∧ _
    rw [loop_succ]
    refine ih (s := { s with
      lineBuf := pic.row s.y
      outputScanline := s.y + 1
      output := poke (rowOffset pic s.y) (pic.row s.y) s.output
      y := s.y + 1 }) (show s.y + 1 ≤ _ by omega) rfl ?_
      (show d = _ - (s.y + 1) by omega) n (show _ - (s.y + 1) < _ by omega)
    show poke _ _ s.output = _
    rw [hout]
    rfl

/-! ## One component -/

theorem storeCol_eq {k : Nat} {col : UInt8} (h31 : k * s.y + s.x < 2 ^ 31)
    (hsize : k * s.y + s.x < size) :
    storeCol size k col s = .next () { s with
      output := poke (k * s.y + s.x) [col] s.output
      x := s.x + 1 } := by
  unfold storeCol
  rw [bind_next (assert_of _ (by exact h31)), bind_next (assert_of _ (by exact hsize))]
  rfl

theorem storeCol_int {k : Nat} {col : UInt8} (h31 : ¬ k * s.y + s.x < 2 ^ 31) :
    storeCol size k col s = .fault .int s := by
  unfold storeCol
  rw [bind_fault (assert_of_not _ (by exact h31))]

/-- The pixels before `i` of a row are stored from `base` on. -/
structure Stored (s : Decoding) (row : List UInt8) (i : Nat) (t : Decoding) : Prop where
  lineBuf_eq : t.lineBuf = row
  lineBufIndex_eq : t.lineBufIndex = i
  x_eq : t.x = 3 * i
  y_eq : t.y = s.y
  outputScanline_eq : t.outputScanline = s.y + 1
  output_eq : t.output =
    poke (row.length * 3 * s.y) ((row.take i).flatMap fun col => [col, col, col]) s.output

/-- **One pixel is stored** in three bytes, where an `int` holds the index of the last. -/
theorem greyPixel_eq (size : Nat) {row : List UInt8} {i : Nat} {t : Decoding}
    (ht : Stored s row i t)
    (hi : i < row.length) :
    (row.length * 3 * s.y + 3 * i + 2 < 2 ^ 31 → row.length * 3 * s.y + 3 * i + 2 < size →
      ∃ t', Stored s row (i + 1) t' ∧ greyPixel size (row.length * 3) t = .next true t') ∧
    (¬ row.length * 3 * s.y + 3 * i + 2 < 2 ^ 31 → row.length * 3 * s.y + 3 * i + 2 < size →
      ∃ t', greyPixel size (row.length * 3) t = .fault .int t') := by
  have hx := ht.x_eq
  have hy := ht.y_eq
  have hcol : t.lineBuf.getD t.lineBufIndex 0 = row[i] := by
    rw [ht.lineBuf_eq, ht.lineBufIndex_eq, List.getD_eq_getElem?_getD, List.getElem?_eq_getElem hi]
    rfl
  -- the pixel is stored three times, once for each channel
  have hstart : greyPixel size (row.length * 3) t = (do
      storeCol size (row.length * 3) row[i]
      storeCol size (row.length * 3) row[i]
      storeCol size (row.length * 3) row[i]
      modify fun s => { s with lineBufIndex := s.lineBufIndex + 1 }
      return true : Decodes Bool) t := by
    unfold greyPixel
    rw [bind_next (show gets id t = .next t t from rfl), if_pos (by omega),
      bind_next (assert_of _ (by rw [ht.lineBuf_eq, ht.lineBufIndex_eq]; exact hi)), hcol]
  rw [hstart]
  refine ⟨fun h31 hsize => ?_, fun h31 hsize => ?_⟩
  · rw [bind_next (storeCol_eq (by rw [hx, hy]; omega) (by rw [hx, hy]; omega)),
      bind_next (storeCol_eq (by show _ * t.y + (t.x + 1) < _; rw [hx, hy]; omega)
        (by show _ * t.y + (t.x + 1) < _; rw [hx, hy]; omega)),
      bind_next (storeCol_eq (by show _ * t.y + (t.x + 1 + 1) < _; rw [hx, hy]; omega)
        (by show _ * t.y + (t.x + 1 + 1) < _; rw [hx, hy]; omega))]
    refine ⟨{ t with
      output := poke (row.length * 3 * t.y + (t.x + 1 + 1)) [row[i]]
        (poke (row.length * 3 * t.y + (t.x + 1)) [row[i]]
          (poke (row.length * 3 * t.y + t.x) [row[i]] t.output))
      x := t.x + 1 + 1 + 1
      lineBufIndex := t.lineBufIndex + 1 },
      ⟨ht.lineBuf_eq, ?_, ?_, ht.y_eq, ht.outputScanline_eq, ?_⟩, rfl⟩
    · show t.lineBufIndex + 1 = i + 1
      rw [ht.lineBufIndex_eq]
    · show t.x + 1 + 1 + 1 = 3 * (i + 1)
      omega
    · have htake : row.take (i + 1) = row.take i ++ [row[i]] := by
        rw [List.take_add_one, List.getElem?_eq_getElem hi]
        rfl
      have hlen : ((row.take i).flatMap fun col => [col, col, col]).length = 3 * i := by
        rw [length_flatMap_triple, List.length_take]
        omega
      have hthree : ∀ (pos : Nat) (col : UInt8) (mem : Nat → UInt8),
          poke pos [col, col, col] mem =
            poke (pos + 1 + 1) [col] (poke (pos + 1) [col] (poke pos [col] mem)) := by
        intro pos col mem
        rw [show [col, col, col] = [col] ++ ([col] ++ [col]) from rfl, poke_append, poke_append]
        rfl
      rw [htake, List.flatMap_append, poke_append, hlen, ← ht.output_eq, hx, hy]
      exact (hthree _ _ _).symm
  · -- one of the three indices is the first that an `int` does not hold
    by_cases h0 : row.length * 3 * t.y + t.x < 2 ^ 31
    · rw [bind_next (storeCol_eq h0 (by rw [hx, hy]; omega))]
      by_cases h1 : row.length * 3 * t.y + (t.x + 1) < 2 ^ 31
      · rw [bind_next (storeCol_eq (by exact h1)
          (by show _ * t.y + (t.x + 1) < _; rw [hx, hy]; omega)),
          bind_fault (storeCol_int (by
            show ¬ _ * t.y + (t.x + 1 + 1) < _
            rw [hx, hy]
            omega))]
        exact ⟨_, rfl⟩
      · rw [bind_fault (storeCol_int (by exact h1))]
        exact ⟨_, rfl⟩
    · rw [bind_fault (storeCol_int h0)]
      exact ⟨_, rfl⟩

/-- **The pixels of a row are stored**, where an `int` holds the indices. -/
theorem loop_grey (size : Nat) {row : List UInt8} {i n : Nat} {t : Decoding} (ht : Stored s row i t)
    (hi : i ≤ row.length) (hn : row.length - i < n) (hsize : row.length * 3 * (s.y + 1) ≤ size) :
    (row.length * 3 * (s.y + 1) ≤ 2 ^ 31 → ∃ t', Stored s row row.length t' ∧
      loop .rounds (greyPixel size (row.length * 3)) n t =
        (.next () t' : Outcome DecodeFault Int Decoding Unit)) ∧
    (¬ row.length * 3 * (s.y + 1) ≤ 2 ^ 31 → i < row.length → ∃ t',
      loop .rounds (greyPixel size (row.length * 3)) n t =
        (.fault .int t' : Outcome DecodeFault Int Decoding Unit)) := by
  obtain ⟨d, hd⟩ : ∃ d, d = row.length - i := ⟨_, rfl⟩
  obtain ⟨n, rfl⟩ : ∃ k, n = k + 1 := ⟨n - 1, by omega⟩
  rw [Nat.mul_add_one] at hsize ⊢
  rw [loop_succ]
  -- by induction on the pixels of the row that are left
  induction d generalizing i t n with
  | zero =>
    obtain rfl : i = row.length := by omega
    have hend : greyPixel size (row.length * 3) t = .next false t := by
      unfold greyPixel
      rw [bind_next (show gets id t = .next t t from rfl), if_neg (by rw [ht.x_eq]; omega)]
      rfl
    rw [hend]
    exact ⟨fun _ => ⟨t, ht, rfl⟩, fun _ h => absurd h (Nat.lt_irrefl _)⟩
  | succ d ih =>
    obtain ⟨n, rfl⟩ : ∃ k, n = k + 1 := ⟨n - 1, by omega⟩
    obtain ⟨hnext, hfault⟩ := greyPixel_eq size ht (by omega)
    -- whether the last index of this pixel is held by an `int`
    by_cases h31 : row.length * 3 * s.y + 3 * i + 2 < 2 ^ 31
    · obtain ⟨t', ht', heq⟩ := hnext h31 (by omega)
      rw [heq]
      show (_ → ∃ u, _ ∧ loop .rounds (greyPixel size (row.length * 3)) (n + 1) _ = _) ∧
        (_ → _ → ∃ u, loop .rounds (greyPixel size (row.length * 3)) (n + 1) _ = _)
      rw [loop_succ]
      obtain ⟨hall, hsome⟩ := ih ht' (by omega) (by omega) n (by omega)
      exact ⟨hall, fun hbig hlt => hsome hbig (by omega)⟩
    · obtain ⟨t', heq⟩ := hfault h31 (by omega)
      rw [heq]
      exact ⟨fun hsmall => absurd hsmall (by omega), fun _ _ => ⟨t', rfl⟩⟩

/-- **A row is stored**, where an `int` holds its indices. -/
theorem greyRound_eq (hc : pic.outputComponents = 1) (hy : s.y < pic.outputHeight.toNat)
    (hline : s.outputScanline = s.y) (hsize : pic.outputWidth.toNat * 3 * (s.y + 1) ≤ size) :
    (pic.outputWidth.toNat * 3 * (s.y + 1) ≤ 2 ^ 31 → ∃ t, greyRound size pic s = .next true t ∧
      t.y = s.y + 1 ∧ t.outputScanline = s.y + 1 ∧
      t.output = poke (greyOffset pic s.y) (Components.one.rowBytes pic s.y) s.output) ∧
    (¬ pic.outputWidth.toNat * 3 * (s.y + 1) ≤ 2 ^ 31 → ∃ t,
      greyRound size pic s = .fault .int t) := by
  have hlen : (pic.row s.y).length = pic.outputWidth.toNat := by
    rw [length_row, hc, Nat.mul_one]
  -- the row is read before its first pixel is stored
  have hstart : Stored s (pic.row s.y) 0 { s with
      lineBuf := pic.row s.y
      outputScanline := s.y + 1
      lineBufIndex := 0
      x := 0 } := by
    refine ⟨rfl, rfl, rfl, rfl, rfl, ?_⟩
    show s.output = poke _ [] s.output
    rw [poke_nil]
  obtain ⟨hnext, hfault⟩ := loop_grey size hstart (Nat.zero_le _)
    (show (pic.row s.y).length - 0 < pic.outputWidth.toNat + 1 by omega) (by rw [hlen]; exact hsize)
  rw [hlen] at hnext hfault
  unfold greyRound
  rw [bind_next (show gets id s = .next s s from rfl), if_pos hy,
    bind_next (jpegReadScanline_eq hline),
    bind_next (show modify _ _ = .next () { s with
      lineBuf := pic.row s.y
      outputScanline := s.y + 1
      lineBufIndex := 0
      x := 0 } from rfl)]
  refine ⟨fun h31 => ?_, fun h31 => ?_⟩
  · obtain ⟨t, ht, hloop⟩ := hnext h31
    rw [bind_next hloop]
    refine ⟨{ t with y := t.y + 1 }, rfl, ?_, ht.outputScanline_eq, ?_⟩
    · show t.y + 1 = s.y + 1
      rw [ht.y_eq]
    · show t.output = _
      rw [ht.output_eq, ← hlen, List.take_length, hlen]
      rfl
  · obtain ⟨t, hloop⟩ := hfault h31 (by
      by_contra hzero
      rw [show pic.outputWidth.toNat = 0 by omega] at h31
      omega)
    rw [bind_fault hloop]
    exact ⟨t, rfl⟩

/-- **All rows are stored**, or there is an index that an `int` does not hold. -/
theorem loop_greyRound (hc : pic.outputComponents = 1) {mem : Nat → UInt8} {n : Nat}
    (hy : s.y ≤ pic.outputHeight.toNat) (hline : s.outputScanline = s.y)
    (hout : s.output = pokeRows (greyOffset pic) (Components.one.rowBytes pic) s.y mem)
    (hsize : pic.outputWidth.toNat * 3 * pic.outputHeight.toNat ≤ size)
    (hn : pic.outputHeight.toNat - s.y < n) :
    (pic.outputWidth.toNat * 3 * pic.outputHeight.toNat ≤ 2 ^ 31 → ∃ t,
      loop .rounds (greyRound size pic) n s = (.next () t : Outcome DecodeFault Int Decoding Unit) ∧
      t.output = pokeRows (greyOffset pic) (Components.one.rowBytes pic)
        pic.outputHeight.toNat mem) ∧
    (¬ pic.outputWidth.toNat * 3 * pic.outputHeight.toNat ≤ 2 ^ 31 → s.y < pic.outputHeight.toNat →
      ∃ t, loop .rounds (greyRound size pic) n s =
        (.fault .int t : Outcome DecodeFault Int Decoding Unit)) := by
  obtain ⟨d, hd⟩ : ∃ d, d = pic.outputHeight.toNat - s.y := ⟨_, rfl⟩
  obtain ⟨n, rfl⟩ : ∃ k, n = k + 1 := ⟨n - 1, by omega⟩
  rw [loop_succ]
  -- by induction on the rows that are left
  induction d generalizing s n with
  | zero =>
    have hend : greyRound size pic s = .next false s := by
      unfold greyRound
      rw [bind_next (show gets id s = .next s s from rfl), if_neg (by omega)]
      rfl
    rw [hend]
    refine ⟨fun _ => ⟨s, rfl, ?_⟩, fun _ h => absurd h (by omega)⟩
    rw [hout, show s.y = pic.outputHeight.toNat by omega]
  | succ d ih =>
    obtain ⟨n, rfl⟩ : ∃ k, n = k + 1 := ⟨n - 1, by omega⟩
    have hmono : pic.outputWidth.toNat * 3 * (s.y + 1) ≤
        pic.outputWidth.toNat * 3 * pic.outputHeight.toNat := Nat.mul_le_mul_left _ (by omega)
    obtain ⟨hnext, hfault⟩ := greyRound_eq hc (by omega) hline (Nat.le_trans hmono hsize)
    by_cases h31 : pic.outputWidth.toNat * 3 * (s.y + 1) ≤ 2 ^ 31
    · obtain ⟨t, ht, hty, htline, htout⟩ := hnext h31
      clear hnext hfault
      rw [ht]
      show (_ → ∃ u, loop .rounds (greyRound size pic) (n + 1) _ = _ ∧ _) ∧
        (_ → _ → ∃ u, loop .rounds (greyRound size pic) (n + 1) _ = _)
      rw [loop_succ]
      have hle : t.y ≤ pic.outputHeight.toNat := by omega
      have hleft : d = pic.outputHeight.toNat - t.y := by omega
      have hrounds : pic.outputHeight.toNat - t.y < n + 1 := by omega
      have hrows : t.output = pokeRows (greyOffset pic) (Components.one.rowBytes pic) t.y mem := by
        rw [htout, hty, hout]
        rfl
      obtain ⟨hall, hsome⟩ := ih hle (htline.trans hty.symm) hrows hleft n hrounds
      refine ⟨hall, fun hbig hlt => hsome hbig ?_⟩
      by_contra hlast
      exact hbig (by rw [show pic.outputHeight.toNat = s.y + 1 by omega]; exact h31)
    · obtain ⟨t, ht⟩ := hfault h31
      rw [ht]
      exact ⟨fun hsmall => absurd (Nat.le_trans hmono hsmall) h31, fun _ _ => ⟨t, rfl⟩⟩

/-! ## The picture -/

theorem rowOffset_le (pic : Picture) (y : Nat) :
    rowOffset pic y ≤ pic.outputWidth.toNat * 3 * y := by
  unfold rowOffset
  refine Nat.le_trans (u32_le _) ?_
  calc u32 (y * pic.outputWidth.toNat) * 3 ≤ y * pic.outputWidth.toNat * 3 :=
        Nat.mul_le_mul_right 3 (u32_le _)
    _ = pic.outputWidth.toNat * 3 * y := by ring

/-- **A picture is decoded** where the indices of its bytes have their types. -/
theorem jpegSfDecode_eq (pic : Picture) (hc : pic.outputComponents = c.toNat) (mem : Nat → UInt8)
    (hsize : pic.outputWidth.toNat * 3 * pic.outputHeight.toNat ≤ size)
    (hint : c = .one → pic.outputWidth.toNat * 3 * pic.outputHeight.toNat ≤ 2 ^ 31) :
    ∃ t, jpegSfDecode size (some pic) { output := mem } = .next () t ∧
      t.output = pokeRows (c.offset pic) (c.rowBytes pic) pic.outputHeight.toNat mem := by
  show ∃ t, decodeRows size pic { output := mem } = _ ∧ _
  unfold decodeRows
  cases c with
  | one =>
    rw [if_neg (by rw [hc]; decide), if_pos (by rw [hc]; rfl)]
    obtain ⟨hnext, -⟩ := loop_greyRound (s := { output := mem }) hc (Nat.zero_le _) rfl rfl hsize
      (show pic.outputHeight.toNat - 0 < pic.outputHeight.toNat + 1 by omega)
    exact hnext (hint rfl)
  | three =>
    rw [if_pos (by rw [hc]; rfl)]
    refine loop_rgb (s := { output := mem }) hc (Nat.zero_le _) rfl rfl (fun y hy => ?_)
      (show pic.outputHeight.toNat - 0 < pic.outputHeight.toNat + 1 by omega)
    calc rowOffset pic y + 3 * pic.outputWidth.toNat
        ≤ pic.outputWidth.toNat * 3 * (y + 1) := by
          have := rowOffset_le pic y
          rw [Nat.mul_add_one]
          omega
      _ ≤ pic.outputWidth.toNat * 3 * pic.outputHeight.toNat := Nat.mul_le_mul_left _ hy
      _ ≤ size := hsize

/-- A picture of one component that is too large for an `int` is not. -/
theorem jpegSfDecode_int (pic : Picture) (hc : pic.outputComponents = 1) (mem : Nat → UInt8)
    (hsize : pic.outputWidth.toNat * 3 * pic.outputHeight.toNat ≤ size)
    (hint : ¬ pic.outputWidth.toNat * 3 * pic.outputHeight.toNat ≤ 2 ^ 31) :
    ∃ t, jpegSfDecode size (some pic) { output := mem } = .fault .int t := by
  show ∃ t, decodeRows size pic { output := mem } = _
  unfold decodeRows
  rw [if_neg (by rw [hc]; decide), if_pos hc]
  have hpos : 0 < pic.outputHeight.toNat := by
    by_contra hzero
    rw [show pic.outputHeight.toNat = 0 by omega] at hint
    omega
  obtain ⟨-, hfault⟩ := loop_greyRound (s := { output := mem }) hc (Nat.zero_le _) rfl rfl hsize
    (show pic.outputHeight.toNat - 0 < pic.outputHeight.toNat + 1 by omega)
  exact hfault hint hpos

/-! ## Where the rows are -/

variable {width height : UInt16} {bo : Bo width height}

theorem Bo.rows_le (bo : Bo width height) : width.toNat * 3 * height.toNat ≤ bo.size :=
  Nat.le_trans (Nat.mul_le_mul_right _ (by have := bo.width_le; omega)) bo.height_le

/-- The offset of a row that its type holds. -/
theorem rowOffset_of_lt {y : Nat} (h : pic.outputWidth.toNat * 3 * y < 2 ^ 32) :
    rowOffset pic y = pic.outputWidth.toNat * 3 * y := by
  have heq : y * pic.outputWidth.toNat * 3 = pic.outputWidth.toNat * 3 * y := by ring
  unfold rowOffset
  rw [u32_of_lt (show y * pic.outputWidth.toNat < 2 ^ 32 by omega), heq, u32_of_lt h]

/-- **The offsets are those of the pitch**, where the rows fill it. -/
theorem offset_of_packs (h : Packs c bo) (hw : 0 < width.toNat)
    {sample : Nat → Nat → UInt8} {y : Nat} (hy : y < height.toNat) :
    c.offset ⟨width, height, c.toNat, sample⟩ y = y * bo.pitch := by
  obtain ⟨hpitch, hoff⟩ : (bo.pitch = 3 * width.toNat ∨ height.toNat = 1) ∧ _ :=
    (h.resolve_left (by omega)).resolve_left (by omega)
  have hrow : width.toNat * 3 * y = y * bo.pitch := by
    rcases hpitch with hfull | hone
    · rw [hfull]
      ring
    · rw [show y = 0 by omega]
      ring
  cases c with
  | one => exact hrow
  | three =>
    refine (rowOffset_of_lt ?_).trans hrow
    calc width.toNat * 3 * y ≤ width.toNat * 3 * (height.toNat - 1) :=
          Nat.mul_le_mul_left _ (by omega)
      _ = 3 * width.toNat * (height.toNat - 1) := by ring
      _ < 2 ^ 32 := hoff

/-- **Rows at the offsets of the pitch** are read where the display reads them. -/
theorem pokeRows_pitch (pic : Picture) {pitch y x channel : Nat} {mem : Nat → UInt8}
    (hc : pic.outputComponents = c.toNat) (hwidth : 3 * pic.outputWidth.toNat ≤ pitch)
    (hoff : ∀ z < pic.outputHeight.toNat, c.offset pic z = z * pitch)
    (hy : y < pic.outputHeight.toNat) (hx : x < pic.outputWidth.toNat) (hchannel : channel < 3) :
    pokeRows (c.offset pic) (c.rowBytes pic) pic.outputHeight.toNat mem
      (y * pitch + 3 * x + channel) = pic.sample y (c.index x channel) := by
  have hi : 3 * x + channel < (c.rowBytes pic y).length := by
    unfold Components.rowBytes
    rw [length_bytes pic hc]
    omega
  have hread : pokeRows (c.offset pic) (c.rowBytes pic) pic.outputHeight.toNat mem
      (c.offset pic y + (3 * x + channel)) = _ := pokeRows_inside hy hi (fun z hz hzn => .inl (by
    rw [hoff y hy, hoff z hzn]
    have hstep : y * pitch + pitch ≤ z * pitch := by
      rw [← Nat.succ_mul]
      exact Nat.mul_le_mul_right _ hz
    omega))
  rw [hoff y hy, ← Nat.add_assoc] at hread
  rw [hread]
  have hbyte : (c.rowBytes pic y)[3 * x + channel]? = _ := getElem_bytes hc hx hchannel
  rw [List.getElem?_eq_getElem hi] at hbyte
  exact Option.some.inj hbyte

/-- A picture of zeroes but for one row. -/
def marked (width height : UInt16) (c : Components) (y : Nat) : Picture where
  outputWidth := width
  outputHeight := height
  outputComponents := c.toNat
  sample z _ := if z = y then 1 else 0

theorem rowBytes_marked {y z : Nat} (hz : z ≠ y) :
    ∀ b ∈ c.rowBytes (marked width height c y) z, b = 0 := by
  have hrow : ∀ b ∈ (marked width height c y).row z, b = 0 := by
    intro b hb
    obtain ⟨i, -, rfl⟩ := List.mem_map.1 hb
    exact if_neg hz
  cases c with
  | three => exact hrow
  | one =>
    intro b hb
    obtain ⟨col, hcol, hin⟩ := List.mem_flatMap.1 hb
    have h0 := hrow col hcol
    simp only [List.mem_cons, List.not_mem_nil, or_false, or_self] at hin
    exact hin.trans h0

/-- **Where all pictures land, the offsets are those of the pitch.** -/
theorem offset_of_rowsLand (h : RowsLand c bo) (hw : 0 < width.toNat) {y : Nat}
    (hy : y < height.toNat) : c.offset (marked width height c y) y = y * bo.pitch ∧
      (c = .one → width.toNat * 3 * height.toNat ≤ 2 ^ 31) := by
  have hint : c = .one → width.toNat * 3 * height.toNat ≤ 2 ^ 31 := by
    rintro rfl
    by_contra hbig
    obtain ⟨t, ht, -⟩ := h (fun _ _ => 0) fun _ => 0
    obtain ⟨t', ht'⟩ := jpegSfDecode_int (⟨width, height, 1, fun _ _ => 0⟩) rfl
      (fun _ => 0) bo.rows_le hbig
    cases ht.symm.trans ht'
  refine ⟨?_, hint⟩
  obtain ⟨t, ht, hpixels⟩ := h (marked width height c y).sample fun _ => 0
  obtain ⟨t', ht', hout⟩ := jpegSfDecode_eq (marked width height c y) (c := c) rfl
    (fun _ => 0) bo.rows_le hint
  cases ht.symm.trans ht'
  have hcovers : ∀ x < width.toNat, ∀ channel < 3,
      c.offset (marked width height c y) y ≤ y * bo.pitch + 3 * x + channel ∧
        y * bo.pitch + 3 * x + channel <
          c.offset (marked width height c y) y + 3 * width.toNat := by
    intro x hx channel hchannel
    have hone : t.output (y * bo.pitch + 3 * x + channel) = 1 :=
      (hpixels y hy x hx channel hchannel).trans (if_pos rfl)
    rw [hout] at hone
    have hcov := covers_of_pokeRows (a := 0) (fun _ => rfl) (fun z hz => rowBytes_marked hz)
      (by rw [hone]; decide)
    unfold Components.rowBytes at hcov
    rwa [length_bytes (marked width height c y) rfl] at hcov
  have hfirst := hcovers 0 hw 0 (by omega)
  have hlast := hcovers (width.toNat - 1) (by omega) 2 (by omega)
  omega

end

/-- **Decoded rows land where the display reads them** just where they fill their pitch, or
there is but one, and the offsets have their types. -/
theorem rowsLand_iff {width height : UInt16} (c : Components) (bo : Bo width height) :
    RowsLand c bo ↔ Packs c bo := by
  constructor
  · intro h
    by_cases hw : width.toNat = 0
    · exact .inl hw
    by_cases hh : height.toNat = 0
    · exact .inr (.inl hh)
    obtain ⟨hlast, hint⟩ :=
      offset_of_rowsLand h (by omega) (show height.toNat - 1 < height.toNat by omega)
    -- the second row lies no further on than the width allows
    have hpitch : bo.pitch = 3 * width.toNat ∨ height.toNat = 1 := by
      by_cases hone : height.toNat = 1
      · exact .inr hone
      · obtain ⟨hsecond, -⟩ := offset_of_rowsLand h (by omega) (show 1 < height.toNat by omega)
        have hle : c.offset (marked width height c 1) 1 ≤ width.toNat * 3 * 1 := by
          cases c with
          | one => exact Nat.le_refl _
          | three => exact rowOffset_le _ 1
        have := bo.width_le
        exact .inl (by omega)
    refine .inr (.inr ⟨hpitch, ?_⟩)
    cases c with
    | one =>
      rw [Nat.mul_comm 3]
      exact hint rfl
    | three =>
      -- the offset of the last row is not cut off
      have hlt : rowOffset (marked width height .three (height.toNat - 1)) (height.toNat - 1) <
          2 ^ 32 := u32_lt _
      have heq : 3 * width.toNat * (height.toNat - 1) = (height.toNat - 1) * bo.pitch := by
        rcases hpitch with hfull | hone
        · rw [hfull]
          ring
        · rw [hone]
          ring
      rw [heq, ← hlast]
      exact hlt
  · intro h sample output
    have hint : c = .one → width.toNat * 3 * height.toNat ≤ 2 ^ 31 := by
      rintro rfl
      rcases h with hw | hh | ⟨-, h31⟩
      · rw [hw, Nat.zero_mul]
        exact Nat.zero_le _
      · rw [hh, Nat.mul_zero]
        exact Nat.zero_le _
      · rwa [Nat.mul_comm 3] at h31
    obtain ⟨t, ht, hout⟩ := jpegSfDecode_eq (⟨width, height, c.toNat, sample⟩) (c := c) rfl
      output bo.rows_le hint
    refine ⟨t, ht, fun y hy x hx channel hchannel => ?_⟩
    rw [hout]
    exact pokeRows_pitch ⟨width, height, c.toNat, sample⟩ rfl bo.width_le
      (fun z hz => offset_of_packs h (by omega) hz) hy hx hchannel

/-- A picture of two pixels by two, in a buffer whose rows are of 64 bytes. -/
def paddedBo : Bo 2 2 where
  pitch := 64
  size := 128
  width_le := by decide
  height_le := by decide

/-- **A pitch that a row does not fill**: the second row does not land where it is read. -/
theorem not_rowsLand_padded : ¬ ∀ (width height : UInt16) (c : Components) (bo : Bo width height),
    RowsLand c bo := by
  intro hall
  obtain ⟨hsecond, -⟩ := offset_of_rowsLand (hall 2 2 .three paddedBo) (by decide)
    (show 1 < (2 : UInt16).toNat by decide)
  exact absurd hsecond (by decide)

end Modeset

end Rk3399
