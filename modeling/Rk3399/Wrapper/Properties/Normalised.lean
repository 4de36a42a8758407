import Rk3399.Wrapper.Helpers.StreamCopy
/-!
# What the decoder is given

The copy step puts a picture into the stream buffer, without the pairs `FF 00`
in front of the markers `FF Dx` where it is from an AVI1 camera, and the
trimming step moves the end marker `FF D9` in front of the units `FF` and
`FF 00` that it follows. They do so, and stay in their buffers, just for the
pictures of `Tractable`.
-/

namespace Rk3399

namespace Wrapper

open Prog

/-- The end marker. -/
def endMarker : List UInt8 := [0xFF, 0xD9]

/-- The picture is from an AVI1 camera. -/
def Avi1 (input : List UInt8) : Prop := (input.drop 6).take 4 = [0x41, 0x56, 0x49, 0x31]

instance (input : List UInt8) : Decidable (Avi1 input) := inferInstanceAs (Decidable (_ = _))

/-- **What the decoder is to be given** before the end marker moves. -/
def normalised (input : List UInt8) : List UInt8 := if Avi1 input then strip input else input

/-- What the states behind the two steps are for an input. -/
structure Normalised (input : List UInt8) (s₁ s₂ : StreamCopy) : Prop where
  copied : block s₁.mem 0 (normalised input).length = normalised input
  length : s₂.streamLength = (normalised input).length
  moved : ∀ body, normalised input = body ++ endMarker →
    s₂.mem = poke (core body).length endMarker s₁.mem
  kept : (¬ ∃ body, normalised input = body ++ endMarker) → s₂.mem = s₁.mem

/-- **The two steps are exact** and stay in the input and the buffer. -/
def NormalisesExactly (input : List UInt8) (size : Nat) (mem : Nat → UInt8) : Prop :=
  ∃ s₁ s₂, copyStep input size (copyStart input mem) = .next () s₁ ∧
    trimStep size s₁ = .next () s₂ ∧ Normalised input s₁ s₂

/-! ## The pictures it holds for -/

/-- The bytes the copy step writes, in all. -/
def written (input : List UInt8) : Nat :=
  if Avi1 input then input.length
  else input.length + sub32 (strSize input.length) input.length

/-- What the copy step writes fits the buffer, and the `int` it counts with. -/
structure Fits (input : List UInt8) (size : Nat) : Prop where
  written_le : written input ≤ size
  length_lt : Avi1 input → input.length < 2 ^ 31

/-- The pictures that the two steps are exact for. -/
structure Tractable (input : List UInt8) (size : Nat) : Prop where
  fits : Fits input size
  /-- No pair is among the last four bytes. -/
  unstuffed : Avi1 input → ¬ EndsStuffed input
  /-- Where a pair was removed, there is nothing in front of the end marker to move it over. -/
  untrimmed : Avi1 input → strip input ≠ input →
    ∀ body, strip input = body ++ endMarker → core body = body
  /-- There is a byte to stop the end marker. -/
  stopped : ¬ Avi1 input → ∀ body, input = body ++ endMarker →
    core body ≠ [] ∧ core body ≠ [0x00]

section

variable {input : List UInt8} {size : Nat} {mem : Nat → UInt8}

/-! ## The copy step -/

/-- What is copied. -/
def taken (input : List UInt8) : List UInt8 := if Avi1 input then stripFront input else input

/-- The state behind the copy step. -/
structure Taken (input : List UInt8) (mem : Nat → UInt8) (s : StreamCopy) : Prop where
  mem_eq : s.mem =
    poke 0 (taken input ++ List.replicate (written input - (taken input).length) 0) mem
  inputSize_eq : s.inputSize = (taken input).length
  stop_eq : s.stop = input.length

theorem wp_copyAvi1 {X : Empty → StreamCopy → Prop} (havi1 : Avi1 input)
    (hmin : 4 ≤ input.length) (hmax : input.length < 2 ^ 32) :
    wp (copyAvi1 input size) (fun _ s => Fits input size ∧ Taken input mem s) X
      (fun _ _ => ¬ Avi1Fits input size) (copyStart input mem) := by
  have htaken : taken input = stripFront input := if_pos havi1
  have hwritten : written input = input.length := if_pos havi1
  have hle := (length_stripFront input).1
  have hstart : copyStart input mem = copiedTo input mem [] 0 := by
    unfold copyStart copiedTo
    rw [poke_nil]
    rfl
  have hinside : Inside input size [] 0 :=
    ⟨Nat.le_refl _, Nat.zero_le _, Nat.zero_le _, by decide⟩
  unfold copyAvi1
  rw [hstart]
  refine wp_seq (wp_stuffedLoop hmin hmax input List.drop_zero hinside (Nat.lt_succ_self _)) ?_
  rintro _ _ ⟨front, j, rfl, hgoal, hinside⟩
  refine wp_seq (wp_restLoop (input.drop j) rfl hinside
    (by rw [List.length_drop]; omega)) ?_
  rintro _ _ ⟨rfl, hinside⟩
  rw [List.nil_append, hgoal] at hinside ⊢
  have hfits : input.length ≤ size → Fits input size := fun h =>
    ⟨hwritten ▸ h, fun _ => hinside.i_lt⟩
  rw [wp_bind, wp_gets, wp_bind, wp_whenever]
  -- what the removed zeros leave free is filled
  by_cases hshort : (stripFront input).length < input.length
  · rw [if_pos (by exact hshort), wp_fill]
    have hsum : (stripFront input).length +
        (List.replicate (input.length - (stripFront input).length) (0 : UInt8)).length =
        input.length := by
      rw [List.length_replicate]
      omega
    by_cases hsize : input.length ≤ size
    · rw [if_pos (by rw [← hsum] at hsize; exact hsize), wp_modify]
      refine ⟨hfits hsize, ?_, ?_, rfl⟩
      · rw [htaken, hwritten, poke_append, Nat.zero_add]
        rfl
      · rw [htaken]
        rfl
    · rw [if_neg (by rw [← hsum] at hsize; exact hsize)]
      exact fun h => hsize h.1
  · rw [if_neg (by exact hshort), wp_modify]
    have hsum : input.length - (stripFront input).length = 0 := by omega
    refine ⟨hfits (by have := hinside.out_size; omega), ?_, ?_, rfl⟩
    · rw [htaken, hwritten, hsum, List.replicate_zero, List.append_nil]
      rfl
    · rw [htaken]
      rfl

theorem wp_copyWhole {X : Empty → StreamCopy → Prop} (havi1 : ¬ Avi1 input) :
    wp (copyWhole input size) (fun _ s => Fits input size ∧ Taken input mem s) X
      (fun _ _ => ¬ Fits input size) (copyStart input mem) := by
  have htaken : taken input = input := if_neg havi1
  have hwritten : written input = input.length + sub32 (strSize input.length) input.length :=
    if_neg havi1
  have hzeros : ∀ n : Nat, (List.replicate n (0 : UInt8)).length = n := fun _ =>
    List.length_replicate
  unfold copyWhole
  rw [wp_bind, wp_gets]
  change wp (do
    fill size 0 input
    fill size (0 + input.length)
      (List.replicate (sub32 (strSize input.length) input.length) 0)) _ _ _ _
  rw [wp_bind, wp_fill]
  by_cases hfirst : 0 + input.length ≤ size
  · rw [if_pos hfirst, wp_fill, hzeros]
    by_cases hsecond :
        0 + input.length + sub32 (strSize input.length) input.length ≤ size
    · rw [if_pos hsecond]
      refine ⟨⟨by omega, fun h => absurd h havi1⟩, ?_, ?_, rfl⟩
      · rw [htaken, hwritten, Nat.add_sub_cancel_left, poke_append]
        rfl
      · rw [htaken]
        rfl
    · rw [if_neg hsecond]
      exact fun h => hsecond (by have := h.written_le; omega)
  · rw [if_neg hfirst]
    exact fun h => hfirst (by have := h.written_le; omega)

/-- **The copy step** writes what is copied and zeroes behind it, and goes on just where
they fit. -/
theorem wp_copyStep {X : Empty → StreamCopy → Prop} (hmin : 16 ≤ input.length)
    (hmax : input.length < 2 ^ 32) :
    wp (copyStep input size) (fun _ s => Fits input size ∧ Taken input mem s) X
      (fun _ _ => ¬ Fits input size) (copyStart input mem) := by
  obtain ⟨a, b, c, d, l, hl⟩ : ∃ a b c d l, input.drop 6 = a :: b :: c :: d :: l := by
    have hlen : (input.drop 6).length = input.length - 6 := List.length_drop
    match h : input.drop 6 with
    | [] | [_] | [_, _] | [_, _, _] =>
      rw [h] at hlen
      simp only [List.length_cons, List.length_nil] at hlen
      omega
    | a :: b :: c :: d :: l => exact ⟨a, b, c, d, l, rfl⟩
  have hpasses : Passes avi1Tests (a :: b :: c :: d :: l) = decide (Avi1 input) := by
    rw [Bool.eq_iff_iff, decide_eq_true_iff, Avi1, hl]
    simp [Passes, avi1Tests]
  unfold copyStep
  rw [wp_bind]
  refine (wp_of_next (tmpIs_eq avi1Tests hl (by simp [avi1Tests]))).2 ?_
  rw [hpasses]
  by_cases havi1 : Avi1 input
  · rw [decide_eq_true havi1, if_pos rfl]
    refine wp_mono (wp_copyAvi1 havi1 (by omega) hmax) (fun _ _ h => h) (fun _ _ h => h) ?_
    intro _ _ h hfits
    refine h ⟨?_, hfits.length_lt havi1⟩
    have := hfits.written_le
    rwa [written, if_pos havi1] at this
  · rw [decide_eq_false havi1, if_neg (by decide)]
    exact wp_copyWhole havi1

/-! ## The trimming step -/

theorem length_core (body : List UInt8) : (core body).length = (dropUnits body.reverse).length :=
  List.length_reverse

theorem stopsInside_iff {body : List UInt8} :
    StopsInside body.reverse ↔ core body ≠ [] ∧ core body ≠ [0x00] := by
  unfold StopsInside core
  rw [ne_eq, ne_eq, ne_eq, ne_eq, List.reverse_eq_nil_iff,
    show [(0x00 : UInt8)] = [0x00].reverse from rfl, List.reverse_inj]
  rfl

theorem reverse_marked (body : List UInt8) :
    (body ++ endMarker).reverse = 0xD9 :: 0xFF :: body.reverse := List.reverse_append

/-- Without the end marker at the end another byte shows there. -/
theorem endTest_of_unmarked {l : List UInt8} (hlen : 2 ≤ l.length)
    (h : ¬ ∃ body, l = body ++ endMarker) : endTest [0xD9, 0xFF] l.reverse = some false := by
  obtain ⟨a, b, r, hr⟩ : ∃ a b r, l.reverse = a :: b :: r := by
    have hlen' : l.reverse.length = l.length := List.length_reverse
    match h : l.reverse with
    | [] | [_] =>
      rw [h] at hlen'
      simp only [List.length_cons, List.length_nil] at hlen'
      omega
    | a :: b :: r => exact ⟨a, b, r, rfl⟩
  rw [hr, endTest]
  by_cases ha : a = 0xD9
  · rw [if_pos ha, endTest, if_neg]
    rintro rfl
    refine h ⟨r.reverse, ?_⟩
    rw [← List.reverse_inj, hr, reverse_marked, List.reverse_reverse, ha]
  · rw [if_neg ha]

/-- **The trimming step** moves the end marker just where a byte of no unit stops it, and
changes nothing else. -/
theorem wp_trimStep {X : Empty → StreamCopy → Prop} {l : List UInt8} {s : StreamCopy}
    (h : EndsIn size l.reverse s) (hlen : 2 ≤ l.length) :
    wp (trimStep size) (fun _ t => t.inputSize = s.inputSize ∧
        (∀ body, l = body ++ endMarker → StopsInside body.reverse ∧
          t.mem = poke (core body).length endMarker s.mem) ∧
        ((¬ ∃ body, l = body ++ endMarker) → t.mem = s.mem)) X
      (fun _ _ => ∃ body, l = body ++ endMarker ∧ ¬ StopsInside body.reverse) s := by
  have hstart : EndsIn size l.reverse { s with dst := 0 } := ⟨h.block_eq, h.stop_le⟩
  unfold trimStep
  rw [wp_bind, wp_modify, wp_bind]
  by_cases hmarked : ∃ body, l = body ++ endMarker
  · obtain ⟨body, rfl⟩ := hmarked
    rw [reverse_marked] at hstart h
    rw [wp_of_next (endIs_of_test hstart rfl), wp_whenever, if_pos rfl]
    have hback : EndsIn size body.reverse { s with dst := 0, stop := s.stop - 2 } :=
      hstart.back (u := [0xD9, 0xFF])
    have hstop := hback.length
    unfold moveEnd
    rw [wp_bind, wp_modify, wp_bind, wp_gets]
    have hrounds : body.reverse.length < s.stop - 2 + 1 := by
      have : s.stop - 2 = body.reverse.length := hstop
      omega
    refine wp_seq (wp_mono (wp_trimLoop body.reverse hback hrounds) (fun _ _ h => h)
      (fun _ _ h => h) fun _ _ hnot => ⟨body, rfl, hnot⟩) ?_
    · rintro _ _ ⟨hstops, rfl⟩
      -- the marker fits, since it only moves to the front
      have hroom : (dropUnits body.reverse).length + endMarker.length ≤ size := by
        obtain ⟨u, hu, -⟩ := exists_units body.reverse
        have hle := congrArg List.length hu
        have hsize := h.stop_le
        rw [h.length] at hsize
        simp only [List.length_append, List.length_cons] at hle hsize
        show _ + 2 ≤ size
        omega
      rw [wp_bind, wp_gets, wp_fill, if_pos (by exact hroom)]
      refine ⟨rfl, ?_, fun hnot => absurd ⟨body, rfl⟩ hnot⟩
      intro body' hbody
      rw [← List.append_cancel_right hbody, length_core]
      exact ⟨hstops, rfl⟩
  · rw [wp_of_next (endIs_of_test hstart (endTest_of_unmarked hlen hmarked)), wp_whenever,
      if_neg (by decide)]
    exact ⟨rfl, fun body hbody => absurd ⟨body, hbody⟩ hmarked, fun _ => rfl⟩

/-! ## The two steps together -/

theorem written_ge (input : List UInt8) : (taken input).length ≤ input.length ∧
    input.length ≤ written input := by
  unfold taken written
  split
  · exact ⟨(length_stripFront input).1, Nat.le_refl _⟩
  · exact ⟨Nat.le_refl _, Nat.le_add_right _ _⟩

/-- The copied bytes are read back. -/
theorem Taken.block_taken {s : StreamCopy} (h : Taken input mem s) :
    block s.mem 0 (taken input).length = taken input := by
  rw [h.mem_eq]
  exact block_poke_append rfl

/-- In front of `end` are the copied bytes and the zeroes behind them. -/
theorem Taken.endsIn {s : StreamCopy} (h : Taken input mem s) (hfits : Fits input size) :
    EndsIn size (taken input ++
      List.replicate (input.length - (taken input).length) 0).reverse s := by
  obtain ⟨hle, hge⟩ := written_ge input
  refine ⟨?_, by rw [h.stop_eq]; exact Nat.le_trans hge hfits.written_le⟩
  have hzeros : List.replicate (written input - (taken input).length) (0 : UInt8) =
      List.replicate (input.length - (taken input).length) 0 ++
        List.replicate (written input - input.length) 0 := by
    rw [List.replicate_append_replicate]
    congr 1
    omega
  rw [h.mem_eq, h.stop_eq, List.reverse_reverse, hzeros, ← List.append_assoc]
  refine block_poke_append ?_
  rw [List.length_append, List.length_replicate]
  omega

/-- Behind a zero there is no end marker. -/
theorem not_marked_of_zeros {l : List UInt8} {n : Nat} (hn : 0 < n) :
    ¬ ∃ body, l ++ List.replicate n 0 = body ++ endMarker := by
  rintro ⟨body, h⟩
  obtain ⟨n, rfl⟩ : ∃ k, n = k + 1 := ⟨n - 1, by omega⟩
  have hrev := congrArg List.reverse h
  rw [reverse_marked, List.reverse_append, List.reverse_replicate, List.replicate_succ] at hrev
  exact absurd (List.cons.inj hrev).1 (by decide)

/-- An AVI1 picture has a byte that no unit has. -/
theorem stopsInside_of_avi1 {body : List UInt8} (h : Avi1 (body ++ endMarker))
    (hmin : 16 ≤ (body ++ endMarker).length) : StopsInside body.reverse := by
  have hlen : (body ++ endMarker).length = body.length + 2 := List.length_append
  have hmem : 0x41 ∈ body := by
    have hat : (body ++ endMarker)[6]? = some 0x41 := by
      have := congrArg List.head? h
      rwa [List.head?_take, if_neg (by decide), List.head?_drop] at this
    rw [List.getElem?_append_left (by omega)] at hat
    exact List.mem_of_getElem? hat
  have hcore := mem_core hmem (by decide) (by decide)
  rw [stopsInside_iff]
  constructor
  · intro hnil
    rw [hnil] at hcore
    exact absurd hcore (by decide)
  · intro hzero
    rw [hzero] at hcore
    exact absurd hcore (by decide)

/-- The end marker is where it would be moved to only where it is in front of no unit. -/
theorem core_eq_of_poke {mem : Nat → UInt8} {body : List UInt8} {n : Nat}
    (hread : block mem 0 n = body ++ endMarker)
    (hpoke : mem = poke (core body).length endMarker mem) : core body = body := by
  obtain ⟨u, hu, hunit⟩ := core_append body
  generalize core body = c at hu hpoke ⊢
  subst hu
  have hn : n = c.length + (2 + u.length) := by
    have hlen := congrArg List.length hread
    rw [length_block, List.length_append, List.length_append] at hlen
    have : endMarker.length = 2 := rfl
    omega
  have hmarker : block mem c.length 2 = endMarker := by
    rw [hpoke]
    exact block_poke rfl
  have hrest : endMarker ++ block mem (c.length + 2) u.length = u ++ endMarker := by
    rw [hn, block_add, block_add, Nat.zero_add, hmarker, List.append_assoc] at hread
    exact (List.append_inj hread length_block).2
  match u, hunit, hrest with
  | [], _, _ => rw [List.append_nil]
  | [x], _, hrest => exact absurd (List.cons.inj (List.cons.inj hrest).2).1 (by decide)
  | x :: y :: u, hunit, hrest =>
    have hy : (0xD9 : UInt8) = y := (List.cons.inj (List.cons.inj hrest).2).1
    rcases hunit y (by simp) with rfl | rfl
    · exact absurd hy (by decide)
    · exact absurd hy (by decide)

/-- Where fewer bytes are copied than there are, a pair was removed. -/
theorem avi1_of_short (h : (taken input).length < input.length) :
    Avi1 input ∧ stripFront input ≠ input := by
  unfold taken at h
  split at h
  · rename_i havi1
    exact ⟨havi1, fun heq => absurd (congrArg List.length heq) (Nat.ne_of_lt h)⟩
  · exact absurd h (Nat.lt_irrefl _)

/-- Where as many are copied, they are the input. -/
theorem taken_eq (h : (taken input).length = input.length) : taken input = input := by
  unfold taken at h ⊢
  split at h
  · rename_i havi1
    rw [if_pos havi1]
    exact (length_stripFront input).2 h
  · rename_i havi1
    rw [if_neg havi1]

theorem taken_eq_normalised_iff : taken input = normalised input ↔
    (Avi1 input → ¬ EndsStuffed input) := by
  unfold taken normalised
  by_cases havi1 : Avi1 input
  · rw [if_pos havi1, if_pos havi1, stripFront_eq_strip_iff]
    exact ⟨fun h _ => h, fun h => h havi1⟩
  · rw [if_neg havi1, if_neg havi1]
    exact iff_of_true rfl fun h => absurd h havi1

/-- A picture of `Tractable` has a byte to stop the end marker. -/
theorem Tractable.stopsInside (h : Tractable input size) (hmin : 16 ≤ input.length)
    {body : List UInt8} (hbody : taken input ++
      List.replicate (input.length - (taken input).length) 0 = body ++ endMarker) :
    StopsInside body.reverse := by
  have hle := (written_ge input).1
  have hlen : (taken input).length = input.length := by
    by_contra hne
    exact not_marked_of_zeros (by omega) ⟨body, hbody⟩
  rw [hlen, Nat.sub_self, List.replicate_zero, List.append_nil, taken_eq hlen] at hbody
  by_cases havi1 : Avi1 input
  · rw [hbody] at havi1 hmin
    exact stopsInside_of_avi1 havi1 hmin
  · exact stopsInside_iff.2 (h.stopped havi1 body hbody)

/-- What the decoder is given before the steps are exact. -/
theorem Tractable.normalised {s₁ s₂ : StreamCopy} (h : Tractable input size)
    (htaken : Taken input mem s₁) (hsize : s₂.inputSize = s₁.inputSize)
    (hmoved : ∀ body, taken input ++
        List.replicate (input.length - (taken input).length) 0 = body ++ endMarker →
      s₂.mem = poke (core body).length endMarker s₁.mem)
    (hkept : (¬ ∃ body, taken input ++
        List.replicate (input.length - (taken input).length) 0 = body ++ endMarker) →
      s₂.mem = s₁.mem) : Normalised input s₁ s₂ := by
  have heq : taken input = Wrapper.normalised input := taken_eq_normalised_iff.2 h.unstuffed
  have hle := (written_ge input).1
  have hcopied : block s₁.mem 0 (Wrapper.normalised input).length = Wrapper.normalised input :=
    heq ▸ htaken.block_taken
  refine ⟨hcopied, by rw [← heq]; exact hsize.trans htaken.inputSize_eq, ?_, ?_⟩
  · intro body hbody
    by_cases hshort : (taken input).length < input.length
    · obtain ⟨havi1, hne⟩ := avi1_of_short hshort
      have hstrip : Wrapper.normalised input = strip input := if_pos havi1
      have hfront : stripFront input = strip input :=
        (stripFront_eq_strip_iff input).2 (h.unstuffed havi1)
      have hcore : core body = body :=
        h.untrimmed havi1 (hfront ▸ hne) body (hstrip ▸ hbody)
      -- a marker behind which zeros stand is where it belongs already
      have hmarker : endMarker = block s₁.mem body.length 2 := by
        have hlen : (Wrapper.normalised input).length = body.length + 2 := by
          rw [hbody]
          exact List.length_append
        rw [hlen, block_add, Nat.zero_add, hbody] at hcopied
        exact (List.append_inj hcopied length_block).2.symm
      rw [hcore, hmarker, poke_block]
      exact hkept (not_marked_of_zeros (by omega))
    · refine hmoved body ?_
      rw [show input.length - (taken input).length = 0 by omega, List.replicate_zero,
        List.append_nil, heq, hbody]
  · intro hnot
    by_cases hshort : (taken input).length < input.length
    · exact hkept (not_marked_of_zeros (by omega))
    · refine hkept ?_
      rwa [show input.length - (taken input).length = 0 by omega, List.replicate_zero,
        List.append_nil, heq]

/-- **The two steps are exact and stay in their buffers** just for the pictures of
`Tractable`. -/
theorem normalisesExactly_iff (mem : Nat → UInt8) (hmin : 16 ≤ input.length)
    (hmax : input.length < 2 ^ 32) :
    NormalisesExactly input size mem ↔ Tractable input size := by
  have hle := (written_ge input).1
  have hlen : 2 ≤ (taken input ++
      List.replicate (input.length - (taken input).length) (0 : UInt8)).length := by
    rw [List.length_append, List.length_replicate]
    omega
  constructor
  · rintro ⟨s₁, s₂, hcopy, htrim, hexact⟩
    obtain ⟨hfits, htaken⟩ :=
      wp_next (wp_copyStep (X := fun _ _ => True) hmin hmax) hcopy
    obtain ⟨hsize, hmoved, hkept⟩ :=
      wp_next (wp_trimStep (X := fun _ _ => True) (htaken.endsIn hfits) hlen) htrim
    -- what was copied is what is left at the front of the memory
    have heq : taken input = normalised input := by
      have hcopied := hexact.copied
      rwa [← hexact.length, StreamCopy.streamLength, hsize, htaken.inputSize_eq,
        htaken.block_taken] at hcopied
    refine ⟨hfits, taken_eq_normalised_iff.1 heq, ?_, ?_⟩
    · intro havi1 hne body hbody
      have hnormalised : normalised input = strip input := if_pos havi1
      have hshort : (taken input).length < input.length := by
        refine Nat.lt_of_le_of_ne hle fun h => hne ?_
        rw [← hnormalised, ← heq, taken_eq h]
      have hmem : s₂.mem = s₁.mem := hkept (not_marked_of_zeros (by omega))
      have hpoke := hexact.moved body (hnormalised.trans hbody)
      have hread := hexact.copied
      rw [hnormalised] at hread
      nth_rewrite 2 [hbody] at hread
      exact core_eq_of_poke hread (hmem.symm.trans hpoke)
    · intro havi1 body hbody
      have htake : taken input = input := if_neg havi1
      rw [← stopsInside_iff]
      refine (hmoved body ?_).1
      rw [htake, Nat.sub_self, List.replicate_zero, List.append_nil, hbody]
  · intro h
    obtain ⟨⟨⟩, s₁, hcopy, -, htaken⟩ := exists_next_of_wp
      (wp_mono (wp_copyStep (X := fun _ _ => False) hmin hmax) (fun _ _ h => h) (fun _ _ h => h)
        fun _ _ hnot => hnot h.fits)
    obtain ⟨⟨⟩, s₂, htrim, hsize, hmoved, hkept⟩ := exists_next_of_wp
      (wp_mono (wp_trimStep (X := fun _ _ => False) (htaken.endsIn h.fits) hlen) (fun _ _ h => h)
        (fun _ _ h => h) fun _ _ ⟨_, hbody, hnot⟩ => hnot (h.stopsInside hmin hbody))
    exact ⟨s₁, s₂, hcopy, htrim, h.normalised htaken hsize (fun body hbody => (hmoved body hbody).2)
      hkept⟩

/-- A picture from an AVI1 camera, with a pair in front of a restart marker. -/
def aviPicture : List UInt8 :=
  [0xFF, 0xD8, 0xFF, 0xE0, 0, 16, 0x41, 0x56, 0x49, 0x31, 0xFF, 0x00, 0xFF, 0xD0, 1, 2] ++ endMarker

/-- One of another, with a pair and a fill byte in front of its end marker. -/
def filledPicture : List UInt8 := List.replicate 14 0x07 ++ [0xFF, 0x00, 0xFF] ++ endMarker

theorem tractable_aviPicture : Tractable aviPicture 4352 where
  fits := ⟨by decide, fun _ => by decide⟩
  unstuffed _ := by
    rintro ⟨a, b, c, d, hstuffed, hsuffix⟩
    cases List.suffix_iff_eq_drop.mp hsuffix
    exact absurd hstuffed (by decide)
  untrimmed _ _ body hbody := by
    have hstrip : strip aviPicture = [0xFF, 0xD8, 0xFF, 0xE0, 0, 16, 0x41, 0x56, 0x49, 0x31, 0xFF,
        0xD0, 1, 2] ++ endMarker := by decide
    rw [← List.append_cancel_right (hstrip.symm.trans hbody)]
    decide
  stopped h := absurd (by decide) h

theorem tractable_filledPicture : Tractable filledPicture 4352 where
  fits := ⟨by decide, fun _ => by decide⟩
  unstuffed h := absurd h (by decide)
  untrimmed h := absurd h (by decide)
  stopped _ body hbody := by
    rw [← List.append_cancel_right hbody]
    decide

/-- The pair is removed from the one, and the end marker of the other moved. -/
theorem normalisesExactly_iff_both : NormalisesExactly aviPicture 4352 (fun _ => 0) ∧
    NormalisesExactly filledPicture 4352 (fun _ => 0) :=
  ⟨(normalisesExactly_iff _ (by decide) (by decide)).mpr tractable_aviPicture,
    (normalisesExactly_iff _ (by decide) (by decide)).mpr tractable_filledPicture⟩

/-- **A picture of `FF` and an end marker** is read in front of the buffer. -/
theorem not_normalisesExactly : ¬ ∀ (input : List UInt8) (size : Nat) (mem : Nat → UInt8),
    16 ≤ input.length → input.length < 2 ^ 32 → u32 (strSize input.length + SZ_4K) ≤ size →
    NormalisesExactly input size mem := by
  intro hall
  obtain ⟨s₁, s₂, hcopy, htrim, -⟩ := hall (List.replicate 14 0xFF ++ endMarker) 4352 (fun _ => 0)
    (by decide) (by decide) (by unfold SZ_4K; decide)
  obtain ⟨hfits, htaken⟩ :=
    wp_next (wp_copyStep (X := fun _ _ => True) (by decide) (by decide)) hcopy
  obtain ⟨-, hmoved, -⟩ :=
    wp_next (wp_trimStep (X := fun _ _ => True) (htaken.endsIn hfits) (by decide)) htrim
  exact (hmoved (List.replicate 14 0xFF) (by decide)).1.1 (by decide)

/-! ## The buffer -/

/-- The bytes written are those of the calls of the decoder. -/
theorem written_eq_copied (c : Call) (hsize : c.inputSize = input.length)
    (havi1 : c.avi1 = decide (Avi1 input)) : written input = c.copied := by
  unfold written Call.copied Call.strSize strSize
  rw [hsize, havi1]
  by_cases h : Avi1 input
  · rw [if_pos h, decide_eq_true h, if_pos rfl]
  · rw [if_neg h, decide_eq_false h, if_neg (by decide)]

/-- **A buffer grown for an input** has room for it, unless its size wraps. -/
theorem fits_of_grown (hsize : u32 (strSize input.length + SZ_4K) ≤ size)
    (hlen : input.length < 2 ^ 31) : Fits input size := by
  have hround : strSize input.length = (input.length + 255) / 256 * 256 := by
    unfold strSize
    rw [u32_of_lt (by omega)]
  have hgrown : u32 (strSize input.length + SZ_4K) = strSize input.length + SZ_4K :=
    u32_of_lt (by rw [hround]; unfold SZ_4K; omega)
  have hwritten : written input ≤ strSize input.length := by
    unfold written
    split
    · omega
    · rw [sub32_of_le (by omega) (by omega)]
      omega
  exact ⟨by omega, fun _ => hlen⟩

end

end Wrapper

end Rk3399
