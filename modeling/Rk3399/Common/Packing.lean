import Mathlib.Algebra.Order.Ring.Int
import Mathlib.Tactic.Common
import Mathlib.Data.List.GetD
/-!
# Packing bytes into words, most significant byte first

A packer fills a 32-bit word from its most significant byte down and
emits it when it is full; where the word stands is kept in a running
shift. What it has emitted after whole words is the list of bytes cut
into big-endian words, and the bytes are read back from the words.
-/

namespace Rk3399

/-- The big-endian word of four bytes. -/
def beWord (a b c d : Nat) : Nat := a <<< 24 ||| b <<< 16 ||| c <<< 8 ||| d <<< 0

/-- Byte `j` of a word, counted from the most significant one. -/
def wordByte (word j : Nat) : Nat := word / 2 ^ (24 - 8 * j) % 2 ^ 8

/-- Bytes cut into big-endian words; fewer than four at the end are left
out. -/
def packWords : List Nat → List Nat
  | a :: b :: c :: d :: bytes => beWord a b c d :: packWords bytes
  | _ => []

theorem beWord_eq {a b c d : Nat} (hb : b < 256) (hc : c < 256) (hd : d < 256) :
    beWord a b c d = a * 2 ^ 24 + b * 2 ^ 16 + c * 2 ^ 8 + d := by
  have h1 : a <<< 24 ||| b <<< 16 = a * 2 ^ 24 + b * 2 ^ 16 := by
    rw [← Nat.shiftLeft_add_eq_or_of_lt (by rw [Nat.shiftLeft_eq]; omega)]
    simp only [Nat.shiftLeft_eq]
  have h2 : (a * 2 ^ 24 + b * 2 ^ 16) ||| c <<< 8 = a * 2 ^ 24 + b * 2 ^ 16 + c * 2 ^ 8 := by
    have hs : a * 2 ^ 24 + b * 2 ^ 16 = (a * 2 ^ 8 + b) <<< 16 := by
      rw [Nat.shiftLeft_eq]; omega
    rw [hs, ← Nat.shiftLeft_add_eq_or_of_lt (by rw [Nat.shiftLeft_eq]; omega)]
    simp only [Nat.shiftLeft_eq]
  have h3 : (a * 2 ^ 24 + b * 2 ^ 16 + c * 2 ^ 8) ||| d <<< 0 =
      a * 2 ^ 24 + b * 2 ^ 16 + c * 2 ^ 8 + d := by
    have hs : a * 2 ^ 24 + b * 2 ^ 16 + c * 2 ^ 8 = (a * 2 ^ 16 + b * 2 ^ 8 + c) <<< 8 := by
      rw [Nat.shiftLeft_eq]; omega
    rw [Nat.shiftLeft_zero, hs, ← Nat.shiftLeft_add_eq_or_of_lt (by omega), Nat.shiftLeft_eq]
  rw [beWord, h1, h2, h3]

/-- **The bytes of a big-endian word are those it was made of.** -/
theorem wordByte_beWord {a b c d : Nat} (ha : a < 256) (hb : b < 256) (hc : c < 256)
    (hd : d < 256) {j : Nat} (hj : j < 4) :
    wordByte (beWord a b c d) j = [a, b, c, d].getD j 0 := by
  rw [beWord_eq hb hc hd]
  unfold wordByte
  rcases j with _ | _ | _ | _ | j
  · simp only [List.getD_cons_zero]; omega
  · simp only [List.getD_cons_succ, List.getD_cons_zero]; omega
  · simp only [List.getD_cons_succ, List.getD_cons_zero]; omega
  · simp only [List.getD_cons_succ, List.getD_cons_zero]; omega
  · omega

/-- Bytes are cut into words four at a time: the induction behind the
lemmas of `packWords`. -/
theorem quad_induction {motive : List Nat → Prop} (nil : motive [])
    (quad : ∀ a b c d bytes, motive bytes → motive (a :: b :: c :: d :: bytes)) :
    ∀ bytes : List Nat, bytes.length % 4 = 0 → motive bytes
  | [], _ => nil
  | [_], h => by simp at h
  | [_, _], h => by simp at h
  | [_, _, _], h => by simp at h
  | a :: b :: c :: d :: bytes, h =>
    quad a b c d bytes (quad_induction nil quad bytes (by simp only [List.length_cons] at h; omega))

theorem length_packWords (bytes : List Nat) (h : bytes.length % 4 = 0) :
    (packWords bytes).length = bytes.length / 4 := by
  refine quad_induction (motive := fun bytes => (packWords bytes).length = bytes.length / 4)
    rfl (fun a b c d bytes ih => ?_) bytes h
  simp only [packWords, List.length_cons, ih]
  omega

/-- **What was packed is read back**: byte `i` of the list is byte `i % 4` of
word `i / 4`. -/
theorem wordByte_packWords (bytes : List Nat) (h : bytes.length % 4 = 0) :
    (∀ b ∈ bytes, b < 256) → ∀ i < bytes.length,
      wordByte ((packWords bytes).getD (i / 4) 0) (i % 4) = bytes.getD i 0 := by
  refine quad_induction (motive := fun bytes => (∀ b ∈ bytes, b < 256) → ∀ i < bytes.length,
    wordByte ((packWords bytes).getD (i / 4) 0) (i % 4) = bytes.getD i 0) ?_ ?_ bytes h
  · intro _ i hi
    simp at hi
  · intro a b c d bytes ih hbytes i hi
    simp only [List.mem_cons, forall_eq_or_imp] at hbytes
    obtain ⟨ha, hb, hc, hd, hrest⟩ := hbytes
    by_cases hi4 : i < 4
    · have h0 : i / 4 = 0 := by omega
      have hm : i % 4 = i := by omega
      rw [h0, hm, packWords, List.getD_cons_zero, wordByte_beWord ha hb hc hd hi4]
      rcases i with _ | _ | _ | _ | i
      · rfl
      · rfl
      · rfl
      · rfl
      · omega
    · obtain ⟨k, rfl⟩ : ∃ k, i = k + 4 := ⟨i - 4, by omega⟩
      have hdiv : (k + 4) / 4 = k / 4 + 1 := by omega
      have hmod : (k + 4) % 4 = k % 4 := by omega
      simp only [List.length_cons] at hi
      rw [hdiv, hmod, packWords, List.getD_cons_succ, ih hrest k (by omega)]
      rfl

theorem packWords_append {bytes : List Nat} (bytes' : List Nat) (h : bytes.length % 4 = 0) :
    packWords (bytes ++ bytes') = packWords bytes ++ packWords bytes' := by
  refine quad_induction
    (motive := fun bytes => packWords (bytes ++ bytes') = packWords bytes ++ packWords bytes')
    rfl (fun a b c d bytes ih => ?_) bytes h
  simp only [List.cons_append, packWords, ih]

theorem packWords_zeros (n : Nat) : packWords (List.replicate (4 * n) 0) = List.replicate n 0 := by
  induction n with
  | zero => rfl
  | succ n ih =>
    have hquad : List.replicate (4 * (n + 1)) 0 = 0 :: 0 :: 0 :: 0 :: List.replicate (4 * n) 0 :=
      rfl
    rw [hquad, packWords, ih]
    rfl

/-- Words of bytes have 32 bits. -/
theorem packWords_lt (bytes : List Nat) (h : bytes.length % 4 = 0) :
    (∀ b ∈ bytes, b < 256) → ∀ v ∈ packWords bytes, v < 2 ^ 32 := by
  refine quad_induction (motive := fun bytes => (∀ b ∈ bytes, b < 256) →
    ∀ v ∈ packWords bytes, v < 2 ^ 32) ?_ ?_ bytes h
  · exact fun _ v hv => absurd hv List.not_mem_nil
  · intro a b c d bytes ih hbytes v hv
    simp only [List.mem_cons, forall_eq_or_imp] at hbytes
    obtain ⟨ha, hb, hc, hd, hrest⟩ := hbytes
    rcases List.mem_cons.mp hv with rfl | hv
    · rw [beWord_eq hb hc hd]
      omega
    · exact ih hrest v hv

/-- The words are zero where the bytes are. -/
theorem packWords_zero_iff (bytes : List Nat) (h : bytes.length % 4 = 0) :
    (∀ b ∈ bytes, b < 256) → ((∀ v ∈ packWords bytes, v = 0) ↔ ∀ b ∈ bytes, b = 0) := by
  refine quad_induction (motive := fun bytes => (∀ b ∈ bytes, b < 256) →
    ((∀ v ∈ packWords bytes, v = 0) ↔ ∀ b ∈ bytes, b = 0)) ?_ ?_ bytes h
  · exact fun _ => Iff.rfl
  · intro a b c d bytes ih hbytes
    simp only [List.mem_cons, forall_eq_or_imp] at hbytes
    obtain ⟨ha, hb, hc, hd, hrest⟩ := hbytes
    have hword : a * 2 ^ 24 + b * 2 ^ 16 + c * 2 ^ 8 + d = 0 ↔ a = 0 ∧ b = 0 ∧ c = 0 ∧ d = 0 := by
      omega
    simp only [packWords, List.mem_cons, forall_eq_or_imp, beWord_eq hb hc hd, hword, ih hrest,
      and_assoc]

/-- A list of zeros is zero at every index. -/
theorem getD_zero_iff {l : List Nat} : (∀ i, l.getD i 0 = 0) ↔ ∀ b ∈ l, b = 0 := by
  constructor
  · intro h b hb
    obtain ⟨i, hi, rfl⟩ := List.getElem_of_mem hb
    rw [← List.getD_eq_getElem _ 0 hi]
    exact h i
  · intro h i
    by_cases hi : i < l.length
    · rw [List.getD_eq_getElem _ 0 hi]
      exact h _ (List.getElem_mem hi)
    · exact List.getD_eq_default _ _ (by omega)

/-! ## Scattering -/

/-- The list with the value `f i` put at the place `g i`, for the indices `i`
of a list in order. -/
def scatter (g f : Nat → Nat) (is : List Nat) (list : List Nat) : List Nat :=
  is.foldl (fun list i => list.set (g i) (f i)) list

@[simp] theorem length_scatter (g f : Nat → Nat) (is list : List Nat) :
    (scatter g f is list).length = list.length := by
  induction is generalizing list with
  | nil => rfl
  | cons i is ih => exact (ih (list.set (g i) (f i))).trans (List.length_set ..)

theorem getD_scatter_of_notMem {g f : Nat → Nat} {is : List Nat} {k : Nat}
    (hk : k ∉ is.map g) (list : List Nat) : (scatter g f is list).getD k 0 = list.getD k 0 := by
  induction is generalizing list with
  | nil => rfl
  | cons i is ih =>
    simp only [List.map_cons, List.mem_cons, not_or] at hk
    have hne : (list.set (g i) (f i))[k]? = list[k]? := List.getElem?_set_ne (Ne.symm hk.1)
    have hset := ih hk.2 (list.set (g i) (f i))
    rw [List.getD_eq_getElem?_getD, List.getD_eq_getElem?_getD, hne] at hset
    rw [List.getD_eq_getElem?_getD, List.getD_eq_getElem?_getD]
    exact hset

/-- **What was scattered to different places is found there.** -/
theorem getD_scatter {g f : Nat → Nat} {is : List Nat} (hg : (is.map g).Nodup) {i : Nat}
    (hi : i ∈ is) {list : List Nat} (hlt : g i < list.length) :
    (scatter g f is list).getD (g i) 0 = f i := by
  induction is generalizing list with
  | nil => cases hi
  | cons j is ih =>
    rw [List.map_cons, List.nodup_cons] at hg
    rcases List.mem_cons.mp hi with rfl | hi
    · have hout := getD_scatter_of_notMem (f := f) hg.1 (list.set (g i) (f i))
      have hset : (list.set (g i) (f i))[g i]? = some (f i) := List.getElem?_set_self hlt
      rw [List.getD_eq_getElem?_getD (l := list.set (g i) (f i)), hset] at hout
      exact hout
    · exact ih hg.2 hi (by rwa [List.length_set])

theorem mem_scatter {g f : Nat → Nat} {is list : List Nat} {b : Nat}
    (hb : b ∈ scatter g f is list) : b ∈ list ∨ ∃ i ∈ is, b = f i := by
  induction is generalizing list with
  | nil => exact Or.inl hb
  | cons i is ih =>
    rcases @ih (list.set (g i) (f i)) hb with h | ⟨j, hj, rfl⟩
    · rcases List.mem_or_eq_of_mem_set h with h | rfl
      · exact Or.inl h
      · exact Or.inr ⟨i, List.mem_cons_self, rfl⟩
    · exact Or.inr ⟨j, List.mem_cons_of_mem i hj, rfl⟩

/-! ## A memory of words -/

/-- The memory with words stored from word `w` on. -/
def putWords (w : Nat) (values : List Nat) (mem : Nat → Nat) : Nat → Nat := fun i =>
  if w ≤ i ∧ i < w + values.length then values.getD (i - w) 0 else mem i

@[simp] theorem putWords_nil (w : Nat) (mem : Nat → Nat) : putWords w [] mem = mem := by
  funext i
  simp only [putWords, List.length_nil, Nat.add_zero, ite_eq_right_iff]
  omega

theorem putWords_cons (w v : Nat) (values : List Nat) (mem : Nat → Nat) :
    putWords (w + 1) values (Function.update mem w v) = putWords w (v :: values) mem := by
  funext i
  simp only [putWords, List.length_cons]
  rcases Nat.lt_trichotomy i w with hi | rfl | hi
  · rw [if_neg (by omega), if_neg (by omega), Function.update_of_ne (by omega)]
  · rw [if_neg (by omega), if_pos (by omega), Function.update_self, Nat.sub_self,
      List.getD_cons_zero]
  · have hsub : i - w = i - (w + 1) + 1 := by omega
    by_cases hin : i < w + (values.length + 1)
    · rw [if_pos (by omega), if_pos (by omega), hsub, List.getD_cons_succ]
    · rw [if_neg (by omega), if_neg (by omega), Function.update_of_ne (by omega)]

/-- A word of the part that was stored, and one outside it. -/
theorem putWords_inside {w i : Nat} {values : List Nat} (hle : w ≤ i)
    (hlt : i < w + values.length) (mem : Nat → Nat) :
    putWords w values mem i = values.getD (i - w) 0 := if_pos ⟨hle, hlt⟩

theorem putWords_outside {w i : Nat} {values : List Nat} (h : i < w ∨ w + values.length ≤ i)
    (mem : Nat → Nat) : putWords w values mem i = mem i := if_neg (by omega)

theorem putWords_append (w : Nat) (values values' : List Nat) (mem : Nat → Nat) :
    putWords (w + values.length) values' (putWords w values mem) =
      putWords w (values ++ values') mem := by
  induction values generalizing w mem with
  | nil => simp
  | cons v values ih =>
    rw [List.cons_append, ← putWords_cons, ← putWords_cons, ← ih, List.length_cons]
    congr 1
    omega

/-- Byte `i` of a memory of big-endian words. -/
def byteOf (mem : Nat → Nat) (i : Nat) : Nat := wordByte (mem (i / 4)) (i % 4)

/-- The `n` bytes from byte `start` on. -/
def bytesOf (mem : Nat → Nat) (start n : Nat) : List Nat :=
  (List.range n).map fun i => byteOf mem (start + i)

theorem take_bytesOf {n k : Nat} (h : k ≤ n) (mem : Nat → Nat) (start : Nat) :
    (bytesOf mem start n).take k = bytesOf mem start k := by
  rw [bytesOf, ← List.map_take, List.take_range, Nat.min_eq_left h, bytesOf]

/-- A longer list of words replaces what was stored at the same place. -/
theorem putWords_putWords {values values' : List Nat} (h : values'.length ≤ values.length) (w : Nat)
    (mem : Nat → Nat) : putWords w values (putWords w values' mem) = putWords w values mem := by
  funext i
  by_cases hi : w ≤ i ∧ i < w + values.length
  · rw [putWords_inside hi.1 hi.2, putWords_inside hi.1 hi.2]
  · rw [putWords_outside (by omega), putWords_outside (by omega), putWords_outside (by omega)]

/-- **A byte image is read back**: bytes packed into words and stored from word `w`
on are the bytes there. -/
theorem byteOf_putWords {bytes : List Nat} (h : bytes.length % 4 = 0) (hb : ∀ b ∈ bytes, b < 256)
    (w : Nat) (mem : Nat → Nat) {i : Nat} (hi : i < bytes.length) :
    byteOf (putWords w (packWords bytes) mem) (4 * w + i) = bytes.getD i 0 := by
  have hword : putWords w (packWords bytes) mem ((4 * w + i) / 4) =
      (packWords bytes).getD (i / 4) 0 := by
    have hsub : (4 * w + i) / 4 - w = i / 4 := by omega
    rw [putWords_inside (by omega) (by rw [length_packWords bytes h]; omega), hsub]
  have hmod : (4 * w + i) % 4 = i % 4 := by omega
  rw [byteOf, hword, hmod, wordByte_packWords bytes h hb i hi]

/-- **A part of a byte image is read back.** -/
theorem bytesOf_putWords (before part after : List Nat)
    (h : (before ++ part ++ after).length % 4 = 0)
    (hb : ∀ b ∈ before ++ part ++ after, b < 256) (w : Nat) (mem : Nat → Nat) :
    bytesOf (putWords w (packWords (before ++ part ++ after)) mem) (4 * w + before.length)
      part.length = part := by
  refine List.ext_getElem (by simp [bytesOf]) fun i hi hi' => ?_
  have hlen : before.length + i < (before ++ part ++ after).length := by
    simp only [List.length_append]
    omega
  simp only [bytesOf, List.getElem_map, List.getElem_range]
  rw [Nat.add_assoc, byteOf_putWords h hb w mem hlen,
    List.getD_append _ _ _ _ (by simp only [List.length_append]; omega),
    List.getD_append_right _ _ _ _ (by omega), Nat.add_sub_cancel_left,
    List.getD_eq_getElem _ _ hi']

/-- Bytes outside the words stored are as before. -/
theorem byteOf_outside {w i : Nat} {values : List Nat}
    (h : i < 4 * w ∨ 4 * (w + values.length) ≤ i) (mem : Nat → Nat) :
    byteOf (putWords w values mem) i = byteOf mem i := by
  rw [byteOf, putWords_outside (by omega), byteOf]

/-- Pieces of one length, one behind the other: where the piece of an element is. -/
theorem flatMap_split {α : Type} {f : α → List Nat} {n : Nat} {l : List α} {i : Nat} {a : α}
    (hf : ∀ a ∈ l, (f a).length = n) (h : l[i]? = some a) :
    ∃ before after, l.flatMap f = before ++ f a ++ after ∧ before.length = n * i := by
  induction l generalizing i with
  | nil => simp at h
  | cons a' l ih =>
    cases i with
    | zero =>
      obtain rfl : a' = a := by simpa using h
      exact ⟨[], l.flatMap f, by simp, by simp⟩
    | succ i =>
      obtain ⟨before, after, hsplit, hlen⟩ :=
        ih (fun a ha => hf a (List.mem_cons_of_mem _ ha)) (by simpa using h)
      refine ⟨f a' ++ before, after, by simp [hsplit], ?_⟩
      rw [List.length_append, hlen, hf a' List.mem_cons_self, Nat.mul_succ, Nat.add_comm]

theorem length_flatMap_const {α : Type} {f : α → List Nat} {n : Nat} {l : List α}
    (hf : ∀ a ∈ l, (f a).length = n) : (l.flatMap f).length = n * l.length := by
  induction l with
  | nil => rfl
  | cons a l ih =>
    rw [List.flatMap_cons, List.length_append, hf a List.mem_cons_self,
      ih (fun a ha => hf a (List.mem_cons_of_mem _ ha)), List.length_cons, Nat.mul_succ,
      Nat.add_comm]

/-! ## The packer -/

/-- A packer: the bits of the word that are still free, the word, and the words
emitted. -/
structure Packer where
  shifter : Nat := 32
  tableWord : Nat := 0
  words : List Nat := []
  deriving DecidableEq, Repr

namespace Packer

/-- Count a byte of the word, and emit the word when it is full. -/
def step (word : Nat) (p : Packer) : Packer :=
  if p.shifter - 8 = 0 then ⟨32, word, p.words ++ [word]⟩ else ⟨p.shifter - 8, word, p.words⟩

/-- Pack one byte: the first of a word sets the word, the others are or-ed to
it. -/
def put (value : Nat) (p : Packer) : Packer :=
  p.step (if p.shifter = 32 then value <<< (p.shifter - 8)
    else p.tableWord ||| value <<< (p.shifter - 8))

/-- Leave out one byte: the word is set to zero. -/
def skip (p : Packer) : Packer := p.step 0

/-- Pack bytes in order. -/
def puts (bytes : List Nat) (p : Packer) : Packer := bytes.foldl (fun p b => p.put b) p

/-- Leave out `n` bytes. -/
def skips : Nat → Packer → Packer
  | 0, p => p
  | n + 1, p => skips n p.skip

theorem puts_append (bytes bytes' : List Nat) (p : Packer) :
    p.puts (bytes ++ bytes') = (p.puts bytes).puts bytes' := by
  simp [puts]

/-- Four bytes from the start of a word emit their big-endian word. -/
theorem puts_quad (a b c d tw : Nat) (ws : List Nat) :
    (⟨32, tw, ws⟩ : Packer).puts [a, b, c, d] = ⟨32, beWord a b c d, ws ++ [beWord a b c d]⟩ := rfl

/-- **Whole words.** From the start of a word, bytes that fill whole words emit
exactly these words and leave the packer at the start of a word. -/
theorem puts_of_quads (bytes : List Nat) (h : bytes.length % 4 = 0) :
    ∀ p : Packer, p.shifter = 32 →
      (p.puts bytes).words = p.words ++ packWords bytes ∧ (p.puts bytes).shifter = 32 := by
  refine quad_induction (motive := fun bytes => ∀ p : Packer, p.shifter = 32 →
    (p.puts bytes).words = p.words ++ packWords bytes ∧ (p.puts bytes).shifter = 32) ?_ ?_ bytes h
  · intro p hp
    simp [puts, packWords, hp]
  · rintro a b c d bytes ih ⟨sh, tw, ws⟩ (rfl : sh = 32)
    have hsplit : a :: b :: c :: d :: bytes = [a, b, c, d] ++ bytes := rfl
    rw [hsplit, puts_append, puts_quad]
    obtain ⟨hw, hs⟩ := ih ⟨32, beWord a b c d, ws ++ [beWord a b c d]⟩ rfl
    refine ⟨?_, hs⟩
    rw [hw, List.append_assoc]
    rfl

/-- A byte left out is a zero where no other byte is pending. -/
theorem skip_eq_put {p : Packer} (h : p.shifter = 32 ∨ p.tableWord = 0) : p.skip = p.put 0 := by
  rcases h with hs | hw
  · rw [put, if_pos hs, Nat.zero_shiftLeft, skip]
  · rw [put, hw, Nat.zero_shiftLeft, Nat.zero_or, ite_self, skip]

theorem skips_eq_puts (n : Nat) : ∀ {p : Packer}, p.shifter = 32 ∨ p.tableWord = 0 →
    p.skips n = p.puts (List.replicate n 0) := by
  induction n with
  | zero => exact fun _ => rfl
  | succ n ih =>
    intro p h
    have hskip : p.skip.tableWord = 0 := by
      unfold skip step
      split <;> rfl
    have hrest := ih (p := p.skip) (Or.inr hskip)
    rw [skips, hrest, skip_eq_put h]
    rfl

/-- Two bytes from the start of a word leave half a word pending. -/
theorem puts_pair (a b tw : Nat) (ws : List Nat) : (⟨32, tw, ws⟩ : Packer).puts [a, b] =
    ⟨16, a <<< 24 ||| b <<< 16, ws⟩ := rfl

theorem skip_half (tw : Nat) (ws : List Nat) : (⟨16, tw, ws⟩ : Packer).skip = ⟨8, 0, ws⟩ := rfl

/-- **What is pending is lost**: after two bytes of a word, bytes left out clear
these two too. -/
theorem skips_pair {p : Packer} (h : p.shifter = 32) (a b n : Nat) :
    (p.puts [a, b]).skips (n + 1) = p.puts (List.replicate (n + 3) 0) := by
  obtain ⟨sh, tw, ws⟩ := p
  obtain rfl : sh = 32 := h
  have hskip : ((⟨32, tw, ws⟩ : Packer).puts [a, b]).skip =
      ((⟨32, tw, ws⟩ : Packer).puts [0, 0]).skip := by
    simp only [puts_pair, skip_half]
  have hpending : ((⟨32, tw, ws⟩ : Packer).puts [0, 0]).tableWord = 0 := by
    rw [puts_pair]
    rfl
  have hzeros : List.replicate (n + 3) 0 = [0, 0] ++ List.replicate (n + 1) 0 := rfl
  rw [skips, hskip, ← skips, skips_eq_puts (n + 1) (Or.inr hpending), hzeros, puts_append]

/-- The bytes packed so far. -/
def size (p : Packer) : Nat := 4 * p.words.length + (32 - p.shifter) / 8

/-- A packer is between two bytes. -/
def Aligned (p : Packer) : Prop :=
  p.shifter = 32 ∨ p.shifter = 24 ∨ p.shifter = 16 ∨ p.shifter = 8

/-- A packer that has packed `n` bytes. -/
structure Packed (n : Nat) (p : Packer) : Prop where
  aligned : p.Aligned
  size_eq : p.size = n

theorem packed_start : Packed 0 {} := ⟨Or.inl rfl, rfl⟩

theorem Packed.step {n : Nat} {p : Packer} (h : Packed n p) (word : Nat) :
    Packed (n + 1) (p.step word) := by
  obtain ⟨haligned, hsize⟩ := h
  unfold size at hsize
  unfold Packer.step
  rcases haligned with hs | hs | hs | hs
  · constructor
    · simp [hs, Aligned]
    · simp [hs, size]
      omega
  · constructor
    · simp [hs, Aligned]
    · simp [hs, size]
      omega
  · constructor
    · simp [hs, Aligned]
    · simp [hs, size]
      omega
  · constructor
    · simp [hs, Aligned]
    · simp [hs, size]
      omega

theorem Packed.puts {n : Nat} {p : Packer} (h : Packed n p) (bytes : List Nat) :
    Packed (n + bytes.length) (p.puts bytes) := by
  induction bytes generalizing n p with
  | nil => exact h
  | cons b bytes ih =>
    have hstep : Packed (n + 1) (p.put b) := h.step _
    have hrest := ih hstep
    rwa [Nat.add_assoc, Nat.add_comm 1] at hrest

theorem Packed.skips {n : Nat} {p : Packer} (h : Packed n p) (m : Nat) :
    Packed (n + m) (p.skips m) := by
  induction m generalizing n p with
  | zero => exact h
  | succ m ih =>
    have hrest := ih (h.step 0)
    rwa [Nat.add_assoc, Nat.add_comm 1] at hrest

/-- The words emitted hold no more than the bytes packed. -/
theorem Packed.length_words {n : Nat} {p : Packer} (h : Packed n p) : 4 * p.words.length ≤ n := by
  have hsize := h.size_eq
  unfold size at hsize
  omega

end Packer

end Rk3399
