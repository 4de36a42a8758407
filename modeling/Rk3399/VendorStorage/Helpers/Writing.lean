import Rk3399.VendorStorage.Helpers.Splitting
/-!
# Writing and printing a number

What follows once the two words of a command are in their arrays: the entry
of the table, the length and the digits of the number, the request to the
device, and what is printed of it.
-/

namespace Rk3399

namespace VendorStorage

open Prog

/-! ## The entry of the table -/

/-- The entry of the table that a word begins with. -/
def idOf (w : List UInt8) : Option Nat := vendorIdTable.findIdx? fun name => decide (name <+: w)

section

variable {w v name : List UInt8} {s t : Tool} {k n : Nat}

/-- The array begins with a name just where the word does. -/
theorem block_vendorId_iff (hname : space ∉ name) :
    block (poke 0 (w ++ [space]) fun _ => 0) 0 name.length = name ↔ name <+: w := by
  constructor
  · intro h
    by_cases hlen : name.length ≤ w.length
    · have htake : w = w.take name.length ++ w.drop name.length := (List.take_append_drop _ _).symm
      rw [htake, List.append_assoc, block_poke_append (by rw [List.length_take]; omega)] at h
      exact h ▸ List.take_prefix _ _
    · -- the space behind the word would be in the name
      exfalso
      obtain ⟨m, hm⟩ : ∃ m, name.length = (w ++ [space]).length + m :=
        ⟨name.length - (w.length + 1), by simp; omega⟩
      rw [hm, block_add, block_poke rfl] at h
      exact hname (h ▸ by simp)
  · rintro ⟨r, rfl⟩
    rw [List.append_assoc, block_poke_append rfl]

theorem findIdx?_congr {α : Type} {p q : α → Bool} {l : List α} (h : ∀ x ∈ l, p x = q x) :
    l.findIdx? p = l.findIdx? q := by
  induction l with
  | nil => rfl
  | cons x l ih =>
    rw [List.findIdx?_cons, List.findIdx?_cons, h x List.mem_cons_self,
      ih fun y hy => h y (List.mem_cons_of_mem _ hy)]

theorem space_not_mem_table : ∀ name ∈ vendorIdTable, space ∉ name := by decide

/-- **The identifier is the entry the first word begins with.** -/
theorem findId_eq (ht : HoldsWords s w v t) : findId t = idOf w := by
  unfold findId idOf
  refine findIdx?_congr fun name hname => ?_
  rw [ht.vendorId_eq]
  exact decide_eq_decide.2 (block_vendorId_iff (space_not_mem_table name hname))

/-- No name of the table begins with another. -/
theorem prefix_unique {k k' : Nat} {name name' : List UInt8} (hk : vendorIdTable[k]? = some name)
    (hk' : vendorIdTable[k']? = some name') (h : name <+: w) (h' : name' <+: w) : k = k' := by
  have hall : ∀ i j : Fin 5, vendorIdTable[i] <+: vendorIdTable[j] → i = j := by decide
  have hlt : ∀ {i : Nat} {l : List UInt8}, vendorIdTable[i]? = some l → i < 5 := fun hi =>
    (List.getElem?_eq_some_iff.1 hi).1
  have hname : ∀ {i : Nat} {l : List UInt8} (hi : vendorIdTable[i]? = some l),
      vendorIdTable[(⟨i, hlt hi⟩ : Fin 5)] = l := fun hi =>
    (List.getElem?_eq_some_iff.1 hi).2
  rcases List.prefix_or_prefix_of_prefix h h' with hle | hle
  · rw [← hname hk, ← hname hk'] at hle
    exact congrArg Fin.val (hall _ _ hle)
  · rw [← hname hk, ← hname hk'] at hle
    exact (congrArg Fin.val (hall _ _ hle)).symm

/-- **A word has an entry just where it begins with it.** -/
theorem idOf_eq_some_iff :
    idOf w = some k ↔ ∃ name, vendorIdTable[k]? = some name ∧ name <+: w := by
  unfold idOf
  rw [List.findIdx?_eq_some_iff_getElem]
  constructor
  · rintro ⟨hk, hp, -⟩
    exact ⟨_, List.getElem?_eq_getElem hk, of_decide_eq_true hp⟩
  · rintro ⟨name, hk, hprefix⟩
    obtain ⟨hlt, hget⟩ := List.getElem?_eq_some_iff.1 hk
    refine ⟨hlt, by rw [hget]; exact decide_eq_true hprefix, fun j hj => ?_⟩
    intro hp
    have := prefix_unique (List.getElem?_eq_getElem (by omega)) hk (of_decide_eq_true hp) hprefix
    omega

theorem lt_of_idOf (h : idOf w = some k) : k < 5 := by
  obtain ⟨name, hname, -⟩ := idOf_eq_some_iff.1 h
  exact (List.getElem?_eq_some_iff.1 hname).1

/-! ## The length of the number -/

theorem tableEntry_eq {ρ : Type} {k : Int} (h : 0 ≤ k ∧ k < 5) :
    tableEntry k s = (.next (vendorIdTable.getD k.toNat []) s : Outcome VendorFault ρ Tool _) :=
  if_pos h

theorem exists_idLength (h : k < 5) : ∃ len, idLength (k + 1) = some len ∧ len ≤ 16 ∧
    (¬ IsText (k + 1) → len = 12) := by
  have hall : ∀ k : Fin 5, ∃ len ∈ idLength (k + 1), len ≤ 16 ∧ (¬ IsText (k + 1) → len = 12) := by
    decide
  exact hall ⟨k, h⟩

/-- **The length of the number is checked.** -/
theorem checkLength_eq {len : Nat} (hk : k < 5) (hlen : idLength (k + 1) = some len)
    (hcnt : s.cnt = v.length) :
    (v.length = len → checkLength (k + 1) s = .next () s) ∧
      (v.length ≠ len → ∃ r, checkLength (k + 1) s = .exit r s) := by
  have hmask : checkLength (k + 1) = vendorLenMask (k + 1) len := by
    unfold checkLength
    rw [hlen]
  rw [hmask]
  unfold vendorLenMask
  refine ⟨fun h => ?_, fun h => ?_⟩
  · rw [bind_next (show gets id s = .next s s from rfl), if_neg (by omega)]
    rfl
  · rw [bind_next (show gets id s = .next s s from rfl), if_pos (by omega),
      bind_next (tableEntry_eq (by omega))]
    exact ⟨_, rfl⟩

/-! ## The digits -/

/-- The bytes of pairs of digits. -/
def packed (v : List UInt8) (j : Nat) : UInt8 :=
  hexValue (v.getD (2 * j) 0) <<< 4 ||| hexValue (v.getD (2 * j + 1) 0)

/-- The digits before `i` are packed, and those from `i` on are as they were. -/
structure Packed (v : List UInt8) (s : Tool) (i : Nat) (t : Tool) : Prop where
  i_eq : t.i = i
  tmp_eq : t.tmp = v.length
  num_eq : ∀ j, i ≤ j → t.vendorNum j = v.getD j 0
  half_eq : ∀ j, j + 1 = i → i % 2 = 1 → t.vendorNum j = hexValue (v.getD j 0)
  hex_eq : ∀ j, 2 * j + 1 < i → t.vendorHex j = packed v j
  cnt_eq : t.cnt = s.cnt
  calls_eq : t.calls = s.calls
  requests_eq : t.requests = s.requests
  out_eq : t.out = s.out
  seen_eq : t.seen = s.seen

/-- **A digit is packed.** -/
theorem Packed.storeDigit {i : Nat} (ht : Packed v s i t) : Packed v s (i + 1) (storeDigit t) := by
  have hnum := ht.num_eq i (Nat.le_refl _)
  have hti := ht.i_eq
  have hself : (VendorStorage.storeDigit t).vendorNum i = hexValue (v.getD i 0) := by
    show Function.update t.vendorNum t.i (hexValue (t.vendorNum t.i)) i = _
    rw [hti, Function.update_self, hnum]
  have hother : ∀ j, j ≠ i → (VendorStorage.storeDigit t).vendorNum j = t.vendorNum j := by
    intro j hj
    show Function.update t.vendorNum t.i (hexValue (t.vendorNum t.i)) j = _
    rw [hti, Function.update_of_ne hj]
  refine ⟨?_, ht.tmp_eq, fun j hj => ?_, fun j hj _ => ?_, fun j hj => ?_, ht.cnt_eq, ht.calls_eq,
    ht.requests_eq, ht.out_eq, ht.seen_eq⟩
  · show t.i + 1 = i + 1
    rw [hti]
  · rw [hother j (by omega), ht.num_eq j (by omega)]
  · obtain rfl : j = i := by omega
    exact hself
  · show (if t.i % 2 = 1 then Function.update t.vendorHex ((t.i - 1) / 2)
      ((VendorStorage.storeDigit t).vendorNum (t.i - 1) <<< 4 |||
        (VendorStorage.storeDigit t).vendorNum t.i) else t.vendorHex) j = _
    rw [hti]
    by_cases hodd : i % 2 = 1
    · rw [if_pos hodd]
      by_cases hj' : j = (i - 1) / 2
      · -- the pair that this digit completes
        have h1 : i - 1 = 2 * j := by omega
        have h2 : i = 2 * j + 1 := by omega
        rw [← hj', Function.update_self, hself, h1, hother (2 * j) (by omega),
          ht.half_eq (2 * j) (by omega) hodd, h2]
        rfl
      · rw [Function.update_of_ne hj', ht.hex_eq j (by omega)]
    · rw [if_neg hodd, ht.hex_eq j (by omega)]

theorem hexRound_digit {i : Nat} (ht : Packed v s i t) (hi : i < v.length) (hlen : v.length ≤ 20)
    (hhex : IsHex (v.getD i 0)) : hexRound n t = .next true (storeDigit t) := by
  have hnum := ht.num_eq i (Nat.le_refl _)
  have hti := ht.i_eq
  unfold hexRound
  rw [bind_next (show gets _ t = .next t t from rfl), if_pos (by rw [ht.tmp_eq, hti]; omega),
    if_neg (by rw [hti, hnum]; exact not_not_intro hhex),
    bind_next (assert_of _ (by show t.i < 20; omega)),
    bind_next (assert_of _ (by show t.i % 2 = 1 → (t.i - 1) / 2 < 10; omega)),
    bind_next (show modify _ _ = .next () _ from rfl)]
  rfl

/-- **A character that is no digit** ends the command; the message reads another entry of the
table, which the last of the addresses does not have. -/
theorem hexRound_other {i : Nat} (ht : Packed v s i t) (hi : i < v.length)
    (hhex : ¬ IsHex (v.getD i 0)) :
    (n + 1 < 5 → ∃ r, hexRound n t = .exit r t) ∧
      (5 ≤ n + 1 → hexRound n t = .fault .table t) := by
  have hnum := ht.num_eq i (Nat.le_refl _)
  have hti := ht.i_eq
  unfold hexRound
  rw [bind_next (show gets _ t = .next t t from rfl), if_pos (by rw [ht.tmp_eq, hti]; omega),
    if_pos (by rw [hti, hnum]; exact hhex)]
  refine ⟨fun hn => ?_, fun hn => ?_⟩
  · rw [bind_next (tableEntry_eq (by omega))]
    exact ⟨_, rfl⟩
  · rw [bind_fault (show tableEntry _ t = .fault .table t from if_neg (by omega))]

/-- **The digits are packed**, or one of the characters is no digit. -/
theorem loop_hex (hlen : v.length ≤ 20) {i m : Nat} (ht : Packed v s i t) (hi : i ≤ v.length)
    (hm : v.length - i < m) :
    ((∀ j, i ≤ j → j < v.length → IsHex (v.getD j 0)) → ∃ t', Packed v s v.length t' ∧
      loop .rounds (hexRound n) m t = (.next () t' : Outcome VendorFault Reject Tool Unit)) ∧
    ((∃ j, i ≤ j ∧ j < v.length ∧ ¬ IsHex (v.getD j 0)) →
      (n + 1 < 5 → ∃ r t', loop .rounds (hexRound n) m t = .exit r t' ∧ t'.calls = s.calls) ∧
      (5 ≤ n + 1 → ∃ t', loop .rounds (hexRound n) m t =
        (.fault .table t' : Outcome VendorFault Reject Tool Unit))) := by
  obtain ⟨d, hd⟩ : ∃ d, d = v.length - i := ⟨_, rfl⟩
  obtain ⟨m, rfl⟩ : ∃ k, m = k + 1 := ⟨m - 1, by omega⟩
  rw [loop_succ]
  -- by induction on the digits that are left
  induction d generalizing i t m with
  | zero =>
    obtain rfl : i = v.length := by omega
    have hend : hexRound n t = .next false t := by
      unfold hexRound
      rw [bind_next (show gets _ t = .next t t from rfl),
        if_neg (by rw [ht.tmp_eq, ht.i_eq]; omega)]
      rfl
    rw [hend]
    exact ⟨fun _ => ⟨t, ht, rfl⟩, fun ⟨j, hj, hj', _⟩ => absurd hj' (by omega)⟩
  | succ d ih =>
    have hlt : i < v.length := by omega
    obtain ⟨m, rfl⟩ : ∃ k, m = k + 1 := ⟨m - 1, by omega⟩
    by_cases hhex : IsHex (v.getD i 0)
    · rw [hexRound_digit ht hlt hlen hhex]
      show (_ → ∃ t', _ ∧ loop .rounds (hexRound n) (m + 1) _ = _) ∧
        (_ → (_ → ∃ r t', loop .rounds (hexRound n) (m + 1) _ = _ ∧ _) ∧
          (_ → ∃ t', loop .rounds (hexRound n) (m + 1) _ = _))
      rw [loop_succ]
      obtain ⟨hall, hsome⟩ := ih ht.storeDigit (by omega) (by omega) m (by omega)
      refine ⟨fun h => hall fun j hj => h j (by omega), ?_⟩
      rintro ⟨j, hj, hj', hnot⟩
      have hne : j ≠ i := fun h => hnot (h ▸ hhex)
      exact hsome ⟨j, by omega, hj', hnot⟩
    · -- the error text is looked up by the identifier, and the table ends before the last one
      obtain ⟨hexit, hfault⟩ := hexRound_other (n := n) ht hlt hhex
      refine ⟨fun h => absurd (h i (Nat.le_refl _) hlt) hhex, fun _ => ⟨fun hn => ?_, fun hn => ?_⟩⟩
      · obtain ⟨r, hr⟩ := hexit hn
        rw [hr]
        exact ⟨r, t, rfl, ht.calls_eq⟩
      · rw [hfault hn]
        exact ⟨t, rfl⟩

/-! ## The whole number -/

/-- `strlen` of a number in its array. -/
theorem stringLength_eq {ρ : Type} (hlen : v.length < 20) (hzero : 0 ∉ v) :
    stringLength 20 (poke 0 v fun _ => 0) s =
      (.next v.length s : Outcome VendorFault ρ Tool Nat) := by
  obtain ⟨m, hm⟩ : ∃ m, 20 = v.length + (m + 1) := ⟨19 - v.length, by omega⟩
  have hblock : block (poke 0 v fun _ => 0) 0 20 =
      v ++ 0 :: block (fun _ => 0) (v.length + 1) m := by
    rw [hm, block_add, block_poke rfl, block_poke_outside (.inr (by omega)), Nat.zero_add,
      block_succ]
  unfold stringLength
  rw [hblock, strlen_append _ hzero]

theorem packHex_text (h : IsText n) :
    packHex n s = .next () { s with vendorHex := fun _ => 0 } := by
  unfold packHex
  rw [bind_next (show modify _ s = .next () { s with vendorHex := fun _ => 0 } from rfl),
    if_neg (not_not_intro h)]
  rfl

/-- **The digits of an address are packed.** -/
theorem packHex_hex (h : ¬ IsText n) (hlen : v.length < 20) (hzero : 0 ∉ v)
    (hnum : s.vendorNum = poke 0 v fun _ => 0) :
    ((∀ c ∈ v, IsHex c) → ∃ t, Packed v s v.length t ∧ packHex n s = .next () t) ∧
    ((∃ c ∈ v, ¬ IsHex c) →
      (n + 1 < 5 → ∃ r t, packHex n s = .exit r t ∧ t.calls = s.calls) ∧
      (5 ≤ n + 1 → ∃ t, packHex n s = .fault .table t)) := by
  have hstart : packHex n s = loop .rounds (hexRound n) (v.length + 1)
      { s with vendorHex := fun _ => 0, tmp := v.length, i := 0 } := by
    unfold packHex
    rw [bind_next (show modify _ s = .next () { s with vendorHex := fun _ => 0 } from rfl),
      if_pos h, bind_next (show gets (fun t : Tool => t.vendorNum)
        { s with vendorHex := fun _ => 0 } = .next (poke 0 v fun _ => 0) _ by rw [← hnum]; rfl),
      bind_next (stringLength_eq hlen hzero)]
    rfl
  -- before the first digit nothing is packed
  have hpacked : Packed v s 0 { s with vendorHex := fun _ => 0, tmp := v.length, i := 0 } := by
    refine ⟨rfl, rfl, fun j _ => ?_, fun j hj => absurd hj (by omega),
      fun j hj => absurd hj (by omega), rfl, rfl, rfl, rfl, rfl⟩
    show s.vendorNum j = _
    rw [hnum]
    show (if 0 ≤ j then v.getD (j - 0) 0 else 0) = v.getD j 0
    rw [if_pos (Nat.zero_le _), Nat.sub_zero]
  obtain ⟨hall, hsome⟩ := loop_hex (n := n) (by omega) hpacked (Nat.zero_le _)
    (show v.length - 0 < v.length + 1 by omega)
  rw [hstart]
  constructor
  · intro hhex
    refine hall fun j _ hj => ?_
    rw [List.getD_eq_getElem?_getD, List.getElem?_eq_getElem hj]
    exact hhex _ (List.getElem_mem hj)
  · rintro ⟨c, hc, hnot⟩
    obtain ⟨j, hj, rfl⟩ := List.getElem_of_mem hc
    refine hsome ⟨j, Nat.zero_le _, hj, ?_⟩
    rw [List.getD_eq_getElem?_getD, List.getElem?_eq_getElem hj]
    exact hnot

/-! ## Printing -/

section

variable {ρ : Type} {req : VendorReq} {len : Nat}

theorem printRound_next (h : s.pos < len) : printRound req len s =
    (.next true { s with
      out := s.out ++ printByte req.id (req.data s.pos)
      seen := max s.seen (s.pos + 1)
      pos := (s.pos + 1) % 256 } : Outcome VendorFault ρ Tool Bool) := by
  unfold printRound
  rw [bind_next (show gets _ s = .next s.pos s from rfl), if_pos h]
  rfl

/-- **The bytes up to the length are printed**, and no other is looked at. -/
theorem loop_print (req : VendorReq) (hlen : len ≤ 255) {m : Nat} (hpos : s.pos ≤ len)
    (hseen : s.pos ≤ s.seen)
    (hm : len - s.pos < m) :
    ∃ t, loop .rounds (printRound req len) m s =
        (.next () t : Outcome VendorFault ρ Tool Unit) ∧
      t.out = s.out ++ (block req.data s.pos (len - s.pos)).flatMap (printByte req.id) ∧
      t.seen = max s.seen len ∧ t.calls = s.calls ∧ t.requests = s.requests := by
  obtain ⟨d, hd⟩ : ∃ d, d = len - s.pos := ⟨_, rfl⟩
  obtain ⟨m, rfl⟩ : ∃ k, m = k + 1 := ⟨m - 1, by omega⟩
  rw [loop_succ, ← hd]
  -- by induction on the bytes that are left
  induction d generalizing s m with
  | zero =>
    have hend : printRound req len s = (.next false s : Outcome VendorFault ρ Tool Bool) := by
      unfold printRound
      rw [bind_next (show gets _ s = .next s.pos s from rfl), if_neg (by omega)]
      rfl
    rw [hend]
    exact ⟨s, rfl, by simp [block], by omega, rfl, rfl⟩
  | succ d ih =>
    obtain ⟨m, rfl⟩ : ∃ k, m = k + 1 := ⟨m - 1, by omega⟩
    have hmod : (s.pos + 1) % 256 = s.pos + 1 := Nat.mod_eq_of_lt (by omega)
    rw [printRound_next (by omega), hmod]
    show ∃ t, loop .rounds (printRound req len) (m + 1) _ = _ ∧ _
    rw [loop_succ]
    obtain ⟨t, ht, hout, hsee, hcalls, hreqs⟩ := ih (s := { s with
      out := s.out ++ printByte req.id (req.data s.pos)
      seen := max s.seen (s.pos + 1)
      pos := s.pos + 1 }) (show s.pos + 1 ≤ len by omega)
      (show s.pos + 1 ≤ max s.seen (s.pos + 1) by omega)
      (show d = len - (s.pos + 1) by omega) m (by show len - (s.pos + 1) < _; omega)
    refine ⟨t, ht, ?_, ?_, hcalls, hreqs⟩
    · rw [hout, block_succ, List.flatMap_cons, List.append_assoc]
    · rw [hsee]
      show max (max s.seen (s.pos + 1)) len = max s.seen len
      omega

/-- **A length that the index does not reach** is printed for ever. -/
theorem loop_print_wrap (req : VendorReq) (hlen : 256 ≤ len) (m : Nat) (hpos : s.pos < 256) :
    ∃ t, loop .rounds (printRound req len) m s =
      (.fault .rounds t : Outcome VendorFault ρ Tool Unit) := by
  induction m generalizing s with
  | zero => exact ⟨s, rfl⟩
  | succ m ih =>
    rw [loop_succ, printRound_next (by omega)]
    exact ih (Nat.mod_lt _ (by omega))

/-- What is printed of a request. -/
def printed (req : VendorReq) (len : Nat) : List UInt8 :=
  vendorIdTable.getD (req.id - 1) [] ++ chars ": " ++
    (block req.data 0 len).flatMap (printByte req.id) ++ chars "\n"

/-- **A request of at most 255 bytes is printed.** -/
theorem rknandPrintHexData_eq (req : VendorReq) (len : Nat) (hid : 1 ≤ req.id ∧ req.id ≤ 5)
    (hlen : len ≤ 255) :
    ∃ t, rknandPrintHexData printRounds req len s =
        (.next () t : Outcome VendorFault ρ Tool Unit) ∧
      t.out = s.out ++ printed req len ∧ t.seen = max s.seen len ∧
      t.calls = s.calls ∧ t.requests = s.requests := by
  obtain ⟨t, ht, hout, hseen, hcalls, hreqs⟩ := loop_print (ρ := ρ) req (m := printRounds)
    (s := { s with
      out := s.out ++ vendorIdTable.getD (req.id - 1) [] ++ chars ": "
      pos := 0 }) hlen (Nat.zero_le _) (Nat.zero_le _) (show len - 0 < 257 by omega)
  have hk : ((req.id : Int) - 1).toNat = req.id - 1 := by omega
  refine ⟨{ t with out := t.out ++ chars "\n" }, ?_, ?_, hseen, hcalls, hreqs⟩
  · unfold rknandPrintHexData
    rw [bind_next (tableEntry_eq (by omega)), hk,
      bind_next (show modify _ s = .next () _ from rfl), bind_next ht]
    rfl
  · show t.out ++ chars "\n" = _
    rw [hout]
    simp only [printed, Nat.sub_zero, List.append_assoc]

/-- **A longer one is printed for ever.** -/
theorem rknandPrintHexData_wrap (req : VendorReq) (len : Nat) (hid : 1 ≤ req.id ∧ req.id ≤ 5)
    (hlen : 256 ≤ len) (n : Nat) :
    ∃ t, rknandPrintHexData n req len s =
      (.fault .rounds t : Outcome VendorFault ρ Tool Unit) := by
  obtain ⟨t, ht⟩ := loop_print_wrap (ρ := ρ) req (s := { s with
      out := s.out ++ vendorIdTable.getD ((req.id : Int) - 1).toNat [] ++ chars ": "
      pos := 0 }) hlen n (show 0 < 256 by omega)
  unfold rknandPrintHexData
  rw [bind_next (tableEntry_eq (by omega)), bind_next (show modify _ s = .next () _ from rfl),
    bind_fault ht]
  exact ⟨t, rfl⟩

/-! ## Writing -/

variable {num junk : Nat → UInt8} {dev : Device}

/-- **A number is written**: there is one request where the device opens, and none elsewhere. -/
theorem vendorStorageWrite_eq (dev : Device) (junk : Nat → UInt8) (hid : 1 ≤ n ∧ n ≤ 5)
    (hlen : len ≤ sizeofData)
    (hnum : numLength n num s = (.next len s : Outcome VendorFault Int Tool Nat)) :
    ∃ r t, call (vendorStorageWrite dev junk n num) s =
        (.next r t : Outcome VendorFault Reject Tool _) ∧
      t.calls = s.calls ∧
      t.requests = s.requests ++ if dev.opens then [writeReq n len num junk] else [] := by
  have hle : len ≤ 92 := hlen
  have hmod : len % 2 ^ 16 = len := Nat.mod_eq_of_lt (by omega)
  unfold call vendorStorageWrite
  cases hopens : dev.opens with
  | false =>
    rw [bind_exit (exitIf_of _ (by rfl))]
    exact ⟨_, s, rfl, rfl, (List.append_nil _).symm⟩
  | true =>
    rw [bind_next (exitIf_of_not _ (by decide)), bind_next hnum,
      bind_next (assert_of _ (by show len % 2 ^ 16 ≤ 92; omega)),
      bind_next (show modify _ s = .next () { s with
        requests := s.requests ++ [writeReq n len num junk] } from rfl)]
    by_cases hwrite : dev.write ≠ 0
    · rw [bind_exit (exitIf_of _ (by exact hwrite))]
      exact ⟨_, _, rfl, rfl, rfl⟩
    · obtain ⟨t, ht, -, -, hcalls, hreqs⟩ := rknandPrintHexData_eq (ρ := Int)
        (s := { s with requests := s.requests ++ [writeReq n len num junk] })
        (writeReq n len num junk) (writeReq n len num junk).len hid
        (show len % 2 ^ 16 ≤ 255 by omega)
      rw [bind_next (exitIf_of_not _ (by exact hwrite)), ht]
      exact ⟨none, t, rfl, hcalls, hreqs⟩

end

end

end VendorStorage

end Rk3399
