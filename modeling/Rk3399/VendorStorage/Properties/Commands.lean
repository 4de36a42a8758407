import Rk3399.VendorStorage.Helpers.Writing
/-!
# Which commands are carried out

A command is an identifier of the table and a number for it, with spaces
around them. `vendorStorageWriteCmdParse` takes the first word by the name it
begins with, copies both words before it knows how long they are, and reads a
string without a word in front of its start.
-/

namespace Rk3399

namespace VendorStorage

open Prog

/-! ## What is asked for -/

/-- A hexadecimal digit. -/
def IsHexDigit (c : UInt8) : Prop :=
  (0x30 ≤ c ∧ c ≤ 0x39) ∨ (0x41 ≤ c ∧ c ≤ 0x46) ∨ (0x61 ≤ c ∧ c ≤ 0x66)

/-- A number for an identifier: of the length of the identifier, and of hexadecimal digits
where it is an address. -/
structure ValidNum (id : Nat) (num : List UInt8) : Prop where
  nospace : space ∉ num
  length_eq : idLength id = some num.length
  hex : ¬ IsText id → ∀ c ∈ num, IsHexDigit c

/-- **A command**: a name of the table and a number for it, with spaces around them. -/
def IsCommand (l : List UInt8) (k : Nat) (num : List UInt8) : Prop :=
  ∃ name, vendorIdTable[k]? = some name ∧ ValidNum (k + 1) num ∧ ∃ a b c,
    l = List.replicate a space ++ (name ++ (List.replicate (b + 1) space ++
      (num ++ List.replicate c space)))

/-- **A string is parsed exactly**: nothing is read or written outside the arrays and the
string, and the number is written for a command, with its identifier, and for nothing else. -/
structure ParsesExactly (str : CmdString) (o : Outcome VendorFault Reject Tool Unit) : Prop where
  safe : ∀ e t, o ≠ .fault e t
  command : ∀ k num, IsCommand str.chars k num → o.state.calls = [k + 1]
  other : (∀ k num, ¬ IsCommand str.chars k num) → o.state.calls = []

/-! ## What the parser asks for -/

/-- What it takes for a command. -/
def Accepts (l : List UInt8) (k : Nat) (num : List UInt8) : Prop :=
  ∃ w, words space l = [w, num] ∧ idOf w = some k ∧ ValidNum (k + 1) num

/-- What it does not keep in its arrays: a string without a word, words that are too long for
them, and an address of the last kind with a character that is no digit. -/
structure KeepsInside (l : List UInt8) : Prop where
  word : words space l ≠ []
  vendorId : ∀ w v ws, words space l = w :: v :: ws → w.length ≤ 19
  vendorNum : ∀ w v, words space l = [w, v] → v.length ≤ 20
  table : ∀ w v, words space l = [w, v] → idOf w = some (VENDOR_BT_MAC_ID - 1) → v.length = 12 →
    ∀ c ∈ v, IsHexDigit c

/-- **The strings that are parsed as they should be**: those the arrays are long enough for,
and of which a command is taken for what it is and nothing else for one. -/
structure Parsable (str : CmdString) : Prop where
  inside : KeepsInside str.counted
  exact : ∀ w num k, words space str.counted = [w, num] → idOf w = some k →
    ValidNum (k + 1) num → vendorIdTable[k]? = some w
  counted : ∀ k num, IsCommand str.counted k num ↔ IsCommand str.chars k num

/-! ## Words -/

section

variable {l w v num : List UInt8} {k : Nat} {str : CmdString} {s t : Tool} {dev : Device}
  {junk : Nat → UInt8}

theorem isHex_iff {c : UInt8} : IsHex c ↔ IsHexDigit c := by
  unfold IsHex IsHexDigit
  simp only [UInt8.lt_iff_toNat_lt, UInt8.le_iff_toNat_le, UInt8.toNat_ofNat]
  omega

theorem table_word {name : List UInt8} (h : vendorIdTable[k]? = some name) :
    space ∉ name ∧ name ≠ [] ∧ name.length ≤ 19 ∧ k < 5 := by
  have hall : ∀ name ∈ vendorIdTable, space ∉ name ∧ name ≠ [] ∧ name.length ≤ 19 := by decide
  obtain ⟨hk, hget⟩ := List.getElem?_eq_some_iff.1 h
  obtain ⟨hspace, hne, hlen⟩ := hall name (hget ▸ List.getElem_mem hk)
  exact ⟨hspace, hne, hlen, hk⟩

theorem ValidNum.ne_nil (h : ValidNum (k + 1) num) (hk : k < 5) : num ≠ [] := by
  rintro rfl
  have hall : ∀ k : Fin 5, idLength (k + 1) ≠ some 0 := by decide
  exact hall ⟨k, hk⟩ h.length_eq

/-- **A command by its words.** -/
theorem isCommand_iff : IsCommand l k num ↔
    ∃ name, vendorIdTable[k]? = some name ∧ ValidNum (k + 1) num ∧ words space l = [name, num] := by
  constructor
  · rintro ⟨name, hname, hnum, hshape⟩
    obtain ⟨hspace, hne, -, hk⟩ := table_word hname
    exact ⟨name, hname, hnum,
      words_eq_pair_iff.2 ⟨⟨hspace, hne⟩, ⟨hnum.nospace, hnum.ne_nil hk⟩, hshape⟩⟩
  · rintro ⟨name, hname, hnum, hwords⟩
    exact ⟨name, hname, hnum, (words_eq_pair_iff.1 hwords).2.2⟩

/-- A command is accepted. -/
theorem IsCommand.accepts (h : IsCommand l k num) : Accepts l k num := by
  obtain ⟨name, hname, hnum, hwords⟩ := isCommand_iff.1 h
  exact ⟨name, hwords, idOf_eq_some_iff.2 ⟨name, hname, List.prefix_rfl⟩, hnum⟩

/-- What is accepted is accepted for one entry and one number. -/
theorem Accepts.unique {k' : Nat} {num' : List UInt8} (h : Accepts l k num)
    (h' : Accepts l k' num') : k = k' ∧ num = num' := by
  obtain ⟨w, hwords, hid, -⟩ := h
  obtain ⟨w', hwords', hid', -⟩ := h'
  cases hwords.symm.trans hwords'
  exact ⟨Option.some.inj (hid.symm.trans hid'), rfl⟩

/-- The characters of the second word are no NUL. -/
theorem zero_not_mem (h : words space str.counted = [w, v]) : 0 ∉ v := by
  intro hzero
  obtain ⟨-, -, a, b, c, hshape⟩ := words_eq_pair_iff.1 h
  have hmem : (0 : UInt8) ∈ str.counted := by
    rw [hshape]
    simp [hzero]
  exact str.nonzero 0 (List.mem_of_mem_take hmem) rfl

/-! ## The end of a command -/

/-- The function returns. -/
def Ends (o : Outcome VendorFault Reject Tool Unit) (t : Tool) : Prop :=
  o = .next () t ∨ ∃ r, o = .exit r t

theorem Ends.not_fault {o : Outcome VendorFault Reject Tool Unit} (h : Ends o t) (e : VendorFault)
    (u : Tool) : o ≠ .fault e u := by
  rintro rfl
  rcases h with h | ⟨r, h⟩ <;> cases h

theorem Ends.state {o : Outcome VendorFault Reject Tool Unit} (h : Ends o t) : o.state = t := by
  rcases h with rfl | ⟨r, rfl⟩ <;> rfl

/-- The bytes a number is written as. -/
def payload (id : Nat) (num : List UInt8) : List UInt8 :=
  if IsText id then num else (List.range 6).map (packed num)

/-- The number was written, in one request, where the device opens. -/
structure Written (dev : Device) (s : Tool) (id : Nat) (num : List UInt8) (t : Tool) : Prop where
  calls_eq : t.calls = s.calls ++ [id]
  requests_eq : ∃ req, t.requests = s.requests ++ (if dev.opens then [req] else []) ∧
    req.id = id ∧ req.len = (payload id num).length ∧
    block req.data 0 req.len = payload id num

/-- **The number is written** from the array it is in. -/
theorem writeNum_eq (dev : Device) (junk : Nat → UInt8) {id : Nat} (hid : 1 ≤ id ∧ id ≤ 5)
    (hlen : num.length < 20) (hzero : 0 ∉ num)
    (htext : IsText id → s.vendorNum = poke 0 num fun _ => 0)
    (hhex : ¬ IsText id → ∀ j < 6, s.vendorHex j = packed num j) :
    ∃ t, Ends (writeNum dev junk id s) t ∧ Written dev s id num t := by
  -- the array and its length by the kind of the number
  obtain ⟨array, len, harray, hnum, hle, hblock, hpayload⟩ : ∃ (array : Nat → UInt8) (len : Nat),
      (if IsText id then s.vendorNum else s.vendorHex) = array ∧
      numLength id array { s with calls := s.calls ++ [id] } =
        (.next len { s with calls := s.calls ++ [id] } : Outcome VendorFault Int Tool Nat) ∧
      len ≤ sizeofData ∧ block array 0 len = payload id num ∧ len = (payload id num).length := by
    unfold numLength payload
    by_cases h : IsText id
    · simp only [if_pos h, htext h]
      exact ⟨_, _, rfl, stringLength_eq hlen hzero, by unfold sizeofData; omega,
        block_poke rfl, rfl⟩
    · simp only [if_neg h]
      refine ⟨_, 6, rfl, rfl, by decide, ?_, by simp⟩
      refine List.map_congr_left fun j hj => ?_
      rw [Nat.zero_add]
      exact hhex h j (List.mem_range.1 hj)
  obtain ⟨r, t, ht, hcalls, hreqs⟩ := vendorStorageWrite_eq dev junk hid hle hnum
  have hmod : len % 2 ^ 16 = len := Nat.mod_eq_of_lt (by unfold sizeofData at hle; omega)
  have hwritten : Written dev s id num t := by
    refine ⟨hcalls, writeReq id len array junk, hreqs, rfl, ?_, ?_⟩
    · show len % 2 ^ 16 = _
      rw [hmod, hpayload]
    · show block (poke 0 (block array 0 (len % 2 ^ 16)) junk) 0 (len % 2 ^ 16) = _
      rw [hmod, block_poke length_block, hblock]
  refine ⟨t, ?_, hwritten⟩
  unfold writeNum
  rw [bind_next (show gets _ s = .next s s from rfl),
    bind_next (show modify _ s = .next () { s with calls := s.calls ++ [id] } from rfl), harray,
    bind_next ht]
  by_cases hr : r = none
  · rw [if_neg (not_not_intro hr)]
    exact .inl rfl
  · rw [if_pos hr]
    exact .inr ⟨_, rfl⟩

/-- What follows once the entry of the table is known. -/
def carryOut (dev : Device) (junk : Nat → UInt8) (k : Nat) : Parsing Unit := do
  checkLength (k + 1)
  packHex (k + 1)
  writeNum dev junk (k + 1)

/-- The message about an address of the last kind reads behind the table. -/
def NoDigits (k : Nat) (num : List UInt8) : Prop :=
  k + 1 = VENDOR_BT_MAC_ID ∧ num.length = 12 ∧ ¬ ∀ c ∈ num, IsHexDigit c

/-- A valid number is written. -/
theorem carryOut_valid (dev : Device) (junk : Nat → UInt8) (hk : k < 5) (ht : HoldsWords s w v t)
    (hzero : 0 ∉ v)
    (hnum : ValidNum (k + 1) v) :
    ∃ u, Ends (carryOut dev junk k t) u ∧ Written dev s (k + 1) v u := by
  obtain ⟨len, hlen, hle, h12⟩ := exists_idLength hk
  have hvlen : v.length = len := Option.some.inj (hnum.length_eq.symm.trans hlen)
  obtain ⟨t', hpack, hcalls, hreqs, htext, hhex⟩ : ∃ t', packHex (k + 1) t = .next () t' ∧
      t'.calls = s.calls ∧ t'.requests = s.requests ∧
      (IsText (k + 1) → t'.vendorNum = poke 0 v fun _ => 0) ∧
      (¬ IsText (k + 1) → ∀ j < 6, t'.vendorHex j = packed v j) := by
    by_cases h : IsText (k + 1)
    · exact ⟨_, packHex_text h, ht.calls_eq, ht.requests_eq, fun _ => ht.vendorNum_eq,
        fun hnot => absurd h hnot⟩
    · obtain ⟨hall, -⟩ := packHex_hex h (by omega) hzero ht.vendorNum_eq
      obtain ⟨t', ht', hpack⟩ := hall fun c hc => isHex_iff.2 (hnum.hex h c hc)
      refine ⟨t', hpack, ht'.calls_eq.trans ht.calls_eq, ht'.requests_eq.trans ht.requests_eq,
        fun h' => absurd h' h, fun _ j hj => ht'.hex_eq j ?_⟩
      have := h12 h
      omega
  obtain ⟨u, hu, hwritten⟩ := writeNum_eq dev junk (by omega)
    (by omega) hzero htext hhex
  refine ⟨u, ?_, hcalls ▸ hwritten.calls_eq, hreqs ▸ hwritten.requests_eq⟩
  unfold carryOut
  rw [bind_next ((checkLength_eq hk hlen ht.cnt_eq).1 hvlen), bind_next hpack]
  exact hu

/-- Any other number is turned away, unless it is an address of the last kind. -/
theorem carryOut_other (dev : Device) (junk : Nat → UInt8) (hk : k < 5) (ht : HoldsWords s w v t)
    (hzero : 0 ∉ v) (hspace : space ∉ v)
    (hnum : ¬ ValidNum (k + 1) v) :
    (NoDigits k v → ∃ u, carryOut dev junk k t = .fault .table u) ∧
      (¬ NoDigits k v → ∃ u, Ends (carryOut dev junk k t) u ∧ u.calls = s.calls) := by
  obtain ⟨len, hlen, hle, h12⟩ := exists_idLength hk
  obtain ⟨hsame, hdiffer⟩ := checkLength_eq hk hlen ht.cnt_eq
  unfold carryOut
  -- a number of the right length can still have a character that is no digit
  by_cases hvlen : v.length = len
  · have htext : ¬ IsText (k + 1) := fun h => hnum ⟨hspace, hvlen ▸ hlen, fun h' => absurd h h'⟩
    have hnot : ¬ ∀ c ∈ v, IsHexDigit c := fun h => hnum ⟨hspace, hvlen ▸ hlen, fun _ => h⟩
    obtain ⟨-, hsome⟩ := packHex_hex htext (by omega) hzero ht.vendorNum_eq
    obtain ⟨hexit, hfault⟩ := hsome (by
      by_contra hall
      exact hnot fun c hc => isHex_iff.1 (by_contra fun hno => hall ⟨c, hc, hno⟩))
    rw [bind_next (hsame hvlen)]
    constructor
    · rintro ⟨hbt, -⟩
      obtain ⟨u, hu⟩ := hfault (by rw [hbt]; decide)
      rw [bind_fault hu]
      exact ⟨u, rfl⟩
    · intro hno
      have hlast : k + 1 ≠ VENDOR_BT_MAC_ID := fun h => hno ⟨h, hvlen.trans (h12 htext), hnot⟩
      have himei : k + 1 ≠ VENDOR_IMEI_ID := fun h => htext (.inr h)
      obtain ⟨r, u, hu, hcalls⟩ := hexit (by unfold VENDOR_BT_MAC_ID VENDOR_IMEI_ID at *; omega)
      rw [bind_exit hu]
      exact ⟨u, .inr ⟨r, rfl⟩, hcalls.trans ht.calls_eq⟩
  · obtain ⟨r, hr⟩ := hdiffer hvlen
    rw [bind_exit hr]
    constructor
    · rintro ⟨hbt, h, -⟩
      rw [hbt] at hlen
      cases hlen
      exact absurd h hvlen
    · exact fun _ => ⟨t, .inr ⟨r, rfl⟩, ht.calls_eq⟩

/-! ## A whole command -/

/-- Two words that are in their arrays: what is left is the entry of the first. -/
theorem parse_words (dev : Device) (junk : Nat → UInt8) (hsplit : splitCmd str s = .next () t)
    (ht : HoldsWords s w v t) :
    (∀ k, idOf w = some k →
      vendorStorageWriteCmdParse dev junk str s = carryOut dev junk k t) ∧
    (idOf w = none → vendorStorageWriteCmdParse dev junk str s = .exit .form t) := by
  have hfind : gets findId t = (.next (idOf w) t : Outcome VendorFault Reject Tool _) :=
    congrArg (Outcome.next · t) (findId_eq ht)
  refine ⟨fun k hid => ?_, fun hid => ?_⟩ <;>
    · rw [hid] at hfind
      unfold vendorStorageWriteCmdParse
      rw [bind_next hsplit, bind_next hfind]
      rfl

/-- The command ends, with the number written where it is accepted, and no other. -/
def Carried (dev : Device) (s : Tool) (l : List UInt8)
    (o : Outcome VendorFault Reject Tool Unit) : Prop :=
  ∃ u, Ends o u ∧ (∀ k num, Accepts l k num → Written dev s (k + 1) num u) ∧
    ((∀ k num, ¬ Accepts l k num) → u.calls = s.calls)

theorem Carried.of_not_accepts {o : Outcome VendorFault Reject Tool Unit}
    (hnone : ∀ k num, ¬ Accepts l k num) (ho : Ends o t) (hcalls : t.calls = s.calls) :
    Carried dev s l o :=
  ⟨t, ho, fun k num h => absurd h (hnone k num), fun _ => hcalls⟩

/-- The two words are the words of what is accepted. -/
theorem Accepts.of_words (h : Accepts l k num) (hwords : words space l = [w, v]) :
    idOf w = some k ∧ num = v ∧ ValidNum (k + 1) v := by
  obtain ⟨w', hwords', hid, hnum⟩ := h
  cases hwords.symm.trans hwords'
  exact ⟨hid, rfl, hnum⟩

/-- **What stays in the arrays** is written where it is accepted. -/
theorem parse_inside (dev : Device) (junk : Nat → UInt8) (hcmd : s.cmd = 0)
    (h : KeepsInside str.counted) :
    Carried dev s str.counted (vendorStorageWriteCmdParse dev junk str s) := by
  have hshort : ∀ {u : Tool} {r : Reject}, (∀ w num, words space str.counted ≠ [w, num]) →
      splitCmd str s = .exit r u → u.calls = s.calls →
      Carried dev s str.counted (vendorStorageWriteCmdParse dev junk str s) := by
    intro u r hne hexit hcalls
    refine .of_not_accepts (fun k num hacc => ?_) (.inr ⟨r, ?_⟩) hcalls
    · obtain ⟨w, hwords, -⟩ := hacc
      exact hne w num hwords
    · unfold vendorStorageWriteCmdParse
      rw [bind_exit hexit]
  -- by the words of the command: only two of them can be accepted
  match hwords : words space str.counted with
  | [] => exact absurd hwords h.word
  | [w] =>
    obtain ⟨u, hu, hcalls⟩ := splitCmd_single hcmd hwords
    exact hshort (by simp [hwords]) hu hcalls
  | w :: v :: ws =>
    obtain ⟨-, hmore, -, hpair⟩ := splitCmd_pair hcmd hwords
    have h19 := h.vendorId w v ws hwords
    by_cases hws : ws = []
    · subst hws
      obtain ⟨t, hsplit, ht⟩ := hpair h19 rfl (h.vendorNum w v hwords)
      obtain ⟨hsome, hnone⟩ := parse_words dev junk hsplit ht
      have hzero := zero_not_mem hwords
      have hspace := (words_eq_pair_iff.1 hwords).2.1.1
      cases hid : idOf w with
      | none =>
        refine .of_not_accepts (fun k num hacc => ?_) (.inr ⟨.form, hnone hid⟩) ht.calls_eq
        cases (hacc.of_words hwords).1.symm.trans hid
      | some k =>
        have hk := lt_of_idOf hid
        by_cases hnum : ValidNum (k + 1) v
        · obtain ⟨u, hu, hwritten⟩ := carryOut_valid dev junk hk ht hzero hnum
          rw [hsome k hid]
          refine ⟨u, hu, fun k' num hacc => ?_, fun hno => absurd ⟨w, hwords, hid, hnum⟩ (hno k v)⟩
          obtain ⟨hid', rfl, -⟩ := hacc.of_words hwords
          cases hid.symm.trans hid'
          exact hwritten
        · obtain ⟨-, hother⟩ := carryOut_other dev junk hk ht hzero hspace hnum
          obtain ⟨u, hu, hcalls⟩ := hother (by
            rintro ⟨hbt, h12, hnot⟩
            exact hnot (h.table w v hwords (hid.trans (congrArg some (by omega))) h12))
          refine .of_not_accepts (fun k' num hacc => ?_) (hsome k hid ▸ hu) hcalls
          obtain ⟨hid', rfl, hvalid⟩ := hacc.of_words hwords
          cases hid.symm.trans hid'
          exact hnum hvalid
    · obtain ⟨u, hu, hcalls⟩ := hmore h19 hws
      exact hshort (by simp [hwords, hws]) hu hcalls

/-- **What does not stay in the arrays** has no meaning. -/
theorem parse_outside (dev : Device) (junk : Nat → UInt8) (hcmd : s.cmd = 0)
    (h : ¬ KeepsInside str.counted) :
    ∃ e u, vendorStorageWriteCmdParse dev junk str s = .fault e u := by
  have hfault : ∀ {u : Tool} {e : VendorFault}, splitCmd str s = .fault e u →
      ∃ e u, vendorStorageWriteCmdParse dev junk str s = .fault e u := by
    intro u e hsplit
    unfold vendorStorageWriteCmdParse
    rw [bind_fault hsplit]
    exact ⟨e, u, rfl⟩
  -- by the words of the command: each way outside has its own
  match hwords : words space str.counted with
  | [] =>
    obtain ⟨u, hu⟩ := splitCmd_nil hcmd hwords
    exact hfault hu
  | [w] =>
    refine absurd ⟨by simp [hwords], ?_, ?_, ?_⟩ h <;> simp [hwords]
  | w :: v :: ws =>
    obtain ⟨hid, -, hnum, hpair⟩ := splitCmd_pair hcmd hwords
    by_cases h19 : w.length ≤ 19
    · by_cases hws : ws = []
      · subst hws
        by_cases h20 : v.length ≤ 20
        · obtain ⟨t, hsplit, ht⟩ := hpair h19 rfl h20
          have htable : idOf w = some (VENDOR_BT_MAC_ID - 1) ∧ v.length = 12 ∧
              ¬ ∀ c ∈ v, IsHexDigit c := by
            by_contra hno
            refine h ⟨by simp [hwords], ?_, ?_, ?_⟩
            · rintro w' v' ws' hwords'
              cases hwords.symm.trans hwords'
              exact h19
            · rintro w' v' hwords'
              cases hwords.symm.trans hwords'
              exact h20
            · rintro w' v' hwords' hbt h12
              cases hwords.symm.trans hwords'
              exact by_contra fun hnot => hno ⟨hbt, h12, hnot⟩
          obtain ⟨hbt, h12, hnot⟩ := htable
          have hspace := (words_eq_pair_iff.1 hwords).2.1.1
          obtain ⟨hbad, -⟩ := carryOut_other dev junk (lt_of_idOf hbt) ht
            (zero_not_mem hwords) hspace fun hvalid => hnot (hvalid.hex (by decide))
          obtain ⟨u, hu⟩ := hbad ⟨rfl, h12, hnot⟩
          exact ⟨_, u, ((parse_words dev junk hsplit ht).1 _ hbt).trans hu⟩
        · obtain ⟨u, hu⟩ := hnum h19 rfl (by omega)
          exact hfault hu
      · -- three words and more
        refine absurd ⟨by simp [hwords], ?_, ?_, ?_⟩ h
        · rintro w' v' ws' hwords'
          cases hwords.symm.trans hwords'
          exact h19
        all_goals
          rintro w' v' hwords'
          cases hwords.symm.trans hwords'
          exact absurd rfl hws
    · obtain ⟨u, hu⟩ := hid (by omega)
      exact hfault hu

/-- A command in the counted part of a string that is a command is that command. -/
theorem IsCommand.of_counted {k' : Nat} {num' : List UInt8} (h : IsCommand str.chars k num)
    (hwords : words space str.counted = [w, num']) (hnum' : ValidNum (k' + 1) num') (hk : k' = k) :
    vendorIdTable[k']? = some w ∧ num' = num := by
  subst hk
  obtain ⟨name, hname, hnum, hchars⟩ := isCommand_iff.1 h
  obtain ⟨suf, hsuf, -⟩ := exists_counted str
  obtain ⟨t, ws, hext⟩ := words_append_right (show _ = [w] ++ [num'] from hwords) suf
  rw [← hsuf, hchars] at hext
  obtain ⟨rfl, hnum''⟩ : name = w ∧ num = num' ++ t := by
    simp only [List.singleton_append, List.cons.injEq] at hext
    exact ⟨hext.1, hext.2.1⟩
  have hlen : num.length = num'.length :=
    Option.some.inj (hnum.length_eq.symm.trans hnum'.length_eq)
  rw [hnum'', List.length_append] at hlen
  obtain rfl : t = [] := List.eq_nil_of_length_eq_zero (by omega)
  exact ⟨hname, by rw [hnum'', List.append_nil]⟩

end

/-- The variables at the start of the function: what is in the arrays is left over. -/
def start (vendorId vendorNum vendorHex : Nat → UInt8) : Tool where
  vendorId := vendorId
  vendorNum := vendorNum
  vendorHex := vendorHex

/-- **The parser is exact just on the strings it can parse.** -/
theorem parsesExactly_iff (dev : Device) (junk vendorId vendorNum vendorHex : Nat → UInt8)
    (str : CmdString) :
    ParsesExactly str (vendorStorageWriteCmdParse dev junk str
      (start vendorId vendorNum vendorHex)) ↔ Parsable str := by
  constructor
  · intro h
    have hinside : KeepsInside str.counted := by
      by_contra hno
      obtain ⟨e, u, hu⟩ := parse_outside dev junk
        (s := start vendorId vendorNum vendorHex) rfl hno
      exact h.safe e u hu
    obtain ⟨u, hu, hwritten, hnone⟩ := parse_inside dev junk
      (s := start vendorId vendorNum vendorHex) rfl hinside
    -- what is accepted is a command, since something was written
    have hcommand : ∀ {k num}, Accepts str.counted k num → ∃ num', IsCommand str.chars k num' := by
      intro k num hacc
      have hcalls : u.calls = [k + 1] := (hwritten k num hacc).calls_eq
      by_contra hno
      have hsome : ¬ ∀ k num, ¬ IsCommand str.chars k num := by
        intro hall
        have hnil := h.other hall
        rw [hu.state, hcalls] at hnil
        cases hnil
      refine hsome fun k' num' hcmd => ?_
      have hcalls' := h.command k' num' hcmd
      rw [hu.state, hcalls] at hcalls'
      obtain rfl : k = k' := by simpa using hcalls'
      exact hno ⟨num', hcmd⟩
    have hname : ∀ {k num w}, words space str.counted = [w, num] → idOf w = some k →
        ValidNum (k + 1) num → vendorIdTable[k]? = some w ∧ IsCommand str.chars k num := by
      intro k num w hwords hid hnum
      obtain ⟨num', hcmd⟩ := hcommand ⟨w, hwords, hid, hnum⟩
      obtain ⟨hname, rfl⟩ := hcmd.of_counted hwords hnum rfl
      exact ⟨hname, hcmd⟩
    refine ⟨hinside, fun w num k hwords hid hnum => (hname hwords hid hnum).1, fun k num => ?_⟩
    constructor
    · intro hcmd
      obtain ⟨w, hwords, hid, hnum⟩ := hcmd.accepts
      exact (hname hwords hid hnum).2
    · intro hcmd
      have hcalls := h.command k num hcmd
      rw [hu.state] at hcalls
      obtain ⟨k', num', w, hwords, hid, hnum⟩ : ∃ k' num', Accepts str.counted k' num' := by
        by_contra hno
        rw [hnone fun k' num' hacc => hno ⟨k', num', hacc⟩] at hcalls
        cases hcalls
      have hcalls' : u.calls = [k' + 1] := (hwritten k' num' ⟨w, hwords, hid, hnum⟩).calls_eq
      obtain rfl : k' = k := by simpa [hcalls] using hcalls'.symm
      obtain ⟨hname, rfl⟩ := hcmd.of_counted hwords hnum rfl
      exact isCommand_iff.2 ⟨w, hname, hnum, hwords⟩
  · rintro ⟨hinside, hexact, hcounted⟩
    obtain ⟨u, hu, hwritten, hnone⟩ := parse_inside dev junk
      (s := start vendorId vendorNum vendorHex) rfl hinside
    refine ⟨hu.not_fault, fun k num hcmd => ?_, fun hall => ?_⟩
    · rw [hu.state]
      exact (hwritten k num ((hcounted k num).2 hcmd).accepts).calls_eq
    · rw [hu.state]
      refine hnone fun k num ⟨w, hwords, hid, hnum⟩ => hall k num ?_
      exact (hcounted k num).1 (isCommand_iff.2 ⟨w, hexact w num k hwords hid hnum, hnum, hwords⟩)

/-- **An empty command** is read in front of its start. -/
theorem not_parsesExactly_empty :
    ¬ ∀ dev junk vendorId vendorNum vendorHex str, ParsesExactly str
      (vendorStorageWriteCmdParse dev junk str (start vendorId vendorNum vendorHex)) := by
  intro hall
  let dev : Device := ⟨true, 0, fun _ => none⟩
  let zeros : Nat → UInt8 := fun _ => 0
  let empty : CmdString := ⟨[], fun _ hc => nomatch hc⟩
  exact (hall dev zeros zeros zeros zeros empty).safe .string _ rfl

end VendorStorage

end Rk3399
