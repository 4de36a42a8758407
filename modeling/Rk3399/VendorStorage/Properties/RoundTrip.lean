import Rk3399.VendorStorage.Properties.Commands
/-!
# What is read back and printed

A number is packed, written, read back and printed as it was typed, an
address in lower case. The length a device returns is printed with an index of eight
bits, from a buffer of which 92 bytes are data.
-/

namespace Rk3399

namespace VendorStorage

open Prog

/-! ## Digits -/

/-- A character in lower case. -/
def lower (c : UInt8) : UInt8 := if 0x41 ≤ c ∧ c ≤ 0x5a then c + 0x20 else c

/-- A number as it is printed. -/
def shown (id : Nat) (num : List UInt8) : List UInt8 := if IsText id then num else num.map lower

theorem length_shown (id : Nat) (num : List UInt8) : (shown id num).length = num.length := by
  unfold shown
  split
  · rfl
  · exact List.length_map _

/-- **A digit is printed as it was typed**, in lower case. -/
theorem hexDigit_hexValue {c : UInt8} (h : IsHexDigit c) :
    (hexValue c).toNat < 16 ∧ hexDigit (hexValue c).toNat = lower c := by
  have hall : ∀ n : Fin 256, IsHexDigit (UInt8.ofNat n) →
      (hexValue (UInt8.ofNat n)).toNat < 16 ∧
        hexDigit (hexValue (UInt8.ofNat n)).toNat = lower (UInt8.ofNat n) := by
    unfold IsHexDigit
    decide +kernel
  have hc := hall ⟨c.toNat, c.toNat_lt⟩
  rw [UInt8.ofNat_toNat] at hc
  exact hc h

/-- Two halves of a byte. -/
theorem shiftLeft_or {x y : UInt8} (hx : x.toNat < 16) (hy : y.toNat < 16) :
    (x <<< 4 ||| y).toNat / 16 = x.toNat ∧ (x <<< 4 ||| y).toNat % 16 = y.toNat := by
  have hall : ∀ n m : Fin 16, (UInt8.ofNat n <<< 4 ||| UInt8.ofNat m).toNat / 16 = n ∧
      (UInt8.ofNat n <<< 4 ||| UInt8.ofNat m).toNat % 16 = m := by
    decide
  have hxy := hall ⟨x.toNat, hx⟩ ⟨y.toNat, hy⟩
  rwa [UInt8.ofNat_toNat, UInt8.ofNat_toNat] at hxy

/-- **The packed digits are printed as they were typed**, in lower case. -/
theorem flatMap_hexByte_packed {n : Nat} {num : List UInt8} (hlen : num.length = 2 * n)
    (hhex : ∀ c ∈ num, IsHexDigit c) :
    ((List.range n).map (packed num)).flatMap hexByte = num.map lower := by
  induction n generalizing num with
  | zero =>
    obtain rfl := List.eq_nil_of_length_eq_zero hlen
    rfl
  | succ n ih =>
    obtain ⟨a, b, num, rfl⟩ : ∃ a b r, num = a :: b :: r := by
      match num, hlen with
      | a :: b :: r, _ => exact ⟨a, b, r, rfl⟩
      | [_], h => simp at h; omega
    obtain ⟨ha, hla⟩ := hexDigit_hexValue (hhex a (by simp))
    obtain ⟨hb, hlb⟩ := hexDigit_hexValue (hhex b (by simp))
    obtain ⟨hhigh, hlow⟩ := shiftLeft_or ha hb
    have hrest : (List.range n).map (packed (a :: b :: num) ∘ Nat.succ) =
        (List.range n).map (packed num) := by
      refine List.map_congr_left fun j _ => ?_
      show packed (a :: b :: num) (j + 1) = packed num j
      unfold packed
      rw [show 2 * (j + 1) = 2 * j + 1 + 1 by omega]
      rfl
    have hfirst : hexByte (packed (a :: b :: num) 0) = [lower a, lower b] := by
      show [hexDigit ((hexValue a <<< 4 ||| hexValue b).toNat / 16),
        hexDigit ((hexValue a <<< 4 ||| hexValue b).toNat % 16)] = _
      rw [hhigh, hlow, hla, hlb]
    rw [List.range_succ_eq_map, List.map_cons, List.map_map, hrest, List.flatMap_cons, hfirst,
      ih (by simp at hlen; omega) fun c hc => hhex c (by simp [hc])]
    rfl

/-- **What is written of a number is printed as the number.** -/
theorem flatMap_payload {id : Nat} {num : List UInt8} (h : ValidNum id num) :
    (payload id num).flatMap (printByte id) = shown id num := by
  unfold payload shown
  by_cases htext : IsText id
  · have hbyte : printByte id = fun b => [b] := funext fun b => if_pos htext
    rw [if_pos htext, if_pos htext, hbyte, List.flatMap_singleton']
  · have hbyte : printByte id = hexByte := funext fun b => if_neg htext
    have h12 : num.length = 2 * 6 := by
      have hlen := h.length_eq
      unfold idLength at hlen
      split at hlen
      · exact absurd (.inl ‹_›) htext
      · split at hlen
        · exact (Option.some.inj hlen).symm
        · split at hlen
          · exact absurd (.inr ‹_›) htext
          · cases hlen
    rw [if_neg htext, if_neg htext, hbyte, flatMap_hexByte_packed h12 (h.hex htext)]

/-! ## What is asked for -/

/-- The tool before it prints. -/
def printer : Tool := start (fun _ => 0) (fun _ => 0) fun _ => 0

/-- **A number that is written is read back**: for a command that was carried out, the request has
its id, and a device that returns the data of it makes the tool print the second of the two
words. -/
def RoundTrips (str : CmdString) (o : Outcome VendorFault Reject Tool Unit) : Prop :=
  ∀ t, Ends o t → ∀ id ∈ t.calls, ∀ req ∈ t.requests, req.id = id ∧
    ∃ w num, words space str.chars = [w, num] ∧
    ∀ dev : Device, dev.opens = true → ∀ len back, dev.read id = some (len, back) →
      len.toNat = req.len → block back 0 req.len = block req.data 0 req.len →
      ∃ u, vendorStorageRead dev id printer = .next () u ∧
        u.out = vendorIdTable.getD (id - 1) [] ++ chars ": " ++ shown id num ++ chars "\n"

/-- **A length is printed**: the loop ends, and looks at no byte behind the buffer. -/
def PrintsInside (len : UInt16) : Prop :=
  ∀ id, 1 ≤ id ∧ id ≤ 5 → ∀ data, ∃ rounds t, rknandPrintHexData rounds
    { id := id, len := len.toNat, data := data } len.toNat printer =
      (.next () t : Outcome VendorFault Int Tool Unit) ∧ t.seen ≤ sizeofData

/-- The words of a string that is carried out are those of its counted part. -/
def Counted (dev : Device) (str : CmdString) : Prop :=
  dev.opens = true → KeepsInside str.counted → (∃ k num, Accepts str.counted k num) →
    words space str.chars = words space str.counted

/-! ## The proofs -/

section

variable {str : CmdString} {dev : Device} {id : Nat} {w num num' : List UInt8} {req : VendorReq}

/-- **What was written is printed** when it is read. -/
theorem vendorStorageRead_eq (dev : Device) (hopens : dev.opens = true) (hid : 1 ≤ id ∧ id ≤ 5)
    {len : UInt16}
    {back : Nat → UInt8} (hread : dev.read id = some (len, back)) (hlen : len.toNat ≤ 255)
    (hnum : ValidNum id num) (hpayload : block back 0 len.toNat = payload id num) :
    ∃ u, vendorStorageRead dev id printer = .next () u ∧
      u.out = vendorIdTable.getD (id - 1) [] ++ chars ": " ++ shown id num ++ chars "\n" := by
  obtain ⟨u, hu, hout, -⟩ := rknandPrintHexData_eq (ρ := Int) (s := printer)
    { id := id, len := len.toNat, data := back } len.toNat hid hlen
  refine ⟨u, ?_, ?_⟩
  · unfold vendorStorageRead
    rw [bind_next (exitIf_of_not _ (by rw [hopens]; decide)), hread]
    exact hu
  · rw [hout]
    show [] ++ (vendorIdTable.getD (id - 1) [] ++ chars ": " ++
      (block back 0 len.toNat).flatMap (printByte id) ++ chars "\n") = _
    rw [List.nil_append, hpayload, flatMap_payload hnum]

theorem length_payload {k : Nat} (hk : k < 5) (hnum : ValidNum (k + 1) num) :
    (payload (k + 1) num).length ≤ 16 := by
  obtain ⟨len, hlen, hle, -⟩ := exists_idLength hk
  have hnumLen : num.length = len := Option.some.inj (hnum.length_eq.symm.trans hlen)
  unfold payload
  split
  · omega
  · rw [List.length_map, List.length_range]
    omega

/-- A device that returns what it was given. -/
def mirror (req : VendorReq) : Device where
  opens := true
  write := 0
  read _ := some (UInt16.ofNat req.len, req.data)

/-- **A written number comes back** just where its words are those of the whole string. -/
theorem roundTrips_iff (dev : Device) (junk vendorId vendorNum vendorHex : Nat → UInt8)
    (str : CmdString) :
    RoundTrips str (vendorStorageWriteCmdParse dev junk str
      (start vendorId vendorNum vendorHex)) ↔ Counted dev str := by
  constructor
  · rintro h hopens hinside ⟨k, num, hacc⟩
    obtain ⟨w, hwords, hid, hnum⟩ := hacc
    obtain ⟨u, hu, hwritten, -⟩ := parse_inside dev junk
      (s := start vendorId vendorNum vendorHex) rfl hinside
    have hk := lt_of_idOf hid
    obtain ⟨hcalls, req, hreqs, hreqId, hreqLen, hdata⟩ := hwritten k num ⟨w, hwords, hid, hnum⟩
    have hle := length_payload hk hnum
    have hlen : (UInt16.ofNat req.len).toNat = req.len :=
      UInt16.toNat_ofNat_of_lt' (by rw [hreqLen]; exact Nat.lt_of_le_of_lt hle (by decide))
    obtain ⟨-, w', num', hchars, hprint⟩ := h u hu (k + 1)
      (hcalls ▸ List.mem_singleton_self _) req
      (by rw [hreqs, if_pos hopens]; exact List.mem_singleton_self _)
    obtain ⟨o, ho, hout⟩ := hprint (mirror req) rfl _ _ rfl hlen rfl
    obtain ⟨o', ho', hout'⟩ := vendorStorageRead_eq (mirror req) rfl
      (show 1 ≤ k + 1 ∧ k + 1 ≤ 5 by omega) rfl (by rw [hlen]; omega) hnum (by rw [hlen, hdata])
    cases ho.symm.trans ho'
    -- the two prints have one length, and so do the two numbers
    have hsame : num'.length = num.length := by
      have hboth := congrArg List.length (hout.symm.trans hout')
      simp only [List.length_append, length_shown] at hboth
      omega
    obtain ⟨suf, hsuf, -⟩ := exists_counted str
    obtain ⟨t, ws, hext⟩ := words_append_right (show _ = [w] ++ [num] from hwords) suf
    rw [← hsuf, hchars] at hext
    obtain ⟨rfl, rfl⟩ : w' = w ∧ num' = num ++ t := by
      simp only [List.singleton_append, List.cons.injEq] at hext
      exact ⟨hext.1, hext.2.1⟩
    rw [List.length_append] at hsame
    obtain rfl : t = [] := List.eq_nil_of_length_eq_zero (by omega)
    rw [hchars, hwords, List.append_nil]
  · intro h t ht id hid req hreq
    by_cases hinside : KeepsInside str.counted
    · obtain ⟨u, hu, hwritten, hnone⟩ := parse_inside dev junk
        (s := start vendorId vendorNum vendorHex) rfl hinside
      obtain rfl : u = t := hu.state.symm.trans ht.state
      obtain ⟨k, num, w, hwords, hidOf, hnum⟩ : ∃ k num, Accepts str.counted k num := by
        by_contra hno
        rw [hnone fun k num hacc => hno ⟨k, num, hacc⟩] at hid
        cases hid
      have hk := lt_of_idOf hidOf
      obtain ⟨hcalls, req', hreqs, hreqId, hreqLen, hdata⟩ :=
        hwritten k num ⟨w, hwords, hidOf, hnum⟩
      obtain rfl : id = k + 1 := by simpa [hcalls, start] using hid
      have hopens : dev.opens = true := by
        by_contra hno
        rw [hreqs, if_neg hno] at hreq
        cases hreq
      obtain rfl : req = req' := by
        rw [hreqs, if_pos hopens] at hreq
        exact List.mem_singleton.1 hreq
      refine ⟨hreqId, w, num,
        (h hopens hinside ⟨k, num, w, hwords, hidOf, hnum⟩).trans hwords, ?_⟩
      intro dev' hopens' len back hread hlen hback
      have hle := length_payload hk hnum
      exact vendorStorageRead_eq dev' hopens' (by omega) hread (by omega) hnum
        (by rw [hlen, hback, hdata])
    · obtain ⟨e, u, hu⟩ := parse_outside dev junk
        (s := start vendorId vendorNum vendorHex) rfl hinside
      exact absurd hu (ht.not_fault e u)

/-- A loop that ends has looked at all bytes up to the length. -/
theorem le_seen_of_loop {len n : Nat} {s t : Tool} (hpos : s.pos ≤ s.seen)
    (h : loop .rounds (printRound req len) n s =
      (.next () t : Outcome VendorFault Int Tool Unit)) : len ≤ t.seen := by
  induction n generalizing s with
  | zero => cases h
  | succ n ih =>
    rw [loop_succ] at h
    by_cases hlt : s.pos < len
    · rw [printRound_next hlt] at h
      refine ih (s := { s with
        out := s.out ++ printByte req.id (req.data s.pos)
        seen := max s.seen (s.pos + 1)
        pos := (s.pos + 1) % 256 }) ?_ h
      have hmod := Nat.mod_le (s.pos + 1) 256
      show (s.pos + 1) % 256 ≤ max s.seen (s.pos + 1)
      omega
    · have hend : printRound req len s = (.next false s : Outcome VendorFault Int Tool Bool) := by
        unfold printRound
        rw [bind_next (show gets _ s = .next s.pos s from rfl), if_neg hlt]
        rfl
      rw [hend] at h
      cases h
      omega

theorem le_seen_of_print {len n : Nat} {t : Tool} (hid : 1 ≤ req.id ∧ req.id ≤ 5)
    (h : rknandPrintHexData n req len printer =
      (.next () t : Outcome VendorFault Int Tool Unit)) : len ≤ t.seen := by
  unfold rknandPrintHexData at h
  rw [bind_next (tableEntry_eq (by omega)),
    bind_next (show modify _ printer = .next () _ from rfl)] at h
  obtain ⟨u, t', hloop, ht⟩ := bind_eq_next h
  have hseen := le_seen_of_loop (Nat.zero_le _) hloop
  cases ht
  exact hseen

/-- **The lengths that are printed** are those of data in the buffer. -/
theorem printsInside_iff (len : UInt16) : PrintsInside len ↔ len.toNat ≤ sizeofData := by
  constructor
  · intro h
    obtain ⟨rounds, t, ht, hseen⟩ := h 1 (by decide) fun _ => 0
    exact Nat.le_trans (le_seen_of_print (show 1 ≤ 1 ∧ 1 ≤ 5 by decide) ht) hseen
  · intro h id hid data
    obtain ⟨t, ht, -, hseen, -⟩ := rknandPrintHexData_eq (ρ := Int) (s := printer)
      { id := id, len := len.toNat, data := data } len.toNat hid
      (show len.toNat ≤ 255 by unfold sizeofData at h; omega)
    exact ⟨printRounds, t, ht, by rw [hseen]; show max 0 len.toNat ≤ sizeofData; omega⟩

end

/-- **Numbers come back, and a length is printed**, just where the words of the string are
counted and the length is that of data in the buffer. -/
theorem roundTrips_and_printsInside_iff (dev : Device)
    (junk vendorId vendorNum vendorHex : Nat → UInt8) (str : CmdString) (len : UInt16) :
    (RoundTrips str (vendorStorageWriteCmdParse dev junk str
        (start vendorId vendorNum vendorHex)) ∧ PrintsInside len) ↔
      Counted dev str ∧ len.toNat ≤ sizeofData :=
  and_congr (roundTrips_iff dev junk vendorId vendorNum vendorHex str) (printsInside_iff len)

/-- **A length of 256** is printed for ever. -/
theorem not_printsInside_256 :
    ¬ ∀ dev junk vendorId vendorNum vendorHex str len,
      RoundTrips str (vendorStorageWriteCmdParse dev junk str
        (start vendorId vendorNum vendorHex)) ∧ PrintsInside len := by
  intro hall
  let dev : Device := ⟨false, 0, fun _ => none⟩
  let zeros : Nat → UInt8 := fun _ => 0
  let empty : CmdString := ⟨[], fun _ hc => nomatch hc⟩
  obtain ⟨rounds, t, ht, -⟩ := (hall dev zeros zeros zeros zeros empty 256).2 1 (by decide) zeros
  obtain ⟨u, hu⟩ := rknandPrintHexData_wrap (ρ := Int) (s := printer)
    { id := 1, len := 256, data := zeros } 256 (by decide) (by decide) rounds
  cases ht.symm.trans hu

end VendorStorage

end Rk3399
