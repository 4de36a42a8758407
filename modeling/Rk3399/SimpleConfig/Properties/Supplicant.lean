import Mathlib.Data.List.Basic
import Rk3399.SimpleConfig.Model.Supplicant
import Rk3399.SimpleConfig.Properties.SsidText
/-!
# What the supplicant reads

The file, read line by line: a line is a directive, the head of a network block
or its end; a value in quotes ends at the last quote of its line, and an SSID
without quotes is in hexadecimal. The SSID is always read back. The passphrase
stands between its quotes as it is, and is read back where no line ends in it.
-/

namespace Rk3399

namespace SimpleConfig

/-! ## The reader -/

/-- A line of the file. -/
inductive Line where
  | blank
  | head
  | close
  | directive (name value : List UInt8)
  | junk
  deriving DecidableEq, Repr

/-- A line, behind the blanks it starts with. -/
def readDirective (line : List UInt8) : Line :=
  if line = [] ∨ line.head? = some 35 then .blank
  else if 61 ∈ line then
    let name := line.takeWhile fun c => c ≠ 61
    let value := (line.dropWhile fun c => c ≠ 61).tail
    if name = chars "network" ∧ value = [123] then .head else .directive name value
  else if line = [125] then .close
  else .junk

/-- `readLine` of a line with blanks in front. -/
def readLine (line : List UInt8) : Line :=
  readDirective (line.dropWhile fun c => c = 32 || c = 9)

abbrev Directives := List (List UInt8 × List UInt8)

/-- The directives outside the network blocks, the blocks, and the block the line is in. -/
structure Config where
  globals : Directives := []
  networks : List Directives := []
  inside : Option Directives := none
  deriving DecidableEq

/-- One more line. -/
def Config.read (c : Config) (line : List UInt8) : Option Config :=
  match readLine line, c.inside with
  | .blank, _ => some c
  | .head, none => some { c with inside := some [] }
  | .close, some block => some { c with networks := c.networks ++ [block], inside := none }
  | .directive name value, none => some { c with globals := c.globals ++ [(name, value)] }
  | .directive name value, some block => some { c with inside := some (block ++ [(name, value)]) }
  | _, _ => none

/-- The lines of a file. -/
def readConfig (content : List UInt8) : Option Config :=
  (content.splitOn 10).foldlM Config.read {}

/-- The text in quotes, which ends at the last quote. -/
def quotedValue : List UInt8 → Option (List UInt8)
  | [] => none
  | c :: rest =>
    if c = 34 ∧ 34 ∈ rest then some (rest.reverse.dropWhile fun c => c ≠ 34).tail.reverse
    else none

/-- The bytes of a text in hexadecimal. -/
def hexBytes : List UInt8 → Option (List UInt8)
  | [] => some []
  | [_] => none
  | hi :: lo :: rest =>
    (hexValue hi).bind fun h => (hexValue lo).bind fun l =>
      (hexBytes rest).map (UInt8.ofNat (16 * h + l) :: ·)

/-- The value of `ssid`. -/
def ssidValue (value : List UInt8) : Option (List UInt8) :=
  if value.head? = some 34 then quotedValue value else hexBytes value

/-! ## The values -/

section values

variable {s : List UInt8}

theorem quotedValue_quoted (s : List UInt8) : quotedValue (34 :: s ++ [34]) = some s := by
  have hrev : (s ++ [34]).reverse.dropWhile (fun c : UInt8 => c ≠ 34) = 34 :: s.reverse := by
    rw [List.reverse_append]
    exact List.dropWhile_cons_of_neg (by decide)
  change (if (34 : UInt8) = 34 ∧ 34 ∈ s ++ [34] then
    some ((s ++ [34]).reverse.dropWhile fun c => c ≠ 34).tail.reverse else none) = _
  rw [if_pos ⟨rfl, by simp⟩, hrev, List.tail_cons, List.reverse_reverse]

/-- What is in quotes stands in the line. -/
theorem mem_of_quotedValue {v : List UInt8} (h : quotedValue v = some s) {c : UInt8} (hc : c ∈ s) :
    c ∈ v := by
  cases v with
  | nil => cases h
  | cons q rest =>
    by_cases hquoted : q = 34 ∧ 34 ∈ rest
    · rw [quotedValue, if_pos hquoted] at h
      cases h
      rw [List.mem_reverse] at hc
      have hdrop := (List.dropWhile_suffix _).subset (List.mem_of_mem_tail hc)
      exact List.mem_cons_of_mem _ (List.mem_reverse.mp hdrop)
    · rw [quotedValue, if_neg hquoted] at h
      cases h

theorem hexBytes_flatMap (s : List UInt8) : hexBytes (s.flatMap hexPair) = some s := by
  induction s with
  | nil => rfl
  | cons b s ih =>
    have hlt : b.toNat < 256 := UInt8.toNat_lt b
    change (hexValue (hexChar (b.toNat / 16))).bind (fun h =>
      (hexValue (hexChar (b.toNat % 16))).bind fun l =>
        (hexBytes (s.flatMap hexPair)).map (UInt8.ofNat (16 * h + l) :: ·)) = _
    rw [hexValue_hexChar (by omega), hexValue_hexChar (by omega), Option.bind_some,
      Option.bind_some, ih, Nat.div_add_mod, UInt8.ofNat_toNat]
    rfl

theorem hexChar_ne {n : Nat} (hn : n < 16) : hexChar n ≠ 34 ∧ hexChar n ≠ 10 := by
  have hall : ∀ n : Fin 16, hexChar n ≠ 34 ∧ hexChar n ≠ 10 := by decide
  exact hall ⟨n, hn⟩

theorem length_flatMap_hexPair (s : List UInt8) : (s.flatMap hexPair).length = 2 * s.length := by
  induction s with
  | nil => rfl
  | cons b s ih =>
    rw [List.flatMap_cons, List.length_append, ih, List.length_cons]
    change 2 + 2 * s.length = _
    omega

/-- **The SSID is read back**, from a text on one line. -/
theorem ssidRework_spec (hne : s ≠ []) (hle : s.length ≤ 32) :
    ∃ text, ssidRework (some s) = some text ∧ ssidValue text = some s ∧ 10 ∉ text ∧
      text.length ≤ 64 := by
  unfold ssidRework
  by_cases hhex : s.any notAscii = true
  · have hlen := length_flatMap_hexPair s
    simp only [if_pos hhex, fit, if_pos (show (s.flatMap hexPair).length < 32 * 4 + 1 by omega)]
    refine ⟨_, rfl, ?_, ?_, by omega⟩
    · obtain ⟨b, rest, rfl⟩ := List.exists_cons_of_ne_nil hne
      have hlt : b.toNat < 256 := UInt8.toNat_lt b
      have hquote : ((b :: rest).flatMap hexPair).head? ≠ some 34 := by
        intro h
        exact (hexChar_ne (show b.toNat / 16 < 16 by omega)).1 (Option.some.inj h)
      unfold ssidValue
      rw [if_neg hquote, hexBytes_flatMap]
    · intro h
      obtain ⟨b, -, hb⟩ := List.mem_flatMap.mp h
      have hlt : b.toNat < 256 := UInt8.toNat_lt b
      have hhi := (hexChar_ne (show b.toNat / 16 < 16 by omega)).2
      have hlo := (hexChar_ne (show b.toNat % 16 < 16 by omega)).2
      simp [hexPair, Ne.symm hhi, Ne.symm hlo] at hb
  · have hlen : (34 :: s ++ [34]).length = s.length + 2 := by simp
    simp only [if_neg hhex, fit, if_pos (show (34 :: s ++ [34]).length < 32 * 4 + 1 by omega)]
    refine ⟨_, rfl, ?_, ?_, by omega⟩
    · exact (if_pos rfl).trans (quotedValue_quoted s)
    · intro h
      have hmem : (10 : UInt8) ∈ s := by simpa using h
      exact hhex (List.any_eq_true.mpr ⟨10, hmem, by decide⟩)

end values

/-! ## The lines -/

section lines

variable {c c' : Config} {line name value : List UInt8}

/-- A line has no newline. -/
theorem notMem_of_mem_splitOn {s l : List UInt8} (h : l ∈ s.splitOn 10) : 10 ∉ l := by
  induction s generalizing l with
  | nil =>
    rw [List.splitOn_nil, List.mem_singleton] at h
    subst h
    exact List.not_mem_nil
  | cons x s ih =>
    rw [List.splitOn_cons_eq_if_modifyHead] at h
    by_cases hx : x = 10
    · rw [if_pos (beq_iff_eq.mpr hx)] at h
      rcases List.mem_cons.mp h with rfl | h
      · exact List.not_mem_nil
      · exact ih h
    · rw [if_neg (by simpa using hx)] at h
      obtain ⟨l0, ls, hls⟩ := List.exists_cons_of_ne_nil (List.splitOn_ne_nil 10 s)
      rw [hls] at h ih
      rcases List.mem_cons.mp h with rfl | h
      · intro hmem
        rcases List.mem_cons.mp hmem with heq | hmem
        · exact hx heq.symm
        · exact ih List.mem_cons_self hmem
      · exact ih (List.mem_cons_of_mem _ h)

/-- Lines one after the other, split again. -/
theorem splitOn_flatMap_lines {ls : List (List UInt8)} (h : ∀ l ∈ ls, 10 ∉ l) :
    (ls.flatMap (· ++ [10])).splitOn 10 = ls ++ [[]] := by
  induction ls with
  | nil => rfl
  | cons l ls ih =>
    rw [List.flatMap_cons, List.append_assoc, List.singleton_append,
      List.splitOn_append_cons_self_of_not_mem (h l List.mem_cons_self),
      ih fun l' hl' => h l' (List.mem_cons_of_mem _ hl')]
    rfl

/-- The value of a directive stands in its line. -/
theorem mem_of_readLine (h : readLine line = .directive name value) {x : UInt8} (hx : x ∈ value) :
    x ∈ line := by
  unfold readLine readDirective at h
  split at h
  · cases h
  · split at h
    · simp only at h
      split at h
      · cases h
      · cases h
        have hdrop := (List.dropWhile_suffix _).subset (List.mem_of_mem_tail hx)
        exact (List.dropWhile_suffix _).subset hdrop
    · split at h <;> cases h

/-- **A directive**, with blanks in front of it or not. -/
theorem readLine_directive (blanks : List UInt8) (hblanks : ∀ c ∈ blanks, c = 32 ∨ c = 9)
    (hhead : ∃ c ∈ name.head?, c ≠ 32 ∧ c ≠ 9 ∧ c ≠ 35) (hname : 61 ∉ name)
    (hblock : name ≠ chars "network") (value : List UInt8) :
    readLine (blanks ++ name ++ 61 :: value) = .directive name value := by
  obtain ⟨c, hc, hspace, htab, hhash⟩ := hhead
  obtain ⟨rest, rfl⟩ : ∃ rest, name = c :: rest := by
    cases name with
    | nil => cases hc
    | cons c' rest =>
      cases hc
      exact ⟨rest, rfl⟩
  have hdrop : (blanks ++ (c :: rest) ++ 61 :: value).dropWhile (fun c => c = 32 || c = 9) =
      c :: rest ++ 61 :: value := by
    rw [List.append_assoc, List.dropWhile_append_of_pos]
    · exact List.dropWhile_cons_of_neg (by simp [hspace, htab])
    · intro b hb
      simpa using hblanks b hb
  have hpos : ∀ b ∈ c :: rest, decide (b ≠ 61) = true := by
    intro b hb
    exact decide_eq_true fun heq : b = 61 => hname (heq ▸ hb)
  have htake : (c :: rest ++ 61 :: value).takeWhile (fun c => c ≠ 61) = c :: rest := by
    rw [List.takeWhile_append_of_pos hpos, List.takeWhile_cons_of_neg (by simp), List.append_nil]
  have hvalue : ((c :: rest ++ 61 :: value).dropWhile fun c => c ≠ 61).tail = value := by
    rw [List.dropWhile_append_of_pos hpos, List.dropWhile_cons_of_neg (by simp), List.tail_cons]
  unfold readLine
  rw [hdrop]
  unfold readDirective
  rw [if_neg (by simp [hhash]), if_pos (by simp), htake, hvalue]
  exact if_neg fun h => hblock h.1

/-- No value has a newline. -/
structure OneLine (c : Config) : Prop where
  globals : ∀ d ∈ c.globals, 10 ∉ d.2
  networks : ∀ block ∈ c.networks, ∀ d ∈ block, 10 ∉ d.2
  inside : ∀ block ∈ c.inside, ∀ d ∈ block, 10 ∉ d.2

theorem forall_mem_concat {α : Type} {P : α → Prop} {l : List α} {a : α} (hl : ∀ x ∈ l, P x)
    (ha : P a) : ∀ x ∈ l ++ [a], P x := by
  intro x hx
  rcases List.mem_append.mp hx with hx | hx
  · exact hl x hx
  · rw [List.mem_singleton] at hx
    exact hx ▸ ha

/-- One more line keeps it so. -/
theorem OneLine.read (h : OneLine c) (hline : 10 ∉ line) (hread : c.read line = some c') :
    OneLine c' := by
  unfold Config.read at hread
  have hempty : ∀ block ∈ (some [] : Option Directives), ∀ d ∈ block, (10 : UInt8) ∉ d.2 := by
    intro block hblock d hd
    cases hblock
    exact absurd hd List.not_mem_nil
  split at hread
  · cases hread
    exact h
  · cases hread
    exact ⟨h.globals, h.networks, hempty⟩
  · next block _ hinside =>
    cases hread
    exact ⟨h.globals, forall_mem_concat h.networks (h.inside block hinside), nofun⟩
  · next name value hdir hinside =>
    cases hread
    refine ⟨forall_mem_concat h.globals fun hmem => ?_, h.networks, ?_⟩
    · exact hline (mem_of_readLine hdir hmem)
    · rw [hinside]
      exact nofun
  · next name value block hdir hinside =>
    cases hread
    refine ⟨h.globals, h.networks, fun block' hblock' => ?_⟩
    cases hblock'
    exact forall_mem_concat (h.inside block hinside) fun hmem => hline (mem_of_readLine hdir hmem)
  · cases hread

theorem OneLine.foldlM (lines : List (List UInt8)) :
    ∀ {c : Config}, OneLine c → (∀ l ∈ lines, 10 ∉ l) → lines.foldlM Config.read c = some c' →
      OneLine c' := by
  induction lines with
  | nil =>
    intro c h _ hrun
    cases hrun
    exact h
  | cons l lines ih =>
    intro c h hlines hrun
    obtain ⟨c1, hstep, hrest⟩ := Option.bind_eq_some_iff.mp hrun
    exact ih (h.read (hlines l List.mem_cons_self) hstep)
      (fun l' hl' => hlines l' (List.mem_cons_of_mem _ hl')) hrest

/-- **A value read from a file is on one line.** -/
theorem oneLine_of_readConfig {content : List UInt8} (h : readConfig content = some c) :
    OneLine c := by
  have hempty : OneLine {} :=
    ⟨fun _ hd => absurd hd List.not_mem_nil, fun _ hb => absurd hb List.not_mem_nil, nofun⟩
  exact hempty.foldlM _ (fun _ hl => notMem_of_mem_splitOn hl) h

end lines

/-! ## The file -/

/-- An SSID and a passphrase. -/
structure Credentials where
  ssid : List UInt8
  passphrase : List UInt8
  ssid_ne : ssid ≠ []
  ssid_le : ssid.length ≤ 32
  ssid_nul : 0 ∉ ssid
  passphrase_ge : 8 ≤ passphrase.length
  passphrase_le : passphrase.length ≤ 63
  passphrase_nul : 0 ∉ passphrase

/-- The directives of the template, outside its block. -/
def templateGlobals (ifName : List UInt8) : Directives :=
  [(chars "update_config", chars "1"), (chars "ctrl_interface", chars "/data/" ++ ifName),
    (chars "eapol_version", chars "1"), (chars "fast_reauth", chars "1"),
    (chars "ap_scan", chars "1")]

/-- **The file holds the credentials exactly**: its directives are those of the template, and its
one network block has the SSID and the passphrase. -/
def HoldsExactly (ifName : List UInt8) (k : Credentials) (content : List UInt8) : Prop :=
  ∃ v p, readConfig content = some
      { globals := templateGlobals ifName
        networks := [[(chars "ssid", v), (chars "scan_ssid", chars "1"), (chars "psk", p)]] } ∧
    ssidValue v = some k.ssid ∧ quotedValue p = some k.passphrase

section file

variable {ifName : List UInt8} {k : Credentials} {content : List UInt8}

/-- What is read is on one line. -/
theorem notMem_of_holdsExactly (h : HoldsExactly ifName k content) :
    10 ∉ k.passphrase ∧ 10 ∉ ifName := by
  obtain ⟨v, p, hread, -, hpsk⟩ := h
  have honeLine := oneLine_of_readConfig hread
  constructor
  · intro hmem
    exact honeLine.networks _ List.mem_cons_self (chars "psk", p) (by simp)
      (mem_of_quotedValue hpsk hmem)
  · intro hmem
    exact honeLine.globals (chars "ctrl_interface", chars "/data/" ++ ifName)
      (by simp [templateGlobals]) (List.mem_append_right _ hmem)

/-- The lines of the file for WPA. -/
def wpaLines (ifName text passphrase : List UInt8) : List (List UInt8) :=
  [chars "update_config=1", chars "ctrl_interface=/data/" ++ ifName, chars "eapol_version=1",
    chars "fast_reauth=1", chars "ap_scan=1", chars "network=\x7b", chars "\tssid=" ++ text,
    chars "\tscan_ssid=1", chars "\tpsk=\"" ++ passphrase ++ chars "\"", chars "\x7d"]

theorem content_eq_wpaLines (ifName text passphrase : List UInt8) :
    commset ifName ++ wpaStr text passphrase =
      (wpaLines ifName text passphrase).flatMap (· ++ [10]) := by
  unfold commset wpaStr wpaLines
  simp only [List.flatMap_cons, List.flatMap_nil, List.append_assoc]
  rfl

/-- **The lines are read** as the directives of the template. -/
theorem foldlM_wpaLines (ifName text passphrase : List UInt8) :
    (wpaLines ifName text passphrase ++ [[]]).foldlM Config.read {} = some
      { globals := templateGlobals ifName
        networks := [[(chars "ssid", text), (chars "scan_ssid", chars "1"),
          (chars "psk", 34 :: passphrase ++ [34])]] } := by
  have hdir : ∀ (blanks name value : List UInt8), (∀ c ∈ blanks, c = 32 ∨ c = 9) →
      (∃ c ∈ name.head?, c ≠ 32 ∧ c ≠ 9 ∧ c ≠ 35) → 61 ∉ name → name ≠ chars "network" →
      readLine (blanks ++ name ++ 61 :: value) = .directive name value :=
    fun blanks name value h1 h2 h3 h4 => readLine_directive blanks h1 h2 h3 h4 value
  -- each line of the file, as the supplicant reads it
  have hctrl : readLine (chars "ctrl_interface=/data/" ++ ifName) =
      .directive (chars "ctrl_interface") (chars "/data/" ++ ifName) :=
    hdir [] (chars "ctrl_interface") (chars "/data/" ++ ifName) (fun _ h => nomatch h) (by decide)
      (by decide) (by decide)
  have htab : ∀ c ∈ ([9] : List UInt8), c = 32 ∨ c = 9 :=
    fun c h => Or.inr (List.mem_singleton.mp h)
  have hssid : readLine (chars "\tssid=" ++ text) = .directive (chars "ssid") text :=
    hdir [9] (chars "ssid") text htab (by decide) (by decide) (by decide)
  have hpsk : readLine (chars "\tpsk=\"" ++ passphrase ++ chars "\"") =
      .directive (chars "psk") (34 :: passphrase ++ [34]) := by
    rw [List.append_assoc]
    exact hdir [9] (chars "psk") (34 :: passphrase ++ [34]) htab (by decide) (by decide) (by decide)
  have hupdate : readLine (chars "update_config=1") =
      .directive (chars "update_config") (chars "1") := by decide
  have heapol : readLine (chars "eapol_version=1") =
      .directive (chars "eapol_version") (chars "1") := by decide
  have hreauth : readLine (chars "fast_reauth=1") =
      .directive (chars "fast_reauth") (chars "1") := by decide
  have hap : readLine (chars "ap_scan=1") = .directive (chars "ap_scan") (chars "1") := by decide
  have hnetwork : readLine (chars "network=\x7b") = .head := by decide
  have hscan : readLine (chars "\tscan_ssid=1") =
      .directive (chars "scan_ssid") (chars "1") := by decide
  have hclose : readLine (chars "\x7d") = .close := by decide
  have hblank : readLine [] = .blank := by decide
  unfold wpaLines
  simp only [List.cons_append, List.nil_append, List.foldlM_cons, List.foldlM_nil, Config.read,
    hupdate, hctrl, heapol, hreauth, hap, hnetwork, hssid, hscan, hpsk, hclose, hblank]
  rfl

/-- **The credentials are held** where none of their lines ends early. -/
theorem holdsExactly_of_notMem {text : List UInt8} (htext : 10 ∉ text)
    (hvalue : ssidValue text = some k.ssid) (hpass : 10 ∉ k.passphrase) (hif : 10 ∉ ifName) :
    HoldsExactly ifName k (commset ifName ++ wpaStr text k.passphrase) := by
  refine ⟨text, 34 :: k.passphrase ++ [34], ?_, hvalue, quotedValue_quoted _⟩
  have happend : ∀ {s t : List UInt8}, 10 ∉ s → 10 ∉ t → (10 : UInt8) ∉ s ++ t :=
    fun hs ht h => (List.mem_append.mp h).elim hs ht
  have hlines : ∀ l ∈ wpaLines ifName text k.passphrase, 10 ∉ l := by
    intro l hl
    simp only [wpaLines, List.mem_cons, List.not_mem_nil, or_false] at hl
    rcases hl with rfl | rfl | rfl | rfl | rfl | rfl | rfl | rfl | rfl | rfl
    · decide
    · exact happend (by decide) hif
    · decide
    · decide
    · decide
    · decide
    · exact happend (by decide) htext
    · decide
    · exact happend (happend (by decide) hpass) (by decide)
    · decide
  rw [readConfig, content_eq_wpaLines, splitOn_flatMap_lines hlines]
  exact foldlM_wpaLines ifName text k.passphrase

theorem fit_of_lt {size : Nat} {text : List UInt8} (h : text.length < size) :
    fit size text = some text := if_pos h

/-- `IFNAMSIZ`: the size of `ifName`. -/
def IFNAMSIZ : Nat := 16

/-- **Everything fits its buffer.** -/
theorem storeCfgfile_eq (hif : ifName.length < IFNAMSIZ) (k : Credentials) :
    ∃ text, 10 ∉ text ∧ ssidValue text = some k.ssid ∧
      storeCfgfile true ifName (some k.ssid) k.passphrase .wpa =
        some ⟨0, commset ifName ++ wpaStr text k.passphrase⟩ := by
  obtain ⟨text, htext, hvalue, hline, hlen⟩ := ssidRework_spec k.ssid_ne k.ssid_le
  have hpass := k.passphrase_le
  have hcommset : (commset ifName).length < 2048 := by
    have hlt : ifName.length < 16 := hif
    have h1 : (chars "update_config=1\nctrl_interface=/data/").length = 37 := by decide
    have h2 : (chars "\neapol_version=1\nfast_reauth=1\n").length = 31 := by decide
    rw [commset, List.length_append, List.length_append, h1, h2]
    omega
  have hwpa : (wpaStr text k.passphrase).length < 2048 := by
    have h1 : (chars "ap_scan=1\nnetwork=\x7b\n\tssid=").length = 26 := by decide
    have h2 : (chars "\n\tscan_ssid=1\n\tpsk=\"").length = 20 := by decide
    have h3 : (chars "\"\n\x7d\n").length = 4 := by decide
    simp only [wpaStr, List.length_append, h1, h2, h3]
    omega
  have hnetwork : networkBlock (some k.ssid) k.passphrase .wpa =
      some (some (wpaStr text k.passphrase)) := by
    simp only [networkBlock, fit_of_lt (show k.passphrase.length < 65 by omega), htext,
      fit_of_lt hwpa, Option.bind_eq_bind, Option.bind_some, Option.map_eq_map, Option.map_some]
  refine ⟨text, hline, hvalue, ?_⟩
  simp only [storeCfgfile, if_pos, fit_of_lt hcommset, hnetwork, Option.bind_eq_bind,
    Option.bind_some]

end file

/-- **When the configuration is right**: for all credentials the strings fit their buffers, and the
file holds the credentials exactly if and only if there is no newline in the passphrase, nor in the
name of the interface. -/
theorem storeCfgfile_holdsExactly_iff {ifName : List UInt8} (hif : ifName.length < IFNAMSIZ)
    (k : Credentials) :
    (∃ content, storeCfgfile true ifName (some k.ssid) k.passphrase .wpa = some ⟨0, content⟩ ∧
      HoldsExactly ifName k content) ↔ 10 ∉ k.passphrase ∧ 10 ∉ ifName := by
  constructor
  · rintro ⟨content, -, hholds⟩
    exact notMem_of_holdsExactly hholds
  · rintro ⟨hpass, hline⟩
    obtain ⟨text, htext, hvalue, hstore⟩ := storeCfgfile_eq hif k
    exact ⟨_, hstore, holdsExactly_of_notMem htext hvalue hpass hline⟩

/-- An SSID of three bytes, one of them outside ASCII, and the passphrase given. -/
def someCredentials (passphrase : List UInt8) (hge : 8 ≤ passphrase.length)
    (hle : passphrase.length ≤ 63) (hnul : 0 ∉ passphrase) : Credentials where
  ssid := [65, 200, 34]
  passphrase := passphrase
  ssid_ne := by decide
  ssid_le := by decide
  ssid_nul := by decide
  passphrase_ge := hge
  passphrase_le := hle
  passphrase_nul := hnul

/-- A passphrase with a quote in it. -/
theorem storeCfgfile_holdsExactly_iff_quote :
    let k := someCredentials (chars "pass\"word") (by decide) (by decide) (by decide)
    (∃ content, storeCfgfile true (chars "wlan0") (some k.ssid) k.passphrase .wpa =
      some ⟨0, content⟩ ∧ HoldsExactly (chars "wlan0") k content) ↔
      10 ∉ k.passphrase ∧ 10 ∉ chars "wlan0" :=
  storeCfgfile_holdsExactly_iff (by decide) _

/-- A passphrase with a line of its own. -/
theorem not_storeCfgfile_holdsExactly :
    ¬ ∀ (ifName : List UInt8) (k : Credentials), ifName.length < IFNAMSIZ →
      ∃ content, storeCfgfile true ifName (some k.ssid) k.passphrase .wpa = some ⟨0, content⟩ ∧
        HoldsExactly ifName k content := by
  intro hall
  let k := someCredentials (chars "pass\"\n\tpriority=9") (by decide) (by decide) (by decide)
  obtain ⟨content, -, hholds⟩ := hall (chars "wlan0") k (by decide)
  exact absurd (notMem_of_holdsExactly hholds).1 (by decide)

end SimpleConfig

end Rk3399
