import Rk3399.Modeset.Model.UEvents
/-!
# Which events change the display

An event is strings, each with a NUL behind it. It announces a change of the display
where it begins with `change@` and has both `DEVTYPE=drm_minor` and `HOTPLUG=1`. The
comparisons of the scan are the wrong way round, so what it finds is another
kind of event: one that begins with `change@` and has `DEVTYPE=drm_minor`.
-/

namespace Rk3399

namespace Modeset

open Prog

/-! ## What is asked for -/

namespace UEvent

variable (e : UEvent)

/-- The strings of an event: its bytes split at the NULs. -/
def strings : List (List UInt8) := e.bytes.splitOn 0

/-- The event announces a change of the display. -/
def IsHotplug : Prop :=
  chars "change@" <+: e.bytes ∧ chars "DEVTYPE=drm_minor" ∈ e.strings ∧
    chars "HOTPLUG=1" ∈ e.strings

/-- The event ends in a NUL, and has `HOTPLUG=1` where it begins with `change@` and has
`DEVTYPE=drm_minor`. -/
def Expected : Prop :=
  e.bytes.getLast e.nonempty = 0 ∧
    (chars "change@" <+: e.bytes → chars "DEVTYPE=drm_minor" ∈ e.strings →
      chars "HOTPLUG=1" ∈ e.strings)

instance : Decidable e.IsHotplug := inferInstanceAs (Decidable (_ ∧ _))

instance : Decidable e.Expected := inferInstanceAs (Decidable (_ ∧ _))

end UEvent

/-- **An event is handled exactly**: `updateModes` is called just where the event is a
hotplug one, and no byte behind the event is looked at. -/
def HandledExactly (e : UEvent) (o : Handled) : Prop :=
  ∃ called s, o = .next called s ∧ (called = true ↔ e.IsHotplug) ∧ s.seen ≤ e.bytes.length

/-! ## A string -/

section

variable {buffer done first str tail rest rest' : List UInt8} {ret : Nat} {s : Scan}

theorem look_eq {α : Type} {f : List UInt8 → Scanned α} {pos k : Nat} {a : α}
    (h : f (buffer.drop pos) = some (a, k)) :
    look buffer f pos s = .next a (s.look (pos + k)) := by
  unfold look
  rw [h]

/-- What follows `done` in a buffer. -/
theorem drop_done (h : buffer = done ++ rest) : buffer.drop done.length = rest := by
  rw [h, List.drop_left]

/-- The conditions on a string: each flag is raised by a string that is *not* the one
compared with. -/
theorem wp_testEvent (hbuffer : buffer = done ++ (str ++ 0 :: rest))
    (hfirst : buffer = first ++ 0 :: rest') (hstr : 0 ∉ str) (hf : 0 ∉ first)
    (hret : done.length + str.length + 1 ≤ ret) (hret' : first.length + 1 ≤ ret)
    (hseen : s.seen ≤ ret) :
    wp (testEvent buffer done.length)
      (fun _ t =>
        t.drmEvent = (s.drmEvent || decide (str ≠ chars "DEVTYPE=drm_minor")) ∧
        t.hotplugEvent = (s.hotplugEvent ||
          decide (str = chars "DEVTYPE=drm_minor" ∧ chars "change@" <+: first)) ∧
        t.seen ≤ ret)
      (fun _ _ => False) (fun _ _ => False) s := by
  have hdrop := drop_done hbuffer
  have hdrop' : buffer.drop 0 = first ++ 0 :: rest' := hfirst
  obtain ⟨d, k, hd, hd0, hk⟩ := strcmp_append rest hstr
    (show 0 ∉ chars "DEVTYPE=drm_minor" by decide)
  rw [← hdrop] at hd
  unfold testEvent
  rw [wp_bind, wp_of_next (look_eq hd), wp_ite]
  by_cases hdev : str = chars "DEVTYPE=drm_minor"
  · -- the string is `DEVTYPE=drm_minor`, so it is not `HOTPLUG=1`
    rw [if_neg (not_not_intro (hd0.2 hdev))]
    obtain ⟨d', k', hd', hd0', hk'⟩ := strcmp_append rest hstr
      (show 0 ∉ chars "HOTPLUG=1" by decide)
    rw [← hdrop] at hd'
    have hhot : d' ≠ 0 := fun h => absurd (hdev.symm.trans (hd0'.1 h)) (by decide)
    rw [wp_bind, wp_of_next (look_eq hd'), wp_ite, if_pos hhot]
    obtain ⟨d'', k'', hd'', hd0'', hk''⟩ := strncmp_append rest' hf
      (show 0 ∉ chars "change@" by decide)
    rw [← hdrop'] at hd''
    have hlen := strlen_append rest' hf
    rw [← hdrop'] at hlen
    rw [wp_bind, wp_of_next (look_eq hd''), wp_bind, wp_modify, wp_bind,
      wp_of_next (look_eq hlen), wp_pure]
    by_cases hchange : chars "change@" <+: first
    · rw [if_pos (hd0''.2 hchange)]
      refine ⟨?_, ?_, ?_⟩
      · simp [Scan.look, hdev]
      · simp [Scan.look, hdev, hchange]
      · show max (max (max (max s.seen _) _) _) _ ≤ ret
        omega
    · rw [if_neg fun h => hchange (hd0''.1 h)]
      refine ⟨?_, ?_, ?_⟩
      · simp [Scan.look, hdev]
      · simp [Scan.look, hchange]
      · show max (max (max (max s.seen _) _) _) _ ≤ ret
        omega
  · rw [if_pos fun h => hdev (hd0.1 h), wp_modify]
    refine ⟨?_, ?_, ?_⟩
    · simp [hdev]
    · simp [Scan.look, hdev]
    · show max s.seen _ ≤ ret
      omega

/-- What the scan has found behind the strings `strs` of an event whose first string is
`first`. -/
structure Found (first : List UInt8) (ret : Nat) (strs : List (List UInt8)) (s : Scan) :
    Prop where
  i_eq : s.i = (stringsOf strs).length
  drm_iff : s.drmEvent = true ↔ ∃ str ∈ strs, str ≠ chars "DEVTYPE=drm_minor"
  hotplug_iff : s.hotplugEvent = true ↔
    chars "DEVTYPE=drm_minor" ∈ strs ∧ chars "change@" <+: first
  seen_le : s.seen ≤ ret

theorem found_nil : Found first ret [] {} where
  i_eq := rfl
  drm_iff := by simp
  hotplug_iff := by simp
  seen_le := Nat.zero_le _

variable {strs todo : List (List UInt8)}

/-- **One round passes one string.** -/
theorem scanRound_string (rest : List UInt8)
    (hbuffer : buffer = stringsOf strs ++ (str ++ 0 :: rest))
    (hfirst : buffer = first ++ 0 :: rest') (hstr : 0 ∉ str) (hf : 0 ∉ first)
    (hret : (stringsOf strs).length + str.length + 1 ≤ ret) (hret' : first.length + 1 ≤ ret)
    (hs : Found first ret strs s) :
    ∃ t, scanRound buffer ret s = .next true t ∧ Found first ret (strs ++ [str]) t := by
  have hlen := strlen_append rest hstr
  rw [← drop_done hbuffer] at hlen
  have hi : s.i < ret := by
    rw [hs.i_eq]
    omega
  -- the four comparisons of a round stay inside what was received
  have htest := wp_testEvent hbuffer hfirst hstr hf hret hret' hs.seen_le
  rw [← hs.i_eq] at htest hlen
  cases hend : testEvent buffer s.i s with
  | exit r _ => exact r.elim
  | fault e t => exact (wp_fault_of htest hend).elim
  | next _ t =>
    obtain ⟨hdrm, hhot, hseen⟩ := wp_next htest hend
    refine ⟨{ t.look (s.i + (str.length + 1)) with i := s.i + (str.length + 1) }, ?_, ?_⟩
    · unfold scanRound
      rw [bind_next (show gets _ s = _ from rfl), if_pos hi, bind_next hend,
        bind_next (look_eq hlen), bind_next (show modify _ _ = _ from rfl)]
      rfl
    · refine ⟨?_, ?_, ?_, ?_⟩
      · show s.i + (str.length + 1) = _
        rw [hs.i_eq, stringsOf, stringsOf, List.flatMap_append, List.length_append]
        simp
      · show t.drmEvent = true ↔ _
        rw [hdrm, Bool.or_eq_true, hs.drm_iff, decide_eq_true_iff]
        simp [or_and_right, exists_or]
      · show t.hotplugEvent = true ↔ _
        rw [hhot, Bool.or_eq_true, hs.hotplug_iff, decide_eq_true_iff, ← or_and_right,
          List.mem_append, List.mem_singleton, eq_comm (a := str)]
      · show max t.seen (s.i + (str.length + 1)) ≤ ret
        rw [hs.i_eq]
        omega

/-- **The loop passes the strings of an event**, one round for each. -/
theorem loop_strings (hfirst : buffer = first ++ 0 :: rest') (hf : 0 ∉ first)
    (hret' : first.length + 1 ≤ ret) (n : Nat) (todo : List (List UInt8)) :
    ∀ {strs : List (List UInt8)} {s : Scan},
      buffer = stringsOf (strs ++ todo) ++ rest → (∀ str ∈ todo, 0 ∉ str) →
      (stringsOf (strs ++ todo)).length ≤ ret → Found first ret strs s →
      ∃ t, Found first ret (strs ++ todo) t ∧
        loop .rounds (scanRound buffer ret) (todo.length + n) s =
          (loop .rounds (scanRound buffer ret) n t : Outcome EventFault Empty Scan Unit) := by
  induction todo with
  | nil =>
    intro strs s _ _ _ hs
    rw [List.append_nil, List.length_nil, Nat.zero_add]
    exact ⟨s, hs, rfl⟩
  | cons str todo ih =>
    intro strs s hbuffer htodo hret hs
    have hsplit : stringsOf (strs ++ str :: todo) =
        stringsOf strs ++ (str ++ 0 :: stringsOf todo) := by
      rw [← stringsOf_cons, stringsOf, stringsOf, stringsOf, List.flatMap_append]
    have hnext : strs ++ str :: todo = strs ++ [str] ++ todo := by simp
    obtain ⟨t, hround, ht⟩ := scanRound_string (stringsOf todo ++ rest)
      (by rw [hbuffer, hsplit]; simp) hfirst (htodo str List.mem_cons_self) hf
      (by rw [hsplit] at hret; simp at hret; omega) hret' hs
    obtain ⟨t', ht', hloop⟩ := ih (hnext ▸ hbuffer)
      (fun s' hs' => htodo s' (List.mem_cons_of_mem _ hs')) (hnext ▸ hret) ht
    refine ⟨t', hnext ▸ ht', ?_⟩
    rw [List.length_cons, Nat.add_right_comm, loop_succ, hround]
    exact hloop

/-- Behind the last string of an event that ends in one, the loop is left. -/
theorem scanRound_end (buffer : List UInt8) (hs : s.i = ret) :
    scanRound buffer ret s = .next false s := by
  unfold scanRound
  rw [bind_next (show gets _ s = _ from rfl), if_neg (by omega)]
  rfl

/-- **A rest without a NUL** is looked at to its end and beyond. -/
theorem wp_scanRound_tail (hbuffer : buffer = done ++ (tail ++ rest)) (htail : 0 ∉ tail)
    (hne : tail ≠ []) (hi : s.i = done.length) (hret : ret = done.length + tail.length) :
    wp (scanRound buffer ret) (fun go t => go = true ∧ ret ≤ t.i ∧ ret < t.seen)
      (fun _ _ => True) (fun _ _ => True) s := by
  have hpos := List.length_pos_iff.2 hne
  unfold scanRound
  rw [wp_bind, wp_gets, wp_ite, if_pos (by omega)]
  refine wp_seq (M := fun _ _ => True) ?_ fun _ t _ => ?_
  · rw [wp_def]
    exact ⟨fun _ _ _ => trivial, fun _ _ _ => trivial, fun _ _ _ => trivial⟩
  · rw [wp_bind]
    cases hlen : strlen (buffer.drop s.i) with
    | none =>
      unfold wp look
      rw [hlen]
      trivial
    | some r =>
      obtain ⟨n, k⟩ := r
      rw [wp_of_next (look_eq hlen)]
      rw [hi, drop_done hbuffer] at hlen
      obtain ⟨hle, hlt⟩ := le_of_strlen htail hlen
      refine ⟨rfl, ?_, ?_⟩
      · show ret ≤ s.i + (n + 1)
        omega
      · show ret < max t.seen (s.i + k)
        omega

/-- Once a byte behind the event was looked at, it was. -/
theorem wp_loop_tail (n : Nat) (hi : ret ≤ s.i) (hseen : ret < s.seen) :
    wp (loop .rounds (scanRound buffer ret) n : Scanning Unit) (fun _ t => ret < t.seen)
      (fun _ _ => True) (fun _ _ => True) s := by
  refine wp_loop (I := fun t => ret ≤ t.i ∧ ret < t.seen) (fun t ht => ?_) (fun _ _ => trivial) n s
    ⟨hi, hseen⟩
  unfold scanRound
  rw [wp_bind, wp_gets, wp_ite, if_neg (by omega), wp_pure, if_neg (by decide)]
  exact ht.2

end

/-! ## An event -/

section

variable {e : UEvent} {strs : List (List UInt8)} {tail : List UInt8}

/-- The strings of an event that ends in a NUL, and an empty one. -/
theorem strings_eq (hbytes : e.bytes = stringsOf strs) (hstrs : ∀ s ∈ strs, 0 ∉ s) :
    e.strings = strs ++ [[]] := by
  have := splitOn_stringsOf hstrs (List.not_mem_nil (a := 0))
  rw [List.append_nil] at this
  rw [UEvent.strings, hbytes, this]

/-- The loop passes the strings of an event; rounds are left behind them. -/
theorem loop_event (b : Buffer) (hbytes : e.bytes = stringsOf strs ++ tail)
    (hstrs : ∀ s ∈ strs, 0 ∉ s) :
    ∃ t n, Found (strs.headD []) e.bytes.length strs t ∧
      loop .rounds (scanRound (b.receive e).bytes e.bytes.length) (e.bytes.length + 1) {} =
        (loop .rounds (scanRound (b.receive e).bytes e.bytes.length) (n + 1) t :
          Outcome EventFault Empty Scan Unit) := by
  cases strs with
  | nil => exact ⟨{}, e.bytes.length, found_nil, rfl⟩
  | cons first strs =>
    have hcons := stringsOf_cons first strs
    have hle := length_le_stringsOf (first :: strs)
    have hlen : e.bytes.length = (stringsOf (first :: strs)).length + tail.length := by
      rw [hbytes, List.length_append]
    have hbuffer : (b.receive e).bytes =
        stringsOf ([] ++ first :: strs) ++ (tail ++ b.bytes.drop e.bytes.length) := by
      rw [List.nil_append, ← List.append_assoc, ← hbytes]
      rfl
    have hfirst : (b.receive e).bytes =
        first ++ 0 :: (stringsOf strs ++ (tail ++ b.bytes.drop e.bytes.length)) := by
      rw [hbuffer, List.nil_append, hcons, List.append_assoc, List.cons_append]
    have hret : first.length + 1 ≤ e.bytes.length := by
      rw [hlen, hcons, List.length_append, List.length_cons]
      omega
    obtain ⟨t, ht, hloop⟩ := loop_strings hfirst (hstrs first List.mem_cons_self) hret
      (e.bytes.length - (first :: strs).length + 1) (first :: strs) hbuffer hstrs
      (by rw [List.nil_append]; omega) found_nil
    rw [show (first :: strs).length + (e.bytes.length - (first :: strs).length + 1) =
      e.bytes.length + 1 by omega] at hloop
    exact ⟨t, _, ht, hloop⟩

/-- **The scan of an event that ends in a NUL** calls `updateModes` where the event begins
with `change@` and has `DEVTYPE=drm_minor`. -/
theorem scanEvent_strings (b : Buffer) (hbytes : e.bytes = stringsOf strs)
    (hstrs : ∀ s ∈ strs, 0 ∉ s) :
    ∃ called s, scanEvent (b.receive e).bytes e.bytes.length {} = .next called s ∧
      (called = true ↔ chars "change@" <+: e.bytes ∧ chars "DEVTYPE=drm_minor" ∈ e.strings) ∧
      s.seen ≤ e.bytes.length := by
  obtain ⟨t, n, ht, hloop⟩ := loop_event b (hbytes.trans (List.append_nil _).symm) hstrs
  have hend := scanRound_end (b.receive e).bytes
    (ht.i_eq.trans (congrArg List.length hbytes.symm))
  rw [loop_succ n t, hend] at hloop
  refine ⟨t.drmEvent && t.hotplugEvent, t, ?_, ?_, ht.seen_le⟩
  · unfold scanEvent
    rw [bind_next hloop]
    rfl
  · rw [Bool.and_eq_true, ht.drm_iff, ht.hotplug_iff, strings_eq hbytes hstrs]
    cases strs with
    | nil => exact absurd hbytes e.nonempty
    | cons first strs =>
      rw [hbytes, stringsOf_cons, prefix_string_iff (by decide)]
      constructor
      · rintro ⟨-, hdev, hchange⟩
        exact ⟨hchange, List.mem_append_left _ hdev⟩
      · rintro ⟨hchange, hdev⟩
        -- the first string begins with `change@`, so it is another one
        refine ⟨⟨first, List.mem_cons_self, ?_⟩, ?_, hchange⟩
        · rintro rfl
          exact absurd hchange (by decide)
        · exact (List.mem_append.1 hdev).resolve_right (by decide)

/-- An event that does not end in a NUL is looked at behind its end. -/
theorem wp_scanEvent_tail (b : Buffer) (hbytes : e.bytes = stringsOf strs ++ tail)
    (hstrs : ∀ s ∈ strs, 0 ∉ s) (htail : 0 ∉ tail) (hne : tail ≠ []) :
    wp (scanEvent (b.receive e).bytes e.bytes.length) (fun _ s => e.bytes.length < s.seen)
      (fun _ _ => True) (fun _ _ => True) {} := by
  obtain ⟨t, n, ht, hloop⟩ := loop_event b hbytes hstrs
  have hbuffer : (b.receive e).bytes =
      stringsOf strs ++ (tail ++ b.bytes.drop e.bytes.length) := by
    rw [← List.append_assoc, ← hbytes]
    rfl
  have hround := wp_scanRound_tail hbuffer htail hne ht.i_eq
    (show e.bytes.length = _ by rw [hbytes, List.length_append])
  unfold scanEvent
  rw [wp_bind, wp_congr hloop, wp_loop_succ]
  refine wp_mono hround ?_ (fun _ _ _ => trivial) (fun _ _ _ => trivial)
  rintro go t' ⟨rfl, hi, hseen⟩
  rw [if_pos rfl]
  exact wp_loop_tail n hi hseen

/-- **An event is handled exactly where it ends in a NUL** and, where it begins with
`change@` and has `DEVTYPE=drm_minor`, has `HOTPLUG=1` too. -/
theorem handledExactly_scanEvent_iff (b : Buffer) (e : UEvent) :
    HandledExactly e (scanEvent (b.receive e).bytes e.bytes.length {}) ↔ e.Expected := by
  obtain ⟨strs, tail, hbytes, hstrs, htail⟩ := exists_stringsOf e.bytes
  have hlast : e.bytes.getLast e.nonempty = 0 ↔ tail = [] := by
    have hne : stringsOf strs ++ tail ≠ [] := hbytes ▸ e.nonempty
    rw [← getLast_stringsOf htail hne]
    simp only [hbytes]
  unfold UEvent.Expected
  rw [hlast]
  by_cases htail' : tail = []
  · rw [htail', List.append_nil] at hbytes
    obtain ⟨called, s, hend, hcalled, hseen⟩ := scanEvent_strings b hbytes hstrs
    rw [hend]
    constructor
    · rintro ⟨_, _, heq, hiff, -⟩
      cases heq
      exact ⟨htail', fun hchange hdev => (hiff.1 (hcalled.2 ⟨hchange, hdev⟩)).2.2⟩
    · rintro ⟨-, hhot⟩
      refine ⟨called, s, rfl, hcalled.trans ⟨?_, ?_⟩, hseen⟩
      · exact fun ⟨hchange, hdev⟩ => ⟨hchange, hdev, hhot hchange hdev⟩
      · exact fun ⟨hchange, hdev, _⟩ => ⟨hchange, hdev⟩
  · have hwp := wp_scanEvent_tail b hbytes hstrs htail htail'
    constructor
    · rintro ⟨_, s, heq, -, hseen⟩
      exact absurd (wp_next hwp heq) (by omega)
    · exact fun h => absurd h.1 htail'

end

/-! ## The handler -/

/-- The events a run of the handler reads: those up to where `read` fails. -/
def eventsOf : List ReadRet → List UEvent
  | .event e :: rets => e :: eventsOf rets
  | .closed :: _ => []
  | .error :: _ => []
  | [] => []

/-- **The handler is exact on a run just where every event it reads** ends in a NUL and has
`HOTPLUG=1` where it begins with `change@` and has `DEVTYPE=drm_minor`. -/
theorem handlesExactly_iff (rets : List ReadRet) (b : Buffer) :
    (∀ h ∈ uEventHandler b rets, HandledExactly h.1 h.2) ↔ ∀ e ∈ eventsOf rets, e.Expected := by
  induction rets generalizing b with
  | nil => simp [uEventHandler, eventsOf]
  | cons r rets ih =>
    cases r with
    | closed => simp [uEventHandler, eventsOf]
    | error => simp [uEventHandler, eventsOf]
    | event e =>
      have hiff := handledExactly_scanEvent_iff b e
      rw [eventsOf, List.forall_mem_cons, ← hiff, uEventHandler, List.forall_mem_cons]
      refine and_congr_right fun hexact => ?_
      obtain ⟨called, s, hend, -⟩ := hexact
      change scanEvent (b.receive e).bytes e.bytes.length {} = _ at hend
      rw [hend]
      exact ih _

/-- A change of a DRM device that is no hotplug. -/
def drmChange : UEvent where
  bytes := stringsOf [chars "change@/card0", chars "DEVTYPE=drm_minor"]
  nonempty := by decide
  length_le := by decide

/-- **A change without `HOTPLUG=1`** calls `updateModes`. -/
theorem handles_not_exactly :
    ¬ ∀ b rets, ∀ h ∈ uEventHandler b rets, HandledExactly h.1 h.2 := by
  intro hall
  let b : Buffer := ⟨List.replicate 1024 0, List.length_replicate⟩
  have hexact := hall b [.event drmChange] (drmChange, _) List.mem_cons_self
  exact absurd ((handledExactly_scanEvent_iff b drmChange).1 hexact) (by decide)

end Modeset

end Rk3399
