import UploadTemplate.Naming.Interpret
import UploadTemplate.Proofs.Naming.SinglePass
import UploadTemplate.Proofs.Naming.Values

/-!
# The counter of names

A call moves the counter by one if a run of its text has a counter, and leaves it alone otherwise.
Which runs have one can be told from the text as it is written: what is put in before the counters
are replaced neither makes a counter nor breaks one.

- `Session.Moves R x`: how `x` moves the counter, whether it ends well or not.
- `Namer.HasCounter escape t`: some run of `t` has a counter.
- `Namer.moves_expandKeepingEscapes`: a call moves the counter by one at most.
- `Namer.counter_expandKeepingEscapes`: a call that ends well moves it if there is a counter.
-/

namespace UploadTemplate

/-! ### Moves -/

namespace Session

/-- Whatever comes of `x`, the counters before and after it are in the relation `R`. -/
def Moves {ε α : Type} (R : Nat → Nat → Prop) (x : ExceptT ε (StateM Session) α) : Prop :=
  ∀ s : Session, R s.counter (x.run.run s).2.counter

/-- The counter stays where it is. -/
abbrev Keeps {ε α : Type} (x : ExceptT ε (StateM Session) α) : Prop := Moves (fun a b => b = a) x

variable {ε α β : Type} {R Q : Nat → Nat → Prop}

theorem Moves.mono {x : ExceptT ε (StateM Session) α} (h : Moves R x) (hRQ : ∀ a b, R a b → Q a b) :
    Moves Q x :=
  fun s => hRQ _ _ (h s)

theorem keeps_pure (a : α) : Keeps (pure a : ExceptT ε (StateM Session) α) := fun _ => rfl

theorem keeps_throw (e : ε) : Keeps (throw e : ExceptT ε (StateM Session) α) := fun _ => rfl

theorem Moves.bind {x : ExceptT ε (StateM Session) α} {f : α → ExceptT ε (StateM Session) β}
    (htrans : ∀ a b c, R a b → R b c → R a c) (hx : Moves R x) (hf : ∀ a, Moves R (f a)) :
    Moves R (x >>= f) := by
  intro s
  have h := hx s
  rw [Computation.run_bind]
  rcases hrun : x.run.run s with ⟨e | a, between⟩ <;> rw [hrun] at h
  · exact h
  · exact htrans _ _ _ h (hf a between)

theorem Keeps.bind {x : ExceptT ε (StateM Session) α} {f : α → ExceptT ε (StateM Session) β}
    (hx : Keeps x) (hf : ∀ a, Keeps (f a)) : Keeps (x >>= f) :=
  Moves.bind (fun _ _ _ h h' => h'.trans h) hx hf

/-- What keeps the counter may follow any move. -/
theorem Moves.bind_keeps {x : ExceptT ε (StateM Session) α} {f : α → ExceptT ε (StateM Session) β}
    (hx : Moves R x) (hf : ∀ a, Keeps (f a)) : Moves R (x >>= f) := by
  intro s
  have h := hx s
  rw [Computation.run_bind]
  rcases hrun : x.run.run s with ⟨e | a, between⟩ <;> rw [hrun] at h
  · exact h
  · exact (hf a between).symm ▸ h

end Session

open Session

/-! ### Parts -/

namespace Escaped

/-- Whether one of the runs is as `p` says. -/
def anyRun (p : Text → Bool) (parts : List Part) : Bool :=
  parts.any fun
    | .run t => p t
    | .pair _ | .lone => false

theorem anyRun_run (p : Text → Bool) (t : Text) (parts : List Part) :
    anyRun p (.run t :: parts) = (p t || anyRun p parts) := rfl

theorem anyRun_iff {p : Text → Bool} {parts : List Part} :
    anyRun p parts = true ↔ ∃ t, .run t ∈ parts ∧ p t = true := by
  rw [anyRun, List.any_eq_true]
  constructor
  · rintro ⟨t | c | -, hmem, hp⟩
    · exact ⟨t, hmem, hp⟩
    · cases hp
    · cases hp
  · rintro ⟨t, hmem, hp⟩
    exact ⟨.run t, hmem, hp⟩

theorem anyRun_congr {p q : Text → Bool} {parts : List Part}
    (h : ∀ t, .run t ∈ parts → p t = q t) : anyRun p parts = anyRun q parts := by
  rw [Bool.eq_iff_iff, anyRun_iff, anyRun_iff]
  exact exists_congr fun t => and_congr_right fun hmem => by rw [h t hmem]

end Escaped

/-! ### Random texts -/

namespace Naming

theorem keeps_draw {α : Type} (f : Draws → α × Draws) : Keeps (draw f) := fun _ => rfl

theorem keeps_ofDrawing {α : Type} (x : Drawing Error α) : Keeps (ofDrawing x) := fun _ => rfl

theorem keeps_refillM {α : Type} {f : α → Naming Text} (hf : ∀ a, Keeps (f a))
    (parts : List (Text.Fragment α)) : Keeps (Text.refillM f parts) := by
  induction parts with
  | nil => exact keeps_pure []
  | cons part parts ih =>
    cases part with
    | char c => exact ih.bind fun rest => keeps_pure (c :: rest)
    | found a => exact (hf a).bind fun made => ih.bind fun rest => keeps_pure (made ++ rest)

theorem keeps_replaceToken {token : Text} {accepts : Text → Bool} {f : Option Text → Naming Text}
    (hf : ∀ a, Keeps (f a)) (t : Text) : Keeps (replaceToken token accepts f t) :=
  keeps_refillM hf _

end Naming

namespace Namer

open Naming

theorem keeps_expandRandom (t : Text) : Keeps (expandRandom t) := by
  unfold expandRandom
  induction randomTokens generalizing t with
  | nil => exact keeps_pure t
  | cons v tokens ih =>
    rw [List.foldlM_cons]
    exact (keeps_replaceToken (fun _ => keeps_draw _) t).bind ih

theorem keeps_randomLine (n : Namer) (argument : Option Text) : Keeps (n.randomLine argument) := by
  unfold randomLine
  simp only
  split
  · split
    · exact keeps_pure _
    · exact keeps_throw _
  · split
    · exact keeps_pure _
    · exact (keeps_draw _).bind fun _ => keeps_pure _

theorem keeps_expandGuids (t : Text) : Keeps (expandGuids t) := by
  have hguid : Keeps guid := (keeps_draw _).bind fun _ => keeps_pure _
  unfold expandGuids
  exact (keeps_replaceToken (fun _ => hguid.bind fun _ => keeps_pure _) t).bind
    fun t => keeps_replaceToken (fun _ => hguid) t

/-! ### Runs -/

theorem moves_expandCounters (s : Shared) (t : Text) :
    Moves (fun a b => b = if Text.contains "%i" t then s.number else a) (expandCounters s t) := by
  intro session
  unfold expandCounters
  cases Text.contains "%i" t with
  | false => rfl
  | true =>
    simp only [if_true, ExceptT.run_bind, StateT.run_bind]
    cases replaceCounters s.number t <;> rfl

/-- The texts that are put in before the counters are replaced. -/
def firstValues (n : Namer) (s : Shared) : List (Text × Text) :=
  n.windowValues ++ n.imageValues ++ dateValues s

/-- Whether a run has a counter when the counters are replaced. -/
def bearsCounter (n : Namer) (s : Shared) (t : Text) : Bool :=
  Text.contains "%i" (replaceEach (n.firstValues s) t)

theorem moves_expandRun (n : Namer) (s : Shared) (t : Text) :
    Moves (fun a b => b = if n.bearsCounter s t then s.number else a) (n.expandRun s t) := by
  unfold expandRun bearsCounter
  cases t with
  | nil =>
    rw [replaceEach_nil]
    exact keeps_pure []
  | cons c t =>
    refine (moves_expandCounters s _).bind_keeps fun t => ?_
    exact (keeps_expandRandom _).bind fun t =>
      (keeps_replaceToken n.keeps_randomLine t).bind fun t =>
        (keeps_expandGuids t).bind fun t => keeps_pure _

/-! ### Counters in texts -/

theorem letter_prefix_replace_iff {w value : Text} (hv : IsInert value) (t : Text) :
    ['i'] <+: Text.replace ('%' :: w) value t ↔ ['i'] <+: t := by
  cases t with
  | nil => rfl
  | cons c r =>
    by_cases h : '%' :: w <+: c :: r
    · obtain ⟨x, hx⟩ := h
      obtain ⟨-, d, v, rfl, hd⟩ := hv
      rw [← hx, Text.replace_token (List.cons_ne_nil _ _), List.cons_append, List.cons_append,
        List.cons_prefix_cons, List.cons_prefix_cons]
      exact ⟨fun hi => absurd hi.1.symm hd, fun hi => absurd hi.1 (by decide)⟩
    · rw [Text.replace_char h, List.cons_prefix_cons, List.cons_prefix_cons]
      simp

/-- Replacing another token by an inert text neither makes a counter nor breaks one. -/
theorem counter_infix_replace_iff {w value : Text} (hw : IsInert w) (hv : IsInert value)
    (t : Text) : "%i".toList <:+: Text.replace ('%' :: w) value t ↔ "%i".toList <:+: t := by
  have hcounter : "%i".toList = ['%', 'i'] := rfl
  rw [hcounter]
  induction t using Text.replace_induction (List.cons_ne_nil '%' w) with
  | hnil => rfl
  | hchar c r h ih =>
    replace ih : ['%', 'i'] <:+: Text.replace ('%' :: w) value r ↔ ['%', 'i'] <:+: r := ih
    rw [Text.replace_char h, List.infix_cons_iff, List.infix_cons_iff, ih, List.cons_prefix_cons,
      List.cons_prefix_cons, letter_prefix_replace_iff hv]
  | htoken r ih =>
    replace ih : ['%', 'i'] <:+: Text.replace ('%' :: w) value r ↔ ['%', 'i'] <:+: r := ih
    rw [Text.replace_token (List.cons_ne_nil _ _), Text.infix_append_iff hv.1, ih,
      List.cons_append, List.infix_cons_iff, Text.infix_append_iff hw.1, List.cons_prefix_cons]
    obtain ⟨-, c, v, rfl, hc⟩ := hw
    rw [List.cons_append, List.cons_prefix_cons]
    exact ⟨.inr, fun h => h.resolve_left fun hp => hc hp.2.1.symm⟩

theorem counter_infix_replaceEach_iff {values : List (Text × Text)}
    (h : ∀ v ∈ values, (∃ w, v.1 = '%' :: w ∧ IsInert w) ∧ IsInert v.2) (t : Text) :
    "%i".toList <:+: replaceEach values t ↔ "%i".toList <:+: t := by
  unfold replaceEach
  induction values generalizing t with
  | nil => rfl
  | cons v values ih =>
    obtain ⟨⟨w, hv, hw⟩, hvalue⟩ := h v List.mem_cons_self
    rw [List.foldl_cons, ih fun u hu => h u (List.mem_cons_of_mem v hu), hv,
      counter_infix_replace_iff hw hvalue]

/-- Without a window, and with no size of an image in the text, what is put in before the counters
are replaced neither makes a counter nor breaks one. -/
theorem counter_infix_firstValues_iff {n : Namer} (ht : n.title = none) (hp : n.process = none)
    (pattern : Text) (counter : Nat) {t : Text} (hsize : ∀ token ∈ sizeTokens, ¬ token <:+: t) :
    "%i".toList <:+: replaceEach (n.firstValues (n.shared pattern counter)) t ↔
      "%i".toList <:+: t := by
  have hwindow : n.windowValues = [] := by simp [windowValues, ht, hp]
  have himage : replaceEach n.imageValues t = t :=
    replaceEach_of_absent fun v hv => hsize v.1 (List.mem_map_of_mem hv)
  have hdate : ∀ v ∈ dateValues (n.shared pattern counter),
      (∃ w, v.1 = '%' :: w ∧ IsInert w) ∧ IsInert v.2 := by
    intro v hv
    have htokens : ∀ token ∈ dateTokens, token.head? = some '%' ∧ IsInert token.tail := by decide
    obtain ⟨hhead, htail⟩ := htokens v.1 (List.mem_map_of_mem hv)
    obtain ⟨w, hw⟩ := List.head?_eq_some_iff.1 hhead
    rw [hw] at htail
    exact ⟨⟨w, hw, htail⟩, n.dateValues_isInert pattern counter v hv⟩
  have hsplit (first last : List (Text × Text)) (u : Text) :
      replaceEach (first ++ last) u = replaceEach last (replaceEach first u) := by
    simp [replaceEach]
  rw [firstValues, hwindow, List.nil_append, hsplit, himage, counter_infix_replaceEach_iff hdate]

/-- Whether some run of the text has a counter. -/
def hasCounter (escape : Char) (t : Text) : Bool :=
  Escaped.anyRun (Text.contains "%i") (Escaped.cut escape t)

theorem hasCounter_iff {escape : Char} {t : Text} :
    hasCounter escape t = true ↔ ∃ run, .run run ∈ Escaped.cut escape t ∧ "%i".toList <:+: run := by
  simp only [hasCounter, Escaped.anyRun_iff, Text.contains_iff]

/-! ### Calls -/

/-- The counter stays, or goes to the number of the call. -/
theorem moves_mapParts (n : Namer) (s : Shared) (escape : Char) (parts : List Escaped.Part) :
    Moves (fun a b => b = a ∨ b = s.number) (Escaped.mapParts escape (n.expandRun s) parts) := by
  have htrans : ∀ a b c, (b = a ∨ b = s.number) → (c = b ∨ c = s.number) →
      c = a ∨ c = s.number := by
    intro a b c h1 h2
    rcases h2 with rfl | h2
    · exact h1
    · exact .inr h2
  induction parts with
  | nil => exact (keeps_pure []).mono fun _ _ => .inl
  | cons part parts ih =>
    cases part with
    | run t =>
      refine Moves.bind htrans ((n.moves_expandRun s t).mono fun a b h => ?_) fun made =>
        ih.bind_keeps fun rest => keeps_pure (made ++ rest)
      rw [h]
      split
      · exact .inr rfl
      · exact .inl rfl
    | pair c => exact ih.bind_keeps fun rest => keeps_pure (escape :: c :: rest)
    | lone => exact ih.bind_keeps fun rest => keeps_pure (escape :: rest)

theorem run_expandKeepingEscapes (n : Namer) (escape : Char) (pattern : Text) (s : Session) :
    (n.expandKeepingEscapes escape pattern).run.run s =
      (Escaped.mapRuns escape (n.expandRun (n.shared pattern s.counter)) pattern).run.run s := by
  unfold expandKeepingEscapes
  rw [ExceptT.run_bind, StateT.run_bind]
  rfl

theorem moves_expandKeepingEscapes (n : Namer) (escape : Char) (pattern : Text) :
    Moves (fun a b => b = a ∨ b = a + 1) (n.expandKeepingEscapes escape pattern) := by
  intro s
  rw [run_expandKeepingEscapes]
  exact n.moves_mapParts (n.shared pattern s.counter) escape _ s

theorem moves_expand (n : Namer) (pattern : Text) :
    Moves (fun a b => b = a ∨ b = a + 1) (n.expand pattern) := by
  intro s
  have hrun : (n.expand pattern).run.run s =
      (n.expandRun (n.shared pattern s.counter) pattern).run.run s := by
    unfold expand
    rw [ExceptT.run_bind, StateT.run_bind]
    rfl
  rw [hrun, n.moves_expandRun (n.shared pattern s.counter) pattern s]
  split
  · exact .inr rfl
  · exact .inl rfl

/-- Runs that have come to their end have moved the counter if one of them has a counter. -/
theorem counter_mapParts {n : Namer} {s : Shared} {escape : Char} {parts : List Escaped.Part}
    {before after : Session} {made : Text}
    (h : (Escaped.mapParts escape (n.expandRun s) parts).run.run before = (.ok made, after)) :
    after.counter = if Escaped.anyRun (n.bearsCounter s) parts then s.number
      else before.counter := by
  induction parts generalizing before made with
  | nil =>
    cases h
    rfl
  | cons part parts ih =>
    cases part with
    | run t =>
      obtain ⟨first, between, hfirst, h⟩ := Computation.run_of_bind h
      obtain ⟨rest, after', hrest, h⟩ := Computation.run_of_bind h
      cases h
      have hmove := n.moves_expandRun s t before
      rw [hfirst] at hmove
      rw [ih hrest, hmove, Escaped.anyRun_run]
      cases n.bearsCounter s t <;> simp
    | pair c =>
      obtain ⟨rest, after', hrest, h⟩ := Computation.run_of_bind h
      cases h
      exact ih hrest
    | lone =>
      obtain ⟨rest, after', hrest, h⟩ := Computation.run_of_bind h
      cases h
      exact ih hrest

/-- Without a window, and with no size of an image in the text, a call that comes to its end has
moved the counter by one if some run of the text has a counter. -/
theorem counter_expandKeepingEscapes {n : Namer} (ht : n.title = none) (hp : n.process = none)
    {escape : Char} {t made : Text} (hsize : ∀ token ∈ sizeTokens, ¬ token <:+: t)
    {before after : Session}
    (h : (n.expandKeepingEscapes escape t).run.run before = (.ok made, after)) :
    after.counter = before.counter + if hasCounter escape t then 1 else 0 := by
  rw [run_expandKeepingEscapes] at h
  have hcongr : Escaped.anyRun (n.bearsCounter (n.shared t before.counter))
      (Escaped.cut escape t) = hasCounter escape t := by
    refine Escaped.anyRun_congr fun u hu => ?_
    rw [bearsCounter, Bool.eq_iff_iff, Text.contains_iff, Text.contains_iff]
    exact counter_infix_firstValues_iff ht hp t before.counter fun token htoken hi =>
      hsize token htoken (hi.trans (Escaped.infix_of_run hu))
  rw [counter_mapParts h, hcongr]
  cases hasCounter escape t <;> rfl

end Namer

theorem Interpreter.counter_interpretNamed {i : Interpreter} {n : Namer} (ht : n.title = none)
    (hp : n.process = none) {t made : Text} (hsize : ∀ token ∈ Namer.sizeTokens, ¬ token <:+: t)
    {before after : Session} (h : (i.interpretNamed n t).run.run before = (.ok made, after)) :
    after.counter = before.counter + if Namer.hasCounter i.marks.escape t then 1 else 0 := by
  unfold interpretNamed at h
  cases t with
  | nil =>
    cases h
    rfl
  | cons c t =>
    obtain ⟨expanded, between, hexpand, h⟩ := Computation.run_of_bind h
    have hkeeps := Naming.keeps_ofDrawing (i.interpret expanded) between
    rw [h] at hkeeps
    rw [hkeeps, Namer.counter_expandKeepingEscapes ht hp hsize hexpand]

theorem Interpreter.moves_interpretNamed (i : Interpreter) (n : Namer) (t : Text) :
    Moves (fun a b => b = a ∨ b = a + 1) (i.interpretNamed n t) := by
  unfold interpretNamed
  cases t with
  | nil => exact (keeps_pure []).mono fun _ _ => .inl
  | cons c t =>
    exact (n.moves_expandKeepingEscapes i.marks.escape (c :: t)).bind_keeps fun expanded =>
      Naming.keeps_ofDrawing (i.interpret expanded)

end UploadTemplate
