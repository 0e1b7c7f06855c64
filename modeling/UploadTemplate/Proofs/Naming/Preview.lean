import UploadTemplate.Proofs.Naming.Counter

/-!
# Previews of names

A preview shows the error of a text file in the place of its line. The other error that a name can
have, a base in which no counter can be written, ends a preview as it ends any name.

- `Namer.refusedBase?`: the base in which a pattern asks for a counter in vain.
- `Namer.expand_preview`: a preview fails just if there is one.
-/

open UploadTemplate.Computation

namespace UploadTemplate

namespace Naming

theorem succeeds_draw {α : Type} (f : Draws → α × Draws) : Succeeds (draw f) :=
  fun s => ⟨(f s.draws).1, _, rfl⟩

theorem succeeds_replaceToken {token : Text} {accepts : Text → Bool}
    {f : Option Text → Naming Text} (hf : ∀ a, Succeeds (f a)) (t : Text) :
    Succeeds (replaceToken token accepts f t) := by
  unfold replaceToken
  induction Text.cut (tokenWith token accepts) t with
  | nil => exact succeeds_pure []
  | cons part parts ih =>
    cases part with
    | char c => exact ih.bind fun rest => succeeds_pure (c :: rest)
    | found a => exact (hf a).bind fun made => ih.bind fun rest => succeeds_pure (made ++ rest)

/-! ### Bases -/

/-- The base that the argument of a counter asks for. -/
def baseOf (argument : Option Text) : Nat := ((argument.map numbersOf).getD []).getD 0 10

/-- Digits and letters are the digits of the bases from 2 to 62. -/
def refusesBase (argument : Option Text) : Bool :=
  decide (baseOf argument < 2 ∨ 62 < baseOf argument)

/-- The first base that the occurrences of a token ask for in vain. -/
def firstRefused? (token t : Text) : Option Nat :=
  ((Text.found (Text.cut (tokenWith token isNumberList) t)).find? refusesBase).map baseOf

end Naming

namespace Namer

open Naming

section Based

variable (number : Nat) {alphabet token t : Text} (hl : alphabet.length = 62)
include hl

theorem exists_inBase {argument : Option Text} (h : refusesBase argument = false) :
    ∃ u, inBase number alphabet ((argument.map numbersOf).getD []) = .ok u := by
  have h : ¬ (baseOf argument < 2 ∨ 62 < baseOf argument) := of_decide_eq_false h
  unfold baseOf at h
  exact ⟨_, inBase_eq_ok_iff.2 ⟨by omega, rfl⟩⟩

theorem inBase_of_refused {argument : Option Text} (h : refusesBase argument = true) :
    inBase number alphabet ((argument.map numbersOf).getD []) =
      .error (.invalidBase 62 (baseOf argument)) := by
  have h : baseOf argument < 2 ∨ 62 < baseOf argument := of_decide_eq_true h
  unfold baseOf at h ⊢
  simp only [inBase]
  rw [hl, if_pos h]

theorem exists_replaceNumeric_of_none (h : firstRefused? token t = none) :
    ∃ u, replaceNumeric token (inBase number alphabet) t = .ok u :=
  Text.exists_refillM_of_find?_none (fun _ => exists_inBase number hl) (Option.map_eq_none_iff.1 h)

theorem replaceNumeric_of_some {base : Nat} (h : firstRefused? token t = some base) :
    replaceNumeric token (inBase number alphabet) t = .error (.invalidBase 62 base) := by
  obtain ⟨argument, hfind, rfl⟩ := Option.map_eq_some_iff.1 h
  exact Text.refillM_of_find?_some (fun _ => exists_inBase number hl)
    (inBase_of_refused number hl (List.find?_some hfind)) hfind

end Based

/-- The counters of a fixed base can always be written. -/
theorem exists_foldlM_fixedBases (number : Nat) (l : List (Text × Nat × Text)) (t : Text) :
    ∃ u, l.foldlM (fun t (token, base, alphabet) =>
      replaceNumeric (m := Except Error) token
        (fun arguments => .ok (numeral number base alphabet (arguments.getD 0 0))) t) t =
      .ok u := by
  induction l generalizing t with
  | nil => exact ⟨t, rfl⟩
  | cons v l ih =>
    obtain ⟨token, base, alphabet⟩ := v
    have hnone : (Text.found (Text.cut (tokenWith token isNumberList) t)).find?
        (fun _ => false) = none := List.find?_eq_none.2 fun _ _ => Bool.false_ne_true
    obtain ⟨u, hu⟩ : ∃ u, replaceNumeric (m := Except Error) token
        (fun arguments => .ok (numeral number base alphabet (arguments.getD 0 0))) t = .ok u :=
      Text.exists_refillM_of_find?_none (fun _ _ => ⟨_, rfl⟩) hnone
    obtain ⟨made, hmade⟩ := ih u
    refine ⟨made, ?_⟩
    rw [List.foldlM_cons]
    simp only [hu]
    exact hmade

/-- The base in which a text asks for a counter in vain. The counters of the one alphabet have
their turn before those of the other, and what they write may make another of these. -/
def refusedBase? (number : Nat) (t : Text) : Option Nat :=
  (firstRefused? "%ib" t).or
    ((replaceNumeric "%ib" (inBase number alphanumericInverse) t).toOption.bind
      (firstRefused? "%iB"))

theorem replaceCounters_of_refused {number base : Nat} {t : Text}
    (h : refusedBase? number t = some base) :
    replaceCounters number t = .error (.invalidBase 62 base) := by
  unfold refusedBase? at h
  unfold replaceCounters
  rcases hfirst : firstRefused? "%ib" t with _ | refused
  · obtain ⟨u, hu⟩ := exists_replaceNumeric_of_none number
      (rfl : alphanumericInverse.length = 62) hfirst
    rw [hfirst, hu] at h
    rw [hu]
    change (replaceNumeric "%iB" (inBase number alphanumeric) u >>= _) = _
    rw [replaceNumeric_of_some number rfl h]
    rfl
  · rw [hfirst] at h
    cases h
    rw [replaceNumeric_of_some number rfl hfirst]
    rfl

theorem exists_replaceCounters {number : Nat} {t : Text} (h : refusedBase? number t = none) :
    ∃ u, replaceCounters number t = .ok u := by
  obtain ⟨hfirst, hsecond⟩ := Option.or_eq_none_iff.1 h
  obtain ⟨u, hu⟩ := exists_replaceNumeric_of_none number
    (rfl : alphanumericInverse.length = 62) hfirst
  rw [hu] at hsecond
  obtain ⟨w, hw⟩ := exists_replaceNumeric_of_none number
    (rfl : alphanumeric.length = 62) hsecond
  obtain ⟨made, hmade⟩ := exists_foldlM_fixedBases number fixedBases w
  unfold replaceCounters
  refine ⟨made, ?_⟩
  rw [hu]
  change (replaceNumeric "%iB" (inBase number alphanumeric) u >>= _) = _
  rw [hw]
  exact hmade

/-- The only error of the counters is a base in which none can be written. -/
theorem replaceCounters_eq_error_iff {number : Nat} {t : Text} {e : Error} :
    replaceCounters number t = .error e ↔
      ∃ base, refusedBase? number t = some base ∧ e = .invalidBase 62 base := by
  rcases hbase : refusedBase? number t with _ | base
  · obtain ⟨u, hu⟩ := exists_replaceCounters hbase
    rw [hu]
    exact ⟨nofun, nofun⟩
  · rw [replaceCounters_of_refused hbase]
    exact ⟨fun h => ⟨base, rfl, (Except.error.inj h).symm⟩,
      fun ⟨_, hb, he⟩ => by rw [he, Option.some.inj hb]⟩

/-! ### Runs -/

theorem run_expandCounters (s : Shared) (t : Text) (before : Session) :
    ((expandCounters s t).run.run before).1 = replaceCounters s.number t := by
  unfold expandCounters
  split
  · simp only [ExceptT.run_bind, StateT.run_bind]
    cases replaceCounters s.number t <;> rfl
  · rename_i hc
    exact (replaceCounters_of_absent s.number fun hi => hc (Text.contains_iff.2 hi)).symm

theorem succeeds_expandRandom (t : Text) : Succeeds (expandRandom t) := by
  unfold expandRandom
  induction randomTokens generalizing t with
  | nil => exact succeeds_pure t
  | cons v tokens ih =>
    rw [List.foldlM_cons]
    exact (succeeds_replaceToken (fun _ => succeeds_draw _) t).bind ih

theorem succeeds_expandGuids (t : Text) : Succeeds (expandGuids t) := by
  have hguid : Succeeds guid := (succeeds_draw _).bind fun _ => succeeds_pure _
  unfold expandGuids
  exact (succeeds_replaceToken (fun _ => hguid.bind fun _ => succeeds_pure _) t).bind
    fun t => succeeds_replaceToken (fun _ => hguid) t

/-- A preview shows what is wrong with a file, and any other namer fails with it. -/
theorem randomLine_of_unreadable (n : Namer) {argument : Option Text}
    (h : n.surroundings.files.readText? (Text.trim (argument.getD [])) = none) :
    n.randomLine argument =
      let e : Error := .invalidTextFile (Text.trim (argument.getD []))
      if n.preview then pure e.message else throw e := by
  unfold randomLine
  simp only [h]

theorem succeeds_randomLine_of_readable {n : Namer} {argument : Option Text} {content : Text}
    (h : n.surroundings.files.readText? (Text.trim (argument.getD [])) = some content) :
    Succeeds (n.randomLine argument) := by
  unfold randomLine
  simp only [h]
  split
  · exact succeeds_pure []
  · exact (succeeds_draw _).bind fun i => succeeds_pure _

theorem succeeds_randomLine {n : Namer} (hp : n.preview = true) (argument : Option Text) :
    Succeeds (n.randomLine argument) := by
  rcases h : n.surroundings.files.readText? (Text.trim (argument.getD [])) with _ | content
  · rw [n.randomLine_of_unreadable h]
    simp only [hp, if_true]
    exact succeeds_pure _
  · exact succeeds_randomLine_of_readable h

/-- The error that any other namer has with a file is a line of a preview. -/
theorem randomLine_of_error {n : Namer} (hp : n.preview = true) {argument : Option Text}
    {s : Session} {e : Error}
    (h : (({ n with preview := false }.randomLine argument).run.run s).1 = .error e) :
    (n.randomLine argument).run.run s = (.ok e.message, s) := by
  rcases hread : n.surroundings.files.readText? (Text.trim (argument.getD [])) with _ | content
  · rw [randomLine_of_unreadable { n with preview := false } hread] at h
    rw [n.randomLine_of_unreadable hread]
    simp only [hp, if_true]
    cases h
    rfl
  · obtain ⟨line, after, hline⟩ :=
      succeeds_randomLine_of_readable (n := { n with preview := false }) hread s
    rw [hline] at h
    cases h

/-- A run of a preview fails as its counters do. -/
theorem expandRun_preview {n : Namer} (hp : n.preview = true) (s : Shared) (t : Text)
    (before : Session) (e : Error) :
    ((n.expandRun s t).run.run before).1 = .error e ↔
      ∃ base, refusedBase? s.number (replaceEach (n.firstValues s) t) = some base ∧
        e = .invalidBase 62 base := by
  rw [← replaceCounters_eq_error_iff]
  unfold expandRun
  split
  · rename_i ht
    rw [List.isEmpty_iff.1 ht, replaceEach_nil, replaceCounters_of_absent s.number (by decide)]
    exact ⟨nofun, nofun⟩
  · refine (Succeeds.run_bind_error (fun made => ?_) _ before e).trans ?_
    · exact (succeeds_expandRandom _).bind fun t =>
        (succeeds_replaceToken (succeeds_randomLine hp) t).bind fun t =>
          (succeeds_expandGuids t).bind fun t => succeeds_pure _
    · rw [run_expandCounters]
      exact Iff.rfl

/-- A preview succeeds just if its pattern, as it is when the counters have their turn, asks for
none in a base in which none can be written, and fails with that error alone. The error of a text
file is shown in its place. -/
theorem expand_preview {n : Namer} (hp : n.preview = true) (pattern : Text) (before : Session) :
    ((∃ made, ((n.expand pattern).run.run before).1 = .ok made) ↔
      refusedBase? (before.counter + 1)
        (replaceEach (n.firstValues (n.shared pattern before.counter)) pattern) = none) ∧
    (∀ e, ((n.expand pattern).run.run before).1 = .error e ↔
      ∃ base, refusedBase? (before.counter + 1)
        (replaceEach (n.firstValues (n.shared pattern before.counter)) pattern) = some base ∧
          e = .invalidBase 62 base) ∧
    ∀ argument s e,
      (({ n with preview := false }.randomLine argument).run.run s).1 = .error e →
      (n.randomLine argument).run.run s = (.ok e.message, s) := by
  have herror (e : Error) : ((n.expand pattern).run.run before).1 = .error e ↔
      ∃ base, refusedBase? (before.counter + 1)
        (replaceEach (n.firstValues (n.shared pattern before.counter)) pattern) = some base ∧
          e = .invalidBase 62 base := by
    rw [run_expand]
    exact expandRun_preview hp (n.shared pattern before.counter) pattern before e
  refine ⟨⟨?_, fun hnone => ?_⟩, herror, fun argument s e h => randomLine_of_error hp h⟩
  · rintro ⟨made, hmade⟩
    refine Option.eq_none_iff_forall_ne_some.2 fun base hbase => ?_
    rw [(herror _).2 ⟨base, hbase, rfl⟩] at hmade
    cases hmade
  · rcases hmade : ((n.expand pattern).run.run before).1 with e | made
    · obtain ⟨base, hbase, -⟩ := (herror e).1 hmade
      rw [hnone] at hbase
      cases hbase
    · exact ⟨made, rfl⟩

/-- A preview shows a file that is not there, and fails with a base that is not there. -/
theorem expand_preview_refused :
    let n : Namer := { Namer.standard ⟨.empty, ⟨[]⟩, ⟨1711375629, 0, 0⟩⟩ with preview := true }
    let start : Session := ⟨6, ⟨fun _ => 0, 0⟩⟩
    n.preview = true ∧
      ((n.expand "%ib\x7b2\x7d %rf\x7bx\x7d").run.run start).1 =
        .ok "111 Valid text file path is required: x".toList ∧
      (({ n with preview := false }.randomLine (some "x")).run.run start).1 =
        .error (.invalidTextFile "x") ∧
      (n.randomLine (some "x")).run.run start =
        (.ok (Error.invalidTextFile "x").message, start) ∧
      ((n.expand "%ib\x7b1\x7d").run.run start).1 = .error (.invalidBase 62 1) := by
  intro n start
  have hfile : (({ n with preview := false }.randomLine (some "x")).run.run start).1 =
      .error (.invalidTextFile "x") := by rfl
  have hrefused : refusedBase? (start.counter + 1)
      (replaceEach (n.firstValues (n.shared "%ib\x7b1\x7d" start.counter)) "%ib\x7b1\x7d") =
        some 1 := by decide +kernel
  obtain ⟨-, hfails, hinline⟩ := expand_preview (n := n) rfl "%ib\x7b1\x7d" start
  exact ⟨rfl, ok_of_toOption (by decide +kernel), hfile, hinline _ _ _ hfile,
    (hfails _).2 ⟨1, hrefused, rfl⟩⟩

end Namer

end UploadTemplate
