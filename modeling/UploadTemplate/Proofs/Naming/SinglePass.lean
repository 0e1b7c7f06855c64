import UploadTemplate.Proofs.Computation
import UploadTemplate.Proofs.Naming.Vocabulary

/-!
# Names in a single pass

A name is the text of one scan of its pattern, as long as no token reads what another one has put
in. That can happen: the day after a weekday may make another token of it.

- `Namer.replaceAll_vocabulary`: the turns of the vocabulary are the replacements of a namer.
- `Namer.expand_eq_scan`: the name as the text of one scan.
- `Namer.expand_weekday_day`: a name that is not the text of one scan.
-/

namespace UploadTemplate

namespace Naming

/-! ### Turns and replacements -/

theorem refillM_cutAfter_constant (token value : Text) (n : Nat) (t : Text) :
    Text.refillM (constant token value).value
        (Text.cutAfter (tokenWith token fun _ => false) n t) =
      .ok (Text.refill (fun _ => value) (Text.cutAfter (Text.tokenAt token) n t)) := by
  induction t generalizing n with
  | nil => cases n <;> rfl
  | cons c t ih =>
    cases n with
    | succ n => exact ih n
    | zero =>
      by_cases hp : token.isPrefixOf (c :: t) = true
      · have h1 : tokenWith token (fun _ => false) (c :: t) = some (none, token.length) := by
          have hnone : (braced? ((c :: t).drop token.length)).filter (fun _ => false) = none := by
            simp
          unfold tokenWith
          rw [if_pos hp, hnone]
        have h2 : Text.tokenAt token (c :: t) = some ((), token.length) := if_pos hp
        rw [Text.cutAfter, Text.cutAfter, h1, h2]
        simp only
        rw [Text.refillM, ih, Text.refill_found]
        rfl
      · have h1 : tokenWith token (fun _ => false) (c :: t) = none := if_neg hp
        have h2 : Text.tokenAt token (c :: t) = none := if_neg hp
        rw [Text.cutAfter, Text.cutAfter, h1, h2]
        simp only
        rw [Text.refillM, ih, Text.refill_char]
        rfl

theorem replace_constant (token value t : Text) :
    (constant token value).replace t = .ok (Text.replace token value t) :=
  refillM_cutAfter_constant token value 0 t

theorem foldlM_constant (values : List (Text × Text)) (t : Text) :
    (values.map fun v => constant v.1 v.2).foldlM (fun t s => s.replace t) t =
      .ok (replaceEach values t) := by
  induction values generalizing t with
  | nil => rfl
  | cons v values ih =>
    rw [List.map_cons, List.foldlM_cons, replace_constant]
    exact ih (Text.replace v.1 v.2 t)

theorem foldlM_of_absent {l : List Substitution} {t : Text} (h : ∀ s ∈ l, ¬ s.text <:+: t) :
    l.foldlM (fun t s => s.replace t) t = .ok t := by
  induction l with
  | nil => rfl
  | cons s l ih =>
    rw [List.foldlM_cons]
    unfold Substitution.replace
    rw [replaceToken_of_absent (h s List.mem_cons_self)]
    exact ih fun s' hs => h s' (List.mem_cons_of_mem s hs)

end Naming

namespace Namer

open Naming

theorem foldlM_counters (number : Nat) (t : Text) :
    (counterSubstitutions number).foldlM (fun t s => s.replace t) t = replaceCounters number t := by
  unfold counterSubstitutions replaceCounters
  simp only [List.foldlM_cons, List.foldlM_map]
  rfl

/-- Every counter begins with the plain one. -/
theorem replaceCounters_of_absent (number : Nat) {t : Text} (h : ¬ "%i".toList <:+: t) :
    replaceCounters number t = .ok t := by
  rw [← foldlM_counters]
  refine foldlM_of_absent fun s hs hi => h ?_
  have hpre : ∀ w ∈ counterTokens, "%i".toList <+: w := by decide
  exact (hpre s.text (List.mem_map_of_mem (f := (·.text)) hs)).isInfix.trans hi

theorem foldlM_substitutions (n : Namer) (s : Shared) (t : Text) :
    (n.substitutions s).foldlM (fun t s => s.replace t) t =
      (replaceCounters s.number (replaceEach (n.imageValues ++ dateValues s) t)).map
        (replaceEach n.machineValues) := by
  unfold substitutions
  rw [List.foldlM_append, List.foldlM_append, foldlM_constant]
  have hbind (t : Text) : (Except.ok t >>= fun t => (counterSubstitutions s.number).foldlM
      (fun t s => s.replace t) t) = replaceCounters s.number t := foldlM_counters s.number t
  rw [hbind]
  simp only [foldlM_constant]
  cases replaceCounters s.number (replaceEach (n.imageValues ++ dateValues s) t) <;> rfl

/-- The turns of the vocabulary are the replacements that a namer without a window makes. -/
theorem replaceAll_vocabulary {n : Namer} (s : Shared) (hw : n.windowValues = []) (t : Text) :
    (n.vocabulary s).replaceAll t =
      (replaceCounters s.number
        (replaceEach (n.windowValues ++ n.imageValues ++ dateValues s) t)).map
          (replaceEach n.machineValues) := by
  rw [hw, List.nil_append]
  exact n.foldlM_substitutions s t

/-! ### Runs -/

theorem replaceCounters_of_run {s : Shared} {t out : Text} {before after : Session}
    (h : (expandCounters s t).run.run before = (.ok out, after)) :
    replaceCounters s.number t = .ok out := by
  unfold expandCounters at h
  split at h
  · obtain ⟨-, between, -, h⟩ := Computation.run_of_bind h
    rcases hr : replaceCounters s.number t with e | u <;> rw [hr] at h
    · cases h
    · cases h
      rfl
  · rename_i hc
    cases h
    exact replaceCounters_of_absent s.number fun hi => hc (Text.contains_iff.2 hi)

/-- A run that comes to an end has had its counters replaced. If no random token is left then, it
is the text that they leave, in the form of the name. -/
theorem exists_replaceCounters_of_expandRun {n : Namer} {s : Shared} {t out : Text}
    {before after : Session} (h : (n.expandRun s t).run.run before = (.ok out, after)) :
    ∃ u, replaceCounters s.number
        (replaceEach (n.windowValues ++ n.imageValues ++ dateValues s) t) = .ok u ∧
      ((∀ k ∈ randomNames, ¬ k.text <:+: replaceEach n.machineValues u) →
        out = truncate n.maxName (n.kind.sanitize (replaceEach n.machineValues u))) := by
  unfold expandRun at h
  split at h
  · rename_i ht
    cases h
    refine ⟨[], ?_, fun _ => ?_⟩
    · rw [List.isEmpty_iff.1 ht, replaceEach_nil]
      exact replaceCounters_of_absent s.number (by decide)
    · rw [replaceEach_nil, truncate_sanitize_nil]
  · obtain ⟨made, between, hc, h⟩ := Computation.run_of_bind h
    refine ⟨made, replaceCounters_of_run hc, fun hr => ?_⟩
    have hrandom : ∀ v ∈ randomTokens, ¬ v.1 <:+: replaceEach n.machineValues made := fun v hv =>
      hr ⟨v.1, isNumberList⟩ (List.mem_append_left _ (List.mem_map_of_mem hv))
    simp only at h
    rw [expandRandom_of_absent hrandom, pure_bind, replaceToken_of_absent, pure_bind,
      expandGuids_of_absent, pure_bind] at h
    · cases h
      rfl
    · exact hr ⟨"%GUID", fun _ => false⟩ (by simp [randomNames])
    · exact hr ⟨"%guid", fun _ => false⟩ (by simp [randomNames])
    · exact hr ⟨"%rf", fun _ => true⟩ (by simp [randomNames])

/-- A run that comes to an end has had all turns of the vocabulary. If they leave no random token,
it is their text. -/
theorem replaceAll_of_expandRun {n : Namer} {s : Shared} (hw : n.windowValues = [])
    {t out : Text} {before after : Session}
    (h : (n.expandRun s t).run.run before = (.ok out, after)) :
    ∃ u, (n.vocabulary s).replaceAll t = .ok u ∧
      ((∀ k ∈ randomNames, ¬ k.text <:+: u) → out = truncate n.maxName (n.kind.sanitize u)) := by
  obtain ⟨u, hu, hout⟩ := exists_replaceCounters_of_expandRun h
  exact ⟨replaceEach n.machineValues u, by rw [replaceAll_vocabulary s hw, hu]; rfl, hout⟩

theorem run_expand (n : Namer) (pattern : Text) (before : Session) :
    (n.expand pattern).run.run before =
      (n.expandRun (n.shared pattern before.counter) pattern).run.run before := by
  unfold expand
  rw [ExceptT.run_bind, StateT.run_bind]
  rfl

/-- A name without random tokens is the text of one scan of its pattern, if no token reads what
another one has put in. -/
theorem expand_eq_scan {n : Namer} (hk : n.kind = .text) (ht : n.title = none)
    (hp : n.process = none) {pattern out : Text} {before after : Session}
    (hr : ∀ k ∈ randomNames, ¬ k.text <:+: pattern)
    (hu : Undisturbed (n.vocabulary (n.shared pattern before.counter))
      ((n.vocabulary (n.shared pattern before.counter)).pattern pattern))
    (h : (n.expand pattern).run.run before = (.ok out, after)) :
    ∃ t, (n.vocabulary (n.shared pattern before.counter)).scan pattern = .ok t ∧
      out = truncate n.maxName t := by
  have hw : n.windowValues = [] := by simp [windowValues, ht, hp]
  rw [run_expand] at h
  obtain ⟨u, hu', hout⟩ := replaceAll_of_expandRun hw h
  obtain ⟨hscan, habsent⟩ := Vocabulary.scan_of_replaceAll hr hu hu'
  refine ⟨u, hscan, ?_⟩
  rw [hout habsent, hk]
  rfl

theorem ok_of_toOption {ε α : Type} {x : Except ε α} {a : α} (h : x.toOption = some a) :
    x = .ok a := by
  cases x with
  | error e => cases h
  | ok b => exact congrArg Except.ok (Option.some.inj h)

/-- A year, a month, a user and a counter of three digits. -/
theorem expand_eq_scan_counter :
    let n : Namer :=
      .standard ⟨{ Environment.empty with user := some "ann".toList }, ⟨[]⟩, ⟨1711375629, 0, 0⟩⟩
    let pattern : Text := "%y-%mo_%un_%i\x7b3\x7d"
    let start : Session := ⟨0, ⟨fun _ => 0, 0⟩⟩
    ((n.expand pattern).run.run start).1 = .ok "2024-03_ann_001".toList ∧
      ∃ t, (n.vocabulary (n.shared pattern start.counter)).scan pattern = .ok t ∧
        "2024-03_ann_001".toList = truncate n.maxName t := by
  intro n pattern start
  have hout : ((n.expand pattern).run.run start).1 = .ok "2024-03_ann_001".toList :=
    ok_of_toOption (by decide +kernel)
  have hrandom : ∀ k ∈ randomNames, ¬ k.text <:+: pattern := by decide +kernel
  have hundisturbed : Undisturbed (n.vocabulary (n.shared pattern start.counter))
      ((n.vocabulary (n.shared pattern start.counter)).pattern pattern) := by decide +kernel
  have h := (Prod.eta ((n.expand pattern).run.run start)).symm
  rw [hout] at h
  exact ⟨hout, expand_eq_scan rfl rfl rfl hrandom hundisturbed h⟩

/-- On Monday the 25th the first digit of the day makes another token of the weekday before it. -/
theorem expand_weekday_day :
    let n : Namer := .standard ⟨.empty, ⟨[]⟩, ⟨1711375629, 0, 0⟩⟩
    let pattern : Text := "%w%d"
    let start : Session := ⟨0, ⟨fun _ => 0, 0⟩⟩
    (∀ k ∈ randomNames, ¬ k.text <:+: pattern) ∧
      ((n.expand pattern).run.run start).1 = .ok "Monday5".toList ∧
      (n.vocabulary (n.shared pattern start.counter)).scan pattern = .ok "Monday25".toList :=
  ⟨by decide +kernel, ok_of_toOption (by decide +kernel), ok_of_toOption (by decide +kernel)⟩

end Namer

end UploadTemplate
