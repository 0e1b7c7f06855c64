import UploadTemplate.Proofs.Naming.Counter
import UploadTemplate.Proofs.Template.Parallel

/-!
# Names as replacements

A run of a name goes through one list of replacements, each with a token and with what takes its
place. The values may be drawn or may fail, but they depend on nothing else that changes: the
counter is moved before any of them is asked for, and only by the number that the call shares.

- `Namer.replacements`: the replacements of a namer in their order.
- `Namer.expandRun_parallel`: a run makes these replacements.
- `Namer.run_expandKeepingEscapes_eq`: so does a text with escapes in each of its runs.
-/

namespace UploadTemplate

/-! ### Replacements in two kinds of computations -/

namespace Text

variable {m n : Type → Type} [Monad m] [Monad n] (R : Parallel m n) {α : Type} {f : α → m Text}
  {g : α → n Text}

theorem refillM_parallel (h : ∀ a, R.Holds (f a) (g a)) :
    ∀ parts : List (Fragment α), R.Holds (refillM f parts) (refillM g parts)
  | [] => R.pure []
  | .char c :: r => R.bind (refillM_parallel h r) fun rest => R.pure (c :: rest)
  | .found a :: r =>
    R.bind (h a) fun made => R.bind (refillM_parallel h r) fun rest => R.pure (made ++ rest)

end Text

theorem Naming.replaceToken_parallel {m n : Type → Type} [Monad m] [Monad n] (R : Parallel m n)
    {f : Option Text → m Text} {g : Option Text → n Text} (h : ∀ a, R.Holds (f a) (g a))
    (token : Text) (accepts : Text → Bool) (t : Text) :
    R.Holds (replaceToken token accepts f t) (replaceToken token accepts g t) :=
  Text.refillM_parallel R h _

theorem Parallel.foldlM {m n : Type → Type} [Monad m] [Monad n] (R : Parallel m n) {α β : Type}
    {f : α → β → m α} {g : α → β → n α} {l : List β} (h : ∀ b ∈ l, ∀ a, R.Holds (f a b) (g a b))
    (a : α) : R.Holds (l.foldlM f a) (l.foldlM g a) := by
  induction l generalizing a with
  | nil => exact R.pure a
  | cons b l ih =>
    rw [List.foldlM_cons, List.foldlM_cons]
    exact R.bind (h b List.mem_cons_self a) fun a => ih (fun b hb => h b (.tail _ hb)) a

theorem Escaped.mapParts_parallel {m n : Type → Type} [Monad m] [Monad n] (R : Parallel m n)
    {f : Text → m Text} {g : Text → n Text} (h : ∀ t, R.Holds (f t) (g t)) (escape : Char) :
    ∀ parts, R.Holds (mapParts escape f parts) (mapParts escape g parts)
  | [] => R.pure []
  | .run t :: r => R.bind (h t) fun made =>
    R.bind (mapParts_parallel R h escape r) fun rest => R.pure (made ++ rest)
  | .pair c :: r =>
    R.bind (mapParts_parallel R h escape r) fun rest => R.pure (escape :: c :: rest)
  | .lone :: r => R.bind (mapParts_parallel R h escape r) fun rest => R.pure (escape :: rest)

namespace Naming

/-- A token with what takes its place. -/
structure Replacement extends Token where
  value : Option Text → Drawing Error Text

namespace Replacement

/-- A value that is not drawn. -/
def ofSubstitution (s : Substitution) : Replacement :=
  ⟨s.toToken, fun a => ExceptT.mk (pure (s.value a))⟩

end Replacement

/-- What a computation of a name comes to whatever the counter is. -/
def drawn {α : Type} (x : Naming α) : Drawing Error α :=
  ExceptT.mk fun d =>
    let (r, session) := x.run.run ⟨0, d⟩
    (r, session.draws)

end Naming

open Naming

namespace Namer

/-- The replacements whose values are drawn. -/
def randomReplacements (n : Namer) : List Replacement :=
  randomTokens.map (fun (token, alphabet) =>
    ⟨⟨token, isNumberList⟩, fun a => modifyGet (randomChars alphabet
      (min (((a.map numbersOf).getD []).getD 0 1) lengthLimit))⟩) ++
  [⟨⟨"%rf", fun _ => true⟩, fun a => drawn (n.randomLine a)⟩,
    ⟨⟨"%GUID", fun _ => false⟩, fun _ => drawn (do return (← guid).map Text.upperAscii)⟩,
    ⟨⟨"%guid", fun _ => false⟩, fun _ => drawn guid⟩]

/-- The replacements in a run, in their order. -/
def replacements (n : Namer) (s : Shared) : List Replacement :=
  ((n.windowValues.map fun v => constant v.1 v.2) ++ n.substitutions s).map .ofSubstitution ++
    n.randomReplacements

/-- A run after its replacements, with values of any kind. -/
def replaceWith {m : Type → Type} [Monad m] (value : Replacement → Option Text → m Text)
    (n : Namer) (s : Shared) (t : Text) : m Text := do
  let made ← (n.replacements s).foldlM
    (fun t k => replaceToken k.text k.accepts (value k) t) t
  return truncate n.maxName (n.kind.sanitize made)

/-- What is said about a computation of a name by one without the counter. -/
abbrev countless : Parallel (Drawing Error) Naming := .project Session.draws

theorem countless_draw {α : Type} (f : Draws → α × Draws) :
    countless.Holds (modifyGet f) (draw f) := fun _ => rfl

theorem countless_randomLine (n : Namer) (a : Option Text) :
    countless.Holds (drawn (n.randomLine a)) (n.randomLine a) := by
  intro session
  unfold drawn randomLine
  simp only
  split
  · split <;> rfl
  · split <;> rfl

theorem settled_substitutions (l : List Substitution) (t : Text) :
    Parallel.settled.Holds
      ((l.map Replacement.ofSubstitution).foldlM
        (fun t k => replaceToken k.text k.accepts k.value t) t : Drawing Error Text)
      (l.foldlM (fun t s => s.replace t) t) := by
  rw [List.foldlM_map]
  exact Parallel.foldlM Parallel.settled
    (fun v _ t => replaceToken_parallel Parallel.settled (fun _ _ => rfl) v.text v.accepts t) t

theorem countless_expandCounters (s : Shared) (t : Text) :
    countless.Holds (ExceptT.mk (pure (replaceCounters s.number t))) (expandCounters s t) := by
  intro session
  unfold expandCounters
  by_cases hc : Text.contains "%i" t = true
  · rw [if_pos hc, Computation.run_bind]
    cases replaceCounters s.number t <;> rfl
  · rw [if_neg hc, replaceCounters_of_absent s.number fun hi => hc (Text.contains_iff.2 hi)]
    rfl

/-- The replacements whose values are not drawn, with the counter moved among them. -/
theorem countless_substitutions (n : Namer) (s : Shared) (t : Text) :
    countless.Holds
      ((((n.windowValues.map fun v => constant v.1 v.2) ++ n.substitutions s).map
        Replacement.ofSubstitution).foldlM (fun t k => replaceToken k.text k.accepts k.value t) t)
      (do
        let made ← expandCounters s
          (replaceEach (n.windowValues ++ n.imageValues ++ dateValues s) t)
        return replaceEach n.machineValues made) := by
  have hsplit : replaceEach (n.windowValues ++ n.imageValues ++ dateValues s) t =
      replaceEach (n.imageValues ++ dateValues s) (replaceEach n.windowValues t) := by
    simp [replaceEach]
  have hfold : ((n.windowValues.map fun v => constant v.1 v.2) ++ n.substitutions s).foldlM
      (fun t s => s.replace t) t =
        (replaceCounters s.number
          (replaceEach (n.windowValues ++ n.imageValues ++ dateValues s) t)).map
            (replaceEach n.machineValues) := by
    rw [List.foldlM_append, foldlM_constant, hsplit]
    exact n.foldlM_substitutions s _
  generalize replaceEach (n.windowValues ++ n.imageValues ++ dateValues s) t = u at hfold
  intro session
  have hcounters := countless_expandCounters s u session
  rw [settled_substitutions _ t session.draws, hfold, Computation.run_bind]
  generalize (expandCounters s u).run.run session = ran at hcounters ⊢
  obtain ⟨hmade, hdraws⟩ := Prod.mk.inj hcounters
  obtain ⟨e | made, after⟩ := ran <;> simp only [hmade, hdraws] <;> rfl

theorem countless_randomReplacements (n : Namer) (t : Text) :
    countless.Holds
      (n.randomReplacements.foldlM (fun t k => replaceToken k.text k.accepts k.value t) t)
      (do
        let t ← expandRandom t
        let t ← replaceToken "%rf" (fun _ => true) n.randomLine t
        expandGuids t) := by
  unfold randomReplacements
  rw [List.foldlM_append, List.foldlM_map]
  refine countless.bind ?_ fun t => ?_
  · exact countless.foldlM
      (fun v _ t => replaceToken_parallel countless (fun _ => countless_draw _) v.1 _ t) t
  · simp only [List.foldlM_cons, List.foldlM_nil, bind_pure]
    refine countless.bind (replaceToken_parallel countless n.countless_randomLine _ _ t) fun t => ?_
    unfold expandGuids
    refine countless.bind (replaceToken_parallel countless (fun _ _ => rfl) _ _ t) fun t => ?_
    exact replaceToken_parallel countless (fun _ _ => rfl) _ _ t

/-- A run makes its replacements one after the other. -/
theorem expandRun_parallel (n : Namer) (s : Shared) (t : Text) :
    countless.Holds (replaceWith Replacement.value n s t) (n.expandRun s t) := by
  unfold replaceWith replacements
  rw [List.foldlM_append]
  cases t with
  | nil =>
    have hnil (l : List Replacement) :
        l.foldlM (fun t k => replaceToken k.text k.accepts k.value t) [] =
          (pure [] : Drawing Error Text) := by
      induction l with
      | nil => rfl
      | cons k l ih =>
        rw [List.foldlM_cons]
        exact ih
    simp only [hnil, pure_bind, truncate_sanitize_nil]
    exact countless.pure []
  | cons c t =>
    unfold expandRun
    simp only [List.isEmpty_cons, Bool.false_eq_true, if_false]
    have h := countless.bind (countless.bind (n.countless_substitutions s (c :: t))
      n.countless_randomReplacements) fun made =>
        countless.pure (truncate n.maxName (n.kind.sanitize made))
    simpa only [bind_assoc, pure_bind] using h

/-- A text with escapes, without what happens to the counter. -/
theorem run_expandKeepingEscapes_eq (n : Namer) (escape : Char) (t : Text) (before : Session) :
    (Escaped.mapRuns escape (replaceWith Replacement.value n (n.shared t before.counter)) t).run.run
        before.draws =
      (((n.expandKeepingEscapes escape t).run.run before).1,
        ((n.expandKeepingEscapes escape t).run.run before).2.draws) := by
  rw [run_expandKeepingEscapes]
  exact Escaped.mapParts_parallel countless (n.expandRun_parallel _) escape _ before

theorem text_mem_of_replacements {n : Namer} {s : Shared} {k : Replacement}
    (h : k ∈ n.replacements s) :
    k.text ∈ n.windowValues.map (·.1) ++ tokenTexts (decide (n.kind = .text)) := by
  rw [← n.map_text s, texts, List.map_append]
  rcases List.mem_append.1 h with h | h
  · obtain ⟨v, hv, rfl⟩ := List.mem_map.1 h
    rcases List.mem_append.1 hv with hv | hv
    · obtain ⟨w, hw, rfl⟩ := List.mem_map.1 hv
      exact List.mem_append_left _ (List.mem_map_of_mem (f := (·.1)) hw)
    · refine List.mem_append_right _ (List.mem_append_left _ ?_)
      rw [List.map_map]
      exact List.mem_map_of_mem (f := fun v => v.toToken.text) hv
  · have hrandom : n.randomReplacements.map (·.text) = texts randomNames := rfl
    have hm : k.text ∈ n.randomReplacements.map (·.text) := List.mem_map_of_mem h
    exact List.mem_append_right _ (List.mem_append_right _ (hrandom ▸ hm))

/-- Every token is a percent sign with letters and digits behind it. -/
theorem text_of_replacements {n : Namer} {s : Shared} {k : Replacement}
    (h : k ∈ n.replacements s) :
    ∃ w, k.text = '%' :: w ∧ ∀ c ∈ w, Text.isAsciiAlphanumeric c = true := by
  have hshape : ∀ token ∈ n.windowValues.map (·.1) ++ tokenTexts (decide (n.kind = .text)),
      token.head? = some '%' ∧ token.tail.all Text.isAsciiAlphanumeric = true := by
    have hwindow : ∀ token ∈ n.windowValues.map (·.1),
        token.head? = some '%' ∧ token.tail.all Text.isAsciiAlphanumeric = true := by
      cases ht : n.title <;> cases hp : n.process <;>
        simp [windowValues, ht, hp, Text.isAsciiAlphanumeric, Text.isAsciiLetter]
    have htexts : ∀ b, ∀ token ∈ tokenTexts b,
        token.head? = some '%' ∧ token.tail.all Text.isAsciiAlphanumeric = true := by
      decide
    intro token htoken
    rcases List.mem_append.1 htoken with h | h
    · exact hwindow token h
    · exact htexts _ token h
  obtain ⟨hhead, htail⟩ := hshape _ (text_mem_of_replacements h)
  obtain ⟨w, hw⟩ := List.head?_eq_some_iff.1 hhead
  rw [hw] at htail
  exact ⟨w, hw, List.all_eq_true.1 htail⟩

theorem text_ne_nil_of_replacements {n : Namer} {s : Shared} {k : Replacement}
    (h : k ∈ n.replacements s) : k.text ≠ [] := by
  obtain ⟨w, hw, -⟩ := text_of_replacements h
  rw [hw]
  exact List.cons_ne_nil _ _

end Namer

end UploadTemplate
