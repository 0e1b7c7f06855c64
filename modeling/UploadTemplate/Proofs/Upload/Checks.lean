import UploadTemplate.Proofs.Computation
import UploadTemplate.Upload.Compiler

/-!
# The checks of a request

Making a request is a row of checks: a field that must not be blank, a template that must have a
text. They are taken in a fixed order, and the first that fails ends the work with its own error.

- `Compiler.checks`: the checks of a destination in their order.
- `Check.Passes`, `Check.Fails`: how a single check ends, and what it does to the session.
- `Compiler.effect_requestNormalized`: but for what it yields, a request is its checks one after
  the other.
- `Compiler.request_fails_iff`: when there is no request, and why.
-/

namespace UploadTemplate

/-- What is interpreted in a text. -/
inductive Scope where
  /-- Name tokens, and then calls whose texts are encoded. -/
  | template (encoding : Encoding)
  /-- Name tokens alone. -/
  | names

/-- Something that must go well for there to be a request. -/
inductive Check where
  /-- A field must not be blank. -/
  | content (field : Field) (t : Text)
  /-- What is interpreted in a field, or in an entry of it, must have a text. -/
  | text (scope : Scope) (field : Field) (entry : Option Text) (t : Text)

namespace Compiler

def interpret (c : Compiler) (context : Context) : Scope → Text → Naming Text
  | .template encoding, t => (c.interpreter context encoding).interpretNamed c.namer t
  | .names, t => c.namer.expandKeepingEscapes c.marks.escape t

end Compiler

namespace Check

section Definitions

variable (c : Compiler) (d : Destination) (context : Context)

/-- The check goes well, and leaves a session behind. -/
def Passes : Check → Session → Session → Prop
  | .content _ t, before, after => Text.isBlankText t = false ∧ after = before
  | .text scope _ _ t, before, after =>
    ∃ made, (c.interpret context scope t).run.run before = (.ok made, after)

/-- The check ends with an error, and leaves a session behind. Whatever cannot be interpreted is
told with the name and the host of the destination, its field and its entry. -/
def Fails : Check → Session → RequestError → Session → Prop
  | .content field t, before, e, after =>
    Text.isBlankText t = true ∧ e = .missing field ∧ after = before
  | .text scope field entry t, before, e, after =>
    ∃ cause, (c.interpret context scope t).run.run before = (.error cause, after) ∧
      e = .invalid d.name d.host field entry cause

/-- The checks go well one after the other. -/
inductive AllPass : List Check → Session → Session → Prop where
  | nil (s : Session) : AllPass [] s s
  | cons {check : Check} {checks : List Check} {before between after : Session} :
      check.Passes c context before between → AllPass checks between after →
      AllPass (check :: checks) before after

/-- A check as a computation. -/
def run : Check → Compiling Unit
  | .content field t => if Text.isBlankText t then throw (.missing field) else pure ()
  | .text scope field entry t =>
    (fun _ => ()) <$> Compiler.place d field entry (c.interpret context scope t)

end Definitions

end Check

/-! ### Runs of checks -/

theorem Compiling.run_effect_eq_ok_iff {α : Type} {x : Compiling α} {before after : Session} :
    ((fun _ => ()) <$> x).run.run before = (.ok (), after) ↔
      ∃ a, x.run.run before = (.ok a, after) := by
  rw [Computation.run_map]
  rcases x.run.run before with ⟨e | a, between⟩
  · exact ⟨fun h => (by cases h), fun ⟨_, h⟩ => (by cases h)⟩
  · exact ⟨fun h => (by cases h; exact ⟨a, rfl⟩), fun ⟨_, h⟩ => (by cases h; rfl)⟩

theorem Compiling.run_effect_eq_error_iff {α : Type} {x : Compiling α} {before after : Session}
    {e : RequestError} :
    ((fun _ => ()) <$> x).run.run before = (.error e, after) ↔
      x.run.run before = (.error e, after) := by
  rw [Computation.run_map]
  rcases x.run.run before with ⟨e' | a, between⟩
  · exact ⟨fun h => (by cases h; rfl), fun h => (by cases h; rfl)⟩
  · exact ⟨fun h => (by cases h), fun h => (by cases h)⟩

namespace Check

variable {c : Compiler} {d : Destination} {context : Context}

theorem run_content (field : Field) (t : Text) (s : Session) :
    (Check.run c d context (.content field t)).run.run s =
      (if Text.isBlankText t then .error (.missing field) else .ok (), s) := by
  simp only [run]
  cases Text.isBlankText t <;> rfl

theorem run_text (scope : Scope) (field : Field) (entry : Option Text) (t : Text) (s : Session) :
    (Check.run c d context (.text scope field entry t)).run.run s =
      match (c.interpret context scope t).run.run s with
      | (.ok _, after) => (.ok (), after)
      | (.error cause, after) => (.error (.invalid d.name d.host field entry cause), after) := by
  rw [run, Computation.run_map, Compiler.place, Computation.run_adapt]
  rcases StateT.run _ s with ⟨_ | _, _⟩ <;> rfl

theorem run_eq_ok_iff {check : Check} {before after : Session} :
    (check.run c d context).run.run before = (.ok (), after) ↔
      check.Passes c context before after := by
  cases check with
  | content field t =>
    rw [run_content, Passes]
    cases Text.isBlankText t with
    | true => exact ⟨fun h => (by cases h), fun h => (by cases h.1)⟩
    | false => exact ⟨fun h => (by cases h; exact ⟨rfl, rfl⟩), fun h => (by rw [h.2]; rfl)⟩
  | text scope field entry t =>
    rw [run_text, Passes]
    rcases StateT.run _ before with ⟨cause | made, between⟩
    · exact ⟨fun h => (by cases h), fun ⟨_, h⟩ => (by cases h)⟩
    · exact ⟨fun h => (by cases h; exact ⟨made, rfl⟩), fun ⟨_, h⟩ => (by cases h; rfl)⟩

theorem run_eq_error_iff {check : Check} {before after : Session} {e : RequestError} :
    (check.run c d context).run.run before = (.error e, after) ↔
      check.Fails c d context before e after := by
  cases check with
  | content field t =>
    rw [run_content, Fails]
    cases Text.isBlankText t with
    | true =>
      exact ⟨fun h => (by cases h; exact ⟨rfl, rfl, rfl⟩), fun h => (by rw [h.2.1, h.2.2]; rfl)⟩
    | false => exact ⟨fun h => (by cases h), fun h => (by cases h.1)⟩
  | text scope field entry t =>
    rw [run_text, Fails]
    rcases StateT.run _ before with ⟨cause | made, between⟩
    · exact ⟨fun h => (by cases h; exact ⟨cause, rfl, rfl⟩),
        fun ⟨_, h, he⟩ => (by cases h; rw [he])⟩
    · exact ⟨fun h => (by cases h), fun ⟨_, h, _⟩ => (by cases h)⟩

theorem forM_eq_ok_iff {checks : List Check} {before after : Session} :
    (forM checks (Check.run c d context)).run.run before = (.ok (), after) ↔
      AllPass c context checks before after := by
  induction checks generalizing before with
  | nil =>
    constructor
    · intro h
      cases h
      exact .nil _
    · intro h
      cases h
      rfl
  | cons check checks ih =>
    rw [List.forM_cons, Computation.run_bind]
    rcases hrun : (check.run c d context).run.run before with ⟨e | ⟨⟩, between⟩
    · constructor
      · intro h
        cases h
      · rintro (_ | ⟨hpass, -⟩)
        rw [run_eq_ok_iff.2 hpass] at hrun
        cases hrun
    · refine ih.trans ⟨fun h => .cons (run_eq_ok_iff.1 hrun) h, ?_⟩
      rintro (_ | ⟨hpass, hrest⟩)
      rw [run_eq_ok_iff.2 hpass] at hrun
      cases hrun
      exact hrest

/-- Checks that do not all go well end with the first that fails. -/
theorem forM_eq_error_iff {checks : List Check} {before after : Session} {e : RequestError} :
    (forM checks (Check.run c d context)).run.run before = (.error e, after) ↔
      ∃ passed check rest between, checks = passed ++ check :: rest ∧
        AllPass c context passed before between ∧ check.Fails c d context between e after := by
  induction checks generalizing before with
  | nil =>
    constructor
    · intro h
      cases h
    · rintro ⟨_ | ⟨_, _⟩, _, _, _, hsplit, -, -⟩ <;> cases hsplit
  | cons check checks ih =>
    rw [List.forM_cons, Computation.run_bind]
    rcases hrun : (check.run c d context).run.run before with ⟨e' | ⟨⟩, between⟩
    · constructor
      · intro h
        cases h
        exact ⟨[], check, checks, before, rfl, .nil before, run_eq_error_iff.1 hrun⟩
      · rintro ⟨_ | ⟨_, _⟩, _, _, _, ⟨⟩, hpassed, hfails⟩
        · cases hpassed
          rw [run_eq_error_iff.2 hfails] at hrun
          cases hrun
          rfl
        · obtain _ | ⟨hpass, -⟩ := hpassed
          rw [run_eq_ok_iff.2 hpass] at hrun
          cases hrun
    · refine ih.trans ⟨?_, ?_⟩
      · rintro ⟨passed, check', rest, between', rfl, hpassed, hfails⟩
        exact ⟨check :: passed, check', rest, between', rfl,
          .cons (run_eq_ok_iff.1 hrun) hpassed, hfails⟩
      · rintro ⟨_ | ⟨_, passed⟩, check', rest, between', ⟨⟩, hpassed, hfails⟩
        · cases hpassed
          rw [run_eq_error_iff.2 hfails] at hrun
          cases hrun
        · obtain _ | ⟨hpass, hrest⟩ := hpassed
          rw [run_eq_ok_iff.2 hpass] at hrun
          cases hrun
          exact ⟨passed, check', rest, between', rfl, hrest, hfails⟩

end Check

/-! ### The checks of a destination -/

namespace Compiler

/-- The entries of a field, in ascending order of their names. -/
def entryChecks (field : Field) (t : Table Text) : List Check :=
  t.entries.map fun e => .text (.template .plain) field (some e.1) e.2

/-- What the kind of the body asks for. A file needs a form name, but only in a form of parts. -/
def bodyChecks (d : Destination) (context : Context) : List Check :=
  match d.body with
  | .nothing | .binary => []
  | .multipart =>
    (if context.fileName.isSome then [.content .fileFormName d.fileFormName] else []) ++
      entryChecks .arguments d.arguments
  | .form => entryChecks .arguments d.arguments
  | .json | .xml => [.text .names .data none d.data]

/-- The checks for a destination whose query has been moved into its parameters. -/
def checks (d : Destination) (context : Context) : List Check :=
  .content .requestUrl d.requestUrl :: .text (.template .url) .requestUrl none d.requestUrl ::
    (entryChecks .parameters d.parameters ++ entryChecks .headers d.headers ++
      bodyChecks d context)

variable (c : Compiler) (d : Destination) (context : Context)

theorem effect_entries (field : Field) (l : List (Text × Text)) :
    (fun _ => ()) <$> c.entries d context field l =
      forM (l.map fun e => Check.text (.template .plain) field (some e.1) e.2)
        (Check.run c d context) := by
  induction l with
  | nil => rfl
  | cons e l ih =>
    obtain ⟨k, t⟩ := e
    rw [entries, List.map_cons, List.forM_cons, ← ih]
    simp only [map_eq_pure_bind, bind_assoc, pure_bind, Check.run]
    rfl

theorem effect_table (field : Field) (t : Table Text) :
    (fun _ => ()) <$> c.table d context field t =
      forM (entryChecks field t) (Check.run c d context) := by
  unfold table entryChecks
  rw [← effect_entries, Functor.map_map]

theorem effect_document (encoding : Encoding) :
    (fun _ => ()) <$> c.document d context encoding =
      Check.run c d context (.text .names .data none d.data) := by
  unfold document
  rw [Functor.map_map]
  rfl

theorem effect_fileFormName :
    (fun _ => ()) <$> body.liftExcept (fileFormName d context) =
      forM (if context.fileName.isSome then [.content .fileFormName d.fileFormName] else [])
        (Check.run c d context) := by
  unfold fileFormName
  cases context.fileName with
  | none => rfl
  | some name =>
    simp only [Option.isSome_some, if_true, List.forM_cons, List.forM_nil, Check.run]
    cases Text.isBlankText d.fileFormName <;> rfl

theorem effect_body :
    (fun _ => ()) <$> c.body d context = forM (bodyChecks d context) (Check.run c d context) := by
  unfold body bodyChecks
  cases d.body with
  | nothing => rfl
  | multipart =>
    simp only [List.forM_append, ← effect_fileFormName, ← effect_table]
    simp only [map_eq_pure_bind, bind_assoc, pure_bind]
  | form => simp only [Functor.map_map, effect_table]
  | json => simp [Functor.map_map, effect_document]
  | xml => simp [Functor.map_map, effect_document]
  | binary => rfl

/-- But for what it yields, a request is its checks one after the other. -/
theorem effect_requestNormalized :
    (fun _ => ()) <$> c.requestNormalized d context =
      forM (checks d context) (Check.run c d context) := by
  unfold requestNormalized checks
  simp only [List.forM_cons, List.forM_append, ← effect_table, ← effect_body, Check.run]
  cases Text.isBlankText d.requestUrl with
  | true => rfl
  | false =>
    simp only [Bool.false_eq_true, if_false, map_eq_pure_bind, bind_assoc, pure_bind]
    rfl

/-- There is a request exactly if all checks go well, and the session is then the one that they
leave. Otherwise the error is that of the first check that fails, and the session the one that the
checks up to this one leave. -/
theorem request_fails_iff (before after : Session) :
    ((∃ r, (c.request d context).run.run before = (.ok r, after)) ↔
        Check.AllPass c context (checks (d.normalized c.marks) context) before after) ∧
      ∀ e, (c.request d context).run.run before = (.error e, after) ↔
        ∃ passed check rest between,
          checks (d.normalized c.marks) context = passed ++ check :: rest ∧
            Check.AllPass c context passed before between ∧
            check.Fails c (d.normalized c.marks) context between e after := by
  have heffect : (fun _ => ()) <$> c.request d context =
      forM (checks (d.normalized c.marks) context) (Check.run c (d.normalized c.marks) context) :=
    effect_requestNormalized c (d.normalized c.marks) context
  refine ⟨?_, fun e => ?_⟩
  · rw [← Compiling.run_effect_eq_ok_iff, heffect]
    exact Check.forM_eq_ok_iff
  · rw [← Compiling.run_effect_eq_error_iff, heffect]
    exact Check.forM_eq_error_iff

end Compiler

end UploadTemplate
