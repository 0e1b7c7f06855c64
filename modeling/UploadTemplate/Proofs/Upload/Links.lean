import UploadTemplate.Proofs.Template.Settled
import UploadTemplate.Upload.Result

/-!
# The fields of a result

Each link of a result is read by a template of its own. If no function draws a random number, what
becomes of one template has no effect on the others: a template that fails leaves its own link out
and one diagnostic behind.

- `Interpreter.link`, `Interpreter.fault`: what a template gives on its own, and why it fails.
- `Compiler.run_resolve`: a template among others is what it is on its own.
- `UploadResult.about`: what a result says of a field.
- `Compiler.about_success_withTemplate`, `Compiler.about_failure_withTemplate`: it does not depend
  on the templates of other fields.
- `Compiler.result_fields`: the links and diagnostics of a result.
-/

namespace UploadTemplate

/-! ### Templates by field -/

namespace Destination

/-- The template that reads a field of a response. -/
def template (d : Destination) : Field → Text
  | .url => d.url
  | .thumbnailUrl => d.thumbnailUrl
  | .deletionUrl => d.deletionUrl
  | .errorMessage => d.errorMessage
  | _ => []

/-- The destination with `t` for the template of a field. -/
def withTemplate (d : Destination) (field : Field) (t : Text) : Destination :=
  let choose (f : Field) : Text := if f = field then t else d.template f
  { d with
    url := choose .url
    thumbnailUrl := choose .thumbnailUrl
    deletionUrl := choose .deletionUrl
    errorMessage := choose .errorMessage }

theorem template_withTemplate {field other : Field} (h : other ≠ field) (d : Destination)
    (t : Text) : (d.withTemplate field t).template other = d.template other := by
  cases other <;> first | rfl | exact if_neg h

end Destination

/-! ### What a result says of a field -/

/-- The diagnostic comes from the template of the field. -/
def Diagnostic.isAbout (field : Field) : Diagnostic → Bool
  | .reported _ => field = .errorMessage
  | .unreadable _ _ f _ => f = field
  | .status .. => false

/-- The links that are read for a field, and what its template leaves among the diagnostics. -/
def UploadResult.about (r : UploadResult) (field : Field) : List (Option Text) × List Diagnostic :=
  let links :=
    match field with
    | .url => [r.url, r.shortenedUrl]
    | .thumbnailUrl => [r.thumbnailUrl]
    | .deletionUrl => [r.deletionUrl]
    | _ => []
  (links, r.errors.filter (Diagnostic.isAbout field))

/-! ### Single templates -/

namespace Interpreter

/-- The text that a template gives on its own, unless it is blank, fails or gives an empty one. -/
def link (i : Interpreter) (t : Text) : Option Text :=
  if Text.isBlankText t then none else (i.reading t).toOption.filter fun u => !u.isEmpty

/-- Why a template fails on its own. A blank one does not. -/
def fault (i : Interpreter) (t : Text) : Option Error :=
  if Text.isBlankText t then none
  else
    match i.reading t with
    | .ok _ => none
    | .error e => some e

/-- The diagnostic of a field, if its template fails. -/
def diagnostics (i : Interpreter) (d : Destination) (field : Field) : List Diagnostic :=
  ((i.fault (d.template field)).map (.unreadable d.name d.host field)).toList

theorem diagnostics_withTemplate (i : Interpreter) {field other : Field} (h : other ≠ field)
    (d : Destination) (t : Text) :
    i.diagnostics (d.withTemplate field t) other = i.diagnostics d other := by
  unfold diagnostics
  rw [Destination.template_withTemplate h]
  rfl

theorem filter_diagnostics (i : Interpreter) (d : Destination) (field other : Field) :
    (i.diagnostics d field).filter (Diagnostic.isAbout other) =
      if field = other then i.diagnostics d other else [] := by
  unfold diagnostics
  by_cases h : field = other
  · subst h
    cases i.fault (d.template field) <;> simp [Diagnostic.isAbout]
  · cases i.fault (d.template field) <;> simp [Diagnostic.isAbout, h]

end Interpreter

namespace Compiler

theorem run_bind {α β : Type} (x : StateM Draws α) (f : α → StateM Draws β) (s : Draws) :
    (x >>= f).run s = (f (x.run s).1).run (x.run s).2 := rfl

section Settled

variable {i : Interpreter} (h : i.registry.IsSettled) (d : Destination) (response : Response)
  (s : Draws)

include h

/-- A template among others is what it is on its own. -/
theorem run_resolve (field : Field) : (resolve i d field (d.template field)).run s =
    ((i.link (d.template field), i.diagnostics d field), s) := by
  unfold resolve Interpreter.diagnostics Interpreter.link Interpreter.fault
  cases Text.isBlankText (d.template field) with
  | true => rfl
  | false =>
    have hread : ((i.interpret (d.template field)).run.run s) = (i.reading (d.template field), s) :=
      Interpreter.run_interpret h _ s
    simp only [Bool.false_eq_true, if_false]
    rw [run_bind, hread]
    cases i.reading (d.template field) with
    | error e => rfl
    | ok u => cases u <;> rfl

/-- The main link: without a template for it, the whole body. -/
theorem run_mainLink : (mainLink i d response).run s =
    ((if Text.isBlankText d.url then some response.body else i.link d.url,
      i.diagnostics d .url), s) := by
  unfold mainLink
  cases hblank : Text.isBlankText d.url with
  | true =>
    have hfault : i.fault (d.template .url) = none := if_pos hblank
    simp only [if_true]
    rw [Interpreter.diagnostics, hfault]
    rfl
  | false => exact run_resolve h d s .url

theorem run_success :
    let link := if Text.isBlankText d.url then some response.body else i.link d.url
    (success i d response).run s =
      ({ url := if d.isShortener then none else link
         shortenedUrl := if d.isShortener then link else none
         thumbnailUrl := i.link d.thumbnailUrl
         deletionUrl := i.link d.deletionUrl
         errors := [Field.url, .thumbnailUrl, .deletionUrl].flatMap (i.diagnostics d) }, s) := by
  intro link
  have hthumbnail : (resolve i d .thumbnailUrl d.thumbnailUrl).run s =
      ((i.link d.thumbnailUrl, i.diagnostics d .thumbnailUrl), s) := run_resolve h d s .thumbnailUrl
  have hdeletion : (resolve i d .deletionUrl d.deletionUrl).run s =
      ((i.link d.deletionUrl, i.diagnostics d .deletionUrl), s) := run_resolve h d s .deletionUrl
  have herrors : [Field.url, .thumbnailUrl, .deletionUrl].flatMap (i.diagnostics d) =
      i.diagnostics d .url ++ i.diagnostics d .thumbnailUrl ++ i.diagnostics d .deletionUrl := by
    simp
  -- Every template leaves the draws as they are, so that the next one starts from `s` again.
  unfold success
  rw [run_bind, run_mainLink h]
  simp only
  rw [run_bind, hthumbnail]
  simp only
  rw [run_bind, hdeletion, herrors]
  rfl

theorem run_failure :
    (failure i d response).run s =
      ({ errors := ((i.link d.errorMessage).map Diagnostic.reported).toList ++
          i.diagnostics d .errorMessage ++ [.status d.name d.host response.status] }, s) := by
  have hmessage : (resolve i d .errorMessage d.errorMessage).run s =
      ((i.link d.errorMessage, i.diagnostics d .errorMessage), s) := run_resolve h d s .errorMessage
  unfold failure
  rw [run_bind, hmessage]
  rfl

theorem about_success_withTemplate {field other : Field} (hne : other ≠ field) (t : Text) :
    ((success i (d.withTemplate field t) response).run s).1.about other =
      ((success i d response).run s).1.about other := by
  have hdiagnostics := i.diagnostics_withTemplate hne d t
  have htemplate := Destination.template_withTemplate hne d t
  rw [run_success h, run_success h]
  unfold UploadResult.about
  simp only [List.filter_flatMap, Interpreter.filter_diagnostics, hdiagnostics]
  cases other with
  | url =>
    have hurl : (d.withTemplate field t).url = d.url := htemplate
    rw [hurl]
    rfl
  | thumbnailUrl =>
    have hthumbnail : (d.withTemplate field t).thumbnailUrl = d.thumbnailUrl := htemplate
    rw [hthumbnail]
  | deletionUrl =>
    have hdeletion : (d.withTemplate field t).deletionUrl = d.deletionUrl := htemplate
    rw [hdeletion]
  | _ => rfl

theorem about_failure_withTemplate {field other : Field} (hne : other ≠ field) (t : Text) :
    ((failure i (d.withTemplate field t) response).run s).1.about other =
      ((failure i d response).run s).1.about other := by
  have hdiagnostics := i.diagnostics_withTemplate hne d t
  have htemplate := Destination.template_withTemplate hne d t
  rw [run_failure h, run_failure h]
  unfold UploadResult.about
  simp only [List.filter_append, Interpreter.filter_diagnostics, hdiagnostics]
  -- What the host says comes from the template of the message and is about no other field.
  by_cases hother : other = .errorMessage
  · subst hother
    have hmessage : (d.withTemplate field t).errorMessage = d.errorMessage := htemplate
    rw [hmessage]
    rfl
  · have hnone (message : Option Text) :
        (message.map Diagnostic.reported).toList.filter (Diagnostic.isAbout other) = [] := by
      cases message <;> simp [Diagnostic.isAbout, hother]
    rw [hnone, hnone]
    rfl

end Settled

/-! ### Results -/

/-- If no function draws a random number, every template is interpreted as on its own. A successful
response gives a link for each of three fields, with one diagnostic for each template that fails, in
the order of the fields; any other gives no link, what the host says, and its status. Another
template for one field changes nothing in what is said of the others. -/
theorem result_fields {c : Compiler} (h : c.registry.IsSettled) (d : Destination)
    (response : Response) (context : Context) (s : Draws) :
    let i := c.interpreter (context.withResponse response) .plain
    let r := ((c.result d response context).run s).1
    (∀ t s, (i.interpret t).run.run s = (i.reading t, s)) ∧
    (response.success = true →
      let link := if Text.isBlankText d.url then some response.body else i.link d.url
      (r.shortenedUrl, r.url) = (if d.isShortener then (link, none) else (none, link)) ∧
      r.thumbnailUrl = i.link d.thumbnailUrl ∧
      r.deletionUrl = i.link d.deletionUrl ∧
      r.errors = [Field.url, .thumbnailUrl, .deletionUrl].flatMap (i.diagnostics d)) ∧
    (response.success = false →
      r.url = none ∧ r.shortenedUrl = none ∧ r.thumbnailUrl = none ∧ r.deletionUrl = none ∧
      r.errors = ((i.link d.errorMessage).map Diagnostic.reported).toList ++
        i.diagnostics d .errorMessage ++ [.status d.name d.host response.status]) ∧
    ∀ field other t, other ≠ field →
      ((c.result (d.withTemplate field t) response context).run s).1.about other =
        r.about other := by
  intro i r
  have hi : i.registry.IsSettled := h
  have hresult (d : Destination) : c.result d response context =
      if response.success then success i d response else failure i d response := rfl
  refine ⟨Interpreter.run_interpret hi, fun hsuccess => ?_, fun hfailure => ?_,
    fun field other t hne => ?_⟩
  · intro link
    have hr : r = ((success i d response).run s).1 := by
      unfold r
      rw [hresult, if_pos hsuccess]
    rw [hr, run_success hi]
    refine ⟨?_, rfl, rfl, rfl⟩
    cases d.isShortener <;> rfl
  · have hr : r = ((failure i d response).run s).1 := by
      unfold r
      rw [hresult, hfailure, if_neg Bool.false_ne_true]
    rw [hr, run_failure hi]
    exact ⟨rfl, rfl, rfl, rfl, rfl⟩
  · unfold r
    rw [hresult, hresult]
    split
    · exact about_success_withTemplate hi d response s hne t
    · exact about_failure_withTemplate hi d response s hne t

/-- The body is the short link, one template asks for a function that does not exist, and another
one is read as if that had not happened. -/
theorem result_fields_unknown :
    let c : Compiler :=
      ⟨Registry.empty.register .response, .standard, .standard ⟨.empty, ⟨[]⟩, ⟨0, 0, 0⟩⟩⟩
    let d : Destination :=
      { name := "x".toList, requestUrl := "https://h.example/".toList,
        purposes := some "URLShortener".toList, url := " ".toList,
        thumbnailUrl := "\x7bnone\x7d".toList, deletionUrl := "\x7bresponse\x7d/-".toList }
    let response := Response.of 200 "https://h.example/1".toList
    let r (d : Destination) := ((c.result d response ⟨none, none, none⟩).run ⟨fun _ => 0, 0⟩).1
    c.registry.IsSettled ∧ response.success = true ∧
      (r d).shortenedUrl = some "https://h.example/1".toList ∧ (r d).url = none ∧
      (r d).thumbnailUrl = none ∧ (r d).deletionUrl = some "https://h.example/1/-".toList ∧
      (r d).errors = [.unreadable "x".toList "h.example".toList .thumbnailUrl
        (.invalidFunctionName "none".toList)] ∧
      (r (d.withTemplate .thumbnailUrl [])).about .deletionUrl = (r d).about .deletionUrl := by
  intro c d response r
  have hsettled : c.registry.IsSettled :=
    Registry.isSettled_empty.register (Function.isSettled_ofAnswer _ _ _ _)
  have hsuccess : response.success = true := by decide
  obtain ⟨-, hfields, -, hothers⟩ :=
    result_fields hsettled d response ⟨none, none, none⟩ ⟨fun _ => 0, 0⟩
  obtain ⟨hlinks, hthumbnail, hdeletion, herrors⟩ := hfields hsuccess
  have hshort : d.isShortener = true := by decide +kernel
  rw [if_pos hshort] at hlinks
  obtain ⟨hshortened, hurl⟩ := Prod.mk.inj hlinks
  exact ⟨hsettled, hsuccess, hshortened.trans (by decide +kernel), hurl,
    hthumbnail.trans (by decide +kernel), hdeletion.trans (by decide +kernel),
    herrors.trans (by decide +kernel), hothers .thumbnailUrl .deletionUrl [] (by decide)⟩

end Compiler

end UploadTemplate
