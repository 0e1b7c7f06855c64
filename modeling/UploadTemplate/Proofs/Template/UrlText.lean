import UploadTemplate.Proofs.Template.Calls
import UploadTemplate.Proofs.Template.Parallel
import UploadTemplate.Proofs.Text.Percent
import UploadTemplate.Template.Interpret

/-!
# Templates of URLs

What the functions of a template give is encoded before it enters the template. Under percent coding
it can therefore bring no mark of a URL with it: all of them are literal.

- `Interpreter.answer`: what a function gives to a call, before it is encoded.
- `Interpreter.interpret_eq_fill`: a template is interpreted by filling in what its outermost calls
  give, encoded.
- `Interpreter.interpret_url_reserved`: the marks of an interpreted URL.
-/

namespace UploadTemplate.Interpreter

/-- The interpreter with another encoding. -/
def under (i : Interpreter) (e : Encoding) : Interpreter := { i with encoding := e }

/-- What a function gives to a call, before it is encoded. -/
def answer (i : Interpreter) : Caller Error Draws := (i.under .plain).call

theorem call_eq_map (i : Interpreter) (name : Text) (parameters : List Text) :
    i.call name parameters = i.encoding.apply <$> i.answer name parameters := by
  unfold answer call under
  simp only
  split
  · rfl
  · split
    · rfl
    · simp only [map_eq_pure_bind, bind_assoc, pure_bind, Encoding.apply, id]

theorem interpret_eq_fill (i : Interpreter) (t : Text) :
    i.interpret t =
      (fun outputs => Template.fill (outputs.map i.encoding.apply) (Template.ofText i.marks t)) <$>
        Template.outermost i.call i.answer (Template.ofText i.marks t) :=
  Template.eval_eq_fill i.encoding.apply i.call_eq_map _

theorem filter_interpret_url {i : Interpreter} (hi : i.encoding = .url) {t u : Text}
    {before after : Draws} (h : (i.interpret t).run.run before = (.ok u, after)) :
    u.filter Percent.isReserved =
      (Template.literals (Template.ofText i.marks t)).filter Percent.isReserved := by
  rw [interpret_eq_fill, hi] at h
  -- It does not matter what the outermost calls give, as all of it is encoded.
  generalize Template.outermost i.call i.answer (Template.ofText i.marks t) = x at h
  obtain ⟨outputs, rfl⟩ : ∃ outputs : List Text,
      Template.fill (outputs.map Percent.encode) (Template.ofText i.marks t) = u := by
    rw [Computation.run_map] at h
    rcases hx : x.run.run before with ⟨e | outputs, between⟩ <;> rw [hx] at h <;> cases h
    exact ⟨outputs, rfl⟩
  refine Template.filter_fill fun output hm => ?_
  obtain ⟨given, -, rfl⟩ := List.mem_map.1 hm
  exact Percent.filter_encode given

/-- Whatever two contexts make the functions of a URL template give, and whichever functions they
make it call: the reserved characters of the two URLs are the same. They are those that stand in the
template outside its calls. -/
theorem interpret_url_reserved {registry : Registry} {marks : Marks} {context context' : Context}
    {t u u' : Text} {before before' after after' : Draws}
    (h : (interpret ⟨registry, context, marks, .url⟩ t).run.run before = (.ok u, after))
    (h' : (interpret ⟨registry, context', marks, .url⟩ t).run.run before' = (.ok u', after')) :
    u.filter Percent.isReserved = u'.filter Percent.isReserved ∧
      u.filter Percent.isReserved =
        (Template.literals (Template.ofText marks t)).filter Percent.isReserved ∧
      ∀ c ∈ "/?#&=:@ ".toList, Percent.isReserved c = true := by
  have hu := filter_interpret_url rfl h
  have hu' := filter_interpret_url rfl h'
  have hmarks : "/?#&=:@ ".toList.all Percent.isReserved = true := by decide +kernel
  exact ⟨hu.trans hu'.symm, hu, List.all_eq_true.1 hmarks⟩

/-- The input names the function whose text goes into the URL: once the file name, with two marks of
a URL in it, and once the input itself. -/
theorem interpret_url_reserved_named :
    let t : Text := "a/\x7b\x7binput\x7d\x7d?x=1".toList
    let context : Context := ⟨some "b/c?d".toList, some "filename".toList, none⟩
    let context' : Context := ⟨some "b/c?d".toList, some "input".toList, none⟩
    let before : Draws := ⟨fun _ => 0, 0⟩
    ∃ u u' after after',
      (interpret ⟨.standard, context, .standard, .url⟩ t).run.run before = (.ok u, after) ∧
      (interpret ⟨.standard, context', .standard, .url⟩ t).run.run before = (.ok u', after') ∧
      u = "a/b%2Fc%3Fd?x=1".toList ∧ u' = "a/input?x=1".toList ∧
      u.filter Percent.isReserved = u'.filter Percent.isReserved := by
  intro t context context' before
  have hu : ((interpret ⟨.standard, context, .standard, .url⟩ t).run.run before).1.toOption =
      some "a/b%2Fc%3Fd?x=1".toList := by decide +kernel
  have hu' : ((interpret ⟨.standard, context', .standard, .url⟩ t).run.run before).1.toOption =
      some "a/input?x=1".toList := by decide +kernel
  rcases h : (interpret ⟨.standard, context, .standard, .url⟩ t).run.run before with ⟨e | u, after⟩
  · rw [h] at hu
    cases hu
  rcases h' : (interpret ⟨.standard, context', .standard, .url⟩ t).run.run before with
    ⟨e | u', after'⟩
  · rw [h'] at hu'
    cases hu'
  rw [h] at hu
  rw [h'] at hu'
  exact ⟨u, u', after, after', rfl, rfl, Option.some.inj hu, Option.some.inj hu',
    (interpret_url_reserved h h').1⟩

end UploadTemplate.Interpreter
