import UploadTemplate.Proofs.Template.Settled
import UploadTemplate.Proofs.Template.UrlText

/-!
# Templates under two encodings

The texts of the outermost calls enter the text of a template, so their encoding shows in the output
alone. The text of a call inside another enters a name or a parameter: the functions outside see it
encoded, and two encodings may make them different calls.

- `Interpreter.course`: how the interpretation of a template goes, with every call written down.
- `Interpreter.course_under`: a course that two encodings do not tell apart is the same under both.
- `Interpreter.calls_encoded_input`: two encodings may tell courses apart.
- `Interpreter.interpret_encodings`: what two encodings do to a template otherwise.
-/

namespace UploadTemplate

/-- A call that is made while a template is interpreted. -/
structure Dispatch where
  call : Call
  /-- Whether it stands in the name or in a parameter of another call. -/
  nested : Bool
  /-- What the function gives, before it is encoded; nothing if it fails. -/
  given : Option Text
  deriving DecidableEq

/-- Two encodings write what a nested call gives alike. -/
def Dispatch.Alike (e e' : Encoding) (d : Dispatch) : Prop :=
  d.nested = true → ∀ out ∈ d.given, e.apply out = e'.apply out

instance (e e' : Encoding) (d : Dispatch) : Decidable (d.Alike e e') :=
  inferInstanceAs (Decidable (d.nested = true → ∀ out ∈ d.given, e.apply out = e'.apply out))

/-- How the interpretation of a template goes. -/
structure Course where
  /-- What the outermost calls give, before it is encoded. -/
  outputs : Except Error (List Text)
  draws : Draws
  dispatches : List Dispatch

/-- A computation that leaves more dispatches behind. If two encodings write these alike, the other
computation does the same. -/
def Parallel.alike (e e' : Encoding) : Parallel (ExceptT Error (StateM (Draws × List Dispatch)))
    (ExceptT Error (StateM (Draws × List Dispatch))) where
  Holds x y := ∀ s log, ∃ new, (x.run.run (s, log)).2.2 = log ++ new ∧
    ((∀ d ∈ new, d.Alike e e') → y.run.run (s, log) = x.run.run (s, log))
  pure _ _ _ := ⟨[], (List.append_nil _).symm, fun _ => rfl⟩
  bind {_ _ x y f g} hx hf s log := by
    obtain ⟨new, hnew, hsame⟩ := hx s log
    rw [Computation.run_bind, Computation.run_bind]
    rcases hrun : x.run.run (s, log) with ⟨error | a, s', log'⟩ <;> rw [hrun] at hnew hsame
    · exact ⟨new, hnew, fun h => by rw [hsame h]⟩
    · obtain rfl : log' = log ++ new := hnew
      -- The second part starts with the log that the first one leaves, under either encoding.
      obtain ⟨new', hnew', hsame'⟩ := hf a s' (log ++ new)
      refine ⟨new ++ new', hnew'.trans (List.append_assoc _ _ _), fun h => ?_⟩
      rw [hsame fun d hd => h d (List.mem_append_left _ hd)]
      exact hsame' fun d hd => h d (List.mem_append_right _ hd)

namespace Interpreter

/-- `answer`, which also writes down what it is asked and what it gives. -/
def noted (i : Interpreter) (nested : Bool) : Caller Error (Draws × List Dispatch) :=
  fun name parameters => ExceptT.mk fun (s, log) =>
    let (r, s) := (i.answer name parameters).run s
    (r, (s, log ++ [⟨(name, parameters), nested, r.toOption⟩]))

/-- The texts of nested calls, which are encoded. -/
def notedInner (i : Interpreter) : Caller Error (Draws × List Dispatch) :=
  fun name parameters => i.encoding.apply <$> i.noted true name parameters

def course (i : Interpreter) (t : Text) (s : Draws) : Course :=
  let (outputs, draws, dispatches) :=
    (Template.outermost i.notedInner (i.noted false) (Template.ofText i.marks t)).run.run (s, [])
  ⟨outputs, draws, dispatches⟩

/-! ### Courses and conversations -/

theorem run_noted (i : Interpreter) (nested : Bool) (name : Text) (parameters : List Text)
    (s : Draws) (log : List Dispatch) :
    (i.noted nested name parameters).run.run (s, log) =
      (((i.answer name parameters).run.run s).1, ((i.answer name parameters).run.run s).2,
        log ++ [⟨(name, parameters), nested,
          ((i.answer name parameters).run.run s).1.toOption⟩]) := rfl

theorem recorded_call_eq_map (i : Interpreter) (name : Text) (parameters : List Text) :
    (Caller.recorded i.call) name parameters =
      i.encoding.apply <$> i.answer.recorded name parameters := by
  apply ExceptT.ext
  funext ⟨s, log⟩
  have hrun : (Caller.recorded i.call name parameters).run.run (s, log) =
      (i.encoding.apply <$> i.answer.recorded name parameters).run.run (s, log) := by
    rw [Computation.run_map, Caller.run_recorded, Caller.run_recorded, call_eq_map,
      Computation.run_map]
  exact hrun

/-- The calls of a course are the calls that are made, in their order, and its text is the text of
the template. -/
theorem run_recorded_expand (i : Interpreter) (t : Text) (s : Draws) :
    (Template.expand i.marks (Caller.recorded i.call) t).run.run (s, []) =
      ((i.course t s).outputs.map fun outputs =>
          Template.fill (outputs.map i.encoding.apply) (Template.ofText i.marks t),
        (i.course t s).draws, (i.course t s).dispatches.map (·.call)) := by
  let R : Parallel (ExceptT Error (StateM (Draws × List Call)))
      (ExceptT Error (StateM (Draws × List Dispatch))) :=
    .project fun st => (st.1, st.2.map (·.call))
  have hanswer (nested : Bool) (name : Text) (parameters : List Text) :
      R.Holds (i.answer.recorded name parameters) (i.noted nested name parameters) := by
    intro ⟨s, log⟩
    have hlog (given : Option Text) :
        List.map Dispatch.call (log ++ [⟨(name, parameters), nested, given⟩]) =
          log.map (·.call) ++ [(name, parameters)] := List.map_append
    refine (Caller.run_recorded i.answer name parameters s (log.map (·.call))).trans ?_
    exact Prod.ext rfl (Prod.ext rfl (hlog _).symm)
  have hinner (name : Text) (parameters : List Text) :
      R.Holds ((Caller.recorded i.call) name parameters) (i.notedInner name parameters) := by
    rw [recorded_call_eq_map]
    exact R.map _ (hanswer true name parameters)
  have hrun : (Template.outermost (Caller.recorded i.call) i.answer.recorded
      (Template.ofText i.marks t)).run.run (s, []) =
        ((i.course t s).outputs, (i.course t s).draws, (i.course t s).dispatches.map (·.call)) :=
    Template.outermost_parallel R hinner (hanswer false) (Template.ofText i.marks t) (s, [])
  unfold Template.expand
  rw [Template.eval_eq_fill i.encoding.apply i.recorded_call_eq_map, Computation.run_map, hrun]

theorem run_interpret_eq_recorded (i : Interpreter) (t : Text) (s : Draws) :
    (i.interpret t).run.run s =
      (((Template.expand i.marks (Caller.recorded i.call) t).run.run (s, [])).1,
        ((Template.expand i.marks (Caller.recorded i.call) t).run.run (s, [])).2.1) := by
  obtain ⟨asked, outputs, failure, last, result, -, hrun, hlogged, -⟩ :=
    (Template.eval_follows i.call (Template.ofText i.marks t)).run s []
  unfold interpret Template.expand
  rw [hrun, hlogged]

/-! ### Two encodings -/

/-- As long as the calls inside others give texts that the encodings write alike, it does not matter
which of them is used. -/
theorem course_under (i : Interpreter) (e : Encoding) (t : Text) (s : Draws)
    (h : ∀ d ∈ (i.course t s).dispatches, d.Alike i.encoding e) :
    (i.under e).course t s = i.course t s := by
  have houter (name : Text) (parameters : List Text) : (Parallel.alike i.encoding e).Holds
      (i.noted false name parameters) (i.noted false name parameters) := fun s log =>
    ⟨_, congrArg (·.2.2) (run_noted i false name parameters s log), fun _ => rfl⟩
  have hinner (name : Text) (parameters : List Text) : (Parallel.alike i.encoding e).Holds
      (i.notedInner name parameters) ((i.under e).notedInner name parameters) := by
    intro s log
    have hnoted : (i.under e).noted true name parameters = i.noted true name parameters := rfl
    unfold notedInner
    rw [hnoted, Computation.run_map, Computation.run_map, run_noted]
    -- The one new dispatch is the call itself, so its text is one that both encodings write alike.
    refine ⟨_, rfl, fun halike => ?_⟩
    have hsame := halike _ List.mem_cons_self rfl
    rcases hgiven : (i.answer name parameters).run.run s with ⟨error | out, s'⟩
    · rfl
    · have hout : i.encoding.apply out = e.apply out := hsame out (by rw [hgiven]; rfl)
      exact Prod.ext (congrArg Except.ok hout.symm) rfl
  obtain ⟨new, hnew, hsame⟩ := Template.outermost_parallel (Parallel.alike i.encoding e) hinner
    houter (Template.ofText i.marks t) s []
  have hdispatches : (i.course t s).dispatches = new := hnew
  have hrun := hsame (hdispatches ▸ h)
  have hnoted : (i.under e).noted false = i.noted false := rfl
  have hmarks : (i.under e).marks = i.marks := rfl
  unfold course
  rw [hnoted, hmarks, hrun]

/-- A function that sees the input in its parameter sees it encoded. Under percent coding it is not
the same call as without an encoding, and what it gives does not decode to what it gives there. -/
theorem calls_encoded_input :
    let echo : Function := .ofAnswer "echo".toList [] 0 fun _ ps => .ok ('<' :: ps.flatten ++ ['>'])
    let i : Interpreter := ⟨(Registry.empty.register .input).register echo,
      ⟨none, some "a b".toList, none⟩, .standard, .plain⟩
    let run (e : Encoding) := (Template.expand i.marks (Caller.recorded (i.under e).call)
      "\x7becho:\x7binput\x7d\x7d".toList).run.run (⟨fun _ => 0, 0⟩, [])
    i.registry.IsSettled ∧
      (run .plain).2.2 = [("input".toList, []), ("echo".toList, ["a b".toList])] ∧
      (run .url).2.2 = [("input".toList, []), ("echo".toList, ["a%20b".toList])] ∧
      (run .plain).2.2 ≠ (run .url).2.2 ∧
      (run .plain).1.toOption = some "<a b>".toList ∧
      (run .url).1.toOption.map Percent.decode = some "<a%20b>".toList := by
  intro echo i run
  have hsettled : i.registry.IsSettled :=
    (Registry.isSettled_empty.register (Function.isSettled_ofAnswer _ _ _ _)).register
      (Function.isSettled_ofAnswer _ _ _ _)
  exact ⟨hsettled, by decide +kernel, by decide +kernel, by decide +kernel, by decide +kernel,
    by decide +kernel⟩

/-- If every call inside another gives a text that two encodings write alike, interpreting a
template makes the same calls under both, and both end with the same error or with texts in which
only the outputs of the outermost calls are written differently. What percent coding writes of an
output decodes to what is there without an encoding. -/
theorem interpret_encodings (i : Interpreter) (e : Encoding) (t : Text) (s : Draws)
    (h : ∀ d ∈ (i.course t s).dispatches, d.Alike i.encoding e) :
    let course := i.course t s
    (∀ j ∈ [i, i.under e],
      let text := course.outputs.map fun outputs =>
        Template.fill (outputs.map j.encoding.apply) (Template.ofText i.marks t)
      (j.interpret t).run.run s = (text, course.draws) ∧
      (Template.expand j.marks (Caller.recorded j.call) t).run.run (s, []) =
        (text, course.draws, course.dispatches.map (·.call))) ∧
    ∀ out, Percent.decode (Encoding.url.apply out) = Encoding.plain.apply out := by
  intro course
  refine ⟨fun j hj => ?_, Percent.decode_encode⟩
  have hcourse : j.course t s = course ∧ j.marks = i.marks := by
    simp only [List.mem_cons, List.not_mem_nil, or_false] at hj
    rcases hj with rfl | rfl
    · exact ⟨rfl, rfl⟩
    · exact ⟨course_under i e t s h, rfl⟩
  have hrecorded := run_recorded_expand j t s
  rw [hcourse.1] at hrecorded
  intro text
  rw [run_interpret_eq_recorded, hrecorded, hcourse.2]
  exact ⟨rfl, rfl⟩

/-- The input is a parameter and has no reserved character; the file name has one. -/
theorem interpret_encodings_nested :
    let i : Interpreter :=
      ⟨.standard, ⟨some "b/c".toList, some "x".toList, none⟩, .standard, .url⟩
    let t : Text := "a/\x7bfilename:\x7binput\x7d\x7d".toList
    let s : Draws := ⟨fun _ => 0, 0⟩
    let calls (j : Interpreter) :=
      ((Template.expand j.marks (Caller.recorded j.call) t).run.run (s, [])).2.2
    (∀ d ∈ (i.course t s).dispatches, d.Alike i.encoding .plain) ∧
      ((i.interpret t).run.run s).1.toOption = some "a/b%2Fc".toList ∧
      (((i.under .plain).interpret t).run.run s).1.toOption = some "a/b/c".toList ∧
      calls (i.under .plain) = calls i := by
  intro i t s calls
  have halike : ∀ d ∈ (i.course t s).dispatches, d.Alike i.encoding .plain := by decide +kernel
  obtain ⟨hruns, -⟩ := interpret_encodings i .plain t s halike
  obtain ⟨hurl, hcalls⟩ := hruns i List.mem_cons_self
  obtain ⟨hplain, hcalls'⟩ := hruns (i.under .plain) (List.mem_cons_of_mem _ List.mem_cons_self)
  refine ⟨halike, ?_, ?_, ?_⟩
  · rw [hurl]
    decide +kernel
  · rw [hplain]
    decide +kernel
  · exact (congrArg (·.2.2) hcalls').trans (congrArg (·.2.2) hcalls).symm

end Interpreter

end UploadTemplate
