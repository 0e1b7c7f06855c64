import UploadTemplate.Proofs.Template.Parallel
import UploadTemplate.Template.Interpret

/-!
# Templates without chance

Where no function draws a random number, the text of a template depends on the context alone. It
does not matter what has been interpreted before.

- `Registry.IsSettled`: no function of the registry draws a random number.
- `Interpreter.reading`: what a template comes to.
- `Interpreter.run_interpret`: it comes to that from whatever draws, and leaves them as they are.
-/

namespace UploadTemplate

/-- The function draws nothing: its answer is determined by the context and the parameters. -/
def Function.IsSettled (f : Function) : Prop :=
  ∀ c ps, ∃ answer, ∀ s, (f.run c ps).run.run s = (answer, s)

/-- No function of the registry draws a random number. -/
def Registry.IsSettled (r : Registry) : Prop := ∀ f ∈ r.functions, f.IsSettled

theorem Function.isSettled_ofAnswer (name : Text) (aliases : List Text) (minimum : Nat)
    (answer : Context → List Text → Except Failure Text) :
    (ofAnswer name aliases minimum answer).IsSettled := fun c ps => ⟨answer c ps, fun _ => rfl⟩

namespace Registry

theorem isSettled_empty : empty.IsSettled := fun _ h => by cases h

theorem IsSettled.register {r : Registry} (h : r.IsSettled) {f : Function} (hf : f.IsSettled) :
    (r.register f).IsSettled := by
  intro g hg
  rcases List.mem_append.1 hg with hg | hg
  · exact h g hg
  · exact List.mem_singleton.1 hg ▸ hf

theorem mem_of_get? {r : Registry} {name : Text} {f : Function} (h : r.get? name = some f) :
    f ∈ r.functions := by
  obtain ⟨i, -, hi⟩ := Option.bind_eq_some_iff.1 h
  exact List.mem_of_getElem? hi

end Registry

namespace Interpreter

theorem exists_run_call {i : Interpreter} (h : i.registry.IsSettled) (name : Text)
    (parameters : List Text) :
    ∃ answer, ∀ s, (i.call name parameters).run.run s = (answer, s) := by
  unfold call
  cases hf : i.registry.get? name with
  | none => exact ⟨.error (.invalidFunctionName name), fun _ => rfl⟩
  | some f =>
    simp only
    split
    · exact ⟨_, fun _ => rfl⟩
    · obtain ⟨answer, hanswer⟩ := h f (Registry.mem_of_get? hf) i.context parameters
      refine ⟨(answer.mapError (Error.functionFailed f.name)).map i.encoding.apply, fun s => ?_⟩
      rw [Computation.run_bind, Computation.run_adapt, hanswer s]
      cases answer <;> rfl

/-- What a template comes to, if no function draws a random number. -/
def reading (i : Interpreter) (t : Text) : Except Error Text :=
  ((i.interpret t).run.run ⟨fun _ => 0, 0⟩).1

theorem run_interpret {i : Interpreter} (h : i.registry.IsSettled) (t : Text) (s : Draws) :
    (i.interpret t).run.run s = (i.reading t, s) := by
  have hcall (name : Text) (parameters : List Text) : Parallel.settled.Holds
      (i.call name parameters) ((i.call name parameters).run.run ⟨fun _ => 0, 0⟩).1 := by
    obtain ⟨answer, hanswer⟩ := exists_run_call h name parameters
    intro s
    rw [hanswer, hanswer]
  have hrun := Template.eval_parallel Parallel.settled hcall (Template.ofText i.marks t)
  unfold reading interpret Template.expand
  rw [hrun s, hrun]

end Interpreter

end UploadTemplate
