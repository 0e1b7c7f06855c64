import UploadTemplate.Proofs.Template.BuiltIn
import UploadTemplate.Proofs.Template.Registry
import UploadTemplate.Proofs.Template.Settled

/-!
# Which calls are refused

A template fails with the error of its first call that fails, and there are three ways to fail: no
function answers to the name, the one that does is given too few parameters, or its body ran and
failed. The bodies that run are written down to see that none of them runs on too few parameters.

- `Interpreter.watched`, `Interpreter.trace`: calls as the interpreter answers them, and a template,
  with the bodies that run.
- `Interpreter.Refused`: a call that fails, why, and what ran for it.
- `Interpreter.watched_cases`: what a call can do.
- `Interpreter.refused_of_error`: every call that fails does so in one of these ways.
- `Interpreter.interpret_error`: how templates fail, and which bodies run.
-/

namespace UploadTemplate

/-- The body of a function, run on some parameters. -/
structure BodyRun where
  function : Function
  parameters : List Text

namespace Interpreter

/-- The text of one call, where `body` runs the bodies of functions. -/
def callWith {σ : Type} (i : Interpreter)
    (body : Function → List Text → ExceptT Failure (StateM σ) Text) : Caller Error σ :=
  fun name parameters =>
    match i.registry.get? name with
    | none => throw (.invalidFunctionName name)
    | some f =>
      if parameters.length < f.minimum then
        throw (.minimumParameterCount f.name f.minimum parameters.length)
      else do
        let output ← ExceptT.adapt (Error.functionFailed f.name) (body f parameters)
        return i.encoding.apply output

theorem call_eq_callWith (i : Interpreter) :
    i.call = i.callWith fun f parameters => f.run i.context parameters := rfl

/-- Runs the body of a function and writes down that it ran. -/
def runBody (i : Interpreter) (f : Function) (parameters : List Text) :
    ExceptT Failure (StateM (Draws × List BodyRun)) Text :=
  ExceptT.mk fun (d, runs) =>
    let (answer, d) := (f.run i.context parameters).run.run d
    (answer, (d, runs ++ [⟨f, parameters⟩]))

/-- The calls as the interpreter answers them, where every body that runs is written down. -/
def watched (i : Interpreter) : Caller Error (Draws × List BodyRun) := i.callWith i.runBody

/-- What a template comes to, the draws after it, and the bodies that ran for it. -/
def trace (i : Interpreter) (t : Text) (s : Draws) : Except Error Text × Draws × List BodyRun :=
  (Template.expand i.marks i.watched t).run.run (s, [])

/-- Why a call has no text, with the state before and after it. -/
inductive Refused (i : Interpreter) (name : Text) (parameters : List Text) :
    Draws × List BodyRun → Error → Draws × List BodyRun → Prop where
  /-- No function answers to the name. Nothing runs. -/
  | unknown (s : Draws × List BodyRun) :
      (∀ f ∈ i.registry.functions, f.answersTo name = false) →
      Refused i name parameters s (.invalidFunctionName name) s
  /-- The last function that answers to it is given too few parameters. Nothing runs. -/
  | few {f : Function} (s : Draws × List BodyRun) : i.registry.latest? name = some f →
      parameters.length < f.minimum →
      Refused i name parameters s
        (.minimumParameterCount f.name f.minimum parameters.length) s
  /-- The last function that answers to it is given enough. Its body runs and fails. -/
  | failed {f : Function} {failure : Failure} {before after : Draws} (runs : List BodyRun) :
      i.registry.latest? name = some f → f.minimum ≤ parameters.length →
      (f.run i.context parameters).run.run before = (.error failure, after) →
      Refused i name parameters (before, runs) (.functionFailed f.name failure)
        (after, runs ++ [⟨f, parameters⟩])

/-! ### One call -/

theorem run_runBody (i : Interpreter) (f : Function) (parameters : List Text)
    (s : Draws × List BodyRun) :
    (i.runBody f parameters).run.run s =
      (((f.run i.context parameters).run.run s.1).1,
        ((f.run i.context parameters).run.run s.1).2, s.2 ++ [⟨f, parameters⟩]) := rfl

/-- What a call can do: no function is found, the one that is found is given too few parameters, or
its body runs. -/
theorem watched_cases {i : Interpreter} {name : Text} {parameters : List Text}
    {s s' : Draws × List BodyRun} {result : Except Error Text}
    (h : (i.watched name parameters).run.run s = (result, s')) :
    (i.registry.get? name = none ∧ result = .error (.invalidFunctionName name) ∧ s' = s) ∨
    ∃ f, i.registry.get? name = some f ∧
      ((parameters.length < f.minimum ∧ s' = s ∧
        result = .error (.minimumParameterCount f.name f.minimum parameters.length)) ∨
      ∃ answer after, f.minimum ≤ parameters.length ∧
        (f.run i.context parameters).run.run s.1 = (answer, after) ∧
        s' = (after, s.2 ++ [⟨f, parameters⟩]) ∧
        result = (answer.mapError (Error.functionFailed f.name)).map i.encoding.apply) := by
  unfold watched callWith at h
  cases hf : i.registry.get? name with
  | none =>
    rw [hf] at h
    cases h
    exact .inl ⟨rfl, rfl, rfl⟩
  | some f =>
    simp only [hf] at h
    refine .inr ⟨f, rfl, ?_⟩
    split at h
    · rename_i hfew
      cases h
      exact .inl ⟨hfew, rfl, rfl⟩
    · rename_i hfew
      rw [Computation.run_bind, Computation.run_adapt, run_runBody] at h
      rcases hrun : (f.run i.context parameters).run.run s.1 with ⟨answer, after⟩
      rw [hrun] at h
      refine .inr ⟨answer, after, Nat.not_lt.1 hfew, rfl, ?_⟩
      cases answer <;> cases h <;> exact ⟨rfl, rfl⟩

theorem refused_of_error {i : Interpreter} (h : i.registry.IsBuilt) {name : Text}
    {parameters : List Text} {s s' : Draws × List BodyRun} {e : Error}
    (he : (i.watched name parameters).run.run s = (.error e, s')) :
    i.Refused name parameters s e s' := by
  rcases watched_cases he with ⟨hf, hresult, rfl⟩ | ⟨f, hf, hcall⟩
  · cases hresult
    exact .unknown _ ((h.get?_eq_none_iff name).1 hf)
  · rw [h.get?_eq_latest?] at hf
    rcases hcall with ⟨hfew, rfl, hresult⟩ | ⟨answer, after, henough, hrun, rfl, hresult⟩
    · cases hresult
      exact .few _ hf hfew
    · cases answer with
      | error failure =>
        cases hresult
        exact .failed s.2 hf henough hrun
      | ok output => cases hresult

/-- A body that may run: a function of the registry with at least its minimum of parameters. -/
def Admits (i : Interpreter) (r : BodyRun) : Prop :=
  r.function ∈ i.registry.functions ∧ r.function.minimum ≤ r.parameters.length

/-- What runs for a call is admitted. -/
theorem admits_watched {i : Interpreter} {name : Text} {parameters : List Text}
    {s s' : Draws × List BodyRun} {result : Except Error Text}
    (h : (i.watched name parameters).run.run s = (result, s')) (hs : ∀ r ∈ s.2, i.Admits r) :
    ∀ r ∈ s'.2, i.Admits r := by
  rcases watched_cases h with ⟨-, -, rfl⟩ | ⟨f, hf, ⟨-, rfl, -⟩ | ⟨_, _, henough, -, rfl, -⟩⟩
  · exact hs
  · exact hs
  · intro r hr
    rcases List.mem_append.1 hr with hr | hr
    · exact hs r hr
    · exact List.mem_singleton.1 hr ▸ ⟨Registry.mem_of_get? hf, henough⟩

/-- Writing down what runs changes nothing. -/
theorem project_watched (i : Interpreter) (name : Text) (parameters : List Text) :
    (@Parallel.project Error _ (Draws × List BodyRun) Prod.fst).Holds (i.call name parameters)
      (i.watched name parameters) := by
  intro s
  rw [call_eq_callWith]
  unfold watched callWith
  cases i.registry.get? name with
  | none => rfl
  | some f =>
    simp only
    split
    · rfl
    · rw [Computation.run_bind, Computation.run_bind, Computation.run_adapt,
        Computation.run_adapt, run_runBody]
      rcases (f.run i.context parameters).run.run s.1 with ⟨_ | _, _⟩ <;> rfl

/-! ### Templates -/

/-- A template fails with the error of its first call that fails. The call fails because no function
answers to its name, because the last one that does is given too few parameters, or because its body
ran and failed. Every body that runs is that of a registered function with at least its minimum of
parameters, and those of the library make no access out of range. -/
theorem interpret_error (i : Interpreter) (h : i.registry.IsBuilt) (t : Text) (s : Draws) :
    (i.interpret t).run.run s = ((i.trace t s).1, (i.trace t s).2.1) ∧
    (∀ e, (i.trace t s).1 = .error e → ∃ asked outputs name parameters between,
      i.watched.Answers (s, []) asked outputs none between ∧
      asked ++ [(name, parameters)] <+: Template.calls outputs (Template.ofText i.marks t) ∧
      (i.watched name parameters).run.run between = (.error e, (i.trace t s).2) ∧
      i.Refused name parameters between e (i.trace t s).2) ∧
    ∀ r ∈ (i.trace t s).2.2, i.Admits r ∧ (r.function ∈ Function.builtIn → ∃ b : BuiltIn,
      b.function = r.function ∧
        b.careful i.context r.parameters = .lift (r.function.run i.context r.parameters)) := by
  obtain ⟨asked, outputs, failure, last, result, hanswers, hrun, -, hends⟩ :=
    (Template.eval_follows i.watched (Template.ofText i.marks t)).run (s, []) []
  have htrace : i.trace t s = (result, last) := hrun
  rw [htrace]
  refine ⟨?_, ?_, ?_⟩
  · have hproject := Template.eval_parallel _ i.project_watched (Template.ofText i.marks t) (s, [])
    rw [hrun] at hproject
    exact hproject
  · rintro e rfl
    cases hends with
    | failed _ _ hcalls =>
      obtain ⟨before, c, between, rfl, hbefore, hlast⟩ := hanswers.of_failure
      exact ⟨before, outputs, c.1, c.2, between, hbefore, hcalls, hlast,
        refused_of_error h hlast⟩
  · intro r hr
    have hadmits : i.Admits r := hanswers.keeps (P := fun s => ∀ r ∈ s.2, i.Admits r)
      admits_watched nofun r hr
    refine ⟨hadmits, fun hbuiltIn => ?_⟩
    obtain ⟨b, hb⟩ := BuiltIn.exists_of_mem_builtIn hbuiltIn
    exact ⟨b, hb, hb ▸ b.careful_eq_lift i.context (hb ▸ hadmits.2)⟩

/-- The name is what another call gives. The function that it leads to has taken a further name over
from one of the library, and is given one parameter too few. -/
theorem interpret_error_few :
    let pair : Function := .ofAnswer "Pair" ["HEADERS"] 2 fun _ ps => .ok ps.flatten
    let i : Interpreter :=
      ⟨Registry.standard.register pair, ⟨none, some "Headers", none⟩, .standard, .plain⟩
    let t : Text := "\x7brandom:a\x7d\x7b\x7binput\x7d:b\x7d\x7bnone\x7d".toList
    let s : Draws := ⟨fun _ => 0, 0⟩
    let e : Error := .minimumParameterCount "Pair" 2 1
    i.registry.IsBuilt ∧ (i.trace t s).1 = .error e ∧
    (i.trace t s).2.2.map (·.parameters) = [[['a']], []] ∧
    (∃ asked outputs name parameters between,
      i.watched.Answers (s, []) asked outputs none between ∧
      asked ++ [(name, parameters)] <+: Template.calls outputs (Template.ofText i.marks t) ∧
      (i.watched name parameters).run.run between = (.error e, (i.trace t s).2) ∧
      i.Refused name parameters between e (i.trace t s).2) ∧
    ∀ r ∈ (i.trace t s).2.2, i.Admits r := by
  intro pair i t s e
  have hbuilt : i.registry.IsBuilt := .register Registry.isBuilt_standard _
  have hfails : (i.trace t s).1 = .error e := by decide +kernel
  have hruns : (i.trace t s).2.2.map (·.parameters) = [[['a']], []] := by decide +kernel
  obtain ⟨-, herror, hadmits⟩ := interpret_error i hbuilt t s
  exact ⟨hbuilt, hfails, hruns, herror e hfails, fun r hr => (hadmits r hr).1⟩

end Interpreter

end UploadTemplate
