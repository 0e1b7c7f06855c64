import UploadTemplate.Template.Function

/-!
# Built-in functions with every access checked

A built-in function reads a parameter by its number, or draws a number below the number of its
parameters, and relies on its caller for parameters that are there. Here these accesses are checked:
one that is out of range ends the run with a `Slip`, whatever the function would do after it.

- `Careful`: computations with checked accesses.
- `BuiltIn.careful`: what the built-in functions do, with checked accesses.
- `BuiltIn.careful_eq_lift`: given the least number of its parameters no built-in function slips.
-/

namespace UploadTemplate

/-- An access that is out of range. -/
inductive Slip where
  /-- The parameter with this number is not there. -/
  | parameter (i : Nat)
  /-- There is no number below zero to draw. -/
  | draw
  deriving DecidableEq, Repr

/-- A function body with checked accesses. A slip is not a failure: it ends the run for good. -/
abbrev Careful (α : Type) := ExceptT Failure (ExceptT Slip (StateM Draws)) α

namespace Careful

variable {α : Type}

/-- A body that has no access to check. -/
def lift (x : Drawing Failure α) : Careful α := ExceptT.mk (ExceptT.lift x.run)

def slip (s : Slip) : Careful α := ExceptT.mk (throw s)

def ofExcept (x : Except Failure α) : Careful α := ExceptT.mk (pure x)

def parameter (ps : List Text) (i : Nat) : Careful Text :=
  match ps[i]? with
  | some p => pure p
  | none => slip (.parameter i)

/-- A random number below `bound`. -/
def draw (bound : Nat) : Careful Nat :=
  if bound = 0 then slip .draw else lift (modifyGet (Draws.pick bound))

theorem ofExcept_bind {β : Type} (x : Except Failure α) (f : α → Except Failure β) :
    ofExcept (x >>= f) = ofExcept x >>= fun a => ofExcept (f a) := by
  cases x <;> rfl

theorem parameter_zero (p : Text) (ps : List Text) : parameter (p :: ps) 0 = pure p := rfl

theorem parameter_of_lt {ps : List Text} {i : Nat} (h : i < ps.length) :
    parameter ps i = pure (ps.getD i []) := by
  rw [parameter, List.getD_eq_getElem?_getD, List.getElem?_eq_getElem h]
  rfl

/-- A number that is drawn below the number of parameters is that of a parameter. -/
theorem draw_bind_parameter {ps : List Text} (h : 0 < ps.length) :
    (draw ps.length >>= parameter ps) =
      lift (do let i ← modifyGet (Draws.pick ps.length); return ps.getD i []) := by
  rw [draw, if_neg (Nat.ne_of_gt h)]
  funext d
  exact congrFun (parameter_of_lt (Draws.pick_lt h d)) _

end Careful

/-- The functions of the library. -/
inductive BuiltIn where
  | response
  | responseUrl
  | header
  | json
  | regex
  | fileName
  | input
  | random
  deriving DecidableEq, Repr

namespace BuiltIn

def function : BuiltIn → Function
  | .response => .response
  | .responseUrl => .responseUrl
  | .header => .header
  | .json => .json
  | .regex => .regex
  | .fileName => .fileName
  | .input => .input
  | .random => .random

/-- The body of a function, with every parameter that it reads by its number and every draw
checked. -/
def careful (context : Context) (ps : List Text) : BuiltIn → Careful Text
  | .header => do
    let response ← .ofExcept (Function.requireResponse context)
    let name ← .parameter ps 0
    return (response.header name).getD []
  | .regex => do
    let response ← .ofExcept (Function.requireResponse context)
    let pattern ← .parameter ps 0
    match Regex.compile pattern with
    | .error fault => throw (.pattern (← .parameter ps 0) fault)
    | .ok r =>
      match r.captures response.body with
      | none => return []
      | some captures => return (Function.groupOf r captures ps[1]?).getD []
  | .random => do
    let i ← .draw ps.length
    .parameter ps i
  | b => .lift (b.function.run context ps)

theorem exists_of_mem_builtIn {f : Function} (h : f ∈ Function.builtIn) :
    ∃ b : BuiltIn, b.function = f := by
  have hall : Function.builtIn = [response, responseUrl, header, json, regex, fileName, input,
      random].map function := rfl
  obtain ⟨b, -, hb⟩ := List.mem_map.1 (hall ▸ h)
  exact ⟨b, hb⟩

/-- With the least number of its parameters a function of the library does what it does when
nothing is checked. -/
theorem careful_eq_lift (b : BuiltIn) (context : Context) {ps : List Text}
    (h : b.function.minimum ≤ ps.length) :
    b.careful context ps = .lift (b.function.run context ps) := by
  cases b with
  | header =>
    obtain ⟨p, ps, rfl⟩ := List.exists_cons_of_length_pos h
    simp only [careful, Careful.parameter_zero, pure_bind]
    exact (Careful.ofExcept_bind _ _).symm
  | regex =>
    obtain ⟨p, ps, rfl⟩ := List.exists_cons_of_length_pos h
    simp only [careful, Careful.parameter_zero, pure_bind]
    refine Eq.trans ?_ (Careful.ofExcept_bind _ _).symm
    congr
    funext response
    simp only [List.headD_cons]
    cases Regex.compile p with
    | error fault => rfl
    | ok r =>
      dsimp only
      cases r.captures response.body <;> rfl
  | random => exact Careful.draw_bind_parameter h
  | _ => rfl

/-- Without a parameter there is nothing to draw from. -/
example (context : Context) (d : Draws) :
    ((random.careful context []).run.run.run d).1 = .error .draw := rfl

end BuiltIn

end UploadTemplate
