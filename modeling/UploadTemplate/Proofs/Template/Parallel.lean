import UploadTemplate.Proofs.Computation
import UploadTemplate.Proofs.Template.Calls

/-!
# Two evaluations side by side

Evaluation only asks for the texts of calls and puts them together. What relates the answers of two
callers therefore relates two evaluations of one template, if the relation is kept when computations
follow each other.

- `Parallel`: relations between computations of two kinds that are kept by sequencing.
- `Parallel.project`, `Parallel.settled`: the same work with less in the state, or without a state.
- `Template.eval_parallel`: two evaluations with related callers are related.
- `Template.outermost`: what the outermost calls of a template give, when those inside others are
  answered by someone else.
- `Template.eval_eq_fill`: a template is its literal characters and what its outermost calls give.
-/

namespace UploadTemplate

/-- A relation between the computations of `m` and those of `n` that do the same work. -/
structure Parallel (m n : Type → Type) [Monad m] [Monad n] where
  Holds : {α : Type} → m α → n α → Prop
  pure {α : Type} (a : α) : Holds (Pure.pure a) (Pure.pure a)
  bind {α β : Type} {x : m α} {y : n α} {f : α → m β} {g : α → n β} :
    Holds x y → (∀ a, Holds (f a) (g a)) → Holds (x >>= f) (y >>= g)

namespace Parallel

theorem map {m n : Type → Type} [Monad m] [Monad n] [LawfulMonad m] [LawfulMonad n]
    (R : Parallel m n) {α β : Type} (f : α → β) {x : m α} {y : n α} (h : R.Holds x y) :
    R.Holds (f <$> x) (f <$> y) := by
  rw [map_eq_pure_bind, map_eq_pure_bind]
  exact R.bind h fun a => R.pure (f a)

variable {ε σ τ : Type}

/-- A computation that does on the image of a state what another does on the state. -/
def project (image : τ → σ) : Parallel (ExceptT ε (StateM σ)) (ExceptT ε (StateM τ)) where
  Holds x y := ∀ s, x.run.run (image s) = ((y.run.run s).1, image (y.run.run s).2)
  pure _ _ := rfl
  bind {_ _ x y _ _} hx hf s := by
    rw [Computation.run_bind, Computation.run_bind, hx s]
    rcases y.run.run s with ⟨e | a, between⟩
    · rfl
    · exact hf a between

/-- A computation that leaves every state as it is and always comes to the same. -/
def settled : Parallel (ExceptT ε (StateM σ)) (Except ε) where
  Holds x y := ∀ s, x.run.run s = (y, s)
  pure _ _ := rfl
  bind {_ _ x y _ _} hx hf s := by
    rw [Computation.run_bind, hx s]
    cases y with
    | error e => rfl
    | ok a => exact hf a s

end Parallel

namespace Template

section Evaluation

variable {m n : Type → Type} [Monad m] [Monad n] (R : Parallel m n)
  {call : Text → List Text → m Text} {call' : Text → List Text → n Text}

mutual

theorem evalPiece_parallel (h : ∀ name parameters, R.Holds (call name parameters)
    (call' name parameters)) : ∀ p : Piece, R.Holds (evalPiece call p) (evalPiece call' p)
  | .char c => R.pure [c]
  | .call name parameters =>
    R.bind (eval_parallel h name) fun name =>
      R.bind (evalAll_parallel h parameters) fun parameters => h name parameters

theorem eval_parallel (h : ∀ name parameters, R.Holds (call name parameters)
    (call' name parameters)) : ∀ t : List Piece, R.Holds (eval call t) (eval call' t)
  | [] => R.pure []
  | p :: r =>
    R.bind (evalPiece_parallel h p) fun first =>
      R.bind (eval_parallel h r) fun rest => R.pure (first ++ rest)

theorem evalAll_parallel (h : ∀ name parameters, R.Holds (call name parameters)
    (call' name parameters)) :
    ∀ ts : List (List Piece), R.Holds (evalAll call ts) (evalAll call' ts)
  | [] => R.pure []
  | t :: r =>
    R.bind (eval_parallel h t) fun first =>
      R.bind (evalAll_parallel h r) fun rest => R.pure (first :: rest)

end

end Evaluation

/-! ### Outermost calls -/

/-- What the outermost calls of a template give, from left to right. `inner` gives the texts of the
calls that stand in names and parameters. -/
def outermost {m : Type → Type} [Monad m] (inner outer : Text → List Text → m Text) :
    List Piece → m (List Text)
  | [] => pure []
  | .char _ :: r => outermost inner outer r
  | .call name parameters :: r => do
    let name ← eval inner name
    let parameters ← evalAll inner parameters
    let output ← outer name parameters
    let rest ← outermost inner outer r
    pure (output :: rest)

/-- The literal characters of a template, with `outputs` in the places of its outermost calls. -/
def fill : List Text → List Piece → Text
  | _, [] => []
  | outputs, .char c :: r => c :: fill outputs r
  | outputs, .call _ _ :: r => outputs.headD [] ++ fill outputs.tail r

/-- The literal characters of a template outside its calls. -/
def literals : List Piece → Text
  | [] => []
  | .char c :: r => c :: literals r
  | .call _ _ :: r => literals r

theorem outermost_parallel {m n : Type → Type} [Monad m] [Monad n] (R : Parallel m n)
    {inner outer : Text → List Text → m Text} {inner' outer' : Text → List Text → n Text}
    (hi : ∀ name parameters, R.Holds (inner name parameters) (inner' name parameters))
    (ho : ∀ name parameters, R.Holds (outer name parameters) (outer' name parameters)) :
    ∀ t : List Piece, R.Holds (outermost inner outer t) (outermost inner' outer' t)
  | [] => R.pure []
  | .char _ :: r => outermost_parallel R hi ho r
  | .call name parameters :: r =>
    R.bind (eval_parallel R hi name) fun name =>
      R.bind (evalAll_parallel R hi parameters) fun parameters =>
        R.bind (ho name parameters) fun output =>
          R.bind (outermost_parallel R hi ho r) fun rest => R.pure (output :: rest)

/-- Where `call` gives what `outer` gives with `f` applied, evaluation fills what the outermost
calls give into the template, with `f` applied to it. -/
theorem eval_eq_fill {m : Type → Type} [Monad m] [LawfulMonad m] (f : Text → Text)
    {call outer : Text → List Text → m Text}
    (h : ∀ name parameters, call name parameters = f <$> outer name parameters) (t : Template) :
    eval call t = (fun outputs => fill (outputs.map f) t) <$> outermost call outer t := by
  induction t with
  | nil => simp only [eval, outermost, map_pure, fill]
  | cons p r ih =>
    cases p with
    | char c =>
      simp only [eval, evalPiece, outermost, ih, map_eq_pure_bind, bind_assoc, pure_bind, fill,
        List.singleton_append]
    | call name parameters =>
      simp only [eval, evalPiece, outermost, ih, h, map_eq_pure_bind, bind_assoc, pure_bind, fill,
        List.map_cons, List.headD_cons, List.tail_cons]

/-- What `keep` accepts in a filled template is literal, if it accepts nothing in the outputs. -/
theorem filter_fill {keep : Char → Bool} {outputs : List Text} {t : Template}
    (h : ∀ output ∈ outputs, output.filter keep = []) :
    (fill outputs t).filter keep = (literals t).filter keep := by
  induction t generalizing outputs with
  | nil => rfl
  | cons p r ih =>
    cases p with
    | char c => simp only [fill, literals, List.filter_cons, ih h]
    | call name parameters =>
      -- There may be fewer outputs than calls. The others are filled in as empty texts.
      have hhead : (outputs.headD []).filter keep = [] := by
        cases outputs with
        | nil => rfl
        | cons output rest => exact h output List.mem_cons_self
      have htail : ∀ output ∈ outputs.tail, output.filter keep = [] :=
        fun output hm => h output (List.mem_of_mem_tail hm)
      rw [fill, literals, List.filter_append, hhead, ih htail, List.nil_append]

end Template

end UploadTemplate
