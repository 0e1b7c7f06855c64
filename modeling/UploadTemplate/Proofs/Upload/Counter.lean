import UploadTemplate.Proofs.Naming.Counter
import UploadTemplate.Proofs.Upload.Checks
import UploadTemplate.Upload

/-!
# The counter over many uploads

A compiler keeps its counter from one use to the next. It never goes back, and a request moves it
once for every field in which a counter stands.

- `Compiler.interpreted`: the texts of a destination in which name tokens are expanded.
- `Compiler.sessionAfterAll`: what a row of uses leaves of a session.
- `Compiler.counter_moves`: how the counter moves.
-/

namespace UploadTemplate

open Session

/-! ### Checks and the counter -/

namespace Check

variable {c : Compiler} {d : Destination} {context : Context}

/-- The text that is interpreted for a check, if one is. -/
def interpreted? : Check → Option Text
  | .content .. => none
  | .text _ _ _ t => some t

theorem moves_run (check : Check) : Moves (· ≤ ·) (check.run c d context) := by
  intro s
  cases check with
  | content field t => exact Nat.le_of_eq (by rw [run_content])
  | text scope field entry t =>
    have hmove : (c.interpret context scope t |>.run.run s).2.counter = s.counter ∨
        (c.interpret context scope t |>.run.run s).2.counter = s.counter + 1 := by
      cases scope with
      | template encoding =>
        exact (c.interpreter context encoding).moves_interpretNamed c.namer t s
      | names => exact c.namer.moves_expandKeepingEscapes c.marks.escape t s
    rw [run_text]
    rcases hrun : (c.interpret context scope t).run.run s with ⟨_ | _, after⟩ <;>
      rw [hrun] at hmove <;> simp only at hmove ⊢ <;> omega

theorem moves_forM (checks : List Check) :
    Moves (· ≤ ·) (forM checks (Check.run c d context)) := by
  induction checks with
  | nil => exact (keeps_pure ()).mono fun _ _ h => Nat.le_of_eq h.symm
  | cons check checks ih =>
    rw [List.forM_cons]
    exact (moves_run check).bind (fun _ _ _ => Nat.le_trans) fun _ => ih

/-- Checks that go well move the counter once for every text in which a counter stands. -/
theorem AllPass.counter (ht : c.namer.title = none) (hp : c.namer.process = none)
    {checks : List Check} {before after : Session}
    (hsize : ∀ t ∈ checks.filterMap interpreted?, ∀ token ∈ Namer.sizeTokens, ¬ token <:+: t)
    (h : AllPass c context checks before after) :
    after.counter = before.counter +
      (checks.filterMap interpreted?).countP (Namer.hasCounter c.marks.escape) := by
  induction h with
  | nil s => rfl
  | @cons check checks before between after hpass _ ih =>
    cases check with
    | content field t =>
      rw [ih hsize, hpass.2]
      rfl
    | text scope field entry t =>
      obtain ⟨made, hmade⟩ := hpass
      have hstep : between.counter = before.counter +
          if Namer.hasCounter c.marks.escape t then 1 else 0 := by
        have ht' := hsize t List.mem_cons_self
        cases scope with
        | template encoding => exact Interpreter.counter_interpretNamed ht hp ht' hmade
        | names => exact Namer.counter_expandKeepingEscapes ht hp ht' hmade
      rw [ih fun u hu => hsize u (List.mem_cons_of_mem t hu), hstep]
      simp only [List.filterMap_cons, interpreted?, List.countP_cons]
      omega

end Check

/-! ### Uses -/

/-- One use of a compiler. What is sent is answered by `send`, where `τ` is what can go wrong. -/
inductive Use (τ : Type) where
  | request (d : Destination) (context : Context)
  | result (d : Destination) (response : Response) (context : Context)
  | upload (d : Destination) (fileName input : Option Text) (send : Request → Except τ Response)

namespace Compiler

variable {τ : Type}

/-- The compiler at another time, with another clock, environment and files. -/
def within (c : Compiler) (s : Surroundings) : Compiler :=
  { c with namer := { c.namer with surroundings := s } }

/-- What a use leaves of a session. -/
def sessionAfter (c : Compiler) : Use τ → Session → Session
  | .request d context, s => ((c.request d context).run.run s).2
  | .result d response context, s => ((Session.onDraws (c.result d response context)).run s).2
  | .upload d fileName input send, s => ((c.upload d fileName input send).run s).2

/-- What uses one after the other leave of a session, each in its own surroundings. -/
def sessionAfterAll (c : Compiler) (uses : List (Surroundings × Use τ)) (s : Session) : Session :=
  uses.foldl (fun s use => (c.within use.1).sessionAfter use.2 s) s

/-- The texts of a destination in which name tokens are expanded, once its query has been moved
into its parameters. -/
def interpreted (d : Destination) : List Text :=
  let values (t : Table Text) : List Text := t.entries.map (·.2)
  d.requestUrl :: (values d.parameters ++ values d.headers ++
    match d.body with
    | .nothing | .binary => []
    | .multipart | .form => values d.arguments
    | .json | .xml => [d.data])

theorem filterMap_entryChecks (field : Field) (t : Table Text) :
    (entryChecks field t).filterMap Check.interpreted? = t.entries.map (·.2) := by
  unfold entryChecks
  rw [List.filterMap_map]
  exact congrFun (List.filterMap_eq_map (f := fun e : Text × Text => e.2)) t.entries

theorem filterMap_checks (d : Destination) (context : Context) :
    (checks d context).filterMap Check.interpreted? = interpreted d := by
  have hbody : (bodyChecks d context).filterMap Check.interpreted? =
      match d.body with
      | .nothing | .binary => []
      | .multipart | .form => d.arguments.entries.map (·.2)
      | .json | .xml => [d.data] := by
    unfold bodyChecks
    cases d.body with
    | multipart =>
      rw [List.filterMap_append, filterMap_entryChecks]
      cases context.fileName <;> rfl
    | form => exact filterMap_entryChecks _ _
    | nothing | binary | json | xml => rfl
  unfold checks interpreted
  simp only [List.filterMap_cons, Check.interpreted?, List.filterMap_append, filterMap_entryChecks,
    hbody]

theorem moves_request (c : Compiler) (d : Destination) (context : Context) :
    Moves (· ≤ ·) (c.request d context) := by
  intro s
  have heffect := Computation.run_map (fun _ => ()) (c.request d context) s
  have hchecks : (fun _ => ()) <$> c.request d context =
      forM (checks (d.normalized c.marks) context) (Check.run c (d.normalized c.marks) context) :=
    effect_requestNormalized c (d.normalized c.marks) context
  rw [hchecks] at heffect
  have hmove := @Check.moves_forM c (d.normalized c.marks) context
    (checks (d.normalized c.marks) context) s
  rw [heffect] at hmove
  exact hmove

/-- An upload builds its request on the session it is given, and after that it may only draw. -/
theorem run_uploadThrough {m : Type → Type} [Monad m] [LawfulMonad m] (c : Compiler)
    (d : Destination) (fileName input : Option Text) (send : Request → m (Except τ Response))
    (s : Session) :
    (c.uploadThrough d fileName input send).run s =
      match (c.request d ⟨fileName, input, none⟩).run.run s with
      | (.error e, built) => pure (.refused e, built)
      | (.ok request, built) => do
        match ← send request with
        | .error e => return (.unanswered request e, built)
        | .ok response =>
          let (result, draws) := (c.result d response ⟨fileName, input, none⟩).run built.draws
          return (.answered request result, { built with draws }) := by
  unfold uploadThrough
  rw [StateT.run_bind, run_lifted, pure_bind]
  rcases (c.request d ⟨fileName, input, none⟩).run.run s with ⟨e | request, built⟩
  · rfl
  · simp only [StateT.run_bind, StateT.run_lift, bind_assoc, pure_bind]
    congr 1
    funext answer
    cases answer with
    | error e => rfl
    | ok response =>
      simp only [StateT.run_bind, run_lifted, pure_bind]
      rfl

/-- An upload moves the counter as the request does that it makes. -/
theorem counter_run_upload (c : Compiler) (d : Destination) (fileName input : Option Text)
    (send : Request → Except τ Response) (s : Session) :
    ((c.upload d fileName input send).run s).2.counter =
      ((c.request d ⟨fileName, input, none⟩).run.run s).2.counter := by
  unfold upload
  rw [run_uploadThrough]
  rcases (c.request d ⟨fileName, input, none⟩).run.run s with ⟨e | request, built⟩
  · rfl
  · simp only [bind]
    cases send request <;> rfl

theorem counter_le_sessionAfter (c : Compiler) (use : Use τ) (s : Session) :
    s.counter ≤ (c.sessionAfter use s).counter := by
  cases use with
  | request d context => exact c.moves_request d context s
  | result d response context => exact Nat.le_refl _
  | upload d fileName input send =>
    rw [sessionAfter, counter_run_upload]
    exact c.moves_request d ⟨fileName, input, none⟩ s

theorem counter_le_sessionAfterAll (c : Compiler) (uses : List (Surroundings × Use τ))
    (s : Session) : s.counter ≤ (c.sessionAfterAll uses s).counter := by
  unfold sessionAfterAll
  induction uses generalizing s with
  | nil => exact Nat.le_refl _
  | cons use uses ih =>
    exact Nat.le_trans ((c.within use.1).counter_le_sessionAfter use.2 s) (ih _)

/-- A request that is made has moved the counter once for every text in which a counter stands. -/
theorem counter_request {c : Compiler} (ht : c.namer.title = none) (hp : c.namer.process = none)
    {d : Destination} {context : Context} {before after : Session} {request : Request}
    (hsize : ∀ t ∈ interpreted (d.normalized c.marks), ∀ token ∈ Namer.sizeTokens,
      ¬ token <:+: t)
    (h : (c.request d context).run.run before = (.ok request, after)) :
    after.counter = before.counter +
      (interpreted (d.normalized c.marks)).countP (Namer.hasCounter c.marks.escape) := by
  have hpass := Compiling.run_effect_eq_ok_iff.2 ⟨request, h⟩
  have hchecks : (fun _ => ()) <$> c.request d context =
      forM (checks (d.normalized c.marks) context) (Check.run c (d.normalized c.marks) context) :=
    effect_requestNormalized c (d.normalized c.marks) context
  rw [hchecks, Check.forM_eq_ok_iff] at hpass
  rw [← filterMap_checks (d.normalized c.marks) context] at hsize ⊢
  exact hpass.counter ht hp hsize

/-- The counter never goes back, and one call moves it by one at most. Without a window and with no
size of an image in its texts, a request that is made has moved it once for every text in which a
counter stands outside the escapes; reading a response never moves it. -/
theorem counter_moves (c : Compiler) :
    (∀ (uses : List (Surroundings × Use τ)) (before : Session),
      before.counter ≤ (c.sessionAfterAll uses before).counter) ∧
    (∀ (n : Namer) (pattern : Text) (before : Session),
      ((n.expand pattern).run.run before).2.counter = before.counter ∨
        ((n.expand pattern).run.run before).2.counter = before.counter + 1) ∧
    (∀ (n : Namer) (escape : Char) (pattern : Text) (before : Session),
      ((n.expandKeepingEscapes escape pattern).run.run before).2.counter = before.counter ∨
        ((n.expandKeepingEscapes escape pattern).run.run before).2.counter =
          before.counter + 1) ∧
    (c.namer.title = none → c.namer.process = none →
      ∀ (d : Destination) (context : Context) (before after : Session) (request : Request),
        (∀ t ∈ interpreted (d.normalized c.marks),
          ¬ "%width".toList <:+: t ∧ ¬ "%height".toList <:+: t) →
        (c.request d context).run.run before = (.ok request, after) →
        after.counter = before.counter +
          (interpreted (d.normalized c.marks)).countP (Namer.hasCounter c.marks.escape)) ∧
    ∀ (d : Destination) (response : Response) (context : Context) (before : Session),
      (c.sessionAfter (.result d response context : Use τ) before).counter = before.counter := by
  refine ⟨c.counter_le_sessionAfterAll, fun n pattern before => n.moves_expand pattern before,
    fun n escape pattern before => n.moves_expandKeepingEscapes escape pattern before, ?_,
    fun _ _ _ _ => rfl⟩
  intro ht hp d context before after request hsize h
  refine counter_request ht hp (fun t htext token htoken => ?_) h
  simp only [Namer.sizeTokens, List.mem_cons, List.not_mem_nil, or_false] at htoken
  rcases htoken with rfl | rfl
  · exact (hsize t htext).1
  · exact (hsize t htext).2

/-- A counter in the path, one in the query and one in the document; the one in the header is
escaped. -/
theorem counter_moves_thrice :
    let c : Compiler := ⟨.empty, .standard, .standard ⟨.empty, ⟨[]⟩, ⟨1711375629, 0, 0⟩⟩⟩
    let d : Destination :=
      { requestUrl := "https://a.b/%i?k=%ix".toList,
        headers := .ofList [("H".toList, "\\%i %y".toList)], body := .json,
        data := "[\"%d\", \"%iX %i\"]".toList }
    let before : Session := ⟨6, ⟨fun _ => 0, 0⟩⟩
    c.namer.title = none ∧ c.namer.process = none ∧
      (∀ t ∈ interpreted (d.normalized c.marks),
        ¬ "%width".toList <:+: t ∧ ¬ "%height".toList <:+: t) ∧
      ∃ request after, (c.request d ⟨none, none, none⟩).run.run before = (.ok request, after) ∧
        after.counter = 9 := by
  intro c d before
  have hsize : ∀ t ∈ interpreted (d.normalized c.marks),
      ¬ "%width".toList <:+: t ∧ ¬ "%height".toList <:+: t := by decide +kernel
  have hcount :
      (interpreted (d.normalized c.marks)).countP (Namer.hasCounter c.marks.escape) = 3 := by
    decide +kernel
  have hok : ((c.request d ⟨none, none, none⟩).run.run before).1.toOption.isSome = true := by
    decide +kernel
  refine ⟨rfl, rfl, hsize, ?_⟩
  rcases hrun : (c.request d ⟨none, none, none⟩).run.run before with ⟨e | request, after⟩
  · rw [hrun] at hok
    cases hok
  · have hmove := (@counter_moves Unit c).2.2.2.1 rfl rfl d _ before after request hsize hrun
    exact ⟨request, after, rfl, hmove.trans (by rw [hcount])⟩

end Compiler

end UploadTemplate
