import UploadTemplate.Proofs.Naming.Replacement
import UploadTemplate.Proofs.Template.Inserted
import UploadTemplate.Proofs.Template.Encodings

/-!
# Window titles in templates

The title of a window is put into a template before anything else, and before the template is read.
Where neither the tokens that are replaced later nor the template take notice of it, a name with
another title makes the same draws, and its template makes the same calls.

- `Naming.Apart`: a token finds the same with a title between the pieces of a text as without.
- `Namer.gapped`: the expansion of a text with gaps in the places of its title.
- `Namer.run_expand_titled`: the expansion with a title fills these gaps.
- `Interpreter.dispatched_titled`: the calls under two titles.
-/

namespace UploadTemplate

/-! ### Pieces -/

namespace Gapped

/-- The texts between the gaps. -/
def pieces : Gapped → List Text
  | [] => [[]]
  | .found () :: g => [] :: pieces g
  | .char c :: g =>
    match pieces g with
    | [] => [[c]]
    | p :: ps => (c :: p) :: ps

/-- The pieces with gaps between them. -/
def ofPieces (ps : List Text) : Gapped :=
  List.intercalate [.found ()] (ps.map fun p => p.map .char)

theorem pieces_ne_nil (g : Gapped) : g.pieces ≠ [] := by
  cases g with
  | nil => exact List.cons_ne_nil _ _
  | cons part g =>
    cases part with
    | found u => exact List.cons_ne_nil _ _
    | char c =>
      rw [pieces]
      split <;> exact List.cons_ne_nil _ _

theorem intercalate_pieces (a : Text) (g : Gapped) : List.intercalate a g.pieces = g.fill a := by
  induction g with
  | nil => simp [pieces, fill, Text.refill]
  | cons part g ih =>
    obtain ⟨p, ps, hp⟩ := List.exists_cons_of_ne_nil (pieces_ne_nil g)
    rw [hp] at ih
    cases part with
    | found u =>
      have hfill : fill a (.found u :: g) = a ++ fill a g := rfl
      rw [pieces, hp, List.intercalate_cons_cons, ih, hfill, List.nil_append]
    | char c =>
      have hfill : fill a (.char c :: g) = c :: fill a g := rfl
      rw [pieces, hp, hfill, ← ih]
      cases ps <;> simp

theorem fill_ofPieces (a : Text) (ps : List Text) :
    (ofPieces ps).fill a = List.intercalate a ps := by
  unfold ofPieces fill
  induction ps with
  | nil => simp [Text.refill]
  | cons p ps ih =>
    cases ps with
    | nil => simp [Text.refill_chars]
    | cons q ps =>
      rw [List.map_cons, List.map_cons, List.intercalate_cons_cons, ← List.map_cons,
        Text.refill_append, Text.refill_append, ih, Text.refill_chars, List.intercalate_cons_cons]
      simp [Text.refill]

theorem fill_append (a : Text) (g g' : Gapped) : fill a (g ++ g') = fill a g ++ fill a g' :=
  Text.refill_append _ g g'

/-- What stands in front of a text with gaps may have gaps too. -/
theorem run_append_fill {a : Text} {x : Drawing Error Text} {y : Drawing Error Gapped}
    {d : Draws} (h : x.run.run d = (fill a <$> y).run.run d) (first : Gapped) :
    (x >>= fun rest => pure (first.fill a ++ rest)).run.run d =
      (fill a <$> (y >>= fun rest => pure (first ++ rest))).run.run d := by
  rw [Computation.run_map] at h
  rw [map_bind, Computation.run_bind, Computation.run_bind, h]
  simp only [map_pure, fill_append]
  generalize y.run.run d = ran
  obtain ⟨e | rest, d'⟩ := ran <;> rfl

end Gapped

namespace Naming

/-- A token finds in a text what it finds in its pieces, and nothing in the text that stands between
them or that reaches into it. -/
def Apart (k : Token) (a : Text) (ps : List Text) : Prop :=
  Text.cut k.find (List.intercalate a ps) =
    List.intercalate (a.map .char) (ps.map (Text.cut k.find))

instance (k : Token) (a : Text) (ps : List Text) : Decidable (Apart k a ps) :=
  inferInstanceAs (Decidable (_ = _))

/-- A replacement in a text. -/
def Replacement.apply (k : Replacement) (t : Text) : Drawing Error Text :=
  replaceToken k.text k.accepts k.value t

theorem Replacement.apply_intercalate {k : Replacement} {a : Text} {ps : List Text}
    (h : Apart k.toToken a ps) :
    k.apply (List.intercalate a ps) = List.intercalate a <$> ps.mapM k.apply := by
  have hmap : ps.mapM k.apply = (ps.map (Text.cut k.find)).mapM (Text.refillM k.value) := by
    rw [List.mapM_map]
    rfl
  have hcut : Text.cut (tokenWith k.text k.accepts) (List.intercalate a ps) =
      List.intercalate (a.map .char) (ps.map (Text.cut k.find)) := h
  unfold apply replaceToken
  rw [hcut, Text.refillM_intercalate, ← hmap]
  rfl

/-- Several replacements, each of them in every piece. -/
def replacePieces (ks : List Replacement) (ps : List Text) : Drawing Error (List Text) :=
  ks.foldlM (fun ps k => ps.mapM k.apply) ps

/-- What comes of a computation is as `P` says, if it comes to an end. -/
def Leads {α : Type} (P : α → Draws → Prop) : Except Error α × Draws → Prop
  | (.ok a, d) => P a d
  | (.error _, _) => True

instance {α : Type} (P : α → Draws → Prop) [∀ a d, Decidable (P a d)] :
    (ran : Except Error α × Draws) → Decidable (Leads P ran)
  | (.ok a, d) => inferInstanceAs (Decidable (P a d))
  | (.error _, _) => inferInstanceAs (Decidable True)

/-- The tokens stay apart from what stands between the pieces, each in its turn. -/
def StayApart (a : Text) : List Replacement → List Text → Draws → Prop
  | [], _, _ => True
  | k :: ks, ps, d =>
    Apart k.toToken a ps ∧ Leads (StayApart a ks) ((ps.mapM k.apply).run.run d)

instance decidableStayApart (a : Text) : (ks : List Replacement) → (ps : List Text) → (d : Draws) →
    Decidable (StayApart a ks ps d)
  | [], _, _ => inferInstanceAs (Decidable True)
  | k :: ks, ps, d =>
    have := decidableStayApart a ks
    inferInstanceAs (Decidable (Apart k.toToken a ps ∧
      Leads (StayApart a ks) ((ps.mapM k.apply).run.run d)))

theorem run_foldlM_of_stayApart {a : Text} {ks : List Replacement} {ps : List Text} {d : Draws}
    (h : StayApart a ks ps d) :
    (ks.foldlM (fun t (k : Replacement) => k.apply t) (List.intercalate a ps)).run.run d =
      (List.intercalate a <$> replacePieces ks ps).run.run d := by
  unfold replacePieces
  induction ks generalizing ps d with
  | nil => rfl
  | cons k ks ih =>
    obtain ⟨hk, hks⟩ := h
    rw [List.foldlM_cons, List.foldlM_cons, Replacement.apply_intercalate hk, map_bind,
      Computation.run_bind, Computation.run_bind, Computation.run_map]
    generalize (ps.mapM k.apply).run.run d = ran at hks
    obtain ⟨e | made, d'⟩ := ran
    · rfl
    · exact ih hks

/-! ### Runs -/

/-- A run with gaps in the places of its title, after the other replacements. -/
def gappedRun (ks : List Replacement) (t : Text) : Drawing Error Gapped :=
  Gapped.ofPieces <$> replacePieces ks (Gapped.pieces (Text.cut (Text.tokenAt "%t") t))

/-- The runs of a text with gaps in the places of its title. -/
def gappedParts (escape : Char) (ks : List Replacement) :
    List Escaped.Part → Drawing Error Gapped
  | [] => pure []
  | .run t :: r => do
    let made ← gappedRun ks t
    let rest ← gappedParts escape ks r
    pure (made ++ rest)
  | .pair c :: r => do
    let rest ← gappedParts escape ks r
    pure (.char escape :: .char c :: rest)
  | .lone :: r => do
    let rest ← gappedParts escape ks r
    pure (.char escape :: rest)

/-- In every run the tokens stay apart from the title, each in its turn. -/
def StayApartIn (a : Text) (ks : List Replacement) : List Escaped.Part → Draws → Prop
  | [], _ => True
  | .run t :: r, d =>
    StayApart a ks (Gapped.pieces (Text.cut (Text.tokenAt "%t") t)) d ∧
      Leads (fun _ => StayApartIn a ks r) ((gappedRun ks t).run.run d)
  | .pair _ :: r, d | .lone :: r, d => StayApartIn a ks r d

instance decidableStayApartIn (a : Text) (ks : List Replacement) :
    (parts : List Escaped.Part) → (d : Draws) → Decidable (StayApartIn a ks parts d)
  | [], _ => inferInstanceAs (Decidable True)
  | .run t :: r, d =>
    have := decidableStayApartIn a ks r
    inferInstanceAs (Decidable
      (StayApart a ks (Gapped.pieces (Text.cut (Text.tokenAt "%t") t)) d ∧
        Leads (fun _ => StayApartIn a ks r) ((gappedRun ks t).run.run d)))
  | .pair _ :: r, d => decidableStayApartIn a ks r d
  | .lone :: r, d => decidableStayApartIn a ks r d

end Naming

open Naming

namespace Namer

/-- The namer with a window title. -/
def titled (n : Namer) (title : Text) : Namer := { n with title := some title }

def untitled (n : Namer) : Namer := { n with title := none }

/-- The title is put in first, and the other replacements do not depend on it. -/
theorem replacements_titled (n : Namer) (title : Text) (s : Shared) :
    (n.titled title).replacements s =
      .ofSubstitution (constant "%t" (n.sanitizeInput title)) :: n.untitled.replacements s := rfl

theorem run_apply_constant (token value t : Text) (d : Draws) :
    ((Replacement.ofSubstitution (constant token value)).apply t).run.run d =
      (.ok (Text.replace token value t), d) := by
  have hsettled := replaceToken_parallel Parallel.settled
    (f := (Replacement.ofSubstitution (constant token value)).value) (fun _ _ => rfl) token
    (fun _ => false) t d
  have hreplace := replace_constant token value t
  exact hsettled.trans (congrArg (·, d) hreplace)

theorem replaceWith_eq_foldlM {n : Namer} (hk : n.kind = .text) (hl : n.maxName = none)
    (s : Shared) (t : Text) :
    replaceWith Replacement.value n s t =
      (n.replacements s).foldlM (fun t (k : Replacement) => k.apply t) t := by
  unfold replaceWith
  rw [hk, hl]
  exact bind_pure _

theorem run_replaceWith_titled {n : Namer} (hk : n.kind = .text) (hl : n.maxName = none)
    {title : Text} {s : Shared} {t : Text} {d : Draws}
    (h : StayApart (n.sanitizeInput title) (n.untitled.replacements s)
      (Gapped.pieces (Text.cut (Text.tokenAt "%t") t)) d) :
    (replaceWith Replacement.value (n.titled title) s t).run.run d =
      (Gapped.fill (n.sanitizeInput title) <$>
        gappedRun (n.untitled.replacements s) t).run.run d := by
  have hreplace : Text.replace "%t" (n.sanitizeInput title) t =
      List.intercalate (n.sanitizeInput title) (Gapped.pieces (Text.cut (Text.tokenAt "%t") t)) :=
    (Gapped.intercalate_pieces _ _).symm
  have hfill : Gapped.fill (n.sanitizeInput title) ∘ Gapped.ofPieces =
      List.intercalate (n.sanitizeInput title) := funext (Gapped.fill_ofPieces _)
  rw [replaceWith_eq_foldlM (n := n.titled title) hk hl, replacements_titled, List.foldlM_cons,
    Computation.run_bind, run_apply_constant, hreplace, gappedRun, ← comp_map, hfill]
  exact run_foldlM_of_stayApart h

theorem run_mapParts_titled {n : Namer} (hk : n.kind = .text) (hl : n.maxName = none)
    {title : Text} {s : Shared} {escape : Char} {parts : List Escaped.Part} {d : Draws}
    (h : StayApartIn (n.sanitizeInput title) (n.untitled.replacements s) parts d) :
    (Escaped.mapParts escape (replaceWith Replacement.value (n.titled title) s) parts).run.run d =
      (Gapped.fill (n.sanitizeInput title) <$>
        gappedParts escape (n.untitled.replacements s) parts).run.run d := by
  induction parts generalizing d with
  | nil => rfl
  | cons part parts ih =>
    cases part with
    | run t =>
      obtain ⟨hrun, hrest⟩ := h
      rw [Escaped.mapParts, gappedParts, map_bind, Computation.run_bind, Computation.run_bind,
        run_replaceWith_titled hk hl hrun, Computation.run_map]
      generalize (gappedRun (n.untitled.replacements s) t).run.run d = ran at hrest
      obtain ⟨e | made, d'⟩ := ran
      · rfl
      · exact Gapped.run_append_fill (ih hrest) made
    | pair c => exact Gapped.run_append_fill (ih h) [.char escape, .char c]
    | lone => exact Gapped.run_append_fill (ih h) [.char escape]

/-- The expansion of a text with gaps in the places of its title. -/
def gapped (n : Namer) (escape : Char) (t : Text) (before : Session) : Drawing Error Gapped :=
  gappedParts escape (n.untitled.replacements (n.shared t before.counter)) (Escaped.cut escape t)

/-- No token takes notice of the title, wherever it has been put in. -/
def LeavesAlone (n : Namer) (escape : Char) (t : Text) (before : Session) (title : Text) : Prop :=
  StayApartIn (n.sanitizeInput title) (n.untitled.replacements (n.shared t before.counter))
    (Escaped.cut escape t) before.draws

instance (n : Namer) (escape : Char) (t : Text) (before : Session) (title : Text) :
    Decidable (n.LeavesAlone escape t before title) :=
  inferInstanceAs (Decidable (StayApartIn _ _ _ _))

/-- With a title that is left alone, an expansion fills the gaps. -/
theorem run_expand_titled {n : Namer} (hk : n.kind = .text) (hl : n.maxName = none) {escape : Char}
    {t title : Text} {before : Session} (h : n.LeavesAlone escape t before title) :
    ((((n.titled title).expandKeepingEscapes escape t).run.run before).1,
        (((n.titled title).expandKeepingEscapes escape t).run.run before).2.draws) =
      (Gapped.fill (n.sanitizeInput title) <$> n.gapped escape t before).run.run before.draws := by
  rw [← run_expandKeepingEscapes_eq]
  exact run_mapParts_titled hk hl h

end Namer

/-! ### Calls -/

namespace Interpreter

/-- What a template with name tokens comes to, with the calls that it makes. -/
def conversation (i : Interpreter) (n : Namer) (t : Text) (before : Session) :
    Except Error Text × Session × List Call :=
  match (n.expandKeepingEscapes i.marks.escape t).run.run before with
  | (.error e, after) => (.error e, after, [])
  | (.ok expanded, after) =>
    let (text, draws, calls) :=
      (Template.expand i.marks (Caller.recorded i.call) expanded).run.run (after.draws, [])
    (text, { after with draws := draws }, calls)

/-- The calls that a template with name tokens makes, in their order. -/
def dispatched (i : Interpreter) (n : Namer) (t : Text) (before : Session) : List Call :=
  (i.conversation n t before).2.2

/-- A conversation is the interpretation of the template. -/
theorem run_interpretNamed_eq_conversation (i : Interpreter) (n : Namer) (t : Text)
    (before : Session) :
    (i.interpretNamed n t).run.run before =
      ((i.conversation n t before).1, (i.conversation n t before).2.1) := by
  unfold interpretNamed conversation
  cases t with
  | nil => rfl
  | cons c t =>
    simp only [List.isEmpty_cons, Bool.false_eq_true, if_false]
    rw [Computation.run_bind]
    rcases (n.expandKeepingEscapes i.marks.escape (c :: t)).run.run before with
      ⟨e | expanded, after⟩
    · rfl
    · have hrun (session : Session) : (Naming.ofDrawing (i.interpret expanded)).run.run session =
          (((i.interpret expanded).run.run session.draws).1,
            { session with draws := ((i.interpret expanded).run.run session.draws).2 }) := rfl
      simp only
      rw [hrun, run_interpret_eq_recorded]
      rfl

/-- The title stays a piece of text: it has no mark of the template, no token takes notice of it,
and it has been put in outside all calls. -/
structure Bears (i : Interpreter) (n : Namer) (t : Text) (before : Session) (title : Text) :
    Prop where
  isLiteral : Template.IsLiteral i.marks (n.sanitizeInput title)
  leavesAlone : n.LeavesAlone i.marks.escape t before title
  hasFreeGaps : Leads (fun g _ => Template.HasFreeGaps i.marks .start g)
    ((n.gapped i.marks.escape t before).run.run before.draws)

/-- The calls are those that are made when the gaps for the title stay empty. -/
theorem dispatched_of_bears {i : Interpreter} {n : Namer} (hk : n.kind = .text)
    (hl : n.maxName = none) {t title : Text} {before : Session} (h : i.Bears n t before title) :
    i.dispatched (n.titled title) t before =
      match (n.gapped i.marks.escape t before).run.run before.draws with
      | (.error _, _) => []
      | (.ok g, d) =>
        ((Template.expand i.marks (Caller.recorded i.call) (g.fill [])).run.run (d, [])).2.2 := by
  obtain ⟨hliteral, halone, hfree⟩ := h
  have hrun := Namer.run_expand_titled hk hl halone
  rw [Computation.run_map] at hrun
  unfold dispatched conversation
  generalize ((n.titled title).expandKeepingEscapes i.marks.escape t).run.run before = ran at hrun
  generalize (n.gapped i.marks.escape t before).run.run before.draws = gaps at hrun hfree
  obtain ⟨e | expanded, after⟩ := ran <;> obtain ⟨e' | g, d⟩ := gaps <;>
    obtain ⟨hmade, hdraws⟩ := Prod.mk.inj hrun <;> cases hmade
  · rfl
  · have hcalls := Template.outerCalls_fill hfree hliteral
    have hdraws : after.draws = d := hdraws
    exact hdraws ▸ congrArg Prod.snd
      (Template.run_eval_of_outerCalls (Caller.recorded i.call) hcalls (after.draws, []))

/-- Two titles that stay pieces of text make a template do the same calls, with the same names and
parameters. -/
theorem dispatched_titled {i : Interpreter} {n : Namer} (hk : n.kind = .text)
    (hl : n.maxName = none) {t title title' : Text} {before : Session}
    (h : i.Bears n t before title) (h' : i.Bears n t before title') :
    i.dispatched (n.titled title) t before = i.dispatched (n.titled title') t before := by
  rw [dispatched_of_bears hk hl h, dispatched_of_bears hk hl h']

/-- Signs of percent in a title, one of them before a letter that is no token, and a colon. -/
theorem dispatched_titled_percent :
    let i : Interpreter := ⟨.standard, ⟨none, some "x", none⟩, .standard, .plain⟩
    let n : Namer :=
      .standard ⟨{ Environment.empty with user := some "ann" }, ⟨[]⟩, ⟨1711375629, 0, 0⟩⟩
    let t : Text := "%t by %un, \x7binput\x7d: %t"
    let before : Session := ⟨0, ⟨fun _ => 0, 0⟩⟩
    i.Bears n t before "50% off: 3%" ∧ i.Bears n t before "My page" ∧
      i.dispatched (n.titled "50% off: 3%") t before =
        i.dispatched (n.titled "My page") t before := by
  intro i n t before
  have h : i.Bears n t before "50% off: 3%" :=
    ⟨by decide +kernel, by decide +kernel, by decide +kernel⟩
  have h' : i.Bears n t before "My page" :=
    ⟨by decide +kernel, by decide +kernel, by decide +kernel⟩
  exact ⟨h, h', dispatched_titled rfl rfl h h'⟩

/-- A title in braces is a call, and one without is none. -/
theorem dispatched_braces :
    let i : Interpreter := ⟨.standard, ⟨none, some "hi", none⟩, .standard, .plain⟩
    let n : Namer := .standard ⟨.empty, ⟨[]⟩, ⟨0, 0, 0⟩⟩
    let before : Session := ⟨0, ⟨fun _ => 0, 0⟩⟩
    i.dispatched (n.titled "\x7binput\x7d") "%t" before = [("input".toList, [])] ∧
      i.dispatched (n.titled "input") "%t" before = [] := by
  decide +kernel

end Interpreter

end UploadTemplate
