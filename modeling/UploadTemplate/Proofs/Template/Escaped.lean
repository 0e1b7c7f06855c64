import UploadTemplate.Proofs.Computation
import UploadTemplate.Template.Escaped

/-!
# Runs between escaped characters

A text is cut into runs and escaped characters in one way. A substitution is given the runs, one
after the other, and as long as it makes no escapes itself, what it makes are the runs of the new
text, between the same escaped characters.

- `Escaped.IsCut`: what cutting a text makes; `isCut_cut`, `cut_join`: it is undone by joining.
- `Escaped.runs`, `Escaped.escapes`: the two kinds of parts.
- `Escaped.infix_of_run`: a run stands in its text.
- `Escaped.mapParts_eq_map`: what is put into the runs, and where it goes, are two things.
- `Escaped.Passes`: runs that are passed on one after the other.
- `Escaped.mapRuns_passes`: a text with other runs.
-/

namespace UploadTemplate.Escaped

variable {escape : Char}

/-! ### Cutting -/

theorem cut_pair (escape c : Char) (r : Text) :
    cut escape (escape :: c :: r) = .pair c :: cut escape r := by
  rw [cut.eq_def]
  simp

theorem cut_char {c : Char} (h : c ≠ escape) (r : Text) :
    cut escape (c :: r) = consChar c (cut escape r) := by
  rw [cut.eq_def]
  simp [h]

/-- No run begins the list. -/
def NoRunFirst (parts : List Part) : Prop := ∀ t, parts.head? ≠ some (.run t)

/-- What cutting makes: runs are not empty, have no escape and do not follow each other, and nothing
follows a lone escape. -/
def IsCut (escape : Char) : List Part → Prop
  | [] => True
  | .run t :: r => t ≠ [] ∧ escape ∉ t ∧ NoRunFirst r ∧ IsCut escape r
  | .pair _ :: r => IsCut escape r
  | .lone :: r => r = []

theorem consChar_of_noRunFirst {parts : List Part} (h : NoRunFirst parts) (c : Char) :
    consChar c parts = .run [c] :: parts := by
  rcases parts with _ | ⟨_ | _ | _, r⟩
  · rfl
  · exact absurd rfl (h _)
  · rfl
  · rfl

/-- A character goes into the first run, or becomes a run of its own. -/
theorem consChar_cases (c : Char) (parts : List Part) :
    (∃ t r, parts = .run t :: r ∧ consChar c parts = .run (c :: t) :: r) ∨
      NoRunFirst parts ∧ consChar c parts = .run [c] :: parts := by
  rcases parts with _ | ⟨t | _ | _, r⟩
  · exact .inr ⟨nofun, rfl⟩
  · exact .inl ⟨t, r, rfl, rfl⟩
  · exact .inr ⟨nofun, rfl⟩
  · exact .inr ⟨nofun, rfl⟩

theorem IsCut.consChar {c : Char} (hc : c ≠ escape) {parts : List Part} (h : IsCut escape parts) :
    IsCut escape (consChar c parts) := by
  rcases consChar_cases c parts with ⟨t, r, rfl, hcons⟩ | ⟨hfirst, hcons⟩
  · obtain ⟨-, ht, hfirst, h⟩ := h
    rw [hcons]
    exact ⟨List.cons_ne_nil c t, by simp [Ne.symm hc, ht], hfirst, h⟩
  · rw [hcons]
    exact ⟨List.cons_ne_nil c [], by simpa using Ne.symm hc, hfirst, h⟩

theorem isCut_cut (escape : Char) (t : Text) : IsCut escape (cut escape t) := by
  fun_induction cut escape t with
  | case1 => trivial
  | case2 => rfl
  | case3 d r ih => exact ih
  | case4 c r hc ih => exact ih.consChar hc

theorem cut_run {t r : Text} (hne : t ≠ []) (ht : escape ∉ t) (hr : NoRunFirst (cut escape r)) :
    cut escape (t ++ r) = .run t :: cut escape r := by
  induction t with
  | nil => exact absurd rfl hne
  | cons c t ih =>
    obtain ⟨hc, ht⟩ := not_or.1 (mt List.mem_cons.2 ht)
    rw [List.cons_append, cut_char (Ne.symm hc)]
    -- The run begins with its last character, and the others are put before that one.
    by_cases htn : t = []
    · rw [htn, List.nil_append, consChar_of_noRunFirst hr]
    · rw [ih htn ht]
      rfl

/-- A text has no other parts than those that cutting makes of it. -/
theorem cut_join {parts : List Part} (h : IsCut escape parts) :
    cut escape (join escape parts) = parts := by
  induction parts with
  | nil => rfl
  | cons part parts ih =>
    cases part with
    | run t =>
      obtain ⟨hne, ht, hfirst, h⟩ := h
      have hcut := ih h
      rw [join, cut_run hne ht (hcut.symm ▸ hfirst), hcut]
    | pair c => rw [join, cut_pair, ih h]
    | lone =>
      obtain rfl : parts = [] := h
      simp [join, cut]

/-! ### Runs and what stands between them -/

/-- The runs of a list of parts, from left to right. -/
def runs : List Part → List Text
  | [] => []
  | .run t :: r => t :: runs r
  | .pair _ :: r => runs r
  | .lone :: r => runs r

theorem mem_runs {parts : List Part} {t : Text} : t ∈ runs parts ↔ .run t ∈ parts := by
  induction parts with
  | nil => simp [runs]
  | cons part parts ih => cases part <;> simp [runs, ih]

theorem infix_join_of_run {parts : List Part} {t : Text} (h : .run t ∈ parts) :
    t <:+: join escape parts := by
  induction parts with
  | nil => cases h
  | cons part parts ih =>
    rcases List.mem_cons.1 h with rfl | h
    · exact List.infix_append [] t (join escape parts)
    · have ih := ih h
      cases part with
      | run u => exact ih.trans (List.suffix_append u _).isInfix
      | pair c => exact ih.trans (List.suffix_append [escape, c] _).isInfix
      | lone => exact ih.trans (List.suffix_cons escape _).isInfix

theorem infix_of_run {t u : Text} (h : .run u ∈ cut escape t) : u <:+: t :=
  join_cut escape t ▸ infix_join_of_run h

/-- The escaped characters of a list of parts, from left to right, and a lone escape. -/
def escapes : List Part → List Part
  | [] => []
  | .run _ :: r => escapes r
  | .pair c :: r => .pair c :: escapes r
  | .lone :: r => .lone :: escapes r

/-- The text of a list of parts with its runs replaced, one after the other, by the texts of `made`.
A run for which there is none is kept. -/
def joinWith (escape : Char) : List Part → List Text → Text
  | [], _ => []
  | .run t :: r, made => made.headD t ++ joinWith escape r made.tail
  | .pair c :: r, made => escape :: c :: joinWith escape r made
  | .lone :: r, made => escape :: joinWith escape r made

theorem joinWith_runs (escape : Char) (parts : List Part) :
    joinWith escape parts (runs parts) = join escape parts := by
  induction parts with
  | nil => rfl
  | cons part parts ih => cases part <;> simp [joinWith, runs, join, ih]

/-- What is put into the runs is made without a look at what stands between them. -/
theorem mapParts_eq_map {m : Type → Type} [Monad m] [LawfulMonad m] (escape : Char)
    (f : Text → m Text) (parts : List Part) :
    mapParts escape f parts = joinWith escape parts <$> (runs parts).mapM f := by
  induction parts with
  | nil => simp [mapParts, runs, joinWith]
  | cons part parts ih =>
    cases part with
    | run t => simp [mapParts, runs, joinWith, ih]
    | pair c => simp [mapParts, runs, joinWith, ih]
    | lone => simp [mapParts, runs, joinWith, ih]

/-- What leaves the runs of a text as they are leaves the text as it is. -/
theorem mapRuns_eq_pure {m : Type → Type} [Monad m] [LawfulMonad m] {f : Text → m Text}
    {t : Text} (h : ∀ u, .run u ∈ cut escape t → f u = pure u) :
    mapRuns escape f t = pure t := by
  unfold mapRuns
  suffices hj : mapParts escape f (cut escape t) = pure (join escape (cut escape t)) by
    rw [hj, join_cut]
  generalize cut escape t = parts at h
  induction parts with
  | nil => rfl
  | cons part parts ih =>
    have ih := ih fun u hu => h u (List.mem_cons_of_mem part hu)
    cases part with
    | run u => rw [mapParts, h u List.mem_cons_self, pure_bind, ih, pure_bind, join]
    | pair c => rw [mapParts, ih, pure_bind, join]
    | lone => rw [mapParts, ih, pure_bind, join]

theorem mapRuns_pure {m : Type → Type} [Monad m] [LawfulMonad m] (escape : Char) (t : Text) :
    mapRuns escape (pure : Text → m Text) t = pure t :=
  mapRuns_eq_pure fun _ _ => rfl

/-- The parts with their runs replaced, one after the other, by the texts of `made`. A run that
becomes empty is left out. -/
def replaceRuns : List Part → List Text → List Part
  | [], _ => []
  | .run t :: r, made =>
    (if made.headD t = [] then [] else [.run (made.headD t)]) ++ replaceRuns r made.tail
  | .pair c :: r, made => .pair c :: replaceRuns r made
  | .lone :: r, made => .lone :: replaceRuns r made

variable {parts : List Part} {made : List Text}

theorem join_replaceRuns (escape : Char) (parts : List Part) (made : List Text) :
    join escape (replaceRuns parts made) = joinWith escape parts made := by
  induction parts generalizing made with
  | nil => rfl
  | cons part parts ih =>
    cases part with
    | run t =>
      rw [replaceRuns, joinWith]
      split
      · rename_i hnil
        rw [List.nil_append, ih, hnil, List.nil_append]
      · rw [List.singleton_append, join, ih]
    | pair c => rw [replaceRuns, join, ih, joinWith]
    | lone => rw [replaceRuns, join, ih, joinWith]

theorem escapes_replaceRuns (parts : List Part) (made : List Text) :
    escapes (replaceRuns parts made) = escapes parts := by
  induction parts generalizing made with
  | nil => rfl
  | cons part parts ih =>
    cases part with
    | run t =>
      rw [replaceRuns, escapes]
      split <;> exact ih _
    | pair c => rw [replaceRuns, escapes, escapes, ih]
    | lone => rw [replaceRuns, escapes, escapes, ih]

theorem runs_replaceRuns (h : made.length = (runs parts).length) :
    runs (replaceRuns parts made) = made.filter fun u => !u.isEmpty := by
  induction parts generalizing made with
  | nil =>
    obtain rfl : made = [] := List.eq_nil_of_length_eq_zero h
    rfl
  | cons part parts ih =>
    cases part with
    | run t =>
      cases made with
      | nil => cases h
      | cons u made =>
        have ih := ih (Nat.succ.inj h)
        rw [replaceRuns, List.headD_cons, List.tail_cons]
        by_cases hu : u = []
        · rw [if_pos hu, List.nil_append, ih, List.filter_cons_of_neg (by simp [hu])]
        · rw [if_neg hu, List.singleton_append, runs, ih,
            List.filter_cons_of_pos (by simpa using hu)]
    | pair c => exact ih h
    | lone => exact ih h

theorem NoRunFirst.replaceRuns (h : NoRunFirst parts) (made : List Text) :
    NoRunFirst (replaceRuns parts made) := by
  rcases parts with _ | ⟨_ | _ | _, r⟩
  · exact h
  · exact absurd rfl (h _)
  · nofun
  · nofun

/-- What has no escape can take the place of a run. -/
theorem IsCut.replaceRuns (h : IsCut escape parts) (hmade : ∀ u ∈ made, escape ∉ u) :
    IsCut escape (replaceRuns parts made) := by
  induction parts generalizing made with
  | nil => trivial
  | cons part parts ih =>
    cases part with
    | run t =>
      obtain ⟨-, ht, hfirst, h⟩ := h
      have hrest := ih h fun u hu => hmade u (List.mem_of_mem_tail hu)
      rw [Escaped.replaceRuns]
      split
      · exact hrest
      · refine ⟨‹_›, ?_, hfirst.replaceRuns _, hrest⟩
        cases made with
        | nil => exact ht
        | cons u made => exact hmade u List.mem_cons_self
    | pair c => exact ih h hmade
    | lone =>
      obtain rfl : parts = [] := h
      rfl

/-! ### Passing runs on -/

variable {ε σ : Type}

theorem run_mapRuns (escape : Char) (f : Text → ExceptT ε (StateM σ) Text) (t : Text) (s : σ) :
    (mapRuns escape f t).run.run s =
      ((((runs (cut escape t)).mapM f).run.run s).1.map (joinWith escape (cut escape t)),
        (((runs (cut escape t)).mapM f).run.run s).2) := by
  rw [mapRuns, mapParts_eq_map, Computation.run_map]

/-- `Passes f s us log result last`: of the runs `us` those of `log` are passed on to `f`, one after
the other, which gives the texts of `result` or the error that ends it, and takes the state from `s`
to `last`. -/
inductive Passes (f : Text → ExceptT ε (StateM σ) Text) :
    σ → List Text → List Text → Except ε (List Text) → σ → Prop where
  | nothing (s : σ) : Passes f s [] [] (.ok []) s
  | failure {s last : σ} {u : Text} {us : List Text} {e : ε} :
      (f u).run.run s = (.error e, last) → Passes f s (u :: us) [u] (.error e) last
  | next {s between last : σ} {u text : Text} {us log : List Text}
      {result : Except ε (List Text)} :
      (f u).run.run s = (.ok text, between) → Passes f between us log result last →
      Passes f s (u :: us) (u :: log) (result.map (text :: ·)) last

/-- The substitution that also writes down the runs it is given. -/
def recording (f : Text → ExceptT ε (StateM σ) Text) :
    Text → ExceptT ε (StateM (σ × List Text)) Text := fun t =>
  ExceptT.mk fun (s, log) =>
    let (made, s) := (f t).run s
    (made, (s, log ++ [t]))

variable {f : Text → ExceptT ε (StateM σ) Text} {s last : σ} {us log : List Text}

theorem run_recording (f : Text → ExceptT ε (StateM σ) Text) (t : Text) (s : σ)
    (log : List Text) : (recording f t).run.run (s, log) =
      (((f t).run.run s).1, ((f t).run.run s).2, log ++ [t]) := rfl

theorem exists_passes (f : Text → ExceptT ε (StateM σ) Text) (us : List Text) (s : σ)
    (before : List Text) : ∃ log result last, Passes f s us log result last ∧
      (us.mapM f).run.run s = (result, last) ∧
      (us.mapM (recording f)).run.run (s, before) = (result, last, before ++ log) := by
  induction us generalizing s before with
  | nil => exact ⟨[], .ok [], s, .nothing s, rfl, by rw [List.append_nil]; rfl⟩
  | cons u us ih =>
    rw [List.mapM_cons, List.mapM_cons, Computation.run_bind, Computation.run_bind, run_recording]
    rcases hu : (f u).run.run s with ⟨e | text, between⟩
    · exact ⟨[u], .error e, between, .failure hu, rfl, rfl⟩
    · obtain ⟨log, result, last, hpasses, hrun, hrecorded⟩ := ih between (before ++ [u])
      refine ⟨u :: log, result.map (text :: ·), last, .next hu hpasses, ?_, ?_⟩
      · simp only [Computation.run_bind, hrun]
        cases result <;> rfl
      · simp only [Computation.run_bind, hrecorded, List.append_assoc, List.singleton_append]
        cases result <;> rfl

/-- Where nothing fails, every run is passed on. -/
theorem Passes.log_eq (h : Passes f s us log (.ok made) last) :
    log = us ∧ made.length = us.length := by
  generalize hresult : Except.ok made = result at h
  induction h generalizing made with
  | nothing =>
    cases hresult
    exact ⟨rfl, rfl⟩
  | failure => cases hresult
  | @next _ _ _ u text _ _ result _ _ ih =>
    cases result with
    | error e => cases hresult
    | ok rest =>
      cases hresult
      obtain ⟨hlog, hlength⟩ := ih rfl
      exact ⟨congrArg (u :: ·) hlog, congrArg (· + 1) hlength⟩

theorem Passes.not_mem (h : Passes f s us log (.ok made) last)
    (hf : ∀ u s text last, (f u).run.run s = (.ok text, last) → escape ∉ text) :
    ∀ u ∈ made, escape ∉ u := by
  generalize hresult : Except.ok made = result at h
  induction h generalizing made with
  | nothing =>
    cases hresult
    nofun
  | failure => cases hresult
  | @next _ _ _ _ _ _ _ result hu _ ih =>
    cases result with
    | error e => cases hresult
    | ok rest =>
      cases hresult
      exact List.forall_mem_cons.2 ⟨hf _ _ _ _ hu, ih rfl⟩

/-- The runs of a text are passed on, from left to right, until one fails. -/
theorem exists_passes_mapRuns (escape : Char) (f : Text → ExceptT ε (StateM σ) Text) (t : Text)
    (s : σ) : ∃ log result last, Passes f s (runs (cut escape t)) log result last ∧
      (mapRuns escape f t).run.run s = (result.map (joinWith escape (cut escape t)), last) ∧
      (mapRuns escape (recording f) t).run.run (s, []) =
        (result.map (joinWith escape (cut escape t)), last, log) := by
  obtain ⟨log, result, last, hpasses, hrun, hrecorded⟩ :=
    exists_passes f (runs (cut escape t)) s []
  refine ⟨log, result, last, hpasses, ?_, ?_⟩
  · rw [run_mapRuns, hrun]
  · rw [run_mapRuns, hrecorded]
    rfl

/-- A text stays as it is if its runs do. Its runs are not empty, have no escape, and make up the
text with the escaped characters between them. They are passed on from left to right, and the first
one that fails ends it with its error. If no result has an escape, the results that are not empty
are the runs of the new text, between the same escaped characters, so another substitution is given
them. -/
theorem mapRuns_passes (escape : Char) (f : Text → ExceptT ε (StateM σ) Text) (t : Text)
    (s : σ) :
    mapRuns escape (pure : Text → ExceptT ε (StateM σ) Text) t = pure t ∧
    (IsCut escape (cut escape t) ∧ join escape (cut escape t) = t) ∧
    (∃ log result last, Passes f s (runs (cut escape t)) log result last ∧
      (mapRuns escape f t).run.run s = (result.map (joinWith escape (cut escape t)), last) ∧
      (mapRuns escape (recording f) t).run.run (s, []) =
        (result.map (joinWith escape (cut escape t)), last, log)) ∧
    ((∀ u s text last, (f u).run.run s = (.ok text, last) → escape ∉ text) →
      ∀ out last, (mapRuns escape f t).run.run s = (.ok out, last) → ∃ made,
        Passes f s (runs (cut escape t)) (runs (cut escape t)) (.ok made) last ∧
        cut escape out = replaceRuns (cut escape t) made ∧
        escapes (cut escape out) = escapes (cut escape t) ∧
        ∀ (g : Text → ExceptT ε (StateM σ) Text) (s' : σ), ∃ log result last,
          Passes g s' (made.filter fun u => !u.isEmpty) log result last ∧
          (mapRuns escape (recording g) out).run.run (s', []) =
            (result.map (joinWith escape (replaceRuns (cut escape t) made)), last, log)) := by
  refine ⟨mapRuns_pure escape t, ⟨isCut_cut escape t, join_cut escape t⟩,
    exists_passes_mapRuns escape f t s, fun hf out last hout => ?_⟩
  obtain ⟨log, result, last', hpasses, hrun, -⟩ := exists_passes_mapRuns escape f t s
  rw [hrun] at hout
  cases result with
  | error e => cases hout
  | ok made =>
    cases hout
    obtain ⟨rfl, hlength⟩ := hpasses.log_eq
    -- No result has an escape, so the new text is cut where the old one was.
    have hcut : cut escape (joinWith escape (cut escape t) made) =
        replaceRuns (cut escape t) made := by
      rw [← join_replaceRuns]
      exact cut_join ((isCut_cut escape t).replaceRuns (hpasses.not_mem hf))
    refine ⟨made, hpasses, hcut, ?_, fun g s' => ?_⟩
    · rw [hcut, escapes_replaceRuns]
    · obtain ⟨log, result, last, hg, -, hrecorded⟩ :=
        exists_passes_mapRuns escape g (joinWith escape (cut escape t) made) s'
      rw [hcut, runs_replaceRuns hlength] at hg
      rw [hcut] at hrecorded
      exact ⟨log, result, last, hg, hrecorded⟩

/-- A substitution that counts the runs, and leaves nothing of one of them. -/
theorem mapRuns_passes_dropped :
    let f : Text → ExceptT Unit (StateM Nat) Text := fun u => do
      modify (· + 1)
      pure (u.filter fun c => c ≠ 'b' ∧ c ≠ '\\')
    let t : Text := ['a', '\\', 'b', 'b', '\\', '\\', 'a', 'b', '\\']
    let out : Text := ['a', '\\', 'b', '\\', '\\', 'a', '\\']
    (mapRuns '\\' f t).run.run 0 = (.ok out, 3) ∧
      escapes (cut '\\' out) = [.pair 'b', .pair '\\', .lone] ∧
      ∃ made, Passes f 0 [['a'], ['b'], ['a', 'b']] (runs (cut '\\' t)) (.ok made) 3 ∧
        cut '\\' out = replaceRuns (cut '\\' t) made := by
  intro f t out
  have hf : ∀ u s text last, (f u).run.run s = (.ok text, last) → '\\' ∉ text := by
    intro u s text last h
    obtain rfl : u.filter (fun c => c ≠ 'b' ∧ c ≠ '\\') = text :=
      Except.ok.inj (congrArg Prod.fst h)
    simp
  have hrun : (mapRuns '\\' f t).run.run 0 = (.ok out, 3) := by rfl
  have hruns : runs (cut '\\' t) = [['a'], ['b'], ['a', 'b']] := by decide
  obtain ⟨-, -, -, hparts⟩ := mapRuns_passes '\\' f t 0
  obtain ⟨made, hpasses, hcut, hescapes, -⟩ := hparts hf out 3 hrun
  refine ⟨hrun, hescapes.trans (by decide), made, ?_, hcut⟩
  rwa [hruns] at hpasses ⊢

end UploadTemplate.Escaped
