/-!
# Computations that may fail

How computations run that keep a state and may end with an error: one after the other, until the
first error. The state is kept also where there is one.

- `Computation.run_bind`: the run of two computations one after the other.
- `Computation.run_of_bind`: if two computations go well one after the other, so does each.
- `Computation.length_of_mapM`: computations that go well give one result each.
- `Computation.run_mapM_eq_error_iff`: the first one that fails is the last one that is made.
- `Computation.Succeeds`: a computation that never fails.
-/

namespace UploadTemplate.Computation

variable {ε σ α β : Type}

theorem run_bind (x : ExceptT ε (StateM σ) α) (f : α → ExceptT ε (StateM σ) β) (s : σ) :
    (x >>= f).run.run s =
      match x.run.run s with
      | (.ok a, between) => (f a).run.run between
      | (.error e, after) => (.error e, after) := by
  rw [ExceptT.run_bind, StateT.run_bind]
  rcases x.run.run s with ⟨_ | _, _⟩ <;> rfl

theorem run_map (f : α → β) (x : ExceptT ε (StateM σ) α) (s : σ) :
    (f <$> x).run.run s = ((x.run.run s).1.map f, (x.run.run s).2) := by
  rw [map_eq_pure_bind, run_bind]
  rcases x.run.run s with ⟨_ | _, _⟩ <;> rfl

theorem run_adapt {ε' : Type} (f : ε → ε') (x : ExceptT ε (StateM σ) α) (s : σ) :
    (ExceptT.adapt f x).run.run s = ((x.run.run s).1.mapError f, (x.run.run s).2) := rfl

variable {x : ExceptT ε (StateM σ) α} {before after : σ} {b : β}

theorem run_of_bind {f : α → ExceptT ε (StateM σ) β}
    (h : (x >>= f).run.run before = (.ok b, after)) :
    ∃ a between, x.run.run before = (.ok a, between) ∧ (f a).run.run between = (.ok b, after) := by
  rw [run_bind] at h
  rcases hx : x.run.run before with ⟨e | a, between⟩ <;> rw [hx] at h
  · cases h
  · exact ⟨a, between, rfl, h⟩

theorem run_of_map {f : α → β} (h : (f <$> x).run.run before = (.ok b, after)) :
    ∃ a, x.run.run before = (.ok a, after) ∧ f a = b := by
  rw [run_map] at h
  rcases hx : x.run.run before with ⟨e | a, between⟩ <;> rw [hx] at h <;> cases h
  exact ⟨a, rfl, rfl⟩

theorem run_map_eq_error_iff {f : α → β} {e : ε} :
    (f <$> x).run.run before = (.error e, after) ↔ x.run.run before = (.error e, after) := by
  rw [run_map]
  rcases x.run.run before with ⟨e' | a, between⟩
  · constructor <;> intro h <;> cases h <;> rfl
  · constructor <;> intro h <;> cases h

theorem run_of_adapt {ε' : Type} {f : ε → ε'} {a : α}
    (h : (ExceptT.adapt f x).run.run before = (.ok a, after)) :
    x.run.run before = (.ok a, after) := by
  rw [run_adapt] at h
  rcases hx : x.run.run before with ⟨e | a, between⟩ <;> rw [hx] at h <;> cases h
  rfl

/-- Computations that go well one after the other give one result each. -/
theorem length_of_mapM {f : α → ExceptT ε (StateM σ) β} {as : List α} {bs : List β}
    (h : (as.mapM f).run.run before = (.ok bs, after)) : bs.length = as.length := by
  induction as generalizing bs before with
  | nil =>
    cases h
    rfl
  | cons a as ih =>
    rw [List.mapM_cons] at h
    obtain ⟨b, between, -, h⟩ := run_of_bind h
    obtain ⟨rest, last, hrest, h⟩ := run_of_bind h
    cases h
    exact congrArg (· + 1) (ih hrest)

theorem run_mapM_cons_of_ok {f : α → ExceptT ε (StateM σ) β} {a : α} {between : σ}
    (h : (f a).run.run before = (.ok b, between)) (as : List α) :
    ((a :: as).mapM f).run.run before =
      (((as.mapM f).run.run between).1.map (b :: ·), ((as.mapM f).run.run between).2) := by
  rw [List.mapM_cons, run_bind, h]
  exact run_map (b :: ·) (as.mapM f) between

theorem run_mapM_cons_of_error {f : α → ExceptT ε (StateM σ) β} {a : α} {e : ε}
    (h : (f a).run.run before = (.error e, after)) (as : List α) :
    ((a :: as).mapM f).run.run before = (.error e, after) := by
  rw [List.mapM_cons, run_bind, h]

/-- Computations that are made one after the other fail as the first of them that fails; those
behind it are not made. -/
theorem run_mapM_eq_error_iff {f : α → ExceptT ε (StateM σ) β} {as : List α} {e : ε} :
    (as.mapM f).run.run before = (.error e, after) ↔
      ∃ first a others bs between, as = first ++ a :: others ∧
        (first.mapM f).run.run before = (.ok bs, between) ∧
        (f a).run.run between = (.error e, after) := by
  constructor
  · intro h
    induction as generalizing before with
    | nil => cases h
    | cons a as ih =>
      rcases hx : (f a).run.run before with ⟨e' | b, between⟩
      · rw [run_mapM_cons_of_error hx] at h
        cases h
        exact ⟨[], a, as, [], before, rfl, rfl, hx⟩
      · rw [run_mapM_cons_of_ok hx] at h
        rcases hrun : (as.mapM f).run.run between with ⟨e' | bs, last⟩ <;> rw [hrun] at h <;> cases h
        obtain ⟨first, a', others, bs, later, rfl, hfirst, ha⟩ := ih hrun
        refine ⟨a :: first, a', others, b :: bs, later, rfl, ?_, ha⟩
        rw [run_mapM_cons_of_ok hx, hfirst]
        rfl
  · rintro ⟨first, a, others, bs, between, rfl, hfirst, ha⟩
    induction first generalizing before bs with
    | nil =>
      cases hfirst
      exact run_mapM_cons_of_error ha others
    | cons c first ih =>
      rw [List.mapM_cons] at hfirst
      obtain ⟨b, next, hc, hfirst⟩ := run_of_bind hfirst
      obtain ⟨bs, last, hrest, hpure⟩ := run_of_bind hfirst
      cases hpure
      rw [List.cons_append, run_mapM_cons_of_ok hc, ih _ hrest]
      rfl

/-! ### Computations that never fail -/

/-- Whatever the state, the computation goes well. -/
def Succeeds (x : ExceptT ε (StateM σ) α) : Prop :=
  ∀ s, ∃ a after, x.run.run s = (.ok a, after)

theorem succeeds_pure (a : α) : Succeeds (pure a : ExceptT ε (StateM σ) α) := fun s => ⟨a, s, rfl⟩

theorem Succeeds.bind {f : α → ExceptT ε (StateM σ) β} (hx : Succeeds x)
    (hf : ∀ a, Succeeds (f a)) : Succeeds (x >>= f) := by
  intro s
  obtain ⟨a, between, ha⟩ := hx s
  rw [run_bind, ha]
  exact hf a between

/-- What never fails ends as what comes before it does. -/
theorem Succeeds.run_bind_error {f : α → ExceptT ε (StateM σ) β} (hf : ∀ a, Succeeds (f a))
    (x : ExceptT ε (StateM σ) α) (s : σ) (e : ε) :
    ((x >>= f).run.run s).1 = .error e ↔ (x.run.run s).1 = .error e := by
  rw [run_bind]
  rcases x.run.run s with ⟨e' | a, between⟩
  · simp only [Except.error.injEq]
  · obtain ⟨b, after, hb⟩ := hf a between
    simp only [hb, reduceCtorEq]

end UploadTemplate.Computation
