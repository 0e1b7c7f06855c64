import UploadTemplate.Proofs.Table
import UploadTemplate.Template.Registry

/-!
# Who answers to a name

A function answers to its name and to its further names, whatever their case. A registry that was
filled one function after the other finds the last one that answers.

- `Function.answersTo`: a function has a name, up to case.
- `Registry.IsBuilt`: the registries that registering makes.
- `Registry.get?_register`: a new function takes its names over and leaves the others alone.
- `Registry.IsBuilt.get?_eq_latest?`: the lookup in terms of the list of functions.
- `Registry.IsBuilt.isPosition`: where the functions stand that are looked up.
- `Registry.get?_foldl_register`: what registering functions makes of a registry.
-/

namespace UploadTemplate

/-- Whether a function has a name, or a further name, that is the given one up to case. -/
def Function.answersTo (f : Function) (name : Text) : Bool :=
  (f.name :: f.aliases).any fun n => Text.lower n == Text.lower name

namespace Registry

/-- The registries that come from registering functions one after the other. -/
inductive IsBuilt : Registry → Prop where
  | empty : IsBuilt empty
  | register {r : Registry} (h : IsBuilt r) (f : Function) : IsBuilt (r.register f)

theorem IsBuilt.foldl_register {r : Registry} (h : r.IsBuilt) (fs : List Function) :
    (fs.foldl Registry.register r).IsBuilt := by
  induction fs generalizing r with
  | nil => exact h
  | cons f fs ih => exact ih (h.register f)

theorem isBuilt_standard : standard.IsBuilt := IsBuilt.empty.foldl_register _

/-- The last function of the registry that answers to a name. -/
def latest? (r : Registry) (name : Text) : Option Function :=
  r.functions.reverse.find? (·.answersTo name)

/-! ### Lookup -/

theorem get?_assign (position : Nat) (names : List Text) (t : Table Nat) (k : Text) :
    (assign position names t).get? k =
      if names.any (fun n => Text.lower n == k) then some position else t.get? k := by
  induction names generalizing t with
  | nil => rfl
  | cons n names ih =>
    have hinsert : (t.insert (Text.lower n) position).get? k =
        if Text.lower n = k then some position else t.get? k :=
      Entries.find?_insert _ _ _ _
    rw [assign, List.foldl_cons, ← assign, ih, hinsert, List.any_cons]
    by_cases h : Text.lower n = k <;> simp [h]

theorem lt_of_get?_positions {r : Registry} {k : Text} {i : Nat}
    (h : r.positions.get? k = some i) : i < r.functions.length := by
  obtain ⟨e, he, rfl⟩ := Option.map_eq_some_iff.1 h
  exact r.position_lt e (List.mem_of_find?_eq_some he)

/-- A new function takes over the names that it answers to. -/
theorem get?_register (r : Registry) (f : Function) (name : Text) :
    (r.register f).get? name = if f.answersTo name then some f else r.get? name := by
  have hpositions : (r.register f).positions.get? (Text.lower name) =
      if f.answersTo name then some r.functions.length else r.positions.get? (Text.lower name) :=
    get?_assign _ _ _ _
  rw [get?, hpositions, show (r.register f).functions = r.functions ++ [f] from rfl]
  split
  · simp
  · rw [get?]
    -- The positions before are those of older functions, which stay where they are.
    cases hi : r.positions.get? (Text.lower name) with
    | none => rfl
    | some i => exact List.getElem?_append_left (lt_of_get?_positions hi)

theorem latest?_register (r : Registry) (f : Function) (name : Text) :
    (r.register f).latest? name = if f.answersTo name then some f else r.latest? name := by
  rw [latest?, show (r.register f).functions = r.functions ++ [f] from rfl, List.reverse_append,
    List.reverse_singleton, List.singleton_append, List.find?_cons]
  cases f.answersTo name <;> rfl

/-- The lookup finds the last function that answers to the name. -/
theorem IsBuilt.get?_eq_latest? {r : Registry} (h : r.IsBuilt) (name : Text) :
    r.get? name = r.latest? name := by
  induction h with
  | empty => rfl
  | register _ f ih => rw [get?_register, latest?_register, ih]

theorem IsBuilt.get?_eq_none_iff {r : Registry} (h : r.IsBuilt) (name : Text) :
    r.get? name = none ↔ ∀ f ∈ r.functions, f.answersTo name = false := by
  rw [h.get?_eq_latest?, latest?, List.find?_eq_none]
  simp

/-- Of the functions that answer to the name, `f` stands last. -/
def IsLatest (fs : List Function) (name : Text) (f : Function) : Prop :=
  ∃ before after, fs = before ++ f :: after ∧ f.answersTo name = true ∧
    ∀ g ∈ after, g.answersTo name = false

theorem latest?_eq_some_iff {r : Registry} {name : Text} {f : Function} :
    r.latest? name = some f ↔ IsLatest r.functions name f := by
  rw [latest?, List.find?_eq_some_iff_append]
  constructor
  · rintro ⟨hf, as, bs, hfs, has⟩
    refine ⟨bs.reverse, as.reverse, ?_, hf, fun g hg => by simpa using has g (by simpa using hg)⟩
    rw [← List.reverse_reverse r.functions, hfs]
    simp
  · rintro ⟨before, after, hfs, hf, hafter⟩
    refine ⟨hf, after.reverse, before.reverse, by simp [hfs], fun g hg => ?_⟩
    rw [hafter g (by simpa using hg)]
    rfl

/-! ### Positions -/

/-- The names of a function in lower case. -/
def lowerNames (f : Function) : List Text := (f.name :: f.aliases).map Text.lower

theorem mem_lowerNames_iff {f : Function} {key : Text} :
    key ∈ lowerNames f ↔ (f.name :: f.aliases).any (fun n => Text.lower n == key) = true := by
  simp only [lowerNames, List.mem_map, List.any_eq_true, beq_iff_eq]

/-- The function at this position has the name, which is in lower case, and none behind it has. -/
def IsPosition (fs : List Function) (key : Text) (i : Nat) : Prop :=
  ∃ f, fs[i]? = some f ∧ key ∈ lowerNames f ∧ ∀ j g, i < j → fs[j]? = some g → key ∉ lowerNames g

theorem IsPosition.concat {fs : List Function} {key : Text} {i : Nat} (h : IsPosition fs key i)
    {f : Function} (hf : key ∉ lowerNames f) : IsPosition (fs ++ [f]) key i := by
  obtain ⟨g, hg, hkey, hbehind⟩ := h
  refine ⟨g, by rw [List.getElem?_append_left (List.getElem?_eq_some_iff.1 hg).1, hg], hkey, ?_⟩
  intro j k hj hk
  rcases Nat.lt_or_ge j fs.length with hlt | hge
  · rw [List.getElem?_append_left hlt] at hk
    exact hbehind j k hj hk
  · rw [List.getElem?_append_right hge] at hk
    have hkf : k = f := List.mem_singleton.1 (List.mem_of_getElem? hk)
    exact hkf ▸ hf

theorem isPosition_concat {fs : List Function} {key : Text} {f : Function}
    (hf : key ∈ lowerNames f) : IsPosition (fs ++ [f]) key fs.length := by
  refine ⟨f, by simp, hf, fun j g hj hg => ?_⟩
  rw [List.getElem?_eq_none (by simp; omega)] at hg
  cases hg

/-- Every position in the table is that of the last function with the name. -/
theorem IsBuilt.isPosition {r : Registry} (h : r.IsBuilt) {key : Text} {i : Nat}
    (hi : r.positions.get? key = some i) : IsPosition r.functions key i := by
  induction h with
  | empty => cases hi
  | @register r _ f ih =>
    have hassign : (r.register f).positions.get? key =
        if (f.name :: f.aliases).any (fun n => Text.lower n == key) then some r.functions.length
        else r.positions.get? key := get?_assign _ _ _ _
    rw [hassign] at hi
    split at hi
    · rename_i hkey
      cases hi
      exact isPosition_concat (mem_lowerNames_iff.2 hkey)
    · rename_i hkey
      exact (ih hi).concat (mt mem_lowerNames_iff.1 hkey)

/-! ### Registering -/

theorem functions_foldl_register (r : Registry) (fs : List Function) :
    (fs.foldl register r).functions = r.functions ++ fs := by
  induction fs generalizing r with
  | nil => simp
  | cons f fs ih =>
    rw [List.foldl_cons, ih]
    simp [register]

theorem mem_names_iff {r : Registry} {name : Text} :
    name ∈ r.names ↔ ∃ f ∈ r.functions, f.name = name := by
  rw [names, Table.mem_keys_ofList]
  simp

/-- Functions registered one after the other, from no functions or from those of the library on. A
name finds the last function that answers to it. Every position that is stored is that of the last
function with the name it is stored under, so no lookup comes to a position without a function. The
names are those of all functions in ascending order. -/
theorem get?_foldl_register {r₀ : Registry} (h₀ : r₀ = .empty ∨ r₀ = .standard)
    (fs : List Function) :
    let r := fs.foldl register r₀
    r.functions = r₀.functions ++ fs ∧
    (∀ name f, r.get? name = some f ↔ IsLatest r.functions name f) ∧
    (∀ name, r.get? name = none ↔ ∀ f ∈ r.functions, f.answersTo name = false) ∧
    (∀ e ∈ r.positions.entries, IsPosition r.functions e.1 e.2) ∧
    r.names.Pairwise (· < ·) ∧
    ∀ name, name ∈ r.names ↔ ∃ f ∈ r.functions, f.name = name := by
  intro r
  have hbuilt : r.IsBuilt := by
    refine IsBuilt.foldl_register ?_ fs
    rcases h₀ with rfl | rfl
    · exact .empty
    · exact isBuilt_standard
  refine ⟨functions_foldl_register r₀ fs, fun name f => ?_, hbuilt.get?_eq_none_iff, fun e he => ?_,
    Table.sorted_keys _, fun name => mem_names_iff⟩
  · rw [hbuilt.get?_eq_latest?, latest?_eq_some_iff]
  · exact hbuilt.isPosition (Entries.find?_eq_some_of_mem r.positions.nodup_keys he)

/-- A function takes a further name over from one of the library, and its own name is taken over by
another one. -/
theorem get?_foldl_register_overlap :
    let f : Function := .ofAnswer "Pair" ["HEADERS"] 2 fun _ ps => .ok ps.flatten
    let g : Function := .ofAnswer "PAIR" ["%"] 0 fun _ _ => .ok []
    let r := [f, g].foldl register .standard
    r.get? "Headers" = some f ∧ r.get? "pair" = some g ∧ r.get? "pairs" = none ∧
      "Pair".toList ∈ r.names ∧ "HEADERS".toList ∉ r.names := by
  intro f g r
  obtain ⟨hfunctions, hsome, hnone, -, -, hnames⟩ := get?_foldl_register (.inr rfl) [f, g]
  refine ⟨(hsome _ f).2 ?_, (hsome _ g).2 ?_, (hnone _).2 (by decide +kernel), ?_, ?_⟩
  · exact hfunctions ▸ ⟨Registry.standard.functions, [g], rfl, by decide, by decide⟩
  · exact hfunctions ▸ ⟨Registry.standard.functions ++ [f], [], rfl, by decide, nofun⟩
  · exact (hnames _).2 ⟨f, hfunctions ▸ by simp, rfl⟩
  · rw [hnames]
    decide +kernel

end Registry

end UploadTemplate
