import UploadTemplate.Text

/-!
# Tables

A finite map from names to values, kept in ascending order of the names. Names are compared
character by character by code point, which is also the order of their UTF-8 bytes.
-/

namespace UploadTemplate

namespace Entries

/-- Puts a value under a name into a list of entries in ascending order. -/
def insert {α : Type} (k : Text) (v : α) : List (Text × α) → List (Text × α)
  | [] => [(k, v)]
  | (k', v') :: r =>
    if k < k' then (k, v) :: (k', v') :: r
    else if k = k' then (k, v) :: r
    else (k', v') :: insert k v r

def find? {α : Type} (k : Text) (l : List (Text × α)) : Option α :=
  (l.find? fun e => e.1 == k).map (·.2)

def Sorted {α : Type} (l : List (Text × α)) : Prop := l.Pairwise fun a b => a.1 < b.1

instance {α : Type} (l : List (Text × α)) : Decidable (Sorted l) :=
  inferInstanceAs (Decidable (l.Pairwise _))

theorem mem_insert {α : Type} {k : Text} {v : α} {l : List (Text × α)} {e : Text × α}
    (h : e ∈ insert k v l) : e = (k, v) ∨ e ∈ l := by
  induction l with
  | nil => simpa [insert] using h
  | cons a r ih =>
    simp only [insert] at h
    split at h
    · simpa using h
    · split at h
      · rcases List.mem_cons.1 h with h | h
        · exact .inl h
        · exact .inr (List.mem_cons_of_mem _ h)
      · rcases List.mem_cons.1 h with h | h
        · exact .inr (h ▸ List.mem_cons_self)
        · rcases ih h with h | h
          · exact .inl h
          · exact .inr (List.mem_cons_of_mem _ h)

theorem Sorted.insert {α : Type} {k : Text} {v : α} {l : List (Text × α)} (h : Sorted l) :
    Sorted (Entries.insert k v l) := by
  induction l with
  | nil => simp [Entries.insert, Sorted]
  | cons a r ih =>
    obtain ⟨k', v'⟩ := a
    have hr : Sorted r := List.Pairwise.of_cons h
    have hk' : ∀ e ∈ r, k' < e.1 := (List.pairwise_cons.1 h).1
    simp only [Entries.insert]
    split
    · rename_i hk
      refine List.pairwise_cons.2 ⟨fun e he => ?_, h⟩
      rcases List.mem_cons.1 he with rfl | he
      · exact hk
      · exact List.lt_trans hk (hk' e he)
    · split
      · rename_i hk
        subst hk
        exact List.pairwise_cons.2 ⟨hk', hr⟩
      · rename_i hk hne
        refine List.pairwise_cons.2 ⟨fun e he => ?_, ih hr⟩
        rcases mem_insert he with rfl | he
        · exact Decidable.byContradiction fun h => hne (Std.Trichotomous.trichotomous _ _ hk h)
        · exact hk' e he

end Entries

/-- A finite map with its entries in ascending order of the names. -/
structure Table (α : Type) where
  entries : List (Text × α)
  sorted : Entries.Sorted entries
  deriving DecidableEq

namespace Table

variable {α β : Type}

def empty : Table α := ⟨[], by simp [Entries.Sorted]⟩

instance : Inhabited (Table α) := ⟨empty⟩

def isEmpty (t : Table α) : Bool := t.entries.isEmpty

def keys (t : Table α) : List Text := t.entries.map (·.1)

def get? (t : Table α) (k : Text) : Option α := Entries.find? k t.entries

/-- The table with `v` under `k`, whatever stood there before. -/
def insert (t : Table α) (k : Text) (v : α) : Table α :=
  ⟨Entries.insert k v t.entries, t.sorted.insert⟩

/-- The table with `v` under `k` unless something stands there. -/
def insertNew (t : Table α) (k : Text) (v : α) : Table α :=
  if (t.get? k).isSome then t else t.insert k v

/-- The table of a list of entries; of two under one name the later counts. -/
def ofList (l : List (Text × α)) : Table α := l.foldl (fun t e => t.insert e.1 e.2) empty

/-- The table with every value replaced by its image. -/
def map (f : α → β) (t : Table α) : Table β :=
  ⟨t.entries.map fun e => (e.1, f e.2), by
    simpa [Entries.Sorted, List.pairwise_map] using t.sorted⟩

theorem keys_map (f : α → β) (t : Table α) : (t.map f).keys = t.keys := by
  simp [keys, map, Function.comp_def]

end Table

end UploadTemplate
