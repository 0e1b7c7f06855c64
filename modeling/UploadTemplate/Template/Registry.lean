import UploadTemplate.Template.Function
import UploadTemplate.Text.Case

/-!
# Registries

The functions that templates may call, found by any of their names whatever its case. A function
that is registered later takes over the names that it shares with earlier ones.
-/

namespace UploadTemplate

structure Registry where
  /-- All functions, in the order in which they were registered. -/
  functions : List Function
  /-- Where the function with a name stands; the names are in lower case. -/
  positions : Table Nat
  position_lt : ∀ e ∈ positions.entries, e.2 < functions.length

namespace Registry

def empty : Registry := ⟨[], .empty, by simp [Table.empty]⟩

/-- The table with one position under each of several names. -/
def assign (position : Nat) (names : List Text) (t : Table Nat) : Table Nat :=
  names.foldl (fun t n => t.insert (Text.lower n) position) t

theorem mem_assign {position : Nat} {names : List Text} {t : Table Nat} {e : Text × Nat}
    (h : e ∈ (assign position names t).entries) : e.2 = position ∨ e ∈ t.entries := by
  induction names generalizing t with
  | nil => exact .inr h
  | cons n r ih =>
    rcases ih h with h | h
    · exact .inl h
    · rcases Entries.mem_insert h with h | h
      · exact .inl (by rw [h])
      · exact .inr h

def register (r : Registry) (f : Function) : Registry where
  functions := r.functions ++ [f]
  positions := assign r.functions.length (f.name :: f.aliases) r.positions
  position_lt := by
    intro e h
    rcases mem_assign h with h | h
    · simp [h]
    · have := r.position_lt e h
      simp only [List.length_append, List.length_singleton]
      omega

/-- The function with a name. -/
def get? (r : Registry) (name : Text) : Option Function :=
  (r.positions.get? (Text.lower name)).bind fun i => r.functions[i]?

/-- The primary names of all functions, in ascending order. -/
def names (r : Registry) : List Text :=
  (Table.ofList (r.functions.map fun f => (f.name, ()))).keys

/-- The registry of the functions of the library. -/
def standard : Registry := Function.builtIn.foldl register empty

end Registry

end UploadTemplate
