import Mathlib.Data.List.Perm.Basic
import UploadTemplate.Table

/-!
# Entries in order

Entries that are put into order one after the other stay the same entries, if no two of them share
a name. A table is looked up by name.

- `Entries.arrange_perm`: the order changes, the entries do not.
- `Entries.arrange_sorted`: entries in order stay as they are.
- `Table.get?_map`, `Table.get?_foldl_insertNew`, `Table.get?_ofList`: what stands under a name in a
  table that is mapped, filled up or made.
- `Table.mem_keys_ofList`: the names of a table are those of the entries that it is made of.
-/

namespace UploadTemplate

namespace Entries

variable {α : Type}

/-- Entries put into order; of two under one name the later counts. -/
def arrange (l : List (Text × α)) : List (Text × α) :=
  l.foldl (fun acc e => insert e.1 e.2 acc) []

theorem insert_perm {k : Text} {l : List (Text × α)} (h : k ∉ l.map (·.1)) (v : α) :
    (insert k v l).Perm ((k, v) :: l) := by
  induction l with
  | nil => exact .refl _
  | cons e l ih =>
    obtain ⟨k', v'⟩ := e
    simp only [List.map_cons, List.mem_cons, not_or] at h
    rw [insert]
    split
    · exact .refl _
    · rw [if_neg h.1]
      exact ((ih h.2).cons _).trans (.swap _ _ _)

theorem foldl_insert_perm {l acc : List (Text × α)} (h : ((l ++ acc).map (·.1)).Nodup) :
    (l.foldl (fun acc e => insert e.1 e.2 acc) acc).Perm (l ++ acc) := by
  induction l generalizing acc with
  | nil => exact .refl _
  | cons e l ih =>
    have hmiddle : (l ++ e :: acc).Perm (e :: (l ++ acc)) := List.perm_middle
    have hins : (insert e.1 e.2 acc).Perm (e :: acc) := by
      refine insert_perm (fun hm => ?_) e.2
      rw [List.cons_append, List.map_cons, List.nodup_cons, List.map_append] at h
      exact h.1 (List.mem_append_right _ hm)
    have hnew : (l ++ insert e.1 e.2 acc).Perm (e :: (l ++ acc)) :=
      (hins.append_left l).trans hmiddle
    rw [List.foldl_cons]
    exact (ih ((hnew.map _).nodup_iff.2 h)).trans hnew

theorem arrange_perm {l : List (Text × α)} (h : (l.map (·.1)).Nodup) : (arrange l).Perm l := by
  have hp : (arrange l).Perm (l ++ []) := foldl_insert_perm (by rwa [List.append_nil])
  rwa [List.append_nil] at hp

theorem sorted_foldl_insert {l acc : List (Text × α)} (h : Sorted acc) :
    Sorted (l.foldl (fun acc e => insert e.1 e.2 acc) acc) := by
  induction l generalizing acc with
  | nil => exact h
  | cons e l ih => exact ih h.insert

theorem Sorted.nodup {l : List (Text × α)} (h : Sorted l) : (l.map (·.1)).Nodup := by
  refine List.pairwise_map.2 (h.imp ?_)
  intro a b hlt heq
  exact List.lt_irrefl b.1 (heq ▸ hlt)

theorem arrange_sorted {l : List (Text × α)} (h : Sorted l) : arrange l = l :=
  (arrange_perm h.nodup).eq_of_pairwise (fun _ _ _ _ hab hba => absurd hba (List.lt_asymm hab))
    (sorted_foldl_insert List.Pairwise.nil) h

/-! ### Looking up -/

theorem find?_cons (k : Text) (e : Text × α) (l : List (Text × α)) :
    find? k (e :: l) = if e.1 = k then some e.2 else find? k l := by
  unfold find?
  rw [List.find?_cons]
  by_cases h : e.1 = k
  · rw [if_pos h, beq_iff_eq.2 h]
    rfl
  · rw [if_neg h, beq_eq_false_iff_ne.2 h]

theorem find?_insert (k k' : Text) (v : α) (l : List (Text × α)) :
    find? k' (insert k v l) = if k = k' then some v else find? k' l := by
  induction l with
  | nil => exact find?_cons k' (k, v) []
  | cons e l ih =>
    obtain ⟨j, w⟩ := e
    rw [insert]
    split
    · exact find?_cons k' (k, v) _
    split
    · rename_i hkj
      subst hkj
      rw [find?_cons, find?_cons]
      by_cases h : k = k' <;> simp [h]
    · rename_i hkj
      rw [find?_cons, find?_cons, ih]
      by_cases h : k = k'
      · rw [if_pos h, if_pos h, if_neg fun hj => hkj (h.trans hj.symm)]
      · rw [if_neg h, if_neg h]

/-- Of entries with names of their own each is found. -/
theorem find?_eq_some_of_mem {l : List (Text × α)} (hl : (l.map (·.1)).Nodup) {k : Text} {v : α}
    (h : (k, v) ∈ l) : find? k l = some v := by
  induction l with
  | nil => cases h
  | cons e l ih =>
    obtain ⟨he, hl⟩ := List.nodup_cons.1 hl
    rw [find?_cons]
    rcases List.mem_cons.1 h with rfl | h
    · exact if_pos rfl
    · have hne : e.1 ≠ k := fun hk => he (List.mem_map.2 ⟨(k, v), h, hk.symm⟩)
      rw [if_neg hne, ih hl h]

theorem mem_of_find? {l : List (Text × α)} {k : Text} {v : α} (h : find? k l = some v) :
    (k, v) ∈ l := by
  induction l with
  | nil => cases h
  | cons e l ih =>
    rw [find?_cons] at h
    split at h
    · rename_i hk
      subst hk
      cases h
      exact List.mem_cons_self
    · exact List.mem_cons_of_mem e (ih h)

theorem find?_map {β : Type} (f : α → β) (k : Text) (l : List (Text × α)) :
    find? k (l.map fun e => (e.1, f e.2)) = (find? k l).map f := by
  induction l with
  | nil => rfl
  | cons e l ih =>
    rw [List.map_cons, find?_cons, find?_cons, ih]
    split <;> rfl

end Entries

namespace Table

variable {α : Type}

theorem entries_foldl_insert (l : List (Text × α)) (t : Table α) :
    (l.foldl (fun t e => t.insert e.1 e.2) t).entries =
      l.foldl (fun acc e => Entries.insert e.1 e.2 acc) t.entries := by
  induction l generalizing t with
  | nil => rfl
  | cons e l ih => exact ih _

theorem eq_of_entries {t u : Table α} (h : t.entries = u.entries) : t = u := by
  cases t
  cases u
  cases h
  rfl

theorem ofList_entries (t : Table α) : ofList t.entries = t :=
  eq_of_entries ((entries_foldl_insert t.entries empty).trans (Entries.arrange_sorted t.sorted))

theorem get?_map {β : Type} (f : α → β) (t : Table α) (k : Text) :
    (t.map f).get? k = (t.get? k).map f :=
  Entries.find?_map f k t.entries

theorem get?_insertNew (t : Table α) (k k' : Text) (v : α) :
    (t.insertNew k v).get? k' = (t.get? k').or (if k = k' then some v else none) := by
  unfold insertNew
  cases hk : t.get? k with
  | some w =>
    rw [Option.isSome_some, if_pos rfl]
    by_cases h : k = k'
    · rw [← h, hk, Option.some_or]
    · rw [if_neg h, Option.or_none]
  | none =>
    rw [Option.isSome_none, if_neg Bool.false_ne_true]
    refine (Entries.find?_insert k k' v t.entries).trans ?_
    by_cases h : k = k'
    · rw [if_pos h, if_pos h, ← h, hk, Option.none_or]
    · rw [if_neg h, if_neg h, Option.or_none]
      rfl

/-- A table that is filled up keeps what it has; of two new entries under one name the earlier
counts. -/
theorem get?_foldl_insertNew (l : List (Text × α)) (t : Table α) (k : Text) :
    (l.foldl (fun t e => t.insertNew e.1 e.2) t).get? k = (t.get? k).or (Entries.find? k l) := by
  induction l generalizing t with
  | nil => exact (Option.or_none).symm
  | cons e l ih =>
    rw [List.foldl_cons, ih, get?_insertNew, Entries.find?_cons, Option.or_assoc]
    split <;> rfl

theorem sorted_keys (t : Table α) : t.keys.Pairwise (· < ·) := List.pairwise_map.2 t.sorted

theorem nodup_keys (t : Table α) : t.keys.Nodup :=
  t.sorted_keys.imp fun hlt he => absurd (he ▸ hlt) (List.lt_irrefl _)

theorem get?_empty (k : Text) : (empty : Table α).get? k = none := rfl

theorem get?_insert (t : Table α) (k k' : Text) (v : α) :
    (t.insert k v).get? k' = if k = k' then some v else t.get? k' :=
  Entries.find?_insert k k' v t.entries

/-- New entries with names of their own are put in, in whichever way. -/
theorem foldl_insertNew {l : List (Text × α)} (hl : (l.map (·.1)).Nodup) {t : Table α}
    (ht : ∀ e ∈ l, t.get? e.1 = none) :
    l.foldl (fun t e => t.insertNew e.1 e.2) t = l.foldl (fun t e => t.insert e.1 e.2) t := by
  induction l generalizing t with
  | nil => rfl
  | cons e l ih =>
    obtain ⟨he, hl⟩ := List.nodup_cons.1 hl
    have hnew : t.insertNew e.1 e.2 = t.insert e.1 e.2 := by
      rw [insertNew, ht e List.mem_cons_self, Option.isSome_none, if_neg Bool.false_ne_true]
    rw [List.foldl_cons, List.foldl_cons, hnew]
    refine ih hl fun e' he' => ?_
    have hne : e.1 ≠ e'.1 := fun h => he (List.mem_map.2 ⟨e', he', h.symm⟩)
    rw [get?_insert, if_neg hne]
    exact ht e' (List.mem_cons_of_mem e he')

theorem get?_ofList {l : List (Text × α)} (hl : (l.map (·.1)).Nodup) (k : Text) :
    (ofList l).get? k = Entries.find? k l := by
  have h : ofList l = l.foldl (fun t e => t.insertNew e.1 e.2) empty :=
    (foldl_insertNew hl fun e _ => get?_empty e.1).symm
  rw [h, get?_foldl_insertNew, get?_empty, Option.none_or]

/-! ### Names -/

theorem mem_keys_iff {t : Table α} {k : Text} : k ∈ t.keys ↔ (t.get? k).isSome = true := by
  rw [get?, Entries.find?, Option.isSome_map, List.find?_isSome, keys, List.mem_map]
  simp

theorem mem_keys_insert {t : Table α} {k k' : Text} {v : α} :
    k' ∈ (t.insert k v).keys ↔ k' = k ∨ k' ∈ t.keys := by
  rw [mem_keys_iff, mem_keys_iff, get?_insert]
  by_cases h : k = k'
  · simp [h]
  · simp [h, Ne.symm h]

theorem mem_keys_ofList {l : List (Text × α)} {k : Text} :
    k ∈ (ofList l).keys ↔ k ∈ l.map (·.1) := by
  have hfold (t : Table α) :
      k ∈ (l.foldl (fun t e => t.insert e.1 e.2) t).keys ↔ k ∈ t.keys ∨ k ∈ l.map (·.1) := by
    induction l generalizing t with
    | nil => simp
    | cons e l ih =>
      rw [List.foldl_cons, ih, mem_keys_insert, List.map_cons, List.mem_cons]
      tauto
  rw [ofList, hfold]
  simp [keys, empty]

end Table

end UploadTemplate
