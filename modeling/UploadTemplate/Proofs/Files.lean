import UploadTemplate.Files

/-!
# Files that are written

Writing changes the bytes at one location. More files make more directories, so a path that leads to
a location still leads there after a write.

- `Files.locations`, `Files.content?`: the files there are, and the bytes of each.
- `Files.content?_put`: what is where after a location has been given other bytes.
- `Files.locate?_mono`: with more files a path leads where it led before.
- `Files.read?_of_write`: a path reads as what was written to it.
- `Files.read?_of_write_of_ne`: where a file is written anew, every other one reads as it did.
-/

namespace UploadTemplate.Files

/-- Where the files lie. -/
def locations (fs : Files) : List Location := fs.entries.map (·.1)

/-- The bytes of the file at a location. -/
def content? (fs : Files) (l : Location) : Option Bytes :=
  (fs.entries.find? fun e => e.1 == l).map (·.2)

theorem read?_eq_bind (fs : Files) (path : Text) :
    fs.read? path = (fs.locate? path).bind fs.content? := rfl

/-! ### One location -/

theorem content?_cons (e : Location × Bytes) (r : List (Location × Bytes)) (l : Location) :
    content? ⟨e :: r⟩ l = if e.1 = l then some e.2 else content? ⟨r⟩ l := by
  unfold content?
  rw [List.find?_cons]
  by_cases h : e.1 = l
  · rw [if_pos h, beq_iff_eq.2 h]
    rfl
  · rw [if_neg h, beq_eq_false_iff_ne.2 h]

theorem content?_append (r r' : List (Location × Bytes)) (l : Location) :
    content? ⟨r ++ r'⟩ l = (content? ⟨r⟩ l).or (content? ⟨r'⟩ l) := by
  induction r with
  | nil => rfl
  | cons e r ih =>
    rw [List.cons_append, content?_cons, content?_cons, ih]
    split <;> rfl

theorem content?_eq_none_iff {fs : Files} {l : Location} :
    fs.content? l = none ↔ fs.isFile l = false := by
  simp [content?, isFile]

/-- Every file at a location is replaced, also where there are several. -/
theorem content?_replaced (r : List (Location × Bytes)) (l l' : Location) (content : Bytes) :
    content? ⟨r.map fun e => if e.1 == l then (l, content) else e⟩ l' =
      if l' = l then (content? ⟨r⟩ l).map fun _ => content else content? ⟨r⟩ l' := by
  induction r with
  | nil => simp [content?]
  | cons e r ih =>
    rw [List.map_cons, content?_cons, content?_cons, content?_cons, ih]
    by_cases hl : e.1 = l
    · by_cases hl' : l' = l
      · simp [hl, hl']
      · simp [hl, hl', Ne.symm hl']
    · by_cases hl' : l' = l
      · simp [hl, hl']
      · simp [hl, hl']

/-- The bytes at a location after some location has been given other bytes. -/
theorem content?_put (fs : Files) (l l' : Location) (content : Bytes) :
    (fs.put l content).content? l' = if l' = l then some content else fs.content? l' := by
  unfold put
  cases hfile : fs.isFile l with
  | true =>
    have hsome : ∃ old, fs.content? l = some old :=
      Option.ne_none_iff_exists'.1 fun hnone => by simp [content?_eq_none_iff.1 hnone] at hfile
    obtain ⟨old, hold⟩ := hsome
    rw [if_pos rfl, content?_replaced, show content? ⟨fs.entries⟩ l = some old from hold]
    rfl
  | false =>
    rw [if_neg Bool.false_ne_true, content?_append, content?_cons]
    by_cases hl : l' = l
    · subst hl
      rw [if_pos rfl, if_pos rfl, show content? ⟨fs.entries⟩ l' = none from
        content?_eq_none_iff.2 hfile]
      rfl
    · rw [if_neg hl, if_neg (Ne.symm hl)]
      exact Option.or_none

/-! ### Paths -/

variable {fs fs' : Files}

theorem isDirectory_mono (h : fs.locations ⊆ fs'.locations) {l : Location}
    (hl : fs.isDirectory l = true) : fs'.isDirectory l = true := by
  unfold isDirectory at hl ⊢
  rcases Bool.or_eq_true_iff.1 hl with hl | hl
  · rw [hl, Bool.true_or]
  · obtain ⟨e, he, hbelow⟩ := List.any_eq_true.1 hl
    obtain ⟨e', he', hsame⟩ := List.mem_map.1 (h (List.mem_map_of_mem he))
    rw [Bool.or_eq_true_iff]
    exact .inr (List.any_eq_true.2 ⟨e', he', hsame ▸ hbelow⟩)

theorem directory?_mono (h : fs.locations ⊆ fs'.locations) {here there : Location}
    {names : List Text} (hd : fs.directory? here names = some there) :
    fs'.directory? here names = some there := by
  fun_induction directory? fs here names with
  | case1 => exact hd
  | case2 here name r hname ih => rw [directory?, if_pos hname, ih hd]
  | case3 here r hname ih => rw [directory?, if_neg hname, if_pos rfl, ih hd]
  | case4 here name r hname hup hdir ih =>
    rw [directory?, if_neg hname, if_neg hup, if_pos (isDirectory_mono h hdir), ih hd]
  | case5 => cases hd

theorem locate?_mono (h : fs.locations ⊆ fs'.locations) {path : Text} {l : Location}
    (hl : fs.locate? path = some l) : fs'.locate? path = some l := by
  unfold locate? at hl ⊢
  simp only at hl ⊢
  cases hlast : (Text.split '/' path).getLast? with
  | none =>
    rw [hlast] at hl
    cases hl
  | some last =>
    rw [hlast] at hl
    simp only at hl ⊢
    split at hl
    · cases hl
    · rename_i hname
      obtain ⟨d, hd, rfl⟩ := Option.map_eq_some_iff.1 hl
      rw [if_neg hname, directory?_mono h hd]
      rfl

/-- Where paths lead depends on which files there are, not on their bytes. -/
theorem locate?_congr (h : fs'.locations = fs.locations) (path : Text) :
    fs'.locate? path = fs.locate? path :=
  Option.ext fun _ =>
    ⟨locate?_mono (h ▸ List.Subset.refl _), locate?_mono (h ▸ List.Subset.refl _)⟩

/-! ### Writing -/

theorem locations_put_of_isFile {l : Location} (h : fs.isFile l = true) (content : Bytes) :
    (fs.put l content).locations = fs.locations := by
  rw [put, if_pos h]
  unfold locations
  rw [List.map_map]
  refine List.map_congr_left fun e _ => ?_
  by_cases hl : e.1 = l <;> simp [hl]

theorem locations_subset_put (fs : Files) (l : Location) (content : Bytes) :
    fs.locations ⊆ (fs.put l content).locations := by
  cases hfile : fs.isFile l with
  | true =>
    rw [locations_put_of_isFile hfile content]
    exact List.Subset.refl _
  | false =>
    rw [put, hfile, if_neg Bool.false_ne_true]
    unfold locations
    rw [List.map_append]
    exact List.subset_append_left _ _

variable {path : Text} {content : Bytes}

theorem write?_eq_some (h : fs.write? path content = some fs') :
    ∃ l, fs.locate? path = some l ∧ fs' = fs.put l content := by
  obtain ⟨l, hl, hput⟩ := Option.bind_eq_some_iff.1 h
  split at hput
  · cases hput
  · exact ⟨l, hl, (Option.some.inj hput).symm⟩

theorem read?_of_write (h : fs.write? path content = some fs') :
    fs'.read? path = some content := by
  obtain ⟨l, hl, rfl⟩ := write?_eq_some h
  rw [read?_eq_bind, locate?_mono (locations_subset_put fs l content) hl, Option.bind_some,
    content?_put, if_pos rfl]

/-- Writing to a file that is there makes no new file. -/
theorem locations_of_write {old : Bytes} (hold : fs.read? path = some old)
    (h : fs.write? path content = some fs') : fs'.locations = fs.locations := by
  obtain ⟨l, hl, rfl⟩ := write?_eq_some h
  rw [read?_eq_bind, hl, Option.bind_some] at hold
  refine locations_put_of_isFile ?_ content
  cases hfile : fs.isFile l with
  | true => rfl
  | false => rw [content?_eq_none_iff.2 hfile] at hold; cases hold

theorem read?_of_write_of_ne {old : Bytes} (hold : fs.read? path = some old)
    (h : fs.write? path content = some fs') {other : Text}
    (hother : fs.locate? other ≠ fs.locate? path) : fs'.read? other = fs.read? other := by
  have hlocate := locate?_congr (locations_of_write hold h) other
  obtain ⟨l, hl, rfl⟩ := write?_eq_some h
  rw [read?_eq_bind, read?_eq_bind, hlocate]
  cases hl' : fs.locate? other with
  | none => rfl
  | some l' =>
    have hne : l' ≠ l := fun heq => hother (by rw [hl, hl', heq])
    rw [Option.bind_some, Option.bind_some, content?_put, if_neg hne]

end UploadTemplate.Files
