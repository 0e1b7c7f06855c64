import UploadTemplate.Command.Run
import UploadTemplate.Proofs.Destination.Migration
import UploadTemplate.Proofs.Store

/-!
# The migration of a file

A file of destinations is brought up to the current version in its place. It is written at most
once: what was written is at the current version, and a file in which every destination is stays as
it is.

- `Command.run_migrate_of_error`, `Command.run_migrate_of_current`,
  `Command.run_migrate_of_outdated`: what the command does, by what it loads.
- `Command.run_migrate_again`: after a run that went well the next one changes nothing.
- `Command.run_migrate`: the files after the command.
-/

namespace UploadTemplate.Command

variable {s : Scene} {path : Text} {ds : List Destination}

/-! ### One run -/

theorem run_migrate_of_error {e : StoreError} (h : Store.load s.surroundings.files path = .error e)
    (write : Bool) :
    run s (.migrate path write) = ⟨[], s.surroundings.files, some (.store e)⟩ := by
  simp only [run, runMigrate, migrated, h]
  rfl

theorem run_migrate_of_current (h : Store.load s.surroundings.files path = .ok ds)
    (hds : ∀ d ∈ ds, d.isOutdated = false) :
    run s (.migrate path true) = ⟨[], s.surroundings.files, none⟩ := by
  have hany : ds.any Destination.isOutdated = false := by simpa using hds
  simp only [run, runMigrate, migrated, h, Except.map, hany]
  rfl

theorem run_migrate_of_outdated (h : Store.load s.surroundings.files path = .ok ds)
    (hds : ∃ d ∈ ds, d.isOutdated = true) :
    run s (.migrate path true) =
      match Store.save s.surroundings.files path (ds.map Destination.migrate) with
      | .ok fs => ⟨[], fs, none⟩
      | .error e => ⟨[], s.surroundings.files, some (.store e)⟩ := by
  have hany : ds.any Destination.isOutdated = true := by simpa using hds
  simp only [run, runMigrate, migrated, h, Except.map, hany]
  rfl

/-- Without being told to write, the command only prints. -/
theorem files_run_migrate_false (s : Scene) (path : Text) :
    (run s (.migrate path false)).files = s.surroundings.files := by
  simp only [run, runMigrate]
  cases migrated s.surroundings.files path <;> rfl

/-! ### Two runs -/

/-- After a run that went well there is nothing left to migrate. -/
theorem current_of_run_migrate (hpath : Format.ofPath path = .json)
    (h : (run s (.migrate path true)).error = none) :
    ∃ ds, Store.load (run s (.migrate path true)).files path = .ok ds ∧
      ∀ d ∈ ds, d.isOutdated = false := by
  cases hload : Store.load s.surroundings.files path with
  | error e =>
    rw [run_migrate_of_error hload] at h
    cases h
  | ok ds =>
    by_cases hds : ∃ d ∈ ds, d.isOutdated = true
    · rw [run_migrate_of_outdated hload hds] at h ⊢
      cases hsave : Store.save s.surroundings.files path (ds.map Destination.migrate) with
      | error e =>
        rw [hsave] at h
        cases h
      | ok fs =>
        refine ⟨_, Store.load_save hpath hsave, fun d hd => ?_⟩
        obtain ⟨d, -, rfl⟩ := List.mem_map.1 hd
        exact d.isOutdated_migrate
    · have hcurrent : ∀ d ∈ ds, d.isOutdated = false := by simpa using hds
      rw [run_migrate_of_current hload hcurrent]
      exact ⟨ds, hload, hcurrent⟩

/-- The next run on the files that a run has left. -/
theorem run_migrate_again (hpath : Format.ofPath path = .json)
    (h : (run s (.migrate path true)).error = none) {next : Scene}
    (hnext : next.surroundings.files = (run s (.migrate path true)).files) :
    run next (.migrate path true) = ⟨[], (run s (.migrate path true)).files, none⟩ := by
  obtain ⟨ds, hload, hds⟩ := current_of_run_migrate hpath h
  rw [← hnext] at hload ⊢
  exact run_migrate_of_current hload hds

/-! ### The files -/

/-- A file that is missing, is not UTF-8 or holds no destinations is an error, and no file changes.
If every destination of the file is at the current version no file changes either. Otherwise this
file alone is written, and holds its destinations migrated, one by one. After a run that went well
the next one goes well and changes nothing, and without being told to write the command never
does. -/
theorem run_migrate (s : Scene) {path : Text} (hpath : ∀ e, Path.extension? path = some e →
      Text.sameAscii e "yml" = false ∧ Text.sameAscii e "yaml" = false) :
    let fs := s.surroundings.files
    let out := run s (.migrate path true)
    (fs.readText? path = none →
      out.error = some (.store (.unreadable path)) ∧ out.files = fs) ∧
    (∀ t fault, fs.readText? path = some t → Format.readJson t = .error fault →
      out.error = some (.store (.invalid path fault)) ∧ out.files = fs) ∧
    (∀ ds, Store.load fs path = .ok ds → (∀ d ∈ ds, d.isOutdated = false) →
      out.error = none ∧ out.files = fs) ∧
    (∀ ds, Store.load fs path = .ok ds → (∃ d ∈ ds, d.isOutdated = true) →
      (∀ content, (fs.write? path content).isSome = true) →
      out.error = none ∧ Store.load out.files path = .ok (ds.map Destination.migrate) ∧
      out.files.locations = fs.locations ∧
      ∀ other, fs.locate? other ≠ fs.locate? path → out.files.read? other = fs.read? other) ∧
    (out.error = none → ∀ next : Scene, next.surroundings.files = out.files →
      (run next (.migrate path true)).error = none ∧
      (run next (.migrate path true)).files = out.files) ∧
    (run s (.migrate path false)).files = fs := by
  intro fs out
  have hjson := Format.ofPath_eq_json hpath
  refine ⟨fun hread => ?_, fun t fault hread hfault => ?_, fun ds hload hds => ?_,
    fun ds hload hds hwrites => ?_, fun herror next hnext => ?_, files_run_migrate_false s path⟩
  · have hload : Store.load fs path = .error (.unreadable path) := by rw [Store.load, hread]
    rw [show out = _ from run_migrate_of_error hload true]
    exact ⟨rfl, rfl⟩
  · have hload : Store.load fs path = .error (.invalid path fault) := by
      rw [Store.load, hread, hjson]
      exact congrArg (Except.mapError _) hfault
    rw [show out = _ from run_migrate_of_error hload true]
    exact ⟨rfl, rfl⟩
  · rw [show out = _ from run_migrate_of_current hload hds]
    exact ⟨rfl, rfl⟩
  · obtain ⟨old, hold⟩ := Store.exists_read?_of_load hload
    obtain ⟨fs', hwrite⟩ := Option.isSome_iff_exists.1 (hwrites _)
    have hsave : Store.save fs path (ds.map Destination.migrate) = .ok fs' :=
      Store.save_eq_ok_iff.2 hwrite
    have hout : out = ⟨[], fs', none⟩ :=
      (run_migrate_of_outdated hload hds).trans (by rw [hsave])
    rw [hout]
    exact ⟨rfl, Store.load_save hjson hsave, Files.locations_of_write hold hwrite,
      fun other hother => Files.read?_of_write_of_ne hold hwrite hother⟩
  · rw [run_migrate_again hjson herror hnext]
    exact ⟨rfl, rfl⟩

/-- An old destination whose link stands between dollar signs, beside a file that is no text. -/
theorem run_migrate_dollars :
    let t : Text := "\x7b\"RequestURL\":\"https://a.b\",\"URL\":\"$json:link$\"\x7d".toList
    let d : Destination := { requestUrl := "https://a.b", url := "$json:link$" }
    let fs : Files := ⟨[(["notes".toList], [0xff]), (["old.sxcu".toList], Utf8.encode t)]⟩
    let s : Scene := ⟨⟨.empty, fs, ⟨0, 0, 0⟩⟩, ⟨fun _ => 0, 0⟩, fun _ _ => .error []⟩
    let out := run s (.migrate "old.sxcu" true)
    let next : Scene := { s with surroundings := { s.surroundings with files := out.files } }
    Store.load fs "old.sxcu" = .ok [d] ∧ out.error = none ∧
      Store.load out.files "old.sxcu" = .ok [d.migrate] ∧
      d.migrate.url = "\x7bjson:link\x7d".toList ∧
      out.files.read? "notes" = some [0xff] ∧
      (run next (.migrate "old.sxcu" true)).files = out.files ∧
      (run s (.migrate "old.sxcu" false)).files = fs := by
  intro t d fs s out next
  have hextension : Path.extension? "old.sxcu" = some "sxcu".toList := by decide
  have hpath : ∀ e, Path.extension? "old.sxcu" = some e →
      Text.sameAscii e "yml" = false ∧ Text.sameAscii e "yaml" = false := by
    intro e he
    cases hextension.symm.trans he
    decide
  have hload : Store.load fs "old.sxcu" = .ok [d] := by decide +kernel
  have hwrites : ∀ content, (fs.write? "old.sxcu" content).isSome = true := fun _ => rfl
  have hold : ∃ d' ∈ [d], d'.isOutdated = true := ⟨d, List.mem_cons_self, by decide +kernel⟩
  have hother : fs.locate? "notes" ≠ fs.locate? "old.sxcu" := by decide
  obtain ⟨-, -, -, hwritten, hagain, hprinted⟩ := run_migrate s hpath
  obtain ⟨herror, hafter, -, hothers⟩ := hwritten [d] hload hold hwrites
  refine ⟨hload, herror, hafter, by decide +kernel, ?_, (hagain herror next rfl).2, hprinted⟩
  exact (hothers "notes" hother).trans (by decide)

end UploadTemplate.Command
