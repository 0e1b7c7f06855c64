import UploadTemplate.Destination.Migration
import UploadTemplate.Proofs.Table
import UploadTemplate.Proofs.Version

/-!
# What migration does to a destination

Migration does nothing to a destination at the current version. Where calls already stand in marks
it states the version and nothing else; where they stand between dollar signs it rewrites every
template for itself, and nothing that is configured is lost.

- `Destination.rewriting`: what becomes of a template between dollar signs.
- `Destination.migrate_of_current`, `migrate_of_marks`, `migrate_of_dollars`, `migrate_of_kinds`:
  the four ages of a destination.
- `Destination.migrate_frame`: what changes and what does not.
-/

namespace UploadTemplate.Destination

/-- What becomes of a template between dollar signs. -/
def rewriting (d : Destination) (t : Text) : Text :=
  Dollar.inlinePatterns .standard d.patterns (Dollar.toMarks .standard t)

/-! ### The ages of a destination -/

theorem migrate_of_current {d : Destination} (h : d.isOutdated = false) : d.migrate = d := by
  unfold migrate
  rw [h]
  rfl

theorem migrate_of_marks {d : Destination} (ho : d.isOutdated = true)
    (h : Version.isAtMost d.version Version.lastWithDollars = false) :
    d.migrate = { d with version := some Version.current } := by
  have hk : Version.isAtMost d.version Version.lastWithResponseKinds = false :=
    Bool.eq_false_iff.2 fun hk => by
      rw [Version.isAtMost_lastWithDollars hk] at h
      cases h
  unfold migrate
  simp only [ho, hk, h, if_true]
  rfl

theorem migrate_of_dollars {d : Destination}
    (hk : Version.isAtMost d.version Version.lastWithResponseKinds = false)
    (hd : Version.isAtMost d.version Version.lastWithDollars = true) :
    d.migrate = { d.markingCalls with version := some Version.current } := by
  unfold migrate isOutdated
  simp only [Version.isOutdated_of_isAtMost hd, hk, hd, if_true]
  rfl

theorem migrate_of_kinds {d : Destination}
    (hk : Version.isAtMost d.version Version.lastWithResponseKinds = true) :
    d.migrate =
      { d.statingBody.statingLink.markingCalls with version := some Version.current } := by
  have hd := Version.isAtMost_lastWithDollars hk
  unfold migrate isOutdated
  simp only [Version.isOutdated_of_isAtMost hd, hk, hd, if_true]

/-! ### The steps of migration -/

theorem exists_statingLink (d : Destination) : ∃ url thumbnailUrl deletionUrl,
    d.statingLink =
      { d with
        url := url, thumbnailUrl := thumbnailUrl, deletionUrl := deletionUrl,
        responseKind := none } := by
  unfold statingLink
  rcases d.responseKind with _ | _ | _ | _ | _ <;> exact ⟨_, _, _, rfl⟩

theorem statingBody_of_post {d : Destination} (h : d.method = .post) :
    d.statingBody = { d with body := .multipart } := if_pos h

theorem statingBody_of_not_post {d : Destination} (h : d.method ≠ .post) :
    d.statingBody =
      { d with
        body := .nothing
        parameters := d.arguments.entries.foldl (fun t e => t.insertNew e.1 e.2) d.parameters
        arguments := .empty } := if_neg h

/-- What an older destination has in its tables after migration; its body and its link do not
matter for that. -/
theorem tables_migrate_of_kinds {d : Destination}
    (hk : Version.isAtMost d.version Version.lastWithResponseKinds = true) :
    d.migrate.parameters = d.statingBody.parameters.map d.rewriting ∧
      d.migrate.headers = d.headers.map d.rewriting ∧
      d.migrate.arguments = d.statingBody.arguments.map d.rewriting := by
  obtain ⟨url, thumbnailUrl, deletionUrl, hlink⟩ := exists_statingLink d.statingBody
  rw [migrate_of_kinds hk, hlink]
  by_cases hm : d.method = .post
  · rw [statingBody_of_post hm]
    exact ⟨rfl, rfl, rfl⟩
  · rw [statingBody_of_not_post hm]
    exact ⟨rfl, rfl, rfl⟩

/-- The fields that no migration changes. -/
def fixedFields (d : Destination) : Text × Option Text × Method × Text :=
  (d.name, d.purposes, d.method, d.fileFormName)

theorem fixedFields_migrate (d : Destination) : d.migrate.fixedFields = d.fixedFields := by
  cases hk : Version.isAtMost d.version Version.lastWithResponseKinds with
  | true =>
    obtain ⟨url, thumbnailUrl, deletionUrl, hlink⟩ := exists_statingLink d.statingBody
    rw [migrate_of_kinds hk, hlink]
    by_cases hm : d.method = .post
    · rw [statingBody_of_post hm]
      rfl
    · rw [statingBody_of_not_post hm]
      rfl
  | false =>
    cases hd : Version.isAtMost d.version Version.lastWithDollars with
    | true => rw [migrate_of_dollars hk hd]; rfl
    | false =>
      cases ho : d.isOutdated with
      | true => rw [migrate_of_marks ho hd]; rfl
      | false => rw [migrate_of_current ho]

theorem isOutdated_migrate (d : Destination) : d.migrate.isOutdated = false := by
  have hcurrent : Version.isOutdated (some Version.current) = false := by decide
  unfold migrate
  cases ho : d.isOutdated with
  | true => exact hcurrent
  | false => exact ho

/-- A migrated destination is at the current version and keeps what it is for. One at the current
version stays as it is, and one with its calls in marks but for the version. The arguments of
an old destination that does not post join the parameters, which come first. In the tables of every
other destination with dollar signs each value is rewritten in its place. -/
theorem migrate_frame (d : Destination) :
    d.migrate.isOutdated = false ∧ d.migrate.migrate = d.migrate ∧
    (d.migrate.name = d.name ∧ d.migrate.purposes = d.purposes ∧ d.migrate.method = d.method ∧
      d.migrate.fileFormName = d.fileFormName) ∧
    (d.isOutdated = false → d.migrate = d) ∧
    (Version.isAtMost d.version Version.lastWithDollars = false →
      ∃ v, d.migrate = { d with version := v }) ∧
    (Version.isAtMost d.version Version.lastWithResponseKinds = true → d.method ≠ .post →
      (∀ k, d.migrate.parameters.get? k =
        ((d.parameters.get? k).or (d.arguments.get? k)).map d.rewriting) ∧
      d.migrate.headers = d.headers.map d.rewriting ∧ d.migrate.arguments = .empty) ∧
    (Version.isAtMost d.version Version.lastWithDollars = true →
      ¬ (Version.isAtMost d.version Version.lastWithResponseKinds = true ∧ d.method ≠ .post) →
      d.migrate.parameters = d.parameters.map d.rewriting ∧
      d.migrate.headers = d.headers.map d.rewriting ∧
      d.migrate.arguments = d.arguments.map d.rewriting) := by
  have hfixed := fixedFields_migrate d
  simp only [fixedFields, Prod.mk.injEq] at hfixed
  refine ⟨isOutdated_migrate d, migrate_of_current (isOutdated_migrate d), hfixed,
    migrate_of_current, fun hd => ?_, fun hk hm => ?_, fun hd hn => ?_⟩
  · cases ho : d.isOutdated with
    | true => exact ⟨_, migrate_of_marks ho hd⟩
    | false => exact ⟨d.version, migrate_of_current ho⟩
  · obtain ⟨hparameters, hheaders, harguments⟩ := tables_migrate_of_kinds hk
    rw [statingBody_of_not_post hm] at hparameters harguments
    refine ⟨fun k => ?_, hheaders, harguments⟩
    rw [hparameters, Table.get?_map, Table.get?_foldl_insertNew]
    rfl
  · cases hk : Version.isAtMost d.version Version.lastWithResponseKinds with
    | true =>
      have hm : d.method = .post := Classical.byContradiction fun hm => hn ⟨hk, hm⟩
      have htables := tables_migrate_of_kinds hk
      rw [statingBody_of_post hm] at htables
      exact htables
    | false =>
      rw [migrate_of_dollars hk hd]
      exact ⟨rfl, rfl, rfl⟩

/-- An old destination with a parameter and an argument under one name. -/
theorem migrate_frame_overlap :
    let d : Destination :=
      { method := .get, parameters := .ofList [("key".toList, "$filename$".toList)],
        arguments := .ofList [("key".toList, "a".toList), ("url".toList, "$input$".toList)] }
    d.migrate.isOutdated = false ∧
      d.migrate.parameters.get? "key".toList = some "\x7bfilename\x7d".toList ∧
      d.migrate.parameters.get? "url".toList = some "\x7binput\x7d".toList ∧
      d.migrate.parameters.get? "a".toList = none ∧ d.migrate.arguments = .empty := by
  intro d
  obtain ⟨hcurrent, -, -, -, -, hjoined, -⟩ := migrate_frame d
  obtain ⟨hparameters, -, harguments⟩ := hjoined rfl (by decide)
  refine ⟨hcurrent, ?_, ?_, ?_, harguments⟩
  · exact (hparameters _).trans (by decide +kernel)
  · exact (hparameters _).trans (by decide +kernel)
  · exact (hparameters _).trans (by decide +kernel)

end UploadTemplate.Destination
