import UploadTemplate.Proofs.Destination.Migration
import UploadTemplate.Proofs.Naming.Absent
import UploadTemplate.Proofs.Upload.Document

/-!
# JSON bodies after migration

Migration puts a document into marks as if it were read as a template, which takes the backslashes
away again. The documents of JSON bodies are not read as templates, so theirs are sent.

- `Compiler.request_migrate_slots`: what is sent for an older document, and when it is what was
  meant.
-/

namespace UploadTemplate

namespace Destination

theorem body_normalized (m : Marks) (d : Destination) : (d.normalized m).body = d.body := by
  unfold normalized
  split <;> rfl

theorem data_normalized (m : Marks) (d : Destination) : (d.normalized m).data = d.data := by
  unfold normalized
  split <;> rfl

theorem normalized_withBody (m : Marks) (d : Destination) (b : BodyKind) :
    ({ d with body := b } : Destination).normalized m = { d.normalized m with body := b } := by
  unfold normalized
  simp only
  split <;> rfl

end Destination

namespace Compiler

theorem entries_withBody (c : Compiler) (d : Destination) (b : BodyKind) (context : Context)
    (field : Field) (l : List (Text × Text)) :
    c.entries { d with body := b } context field l = c.entries d context field l := by
  induction l with
  | nil => rfl
  | cons e l ih =>
    rw [entries, entries, ih]
    rfl

theorem table_withBody (c : Compiler) (d : Destination) (b : BodyKind) (context : Context)
    (field : Field) (t : Table Text) :
    c.table { d with body := b } context field t = c.table d context field t := by
  unfold table
  rw [entries_withBody]

/-- The body of a request is made last. -/
theorem requestNormalized_eq_bind (c : Compiler) (d : Destination) (context : Context) :
    c.requestNormalized d context = (do
      let r ← c.requestNormalized { d with body := .nothing } context
      let body ← c.body d context
      pure { r with body := body }) := by
  have hn : c.body { d with body := .nothing } context = pure .nothing := rfl
  unfold requestNormalized
  simp only [hn, table_withBody]
  split
  · rfl
  · simp only [bind_assoc, pure_bind]
    rfl

/-- A destination whose body has a text whatever the session. -/
theorem requestNormalized_of_body {c : Compiler} {d : Destination} {context : Context}
    {body : RequestBody} (h : c.body d context = pure body) :
    c.requestNormalized d context = (fun r => { r with body := body }) <$>
      c.requestNormalized { d with body := .nothing } context := by
  rw [requestNormalized_eq_bind, h, map_eq_pure_bind]
  simp only [pure_bind]

/-- A marked document comes out with its backslashes. -/
theorem document_marked {c : Compiler} {d : Destination} {context : Context} {p : Slots}
    (hm : c.marks = .standard) (hk : c.namer.kind = .text) (hl : c.namer.maxName = none)
    (hp : p.IsOld) (hc : ∀ ch, .char ch ∈ p → ch ≠ '%') (hd : d.data = p.marked) :
    c.document d context .json = pure (p.escaped.filled context) := by
  unfold document
  rw [hd, Namer.expandKeepingEscapes_of_no_percent hk hl _ (Slots.percent_not_mem_marked hc), hm,
    ← Slots.fill_marked hp]
  rfl

/-- The request for an older JSON body is that of the destination without a body, with the filled
document in which every brace and bar has a backslash. This is the filled document itself, and is
well formed, exactly if there are no braces and bars. -/
theorem request_migrate_slots {c : Compiler} {d : Destination} (context : Context) {p : Slots}
    (hm : c.marks = .standard) (hk : c.namer.kind = .text) (hl : c.namer.maxName = none)
    (hlow : Version.isAtMost d.version Version.lastWithResponseKinds = false)
    (hhigh : Version.isAtMost d.version Version.lastWithDollars = true) (hb : d.body = .json)
    (hd : d.data = Text.refill Slot.dollars p)
    (hc : .char '$' ∉ p ∧ .char '\\' ∉ p ∧ .char '%' ∉ p) (hw : Json.WellFormed d.data) :
    c.request d.migrate context =
        (fun r => { r with body := .json (p.escaped.filled context) }) <$>
          c.request { d.migrate with body := .nothing } context ∧
      (p.escaped.filled context = p.filled context ↔ p.IsUnmarked) ∧
      (Json.WellFormed (p.escaped.filled context) ↔ p.IsUnmarked) := by
  have hp : p.IsOld := fun ch h => ⟨fun e => hc.1 (e ▸ h), fun e => hc.2.1 (e ▸ h)⟩
  have hpercent : ∀ ch, .char ch ∈ p → ch ≠ '%' := fun ch h e => hc.2.2 (e ▸ h)
  refine ⟨?_, p.filled_escaped_eq_iff context, Slots.wellFormed_filled_escaped hp (hd ▸ hw) context⟩
  have hmig := Destination.migrate_of_dollars hlow hhigh
  have hbody : d.migrate.body = .json := by rw [hmig]; exact hb
  have hdata : d.migrate.data = p.marked := by
    rw [hmig, ← Slots.inlinePatterns_marked hp d.patterns, ← Slots.toMarks_dollars hp, ← hd]
    rfl
  unfold request
  rw [Destination.normalized_withBody c.marks d.migrate .nothing]
  refine requestNormalized_of_body ?_
  have hdoc : c.document (d.migrate.normalized c.marks) context .json =
      pure (p.escaped.filled context) :=
    document_marked hm hk hl hp hpercent
      ((Destination.data_normalized c.marks d.migrate).trans hdata)
  unfold body
  rw [Destination.body_normalized, hbody]
  simp only [hdoc]
  rfl

/-- An object is sent with backslashes before its braces. -/
theorem request_migrate_slots_object :
    let c : Compiler := ⟨.empty, .standard, .standard ⟨.empty, ⟨[]⟩, ⟨0, 0, 0⟩⟩⟩
    let d : Destination :=
      { version := some "13.7.1".toList, requestUrl := "https://a.b".toList, body := .json,
        data := "\x7b\"a\":\"$input$\"\x7d".toList }
    let context : Context := ⟨none, some "hi".toList, none⟩
    let sent : Text := "\\\x7b\"a\":\"hi\"\\\x7d".toList
    c.request d.migrate context =
        (fun r => { r with body := .json sent }) <$>
          c.request { d.migrate with body := .nothing } context ∧
      sent ≠ "\x7b\"a\":\"hi\"\x7d".toList ∧ ¬ Json.WellFormed sent := by
  intro c d context sent
  let p : Slots := "\x7b\"a\":\"".toList.map .char ++ .found .input :: "\"\x7d".toList.map .char
  have hw : Json.WellFormed d.data :=
    ⟨_, by decide +kernel, @Json.IsValue.object [.string, .colon, .string] (.last .string)⟩
  obtain ⟨h1, -, h3⟩ := request_migrate_slots (c := c) (d := d) context (p := p) rfl rfl rfl
    (by decide) (by decide) rfl (by decide) (by decide) hw
  refine ⟨h1, by decide, fun h => ?_⟩
  have hc := h3.1 h '\x7b' (by decide)
  cases hc

end Compiler

end UploadTemplate
