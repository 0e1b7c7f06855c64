import UploadTemplate.Proofs.Json.Content
import UploadTemplate.Proofs.Upload.MigratedBody

/-!
# JSON bodies

The document of a JSON body has slots in its string literals. What is sent has the same tokens; its
literals hold what those of the document hold, with the input and the file name in the places of the
slots.

- `Compiler.request_json`: the request with a JSON body.
-/

namespace UploadTemplate

/-! ### Slots -/

namespace Slot

/-- What belongs into a slot: the input or the file name, or nothing if there is none. -/
def text (context : Context) : Slot → Text
  | input => context.input.getD []
  | fileName => context.fileName.getD []

theorem at?_append_quote (t r : Text) : at? (t ++ '"' :: r) = at? t := by
  have hquote (s : Slot) : '"' ∉ s.marked := by cases s <;> decide
  simp only [at?, List.isPrefixOf_iff_prefix, Text.prefix_append_cons_iff (hquote _)]

/-- A slot does not reach across a quotation mark. -/
theorem cut_append_quote (t r : Text) :
    Text.cut at? (t ++ '"' :: r) = Text.cut at? t ++ .char '"' :: Text.cut at? r := by
  have hnone : at? ('"' :: r) = none := at?_append_quote [] r
  rw [Text.cut_append (fun v => at?_append_quote v r), Text.cut_none hnone]
  intro v s n h
  obtain ⟨hp, rfl⟩ := marked_of_at? h
  exact hp.length_le

theorem refill_marked_cut (t : Text) : Text.refill Slot.marked (Text.cut at? t) = t := by
  refine Text.refill_cut_eq_self fun u v s n _ h => ?_
  obtain ⟨hp, rfl⟩ := marked_of_at? h
  exact ⟨Nat.succ_pos _, List.prefix_iff_eq_take.1 hp⟩

theorem spells_marked (s : Slot) : Json.Scan.Spells s.marked s.marked := by
  have hall : s.marked.all (fun c => decide (c ≠ '"' ∧ c ≠ '\\' ∧ 32 ≤ c.toNat)) = true := by
    cases s <;> rfl
  exact Json.Scan.spells_self fun c hc => of_decide_eq_true (List.all_eq_true.1 hall c hc)

theorem spells_value (context : Context) (s : Slot) :
    Json.Scan.Spells (s.value context) (s.text context) := by
  cases s <;> exact Json.Scan.spells_encode _

/-- Outside literals a slot would be at fault. -/
theorem not_noFault_marked {s : Json.Scan} (hs : Json.Scan.IsOutside s.inside) (slot : Slot)
    (r : Text) : ¬ s.NoFault (slot.marked ++ r) := by
  intro hf
  -- After the brace no token begins with an `i`, and the only one with an `f` is `false`.
  cases slot with
  | input =>
    have hf : s.NoFault ('\x7b' :: 'i' :: ("nput\x7d".toList ++ r)) := hf
    have hblank := Json.Scan.blank_of_brace hs hf.step.1
    have hk := hf.step.2.step.1
    generalize (s.step '\x7b').1 = b at hblank hk
    obtain ⟨_, p, q⟩ := b
    cases hblank
    exact hk List.mem_cons_self
  | fileName =>
    have hf : s.NoFault ('\x7b' :: 'f' :: 'i' :: ("lename\x7d".toList ++ r)) := hf
    have hblank := Json.Scan.blank_of_brace hs hf.step.1
    have hk := hf.step.2.step.2.step.1
    generalize (s.step '\x7b').1 = b at hblank hk
    obtain ⟨_, p, q⟩ := b
    cases hblank
    exact hk List.mem_cons_self

theorem at?_eq_none_of_noFault {s : Json.Scan} (hs : Json.Scan.IsOutside s.inside) {t : Text}
    (hf : s.NoFault t) : at? t = none := by
  refine at?_eq_none fun slot hp => ?_
  obtain ⟨r, rfl⟩ := hp
  exact not_noFault_marked hs slot r hf

/-- Slots are found in literals alone, and in each literal for itself. -/
theorem refill_cut_eq_mapInsides (f : Slot → Text) {s : Json.Scan}
    (hs : Json.Scan.IsOutside s.inside) {t : Text} (hf : s.NoFault t) :
    Text.refill f (Text.cut at? t) =
      Json.mapInsides (fun inside => Text.refill f (Text.cut at? inside)) t := by
  refine Json.Scan.literal_induction (P := fun _ t => Text.refill f (Text.cut at? t) =
    Json.mapInsides (fun inside => Text.refill f (Text.cut at? inside)) t) ?_ ?_ ?_ hs hf
  · intro _ _
    rfl
  · intro s c r hs hc hf ih
    rw [Text.cut_none (at?_eq_none_of_noFault hs hf), Text.refill_char, ih,
      Json.mapInsides_char _ hc]
  · intro s inside r x _ _ _ hinside _ ih
    have hopen (t : Text) : Text.cut at? ('"' :: t) = .char '"' :: Text.cut at? t :=
      Text.cut_none (at?_append_quote [] t)
    rw [Json.mapInsides_literal _ hinside, Json.inQuotes_append, Json.inQuotes_append, hopen,
      cut_append_quote, Text.refill_char, Text.refill_append, Text.refill_char, ih]

end Slot

/-! ### The document that is sent -/

namespace Compiler

/-- The document that is sent: every slot in a literal is filled with its value. -/
def sentDocument (context : Context) (t : Text) : Text :=
  Json.mapInsides (fun inside => Text.refill (Slot.value context) (Text.cut Slot.at? inside)) t

/-- What the literals of a document hold, if `v` is in the places of the slots. -/
def contents (v : Slot → Text) (t : Text) : List (Option Text) :=
  (Json.insides t).map fun inside => Json.content v (Text.cut Slot.at? inside)

/-- Filled slots keep the tokens of a document, except for what its literals hold. -/
theorem tokens_mapInsides {f v : Slot → Text} (hf : ∀ s, Json.Scan.Spells (f s) (v s)) {t : Text}
    (h : Json.Scan.start.NoFault t) :
    let made := Json.mapInsides (fun inside => Text.refill f (Text.cut Slot.at? inside)) t
    Json.outlines (Json.tokens made).1 = Json.outlines (Json.tokens t).1 ∧
      (Json.texts (Json.tokens made).1).map some = contents v t := by
  have hs : Json.Scan.IsOutside Json.Scan.start.inside := trivial
  have hin : Json.Scan.start.inside = Json.Scan.start.inside := rfl
  refine Json.Scan.lexemes_mapInsides (fun inside x hx => ?_) hs h hin
  rw [← Slot.refill_marked_cut inside] at hx
  exact hx.refill (fun s => ⟨_, rfl⟩) Slot.spells_marked hf

theorem document_json {c : Compiler} {d : Destination} (context : Context)
    (hm : c.marks = .standard) (hk : c.namer.kind = .text) (hl : c.namer.maxName = none)
    (hp : '%' ∉ d.data) (hf : Json.Scan.start.NoFault d.data) :
    c.document d context .json = pure (sentDocument context d.data) := by
  have hs : Json.Scan.IsOutside Json.Scan.start.inside := trivial
  unfold document sentDocument
  rw [Namer.expandKeepingEscapes_of_no_percent hk hl _ hp, hm,
    ← Slot.refill_cut_eq_mapInsides (Slot.value context) hs hf, ← fill_json]
  rfl

/-- The request for a JSON body is that of the destination without a body, with the filled document.
It is well formed, with the tokens of the document. A literal holds what it held, but for the input
and the file name in the places of its slots. -/
theorem request_json {c : Compiler} {d : Destination} (context : Context)
    (hm : c.marks = .standard) (hk : c.namer.kind = .text) (hl : c.namer.maxName = none)
    (hb : d.body = .json) (hp : '%' ∉ d.data) (hw : Json.WellFormed d.data) :
    let sent := sentDocument context d.data
    c.request d context = (fun r => { r with body := .json sent }) <$>
        c.request { d with body := .nothing } context ∧
      Json.WellFormed sent ∧
      Json.outlines (Json.tokens sent).1 = Json.outlines (Json.tokens d.data).1 ∧
      (Json.texts (Json.tokens d.data).1).map some = contents Slot.marked d.data ∧
      (Json.texts (Json.tokens sent).1).map some = contents (Slot.text context) d.data := by
  intro sent
  have hf : Json.Scan.start.NoFault d.data := hw.kind_isSome
  obtain ⟨houtlines, hsent⟩ := tokens_mapInsides (Slot.spells_value context) hf
  obtain ⟨-, hdata⟩ := tokens_mapInsides Slot.spells_marked hf
  have hself : Json.mapInsides
      (fun inside => Text.refill Slot.marked (Text.cut Slot.at? inside)) d.data = d.data := by
    simp only [Slot.refill_marked_cut]
    exact Json.mapInsides_id d.data
  refine ⟨?_, ?_, houtlines, by rwa [hself] at hdata, hsent⟩
  · unfold request
    rw [Destination.normalized_withBody c.marks d .nothing]
    have hdata := Destination.data_normalized c.marks d
    have hdocument : c.document (d.normalized c.marks) context .json = pure sent := by
      rw [document_json context hm hk hl (hdata ▸ hp) (hdata ▸ hf), hdata]
    refine requestNormalized_of_body ?_
    unfold body
    rw [Destination.body_normalized, hb]
    simp only [hdocument]
    rfl
  · obtain ⟨ks, hks, hv⟩ := hw
    rw [Json.kinds_eq_map_outlines, ← houtlines, ← Json.kinds_eq_map_outlines] at hks
    exact ⟨ks, hks, hv⟩

/-- A slot in a name and one in an item; a brace that is written as an escape opens none, nor do the
braces of the input and the file name. -/
theorem request_json_escapes :
    let c : Compiler := ⟨.empty, .standard, .standard ⟨.empty, ⟨[]⟩, ⟨0, 0, 0⟩⟩⟩
    let d : Destination :=
      { requestUrl := "https://a.b".toList, body := .json,
        data := "\x7b\"\x7binput\x7d\":[\"\\u007binput\x7d\",\"a\\n\x7bfilename\x7d\"]\x7d".toList }
    let context : Context := ⟨some "\x7binput\x7d".toList, some "\"\x7bfilename\x7d".toList, none⟩
    let sent : Text :=
      "\x7b\"\\\"\x7bfilename\x7d\":[\"\\u007binput\x7d\",\"a\\n\x7binput\x7d\"]\x7d".toList
    c.request d context = (fun r => { r with body := .json sent }) <$>
        c.request { d with body := .nothing } context ∧
      Json.WellFormed sent ∧
      Json.texts (Json.tokens d.data).1 =
        ["\x7binput\x7d".toList, "\x7binput\x7d".toList, "a\n\x7bfilename\x7d".toList] ∧
      Json.texts (Json.tokens sent).1 =
        ["\"\x7bfilename\x7d".toList, "\x7binput\x7d".toList, "a\n\x7binput\x7d".toList] := by
  intro c d context sent
  have hw : Json.WellFormed d.data :=
    ⟨_, by decide +kernel, @Json.IsValue.object
      (.string :: .colon :: .beginArray :: ([.string] ++ .comma :: [.string]) ++ [.endArray])
      (.last (.array (.more .string (.last .string))))⟩
  have hsent : sentDocument context d.data = sent := by decide +kernel
  obtain ⟨hrequest, hwell, -, hdata, htexts⟩ :=
    request_json (c := c) (d := d) context rfl rfl rfl rfl (by decide) hw
  rw [hsent] at hrequest hwell htexts
  have hinj {a b : List Text} (h : a.map some = b.map some) : a = b :=
    (List.map_inj_right fun _ _ => Option.some.inj).1 h
  exact ⟨hrequest, hwell, hinj (hdata.trans (by decide +kernel)),
    hinj (htexts.trans (by decide +kernel))⟩

end Compiler

end UploadTemplate
