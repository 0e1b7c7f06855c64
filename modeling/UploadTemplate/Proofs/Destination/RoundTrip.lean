import UploadTemplate.Proofs.Json.RoundTrip
import UploadTemplate.Store.Format

/-!
# Destinations that were written

A file of destinations in JSON reads back as the destinations that were written to it: what a field
is written as is read into that field alone, in whatever order the fields come, and a field that was
left out has the value with which reading begins.

- `Destination.put_shown`: the value of a field is read into the field.
- `Destination.ofJson_arranged`: a destination reads back from its object.
- `Format.read_value`: the text of a file of destinations is that of one JSON value.
- `Format.readJson_write`: destinations read back from that value, one or many.
- `Format.read_write`: a list of destinations reads back from its text.
-/

namespace UploadTemplate

open Json

namespace Json

theorem toTexts_strings (ts : List Text) : toTexts (.array (ts.map .string)) = .ok ts := by
  unfold toTexts
  induction ts with
  | nil => rfl
  | cons t ts ih => simp only [List.map_cons, List.mapM_cons, ih]; rfl

theorem toTable_ofTable (t : Table Text) : toTable (.ofTable t) = .ok t := by
  have hentries (l : List (Text × Text)) :
      ((l.map fun e => (e.1, Json.string e.2)).mapM fun m => do
        return (m.1, ← toText m.2) : Except Mismatch (List (Text × Text))) = .ok l := by
    induction l with
    | nil => rfl
    | cons e l ih => simp only [List.map_cons, List.mapM_cons, ih]; rfl
  unfold toTable ofTable
  simp only [hentries]
  exact congrArg Except.ok t.ofList_entries

theorem toChoice_string {α : Type} {all : List α} {label : α → Text} {a : α}
    (h : (all.find? fun b => label b = label a) = some a) :
    toChoice all label (.string (label a)) = .ok a := by
  unfold toChoice
  simp only [pure_bind, h]
  rfl

end Json

namespace Destination

/-! ### One field -/

/-- The destination with a field taken from another one. -/
def taking (e d : Destination) : Field → Destination
  | .version => { e with version := d.version }
  | .name => { e with name := d.name }
  | .destinationType => { e with purposes := d.purposes }
  | .requestMethod => { e with method := d.method }
  | .requestUrl => { e with requestUrl := d.requestUrl }
  | .parameters => { e with parameters := d.parameters }
  | .headers => { e with headers := d.headers }
  | .body => { e with body := d.body }
  | .arguments => { e with arguments := d.arguments }
  | .fileFormName => { e with fileFormName := d.fileFormName }
  | .data => { e with data := d.data }
  | .url => { e with url := d.url }
  | .thumbnailUrl => { e with thumbnailUrl := d.thumbnailUrl }
  | .deletionUrl => { e with deletionUrl := d.deletionUrl }
  | .errorMessage => { e with errorMessage := d.errorMessage }
  | .responseType => { e with responseKind := d.responseKind }
  | .regexList => { e with patterns := d.patterns }

variable {d e : Destination}

theorem taking_taking (e d : Destination) (f : Field) :
    (e.taking d f).taking d f = e.taking d f := by
  cases f <;> rfl

theorem taking_comm (e d : Destination) (f g : Field) :
    (e.taking d f).taking d g = (e.taking d g).taking d f := by
  cases f <;> cases g <;> rfl

theorem foldl_taking_all (e d : Destination) : Field.all.foldl (taking · d) e = d := by
  simp only [Field.all, List.foldl_cons, List.foldl_nil, taking]

/-- A destination in which every field is that of another one. -/
theorem eq_of_taking_eq_self (h : ∀ f, e.taking d f = e) : e = d := by
  have hfold (l : List Field) : l.foldl (taking · d) e = e := by
    induction l with
    | nil => rfl
    | cons f l ih => rw [List.foldl_cons, h f, ih]
  exact (hfold Field.all).symm.trans (foldl_taking_all e d)

theorem shownText_eq_some {t : Text} {v : Json} (h : shownText t = some v) : v = .string t := by
  unfold shownText at h
  split at h
  · cases h
  · exact (Option.some.inj h).symm

theorem shownTable_eq_some {t : Table Text} {v : Json} (h : shownTable t = some v) :
    v = .ofTable t := by
  unfold shownTable at h
  split at h
  · cases h
  · exact (Option.some.inj h).symm

/-- The value of a field is read into the field. -/
theorem put_shown {f : Field} {v : Json} (h : d.shown f = some v) (e : Destination) :
    jsonDecoder.put e f v = .ok (e.taking d f) := by
  cases f with
  | version | destinationType =>
    obtain ⟨t, ht, rfl⟩ := Option.map_eq_some_iff.1 h
    simp only [taking, ht]
    rfl
  | responseType =>
    obtain ⟨k, hk, rfl⟩ := Option.map_eq_some_iff.1 h
    have hchoice : toChoice ResponseKind.all ResponseKind.label (.string k.label) = .ok k :=
      toChoice_string (by cases k <;> rfl)
    simp only [taking, hk, Decoder.put, Decoder.optional, jsonDecoder, hchoice]
    rfl
  | requestMethod =>
    cases h
    have hchoice : toChoice Method.all Method.label (.string d.method.label) = .ok d.method :=
      toChoice_string (by cases d.method <;> rfl)
    simp only [taking, Decoder.put, jsonDecoder, hchoice]
    rfl
  | body =>
    cases h
    have hchoice : toChoice BodyKind.all BodyKind.label (.string d.body.label) = .ok d.body :=
      toChoice_string (by cases d.body <;> rfl)
    simp only [taking, Decoder.put, jsonDecoder, hchoice]
    rfl
  | name | requestUrl =>
    cases h
    rfl
  | fileFormName | data | url | thumbnailUrl | deletionUrl | errorMessage =>
    cases shownText_eq_some h
    rfl
  | parameters | headers | arguments =>
    cases shownTable_eq_some h
    simp only [taking, Decoder.put, jsonDecoder, toTable_ofTable]
    rfl
  | regexList =>
    simp only [shown] at h
    split at h
    · cases h
    · cases h
      simp only [taking, Decoder.put, jsonDecoder, toTexts_strings]
      rfl

/-- A field that is left out has the value with which reading begins. -/
theorem taking_eq_self_of_shown {f : Field} (h : d.shown f = none) :
    ({} : Destination).taking d f = {} := by
  have htext {t : Text} (ht : shownText t = none) : t = [] := by
    unfold shownText at ht
    split at ht
    · exact List.isEmpty_iff.1 ‹_›
    · cases ht
  have htable {t : Table Text} (ht : shownTable t = none) : t = .empty := by
    unfold shownTable at ht
    split at ht
    · exact Table.eq_of_entries (List.isEmpty_iff.1 ‹_›)
    · cases ht
  cases f with
  | version | destinationType | responseType => simp only [taking, Option.map_eq_none_iff.1 h]
  | requestMethod | body | name | requestUrl => cases h
  | fileFormName | data | url | thumbnailUrl | deletionUrl | errorMessage =>
    simp only [taking, htext h]
  | parameters | headers | arguments => simp only [taking, htable h]
  | regexList =>
    simp only [shown] at h
    split at h
    · simp only [taking, List.isEmpty_iff.1 ‹_›]
    · cases h

/-! ### All fields -/

/-- The fields that are written, by their names, in the order in which they are written. -/
def members (d : Destination) : List (Text × Json) :=
  Field.all.filterMap fun f => (d.shown f).map fun v => (f.label, v)

theorem label_injective {f g : Field} (h : f.label = g.label) : f = g :=
  Option.some.inj ((Field.ofName?_label f).symm.trans (h ▸ Field.ofName?_label g))

theorem mem_members {m : Text × Json} :
    m ∈ d.members ↔ ∃ f, m.1 = f.label ∧ d.shown f = some m.2 := by
  obtain ⟨k, v⟩ := m
  unfold members
  rw [List.mem_filterMap]
  constructor
  · rintro ⟨f, -, hf⟩
    obtain ⟨w, hw, he⟩ := Option.map_eq_some_iff.1 hf
    cases he
    exact ⟨f, rfl, hw⟩
  · rintro ⟨f, rfl, hf⟩
    exact ⟨f, by cases f <;> decide, by rw [hf]; rfl⟩

theorem nodup_members (d : Destination) : (d.members.map (·.1)).Nodup := by
  unfold members
  have hall : Field.all.Nodup := by decide
  refine List.pairwise_map.2 (List.pairwise_filterMap.2 (hall.imp ?_))
  intro f g hne m hm n hn heq
  obtain ⟨v, -, rfl⟩ := Option.map_eq_some_iff.1 hm
  obtain ⟨w, -, rfl⟩ := Option.map_eq_some_iff.1 hn
  exact hne (label_injective heq)

/-- Fields read in any order. Whatever is not yet as in `d` is still to come. -/
theorem putNamed_shown (repeated : Field → Mismatch) {ms : List (Text × Json)} {seen : List Field}
    (hnodup : (ms.map (·.1)).Nodup)
    (hms : ∀ m ∈ ms, ∃ f, f ∉ seen ∧ m.1 = f.label ∧ d.shown f = some m.2)
    (hrest : ∀ f, e.taking d f = e ∨ f.label ∈ ms.map (·.1)) :
    jsonDecoder.putNamed repeated e seen ms = .ok d := by
  induction ms generalizing e seen with
  | nil => exact congrArg Except.ok (eq_of_taking_eq_self fun f => (hrest f).resolve_right nofun)
  | cons m ms ih =>
    obtain ⟨k, v⟩ := m
    obtain ⟨f, hseen, hk, hv⟩ := hms (k, v) List.mem_cons_self
    simp only at hk hv
    subst hk
    rw [List.map_cons, List.nodup_cons] at hnodup
    simp only [Decoder.putNamed, Field.ofName?_label, if_neg hseen, put_shown hv]
    refine ih hnodup.2 (fun m hm => ?_) fun g => ?_
    · obtain ⟨g, hg, hk, hw⟩ := hms m (List.mem_cons_of_mem _ hm)
      refine ⟨g, fun hmem => ?_, hk, hw⟩
      rcases List.mem_cons.1 hmem with rfl | hmem
      · exact hnodup.1 (List.mem_map.2 ⟨m, hm, hk⟩)
      · exact hg hmem
    · rcases hrest g with hg | hg
      · exact .inl (by rw [taking_comm, hg])
      · rw [List.map_cons] at hg
        rcases List.mem_cons.1 hg with hg | hg
        · exact .inl (by rw [label_injective hg, taking_taking])
        · exact .inr hg

/-- The value of a field is a text, a table of texts or a list of texts. -/
theorem isShallow_shown {f : Field} {v : Json} (h : d.shown f = some v) :
    IsShallow 1 v ∧ arranged v = v := by
  have htable (t : Table Text) : IsShallow 1 (.ofTable t) ∧ arranged (.ofTable t) = .ofTable t := by
    have hstring : ∀ m ∈ (t.map Json.string).entries, ∃ s, m.2 = .string s := by
      intro m hm
      obtain ⟨e, -, rfl⟩ := List.mem_map.1 hm
      exact ⟨_, rfl⟩
    constructor
    · refine .object fun m hm => ?_
      obtain ⟨s, hs⟩ := hstring m hm
      exact hs ▸ .string s
    · have hself : arrangedMembers (t.map Json.string).entries = (t.map Json.string).entries :=
        arrangedMembers_eq_self fun m hm => by
          obtain ⟨s, hs⟩ := hstring m hm
          rw [hs]
          rfl
      exact congrArg Json.object
        ((congrArg Entries.arrange hself).trans (Entries.arrange_sorted (t.map Json.string).sorted))
  cases f with
  | version | destinationType | responseType =>
    obtain ⟨t, -, rfl⟩ := Option.map_eq_some_iff.1 h
    exact ⟨.string _, rfl⟩
  | requestMethod | body | name | requestUrl =>
    cases h
    exact ⟨.string _, rfl⟩
  | fileFormName | data | url | thumbnailUrl | deletionUrl | errorMessage =>
    cases shownText_eq_some h
    exact ⟨.string _, rfl⟩
  | parameters | headers | arguments =>
    cases shownTable_eq_some h
    exact htable _
  | regexList =>
    simp only [shown] at h
    split at h
    · cases h
    · cases h
      constructor
      · refine .array fun w hw => ?_
        obtain ⟨s, -, rfl⟩ := List.mem_map.1 hw
        exact .string s
      · rw [arranged, arrangedItems_eq_map, List.map_map]
        rfl

theorem isShallow_toJson (d : Destination) : IsShallow 2 d.toJson := by
  refine .object fun m hm => ?_
  obtain ⟨f, -, hf⟩ := mem_members.1 hm
  exact (isShallow_shown hf).1

theorem arranged_toJson (d : Destination) :
    arranged d.toJson = .object (Entries.arrange d.members) := by
  have hself : arrangedMembers d.members = d.members := arrangedMembers_eq_self fun m hm => by
    obtain ⟨f, -, hf⟩ := mem_members.1 hm
    exact (isShallow_shown hf).2
  exact congrArg (fun ms => Json.object (Entries.arrange ms)) hself

/-- A destination reads back from its object, whose members have been put in order. -/
theorem ofJson_arranged (d : Destination) : ofJson (arranged d.toJson) = .ok d := by
  have hperm := Entries.arrange_perm d.nodup_members
  rw [arranged_toJson, ofJson]
  refine putNamed_shown _ ((hperm.map _).nodup_iff.2 d.nodup_members) (fun m hm => ?_) fun f => ?_
  · obtain ⟨f, hk, hv⟩ := mem_members.1 (hperm.mem_iff.1 hm)
    exact ⟨f, by simp, hk, hv⟩
  · cases hf : d.shown f with
    | none => exact .inl (taking_eq_self_of_shown hf)
    | some v =>
      have hmem : (f.label, v) ∈ d.members := mem_members.2 ⟨f, rfl, hf⟩
      exact .inr (List.mem_map_of_mem (hperm.mem_iff.2 hmem))

theorem mapM_ofJson_arranged (ds : List Destination) :
    (arrangedItems (ds.map toJson)).mapM ofJson = .ok ds := by
  induction ds with
  | nil => rfl
  | cons d ds ih =>
    simp only [List.map_cons, arrangedItems, List.mapM_cons, ofJson_arranged, ih]
    rfl

end Destination

namespace Format

/-- The value that destinations are written as. A single one stands without a list. -/
def value : List Destination → Json
  | [d] => d.toJson
  | ds => .array (ds.map Destination.toJson)

theorem write_eq_pretty (ds : List Destination) : write ds .json = (value ds).pretty := by
  rcases ds with _ | ⟨d, _ | _⟩ <;> rfl

theorem isShallow_value (ds : List Destination) : ∃ n ≤ 3, IsShallow n (value ds) := by
  have hlist (ds : List Destination) : IsShallow 3 (.array (ds.map Destination.toJson)) := by
    refine .array fun v hv => ?_
    obtain ⟨d, -, rfl⟩ := List.mem_map.1 hv
    exact d.isShallow_toJson
  rcases ds with _ | ⟨d, _ | ⟨d', ds⟩⟩
  · exact ⟨3, Nat.le_refl 3, hlist []⟩
  · exact ⟨2, Nat.le_succ 2, d.isShallow_toJson⟩
  · exact ⟨3, Nat.le_refl 3, hlist (d :: d' :: ds)⟩

theorem read_value (ds : List Destination) :
    Json.read (write ds .json) = .ok (arranged (value ds)) := by
  obtain ⟨n, hn, hshallow⟩ := isShallow_value ds
  rw [write_eq_pretty, read_pretty hshallow (Nat.lt_of_le_of_lt hn (by decide))]

theorem readJson_write (ds : List Destination) : readJson (write ds .json) = .ok ds := by
  unfold readJson
  rw [read_value]
  rcases ds with _ | ⟨d, _ | ⟨d', ds⟩⟩
  · rfl
  · -- the value is seen to be an object, and no list, once its members stand there
    have hof := d.ofJson_arranged
    rw [Destination.arranged_toJson] at hof
    simp only [value, Destination.arranged_toJson, hof]
    rfl
  · have hof := Destination.mapM_ofJson_arranged (d :: d' :: ds)
    simp only [value, arranged, hof]
    rfl

/-- Destinations read back from their text. -/
theorem read_write (ds : List Destination) : read (write ds .json) .json = .ok ds := by
  unfold read
  exact readJson_write ds

end Format

end UploadTemplate
