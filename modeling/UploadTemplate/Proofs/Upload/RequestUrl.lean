import UploadTemplate.Proofs.Query
import UploadTemplate.Proofs.Upload.Checks

/-!
# The URL of a request

The URL of a request is the interpreted request URL, with a scheme if it had none, and behind it the
interpreted parameters as a query that gives them back.

- `Compiler.hasScheme_withScheme`, `Compiler.hasScheme_withQuery`: the URL has a scheme.
- `Compiler.keys_table`: the interpreted parameters have the names of the parameters.
- `Compiler.request_url`: the parts of the URL of a request.
-/

namespace UploadTemplate.Compiler

/-! ### Schemes -/

theorem hasScheme_eq_true {url : Text} (h : hasScheme url = true) :
    ∃ scheme rest, url = scheme ++ ':' :: '/' :: '/' :: rest ∧ ':' ∉ scheme ∧
      scheme.isEmpty = false ∧ scheme.all Url.isSchemeChar = true := by
  unfold hasScheme at h
  split at h
  · rename_i scheme rest hsplit
    obtain ⟨rfl, hscheme⟩ := Text.splitOnce_eq_some hsplit
    simp only [Bool.and_eq_true, Bool.not_eq_true', List.isPrefixOf_iff_prefix] at h
    obtain ⟨⟨hne, hall⟩, behind, rfl⟩ := h
    exact ⟨scheme, behind, rfl, hscheme, hne, hall⟩
  · cases h

theorem hasScheme_of_scheme {scheme : Text} (h : ':' ∉ scheme) (hne : scheme.isEmpty = false)
    (hall : scheme.all Url.isSchemeChar = true) (rest : Text) :
    hasScheme (scheme ++ ':' :: '/' :: '/' :: rest) = true := by
  have hslashes : "//".toList.isPrefixOf ('/' :: '/' :: rest) = true :=
    List.isPrefixOf_iff_prefix.2 ⟨rest, rfl⟩
  simp only [hasScheme, Text.splitOnce_append h, hne, hall, hslashes, Bool.not_false,
    Bool.and_self]

theorem hasScheme_append {url : Text} (h : hasScheme url = true) (r : Text) :
    hasScheme (url ++ r) = true := by
  obtain ⟨scheme, rest, rfl, hscheme, hne, hall⟩ := hasScheme_eq_true h
  rw [List.append_assoc]
  exact hasScheme_of_scheme hscheme hne hall (rest ++ r)

theorem hasScheme_withScheme (url : Text) : hasScheme (withScheme url) = true := by
  unfold withScheme
  split
  · assumption
  · have hcolon : ':' ∉ "https".toList := by decide
    exact hasScheme_of_scheme hcolon rfl (by decide) url

theorem hasScheme_withQuery {url : Text} (h : hasScheme url = true) (t : Table Text) :
    hasScheme (withQuery url t) = true := by
  unfold withQuery
  split
  · exact h
  · exact hasScheme_append h _

/-! ### Interpreted parameters -/

section Parameters

variable {c : Compiler} {d : Destination} {context : Context} {field : Field}
  {before after : Session}

theorem keys_entries {l made : List (Text × Text)}
    (h : (c.entries d context field l).run.run before = (.ok made, after)) :
    made.map (·.1) = l.map (·.1) := by
  induction l generalizing before made with
  | nil =>
    cases h
    rfl
  | cons e l ih =>
    obtain ⟨k, t⟩ := e
    rw [entries] at h
    obtain ⟨text, between, -, h⟩ := Computation.run_of_bind h
    obtain ⟨rest, last, hrest, h⟩ := Computation.run_of_bind h
    cases h
    rw [List.map_cons, List.map_cons, ih hrest]

theorem keys_table {t made : Table Text}
    (h : (c.table d context field t).run.run before = (.ok made, after)) : made.keys = t.keys := by
  obtain ⟨l, hl, rfl⟩ := Computation.run_of_map h
  -- The entries have the names of a table, in their order, so making a table of them moves nothing.
  have hkeys : l.map (·.1) = t.keys := keys_entries hl
  have hsorted : Entries.Sorted l := by
    have ht : t.keys.Pairwise (· < ·) := List.pairwise_map.2 t.sorted
    exact List.pairwise_map.1 (hkeys ▸ ht)
  have hself : Table.ofList l = ⟨l, hsorted⟩ := Table.ofList_entries ⟨l, hsorted⟩
  rw [hself]
  exact hkeys

end Parameters

/-! ### The URL -/

theorem run_of_requestNormalized {c : Compiler} {d : Destination} {context : Context}
    {before after : Session} {r : Request}
    (h : (c.requestNormalized d context).run.run before = (.ok r, after)) :
    ∃ url parameters between between',
      ((c.interpreter context .url).interpretNamed c.namer d.requestUrl).run.run before =
        (.ok url, between) ∧
      (c.table d context .parameters d.parameters).run.run between = (.ok parameters, between') ∧
      r.url = withQuery (withScheme url) parameters := by
  unfold requestNormalized at h
  split at h
  · cases h
  · obtain ⟨url, between, hurl, h⟩ := Computation.run_of_bind h
    obtain ⟨parameters, between', hparameters, h⟩ := Computation.run_of_bind h
    obtain ⟨headers, _, -, h⟩ := Computation.run_of_bind h
    obtain ⟨body, _, -, h⟩ := Computation.run_of_bind h
    cases h
    exact ⟨url, parameters, between, between', Computation.run_of_adapt hurl, hparameters, rfl⟩

/-- The URL of a request has a scheme. Without parameters it is the interpreted request URL, behind
the scheme of the secure web if it had none; parameters follow it as a query that reads as their
entries, in ascending order of the names. No two tables of parameters have one query. -/
theorem request_url {c : Compiler} {d : Destination} {context : Context} {before after : Session}
    {r : Request} (h : (c.request d context).run.run before = (.ok r, after)) :
    (∃ url parameters between between',
      ((c.interpreter context .url).interpretNamed c.namer
        (d.normalized c.marks).requestUrl).run.run before = (.ok url, between) ∧
      (c.table (d.normalized c.marks) context .parameters
        (d.normalized c.marks).parameters).run.run between = (.ok parameters, between') ∧
      parameters.keys = (d.normalized c.marks).parameters.keys ∧
      let base := if hasScheme url then url else "https://" ++ url
      hasScheme r.url = true ∧
      (parameters.entries = [] → r.url = base) ∧
      (parameters.entries ≠ [] →
        r.url = base ++ (if '?' ∈ base then '&' else '?') :: Query.encode parameters ∧
        Query.read (Query.encode parameters) = parameters.entries.map some)) ∧
    ∀ t u : Table Text, t.entries ≠ [] → u.entries ≠ [] → Query.encode t = Query.encode u →
      t = u := by
  obtain ⟨url, parameters, between, between', hurl, hparameters, hr⟩ :=
    run_of_requestNormalized h
  refine ⟨⟨url, parameters, between, between', hurl, hparameters, keys_table hparameters, ?_⟩,
    fun _ _ => Query.encode_injective⟩
  intro base
  have hscheme : hasScheme r.url = true := by
    rw [hr]
    exact hasScheme_withQuery (hasScheme_withScheme url) parameters
  refine ⟨hscheme, fun hnone => ?_, fun hsome => ⟨?_, Query.read_encode hsome⟩⟩
  · have hempty : parameters.isEmpty = true := List.isEmpty_iff.2 hnone
    rw [hr, withQuery, if_pos hempty]
    rfl
  · have hfull : ¬ parameters.isEmpty = true := mt List.isEmpty_iff.1 hsome
    rw [hr, withQuery, if_neg hfull]
    rfl

/-- An escaped question mark stays in the URL, so that the hoisted parameters follow it behind an
ampersand. -/
theorem request_url_hoisted :
    let c : Compiler := ⟨.empty, .standard, .standard ⟨.empty, ⟨[]⟩, ⟨0, 0, 0⟩⟩⟩
    let d : Destination := { requestUrl := "a.b/x\\?y?r&q=1%262".toList }
    let before : Session := ⟨0, ⟨fun _ => 0, 0⟩⟩
    ∃ r after parameters, (c.request d ⟨none, none, none⟩).run.run before = (.ok r, after) ∧
      parameters.keys = [['q'], ['r']] ∧
      r.url = "https://a.b/x?y&q=1%262&r=".toList ∧
      r.url = "https://a.b/x?y".toList ++ '&' :: Query.encode parameters ∧
      Query.read (Query.encode parameters) = parameters.entries.map some := by
  intro c d before
  have hkeys : (d.normalized c.marks).parameters.keys = [['q'], ['r']] := by decide +kernel
  have hmade : ((c.request d ⟨none, none, none⟩).run.run before).1.toOption.map (·.url) =
      some "https://a.b/x?y&q=1%262&r=".toList := by decide +kernel
  have hread : (((c.interpreter ⟨none, none, none⟩ .url).interpretNamed c.namer
      (d.normalized c.marks).requestUrl).run.run before).1.toOption = some "a.b/x?y".toList := by
    decide +kernel
  rcases hrun : (c.request d ⟨none, none, none⟩).run.run before with ⟨e | r, after⟩
  · rw [hrun] at hmade
    cases hmade
  rw [hrun] at hmade
  have hr : r.url = "https://a.b/x?y&q=1%262&r=".toList := Option.some.inj hmade
  obtain ⟨⟨url, parameters, _, _, hurl, -, hnames, -, -, hquery⟩, -⟩ := request_url hrun
  rw [hurl] at hread
  obtain rfl : url = "a.b/x?y".toList := Option.some.inj hread
  rw [hkeys] at hnames
  have hsome : parameters.entries ≠ [] := by
    intro hnone
    rw [Table.keys, hnone] at hnames
    cases hnames
  exact ⟨r, after, parameters, rfl, hnames, hr, hquery hsome⟩

end UploadTemplate.Compiler
