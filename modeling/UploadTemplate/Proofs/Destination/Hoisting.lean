import UploadTemplate.Proofs.Destination.QueryCut
import UploadTemplate.Proofs.Query

/-!
# Pairs that become parameters

The query of a request URL is cut out with respect to the calls of the template. Its pairs are then
cut at every ampersand, and an ampersand may also stand in a call or behind an escape, where it
belongs to a value.

- `Query.joined`: a query as pairs are written into it.
- `Query.decoded_joined`, `Query.decoded_joined_cut`: its pairs, and what an ampersand does to one.
- `Destination.BeginsQuery`: a question mark behind a text begins a query.
- `Destination.normalized_joined`: when the pairs become the parameters.
-/

namespace UploadTemplate

/-! ### Pairs of a query -/

namespace Query

/-- The pairs of a query, decoded; those without a name are left out. -/
def decoded (query : Text) : List (Text × Text) :=
  ((pairs query).map fun p => (Percent.decode p.1, Percent.decode p.2)).filter
    fun e => !e.1.isEmpty

theorem mergeInto_eq_foldl (t : Table Text) (query : Text) :
    mergeInto t query = (decoded query).foldl (fun t e => t.insertNew e.1 e.2) t := by
  unfold mergeInto decoded
  generalize pairs query = l
  induction l generalizing t with
  | nil => rfl
  | cons p l ih =>
    rw [List.foldl_cons, ih, List.map_cons, List.filter_cons]
    cases hname : (Percent.decode p.1).isEmpty <;> simp [hname]

/-- A query as pairs are written into it. -/
def joined (l : List (Text × Text)) : Text :=
  List.intercalate ['&'] (l.map fun p => p.1 ++ '=' :: p.2)

/-- A name that is written as it is. -/
def IsPlainName (n : Text) : Prop := n ≠ [] ∧ '&' ∉ n ∧ '=' ∉ n ∧ '%' ∉ n

instance (n : Text) : Decidable (IsPlainName n) :=
  inferInstanceAs (Decidable (n ≠ [] ∧ '&' ∉ n ∧ '=' ∉ n ∧ '%' ∉ n))

theorem pairs_of_not_mem {piece : Text} (hne : piece ≠ []) (h : '&' ∉ piece) :
    pairs piece = [pair piece] := by
  unfold pairs
  rw [Text.split_of_not_mem h, List.filter_cons_of_pos (by simpa using hne)]
  rfl

theorem pairs_append {piece : Text} (hne : piece ≠ []) (h : '&' ∉ piece) (r : Text) :
    pairs (piece ++ '&' :: r) = pair piece :: pairs r := by
  unfold pairs
  rw [Text.split_append h, List.filter_cons_of_pos (by simpa using hne), List.map_cons]

variable {n t : Text} {l : List (Text × Text)}

theorem decoded_of_pairs {query r : Text} (hn : IsPlainName n)
    (h : pairs query = pair (n ++ '=' :: t) :: pairs r) :
    decoded query = (n, Percent.decode t) :: decoded r := by
  obtain ⟨hne, -, heq, hpercent⟩ := hn
  have hpair : pair (n ++ '=' :: t) = (n, t) := by
    rw [pair, Text.splitOnce_append heq, Option.getD_some]
  unfold decoded
  rw [h, hpair, List.map_cons, Percent.decode_of_no_percent hpercent,
    List.filter_cons_of_pos (by simpa using hne)]

/-- A pair without an ampersand in its value is read as it was written. -/
theorem decoded_joined_cons (hn : IsPlainName n) (ht : '&' ∉ t) :
    decoded (joined ((n, t) :: l)) = (n, Percent.decode t) :: decoded (joined l) := by
  have hne : n ++ '=' :: t ≠ [] := List.append_ne_nil_of_right_ne_nil n (List.cons_ne_nil _ _)
  have hamp : '&' ∉ n ++ '=' :: t := by simp [hn.2.1, ht]
  refine decoded_of_pairs hn ?_
  cases l with
  | nil =>
    rw [joined, List.map_singleton, List.intercalate_singleton]
    exact pairs_of_not_mem hne hamp
  | cons p l =>
    rw [joined, List.map_cons, List.map_cons, List.intercalate_cons_cons, List.append_assoc]
    exact pairs_append hne hamp _

/-- The value of a pair ends at its first ampersand. -/
theorem decoded_joined_cut (hn : IsPlainName n) (ht : '&' ∉ t) (v : Text) :
    ∃ r, decoded (joined ((n, t ++ '&' :: v) :: l)) = (n, Percent.decode t) :: decoded r := by
  have hne : n ++ '=' :: t ≠ [] := List.append_ne_nil_of_right_ne_nil n (List.cons_ne_nil _ _)
  have hamp : '&' ∉ n ++ '=' :: t := by simp [hn.2.1, ht]
  obtain ⟨r, hr⟩ : ∃ r, joined ((n, t ++ '&' :: v) :: l) = (n ++ '=' :: t) ++ '&' :: r := by
    cases l with
    | nil => exact ⟨v, by simp [joined]⟩
    | cons p l =>
      refine ⟨v ++ '&' :: joined (p :: l), ?_⟩
      rw [joined, List.map_cons, List.map_cons, List.intercalate_cons_cons]
      simp [joined]
  exact ⟨r, decoded_of_pairs hn (hr ▸ pairs_append hne hamp r)⟩

theorem decoded_joined (hn : ∀ p ∈ l, IsPlainName p.1) (hl : ∀ p ∈ l, '&' ∉ p.2) :
    decoded (joined l) = l.map fun p => (p.1, Percent.decode p.2) := by
  induction l with
  | nil => rfl
  | cons p l ih =>
    obtain ⟨hp, hn⟩ := List.forall_mem_cons.1 hn
    obtain ⟨hp', hl⟩ := List.forall_mem_cons.1 hl
    rw [decoded_joined_cons hp hp', ih hn hl, List.map_cons]

/-- If every value is found as it was written, none has an ampersand. -/
theorem not_mem_of_find?_decoded (hnames : (l.map (·.1)).Nodup) (hn : ∀ p ∈ l, IsPlainName p.1)
    (hv : ∀ p ∈ l, '%' ∉ p.2)
    (h : ∀ p ∈ l, Entries.find? p.1 (decoded (joined l)) = some p.2) : ∀ p ∈ l, '&' ∉ p.2 := by
  induction l with
  | nil => nofun
  | cons p l ih =>
    obtain ⟨n, t⟩ := p
    obtain ⟨hnew, hnames⟩ := List.nodup_cons.1 hnames
    obtain ⟨hp, hn⟩ := List.forall_mem_cons.1 hn
    obtain ⟨hpercent, hv⟩ := List.forall_mem_cons.1 hv
    obtain ⟨hfirst, h⟩ := List.forall_mem_cons.1 h
    have ht : '&' ∉ t := by
      intro hmem
      obtain ⟨u, v, rfl, hu⟩ := List.eq_append_cons_of_mem hmem
      obtain ⟨r, hr⟩ := decoded_joined_cut (l := l) hp hu v
      have hu' : '%' ∉ u := fun hm => hpercent (List.mem_append_left _ hm)
      rw [hr, Entries.find?_cons, if_pos rfl, Percent.decode_of_no_percent hu'] at hfirst
      have hlength := congrArg List.length (Option.some.inj hfirst)
      simp at hlength
    refine List.forall_mem_cons.2 ⟨ht, ih hnames hn hv fun p hp' => ?_⟩
    have hne : n ≠ p.1 := fun he => hnew (List.mem_map.2 ⟨p, hp', he.symm⟩)
    have hfind := h p hp'
    rwa [decoded_joined_cons hp ht, Entries.find?_cons, if_neg hne] at hfind

end Query

/-! ### The beginning of a query -/

namespace Destination

variable {m : Marks} {d : Destination} {pre : Text} {pairs : List (Text × Text)}

/-- A question mark behind the text begins a query: the text has none that does, and leaves no call
and no escape open. -/
def BeginsQuery (m : Marks) (pre : Text) : Prop := cutQuery m (pre ++ ['?']) = some (pre, [])

instance (m : Marks) (pre : Text) : Decidable (BeginsQuery m pre) :=
  inferInstanceAs (Decidable (_ = _))

theorem map_cons_eq_some_iff {x : Option (Text × Text)} {c : Char} {pre query : Text} :
    (x.map fun p => (c :: p.1, p.2)) = some (c :: pre, query) ↔ x = some (pre, query) := by
  rcases x with _ | ⟨a, b⟩ <;> simp

theorem cutQueryAt_of_ne_escape {c : Char} (h : c ≠ m.escape) (depth : Nat) (r : Text) :
    cutQueryAt m depth (c :: r) =
      if c = m.opening then (cutQueryAt m (depth + 1) r).map fun p => (c :: p.1, p.2)
      else if c = m.closing then (cutQueryAt m (depth - 1) r).map fun p => (c :: p.1, p.2)
      else if c = '?' ∧ depth = 0 then some ([], r)
      else (cutQueryAt m depth r).map fun p => (c :: p.1, p.2) := by
  rw [cutQueryAt.eq_def]
  simp only [h, if_false]

/-- Whether a text is cut at a question mark does not depend on what follows it. -/
theorem cutQueryAt_behind {depth : Nat} {query : Text}
    (h : cutQueryAt m depth (pre ++ '?' :: query) = some (pre, query)) (query' : Text) :
    cutQueryAt m depth (pre ++ '?' :: query') = some (pre, query') := by
  fun_induction cutQueryAt m depth pre with
  | case1 depth =>
    obtain ⟨-, ⟨he, ho, hc⟩, -⟩ := cutQueryAt_eq_some h
    rw [List.nil_append, cutQueryAt_of_ne_escape he, if_neg ho, if_neg hc] at h ⊢
    split at h
    · rw [if_pos ‹_›]
    · simp at h
  | case2 depth => simp [cutQueryAt] at h
  | case3 depth d r ih =>
    simp only [List.cons_append, cutQueryAt, if_true] at h ⊢
    obtain ⟨⟨a, b⟩, ha, hb⟩ := Option.map_eq_some_iff.1 h
    cases hb
    rw [ih ha]
    rfl
  | case4 depth r he ih =>
    rw [List.cons_append, cutQueryAt_of_ne_escape he, if_pos rfl, map_cons_eq_some_iff] at h ⊢
    exact ih h
  | case5 depth r he ho ih =>
    rw [List.cons_append, cutQueryAt_of_ne_escape he, if_neg ho, if_pos rfl,
      map_cons_eq_some_iff] at h ⊢
    exact ih h
  | case6 depth c r he ho hc hq =>
    rw [List.cons_append, cutQueryAt_of_ne_escape he, if_neg ho, if_neg hc, if_pos hq] at h
    cases h
  | case7 depth c r he ho hc hq ih =>
    rw [List.cons_append, cutQueryAt_of_ne_escape he, if_neg ho, if_neg hc, if_neg hq,
      map_cons_eq_some_iff] at h ⊢
    exact ih h

theorem beginsQuery_iff {query : Text} :
    BeginsQuery m pre ↔ cutQuery m (pre ++ '?' :: query) = some (pre, query) :=
  ⟨fun h => cutQueryAt_behind h query, fun h => cutQueryAt_behind h []⟩

/-! ### Parameters -/

theorem normalized_of_beginsQuery {query : Text} (h : BeginsQuery m pre)
    (hurl : d.requestUrl = pre ++ '?' :: query) :
    d.normalized m =
      { d with requestUrl := pre, parameters := Query.mergeInto d.parameters query } := by
  unfold normalized
  rw [hurl, beginsQuery_iff.1 h]

/-- A value without an ampersand is decoded. -/
theorem get?_normalized (hd : d.parameters = .empty)
    (hurl : d.requestUrl = pre ++ '?' :: Query.joined pairs) (hpre : BeginsQuery m pre)
    (hnames : (pairs.map (·.1)).Nodup) (hplain : ∀ p ∈ pairs, Query.IsPlainName p.1)
    (hamp : ∀ p ∈ pairs, '&' ∉ p.2) {n v : Text} (hv : (n, v) ∈ pairs) :
    (d.normalized m).parameters.get? n = some (Percent.decode v) := by
  rw [normalized_of_beginsQuery hpre hurl, Query.mergeInto_eq_foldl, hd,
    Table.get?_foldl_insertNew, Table.get?_empty, Option.none_or, Query.decoded_joined hplain hamp,
    Entries.find?_map, Entries.find?_eq_some_of_mem hnames hv, Option.map_some]

/-- If what stands before the question mark is all that is left of the request URL, the question
mark began the query. -/
theorem beginsQuery_of_requestUrl {query : Text} (hurl : d.requestUrl = pre ++ '?' :: query)
    (h : (d.normalized m).requestUrl = pre) : BeginsQuery m pre := by
  unfold normalized at h
  rw [hurl] at h
  rcases hcut : cutQuery m (pre ++ '?' :: query) with _ | ⟨url, rest⟩
  · rw [hcut] at h
    have hlength := congrArg List.length (hurl.symm.trans h)
    simp at hlength
  · rw [hcut] at h
    obtain rfl : url = pre := h
    obtain ⟨hsplit, -⟩ := cutQueryAt_eq_some hcut
    rw [← (List.cons.inj (List.append_cancel_left hsplit)).2] at hcut
    exact beginsQuery_iff.2 hcut

/-- The pairs of a query become the parameters, with their values as they are written, and what
stands before the question mark stays, exactly if that leaves nothing open and no value has an
ampersand. An ampersand ends a value wherever it stands, also in a call and behind an escape. -/
theorem normalized_joined (hd : d.parameters = .empty)
    (hurl : d.requestUrl = pre ++ '?' :: Query.joined pairs) (hnames : (pairs.map (·.1)).Nodup)
    (hplain : ∀ p ∈ pairs, Query.IsPlainName p.1) (hvalues : ∀ p ∈ pairs, '%' ∉ p.2) :
    d.normalized m = { d with requestUrl := pre, parameters := .ofList pairs } ↔
      BeginsQuery m pre ∧ ∀ p ∈ pairs, '&' ∉ p.2 := by
  have hmerge : Query.mergeInto d.parameters (Query.joined pairs) =
      (Query.decoded (Query.joined pairs)).foldl (fun t e => t.insertNew e.1 e.2) .empty := by
    rw [hd, Query.mergeInto_eq_foldl]
  constructor
  · intro h
    have hbegins : BeginsQuery m pre :=
      beginsQuery_of_requestUrl hurl (congrArg Destination.requestUrl h)
    refine ⟨hbegins, Query.not_mem_of_find?_decoded hnames hplain hvalues fun p hp => ?_⟩
    rw [normalized_of_beginsQuery hbegins hurl] at h
    have hfound := congrArg (fun d => d.parameters.get? p.1) h
    simp only [hmerge] at hfound
    rwa [Table.get?_foldl_insertNew, Table.get?_empty, Option.none_or, Table.get?_ofList hnames,
      Entries.find?_eq_some_of_mem hnames hp] at hfound
  · rintro ⟨hbegins, hamp⟩
    have hself : (pairs.map fun p => (p.1, Percent.decode p.2)) = pairs := by
      refine (List.map_congr_left fun p hp => ?_).trans (List.map_id pairs)
      rw [Percent.decode_of_no_percent (hvalues p hp)]
      rfl
    rw [normalized_of_beginsQuery hbegins hurl, hmerge, Query.decoded_joined hplain hamp, hself,
      Table.foldl_insertNew hnames fun e _ => Table.get?_empty e.1]
    rfl

/-- A question mark and an equals sign in the call of a value do no harm, an ampersand does. -/
theorem normalized_joined_call :
    let d : Destination := { requestUrl := "u?a=\x7bf:x=y|?\x7d&b=\\|".toList }
    let d' : Destination := { requestUrl := "u?a=\x7bf:x&y\x7d".toList }
    d.normalized .standard = { d with
        requestUrl := "u".toList
        parameters := .ofList
          [("a".toList, "\x7bf:x=y|?\x7d".toList), ("b".toList, "\\|".toList)] } ∧
      d'.normalized .standard ≠ { d' with
        requestUrl := "u".toList
        parameters := .ofList [("a".toList, "\x7bf:x&y\x7d".toList)] } := by
  intro d d'
  constructor
  · exact (normalized_joined rfl rfl (by decide) (by decide) (by decide)).2
      ⟨by decide +kernel, by decide⟩
  · intro h
    have hamp := ((normalized_joined rfl rfl (by decide) (by decide) (by decide)).1 h).2 _
      List.mem_cons_self
    exact hamp (by decide)

end Destination

end UploadTemplate
