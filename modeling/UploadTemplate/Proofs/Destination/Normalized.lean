import UploadTemplate.Proofs.Destination.Hoisting

/-!
# Destinations without a query

Normalizing cuts the request URL off at its query and fills the parameters up with the pairs of that
query. What is left has no query, so it stays as it is when it is normalized again.

- `Destination.query`: the query of the request URL.
- `Query.find?_decoded`: the first pair under a name.
- `Destination.cutQuery_eq_none`, `Destination.prefix_of_cutQuery`: how far a text has no query.
- `Destination.normalized_frame`: what normalizing does, and what it leaves alone.
-/

namespace UploadTemplate

/-! ### The first pair under a name -/

/-- Entries without a name make a difference for the empty name alone. -/
theorem Entries.find?_filter_named {α : Type} (k : Text) (l : List (Text × α)) :
    find? k (l.filter fun e => !e.1.isEmpty) = if k = [] then none else find? k l := by
  induction l with
  | nil => split <;> rfl
  | cons e l ih =>
    rw [List.filter_cons]
    by_cases he : e.1 = []
    · rw [if_neg (by simp [he]), ih, find?_cons, he]
      split
      · rfl
      · rw [if_neg (Ne.symm ‹_›)]
    · rw [if_pos (by simpa using he), find?_cons, find?_cons, ih]
      by_cases hk : e.1 = k
      · rw [if_pos hk, if_pos hk, if_neg (hk ▸ he)]
      · rw [if_neg hk, if_neg hk]

theorem Query.find?_decoded (query k : Text) :
    Entries.find? k (decoded query) =
      if k = [] then none
      else ((pairs query).find? fun p => Percent.decode p.1 == k).map
        fun p => Percent.decode p.2 := by
  have hmap : Entries.find? k
      ((pairs query).map fun p => (Percent.decode p.1, Percent.decode p.2)) =
        ((pairs query).find? fun p => Percent.decode p.1 == k).map fun p => Percent.decode p.2 := by
    rw [Entries.find?, List.find?_map, Option.map_map]
    rfl
  rw [decoded, Entries.find?_filter_named, hmap]

namespace Destination

variable {m : Marks} {d : Destination} {depth : Nat} {url pre rest : Text}

/-! ### How far a text has no query -/

theorem cutQueryAt_prefix (h : cutQueryAt m depth url = some (pre, rest)) :
    cutQueryAt m depth pre = none := by
  -- Before the question mark the two texts are read alike, so the depth is the same there.
  fun_induction cutQueryAt m depth url generalizing pre with
  | case1 => cases h
  | case2 => cases h
  | case3 depth d r ih =>
    obtain ⟨⟨before, _⟩, hr, ⟨⟩⟩ := Option.map_eq_some_iff.1 h
    simp only [cutQueryAt, if_true, ih hr, Option.map_none]
  | case4 depth r he ih =>
    obtain ⟨⟨before, _⟩, hr, ⟨⟩⟩ := Option.map_eq_some_iff.1 h
    rw [cutQueryAt_of_ne_escape he, if_pos rfl, ih hr, Option.map_none]
  | case5 depth r he ho ih =>
    obtain ⟨⟨before, _⟩, hr, ⟨⟩⟩ := Option.map_eq_some_iff.1 h
    rw [cutQueryAt_of_ne_escape he, if_neg ho, if_pos rfl, ih hr, Option.map_none]
  | case6 depth c r he ho hc hq =>
    cases h
    rfl
  | case7 depth c r he ho hc hq ih =>
    obtain ⟨⟨before, _⟩, hr, ⟨⟩⟩ := Option.map_eq_some_iff.1 h
    rw [cutQueryAt_of_ne_escape he, if_neg ho, if_neg hc, if_neg hq, ih hr, Option.map_none]

/-- What stands before a query has none. -/
theorem cutQuery_eq_none (h : cutQuery m url = some (pre, rest)) : cutQuery m pre = none :=
  cutQueryAt_prefix h

/-- A beginning of the text that has no query ends where the query begins or before. -/
theorem prefix_of_cutQuery (h : cutQuery m url = some (pre, rest)) {t : Text} (ht : t <+: url)
    (hnone : cutQuery m t = none) : t <+: pre := by
  obtain ⟨rfl, -⟩ := cutQueryAt_eq_some h
  rcases List.prefix_or_prefix_of_prefix ht (List.prefix_append pre _) with hle | ⟨r, rfl⟩
  · exact hle
  · cases r with
    | nil => exact (List.append_nil pre).symm ▸ List.prefix_refl pre
    | cons c r =>
      -- The text goes on behind `pre`, so it reaches the question mark there.
      obtain rfl : c = '?' := by
        rw [List.prefix_append_right_inj] at ht
        exact (List.cons_prefix_cons.1 ht).1
      cases (cutQueryAt_behind h r).symm.trans hnone

/-! ### Normal destinations -/

/-- The query of the request URL; nothing if it has none. -/
def query (m : Marks) (d : Destination) : Text := ((cutQuery m d.requestUrl).map (·.2)).getD []

theorem normalized_of_none (h : cutQuery m d.requestUrl = none) : d.normalized m = d := by
  rw [normalized, h]

/-- Either there is no query, or it is cut off with the question mark before it. -/
theorem requestUrl_normalized (m : Marks) (d : Destination) :
    (d.requestUrl = (d.normalized m).requestUrl ∧ d.query m = []) ∨
      d.requestUrl = (d.normalized m).requestUrl ++ '?' :: d.query m := by
  unfold normalized query
  split
  · rename_i h
    rw [h]
    exact .inl ⟨rfl, rfl⟩
  · rename_i url query h
    rw [h]
    exact .inr (cutQueryAt_eq_some h).1

theorem cutQuery_normalized (m : Marks) (d : Destination) :
    cutQuery m (d.normalized m).requestUrl = none := by
  unfold normalized
  split
  · assumption
  · exact cutQuery_eq_none ‹_›

theorem prefix_normalized {t : Text} (ht : t <+: d.requestUrl) (hnone : cutQuery m t = none) :
    t <+: (d.normalized m).requestUrl := by
  unfold normalized
  split
  · exact ht
  · exact prefix_of_cutQuery ‹_› ht hnone

/-- The parameters, and then the first pair of the query under a name. -/
theorem get?_parameters_normalized (m : Marks) (d : Destination) (k : Text) :
    (d.normalized m).parameters.get? k =
      (d.parameters.get? k).or (Entries.find? k (Query.decoded (d.query m))) := by
  unfold normalized query
  split
  · rename_i h
    rw [h]
    exact (Option.or_none).symm
  · rename_i url query h
    rw [h]
    exact (congrArg (Table.get? · k) (Query.mergeInto_eq_foldl _ query)).trans
      (Table.get?_foldl_insertNew _ _ k)

/-- A destination is normalized once. Then its request URL is the longest beginning of the old one
that has no query, its own parameters are what they were, and the others are the first pairs under
their names, with a parameter for every name of a pair. Nothing else is changed. -/
theorem normalized_frame (m : Marks) (d : Destination) :
    let d' := d.normalized m
    d'.normalized m = d' ∧
    d' = { d with requestUrl := d'.requestUrl, parameters := d'.parameters } ∧
    ((d.requestUrl = d'.requestUrl ∧ d.query m = []) ∨
      d.requestUrl = d'.requestUrl ++ '?' :: d.query m) ∧
    (d'.requestUrl <+: d.requestUrl ∧ cutQuery m d'.requestUrl = none ∧
      ∀ t, t <+: d.requestUrl → cutQuery m t = none → t <+: d'.requestUrl) ∧
    (∀ k v, d.parameters.get? k = some v → d'.parameters.get? k = some v) ∧
    (∀ k v, d.parameters.get? k = none → d'.parameters.get? k = some v → k ≠ [] ∧
      ((Query.pairs (d.query m)).find? fun p => Percent.decode p.1 == k).map
        (fun p => Percent.decode p.2) = some v) ∧
    (∀ p ∈ Query.pairs (d.query m), Percent.decode p.1 ≠ [] →
      (d'.parameters.get? (Percent.decode p.1)).isSome = true) := by
  intro d'
  have hget : ∀ k, d'.parameters.get? k = _ := get?_parameters_normalized m d
  have hnone : cutQuery m d'.requestUrl = none := cutQuery_normalized m d
  have hurl := requestUrl_normalized m d
  refine ⟨normalized_of_none hnone, ?_, hurl, ⟨?_, hnone, fun t => prefix_normalized⟩,
    fun k v hk => ?_, fun k v hk hv => ?_, fun p hp hname => ?_⟩
  · unfold d' normalized
    split <;> rfl
  · rcases hurl with ⟨hurl, -⟩ | hurl
    · exact ⟨[], by rw [List.append_nil, hurl]⟩
    · exact ⟨_, hurl.symm⟩
  · rw [hget, hk, Option.some_or]
  · rw [hget, hk, Option.none_or, Query.find?_decoded] at hv
    split at hv
    · cases hv
    · exact ⟨‹_›, hv⟩
  · rw [hget, Query.find?_decoded, if_neg hname, Option.isSome_or, Option.isSome_map]
    refine Bool.or_eq_true_iff.2 (.inr (List.find?_isSome.2 ⟨p, hp, ?_⟩))
    exact beq_self_eq_true _

/-- A configured parameter, two pairs under one name and one without a name. -/
theorem normalized_frame_shared :
    let d : Destination :=
      { requestUrl := "u/\x7bf:?\x7d?key=a&n%61me=x%20y&name=z&=w".toList,
        parameters := .ofList [("key".toList, "b".toList)] }
    let d' := d.normalized .standard
    d'.normalized .standard = d' ∧ cutQuery .standard d'.requestUrl = none ∧
      d'.parameters.get? "key".toList = some "b".toList ∧
      d'.parameters.get? "name".toList = some "x y".toList := by
  intro d d'
  obtain ⟨hagain, -, -, ⟨-, hnone, -⟩, hkept, hadded, hpairs⟩ :=
    normalized_frame .standard d
  have hdecode : Percent.decode "n%61me".toList = "name".toList := by decide +kernel
  have hname := hpairs ("n%61me".toList, "x%20y".toList) (by decide +kernel) (by decide +kernel)
  rw [hdecode] at hname
  obtain ⟨v, hv⟩ := Option.isSome_iff_exists.1 hname
  obtain ⟨-, hfirst⟩ := hadded _ v (by decide +kernel) hv
  have hvalue : ((Query.pairs (d.query .standard)).find? fun p =>
      Percent.decode p.1 == "name".toList).map (fun p => Percent.decode p.2) =
        some "x y".toList := by decide +kernel
  rw [hvalue] at hfirst
  exact ⟨hagain, hnone, hkept _ _ (by decide +kernel), hv.trans hfirst.symm⟩

end Destination

end UploadTemplate
