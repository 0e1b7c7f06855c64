import UploadTemplate.Proofs.Destination.Migration
import UploadTemplate.Proofs.Template.Patterns
import UploadTemplate.Proofs.Template.Written

/-!
# The call of the response

Where the link of a response was found was once a matter of a few kinds, and migration puts a call
that fits the kind in the place of every call of the response. It searches for the text of that
call, so it also finds the name of the response between the dollar signs of two other calls, and
behind a dollar sign that has a backslash before it.

- `Document.rebound`: a document with another call in the place of those of the response.
- `Document.IsClear`: the name of the response stands nowhere else between dollar signs.
- `replace_sealed`, `replace_dollarResponse`: the search passes a piece of a template, or finds the
  call at its end.
- `ofText_rebound`: the tree of a template with its calls replaced.
- `Destination.expand_migrate_of_link`: what the templates of a link say after migration.
-/

namespace UploadTemplate.Dollar

open Template Document Destination

/-! ### Documents -/

/-- The name of the response. -/
def response : Text := "response"

/-- The call of the response without the dollar sign at its end. -/
def dollarResponse : Text := '$' :: response

theorem responseCall_eq : responseCall = dollarResponse ++ ['$'] := rfl

def Part.rebound (m : Text) (qs : List Text) : Part → Part
  | .literal t => .literal t
  | .call n ps => if n = response ∧ ps = [] then .call m qs else .call n ps

/-- The document with another call in the place of every call of the response. -/
def Document.rebound (m : Text) (qs : List Text) (d : Document) : Document :=
  d.map (Part.rebound m qs)

/-- The name of the response does not stand between two dollar signs, unless it is a call. What is
`before` the rest of a document is what stands outside of calls since the last one, with the dollar
sign at its end, if that one was not a call of the response. -/
def Document.IsClear (before : Text) : Document → Prop
  | [] => True
  | .literal t :: d => Document.IsClear (before ++ t) d
  | .call n ps :: d => ¬ dollarResponse <:+ before ∧
      if n = response ∧ ps = [] then Document.IsClear [] d
      else ¬ dollarResponse <:+ ps.getLast?.getD ('$' :: n) ∧ Document.IsClear ['$'] d

instance decidableIsClear : (before : Text) → (d : Document) → Decidable (d.IsClear before)
  | _, [] => inferInstanceAs (Decidable True)
  | before, .literal t :: d => decidableIsClear (before ++ t) d
  | before, .call n ps :: d =>
    have := decidableIsClear [] d
    have := decidableIsClear ['$'] d
    inferInstanceAs (Decidable (¬ dollarResponse <:+ before ∧
      if n = response ∧ ps = [] then Document.IsClear [] d
      else ¬ dollarResponse <:+ ps.getLast?.getD ('$' :: n) ∧ Document.IsClear ['$'] d))

/-! ### Dollar signs -/

/-- Every dollar sign has a backslash before it. -/
def IsGuarded (w : Text) : Prop := ∀ x y, w = x ++ '$' :: y → ['\\'] <:+ x

/-- Every dollar sign but one at the beginning has a backslash before it. -/
def IsSealed (w : Text) : Prop := ∀ x y, w = x ++ '$' :: y → x = [] ∨ ['\\'] <:+ x

variable {special : List Char} {w t : Text}

theorem isGuarded_of_not_mem (h : '$' ∉ w) : IsGuarded w := by
  rintro x y rfl
  exact absurd (List.mem_append_right x List.mem_cons_self) h

theorem IsGuarded.append {w' : Text} (h : IsGuarded w) (h' : IsGuarded w') :
    IsGuarded (w ++ w') := by
  intro x y hw
  rcases List.append_eq_append_iff.1 hw with ⟨z, rfl, hz⟩ | ⟨z, rfl, hz⟩
  · exact (h' z y hz).trans (List.suffix_append w z)
  · cases z with
    | nil => exact (h' [] y hz.symm).trans (List.nil_suffix)
    | cons c z =>
      obtain ⟨rfl, -⟩ := List.cons.inj hz
      exact h x z rfl

theorem isGuarded_quote (hs : specialOutside ⊆ special) (t : Text) :
    IsGuarded (quote special t) := by
  intro x y h
  obtain ⟨u, v, -, rfl, -⟩ := quote_eq_dollar hs h
  exact List.suffix_append _ _

theorem isGuarded_inside (n : Text) (ps : List Text) : IsGuarded (inside n ps) := by
  have hquote (t : Text) : IsGuarded (quote specialInside t) := isGuarded_quote (by decide) t
  cases ps with
  | nil => exact hquote n
  | cons p ps =>
    have hcolon : IsGuarded [':'] := isGuarded_of_not_mem (by decide)
    have hbar : IsGuarded ['|'] := isGuarded_of_not_mem (by decide)
    have hrest : IsGuarded (ps.flatMap fun q => '|' :: quote specialInside q) := by
      induction ps with
      | nil => exact isGuarded_of_not_mem nofun
      | cons q ps ih => exact (hbar.append (hquote q)).append ih
    exact (hquote n).append (hcolon.append ((hquote p).append hrest))

theorem IsGuarded.isSealed (h : IsGuarded w) : IsSealed w := fun x y hw => .inr (h x y hw)

theorem IsGuarded.isSealed_cons (h : IsGuarded w) : IsSealed ('$' :: w) := by
  intro x y hw
  cases x with
  | nil => exact .inl rfl
  | cons c x => exact .inr ((h x y (List.cons.inj hw).2).trans (List.suffix_cons c x))

/-- A text outside of calls, perhaps with the dollar sign before it. -/
theorem isSealed_outside {lead : Text} (hlead : lead = [] ∨ lead = ['$'])
    (hs : specialOutside ⊆ special) (t : Text) : IsSealed (lead ++ quote special t) := by
  rcases hlead with rfl | rfl
  · exact (isGuarded_quote hs t).isSealed
  · exact (isGuarded_quote hs t).isSealed_cons

/-- Behind the name of the response no dollar sign is sealed. -/
theorem IsSealed.not_dollar {x y : Text} (h : IsSealed (x ++ dollarResponse ++ '$' :: y)) :
    False := by
  rcases h (x ++ dollarResponse) y rfl with hnil | ⟨z, hz⟩
  · cases (List.append_eq_nil_iff.1 hnil).2
  · have hword : dollarResponse.getLast? = some 'e' := by decide
    have hlast := congrArg List.getLast? hz
    rw [List.getLast?_append, List.getLast?_append, hword] at hlast
    have hchar : '\\' = 'e' := Option.some.inj hlast
    exact absurd hchar (by decide)

/-! ### The search -/

/-- In a sealed text the call of the response is found only at the end. -/
theorem dollarResponse_suffix {x v r : Text} (hw : IsSealed (x ++ v)) (hv : v ≠ [])
    (h : responseCall <+: v ++ '$' :: r) : v = dollarResponse := by
  obtain ⟨r', hr⟩ := h
  obtain ⟨c, y, rfl⟩ := List.exists_cons_of_ne_nil hv
  obtain ⟨rfl, hy⟩ : '$' = c ∧ response ++ '$' :: r' = y ++ '$' :: r := List.cons.inj hr
  have hresponse : '$' ∉ response := by decide
  by_cases hmem : '$' ∈ y
  · -- A first dollar sign in `y` would stand right behind the name.
    obtain ⟨y₁, y₂, rfl, hy₁⟩ := List.eq_append_cons_of_mem hmem
    have hsplit := Text.splitOnce_append hy₁ (y₂ ++ '$' :: r)
    rw [← List.cons_append, ← List.append_assoc, ← hy, Text.splitOnce_append hresponse] at hsplit
    cases hsplit
    refine absurd hw fun hw => IsSealed.not_dollar (x := x) (y := y₂) ?_
    rwa [List.append_assoc]
  · have hsplit := Text.splitOnce_append hmem r
    rw [← hy, Text.splitOnce_append hresponse] at hsplit
    cases hsplit
    rfl

theorem replace_sealed (hw : IsSealed w) (h : ¬ dollarResponse <:+ w) (value r : Text) :
    Text.replace responseCall value (w ++ '$' :: r) =
      w ++ Text.replace responseCall value ('$' :: r) := by
  unfold Text.replace
  rw [Text.cut_pass, Text.refill_append, Text.refill_chars]
  rintro x v rfl hv
  refine Text.tokenAt_eq_none fun hprefix => h ?_
  rw [dollarResponse_suffix hw hv hprefix]
  exact List.suffix_append _ _

theorem replace_dollarResponse (hw : IsSealed (w ++ dollarResponse)) (value r : Text) :
    Text.replace responseCall value (w ++ dollarResponse ++ '$' :: r) =
      w ++ (value ++ Text.replace responseCall value r) := by
  have hsealed : IsSealed w := fun x y hx => hw x (y ++ dollarResponse) (by rw [hx]; simp)
  have hnone : ¬ dollarResponse <:+ w := by
    rintro ⟨x, rfl⟩
    exact IsSealed.not_dollar (x := x) (y := response) hw
  have hpass := replace_sealed hsealed hnone value (response ++ '$' :: r)
  have hcall : Text.replace responseCall value (responseCall ++ r) =
      value ++ Text.replace responseCall value r := Text.replace_token (by decide) value r
  rw [← hcall]
  simpa [responseCall_eq, dollarResponse] using hpass

theorem replace_end (hw : IsSealed w) (value : Text) :
    Text.replace responseCall value w = w := by
  refine Text.replace_of_absent ?_ value
  rintro ⟨x, y, rfl⟩
  refine IsSealed.not_dollar (x := x) (y := y) ?_
  simpa [responseCall_eq] using hw

/-! ### Pieces of a document -/

theorem outside_subset_inside : specialOutside ⊆ specialInside := by decide

theorem response_plain : ∀ c ∈ response, c ∉ specialInside := not_mem_of_all rfl

theorem quote_response (hs : special ⊆ specialInside) : quote special response = response :=
  quote_self fun c hc hm => response_plain c hc (hs hm)

/-- A written text is the name of the response only if it is the name, and ends with it behind a
dollar sign only if the text does. -/
theorem quote_eq_response_iff (hs : special ⊆ specialInside) :
    quote special t = response ↔ t = response := by
  constructor
  · intro h
    have hplain : '\\' ∉ quote special t := by
      rw [h]
      decide
    rw [← h, quote_eq_self hplain]
  · rintro rfl
    exact quote_response hs

theorem dollarResponse_suffix_quote (ho : specialOutside ⊆ special)
    (hs : special ⊆ specialInside) :
    dollarResponse <:+ quote special t ↔ dollarResponse <:+ t := by
  constructor
  · rintro ⟨x, hx⟩
    obtain ⟨u, v, rfl, -, hv⟩ := quote_eq_dollar ho hx.symm
    rw [(quote_eq_response_iff hs).1 hv.symm]
    exact List.suffix_append u dollarResponse
  · rintro ⟨u, rfl⟩
    have hword : quote special dollarResponse = '\\' :: dollarResponse := by
      rw [dollarResponse, quote_of_mem (ho (by decide)), quote_response hs]
    rw [quote_append, hword]
    exact (List.suffix_cons _ _).trans (List.suffix_append _ _)

/-- A text outside of calls as the search sees it, perhaps with the dollar sign before it. -/
theorem dollarResponse_suffix_outside {lead : Text} (hlead : lead = [] ∨ lead = ['$'])
    (ho : specialOutside ⊆ special) (hs : special ⊆ specialInside) :
    dollarResponse <:+ lead ++ quote special t ↔ dollarResponse <:+ lead ++ t := by
  rcases hlead with rfl | rfl
  · exact dollarResponse_suffix_quote ho hs
  · have hfirst : dollarResponse = '$' :: quote special t ↔ dollarResponse = '$' :: t := by
      rw [dollarResponse, List.cons_inj_right, List.cons_inj_right, eq_comm,
        quote_eq_response_iff hs, eq_comm]
    rw [List.singleton_append, List.singleton_append, List.suffix_cons_iff, List.suffix_cons_iff,
      hfirst, dollarResponse_suffix_quote ho hs]

/-- The end of a text behind a character that the word does not have. -/
theorem suffix_append_cons_iff {w x y : Text} {c : Char} (hc : c ∉ w) :
    w <:+ x ++ c :: y ↔ w <:+ y := by
  constructor
  · intro h
    rcases List.suffix_or_suffix_of_suffix h (List.suffix_append x (c :: y)) with h | h
    · exact (List.suffix_cons_iff.1 h).resolve_left fun he => hc (he ▸ List.mem_cons_self)
    · exact absurd (h.subset List.mem_cons_self) hc
  · intro h
    exact h.trans ((List.suffix_cons c y).trans (List.suffix_append x _))

theorem dollarResponse_suffix_inside (n : Text) (ps : List Text) :
    dollarResponse <:+ '$' :: inside n ps ↔ dollarResponse <:+ ps.getLast?.getD ('$' :: n) := by
  rcases List.eq_nil_or_concat ps with rfl | ⟨ps, p, rfl⟩
  · exact dollarResponse_suffix_outside (.inr rfl) outside_subset_inside (List.Subset.refl _)
  · obtain ⟨x, c, hc, hinside⟩ := inside_concat n ps
    have hmem : c ∉ dollarResponse := by rcases hc with rfl | rfl <;> decide
    rw [List.concat_eq_append, hinside, List.getLast?_append, ← List.cons_append,
      suffix_append_cons_iff hmem,
      dollarResponse_suffix_quote outside_subset_inside (List.Subset.refl _)]
    rfl

/-! ### The call in its place -/

/-- A call that may stand in the place of that of the response: its text needs no backslashes, and
the name of the response does not begin with it. -/
structure Replaces (m : Text) (qs : List Text) : Prop where
  name : ':' ∉ m
  plain : ∀ c ∈ inside m qs, c ∉ specialInside
  differs : ¬ inside m qs <+: response

/-- What a search for the call of the response makes of a text. -/
def replaced (m : Text) (qs : List Text) (t : Text) : Text :=
  Text.replace responseCall ('$' :: (inside m qs ++ ['$'])) t

variable {m : Text} {qs : List Text}

/-- An escaped dollar sign takes the place of that of the call. -/
theorem replaced_escaped (m : Text) (qs : List Text) (ho : specialOutside ⊆ special)
    (hs : special ⊆ specialInside) {x u : Text}
    (hx : IsSealed (x ++ quote special (u ++ dollarResponse))) (r : Text) :
    replaced m qs (x ++ quote special (u ++ dollarResponse) ++ '$' :: r) =
      x ++ quote special (u ++ ['$']) ++ (inside m qs ++ '$' :: replaced m qs r) := by
  have hquote : quote special (u ++ dollarResponse) =
      (quote special u ++ ['\\']) ++ dollarResponse := by
    rw [quote_append, dollarResponse, quote_of_mem (ho (by decide)), quote_response hs]
    simp
  have hdollar : quote special (u ++ ['$']) = (quote special u ++ ['\\']) ++ ['$'] := by
    rw [quote_append, quote_of_mem (ho (by decide))]
    simp [quote]
  rw [hquote, ← List.append_assoc] at hx
  have hfound := replace_dollarResponse hx ('$' :: (inside m qs ++ ['$'])) r
  rw [hquote, hdollar]
  unfold replaced
  simpa using hfound

/-- The name of the response at the end of a text that stands before a dollar sign. -/
theorem replaced_outside (m : Text) (qs : List Text) {lead : Text}
    (hlead : lead = [] ∨ lead = ['$']) (ho : specialOutside ⊆ special)
    (hs : special ⊆ specialInside) (h : dollarResponse <:+ lead ++ t) :
    ∃ u, t = u ++ response ∧ ∀ r,
      replaced m qs (lead ++ quote special t ++ '$' :: r) =
        lead ++ quote special u ++ (inside m qs ++ '$' :: replaced m qs r) := by
  have hsealed := isSealed_outside hlead ho
  by_cases hword : dollarResponse <:+ t
  · obtain ⟨u, rfl⟩ := hword
    exact ⟨u ++ ['$'], by simp [dollarResponse], fun r => replaced_escaped m qs ho hs (hsealed _) r⟩
  · obtain ⟨rfl, rfl⟩ : lead = ['$'] ∧ t = response := by
      rcases hlead with rfl | rfl
      · exact absurd h hword
      · have hfirst := (List.suffix_cons_iff.1 h).resolve_right hword
        exact ⟨rfl, (List.cons.inj hfirst).2.symm⟩
    have hcall : IsSealed (['$'] ++ quote special response) := hsealed response
    rw [quote_response hs] at hcall
    have hfound := replace_dollarResponse (w := []) hcall ('$' :: (inside m qs ++ ['$']))
    refine ⟨[], rfl, fun r => ?_⟩
    rw [quote_response hs]
    unfold replaced
    simpa [dollarResponse, quote] using hfound r

theorem Replaces.ne (h : Replaces m qs) : inside m qs ≠ response :=
  fun he => h.differs (he ▸ List.prefix_refl _)

/-- A call that ends with the name of the response becomes another one. -/
theorem replaced_inside (h : Replaces m qs) {n : Text} {ps : List Text} (hn : ':' ∉ n)
    (hend : dollarResponse <:+ '$' :: inside n ps) : ∃ n' ps', ':' ∉ n' ∧
      (n', ps') ≠ (n, ps) ∧ ∀ r, replaced m qs ('$' :: (inside n ps ++ '$' :: r)) =
        '$' :: (inside n' ps' ++ '$' :: replaced m qs r) := by
  rw [dollarResponse_suffix_inside] at hend
  rcases List.eq_nil_or_concat ps with rfl | ⟨ps, p, rfl⟩
  · obtain ⟨u, rfl, hfound⟩ := replaced_outside m qs (.inr rfl) outside_subset_inside
      (List.Subset.refl _) hend
    refine ⟨u ++ m, qs, ?_, ?_, fun r => ?_⟩
    · exact mt List.mem_append.1 (not_or.2 ⟨fun hu => hn (List.mem_append_left _ hu), h.name⟩)
    · intro he
      obtain ⟨hm, rfl⟩ := Prod.mk.inj he
      rw [List.append_cancel_left hm] at h
      exact h.ne (quote_response (by decide))
    · rw [inside_append u m qs, List.append_assoc]
      exact hfound r
  · simp only [List.concat_eq_append, List.getLast?_append] at hend ⊢
    obtain ⟨x, c, -, hinside⟩ := inside_concat n ps
    obtain ⟨u, rfl⟩ : dollarResponse <:+ p := hend
    have hsealed : IsSealed ('$' :: inside n (ps ++ [u ++ dollarResponse])) :=
      (isGuarded_inside n _).isSealed_cons
    have hsplit (p : Text) : '$' :: inside n (ps ++ [p]) =
        '$' :: (x ++ [c]) ++ quote specialInside p := by
      rw [hinside]
      simp
    rw [hsplit] at hsealed
    have hfound := replaced_escaped m qs outside_subset_inside (List.Subset.refl _) hsealed
    refine ⟨n, ps ++ [u ++ '$' :: inside m qs], hn, ?_, fun r => ?_⟩
    · intro he
      have hlast := List.singleton_inj.1 (List.append_cancel_left (Prod.mk.inj he).2)
      exact h.ne (List.cons.inj (List.append_cancel_left hlast)).2
    · have hlast : quote specialInside (u ++ '$' :: inside m qs) =
          quote specialInside (u ++ ['$']) ++ inside m qs := by
        rw [List.append_cons, quote_append, quote_self h.plain]
      rw [← List.cons_append, ← List.cons_append, hsplit, hsplit, hlast]
      simpa only [List.append_assoc] using hfound r

/-! ### Trees -/

theorem prefix_of_letters {a b : Text} {t t' : Template} {n : Template} {ps : List Template}
    (h : letters a ++ t = letters b ++ .call n ps :: t') : a <+: b := by
  induction a generalizing b with
  | nil => exact List.nil_prefix
  | cons c a ih =>
    cases b with
    | nil => cases (List.cons.inj h).1
    | cons d b =>
      obtain ⟨hc, hrest⟩ := List.cons.inj h
      cases hc
      exact List.cons_prefix_cons.2 ⟨rfl, ih hrest⟩

theorem letters_injective {a b : Text} (h : letters a = letters b) : a = b :=
  (List.map_inj_right fun _ _ => Piece.char.inj).1 h

theorem map_letters_injective {ps qs : List Text} (h : ps.map letters = qs.map letters) : ps = qs :=
  (List.map_inj_right fun _ _ => letters_injective).1 h

theorem tree_rebound_call (m : Text) (qs : List Text) (n : Text) (ps : List Text) (d : Document) :
    (Document.rebound m qs (.call n ps :: d)).tree =
      (if n = response ∧ ps = [] then .call (letters m) (qs.map letters)
        else .call (letters n) (ps.map letters)) :: (d.rebound m qs).tree := by
  rw [Document.rebound, List.map_cons, Part.rebound]
  split <;> rfl

/-- The template from a call on, if what follows the call is known, with and without the dollar sign
before it. -/
theorem ofText_rebound_call (h : Replaces m qs) {n : Text} {ps : List Text} (hn : ':' ∉ n)
    {d : Document} (hopen : ofText .standard (toMarks .standard (replaced m qs d.written)) =
      (d.rebound m qs).tree ↔ d.IsClear [])
    (hclosed : ∃ made, replaced m qs ('$' :: d.written) = '$' :: made ∧
      (ofText .standard (toMarks .standard made) = (d.rebound m qs).tree ↔ d.IsClear ['$'])) :
    ofText .standard (toMarks .standard
        (replaced m qs ('$' :: (inside n ps ++ '$' :: d.written)))) =
        (Document.rebound m qs (.call n ps :: d)).tree ↔
      if n = response ∧ ps = [] then d.IsClear []
      else ¬ dollarResponse <:+ ps.getLast?.getD ('$' :: n) ∧ d.IsClear ['$'] := by
  rw [tree_rebound_call]
  by_cases hresponse : n = response ∧ ps = []
  · obtain ⟨rfl, rfl⟩ := hresponse
    obtain ⟨u, hu, hfound⟩ := replaced_outside m qs (t := response) (.inr rfl)
      outside_subset_inside (List.Subset.refl _) (List.suffix_refl _)
    obtain rfl : u = [] := List.self_eq_append_left.1 hu
    have hreplaced : replaced m qs ('$' :: (inside response [] ++ '$' :: d.written)) =
        '$' :: (inside m qs ++ '$' :: replaced m qs d.written) := hfound _
    rw [if_pos ⟨rfl, rfl⟩, if_pos ⟨rfl, rfl⟩, hreplaced,
      ofText_toMarks_call (inside_inside h.name qs), List.cons_inj_right, hopen]
  · rw [if_neg hresponse, if_neg hresponse, ← dollarResponse_suffix_inside]
    by_cases hend : dollarResponse <:+ '$' :: inside n ps
    · obtain ⟨n', ps', hn', hne, hfound⟩ := replaced_inside h hn hend
      refine iff_of_false (fun heq => hne ?_) fun hclear => hclear.1 hend
      rw [hfound, ofText_toMarks_call (inside_inside hn' ps')] at heq
      obtain ⟨hname, hparameters⟩ := Piece.call.inj (List.cons.inj heq).1
      rw [letters_injective hname, map_letters_injective hparameters]
    · obtain ⟨made, hmade, hclear⟩ := hclosed
      have hpass := replace_sealed (isGuarded_inside n ps).isSealed_cons hend
        ('$' :: (inside m qs ++ ['$'])) d.written
      have hreplaced : replaced m qs ('$' :: (inside n ps ++ '$' :: d.written)) =
          '$' :: (inside n ps ++ '$' :: made) := hpass.trans (congrArg _ hmade)
      rw [hreplaced, ofText_toMarks_call (inside_inside hn ps), List.cons_inj_right, hclear]
      exact (and_iff_right hend).symm

/-- A template with its calls of the response replaced means the document with the other call in
their places if and only if the document is clear. -/
theorem ofText_rebound (h : Replaces m qs) {lead : Text} (hlead : lead = [] ∨ lead = ['$'])
    (before : Text) {d : Document} (hd : d.IsWritable) :
    ∃ made, replaced m qs (lead ++ quote specialOutside before ++ d.written) = lead ++ made ∧
      (ofText .standard (toMarks .standard made) = letters before ++ (d.rebound m qs).tree ↔
        d.IsClear (lead ++ before)) := by
  induction d generalizing lead before with
  | nil =>
    refine ⟨quote specialOutside before, ?_, iff_of_true ?_ trivial⟩
    · rw [Document.written, List.flatMap_nil, List.append_nil]
      exact replace_end (isSealed_outside hlead (List.Subset.refl _) before) _
    · have hread := ofText_toMarks_literal before []
      rw [List.append_nil] at hread
      exact hread
  | cons part d ih =>
    obtain ⟨hpart, hrest⟩ : part.IsWritable ∧ IsWritable d := List.forall_mem_cons.1 hd
    cases part with
    | literal t =>
      obtain ⟨made, hmade, hclear⟩ := ih hlead (before ++ t) hrest
      refine ⟨made, ?_, ?_⟩
      · rw [← hmade, quote_append, written_literal]
        simp
      · rw [IsClear, List.append_assoc, ← hclear]
        simp [Document.rebound, Part.rebound, tree, letters]
    | call n ps =>
      rw [written_call, IsClear]
      by_cases hend : dollarResponse <:+ lead ++ before
      · obtain ⟨u, rfl, hfound⟩ := replaced_outside m qs hlead (List.Subset.refl _)
          outside_subset_inside hend
        have hplain : quote specialOutside (inside m qs) = inside m qs :=
          quote_self fun c hc hm => h.plain c hc (outside_subset_inside hm)
        refine ⟨quote specialOutside (u ++ inside m qs) ++ '$' :: replaced m qs
          (inside n ps ++ '$' :: written d), ?_, iff_of_false (fun heq => ?_) fun hc => hc.1 hend⟩
        · rw [hfound, quote_append, hplain]
          simp
        · rw [ofText_toMarks_literal, tree_rebound_call] at heq
          split at heq <;>
            exact h.differs ((List.prefix_append_right_inj u).1 (prefix_of_letters heq))
      · obtain ⟨opened, hopened, hopen⟩ := ih (.inl rfl) [] hrest
        obtain ⟨closed, hclosed, hclose⟩ := ih (.inr rfl) [] hrest
        have hopened : replaced m qs (written d) = opened := hopened
        have hnone := mt
          (dollarResponse_suffix_outside hlead (List.Subset.refl _) outside_subset_inside).1 hend
        have hpass := replace_sealed (isSealed_outside hlead (List.Subset.refl _) before) hnone
          ('$' :: (inside m qs ++ ['$'])) (inside n ps ++ '$' :: written d)
        refine ⟨quote specialOutside before ++
          replaced m qs ('$' :: (inside n ps ++ '$' :: written d)), ?_, ?_⟩
        · rw [← List.append_assoc]
          exact hpass
        · rw [ofText_toMarks_literal, List.append_cancel_left_eq, and_iff_right hend]
          exact ofText_rebound_call h hpart (hopened ▸ hopen) ⟨closed, hclosed, hclose⟩

end UploadTemplate.Dollar

namespace UploadTemplate.Destination

open Dollar Dollar.Document

/-! ### Links -/

/-- The call that finds the link of a response where a kind says that it is. -/
def linkCall? : ResponseKind → Option (Text × List Text)
  | .redirection => some ("responseurl", [])
  | .location => some ("header", ["Location"])
  | .text | .headers => none

variable {d : Destination} {kind : ResponseKind} {m : Text} {qs : List Text}

theorem replaces_of_linkCall? (h : linkCall? kind = some (m, qs)) : Replaces m qs := by
  cases kind <;> cases h <;> exact ⟨by decide, not_mem_of_all rfl, by decide⟩

theorem statingLink_of_linkCall? (hkind : d.responseKind = some kind)
    (h : linkCall? kind = some (m, qs)) :
    d.statingLink =
      { d with responseKind := none }.rebindResponse ('$' :: (inside m qs ++ ['$'])) := by
  unfold statingLink
  rw [hkind]
  cases kind <;> cases h <;> rfl

/-- Without patterns, a template of the link has its calls replaced and is put into marks. -/
theorem links_migrate_of_linkCall?
    (hk : Version.isAtMost d.version Version.lastWithResponseKinds = true)
    (hkind : d.responseKind = some kind) (h : linkCall? kind = some (m, qs))
    (hpatterns : d.patterns = []) (hurl : d.url ≠ []) :
    d.migrate.url = toMarks .standard (replaced m qs d.url) ∧
      d.migrate.thumbnailUrl = toMarks .standard (replaced m qs d.thumbnailUrl) ∧
      d.migrate.deletionUrl = toMarks .standard (replaced m qs d.deletionUrl) := by
  have hbody : d.statingBody.responseKind = some kind ∧ d.statingBody.patterns = [] ∧
      d.statingBody.url = d.url ∧ d.statingBody.thumbnailUrl = d.thumbnailUrl ∧
      d.statingBody.deletionUrl = d.deletionUrl := by
    unfold statingBody
    split <;> exact ⟨hkind, hpatterns, rfl, rfl, rfl⟩
  obtain ⟨hkind, hpatterns, hu, ht, hx⟩ := hbody
  have hfull : d.url.isEmpty = false := by simpa using hurl
  rw [migrate_of_kinds hk, statingLink_of_linkCall? hkind h]
  simp only [markingCalls, mapTemplates, rebindResponse, hpatterns, inlinePatterns_nil, hu, ht, hx,
    hfull]
  exact ⟨rfl, rfl, rfl⟩

/-- A template of the link that is a written document means after migration the same document with
the call for the kind in the place of every call of the response, if and only if the name of the
response stands between no other dollar signs. Then it makes the calls of that document. -/
theorem expand_migrate_of_link
    (hk : Version.isAtMost d.version Version.lastWithResponseKinds = true)
    (hkind : d.responseKind = some kind) (hcall : linkCall? kind = some (m, qs))
    (hpatterns : d.patterns = []) {url thumbnail deletion : Document} (hurl : d.url = url.written)
    (hthumbnail : d.thumbnailUrl = thumbnail.written) (hdeletion : d.deletionUrl = deletion.written)
    (hnonempty : d.url ≠ [])
    (hwritable : ∀ doc ∈ [url, thumbnail, deletion], IsWritable doc) :
    ∀ field doc, (field, doc) ∈ [(d.migrate.url, url), (d.migrate.thumbnailUrl, thumbnail),
        (d.migrate.deletionUrl, deletion)] →
      (Template.ofText .standard field = (doc.rebound m qs).tree ↔ doc.IsClear []) ∧
      (doc.IsClear [] → ∀ (ε σ : Type) (call : Caller ε σ) (start : σ),
        ∃ asked outputs failure last result,
          call.Answers start asked outputs failure last ∧
          (Template.expand .standard call field).run.run start = (result, last) ∧
          (Template.expand .standard call.recorded field).run.run (start, []) =
            (result, (last, asked)) ∧
          Conclusion (doc.rebound m qs).calls.length (fun _ => (doc.rebound m qs).calls)
            ((doc.rebound m qs).text ·) asked outputs failure result) := by
  obtain ⟨hu, ht, hx⟩ := links_migrate_of_linkCall? hk hkind hcall hpatterns hnonempty
  intro field doc hmem
  obtain ⟨hdoc, rfl⟩ : doc ∈ [url, thumbnail, deletion] ∧
      field = toMarks .standard (replaced m qs doc.written) := by
    simp only [List.mem_cons, List.not_mem_nil, or_false, Prod.mk.injEq] at hmem ⊢
    rcases hmem with ⟨rfl, rfl⟩ | ⟨rfl, rfl⟩ | ⟨rfl, rfl⟩
    · exact ⟨.inl rfl, by rw [hu, hurl]⟩
    · exact ⟨.inr (.inl rfl), by rw [ht, hthumbnail]⟩
    · exact ⟨.inr (.inr rfl), by rw [hx, hdeletion]⟩
  obtain ⟨made, hmade, hclear⟩ := ofText_rebound (replaces_of_linkCall? hcall) (.inl rfl) []
    (hwritable doc hdoc)
  have hmade : replaced m qs doc.written = made := hmade
  rw [hmade]
  exact ⟨hclear, fun h ε σ call start => expand_of_tree (hclear.2 h) call start⟩

/-- The name of the response between two calls is taken for a call, and the call behind a dollar
sign with a backslash is one. -/
theorem expand_migrate_of_link_between :
    let url : Document :=
      [.call "json".toList [['a']], .literal "response".toList, .call "json".toList [['b']]]
    let thumbnail : Document := [.literal ['$'], .call "response".toList []]
    let d : Destination :=
      { version := some "12.3.1", responseKind := some .redirection
        url := "$json:a$response$json:b$", thumbnailUrl := "\\$$response$" }
    let call : Caller Nat Nat := fun n _ => do
      modify (· + 1)
      return n
    let made : Document := thumbnail.rebound "responseurl".toList []
    d.migrate.url = "\x7bjson:a\x7dresponseurl\x7bjson:b\x7d".toList ∧
    Template.ofText .standard d.migrate.url ≠ (url.rebound "responseurl".toList []).tree ∧
    made = [.literal ['$'], .call "responseurl".toList []] ∧
    ∃ asked outputs failure last result,
      call.Answers 0 asked outputs failure last ∧
      (Template.expand .standard call d.migrate.thumbnailUrl).run.run 0 = (result, last) ∧
      (Template.expand .standard call.recorded d.migrate.thumbnailUrl).run.run (0, []) =
        (result, (last, asked)) ∧
      Conclusion made.calls.length (fun _ => made.calls) (made.text ·) asked outputs failure
        result := by
  intro url thumbnail d call made
  have hwritten : d.url = url.written ∧ d.thumbnailUrl = thumbnail.written := by decide +kernel
  have hlink : linkCall? .redirection = some ("responseurl".toList, []) := rfl
  have hdeletion : d.deletionUrl = written [] := rfl
  have hnonempty : d.url ≠ [] := by decide +kernel
  have hwritable : ∀ doc ∈ [url, thumbnail, []], IsWritable doc := by decide +kernel
  have h := expand_migrate_of_link (by decide +kernel) rfl hlink rfl hwritten.1 hwritten.2 hdeletion
    hnonempty hwritable
  have hclear : ¬ IsClear [] url := by decide +kernel
  have hclear' : IsClear [] thumbnail := by decide +kernel
  have hurl := (h d.migrate.url url List.mem_cons_self).1
  have hthumbnail := (h d.migrate.thumbnailUrl thumbnail
    (List.mem_cons_of_mem _ List.mem_cons_self)).2 hclear' Nat Nat call 0
  exact ⟨by decide +kernel, mt hurl.1 hclear, by decide +kernel, hthumbnail⟩

end UploadTemplate.Destination
