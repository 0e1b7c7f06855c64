import Mathlib.Data.List.Forall2
import UploadTemplate.Proofs.Computation
import UploadTemplate.Proofs.Naming.Scan
import UploadTemplate.Proofs.Text.Pieces

/-!
# Literals and tokens

Replacing a token cuts a text into literals with the token between them, each time at its first
occurrence in what is left, and with the argument behind it if that is accepted. There is one such
cut of a text. What takes the place of the tokens is asked for from left to right and is put between
the literals as it is.

- `Segments`: literals and the arguments of the tokens between them.
- `IsSegmented token accepts t c`: `c` are the segments of `t`.
- `ListsNumbers a ns`: the text `a` is the list of the numbers `ns`.
- `replaceToken_eq_fill`: replacing goes through the segments.
- `replaceToken_segments`: the segments of a text, what replacing makes of them, and where it fails.
-/

namespace UploadTemplate.Naming

/-- Literals with a token between any two of them, which may have an argument. -/
inductive Segments where
  | last (literal : Text)
  | token (literal : Text) (argument : Option Text) (rest : Segments)
  deriving DecidableEq, Repr

namespace Segments

/-- The text that is made of literals and tokens. -/
def text (token : Text) : Segments → Text
  | .last literal => literal
  | .token literal argument rest => literal ++ written token argument ++ rest.text token

/-- What the tokens have as arguments, from left to right. -/
def arguments : Segments → List (Option Text)
  | .last _ => []
  | .token _ argument rest => argument :: rest.arguments

/-- The literals with the texts of `made`, one after the other, in the place of the tokens. -/
def fill : Segments → List Text → Text
  | .last literal, _ => literal
  | .token literal _ rest, made => literal ++ made.headD [] ++ rest.fill made.tail

end Segments

/-- The token stands behind `literal`, with `after` behind it, and nowhere before. -/
structure IsFirst (token t literal after : Text) : Prop where
  text_eq : t = literal ++ token ++ after
  leftmost : ∀ u v, t = u ++ token ++ v → literal.length ≤ u.length

/-- What is taken out with a token from the text behind it: the text between a brace at once and the
first closing brace, if it is accepted. -/
inductive IsArgument (accepts : Text → Bool) : Text → Option Text → Text → Prop where
  | braced {a rest : Text} : '\x7d' ∉ a → accepts a = true →
      IsArgument accepts ('\x7b' :: a ++ '\x7d' :: rest) (some a) rest
  | absent {after : Text} :
      (∀ a rest, after = '\x7b' :: a ++ '\x7d' :: rest → '\x7d' ∉ a → accepts a = false) →
      IsArgument accepts after none after

/-- The cut of a text at a token: at its first occurrence, and then in what is left behind that and
behind its argument. -/
inductive IsSegmented (token : Text) (accepts : Text → Bool) : Text → Segments → Prop where
  | last {t : Text} : ¬ token <:+: t → IsSegmented token accepts t (.last t)
  | token {t literal after rest : Text} {argument : Option Text} {c : Segments} :
      IsFirst token t literal after → IsArgument accepts after argument rest →
      IsSegmented token accepts rest c → IsSegmented token accepts t (.token literal argument c)

variable {token t literal after rest : Text} {accepts : Text → Bool} {argument : Option Text}
  {c : Segments}

/-! ### The first occurrence -/

theorem exists_isFirst (h : token <:+: t) : ∃ literal after, IsFirst token t literal after := by
  induction t with
  | nil =>
    obtain rfl := List.infix_nil.1 h
    exact ⟨[], [], rfl, fun _ _ _ => Nat.zero_le _⟩
  | cons d t ih =>
    by_cases hp : token <+: d :: t
    · obtain ⟨after, hafter⟩ := hp
      exact ⟨[], after, hafter.symm, fun _ _ _ => Nat.zero_le _⟩
    · obtain ⟨literal, after, hfirst⟩ := ih ((List.infix_cons_iff.1 h).resolve_left hp)
      refine ⟨d :: literal, after, by rw [hfirst.text_eq]; rfl, fun u v huv => ?_⟩
      cases u with
      | nil => exact absurd ⟨v, huv.symm⟩ hp
      | cons e u => exact Nat.succ_le_succ (hfirst.leftmost u v (List.cons.inj huv).2)

theorem IsFirst.unique {literal' after' : Text} (h : IsFirst token t literal after)
    (h' : IsFirst token t literal' after') : literal = literal' ∧ after = after' := by
  have hle := h.leftmost literal' after' h'.text_eq
  have hge := h'.leftmost literal after h.text_eq
  have heq := h.text_eq.symm.trans h'.text_eq
  rw [List.append_assoc, List.append_assoc] at heq
  obtain ⟨hliteral, hrest⟩ := List.append_inj heq (Nat.le_antisymm hle hge)
  exact ⟨hliteral, List.append_cancel_left hrest⟩

theorem IsFirst.infix (h : IsFirst token t literal after) : token <:+: t :=
  ⟨literal, after, h.text_eq.symm⟩

/-- The token does not begin within the literal. -/
theorem IsFirst.not_prefix (h : IsFirst token t literal after) {u v : Text} (hu : literal = u ++ v)
    (hv : v ≠ []) : ¬ token <+: v ++ (token ++ after) := by
  rintro ⟨w, hw⟩
  have hle := h.leftmost u w (by rw [h.text_eq, hu, List.append_assoc, List.append_assoc,
    List.append_assoc, hw])
  have hpos := List.length_pos_iff.2 hv
  rw [hu, List.length_append] at hle
  omega

/-! ### Arguments -/

theorem append_written_nil (token : Text) (argument : Option Text) :
    token ++ written [] argument = written token argument := by
  cases argument <;> simp [written]

/-- The argument is what is found, and it is taken out with what is left behind it. -/
theorem isArgument_iff : IsArgument accepts after argument rest ↔
    (braced? after).filter accepts = argument ∧ after = written [] argument ++ rest := by
  constructor
  · intro h
    cases h with
    | braced ha hx =>
      rw [braced?_append ha, Option.filter_some, if_pos hx]
      exact ⟨rfl, by simp [written]⟩
    | absent hx =>
      refine ⟨?_, rfl⟩
      cases hb : braced? after with
      | none => rfl
      | some a =>
        obtain ⟨ha, r, hr⟩ := braced?_eq_some hb
        rw [Option.filter_some, hx a r hr ha]
        rfl
  · rintro ⟨hfound, hafter⟩
    cases argument with
    | none =>
      obtain rfl : after = rest := hafter
      refine .absent fun a r hr ha => ?_
      rw [hr, braced?_append ha, Option.filter_eq_none_iff] at hfound
      simpa using hfound a rfl
    | some a =>
      obtain ⟨hb, hx⟩ := Option.filter_eq_some_iff.1 hfound
      obtain rfl : after = '\x7b' :: a ++ '\x7d' :: rest := by simpa [written] using hafter
      exact .braced (braced?_eq_some hb).1 hx

theorem exists_isArgument (accepts : Text → Bool) (after : Text) :
    ∃ argument rest, IsArgument accepts after argument rest := by
  cases hfound : (braced? after).filter accepts with
  | none => exact ⟨none, after, isArgument_iff.2 ⟨hfound, rfl⟩⟩
  | some a =>
    obtain ⟨-, r, hr⟩ := braced?_eq_some (Option.filter_eq_some_iff.1 hfound).1
    exact ⟨some a, r, isArgument_iff.2 ⟨hfound, by simp [hr, written]⟩⟩

theorem IsArgument.unique {argument' : Option Text} {rest' : Text}
    (h : IsArgument accepts after argument rest) (h' : IsArgument accepts after argument' rest') :
    argument = argument' ∧ rest = rest' := by
  obtain ⟨hfound, hafter⟩ := isArgument_iff.1 h
  obtain ⟨hfound', hafter'⟩ := isArgument_iff.1 h'
  obtain rfl := hfound.symm.trans hfound'
  exact ⟨rfl, List.append_cancel_left (hafter.symm.trans hafter')⟩

/-! ### Segments -/

theorem exists_isSegmented (hne : token ≠ []) (accepts : Text → Bool) (t : Text) :
    ∃ c, IsSegmented token accepts t c := by
  induction hn : t.length using Nat.strongRecOn generalizing t with
  | ind n ih =>
    by_cases h : token <:+: t
    · obtain ⟨literal, after, hfirst⟩ := exists_isFirst h
      obtain ⟨argument, rest, hargument⟩ := exists_isArgument accepts after
      -- a token that is not empty leaves less to be cut
      have hlt : rest.length < n := by
        have hpos := List.length_pos_iff.2 hne
        rw [← hn, hfirst.text_eq, (isArgument_iff.1 hargument).2]
        simp only [List.length_append]
        omega
      obtain ⟨c, hc⟩ := ih rest.length hlt rest rfl
      exact ⟨.token literal argument c, .token hfirst hargument hc⟩
    · exact ⟨.last t, .last h⟩

theorem IsSegmented.unique {c' : Segments} (h : IsSegmented token accepts t c)
    (h' : IsSegmented token accepts t c') : c = c' := by
  induction h generalizing c' with
  | last hn =>
    cases h' with
    | last => rfl
    | token hfirst => exact absurd hfirst.infix hn
  | token hfirst hargument _ ih =>
    cases h' with
    | last hn => exact absurd hfirst.infix hn
    | token hfirst' hargument' hrest' =>
      obtain ⟨rfl, rfl⟩ := hfirst.unique hfirst'
      obtain ⟨rfl, rfl⟩ := hargument.unique hargument'
      rw [ih hrest']

theorem IsSegmented.text_eq (h : IsSegmented token accepts t c) : c.text token = t := by
  induction h with
  | last => rfl
  | @token t _ after rest argument _ hfirst hargument _ ih =>
    have hwritten : written token argument ++ rest = token ++ after := by
      rw [(isArgument_iff.1 hargument).2, ← List.append_assoc, append_written_nil]
    rw [Segments.text, ih, List.append_assoc, hwritten, ← List.append_assoc, ← hfirst.text_eq]

theorem IsSegmented.accepts_argument (h : IsSegmented token accepts t c) {a : Text}
    (ha : some a ∈ c.arguments) : accepts a = true := by
  induction h with
  | last => cases ha
  | token _ hargument _ ih =>
    rcases List.mem_cons.1 ha with rfl | ha
    · cases hargument with
      | braced _ hx => exact hx
    · exact ih ha

/-- A text has no more occurrences of a token than there is place for. -/
theorem Segments.length_arguments_le (c : Segments) (token : Text) :
    c.arguments.length * token.length ≤ (c.text token).length := by
  induction c with
  | last => simp [arguments]
  | token literal argument rest ih =>
    have hle : token.length ≤ (written token argument).length :=
      Token.length_text_le ⟨token, fun _ => true⟩ argument
    rw [arguments, text, List.length_cons, Nat.succ_mul]
    simp only [List.length_append]
    omega

/-! ### Replacing -/

section Replacing

variable {m : Type → Type} [Monad m] [LawfulMonad m]

/-- One turn: the literal is passed over, and replacing goes on behind the token. -/
theorem replaceToken_of_isFirst (hne : token ≠ []) (h : IsFirst token t literal after)
    (ha : IsArgument accepts after argument rest) (f : Option Text → m Text) :
    replaceToken token accepts f t = (do
      let made ← f argument
      let filled ← replaceToken token accepts f rest
      pure (literal ++ made ++ filled)) := by
  obtain ⟨hfound, hafter⟩ := isArgument_iff.1 ha
  have hwritten : token ++ after = written token argument ++ rest := by
    rw [hafter, ← List.append_assoc, append_written_nil]
  have hfind : tokenWith token accepts (written token argument ++ rest) =
      some (argument, (written token argument).length) := by
    rw [← hwritten, tokenWith, if_pos (List.isPrefixOf_iff_prefix.2 (List.prefix_append _ _)),
      List.drop_left, hfound]
    cases argument with
    | none => rfl
    | some a => simp [written]; omega
  -- nothing is found within the literal, and then the token with its argument
  have hcut : Text.cut (tokenWith token accepts) t = literal.map .char ++
      .found argument :: Text.cut (tokenWith token accepts) rest := by
    have hw : written token argument ≠ [] := by
      rw [← append_written_nil]
      exact List.append_ne_nil_of_left_ne_nil hne _
    rw [h.text_eq, List.append_assoc,
      Text.cut_pass fun u v hu hv => tokenWith_eq_none (h.not_prefix hu hv), hwritten,
      Text.cut_found hw hfind]
  unfold replaceToken
  rw [hcut, Text.refillM_append, Text.refillM_chars, pure_bind, Text.refillM]
  simp only [bind_assoc, pure_bind, List.append_assoc]

/-- Replacing asks for what takes the place of the tokens, from left to right, and puts it between
the literals. -/
theorem replaceToken_eq_fill (hne : token ≠ []) (h : IsSegmented token accepts t c)
    (f : Option Text → m Text) :
    replaceToken token accepts f t = c.fill <$> c.arguments.mapM f := by
  induction h with
  | last hn => simp [replaceToken_of_absent hn, Segments.arguments, Segments.fill]
  | token hfirst hargument _ ih =>
    rw [replaceToken_of_isFirst hne hfirst hargument, ih]
    simp [Segments.arguments, Segments.fill]

end Replacing

/-! ### Lists of numbers -/

/-- The number of sixty-four bits that a piece of a list is, without the blanks around it. -/
def number? (piece : Text) : Option Nat := Numeral.read Numeral.max64 (Text.trim piece)

/-- Numbers with commas between them. -/
def ListsNumbers (a : Text) (ns : List Nat) : Prop :=
  ∃ pieces : List Text, pieces ≠ [] ∧ (∀ piece ∈ pieces, ',' ∉ piece) ∧
    a = List.intercalate [','] pieces ∧ pieces.map number? = ns.map some

theorem listsNumbers_iff {a : Text} {ns : List Nat} :
    ListsNumbers a ns ↔ (Text.split ',' a).map number? = ns.map some := by
  constructor
  · rintro ⟨pieces, hne, hpieces, rfl, hread⟩
    rwa [Text.split_intercalate hne hpieces]
  · intro hread
    exact ⟨Text.split ',' a, Text.split_ne_nil ',' a, fun _ => Text.not_mem_of_mem_split,
      (Text.intercalate_split ',' a).symm, hread⟩

/-- None of the numbers of a list is left out. -/
theorem numbersOf_eq {a : Text} {ns : List Nat} (h : ListsNumbers a ns) : numbersOf a = ns :=
  calc
    numbersOf a = ((Text.split ',' a).map number?).filterMap id := by
      rw [List.filterMap_map]
      rfl
    _ = (ns.map some).filterMap id := by rw [listsNumbers_iff.1 h]
    _ = ns := by simp

theorem listsNumbers_numbersOf {a : Text} (h : isNumberList a = true) :
    ListsNumbers a (numbersOf a) := by
  obtain ⟨-, hall⟩ := Bool.and_eq_true_iff.1 h
  rw [List.all_eq_true] at hall
  have hnumbers : numbersOf a = (Text.split ',' a).filterMap number? := rfl
  rw [listsNumbers_iff, hnumbers]
  generalize Text.split ',' a = pieces at hall ⊢
  induction pieces with
  | nil => rfl
  | cons piece pieces ih =>
    obtain ⟨hpiece, hpieces⟩ := List.forall_mem_cons.1 hall
    obtain ⟨n, hn⟩ : ∃ n, number? piece = some n := Option.isSome_iff_exists.1 hpiece
    rw [List.filterMap_cons_some hn, List.map_cons, List.map_cons, hn, ih hpieces]

/-- What is accepted is a list of numbers. -/
theorem isNumberList_iff {a : Text} : isNumberList a = true ↔ ∃ ns, ListsNumbers a ns := by
  refine ⟨fun h => ⟨numbersOf a, listsNumbers_numbersOf h⟩, ?_⟩
  rintro ⟨ns, h⟩
  have hread := listsNumbers_iff.1 h
  have hne : a.isEmpty = false := by
    cases a with
    | nil =>
      -- the one piece of the empty text is no number
      have hnone : number? [] = none := rfl
      cases ns <;> simp [Text.split, hnone] at hread
    | cons => rfl
  rw [isNumberList, hne, Bool.not_false, Bool.true_and, List.all_eq_true]
  intro piece hpiece
  have hmem := List.mem_map_of_mem (f := number?) hpiece
  rw [hread] at hmem
  obtain ⟨n, -, hn⟩ := List.mem_map.1 hmem
  exact Option.isSome_iff_exists.2 ⟨n, hn.symm⟩

/-- The numbers that a token is given: none without an argument, or those that it lists. -/
def IsGiven : Option Text → List Nat → Prop
  | none, ns => ns = []
  | some a, ns => ListsNumbers a ns

theorem exists_replaceNumeric (hne : token ≠ []) (h : IsSegmented token isNumberList t c) :
    ∃ lists, List.Forall₂ IsGiven c.arguments lists ∧
      ∀ (m : Type → Type) [Monad m] [LawfulMonad m] (f : List Nat → m Text),
        replaceNumeric token f t = c.fill <$> lists.mapM f := by
  refine ⟨c.arguments.map fun a => (a.map numbersOf).getD [], ?_, fun m _ _ f => ?_⟩
  · rw [List.forall₂_map_right_iff, List.forall₂_same]
    intro argument hargument
    cases argument with
    | none => rfl
    | some a => exact listsNumbers_numbersOf (h.accepts_argument hargument)
  · rw [replaceNumeric, replaceToken_eq_fill hne h, List.mapM_map]
    rfl

/-- A text is cut into literals and tokens with their arguments in one way, which leaves nothing of
it out. Replacing asks for what takes the place of the tokens, from left to right, and puts it
between the literals. It fails as the first of these that fails, and those behind it are not asked
for. A token with numbers is given all the numbers of its argument, which is taken out just if it is
a list of numbers. -/
theorem replaceToken_segments {token : Text} (hne : token ≠ []) (accepts : Text → Bool) (t : Text) :
    ∃ c, IsSegmented token accepts t c ∧ (∀ c', IsSegmented token accepts t c' → c' = c) ∧
      c.text token = t ∧ c.arguments.length * token.length ≤ t.length ∧
      (∀ (m : Type → Type) [Monad m] [LawfulMonad m] (f : Option Text → m Text),
        replaceToken token accepts f t = c.fill <$> c.arguments.mapM f) ∧
      (∀ (ε σ : Type) (f : Option Text → ExceptT ε (StateM σ) Text) (s last : σ) (e : ε),
        (replaceToken token accepts f t).run.run s = (.error e, last) ↔
          ∃ first argument others made between, c.arguments = first ++ argument :: others ∧
            (first.mapM f).run.run s = (.ok made, between) ∧
            (f argument).run.run between = (.error e, last)) ∧
      (∀ a, isNumberList a = true ↔ ∃ ns, ListsNumbers a ns) ∧
      (accepts = isNumberList → ∃ lists, List.Forall₂ IsGiven c.arguments lists ∧
        ∀ (m : Type → Type) [Monad m] [LawfulMonad m] (f : List Nat → m Text),
          replaceNumeric token f t = c.fill <$> lists.mapM f) := by
  obtain ⟨c, hc⟩ := exists_isSegmented hne accepts t
  refine ⟨c, hc, fun c' hc' => hc'.unique hc, hc.text_eq, ?_,
    fun m _ _ f => replaceToken_eq_fill hne hc f, fun ε σ f s last e => ?_,
    fun a => isNumberList_iff, ?_⟩
  · have hle := c.length_arguments_le token
    rwa [hc.text_eq] at hle
  · rw [replaceToken_eq_fill hne hc f, Computation.run_map_eq_error_iff,
      Computation.run_mapM_eq_error_iff]
  · rintro rfl
    exact exists_replaceNumeric hne hc

/-- A token that overlaps itself, once with numbers behind it and once with what are none. A
replacement that counts its turns and fails at an argument has two of three. -/
theorem replaceToken_segments_overlapping :
    let token : Text := "aa"
    let t : Text := "aaaa\x7b1, +2\x7dbaa\x7ba\x7d"
    let c : Segments :=
      .token [] none (.token [] (some "1, +2") (.token "b" none (.last "\x7ba\x7d".toList)))
    let f : Option Text → ExceptT Unit (StateM Nat) Text := fun argument => do
      modify (· + 1)
      if argument.isSome then throw () else pure "x"
    token ≠ [] ∧ IsSegmented token isNumberList t c ∧
      (∀ c', IsSegmented token isNumberList t c' → c' = c) ∧ c.text token = t ∧
      (replaceToken token isNumberList f t).run.run 0 = (.error (), 2) ∧
      ∀ g : List Nat → Except Error Text,
        replaceNumeric token g t = c.fill <$> [[], [1, 2], []].mapM g := by
  intro token t c f
  have hne : token ≠ [] := by decide
  have hc : IsSegmented token isNumberList t c := by
    refine .token ⟨rfl, fun _ _ _ => Nat.zero_le _⟩ (isArgument_iff.2 ⟨?_, rfl⟩)
      (.token ⟨rfl, fun _ _ _ => Nat.zero_le _⟩ (isArgument_iff.2 ⟨?_, rfl⟩)
        (.token ⟨rfl, fun u v huv => ?_⟩ (isArgument_iff.2 ⟨?_, rfl⟩) (.last ?_)))
    · decide +kernel
    · decide +kernel
    · cases u with
      | nil => exact absurd (List.cons.inj huv).1 (by decide)
      | cons d u => exact Nat.succ_le_succ (Nat.zero_le _)
    · decide +kernel
    · decide +kernel
  obtain ⟨c', -, hunique, htext, -, -, herror, -, hnumeric⟩ :=
    replaceToken_segments hne isNumberList t
  obtain rfl := hunique c hc
  obtain ⟨lists, hlists, hfill⟩ := hnumeric rfl
  have hlists : List.Forall₂ IsGiven [none, some "1, +2".toList, none] lists := hlists
  have hthree : lists = [[], [1, 2], []] := by
    obtain _ | ⟨hfirst, _ | ⟨hsecond, _ | ⟨hthird, _ | _⟩⟩⟩ := hlists
    cases hfirst
    cases hthird
    rw [← numbersOf_eq hsecond]
    decide +kernel
  refine ⟨hne, hc, hunique, htext, ?_, fun g => ?_⟩
  · exact (herror Unit Nat f 0 2 ()).2 ⟨[none], _, [none], [['x']], 1, rfl, rfl, rfl⟩
  · rw [hfill, hthree]

end UploadTemplate.Naming
