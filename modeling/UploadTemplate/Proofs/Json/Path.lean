import UploadTemplate.Json.Path
import UploadTemplate.Proofs.Naming.Values
import UploadTemplate.Proofs.Query
import UploadTemplate.Proofs.Text.Cut

/-!
# Written paths

A list of steps into a document can be written in many ways behind a dollar sign, as a name has up
to three notations, and in one way as a pointer. All of them lead where the steps lead.

- `Reaches v steps found`: what a list of steps leads to.
- `Path.Spelling steps t`: `t` is a way to write the steps with dots and brackets.
- `Path.pointerOf`: the steps as a pointer.
- `select_written`: what a written path leads to.
-/

namespace UploadTemplate

/-! ### Numerals -/

namespace Numeral

theorem toNat_decimalDigit {d : Nat} (h : d < 10) : (decimalDigit d).toNat - 48 = d := by
  revert d
  decide

theorem decimalValue_decimal (n : Nat) : decimalValue (decimal n) = n := by
  have hdigits : (digits 10 n).map (fun d => (decimalDigit d).toNat - 48) = digits 10 n :=
    (List.map_congr_left fun d hd => toNat_decimalDigit (digits_lt (by decide) n d hd)).trans
      (List.map_id _)
  unfold decimalValue decimal
  rw [List.map_map, Function.comp_def, hdigits, value_digits]

theorem read_of_digits {limit : Nat} {t : Text} (hne : t ≠ [])
    (h : ∀ c ∈ t, Text.isAsciiDigit c = true) (hl : decimalValue t ≤ limit) :
    read limit t = some (decimalValue t) := by
  have hall : t.all Text.isAsciiDigit = true := List.all_eq_true.2 h
  unfold read
  split
  · exact absurd (h '+' List.mem_cons_self) (by decide)
  · simp [hne, hall, hl]

theorem read_decimal {limit n : Nat} (h : n ≤ limit) : read limit (decimal n) = some n := by
  have hread : read limit (decimal n) = some (decimalValue (decimal n)) :=
    read_of_digits (decimal_ne_nil n) (fun _ => isAsciiDigit_of_mem_decimal)
      (by rwa [decimalValue_decimal])
  rw [hread, decimalValue_decimal]

/-- Only zero is written with a zero in front. -/
theorem decimal_of_zero_cons {n : Nat} {r : Text} (h : decimal n = '0' :: r) : n = 0 := by
  refine Nat.eq_zero_of_not_pos fun hn => ?_
  obtain ⟨d, ds, hds⟩ := List.exists_cons_of_ne_nil (digits_ne_nil 10 n)
  have hd : d < 10 := digits_lt (by decide) n d (hds ▸ List.mem_cons_self)
  have hhead := head?_digits (by decide : 2 ≤ 10) hn
  rw [decimal, hds, List.map_cons] at h
  have hzero : (decimalDigit d).toNat - 48 = 0 := by rw [(List.cons.inj h).1]; rfl
  rw [toNat_decimalDigit hd] at hzero
  rw [hds, hzero] at hhead
  exact hhead rfl

end Numeral

/-! ### Digits -/

namespace Text

theorem isBlank_of_isAsciiDigit {c : Char} (h : isAsciiDigit c = true) : isBlank c = false := by
  have hle : '0' ≤ c ∧ c ≤ '9' := by simpa [isAsciiDigit] using h
  have h0 : 48 ≤ c.toNat := hle.1
  have h9 : c.toNat ≤ 57 := hle.2
  simp only [isBlank]
  grind

end Text

namespace Json

/-! ### Steps -/

/-- What a list of steps leads to: every name is that of a member, every index that of an item. -/
inductive Reaches : Json → List Step → Json → Prop where
  | here (v : Json) : Reaches v [] v
  | key {v child found : Json} {k : Text} {r : List Step} : v.member? k = some child →
      Reaches child r found → Reaches v (.key k :: r) found
  | index {items : List Json} {child found : Json} {i : Nat} {r : List Step} :
      items[i]? = some child → Reaches child r found →
      Reaches (.array items) (.index i :: r) found

theorem walk_eq_some_iff {steps : List Step} {v found : Json} :
    walk steps v = some found ↔ Reaches v steps found := by
  constructor
  · intro h
    induction steps generalizing v with
    | nil => exact Option.some.inj h ▸ .here v
    | cons s r ih =>
      obtain ⟨child, hchild, hrest⟩ := Option.bind_eq_some_iff.1 h
      cases s with
      | key k =>
        have hmember : v.member? k = some child := by cases v <;> exact hchild
        exact .key hmember (ih hrest)
      | index i =>
        cases v with
        | array items => exact .index hchild (ih hrest)
        | _ => cases hchild
  · intro h
    induction h with
    | here v => rfl
    | @key v child found k r hmember _ ih =>
      have hstep : step? (.key k) v = some child := by cases v <;> exact hmember
      rw [walk, hstep]
      exact ih
    | @index items child found i r hitem _ ih =>
      have hstep : step? (.index i) (.array items) = some child := hitem
      rw [walk, hstep]
      exact ih

namespace Path

/-! ### Dots and brackets -/

/-- The ways to write a list of steps behind a dollar sign. -/
inductive Spelling : List Step → Text → Prop where
  | nil : Spelling [] []
  | index (i : Nat) {r : List Step} {t : Text} : Spelling r t →
      Spelling (.index i :: r) ('[' :: Numeral.decimal i ++ ']' :: t)
  | quoted {quote : Char} {k : Text} {r : List Step} {t : Text} : quote = '\x27' ∨ quote = '"' →
      quote ∉ k → Spelling r t →
      Spelling (.key k :: r) ('[' :: quote :: k ++ quote :: ']' :: t)
  | dotted {k : Text} {r : List Step} {t : Text} : k ≠ [] → '.' ∉ k → '[' ∉ k →
      (r = [] → ∀ c ∈ k.getLast?, Text.isBlank c = false) → Spelling r t →
      Spelling (.key k :: r) ('.' :: k ++ t)

/-- Where a further step may begin: `settled` are the steps before it, newest first. -/
inductive Inside.Settles (steps : List Step) : Inside → List Step → Prop where
  | first : Settles steps .first steps
  | between : Settles steps .between steps
  | key (c : Char) (chars : Text) :
      Settles steps (.key (c :: chars)) (.key (c :: chars).reverse :: steps)

section Reading

variable {inside : Inside} {steps settled : List Step}

theorem readFrom_nil (h : inside.Settles steps settled) (p : Nat) :
    readFrom inside steps p [] = .ok settled.reverse := by
  cases h <;> rfl

theorem readFrom_dot (h : inside.Settles steps settled) (p : Nat) (r : Text) :
    readFrom inside steps p ('.' :: r) = readFrom (.key []) settled (p + 1) r := by
  cases h <;> rfl

theorem readFrom_bracket (h : inside.Settles steps settled) (p : Nat) (r : Text) :
    readFrom inside steps p ('[' :: r) = readFrom .bracket settled (p + 1) r := by
  cases h <;> rfl

theorem readFrom_name {k : Text} (hdot : '.' ∉ k) (hbracket : '[' ∉ k) (chars : Text) (p : Nat)
    (r : Text) : readFrom (.key chars) steps p (k ++ r) =
      readFrom (.key (k.reverse ++ chars)) steps (p + k.length) r := by
  induction k generalizing chars p with
  | nil => rfl
  | cons c k ih =>
    simp only [List.mem_cons, not_or] at hdot hbracket
    have hc : ¬ (c = '.' ∨ c = '[') := not_or.2 ⟨Ne.symm hdot.1, Ne.symm hbracket.1⟩
    rw [List.cons_append, readFrom, if_neg hc, ih hdot.2 hbracket.2]
    simp [Nat.add_comm, Nat.add_left_comm]

theorem readFrom_quoted {quote : Char} {k : Text} (h : quote ∉ k) (chars : Text) (p : Nat)
    (r : Text) : readFrom (.quoted quote chars) steps p (k ++ quote :: ']' :: r) =
      readFrom .between (.key (chars.reverse ++ k) :: steps) (p + k.length + 2) r := by
  induction k generalizing chars p with
  | nil => simp [readFrom]
  | cons c k ih =>
    simp only [List.mem_cons, not_or] at h
    rw [List.cons_append, readFrom, if_neg (Ne.symm h.1), ih h.2]
    simp [Nat.add_comm, Nat.add_left_comm]

theorem readFrom_index {ds : Text} (h : ']' ∉ ds) {i : Nat} {chars : Text}
    (hi : indexOf (ds.reverse ++ chars) = .ok i) (p : Nat) (r : Text) :
    readFrom (.index chars) steps p (ds ++ ']' :: r) =
      readFrom .between (.index i :: steps) (p + ds.length + 1) r := by
  induction ds generalizing chars p with
  | nil =>
    rw [List.reverse_nil, List.nil_append] at hi
    rw [List.nil_append, readFrom, if_pos rfl, hi]
    rfl
  | cons c ds ih =>
    simp only [List.mem_cons, not_or] at h
    rw [List.reverse_cons, List.append_assoc, List.singleton_append] at hi
    rw [List.cons_append, readFrom, if_neg (Ne.symm h.1), ih h.2 hi]
    simp [Nat.add_comm, Nat.add_left_comm]

theorem indexOf_decimal {i : Nat} (h : i ≤ Numeral.max64) :
    indexOf (Numeral.decimal i).reverse = .ok i := by
  have htrim : Text.trim (Numeral.decimal i) = Numeral.decimal i := by
    refine Text.trim_eq_self (fun c hc => ?_) fun c hc => ?_
    · exact Text.isBlank_of_isAsciiDigit
        (Numeral.isAsciiDigit_of_mem_decimal (List.mem_of_head? hc))
    · exact Text.isBlank_of_isAsciiDigit
        (Numeral.isAsciiDigit_of_mem_decimal (List.mem_of_getLast? hc))
  unfold indexOf
  simp only [List.reverse_reverse, htrim, Numeral.read_decimal h]

/-- Reading goes through an index with its brackets. -/
theorem readFrom_decimal {i : Nat} (h : i ≤ Numeral.max64) (steps : List Step) (p : Nat)
    (r : Text) :
    ∃ q, readFrom .bracket steps p (Numeral.decimal i ++ ']' :: r) =
      readFrom .between (.index i :: steps) q r := by
  obtain ⟨c, ds, hds⟩ := List.exists_cons_of_ne_nil (Numeral.decimal_ne_nil i)
  have hdigit : ∀ d ∈ c :: ds, Text.isAsciiDigit d = true := fun d hd =>
    Numeral.isAsciiDigit_of_mem_decimal (hds ▸ hd)
  have hnot {d : Char} (hd : Text.isAsciiDigit d = false) : d ∉ c :: ds := fun hm => by
    rw [hdigit d hm] at hd
    cases hd
  have hquote : ¬ (c = '\x27' ∨ c = '"') := by
    rintro (rfl | rfl)
    · exact hnot (by decide) List.mem_cons_self
    · exact hnot (by decide) List.mem_cons_self
  have hclosing : ']' ∉ c :: ds := hnot (by decide)
  simp only [List.mem_cons, not_or] at hclosing
  have hindex : indexOf (ds.reverse ++ [c]) = .ok i := by
    rw [← List.reverse_cons, ← hds]
    exact indexOf_decimal h
  refine ⟨p + 1 + ds.length + 1, ?_⟩
  rw [hds, List.cons_append, readFrom, if_neg hquote, if_neg (Ne.symm hclosing.1),
    readFrom_index hclosing.2 hindex]

/-- A spelling is read as the steps that it spells. -/
theorem readFrom_spelling {r : List Step} {t : Text} (h : Spelling r t)
    (hindex : ∀ i, Step.index i ∈ r → i ≤ Numeral.max64) (hs : inside.Settles steps settled)
    (p : Nat) : readFrom inside steps p t = .ok (settled.reverse ++ r) := by
  induction h generalizing inside steps settled p with
  | nil => rw [readFrom_nil hs, List.append_nil]
  | @index i r t _ ih =>
    obtain ⟨q, hq⟩ := readFrom_decimal (hindex i List.mem_cons_self) settled (p + 1) t
    rw [List.cons_append, readFrom_bracket hs, hq,
      ih (fun j hj => hindex j (List.mem_cons_of_mem _ hj)) .between]
    simp
  | @quoted quote k r t hquote hk _ ih =>
    rw [List.cons_append, List.cons_append, readFrom_bracket hs, readFrom, if_pos hquote,
      readFrom_quoted hk, ih (fun j hj => hindex j (List.mem_cons_of_mem _ hj)) .between]
    simp
  | @dotted k r t hne hdot hbracket _ _ ih =>
    obtain ⟨c, chars, hreverse⟩ := List.exists_cons_of_ne_nil (mt List.reverse_eq_nil_iff.1 hne)
    rw [List.cons_append, readFrom_dot hs, readFrom_name hdot hbracket, List.append_nil, hreverse,
      ih (fun j hj => hindex j (List.mem_cons_of_mem _ hj)) (.key c chars), ← hreverse]
    simp

end Reading

/-- A text ends in no blank if its last part does not, or is empty after one that does not. -/
theorem getLast?_append_of {a t : Text} (ha : t = [] → ∀ c ∈ a.getLast?, Text.isBlank c = false)
    (ht : ∀ c ∈ t.getLast?, Text.isBlank c = false) :
    ∀ c ∈ (a ++ t).getLast?, Text.isBlank c = false := by
  cases t with
  | nil => simpa using ha rfl
  | cons d t =>
    rw [List.getLast?_append_cons]
    exact ht

theorem Spelling.eq_nil {r : List Step} (h : Spelling r []) : r = [] := by
  generalize ht : ([] : Text) = t at h
  cases h with
  | nil => rfl
  | _ => simp at ht

/-- No spelling ends in a blank. -/
theorem Spelling.getLast? {r : List Step} {t : Text} (h : Spelling r t) :
    ∀ c ∈ t.getLast?, Text.isBlank c = false := by
  have hbracket (a : Text) : ∀ c ∈ (a ++ [']']).getLast?, Text.isBlank c = false := by
    intro c hc
    rw [List.getLast?_concat] at hc
    cases hc
    decide
  induction h with
  | nil => nofun
  | @index i r t _ ih =>
    rw [List.append_cons]
    exact getLast?_append_of (fun _ => hbracket _) ih
  | @quoted quote k r t _ _ _ ih =>
    rw [List.append_cons, List.append_cons]
    exact getLast?_append_of (fun _ => hbracket _) ih
  | @dotted k r t hne _ _ hlast hr ih =>
    refine getLast?_append_of (fun ht => ?_) ih
    rw [List.getLast?_cons_of_ne_nil hne]
    exact hlast (ht ▸ hr).eq_nil

/-! ### Pointers -/

def escapeChar (c : Char) : Text :=
  if c = '~' then ['~', '0'] else if c = '/' then ['~', '1'] else [c]

/-- A name as a part of a pointer. -/
def escape (k : Text) : Text := k.flatMap escapeChar

/-- A step as a part of a pointer, without its slash. -/
def part : Step → Text
  | .key k => escape k
  | .index i => Numeral.decimal i

/-- The pointer of a list of steps. -/
def pointerOf (steps : List Step) : Text := steps.flatMap fun s => '/' :: part s

theorem slash_not_mem_part (s : Step) : '/' ∉ part s := by
  cases s with
  | key k =>
    intro h
    obtain ⟨c, -, hc⟩ := List.mem_flatMap.1 h
    unfold escapeChar at hc
    split at hc
    · exact absurd hc (by decide)
    · split at hc
      · exact absurd hc (by decide)
      · exact ‹¬ c = '/'› (List.mem_singleton.1 hc).symm
  | index i =>
    intro h
    exact absurd (Numeral.isAsciiDigit_of_mem_decimal h) (by decide)

theorem split_pointerOf {t : Text} (h : '/' ∉ t) (steps : List Step) :
    Text.split '/' (t ++ pointerOf steps) = t :: steps.map part := by
  induction steps generalizing t with
  | nil =>
    rw [pointerOf, List.flatMap_nil, List.append_nil]
    exact Text.split_of_not_mem h
  | cons s r ih =>
    rw [pointerOf, List.flatMap_cons, List.cons_append, Text.split_append h]
    exact congrArg (t :: ·) (ih (slash_not_mem_part s))

/-- The slashes of a name are put back first, and no new escape comes of that. -/
theorem replace_slash_escape (k : Text) :
    Text.replace "~1" "/" (escape k) = k.flatMap fun c => if c = '~' then ['~', '0'] else [c] := by
  induction k with
  | nil => rfl
  | cons c k ih =>
    rw [escape, List.flatMap_cons, List.flatMap_cons, ← ih, ← escape, escapeChar]
    split
    · rw [List.cons_append, List.singleton_append, Text.replace_char (by simp),
        Text.replace_char (by simp)]
      rfl
    · rename_i htilde
      split
      · rename_i hslash
        subst hslash
        have htoken : "~1".toList ≠ [] := by decide
        exact Text.replace_token htoken _ _
      · rw [List.singleton_append, Text.replace_char (by simp [Ne.symm htilde])]
        rfl

theorem unescape_escape (k : Text) : unescape (escape k) = k := by
  rw [unescape, replace_slash_escape]
  induction k with
  | nil => rfl
  | cons c k ih =>
    rw [List.flatMap_cons]
    split
    · rename_i htilde
      subst htilde
      have htoken : "~0".toList ≠ [] := by decide
      refine (Text.replace_token htoken _ _).trans ?_
      exact congrArg ('~' :: ·) ih
    · rename_i htilde
      rw [List.singleton_append, Text.replace_char (by simp [Ne.symm htilde]), ih]

theorem unescape_decimal (i : Nat) : unescape (Numeral.decimal i) = Numeral.decimal i := by
  have htilde : '~' ∉ Numeral.decimal i := fun h =>
    absurd (Numeral.isAsciiDigit_of_mem_decimal h) (by decide)
  rw [unescape, Text.replace_of_absent (Text.absent_of_not_mem (c := '~') (by decide) htilde),
    Text.replace_of_absent (Text.absent_of_not_mem (c := '~') (by decide) htilde)]

theorem pointerIndex_decimal {i : Nat} (h : i ≤ Numeral.max64) :
    pointerIndex (Numeral.decimal i) = some i := by
  unfold pointerIndex
  split
  · rename_i r hr
    have hplus : '+' ∈ Numeral.decimal i := hr ▸ List.mem_cons_self
    exact absurd (Numeral.isAsciiDigit_of_mem_decimal hplus) (by decide)
  · rename_i c r hr
    rw [Numeral.decimal_of_zero_cons hr] at hr
    exact absurd hr (by simp [Numeral.decimal, Numeral.digits])
  · exact Numeral.read_decimal h

theorem follow_object (part : Text) (r : List Text) (ms : List (Text × Json)) :
    follow (part :: r) (.object ms) = (Entries.find? part ms).bind (follow r) := rfl

theorem follow_array (part : Text) (r : List Text) (items : List Json) :
    follow (part :: r) (.array items) =
      ((pointerIndex part).bind fun i => items[i]?).bind (follow r) := rfl

/-- A pointer leads where its steps lead. -/
theorem follow_of_reaches {v found : Json} {steps : List Step} (h : Reaches v steps found)
    (hindex : ∀ i, Step.index i ∈ steps → i ≤ Numeral.max64) :
    follow ((steps.map part).map unescape) v = some found := by
  induction h with
  | here v => rfl
  | @key v child found k r hmember _ ih =>
    have ih := ih fun j hj => hindex j (List.mem_cons_of_mem _ hj)
    cases v with
    | object ms =>
      have hfind : Entries.find? k ms = some child := hmember
      rw [List.map_cons, List.map_cons, part, unescape_escape, follow_object, hfind]
      exact ih
    | _ => cases hmember
  | @index items child found i r hitem _ ih =>
    have ih := ih fun j hj => hindex j (List.mem_cons_of_mem _ hj)
    have hi := pointerIndex_decimal (hindex i List.mem_cons_self)
    rw [List.map_cons, List.map_cons, part, unescape_decimal, follow_array, hi]
    simp only [Option.bind_some, hitem, ih]

/-- A part of a pointer ends in a blank only if it is a name that does. -/
theorem getLast?_part {s : Step}
    (h : ∀ k, s = .key k → ∀ c ∈ k.getLast?, Text.isBlank c = false) :
    ∀ c ∈ (part s).getLast?, Text.isBlank c = false := by
  cases s with
  | index i =>
    exact fun c hc => Text.isBlank_of_isAsciiDigit
      (Numeral.isAsciiDigit_of_mem_decimal (List.mem_of_getLast? hc))
  | key k =>
    rcases List.eq_nil_or_concat' k with rfl | ⟨k, d, rfl⟩
    · nofun
    · have hd : Text.isBlank d = false := h _ rfl d (by simp)
      have hlast : ∀ c ∈ (escapeChar d).getLast?, Text.isBlank c = false := by
        unfold escapeChar
        split
        · rintro c ⟨⟩
          rfl
        · split
          · rintro c ⟨⟩
            rfl
          · simpa using hd
      have hne : escapeChar d ≠ [] := by
        unfold escapeChar
        split
        · decide
        · split <;> simp
      have hescape : part (.key (k ++ [d])) = escape k ++ escapeChar d := by
        simp [part, escape]
      rw [hescape]
      exact getLast?_append_of (fun he => absurd he hne) hlast

theorem getLast?_pointerOf {steps : List Step}
    (h : ∀ k, steps.getLast? = some (.key k) → ∀ c ∈ k.getLast?, Text.isBlank c = false) :
    ∀ c ∈ (pointerOf steps).getLast?, Text.isBlank c = false := by
  rcases List.eq_nil_or_concat' steps with rfl | ⟨steps, s, rfl⟩
  · nofun
  · have hpart : ∀ c ∈ (part s).getLast?, Text.isBlank c = false :=
      getLast?_part fun k hk => h k (by rw [List.getLast?_concat, hk])
    have hlast : pointerOf (steps ++ [s]) = (pointerOf steps ++ ['/']) ++ part s := by
      simp [pointerOf]
    have hslash : ∀ c ∈ (pointerOf steps ++ ['/']).getLast?, Text.isBlank c = false := by
      rw [List.getLast?_concat]
      rintro c ⟨⟩
      rfl
    rw [hlast]
    exact getLast?_append_of (fun _ => hslash) hpart

end Path

/-! ### Selecting -/

open UploadTemplate.Json.Path

theorem select_spelling {steps : List Step} {t : Text} (h : Spelling steps t)
    (hindex : ∀ i, Step.index i ∈ steps → i ≤ Numeral.max64) (v : Json) :
    select v ('$' :: t) =
      match walk steps v with
      | some found => .ok found
      | none => .error ⟨'$' :: t, .noMatch⟩ := by
  have htrim : Text.trim ('$' :: t) = '$' :: t := by
    refine Text.trim_eq_self (by simp; decide) ?_
    exact getLast?_append_of (a := ['$']) (fun _ => by rintro c ⟨⟩; rfl) h.getLast?
  have hread : Path.read ('$' :: t) = .ok steps := readFrom_spelling h hindex .first 1
  unfold select
  simp only [htrim, hread]
  rfl

theorem select_pointerOf {steps : List Step} {v found : Json} (h : Reaches v steps found)
    (hindex : ∀ i, Step.index i ∈ steps → i ≤ Numeral.max64)
    (hlast : ∀ k, steps.getLast? = some (.key k) → ∀ c ∈ k.getLast?, Text.isBlank c = false) :
    select v (pointerOf steps) = .ok found := by
  cases steps with
  | nil =>
    cases h
    rfl
  | cons s r =>
    have hcons : pointerOf (s :: r) = '/' :: (part s ++ pointerOf r) := rfl
    have htrim : Text.trim (pointerOf (s :: r)) = pointerOf (s :: r) :=
      Text.trim_eq_self (by rw [hcons]; rintro c ⟨⟩; decide) (getLast?_pointerOf hlast)
    have hsplit := split_pointerOf (t := []) (by simp) (s :: r)
    rw [List.nil_append] at hsplit
    have hpointer : pointer (pointerOf (s :: r)) v = some found := by
      rw [pointer, hsplit]
      exact follow_of_reaches h hindex
    unfold select
    rw [htrim, hcons]
    simp only
    rw [← hcons, hpointer]

/-- A path with dots and brackets gives what its steps lead to, in whichever notations its names
are written, and does not match if they lead nowhere. The pointer of the steps gives the same. -/
theorem select_written {steps : List Step}
    (hindex : ∀ i, Step.index i ∈ steps → i ≤ Numeral.max64) (v : Json) :
    (∀ t, Spelling steps t →
      (∀ found, Reaches v steps found → select v ('$' :: t) = .ok found) ∧
      ((¬ ∃ found, Reaches v steps found) →
        select v ('$' :: t) = .error ⟨'$' :: t, .noMatch⟩)) ∧
    ((∀ k, steps.getLast? = some (.key k) → ∀ c ∈ k.getLast?, Text.isBlank c = false) →
      ∀ found, Reaches v steps found → select v (pointerOf steps) = .ok found) := by
  refine ⟨fun t ht => ⟨fun found hfound => ?_, fun hnone => ?_⟩, fun hlast found hfound => ?_⟩
  · rw [select_spelling ht hindex, walk_eq_some_iff.2 hfound]
  · have hwalk : walk steps v = none :=
      Option.eq_none_iff_forall_ne_some.2 fun found hw => hnone ⟨found, walk_eq_some_iff.1 hw⟩
    rw [select_spelling ht hindex, hwalk]
  · exact select_pointerOf hfound hindex hlast

/-- A name with a dot, a slash and brackets in it, and an index. -/
theorem select_written_quoted :
    let steps : List Step := [.key "a".toList, .key "x.[/]~".toList, .index 1]
    let v : Json := .object [("a".toList, .object [("x.[/]~".toList, .array [.null, .bool true])])]
    (∀ i, Step.index i ∈ steps → i ≤ Numeral.max64) ∧
      Spelling steps ".a['x.[/]~'][1]".toList ∧ Reaches v steps (.bool true) ∧
      select v "$.a['x.[/]~'][1]".toList = .ok (.bool true) ∧
      select v "/a/x.[~1]~0/1".toList = .ok (.bool true) := by
  intro steps v
  have hindex : ∀ i, Step.index i ∈ steps → i ≤ Numeral.max64 := by
    intro i hi
    simp only [steps, List.mem_cons, List.not_mem_nil, or_false, reduceCtorEq, false_or] at hi
    cases hi
    decide
  have hone : Numeral.decimal 1 = ['1'] := by simp [Numeral.decimal, Numeral.digits]; rfl
  have hitem : Spelling [.index 1] "[1]".toList := by
    have h := Spelling.index 1 .nil
    rwa [hone] at h
  have hspelling : Spelling steps ".a['x.[/]~'][1]".toList :=
    .dotted (k := ['a']) (by decide) (by decide) (by decide) (by decide)
      (.quoted (k := "x.[/]~".toList) (.inl rfl) (by decide) hitem)
  have hreaches : Reaches v steps (.bool true) := .key rfl (.key rfl (.index rfl (.here _)))
  obtain ⟨hwritten, hpointer⟩ := select_written hindex v
  have hlast : ∀ k, steps.getLast? = some (.key k) → ∀ c ∈ k.getLast?, Text.isBlank c = false := by
    intro k hk
    cases (show some (Step.index 1) = some (.key k) from hk)
  have hparts : pointerOf steps = "/a/x.[~1]~0/1".toList := by
    have happend : pointerOf steps = "/a/x.[~1]~0/".toList ++ (Numeral.decimal 1 ++ []) := rfl
    rw [happend, hone]
    rfl
  exact ⟨hindex, hspelling, hreaches, (hwritten _ hspelling).1 _ hreaches,
    hparts ▸ hpointer hlast _ hreaches⟩

end Json

end UploadTemplate
