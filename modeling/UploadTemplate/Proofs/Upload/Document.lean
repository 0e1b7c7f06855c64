import UploadTemplate.Proofs.Json.Slots
import UploadTemplate.Proofs.Template.Dollar
import UploadTemplate.Upload.Compiler

/-!
# Documents with slots

An older JSON document has slots for the input and for the file name, written between dollar signs.
In marks its braces and bars get a backslash each, and nothing takes it away again when the slots
are filled.

- `Slot.at?`: finds a slot in marks.
- `Slots.escaped p`: the document with these backslashes.
- `toMarks_dollars`, `inlinePatterns_marked`: what migration makes of the document.
- `fill_marked`: what is sent for it.
- `wellFormed_filled_escaped`: when that is well formed.
-/

namespace UploadTemplate

/-- A place for what is sent. -/
inductive Slot where
  | input
  | fileName
  deriving DecidableEq, Repr

namespace Slot

def name : Slot → Text
  | input => "input"
  | fileName => "filename"

/-- The slot in an older document. -/
def dollars (s : Slot) : Text := '$' :: s.name ++ ['$']

/-- The slot in a document with marks. -/
def marked (s : Slot) : Text := Compiler.bareCall .standard s.name

/-- What stands in the slot of a JSON text that is sent. -/
def value (context : Context) : Slot → Text
  | input => Json.Quoted.encode (context.input.getD [])
  | fileName => Json.Quoted.encode (context.fileName.getD [])

theorem name_isAsciiLetter (s : Slot) : ∀ c ∈ s.name, Text.isAsciiLetter c = true := by
  have h : s.name.all Text.isAsciiLetter = true := by cases s <;> rfl
  exact List.all_eq_true.1 h

/-- The slot in a document with any marks. -/
def called (m : Marks) (s : Slot) : Text := Compiler.bareCall m s.name

/-- Finds a slot among any marks. -/
def find (m : Marks) : Text.Finder Slot := fun t =>
  if (input.called m).isPrefixOf t then some (input, (input.called m).length)
  else if (fileName.called m).isPrefixOf t then some (fileName, (fileName.called m).length)
  else none

theorem called_of_find {m : Marks} {t : Text} {s : Slot} {n : Nat} (h : find m t = some (s, n)) :
    s.called m <+: t ∧ n = (s.called m).length := by
  unfold find at h
  split at h
  · cases h
    exact ⟨List.isPrefixOf_iff_prefix.1 ‹_›, rfl⟩
  · split at h
    · cases h
      exact ⟨List.isPrefixOf_iff_prefix.1 ‹_›, rfl⟩
    · cases h

/-- Finds a slot. -/
def at? : Text.Finder Slot := fun t =>
  if input.marked.isPrefixOf t then some (input, input.marked.length)
  else if fileName.marked.isPrefixOf t then some (fileName, fileName.marked.length)
  else none

theorem marked_of_at? {t : Text} {s : Slot} {n : Nat} (h : at? t = some (s, n)) :
    s.marked <+: t ∧ n = s.marked.length :=
  called_of_find (m := .standard) h

theorem at?_marked (s : Slot) (r : Text) : at? (s.marked ++ r) = some (s, s.marked.length) := by
  cases s <;> rfl

theorem at?_eq_none {t : Text} (h : ∀ s : Slot, ¬ s.marked <+: t) : at? t = none := by
  rcases ha : at? t with _ | ⟨s, n⟩
  · rfl
  · exact absurd (marked_of_at? ha).1 (h s)

end Slot

theorem Compiler.fill_eq_refill (m : Marks) (context : Context) (t : Text) :
    fill m .json context t = Text.refill (Slot.value context) (Text.cut (Slot.find m) t) := by
  have hfind : placeholderAt m (Encoding.json.apply (context.input.getD []))
      (Encoding.json.apply (context.fileName.getD [])) =
      fun t => (Slot.find m t).map fun p => (p.1.value context, p.2) := by
    funext t
    have hinput : bareCall m "input" = Slot.input.called m := rfl
    have hfile : bareCall m "filename" = Slot.fileName.called m := rfl
    unfold placeholderAt Slot.find
    simp only [hinput, hfile]
    split
    · rfl
    · split <;> rfl
  unfold fill
  rw [hfind, Text.refill_cut_map]

theorem Compiler.fill_json (context : Context) (t : Text) :
    fill .standard .json context t = Text.refill (Slot.value context) (Text.cut Slot.at? t) :=
  fill_eq_refill .standard context t

/-- A document as its characters and its slots. -/
abbrev Slots := List (Text.Fragment Slot)

namespace Slots

/-- The braces and the bar: what gets a backslash in marks. -/
def isEscaped (c : Char) : Bool := c = '\x7b' || c = '\x7d' || c = '|'

/-- The document with a backslash before each of its braces and bars. -/
def escaped : Slots → Slots
  | [] => []
  | .char c :: p => if isEscaped c then .char '\\' :: .char c :: escaped p else .char c :: escaped p
  | .found s :: p => .found s :: escaped p

/-- The document with its slots filled. -/
def filled (context : Context) (p : Slots) : Text := Text.refill (Slot.value context) p

/-- The document in marks. -/
def marked (p : Slots) : Text := Text.refill Slot.marked p.escaped

/-- A document without dollar signs and backslashes outside its slots. -/
def IsOld (p : Slots) : Prop := ∀ c, .char c ∈ p → c ≠ '$' ∧ c ≠ '\\'

theorem IsOld.tail {part : Text.Fragment Slot} {p : Slots} (h : IsOld (part :: p)) : IsOld p :=
  fun c hc => h c (List.mem_cons_of_mem part hc)

theorem isEscaped_iff {c : Char} (h : c ≠ '\\') :
    (Marks.standard.isSpecial c = true ∧ c ≠ Marks.standard.argument) ↔ isEscaped c = true := by
  by_cases hc : c = ':'
  · subst hc
    decide
  · simp only [Marks.isSpecial, isEscaped, Bool.or_eq_true, decide_eq_true_eq]
    simp [Marks.standard, h, hc]

theorem literal_eq {c : Char} (h : c ≠ '\\') :
    Dollar.literal .standard c = if isEscaped c then ['\\', c] else [c] := by
  unfold Dollar.literal
  simp only [isEscaped_iff h]
  rfl

theorem marked_char (c : Char) (p : Slots) :
    marked (.char c :: p) = (if isEscaped c then ['\\', c] else [c]) ++ p.marked := by
  rw [marked, escaped]
  split <;> rfl

theorem marked_found (s : Slot) (p : Slots) :
    marked (.found s :: p) = '\x7b' :: (s.name ++ '\x7d' :: p.marked) := by
  rw [marked, escaped, Text.refill_found, ← marked]
  simp [Slot.marked, Compiler.bareCall, Marks.standard]

/-! ### Migration -/

theorem toMarksFrom_name (s : Slot) (inCall : Bool) (r : Text) :
    Dollar.toMarksFrom .standard inCall (s.name ++ r) =
      s.name ++ Dollar.toMarksFrom .standard inCall r := by
  have hq : Dollar.Quoted Dollar.specialInside s.name s.name := by
    cases s <;> repeat' (first | exact .nil | refine .plain (by decide) ?_)
  rw [Dollar.toMarksFrom_quoted hq (by decide) fun _ => by decide]
  congr 1
  cases s <;> decide

theorem toMarks_dollars {p : Slots} (h : p.IsOld) :
    Dollar.toMarks .standard (Text.refill Slot.dollars p) = p.marked := by
  unfold Dollar.toMarks
  induction p with
  | nil => rfl
  | cons part p ih =>
    have ih := ih h.tail
    cases part with
    | char c =>
      obtain ⟨hd, hb⟩ := h c List.mem_cons_self
      have hq : Dollar.Quoted Dollar.specialOutside [c] [c] :=
        .plain (by simp [Dollar.specialOutside, hd, hb]) .nil
      have hc : ∀ r, Dollar.toMarksFrom .standard false ([c] ++ r) =
          [c].flatMap (Dollar.literal .standard) ++ Dollar.toMarksFrom .standard false r :=
        Dollar.toMarksFrom_quoted hq (by decide) (by decide)
      rw [Text.refill_char, ← List.singleton_append, hc, ih, List.flatMap_singleton,
        literal_eq hb, marked_char]
    | found s =>
      have hs : Slot.dollars s ++ Text.refill Slot.dollars p =
          '$' :: (s.name ++ '$' :: Text.refill Slot.dollars p) := by
        simp [Slot.dollars]
      rw [Text.refill_found, hs, Dollar.toMarksFrom_dollar, toMarksFrom_name,
        Dollar.toMarksFrom_dollar, Bool.not_not, ih, marked_found]
      rfl

/-- A brace or a bar of the marked document has a backslash before it, or the slot it closes. -/
theorem not_prefix_marked {p : Slots} (h : p.IsOld) {w : Text}
    (hw : ∀ c ∈ w, c ≠ '\\' ∧ c ≠ '\x7b') {d : Char} (hd : d = '\x7d' ∨ d = '|') :
    ¬ (w ++ [d]) <+: p.marked := by
  have hd1 : d ≠ '\\' := by rcases hd with rfl | rfl <;> decide
  have hd2 : d ≠ '\x7b' := by rcases hd with rfl | rfl <;> decide
  have hde : isEscaped d = true := by rcases hd with rfl | rfl <;> decide
  -- No character of the word can be the backslash or the brace at which the next one may stand.
  have hc : ∀ c ∈ w ++ [d], c ≠ '\\' ∧ c ≠ '\x7b' := by
    intro c hc
    rcases List.mem_append.1 hc with hc | hc
    · exact hw c hc
    · rw [List.mem_singleton.1 hc]
      exact ⟨hd1, hd2⟩
  induction p generalizing w with
  | nil => simp [marked, escaped, Text.refill]
  | cons part p ih =>
    intro hp
    obtain ⟨a, r, har⟩ := List.exists_cons_of_ne_nil (List.append_ne_nil_of_right_ne_nil w
      (List.cons_ne_nil d []))
    have ha := hc a (har ▸ List.mem_cons_self)
    cases part with
    | char c =>
      rw [marked_char] at hp
      split at hp
      · rw [har] at hp
        exact ha.1 (List.cons_prefix_cons.1 hp).1
      · rename_i he
        rcases w with _ | ⟨b, w⟩
        · exact he ((List.cons_prefix_cons.1 hp).1 ▸ hde)
        · exact ih h.tail (fun c hm => hw c (List.mem_cons_of_mem b hm))
            (fun c hm => hc c (List.mem_cons_of_mem b hm)) (List.cons_prefix_cons.1 hp).2
    | found s =>
      rw [har] at hp
      exact ha.2 (List.cons_prefix_cons.1 hp).1

/-- Where a brace opens in the marked document, the document or one of its slots goes on. -/
theorem marked_eq_append {p : Slots} (h : p.IsOld) {u v : Text}
    (hv : p.marked = u ++ '\x7b' :: v) :
    ∃ q : Slots, q.IsOld ∧ (v = q.marked ∨ ∃ s : Slot, v = s.name ++ '\x7d' :: q.marked) := by
  induction p generalizing u with
  | nil => simp [marked, escaped, Text.refill] at hv
  | cons part p ih =>
    cases part with
    | char c =>
      rw [marked_char] at hv
      split at hv
      · rcases u with _ | ⟨a, _ | ⟨b, u⟩⟩
        · cases hv
        · exact ⟨p, h.tail, .inl (List.cons.inj (List.cons.inj hv).2).2.symm⟩
        · exact ih h.tail (List.cons.inj (List.cons.inj hv).2).2
      · rename_i he
        rcases u with _ | ⟨a, u⟩
        · exact absurd ((List.cons.inj hv).1 ▸ rfl) he
        · exact ih h.tail (List.cons.inj hv).2
    | found s =>
      rw [marked_found] at hv
      rcases u with _ | ⟨a, u⟩
      · exact ⟨p, h.tail, .inr ⟨s, (List.cons.inj hv).2.symm⟩⟩
      · have hu : (s.name ++ ['\x7d']) ++ marked p = u ++ '\x7b' :: v := by
          rw [List.append_assoc]
          exact (List.cons.inj hv).2
        have hn : '\x7b' ∉ s.name ++ ['\x7d'] := by cases s <;> decide
        rcases List.append_eq_append_iff.1 hu with ⟨w, -, hw⟩ | ⟨_ | ⟨c, w⟩, hw, hr⟩
        · exact ih h.tail hw
        · exact ih h.tail (u := []) hr.symm
        · rw [hw, (List.cons.inj hr).1] at hn
          simp at hn

/-- The number of a pattern ends at a brace or a bar, so no call of the marked document has one. -/
theorem referenceAt_marked {p : Slots} (h : p.IsOld) (patterns : List Text) {u v a : Text}
    {n : Nat} (hv : p.marked = u ++ v)
    (hr : Dollar.referenceAt .standard patterns v = some (a, n)) :
    0 < n ∧ a = v.take n := by
  unfold Dollar.referenceAt at hr
  simp only at hr
  split at hr
  case isFalse => cases hr
  rename_i hcall
  obtain ⟨w, rfl⟩ := List.isPrefixOf_iff_prefix.1 hcall
  rw [List.drop_left] at hr
  split at hr
  case h_2 =>
    cases hr
    exact ⟨by decide, List.take_left.symm⟩
  rename_i pattern hpattern
  exfalso
  split at hpattern
  case isFalse => cases hpattern
  rename_i hends
  obtain ⟨d, hd, hends⟩ := (Option.any_eq_true _ _).1 hends
  obtain ⟨r, hr⟩ := List.head?_eq_some_iff.1 hd
  have hd : d = '\x7d' ∨ d = '|' := by
    simp only [Bool.or_eq_true, decide_eq_true_eq] at hends
    exact hends.symm
  have hw : w = w.takeWhile Text.isAsciiDigit ++ d :: r := by
    rw [← hr, List.takeWhile_append_dropWhile]
  obtain ⟨q, hq, hm⟩ := marked_eq_append h (u := u) (v := "regex:".toList ++ w) hv
  rcases hm with hm | ⟨s, hs⟩
  · refine not_prefix_marked hq (w := "regex:".toList ++ w.takeWhile Text.isAsciiDigit) ?_ hd ?_
    · intro c hc
      rcases List.mem_append.1 hc with hc | hc
      · have hall : "regex:".toList.all (fun c => c != '\\' && c != '\x7b') = true := rfl
        simpa using List.all_eq_true.1 hall c hc
      · have hc := List.all_eq_true.1 List.all_takeWhile c hc
        constructor <;> rintro rfl <;> cases hc
    · refine ⟨r, ?_⟩
      rw [← hm, List.append_assoc, List.append_assoc, List.singleton_append, ← hw]
  · cases s <;> cases (List.cons.inj hs).1

theorem inlinePatterns_marked {p : Slots} (h : p.IsOld) (patterns : List Text) :
    Dollar.inlinePatterns .standard patterns p.marked = p.marked := by
  unfold Dollar.inlinePatterns
  refine Text.refill_cut_eq_self fun u v a n hv hr => ?_
  exact referenceAt_marked h patterns hv hr

theorem percent_not_mem_marked {p : Slots} (h : ∀ c, .char c ∈ p → c ≠ '%') :
    '%' ∉ p.marked := by
  induction p with
  | nil => simp [marked, escaped, Text.refill]
  | cons part p ih =>
    have ih := ih fun c hc => h c (List.mem_cons_of_mem part hc)
    cases part with
    | char c =>
      have hc : '%' ≠ c := fun e => h c List.mem_cons_self e.symm
      rw [marked_char]
      split <;> simp [hc, ih]
    | found s =>
      have hs : '%' ∉ s.name := by cases s <;> decide
      simp [marked_found, hs, ih]

/-! ### Filling -/

theorem at?_of_ne {c : Char} {r : Text} (h : c ≠ '\x7b') : Slot.at? (c :: r) = none :=
  Slot.at?_eq_none fun _ hp => h (List.cons_prefix_cons.1 hp).1.symm

theorem at?_brace {p : Slots} (h : p.IsOld) : Slot.at? ('\x7b' :: p.marked) = none := by
  refine Slot.at?_eq_none fun s hp => ?_
  have hs : ∀ c ∈ s.name, c ≠ '\\' ∧ c ≠ '\x7b' := by
    intro c hc
    have hl := s.name_isAsciiLetter c hc
    constructor <;> rintro rfl <;> cases hl
  have hp : s.name ++ ['\x7d'] <+: p.marked := (List.cons_prefix_cons.1 hp).2
  exact not_prefix_marked h hs (.inl rfl) hp

/-- The slots of the marked document are found in it, and nothing else. -/
theorem cut_marked {p : Slots} (h : p.IsOld) : Text.cut Slot.at? p.marked = p.escaped := by
  induction p with
  | nil => rfl
  | cons part p ih =>
    have ih := ih h.tail
    cases part with
    | char c =>
      rw [marked, escaped]
      split
      · have hescape : Slot.at? ('\\' :: c :: marked p) = none := at?_of_ne (by decide)
        rw [Text.refill_char, Text.refill_char, ← marked, Text.cut_none hescape, Text.cut_none, ih]
        by_cases hc : c = '\x7b'
        · rw [hc]
          exact at?_brace h.tail
        · exact at?_of_ne hc
      · rename_i he
        rw [Text.refill_char, ← marked, Text.cut_none, ih]
        refine at?_of_ne ?_
        rintro rfl
        exact he rfl
    | found s =>
      have hs : s.marked ≠ [] := List.cons_ne_nil _ _
      rw [marked, escaped, Text.refill_found, ← marked, Text.cut_found hs (Slot.at?_marked s _), ih]

/-- What is sent for the marked document. -/
theorem fill_marked {p : Slots} (h : p.IsOld) (context : Context) :
    Compiler.fill .standard .json context p.marked = p.escaped.filled context := by
  rw [Compiler.fill_json, cut_marked h]
  rfl

/-! ### What is sent -/

/-- A document without braces and bars outside its slots. -/
def IsUnmarked (p : Slots) : Prop := ∀ c, .char c ∈ p → isEscaped c = false

theorem IsUnmarked.escaped {p : Slots} (h : p.IsUnmarked) : p.escaped = p := by
  induction p with
  | nil => rfl
  | cons part p ih =>
    have ih := ih fun c hc => h c (List.mem_cons_of_mem part hc)
    cases part with
    | char c =>
      rw [Slots.escaped, h c List.mem_cons_self, ih]
      rfl
    | found s => rw [Slots.escaped, ih]

/-- The first brace or bar of a document. -/
theorem exists_of_not_isUnmarked {p : Slots} (h : ¬ p.IsUnmarked) :
    ∃ (q : Slots) (c : Char) (r : Slots), p = q ++ .char c :: r ∧ isEscaped c = true ∧
      p.escaped = q ++ .char '\\' :: .char c :: r.escaped := by
  induction p with
  | nil => exact absurd (fun c hc => by cases hc) h
  | cons part p ih =>
    by_cases hp : ∃ c, part = .char c ∧ isEscaped c = true
    · obtain ⟨c, rfl, hc⟩ := hp
      exact ⟨[], c, p, rfl, hc, by rw [escaped, if_pos hc]; rfl⟩
    · have hrest : ¬ IsUnmarked p := by
        refine fun hu => h fun c hc => ?_
        rcases List.mem_cons.1 hc with hc | hc
        · exact Bool.eq_false_iff.2 fun he => hp ⟨c, hc.symm, he⟩
        · exact hu c hc
      obtain ⟨q, c, r, hq, hc, he⟩ := ih hrest
      refine ⟨part :: q, c, r, by rw [hq]; rfl, hc, ?_⟩
      cases part with
      | char d =>
        rw [escaped, if_neg fun hd => hp ⟨d, rfl, hd⟩, he]
        rfl
      | found s =>
        rw [escaped, he]
        rfl

theorem filled_escaped_eq_iff (context : Context) (p : Slots) :
    p.escaped.filled context = p.filled context ↔ p.IsUnmarked := by
  refine ⟨fun h => Classical.byContradiction fun hu => ?_, fun h => by rw [h.escaped]⟩
  obtain ⟨q, c, r, hq, hc, he⟩ := exists_of_not_isUnmarked hu
  rw [he, hq, filled, filled, Text.refill_append, Text.refill_append] at h
  have h := List.append_cancel_left h
  rw [Text.refill_char, Text.refill_char] at h
  rw [← (List.cons.inj h).1] at hc
  cases hc

theorem staysInside_dollars (s : Slot) : Json.Scan.StaysInside s.dollars := by
  have hall : s.dollars.all (fun c => decide (c ≠ '"' ∧ c ≠ '\\' ∧ 32 ≤ c.toNat)) = true := by
    cases s <;> rfl
  exact (Json.Scan.spells_self fun c hc =>
    of_decide_eq_true (List.all_eq_true.1 hall c hc)).staysInside

/-- The text that is sent is well formed if it needed no backslash. -/
theorem wellFormed_filled_escaped {p : Slots} (h : p.IsOld)
    (hw : Json.WellFormed (Text.refill Slot.dollars p)) (context : Context) :
    Json.WellFormed (p.escaped.filled context) ↔ p.IsUnmarked := by
  have hf : ∀ s, (Slot.dollars s).head? = some '$' := fun _ => rfl
  have hg : ∀ s, Json.Scan.StaysInside (Slot.value context s) := fun s => by
    cases s <;> exact (Json.Scan.spells_encode _).staysInside
  constructor
  · refine fun he => Classical.byContradiction fun hu => ?_
    obtain ⟨q, c, r, hq, hc, hesc⟩ := exists_of_not_isUnmarked hu
    rw [hq, Text.refill_append] at hw
    rw [hesc, filled, Text.refill_append, Text.refill_char, Text.refill_char] at he
    have hb : ∀ d, .char d ∈ q → d ≠ '\\' := fun d hd =>
      (h d (hq ▸ List.mem_append_left _ hd)).2
    have hc : c ≠ 'u' ∧ Json.Scan.escaped c = none := by
      simp only [isEscaped, Bool.or_eq_true, decide_eq_true_eq] at hc
      rcases hc with (rfl | rfl) | rfl <;> decide
    exact Json.Scan.not_wellFormed_of_escape hf staysInside_dollars hg hb hw hc.1 hc.2 he
  · intro hu
    rw [hu.escaped]
    exact Json.Scan.wellFormed_refill hf staysInside_dollars hg (fun c hc => (h c hc).2) hw

end Slots

end UploadTemplate
