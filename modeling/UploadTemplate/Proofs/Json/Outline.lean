import UploadTemplate.Json.Scan

/-!
# The outline of a JSON text

What the grammar of JSON sees of a text are the kinds of its tokens. They do not depend on the
contents of string literals, so two texts that differ there alone are both well formed or both not.

- `Json.WellFormed t`: the tokens of `t` are tokens of JSON, and their kinds make up a value.
- `Scan.run_outline`: states with the same outline go on to states with the same outline.
-/

namespace UploadTemplate.Json

/-! ### Well-formed texts -/

/-- What the grammar sees of a token. Words and numbers are alike to it. -/
inductive Kind where
  | beginArray
  | endArray
  | beginObject
  | endObject
  | comma
  | colon
  | scalar
  | string
  deriving DecidableEq, Repr

/-- The kind of a token of JSON. A number that no double can hold is a number all the same. -/
def Token.kind? : Token → Option Kind
  | .beginArray => some .beginArray
  | .endArray => some .endArray
  | .beginObject => some .beginObject
  | .endObject => some .endObject
  | .comma => some .comma
  | .colon => some .colon
  | .null | .bool _ | .number _ => some .scalar
  | .string _ => some .string
  | .broken ⟨.numberOutOfRange, _⟩ _ => some .scalar
  | .broken .. | .unknown => none

mutual

/-- The kinds of the tokens of a value. -/
inductive IsValue : List Kind → Prop where
  | scalar : IsValue [.scalar]
  | string : IsValue [.string]
  | emptyArray : IsValue [.beginArray, .endArray]
  | array {ks : List Kind} : IsItems ks → IsValue (.beginArray :: ks ++ [.endArray])
  | emptyObject : IsValue [.beginObject, .endObject]
  | object {ks : List Kind} : IsMembers ks → IsValue (.beginObject :: ks ++ [.endObject])

/-- One or more values with commas between them. -/
inductive IsItems : List Kind → Prop where
  | last {ks : List Kind} : IsValue ks → IsItems ks
  | more {ks ls : List Kind} : IsValue ks → IsItems ls → IsItems (ks ++ .comma :: ls)

/-- One or more members with commas between them. -/
inductive IsMembers : List Kind → Prop where
  | last {ks : List Kind} : IsValue ks → IsMembers (.string :: .colon :: ks)
  | more {ks ls : List Kind} : IsValue ks → IsMembers ls →
      IsMembers (.string :: .colon :: ks ++ .comma :: ls)

end

/-- The kinds of some tokens, `none` in the place of what is no token of JSON. -/
def kinds (ls : List Lexeme) : List (Option Kind) := ls.map fun l => l.token.kind?

theorem kinds_append (a b : List Lexeme) : kinds (a ++ b) = kinds a ++ kinds b := by
  simp [kinds]

/-- A text that the grammar of JSON derives. Unlike the reader, the grammar sets no limit to the
depth of a value nor to its numbers. -/
def WellFormed (t : Text) : Prop := ∃ ks, kinds (tokens t).1 = ks.map some ∧ IsValue ks

theorem WellFormed.kind_isSome {t : Text} (h : WellFormed t) : none ∉ kinds (tokens t).1 := by
  obtain ⟨ks, hk, _⟩ := h
  simp [hk]

/-! ### Outlines -/

/-- A state without the contents of the string or number that is being read. -/
def Inside.outline : Inside → Inside
  | .blank => .blank
  | .word token left => .word token left
  | .number phase _ => .number phase []
  | .string _ => .string []
  | .escape _ => .escape []
  | .unicode _ high value left => .unicode [] high value left
  | .lowEscape _ high => .lowEscape [] high
  | .lowUnicode _ high => .lowUnicode [] high
  | .stopped => .stopped

theorem Inside.outline_string {chars : Text} {i : Inside}
    (h : (Inside.string chars).outline = i.outline) :
    ∃ chars', i = .string chars' := by
  cases i <;> cases h
  exact ⟨_, rfl⟩

namespace Scan

theorem kind_numberToken (seen : Position) (chars : Text) :
    (numberToken seen chars).kind? = some .scalar := by
  unfold numberToken
  split <;> rfl

theorem afterUnicode_outline (chars chars' : Text) (high : Option Nat) (n : Nat) :
    (afterUnicode chars high n).map Inside.outline =
      (afterUnicode chars' high n).map Inside.outline := by
  unfold afterUnicode
  split
  · split
    · rfl
    · split <;> rfl
  · split <;> rfl

/-- The outline of the next state, and the kinds of what is given out, depend on the outline. -/
theorem step_outline {s s' : Scan} (h : s.inside.outline = s'.inside.outline) (c : Char) :
    (s.step c).1.inside.outline = (s'.step c).1.inside.outline ∧
      kinds (s.step c).2 = kinds (s'.step c).2 := by
  obtain ⟨i, p, q⟩ := s
  obtain ⟨i', p', q'⟩ := s'
  simp only at h
  cases i <;> cases i' <;> cases h <;> simp only [step]
  case blank.blank.refl => rcases opening c with ⟨i, _ | t⟩ <;> simp [kinds]
  case word.word.refl token left =>
    rcases left with _ | ⟨d, left⟩
    · exact ⟨rfl, rfl⟩
    · by_cases hc : c = d
      · rcases left with _ | ⟨e, left⟩ <;> simp [hc, kinds, Inside.outline]
      · simp [hc, kinds, Token.kind?]
  case number.number.refl phase chars chars' =>
    rcases phase.next? c with _ | next
    · simp only
      split
      · rcases opening c with ⟨i, _ | t⟩ <;> simp [kinds, kind_numberToken]
      · exact ⟨rfl, rfl⟩
    · exact ⟨rfl, rfl⟩
  case string.string.refl chars chars' =>
    split
    · exact ⟨rfl, rfl⟩
    · split
      · exact ⟨rfl, rfl⟩
      · split <;> exact ⟨rfl, rfl⟩
  case escape.escape.refl chars chars' =>
    split
    · exact ⟨rfl, rfl⟩
    · rcases escaped c with _ | d <;> exact ⟨rfl, rfl⟩
  case unicode.unicode.refl chars high value left chars' =>
    split
    · exact ⟨rfl, rfl⟩
    · split
      · exact ⟨rfl, rfl⟩
      · rename_i n _
        have ha := afterUnicode_outline chars chars' high n
        rcases h1 : afterUnicode chars high n with e | i <;>
          rcases h2 : afterUnicode chars' high n with e' | i' <;> rw [h1, h2] at ha
        · cases ha
          cases e <;> exact ⟨rfl, rfl⟩
        · cases ha
        · cases ha
        · exact ⟨Except.ok.inj ha, rfl⟩
  case lowEscape.lowEscape.refl => split <;> simp [kinds, Token.kind?, Inside.outline]
  case lowUnicode.lowUnicode.refl => split <;> simp [kinds, Token.kind?, Inside.outline]
  case stopped.stopped.refl => simp

theorem run_outline {s s' : Scan} (h : s.inside.outline = s'.inside.outline) (t : Text) :
    (s.run t).1.inside.outline = (s'.run t).1.inside.outline ∧
      kinds (s.run t).2 = kinds (s'.run t).2 := by
  induction t generalizing s s' with
  | nil => exact ⟨h, rfl⟩
  | cons c t ih =>
    have h1 := step_outline h c
    have h2 := ih h1.1
    exact ⟨h2.1, by simp only [run, kinds_append, h1.2, h2.2]⟩

theorem atEnd_outline {s s' : Scan} (h : s.inside.outline = s'.inside.outline) :
    kinds s.atEnd = kinds s'.atEnd := by
  obtain ⟨i, p, q⟩ := s
  obtain ⟨i', p', q'⟩ := s'
  simp only at h
  cases i <;> cases i' <;> cases h <;> simp only [atEnd]
  case number.number.refl phase chars chars' =>
    split
    · simp [kinds, kind_numberToken]
    · rfl
  all_goals rfl

end Scan

end UploadTemplate.Json
