import UploadTemplate.Proofs.Naming.Turns
import UploadTemplate.Proofs.Text.Pieces

/-!
# The vocabulary of names

The tokens of a namer with their values, in the order of their turns.

- `Namer.substitutions n s`: the tokens for the image, the date and the time, the counter, the user
  and the machine, with their values.
- `Namer.vocabulary n s`: these, and after them the random ones.
-/

namespace UploadTemplate

/-! ### Arguments -/

theorem Numeral.isAsciiDigit_of_read {limit : Nat} {t : Text} (h : (read limit t).isSome = true) :
    ∀ c ∈ t, c = '+' ∨ Text.isAsciiDigit c = true := by
  have hall {ds : Text} (h : (if ds.isEmpty || !ds.all Text.isAsciiDigit then none else
      if decimalValue ds ≤ limit then some (decimalValue ds) else none).isSome = true) :
      ∀ c ∈ ds, Text.isAsciiDigit c = true := by
    split at h
    · cases h
    · rename_i hn
      simp only [Bool.or_eq_true, Bool.not_eq_true', not_or, Bool.not_eq_false] at hn
      exact List.all_eq_true.1 hn.2
  unfold read at h
  split at h
  · exact List.forall_mem_cons.2 ⟨.inl rfl, fun c hc => .inr (hall h c hc)⟩
  · exact fun c hc => .inr (hall h c hc)

namespace Naming

/-- Numbers with commas are digits, signs, commas and blanks. -/
theorem not_mem_of_isNumberList {a : Text} (h : isNumberList a = true) {c : Char} (hcomma : c ≠ ',')
    (hplus : c ≠ '+') (hdigit : Text.isAsciiDigit c = false) (hblank : Text.isBlank c = false) :
    c ∉ a := by
  intro hm
  unfold isNumberList at h
  obtain ⟨-, h⟩ := Bool.and_eq_true_iff.1 h
  obtain ⟨piece, hp, hm⟩ := Text.mem_split hm hcomma
  have hr := List.all_eq_true.1 h piece hp
  rcases Numeral.isAsciiDigit_of_read hr c (Text.mem_trim hm hblank) with h | h
  · exact hplus h
  · rw [hdigit] at h
    cases h

theorem percent_not_mem_of_isNumberList {a : Text} (h : isNumberList a = true) : '%' ∉ a :=
  not_mem_of_isNumberList h (by decide) (by decide) (by decide) (by decide)

/-- A token without arguments. -/
def constant (token value : Text) : Substitution where
  text := token
  accepts := fun _ => false
  value := fun _ => .ok value

/-- A token with numbers as its arguments. -/
def numeric (token : Text) (value : List Nat → Except Error Text) : Substitution where
  text := token
  accepts := isNumberList
  value := fun a => value ((a.map numbersOf).getD [])

end Naming

namespace Namer

open Naming

theorem inBase_eq_ok_iff {number : Nat} {alphabet : Text} {arguments : List Nat} {t : Text} :
    inBase number alphabet arguments = .ok t ↔
      (2 ≤ arguments.getD 0 10 ∧ arguments.getD 0 10 ≤ alphabet.length) ∧
        t = numeral number (arguments.getD 0 10) alphabet (arguments.getD 1 0) := by
  simp only [inBase]
  split
  · rename_i hb
    refine ⟨nofun, fun h => ?_⟩
    omega
  · rename_i hb
    refine ⟨fun h => ?_, fun h => congrArg Except.ok h.2.symm⟩
    cases h
    exact ⟨by omega, rfl⟩

def counterSubstitutions (number : Nat) : List Substitution :=
  numeric "%ib" (inBase number alphanumericInverse) ::
    numeric "%iB" (inBase number alphanumeric) ::
    fixedBases.map fun (token, base, alphabet) =>
      numeric token fun arguments => .ok (numeral number base alphabet (arguments.getD 0 0))

/-- The tokens with values in the order of their turns. -/
def substitutions (n : Namer) (s : Shared) : List Substitution :=
  (n.imageValues ++ dateValues s).map (fun v => constant v.1 v.2) ++
    counterSubstitutions s.number ++ n.machineValues.map fun v => constant v.1 v.2

/-- The tokens that have their turns after those with values. -/
def randomNames : List Token :=
  randomTokens.map (fun v => ⟨v.1, isNumberList⟩) ++
    [⟨"%rf", fun _ => true⟩, ⟨"%GUID", fun _ => false⟩, ⟨"%guid", fun _ => false⟩]

def counterTokens : List Text :=
  ["%ib", "%iB", "%iAa", "%iaA", "%ia", "%iA", "%ix", "%iX", "%i"]

def randomTexts : List Text := ["%rna", "%rn", "%ra", "%rx", "%rX", "%rf", "%GUID", "%guid"]

/-- The texts of all tokens in the order of their turns. -/
def tokenTexts (newLine : Bool) : List Text :=
  sizeTokens ++ dateTokens ++ counterTokens ++
    (if newLine then machineTokens else machineTokens.dropLast) ++ randomTexts

theorem map_text (n : Namer) (s : Shared) :
    texts ((n.substitutions s).map (·.toToken) ++ randomNames) =
      tokenTexts (decide (n.kind = .text)) := by
  unfold substitutions machineValues
  by_cases h : n.kind = .text
  · simp only [h, if_true]
    rfl
  · simp only [h, if_false]
    rfl

theorem shape_tokenTexts (b : Bool) : ∀ t ∈ tokenTexts b,
    t.head? = some '%' ∧ '%' ∉ t.tail ∧ '\x7b' ∉ t := by
  cases b <;> decide

theorem order_tokenTexts (b : Bool) : (tokenTexts b).Pairwise fun a b => ¬ a <+: b := by
  cases b <;> decide

theorem accepts_substitutions {n : Namer} {s : Shared} {v : Substitution}
    (h : v ∈ n.substitutions s) : v.accepts = (fun _ => false) ∨ v.accepts = isNumberList := by
  rcases List.mem_append.1 h with h | h
  · rcases List.mem_append.1 h with h | h
    · obtain ⟨_, -, rfl⟩ := List.mem_map.1 h
      exact .inl rfl
    · refine .inr ?_
      rcases List.mem_cons.1 h with rfl | h
      · rfl
      rcases List.mem_cons.1 h with rfl | h
      · rfl
      · obtain ⟨_, -, rfl⟩ := List.mem_map.1 h
        rfl
  · obtain ⟨_, -, rfl⟩ := List.mem_map.1 h
    exact .inl rfl

def vocabulary (n : Namer) (s : Shared) : Vocabulary where
  substitutions := n.substitutions s
  later := randomNames
  shape k hk := by
    have hmem : k.text ∈ texts ((n.substitutions s).map (·.toToken) ++ randomNames) :=
      List.mem_map_of_mem hk
    rw [map_text] at hmem
    exact shape_tokenTexts _ k.text hmem
  order := by
    have horder := order_tokenTexts (decide (n.kind = .text))
    rw [← n.map_text s] at horder
    exact List.pairwise_map.1 horder
  arguments v hv a ha := by
    rcases accepts_substitutions hv with h | h <;> rw [h] at ha
    · cases ha
    · exact percent_not_mem_of_isNumberList ha

end Namer

end UploadTemplate
