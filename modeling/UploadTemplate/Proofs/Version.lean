import Mathlib.Data.List.TakeDrop
import UploadTemplate.Proofs.Text.Pieces
import UploadTemplate.Version

/-!
# Versions in order

Versions are in a total preorder. Filled up with zeros to a common length they are compared as lists
of numbers are, so what a version may be called does not matter: text that is no number is a zero.
What holds of all versions up to a limit therefore holds of every version before one of them.

- `Version.compareParts_eq_compare`: comparing lists of numbers that are filled up.
- `Version.parts_append_zero`: one more zero at the end.
- `Version.isAtMost_lastWithDollars`: where responses have kinds, calls stand between dollar signs.
- `Version.isOutdated_of_isAtMost`: destinations with such calls are outdated.
- `Version.compare_preorder`: the order of versions, and what it means for their limits.
-/

namespace UploadTemplate.Version

/-! ### Numbers -/

/-- The first numbers decide, and then those behind them; missing ones are zero. -/
theorem compareParts_eq_then (as bs : List Nat) :
    compareParts as bs =
      (Ord.compare (as.headD 0) (bs.headD 0)).then (compareParts as.tail bs.tail) := by
  cases as with
  | nil =>
    cases bs with
    | nil => decide
    | cons b bs =>
      rcases Nat.eq_zero_or_pos b with rfl | hb
      · simp [compareParts]
      · simp [compareParts, Nat.compare_eq_lt.2 hb, Nat.ne_of_gt hb]
  | cons a as =>
    cases bs with
    | nil =>
      rcases Nat.eq_zero_or_pos a with rfl | ha
      · cases as <;> simp [compareParts]
      · simp [compareParts, Nat.compare_eq_gt.2 ha, Nat.ne_of_gt ha]
    | cons b bs => rfl

/-- Filled up with zeros to one length, the numbers of versions are compared as lists are. -/
theorem compareParts_eq_compare {n : Nat} {as bs : List Nat} (ha : as.length ≤ n)
    (hb : bs.length ≤ n) : compareParts as bs = Ord.compare (as.takeD n 0) (bs.takeD n 0) := by
  induction n generalizing as bs with
  | zero =>
    rw [List.eq_nil_of_length_eq_zero (Nat.le_zero.1 ha),
      List.eq_nil_of_length_eq_zero (Nat.le_zero.1 hb)]
    decide
  | succ n ih =>
    have ha' : as.tail.length ≤ n := by rw [List.length_tail]; omega
    have hb' : bs.tail.length ≤ n := by rw [List.length_tail]; omega
    rw [compareParts_eq_then, ih ha' hb', List.takeD, List.takeD, List.compare_cons_cons]

instance : Std.TransCmp compareParts where
  eq_swap {as bs} := by
    have ha : as.length ≤ max as.length bs.length := Nat.le_max_left _ _
    have hb : bs.length ≤ max as.length bs.length := Nat.le_max_right _ _
    rw [compareParts_eq_compare ha hb, compareParts_eq_compare hb ha]
    exact Std.OrientedOrd.eq_swap
  isLE_trans {as bs cs} hab hbc := by
    -- One length for all three, so that it is the transitivity of lists.
    obtain ⟨n, ha, hb, hc⟩ : ∃ n, as.length ≤ n ∧ bs.length ≤ n ∧ cs.length ≤ n :=
      ⟨as.length + bs.length + cs.length, by omega, by omega, by omega⟩
    rw [compareParts_eq_compare ha hb] at hab
    rw [compareParts_eq_compare hb hc] at hbc
    rw [compareParts_eq_compare ha hc]
    exact Std.TransCmp.isLE_trans hab hbc

theorem takeD_append_zeros (as : List Nat) (k n : Nat) :
    (as ++ List.replicate k 0).takeD n 0 = as.takeD n 0 := by
  induction n generalizing as k with
  | zero => rfl
  | succ n ih =>
    cases as with
    | nil =>
      cases k with
      | zero => rfl
      | succ k => exact congrArg (0 :: ·) (ih [] k)
    | cons a as => exact congrArg (a :: ·) (ih as k)

theorem compareParts_append_zeros (as bs : List Nat) (j k : Nat) :
    compareParts (as ++ List.replicate j 0) (bs ++ List.replicate k 0) = compareParts as bs := by
  obtain ⟨n, ha, hb⟩ : ∃ n, as.length + j ≤ n ∧ bs.length + k ≤ n :=
    ⟨as.length + j + (bs.length + k), by omega, by omega⟩
  rw [compareParts_eq_compare (n := n) (by simpa using ha) (by simpa using hb),
    takeD_append_zeros, takeD_append_zeros,
    ← compareParts_eq_compare (n := n) (by omega) (by omega)]

/-! ### Texts -/

/-- The number that a part of a version stands for. -/
def number (part : Text) : Nat := (Numeral.read Numeral.max64 (Text.trim part)).getD 0

/-- The blanks at the end belong to the last part, where they do not count. -/
theorem parts_eq_map (t : Text) : parts t = (Text.split '.' (Text.trimStart t)).map number := by
  obtain ⟨blanks, hblank, ht⟩ := Text.exists_trimEnd_append (Text.trimStart t)
  obtain ⟨before, last, hsplit⟩ := Text.exists_split_append '.' (Text.trim t)
  have hdot : '.' ∉ blanks := fun h => by
    have hblank := hblank '.' h
    revert hblank
    decide
  have hparts : parts t = (Text.split '.' (Text.trim t ++ [])).map number := by
    rw [List.append_nil]
    rfl
  have hlast : number (last ++ blanks) = number last :=
    congrArg (fun p => (Numeral.read Numeral.max64 p).getD 0) (Text.trim_append_blanks hblank last)
  rw [hparts, ht, ← Text.trim, hsplit [] List.not_mem_nil, hsplit blanks hdot, List.append_nil,
    List.map_append, List.map_append, List.map_singleton, List.map_singleton, hlast]

theorem parts_append_zero (t : Text) : parts (t ++ ['.', '0']) = parts t ++ [0] := by
  have hstart : Text.trimStart (t ++ ['.', '0']) = Text.trimStart t ++ ['.', '0'] := by
    rw [Text.trimStart_append]
    split
    · rename_i hblank
      rw [List.isEmpty_iff.1 hblank]
      decide
    · rfl
  rw [parts_eq_map, parts_eq_map, hstart, Text.split_append_mark, List.map_append]
  exact congrArg _ (by decide)

/-- As many zeros, each behind a dot. -/
def zeros (n : Nat) : Text := (List.replicate n ['.', '0']).flatten

theorem parts_append_zeros (t : Text) (n : Nat) :
    parts (t ++ zeros n) = parts t ++ List.replicate n 0 := by
  induction n generalizing t with
  | zero => simp [zeros]
  | succ n ih =>
    have hzeros : t ++ zeros (n + 1) = t ++ ['.', '0'] ++ zeros n := by
      simp [zeros, List.replicate_succ]
    rw [hzeros, ih, parts_append_zero, List.append_assoc]
    rfl

instance : Std.TransCmp compare where
  eq_swap := by
    unfold compare
    exact Std.OrientedCmp.eq_swap
  isLE_trans {a b c} hab hbc := by
    unfold compare at *
    exact Std.TransCmp.isLE_trans hab hbc

/-! ### Limits -/

theorem isAtMost_some {v limit : Text} :
    isAtMost (some v) limit = true ↔ (compare v limit).isLE = true := by
  rw [isAtMost, bne_iff_ne, Ordering.isLE_iff_ne_gt]

/-- What is at most a limit is at most every limit from there on. -/
theorem isAtMost_trans {v : Option Text} {limit limit' : Text} (h : isAtMost v limit = true)
    (hlimit : (compare limit limit').isLE = true) : isAtMost v limit' = true := by
  cases v with
  | none => rfl
  | some v => exact isAtMost_some.2 (Std.TransCmp.isLE_trans (isAtMost_some.1 h) hlimit)

theorem isAtMost_lastWithDollars {v : Option Text}
    (h : isAtMost v lastWithResponseKinds = true) : isAtMost v lastWithDollars = true :=
  isAtMost_trans h (by decide)

theorem isOutdated_of_isAtMost {v : Option Text}
    (h : isAtMost v lastWithDollars = true) : isOutdated v = true := by
  cases v with
  | none => rfl
  | some v =>
    have hlimit : compare lastWithDollars current = .lt := by decide
    exact beq_iff_eq.2 (Std.TransCmp.lt_of_isLE_of_lt (isAtMost_some.1 h) hlimit)

/-- Whatever texts versions are, they are compared by a total preorder, in which zeros at the end do
not count. What comes before a version that is at most a limit is at most that limit, and what comes
before an outdated one is outdated. A version with kinds of responses has calls between dollar
signs, and is outdated. -/
theorem compare_preorder (a b c : Text) :
    compare b a = (compare a b).swap ∧
    (compare a b ≠ .gt ∨ compare b a ≠ .gt) ∧
    (compare a b ≠ .gt → compare b c ≠ .gt → compare a c ≠ .gt) ∧
    (∀ m n, compare (a ++ zeros m) (b ++ zeros n) = compare a b) ∧
    (compare a b ≠ .gt →
      (∀ limit, isAtMost (some b) limit = true → isAtMost (some a) limit = true) ∧
      (isOutdated (some b) = true → isOutdated (some a) = true)) ∧
    (∀ v, isAtMost v lastWithResponseKinds = true →
      isAtMost v lastWithDollars = true ∧ isOutdated v = true) := by
  have hswap : compare b a = (compare a b).swap := Std.OrientedCmp.eq_swap
  simp only [← Ordering.isLE_iff_ne_gt]
  refine ⟨hswap, ?_, Std.TransCmp.isLE_trans, fun m n => ?_,
    fun hab => ⟨fun limit h => ?_, fun h => ?_⟩, fun v h => ?_⟩
  · rw [hswap]
    cases compare a b <;> simp
  · unfold compare
    rw [parts_append_zeros, parts_append_zeros, compareParts_append_zeros]
  · exact isAtMost_some.2 (Std.TransCmp.isLE_trans hab (isAtMost_some.1 h))
  · exact beq_iff_eq.2 (Std.TransCmp.lt_of_isLE_of_lt hab (beq_iff_eq.1 h))
  · have hdollars := isAtMost_lastWithDollars h
    exact ⟨hdollars, isOutdated_of_isAtMost hdollars⟩

/-- A version that is no number, one that ends early, and a limit with two zeros at its end. -/
theorem compare_preorder_malformed :
    let a : Text := "v12"
    let b : Text := " 12.3 "
    let limit : Text := lastWithResponseKinds ++ zeros 2
    compare a b ≠ .gt ∧ compare b limit = compare b lastWithResponseKinds ∧
      compare a limit ≠ .gt ∧ isAtMost (some a) lastWithResponseKinds = true ∧
      isOutdated (some a) = true := by
  intro a b limit
  have hab : compare a b ≠ .gt := by decide
  have hb : isAtMost (some b) lastWithResponseKinds = true := by decide
  have hzeros : compare b limit = compare b lastWithResponseKinds := by
    have hb' : b ++ zeros 0 = b := List.append_nil b
    rw [← (compare_preorder b lastWithResponseKinds a).2.2.2.1 0 2, hb']
  obtain ⟨-, -, htrans, -, hlimits, hkinds⟩ := compare_preorder a b limit
  have ha := (hlimits hab).1 _ hb
  have hblimit : compare b limit ≠ .gt := by rw [hzeros]; decide
  exact ⟨hab, hzeros, htrans hab hblimit, ha, (hkinds _ ha).2⟩

end UploadTemplate.Version
