import UploadTemplate.Naming.Alphabet
import UploadTemplate.Proofs.Naming.Values

/-!
# Numerals over an alphabet

A counter is written positionally, the first characters of an alphabet being the digits, with zeros
before it up to a width. The zeros do not change the number that the numeral stands for, so the
numeral tells which number it was.

- `Naming.readBase`: the number that a text stands for in a base.
- `Naming.readBase_numeral`: a numeral stands for its number.
- `Naming.length_toBase_le`: no shorter text stands for it.
- `Naming.zero_of_toBase`: it has no zeros of its own before it.
-/

namespace UploadTemplate

/-! ### Digits -/

namespace Numeral

theorem value_zeros (base count : Nat) (ds : List Nat) :
    value base (List.replicate count 0 ++ ds) = value base ds := by
  induction count with
  | zero => rfl
  | succ count ih =>
    rw [← ih, List.replicate_succ, List.cons_append]
    unfold value
    rw [List.foldl_cons, Nat.zero_mul]

/-- No shorter list of digits has the value of a number than the digits of the number. -/
theorem length_digits_le {base : Nat} (n : Nat) {ds : List Nat} (hne : ds ≠ [])
    (hlt : ∀ d ∈ ds, d < base) (hv : value base ds = n) : (digits base n).length ≤ ds.length := by
  induction n using Nat.strongRecOn generalizing ds with
  | ind n ih =>
    have hpos : 0 < ds.length := List.length_pos_iff.2 hne
    rw [digits]
    split
    · exact hpos
    · rename_i h
      obtain ⟨first, d, rfl⟩ : ∃ first d, ds = first ++ [d] :=
        ⟨_, _, (List.dropLast_concat_getLast hne).symm⟩
      have hd : d < base := hlt d (by simp)
      rw [value_append_singleton] at hv
      have hq : value base first = n / base := by
        rw [← hv, Nat.mul_comm, Nat.mul_add_div (by omega), Nat.div_eq_of_lt hd, Nat.add_zero]
      have hfirst : first ≠ [] := by
        rintro rfl
        have hzero : value base [] = 0 := rfl
        rw [hzero, Nat.zero_mul] at hv
        omega
      have hless : n / base < n := Nat.div_lt_self (by omega) (by omega)
      have hlen := ih (n / base) hless hfirst (fun e he => hlt e (List.mem_append_left _ he)) hq
      rw [List.length_append, List.length_append]
      exact Nat.add_le_add_right hlen 1

end Numeral

namespace Naming

open Numeral

/-! ### Reading -/

/-- The number that a text stands for in a base, the first characters of an alphabet being its
digits. -/
def readBase (alphabet : Text) (base : Nat) (t : Text) : Option Nat :=
  if t.isEmpty then none else (t.mapM (alphabet.take base).idxOf?).map (value base)

/-- The alphabets of counters. -/
def counterAlphabets : List Text := [numbers, alphanumeric, alphanumericInverse]

theorem shape_counterAlphabets :
    ∀ alphabet ∈ counterAlphabets, alphabet.Nodup ∧ alphabet.head? = some '0' := by
  decide +kernel

variable {alphabet : Text} {base : Nat}

/-- A digit is written as its character of the alphabet. -/
def digitChar (alphabet : Text) (d : Nat) : Char := alphabet.getD d '0'

theorem digitChar_eq (hb : base ≤ alphabet.length) {d : Nat} (hd : d < base) :
    ∃ h : d < (alphabet.take base).length, digitChar alphabet d = (alphabet.take base)[d] := by
  have hlt : d < alphabet.length := Nat.lt_of_lt_of_le hd hb
  exact ⟨by rw [List.length_take]; omega, by simp [digitChar, hlt]⟩

theorem digitChar_mem (hb : base ≤ alphabet.length) {d : Nat} (hd : d < base) :
    digitChar alphabet d ∈ alphabet.take base := by
  obtain ⟨h, hget⟩ := digitChar_eq hb hd
  exact hget ▸ List.getElem_mem h

theorem idxOf?_digitChar (hn : alphabet.Nodup) (hb : base ≤ alphabet.length) {d : Nat}
    (hd : d < base) : (alphabet.take base).idxOf? (digitChar alphabet d) = some d := by
  obtain ⟨h, hget⟩ := digitChar_eq hb hd
  have htake : (alphabet.take base).Nodup := hn.sublist (List.take_sublist base alphabet)
  refine List.idxOf?_eq_some_iff.2 ⟨h, hget.symm, fun j hj heq => ?_⟩
  have hjd : j = d := (List.getElem_inj htake).1 (heq.trans hget)
  omega

theorem mapM_digitChar (hn : alphabet.Nodup) (hb : base ≤ alphabet.length) {ds : List Nat}
    (hlt : ∀ d ∈ ds, d < base) :
    (ds.map (digitChar alphabet)).mapM (alphabet.take base).idxOf? = some ds := by
  induction ds with
  | nil => rfl
  | cons d ds ih =>
    obtain ⟨hd, hds⟩ := List.forall_mem_cons.1 hlt
    rw [List.map_cons, List.mapM_cons, idxOf?_digitChar hn hb hd, ih hds]
    rfl

theorem readBase_digits (hn : alphabet.Nodup) (hb : base ≤ alphabet.length) {ds : List Nat}
    (hne : ds ≠ []) (hlt : ∀ d ∈ ds, d < base) :
    readBase alphabet base (ds.map (digitChar alphabet)) = some (value base ds) := by
  unfold readBase
  rw [if_neg (by simpa using hne), mapM_digitChar hn hb hlt]
  rfl

theorem of_mapM_idxOf? {t : Text} {ds : List Nat}
    (h : t.mapM (alphabet.take base).idxOf? = some ds) :
    ds.length = t.length ∧ ∀ d ∈ ds, d < base := by
  induction t generalizing ds with
  | nil =>
    cases h
    exact ⟨rfl, fun d hd => by cases hd⟩
  | cons c t ih =>
    rw [List.mapM_cons] at h
    obtain ⟨d, hd, h⟩ := Option.bind_eq_some_iff.1 h
    obtain ⟨rest, hrest, h⟩ := Option.bind_eq_some_iff.1 h
    cases h
    obtain ⟨hlen, hlt⟩ := ih hrest
    obtain ⟨hd, -⟩ := List.idxOf?_eq_some_iff.1 hd
    rw [List.length_take] at hd
    exact ⟨congrArg (· + 1) hlen, List.forall_mem_cons.2 ⟨by omega, hlt⟩⟩

theorem exists_digits_of_readBase {t : Text} {n : Nat} (h : readBase alphabet base t = some n) :
    ∃ ds, ds ≠ [] ∧ (∀ d ∈ ds, d < base) ∧ value base ds = n ∧ ds.length = t.length := by
  unfold readBase at h
  split at h
  · cases h
  · rename_i hne
    obtain ⟨ds, hds, hv⟩ := Option.map_eq_some_iff.1 h
    obtain ⟨hlen, hlt⟩ := of_mapM_idxOf? hds
    refine ⟨ds, ?_, hlt, hv, hlen⟩
    rintro rfl
    exact hne (List.isEmpty_iff_length_eq_zero.2 hlen.symm)

/-! ### Numerals -/

theorem toBase_eq (n base : Nat) (alphabet : Text) :
    toBase n base alphabet = (digits base n).map (digitChar alphabet) := rfl

theorem numeral_eq (n base : Nat) (alphabet : Text) (width : Nat) :
    numeral n base alphabet width =
      List.replicate (min width 1024 - (toBase n base alphabet).length) '0' ++
        toBase n base alphabet := rfl

theorem length_numeral (n base : Nat) (alphabet : Text) (width : Nat) :
    (numeral n base alphabet width).length =
      max (toBase n base alphabet).length (min width 1024) := by
  rw [numeral_eq, List.length_append, List.length_replicate]
  omega

theorem digitChar_zero (hz : alphabet.head? = some '0') : digitChar alphabet 0 = '0' := by
  obtain ⟨r, rfl⟩ := List.head?_eq_some_iff.1 hz
  rfl

/-- A numeral is written with the digits of its number, and zeros before them. -/
theorem numeral_eq_map (hz : alphabet.head? = some '0') (n base width : Nat) :
    ∃ count, numeral n base alphabet width =
      (List.replicate count 0 ++ digits base n).map (digitChar alphabet) := by
  refine ⟨min width 1024 - (toBase n base alphabet).length, ?_⟩
  rw [numeral_eq, List.map_append, List.map_replicate, digitChar_zero hz, toBase_eq]

theorem lt_of_mem_padded (hb : 2 ≤ base) {n count : Nat} :
    ∀ d ∈ List.replicate count 0 ++ digits base n, d < base := by
  intro d hd
  rcases List.mem_append.1 hd with hd | hd
  · rw [(List.mem_replicate.1 hd).2]
    omega
  · exact digits_lt hb n d hd

theorem mem_take_of_mem_numeral (hz : alphabet.head? = some '0') (h2 : 2 ≤ base)
    (hb : base ≤ alphabet.length) (n width : Nat) :
    ∀ c ∈ numeral n base alphabet width, c ∈ alphabet.take base := by
  obtain ⟨count, hmap⟩ := numeral_eq_map hz n base width
  rw [hmap]
  intro c hc
  obtain ⟨d, hd, rfl⟩ := List.mem_map.1 hc
  exact digitChar_mem hb (lt_of_mem_padded h2 d hd)

/-- A numeral stands for its number. -/
theorem readBase_numeral (hn : alphabet.Nodup) (hz : alphabet.head? = some '0') (h2 : 2 ≤ base)
    (hb : base ≤ alphabet.length) (n width : Nat) :
    readBase alphabet base (numeral n base alphabet width) = some n := by
  obtain ⟨count, hmap⟩ := numeral_eq_map hz n base width
  rw [hmap, readBase_digits hn hb (by simp [digits_ne_nil]) (lt_of_mem_padded h2), value_zeros,
    value_digits]

theorem readBase_toBase (hn : alphabet.Nodup) (h2 : 2 ≤ base) (hb : base ≤ alphabet.length)
    (n : Nat) : readBase alphabet base (toBase n base alphabet) = some n := by
  rw [toBase_eq, readBase_digits hn hb (digits_ne_nil base n) (digits_lt h2 n), value_digits]

/-- No text that stands for a number is shorter than its digits. -/
theorem length_toBase_le {t : Text} {n : Nat} (h : readBase alphabet base t = some n) :
    (toBase n base alphabet).length ≤ t.length := by
  obtain ⟨ds, hne, hlt, hv, hlen⟩ := exists_digits_of_readBase h
  rw [toBase_eq, List.length_map, ← hlen]
  exact length_digits_le n hne hlt hv

/-- The digits of a number begin with no zero, unless they are those of zero. -/
theorem zero_of_toBase (hn : alphabet.Nodup) (hz : alphabet.head? = some '0') (h2 : 2 ≤ base)
    (hb : base ≤ alphabet.length) {n : Nat} (h : (toBase n base alphabet).head? = some '0') :
    n = 0 ∧ toBase n base alphabet = ['0'] := by
  have hzero : n = 0 := by
    by_cases hpos : 0 < n
    · obtain ⟨d, ds, hds⟩ := List.exists_cons_of_ne_nil (digits_ne_nil base n)
      have hd : d < base := digits_lt h2 n d (hds ▸ List.mem_cons_self)
      rw [toBase_eq, hds, List.map_cons, List.head?_cons, ← digitChar_zero hz] at h
      -- the characters of the digits are all different
      have hidx := idxOf?_digitChar hn hb hd
      rw [Option.some.inj h, idxOf?_digitChar hn hb (by omega)] at hidx
      have hhead := head?_digits h2 hpos
      rw [hds, ← Option.some.inj hidx] at hhead
      exact absurd rfl hhead
    · omega
  subst hzero
  refine ⟨rfl, ?_⟩
  rw [toBase_eq, digits, dif_pos (.inr (by omega)), List.map_singleton, digitChar_zero hz]

end Naming

end UploadTemplate
