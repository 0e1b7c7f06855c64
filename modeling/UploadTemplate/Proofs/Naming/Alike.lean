import Mathlib.Data.List.Forall2
import UploadTemplate.Proofs.Naming.Counter
import UploadTemplate.Proofs.Template.Escaped

/-!
# Escaped characters in names

Name tokens are looked for in the runs of a text, so a call makes the same of two texts that differ
in escaped characters alone: both fail or neither does, what is put in is the same, and so is the
session that is left behind. One thing is read off the whole text. The hours are those of the
twelve-hour clock if `%pm` stands anywhere in it, be it behind an escape.

- `Escaped.Alike`: two texts that differ in escaped characters alone.
- `Escaped.Alike.runs_cut`: their runs are the same.
- `Namer.SameHour`: no hour tells on which clock two texts are expanded.
- `Namer.sameHour_iff`: otherwise a run is another one as soon as its hours are put in.
- `Namer.expandKeepingEscapes_alike`: what a call makes of two texts that are alike.
-/

namespace UploadTemplate

namespace Escaped

/-! ### Texts that are alike -/

/-- Two texts that differ in escaped characters alone. -/
inductive Alike (escape : Char) : Text → Text → Prop where
  | nil : Alike escape [] []
  /-- Nothing stands behind the last escape. -/
  | lone : Alike escape [escape] [escape]
  | pair (c d : Char) {t u : Text} : Alike escape t u →
      Alike escape (escape :: c :: t) (escape :: d :: u)
  | char {c : Char} (h : c ≠ escape) {t u : Text} : Alike escape t u →
      Alike escape (c :: t) (c :: u)

theorem Alike.refl {escape : Char} (t : Text) : Alike escape t t := by
  fun_induction cut escape t with
  | case1 => exact .nil
  | case2 => exact .lone
  | case3 c r ih => exact .pair c c ih
  | case4 c r hc ih => exact .char hc ih

/-- Two parts that differ in an escaped character at most. -/
inductive Part.Alike : Part → Part → Prop where
  | run (t : Text) : Part.Alike (.run t) (.run t)
  | pair (c d : Char) : Part.Alike (.pair c) (.pair d)
  | lone : Part.Alike .lone .lone

theorem alike_consChar (c : Char) {parts parts' : List Part}
    (h : List.Forall₂ Part.Alike parts parts') :
    List.Forall₂ Part.Alike (consChar c parts) (consChar c parts') := by
  cases h with
  | nil => exact .cons (.run [c]) .nil
  | cons hpart hrest =>
    cases hpart with
    | run t => exact .cons (.run (c :: t)) hrest
    | pair d e => exact .cons (.run [c]) (.cons (.pair d e) hrest)
    | lone => exact .cons (.run [c]) (.cons .lone hrest)

theorem Alike.forall₂_cut {escape : Char} {t u : Text} (h : Alike escape t u) :
    List.Forall₂ Part.Alike (cut escape t) (cut escape u) := by
  induction h with
  | nil => exact .nil
  | lone =>
    simp only [cut, if_true]
    exact .cons .lone .nil
  | pair c d h ih =>
    rw [cut_pair, cut_pair]
    exact .cons (.pair c d) ih
  | char hc h ih =>
    rw [cut_char hc, cut_char hc]
    exact alike_consChar _ ih

/-! ### Runs -/

theorem runs_eq_of_forall₂ {parts parts' : List Part} (h : List.Forall₂ Part.Alike parts parts') :
    runs parts = runs parts' := by
  induction h with
  | nil => rfl
  | cons hpart hrest ih =>
    cases hpart with
    | run t => exact congrArg (t :: ·) ih
    | pair c d => exact ih
    | lone => exact ih

theorem Alike.runs_cut {escape : Char} {t u : Text} (h : Alike escape t u) :
    runs (cut escape t) = runs (cut escape u) :=
  runs_eq_of_forall₂ h.forall₂_cut

theorem mapM_congr {m : Type → Type} [Monad m] [LawfulMonad m] {f g : Text → m Text}
    {runs : List Text} (h : ∀ t ∈ runs, f t = g t) : runs.mapM f = runs.mapM g := by
  induction runs with
  | nil => rfl
  | cons t runs ih =>
    rw [List.mapM_cons, List.mapM_cons, h t List.mem_cons_self,
      ih fun u hu => h u (List.mem_cons_of_mem t hu)]

end Escaped

namespace Namer

open Escaped Naming

/-! ### Hours -/

/-- The hour of a day as it is written: of twelve hours or of twenty-four. -/
def hourText (twelveHour : Bool) (hour : Nat) : Text :=
  Numeral.padded 2 (if twelveHour then (if hour % 12 = 0 then 12 else hour % 12) else hour)

theorem length_hourText : ∀ hour < 24, ∀ twelve, (hourText twelve hour).length = 2 := by
  decide +kernel

/-- The two ways agree from the first hour to the twelfth. -/
theorem hourText_eq_iff : ∀ hour < 24, ∀ twelve twelve',
    hourText twelve hour = hourText twelve' hour ↔
      twelve = twelve' ∨ 1 ≤ hour ∧ hour ≤ 12 := by
  decide +kernel

/-- What is put in before the hour. -/
def valuesBeforeHour (n : Namer) (s : Shared) : List (Text × Text) :=
  n.windowValues ++ n.imageValues ++ (dateValues s).takeWhile fun v => v.1 != "%h".toList

/-- What is put in after the hour and before the counters. -/
def valuesAfterHour (s : Shared) : List (Text × Text) :=
  ((dateValues s).dropWhile fun v => v.1 != "%h".toList).tail

/-- A run with its hours put in, and with all that is put in before them. -/
def upToHour (n : Namer) (s : Shared) (t : Text) : Text :=
  Text.replace "%h" (hourText s.twelveHour s.reading.hour) (replaceEach (n.valuesBeforeHour s) t)

theorem replaceEach_firstValues (n : Namer) (s : Shared) (t : Text) :
    replaceEach (n.firstValues s) t = replaceEach (valuesAfterHour s) (n.upToHour s t) := by
  have hdates : dateValues s = ((dateValues s).takeWhile fun v => v.1 != "%h".toList) ++
      ("%h".toList, hourText s.twelveHour s.reading.hour) :: valuesAfterHour s := rfl
  rw [firstValues, hdates, ← List.append_assoc, ← valuesBeforeHour]
  unfold upToHour replaceEach
  rw [List.foldl_append, List.foldl_cons]

/-- Whether the hour is put into a run. -/
def bearsHour (n : Namer) (s : Shared) (t : Text) : Bool :=
  Text.contains "%h" (replaceEach (n.valuesBeforeHour s) t)

/-- No hour tells on which clock two texts are expanded: `%pm` stands in both or in neither, or both
clocks show the same hour, or the hour is put into no run. -/
def SameHour (n : Namer) (escape : Char) (t u : Text) (counter : Nat) : Prop :=
  (Text.contains "%pm" t = Text.contains "%pm" u ∨
    1 ≤ (n.surroundings.now.reading n.zone).hour ∧
      (n.surroundings.now.reading n.zone).hour ≤ 12) ∨
    ∀ run, .run run ∈ cut escape t → n.bearsHour (n.shared t counter) run = false

/-- Otherwise there is a run that is another one as soon as its hours are put in. -/
theorem sameHour_iff {n : Namer} {escape : Char} {t u : Text} {counter : Nat} :
    n.SameHour escape t u counter ↔ ∀ run, .run run ∈ cut escape t →
      n.upToHour (n.shared t counter) run = n.upToHour (n.shared u counter) run := by
  have hday := Clock.Moment.hour_reading_lt n.surroundings.now n.zone
  unfold SameHour
  rw [← hourText_eq_iff _ hday]
  -- the two calls put in the same before the hour
  have hbefore : n.valuesBeforeHour (n.shared u counter) =
      n.valuesBeforeHour (n.shared t counter) := rfl
  unfold upToHour
  rw [hbefore]
  constructor
  · rintro (hhour | hno) run hrun
    · exact congrArg (Text.replace "%h" · _) hhour
    · have habsent : ¬ "%h".toList <:+: replaceEach (n.valuesBeforeHour (n.shared t counter)) run :=
        fun hi => Bool.false_ne_true ((hno run hrun).symm.trans (Text.contains_iff.2 hi))
      rw [Text.replace_of_absent habsent, Text.replace_of_absent habsent]
  · intro h
    by_cases hno : ∀ run, .run run ∈ cut escape t → n.bearsHour (n.shared t counter) run = false
    · exact .inr hno
    · push Not at hno
      obtain ⟨run, hrun, hbears⟩ := hno
      refine .inl (Text.replace_inj (by decide) ?_ (Text.contains_iff.1 ?_) (h run hrun))
      · rw [length_hourText _ hday, length_hourText _ hday]
      · simpa [bearsHour] using hbears

/-- Behind the values that are put in first, a run sees nothing of the call but its number. -/
theorem expandRun_congr {n : Namer} {s s' : Shared} {t : Text} (hnumber : s.number = s'.number)
    (hvalues : replaceEach (n.firstValues s) t = replaceEach (n.firstValues s') t) :
    n.expandRun s t = n.expandRun s' t := by
  have hcounters (u : Text) : expandCounters s u = expandCounters s' u := by
    rw [expandCounters, expandCounters, hnumber]
  unfold firstValues at hvalues
  unfold expandRun
  simp only [hvalues, hcounters]

theorem expandRun_shared_congr {n : Namer} {escape : Char} {t u : Text} {counter : Nat}
    (h : n.SameHour escape t u counter) {run : Text} (hrun : .run run ∈ cut escape t) :
    n.expandRun (n.shared t counter) run = n.expandRun (n.shared u counter) run := by
  have hafter : valuesAfterHour (n.shared u counter) = valuesAfterHour (n.shared t counter) := rfl
  refine expandRun_congr rfl ?_
  rw [replaceEach_firstValues, replaceEach_firstValues, hafter, sameHour_iff.1 h run hrun]

/-! ### Calls -/

/-- What a call makes of two texts that are alike. On the clock of the first text it puts the same
texts into both, run for run, and keeps the escaped characters of each. That is so on the clock of
the second text as well if no hour tells the two clocks apart. -/
theorem expandKeepingEscapes_alike {escape : Char} {t u : Text} (h : Alike escape t u) (n : Namer)
    (before : Session) :
    ∃ (made : Except Error (List Text)) (after : Session),
      (n.expandKeepingEscapes escape t).run.run before =
        (made.map (joinWith escape (cut escape t)), after) ∧
      (mapRuns escape (n.expandRun (n.shared t before.counter)) u).run.run before =
        (made.map (joinWith escape (cut escape u)), after) ∧
      (n.SameHour escape t u before.counter →
        (n.expandKeepingEscapes escape u).run.run before =
          (made.map (joinWith escape (cut escape u)), after)) ∧
      ∀ texts, made = .ok texts → texts.length = (runs (cut escape t)).length := by
  let expanded := ((runs (cut escape t)).mapM (n.expandRun (n.shared t before.counter))).run.run
    before
  have hclock : (mapRuns escape (n.expandRun (n.shared t before.counter)) u).run.run before =
      (expanded.1.map (joinWith escape (cut escape u)), expanded.2) := by
    rw [run_mapRuns, ← h.runs_cut]
  refine ⟨expanded.1, expanded.2, ?_, hclock, fun hhour => ?_, fun texts htexts => ?_⟩
  · rw [run_expandKeepingEscapes, run_mapRuns]
  · have hruns : (runs (cut escape u)).mapM (n.expandRun (n.shared u before.counter)) =
        (runs (cut escape u)).mapM (n.expandRun (n.shared t before.counter)) := by
      refine mapM_congr fun run hrun => ?_
      exact (expandRun_shared_congr hhour (mem_runs.1 (h.runs_cut ▸ hrun))).symm
    rw [run_expandKeepingEscapes, run_mapRuns, hruns, ← run_mapRuns, hclock]
  · exact Computation.length_of_mapM (Prod.ext htexts rfl : expanded = (.ok texts, expanded.2))

/-- At two in the afternoon. Behind the first escape any character will do; the second one hides
`%pm` or does not, and the hour in front of it is another one. -/
theorem expandKeepingEscapes_alike_afternoon :
    let n : Namer := .standard ⟨.empty, ⟨[]⟩, ⟨1711375629, 0, 0⟩⟩
    let before : Session := ⟨0, ⟨fun _ => 0, 0⟩⟩
    let output (t : Text) : Except Error Text := ((n.expandKeepingEscapes '\\' t).run.run before).1
    (Alike '\\' "%h\\-%pm%i" "%h\\+%pm%i" ∧ n.SameHour '\\' "%h\\-%pm%i" "%h\\+%pm%i" 0 ∧
      output "%h\\-%pm%i" = .ok "02\\-PM1".toList ∧ output "%h\\+%pm%i" = .ok "02\\+PM1".toList ∧
      ∃ (made : Except Error (List Text)) (after : Session),
        (n.expandKeepingEscapes '\\' "%h\\-%pm%i").run.run before =
          (made.map (joinWith '\\' [.run "%h", .pair '-', .run "%pm%i"]), after) ∧
        (n.expandKeepingEscapes '\\' "%h\\+%pm%i").run.run before =
          (made.map (joinWith '\\' [.run "%h", .pair '+', .run "%pm%i"]), after)) ∧
    (Alike '\\' "%h\\%pm" "%h\\xpm" ∧ ¬ n.SameHour '\\' "%h\\%pm" "%h\\xpm" 0 ∧
      output "%h\\%pm" = .ok "02\\%pm".toList ∧ output "%h\\xpm" = .ok "14\\xpm".toList) := by
  intro n before output
  have halike (c d : Char) (t : Text) :
      Alike '\\' ('%' :: 'h' :: '\\' :: c :: t) ('%' :: 'h' :: '\\' :: d :: t) :=
    .char (by decide) (.char (by decide) (.pair c d (.refl t)))
  have hsame : n.SameHour '\\' "%h\\-%pm%i" "%h\\+%pm%i" 0 := .inl (.inl (by decide +kernel))
  obtain ⟨made, after, hfirst, -, hsecond, -⟩ :=
    expandKeepingEscapes_alike (halike '-' '+' "%pm%i") n before
  refine ⟨⟨halike '-' '+' "%pm%i", hsame, ok_of_toOption (by decide +kernel),
    ok_of_toOption (by decide +kernel), made, after, hfirst, hsecond hsame⟩,
    halike '%' 'x' "pm", ?_, ok_of_toOption (by decide +kernel), ok_of_toOption (by decide +kernel)⟩
  rintro ((hpm | ⟨-, hhour⟩) | hno)
  · exact absurd hpm (by decide +kernel)
  · exact absurd hhour (by decide +kernel)
  · exact absurd (hno "%h" (by decide +kernel)) (by decide +kernel)

end Namer

end UploadTemplate
