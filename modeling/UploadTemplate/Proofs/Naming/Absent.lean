import UploadTemplate.Naming.Namer
import UploadTemplate.Proofs.Template.Escaped
import UploadTemplate.Proofs.Text.Cut

/-!
# Texts without tokens

Replacing a token does nothing to a text in which it does not occur. Every token begins with a
percent sign, so a text without one is its own expansion.

- `replaceToken_of_absent`: a token that does not occur is not replaced.
- `Namer.expandKeepingEscapes_of_no_percent`: text without percent signs as a name.
-/

namespace UploadTemplate

namespace Naming

theorem tokenWith_eq_none {token : Text} {accepts : Text → Bool} {t : Text}
    (h : ¬ token <+: t) : tokenWith token accepts t = none := by
  unfold tokenWith
  rw [if_neg (by simpa using h)]

theorem replaceToken_of_absent {m : Type → Type} [Monad m] [LawfulMonad m] {token t : Text}
    (h : ¬ token <:+: t) (accepts : Text → Bool) (f : Option Text → m Text) :
    replaceToken token accepts f t = pure t := by
  unfold replaceToken
  rw [Text.cut_of_absent h fun v hv => tokenWith_eq_none hv, Text.refillM_chars]

theorem replaceNumeric_of_absent {m : Type → Type} [Monad m] [LawfulMonad m] {token t : Text}
    (h : ¬ token <:+: t) (f : List Nat → m Text) : replaceNumeric token f t = pure t :=
  replaceToken_of_absent h _ _

theorem replaceEach_nil (values : List (Text × Text)) : replaceEach values [] = [] := by
  unfold replaceEach
  induction values with
  | nil => rfl
  | cons v values ih => exact ih

theorem replaceEach_of_absent {values : List (Text × Text)} {t : Text}
    (h : ∀ v ∈ values, ¬ v.1 <:+: t) : replaceEach values t = t := by
  unfold replaceEach
  induction values with
  | nil => rfl
  | cons v values ih =>
    rw [List.foldl_cons, Text.replace_of_absent (h v List.mem_cons_self)]
    exact ih fun w hw => h w (List.mem_cons_of_mem v hw)

end Naming

namespace Namer

open Naming

theorem expandCounters_of_absent (s : Shared) {t : Text} (h : ¬ "%i".toList <:+: t) :
    expandCounters s t = pure t := by
  unfold expandCounters
  rw [if_neg fun hc => h (Text.contains_iff.1 hc)]

theorem expandRandom_of_absent {t : Text} (h : ∀ v ∈ randomTokens, ¬ v.1 <:+: t) :
    expandRandom t = pure t := by
  unfold expandRandom
  generalize randomTokens = l at h
  induction l with
  | nil => rfl
  | cons v l ih =>
    obtain ⟨token, alphabet⟩ := v
    rw [List.foldlM_cons]
    simp only
    rw [replaceNumeric_of_absent (h _ List.mem_cons_self), pure_bind]
    exact ih fun w hw => h w (List.mem_cons_of_mem _ hw)

theorem expandGuids_of_absent {t : Text} (hu : ¬ "%GUID".toList <:+: t)
    (hl : ¬ "%guid".toList <:+: t) : expandGuids t = pure t := by
  unfold expandGuids
  simp only
  rw [replaceToken_of_absent hu, pure_bind, replaceToken_of_absent hl]

/-! ### Percent signs -/

def windowTokens : List Text := ["%t", "%pn"]

/-- The tokens with fixed values, without those of the window. -/
def sizeTokens : List Text := ["%width", "%height"]

def dateTokens : List Text :=
  ["%mon2", "%mon", "%yy", "%y", "%mo", "%d", "%h", "%mi", "%ms", "%s", "%wy", "%w2", "%w", "%pm",
    "%unix"]

def machineTokens : List Text := ["%uln", "%un", "%cn", "%n"]

theorem fst_mem_windowTokens {n : Namer} {v : Text × Text} (h : v ∈ n.windowValues) :
    v.1 ∈ windowTokens := by
  simp only [windowValues, List.mem_append, Option.mem_toList, Option.map_eq_some_iff] at h
  rcases h with ⟨_, -, rfl⟩ | ⟨_, -, rfl⟩
  · exact List.mem_cons_self
  · exact List.mem_cons_of_mem _ List.mem_cons_self

theorem percent_mem_machineValues {n : Namer} {v : Text × Text} (h : v ∈ n.machineValues) :
    '%' ∈ v.1 := by
  simp only [machineValues, List.mem_cons] at h
  rcases h with rfl | rfl | rfl | h
  · exact (by decide : '%' ∈ "%uln".toList)
  · exact (by decide : '%' ∈ "%un".toList)
  · exact (by decide : '%' ∈ "%cn".toList)
  · split at h
    · rw [List.mem_singleton] at h
      subst h
      decide
    · cases h

theorem truncate_sanitize_nil (n : Namer) : truncate n.maxName (n.kind.sanitize []) = [] := by
  cases n.kind <;> cases n.maxName <;>
    simp [truncate, NameKind.sanitize, sanitizeFileName, sanitizePath, sanitizeUrl]

/-- A run without percent signs is its own expansion, up to the form of the name. -/
theorem expandRun_of_no_percent (n : Namer) (s : Shared) {t : Text} (h : '%' ∉ t) :
    n.expandRun s t = pure (truncate n.maxName (n.kind.sanitize t)) := by
  have hw : ∀ v ∈ n.windowValues ++ n.imageValues ++ dateValues s, '%' ∈ v.1 := by
    intro v hv
    rcases List.mem_append.1 hv with hv | hv
    · rcases List.mem_append.1 hv with hv | hv
      · exact (by decide : ∀ w ∈ windowTokens, '%' ∈ w) v.1 (fst_mem_windowTokens hv)
      · exact (by decide : ∀ w ∈ sizeTokens, '%' ∈ w) v.1 (List.mem_map_of_mem hv)
    · exact (by decide : ∀ w ∈ dateTokens, '%' ∈ w) v.1 (List.mem_map_of_mem hv)
  have hr : ∀ v ∈ randomTokens, '%' ∈ v.1 := by decide
  have hd := replaceEach_of_absent fun v hv => Text.absent_of_not_mem (hw v hv) h
  have hm : replaceEach n.machineValues t = t := replaceEach_of_absent fun v hv =>
    Text.absent_of_not_mem (percent_mem_machineValues hv) h
  unfold expandRun
  split
  · rename_i he
    rw [List.isEmpty_iff.1 he, truncate_sanitize_nil]
  · simp only [hd]
    rw [expandCounters_of_absent s (Text.absent_of_not_mem (by decide) h), pure_bind]
    simp only [hm]
    rw [expandRandom_of_absent fun v hv => Text.absent_of_not_mem (hr v hv) h, pure_bind,
      replaceToken_of_absent (Text.absent_of_not_mem (by decide) h), pure_bind,
      expandGuids_of_absent (Text.absent_of_not_mem (by decide) h)
        (Text.absent_of_not_mem (by decide) h), pure_bind]

/-- Percent signs after escapes do not matter. -/
theorem expandKeepingEscapes_of_plain_runs {n : Namer} (hk : n.kind = .text)
    (hm : n.maxName = none) {escape : Char} {t : Text}
    (h : ∀ u, .run u ∈ Escaped.cut escape t → '%' ∉ u) :
    n.expandKeepingEscapes escape t = pure t := by
  unfold expandKeepingEscapes
  have hrun (s : Shared) : Escaped.mapRuns escape (n.expandRun s) t = pure t := by
    refine Escaped.mapRuns_eq_pure fun u hu => ?_
    rw [expandRun_of_no_percent n s (h u hu), hk, hm]
    rfl
  simp only [hrun]
  rfl

theorem expandKeepingEscapes_of_no_percent {n : Namer} (hk : n.kind = .text)
    (hm : n.maxName = none) (escape : Char) {t : Text} (h : '%' ∉ t) :
    n.expandKeepingEscapes escape t = pure t :=
  expandKeepingEscapes_of_plain_runs hk hm fun _ hu hc =>
    h ((Escaped.infix_of_run hu).subset hc)

end Namer

end UploadTemplate
