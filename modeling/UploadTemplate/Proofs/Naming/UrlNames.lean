import UploadTemplate.Proofs.Naming.SinglePass
import UploadTemplate.Proofs.Naming.UrlForm

/-!
# Names in URLs

A name for a URL is percent-coded and then cut to the greatest length. The cut may fall within the
form of a character: the name is then no form of a beginning of its pattern, and its last escape
may have lost a digit or both.

- `Naming.decodeBytes_sanitizeUrl`: text without percent signs comes back from its form in a URL.
- `Namer.expand_url`: what a name in a URL stands for.
- `Namer.expand_url_torn`: a limit that leaves no URL text.
-/

namespace UploadTemplate

namespace Naming

variable {t : Text}

theorem isWhole_sanitizeUrl (h : '%' ∉ t) : Percent.IsWhole (sanitizeUrl t) := by
  induction t with
  | nil => exact Percent.isWhole_of_no_percent h
  | cons c t ih =>
    obtain ⟨hc, ht⟩ := not_or.1 (mt List.mem_cons.2 h)
    rw [sanitizeUrl_cons]
    split
    · exact Percent.isWhole_cons (Ne.symm hc) (ih ht)
    · exact (Percent.isWhole_encodeChar c).append (ih ht)

theorem decodeBytes_sanitizeUrl (h : '%' ∉ t) :
    Percent.decodeBytes (sanitizeUrl t) = Utf8.encode t := by
  rw [decodeBytes_sanitizeUrl_eq, Percent.decodeBytes_of_no_percent h]

theorem prefix_sanitizeUrl {s : Text} (h : s <+: t) : sanitizeUrl s <+: sanitizeUrl t := by
  obtain ⟨r, rfl⟩ := h
  rw [sanitizeUrl_append]
  exact List.prefix_append _ _

end Naming

namespace Namer

open Naming Percent

theorem prefix_truncate (limit : Option Nat) (t : Text) : truncate limit t <+: t := by
  cases limit with
  | none => exact List.prefix_rfl
  | some n => exact List.take_prefix n t

/-- The form of a text that is cut is whole and stands for some of the bytes of the text, up to an
escape that is torn at its end. -/
theorem exists_whole_truncate {t : Text} (h : '%' ∉ t) (limit : Option Nat) :
    ∃ whole torn, truncate limit (sanitizeUrl t) = whole ++ torn ∧ IsWhole whole ∧
      decodeBytes whole <+: Utf8.encode t ∧ IsTorn torn := by
  have hform := isWhole_sanitizeUrl h
  obtain ⟨whole, torn, hcut, hwhole, htorn⟩ : ∃ whole torn,
      truncate limit (sanitizeUrl t) = whole ++ torn ∧ IsWhole whole ∧ IsTorn torn := by
    cases limit with
    | none => exact ⟨sanitizeUrl t, [], (List.append_nil _).symm, hform, .inl rfl⟩
    | some n => exact hform.take n
  obtain ⟨rest, hrest⟩ : whole <+: sanitizeUrl t :=
    (hcut ▸ List.prefix_append whole torn).trans (prefix_truncate limit _)
  refine ⟨whole, torn, hcut, hwhole, ?_, htorn⟩
  rw [← decodeBytes_sanitizeUrl h, ← hrest, hwhole.decodeBytes_append]
  exact List.prefix_append _ _

/-- The name in a URL of a pattern without percent signs is the form of the pattern, cut to the
greatest length. Without a limit it has only complete escapes and stands for the pattern. Under a
limit it has complete escapes that stand for some of the bytes, and perhaps a torn one after them;
it has none that is torn and stands for a beginning of the pattern just if it is the form of one. -/
theorem expand_url {n : Namer} (hk : n.kind = .url) {pattern : Text} (h : '%' ∉ pattern)
    (before : Session) :
    ∃ made, (n.expand pattern).run.run before = (.ok made, before) ∧
      made = truncate n.maxName (sanitizeUrl pattern) ∧
      (∀ limit, n.maxName = some limit → made.length ≤ limit) ∧
      (n.maxName = none → IsWhole made ∧ decodeBytes made = Utf8.encode pattern) ∧
      (∃ whole torn, made = whole ++ torn ∧ IsWhole whole ∧
        decodeBytes whole <+: Utf8.encode pattern ∧ IsTorn torn) ∧
      ((IsWhole made ∧ ∃ start, start <+: pattern ∧ decodeBytes made = Utf8.encode start) ↔
        ∃ start, start <+: pattern ∧ made = sanitizeUrl start) := by
  refine ⟨truncate n.maxName (sanitizeUrl pattern), ?_, rfl, ?_, ?_,
    exists_whole_truncate h n.maxName, ?_, ?_⟩
  · rw [run_expand, expandRun_of_no_percent n _ h, hk]
    rfl
  · intro limit hlimit
    rw [hlimit]
    exact List.length_take_le limit _
  · intro hnone
    rw [hnone]
    exact ⟨isWhole_sanitizeUrl h, decodeBytes_sanitizeUrl h⟩
  · rintro ⟨hwhole, start, hstart, hbytes⟩
    have hs : '%' ∉ start := fun hm => h (hstart.subset hm)
    -- both are beginnings of the form of the pattern, and they stand for the same bytes
    exact ⟨start, hstart, hwhole.eq_of_prefix (isWhole_sanitizeUrl hs)
      (prefix_truncate n.maxName _) (prefix_sanitizeUrl hstart)
      (hbytes.trans (decodeBytes_sanitizeUrl hs).symm)⟩
  · rintro ⟨start, hstart, hmade⟩
    have hs : '%' ∉ start := fun hm => h (hstart.subset hm)
    rw [hmade]
    exact ⟨isWhole_sanitizeUrl hs, start, hstart, decodeBytes_sanitizeUrl hs⟩

/-- A limit that falls between the forms of two characters. -/
theorem expand_url_between :
    let n : Namer := { Namer.standard ⟨.empty, ⟨[]⟩, ⟨1711375629, 0, 0⟩⟩ with
      kind := .url, maxName := some 7 }
    let start : Session := ⟨0, ⟨fun _ => 0, 0⟩⟩
    n.kind = .url ∧ '%' ∉ "aé b".toList ∧
      ((n.expand "aé b").run.run start).1 = .ok "a%C3%A9".toList ∧
      IsWhole "a%C3%A9".toList ∧
      ∃ first, first <+: "aé b".toList ∧
        decodeBytes "a%C3%A9".toList = Utf8.encode first := by
  intro n start
  have hp : '%' ∉ "aé b".toList := by decide
  obtain ⟨made, hrun, hmade, -, -, -, hiff⟩ := expand_url (n := n) rfl hp start
  have hcut : made = "a%C3%A9".toList := hmade.trans (by decide +kernel)
  rw [hcut] at hrun hiff
  exact ⟨rfl, hp, by rw [hrun], hiff.2 ⟨"aé".toList, by decide, by decide +kernel⟩⟩

/-- A limit of one leaves a percent sign alone; one of three leaves half of the bytes of a
character. -/
theorem expand_url_torn :
    let n (limit : Nat) : Namer := { Namer.standard ⟨.empty, ⟨[]⟩, ⟨1711375629, 0, 0⟩⟩ with
      kind := .url, maxName := some limit }
    let start : Session := ⟨0, ⟨fun _ => 0, 0⟩⟩
    '%' ∉ "é".toList ∧
      ((n 1).expand "é" |>.run.run start).1 = .ok "%".toList ∧ ¬ IsWhole "%".toList ∧
      ((n 3).expand "é" |>.run.run start).1 = .ok "%C3".toList ∧
        ∀ first, first <+: "é".toList → decodeBytes "%C3".toList ≠ Utf8.encode first := by
  intro n start
  refine ⟨by decide, ok_of_toOption (by decide +kernel), ?_, ok_of_toOption (by decide +kernel), ?_⟩
  · intro h
    obtain ⟨hi, lo, r, hr, -⟩ := h [] [] rfl
    cases hr
  · intro first hfirst
    cases first with
    | nil => decide +kernel
    | cons c first =>
      obtain ⟨rfl, hnil⟩ := List.cons_prefix_cons.1 hfirst
      obtain rfl := List.prefix_nil.1 hnil
      decide +kernel

end Namer

end UploadTemplate
