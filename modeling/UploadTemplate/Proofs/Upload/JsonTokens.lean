import UploadTemplate.Proofs.Json.Exchange
import UploadTemplate.Proofs.Naming.Exchange
import UploadTemplate.Proofs.Upload.JsonBody

/-!
# Name tokens in JSON bodies

The values of name tokens enter a JSON document as they are; only the input and the file name are
written as JSON. In a well-formed document tokens and slots stand in literals. It stays well formed
as long as every value can stand in a literal as it is.

- `Exchange.IsHarmless`: exchanges that a literal bears.
- `Compiler.request_json_tokens`: the body of a request whose exchanges are harmless.
- `Compiler.request_json_newline`: one whose body is not well formed.
-/

namespace UploadTemplate

open Json.Scan

/-- The exchange stays in a literal: the argument that is taken out with its token and the value
that is put in can both stand there as they are. -/
def Naming.Exchange.IsHarmless (e : Naming.Exchange) : Prop :=
  StaysInside (e.argument.getD []) ∧ StaysInside e.value

instance (e : Naming.Exchange) : Decidable e.IsHarmless := inferInstanceAs (Decidable (_ ∧ _))

/-- A slot between these marks can stand in a literal alone, and in no escape. -/
def Marks.SuitJson (m : Marks) : Prop :=
  Json.IsNeutral m.opening ∧ m.closing ≠ '"' ∧ m.closing ≠ '\\'

instance (m : Marks) : Decidable m.SuitJson := inferInstanceAs (Decidable (_ ∧ _ ∧ _))

/-! ### Slots -/

theorem Slot.isLiteralPart {m : Marks} (hm : m.SuitJson) (s : Slot) :
    IsLiteralPart (s.called m) := by
  obtain ⟨hopening, hq, hb⟩ := hm
  refine isLiteralPart_of_neutral hopening ?_ fun _ _ _ hs hf => ?_
  · intro scan r hs
    cases s with
    | input => exact not_noFault_letter hs hopening _
    | fileName => exact not_noFault_letters hs hopening _
  · refine string_run hs (List.forall_mem_cons.2 ⟨⟨hopening.1, hopening.2.1⟩, ?_⟩) hf
    intro c hc
    rcases List.mem_append.1 hc with hc | hc
    · have hletter := s.name_isAsciiLetter c hc
      constructor <;> rintro rfl <;> cases hletter
    · rw [List.mem_singleton.1 hc]
      exact ⟨hq, hb⟩

/-- A well-formed document is well formed with the slots filled. -/
theorem Json.WellFormed.fill {m : Marks} (hm : m.SuitJson) (context : Context) {t : Text}
    (h : WellFormed t) : WellFormed (Compiler.fill m .json context t) := by
  have hself : Text.refill (Slot.called m) (Text.cut (Slot.find m) t) = t := by
    refine Text.refill_cut_eq_self fun u v s n _ h => ?_
    obtain ⟨hp, rfl⟩ := Slot.called_of_find h
    exact ⟨Nat.succ_pos _, List.prefix_iff_eq_take.1 hp⟩
  rw [Compiler.fill_eq_refill]
  rw [← hself] at h
  exact h.refill (Slot.isLiteralPart hm) fun s => (Slot.spells_value context s).staysInside

/-! ### Tokens -/

namespace Naming

theorem isLiteralPart_written {token w : Text} (ht : token = '%' :: w)
    (hw : ∀ c ∈ w, Text.isAsciiAlphanumeric c = true) {a : Option Text}
    (ha : StaysInside (a.getD [])) : IsLiteralPart (written token a) := by
  subst ht
  have hpercent : StaysInside ['%'] := by decide
  have htoken : StaysInside ('%' :: w) := hpercent.append (staysInside_of_alphanumeric hw)
  cases a with
  | none => exact isLiteralPart_percent htoken
  | some x =>
    have hopening : StaysInside ['\x7b'] := by decide
    have hclosing : StaysInside ['\x7d'] := by decide
    have hsplit : written ('%' :: w) (some x) = '%' :: w ++ ['\x7b'] ++ x ++ ['\x7d'] := by
      simp [written]
    rw [hsplit]
    exact isLiteralPart_percent (((htoken.append hopening).append ha).append hclosing)

/-- Harmless exchanges, one after the other, keep a document well formed. -/
theorem Steps.wellFormed {P : Exchange → Prop} {s t : Text} (h : Steps P s t)
    (hP : ∀ e, P e → IsLiteralPart (written e.token e.argument) ∧ StaysInside e.value)
    (hs : Json.WellFormed s) : Json.WellFormed t := by
  induction h with
  | refl => exact hs
  | tail _ hstep ih =>
    obtain ⟨u, e, v, he⟩ := hstep
    exact ih.exchange (hP e he).1 (hP e he).2

end Naming

namespace Namer

open Naming

theorem wellFormed_expandKeepingEscapes {n : Namer} (hk : n.kind = .text) (hl : n.maxName = none)
    {escape : Char} {t made : Text} {before after : Session}
    (hx : ∀ e ∈ n.exchanges escape t before, e.IsHarmless)
    (h : (n.expandKeepingEscapes escape t).run.run before = (.ok made, after))
    (ht : Json.WellFormed t) : Json.WellFormed made := by
  refine (steps_expandKeepingEscapes hk hl h).wellFormed (fun e he => ?_) ht
  obtain ⟨k, hk, hmem, htoken⟩ := he
  obtain ⟨hargument, hvalue⟩ := hx e hmem
  obtain ⟨w, hw, halpha⟩ := text_of_replacements hk
  exact ⟨isLiteralPart_written (htoken.trans hw) halpha hargument, hvalue⟩

end Namer

/-! ### Requests -/

namespace Compiler

/-- The body of a request is made in the session that the other parts of it leave. -/
theorem run_of_request {c : Compiler} {d : Destination} {context : Context} {before after : Session}
    {r : Request} (h : (c.request d context).run.run before = (.ok r, after)) :
    (c.body (d.normalized c.marks) context).run.run
      ((c.request { d with body := .nothing } context).run.run before).2 = (.ok r.body, after) := by
  unfold request at h ⊢
  rw [requestNormalized_eq_bind] at h
  rw [Destination.normalized_withBody c.marks d .nothing]
  obtain ⟨first, between, hfirst, h⟩ := Computation.run_of_bind h
  obtain ⟨body, last, hbody, h⟩ := Computation.run_of_bind h
  cases h
  rw [hfirst]
  exact hbody

/-- A JSON body for a well-formed document is well formed, if no exchange for a token takes more out
of a literal than the literal has or puts more in than it bears. -/
theorem request_json_tokens {c : Compiler} {d : Destination} {context : Context}
    {before after : Session} {r : Request} (hm : c.marks.SuitJson) (hk : c.namer.kind = .text)
    (hl : c.namer.maxName = none) (hb : d.body = .json) (hw : Json.WellFormed d.data)
    (hx : ∀ e ∈ c.namer.exchanges c.marks.escape d.data
      ((c.request { d with body := .nothing } context).run.run before).2, e.IsHarmless)
    (h : (c.request d context).run.run before = (.ok r, after)) :
    ∃ sent, r.body = .json sent ∧ Json.WellFormed sent := by
  have hbody := run_of_request h
  unfold body at hbody
  rw [Destination.body_normalized, hb] at hbody
  obtain ⟨sent, hsent, hr⟩ := Computation.run_of_map hbody
  obtain ⟨expanded, hexpanded, rfl⟩ := Computation.run_of_map hsent
  rw [Destination.data_normalized] at hexpanded
  have hnames := Computation.run_of_adapt hexpanded
  exact ⟨_, hr.symm, (Namer.wellFormed_expandKeepingEscapes hk hl hx hnames hw).fill hm context⟩

/-- A title, a user and a year, and an input that needs escapes. -/
theorem request_json_tokens_title :
    let n : Namer :=
      { Namer.standard ⟨{ Environment.empty with user := some "ann" }, ⟨[]⟩, ⟨1711375629, 0, 0⟩⟩
        with title := some "My page" }
    let c : Compiler := ⟨.standard, .standard, n⟩
    let d : Destination :=
      { requestUrl := "https://a.b", body := .json,
        data := "\x7b\"k\":\"%t by %un, %y: \x7binput\x7d\"\x7d" }
    let before : Session := ⟨0, ⟨fun _ => 0, 0⟩⟩
    ∃ r after sent, (c.request d ⟨none, some "\"hi\"", none⟩).run.run before = (.ok r, after) ∧
      r.body = .json sent ∧ Json.WellFormed sent ∧
      sent = "\x7b\"k\":\"My_page by ann, 2024: \\\"hi\\\"\"\x7d".toList := by
  intro n c d before
  have hm : c.marks.SuitJson := by decide
  have hw : Json.WellFormed d.data :=
    ⟨_, by decide +kernel, @Json.IsValue.object [.string, .colon, .string] (.last .string)⟩
  have hx : ∀ e ∈ c.namer.exchanges c.marks.escape d.data
      ((c.request { d with body := .nothing } ⟨none, some "\"hi\"", none⟩).run.run before).2,
      e.IsHarmless := by decide +kernel
  have hmade : ((c.request d ⟨none, some "\"hi\"", none⟩).run.run before).1.toOption.map (·.body) =
      some (.json "\x7b\"k\":\"My_page by ann, 2024: \\\"hi\\\"\"\x7d") := by decide +kernel
  rcases hrun : (c.request d ⟨none, some "\"hi\"", none⟩).run.run before with ⟨e | r, after⟩
  · rw [hrun] at hmade
    cases hmade
  rw [hrun] at hmade
  have hr := Option.some.inj hmade
  obtain ⟨sent, hsent, hwell⟩ := request_json_tokens hm rfl rfl rfl hw hx hrun
  exact ⟨r, after, sent, rfl, hsent, hwell, RequestBody.json.inj (hsent.symm.trans hr)⟩

/-- The token of the line break puts a control character into its literal. -/
theorem request_json_newline :
    let c : Compiler := ⟨.standard, .standard, .standard ⟨.empty, ⟨[]⟩, ⟨0, 0, 0⟩⟩⟩
    let d : Destination :=
      { requestUrl := "https://b.example.com", body := .json,
        data := "\x7b\"a\":\"%n\"\x7d" }
    Json.WellFormed d.data ∧
      ∃ r after sent,
        (c.request d ⟨none, none, none⟩).run.run ⟨0, ⟨fun _ => 0, 0⟩⟩ = (.ok r, after) ∧
        r.body = .json sent ∧ ¬ Json.WellFormed sent := by
  intro c d
  refine ⟨⟨_, by decide +kernel,
    @Json.IsValue.object [.string, .colon, .string] (.last .string)⟩, ?_⟩
  have hmade : ((c.request d ⟨none, none, none⟩).run.run ⟨0, ⟨fun _ => 0, 0⟩⟩).1.toOption.map
      (·.body) = some (.json "\x7b\"a\":\"\n\"\x7d") := by decide +kernel
  rcases hrun : (c.request d ⟨none, none, none⟩).run.run ⟨0, ⟨fun _ => 0, 0⟩⟩ with ⟨e | r, after⟩
  · rw [hrun] at hmade
    cases hmade
  rw [hrun] at hmade
  refine ⟨r, after, _, rfl, Option.some.inj hmade, fun hwell => ?_⟩
  have hfault : none ∈ Json.kinds (Json.tokens "\x7b\"a\":\"\n\"\x7d").1 := by decide +kernel
  exact hwell.kind_isSome hfault

end Compiler

end UploadTemplate
