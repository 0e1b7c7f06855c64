import UploadTemplate.Proofs.Destination.Hoisting
import UploadTemplate.Proofs.Template.Protected
import UploadTemplate.Proofs.Template.Unmarked
import UploadTemplate.Proofs.Upload.RequestUrl

/-!
# Values of a query

A value in the query of a request URL is decoded when it becomes a parameter, and what it was
decoded to is a template like any other. It comes out as the data that it was only if it is text,
has no marks in it, and no name token is found in it.

- `Namer.Leaves`: a namer finds nothing in a text.
- `Interpreter.ofText_of_dispatched_nil`: a template that makes no calls is characters.
- `Compiler.SendsAsData`: a value is sent as the bytes that it stands for.
- `Compiler.sendsAsData_iff`: the values that are.
- `Compiler.request_query_value`: what becomes of a value in the query of a request URL.
-/

namespace UploadTemplate

open Template
open Dollar.Document (letters)

/-- The namer leaves the text and the session as they are. -/
def Namer.Leaves (n : Namer) (escape : Char) (t : Text) (s : Session) : Prop :=
  (n.expandKeepingEscapes escape t).run.run s = (.ok t, s)

theorem Namer.leaves_of_no_percent {n : Namer} (hk : n.kind = .text) (hm : n.maxName = none)
    (escape : Char) {t : Text} (h : '%' ∉ t) (s : Session) : n.Leaves escape t s := by
  rw [Leaves, expandKeepingEscapes_of_no_percent hk hm escape h]
  rfl

/-! ### Templates that make no calls -/

namespace Interpreter

variable {i : Interpreter} {n : Namer} {t u : Text} {s s' : Session}

theorem conversation_of_leaves (h : n.Leaves i.marks.escape t s) :
    i.conversation n t s =
      (((expand i.marks (Caller.recorded i.call) t).run.run (s.draws, [])).1,
        { s with draws := ((expand i.marks (Caller.recorded i.call) t).run.run (s.draws, [])).2.1 },
        ((expand i.marks (Caller.recorded i.call) t).run.run (s.draws, [])).2.2) := by
  unfold conversation
  rw [h]
  rfl

theorem conversation_of_isLiteral (h : n.Leaves i.marks.escape t s) (ht : IsLiteral i.marks t) :
    i.conversation n t s = (.ok t, s, []) := by
  rw [conversation_of_leaves h, expand, ofText_literal ht, letters, eval_chars]
  rfl

/-- A template that makes no calls, and has a text all the same, is made of characters. -/
theorem ofText_of_dispatched_nil (h : n.Leaves i.marks.escape t s) (hnone : i.dispatched n t s = [])
    (hrun : (i.interpretNamed n t).run.run s = (.ok u, s')) : ofText i.marks t = letters u := by
  obtain ⟨asked, outputs, failure, last, result, hanswers, -, hrecorded, hends⟩ :=
    (eval_follows i.call (ofText i.marks t)).run s.draws []
  have hexpand : (expand i.marks (Caller.recorded i.call) t).run.run (s.draws, []) =
      (result, (last, asked)) := hrecorded
  rw [run_interpretNamed_eq_conversation, conversation_of_leaves h, hexpand] at hrun
  rw [dispatched, conversation_of_leaves h, hexpand] at hnone
  obtain rfl : asked = [] := hnone
  obtain rfl : result = .ok u := (Prod.mk.inj hrun).1
  cases hanswers
  generalize hresult : (Except.ok u : Except Error Text) = result at hends
  cases hends with
  | finished hcount =>
    obtain ⟨w, hw⟩ := eq_letters_of_count hcount.symm
    rw [hw, Dollar.text_letters] at hresult
    rw [hw, Except.ok.inj hresult]

end Interpreter

/-! ### Data -/

namespace Compiler

variable {c : Compiler} {d : Destination} {context : Context} {field : Field} {s : Session}
  {before after : Session} {v : Text}

/-- The value of a query is sent as the bytes that it stands for: no token is expanded for it, no
function is called, and percent-coded again it stands for the same bytes. -/
structure SendsAsData (c : Compiler) (context : Context) (v : Text) (s : Session) : Prop where
  leaves : c.namer.Leaves c.marks.escape (Percent.decode v) s
  dispatched : (c.interpreter context .plain).dispatched c.namer (Percent.decode v) s = []
  decodeBytes : ∃ sent after,
    ((c.interpreter context .plain).interpretNamed c.namer (Percent.decode v)).run.run s =
      (.ok sent, after) ∧ Percent.decodeBytes (Percent.encode sent) = Percent.decodeBytes v

/-- A value is sent as the bytes that it stands for if and only if they are a text that has no marks
and that the namer leaves as it is. -/
theorem sendsAsData_iff : c.SendsAsData context v s ↔
    ∃ w, Percent.decodeBytes v = Utf8.encode w ∧ IsLiteral c.marks w ∧
      c.namer.Leaves c.marks.escape w s := by
  constructor
  · rintro ⟨hleaves, hnone, sent, after, hrun, hbytes⟩
    have hv : Percent.decodeBytes v = Utf8.encode sent :=
      hbytes.symm.trans (Percent.decodeBytes_encode sent)
    rw [Percent.decode_of_decodeBytes hv] at hleaves hnone hrun
    have htree : ofText c.marks sent = letters sent :=
      Interpreter.ofText_of_dispatched_nil hleaves hnone hrun
    exact ⟨sent, hv, ofText_eq_letters_iff.1 htree, hleaves⟩
  · rintro ⟨w, hv, hliteral, hleaves⟩
    have hconversation :
        (c.interpreter context .plain).conversation c.namer w s = (.ok w, s, []) :=
      Interpreter.conversation_of_isLiteral hleaves hliteral
    have hw : Percent.decode v = w := Percent.decode_of_decodeBytes hv
    refine ⟨hw ▸ hleaves, ?_, w, s, ?_, ?_⟩
    · rw [hw, Interpreter.dispatched, hconversation]
    · rw [hw, Interpreter.run_interpretNamed_eq_conversation, hconversation]
    · rw [Percent.decodeBytes_encode, hv]

/-! ### Entries of a table -/

/-- Every entry is interpreted at its turn. -/
theorem exists_run_of_entries {l made : List (Text × Text)}
    (h : (c.entries d context field l).run.run before = (.ok made, after)) {k t : Text}
    (hm : (k, t) ∈ l) : ∃ s text s',
      ((c.interpreter context .plain).interpretNamed c.namer t).run.run s = (.ok text, s') ∧
      (k, text) ∈ made := by
  induction l generalizing before made with
  | nil => cases hm
  | cons e l ih =>
    obtain ⟨k', t'⟩ := e
    rw [entries] at h
    obtain ⟨text, between, htext, h⟩ := Computation.run_of_bind h
    obtain ⟨rest, last, hrest, h⟩ := Computation.run_of_bind h
    cases h
    rcases List.mem_cons.1 hm with hm | hm
    · cases hm
      exact ⟨before, text, between, Computation.run_of_adapt htext, List.mem_cons_self⟩
    · obtain ⟨s, text', s', hrun, hmem⟩ := ih hrest hm
      exact ⟨s, text', s', hrun, List.mem_cons_of_mem _ hmem⟩

theorem exists_run_of_table {t made : Table Text}
    (h : (c.table d context field t).run.run before = (.ok made, after)) {k : Text}
    (hk : t.get? k = some v) : ∃ s text s',
      ((c.interpreter context .plain).interpretNamed c.namer v).run.run s = (.ok text, s') ∧
      made.get? k = some text := by
  obtain ⟨l, hl, rfl⟩ := Computation.run_of_map h
  obtain ⟨s, text, s', hrun, hmem⟩ := exists_run_of_entries hl (Entries.mem_of_find? hk)
  have hnames : (l.map (·.1)).Nodup := by
    rw [keys_entries hl]
    exact t.nodup_keys
  exact ⟨s, text, s', hrun, (Table.get?_ofList hnames k).trans
    (Entries.find?_eq_some_of_mem hnames hmem)⟩

/-! ### Requests -/

/-- The query of a request carries, percent-coded, what each value of the request URL's query is
decoded to and then interpreted to. The value is sent as the bytes that it stands for if and only if
they are a text that has no marks and in which the namer finds nothing. -/
theorem request_query_value {pre : Text} {pairs : List (Text × Text)} (hd : d.parameters = .empty)
    (hurl : d.requestUrl = pre ++ '?' :: Query.joined pairs)
    (hpre : Destination.BeginsQuery c.marks pre) (hnames : (pairs.map (·.1)).Nodup)
    (hplain : ∀ p ∈ pairs, Query.IsPlainName p.1) (hamp : ∀ p ∈ pairs, '&' ∉ p.2) {n v : Text}
    (hv : (n, v) ∈ pairs) :
    (∀ before after r, (c.request d context).run.run before = (.ok r, after) →
      ∃ url parameters s sent s',
        r.url = withScheme url ++ (if '?' ∈ withScheme url then '&' else '?') ::
          Query.encode parameters ∧
        Query.read (Query.encode parameters) = parameters.entries.map some ∧
        (n, sent) ∈ parameters.entries ∧
        ((c.interpreter context .plain).interpretNamed c.namer (Percent.decode v)).run.run s =
          (.ok sent, s')) ∧
    ∀ s, c.SendsAsData context v s ↔ ∃ w, Percent.decodeBytes v = Utf8.encode w ∧
      IsLiteral c.marks w ∧ c.namer.Leaves c.marks.escape w s := by
  refine ⟨fun before after r hrun => ?_, fun s => sendsAsData_iff⟩
  obtain ⟨url, parameters, between, between', -, hparameters, hr⟩ := run_of_requestNormalized hrun
  obtain ⟨s, sent, s', hsent, hfound⟩ := exists_run_of_table hparameters
    (Destination.get?_normalized hd hurl hpre hnames hplain hamp hv)
  have hmem : (n, sent) ∈ parameters.entries := Entries.mem_of_find? hfound
  have hsome : parameters.entries ≠ [] := List.ne_nil_of_mem hmem
  have hfull : ¬ parameters.isEmpty = true := mt List.isEmpty_iff.1 hsome
  refine ⟨url, parameters, s, sent, s', ?_, Query.read_encode hsome, hmem, hsent⟩
  rw [hr, withQuery, if_neg hfull]

/-- Percent-coded braces become a call, and a percent-coded blank stays one. -/
theorem request_query_value_braces :
    let c : Compiler := ⟨.standard, .standard, .standard ⟨.empty, ⟨[]⟩, ⟨0, 0, 0⟩⟩⟩
    let d : Destination := { requestUrl := "b.c/up?u=%7Binput%7D&w=a%20b".toList }
    let context : Context := ⟨none, some "hi", none⟩
    let before : Session := ⟨0, ⟨fun _ => 0, 0⟩⟩
    (∃ r after, (c.request d context).run.run before = (.ok r, after) ∧
      r.url = "https://b.c/up?u=hi&w=a%20b".toList ∧
      ∃ parameters s sent s', Query.encode parameters <:+ r.url ∧
        (['u'], sent) ∈ parameters.entries ∧
        ((c.interpreter context .plain).interpretNamed c.namer "\x7binput\x7d").run.run s =
          (.ok sent, s')) ∧
    ∀ s, ¬ c.SendsAsData context "%7Binput%7D".toList s ∧
      c.SendsAsData context "a%20b".toList s := by
  intro c d context before
  let pairs : List (Text × Text) := [(['u'], "%7Binput%7D".toList), (['w'], "a%20b".toList)]
  have hurl : d.requestUrl = "b.c/up".toList ++ '?' :: Query.joined pairs := by decide +kernel
  have h {n v : Text} := @request_query_value c d context "b.c/up".toList pairs rfl hurl
    (by decide +kernel) (by decide) (by decide) (by decide) n v
  obtain ⟨hrequest, hcall⟩ := h List.mem_cons_self
  obtain ⟨-, hblank⟩ := h (List.mem_cons_of_mem _ List.mem_cons_self)
  have hdecoded : Percent.decode "%7Binput%7D".toList = "\x7binput\x7d".toList := by
    decide +kernel
  constructor
  · have hmade : ((c.request d context).run.run before).1.toOption.map (·.url) =
        some "https://b.c/up?u=hi&w=a%20b".toList := by decide +kernel
    rcases hrun : (c.request d context).run.run before with ⟨e | r, after⟩
    · rw [hrun] at hmade
      cases hmade
    rw [hrun] at hmade
    have hr : r.url = "https://b.c/up?u=hi&w=a%20b".toList := Option.some.inj hmade
    obtain ⟨url, parameters, s, sent, s', hurl, -, hmem, hsent⟩ := hrequest before after r hrun
    have hquery : Query.encode parameters <:+ r.url :=
      ⟨_, (hurl.trans (List.append_cons _ _ _)).symm⟩
    rw [hdecoded] at hsent
    exact ⟨r, after, rfl, hr, parameters, s, sent, s', hquery, hmem, hsent⟩
  · refine fun s => ⟨fun hdata => ?_, (hblank s).2 ⟨"a b".toList, by decide +kernel, by decide, ?_⟩⟩
    · obtain ⟨w, hw, hliteral, -⟩ := (hcall s).1 hdata
      rw [← Percent.decode_of_decodeBytes hw, hdecoded] at hliteral
      exact absurd hliteral (by decide)
    · exact Namer.leaves_of_no_percent rfl rfl _ (by decide) s

end Compiler

end UploadTemplate
