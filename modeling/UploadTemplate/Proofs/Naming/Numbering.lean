import UploadTemplate.Proofs.Naming.Numerals
import UploadTemplate.Proofs.Naming.Segments
import UploadTemplate.Proofs.Naming.SinglePass

/-!
# Numbering names

Every kind of counter writes the number of the call as a numeral, in a base, over an alphabet and up
to a width that do not depend on the number. So two numbers never give the same text, and without a
limit to its length a name tells at which number it was made.

- `Namer.exists_form`: what a counter writes.
- `Namer.replaceCounters_written`: a counter with its argument becomes its value.
- `Namer.counter_numerals`: the numerals of counters, and what they tell.
-/

namespace UploadTemplate

namespace Naming

/-- A token whose percent sign could only be the first character occurs at the beginning. -/
theorem absent_of_not_prefix {token t : Text} (hh : token.head? = some '%') (ht : '%' ∉ t.tail)
    (h : ¬ token <+: t) : ¬ token <:+: t := by
  have hm : '%' ∈ token := List.mem_of_head? hh
  cases t with
  | nil =>
    intro hi
    rw [List.infix_nil.1 hi] at hm
    cases hm
  | cons c t =>
    intro hi
    rcases List.infix_cons_iff.1 hi with hp | hi
    · exact h hp
    · exact Text.absent_of_not_mem hm ht hi

/-- A text that is nothing but an occurrence becomes its value. -/
theorem Substitution.replace_written {v : Substitution} (hne : v.text ≠ []) {argument : Option Text}
    (ha : ∀ a ∈ argument, v.accepts a = true ∧ '\x7d' ∉ a) :
    v.replace (written v.text argument) = v.value argument := by
  have hfirst : IsFirst v.text (written v.text argument) [] (written [] argument) :=
    ⟨(append_written_nil v.text argument).symm, fun _ _ _ => Nat.zero_le _⟩
  have hargument : IsArgument v.accepts (written [] argument) argument [] := by
    cases argument with
    | none => exact .absent nofun
    | some a =>
      obtain ⟨hacc, hn⟩ := ha a rfl
      exact .braced hn hacc
  unfold Substitution.replace
  rw [replaceToken_of_isFirst hne hfirst hargument]
  cases v.value argument with
  | error e => rfl
  | ok made => exact congrArg Except.ok (List.append_nil made)

end Naming

namespace Namer

open Naming

/-! ### Counters by themselves -/

theorem shape_counterTokens : ∀ token ∈ counterTokens,
    token.head? = some '%' ∧ '%' ∉ token.tail ∧ '\x7b' ∉ token ∧ "%i".toList <+: token := by
  decide

theorem order_counterTokens : counterTokens.Pairwise fun a b => ¬ a <+: b := by decide

theorem texts_counterSubstitutions (number : Nat) :
    (counterSubstitutions number).map (·.text) = counterTokens := rfl

theorem accepts_counterSubstitutions {number : Nat} {v : Substitution}
    (h : v ∈ counterSubstitutions number) : v.accepts = isNumberList := by
  rcases List.mem_cons.1 h with rfl | h
  · rfl
  rcases List.mem_cons.1 h with rfl | h
  · rfl
  · obtain ⟨_, -, rfl⟩ := List.mem_map.1 h
    rfl

/-- What a counter writes is a numeral, if it writes anything: its alphabet is that of the counter,
its base and its width are those of the counter and its argument. -/
theorem exists_form {token : Text} (h : token ∈ counterTokens) :
    ∃ alphabet ∈ counterAlphabets, ∃ base width : Option Text → Nat,
      ∀ number, ∃ v ∈ counterSubstitutions number, v.text = token ∧
        ∀ argument t, v.value argument = .ok t →
          2 ≤ base argument ∧ base argument ≤ alphabet.length ∧
            t = numeral number (base argument) alphabet (width argument) := by
  let numbers (argument : Option Text) : List Nat := (argument.map numbersOf).getD []
  have hbased (alphabet : Text) (number : Nat) (argument : Option Text) (t : Text)
      (h : inBase number alphabet (numbers argument) = .ok t) :
      2 ≤ (numbers argument).getD 0 10 ∧ (numbers argument).getD 0 10 ≤ alphabet.length ∧
        t = numeral number ((numbers argument).getD 0 10) alphabet
          ((numbers argument).getD 1 0) :=
    and_assoc.1 (inBase_eq_ok_iff.1 h)
  have hfixed : ∀ v ∈ fixedBases, v.2.2 ∈ counterAlphabets ∧ 2 ≤ v.2.1 ∧ v.2.1 ≤ v.2.2.length := by
    decide
  rcases List.mem_cons.1 h with rfl | h
  · exact ⟨alphanumericInverse, by decide, fun a => (numbers a).getD 0 10,
      fun a => (numbers a).getD 1 0, fun number => ⟨_, List.mem_cons_self, rfl, hbased _ number⟩⟩
  rcases List.mem_cons.1 h with rfl | h
  · exact ⟨alphanumeric, by decide, fun a => (numbers a).getD 0 10,
      fun a => (numbers a).getD 1 0, fun number =>
        ⟨_, List.mem_cons_of_mem _ List.mem_cons_self, rfl, hbased _ number⟩⟩
  · obtain ⟨v, hv, rfl⟩ : ∃ v ∈ fixedBases, v.1 = token := List.mem_map.1 h
    obtain ⟨halphabet, hmin, hmax⟩ := hfixed v hv
    refine ⟨v.2.2, halphabet, fun _ => v.2.1, fun a => (numbers a).getD 0 0, fun number =>
      ⟨_, List.mem_cons_of_mem _ (List.mem_cons_of_mem _ (List.mem_map_of_mem hv)), rfl, ?_⟩⟩
    rintro argument t ⟨⟩
    exact ⟨hmin, hmax, rfl⟩

theorem percent_not_mem_tail_written {token : Text} (hh : token.head? = some '%')
    (ht : '%' ∉ token.tail) {argument : Option Text}
    (ha : ∀ a ∈ argument, isNumberList a = true) : '%' ∉ (written token argument).tail := by
  obtain ⟨r, rfl⟩ := List.head?_eq_some_iff.1 hh
  cases argument with
  | none => exact ht
  | some a =>
    have ha := percent_not_mem_of_isNumberList (ha a rfl)
    simp only [List.tail_cons] at ht
    simp [written, ht, ha]

/-- A counter with its argument is left alone until its turn, and nothing is left to do after it. -/
theorem replaceCounters_written {number : Nat} {v : Substitution}
    (hv : v ∈ counterSubstitutions number) {argument : Option Text}
    (ha : ∀ a ∈ argument, isNumberList a = true)
    (hp : ∀ t, v.value argument = .ok t → '%' ∉ t) :
    replaceCounters number (written v.text argument) = v.value argument := by
  have hshape {s : Substitution} (hs : s ∈ counterSubstitutions number) :=
    shape_counterTokens s.text (texts_counterSubstitutions number ▸ List.mem_map_of_mem hs)
  obtain ⟨hhead, htail, -, -⟩ := hshape hv
  obtain ⟨first, rest, hsplit⟩ := List.append_of_mem hv
  have hfirst : ∀ s ∈ first, ¬ s.text <:+: written v.text argument := by
    have horder := order_counterTokens
    rw [← texts_counterSubstitutions number, hsplit, List.pairwise_map, List.pairwise_append]
      at horder
    intro s hs
    obtain ⟨hhead', -, hbrace, -⟩ := hshape (hsplit ▸ List.mem_append_left _ hs)
    exact absent_of_not_prefix hhead' (percent_not_mem_tail_written hhead htail ha) fun hprefix =>
      horder.2.2 s hs v List.mem_cons_self (prefix_of_prefix_written hprefix hbrace)
  have hreplace : v.replace (written v.text argument) = v.value argument := by
    refine Substitution.replace_written (fun hnil => ?_) fun a h => ⟨?_, ?_⟩
    · rw [hnil] at hhead
      cases hhead
    · exact accepts_counterSubstitutions hv ▸ ha a h
    · exact not_mem_of_isNumberList (ha a h) (by decide) (by decide) (by decide) (by decide)
  rw [← foldlM_counters, hsplit, List.foldlM_append, foldlM_of_absent hfirst]
  change (v :: rest).foldlM (fun t s => s.replace t) (written v.text argument) = _
  rw [List.foldlM_cons, hreplace]
  rcases hmade : v.value argument with e | made
  · rfl
  · refine foldlM_of_absent fun s hs => Text.absent_of_not_mem ?_ (hp made hmade)
    have hmem : s ∈ counterSubstitutions number :=
      hsplit ▸ List.mem_append_right _ (List.mem_cons_of_mem v hs)
    exact List.mem_of_head? (hshape hmem).1

/-- The characters of counters are fit for every kind of name. -/
theorem fit_of_mem_counterAlphabets : ∀ alphabet ∈ counterAlphabets, ∀ c ∈ alphabet,
    c ≠ '%' ∧ ∀ kind ∈ [NameKind.text, .fileName, .filePath, .url], kind.sanitize [c] = [c] := by
  -- decided over the letters alone, not over all characters
  have hall : counterAlphabets.all (·.all fun c => decide (c ≠ '%' ∧
      ∀ kind ∈ [NameKind.text, .fileName, .filePath, .url], kind.sanitize [c] = [c])) = true := by
    decide +kernel
  intro alphabet hl c hc
  exact of_decide_eq_true (List.all_eq_true.1 (List.all_eq_true.1 hall alphabet hl) c hc)

theorem sanitize_append (kind : NameKind) (s t : Text) :
    kind.sanitize (s ++ t) = kind.sanitize s ++ kind.sanitize t := by
  cases kind with
  | text => rfl
  | fileName | filePath => exact List.filter_append s t
  | url => exact sanitizeUrl_append s t

theorem sanitize_of_fit (kind : NameKind) {alphabet : Text} (h : alphabet ∈ counterAlphabets)
    {t : Text} (ht : ∀ c ∈ t, c ∈ alphabet) : kind.sanitize t = t := by
  induction t with
  | nil => cases kind <;> rfl
  | cons c t ih =>
    obtain ⟨hc, ht⟩ := List.forall_mem_cons.1 ht
    have hkind : kind ∈ [NameKind.text, .fileName, .filePath, .url] := by cases kind <;> decide
    have hfit := (fit_of_mem_counterAlphabets alphabet h c hc).2 kind hkind
    have happend := sanitize_append kind [c] t
    rw [hfit, ih ht] at happend
    exact happend

/-- A counter with its argument becomes a numeral of the number, in a base and up to a width that do
not depend on the number, or nothing at all. -/
theorem exists_numeral_of_replaceCounters {token : Text} (h : token ∈ counterTokens)
    {argument : Option Text} (ha : ∀ a ∈ argument, isNumberList a = true) :
    ∃ alphabet ∈ counterAlphabets, ∃ base width, ∀ number t,
      replaceCounters number (written token argument) = .ok t →
        2 ≤ base ∧ base ≤ alphabet.length ∧ t = numeral number base alphabet width := by
  obtain ⟨alphabet, halphabet, base, width, hform⟩ := exists_form h
  refine ⟨alphabet, halphabet, base argument, width argument, fun number t ht => ?_⟩
  obtain ⟨v, hv, rfl, hvalue⟩ := hform number
  have hpercent : ∀ u, v.value argument = .ok u → '%' ∉ u := by
    intro u hu hm
    obtain ⟨h2, hb, rfl⟩ := hvalue argument u hu
    have hfit := fit_of_mem_counterAlphabets alphabet halphabet '%'
      (List.mem_of_mem_take (mem_take_of_mem_numeral
        (shape_counterAlphabets alphabet halphabet).2 h2 hb number _ '%' hm))
    exact hfit.1 rfl
  rw [replaceCounters_written hv ha hpercent] at ht
  exact hvalue argument t ht

/-- A counter with its argument tells which number it has written. -/
theorem number_eq_of_replaceCounters {token : Text} (h : token ∈ counterTokens)
    {argument : Option Text} (ha : ∀ a ∈ argument, isNumberList a = true) {number number' : Nat}
    {t : Text} (ht : replaceCounters number (written token argument) = .ok t)
    (ht' : replaceCounters number' (written token argument) = .ok t) : number = number' := by
  obtain ⟨alphabet, halphabet, base, width, hnumeral⟩ := exists_numeral_of_replaceCounters h ha
  obtain ⟨hn, hz⟩ := shape_counterAlphabets alphabet halphabet
  obtain ⟨h2, hb, rfl⟩ := hnumeral number t ht
  obtain ⟨-, -, heq⟩ := hnumeral number' _ ht'
  -- both numbers are what the one text stands for
  have hread := readBase_numeral hn hz h2 hb number width
  rw [heq, readBase_numeral hn hz h2 hb number' width] at hread
  exact (Option.some.inj hread).symm

/-! ### Names -/

/-- No token that has its turn before the counters begins as they do. -/
theorem replaceEach_written (n : Namer) (s : Shared) {token : Text} (h : token ∈ counterTokens)
    {argument : Option Text} (ha : ∀ a ∈ argument, isNumberList a = true) :
    replaceEach (n.windowValues ++ n.imageValues ++ dateValues s) (written token argument) =
      written token argument := by
  obtain ⟨hhead, htail, -, hplain⟩ := shape_counterTokens token h
  obtain ⟨r, hr, -⟩ := written_eq_append token argument
  have hother : ∀ w ∈ windowTokens ++ sizeTokens ++ dateTokens,
      w.head? = some '%' ∧ 2 ≤ w.length ∧ ¬ "%i".toList <+: w := by decide
  refine replaceEach_of_absent fun v hv => ?_
  have hmem : v.1 ∈ windowTokens ++ sizeTokens ++ dateTokens := by
    rcases List.mem_append.1 hv with hv | hv
    · rcases List.mem_append.1 hv with hv | hv
      · exact List.mem_append_left _ (List.mem_append_left _ (fst_mem_windowTokens hv))
      · exact List.mem_append_left _ (List.mem_append_right _ (List.mem_map_of_mem hv))
    · exact List.mem_append_right _ (List.mem_map_of_mem hv)
  obtain ⟨hhead', hlen, hdiffers⟩ := hother v.1 hmem
  refine absent_of_not_prefix hhead' (percent_not_mem_tail_written hhead htail ha) fun hprefix => ?_
  have hwritten : "%i".toList <+: written token argument := hplain.trans ⟨r, hr.symm⟩
  exact hdiffers (List.prefix_of_prefix_length_le hwritten hprefix hlen)

/-- The name of a counter by itself is its value, if the name has no greatest length. -/
theorem replaceCounters_of_expand {n : Namer} (hm : n.maxName = none) {token : Text}
    (h : token ∈ counterTokens) {argument : Option Text}
    (ha : ∀ a ∈ argument, isNumberList a = true) {t : Text} {before after : Session}
    (hrun : (n.expand (written token argument)).run.run before = (.ok t, after)) :
    replaceCounters (before.counter + 1) (written token argument) = .ok t := by
  rw [run_expand] at hrun
  obtain ⟨u, hu, hout⟩ := exists_replaceCounters_of_expandRun hrun
  rw [replaceEach_written n _ h ha] at hu
  replace hu : replaceCounters (before.counter + 1) (written token argument) = .ok u := hu
  obtain ⟨alphabet, halphabet, base, width, hnumeral⟩ := exists_numeral_of_replaceCounters h ha
  obtain ⟨h2, hb, hmade⟩ := hnumeral _ _ hu
  have hz := (shape_counterAlphabets alphabet halphabet).2
  have hin : ∀ c ∈ u, c ∈ alphabet := fun c hc =>
    List.mem_of_mem_take (mem_take_of_mem_numeral hz h2 hb _ _ c (hmade ▸ hc))
  have hpercent : '%' ∉ u := fun hc =>
    (fit_of_mem_counterAlphabets alphabet halphabet '%' (hin '%' hc)).1 rfl
  have hmachine : replaceEach n.machineValues u = u := replaceEach_of_absent fun v hv =>
    Text.absent_of_not_mem (percent_mem_machineValues hv) hpercent
  have hrandom : ∀ k ∈ randomNames, '%' ∈ k.text := by
    decide
  rw [hmachine] at hout
  rw [hu, hout fun k hk => Text.absent_of_not_mem (hrandom k hk) hpercent, hm,
    sanitize_of_fit n.kind halphabet hin]
  rfl

/-- A numeral is written with the first characters of its alphabet and stands for its number. It is
the shortest text that does, which has no zero before it, filled up with zeros to the width or to
1024 characters. So a counter with its argument never gives the same text for two numbers, and
neither do two names without a greatest length that are made of it, whatever else is different. -/
theorem counter_numerals :
    (∀ alphabet ∈ counterAlphabets, ∀ base, 2 ≤ base → base ≤ alphabet.length → ∀ number width,
      (∀ c ∈ numeral number base alphabet width, c ∈ alphabet.take base) ∧
      readBase alphabet base (numeral number base alphabet width) = some number ∧
      ∃ shortest, readBase alphabet base shortest = some number ∧
        (∀ t, readBase alphabet base t = some number → shortest.length ≤ t.length) ∧
        (shortest.head? = some '0' → number = 0 ∧ shortest = ['0']) ∧
        numeral number base alphabet width =
          List.replicate (min width 1024 - shortest.length) '0' ++ shortest ∧
        (numeral number base alphabet width).length = max shortest.length (min width 1024)) ∧
    (∀ token ∈ counterTokens, ∀ argument, (∀ a ∈ argument, isNumberList a = true) →
      ∀ number number' t, replaceCounters number (written token argument) = .ok t →
        replaceCounters number' (written token argument) = .ok t → number = number') ∧
    ∀ token ∈ counterTokens, ∀ argument, (∀ a ∈ argument, isNumberList a = true) →
      ∀ n n' : Namer, n.maxName = none → n'.maxName = none →
        ∀ (before before' : Session) (t : Text),
        ((n.expand (written token argument)).run.run before).1 = .ok t →
        ((n'.expand (written token argument)).run.run before').1 = .ok t →
        before.counter = before'.counter := by
  refine ⟨?_, fun token htoken argument ha number number' t =>
    number_eq_of_replaceCounters htoken ha, ?_⟩
  · intro alphabet halphabet base h2 hb number width
    obtain ⟨hn, hz⟩ := shape_counterAlphabets alphabet halphabet
    exact ⟨mem_take_of_mem_numeral hz h2 hb number width, readBase_numeral hn hz h2 hb number width,
      toBase number base alphabet, readBase_toBase hn h2 hb number, fun _ => length_toBase_le,
      zero_of_toBase hn hz h2 hb, numeral_eq number base alphabet width,
      length_numeral number base alphabet width⟩
  · intro token htoken argument ha n n' hm hm' before before' t h h'
    have hvalue {n : Namer} (hm : n.maxName = none) {before : Session}
        (h : ((n.expand (written token argument)).run.run before).1 = .ok t) :
        replaceCounters (before.counter + 1) (written token argument) = .ok t := by
      have hrun := (Prod.eta ((n.expand (written token argument)).run.run before)).symm
      rw [h] at hrun
      exact replaceCounters_of_expand hm htoken ha hrun
    exact Nat.succ.inj (number_eq_of_replaceCounters htoken ha (hvalue hm h) (hvalue hm' h'))

/-- The thirty-fifth name in base 36, three characters wide. -/
theorem counter_numerals_based :
    let n : Namer := .standard ⟨.empty, ⟨[]⟩, ⟨1711375629, 0, 0⟩⟩
    let pattern : Text := written "%ib" (some "36,3")
    let start (counter : Nat) : Session := ⟨counter, ⟨fun _ => 0, 0⟩⟩
    alphanumericInverse ∈ counterAlphabets ∧ 36 ≤ alphanumericInverse.length ∧
      numeral 35 36 alphanumericInverse 3 = "00z" ∧
      readBase alphanumericInverse 36 "00z" = some 35 ∧
      "%ib".toList ∈ counterTokens ∧ isNumberList "36,3" = true ∧ n.maxName = none ∧
      replaceCounters 35 pattern = .ok "00z".toList ∧
      (∀ number, replaceCounters number pattern = .ok "00z".toList → 35 = number) ∧
      ((n.expand pattern).run.run (start 34)).1 = .ok "00z".toList ∧
      ∀ counter, ((n.expand pattern).run.run (start counter)).1 = .ok "00z".toList →
        34 = counter := by
  intro n pattern start
  obtain ⟨hnumeral, hcounters, hnames⟩ := counter_numerals
  have halphabet : alphanumericInverse ∈ counterAlphabets := by decide
  have hlength : 36 ≤ alphanumericInverse.length := by decide
  have htext : numeral 35 36 alphanumericInverse 3 = "00z" := by decide +kernel
  have htoken : "%ib".toList ∈ counterTokens := by decide
  have hlist : isNumberList "36,3" = true := by decide +kernel
  have hargument : ∀ a ∈ some "36,3".toList, isNumberList a = true := by
    rintro a ⟨⟩
    exact hlist
  have hcounter : replaceCounters 35 pattern = .ok "00z".toList :=
    ok_of_toOption (by decide +kernel)
  have hname : ((n.expand pattern).run.run (start 34)).1 = .ok "00z".toList :=
    ok_of_toOption (by decide +kernel)
  obtain ⟨-, hread, -⟩ := hnumeral _ halphabet 36 (by decide) hlength 35 3
  rw [htext] at hread
  exact ⟨halphabet, hlength, htext, hread, htoken, hlist, rfl, hcounter,
    fun number h => hcounters _ htoken _ hargument 35 number _ hcounter h, hname,
    fun counter h => hnames _ htoken _ hargument n n rfl rfl (start 34) (start counter) _ hname h⟩

end Namer

end UploadTemplate
