import UploadTemplate.Json.Reader
import UploadTemplate.Json.Writer
import UploadTemplate.Proofs.Json.Literal
import UploadTemplate.Proofs.Table

/-!
# Reading what was written

The indented text of a value without numbers reads back as the value, with the members of its
objects in order, as long as no more arrays and objects are open at once than may be.

- `Json.arranged v`: the value with its members in order.
- `Build.Carries t b b'`: what reading a piece of text adds to what has been read.
- `Json.read_pretty`: the text of a value reads back.
-/

namespace UploadTemplate.Json

mutual

/-- The value with the members of its objects in order, as the reader keeps them. -/
def arranged : Json → Json
  | .array items => .array (arrangedItems items)
  | .object members => .object (Entries.arrange (arrangedMembers members))
  | v => v

def arrangedItems : List Json → List Json
  | [] => []
  | v :: r => arranged v :: arrangedItems r

def arrangedMembers : List (Text × Json) → List (Text × Json)
  | [] => []
  | (k, v) :: r => (k, arranged v) :: arrangedMembers r

end

theorem arrangedItems_eq_map (items : List Json) : arrangedItems items = items.map arranged := by
  induction items with
  | nil => rfl
  | cons v r ih => rw [arrangedItems, ih, List.map_cons]

theorem arrangedMembers_eq_self {members : List (Text × Json)}
    (h : ∀ m ∈ members, arranged m.2 = m.2) : arrangedMembers members = members := by
  induction members with
  | nil => rfl
  | cons m r ih =>
    obtain ⟨k, v⟩ := m
    have ih := ih fun m hm => h m (List.mem_cons_of_mem _ hm)
    rw [arrangedMembers, h (k, v) List.mem_cons_self, ih]

/-- A value without numbers in which at most `n` arrays and objects are open at once. -/
inductive IsShallow : Nat → Json → Prop where
  | null {n : Nat} : IsShallow n .null
  | bool {n : Nat} (b : Bool) : IsShallow n (.bool b)
  | string {n : Nat} (s : Text) : IsShallow n (.string s)
  | array {n : Nat} {items : List Json} : (∀ v ∈ items, IsShallow n v) →
      IsShallow (n + 1) (.array items)
  | object {n : Nat} {members : List (Text × Json)} : (∀ m ∈ members, IsShallow n m.2) →
      IsShallow (n + 1) (.object members)

namespace Build

theorem run_append {b b' : Build} {l : List Lexeme} (h : b.run l = .ok b') (r : List Lexeme) :
    b.run (l ++ r) = b'.run r := by
  induction l generalizing b with
  | nil => cases h; rfl
  | cons x l ih =>
    rw [run] at h
    rw [List.cons_append, run]
    cases hx : b.step x with
    | error e => rw [hx] at h; cases h
    | ok m => rw [hx] at h; exact ih h

/-- Between two tokens, reading `t` takes what has been read from `b` to `b'`. -/
def Carries (t : Text) (b b' : Build) : Prop :=
  ∀ s : Scan, s.inside = .blank → (s.run t).1.inside = .blank ∧ b.run (s.run t).2 = .ok b'

theorem Carries.trans {t u : Text} {a b c : Build} (h : Carries t a b) (h' : Carries u b c) :
    Carries (t ++ u) a c := by
  intro s hs
  obtain ⟨hin, hrun⟩ := h s hs
  obtain ⟨hin', hrun'⟩ := h' _ hin
  rw [Scan.run_append]
  exact ⟨hin', (run_append hrun _).trans hrun'⟩

/-- A character that is a token by itself. -/
theorem carries_char {c : Char} {token : Token} (hc : Scan.opening c = (.blank, some token))
    {b b' : Build} (h : ∀ seen, b.step ⟨token, seen⟩ = .ok b') : Carries [c] b b' := by
  rintro ⟨_, p, q⟩ rfl
  simp only [Scan.run, Scan.step, hc, Option.map_some, Option.toList_some, List.nil_append,
    List.append_nil, run, h]
  exact ⟨trivial, rfl⟩

theorem carries_nil (b : Build) : Carries [] b b := fun _ hs => ⟨hs, rfl⟩

theorem carries_blank {c : Char} (h : Scan.isBlank c = true) (b : Build) : Carries [c] b b := by
  have hc : Scan.opening c = (.blank, none) := if_pos h
  rintro ⟨_, p, q⟩ rfl
  simp [Scan.run, Scan.step, hc, run]

theorem carries_blanks {t : Text} (h : ∀ c ∈ t, Scan.isBlank c = true) (b : Build) :
    Carries t b b := by
  induction t with
  | nil => exact carries_nil b
  | cons c t ih =>
    exact (carries_blank (h c List.mem_cons_self) b).trans
      (ih fun d hd => h d (List.mem_cons_of_mem c hd))

theorem carries_newLine (level : Nat) (b : Build) : Carries (newLine level) b b := by
  refine carries_blanks (fun c hc => ?_) b
  rcases List.mem_cons.1 hc with rfl | hc
  · rfl
  · rw [List.eq_of_mem_replicate hc]
    rfl

theorem carries_literal {v : Text} {b b' : Build}
    (h : ∀ seen, b.step ⟨.string v, seen⟩ = .ok b') : Carries (Quoted.literal v) b b' := by
  rintro ⟨_, p, q⟩ rfl
  have hopen : (Scan.step ⟨.blank, p, q⟩ '"').1.inside = .string [] := rfl
  obtain ⟨hin, seen, hout⟩ := Scan.run_literal hopen (Scan.spells_encode v).holds
  have hl : (Scan.step ⟨.blank, p, q⟩ '"').2 = [] := rfl
  have hliteral : Quoted.literal v = inQuotes (Quoted.encode v) := rfl
  rw [hliteral, hout, hl, List.nil_append, run, h]
  exact ⟨hin, rfl⟩

theorem carries_word {c : Char} {token : Token} {left : Text}
    (hc : Scan.opening c = (.word token left, none)) (hne : left ≠ []) {b b' : Build}
    (h : ∀ seen, b.step ⟨token, seen⟩ = .ok b') : Carries (c :: left) b b' := by
  have hword : ∀ s : Scan, s.inside = .word token left →
      (s.run left).1.inside = .blank ∧ b.run (s.run left).2 = .ok b' := by
    clear hc
    induction left with
    | nil => exact absurd rfl hne
    | cons d left ih =>
      rintro ⟨_, p, q⟩ rfl
      by_cases hl : left = []
      · subst hl
        simp only [Scan.run, Scan.step, List.isEmpty_nil, if_true, List.append_nil, run, h]
        exact ⟨trivial, rfl⟩
      · have hempty : left.isEmpty = false := by simpa using hl
        simpa [Scan.run, Scan.step, hempty] using ih hl ⟨.word token left, p, q.after d⟩ rfl
  rintro ⟨_, p, q⟩ rfl
  simpa [Scan.run, Scan.step, hc] using hword ⟨.word token left, q.seeing c, q.after c⟩ rfl

/-- Where a value may begin, around which `levels` are open. -/
def Awaits (b : Build) (levels : List Level) : Prop :=
  ∀ l : Lexeme, l.token ≠ .endArray → b.step l = beginValue levels l

theorem awaits_value (levels : List Level) : Awaits (.value levels) levels := fun _ _ => rfl

theorem awaits_item (first : Bool) (items : List Json) (levels : List Level) :
    Awaits (.item first items levels) (.array items :: levels) := by
  rintro ⟨token, seen⟩ h
  cases token <;> first | rfl | exact absurd rfl h

variable {n level : Nat} {levels : List Level}

/-- The text of the value completes it wherever it may begin. -/
def Completes (n level : Nat) (v : Json) : Prop :=
  ∀ (b : Build) (levels : List Level), Awaits b levels → levels.length + n < depthLimit →
    Carries (writeIndented level v) b (complete (arranged v) levels)

theorem carries_items {items : List Json} (hne : items ≠ [])
    (h : ∀ v ∈ items, Completes n level v) (hn : levels.length + (n + 1) < depthLimit)
    (first : Bool) (before : List Json) :
    Carries (indentedItems level items) (.item first before levels)
      (.afterItem ((arrangedItems items).reverse ++ before) levels) := by
  induction items generalizing first before with
  | nil => exact absurd rfl hne
  | cons v r ih =>
    have hv : Carries (writeIndented level v) (.item first before levels)
        (.afterItem (arranged v :: before) levels) :=
      h v List.mem_cons_self _ _ (awaits_item first before levels)
        (by rw [List.length_cons]; omega)
    have hhead := (carries_newLine level (.item first before levels)).trans hv
    rw [indentedItems, arrangedItems, List.reverse_cons, List.append_assoc _ [_] before]
    by_cases hr : r = []
    · subst hr
      exact hhead.trans (carries_nil _)
    · have hcomma : Carries [','] (.afterItem (arranged v :: before) levels)
          (.item false (arranged v :: before) levels) := carries_char rfl fun _ => rfl
      have hrest := ih hr (fun w hw => h w (List.mem_cons_of_mem v hw)) false (arranged v :: before)
      rw [if_neg (by simpa using hr)]
      exact hhead.trans (hcomma.trans hrest)

theorem carries_members {members : List (Text × Json)} (hne : members ≠ [])
    (h : ∀ m ∈ members, Completes n level m.2) (hn : levels.length + (n + 1) < depthLimit)
    (first : Bool) (before : List (Text × Json)) :
    Carries (indentedMembers level members) (.name first before levels)
      (.afterMember ((arrangedMembers members).foldl
        (fun acc e => Entries.insert e.1 e.2 acc) before) levels) := by
  induction members generalizing first before with
  | nil => exact absurd rfl hne
  | cons m r ih =>
    obtain ⟨k, v⟩ := m
    have hkey : Carries (Quoted.literal k) (.name first before levels) (.colon before k levels) :=
      carries_literal fun _ => rfl
    have hcolon : Carries ": ".toList (.colon before k levels)
        (.value (.object before k :: levels)) :=
      Carries.trans (t := [':']) (u := [' ']) (carries_char rfl fun _ => rfl) (carries_blank rfl _)
    have hv : Carries (writeIndented level v) (.value (.object before k :: levels))
        (.afterMember (Entries.insert k (arranged v) before) levels) :=
      h (k, v) List.mem_cons_self _ _ (awaits_value _) (by rw [List.length_cons]; omega)
    have hhead := (((carries_newLine level _).trans hkey).trans hcolon).trans hv
    rw [indentedMembers, arrangedMembers, List.foldl_cons]
    by_cases hr : r = []
    · subst hr
      exact hhead.trans (carries_nil _)
    · have hcomma : Carries [','] (.afterMember (Entries.insert k (arranged v) before) levels)
          (.name false (Entries.insert k (arranged v) before) levels) :=
        carries_char rfl fun _ => rfl
      have hrest := ih hr (fun w hw => h w (List.mem_cons_of_mem _ hw)) false
        (Entries.insert k (arranged v) before)
      rw [if_neg (by simpa using hr)]
      exact hhead.trans (hcomma.trans hrest)

end Build

open Build

/-- One level deeper, the text of a value is complete where the value is. -/
theorem IsShallow.completes {n : Nat} {v : Json} (h : IsShallow n v) (level : Nat) :
    Completes n level v := by
  induction h generalizing level with
  | null =>
    intro b levels hb hn
    exact carries_word rfl (by decide) fun seen => hb _ (by nofun)
  | bool c =>
    intro b levels hb hn
    cases c with
    | true => exact carries_word rfl (by decide) fun seen => hb _ (by nofun)
    | false => exact carries_word rfl (by decide) fun seen => hb _ (by nofun)
  | string s =>
    intro b levels hb hn
    exact carries_literal fun seen => hb _ (by nofun)
  | @array n items _ ih =>
    intro b levels hb hn
    have hopen : Carries ['['] b (.item true [] levels) := by
      refine carries_char rfl fun seen => (hb _ (by nofun)).trans ?_
      exact if_neg (by omega)
    rw [writeIndented, arranged]
    by_cases hi : items = []
    · subst hi
      exact hopen.trans (u := [']']) (carries_char rfl fun _ => rfl)
    · have hitems := carries_items hi (fun v hv => ih v hv (level + 1)) hn true []
      have hclose : Carries [']'] (.afterItem (arrangedItems items).reverse levels)
          (complete (.array (arrangedItems items)) levels) :=
        carries_char rfl fun _ => by rw [step, List.reverse_reverse]
      rw [List.append_nil] at hitems
      rw [if_neg (by simpa using hi)]
      exact ((hopen.trans hitems).trans (carries_newLine level _)).trans hclose
  | @object n members _ ih =>
    intro b levels hb hn
    have hopen : Carries ['\x7b'] b (.name true [] levels) := by
      refine carries_char rfl fun seen => (hb _ (by nofun)).trans ?_
      exact if_neg (by omega)
    rw [writeIndented, arranged]
    by_cases hi : members = []
    · subst hi
      exact hopen.trans (u := ['\x7d']) (carries_char rfl fun _ => rfl)
    · have hmembers := carries_members hi (fun m hm => ih m hm (level + 1)) hn true []
      have hclose : Carries ['\x7d']
          (.afterMember (Entries.arrange (arrangedMembers members)) levels)
          (complete (.object (Entries.arrange (arrangedMembers members))) levels) :=
        carries_char rfl fun _ => rfl
      rw [if_neg (by simpa using hi)]
      exact ((hopen.trans hmembers).trans (carries_newLine level _)).trans hclose

/-- The text of a value reads back as the value. -/
theorem read_pretty {n : Nat} {v : Json} (h : IsShallow n v) (hn : n < depthLimit) :
    read (pretty v) = .ok (arranged v) := by
  have hlevels : ([] : List Level).length + n < depthLimit := by simpa using hn
  obtain ⟨hin, hrun⟩ := h.completes 0 _ _ (awaits_value []) hlevels .start rfl
  have hend : (Scan.start.run (pretty v)).1.atEnd = [] := by
    unfold Scan.atEnd
    rw [pretty, hin]
  simp only [read, tokens, hend, List.append_nil]
  rw [pretty, hrun]
  rfl

end UploadTemplate.Json
