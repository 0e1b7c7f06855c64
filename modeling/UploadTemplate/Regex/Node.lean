import UploadTemplate.Regex.CharSet
import UploadTemplate.Regex.Parser
import UploadTemplate.Text.Case
import UploadTemplate.Unicode.Script

/-!
# Patterns as they match

A pattern after its flags have been applied: every character and class is a set of characters,
every anchor a condition on a place. Flags hold from where they stand to the end of their group.
-/

namespace UploadTemplate.Regex

inductive Node where
  | empty
  | set (s : CharSet)
  /-- A condition on a place, whose words are made of Unicode characters or of ASCII ones. -/
  | look (l : Look) (unicode : Bool)
  | capture (index : Nat) (sub : Node)
  | repetition (least : Nat) (most : Option Nat) (greedy : Bool) (sub : Node)
  | concat (parts : List Node)
  | alternation (parts : List Node)

structure Flags where
  caseInsensitive : Bool
  multiLine : Bool
  dotMatchesNewLine : Bool
  swapGreed : Bool
  unicode : Bool
  crlf : Bool
  deriving DecidableEq, Repr

namespace Flags

def standard : Flags := ⟨false, false, false, false, true, false⟩

def set (f : Flags) (flag : Flag) (v : Bool) : Flags :=
  match flag with
  | .caseInsensitive => { f with caseInsensitive := v }
  | .multiLine => { f with multiLine := v }
  | .dotMatchesNewLine => { f with dotMatchesNewLine := v }
  | .swapGreed => { f with swapGreed := v }
  | .unicode => { f with unicode := v }
  | .crlf => { f with crlf := v }
  | .ignoreWhitespace => f

/-- The flags after a flag list; those after a minus sign are cleared. -/
def applyItems (enable : Bool) (f : Flags) : List FlagItem → Flags
  | [] => f
  | none :: r => applyItems false f r
  | some flag :: r => applyItems enable (f.set flag enable) r

end Flags

/-! ### Classes -/

namespace CharSet

def ofAscii : AsciiClass → CharSet
  | .alnum => union asciiDigit (union (range 'a' 'z') (range 'A' 'Z'))
  | .alpha => union (range 'a' 'z') (range 'A' 'Z')
  | .ascii => #[0, 128]
  | .blank => union (single '\t') (single ' ')
  | .cntrl => #[0, 32, 127, 128]
  | .digit => asciiDigit
  | .graph => #[33, 127]
  | .lower => range 'a' 'z'
  | .print => #[32, 127]
  | .punct => #[33, 48, 58, 65, 91, 97, 123, 127]
  | .space => asciiSpace
  | .upper => range 'A' 'Z'
  | .word => asciiWord
  | .xdigit => union asciiDigit (union (range 'a' 'f') (range 'A' 'F'))

def ofPerl (unicode : Bool) : PerlClass → CharSet
  | .digit => if unicode then digit else asciiDigit
  | .space => if unicode then space else asciiSpace
  | .word => if unicode then Unicode.word else asciiWord

/-- A property name without blanks, hyphens, underscores, case and a leading `is`. -/
def looseName (t : Text) : Text :=
  let t := (t.map Text.lowerAscii).filter fun c =>
    Text.isAscii c && !Text.isBlank c && c != '_' && c != '-'
  match t with
  | 'i' :: 's' :: r => if r = ['c'] then t else r
  | _ => t

/-- The general categories with the given loose name. -/
def categoriesNamed (name : Text) : Option (List Text) :=
  match String.ofList name with
  | "l" | "letter" => some ["Lu", "Ll", "Lt", "Lm", "Lo"]
  | "lc" | "casedletter" => some ["Lu", "Ll", "Lt"]
  | "lu" | "uppercaseletter" => some ["Lu"]
  | "ll" | "lowercaseletter" => some ["Ll"]
  | "lt" | "titlecaseletter" => some ["Lt"]
  | "lm" | "modifierletter" => some ["Lm"]
  | "lo" | "otherletter" => some ["Lo"]
  | "m" | "mark" | "combiningmark" => some ["Mn", "Mc", "Me"]
  | "mn" | "nonspacingmark" => some ["Mn"]
  | "mc" | "spacingmark" => some ["Mc"]
  | "me" | "enclosingmark" => some ["Me"]
  | "n" | "number" => some ["Nd", "Nl", "No"]
  | "nd" | "decimalnumber" | "digit" => some ["Nd"]
  | "nl" | "letternumber" => some ["Nl"]
  | "no" | "othernumber" => some ["No"]
  | "p" | "punctuation" | "punct" => some ["Pc", "Pd", "Ps", "Pe", "Pi", "Pf", "Po"]
  | "pc" | "connectorpunctuation" => some ["Pc"]
  | "pd" | "dashpunctuation" => some ["Pd"]
  | "ps" | "openpunctuation" => some ["Ps"]
  | "pe" | "closepunctuation" => some ["Pe"]
  | "pi" | "initialpunctuation" => some ["Pi"]
  | "pf" | "finalpunctuation" => some ["Pf"]
  | "po" | "otherpunctuation" => some ["Po"]
  | "s" | "symbol" => some ["Sm", "Sc", "Sk", "So"]
  | "sm" | "mathsymbol" => some ["Sm"]
  | "sc" | "currencysymbol" => some ["Sc"]
  | "sk" | "modifiersymbol" => some ["Sk"]
  | "so" | "othersymbol" => some ["So"]
  | "z" | "separator" => some ["Zs", "Zl", "Zp"]
  | "zs" | "spaceseparator" => some ["Zs"]
  | "zl" | "lineseparator" => some ["Zl"]
  | "zp" | "paragraphseparator" => some ["Zp"]
  | "c" | "other" => some ["Cc", "Cf", "Cs", "Co", "Cn"]
  | "cc" | "control" | "cntrl" => some ["Cc"]
  | "cf" | "format" => some ["Cf"]
  | "cs" | "surrogate" => some ["Cs"]
  | "co" | "privateuse" => some ["Co"]
  | "cn" | "unassigned" => some ["Cn"]
  | _ => none

/-- The script with the given loose name, by its short or its long name. -/
def scriptNamed (name : Text) : Option CharSet :=
  (Unicode.scriptNames.find? fun (short, long) =>
    looseName short.toList = name || looseName long.toList = name).map
      fun (short, _) => Unicode.ofScript short.toList

/-- The yes-or-no property with the given loose name. -/
def binaryNamed (name : Text) : Option CharSet :=
  match String.ofList name with
  | "alphabetic" | "alpha" => some Unicode.alphabetic
  | "whitespace" | "wspace" | "space" => some space
  | "cased" => some Unicode.cased
  | "caseignorable" | "ci" => some Unicode.caseIgnorable
  | "uppercase" | "upper" =>
    some (union (Unicode.ofCategories ["Lu"]) #[0x2160, 0x2170, 0x24B6, 0x24D0, 0x1F130, 0x1F14A,
      0x1F150, 0x1F16A, 0x1F170, 0x1F18A])
  | "lowercase" | "lower" =>
    some (inter Unicode.cased (diff (diff any (Unicode.ofCategories ["Lu", "Lt"]))
      #[0x2160, 0x2170, 0x24B6, 0x24D0, 0x1F130, 0x1F14A, 0x1F150, 0x1F16A, 0x1F170, 0x1F18A]))
  | "asciihexdigit" | "ahex" => some (ofAscii .xdigit)
  | "hexdigit" | "hex" =>
    some (union (ofAscii .xdigit) #[0xFF10, 0xFF1A, 0xFF21, 0xFF27, 0xFF41, 0xFF47])
  | _ => none

def generalNamed (name : Text) : Option CharSet :=
  match String.ofList name with
  | "any" => some any
  | "assigned" => some (compl (Unicode.ofCategories ["Cn"]))
  | "ascii" => some #[0, 128]
  | _ => (categoriesNamed name).map Unicode.ofCategories

/-- The set of a property class. -/
def ofProperty : Property → Except Cause CharSet
  | .named name =>
    let name := looseName name
    match binaryNamed name with
    | some s => .ok s
    | none =>
      match generalNamed name with
      | some s => .ok s
      | none =>
        match scriptNamed name with
        | some s => .ok s
        | none => .error .propertyNotFound
  | .valued excluded name value =>
    let found : Except Cause CharSet :=
      match String.ofList (looseName name) with
      | "generalcategory" | "gc" =>
        match generalNamed (looseName value) with
        | some s => .ok s
        | none => .error .propertyValueNotFound
      | "script" | "sc" | "scriptextensions" | "scx" =>
        match scriptNamed (looseName value) with
        | some s => .ok s
        | none => .error .propertyValueNotFound
      | _ => .error .propertyNotFound
    if excluded then found.map compl else found

def foldFor (f : Flags) (s : CharSet) : CharSet :=
  if f.caseInsensitive then if f.unicode then fold s else foldAscii s else s

end CharSet

namespace Tree

def faultAt {α : Type} (cause : Cause) (span : Span) : Except Fault α := .error ⟨cause, span, none⟩

/-- The complement of a class where that is asked for; without Unicode only ASCII may be left. -/
def negateFor (f : Flags) (negated : Bool) (span : Span) (s : CharSet) : Except Fault CharSet :=
  let s := if negated then CharSet.compl s else s
  if f.unicode || s.isAscii then .ok s else faultAt .invalidUtf8 span

def literalIn (f : Flags) (l : Literal) : Except Fault Char :=
  if f.unicode || Text.isAscii l.char then .ok l.char
  else if l.byte then faultAt .invalidUtf8 l.span
  else faultAt .unicodeNotAllowed l.span

mutual

/-- The set of a class. -/
def classSet (f : Flags) : ClassTree → Except Fault CharSet
  | .literal l => do return .single (← literalIn f l)
  | .range a b => do return .range (← literalIn f a) (← literalIn f b)
  | .ascii kind negated => do
    let s := CharSet.foldFor f (.ofAscii kind)
    return if negated then CharSet.compl s else s
  | .perl kind negated span => negateFor f negated span (.ofPerl f.unicode kind)
  | .property p negated span =>
    if !f.unicode then faultAt .unicodeNotAllowed span
    else
      match CharSet.ofProperty p with
      | .ok s =>
        let s := CharSet.foldFor f s
        .ok (if negated then CharSet.compl s else s)
      | .error cause => faultAt cause span
  | .bracket negated body span => do
    let s ← classSet f body
    negateFor f negated span (CharSet.foldFor f s)
  | .union items => classUnion f items
  | .binary op left right => do
    let a ← classSet f left
    let b ← classSet f right
    let a := CharSet.foldFor f a
    let b := CharSet.foldFor f b
    return match op with
      | .intersection => CharSet.inter a b
      | .difference => CharSet.diff a b
      | .symmetricDifference => CharSet.symmDiff a b

def classUnion (f : Flags) : List ClassTree → Except Fault CharSet
  | [] => .ok CharSet.nothing
  | c :: r => do
    let a ← classSet f c
    let b ← classUnion f r
    return CharSet.union a b

end

def lineLook (f : Flags) (start : Bool) : Look :=
  if f.multiLine then
    if f.crlf then if start then .startLineCrlf else .endLineCrlf
    else if start then .startLine else .endLine
  else if start then .startText else .endText

def dotSet (f : Flags) : CharSet :=
  if f.dotMatchesNewLine then CharSet.any
  else if f.crlf then CharSet.compl (.union (.single '\n') (.single '\r'))
  else CharSet.compl (.single '\n')

mutual

/-- The node of a tree under flags, with the flags after it. -/
def toNode (f : Flags) : Tree → Except Fault (Node × Flags)
  | .empty => .ok (.empty, f)
  | .flags items => .ok (.empty, f.applyItems true items)
  | .literal l =>
    if !f.unicode && l.byte && !Text.isAscii l.char then faultAt .invalidUtf8 l.span
    else .ok (.set (CharSet.foldFor f (.single l.char)), f)
  | .dot span =>
    if f.unicode then .ok (.set (dotSet f), f) else faultAt .invalidUtf8 span
  | .assertion a =>
    let look := match a with
      | .caret => lineLook f true
      | .dollar => lineLook f false
      | .look l => l
    .ok (.look look f.unicode, f)
  | .set c => do return (.set (← classSet f c), f)
  | .repetition least most greedy sub => do
    let (n, f') ← toNode f sub
    return (.repetition least most (greedy != f'.swapGreed) n, f')
  | .group kind sub => do
    match kind with
    | .capture index => return (.capture index (← toNode f sub).1, f)
    | .flags items => return ((← toNode (f.applyItems true items) sub).1, f)
  | .concat parts => do
    let (ns, f) ← toNodes f parts
    return (.concat ns, f)
  | .alternation parts => do
    let (ns, f) ← toNodes f parts
    return (.alternation ns, f)

def toNodes (f : Flags) : List Tree → Except Fault (List Node × Flags)
  | [] => .ok ([], f)
  | t :: r => do
    let (n, f) ← toNode f t
    let (ns, f) ← toNodes f r
    return (n :: ns, f)

end

end Tree

end UploadTemplate.Regex
