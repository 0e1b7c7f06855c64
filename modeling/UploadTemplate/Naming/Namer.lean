import UploadTemplate.Error
import UploadTemplate.Naming.Alphabet
import UploadTemplate.Naming.Sanitize
import UploadTemplate.Naming.Surroundings
import UploadTemplate.Naming.Token
import UploadTemplate.Template.Escaped
import UploadTemplate.Text.Case

/-!
# Expanding names

A name pattern is text with tokens for the window, the image, the date, a counter, the user,
random characters and more. The tokens are replaced kind by kind in a fixed order, so what one
token gives may complete a token that is replaced later. The result is made fit for its use and
cut to a greatest length.

- `Namer.expand`: the text of a pattern.
- `Namer.expandKeepingEscapes`: the same for the runs of a text with escapes.

In one call the clock stands still and the counter moves at most once.
-/

namespace UploadTemplate

/-- What a name is used for. -/
inductive NameKind where
  | text
  | fileName
  | filePath
  | url
  deriving DecidableEq, Repr

namespace NameKind

/-- The kind that a text names. -/
def ofText? (t : Text) : Option NameKind :=
  match String.ofList (Text.lower t) with
  | "text" => some .text
  | "filename" | "file" => some .fileName
  | "filepath" | "path" => some .filePath
  | "url" => some .url
  | _ => none

/-- The complaint about a text that names no kind. -/
def unknown (t : Text) : Text := "unknown name type: " ++ Text.lower t

def sanitize : NameKind → Text → Text
  | .text => id
  | .fileName => Naming.sanitizeFileName
  | .filePath => Naming.sanitizePath
  | .url => Naming.sanitizeUrl

end NameKind

/-- What changes while names are expanded: the counter and the random draws. -/
structure Session where
  counter : Nat
  draws : Draws

/-- A computation that may change the session and may end with an error. -/
abbrev Naming (α : Type) := ExceptT Error (StateM Session) α

namespace Naming

/-- A draw of the session. -/
def draw {α : Type} (f : Draws → α × Draws) : Naming α :=
  modifyGet fun s =>
    let (a, d) := f s.draws
    (a, { s with draws := d })

/-- A computation that changes the draws of the session alone. -/
def ofDrawing {α : Type} (x : Drawing Error α) : Naming α :=
  ExceptT.mk (modifyGet fun s =>
    let (r, d) := x.run.run s.draws
    (r, { s with draws := d }))

end Naming

/-- How names are expanded. -/
structure Namer where
  kind : NameKind
  title : Option Text
  process : Option Text
  width : Option Nat
  height : Option Nat
  zone : Option Clock.Zone
  /-- Some errors are shown in the name. -/
  preview : Bool
  maxTitle : Option Nat
  maxName : Option Nat
  surroundings : Surroundings

namespace Namer

/-- A namer for plain text. -/
def standard (s : Surroundings) : Namer :=
  ⟨.text, none, none, none, none, none, false, none, none, s⟩

/-- What all runs of one call share. -/
structure Shared where
  reading : Clock.Reading
  timestamp : Int
  twelveHour : Bool
  /-- The number of the counter, should the call need one. -/
  number : Nat

def truncate (limit : Option Nat) (t : Text) : Text :=
  match limit with
  | some n => t.take n
  | none => t

/-- A title as part of a name. -/
def sanitizeInput (n : Namer) (t : Text) : Text :=
  let t := Text.replace " " "_" (Text.trim t)
  let t := match n.kind with
    | .fileName | .filePath => Naming.sanitizeFileName t
    | .text | .url => t
  truncate n.maxTitle t

/-! ### Values of tokens -/

def windowValues (n : Namer) : List (Text × Text) :=
  (n.title.map fun t => ("%t".toList, n.sanitizeInput t)).toList ++
    (n.process.map fun t => ("%pn".toList, n.sanitizeInput t)).toList

def imageValues (n : Namer) : List (Text × Text) :=
  let size (x : Option Nat) : Text := (x.map Numeral.decimal).getD []
  [("%width", size n.width), ("%height", size n.height)]

/-- The tokens of date and time; where one token begins with another the longer one comes first. -/
def dateValues (s : Shared) : List (Text × Text) :=
  let r := s.reading
  let month := Clock.monthNames.getD (r.month - 1) []
  let weekday := Clock.weekdayNames.getD r.weekday []
  let hour := if s.twelveHour then (if r.hour % 12 = 0 then 12 else r.hour % 12) else r.hour
  let two := Numeral.padded 2
  [("%mon2", month), ("%mon", month), ("%yy", two (r.year % 100).toNat),
    ("%y", Numeral.signed r.year), ("%mo", two r.month), ("%d", two r.day), ("%h", two hour),
    ("%mi", two r.minute), ("%ms", Numeral.padded 3 r.milli), ("%s", two r.second),
    ("%wy", two r.week), ("%w2", weekday), ("%w", weekday),
    ("%pm", if 12 ≤ r.hour then "PM" else "AM"), ("%unix", Numeral.signed s.timestamp)]

def machineValues (n : Namer) : List (Text × Text) :=
  let e := n.surroundings.environment
  let newLine : List (Text × Text) := if n.kind = .text then [("%n", ['\n'])] else []
  ("%uln", e.login?) :: ("%un", e.user?) :: ("%cn", e.machine?) :: newLine

/-! ### Counters -/

/-- The counters of a fixed base. -/
def fixedBases : List (Text × Nat × Text) :=
  [("%iAa", 62, Naming.alphanumeric), ("%iaA", 62, Naming.alphanumericInverse),
    ("%ia", 36, Naming.alphanumericInverse), ("%iA", 36, Naming.alphanumeric),
    ("%ix", 16, Naming.alphanumericInverse), ("%iX", 16, Naming.alphanumeric),
    ("%i", 10, Naming.numbers)]

/-- The counter in the base of its argument, which is ten if there is none. -/
def inBase (number : Nat) (alphabet : Text) (arguments : List Nat) : Except Error Text :=
  let base := arguments.getD 0 10
  if base < 2 ∨ alphabet.length < base then .error (.invalidBase alphabet.length base)
  else .ok (Naming.numeral number base alphabet (arguments.getD 1 0))

def replaceCounters (number : Nat) (t : Text) : Except Error Text := do
  let t ← Naming.replaceNumeric "%ib" (inBase number Naming.alphanumericInverse) t
  let t ← Naming.replaceNumeric "%iB" (inBase number Naming.alphanumeric) t
  fixedBases.foldlM (fun t (token, base, alphabet) =>
    Naming.replaceNumeric token
      (fun arguments => .ok (Naming.numeral number base alphabet (arguments.getD 0 0))) t) t

/-- Replaces the counters of a run. A run with a counter moves the counter of the session to the
number of the call. -/
def expandCounters (s : Shared) (t : Text) : Naming Text :=
  if Text.contains "%i" t then do
    modify fun session => { session with counter := s.number }
    match replaceCounters s.number t with
    | .ok t => return t
    | .error e => throw e
  else return t

/-! ### Random tokens -/

def randomTokens : List (Text × Text) :=
  [("%rna", Naming.nonAmbiguous), ("%rn", Naming.numbers), ("%ra", Naming.alphanumeric),
    ("%rx", Naming.hexadecimal), ("%rX", Naming.hexadecimalUpper)]

def expandRandom (t : Text) : Naming Text :=
  randomTokens.foldlM (fun t (token, alphabet) =>
    Naming.replaceNumeric token
      (fun arguments =>
        Naming.draw (Naming.randomChars alphabet (min (arguments.getD 0 1) Naming.lengthLimit)))
      t) t

/-- A line of a text file that is not blank, without blanks around it. -/
def randomLine (n : Namer) (argument : Option Text) : Naming Text :=
  let path := Text.trim (argument.getD [])
  match n.surroundings.files.readText? path with
  | none =>
    let e : Error := .invalidTextFile path
    if n.preview then return e.message else throw e
  | some content =>
    let lines := ((Text.lines content).map Text.trim).filter fun l => !l.isEmpty
    if lines.isEmpty then return []
    else do
      let i ← Naming.draw (Draws.pick lines.length)
      return lines.getD i []

def guid : Naming Text := do
  let bytes ← Naming.draw (Naming.randomBytes 16)
  return Naming.guidText bytes

def expandGuids (t : Text) : Naming Text := do
  let never (_ : Text) : Bool := false
  let t ← Naming.replaceToken "%GUID" never
    (fun _ => do return (← guid).map Text.upperAscii) t
  Naming.replaceToken "%guid" never (fun _ => guid) t

/-! ### Expansion -/

/-- The text of one run of a pattern. -/
def expandRun (n : Namer) (s : Shared) (t : Text) : Naming Text :=
  if t.isEmpty then return []
  else do
    let t := Naming.replaceEach (n.windowValues ++ n.imageValues ++ dateValues s) t
    let t ← expandCounters s t
    let t := Naming.replaceEach n.machineValues t
    let t ← expandRandom t
    let t ← Naming.replaceToken "%rf" (fun _ => true) n.randomLine t
    let t ← expandGuids t
    return truncate n.maxName (n.kind.sanitize t)

/-- What the runs of a pattern share. -/
def shared (n : Namer) (pattern : Text) (counter : Nat) : Shared :=
  { reading := n.surroundings.now.reading n.zone
    timestamp := n.surroundings.now.seconds
    twelveHour := Text.contains "%pm" pattern
    number := counter + 1 }

/-- The text of a pattern. -/
def expand (n : Namer) (pattern : Text) : Naming Text := do
  let session ← get
  n.expandRun (n.shared pattern session.counter) pattern

/-- The text of a pattern whose escaped characters, with their escapes, are kept. -/
def expandKeepingEscapes (n : Namer) (escape : Char) (pattern : Text) : Naming Text := do
  let session ← get
  Escaped.mapRuns escape (n.expandRun (n.shared pattern session.counter)) pattern

end Namer

end UploadTemplate
