import UploadTemplate.Text.Numeral

/-!
# Command lines

The words of a command line as a command. Options may come before and after the argument of a
command, in a long form, `--name value` or `--name=value`, and in a short one, `-n value`, `-nvalue`
or `-n=value`. Behind two hyphens nothing is an option.

- `Command.ofArguments`: the command, or what is wrong with the words.
-/

namespace UploadTemplate

/-- What is to be done. -/
inductive Command where
  /-- Give the text of a template. -/
  | interpret (template : Text) (input fileName : Option Text)
  /-- Give the text of a name pattern. -/
  | expandName (pattern kind : Text) (counter : Nat) (zone : Option Text) (preview : Bool)
  /-- Bring a destination file up to the current version. -/
  | migrate (path : Text) (write : Bool)
  /-- Show the request for a destination. -/
  | showRequest (path : Text) (name input fileName : Option Text)
  /-- Send a text or a file to a destination. -/
  | upload (path : Text) (name file input : Option Text) (timeout : Option Nat)
  deriving DecidableEq, Repr

/-- Why a command line is no command. -/
inductive UsageError where
  /-- Help is asked for. -/
  | help
  /-- There are no words at all. -/
  | nothingGiven
  | unknownCommand
  | unknownArgument
  /-- An option is given twice. -/
  | repeatedArgument
  | missingArgument
  | missingValue
  | invalidValue
  /-- An option without values is given one. -/
  | unneededValue
  deriving DecidableEq, Repr

namespace Command

/-! ### Grammar -/

inductive Verb where
  | parse
  | name
  | migrate
  | request
  | upload
  deriving DecidableEq, Repr

def Verb.all : List Verb := [.parse, .name, .migrate, .request, .upload]

def Verb.word : Verb → String
  | .parse => "parse"
  | .name => "name"
  | .migrate => "migrate"
  | .request => "request"
  | .upload => "upload"

def Verb.ofWord? (t : Text) : Option Verb := all.find? fun v => v.word.toList = t

inductive Switch where
  | input
  | fileName
  | kind
  | counter
  | zone
  | preview
  | write
  | name
  | file
  | timeout
  | help
  deriving DecidableEq, Repr

namespace Switch

def long : Switch → String
  | input => "input"
  | fileName => "filename"
  | kind => "type"
  | counter => "counter"
  | zone => "timezone"
  | preview => "preview"
  | write => "write"
  | name => "name"
  | file => "file"
  | timeout => "timeout"
  | help => "help"

def short : Switch → Option Char
  | input => some 'i'
  | fileName => some 'f'
  | kind => some 't'
  | counter => some 'c'
  | zone => some 'z'
  | preview => none
  | write => some 'w'
  | name => some 'n'
  | file => none
  | timeout => none
  | help => some 'h'

/-- Whether the option takes no value. -/
def isFlag (o : Switch) : Bool := o = preview || o = write || o = help

/-- What is wrong with a value of the option. -/
def fault? (o : Switch) (value : Text) : Option UsageError :=
  if o = counter ∨ o = timeout then
    if (Numeral.read Numeral.max64 value).isSome then none else some .invalidValue
  else if o = file ∧ value = [] then some .missingValue
  else none

end Switch

def Verb.options : Verb → List Switch
  | .parse => [.input, .fileName, .help]
  | .name => [.kind, .counter, .zone, .preview, .help]
  | .migrate => [.write, .help]
  | .request => [.input, .fileName, .name, .help]
  | .upload => [.file, .input, .timeout, .name, .help]

/-- Whether the argument of a command is a path, which cannot be empty. -/
def Verb.takesPath (v : Verb) : Bool := v = .migrate || v = .request || v = .upload

/-! ### Reading -/

/-- What takes a value: an option, or the command itself. -/
inductive Slot where
  | option (o : Switch)
  | argument
  deriving DecidableEq, Repr

structure Reading where
  verb : Verb
  /-- The values so far. A flag has an empty one. -/
  values : List (Slot × Text)
  /-- What is read at the moment, with its value if that has come; it is checked afterwards. -/
  current : Option (Slot × Option Text)
  /-- An option waits for its value. -/
  awaiting : Bool
  /-- Two hyphens have been passed. -/
  wordsOnly : Bool
  /-- The argument of the command has come. -/
  complete : Bool

namespace Reading

def start (v : Verb) : Reading := ⟨v, [], none, false, false, false⟩

def fault? (r : Reading) (slot : Slot) (value : Text) : Option UsageError :=
  match slot with
  | .option o => o.fault? value
  | .argument => if r.verb.takesPath ∧ value = [] then some .missingValue else none

/-- Takes over a value that has been checked. -/
def assign (r : Reading) (slot : Slot) (value : Option Text) : Except UsageError Reading :=
  match value with
  | none => .error .missingValue
  | some t =>
    if r.values.any fun e => e.1 = slot then .error .repeatedArgument
    else
      match r.fault? slot t with
      | some e => .error e
      | none => .ok { r with values := r.values ++ [(slot, t)] }

/-- Is done with what was read. -/
def settle (r : Reading) : Except UsageError Reading :=
  match r.current with
  | none => .ok r
  | some (slot, value) => { r with current := none, awaiting := false }.assign slot value

/-- An option with the value that is attached to it, if one is. -/
def option (r : Reading) (o : Switch) (attached : Option Text) : Except UsageError Reading := do
  let r ← r.settle
  match attached with
  | some t => r.assign (.option o) (some t)
  | none => pure { r with current := some (.option o, none), awaiting := true }

def flag (r : Reading) (o : Switch) : Except UsageError Reading := do
  let r ← r.settle
  if o = .help then throw .help
  r.assign (.option o) (some [])

/-- An option in its long form, without the two hyphens. -/
def longForm (r : Reading) (t : Text) : Except UsageError Reading :=
  let (name, attached) := match Text.splitOnce '=' t with
    | some (name, value) => (name, some value)
    | none => (t, none)
  match r.verb.options.find? fun o => o.long.toList = name with
  | none => .error .unknownArgument
  | some o =>
    if o.isFlag then
      if attached.isSome then .error .unneededValue else r.flag o
    else r.option o attached

/-- Options in their short forms, without the hyphen. The value of one may follow at once. -/
def shortForms (r : Reading) : Text → Except UsageError Reading
  | [] => .ok r
  | c :: rest =>
    match r.verb.options.find? fun o => o.short = some c with
    | none => .error .unknownArgument
    | some o =>
      if o.isFlag then do shortForms (← r.flag o) rest
      else
        r.option o (match rest with
          | [] => none
          | '=' :: value => some value
          | value => some value)

/-- A word that is no option. -/
def word (r : Reading) (t : Text) : Except UsageError Reading :=
  if r.complete then .error .unknownArgument
  else do
    let r ← r.settle
    pure { r with current := some (.argument, some t), complete := true }

/-- The next word of the command line. -/
def next (r : Reading) (t : Text) : Except UsageError Reading :=
  if r.wordsOnly then r.word t
  else
    match t with
    | ['-', '-'] => .ok { r with wordsOnly := true }
    | '-' :: '-' :: name => r.longForm name
    | '-' :: c :: rest => r.shortForms (c :: rest)
    | t =>
      match r.current with
      | some (slot, none) => .ok { r with current := some (slot, some t), awaiting := false }
      | _ => r.word t

def all (r : Reading) : List Text → Except UsageError Reading
  | [] => r.settle
  | t :: rest => do all (← r.next t) rest

def value? (r : Reading) (o : Switch) : Option Text :=
  (r.values.find? fun e => e.1 = .option o).map (·.2)

def number? (r : Reading) (o : Switch) : Option Nat :=
  (r.value? o).bind (Numeral.read Numeral.max64)

/-- The command with all its values. -/
def command (r : Reading) : Except UsageError Command :=
  match (r.values.find? fun e => e.1 = .argument).map (·.2) with
  | none => .error .missingArgument
  | some t => .ok <|
    match r.verb with
    | .parse => .interpret t (r.value? .input) (r.value? .fileName)
    | .name =>
      .expandName t ((r.value? .kind).getD "text") ((r.number? .counter).getD 0) (r.value? .zone)
        (r.value? .preview).isSome
    | .migrate => .migrate t (r.value? .write).isSome
    | .request => .showRequest t (r.value? .name) (r.value? .input) (r.value? .fileName)
    | .upload =>
      .upload t (r.value? .name) (r.value? .file) (r.value? .input) (r.number? .timeout)

end Reading

/-- What comes of asking for help on commands. -/
def helpOn : List Text → UsageError
  | [] => .help
  | [t] => if t = "help".toList ∨ (Verb.ofWord? t).isSome = true then .help else .unknownCommand
  | _ => .unknownCommand

/-- The command that a command line gives. -/
def ofArguments : List Text → Except UsageError Command
  | [] => .error .nothingGiven
  | t :: rest =>
    match t with
    | ['-', '-'] =>
      match rest with
      | [] => .error .nothingGiven
      | t :: _ =>
        .error (if t = "help".toList ∨ (Verb.ofWord? t).isSome = true then .unknownArgument
          else .unknownCommand)
    | '-' :: '-' :: name =>
      .error (if name = "help".toList then .help
        else if "help=".toList.isPrefixOf name then .unneededValue
        else .unknownArgument)
    | '-' :: c :: _ => .error (if c = 'h' then .help else .unknownArgument)
    | t =>
      if t = "help".toList then .error (helpOn rest)
      else
        match Verb.ofWord? t with
        | none => .error .unknownCommand
        | some v => do
          let r ← (Reading.start v).all rest
          r.command

end Command

end UploadTemplate
