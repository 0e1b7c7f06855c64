import UploadTemplate.Command.Arguments

/-!
# Help

What is said about the command line.

- `Command.help`: every command with its argument and its options.
- `UsageError.message`: a command line that gives no command.
-/

namespace UploadTemplate

namespace Command

namespace Verb

def about : Verb → String
  | .parse => "Interpret a template"
  | .name => "Expand name tokens"
  | .migrate => "Bring destinations to the current version"
  | .request => "Print the request of a destination"
  | .upload => "Upload a file or a text to a destination"

/-- What the argument is called. -/
def argument : Verb → String
  | .parse => "TEMPLATE"
  | .name => "PATTERN"
  | .migrate | .request | .upload => "FILE"

end Verb

namespace Switch

/-- What the value is called, of an option that takes one. -/
def value? : Switch → Option String
  | input => some "TEXT"
  | fileName | name => some "NAME"
  | kind => some "KIND"
  | counter => some "NUMBER"
  | zone => some "ZONE"
  | file => some "PATH"
  | timeout => some "SECONDS"
  | preview | write | help => none

def about : Switch → String
  | input => "Text for the templates"
  | fileName => "File name for the templates"
  | kind => "text, filename, filepath or url"
  | counter => "Value of the counter before"
  | zone => "Time zone, such as Europe/Berlin"
  | preview => "Show some errors in the name"
  | write => "Save the file instead of printing it"
  | name => "Destination to use where there are several"
  | file => "File to send"
  | timeout => "Longest time to wait for an answer"
  | help => "Print help"

end Switch

/-- A text with blanks after it up to a width. -/
def column (width : Nat) (t : Text) : Text := t ++ List.replicate (width - t.length) ' '

def Switch.helpLine (o : Switch) : Text :=
  let short : Text := match o.short with
    | some c => ['-', c, ',', ' ']
    | none => "    "
  let value : Text := match o.value? with
    | some v => " <" ++ v.toList ++ ">"
    | none => []
  "    " ++ column 26 (short ++ "--" ++ o.long.toList ++ value) ++ o.about.toList ++ ['\n']

def Verb.helpLines (v : Verb) : Text :=
  "  " ++ column 28 (v.word.toList ++ " <" ++ v.argument.toList ++ ">") ++ v.about.toList ++
    '\n' :: v.options.flatMap Switch.helpLine

/-- The help on the whole command line. -/
def help : Text := "Usage: <COMMAND> [OPTIONS]\n\nCommands:\n" ++ Verb.all.flatMap Verb.helpLines

end Command

def UsageError.message : UsageError → Text
  | .help => []
  | .nothingGiven => "no command is given"
  | .unknownCommand => "there is no such command"
  | .unknownArgument => "unexpected argument"
  | .repeatedArgument => "an argument is given twice"
  | .missingArgument => "an argument is missing"
  | .missingValue => "an option has no value"
  | .invalidValue => "invalid value of an option"
  | .unneededValue => "an option that takes no value is given one"

end UploadTemplate
