import UploadTemplate.Text.Cut
import UploadTemplate.Text.Numeral

/-!
# Name tokens

A token is a fixed text, `%i`, that may be followed by an argument in braces, `%i{4}`. Braces that
do not hold an argument of the right form are ordinary text.
-/

namespace UploadTemplate.Naming

/-- The text between a brace at the beginning and the next closing brace. -/
def braced? : Text → Option Text
  | '\x7b' :: r => if '\x7d' ∈ r then some (r.takeWhile (· != '\x7d')) else none
  | _ => none

/-- Finds a token with the argument after it, if that is accepted. -/
def tokenWith (token : Text) (accepts : Text → Bool) : Text.Finder (Option Text) := fun t =>
  if token.isPrefixOf t then
    match (braced? (t.drop token.length)).filter accepts with
    | some argument => some (some argument, token.length + argument.length + 2)
    | none => some (none, token.length)
  else none

/-- The numbers of a list with commas; what is no number of sixty-four bits is left out. -/
def numbersOf (argument : Text) : List Nat :=
  (Text.split ',' argument).filterMap fun n => Numeral.read Numeral.max64 (Text.trim n)

/-- One or more numbers with commas between them. -/
def isNumberList (argument : Text) : Bool :=
  !argument.isEmpty &&
    (Text.split ',' argument).all fun n => (Numeral.read Numeral.max64 (Text.trim n)).isSome

/-- Replaces every occurrence of a token with its argument, from left to right. What has been put
in is not searched again. -/
def replaceToken {m : Type → Type} [Monad m] (token : Text) (accepts : Text → Bool)
    (replacement : Option Text → m Text) (t : Text) : m Text :=
  Text.refillM replacement (Text.cut (tokenWith token accepts) t)

/-- As `replaceToken`, for arguments that are lists of numbers. -/
def replaceNumeric {m : Type → Type} [Monad m] (token : Text) (replacement : List Nat → m Text)
    (t : Text) : m Text :=
  replaceToken token isNumberList
    (fun argument => replacement ((argument.map numbersOf).getD [])) t

/-- Replaces fixed tokens by fixed values, one token after the other. -/
def replaceEach (values : List (Text × Text)) (t : Text) : Text :=
  values.foldl (fun t v => Text.replace v.1 v.2 t) t

end UploadTemplate.Naming
