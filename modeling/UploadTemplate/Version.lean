import UploadTemplate.Text.Numeral

/-!
# Versions

A version is text: numbers with dots between them. Versions are compared number by number, and
one that ends earlier counts as if it went on with zeros.
-/

namespace UploadTemplate.Version

/-- The numbers of a version. A part that is no number of sixty-four bits counts as zero. -/
def parts (t : Text) : List Nat :=
  (Text.split '.' (Text.trim t)).map fun p =>
    (Numeral.read Numeral.max64 (Text.trim p)).getD 0

/-- Compares numbers from the first on; missing ones are zero. -/
def compareParts : List Nat → List Nat → Ordering
  | [], bs => if bs.all (· == 0) then .eq else .lt
  | a :: as, [] => if (a :: as).all (· == 0) then .eq else .gt
  | a :: as, b :: bs => (compare a b).then (compareParts as bs)

def compare (a b : Text) : Ordering := compareParts (parts a) (parts b)

/-- The last version whose responses are described by a kind alone. -/
def lastWithResponseKinds : Text := "12.3.1"

/-- The last version whose calls stand between dollar signs. -/
def lastWithDollars : Text := "13.7.1"

def current : Text := "14.0.0"

/-- Whether a version is at most a limit; a missing one is. -/
def isAtMost (version : Option Text) (limit : Text) : Bool :=
  match version with
  | none => true
  | some v => compare v limit != .gt

/-- Whether a version comes before the current one; a missing one does. -/
def isOutdated (version : Option Text) : Bool :=
  match version with
  | none => true
  | some v => compare v current == .lt

end UploadTemplate.Version
