import UploadTemplate.Table
import UploadTemplate.Text.Percent

/-!
# Queries

The text after the question mark of a URL: pairs of a name and a value, joined by ampersands.
-/

namespace UploadTemplate.Query

/-- The pairs of a table in order, names and values percent-encoded. -/
def encode (t : Table Text) : Text :=
  List.intercalate "&" (t.entries.map fun e =>
    Percent.encode e.1 ++ '=' :: Percent.encode e.2)

/-- The name and the value of one pair as they are written; without an equals sign the value is
empty. -/
def pair (t : Text) : Text × Text := (Text.splitOnce '=' t).getD (t, [])

/-- The pairs of a query as they are written; empty ones are left out. -/
def pairs (t : Text) : List (Text × Text) :=
  ((Text.split '&' t).filter fun p => !p.isEmpty).map pair

/-- A table with the decoded pairs of a query. What stands in the table stays, of two pairs under
one name the earlier counts, and a pair without a name is left out. -/
def mergeInto (t : Table Text) (query : Text) : Table Text :=
  (pairs query).foldl (fun t p =>
    let name := Percent.decode p.1
    if name.isEmpty then t else t.insertNew name (Percent.decode p.2)) t

end UploadTemplate.Query
