import UploadTemplate.Proofs.Table
import UploadTemplate.Proofs.Text.Percent
import UploadTemplate.Proofs.Text.Pieces
import UploadTemplate.Query

/-!
# Queries and their tables

The query that a table is written as can be taken apart again: its pieces between ampersands are
the entries of the table in their order, with the name before the first equals sign of a piece and
the value behind it.

- `Query.read`: the pairs of a query, decoded.
- `Query.read_encode`: reading undoes encoding.
-/

namespace UploadTemplate.Query

/-- The pairs of a query, decoded; nothing for a piece that has no equals sign. -/
def read (query : Text) : List (Option (Text × Text)) :=
  (Text.split '&' query).map fun piece =>
    (Text.splitOnce '=' piece).map fun p => (Percent.decode p.1, Percent.decode p.2)

/-- A pair as it is written. -/
def written (e : Text × Text) : Text := Percent.encode e.1 ++ '=' :: Percent.encode e.2

theorem encode_eq_intercalate (t : Table Text) :
    encode t = List.intercalate ['&'] (t.entries.map written) := rfl

theorem not_mem_encode {c : Char} (hc : Percent.isReserved c = true) (t : Text) :
    c ∉ Percent.encode t := by
  intro h
  rw [Percent.isReserved_of_mem_encode h] at hc
  cases hc

theorem ampersand_not_mem_written (e : Text × Text) : '&' ∉ written e := by
  have hkey : '&' ∉ Percent.encode e.1 := not_mem_encode rfl e.1
  have hvalue : '&' ∉ Percent.encode e.2 := not_mem_encode rfl e.2
  simp [written, hkey, hvalue]

theorem splitOnce_written (e : Text × Text) :
    (Text.splitOnce '=' (written e)).map (fun p => (Percent.decode p.1, Percent.decode p.2)) =
      some e := by
  rw [written, Text.splitOnce_append (not_mem_encode rfl e.1), Option.map_some,
    Percent.decode_encode, Percent.decode_encode]

/-- Reading the query of a table gives its entries. The empty table has no query: an empty text is
one piece, without an equals sign. -/
theorem read_encode {t : Table Text} (h : t.entries ≠ []) :
    read (encode t) = t.entries.map some := by
  have hsplit : Text.split '&' (encode t) = t.entries.map written := by
    rw [encode_eq_intercalate]
    refine Text.split_intercalate (mt List.map_eq_nil_iff.1 h) fun piece hpiece => ?_
    obtain ⟨e, -, rfl⟩ := List.mem_map.1 hpiece
    exact ampersand_not_mem_written e
  rw [read, hsplit, List.map_map]
  exact List.map_congr_left fun e _ => splitOnce_written e

theorem encode_injective {t u : Table Text} (ht : t.entries ≠ []) (hu : u.entries ≠ [])
    (h : encode t = encode u) : t = u := by
  have hread : t.entries.map some = u.entries.map some := by
    rw [← read_encode ht, ← read_encode hu, h]
  exact Table.eq_of_entries ((List.map_inj_right fun _ _ => Option.some.inj).1 hread)

end UploadTemplate.Query
