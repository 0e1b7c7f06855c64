import UploadTemplate.Proofs.Destination.RoundTrip
import UploadTemplate.Proofs.Files
import UploadTemplate.Store

/-!
# Destinations that were saved

A file that is saved in JSON loads as the destinations that were saved, wherever it lies and
whatever lay there before.

- `Format.ofPath_eq_json`: every extension but two, and none at all, stands for JSON.
- `Store.load_save`: what was saved is loaded.
-/

namespace UploadTemplate

namespace Format

theorem ofPath_eq_json {path : Text} (h : ∀ e, Path.extension? path = some e →
    Text.sameAscii e "yml" = false ∧ Text.sameAscii e "yaml" = false) :
    ofPath path = .json := by
  unfold ofPath
  cases he : Path.extension? path with
  | none => rfl
  | some e =>
    obtain ⟨hyml, hyaml⟩ := h e he
    simp only [hyml, hyaml]
    rfl

end Format

namespace Store

variable {fs fs' : Files} {path : Text} {ds : List Destination}

theorem exists_read?_of_load (h : load fs path = .ok ds) : ∃ old, fs.read? path = some old := by
  unfold load Files.readText? at h
  cases hread : fs.read? path with
  | none =>
    rw [hread] at h
    cases h
  | some old => exact ⟨old, rfl⟩

theorem save_eq_ok_iff : save fs path ds = .ok fs' ↔
    fs.write? path (Utf8.encode ((Format.ofPath path).write ds)) = some fs' := by
  unfold save
  cases fs.write? path (Utf8.encode ((Format.ofPath path).write ds)) <;> simp

/-- What was saved in JSON is loaded. -/
theorem load_save (hpath : Format.ofPath path = .json) (h : save fs path ds = .ok fs') :
    load fs' path = .ok ds := by
  have hread : fs'.readText? path = some (Format.write ds .json) := by
    rw [Files.readText?, Files.read?_of_write (save_eq_ok_iff.1 h), hpath, Option.bind_some,
      Utf8.decode_encode]
  unfold load
  rw [hread, hpath]
  exact congrArg (Except.mapError _) (Format.readJson_write ds)

end Store

end UploadTemplate
