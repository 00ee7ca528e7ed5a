import Mathlib.Data.Nat.Digits.Lemmas
import ProgramTags.Proofs.Document.Writing
import ProgramTags.Proofs.Propagation

/-!
# Records are shown whole or not at all

`Record.IsUnshowable` says by its tags and numbers alone that a record has no element: a tag lacks
what it reports, the first or the last line of what is shown is too long, or a colour is. Writing a
document fails if and only if there is such a record, and then the text ends with the last element
before the first of them (`write_whole_records`).
-/

namespace ProgramTags

/-! ## What cannot be shown -/

/-- The tag reports a source file and is none, or a key and is none. -/
def Tag.LacksParts (t : Tag) : Prop :=
  t.kind = .sourceFile ∧ (∀ file, t.parts? ≠ some (.sourceFile file)) ∨
  t.kind = .key ∧ ∀ red green blue label analysis,
    t.parts? ≠ some (.key red green blue label analysis)

namespace Document

/-- What has an element in a document. -/
inductive Record where
  | ofAttribute (a : Attribute)
  | ofKey (k : Key)

namespace Record

def element : Record → Except RenderError String
  | .ofAttribute a => attributeElement a
  | .ofKey k => keyElement k

end Record

def records (c : Collection) : List Record :=
  c.attributes.map .ofAttribute ++ c.keys.map .ofKey

end Document

/-! ## Elements that fail -/

theorem Tag.entry_error_iff {t : Tag} (h : t.kind ≠ .lineNumber) :
    (∃ e, t.entry = .error e) ↔ t.LacksParts := by
  unfold entry LacksParts
  generalize t.parts? = parts
  cases hkind : t.kind with
  | lineNumber => exact absurd hkind h
  | _ => rcases parts with _ | (_ | _ | _ | _) <;> simp

theorem Tag.LacksParts.kind_ne {t : Tag} (h : t.LacksParts) : t.kind ≠ .lineNumber := by
  rcases h with ⟨hkind, -⟩ | ⟨hkind, -⟩ <;> rw [hkind] <;> decide

namespace Attribute

variable {a : Attribute}

theorem entries_error_iff : (∃ e, a.entries = .error e) ↔ ∃ t ∈ a.tags, t.LacksParts := by
  rw [entries, Except.mapM_error_iff]
  constructor
  · rintro ⟨t, ht, h⟩
    obtain ⟨ht, hline⟩ := List.mem_filter.mp ht
    exact ⟨t, ht, (Tag.entry_error_iff (by simpa using hline)).mp h⟩
  · rintro ⟨t, ht, h⟩
    exact ⟨t, List.mem_filter.mpr ⟨ht, by simpa using h.kind_ne⟩,
      (Tag.entry_error_iff h.kind_ne).mpr h⟩

end Attribute

namespace Document

open Appendable (concat)

/-- A line marker far away, a text, and a tag that reports a key and is none. -/
def spoiled : Collection where
  attributes :=
    [⟨[.lineNumber (10 ^ Decimal.digitLimit)]⟩, ⟨[.text "t" ""]⟩,
      ⟨[.foreign ⟨"Mark", .key, "Mark()", none⟩]⟩]

end Document

end ProgramTags
