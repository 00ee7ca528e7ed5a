import ProgramTags.Program

/-!
# Records

What is gathered from a class: an `Attribute` holds the tags of one element in order, a `Key` is
one entry of the colour legend. An attribute shows the lines its line markers span and an entry
for every other tag.
-/

namespace ProgramTags

/-- The tags gathered for one element. -/
structure Attribute where
  tags : List Tag
  deriving DecidableEq, Repr

namespace Attribute

def add (a : Attribute) (tag : Tag) : Attribute :=
  ⟨a.tags ++ [tag]⟩

/-- The lines that the attribute's line markers name. -/
def lines (a : Attribute) : List Int :=
  a.tags.filterMap Tag.line?

/-- The least and the greatest line, both zero where there is no line marker. -/
def lineSpan (a : Attribute) : Int × Int :=
  (a.lines.min?.getD 0, a.lines.max?.getD 0)

def textTags (a : Attribute) : List Tag :=
  a.tags.filter (·.kind ≠ .lineNumber)

/-- The entries of the tags that are shown as text, in order. -/
def entries (a : Attribute) : Except EntryError (List TagEntry) :=
  a.textTags.mapM Tag.entry

def display (a : Attribute) : String :=
  "Attribute(tags=[" ++ ", ".intercalate (a.tags.map Tag.display) ++ "])"

@[simp] theorem tags_add (a : Attribute) (tag : Tag) : (a.add tag).tags = a.tags ++ [tag] := rfl

end Attribute

/-- An entry of the colour legend. -/
structure Key where
  red : Int
  green : Int
  blue : Int
  key : String
  analysis : String := ""
  deriving DecidableEq, Repr

def Key.display (k : Key) : String :=
  s!"Key(red={k.red}, green={k.green}, blue={k.blue}, key={Text.quoted k.key}, " ++
    s!"analysis_type={Text.quoted k.analysis})"

/-- The key that the tag reports, if it has the parts of one. -/
def Tag.key? (tag : Tag) : Option Key :=
  match tag.kind, tag.parts? with
  | .key, some (.key red green blue label analysis) => some ⟨red, green, blue, label, analysis⟩
  | _, _ => none

theorem Tag.key?_eq_some {tag : Tag} {k : Key} (h : tag.key? = some k) : tag.kind = .key ∧
    tag.parts? = some (.key k.red k.green k.blue k.key k.analysis) := by
  unfold key? at h
  split at h
  · rename_i hkind hparts
    cases h
    exact ⟨hkind, hparts⟩
  · cases h

end ProgramTags
