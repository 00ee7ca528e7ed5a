import ProgramTags.Proofs.Document.Writing
import ProgramTags.Proofs.Reports

/-!
# How texts end

A document goes on to its closing (`closes_of_render`). The opening and the elements of records do
not, however many there are (`not_closes_of_shown`): what is not empty ends in one of `innerEnds`,
and the closing ends in none of them.
-/

namespace ProgramTags.Document

open Appendable

variable {c : Collection} {texts : List String} {text : String}

def Closes (text : String) : Prop :=
  closing.toList <:+ text.toList

theorem closes_of_render (h : render c = .ok text) : Closes text := by
  obtain ⟨texts, -, rfl⟩ := render_eq_ok_iff.mp h
  rw [Closes, String.toList_append, String.toList_append]
  exact (List.suffix_append _ _).trans (List.suffix_append _ _)

/-- What a line before the last one of a document can end in. -/
def innerEnds : List String :=
  ["<attributes>\n", "</attribute>\n", "/>\n"]

/-- The text ends in something that is not the end of a document. -/
def EndsInside (text : String) : Prop :=
  ∃ tail ∈ innerEnds, tail.toList <:+ text.toList

theorem EndsInside.of_append {start text : String} (h : EndsInside text) :
    EndsInside (start ++ text) := by
  obtain ⟨tail, hmem, htail⟩ := h
  rw [EndsInside, String.toList_append]
  exact ⟨tail, hmem, htail.trans (List.suffix_append _ _)⟩

theorem EndsInside.not_closes (h : EndsInside text) : ¬Closes text := by
  intro hclosing
  obtain ⟨tail, hmem, htail⟩ := h
  have hlength : ∀ t ∈ innerEnds, t.toList.length ≤ closing.toList.length := by decide
  have hnot : ∀ t ∈ innerEnds, ¬t.toList <:+ closing.toList := by decide
  exact hnot tail hmem (List.suffix_of_suffix_length_le htail hclosing (hlength tail hmem))

theorem attributeElement_endsInside {a : Attribute} (h : attributeElement a = .ok text) :
    text = "" ∨ EndsInside text := by
  unfold attributeElement at h
  obtain ⟨entries, -, h⟩ := Except.bind_eq_ok h
  split at h
  · exact .inl (Except.ok.inj h).symm
  · obtain ⟨first, -, h⟩ := Except.bind_eq_ok h
    obtain ⟨last, -, h⟩ := Except.bind_eq_ok h
    cases h
    exact .inr (.of_append ⟨_, .tail _ (.head _), List.suffix_rfl⟩)

theorem keyElement_endsInside {k : Key} (h : keyElement k = .ok text) : EndsInside text := by
  unfold keyElement at h
  obtain ⟨red, -, h⟩ := Except.bind_eq_ok h
  obtain ⟨green, -, h⟩ := Except.bind_eq_ok h
  obtain ⟨blue, -, h⟩ := Except.bind_eq_ok h
  cases h
  have hlast : EndsInside "\"/>\n" := ⟨"/>\n", by decide, by decide⟩
  exact hlast.of_append.of_append

theorem endsInside_of_mem_elements (h : .ok text ∈ elements c) : text = "" ∨ EndsInside text := by
  rcases List.mem_append.mp h with h | h
  · obtain ⟨a, -, ha⟩ := List.mem_map.mp h
    exact attributeElement_endsInside ha
  · obtain ⟨k, -, hk⟩ := List.mem_map.mp h
    exact .inr (keyElement_endsInside hk)

theorem EndsInside.concat {start : String} (h : EndsInside start)
    (htexts : ∀ text ∈ texts, text = "" ∨ EndsInside text) :
    EndsInside (start ++ concat texts) := by
  induction texts generalizing start with
  | nil =>
    rw [concat_nil, Appendable.append_nothing]
    exact h
  | cons text texts ih =>
    rw [concat_cons, ← String.append_assoc]
    refine ih ?_ fun t ht => htexts t (.tail _ ht)
    rcases htexts text (.head _) with rfl | htext
    · rwa [String.append_empty]
    · exact htext.of_append

/-- The records that can be shown do not close a document. -/
theorem not_closes_of_shown {rest : List (Except RenderError String)}
    (h : elements c = texts.map .ok ++ rest) : ¬Closes (opening ++ concat texts) := by
  have hopening : EndsInside opening := ⟨_, .head _, by decide⟩
  refine (hopening.concat fun text htext => ?_).not_closes
  apply endsInside_of_mem_elements (c := c)
  rw [h]
  exact List.mem_append_left _ (List.mem_map_of_mem htext)

end ProgramTags.Document
