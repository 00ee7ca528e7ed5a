import ProgramTags.Document
import ProgramTags.Proofs.Appending

/-!
# Writing a document as appending

The writer of a document appends one element after the other. `elements c` are the elements of the
records of `c`, or why they cannot be shown. Either all of them are written, between the opening and
the closing (`render_eq_ok_iff`), or those before the first that cannot be shown
(`run_write_eq_error_iff`).
-/

namespace ProgramTags

instance : Appendable String where
  nothing := ""
  append_nothing _ := String.append_empty
  append_assoc _ _ _ := String.append_assoc

namespace Document

open Appendable

theorem toList_concat (ss : List String) : (concat ss).toList = ss.flatMap String.toList := by
  induction ss with
  | nil => rfl
  | cons s ss ih => rw [concat_cons, String.toList_append, ih, List.flatMap_cons]

theorem concat_append (ss ts : List String) : concat (ss ++ ts) = concat ss ++ concat ts := by
  apply String.toList_injective
  rw [String.toList_append, toList_concat, toList_concat, toList_concat, List.flatMap_append]

theorem put_eq_appends (s : String) : put s = appends s := put_none s

/-! ## Elements -/

variable {c : Collection} {texts : List String} {e : RenderError} {text : String}

def elements (c : Collection) : List (Except RenderError String) :=
  c.attributes.map attributeElement ++ c.keys.map keyElement

theorem write_eq (c : Collection) :
    write c = (put opening >>= fun _ =>
      (elements c).forM (putElement ·) >>= fun _ => put closing) := by
  have hmap {α : Type} (element : α → Except RenderError String) (xs : List α) :
      xs.forM (fun x => putElement (element x)) = (xs.map element).forM (putElement ·) :=
    (List.forM_map (g := element) (f := (putElement ·))).symm
  have hkeys : writeKeys c.keys = (c.keys.map keyElement).forM (putElement ·) :=
    hmap keyElement c.keys
  have hattributes :
      writeAttributes c.attributes = (c.attributes.map attributeElement).forM (putElement ·) :=
    hmap attributeElement c.attributes
  have helements : (elements c).forM (putElement ·) =
      (writeAttributes c.attributes >>= fun _ => writeKeys c.keys) := by
    rw [hkeys, hattributes]
    exact List.forM_append
  rw [helements, bind_assoc]
  rfl

/-- Either all elements can be shown, or there is a first one that cannot. -/
theorem shown_or_not (es : List (Except RenderError String)) :
    (∃ texts : List String, es = texts.map .ok) ∨
      ∃ (texts : List String) (e : RenderError) (rest : List (Except RenderError String)),
        es = texts.map .ok ++ .error e :: rest := by
  induction es with
  | nil => exact .inl ⟨[], rfl⟩
  | cons x es ih =>
    cases x with
    | error e => exact .inr ⟨[], e, es, rfl⟩
    | ok text =>
      rcases ih with ⟨texts, rfl⟩ | ⟨texts, e, rest, rfl⟩
      · exact .inl ⟨text :: texts, rfl⟩
      · exact .inr ⟨text :: texts, e, rest, rfl⟩

def added (x : Except RenderError String) : String :=
  x.toOption.getD ""

theorem map_added (texts : List String) : (texts.map Except.ok).map added = texts := by
  rw [List.map_map]
  exact List.map_id texts

theorem putElement_added {x : Except RenderError String} (hx : x ∈ texts.map Except.ok) :
    putElement x = appends (added x) := by
  obtain ⟨s, -, rfl⟩ := List.mem_map.mp hx
  exact put_eq_appends s

theorem putElement_error (e : RenderError) : putElement (.error e) = appends "" (some e) := by
  funext s
  show EStateM.Result.error e s = EStateM.Result.error e (s ++ "")
  rw [String.append_empty]

/-! ## What is written -/

theorem write_of_shown (h : elements c = texts.map .ok) :
    write c = appends (opening ++ (concat texts ++ closing)) := by
  have hloop : (elements c).forM (putElement ·) = appends (concat texts) := by
    rw [h, forM_eq_appends fun x hx => putElement_added hx, map_added]
  rw [write_eq, hloop, put_eq_appends, put_eq_appends, appends_bind, appends_bind]

theorem write_of_not_shown {rest : List (Except RenderError String)}
    (h : elements c = texts.map .ok ++ .error e :: rest) :
    write c = appends (opening ++ concat texts) (some e) := by
  have hadded : concat ((texts.map Except.ok ++ [Except.error e]).map added) = concat texts := by
    rw [List.map_append, map_added, concat_append]
    exact String.append_empty
  have hloop : (elements c).forM (putElement ·) = appends (concat texts) (some e) := by
    rw [h, forM_eq_appends_fault (fun x hx => putElement_added hx) (putElement_error e), hadded]
  rw [write_eq, hloop, appends_fault_bind, put_eq_appends, appends_bind]

/-- A document has all elements of its collection. -/
theorem render_eq_ok_iff : render c = .ok text ↔
    ∃ texts, elements c = texts.map .ok ∧ text = opening ++ (concat texts ++ closing) := by
  have hrender {texts : List String} (h : elements c = texts.map .ok) :
      render c = .ok (opening ++ (concat texts ++ closing)) := by
    rw [render, write_of_shown h]
    exact congrArg Except.ok String.empty_append
  constructor
  · intro htext
    rcases shown_or_not (elements c) with ⟨texts, h⟩ | ⟨texts, e, rest, h⟩
    · rw [hrender h] at htext
      exact ⟨texts, h, (Except.ok.inj htext).symm⟩
    · rw [render, write_of_not_shown h] at htext
      cases htext
  · rintro ⟨texts, h, rfl⟩
    exact hrender h

/-- A text that is cut off has the elements before the first that cannot be shown. -/
theorem run_write_eq_error_iff : (write c).run "" = .error e text ↔
    ∃ texts rest, elements c = texts.map .ok ++ .error e :: rest ∧
      text = opening ++ concat texts := by
  have hrun {texts : List String} {e : RenderError} {rest : List (Except RenderError String)}
      (h : elements c = texts.map .ok ++ .error e :: rest) :
      (write c).run "" = .error e (opening ++ concat texts) := by
    rw [write_of_not_shown h]
    exact congrArg (EStateM.Result.error e) String.empty_append
  constructor
  · intro htext
    rcases shown_or_not (elements c) with ⟨texts, h⟩ | ⟨texts, e', rest, h⟩
    · rw [write_of_shown h] at htext
      cases htext
    · rw [hrun h] at htext
      cases htext
      exact ⟨texts, rest, h, rfl⟩
  · rintro ⟨texts, rest, h, rfl⟩
    exact hrun h

/-- The document of a collection all of whose records can be shown. -/
theorem render_eq_ok {attributeText : Attribute → String} {keyText : Key → String}
    (ha : ∀ a ∈ c.attributes, attributeElement a = .ok (attributeText a))
    (hk : ∀ k ∈ c.keys, keyElement k = .ok (keyText k)) :
    render c = .ok (opening ++ (concat (c.attributes.map attributeText) ++
      (concat (c.keys.map keyText) ++ closing))) := by
  have helements : elements c =
      (c.attributes.map attributeText ++ c.keys.map keyText).map .ok := by
    rw [elements, List.map_append, List.map_map, List.map_map, List.map_congr_left ha,
      List.map_congr_left hk]
    rfl
  refine render_eq_ok_iff.mpr ⟨_, helements, ?_⟩
  rw [concat_append, String.append_assoc]

end Document

end ProgramTags
