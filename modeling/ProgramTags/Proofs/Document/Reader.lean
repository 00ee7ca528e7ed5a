import Mathlib.Data.List.Basic
import ProgramTags.Document

/-!
# A reader of documents

Reads a document back: it looks for the fixed markup of the elements, takes each value up to the
next double quote, puts characters for the references in it and reads numbers in decimal.
`Reader.Reads read a text` says that `read` finds `a` where `text` stands, whatever follows; it is
closed under sequence, and `Reader.many_flatMap` is the law of repetition.
-/

namespace ProgramTags.Document

/-- What a document shows of an attribute. -/
structure ShownAttribute where
  span : Int × Int
  entries : List TagEntry
  deriving DecidableEq, Repr

/-- What a document shows. -/
structure Shown where
  attributes : List ShownAttribute
  keys : List Key
  deriving DecidableEq, Repr

/-- The text with a character for each of the references that `escape` writes. -/
def unescape : List Char → List Char
  | [] => []
  | '&' :: 'a' :: 'm' :: 'p' :: ';' :: rest => '&' :: unescape rest
  | '&' :: 'l' :: 't' :: ';' :: rest => '<' :: unescape rest
  | '&' :: 'g' :: 't' :: ';' :: rest => '>' :: unescape rest
  | '&' :: '#' :: '3' :: '4' :: ';' :: rest => '"' :: unescape rest
  | '&' :: '#' :: '3' :: '9' :: ';' :: rest => '\'' :: unescape rest
  | c :: rest => c :: unescape rest

def magnitude? (digits : List Char) : Option Int :=
  if digits ≠ [] ∧ digits.all Char.isDigit then some (Nat.ofDigitChars 10 digits 0) else none

/-- The integer that decimal digits spell, a hyphen before them for a negative one. -/
def integer? : List Char → Option Int
  | '-' :: digits => (magnitude? digits).map (- ·)
  | digits => magnitude? digits

/-- Takes something from the beginning of a text and gives the rest. -/
abbrev Reader := StateT (List Char) Option

namespace Reader

variable {α β : Type}

def markup (expected : String) : Reader Unit := fun text =>
  (expected.toList.isPrefixOf? text).map ((), ·)

/-- Takes everything up to the next double quote, and the quote. What stands before it has to mean
something. -/
def value (meaning : List Char → Option α) : Reader α := fun text =>
  match text.dropWhile (· ≠ '"') with
  | [] => none
  | _ :: rest => (meaning (text.takeWhile (· ≠ '"'))).map (·, rest)

def string : Reader String :=
  value fun text => some (String.ofList (unescape text))

def integer : Reader Int :=
  value integer?

def many (read : Reader α) : Reader (List α) := fun text =>
  match read text with
  | none => some ([], text)
  | some (a, rest) =>
    if rest.length < text.length then (many read rest).map fun (as, rest) => (a :: as, rest)
    else some ([], text)
termination_by text => text.length

def entry : Reader TagEntry := do
  markup "<textAttribute info=\""
  let info ← string
  markup " aType=\""
  let analysis ← string
  markup "/>\n"
  return ⟨info, analysis⟩

def shownAttribute : Reader ShownAttribute := do
  markup "<attribute>\n<jmpPos sline=\""
  let first ← integer
  markup " eline=\""
  let last ← integer
  markup "/>\n"
  let entries ← many entry
  markup "</attribute>\n"
  return ⟨(first, last), entries⟩

def key : Reader Key := do
  markup "<key red=\""
  let red ← integer
  markup " green=\""
  let green ← integer
  markup " blue=\""
  let blue ← integer
  markup " key=\""
  let key ← string
  markup " aType=\""
  let analysis ← string
  markup "/>\n"
  return ⟨red, green, blue, key, analysis⟩

def document : Reader Shown := do
  markup opening
  let attributes ← many shownAttribute
  let keys ← many key
  markup closing
  return ⟨attributes, keys⟩

end Reader

/-- What the document shows, if the text is one. -/
def read? (text : String) : Option Shown :=
  match Reader.document text.toList with
  | some (shown, []) => some shown
  | _ => none

/-! ## Values -/

theorem escapeChar_of_ne {c : Char} (hamp : c ≠ '&') (hlt : c ≠ '<') (hgt : c ≠ '>')
    (hquote : c ≠ '"') (hapos : c ≠ '\'') : escapeChar c = [c] := by
  unfold escapeChar
  split <;> first | contradiction | rfl

theorem unescape_cons {c : Char} (h : c ≠ '&') (rest : List Char) :
    unescape (c :: rest) = c :: unescape rest := by
  rw [unescape.eq_def]
  split <;> simp_all

theorem unescape_escapeChar_append (c : Char) (rest : List Char) :
    unescape (escapeChar c ++ rest) = c :: unescape rest := by
  by_cases hamp : c = '&'
  · subst hamp; simp [escapeChar, unescape]
  by_cases hlt : c = '<'
  · subst hlt; simp [escapeChar, unescape]
  by_cases hgt : c = '>'
  · subst hgt; simp [escapeChar, unescape]
  by_cases hquote : c = '"'
  · subst hquote; simp [escapeChar, unescape]
  by_cases hapos : c = '\''
  · subst hapos; simp [escapeChar, unescape]
  rw [escapeChar_of_ne hamp hlt hgt hquote hapos]
  exact unescape_cons hamp rest

theorem unescape_flatMap_escapeChar (s : List Char) : unescape (s.flatMap escapeChar) = s := by
  induction s with
  | nil => rfl
  | cons c s ih => rw [List.flatMap_cons, unescape_escapeChar_append, ih]

theorem quote_not_mem_escapeChar (c : Char) : '"' ∉ escapeChar c := by
  unfold escapeChar
  split
  case h_6 _ _ _ h _ => simpa using fun e : '"' = c => h e.symm
  all_goals decide

/-- An escaped text ends where the next double quote stands. -/
theorem quote_not_mem_escape (s : String) : '"' ∉ (escape s).toList := by
  rw [escape, String.toList_ofList, List.mem_flatMap]
  rintro ⟨c, -, hc⟩
  exact quote_not_mem_escapeChar c hc

/-! ## Numbers -/

theorem isDigit_of_mem_toDigits {n : Nat} {c : Char} (h : c ∈ Nat.toDigits 10 n) :
    c.isDigit = true :=
  Nat.isDigit_of_mem_toDigits (by decide) (by decide) h

theorem magnitude?_toDigits (n : Nat) : magnitude? (Nat.toDigits 10 n) = some (n : Int) := by
  have hall : (Nat.toDigits 10 n).all Char.isDigit = true :=
    List.all_eq_true.2 fun c hc => isDigit_of_mem_toDigits hc
  rw [magnitude?, if_pos ⟨Nat.toDigits_ne_nil, hall⟩, Nat.ofDigitChars_ten_toDigits]

theorem integer?_of_not_hyphen {digits : List Char} (h : '-' ∉ digits) :
    integer? digits = magnitude? digits := by
  unfold integer?
  split
  · simp at h
  · rfl

theorem toList_toString (n : Int) :
    (toString n).toList =
      if 0 ≤ n then Nat.toDigits 10 n.toNat else '-' :: Nat.toDigits 10 (-n).toNat := by
  rw [Int.toString_eq_repr, Int.repr_eq_if]
  split
  · exact Nat.toList_repr
  · rw [String.toList_append, Nat.toList_repr]
    rfl

theorem integer?_toString (n : Int) : integer? (toString n).toList = some n := by
  rw [toList_toString]
  split
  case isTrue h =>
    have hhyphen : '-' ∉ Nat.toDigits 10 n.toNat := fun hc => by
      simpa using isDigit_of_mem_toDigits hc
    rw [integer?_of_not_hyphen hhyphen, magnitude?_toDigits, Int.toNat_of_nonneg h]
  case isFalse h =>
    rw [integer?, magnitude?_toDigits]
    simp only [Option.map_some, Option.some.injEq]
    omega

/-- The decimal text of a number ends where the next double quote stands. -/
theorem quote_not_mem_toString (n : Int) : '"' ∉ (toString n).toList := by
  rw [toList_toString]
  intro h
  split at h
  · simpa using isDigit_of_mem_toDigits h
  · rcases List.mem_cons.1 h with h | h
    · exact absurd h (by decide)
    · simpa using isDigit_of_mem_toDigits h

/-! ## What a reader finds -/

namespace Reader

variable {α β : Type}

/-- The reader takes `text` and finds `a` in it, whatever follows. -/
def Reads (read : Reader α) (text : List Char) (a : α) : Prop :=
  ∀ rest, read (text ++ rest) = some (a, rest)

theorem reads_pure (a : α) : Reads (pure a) [] a := fun _ => rfl

theorem Reads.bind {read : Reader α} {next : α → Reader β} {text text' : List Char} {a : α}
    {b : β} (h : Reads read text a) (h' : Reads (next a) text' b) :
    Reads (read >>= next) (text ++ text') b := by
  intro rest
  show (read (text ++ text' ++ rest)).bind (fun p => next p.1 p.2) = _
  rw [List.append_assoc, h]
  exact h' rest

theorem Reads.bind_pure {read : Reader α} {text : List Char} {a : α} (h : Reads read text a)
    (f : α → β) : Reads (read >>= fun a => pure (f a)) text (f a) := by
  intro rest
  show (read (text ++ rest)).bind (fun p => some (f p.1, p.2)) = _
  rw [h]
  rfl

theorem Reads.orElse_left {read other : Reader α} {text : List Char} {a : α}
    (h : Reads read text a) : Reads (read <|> other) text a := by
  intro rest
  show (read (text ++ rest) <|> other (text ++ rest)) = _
  rw [h]
  rfl

theorem Reads.orElse_right {read other : Reader α} {text : List Char} {a : α}
    (hnone : ∀ rest, read (text ++ rest) = none) (h : Reads other text a) :
    Reads (read <|> other) text a := by
  intro rest
  show (read (text ++ rest) <|> other (text ++ rest)) = _
  rw [hnone, h]
  rfl

theorem reads_markup (s : String) : Reads (markup s) s.toList () := by
  intro rest
  rw [markup, List.isPrefixOf?_eq_some_iff_append_eq.mpr rfl]
  rfl

/-- A text without a character is what stands before the first one after it. -/
theorem takeWhile_dropWhile_append {stop : Char} {text : List Char} (hstop : stop ∉ text)
    (rest : List Char) : (text ++ stop :: rest).takeWhile (· ≠ stop) = text ∧
      (text ++ stop :: rest).dropWhile (· ≠ stop) = stop :: rest := by
  have hall : ∀ c ∈ text, decide (c ≠ stop) = true := fun c hc => by
    simpa using fun e : c = stop => hstop (e ▸ hc)
  rw [List.takeWhile_append_of_pos hall, List.dropWhile_append_of_pos hall]
  simp

theorem reads_value {meaning : List Char → Option α} {text : List Char} {a : α}
    (hquote : '"' ∉ text) (h : meaning text = some a) :
    Reads (value meaning) (text ++ ['"']) a := by
  intro rest
  obtain ⟨htake, hdrop⟩ := takeWhile_dropWhile_append hquote rest
  rw [value, List.append_assoc, List.singleton_append, htake, hdrop, h]
  rfl

theorem reads_string (s : String) : Reads string ((escape s).toList ++ ['"']) s := by
  refine reads_value (quote_not_mem_escape s) ?_
  rw [escape, String.toList_ofList, unescape_flatMap_escapeChar, String.ofList_toList]

theorem reads_integer (n : Int) : Reads integer ((toString n).toList ++ ['"']) n :=
  reads_value (quote_not_mem_toString n) (integer?_toString n)

/-- Repetition finds everything up to where there is nothing more to read. -/
theorem many_flatMap {ι : Type} {read : Reader α} {text : ι → List Char} {found : ι → α}
    {is : List ι} {rest : List Char} (h : ∀ i ∈ is, Reads read (text i) (found i))
    (hne : ∀ i ∈ is, text i ≠ []) (hstop : read rest = none) :
    many read (is.flatMap text ++ rest) = some (is.map found, rest) := by
  induction is with
  | nil =>
    rw [many.eq_def]
    simp [hstop]
  | cons i is ih =>
    have hi := h i List.mem_cons_self (is.flatMap text ++ rest)
    have hrest := ih (fun j hj => h j (List.mem_cons_of_mem i hj))
      fun j hj => hne j (List.mem_cons_of_mem i hj)
    have hpos : 0 < (text i).length := List.length_pos_iff.2 (hne i List.mem_cons_self)
    rw [many.eq_def, List.flatMap_cons, List.append_assoc]
    generalize is.flatMap text ++ rest = more at hi hrest ⊢
    have hlt : more.length < (text i ++ more).length := by
      rw [List.length_append]
      omega
    simp only [hi, if_pos hlt, hrest, Option.map_some, List.map_cons]

theorem Reads.many_flatMap_bind {ι : Type} {read : Reader α} {next : List α → Reader β}
    {text : ι → List Char} {found : ι → α} {text' : List Char} {is : List ι} {b : β}
    (h : ∀ i ∈ is, Reads read (text i) (found i)) (hne : ∀ i ∈ is, text i ≠ [])
    (hstop : ∀ rest, read (text' ++ rest) = none) (h' : Reads (next (is.map found)) text' b) :
    Reads (many read >>= next) (is.flatMap text ++ text') b := by
  intro rest
  show (many read (is.flatMap text ++ text' ++ rest)).bind (fun p => next p.1 p.2) = _
  rw [List.append_assoc, many_flatMap h hne (hstop rest)]
  exact h' rest

theorem Reads.many_bind {read : Reader α} {next : List α → Reader β} {text : α → List Char}
    {text' : List Char} {as : List α} {b : β} (h : ∀ a ∈ as, Reads read (text a) a)
    (hne : ∀ a ∈ as, text a ≠ []) (hstop : ∀ rest, read (text' ++ rest) = none)
    (h' : Reads (next as) text' b) : Reads (many read >>= next) (as.flatMap text ++ text') b :=
  Reads.many_flatMap_bind h hne hstop (by rwa [List.map_id'])

end Reader

end ProgramTags.Document
