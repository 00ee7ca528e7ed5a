import Mathlib.Algebra.Group.Nat.Defs
import Mathlib.Data.List.TakeWhile
import ProgramTags.Json
import ProgramTags.Proofs.Json.Data
import ProgramTags.Proofs.Reports

/-!
# What a JSON text can give

Whatever is read from a JSON text is data of JSON (`isData_of_read`), so its integers have a text
again: the digits of an integer are counted when it is read and when it is written, against one
limit. A text is refused for a number only if it holds a run of digits beyond that limit
(`hasLongNumber_of_read`). Both are said of every reader at once: `Reads` is what a reader may give
that has arrived somewhere in a text.
-/

namespace ProgramTags.Json

variable {α β : Type} {text : List Char} {P : α → Prop} {Q : β → Prop}

/-- The text has a run of `n` digits, which are too many for an integer. -/
def HasLongNumber (text : List Char) (n : Nat) : Prop :=
  Decimal.digitLimit < n ∧
    ∃ digits : List Char, digits <:+: text ∧ digits.length = n ∧ ∀ c ∈ digits, isDigit c = true

/-- A fault is about a number only if the text has one that is too long. -/
def Explains (text : List Char) : Error → Prop
  | .number e => HasLongNumber text e.digits
  | .malformed .. => True

/-- What a reader may give that is somewhere in the text: a value with `P` and an end of the text,
or a fault that the text explains. -/
def Reads (text : List Char) (P : α → Prop) : Except Error (α × Rest) → Prop
  | .ok (a, r) => P a ∧ r.chars <:+ text
  | .error e => Explains text e

protected theorem Reads.bind {x : Except Error (α × Rest)}
    {f : α × Rest → Except Error (β × Rest)} (hx : Reads text P x)
    (hf : ∀ a r, P a → r.chars <:+ text → Reads text Q (f (a, r))) : Reads text Q (x >>= f) := by
  cases x with
  | ok found => exact hf found.1 found.2 hx.1 hx.2
  | error e => exact hx

/-! ## Ends of the text -/

theorem Rest.drop_isSuffix {r : Rest} (h : r.chars <:+ text) (n : Nat) :
    (r.drop n).chars <:+ text :=
  (List.drop_suffix n r.chars).trans h

theorem Rest.skip_isSuffix {r : Rest} (h : r.chars <:+ text) : r.skip.chars <:+ text :=
  Rest.drop_isSuffix h _

/-! ## Strings -/

variable {stand : Nat → Char}

/-- An escape may be malformed, and nothing else. -/
theorem readEscape_ne_number {start index : Nat} {chars : List Char}
    {e : Decimal.LiteralTooLong} : readEscape stand start index chars ≠ .error (.number e) := by
  unfold readEscape
  dsimp only
  repeat' split
  all_goals exact nofun

theorem readChars_reads (start : Nat) :
    ∀ (fuel : Nat) (read : List Char) {r : Rest}, r.chars <:+ text →
      Reads text (fun _ => True) (readChars stand start fuel read r)
  | 0, _, _, _ => trivial
  | fuel + 1, read, r, hr => by
    rw [readChars]
    split
    · trivial
    · exact ⟨trivial, Rest.drop_isSuffix hr 1⟩
    · split
      · rename_i e he
        cases e with
        | malformed fault index => trivial
        | number e => exact absurd he readEscape_ne_number
      · exact readChars_reads start fuel _ (Rest.drop_isSuffix hr _)
    · split
      · trivial
      · exact readChars_reads start fuel _ (Rest.drop_isSuffix hr 1)

theorem readString_reads (fuel : Nat) {r : Rest} (hr : r.chars <:+ text) :
    Reads text (fun _ => True) (readString stand fuel r) := by
  have hchars : Reads text (fun _ => True) (readChars stand (r.index - 1) fuel [] r) :=
    readChars_reads _ fuel [] hr
  unfold readString
  split <;> rename_i heq <;> rw [heq] at hchars
  · exact hchars
  · exact hchars

/-! ## Numbers -/

theorem decimalNumber_lt {digits : List Char} (h : ∀ c ∈ digits, isDigit c = true) {n : Nat}
    (hlength : digits.length ≤ n) : Decimal.decimalNumber digits < 10 ^ n := by
  refine Nat.lt_of_lt_of_le ?_ (Nat.pow_le_pow_right (by omega) hlength)
  suffices hfold : ∀ n : Nat, digits.foldl (fun n c => n * 10 + (c.toNat - 48)) n <
      (n + 1) * 10 ^ digits.length by
    have hzero := hfold 0
    rwa [Nat.zero_add, Nat.one_mul] at hzero
  clear hlength
  induction digits with
  | nil => simp
  | cons c rest ih =>
    intro n
    obtain ⟨hc, hrest⟩ := List.forall_mem_cons.mp h
    have hdigit : c.toNat - 48 < 10 := by
      simp only [isDigit, Bool.and_eq_true, decide_eq_true_eq, Char.le_def] at hc
      have hle := UInt32.le_iff_toNat_le.mp hc.2
      have hnine : ('9' : Char).val.toNat = 57 := rfl
      show c.val.toNat - 48 < 10
      omega
    rw [List.foldl_cons, List.length_cons, Nat.pow_succ']
    calc rest.foldl _ (n * 10 + (c.toNat - 48))
        < (n * 10 + (c.toNat - 48) + 1) * 10 ^ rest.length := ih hrest _
      _ ≤ ((n + 1) * 10) * 10 ^ rest.length := Nat.mul_le_mul_right _ (by omega)
      _ = (n + 1) * (10 * 10 ^ rest.length) := Nat.mul_assoc ..

/-- An integer of no more digits than may be read can be written. -/
theorem isTooLong_of_length {n : Int} {digits : List Char} (h : ∀ c ∈ digits, isDigit c = true)
    (hlength : digits.length ≤ Decimal.digitLimit)
    (hn : n.natAbs = Decimal.decimalNumber digits) : Decimal.isTooLong n = false := by
  rw [Decimal.isTooLong, hn]
  generalize Decimal.digitLimit = limit at hlength ⊢
  exact decide_eq_false (Nat.not_le.mpr (decimalNumber_lt h hlength))

theorem wholeDigits (chars : List Char) :
    ∃ n, (match chars with
      | '0' :: _ => ['0']
      | chars => chars.takeWhile isDigit) = (chars.takeWhile isDigit).take n := by
  split
  · exact ⟨1, rfl⟩
  · exact ⟨_, List.take_length.symm⟩

theorem readNumber_reads {r : Rest} (hr : r.chars <:+ text) :
    Reads text (isData · = true) (readNumber r) := by
  unfold readNumber
  extract_lets negative signs unsigned whole afterWhole places pointed n
  -- The whole part is not all of the digits at the head where these begin with a zero.
  have hwhole : ∃ n, whole = (unsigned.takeWhile isDigit).take n := wholeDigits unsigned
  obtain ⟨length, hlength⟩ := hwhole
  have hprefix : whole <+: unsigned :=
    hlength ▸ (List.take_prefix _ _).trans (List.takeWhile_prefix _)
  have hdigits : ∀ c ∈ whole, isDigit c = true := by
    intro c hc
    rw [hlength] at hc
    exact List.mem_takeWhile_imp (List.mem_of_mem_take hc)
  split
  · trivial
  · dsimp only
    split
    · split
      · rename_i hlong
        refine ⟨hlong, whole, ?_, rfl, hdigits⟩
        exact hprefix.isInfix.trans ((List.drop_suffix _ _).trans hr).isInfix
      · rename_i hshort
        refine ⟨?_, Rest.drop_isSuffix hr _⟩
        show isData (.int _) = true
        rw [isData, isTooLong_of_length hdigits (Nat.not_lt.mp hshort)]
        · rfl
        · split <;> simp [n]
    · exact ⟨rfl, Rest.drop_isSuffix hr _⟩

/-! ## Values -/

theorem isData_of_word? {chars : List Char} {v : Value} {length : Nat}
    (h : word? chars = some (v, length)) : isData v = true := by
  obtain ⟨⟨word, v'⟩, hfind, heq⟩ := Option.map_eq_some_iff.mp h
  cases heq
  have hmem := List.mem_of_find?_eq_some hfind
  simp only [words, List.mem_cons, List.not_mem_nil, or_false, Prod.mk.injEq] at hmem
  rcases hmem with ⟨-, rfl⟩ | ⟨-, rfl⟩ | ⟨-, rfl⟩ | ⟨-, rfl⟩ | ⟨-, rfl⟩ | ⟨-, rfl⟩ <;> rfl

theorem isEntry_put {name : String} {v : Value} (hv : isData v = true) :
    ∀ {entries : List (Value × Value)}, (∀ e ∈ entries, IsEntry e) →
      ∀ e ∈ put name v entries, IsEntry e
  | [], _ => by
    intro e he
    rw [put, List.mem_singleton] at he
    cases he
    exact ⟨⟨name, rfl⟩, hv⟩
  | (k, old) :: rest, h => by
    obtain ⟨hold, hrest⟩ := List.forall_mem_cons.mp h
    rw [put]
    split
    · exact List.forall_mem_cons.mpr ⟨⟨hold.1, hv⟩, hrest⟩
    · exact List.forall_mem_cons.mpr ⟨hold, isEntry_put hv hrest⟩

mutual

theorem readValue_reads :
    ∀ (fuel : Nat) {r : Rest}, r.chars <:+ text →
      Reads text (isData · = true) (readValue stand fuel r)
  | 0, _, _ => by
    rw [readValue]
    trivial
  | fuel + 1, r, hr => by
    have hinside := Rest.skip_isSuffix (Rest.drop_isSuffix hr 1)
    rw [readValue]
    split
    · refine (readString_reads fuel (Rest.drop_isSuffix hr 1)).bind fun s r _ hr => ?_
      exact ⟨rfl, hr⟩
    · dsimp only
      split
      · exact ⟨rfl, Rest.drop_isSuffix hinside 1⟩
      · exact readItems_reads fuel nofun hinside
    · dsimp only
      split
      · exact ⟨rfl, Rest.drop_isSuffix hinside 1⟩
      · exact readEntries_reads fuel nofun hinside
    · split
      · rename_i hword
        exact ⟨isData_of_word? hword, Rest.drop_isSuffix hr _⟩
      · exact readNumber_reads hr

theorem readItems_reads :
    ∀ (fuel : Nat) {read : List Value} {r : Rest}, (∀ v ∈ read, isData v = true) →
      r.chars <:+ text → Reads text (isData · = true) (readItems stand fuel read r)
  | 0, _, _, _, _ => by
    rw [readItems]
    trivial
  | fuel + 1, read, r, hread, hr => by
    rw [readItems]
    refine (readValue_reads fuel hr).bind fun v r hv hr => ?_
    have hall : ∀ x ∈ v :: read, isData x = true := List.forall_mem_cons.mpr ⟨hv, hread⟩
    have hskip := Rest.skip_isSuffix hr
    dsimp only
    split
    · refine ⟨?_, Rest.drop_isSuffix hskip 1⟩
      show isData (.list _) = true
      rw [isData]
      exact itemsAreData_iff.mpr fun x hx => hall x (List.mem_reverse.mp hx)
    · exact readItems_reads fuel hall (Rest.skip_isSuffix (Rest.drop_isSuffix hskip 1))
    · trivial

theorem readEntries_reads :
    ∀ (fuel : Nat) {read : List (Value × Value)} {r : Rest}, (∀ e ∈ read, IsEntry e) →
      r.chars <:+ text → Reads text (isData · = true) (readEntries stand fuel read r)
  | 0, _, _, _, _ => by
    rw [readEntries]
    trivial
  | fuel + 1, read, r, hread, hr => by
    rw [readEntries]
    split
    · refine (readString_reads fuel (Rest.drop_isSuffix hr 1)).bind fun name r _ hr => ?_
      have hskip := Rest.skip_isSuffix hr
      dsimp only
      split
      · trivial
      · refine (readValue_reads fuel (Rest.skip_isSuffix (Rest.drop_isSuffix hskip 1))).bind
          fun v r hv hr => ?_
        have hall : ∀ e ∈ put name v read, IsEntry e := isEntry_put hv hread
        have hskip := Rest.skip_isSuffix hr
        dsimp only
        split
        · refine ⟨?_, Rest.drop_isSuffix hskip 1⟩
          show isData (.mapping _) = true
          rw [isData]
          exact entriesAreData_iff.mpr hall
        · exact readEntries_reads fuel hall (Rest.skip_isSuffix (Rest.drop_isSuffix hskip 1))
        · trivial
    · trivial

end

/-! ## Texts -/

theorem readValue_of_read (stand : Nat → Char) (text : List Char) : Reads text (isData · = true)
    (readValue stand (2 * text.length + 2) (Rest.skip ⟨0, text⟩)) :=
  readValue_reads _ (Rest.skip_isSuffix List.suffix_rfl)

variable {surrogates : Text.Surrogates}

/-- A text gives data. -/
theorem isData_of_read {v : Value} (h : read text surrogates = .ok v) : isData v = true := by
  unfold read at h
  split at h
  · cases h
  · obtain ⟨⟨v', r⟩, hvalue, h⟩ := Except.bind_eq_ok h
    have hreads := readValue_of_read surrogates.stand text
    rw [hvalue] at hreads
    dsimp only at h
    split at h
    · cases h
      exact hreads.1
    · cases h

/-- A text that is refused for a number has one that is too long. -/
theorem hasLongNumber_of_read {e : Decimal.LiteralTooLong}
    (h : read text surrogates = .error (.number e)) : HasLongNumber text e.digits := by
  unfold read at h
  split at h
  · cases h
  · have hreads := readValue_of_read surrogates.stand text
    cases hvalue : readValue surrogates.stand (2 * text.length + 2) (Rest.skip ⟨0, text⟩) with
    | error e' =>
      rw [hvalue] at h hreads
      cases h
      exact hreads
    | ok found =>
      rw [hvalue, Except.ok_bind] at h
      dsimp only at h
      split at h <;> cases h

end ProgramTags.Json
