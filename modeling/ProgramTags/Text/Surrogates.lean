import ProgramTags.Text.Quoted

/-!
# Lone surrogates

An escape can put half a character into a text, a surrogate that stands alone. It is no character,
and UTF-8 does not have it. Where a text may hold such surrogates, characters that it does not hold
otherwise stand for them: `Surrogates` says which, and for which surrogates. By default there are
none, and an escape that spells one is read as the replacement character.
-/

namespace ProgramTags.Text

/-- Which characters stand for lone surrogates. None of them is an ASCII character. -/
structure Surrogates where
  /-- The character that stands for the surrogate of a code. -/
  stand : Nat → Char := fun _ => '\uFFFD'
  /-- The code of the surrogate that a character stands for. -/
  code? : Char → Option Nat := fun _ => none
  code?_ascii : ∀ c : Char, c.toNat < 0x80 → code? c = none := by exact fun _ _ => rfl

/-- Lone surrogates in a row: where the first of them is in the text, its code, and how many they
are. -/
structure SurrogateFault where
  position : Nat
  first : Nat
  length : Nat
  deriving DecidableEq, Repr

def SurrogateFault.message (f : SurrogateFault) : String :=
  let code := String.ofList (hexDigits 4 f.first)
  let last := f.position + f.length - 1
  let whose := if f.length = 1 then s!"character '\\u{code}' in position {f.position}"
    else s!"characters in position {f.position}-{last}"
  s!"'utf-8' codec can't encode {whose}: surrogates not allowed"

namespace Surrogates

/-- No character stands for a lone surrogate. -/
protected def none : Surrogates := {}

/-- The first lone surrogate that is at fault, with those after it. -/
def faultFrom (s : Surrogates) (isFault : Nat → Bool) : (position : Nat) → List Char →
    Option SurrogateFault
  | _, [] => .none
  | position, c :: rest =>
    match (s.code? c).filter isFault with
    | some code => some ⟨position, code, 1 + (rest.takeWhile fun c => (s.code? c).isSome).length⟩
    | .none => faultFrom s isFault (position + 1) rest

/-- What UTF-8 does not have of a text. -/
def fault? (s : Surrogates) (text : String) : Option SurrogateFault :=
  s.faultFrom (fun _ => true) 0 text.toList

/-- An octet of a file name that is part of no character is a surrogate in the name. -/
def isOctet (code : Nat) : Bool :=
  0xDC80 ≤ code && code ≤ 0xDCFF

/-- What file names cannot have of a text. -/
def nameFault? (s : Surrogates) (text : String) : Option SurrogateFault :=
  s.faultFrom (fun code => !isOctet code) 0 text.toList

theorem faultFrom_eq_none_iff {s : Surrogates} {isFault : Nat → Bool} {position : Nat}
    {chars : List Char} : s.faultFrom isFault position chars = .none ↔
      ∀ c ∈ chars, ∀ code, s.code? c = some code → isFault code = false := by
  induction chars generalizing position with
  | nil => exact ⟨nofun, fun _ => rfl⟩
  | cons c rest ih =>
    rw [faultFrom, List.forall_mem_cons]
    cases hcode : (s.code? c).filter isFault with
    | none =>
      dsimp only
      rw [ih]
      refine ⟨fun h => ⟨fun code hc => ?_, h⟩, And.right⟩
      simpa [hc] using hcode
    | some code =>
      obtain ⟨hc, hfault⟩ := Option.filter_eq_some_iff.mp hcode
      refine ⟨nofun, fun h => ?_⟩
      rw [h.1 code hc] at hfault
      cases hfault

@[simp] theorem fault?_none (text : String) : Surrogates.none.fault? text = .none :=
  faultFrom_eq_none_iff.mpr nofun

@[simp] theorem nameFault?_none (text : String) : Surrogates.none.nameFault? text = .none :=
  faultFrom_eq_none_iff.mpr nofun

end Surrogates

end ProgramTags.Text
