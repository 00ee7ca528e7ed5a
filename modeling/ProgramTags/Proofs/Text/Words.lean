import Mathlib.Data.Bool.AllAny
import Mathlib.Data.List.DropRight
import Mathlib.Data.List.Forall2
import ProgramTags.Text.Blank
import ProgramTags.Text.LowerCase

/-!
# Words in any case

`Spells s word` says that a text is a word with white space around it, each letter of the word in
upper or in lower case. This is so just if the text in lower case, without the white space, is the
word (`lower_trimBlank_eq_iff`), as long as there is no `k` in it, which is the lower case of the
sign for a kelvin, too.
-/

namespace ProgramTags.Text

/-- Small letters other than `k`, and digits. -/
def plain : List Char :=
  "abcdefghijlmnopqrstuvwxyz0123456789".toList

/-- The character in upper or in lower case. -/
def IsCaseOf (c d : Char) : Prop :=
  c = d ∨ c = d.toUpper

/-- The text is the word, in whatever case, with white space around it. -/
def Spells (s word : List Char) : Prop :=
  ∃ before inner after, s = before ++ inner ++ after ∧
    (∀ c ∈ before, isBlank c) ∧ (∀ c ∈ after, isBlank c) ∧ List.Forall₂ IsCaseOf inner word

variable {c d : Char} {s word before : List Char}

/-! ## Characters -/

def asciiLower (c : Char) : Char :=
  if 65 ≤ c.toNat ∧ c.toNat ≤ 90 then Char.ofNat (c.toNat + 32) else c

theorem plain_table : ∀ d ∈ plain, (asciiLower d = d ∧ asciiLower d.toUpper = d) ∧
    (isBlank d = false ∧ isBlank d.toUpper = false) ∧
    d.toNat < 128 ∧ d.toUpper.toNat < 128 ∧ d ≠ Char.ofNat 0 ∧ d ≠ 'k' :=
  List.all_iff_forall_prop.mp (by decide +kernel)

theorem ascii_table : ∀ n < 128, asciiLower (Char.ofNat n) ∈ plain →
    Char.ofNat n = asciiLower (Char.ofNat n) ∨
      Char.ofNat n = (asciiLower (Char.ofNat n)).toUpper := by
  decide +kernel

/-- Of all runs, only the first is in ASCII. -/
theorem lowerRuns_tail_table : ∀ run ∈ lowerRuns.tail, 128 ≤ run.1 := by
  decide +kernel

theorem lowerChar_eq_asciiLower (h : c.toNat < 128) : lowerChar c = asciiLower c := by
  have htail : ∀ p : Nat × Nat × Nat × Nat → Bool, (∀ run, p run = true → run.1 ≤ c.toNat) →
      lowerRuns.tail.find? p = none := by
    intro p hp
    rw [List.find?_eq_none]
    intro run hrun hcovers
    have hfirst := lowerRuns_tail_table run hrun
    have hwithin := hp run hcovers
    omega
  have hruns : lowerRuns = (65, 90, 1, 97) :: lowerRuns.tail := rfl
  unfold lowerChar asciiLower
  dsimp only
  rw [hruns, List.find?_cons, htail]
  · by_cases hlarge : 65 ≤ c.toNat ∧ c.toNat ≤ 90
    · have hshift : 97 + (c.toNat - 65) = c.toNat + 32 := by omega
      simp [hlarge, hshift, Nat.mod_one]
    · have hout : (decide (65 ≤ c.toNat) && decide (c.toNat ≤ 90)) = false := by simpa using hlarge
      simp [hlarge, hout]
  · intro run hcovers
    simp only [Bool.and_eq_true, decide_eq_true_eq] at hcovers
    exact hcovers.1.1

/-- The lower case of most characters is beyond ASCII. -/
theorem lowerRuns_table : ∀ run ∈ lowerRuns, 128 ≤ run.2.2.2 ∨ run.2.1 < 128 ∨
    run = (8490, 8490, 1, 107) := by
  decide +kernel

theorem toNat_lt_of_lowerChar (h : lowerChar c = d) (hd : d ∈ plain) : c.toNat < 128 := by
  obtain ⟨-, -, hlt, -, hzero, hk⟩ := plain_table d hd
  unfold lowerChar at h
  dsimp only at h
  split at h
  · rename_i first last step image hrun
    have hmem := List.mem_of_find?_eq_some hrun
    have hwithin := List.find?_some hrun
    simp only [Bool.and_eq_true, decide_eq_true_eq] at hwithin
    rcases lowerRuns_table _ hmem with himage | hlast | heq
    · by_cases hvalid : (image + (c.toNat - first)).isValidChar
      · have hnat : (Char.ofNat (image + (c.toNat - first))).toNat = image + (c.toNat - first) := by
          rw [Char.ofNat, dif_pos hvalid]
          rfl
        rw [← h, hnat] at hlt
        dsimp only at himage
        omega
      · refine absurd ?_ hzero
        rw [← h, Char.ofNat, dif_neg hvalid]
        rfl
    · dsimp only at hlast
      omega
    · cases heq
      have hc : c.toNat = 8490 := by omega
      rw [hc] at h
      exact absurd h.symm hk
  · rwa [h]

theorem IsCaseOf.toNat_lt (h : IsCaseOf c d) (hd : d ∈ plain) : c.toNat < 128 := by
  obtain ⟨-, -, hlower, hupper, -⟩ := plain_table d hd
  rcases h with rfl | rfl
  · exact hlower
  · exact hupper

/-- Nothing but a plain character in some case has it as lower case. -/
theorem lowerChar_eq_iff (hd : d ∈ plain) : lowerChar c = d ↔ IsCaseOf c d := by
  constructor
  · intro h
    have hlt := toNat_lt_of_lowerChar h hd
    have htable := ascii_table c.toNat hlt
    rw [Char.ofNat_toNat, ← lowerChar_eq_asciiLower hlt, h] at htable
    exact htable hd
  · intro h
    rw [lowerChar_eq_asciiLower (h.toNat_lt hd)]
    obtain ⟨⟨hlower, hupper⟩, -⟩ := plain_table d hd
    rcases h with rfl | rfl
    · exact hlower
    · exact hupper

theorem IsCaseOf.isBlank_eq (h : IsCaseOf c d) (hd : d ∈ plain) : isBlank c = false := by
  obtain ⟨-, ⟨hlower, hupper⟩, -⟩ := plain_table d hd
  rcases h with rfl | rfl
  · exact hlower
  · exact hupper

/-! ## Texts -/

theorem lowerAfter_eq_iff (hword : ∀ d ∈ word, d ∈ plain) :
    lowerAfter before s = word ↔ List.Forall₂ IsCaseOf s word := by
  induction s generalizing before word with
  | nil => rw [lowerAfter, List.forall₂_nil_left_iff, eq_comm]
  | cons c rest ih =>
    -- the special characters are not the case of any plain one, and give some that are not plain
    have hspecial : 128 ≤ c.toNat → ¬List.Forall₂ IsCaseOf (c :: rest) word := by
      intro hc h
      cases h with
      | cons hcase _ =>
        have := hcase.toNat_lt (hword _ List.mem_cons_self)
        omega
    rw [lowerAfter, lowerAt]
    split
    · rename_i hdotted
      subst hdotted
      refine iff_of_false ?_ (hspecial (by decide))
      rintro rfl
      exact absurd (hword '\u0307' (by simp)) (by decide)
    split
    · rename_i hsigma
      rw [Bool.and_eq_true, decide_eq_true_eq] at hsigma
      obtain ⟨rfl, -⟩ := hsigma
      refine iff_of_false ?_ (hspecial (by decide))
      rintro rfl
      exact absurd (hword 'ς' (by simp)) (by decide)
    cases word with
    | nil => simp
    | cons d ds =>
      obtain ⟨hd, hds⟩ := List.forall_mem_cons.mp hword
      rw [List.singleton_append, List.cons.injEq, ih hds, lowerChar_eq_iff hd,
        List.forall₂_cons]

theorem isBlank_eq_of_forall₂ (h : List.Forall₂ IsCaseOf s word) (hword : ∀ d ∈ word, d ∈ plain) :
    ∀ c ∈ s, isBlank c = false := by
  induction h with
  | nil => exact nofun
  | cons hcase _ ih =>
    obtain ⟨hd, hds⟩ := List.forall_mem_cons.mp hword
    exact List.forall_mem_cons.mpr ⟨hcase.isBlank_eq hd, ih hds⟩

/-- There is only white space around what is left of a text without it. -/
theorem trimBlank_spec (s : List Char) : ∃ before after, s = before ++ trimBlank s ++ after ∧
    (∀ c ∈ before, isBlank c) ∧ ∀ c ∈ after, isBlank c := by
  refine ⟨s.takeWhile isBlank, (s.dropWhile isBlank).rtakeWhile isBlank, ?_, ?_, ?_⟩
  · have htrim : trimBlank s = (s.dropWhile isBlank).rdropWhile isBlank := rfl
    rw [htrim, List.append_assoc, List.rdropWhile_append_rtakeWhile,
      List.takeWhile_append_dropWhile]
  · exact fun c hc => List.mem_takeWhile_imp hc
  · exact fun c hc => List.mem_rtakeWhile_imp hc

/-- What stands between white space is left of a text, unless it has some at an end itself. -/
theorem trimBlank_append {before inner after : List Char} (hbefore : ∀ c ∈ before, isBlank c)
    (hafter : ∀ c ∈ after, isBlank c) (hinner : ∀ c ∈ inner, isBlank c = false)
    (hne : inner ≠ []) : trimBlank (before ++ inner ++ after) = inner := by
  have hfront : (before ++ inner ++ after).dropWhile isBlank = inner ++ after := by
    obtain ⟨c, rest, rfl⟩ := List.exists_cons_of_ne_nil hne
    rw [List.append_assoc, List.dropWhile_append_of_pos hbefore, List.cons_append,
      List.dropWhile_cons_of_neg]
    simp [hinner c List.mem_cons_self]
  have hback : (inner ++ after).reverse.dropWhile isBlank = inner.reverse := by
    obtain ⟨rest, c, rfl⟩ := (List.eq_nil_or_concat' inner).resolve_left hne
    rw [List.reverse_append, List.dropWhile_append_of_pos, List.reverse_append,
      List.reverse_singleton, List.singleton_append, List.dropWhile_cons_of_neg]
    · simp [hinner c (by simp)]
    · exact fun c hc => hafter c (List.mem_reverse.mp hc)
  rw [trimBlank, hfront, hback, List.reverse_reverse]

/-- The lower case of a text without the white space around it is a word just if the text is the
word in some case, with white space around it. -/
theorem lower_trimBlank_eq_iff (hword : ∀ d ∈ word, d ∈ plain) (hne : word ≠ []) :
    lower (trimBlank s) = word ↔ Spells s word := by
  rw [lower, lowerAfter_eq_iff hword]
  constructor
  · intro h
    obtain ⟨before, after, hs, hbefore, hafter⟩ := trimBlank_spec s
    exact ⟨before, trimBlank s, after, hs, hbefore, hafter, h⟩
  · rintro ⟨before, inner, after, rfl, hbefore, hafter, h⟩
    have hinner : inner ≠ [] := by
      rintro rfl
      exact hne (List.forall₂_nil_left_iff.mp h)
    rwa [trimBlank_append hbefore hafter (isBlank_eq_of_forall₂ h hword) hinner]

end ProgramTags.Text
