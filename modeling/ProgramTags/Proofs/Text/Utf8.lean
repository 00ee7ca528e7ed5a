import Mathlib.Logic.Function.Basic
import ProgramTags.Text.Utf8

/-!
# UTF-8 read back

Decoding what has been encoded gives the text: the first octet of a character announces the bits
and the octets that follow, and each of those gives six more bits.
-/

namespace ProgramTags.Text.Utf8

theorem ofByte?_one : ∀ n < 0x80, Head.ofByte? n.toUInt8 = some ⟨n, 0, 0, 0⟩ := by decide

theorem ofByte?_two : ∀ n < 0x20, 2 ≤ n →
    Head.ofByte? (0xC0 + n).toUInt8 = some ⟨n, 0x80, 0xBF, 1⟩ := by decide

theorem ofByte?_three : ∀ n < 0x10, Head.ofByte? (0xE0 + n).toUInt8 =
    some ⟨n, if n = 0 then 0xA0 else 0x80, if n = 0xD then 0x9F else 0xBF, 2⟩ := by decide

theorem ofByte?_four : ∀ n < 5, Head.ofByte? (0xF0 + n).toUInt8 =
    some ⟨n, if n = 0 then 0x90 else 0x80, if n = 4 then 0x8F else 0xBF, 3⟩ := by decide

/-- An octet after the first one gives six bits. -/
theorem readTails_cons {low high k : Nat} (hk : k < 0x40) (hlow : low ≤ 0x80 + k)
    (hhigh : 0x80 + k ≤ high) (tails bits read : Nat) (rest : List UInt8) :
    readTails low high (tails + 1) bits read ((0x80 + k).toUInt8 :: rest) =
      readTails 0x80 0xBF tails (bits * 0x40 + k) (read + 1) rest := by
  have hbyte : (0x80 + k).toUInt8.toNat = 0x80 + k := by
    simp only [Nat.toUInt8, UInt8.toNat_ofNat']
    omega
  have hbits : (0x80 + k) % 0x40 = k := by omega
  rw [readTails, hbyte, if_pos ⟨hlow, hhigh⟩, hbits]

/-- A character is read from the octets that it is encoded as. -/
theorem readChar_encodeChar (c : Char) : ∃ b tail, encodeChar c = b :: tail ∧
    ∀ position rest, readChar position b (tail ++ rest) = .ok (c, rest) := by
  have hc : Char.ofNat c.toNat = c := Char.ofNat_toNat c
  have hvalid : c.toNat < 0xD800 ∨ 0xDFFF < c.toNat ∧ c.toNat < 0x110000 := c.valid
  unfold encodeChar
  generalize c.toNat = n at hc hvalid
  by_cases h₁ : n < 0x80
  · refine ⟨_, [], if_pos h₁, fun position rest => ?_⟩
    simp only [readChar, ofByte?_one n h₁, readTails, List.nil_append, hc]
  by_cases h₂ : n < 0x800
  · refine ⟨_, _, (if_neg h₁).trans (if_pos h₂), fun position rest => ?_⟩
    rw [readChar, ofByte?_two (n / 0x40) (by omega) (by omega)]
    simp only [List.cons_append, List.nil_append]
    rw [readTails_cons (by omega) (by omega) (by omega), readTails, Nat.div_add_mod']
    simp only [hc]
  by_cases h₃ : n < 0x10000
  · refine ⟨_, _, (if_neg h₁).trans ((if_neg h₂).trans (if_pos h₃)), fun position rest => ?_⟩
    rw [readChar, ofByte?_three (n / 0x1000) (by omega)]
    simp only [List.cons_append, List.nil_append]
    rw [readTails_cons (by omega) (by split <;> omega) (by split <;> omega),
      readTails_cons (by omega) (by omega) (by omega), readTails]
    have hn : (n / 0x1000 * 0x40 + n / 0x40 % 0x40) * 0x40 + n % 0x40 = n := by omega
    simp only [hn, hc]
  · refine ⟨_, _, (if_neg h₁).trans ((if_neg h₂).trans (if_neg h₃)), fun position rest => ?_⟩
    rw [readChar, ofByte?_four (n / 0x40000) (by omega)]
    simp only [List.cons_append, List.nil_append]
    rw [readTails_cons (by omega) (by split <;> omega) (by split <;> omega),
      readTails_cons (by omega) (by omega) (by omega),
      readTails_cons (by omega) (by omega) (by omega), readTails]
    have hn : ((n / 0x40000 * 0x40 + n / 0x1000 % 0x40) * 0x40 + n / 0x40 % 0x40) * 0x40 +
        n % 0x40 = n := by omega
    simp only [hn, hc]

theorem decodeFrom_encode (s : List Char) (fuel position : Nat)
    (h : (encode s).length ≤ fuel) : decodeFrom fuel position (encode s) = .ok s := by
  induction s generalizing fuel position with
  | nil => cases fuel <;> rfl
  | cons c s ih =>
    obtain ⟨b, tail, hc, hread⟩ := readChar_encodeChar c
    have hs : encode (c :: s) = b :: (tail ++ encode s) := by
      rw [encode, List.flatMap_cons, hc]
      rfl
    rw [hs] at h ⊢
    rw [List.length_cons, List.length_append] at h
    cases fuel with
    | zero => omega
    | succ fuel => simp only [decodeFrom, hread, ih fuel _ (by omega)]

/-- Decoding undoes encoding. -/
theorem decode_encode (s : List Char) : decode (encode s) = .ok s :=
  decodeFrom_encode s _ _ (Nat.le_refl _)

theorem encode_injective : Function.Injective encode := by
  intro s t h
  have hdecode := congrArg decode h
  rw [decode_encode, decode_encode] at hdecode
  exact Except.ok.inj hdecode

end ProgramTags.Text.Utf8
