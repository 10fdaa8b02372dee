import Mathlib
import Multidispatch.Native.Comparison

/-!
# The order of strings

Strings are ordered by code point: a proper beginning of a string is before it, and otherwise the
first place where two strings differ decides.  The order of the bytes by which strings are encoded
is the same.  For the first bytes of two characters grow with the number of bytes, and characters
of equally many bytes are encoded by the digits of their code points; so of two different
characters, neither encoding is the beginning of the other, and the one of the smaller code point
is before.

## Main definitions

* `Text.Precedes` — the order by code point
* `Text.bytes` — the encoding of a string

## Main statements

* `Text.precedes_iff_lt` — the order of strings is the order by code point
* `Text.encode_lt` — encodings of characters are ordered as their code points
* `Text.precedes_iff_bytes_lt` — the order by code point is that of the bytes
-/

namespace Multidispatch.Text

/-- A string is before another if it is a proper beginning of the other, or has the smaller code
point at the first place where they differ. -/
def Precedes (s t : String) : Prop :=
  (∃ rest, rest ≠ [] ∧ t.toList = s.toList ++ rest) ∨
    ∃ shared c d rest rest', c.toNat < d.toNat ∧
      s.toList = shared ++ c :: rest ∧ t.toList = shared ++ d :: rest'

/-- The bytes by which a string is encoded. -/
def bytes (s : String) : List UInt8 :=
  s.toByteArray.data.toList

/-! ### The order by code point -/

theorem lt_iff_beginning_or_differ {α : Type} [LT α] {as bs : List α} :
    as < bs ↔ (∃ rest, rest ≠ [] ∧ bs = as ++ rest) ∨
      ∃ shared a b rest rest', a < b ∧ as = shared ++ a :: rest ∧ bs = shared ++ b :: rest' := by
  constructor
  · intro before
    induction before with
    | nil => exact .inl ⟨_, List.cons_ne_nil _ _, rfl⟩
    | rel smaller => exact .inr ⟨[], _, _, _, _, smaller, rfl, rfl⟩
    | @cons x _ _ _ ih =>
      rcases ih with ⟨rest, proper, rfl⟩ | ⟨shared, a, b, rest, rest', smaller, rfl, rfl⟩
      · exact .inl ⟨rest, proper, rfl⟩
      · exact .inr ⟨x :: shared, a, b, rest, rest', smaller, rfl, rfl⟩
  · rintro (⟨rest, proper, rfl⟩ | ⟨shared, a, b, rest, rest', smaller, rfl, rfl⟩)
    · obtain ⟨b, rest', rfl⟩ := List.exists_cons_of_ne_nil proper
      simpa using List.append_left_lt (List.nil_lt_cons b rest')
    · exact List.append_left_lt (List.cons_lt_cons_iff.mpr (.inl smaller))

/-- The order of strings is the order by code point. -/
theorem precedes_iff_lt {s t : String} : Precedes s t ↔ s < t :=
  lt_iff_beginning_or_differ.symm

/-! ### The order of the bytes -/

theorem bytes_eq (s : String) : bytes s = s.toList.flatMap String.utf8EncodeChar := by
  rw [bytes, ← String.utf8Encode_toList, List.utf8Encode, List.data_toByteArray]

/-- Of two characters, the one with the smaller code point has the encoding that is before, whatever
comes after them. -/
theorem encode_lt {c d : Char} (smaller : c < d) (rest rest' : List UInt8) :
    String.utf8EncodeChar c ++ rest < String.utf8EncodeChar d ++ rest' := by
  have values : c.val.toNat < d.val.toNat := smaller
  have bound : d.val.toNat < 1114112 := by
    have valid := d.valid
    simp only [UInt32.isValidChar, Nat.isValidChar] at valid
    omega
  unfold String.utf8EncodeChar
  generalize c.val.toNat = v at *
  generalize d.val.toNat = w at *
  dsimp only
  have shifts : ∀ n, n / 4096 = n / 64 / 64 ∧ n / 262144 = n / 64 / 64 / 64 := by omega
  have shifts_v := shifts v
  have shifts_w := shifts w
  -- The two characters can have one to four bytes each; only their order matters in the end.
  split_ifs <;>
    simp (disch := omega) only [List.cons_append, List.nil_append, List.cons_lt_cons_iff,
      UInt8.lt_iff_toNat_lt, ← UInt8.toNat_inj, UInt8.toNat_ofNat', Nat.reducePow,
      Nat.mod_eq_of_lt] <;>
    omega

/-- Strings that are ordered by code point have bytes in the same order. -/
theorem bytes_lt_of_precedes {s t : String} (before : Precedes s t) : bytes s < bytes t := by
  rw [bytes_eq, bytes_eq]
  rcases before with ⟨rest, proper, ends⟩ | ⟨shared, c, d, rest, rest', smaller, left, right⟩
  · rw [ends, List.flatMap_append]
    refine lt_iff_beginning_or_differ.mpr (.inl ⟨_, ?_, rfl⟩)
    obtain ⟨d, rest', rfl⟩ := List.exists_cons_of_ne_nil proper
    rw [List.flatMap_cons]
    exact List.append_ne_nil_of_left_ne_nil String.utf8EncodeChar_ne_nil _
  · rw [left, right, List.flatMap_append, List.flatMap_append, List.flatMap_cons, List.flatMap_cons]
    exact List.append_left_lt (encode_lt smaller _ _)

/-- The order by code point is the order of the bytes. -/
theorem precedes_iff_bytes_lt {s t : String} : Precedes s t ↔ bytes s < bytes t := by
  refine ⟨bytes_lt_of_precedes, fun before => ?_⟩
  rcases lt_trichotomy s t with below | same | above
  · exact precedes_iff_lt.mpr below
  · rw [same] at before
    exact absurd before (List.lt_irrefl _)
  · have after := bytes_lt_of_precedes (precedes_iff_lt.mpr above)
    exact absurd after (List.lt_asymm before)

end Multidispatch.Text
