import Multidispatch.Proofs.TextOrder
import Multidispatch.Text.Infix

/-!
# Occurrence, by characters and by bytes

A string occurs in another if the characters of the one are neighbours in the other.  A search that
looks for the bytes of the one among the bytes of the other finds the same.  For a character cannot
be found inside of another one: the first byte of a character is never one of its later bytes, so
whatever begins with a character begins where a character begins; and from there on no encoding is
the beginning of another, so the bytes can only agree if the characters do.

## Main statements

* `Text.contains_iff_exists` — what occurs in a string, and what stands before and after it
* `Text.prefix_of_encode` — bytes that agree from a beginning are those of the same
  characters
* `Text.infix_of_encode` — and so they are if they agree anywhere
* `Text.contains_iff_bytes` — occurrence is occurrence of the bytes
-/

namespace Multidispatch.Text

/-! ### Characters -/

theorem occursIn_iff {part whole : List Char} :
    occursIn part whole = true ↔ part <:+: whole := by
  induction whole with
  | nil => rw [occursIn, List.isEmpty_iff, List.infix_nil]
  | cons c rest ih =>
    rw [occursIn, Bool.or_eq_true, List.isPrefixOf_iff_prefix, ih, List.infix_cons_iff]

/-- A string occurs in those that are made of it, something before it and something after it. -/
theorem contains_iff_exists {whole part : String} :
    contains whole part = true ↔ ∃ front back : String, front ++ part ++ back = whole := by
  rw [contains, occursIn_iff]
  constructor
  · rintro ⟨front, back, same⟩
    refine ⟨.ofList front, .ofList back, String.ext ?_⟩
    simpa using same
  · rintro ⟨front, back, rfl⟩
    exact ⟨front.toList, back.toList, by simp⟩

/-- Each character of a string occurs in it. -/
theorem contains_singleton {s : String} {c : Char} (among : c ∈ s.toList) :
    contains s (.singleton c) = true := by
  obtain ⟨front, back, split⟩ := List.append_of_mem among
  rw [contains, occursIn_iff, String.toList_singleton, split]
  exact ⟨front, back, by simp⟩

/-! ### Bytes -/

theorem bytes_append (s t : String) : bytes (s ++ t) = bytes s ++ bytes t := by
  rw [bytes_eq, bytes_eq, bytes_eq, String.toList_append, List.flatMap_append]

/-- The bytes by which characters are encoded, one after the other. -/
def encode (cs : List Char) : List UInt8 :=
  cs.flatMap String.utf8EncodeChar

@[simp] theorem encode_nil : encode [] = [] := rfl

@[simp] theorem encode_cons (c : Char) (cs : List Char) :
    encode (c :: cs) = String.utf8EncodeChar c ++ encode cs := rfl

/-- Encodings that begin alike are those of the same character. -/
theorem eq_of_encode_append_eq {c d : Char} {rest rest' : List UInt8}
    (same : String.utf8EncodeChar c ++ rest = String.utf8EncodeChar d ++ rest') : c = d := by
  rcases lt_trichotomy c d with below | equal | above
  · have before := encode_lt below rest rest'
    rw [same] at before
    exact absurd before (List.lt_irrefl _)
  · exact equal
  · have before := encode_lt above rest' rest
    rw [same] at before
    exact absurd before (List.lt_irrefl _)

/-- If the bytes of characters are followed by anything to give the bytes of others, the characters
are the beginning of these. -/
theorem prefix_of_encode {cs ds : List Char} (agrees : encode cs <+: encode ds) :
    cs <+: ds := by
  induction cs generalizing ds with
  | nil => exact List.nil_prefix
  | cons c cs ih =>
    cases ds with
    | nil =>
      rw [encode_nil, List.prefix_nil, encode_cons, List.append_eq_nil_iff] at agrees
      exact absurd agrees.1 String.utf8EncodeChar_ne_nil
    | cons d ds =>
      obtain ⟨rest, same⟩ := agrees
      rw [encode_cons, encode_cons, List.append_assoc] at same
      obtain rfl := eq_of_encode_append_eq same
      have agrees : encode cs <+: encode ds := ⟨rest, List.append_cancel_left same⟩
      exact (List.prefix_cons_inj c).mpr (ih agrees)

/-- Of the bytes of a character, the one with nothing before it is the first byte of a character. -/
theorem isUTF8FirstByte_iff {c : Char} {front back : List UInt8} {byte : UInt8}
    (splits : String.utf8EncodeChar c = front ++ byte :: back) :
    byte.IsUTF8FirstByte ↔ front = [] := by
  have inside : front.length < (String.utf8EncodeChar c).length := by simp [splits]
  have found : (String.utf8EncodeChar c)[front.length] = byte := by simp [splits]
  rw [← found, UInt8.isUTF8FirstByte_getElem_utf8EncodeChar, List.length_eq_zero_iff]

/-- What begins with a character does not begin inside of a character. -/
theorem not_encode_of_splits {c d : Char} {front back rest rest' : List UInt8} (inside : front ≠ [])
    (splits : String.utf8EncodeChar d = front ++ back) (remains : back ≠ []) :
    String.utf8EncodeChar c ++ rest ≠ back ++ rest' := by
  intro same
  obtain ⟨byte, back, rfl⟩ := List.exists_cons_of_ne_nil remains
  obtain ⟨first, more, encoded⟩ := List.exists_cons_of_ne_nil (@String.utf8EncodeChar_ne_nil c)
  rw [encoded] at same
  obtain rfl : first = byte := List.head_eq_of_cons_eq same
  have isFirst : first.IsUTF8FirstByte := (@isUTF8FirstByte_iff c [] more first encoded).mpr rfl
  exact inside ((isUTF8FirstByte_iff splits).mp isFirst)

/-- If the bytes of characters stand anywhere among the bytes of others, the characters stand among
these. -/
theorem infix_of_encode {cs ds : List Char} (agrees : encode cs <:+: encode ds) :
    cs <:+: ds := by
  cases cs with
  | nil => exact List.nil_infix
  | cons c cs =>
    induction ds with
    | nil =>
      rw [encode_nil, List.infix_nil, encode_cons, List.append_eq_nil_iff] at agrees
      exact absurd agrees.1 String.utf8EncodeChar_ne_nil
    | cons d ds ih =>
      obtain ⟨front, back, same⟩ := agrees
      rw [encode_cons d, List.append_assoc, List.append_eq_append_iff] at same
      -- The bytes begin with those of `d`, or at a later byte of `d`, or behind `d`.
      rcases same with ⟨between, splits, same⟩ | ⟨between, rfl, same⟩
      · by_cases atStart : front = []
        · rw [atStart, List.nil_append] at splits
          rw [← splits] at same
          exact (prefix_of_encode ⟨back, same⟩).isInfix
        · by_cases atEnd : between = []
          · rw [atEnd, List.nil_append] at same
            exact List.infix_cons (ih ⟨[], back, same⟩)
          · rw [encode_cons, List.append_assoc] at same
            exact absurd same (not_encode_of_splits atStart splits atEnd)
      · exact List.infix_cons (ih ⟨between, back, by rw [same, List.append_assoc]⟩)

/-- A string occurs in another if and only if its bytes occur in the bytes of the other. -/
theorem contains_iff_bytes {whole part : String} :
    contains whole part = true ↔ bytes part <:+: bytes whole := by
  constructor
  · intro occurs
    obtain ⟨front, back, rfl⟩ := contains_iff_exists.mp occurs
    exact ⟨bytes front, bytes back, by rw [bytes_append, bytes_append]⟩
  · intro occurs
    rw [bytes_eq, bytes_eq] at occurs
    exact occursIn_iff.mpr (infix_of_encode occurs)

end Multidispatch.Text
