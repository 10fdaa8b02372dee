import Mathlib
import Multidispatch.Text.Escape
import Multidispatch.Text.Join

/-!
# Reading back what was written

A code writes things as lists of characters.  It tells two things apart if a text that begins with
the code of one and a text that begins with the code of the other are the same only if the things
are, and what follows is; so it can be read where the code ends.  This is how quoted text and numbers
are written: the quote and the backslash are marked inside quotes, and no digit is a bracket.

## Main definitions

* `Text.TellsApart` — where the code of a thing ends, and what it is, can be read off a text
* `Text.AvoidsStart` — the code of a thing does not begin with a certain character

## Main statements

* `Text.eq_of_flatMap_append` — codes that are written one after the other up to a stop can be read
* `Text.tellsApart_escapeChar`, `Text.tellsApart_quote` — written characters and quoted texts
* `Text.tellsApart_closed_int` — integers that are followed by a bracket
* `Text.toList_commaSeparated` — the characters of joined texts
-/

namespace Multidispatch.Text

variable {α : Type} {code : α → List Char} {stop : Char}

/-! ### Codes -/

/-- A text that begins with the code of the first thing, and one that begins with the code of the
second, are the same only if the things are, and what follows is. -/
def TellsApart (code : α → List Char) (a b : α) : Prop :=
  ∀ rest rest', code a ++ rest = code b ++ rest' → a = b ∧ rest = rest'

/-- A text that begins with the code of the thing does not begin with the character. -/
def AvoidsStart (code : α → List Char) (stop : Char) (a : α) : Prop :=
  ∀ rest rest', code a ++ rest ≠ stop :: rest'

/-- Codes that are written one after the other can be read up to a character with which none
begins. -/
theorem eq_of_flatMap_append {as bs : List α} (apart : ∀ a ∈ as, ∀ b, b ∈ bs → TellsApart code a b)
    (avoids : ∀ a ∈ as, AvoidsStart code stop a) (avoids' : ∀ b ∈ bs, AvoidsStart code stop b)
    {rest rest' : List Char}
    (same : as.flatMap code ++ stop :: rest = bs.flatMap code ++ stop :: rest') :
    as = bs ∧ rest = rest' := by
  induction as generalizing bs with
  | nil =>
    cases bs with
    | nil => exact ⟨rfl, (List.cons.inj same).2⟩
    | cons b bs =>
      rw [List.flatMap_cons, List.append_assoc] at same
      exact absurd same.symm (avoids' b List.mem_cons_self _ _)
  | cons a as ih =>
    cases bs with
    | nil =>
      rw [List.flatMap_cons, List.append_assoc] at same
      exact absurd same (avoids a List.mem_cons_self _ _)
    | cons b bs =>
      rw [List.forall_mem_cons] at apart avoids avoids'
      rw [List.flatMap_cons, List.flatMap_cons, List.append_assoc, List.append_assoc] at same
      obtain ⟨rfl, onward⟩ := apart.1 b List.mem_cons_self _ _ same
      obtain ⟨rfl, following⟩ := ih (fun a listed b later =>
        apart.2 a listed b (List.mem_cons_of_mem _ later)) avoids.2 avoids'.2 onward
      exact ⟨rfl, following⟩

/-- Characters can be read up to one that is not among them. -/
theorem eq_of_append_cons {cs ds rest rest' : List Char} (absent : stop ∉ cs) (absent' : stop ∉ ds)
    (same : cs ++ stop :: rest = ds ++ stop :: rest') : cs = ds ∧ rest = rest' := by
  have avoids : ∀ {cs : List Char}, stop ∉ cs →
      ∀ c ∈ cs, AvoidsStart (fun c : Char => [c]) stop c := by
    rintro cs absent c listed rest rest' same
    obtain ⟨rfl, -⟩ := List.cons.inj same
    exact absent listed
  rw [← List.flatMap_singleton' cs, ← List.flatMap_singleton' ds] at same
  refine eq_of_flatMap_append ?_ (avoids absent) (avoids absent') same
  exact fun c _ d _ rest rest' same => List.cons.inj same

/-! ### Numbers -/

/-- The sixteen digits are different. -/
theorem digitChar_inj {m n : Nat} (small : m < 16) (small' : n < 16)
    (same : m.digitChar = n.digitChar) : m = n := by
  revert same
  interval_cases m <;> interval_cases n <;> decide

/-- The last hexadecimal digit of a number, and those before it. -/
theorem toDigits_sixteen (n : Nat) :
    Nat.toDigits 16 n =
      (if n < 16 then [] else Nat.toDigits 16 (n / 16)) ++ [(n % 16).digitChar] := by
  split
  case isTrue small => rw [Nat.toDigits_of_lt_base small, Nat.mod_eq_of_lt small, List.nil_append]
  case isFalse large => exact Nat.toDigits_of_base_le (by decide) (Nat.le_of_not_lt large)

/-- Numbers are told by their hexadecimal digits. -/
theorem toDigits_sixteen_inj {m n : Nat} (same : Nat.toDigits 16 m = Nat.toDigits 16 n) : m = n := by
  induction m using Nat.strong_induction_on generalizing n with
  | _ m ih =>
    rw [toDigits_sixteen m, toDigits_sixteen n] at same
    obtain ⟨front, last⟩ := List.append_inj' same rfl
    have remainder : m % 16 = n % 16 :=
      digitChar_inj (Nat.mod_lt _ (by decide)) (Nat.mod_lt _ (by decide))
        (List.singleton_inj.mp last)
    split at front <;> split at front
    · omega
    · exact absurd front.symm Nat.toDigits_ne_nil
    · exact absurd front Nat.toDigits_ne_nil
    · have quotient := ih (m / 16) (by omega) front
      omega

/-- No hexadecimal digit is a brace. -/
theorem brace_not_mem_toDigits (n : Nat) : '\x7d' ∉ Nat.toDigits 16 n := by
  have digit : ∀ k : Nat, '\x7d' ≠ k.digitChar := fun k =>
    (Nat.digitChar_ne '\x7d' (by decide)).symm
  induction n using Nat.strong_induction_on with
  | _ n ih =>
    rw [toDigits_sixteen]
    split
    · simp [digit]
    · simp [digit, ih (n / 16) (by omega)]

/-- No integer is written with a bracket. -/
theorem bracket_not_mem_int (n : Int) : ')' ∉ (toString n).toList := by
  have digits : ∀ k : Nat, ')' ∉ k.repr.toList := by
    intro k listed
    rw [Nat.toList_repr] at listed
    exact absurd (Nat.isDigit_of_mem_toDigits (by decide) (by decide) listed) (by decide)
  rw [Int.toString_eq_repr, Int.repr_eq_if]
  split
  · exact digits _
  · rw [String.toList_append, List.mem_append]
    rintro (sign | listed)
    · exact absurd sign (by decide)
    · exact digits _ listed

/-- Integers that are followed by a bracket are told apart. -/
theorem tellsApart_closed_int (m n : Int64) :
    TellsApart (fun k : Int64 => (toString k.toInt).toList ++ [')']) m n := by
  intro rest rest' same
  simp only [List.append_assoc, List.singleton_append] at same
  obtain ⟨digits, following⟩ := eq_of_append_cons (bracket_not_mem_int _) (bracket_not_mem_int _) same
  rw [String.toList_inj, Int.toString_eq_repr, Int.toString_eq_repr, Int.repr_inj,
    Int64.toInt_inj] at digits
  exact ⟨digits, following⟩

/-! ### Quoted text -/

/-- The letters behind a backslash stand for different characters. -/
theorem shortEscape?_inj {c d letter : Char} (found : shortEscape? c = some letter)
    (found' : shortEscape? d = some letter) : c = d := by
  unfold shortEscape? at found found'
  split at found <;> cases found <;> split at found' <;> simp_all

/-- None of them is the letter that introduces a number. -/
theorem shortEscape?_ne {c letter : Char} (found : shortEscape? c = some letter) : letter ≠ 'u' := by
  unfold shortEscape? at found
  split at found <;> cases found <;> decide

/-- The three ways in which a character is written. -/
theorem escapeChar_cases (c : Char) :
    (∃ letter, shortEscape? c = some letter ∧ escapeChar c = ['\\', letter]) ∨
      escapeChar c = '\\' :: 'u' :: '\x7b' :: (Nat.toDigits 16 c.toNat ++ ['\x7d']) ∨
      c ≠ '\\' ∧ c ≠ '"' ∧ escapeChar c = [c] := by
  unfold escapeChar
  cases short : shortEscape? c with
  | some letter => exact .inl ⟨letter, rfl, rfl⟩
  | none =>
    have backslash : c ≠ '\\' := by
      rintro rfl
      cases short
    have quotes : c ≠ '"' := by
      rintro rfl
      cases short
    by_cases hidden : isHidden c = true
    · simp [hidden]
    · simp [hidden, backslash, quotes]

/-- Written characters are told apart: by the first character whether there is a backslash, by the
second one whether a number follows, and then by the letter or by the digits up to the brace. -/
theorem tellsApart_escapeChar (c d : Char) : TellsApart escapeChar c d := by
  intro rest rest' same
  rcases escapeChar_cases c with ⟨letter, short, written⟩ | written | ⟨plain, -, written⟩ <;>
    rw [written] at same
  · rcases escapeChar_cases d with ⟨letter', short', written⟩ | written | ⟨plain', -, written⟩ <;>
      rw [written] at same
    · obtain ⟨rfl, following⟩ := List.cons.inj (List.cons.inj same).2
      exact ⟨shortEscape?_inj short short', following⟩
    · exact absurd (List.cons.inj (List.cons.inj same).2).1 (shortEscape?_ne short)
    · exact absurd (List.cons.inj same).1.symm plain'
  · rcases escapeChar_cases d with ⟨letter', short', written⟩ | written | ⟨plain', -, written⟩ <;>
      rw [written] at same
    · exact absurd (List.cons.inj (List.cons.inj same).2).1.symm (shortEscape?_ne short')
    · simp only [List.cons_append, List.append_assoc, List.nil_append, List.cons.injEq, true_and]
        at same
      obtain ⟨digits, following⟩ :=
        eq_of_append_cons (brace_not_mem_toDigits _) (brace_not_mem_toDigits _) same
      exact ⟨Char.toNat_inj.mp (toDigits_sixteen_inj digits), following⟩
    · exact absurd (List.cons.inj same).1.symm plain'
  · rcases escapeChar_cases d with ⟨letter', short', written⟩ | written | ⟨plain', -, written⟩ <;>
      rw [written] at same
    · exact absurd (List.cons.inj same).1 plain
    · exact absurd (List.cons.inj same).1 plain
    · exact List.cons.inj same

/-- No written character begins with a quote. -/
theorem avoidsStart_escapeChar (c : Char) : AvoidsStart escapeChar '"' c := by
  intro rest rest' same
  rcases escapeChar_cases c with ⟨letter, -, written⟩ | written | ⟨-, plain, written⟩ <;>
    rw [written] at same
  · exact absurd (List.cons.inj same).1 (by decide)
  · exact absurd (List.cons.inj same).1 (by decide)
  · exact plain (List.cons.inj same).1

/-- Quoted texts are told apart. -/
theorem tellsApart_quote (s t : String) : TellsApart (fun u => (quote u).toList) s t := by
  intro rest rest' same
  simp only [quote, String.toList_ofList, List.cons_append, List.append_assoc, List.nil_append,
    List.cons.injEq, true_and] at same
  obtain ⟨chars, following⟩ := eq_of_flatMap_append (fun c _ d _ => tellsApart_escapeChar c d)
    (fun c _ => avoidsStart_escapeChar c) (fun d _ => avoidsStart_escapeChar d) same
  exact ⟨String.toList_inj.mp chars, following⟩

/-! ### Joined texts -/

/-- The characters of joined texts: those of the first text, and each of the others behind a comma
and a space. -/
theorem toList_commaSeparated (s : String) (others : List String) :
    (commaSeparated (s :: others)).toList =
      s.toList ++ others.flatMap fun other => ',' :: ' ' :: other.toList := by
  unfold commaSeparated
  induction others generalizing s with
  | nil => simp
  | cons other others ih => simp [ih]

end Multidispatch.Text
