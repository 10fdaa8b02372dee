import Multidispatch.Text.CaseTable

/-!
# Upper and lower case

The case of a text is converted character by character; one character may become several.  Only the
capital sigma depends on its place: at the end of a word its lower case is the final sigma.  It
ends a word when a letter with case stands before it and none after it, characters that case rules
skip left aside on both sides.

## Main definitions

* `upperChar`, `lowerChar` — the conversion of one character
* `endsWord` — whether a sigma between two texts ends a word
* `toUpper`, `toLower` — the conversion of a text
-/

namespace Multidispatch.Text

/-- The conversion of one character, from the mappings to one and to several characters. -/
def convertChar (runs : List CaseRun) (expansions : List (Nat × List Nat)) (c : Char) : List Char :=
  match CaseRun.find? runs c.toNat with
  | some image => [Char.ofNat image]
  | none =>
    match expansions.lookup c.toNat with
    | some image => image.map Char.ofNat
    | none => [c]

/-- The upper case of a character. -/
def upperChar (c : Char) : List Char :=
  convertChar upperRuns upperExpansions c

/-- The lower case of a character, whatever stands around it. -/
def lowerChar (c : Char) : List Char :=
  convertChar lowerRuns lowerExpansions c

/-- Whether a character is upper, lower or title case. -/
def isCased (c : Char) : Bool :=
  inRanges casedRanges c.toNat

/-- Whether rules about neighbouring letters skip the character. -/
def isCaseIgnorable (c : Char) : Bool :=
  inRanges caseIgnorableRanges c.toNat

/-- Whether the first character that is not skipped has case. -/
def casedNext (cs : List Char) : Bool :=
  match cs.dropWhile isCaseIgnorable with
  | [] => false
  | c :: _ => isCased c

/-- Whether a capital sigma ends a word, given the characters before it, the nearest first, and
those after it. -/
def endsWord (before after : List Char) : Bool :=
  casedNext before && !casedNext after

/-- The lower case of the characters that follow `before`, which is reversed. -/
def lowerFrom (before : List Char) : List Char → List Char
  | [] => []
  | c :: rest =>
    let image :=
      if c = 'Σ' then (if endsWord before rest then ['ς'] else ['σ']) else lowerChar c
    image ++ lowerFrom (c :: before) rest

/-- The upper case of a text. -/
def toUpper (s : String) : String :=
  String.ofList (s.toList.flatMap upperChar)

/-- The lower case of a text. -/
def toLower (s : String) : String :=
  String.ofList (lowerFrom [] s.toList)

end Multidispatch.Text
