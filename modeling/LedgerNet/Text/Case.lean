import LedgerNet.Text.CaseTable

/-!
# Letter case

Lower case and capitalized text after Unicode. A capital sigma becomes a final sigma at the end of
a word: a letter stands before it and none after it, marks aside.
-/

namespace LedgerNet.Text

/-! ## Characters -/

/-- The image of a code point under a case map, if it has one. -/
def caseImage? (map : List (Nat × Nat × Nat × Int)) (c : Char) : Option Char :=
  (map.find? fun (first, last, stride, _) =>
    first ≤ c.toNat && c.toNat ≤ last && (c.toNat - first) % stride == 0).map
    fun (_, _, _, offset) => Char.ofNat ((c.toNat : Int) + offset).toNat

/-- The lower-case form of one character, away from its neighbours. -/
def lowerChar (c : Char) : List Char :=
  if c.toNat < 128 then [c.toLower]
  else if c = 'İ' then ['i', Char.ofNat 0x307]
  else [(caseImage? CaseTable.lower c).getD c]

/-- The title-case form of one character. -/
def titleChar (c : Char) : List Char :=
  if c.toNat < 128 then [c.toUpper]
  else match CaseTable.titleExpansions.lookup c.toNat with
    | some forms => forms.map Char.ofNat
    | none => [(caseImage? CaseTable.title c).getD c]

/-- Whether a code point lies in one of the ranges. -/
def inRanges (ranges : List (Nat × Nat)) (c : Char) : Bool :=
  ranges.any fun (first, last) => first ≤ c.toNat && c.toNat ≤ last

/-- Whether the first character that is no mark is a letter with case. -/
def startsWithLetter (cs : List Char) : Bool :=
  match cs.dropWhile (inRanges CaseTable.caseIgnorable) with
  | [] => false
  | c :: _ => inRanges CaseTable.cased c

/-! ## Text -/

/-- Lower case of the characters `rest`, which stand after the characters `before`, nearest first.
-/
def lowerFrom (before : List Char) : (rest : List Char) → List Char
  | [] => []
  | c :: rest =>
    (if c = 'Σ' then
      [if startsWithLetter before && !startsWithLetter rest then 'ς' else 'σ']
    else lowerChar c) ++ lowerFrom (c :: before) rest

/-- Text in lower case. -/
def lower (s : String) : String := String.ofList (lowerFrom [] s.toList)

/-- Text with its first character in title case and the others in lower case. -/
def capitalize (s : String) : String :=
  match s.toList with
  | [] => ""
  | c :: rest => String.ofList (titleChar c ++ lowerFrom [c] rest)

end LedgerNet.Text
