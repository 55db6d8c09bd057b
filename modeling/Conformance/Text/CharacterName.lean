import Conformance.Text.CharacterName.Letters
import Conformance.Text.CharacterName.Signs
import Conformance.Text.CharacterName.Pictures
import Conformance.Text.CharacterName.Controls

/-!
# Characters by name

Capital and small letters in a name are the same, but not in the names that are made by a rule for
the syllables of Hangul and the unified ideographs.  No name has signs other than letters, digits, blanks
and hyphens, so a text with any other sign need not be looked up.

## Main Definitions

* `Text.hangulSyllable?`, `Text.unifiedIdeograph?` — the two rules
* `Text.isNameSign` — the signs that names are written with
* `Text.namedCode?` — the code point of the character with a name
-/

namespace Conformance.Text

/-- The leading consonants of Hangul in their order. -/
def hangulLeads : List String :=
  ["G", "GG", "N", "D", "DD", "R", "M", "B", "BB", "S", "SS", "", "J", "JJ", "C", "K", "T", "P", "H"]

/-- The vowels of Hangul in their order. -/
def hangulVowels : List String :=
  ["A", "AE", "YA", "YAE", "EO", "E", "YEO", "YE", "O", "WA", "WAE", "OE", "YO", "U", "WEO", "WE", "WI",
    "YU", "EU", "YI", "I"]

/-- The trailing consonants of Hangul in their order. -/
def hangulTrails : List String :=
  ["", "G", "GG", "GS", "N", "NJ", "NH", "D", "L", "LG", "LM", "LB", "LS", "LT", "LP", "LH", "M", "B",
    "BS", "S", "SS", "NG", "J", "C", "K", "T", "P", "H"]

/-- A text split behind a member of a list: the places of the members it begins with, each with the
rest of the text. -/
def splitBehind (members : List String) (text : List Char) : List (Nat × List Char) :=
  members.zipIdx.filterMap fun (m, i) => (m.toList.isPrefixOf? text).map fun rest => (i, rest)

/-- The syllable written by a leading consonant, a vowel and a trailing consonant. -/
def hangulSyllable? (text : List Char) : Option Nat :=
  (splitBehind hangulLeads text).findSome? fun (lead, rest) =>
    (splitBehind hangulVowels rest).findSome? fun (vowel, rest) =>
      (hangulTrails.findIdx? fun t => t.toList = rest).map fun trail =>
        0xac00 + (lead * 21 + vowel) * 28 + trail

/-- The unified ideographs: first and last code points. -/
def unifiedIdeographs : List (Nat × Nat) :=
  [(0x3400, 0x4dbf), (0x4e00, 0x9fff), (0x20000, 0x2a6df), (0x2a700, 0x2b738), (0x2b740, 0x2b81d),
    (0x2b820, 0x2cea1), (0x2ceb0, 0x2ebe0), (0x30000, 0x3134a)]

/-- The value of a hexadecimal digit whose letters are capital. -/
def capitalHexValue? (c : Char) : Option Nat :=
  if '0' ≤ c && c ≤ '9' then some (c.toNat - 48)
  else if 'A' ≤ c && c ≤ 'F' then some (c.toNat - 55)
  else none

/-- The number written in hexadecimal digits whose letters are capital. -/
def capitalHex? (digits : List Char) : Option Nat :=
  digits.foldl (fun n c => do return 16 * (← n) + (← capitalHexValue? c)) (some 0)

/-- A code point of some ranges, written in four or five hexadecimal digits. -/
def codeAmong? (ranges : List (Nat × Nat)) (digits : List Char) : Option Nat :=
  if digits.length = 4 || digits.length = 5 then
    (capitalHex? digits).filter fun code => ranges.any fun (lo, hi) => lo ≤ code && code ≤ hi
  else none

/-- The unified ideograph with a code point in four or five hexadecimal digits. -/
def unifiedIdeograph? (digits : List Char) : Option Nat := codeAmong? unifiedIdeographs digits

/-- Characters of a table named by a stem and their code point without a zero in front of it. -/
def codeNames : List (String × List (Nat × Nat)) :=
  [("CJK COMPATIBILITY IDEOGRAPH-", [(0xf900, 0xfa6d), (0xfa70, 0xfad9), (0x2f800, 0x2fa1d)]),
    ("KHITAN SMALL SCRIPT CHARACTER-", [(0x18b00, 0x18cd5)]), ("NUSHU CHARACTER-", [(0x1b170, 0x1b2fb)])]

/-- The code point that a name made of a stem and a code point stands for. -/
def codeName? (name : List Char) : Option Nat :=
  codeNames.findSome? fun (stem, ranges) =>
    match stem.toList.isPrefixOf? name with
    | some digits => if digits.head? = some '0' then none else codeAmong? ranges digits
    | none => none

/-- A letter of ASCII as a capital one. -/
def capital (c : Char) : Char := if 'a' ≤ c && c ≤ 'z' then Char.ofNat (c.toNat - 32) else c

/-- The code point of a name in the tables, all its letters capital. -/
def tabledCode? (name : List Char) : Option Nat :=
  ((letterNames ++ signNames ++ pictureNames).findSome? fun r => r.find? name).or <|
    (controlNames.find? fun (known, _) => known.toList = name).map (·.2)

/-- A sign that names are written with: a letter or digit of ASCII, a blank or a hyphen. -/
def isNameSign (c : Char) : Bool :=
  ('a' ≤ c && c ≤ 'z') || ('A' ≤ c && c ≤ 'Z') || ('0' ≤ c && c ≤ '9') || c = ' ' || c = '-'

/-- **The code point of the character with a name.** -/
def namedCode? (name : List Char) : Option Nat :=
  if !name.all isNameSign then none else
  match "HANGUL SYLLABLE ".toList.isPrefixOf? name, "CJK UNIFIED IDEOGRAPH-".toList.isPrefixOf? name with
  | some syllable, _ => hangulSyllable? syllable
  | none, some digits => unifiedIdeograph? digits
  | none, none =>
    let name := name.map capital
    (tabledCode? name).or (codeName? name)

end Conformance.Text
