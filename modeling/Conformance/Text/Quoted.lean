import Conformance.Text.Printable

/-!
# Quoted texts

How a text and a string of bytes are written inside a value: between quotes, with what cannot be
shown written as an escape.

## Main Definitions

* `Text.quote` — the written form of a text
* `Text.quoteBytes` — the written form of a string of bytes
* `Text.clip` — a text cut to a number of characters, with an ellipsis

The quotes are single ones unless the text holds a single quote and no double one.
-/

namespace Conformance.Text

/-- One hexadecimal digit. -/
def hexDigit (n : Nat) : Char :=
  if n < 10 then Char.ofNat ('0'.toNat + n) else Char.ofNat ('a'.toNat + (n - 10))

/-- The last `width` hexadecimal digits of a number. -/
def hexDigits : Nat → Nat → List Char
  | 0, _ => []
  | width + 1, n => hexDigits width (n / 16) ++ [hexDigit (n % 16)]

/-- The quote that needs the fewest escapes: a double one only where it saves escaping a single
one. -/
def chooseQuote (hasSingle hasDouble : Bool) : Char := if hasSingle && !hasDouble then '"' else '\''

/-- The escape of a character that is not shown as it is, two, four or eight digits wide. -/
def escapeCode (code : Nat) : List Char :=
  if code ≤ 0xff then '\\' :: 'x' :: hexDigits 2 code
  else if code ≤ 0xffff then '\\' :: 'u' :: hexDigits 4 code
  else '\\' :: 'U' :: hexDigits 8 code

/-- One character inside quotes. -/
def quoteChar (mark c : Char) : List Char :=
  if c = mark || c = '\\' then ['\\', c]
  else if c = '\n' then ['\\', 'n']
  else if c = '\r' then ['\\', 'r']
  else if c = '\t' then ['\\', 't']
  else if isPrintable c then [c]
  else escapeCode c.toNat

/-- The written form of a text. -/
def quote (text : String) : String :=
  let cs := text.toList
  let mark := chooseQuote (cs.contains '\'') (cs.contains '"')
  String.ofList (mark :: (cs.flatMap (quoteChar mark) ++ [mark]))

/-- One byte inside quotes; every byte beyond ASCII is written as an escape. -/
def quoteByte (mark : Char) (b : UInt8) : List Char :=
  if b.toNat < 0x7f then quoteChar mark (Char.ofNat b.toNat) else escapeCode b.toNat

/-- The written form of a string of bytes. -/
def quoteBytes (bytes : List UInt8) : String :=
  let mark := chooseQuote (bytes.contains 39) (bytes.contains 34)
  String.ofList ('b' :: mark :: (bytes.flatMap (quoteByte mark) ++ [mark]))

/-- A text of more than `limit` characters cut to `limit`, the last three of them points. -/
def clip (limit : Nat) (text : String) : String :=
  let cs := text.toList
  if limit < cs.length then String.ofList (cs.take (limit - 3)) ++ "..." else text

end Conformance.Text
