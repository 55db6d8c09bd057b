/-!
# Texts as bytes

JSON that comes as bytes is a text in one of the encodings of Unicode.  The first bytes tell which.

## Main Definitions

* `Json.Encoding`, `Json.Encoding.detect` — the encodings, and which one some bytes are in
* `Json.decodeText?` — the text that bytes stand for
-/

namespace Conformance.Json

/-- The encodings of Unicode; those of units longer than a byte have two orders. -/
inductive Encoding where
  | utf8
  | utf16 (bigEndian : Bool)
  | utf32 (bigEndian : Bool)
  deriving DecidableEq, Repr, Inhabited

/-- The encoding of some bytes, and the bytes behind the mark that told it.  Without a mark, the
zeros among the first bytes tell, since a JSON text begins with an ASCII character. -/
def Encoding.detect (bytes : List Nat) : Encoding × List Nat :=
  match bytes with
  | 0x00 :: 0x00 :: 0xfe :: 0xff :: rest => (.utf32 true, rest)
  | 0xff :: 0xfe :: 0x00 :: 0x00 :: rest => (.utf32 false, rest)
  | 0xfe :: 0xff :: rest => (.utf16 true, rest)
  | 0xff :: 0xfe :: rest => (.utf16 false, rest)
  | 0xef :: 0xbb :: 0xbf :: rest => (.utf8, rest)
  | 0 :: b :: _ :: _ :: _ => (if b = 0 then .utf32 true else .utf16 true, bytes)
  | _ :: 0 :: c :: d :: _ => (if c = 0 && d = 0 then .utf32 false else .utf16 false, bytes)
  | [0, _] => (.utf16 true, bytes)
  | [_, 0] => (.utf16 false, bytes)
  | _ => (.utf8, bytes)

/-- The character of a code point; half of a surrogate pair is shown by the replacement
character. -/
def charOf (code : Nat) : Char :=
  if 0xd800 ≤ code && code ≤ 0xdfff then Char.ofNat 0xfffd else Char.ofNat code

/-- A byte that continues a character. -/
def continuation? (b : Nat) : Option Nat := if 0x80 ≤ b && b < 0xc0 then some (b - 0x80) else none

/-- The characters of bytes in which one to four bytes make a character, in the shortest way. -/
def decodeUtf8 : Nat → List Nat → Option (List Char)
  | _, [] => some []
  | 0, _ => none
  | fuel + 1, b :: rest =>
    if b < 0x80 then (decodeUtf8 fuel rest).map (charOf b :: ·)
    else if b < 0xc2 then none
    else if b < 0xe0 then
      match rest with
      | c :: rest => do
        let c ← continuation? c
        let cs ← decodeUtf8 fuel rest
        return charOf ((b - 0xc0) * 64 + c) :: cs
      | _ => none
    else if b < 0xf0 then
      match rest with
      | c :: d :: rest => do
        let c ← continuation? c
        let d ← continuation? d
        let code := (b - 0xe0) * 4096 + c * 64 + d
        if code < 0x800 then none
        let cs ← decodeUtf8 fuel rest
        return charOf code :: cs
      | _ => none
    else if b < 0xf5 then
      match rest with
      | c :: d :: e :: rest => do
        let c ← continuation? c
        let d ← continuation? d
        let e ← continuation? e
        let code := (b - 0xf0) * 262144 + c * 4096 + d * 64 + e
        if code < 0x10000 || 0x10ffff < code then none
        let cs ← decodeUtf8 fuel rest
        return charOf code :: cs
      | _ => none
    else none

/-- Bytes grouped into numbers of `size` bytes. -/
def units (size : Nat) (bigEndian : Bool) : Nat → List Nat → Option (List Nat)
  | _, [] => some []
  | 0, _ => none
  | fuel + 1, bytes =>
    let unit := bytes.take size
    if unit.length < size then none
    else
      let ordered := if bigEndian then unit else unit.reverse
      (units size bigEndian fuel (bytes.drop size)).map
        (ordered.foldl (fun n b => 256 * n + b) 0 :: ·)

/-- The characters of 16-bit units, two of which make a character beyond the first plane. -/
def joinSurrogates : List Nat → List Char
  | high :: low :: rest =>
    if 0xd800 ≤ high && high < 0xdc00 && 0xdc00 ≤ low && low < 0xe000 then
      Char.ofNat (0x10000 + (high - 0xd800) * 0x400 + (low - 0xdc00)) :: joinSurrogates rest
    else charOf high :: joinSurrogates (low :: rest)
  | [unit] => [charOf unit]
  | [] => []

/-- The text that bytes stand for. -/
def decodeText? (bytes : List UInt8) : Option String :=
  let (encoding, rest) := Encoding.detect (bytes.map UInt8.toNat)
  let fuel := rest.length + 1
  match encoding with
  | .utf8 => (decodeUtf8 fuel rest).map String.ofList
  | .utf16 bigEndian => (units 2 bigEndian fuel rest).map fun us => String.ofList (joinSurrogates us)
  | .utf32 bigEndian => do
    let us ← units 4 bigEndian fuel rest
    if us.any (0x10ffff < ·) then none
    return String.ofList (us.map charOf)

end Conformance.Json
