import Conformance.Regex.Basic
import Conformance.Regex.Flags
import Conformance.Text.Identifier
import Conformance.Text.CharacterName
import Conformance.Decimal.Reading

/-!
# Reading the source of a regex

## Main Definitions

* `Regex.Refusal` — why a source is no regex
* `Regex.Token` — a character of the source, or a backslash together with the character after it
* `Regex.ParseState`, `Regex.SourceReader` — what the reader knows at a position
* `Regex.Item` — what was read of a sequence: trees that a repeat sign takes as one
* `Regex.alternation` — the grammar
* `Regex.read` — the tree and the final flags of a source

## Design Notes

The reader descends through the source once, from left to right, and never goes back but for one
place: a brace that opens no repeat count stands for itself, and reading goes on right behind it.
Each step of the descent consumes a character or enters a group, so a step count in
proportion to the length of the source is enough; `read` provides it.

What takes the whole source to see is only looked at when all of it is read: the classes of ASCII and
of Unicode asked for at once, conditions on groups that do not exist, a look back at a text without a
fixed length, and repeats under a switch that allows none.
-/

namespace Conformance.Regex

/-- Why a source is no regex. -/
inductive Refusal where
  /-- The source breaks the grammar. -/
  | invalid
  /-- The source asks for more than the engine takes. -/
  | fault (f : Fault)
  deriving DecidableEq, Repr, Inhabited

/-- A unit of the source. -/
inductive Token where
  | plain (c : Char)
  | escaped (c : Char)
  /-- A backslash at the end of the source. -/
  | dangling
  deriving DecidableEq, Repr, Inhabited

/-- The units of a source. -/
def Token.ofList : List Char → List Token
  | [] => []
  | ['\\'] => [.dangling]
  | '\\' :: c :: cs => .escaped c :: ofList cs
  | c :: cs => .plain c :: ofList cs

/-- The characters of a unit. -/
def Token.chars : Token → List Char
  | .plain c => [c]
  | .escaped c => ['\\', c]
  | .dangling => ['\\']

/-- What the reader knows at a position of the source. -/
structure ParseState where
  rest : List Token
  /-- The switches set for the whole regex. -/
  flags : Flags
  /-- The number of groups opened so far. -/
  opened : Nat
  /-- The groups closed so far, with their widths. -/
  closed : List (Nat × Width)
  /-- The groups with a name. -/
  names : List (List Char × Nat)
  /-- The groups that conditions ask about. -/
  asked : List Nat
  /-- Inside a look back, the number of groups opened before it. -/
  lookback : Option Nat
  /-- A look back without a fixed length was met. -/
  looseLookback : Bool
  /-- A repeat was met. -/
  repeats : Bool
  deriving Repr, Inhabited

/-- A reader of a part of the source. -/
abbrev SourceReader := StateT ParseState (Except Refusal)

namespace SourceReader

/-- The source breaks the grammar here. -/
def invalid {α : Type} : SourceReader α := throw .invalid

/-- The next unit, not consumed. -/
def peek : SourceReader (Option Token) := return (← get).rest.head?

/-- Consume a unit.  A lone backslash is refused as soon as it comes next. -/
def advance : SourceReader Unit := do
  let rest := (← get).rest.tail
  if rest.head? = some .dangling then invalid
  modify fun s => { s with rest }

/-- Consume and return the next unit. -/
def next : SourceReader (Option Token) := do
  let t ← peek
  if t.isSome then advance
  return t

/-- Consume a given character if it comes next. -/
def accept (c : Char) : SourceReader Bool := do
  if (← peek) = some (.plain c) then
    advance
    return true
  return false

/-- A given character has to come next. -/
def expect (c : Char) : SourceReader Unit := do
  if !(← accept c) then invalid

/-- Up to `limit` further characters of a kind. -/
def takeWhile (test : Char → Bool) : Nat → SourceReader (List Char)
  | 0 => return []
  | limit + 1 => do
    match ← peek with
    | some (.plain c) =>
      if test c then
        advance
        return c :: (← takeWhile test limit)
      else return []
    | _ => return []

/-- Everything up to a closing character, which is consumed; nothing at all is refused. -/
def takeUntil (close : Char) : Nat → List Char → SourceReader (List Char)
  | 0, _ => invalid
  | fuel + 1, taken => do
    match ← next with
    | none => invalid
    | some t =>
      if t = .plain close then
        if taken.isEmpty then invalid else return taken
      else takeUntil close fuel (taken ++ t.chars)

/-- The name of a group, up to its closing character. -/
def nameUntil (close : Char) : SourceReader (List Char) := do
  takeUntil close ((← get).rest.length + 1) []

/-- An identifier, up to its closing character. -/
def identifierUntil (close : Char) : SourceReader (List Char) := do
  let name ← nameUntil close
  if Text.isIdentifier name then return name else invalid

/-- A group that is closed can be referred to, and inside a look back only one opened before. -/
def checkLookback (index : Nat) : SourceReader Unit := do
  let s ← get
  match s.lookback with
  | none => return
  | some before =>
    if (s.closed.lookup index).isNone || before < index then invalid

/-- A reference to a closed group. -/
def reference (m : Comparison) (index : Nat) : SourceReader Node := do
  match (← get).closed.lookup index with
  | none => invalid
  | some width =>
    checkLookback index
    return .backref index width m

end SourceReader

open SourceReader

/-- The comparison of characters under some switches. -/
def Flags.comparison (flags : Flags) : Comparison := ⟨flags.ignoreCase, flags.ascii⟩

/-- The tree of one character. -/
def Flags.literal (flags : Flags) (code : Nat) : Node := .char (.one code flags.comparison)

/-! ## Escapes -/

/-- An octal digit. -/
def isOctal (c : Char) : Bool := '0' ≤ c && c ≤ '7'

/-- An ASCII letter. -/
def isLetter (c : Char) : Bool := ('a' ≤ c && c ≤ 'z') || ('A' ≤ c && c ≤ 'Z')

/-- The value of a hexadecimal digit. -/
def hexValue? (c : Char) : Option Nat :=
  if '0' ≤ c && c ≤ '9' then some (c.toNat - 48)
  else if 'a' ≤ c && c ≤ 'f' then some (c.toNat - 87)
  else if 'A' ≤ c && c ≤ 'F' then some (c.toNat - 55)
  else none

/-- The number written in a base by digits below it. -/
def ofDigits (base : Nat) (cs : List Char) : Nat :=
  cs.foldl (fun n c => base * n + (hexValue? c).getD 0) 0

/-- The characters that an escape of one letter stands for. -/
def letterEscape? : Char → Option Nat
  | 'a' => some 7
  | 'b' => some 8
  | 'f' => some 12
  | 'n' => some 10
  | 'r' => some 13
  | 't' => some 9
  | 'v' => some 11
  | '\\' => some 92
  | _ => none

/-- The named class that an escape stands for. -/
def classEscape? : Char → Option SetItem
  | 'd' => some (.named .digit false)
  | 'D' => some (.named .digit true)
  | 's' => some (.named .blank false)
  | 'S' => some (.named .blank true)
  | 'w' => some (.named .word false)
  | 'W' => some (.named .word true)
  | _ => none

/-- A code point written by a fixed number of hexadecimal digits. -/
def hexEscape (digits : Nat) : SourceReader Nat := do
  let cs ← takeWhile (fun c => (hexValue? c).isSome) digits
  if cs.length ≠ digits then invalid
  let code := ofDigits 16 cs
  if 0x10ffff < code then invalid
  return code

/-- A character by its name in braces. -/
def namedEscape : SourceReader Nat := do
  expect '{'
  match Text.namedCode? (← nameUntil '}') with
  | some code => return code
  | none => invalid

/-- The escapes that mean the same inside and outside of a set: code points by hexadecimal digits,
characters by name, and a sign that stands for itself.  A letter without a meaning is refused. -/
def plainEscape (c : Char) : SourceReader Nat := do
  if c = 'x' then hexEscape 2
  else if c = 'u' then hexEscape 4
  else if c = 'U' then hexEscape 8
  else if c = 'N' then namedEscape
  else if isLetter c || Decimal.isDigit c then invalid
  else return c.toNat

/-- An escape inside a set. -/
def setEscape (c : Char) : SourceReader SetItem := do
  match letterEscape? c, classEscape? c with
  | some code, _ => return .code code
  | none, some item => return item
  | none, none =>
    if isOctal c then
      let cs ← takeWhile isOctal 2
      let code := ofDigits 8 (c :: cs)
      if 0o377 < code then invalid
      return .code code
    else return .code (← plainEscape c)

/-- The anchor that an escape stands for. -/
def anchorEscape? (flags : Flags) : Char → Option Anchor
  | 'A' => some .textStart
  | 'Z' => some .textEnd
  | 'b' => some (.wordEdge flags.ascii)
  | 'B' => some (.insideWord flags.ascii)
  | _ => none

/-- An escape by digits outside of a set: three octal digits are a code point, anything else is a
reference to a group. -/
def digitEscape (flags : Flags) (c : Char) : SourceReader Node := do
  let second ← takeWhile Decimal.isDigit 1
  let third ← match second with
    | [d] => if isOctal c && isOctal d then takeWhile isOctal 1 else pure []
    | _ => pure []
  if third.isEmpty then reference flags.comparison (Decimal.natOfDigits (c :: second))
  else
    let code := ofDigits 8 (c :: (second ++ third))
    if 0o377 < code then invalid
    return flags.literal code

/-- An escape outside of a set. -/
def escape (flags : Flags) (c : Char) : SourceReader Node := do
  match anchorEscape? flags c, classEscape? c, letterEscape? c with
  | some a, _, _ => return .anchor a
  | none, some item, _ => return .char (.brackets false [item] flags.comparison)
  | none, none, some code => return flags.literal code
  | none, none, none =>
    if c = '0' then
      let cs ← takeWhile isOctal 2
      return flags.literal (ofDigits 8 cs)
    else if Decimal.isDigit c then digitEscape flags c
    else return flags.literal (← plainEscape c)

/-! ## Sets, repeats and flags -/

/-- One end of a range, or a class. -/
def setItem : Token → SourceReader SetItem
  | .plain c => return .code c.toNat
  | .escaped c => setEscape c
  | .dangling => invalid

/-- The items of a set up to its closing bracket, which stands for itself in the first place. -/
def setItems : Nat → List SetItem → SourceReader (List SetItem)
  | 0, _ => invalid
  | fuel + 1, items => do
    match ← next with
    | none => invalid
    | some t =>
      if t = .plain ']' && !items.isEmpty then return items
      else
        let first ← setItem t
        if ← accept '-' then
          match ← next with
          | none => invalid
          | some t' =>
            if t' = .plain ']' then return items ++ [first, .code 45]
            else
              match first, ← setItem t' with
              | .code lo, .code hi =>
                if hi < lo then invalid else setItems fuel (items ++ [.range lo hi])
              | _, _ => invalid
        else setItems fuel (items ++ [first])

/-- A set, its opening bracket consumed.  Brackets around a single character are no more than the
character, or every other one. -/
def charSet (m : Comparison) : SourceReader Node := do
  let negated ← accept '^'
  match (← setItems ((← get).rest.length + 1) []).eraseDups with
  | [.code n] => return .char (if negated then .allBut n m else .one n m)
  | items => return .char (.brackets negated items m)

/-- Repeat counts stay below this bound. -/
def repeatLimit : Nat := 4294967295

/-- A count inside braces; an empty one is absent. -/
def count? (ds : List Char) : SourceReader (Option Nat) := do
  if ds.isEmpty then return none
  if Decimal.digitLimit < ds.length then throw (.fault .tooManyDigits)
  let n := Decimal.natOfDigits ds
  if repeatLimit ≤ n then throw (.fault .repeatTooLarge)
  return some n

/-- The counts of a repeat, its opening brace consumed.  A brace that opens no counts is no repeat,
and nothing of what follows it is consumed. -/
def braces : SourceReader (Option (Nat × Option Nat)) := do
  if (← peek) = some (.plain '}') then return none
  let before ← get
  let limit := before.rest.length
  let low ← takeWhile Decimal.isDigit limit
  let comma ← accept ','
  let high ← if comma then takeWhile Decimal.isDigit limit else pure low
  if ← accept '}' then
    let least ← count? low
    let most ← count? high
    if most.any fun m => m < least.getD 0 then invalid
    return some (least.getD 0, most)
  else
    set before
    return none

/-- The counts a repeat sign stands for. -/
def repeatCounts? (c : Char) : Option (Nat × Option Nat) :=
  if c = '?' then some (0, some 1)
  else if c = '*' then some (0, none)
  else if c = '+' then some (1, none)
  else none

/-- How a repeat chooses its count, by the sign behind it. -/
def greed : SourceReader Greed := do
  if ← accept '?' then return .lazy
  if ← accept '+' then return .possessive
  return .greedy

/-- What was read of a sequence: trees that a repeat sign takes as one. -/
structure Item where
  nodes : List Node
  /-- A repeat sign can stand behind it. -/
  repeatable : Bool

/-- The item of a single tree.  Anchors and repeats cannot be repeated. -/
def Item.single (n : Node) : Item :=
  ⟨[n], match n with
    | .anchor _ => false
    | .loop .. => false
    | _ => true⟩

/-- The item of a bracket without switches, which is no more than what it encloses. -/
def Item.bracket (nodes : List Node) : Item := ⟨nodes, true⟩

/-- The trees of the items read so far, the latest item first. -/
def Item.join (items : List Item) : List Node := items.reverse.flatMap Item.nodes

/-- Repeat the item read last.  There has to be one that can be repeated. -/
def repeatLast (counts : Nat × Option Nat) : List Item → SourceReader (List Item)
  | [] => invalid
  | item :: items => do
    if !item.repeatable then invalid
    modify fun s => { s with repeats := true }
    return .single (.loop (← greed) counts.1 counts.2 (.ofList item.nodes)) :: items

/-- The letters of the switches that a group turns on, and the sign that ends them. -/
def flagsOn : Nat → Flags → Char → SourceReader (Flags × Char)
  | 0, _, _ => invalid
  | fuel + 1, on, c => do
    match Flags.ofLetter? c with
    | none => invalid
    | some flag =>
      let on := on.union flag
      if (flag.ascii || flag.unicode) && on.ascii && on.unicode then invalid
      match ← next with
      | some (.plain c) =>
        if c = ')' || c = '-' || c = ':' then return (on, c) else flagsOn fuel on c
      | _ => invalid

/-- The letters of the switches that a group turns off, up to the colon. -/
def flagsOff : Nat → Flags → SourceReader Flags
  | 0, _ => invalid
  | fuel + 1, off => do
    match ← next with
    | some (.plain c) =>
      match Flags.ofLetter? c with
      | none => invalid
      | some flag =>
        if flag.ascii || flag.unicode then invalid
        let off := off.union flag
        if ← accept ':' then return off else flagsOff fuel off
    | _ => invalid

/-- What a group that begins with switches does. -/
inductive FlagGroup where
  /-- The switches hold for the whole regex. -/
  | whole (on : Flags)
  /-- The switches hold inside the group. -/
  | inside (on off : Flags)

/-- The switches at the start of a group, of which `c` is the first sign. -/
def flagGroup (c : Char) : SourceReader FlagGroup := do
  let fuel := (← get).rest.length + 1
  let (on, stop) ← if c = '-' then pure (Flags.none, '-') else flagsOn fuel Flags.none c
  if stop = ')' then return .whole on
  if on.template then invalid
  let off ← if stop = '-' then flagsOff fuel Flags.none else pure Flags.none
  if off.template || on.overlaps off then invalid
  return .inside on off

/-! ## The grammar -/

/-- Open a group, under a name or without one. -/
def openGroup (name : Option (List Char)) : SourceReader Nat := do
  let s ← get
  let index := s.opened + 1
  match name with
  | none => set { s with opened := index }
  | some name =>
    if (s.names.lookup name).isSome then invalid
    set { s with opened := index, names := (name, index) :: s.names }
  return index

/-- Skip a comment up to its closing parenthesis. -/
def skipComment : Nat → SourceReader Unit
  | 0 => invalid
  | fuel + 1 => do
    match ← next with
    | none => invalid
    | some t => if t = .plain ')' then return else skipComment fuel

/-- Skip the rest of a line of the source. -/
def skipLine : Nat → SourceReader Unit
  | 0 => return
  | fuel + 1 => do
    match ← next with
    | none => return
    | some t => if t = .plain '\n' then return else skipLine fuel

/-- The value of an integer numeral in digits of any script, single underscores between them. -/
def numeralValue? (n : Nat) (afterDigit : Bool) : List Char → Option Nat
  | [] => if afterDigit then some n else none
  | c :: cs =>
    if c = '_' then if afterDigit then numeralValue? n false cs else none
    else match Text.decimalValue? c with
      | some d => numeralValue? (10 * n + d) true cs
      | none => none

/-- The number of a group in a condition: an integer numeral, blanks and underscores allowed as in
any integer numeral. -/
def groupNumber? (name : List Char) : Option Nat :=
  let (negative, digits) := Decimal.takeSign (Decimal.trim name)
  match numeralValue? 0 false digits with
  | some n => if n = 0 || negative then none else some n
  | none => none

/-- The group that a condition asks about. -/
def conditionGroup : SourceReader Nat := do
  let name ← nameUntil ')'
  let index ←
    if Text.isIdentifier name then
      match (← get).names.lookup name with
      | some index => pure index
      | none => invalid
    else
      match groupNumber? name with
      | some index =>
        if 1073741823 ≤ index then invalid
        modify fun s => { s with asked := index :: s.asked }
        pure index
      | none => invalid
  checkLookback index
  return index

mutual

/-- Alternatives, separated by bars.  Switches set at the very start of the regex hold for all of
them. -/
def alternation : Nat → Flags → Bool → SourceReader (List Node)
  | 0, _, _ => invalid
  | fuel + 1, flags, top => do
    let first ← sequence fuel flags top []
    let set := (← get).flags
    let flags := if top then set else flags
    return Node.ofAlternatives flags.comparison (first :: (← alternatives fuel flags))

/-- The alternatives after the first. -/
def alternatives : Nat → Flags → SourceReader (List (List Node))
  | 0, _ => invalid
  | fuel + 1, flags => do
    if ← accept '|' then
      let next ← sequence fuel flags false []
      return next :: (← alternatives fuel flags)
    else return []

/-- Items one after another, the latest first in `items`, up to a bar, a closing parenthesis or the
end.  `start` holds as long as the whole regex begins here. -/
def sequence : Nat → Flags → Bool → List Item → SourceReader (List Node)
  | 0, _, _, _ => invalid
  | fuel + 1, flags, start, items => do
    match ← peek with
    | none => return Item.join items
    | some .dangling => invalid
    | some (.escaped c) =>
      advance
      let n ← escape flags c
      sequence fuel flags start (.single n :: items)
    | some (.plain c) =>
      if c = '|' || c = ')' then return Item.join items
      advance
      if flags.verbose && Text.isBlankAscii c then sequence fuel flags start items
      else if flags.verbose && c = '#' then
        skipLine ((← get).rest.length + 1)
        sequence fuel flags start items
      else if c = '[' then
        let n ← charSet flags.comparison
        sequence fuel flags start (.single n :: items)
      else if c = '{' then
        match ← braces with
        | some counts => sequence fuel flags start (← repeatLast counts items)
        | none => sequence fuel flags start (.single (flags.literal c.toNat) :: items)
      else if c = '.' then sequence fuel flags start (.single (.char (.dot flags.dotAll)) :: items)
      else if c = '^' then
        let a := if flags.multiline then Anchor.lineStart else .firstLineStart
        sequence fuel flags start (.single (.anchor a) :: items)
      else if c = '$' then
        let a := if flags.multiline then Anchor.lineEnd else .lastLineEnd
        sequence fuel flags start (.single (.anchor a) :: items)
      else if c = '(' then parenthesis fuel flags start items
      else
        match repeatCounts? c with
        | some counts => sequence fuel flags start (← repeatLast counts items)
        | none => sequence fuel flags start (.single (flags.literal c.toNat) :: items)

/-- What a parenthesis opens, and the items after it. -/
def parenthesis : Nat → Flags → Bool → List Item → SourceReader (List Node)
  | 0, _, _, _ => invalid
  | fuel + 1, flags, start, items => do
    if !(← accept '?') then
      let n ← capturing fuel flags none
      sequence fuel flags start (.single n :: items)
    else
      match ← next with
      | some (.plain c) =>
        if c = 'P' then
          if ← accept '<' then
            let name ← identifierUntil '>'
            let n ← capturing fuel flags (some name)
            sequence fuel flags start (.single n :: items)
          else if ← accept '=' then
            let name ← identifierUntil ')'
            match (← get).names.lookup name with
            | none => invalid
            | some index =>
              let n ← reference flags.comparison index
              sequence fuel flags start (.single n :: items)
          else invalid
        else if c = ':' then
          let ns ← enclosed fuel flags
          sequence fuel flags start (.bracket ns :: items)
        else if c = '#' then
          skipComment ((← get).rest.length + 1)
          sequence fuel flags start items
        else if c = '=' || c = '!' then
          let ns ← enclosed fuel flags
          sequence fuel flags start (.single (.look none (c = '!') (.ofList ns)) :: items)
        else if c = '<' then
          match ← next with
          | some (.plain d) =>
            if d = '=' || d = '!' then
              let n ← lookingBack fuel flags (d = '!')
              sequence fuel flags start (.single n :: items)
            else invalid
          | _ => invalid
        else if c = '(' then
          let index ← conditionGroup
          let yes ← sequence fuel flags false []
          let no ← if ← accept '|' then sequence fuel flags false [] else pure []
          expect ')'
          sequence fuel flags start
            (.single (.conditional index (.ofList yes) (.ofList no)) :: items)
        else if c = '>' then
          let ns ← enclosed fuel flags
          sequence fuel flags start (.single (.atomic (.ofList ns)) :: items)
        else if c = '-' || (Flags.ofLetter? c).isSome then
          match ← flagGroup c with
          | .whole on =>
            if !start || !items.isEmpty then invalid
            modify fun s => { s with flags := s.flags.union on }
            sequence fuel (← get).flags start items
          | .inside on off =>
            let ns ← enclosed fuel (flags.within on off)
            sequence fuel flags start (.single (.scope (.ofList ns)) :: items)
        else invalid
      | _ => invalid

/-- The inside of a parenthesis, up to and with its end. -/
def enclosed : Nat → Flags → SourceReader (List Node)
  | 0, _ => invalid
  | fuel + 1, flags => do
    let ns ← alternation fuel flags false
    expect ')'
    return ns

/-- A capturing group, its opening consumed. -/
def capturing : Nat → Flags → Option (List Char) → SourceReader Node
  | 0, _, _ => invalid
  | fuel + 1, flags, name => do
    let index ← openGroup name
    let body := Node.ofList (← enclosed fuel flags)
    modify fun s => { s with closed := (index, body.width) :: s.closed }
    return .group index body

/-- A look back, its opening consumed. -/
def lookingBack : Nat → Flags → Bool → SourceReader Node
  | 0, _, _ => invalid
  | fuel + 1, flags, negated => do
    let outer := (← get).lookback
    if outer.isNone then modify fun s => { s with lookback := some s.opened }
    let body := Node.ofList (← alternation fuel flags false)
    if outer.isNone then modify fun s => { s with lookback := none }
    expect ')'
    if body.width.least ≠ body.width.most then
      modify fun s => { s with looseLookback := true }
    return .look (some body.width.least) negated body

end

/-- The whole of a source. -/
def whole (fuel : Nat) (flags : Flags) : SourceReader Node := do
  if (← peek) = some .dangling then invalid
  let n := Node.ofList (← alternation fuel flags true)
  let s ← get
  if s.flags.ascii && s.flags.unicode then throw (.fault .classConflict)
  if !s.rest.isEmpty then invalid
  if s.asked.any fun index => s.opened < index then invalid
  if s.looseLookback || (s.flags.template && s.repeats) then invalid
  return n

/-- **Reading a source** under given switches: its tree, and the switches with those that the source
itself sets. -/
def read (source : String) (flags : Flags) : Except Refusal (Node × Flags) := do
  let tokens := Token.ofList source.toList
  let fuel := 6 * tokens.length + 6
  let start : ParseState := ⟨tokens, flags, 0, [], [], [], none, false, false⟩
  let (n, s) ← (whole fuel flags).run start
  return (n, { s.flags with unicode := false })

end Conformance.Regex
