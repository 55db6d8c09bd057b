import Conformance.Regex.Basic

/-!
# Matching

## Main Definitions

* `Regex.Trail` — what attempts to match leave behind
* `Regex.Matcher` — a way to go on from a position, given what is to happen afterwards
* `Regex.Node.run` — the matcher of a tree
* `Regex.Node.search`, `Regex.Node.matchWhole` — a match somewhere, and a match of the whole text

## Design Notes

The search is a backtracking one in continuation style: a matcher tries its ways in order, hands
each position it reaches to the continuation, and takes the first that succeeds.  Each tree
constructor is one small combinator on matchers, and `Node.run` only puts them together.

What a failed attempt has captured is not always forgotten.  Groups are written down as bounds, the
start and the end of each group on their own, so that a group that is entered again has its new start
and its old end until it is left.  A choice that fails cuts the bounds back to as many as there were
before it; only inside of a loop does it also put back what the bounds were.

Attempts note the position where they begin and where they end.  A possessive loop goes on from the
position noted last, also when the round that failed noted it.

A repeat is bounded by the text: beyond its least count, a round that consumes nothing is the last
one, so the rest of the text bounds the number of rounds.
-/

namespace Conformance.Regex

/-! ## Trails -/

/-- What attempts to match leave behind, whether they succeed or fail. -/
structure Trail where
  /-- The bounds of the groups: the start and the end of the first, of the second, and so on. -/
  bounds : List (Option Nat)
  /-- The position noted last. -/
  noted : Nat
  deriving DecidableEq, Repr, Inhabited

namespace Trail

/-- The trail of an attempt that begins at a position. -/
def start (position : Nat) : Trail := ⟨[], position⟩

/-- A position noted. -/
def note (position : Nat) (t : Trail) : Trail := { t with noted := position }

/-- A bound set; bounds passed over on the way to it are unknown. -/
def bound (i position : Nat) (t : Trail) : Trail :=
  { t with bounds :=
      if i < t.bounds.length then t.bounds.set i (some position)
      else t.bounds ++ List.replicate (i - t.bounds.length) none ++ [some position] }

/-- The bounds after a choice has failed: put back inside of a loop, and cut back otherwise. -/
def restore (inLoop : Bool) (before : List (Option Nat)) (t : Trail) : Trail :=
  { t with bounds := if inLoop then before else t.bounds.take before.length }

/-- The bounds of a group that has both. -/
def bounds? (t : Trail) (group : Nat) : Option (Nat × Nat) :=
  match t.bounds[2 * group - 2]?, t.bounds[2 * group - 1]? with
  | some (some first), some (some last) => some (first, last)
  | _, _ => none

/-- The start and the end of what a group has captured. -/
def captured? (t : Trail) (group : Nat) : Option (Nat × Nat) :=
  (t.bounds? group).filter fun (first, last) => first ≤ last

/-- Some group has its end before its start. -/
def isCrossed (t : Trail) : Bool :=
  (List.range t.bounds.length).any fun i =>
    (t.bounds? (i + 1)).any fun (first, last) => last < first

@[simp] theorem noted_note (p : Nat) (t : Trail) : (t.note p).noted = p := rfl

@[simp] theorem bounds_note (p : Nat) (t : Trail) : (t.note p).bounds = t.bounds := rfl

@[simp] theorem noted_bound (i p : Nat) (t : Trail) : (t.bound i p).noted = t.noted := rfl

@[simp] theorem noted_restore (inLoop : Bool) (before : List (Option Nat)) (t : Trail) :
    (t.restore inLoop before).noted = t.noted := rfl

/-- Inside of a loop the bounds are those of before. -/
@[simp] theorem bounds_restore_true (before : List (Option Nat)) (t : Trail) :
    (t.restore true before).bounds = before := rfl

/-- A choice that fails leaves no more bounds than there were before it. -/
theorem length_bounds_restore_le (inLoop : Bool) (before : List (Option Nat)) (t : Trail) :
    (t.restore inLoop before).bounds.length ≤ before.length := by
  cases inLoop with
  | true => exact Nat.le_refl _
  | false => exact List.length_take_le ..

/-- A bound that has been set is there. -/
theorem bounds_bound_self (i p : Nat) (t : Trail) : (t.bound i p).bounds[i]? = some (some p) := by
  by_cases h : i < t.bounds.length
  · simp [bound, h]
  · simp [bound, h, List.getElem?_append]

end Trail

/-! ## Matchers -/

/-- A try that succeeds or fails. -/
abbrev Attempt := StateM Trail Bool

/-- From a position, the first of the ways on after which the continuation succeeds. -/
abbrev Matcher := Nat → (Nat → Attempt) → Attempt

/-- The attempt that succeeds at a position and notes it. -/
def Attempt.finish (position : Nat) : Attempt := do
  modify (Trail.note position)
  return true

namespace Matcher

variable (text : Array Char)

/-- Stay where you are. -/
def stay : Matcher := fun p k => k p

/-- No way on. -/
def never : Matcher := fun _ _ => return false

/-- One character of a set. -/
def char (set : CharSet) : Matcher := fun p k =>
  if text[p]?.any set.contains then k (p + 1) else return false

/-- Stay where you are if a condition holds. -/
def guard (test : Nat → Bool) : Matcher := fun p k => if test p then k p else return false

/-- One after the other. -/
def seq (first second : Matcher) : Matcher := fun p k => first p fun q => second q k

/-- The first way, unless what it begins with is not there, or else the rest. -/
def fork (inLoop : Bool) (lead : Lead) (first rest : Matcher) : Matcher := fun p k => do
  if lead.admits text[p]? then
    let before := (← get).bounds
    modify (Trail.note p)
    if ← first p k then return true
    modify (Trail.restore inLoop before)
  rest p k

/-- Set the bounds of a group before and after its body. -/
def capture (index : Nat) (body : Matcher) : Matcher := fun p k => do
  modify (Trail.bound (2 * index - 2) p)
  body p fun q => do
    modify (Trail.bound (2 * index - 1) q)
    k q

/-- A text equal to a part of the same text, from a position on and of some length. -/
def same (m : Comparison) (first : Nat) : Nat → Matcher
  | 0 => stay
  | length + 1 => fun p k =>
    match text[p]?, text[first]? with
    | some c, some d => if m.same c d then same m (first + 1) length (p + 1) k else return false
    | _, _ => return false

/-- The text a group has captured; without a capture there is no way on. -/
def backref (index : Nat) (m : Comparison) : Matcher := fun p k => do
  match (← get).captured? index with
  | some (first, last) => same text m first (last - first) p k
  | none => return false

/-- One way or the other, by whether a group has captured. -/
def conditional (index : Nat) (yes no : Matcher) : Matcher := fun p k => do
  if ((← get).captured? index).isSome then yes p k else no p k

/-- The first way only, from the position it noted. -/
def atomic (body : Matcher) : Matcher := fun p k => do
  modify (Trail.note p)
  if ← body p Attempt.finish then k (← get).noted
  else
    modify (Trail.note p)
    return false

/-- Look from a number of characters back and stay, keeping what was captured. -/
def look (back : Nat) (body : Matcher) : Matcher := fun p k => do
  if p < back then return false
  modify (Trail.note (p - back))
  if ← body (p - back) Attempt.finish then k p else return false

/-- Stay if a look from a number of characters back finds nothing. -/
def lookNot (inLoop : Bool) (back : Nat) (body : Matcher) : Matcher := fun p k => do
  if p < back then k p
  else
    let before := (← get).bounds
    modify (Trail.note (p - back))
    if ← body (p - back) Attempt.finish then return false
    modify (Trail.restore inLoop before)
    k p

/-! ## Repeats of a single set -/

/-- The number of characters of a set that stand one after another, up to a limit. -/
def runLength (set : CharSet) : Nat → Nat → Nat
  | 0, _ => 0
  | limit + 1, p => if text[p]?.any set.contains then runLength set limit (p + 1) + 1 else 0

/-- A run is no longer than its limit. -/
theorem runLength_le (set : CharSet) (limit p : Nat) : runLength text set limit p ≤ limit := by
  induction limit generalizing p with
  | zero => simp [runLength]
  | succ limit ih =>
    rw [runLength]
    split
    · exact Nat.succ_le_succ (ih (p + 1))
    · exact Nat.zero_le _

/-- Count characters of a set from a position on.  A set that folds notes where the run ends. -/
def countRun (set : CharSet) (limit p : Nat) : StateM Trail Nat := do
  let n := runLength text set limit p
  modify (Trail.note (if set.folds then p + n else p))
  return n

/-- Try a position, unless what has to begin there is not there. -/
def tryAt (inLoop : Bool) (next : Lead) (k : Nat → Attempt) (p : Nat) : Attempt := do
  if !next.admits text[p]? then return false
  let before := (← get).bounds
  modify (Trail.note p)
  if ← k p then return true
  modify (Trail.restore inLoop before)
  return false

/-- Try the positions from a number behind `p` down to `p`. -/
def fewer (inLoop : Bool) (next : Lead) (k : Nat → Attempt) (p : Nat) : Nat → Attempt
  | 0 => tryAt text inLoop next k p
  | n + 1 => do
    if ← tryAt text inLoop next k (p + (n + 1)) then return true
    fewer inLoop next k p n

/-- As many characters of a set as there are, then fewer. -/
def greedyRun (inLoop : Bool) (next : Lead) (set : CharSet) (least : Nat) (most : Option Nat) :
    Matcher := fun p k => do
  if text.size < p + least then return false
  let room := text.size - p
  let n ← countRun text set (min (most.getD room) room) p
  if n < least then return false
  fewer text inLoop next.single k (p + least) (n - least)

/-- Try a position, and after it those behind further characters of a set. -/
def more (inLoop : Bool) (set : CharSet) (k : Nat → Attempt) : Nat → Option Nat → Nat → Attempt
  | 0, _, _ => return false
  | fuel + 1, left, p => do
    if ← tryAt text inLoop .other k p then return true
    modify (Trail.note p)
    let n ← countRun text set 1 p
    if n = 0 || left = some 0 then return false
    more inLoop set k fuel (left.map (· - 1)) (p + 1)

/-- As few characters of a set as allowed, then more. -/
def lazyRun (inLoop : Bool) (set : CharSet) (least : Nat) (most : Option Nat) : Matcher :=
  fun p k => do
    if text.size < p + least then return false
    modify (Trail.note p)
    let n ← if least = 0 then pure 0 else countRun text set least p
    if n < least then return false
    more text inLoop set k (text.size - p + 1) (most.map (· - least)) (p + n)

/-- As many characters of a set as there are and never fewer. -/
def possessiveRun (set : CharSet) (least : Nat) (most : Option Nat) : Matcher := fun p k => do
  if text.size < p + least then return false
  let room := text.size - p
  let n ← countRun text set (min (most.getD room) room) p
  if n < least then return false
  k (p + n)

/-! ## Repeats of other trees -/

/-- There may be another round: the bound is not reached, and the last round consumed something. -/
def mayRepeat (most : Option Nat) (lastStart : Option Nat) (p : Nat) : Bool :=
  most != some 0 && lastStart != some p

/-- A number of rounds that have to be, and what comes after them. -/
def rounds (body after : Matcher) : Nat → Matcher
  | 0 => after
  | n + 1 => fun p k => do
    modify (Trail.note p)
    if ← body p fun q => rounds body after n q k then return true
    modify (Trail.note p)
    return false

/-- Up to a bound, as often as possible first. -/
def greedy (body : Matcher) : Nat → Option Nat → Option Nat → Matcher
  | 0, _, _ => stay
  | fuel + 1, most, lastStart => fun p k => do
    modify (Trail.note p)
    if mayRepeat most lastStart p then
      let before := (← get).bounds
      if ← body p fun q => greedy body fuel (most.map (· - 1)) (some p) q k then return true
      modify fun t => (t.restore true before).note p
    if ← k p then return true
    modify (Trail.note p)
    return false

/-- Up to a bound, as seldom as possible first. -/
def lazy (inLoop : Bool) (body : Matcher) : Nat → Option Nat → Option Nat → Matcher
  | 0, _, _ => stay
  | fuel + 1, most, lastStart => fun p k => do
    let before := (← get).bounds
    modify (Trail.note p)
    if ← k p then return true
    modify fun t => (t.restore inLoop before).note p
    if mayRepeat most lastStart p then
      if ← body p fun q => lazy inLoop body fuel (most.map (· - 1)) (some p) q k then return true
      modify (Trail.note p)
    return false

/-- A number of rounds that have to be, each by its first way and from the position noted last. -/
def firstRounds (body : Matcher) : Nat → Attempt
  | 0 => return true
  | n + 1 => do
    if ← body (← get).noted Attempt.finish then firstRounds body n else return false

/-- Further rounds up to a bound, each by its first way and from the position noted last. -/
def furtherRounds (body : Matcher) : Nat → Option Nat → Option Nat → StateM Trail Unit
  | 0, _, _ => return
  | fuel + 1, most, lastStart => do
    let t ← get
    if mayRepeat most lastStart t.noted then
      if ← body t.noted Attempt.finish then
        furtherRounds body fuel (most.map (· - 1)) (some t.noted)
      else modify (Trail.restore true t.bounds)

/-- As often as possible and never fewer. -/
def possessive (body : Matcher) (fuel least : Nat) (most : Option Nat) : Matcher := fun p k => do
  modify (Trail.note p)
  if ← firstRounds body least then
    furtherRounds body fuel most none
    k (← get).noted
  else
    modify (Trail.note p)
    return false

/-- A repeat of a single set. -/
def loopSet (inLoop : Bool) (next : Lead) (set : CharSet) (least : Nat) (most : Option Nat) :
    Greed → Matcher
  | .greedy => greedyRun text inLoop next set least most
  | .lazy => lazyRun text inLoop set least most
  | .possessive => possessiveRun text set least most

/-- A repeat: its least count first, then more as its greed has it. -/
def loop (inLoop : Bool) (body : Matcher) (least : Nat) (most : Option Nat) (greed : Greed) :
    Matcher :=
  let most := most.map (· - least)
  let fuel := text.size + 2
  match greed with
  | .greedy => rounds body (greedy body fuel most none) least
  | .lazy => rounds body (lazy inLoop body fuel most none) least
  | .possessive => possessive body fuel least most

end Matcher

/-! ## Trees -/

/-- A word character, over ASCII or over Unicode. -/
def isWord (ascii : Bool) (c : Char) : Bool := ClassName.word.contains ascii c

/-- The character before a position. -/
def before? (text : Array Char) (p : Nat) : Option Char := if p = 0 then none else text[p - 1]?

/-- An anchor holds at a position. -/
def Anchor.holds (text : Array Char) (p : Nat) : Anchor → Bool
  | textStart => p = 0
  | firstLineStart => p = 0
  | lineStart => p = 0 || before? text p = some '\n'
  | textEnd => p = text.size
  | lastLineEnd => p = text.size || (p + 1 = text.size && text[p]? = some '\n')
  | lineEnd => p = text.size || text[p]? = some '\n'
  | wordEdge ascii => (before? text p).any (isWord ascii) != text[p]?.any (isWord ascii)
  | insideWord ascii =>
    text.size != 0 && (before? text p).any (isWord ascii) == text[p]?.any (isWord ascii)

namespace Node

/-- The matcher of a tree in a text, inside of a loop or not, and in front of something that begins
in its own way. -/
def run (text : Array Char) : Node → Bool → Lead → Matcher
  | empty, _, _ => .stay
  | char set, _, _ => .char text set
  | anchor a, _, _ => .guard fun p => a.holds text p
  | seq a b, inLoop, next => .seq (a.run text inLoop (b.lead.before next)) (b.run text inLoop next)
  | fork a b, inLoop, _ => .fork text inLoop a.lead (a.run text inLoop .other) (b.run text inLoop .other)
  | never, _, _ => .never
  | group index body, inLoop, _ => .capture index (body.run text inLoop .other)
  | scope body, inLoop, next => body.run text inLoop next
  | backref index _ m, _, _ => .backref text index m
  | conditional index yes no, inLoop, next =>
    .conditional index (yes.run text inLoop (if no = .empty then next else .other))
      (no.run text inLoop next)
  | look behind negated body, inLoop, _ =>
    if negated then .lookNot inLoop (behind.getD 0) (body.run text inLoop .other)
    else .look (behind.getD 0) (body.run text inLoop .other)
  | atomic body, inLoop, _ => .atomic (body.run text inLoop .other)
  | loop greed least most body, inLoop, next =>
    match body.charSet? with
    | some set => .loopSet text inLoop next set least most greed
    | none =>
      .loop text inLoop (body.run text (inLoop || greed != .possessive) .other) least most greed

/-- The trail of a match from a position on whose end is as wanted.  Where less is left of the text
than the tree needs, nothing is tried. -/
def matchAt (n : Node) (text : Array Char) (ends : Nat → Bool) (p : Nat) : Option Trail :=
  if text.size < p + n.width.least then none
  else
    let attempt := n.run text false .other p fun q =>
      if ends q then Attempt.finish q else return false
    match attempt.run (.start p) with
    | (true, t) => some t
    | (false, _) => none

/-- The trail of the first match in a text, from one of the next `count` positions on. -/
def searchFrom (n : Node) (text : Array Char) : Nat → Nat → Option Trail
  | 0, _ => none
  | count + 1, p => (n.matchAt text (fun _ => true) p).or (searchFrom n text count (p + 1))

/-- A match somewhere in a text. -/
def search (n : Node) (text : String) : Option Trail :=
  let text := text.toList.toArray
  searchFrom n text (text.size + 1) 0

/-- A match of the whole of a text. -/
def matchWhole (n : Node) (text : String) : Option Trail :=
  let text := text.toList.toArray
  n.matchAt text (fun q => q = text.size) 0

end Node

end Conformance.Regex
