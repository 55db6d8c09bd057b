import Conformance.Regex.CharSet

/-!
# Regexes: the syntax tree

## Main Definitions

* `Regex.Node` — the syntax tree; every switch is already resolved in it
* `Regex.Node.width` — the least and greatest length a tree can match
* `Regex.Node.lead` — the characters a tree has to begin with, where that shows at once
* `Regex.Node.ofAlternatives` — alternatives in their simplest form

## Design Notes

A tree carries no switches.  A switch acts where the tree is built: `.` becomes the set with or
without the newline, `^` the anchor for the text or for the line, and a letter the set that ignores
case or does not.

Alternatives are a chain of forks that ends in `never`, the tree that matches nothing.  What all of
them begin with stands in front of the chain, and alternatives of one character each are a set.
-/

namespace Conformance.Regex

/-- Conditions on a position. -/
inductive Anchor where
  /-- The start of the text. -/
  | textStart
  /-- The start of the first line. -/
  | firstLineStart
  /-- The start of the text or of a line. -/
  | lineStart
  /-- The end of the text. -/
  | textEnd
  /-- The end of the text, or just before a newline that ends it. -/
  | lastLineEnd
  /-- The end of the text or of a line. -/
  | lineEnd
  /-- A word character on exactly one side. -/
  | wordEdge (ascii : Bool)
  /-- A word character on both sides or on none, in a text that is not empty. -/
  | insideWord (ascii : Bool)
  deriving DecidableEq, Repr, Inhabited

/-- How a repeat chooses its count. -/
inductive Greed where
  /-- As often as possible, then fewer. -/
  | greedy
  /-- As seldom as possible, then more. -/
  | lazy
  /-- As often as possible, and never fewer afterwards. -/
  | possessive
  deriving DecidableEq, Repr, Inhabited

/-! ## Widths -/

/-- The least and the greatest length of what a tree matches. -/
structure Width where
  least : Nat
  most : Nat
  deriving DecidableEq, Repr, Inhabited

namespace Width

/-- The length that stands for "without bound". -/
def unbounded : Nat := 4294967295

/-- A width whose least length stays below the length for "without bound" and whose greatest does
not exceed it. -/
def capped (least most : Nat) : Width := ⟨min least (unbounded - 1), min most unbounded⟩

/-- The width of two parts one after the other. -/
def add (x y : Width) : Width := capped (x.least + y.least) (x.most + y.most)

/-- The width of one part or the other. -/
def join (x y : Width) : Width := ⟨min x.least y.least, max x.most y.most⟩

/-- The width of a repeated part. -/
def repeated (least : Nat) (most : Option Nat) (x : Width) : Width :=
  capped (x.least * least) (x.most * most.getD unbounded)

end Width

/-! ## The tree -/

/-- The syntax tree of a regex. -/
inductive Node where
  | empty
  | char (s : CharSet)
  | anchor (a : Anchor)
  | seq (first second : Node)
  /-- The first way or else the rest. -/
  | fork (first rest : Node)
  /-- No way at all. -/
  | never
  /-- A group that captures. -/
  | group (index : Nat) (body : Node)
  /-- A bracket with switches of its own. -/
  | scope (body : Node)
  /-- The text that a group of some width has captured. -/
  | backref (index : Nat) (width : Width) (comparison : Comparison)
  /-- The first branch if a group has captured, the second otherwise. -/
  | conditional (index : Nat) (yes no : Node)
  /-- A look at what follows, or at what stands `behind` characters back. -/
  | look (behind : Option Nat) (negated : Bool) (body : Node)
  /-- The first way to match the body and no other. -/
  | atomic (body : Node)
  | loop (greed : Greed) (least : Nat) (most : Option Nat) (body : Node)
  deriving DecidableEq, Repr, Inhabited

namespace Node

/-- The sequence of a list of trees. -/
def ofList : List Node → Node
  | [] => empty
  | [n] => n
  | n :: ns => seq n (ofList ns)

/-- The width of a tree. -/
def width : Node → Width
  | empty => ⟨0, 0⟩
  | char _ => ⟨1, 1⟩
  | anchor _ => ⟨0, 0⟩
  | seq a b => a.width.add b.width
  | fork a b => a.width.join b.width
  | never => ⟨Width.unbounded - 1, 0⟩
  | group _ body => body.width
  | scope body => body.width
  | backref _ width _ => width
  | conditional _ yes no => yes.width.join no.width
  | look .. => ⟨0, 0⟩
  | atomic body => body.width
  | loop _ least most body => body.width.repeated least most

/-- The set of a tree that is a single set. -/
def charSet? : Node → Option CharSet
  | char s => some s
  | scope body => body.charSet?
  | _ => none

end Node

/-! ## What a tree begins with -/

/-- What a tree begins with. -/
inductive Lead where
  /-- With what comes after it. -/
  | following
  /-- With a character of an exact set. -/
  | exact (s : CharSet)
  /-- That cannot be told at once. -/
  | other
  deriving DecidableEq, Repr, Inhabited

/-- What a tree begins with, in front of something that is known to begin in its own way. -/
def Lead.before : Lead → Lead → Lead
  | following, next => next
  | lead, _ => lead

/-- A character may stand where something begins in this way. -/
def Lead.admits (next : Option Char) : Lead → Bool
  | exact s => next.any s.contains
  | _ => true

/-- The lead as far as it is a single character. -/
def Lead.single : Lead → Lead
  | exact (.one code m) => exact (.one code m)
  | _ => other

/-- What a tree begins with. -/
def Node.lead : Node → Lead
  | empty => .following
  | char s => if s.isExact then .exact s else .other
  | seq a b =>
    match a.lead with
    | .following => b.lead
    | lead => lead
  | scope body => body.lead
  | _ => .other

/-! ## Alternatives -/

namespace Node

/-- A tree without parts. -/
def isLeaf : Node → Bool
  | char _ => true
  | anchor _ => true
  | backref .. => true
  | _ => false

/-- The leaf that all alternatives begin with. -/
def sharedLead? (alternatives : List (List Node)) : Option Node :=
  match alternatives with
  | (n :: _) :: _ => if n.isLeaf && alternatives.all (fun ns => ns.head? = some n) then some n else none
  | _ => none

/-- The leaves that all alternatives begin with, and what is left of the alternatives. They are no more
than the first alternative has, so its length is enough to count down from. -/
def splitShared : Nat → List (List Node) → List Node × List (List Node)
  | 0, alternatives => ([], alternatives)
  | fuel + 1, alternatives =>
    match sharedLead? alternatives with
    | none => ([], alternatives)
    | some n =>
      let (shared, rest) := splitShared fuel (alternatives.map List.tail)
      (n :: shared, rest)

/-- The items of a set, if an alternative is one that is not negated. -/
def setItems? : List Node → Option (List SetItem)
  | [char (.one code _)] => some [.code code]
  | [char (.brackets false items _)] => some items
  | _ => none

/-- The alternatives as one set, if each is a set that is not negated. -/
def unionSet? (m : Comparison) (alternatives : List (List Node)) : Option CharSet :=
  (alternatives.mapM setItems?).map fun items => .brackets false items.flatten.eraseDups m

/-- **Alternatives** in their simplest form, as the items of a sequence. -/
def ofAlternatives (m : Comparison) (alternatives : List (List Node)) : List Node :=
  match alternatives with
  | [only] => only
  | _ =>
    let (shared, rest) := splitShared (alternatives.headD []).length alternatives
    shared ++ [match unionSet? m rest with
      | some s => char s
      | none => (rest.map ofList).foldr fork never]

end Node

end Conformance.Regex
