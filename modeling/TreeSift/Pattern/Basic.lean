import TreeSift.Unicode.Property

/-!
# TreeSift.Pattern.Basic

Patterns that texts are matched against, as regular expressions over characters.

1. A pattern either takes one character of a set, or takes nothing where a condition on the
   neighbouring characters holds, or is put together from smaller patterns.
2. A repetition has a least number and maybe a greatest number of rounds.
3. Which of several ways of matching is preferred is not part of a pattern: the only question asked
   is whether a match exists.
-/

namespace TreeSift

/-- A condition on a place between characters. -/
inductive Look where
  /-- The start of the text. -/
  | start
  /-- The end of the text. -/
  | stop
  /-- The start of a line; with `crlf` a carriage return ends lines too. -/
  | lineStart (crlf : Bool)
  /-- The end of a line. -/
  | lineEnd (crlf : Bool)
  /-- One of the neighbours is a word character and the other is not. -/
  | wordBoundary (words : CharSet)
  /-- Both neighbours are word characters, or neither is. -/
  | notWordBoundary (words : CharSet)
  /-- A word starts here. -/
  | wordStart (words : CharSet)
  /-- A word ends here. -/
  | wordEnd (words : CharSet)
  /-- No word goes on from before. -/
  | wordStartHalf (words : CharSet)
  /-- No word goes on after. -/
  | wordEndHalf (words : CharSet)
deriving Repr, Inhabited

namespace Look

/-- Whether there is a neighbour and it is a word character. -/
def isWord (words : CharSet) (c : Option Char) : Bool :=
  match c with
  | none => false
  | some c => words.has c

/-- Whether the condition holds between two neighbours; none stands for an end of the text. -/
def holds (l : Look) (before after : Option Char) : Bool :=
  match l with
  | start => before.isNone
  | stop => after.isNone
  | lineStart false => before.isNone || before == some '\n'
  | lineStart true =>
    before.isNone || before == some '\n' || (before == some '\r' && after != some '\n')
  | lineEnd false => after.isNone || after == some '\n'
  | lineEnd true =>
    after.isNone || after == some '\r' || (after == some '\n' && before != some '\r')
  | wordBoundary w => isWord w before != isWord w after
  | notWordBoundary w => isWord w before == isWord w after
  | wordStart w => !isWord w before && isWord w after
  | wordEnd w => isWord w before && !isWord w after
  | wordStartHalf w => !isWord w before
  | wordEndHalf w => !isWord w after

end Look

/-- A pattern. -/
inductive Pattern where
  /-- Takes nothing, anywhere. -/
  | empty
  /-- Takes one character of a set. -/
  | chars (set : CharSet)
  /-- Takes nothing where a condition holds. -/
  | look (condition : Look)
  /-- One pattern after another. -/
  | seq (first second : Pattern)
  /-- One pattern or another. -/
  | alt (first second : Pattern)
  /-- A pattern from a least to a greatest number of times. -/
  | rounds (least : Nat) (greatest : Option Nat) (body : Pattern)
deriving Repr, Inhabited

namespace Pattern

/-- Patterns one after the other. -/
def sequence : List Pattern → Pattern
  | [] => empty
  | [p] => p
  | p :: ps => seq p (sequence ps)

/-- One of several patterns. -/
def choice : List Pattern → Pattern
  | [] => empty
  | [p] => p
  | p :: ps => alt p (choice ps)

/-- Whether a match can never take a character. -/
def takesNothing : Pattern → Bool
  | empty => true
  | chars _ => false
  | look _ => true
  | seq p q => takesNothing p && takesNothing q
  | alt p q => takesNothing p && takesNothing q
  | rounds _ greatest p => takesNothing p || greatest == some 0

/-- A repetition.  One that takes nothing is the same after one round as after many. -/
def repeated (least : Nat) (greatest : Option Nat) (p : Pattern) : Pattern :=
  if p.takesNothing then rounds (min least 1) (some (min (greatest.getD 1) 1)) p
  else rounds least greatest p

end Pattern

end TreeSift
