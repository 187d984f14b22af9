/-!
# Byte patterns

Regular patterns over bytes.  A pattern is matched one byte at a time: what it asks of a text that
begins with a given byte is again a pattern, for the rest of the text.
-/

namespace ScriptLint

/-- A set of bytes: those in some ranges, or all others. -/
structure ByteSet where
  isComplement : Bool
  /-- The ranges, both ends included. -/
  ranges : List (UInt8 × UInt8)
deriving DecidableEq, Repr

namespace ByteSet

/-- The set of one byte. -/
def single (byte : UInt8) : ByteSet :=
  ⟨false, [(byte, byte)]⟩

def all : ByteSet :=
  ⟨true, []⟩

def contains (set : ByteSet) (byte : UInt8) : Bool :=
  (set.ranges.any fun (first, last) => first ≤ byte && byte ≤ last) != set.isComplement

end ByteSet

/-- A regular pattern. -/
inductive Pattern where
  | never
  | empty
  /-- Matches one byte of a set. -/
  | one (set : ByteSet)
  | many (set : ByteSet)
  /-- Matches a text of one pattern and then one of another. -/
  | sequence (first second : Pattern)
  | either (left right : Pattern)
deriving DecidableEq, Repr

namespace Pattern

def matchesEmpty : Pattern → Bool
  | never => false
  | empty => true
  | one _ => false
  | many _ => true
  | sequence first second => first.matchesEmpty && second.matchesEmpty
  | either left right => left.matchesEmpty || right.matchesEmpty

/-- One pattern after another, where it makes no difference without the sequence. -/
def andThen (first second : Pattern) : Pattern :=
  match first with
  | never => never
  | empty => second
  | _ => sequence first second

/-- Either of two patterns, once where they are the same. -/
def orElse (left right : Pattern) : Pattern :=
  if left = never ∨ left = right then right
  else if right = never then left
  else either left right

def after (byte : UInt8) : Pattern → Pattern
  | never => never
  | empty => never
  | one set => if set.contains byte then empty else never
  | many set => if set.contains byte then many set else never
  | sequence first second =>
    let continued := (first.after byte).andThen second
    if first.matchesEmpty then continued.orElse (second.after byte) else continued
  | either left right => (left.after byte).orElse (right.after byte)

def accepts (pattern : Pattern) (text : List UInt8) : Bool :=
  (text.foldl (fun left byte => left.after byte) pattern).matchesEmpty

/-- Patterns one after the other. -/
def inOrder (patterns : List Pattern) : Pattern :=
  patterns.foldr sequence empty

def anyOf (patterns : List Pattern) : Pattern :=
  patterns.foldr either never

end Pattern

end ScriptLint
