import ScriptLint.Text.Blank

/-!
# Counting arguments

An argument list is counted by its commas alone: nested parentheses, strings and brackets are not
looked into.  The documentation and the scripts are counted by the same rule, so that a call
written as documented has the documented count.
-/

namespace ScriptLint

open Text

namespace Arity

/-- The number of arguments in the text of an argument list: none if it is blank, else one more
than its commas. -/
def ofArguments (chars : List Char) : Nat :=
  let inner := trim chars
  if inner.isEmpty then 0 else inner.count ',' + 1

/-- The index of the parenthesis that closes an argument list, given how many are open inside it
and how many characters have been passed. -/
def closingIndex? (depth passed : Nat) : List Char → Option Nat
  | [] => none
  | c :: rest =>
    if c = '(' then closingIndex? (depth + 1) (passed + 1) rest
    else if c = ')' then
      match depth with
      | 0 => some passed
      | inner + 1 => closingIndex? inner (passed + 1) rest
    else closingIndex? depth (passed + 1) rest

end Arity

/-- The text of an argument list, and what of the text after its opening parenthesis belongs to
the call. -/
structure ArgumentList where
  inner : List Char
  /-- The inner text with its closing parenthesis, if there is one. -/
  consumed : List Char
deriving DecidableEq

namespace ArgumentList

/-- The argument list that a text begins with, the opening parenthesis being already passed.  A
list that is never closed takes the whole text. -/
def scan (chars : List Char) : ArgumentList :=
  match Arity.closingIndex? 0 0 chars with
  | some index => ⟨chars.take index, chars.take (index + 1)⟩
  | none => ⟨chars, chars⟩

def arity (arguments : ArgumentList) : Nat :=
  Arity.ofArguments arguments.inner

end ArgumentList

end ScriptLint
