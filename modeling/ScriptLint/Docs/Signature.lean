import ScriptLint.MethodTable
import ScriptLint.Script.Call
import ScriptLint.Text.WordChar

/-!
# Signatures

A signature is read out of any text: it is the first name that begins a word, is followed by an
opening parenthesis, blanks allowed between, and has a closing parenthesis somewhere behind.  The
first closing parenthesis ends the parameters, which are counted by their commas.
-/

namespace ScriptLint

open Text

/-- A method with a number of arguments. -/
structure Signature where
  name : String
  arity : Nat
deriving DecidableEq, Repr

namespace Signature

def atStart? (chars : List Char) : Option Signature :=
  match chars with
  | [] => none
  | c :: _ =>
    if isNameStart c then
      match (chars.dropWhile isNameChar).dropWhile isBlank with
      | '(' :: rest =>
        if rest.contains ')' then
          some ⟨String.ofList (chars.takeWhile isNameChar),
            Arity.ofArguments (rest.takeWhile (· != ')'))⟩
        else none
      | _ => none
    else none

/-- The first signature in a text, given whether a word reaches up to its beginning. -/
def first? (insideWord : Bool) : List Char → Option Signature
  | [] => none
  | c :: rest =>
    match if insideWord then none else atStart? (c :: rest) with
    | some signature => some signature
    | none => first? (isWordChar c) rest

def parse? (text : String) : Option Signature :=
  first? false text.toList

/-- The table of the signatures in a list of texts, one from each. -/
def table (texts : List String) : MethodTable :=
  MethodTable.ofPairs ((texts.filterMap parse?).map fun found => (found.name, found.arity))

end Signature

end ScriptLint
