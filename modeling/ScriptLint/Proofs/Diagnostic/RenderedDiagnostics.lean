import ScriptLint.Diagnostic.Report
import ScriptLint.Proofs.Text.Digits
import ScriptLint.Proofs.Text.Divisions

/-!
# Rendered diagnostics

A rendered diagnostic shows its message behind the first bracket that is closed, and on the line
behind the message the place in the file.  What else is shown stands before the bracket or on later
lines, so a message of one line can be told from the text, together with its place.
-/

namespace ScriptLint

namespace Diagnostic

open Text

/-- A text shows a message, and on the line behind it a place in a file. -/
structure Shows (shown file message : String) (location : Location) : Prop where
  divided : ∃ headline rest : String, ']' ∉ headline.toList ∧
    shown = headline ++ "]: " ++ message ++ "\n  --> " ++ file ++ ":" ++ toString location.line ++
      ":" ++ toString location.column ++ "\n" ++ rest

theorem not_mem_label (colour : Bool) (severity : Severity) :
    ']' ∉ (label colour severity).toList := by
  cases colour <;> cases severity <;> decide

theorem not_mem_code (code : DiagnosticCode) : ']' ∉ code.text.toList := by
  obtain ⟨category, number⟩ := code
  have noDigit : ']' ∉ (toString number).toList := not_mem_digits (by decide) number
  cases category <;> simpa [DiagnosticCode.text, Category.letter, paddedDigits] using noDigit

/-- Whatever its texts are, a diagnostic is rendered with its message and its place. -/
theorem shows_render (colour : Bool) (file : String) (diagnostic : Diagnostic) :
    Shows (render colour file diagnostic) file diagnostic.message diagnostic.location := by
  have placeMark : "\n  --> " = "\n" ++ "  --> " := rfl
  refine ⟨label colour diagnostic.severity ++ "[" ++ diagnostic.code.text,
    String.join (diagnostic.notes.map fun note => "   = note: " ++ note ++ "\n") ++
      String.join (diagnostic.help.map fun help => "   = help: " ++ help ++ "\n"), ?_, ?_⟩
  · simp [not_mem_label, not_mem_code]
  · simp only [render, placeMark, String.append_assoc]

variable {shown file message other : String} {location otherLocation : Location}

/-- No text shows two messages of one line, or one at two places. -/
theorem Shows.unique (shows : Shows shown file message location)
    (showsToo : Shows shown file other otherLocation) (oneLine : '\n' ∉ message.toList)
    (otherOneLine : '\n' ∉ other.toList) : other = message ∧ otherLocation = location := by
  obtain ⟨headline, rest, unclosed, rfl⟩ := shows
  obtain ⟨otherHeadline, otherRest, otherUnclosed, same⟩ := showsToo
  have bracket : "]: ".toList = [']', ':', ' '] := rfl
  have arrow : "\n  --> ".toList = ['\n', ' ', ' ', '-', '-', '>', ' '] := rfl
  have colon : ":".toList = [':'] := rfl
  have lineEnd : "\n".toList = ['\n'] := rfl
  have chars := congrArg String.toList same
  simp only [String.append_assoc, String.toList_append, bracket, arrow, colon, lineEnd,
    List.cons_append, List.nil_append] at chars
  obtain ⟨-, behindHead⟩ := eq_of_append_mark_eq unclosed otherUnclosed chars
  simp only [List.cons.injEq, true_and] at behindHead
  obtain ⟨messageEq, behindMessage⟩ := eq_of_append_mark_eq oneLine otherOneLine behindHead
  simp only [List.cons.injEq, true_and, List.append_cancel_left_eq] at behindMessage
  obtain ⟨lineEq, behindLine⟩ := eq_of_append_mark_eq (not_mem_digits (by decide) _)
    (not_mem_digits (by decide) _) behindMessage
  obtain ⟨columnEq, -⟩ := eq_of_append_mark_eq (not_mem_digits (by decide) _)
    (not_mem_digits (by decide) _) behindLine
  obtain ⟨line, column⟩ := location
  obtain ⟨otherLine, otherColumn⟩ := otherLocation
  obtain rfl : line = otherLine := digits_inj lineEq
  obtain rfl : column = otherColumn := digits_inj columnEq
  exact ⟨(String.toList_injective messageEq).symm, rfl⟩

end Diagnostic

end ScriptLint
