import Mathlib.Data.List.Forall2
import ScriptLint.Diagnostic.Encoding
import ScriptLint.Proofs.Json.DecodedRecord
import ScriptLint.Proofs.Json.WrittenValue

/-!
# Encoded diagnostics

A diagnostic and a message for an editor are read back from the JSON text that they are written as,
whatever their texts are, so long as their numbers fit into the fields for them.  The messages for a
list of diagnostics keep its order, and their levels are ordered as the severities are.
-/

namespace ScriptLint

open Json

namespace Severity

/-- Whether one severity is less severe than another. -/
inductive IsBelow : Severity → Severity → Prop
  | infoWarning : IsBelow info warning
  | infoError : IsBelow info error
  | warningError : IsBelow warning error

variable {first second : Severity}

theorem level_lt_level_iff : first.level < second.level ↔ first.IsBelow second := by
  constructor
  · intro lower
    cases first <;> cases second
    case info.warning => exact .infoWarning
    case info.error => exact .infoError
    case warning.error => exact .warningError
    all_goals exact absurd lower (by decide)
  · rintro (_ | _ | _) <;> decide

theorem level_inj : first.level = second.level ↔ first = second := by
  cases first <;> cases second <;> decide

theorem level_lt (severity : Severity) : severity.level < 2 ^ 8 := by
  cases severity <;> decide

theorem decode?_encode (severity : Severity) : decode? severity.encode = some severity := by
  cases severity <;> rfl

end Severity

theorem Category.ofWord?_word (category : Category) : ofWord? category.word = some category := by
  cases category <;> rfl

theorem Json.asText?_ofString (text : String) : (ofString text).asText? = some text :=
  rfl

theorem Json.asNatBelow?_natural {bound value : Nat} (below : value < bound) :
    (natural value).asNatBelow? bound = some value :=
  if_pos below

theorem Json.asListOf?_ofStrings (texts : List String) :
    (ofStrings texts).asListOf? asText? = some texts := by
  have decoded : (texts.map ofString).mapM asText? = some (texts.map id) :=
    mapM_map_eq_some fun _ _ => rfl
  rwa [List.map_id] at decoded

theorem Json.isPlain_ofStrings (texts : List String) : (ofStrings texts).IsPlain := by
  refine .array fun item member => ?_
  obtain ⟨text, -, rfl⟩ := List.mem_map.mp member
  exact .ofString text

namespace DiagnosticCode

theorem isPlain_encode (code : DiagnosticCode) : code.encode.IsPlain := by
  refine .ofMembers fun member inMembers => ?_
  simp only [List.mem_cons, List.not_mem_nil, or_false] at inMembers
  rcases inMembers with rfl | rfl
  · exact .ofString code.category.word
  · exact .natural code.number

theorem decode?_encode {code : DiagnosticCode} (fits : code.number < 2 ^ 16) :
    decode? code.encode = some code := by
  have fields : code.encode.asRecord? ["category", "number"] =
      some [some (ofString code.category.word), some (natural code.number)] :=
    asRecord?_ofMembers (show ["category", "number"].Nodup by decide)
  have category : (ofString code.category.word).asWord? = some code.category.word := rfl
  rw [decode?, fields]
  simp only [Option.bind_eq_bind, Option.bind_some, category, code.category.ofWord?_word,
    Nat.pow_eq, asNatBelow?_natural fits]
  rfl

end DiagnosticCode

namespace Location

theorem isPlain_encode (location : Location) : location.encode.IsPlain := by
  refine .ofMembers fun member inMembers => ?_
  simp only [List.mem_cons, List.not_mem_nil, or_false] at inMembers
  rcases inMembers with rfl | rfl
  · exact .natural location.line
  · exact .natural location.column

theorem decode?_encode {location : Location} (lineFits : location.line < 2 ^ 32)
    (columnFits : location.column < 2 ^ 32) : decode? location.encode = some location := by
  have fields : location.encode.asRecord? ["line", "column"] =
      some [some (natural location.line), some (natural location.column)] :=
    asRecord?_ofMembers (show ["line", "column"].Nodup by decide)
  rw [decode?, fields]
  simp only [Option.bind_eq_bind, Option.bind_some, Nat.pow_eq, asNatBelow?_natural lineFits,
    asNatBelow?_natural columnFits]
  rfl

end Location

namespace Diagnostic

/-- Whether the numbers of a diagnostic fit into their fields: two bytes for the code, four for the
line and for the column. -/
structure Fits (diagnostic : Diagnostic) : Prop where
  number : diagnostic.code.number < 2 ^ 16
  line : diagnostic.location.line < 2 ^ 32
  column : diagnostic.location.column < 2 ^ 32

theorem isPlain_encode (diagnostic : Diagnostic) : diagnostic.encode.IsPlain := by
  refine .ofMembers fun member inMembers => ?_
  simp only [List.mem_cons, List.not_mem_nil, or_false] at inMembers
  rcases inMembers with rfl | rfl | rfl | rfl | rfl | rfl | rfl
  · exact .ofString diagnostic.severity.word
  · exact diagnostic.code.isPlain_encode
  · exact .ofString diagnostic.rule
  · exact .ofString diagnostic.message
  · exact diagnostic.location.isPlain_encode
  · exact isPlain_ofStrings diagnostic.notes
  · exact isPlain_ofStrings diagnostic.help

theorem decode?_encode {diagnostic : Diagnostic} (fits : diagnostic.Fits) :
    decode? diagnostic.encode = some diagnostic := by
  have fields : diagnostic.encode.asRecord? fieldNames =
      some [some diagnostic.severity.encode, some diagnostic.code.encode,
        some (ofString diagnostic.rule), some (ofString diagnostic.message),
        some diagnostic.location.encode, some (ofStrings diagnostic.notes),
        some (ofStrings diagnostic.help)] :=
    asRecord?_ofMembers (show fieldNames.Nodup by decide)
  rw [decode?, fields]
  simp only [Option.bind_eq_bind, Option.bind_some, Severity.decode?_encode, asText?_ofString,
    DiagnosticCode.decode?_encode fits.number, Location.decode?_encode fits.line fits.column,
    asListOf?_ofStrings]
  rfl

end Diagnostic

namespace LintMessage

/-- Whether the numbers of a message fit into their fields: one byte for the level, four for the
line and for the column. -/
structure Fits (message : LintMessage) : Prop where
  severity : message.severity < 2 ^ 8
  line : message.line < 2 ^ 32
  column : message.column < 2 ^ 32

theorem isPlain_encode (message : LintMessage) : message.encode.IsPlain := by
  refine .ofMembers fun member inMembers => ?_
  simp only [List.mem_cons, List.not_mem_nil, or_false] at inMembers
  rcases inMembers with rfl | rfl | rfl | rfl | rfl
  · exact .ofString message.ruleId
  · exact .ofString message.message
  · exact .natural message.severity
  · exact .natural message.line
  · exact .natural message.column

theorem decode?_encode {message : LintMessage} (fits : message.Fits) :
    decode? message.encode = some message := by
  have fields : message.encode.asRecord? fieldNames =
      some [some (ofString message.ruleId), some (ofString message.message),
        some (natural message.severity), some (natural message.line),
        some (natural message.column)] :=
    asRecord?_ofMembers (show fieldNames.Nodup by decide)
  rw [decode?, fields]
  simp only [Option.bind_eq_bind, Option.bind_some, asText?_ofString, Nat.pow_eq,
    asNatBelow?_natural fits.severity, asNatBelow?_natural fits.line,
    asNatBelow?_natural fits.column]
  rfl

theorem fits_ofDiagnostic {diagnostic : Diagnostic} (fits : diagnostic.Fits) :
    (ofDiagnostic diagnostic).Fits where
  severity := diagnostic.severity.level_lt
  line := fits.line
  column := fits.column

theorem isPlain_array (messages : List LintMessage) :
    (Json.array (messages.map encode)).IsPlain := by
  refine .array fun item member => ?_
  obtain ⟨message, -, rfl⟩ := List.mem_map.mp member
  exact message.isPlain_encode

theorem decode?_array {messages : List LintMessage} (fit : ∀ message ∈ messages, message.Fits) :
    (Json.array (messages.map encode)).asListOf? decode? = some messages := by
  have decoded : (messages.map encode).mapM decode? = some (messages.map id) :=
    mapM_map_eq_some fun message member => decode?_encode (fit message member)
  rwa [List.map_id] at decoded

/-- Whether a message carries the text and the place of a diagnostic. -/
structure Carries (diagnostic : Diagnostic) (message : LintMessage) : Prop where
  message_eq : message.message = diagnostic.message
  line_eq : message.line = diagnostic.location.line
  column_eq : message.column = diagnostic.location.column

theorem carries_lintMessages (diagnostics : List Diagnostic) :
    List.Forall₂ Carries diagnostics (lintMessages diagnostics) :=
  List.forall₂_map_right_iff.mpr (List.forall₂_same.mpr fun _ _ => ⟨rfl, rfl, rfl⟩)

/-- A message has the level of the diagnostic that it is paired with. -/
theorem severity_of_mem_zip {diagnostics : List Diagnostic} {pair : Diagnostic × LintMessage}
    (paired : pair ∈ diagnostics.zip (lintMessages diagnostics)) :
    pair.2.severity = pair.1.severity.level := by
  have levels : List.Forall₂ (fun diagnostic message =>
      message.severity = diagnostic.severity.level) diagnostics (lintMessages diagnostics) :=
    List.forall₂_map_right_iff.mpr (List.forall₂_same.mpr fun _ _ => rfl)
  exact List.forall₂_zip levels paired

end LintMessage

/-- A diagnostic whose numbers fit into their fields is read back from its JSON text, and so is a
message, whatever texts they have and however the JSON text is laid out.  The text for the messages
of a list of diagnostics is read as a list of messages, one for each diagnostic and in the same
order, that carry the texts and the places of the diagnostics.  Their levels are ordered as the
severities of the diagnostics are. -/
theorem diagnostics_survive_json (layout : Layout) {diagnostic : Diagnostic}
    (fits : diagnostic.Fits) {message : LintMessage} (messageFits : message.Fits)
    {diagnostics : List Diagnostic} (allFit : ∀ diagnostic ∈ diagnostics, diagnostic.Fits) :
    (parse? (String.ofList (write layout diagnostic.encode))).bind Diagnostic.decode? =
        some diagnostic ∧
      (parse? (String.ofList (write layout message.encode))).bind LintMessage.decode? =
        some message ∧
      ∃ messages,
        (parse? (String.ofList (write layout (.array ((lintMessages diagnostics).map
          LintMessage.encode))))).bind (asListOf? LintMessage.decode?) = some messages ∧
        List.Forall₂ LintMessage.Carries diagnostics messages ∧
        ∀ first ∈ diagnostics.zip messages, ∀ second ∈ diagnostics.zip messages,
          (first.2.severity < second.2.severity ↔
            first.1.severity.IsBelow second.1.severity) ∧
          (first.2.severity = second.2.severity ↔ first.1.severity = second.1.severity) := by
  refine ⟨?_, ?_, lintMessages diagnostics, ?_, LintMessage.carries_lintMessages diagnostics, ?_⟩
  · rw [parse?_write diagnostic.isPlain_encode, Option.bind_some, Diagnostic.decode?_encode fits]
  · rw [parse?_write message.isPlain_encode, Option.bind_some,
      LintMessage.decode?_encode messageFits]
  · rw [parse?_write (LintMessage.isPlain_array _), Option.bind_some, LintMessage.decode?_array]
    intro message member
    obtain ⟨diagnostic, inList, rfl⟩ := List.mem_map.mp member
    exact LintMessage.fits_ofDiagnostic (allFit diagnostic inList)
  · intro first firstPaired second secondPaired
    rw [LintMessage.severity_of_mem_zip firstPaired, LintMessage.severity_of_mem_zip secondPaired]
    exact ⟨Severity.level_lt_level_iff, Severity.level_inj⟩

/-- A diagnostic with the greatest numbers that fit and texts that need escapes. -/
def awkwardDiagnostic (severity : Severity) : Diagnostic where
  severity := severity
  code := ⟨.warning, 65535⟩
  rule := ""
  message := "\"é\\\n\u0001😀"
  location := ⟨4294967295, 0⟩
  notes := ["", "a\tb", ""]
  help := []

theorem diagnostics_survive_json_awkwardDiagnostic :
    let milder := awkwardDiagnostic .info
    let severer := awkwardDiagnostic .error
    let message : LintMessage := ⟨"\"", "日", 255, 0, 4294967295⟩
    milder.Fits ∧ message.Fits ∧ (∀ diagnostic ∈ [milder, severer], diagnostic.Fits) ∧
      (parse? milder.encode.compress).bind Diagnostic.decode? = some milder ∧
      (parse? message.encode.compress).bind LintMessage.decode? = some message ∧
      ∃ first second,
        (parse? (compress (.array ((lintMessages [milder, severer]).map LintMessage.encode)))).bind
          (asListOf? LintMessage.decode?) = some [first, second] ∧
        LintMessage.Carries milder first ∧ LintMessage.Carries severer second ∧
        first.severity < second.severity := by
  intro milder severer message
  have fits : milder.Fits := ⟨by decide, by decide, by decide⟩
  have messageFits : message.Fits := ⟨by decide, by decide, by decide⟩
  have allFit : ∀ diagnostic ∈ [milder, severer], diagnostic.Fits := by
    intro diagnostic member
    simp only [List.mem_cons, List.not_mem_nil, or_false] at member
    rcases member with rfl | rfl <;> exact ⟨by decide, by decide, by decide⟩
  obtain ⟨own, ownMessage, messages, read, carried, ordered⟩ :=
    diagnostics_survive_json .compact fits messageFits allFit
  cases carried with
  | @cons _ first _ _ carriesFirst others =>
      cases others with
      | @cons _ second _ _ carriesSecond none =>
          cases none
          refine ⟨fits, messageFits, allFit, own, ownMessage, first, second, read, carriesFirst,
            carriesSecond, ?_⟩
          have levels := ordered (milder, first) (by simp) (severer, second) (by simp)
          exact levels.1.mpr .infoError

end ScriptLint
