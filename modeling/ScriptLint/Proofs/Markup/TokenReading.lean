import Mathlib.Data.List.Forall2
import Mathlib.Data.List.SplitBy
import Mathlib.Tactic.Common
import ScriptLint.Markup.Parser

/-!
# Tokens of plain markup

Outside of foreign and raw elements the tokens of a text do not depend on the tree that is built
from them, so a page can be read first and built afterwards.  A run of text is kept as it is, apart
from its division into blanks and other characters, when it holds no reference and no null
character.
-/

namespace ScriptLint.Markup

theorem normalizeLineEnds_cons_of_ne {c : Char} (noReturn : c ≠ '\r') (rest : List Char) :
    normalizeLineEnds (c :: rest) = c :: normalizeLineEnds rest := by
  rw [normalizeLineEnds]
  · rintro others rfl
    exact absurd rfl noReturn
  · exact noReturn

theorem normalizeLineEnds_append_of_not_mem {front : List Char} (noReturn : '\r' ∉ front)
    (back : List Char) :
    normalizeLineEnds (front ++ back) = front ++ normalizeLineEnds back := by
  induction front with
  | nil => rfl
  | cons c rest ih =>
      rw [List.mem_cons, not_or] at noReturn
      rw [List.cons_append, normalizeLineEnds_cons_of_ne (Ne.symm noReturn.1), ih noReturn.2,
        List.cons_append]

theorem normalizeLineEnds_return_cons {rest : List Char}
    (alone : ∀ others, rest ≠ '\n' :: others) :
    normalizeLineEnds ('\r' :: rest) = '\n' :: normalizeLineEnds rest := by
  rw [normalizeLineEnds]
  exact alone

/-- Line ends are normalized piece by piece, unless a pair is cut through. -/
theorem normalizeLineEnds_append {back : List Char} (whole : back.head? ≠ some '\n')
    (front : List Char) :
    normalizeLineEnds (front ++ back) = normalizeLineEnds front ++ normalizeLineEnds back := by
  induction front using normalizeLineEnds.induct with
  | case1 rest ih =>
      simp only [List.cons_append, normalizeLineEnds, ih]
  | case2 rest alone ih =>
      have bothAlone : ∀ others, rest ++ back ≠ '\n' :: others := by
        intro others shape
        cases rest with
        | nil => exact whole (congrArg List.head? shape)
        | cons d later =>
            cases shape
            exact alone later rfl
      rw [List.cons_append, normalizeLineEnds_return_cons bothAlone,
        normalizeLineEnds_return_cons alone, ih, List.cons_append]
  | case3 c rest _ noReturn ih =>
      rw [List.cons_append, normalizeLineEnds_cons_of_ne noReturn,
        normalizeLineEnds_cons_of_ne noReturn, ih, List.cons_append]
  | case4 => rfl

theorem mem_of_mem_normalizeLineEnds {c : Char} (noLineFeed : c ≠ '\n') {text : List Char}
    (member : c ∈ normalizeLineEnds text) : c ∈ text := by
  induction text using normalizeLineEnds.induct with
  | case1 rest ih =>
      rw [normalizeLineEnds, List.mem_cons] at member
      exact List.mem_cons_of_mem _ (List.mem_cons_of_mem _ (ih (member.resolve_left noLineFeed)))
  | case2 rest alone ih =>
      rw [normalizeLineEnds_return_cons alone, List.mem_cons] at member
      exact List.mem_cons_of_mem _ (ih (member.resolve_left noLineFeed))
  | case3 d rest _ noReturn ih =>
      rw [normalizeLineEnds_cons_of_ne noReturn, List.mem_cons] at member
      rcases member with rfl | inRest
      · exact List.mem_cons_self
      · exact List.mem_cons_of_mem d (ih inRest)
  | case4 => exact member

theorem resolveReferences_of_not_mem {chars : List Char} (plain : '&' ∉ chars)
    (inAttribute : Bool) : resolveReferences inAttribute chars = chars := by
  rw [resolveReferences, if_neg (by simpa using plain)]

/-- The runs of blanks and of other characters in a text. -/
def textRuns (chars : List Char) : List (List Char) :=
  chars.splitBy fun left right => textKind left == textKind right && textKind left != 0

theorem flatten_textRuns (chars : List Char) : (textRuns chars).flatten = chars :=
  List.flatten_splitBy _ chars

/-- Whether a token is a run of text. -/
def IsTextOf (run : List Char) (token : Token) : Prop :=
  token = .blanks run ∨ token = .chars run

/-- A text without null characters has a token for each of its runs. -/
theorem forall₂_textTokens {chars : List Char} (noNull : ∀ c ∈ chars, c.toNat ≠ 0) :
    List.Forall₂ IsTextOf (textRuns chars) (textTokens chars) := by
  rw [textTokens, ← textRuns, List.forall₂_map_right_iff, List.forall₂_same]
  intro run member
  cases run with
  | nil => exact .inl rfl
  | cons c rest =>
      have inText : c ∈ chars := by
        rw [← flatten_textRuns chars]
        exact List.mem_flatten.mpr ⟨c :: rest, member, List.mem_cons_self⟩
      have kind : textKind c ≠ 0 := by
        rw [textKind, if_neg (noNull c inText)]
        split <;> decide
      dsimp only
      rw [if_neg kind]
      split
      · exact .inl rfl
      · exact .inr rfl

deriving instance DecidableEq for RawPhase
deriving instance DecidableEq for RawText
deriving instance DecidableEq for TagPhase
deriving instance DecidableEq for TagText
deriving instance DecidableEq for Lexing
deriving instance DecidableEq for Tree
deriving instance DecidableEq for Builder
deriving instance DecidableEq for Parser

/-- Reads characters outside of foreign elements: the state they lead to, and their tokens. -/
def Lexing.readAll (lexing : Lexing) : List Char → Lexing × List Token
  | [] => (lexing, [])
  | c :: rest =>
    let (next, tokens) := lexing.read false c
    let (last, later) := readAll next rest
    (last, tokens ++ later)

theorem Lexing.readAll_append (lexing : Lexing) (front back : List Char) :
    lexing.readAll (front ++ back) =
      let (next, tokens) := lexing.readAll front
      let (last, later) := next.readAll back
      (last, tokens ++ later) := by
  induction front generalizing lexing with
  | nil => rfl
  | cons c rest ih => simp [readAll, ih]

/-- A text is gathered up to the next opening bracket. -/
theorem Lexing.readAll_text {chars : List Char} (unopened : '<' ∉ chars) (seen : List Char) :
    (text seen).readAll chars = (text (chars.reverse ++ seen), []) := by
  induction chars generalizing seen with
  | nil => rfl
  | cons c rest ih =>
      rw [List.mem_cons, not_or] at unopened
      rw [readAll, read, if_neg (Ne.symm unopened.1)]
      simp [ih unopened.2]

theorem Lexing.readAll_bracket {seen : List Char} (plain : '&' ∉ seen) (rest : List Char) :
    (text seen).readAll ('<' :: rest) =
      ((bracket.readAll rest).1, textTokens seen.reverse ++ (bracket.readAll rest).2) := by
  rw [readAll, read, if_pos rfl, resolveReferences_of_not_mem (by simpa using plain)]

/-- The building of tokens that are all used up at once, without an open foreign element. -/
inductive Builder.Builds : Builder → List Token → Builder → Prop where
  | nil {builder : Builder} : Builds builder [] builder
  | cons {builder next last : Builder} {token : Token} {tokens : List Token}
      (native : builder.isForeign = false) (processed : builder.process token = (.done, next))
      (rest : Builds next tokens last) : Builds builder (token :: tokens) last

namespace Builder.Builds

variable {builder middle last : Builder} {front back tokens : List Token}

theorem append (first : Builds builder front middle) (second : Builds middle back last) :
    Builds builder (front ++ back) last := by
  induction first with
  | nil => exact second
  | cons native processed _ ih => exact .cons native processed (ih second)

theorem exists_of_append (builds : Builds builder (front ++ back) last) :
    ∃ middle, Builds builder front middle ∧ Builds middle back last := by
  induction front generalizing builder with
  | nil => exact ⟨builder, .nil, builds⟩
  | cons token rest ih =>
      cases builds with
      | cons native processed rest =>
          obtain ⟨middle, first, second⟩ := ih rest
          exact ⟨middle, .cons native processed first, second⟩

theorem isForeign_eq_false (builds : Builds builder tokens last)
    (native : last.isForeign = false) : builder.isForeign = false := by
  cases builds with
  | nil => exact native
  | cons native _ _ => exact native

theorem foldl_take (builds : Builds builder tokens last) (lexing : Lexing) :
    tokens.foldl Parser.take ⟨lexing, builder⟩ = ⟨lexing, last⟩ := by
  induction builds with
  | nil => rfl
  | cons native processed rest ih =>
      rw [List.foldl_cons, Parser.take, processed]
      exact ih

end Builder.Builds

theorem Parser.readAll_append (parser : Parser) (front back : List Char) :
    parser.readAll (front ++ back) = (parser.readAll front).readAll back :=
  List.foldl_append

/-- A text can be read first and built afterwards. -/
theorem Parser.readAll_of_builds {lexing lastLexing : Lexing} {builder last : Builder}
    {chars : List Char} {tokens : List Token} (reads : lexing.readAll chars = (lastLexing, tokens))
    (builds : builder.Builds tokens last) (native : last.isForeign = false) :
    Parser.readAll ⟨lexing, builder⟩ chars = ⟨lastLexing, last⟩ := by
  induction chars generalizing lexing builder tokens with
  | nil =>
      cases reads
      cases builds
      rfl
  | cons c rest ih =>
      rw [Lexing.readAll] at reads
      obtain ⟨rfl, rfl⟩ := Prod.mk.inj reads
      obtain ⟨middle, first, second⟩ := builds.exists_of_append
      have stepped : Parser.read ⟨lexing, builder⟩ c = ⟨(lexing.read false c).1, middle⟩ := by
        rw [Parser.read, builds.isForeign_eq_false native]
        exact first.foldl_take _
      rw [Parser.readAll, List.foldl_cons, stepped]
      exact ih rfl second

end ScriptLint.Markup
