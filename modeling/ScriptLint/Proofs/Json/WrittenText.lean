import Mathlib.Tactic.IntervalCases
import ScriptLint.Json.Parser
import ScriptLint.Json.Printer

/-!
# Reading written strings

A string that has been written in quotes is read as the string that it was.  Every character
becomes one piece again: most as themselves, those control characters that have no escape of
their own by their number.
-/

namespace ScriptLint.Json

/-- The piece of a string that a written character is read as. -/
def pieceOf (c : Char) : Piece :=
  if c.toNat < 32 ∧ c.toNat ∉ [8, 9, 10, 12, 13] then .unit c.toNat else .char c

theorem hexValue?_hexDigit {n : Nat} (small : n < 16) : hexValue? (hexDigit n) = some n := by
  interval_cases n <;> decide

theorem hexQuad?_hexDigits {n : Nat} (small : n < 256) :
    hexQuad? '0' '0' (hexDigit (n / 16)) (hexDigit (n % 16)) = some n := by
  have zero : hexValue? '0' = some 0 := by decide
  simp only [hexQuad?, zero, hexValue?_hexDigit (show n / 16 < 16 by omega),
    hexValue?_hexDigit (show n % 16 < 16 by omega), Option.bind_eq_bind, Option.bind_some,
    Option.pure_def, Option.some.injEq]
  omega

theorem eq_ofNat_of_toNat_eq {c : Char} {n : Nat} (numbered : c.toNat = n) : c = Char.ofNat n := by
  rw [← numbered, Char.ofNat_toNat]

/-- The text of a character is read as the piece of the character. -/
theorem readPieces_escapeChar (c : Char) (rest : List Char) :
    readPieces (escapeChar c ++ rest) =
      (readPieces rest).map fun (pieces, behind) => (pieceOf c :: pieces, behind) := by
  by_cases quoteMark : c = '"'
  · subst quoteMark
    cases readRest : readPieces rest <;> simp [escapeChar, pieceOf, readPieces, readRest]
  by_cases backslash : c = '\\'
  · subst backslash
    cases readRest : readPieces rest <;> simp [escapeChar, pieceOf, readPieces, readRest]
  by_cases control : c.toNat < 32
  · by_cases named : c.toNat ∈ [8, 9, 10, 12, 13]
    · simp only [List.mem_cons, List.not_mem_nil, or_false] at named
      rcases named with numbered | numbered | numbered | numbered | numbered
      all_goals
        obtain rfl := eq_ofNat_of_toNat_eq numbered
        cases readRest : readPieces rest <;> simp [escapeChar, pieceOf, readPieces, readRest]
    · have escaped : escapeChar c =
          ['\\', 'u', '0', '0', hexDigit (c.toNat / 16), hexDigit (c.toNat % 16)] := by
        simp only [List.mem_cons, List.not_mem_nil, or_false, not_or] at named
        obtain ⟨notEight, notNine, notTen, notTwelve, notThirteen⟩ := named
        rw [escapeChar, if_neg quoteMark, if_neg backslash, if_neg notEight, if_neg notNine,
          if_neg notTen, if_neg notTwelve, if_neg notThirteen, if_pos control]
      rw [escaped, pieceOf, if_pos ⟨control, named⟩]
      cases readRest : readPieces rest <;>
        simp [readPieces, hexQuad?_hexDigits (show c.toNat < 256 by omega), readRest]
  · have itself : escapeChar c = [c] := by
      rw [escapeChar, if_neg quoteMark, if_neg backslash, if_neg (by omega), if_neg (by omega),
        if_neg (by omega), if_neg (by omega), if_neg (by omega), if_neg control]
    rw [itself, pieceOf, if_neg (by simp [control]), List.singleton_append,
      readPieces.eq_5 c rest quoteMark (by simp [backslash]) (by simp [backslash]),
      if_neg (by simp [backslash, control])]
    cases readPieces rest <;> rfl

theorem readPieces_flatMap_escapeChar (text rest : List Char) :
    readPieces (text.flatMap escapeChar ++ '"' :: rest) = some (text.map pieceOf, rest) := by
  induction text with
  | nil => simp [readPieces]
  | cons c text ih =>
      rw [List.flatMap_cons, List.append_assoc, readPieces_escapeChar, ih]
      rfl

/-- A piece that is given by the number of a control character stands for itself. -/
theorem joinPieces_unit {value : Nat} (small : value < 0xD800) (pieces : List Piece) :
    joinPieces (.unit value :: pieces) = (joinPieces pieces).map (Char.ofNat value :: ·) := by
  cases pieces with
  | nil => rw [joinPieces.eq_4 value [] (by simp), if_neg (by omega)]
  | cons first later =>
      cases first with
      | char c => rw [joinPieces.eq_4 value (.char c :: later) (by simp), if_neg (by omega)]
      | unit low => rw [joinPieces, if_neg (by omega), if_neg (by omega)]

theorem joinPieces_map_pieceOf (text : List Char) :
    joinPieces (text.map pieceOf) = some text := by
  induction text with
  | nil => rw [List.map_nil, joinPieces]
  | cons c text ih =>
      rw [List.map_cons, pieceOf]
      split
      · rename_i control
        rw [joinPieces_unit (by omega), ih, Char.ofNat_toNat]
        rfl
      · rw [joinPieces, ih]
        rfl

/-- The characters that follow the opening quote of a written string are read as the string. -/
theorem readText_written (text rest : List Char) :
    readText (text.flatMap escapeChar ++ '"' :: rest) =
      some (some (String.ofList text), rest) := by
  rw [readText, readPieces_flatMap_escapeChar, Option.map_some]
  dsimp only
  rw [joinPieces_map_pieceOf, Option.map_some]

end ScriptLint.Json
