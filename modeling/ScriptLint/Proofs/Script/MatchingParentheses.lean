import ScriptLint.Proofs.Script.ArgumentLists
import ScriptLint.Proofs.Text.SingleBytes

/-!
# The parenthesis that closes an argument list

While a list is open, no more parentheses have been closed in it than opened.  It ends at the first
parenthesis for which this fails, and that is the one behind the balanced text that the list begins
with.  There is at most one such text, since a longer one would have to pass over this parenthesis.

The same list is found by counting over the bytes of the text.  The count starts with the
parenthesis that is already passed, and never has to go below zero.
-/

namespace ScriptLint

open Text

/-- A text in which no parenthesis is closed before it is opened, and all are closed in the end. -/
structure IsBalanced (text : List Char) : Prop where
  count_eq : text.count ')' = text.count '('
  count_le : ∀ front, front <+: text → front.count ')' ≤ front.count '('

namespace Arity

variable {depth passed index : Nat} {inner rest text : List Char}

/-- A list stays open as long as no front of the text closes more parentheses than were open before
it and are opened in it. -/
theorem closingIndex?_eq_none_iff (depth passed : Nat) (text : List Char) :
    closingIndex? depth passed text = none ↔
      ∀ front, front <+: text → front.count ')' ≤ front.count '(' + depth := by
  constructor
  · rintro unclosed front ⟨back, rfl⟩
    cases closed : closingIndex? depth passed front with
    | some index =>
        rw [closingIndex?_append_of_closed closed] at unclosed
        cases unclosed
    | none =>
        obtain ⟨deeper, balance, -⟩ := closingIndex?_append_of_unclosed closed
        omega
  · intro bounded
    -- The first character is counted in every front of the text but the empty one.
    induction text generalizing depth passed with
    | nil => rfl
    | cons c rest ih =>
        have later (front : List Char) (begins : front <+: rest) :
            (c :: front).count ')' ≤ (c :: front).count '(' + depth :=
          bounded (c :: front) ((List.prefix_cons_inj c).mpr begins)
        by_cases opens : c = '('
        · subst opens
          apply ih
          intro front begins
          have bound := later front begins
          rw [List.count_cons_of_ne (by decide), List.count_cons_self] at bound
          omega
        · by_cases closes : c = ')'
          · subst closes
            have first := later [] List.nil_prefix
            cases depth with
            | zero => exact absurd first (by decide)
            | succ depth =>
                apply ih
                intro front begins
                have bound := later front begins
                rw [List.count_cons_self, List.count_cons_of_ne (by decide)] at bound
                omega
          · rw [closingIndex?_cons opens closes]
            apply ih
            intro front begins
            have bound := later front begins
            rwa [List.count_cons_of_ne closes, List.count_cons_of_ne opens] at bound

theorem closingIndex?_of_isBalanced (balanced : IsBalanced inner) (rest : List Char) :
    closingIndex? 0 0 (inner ++ ')' :: rest) = some inner.length := by
  have unclosed := (closingIndex?_eq_none_iff 0 0 inner).mpr balanced.count_le
  obtain ⟨deeper, balance, goesOn⟩ := closingIndex?_append_of_unclosed unclosed
  have level : deeper = 0 := by
    have same := balanced.count_eq
    omega
  rw [goesOn, level, closingIndex?_close_zero, Nat.zero_add]

theorem isBalanced_of_closed
    (closed : closingIndex? 0 0 (inner ++ ')' :: rest) = some inner.length) : IsBalanced inner := by
  have unclosed : closingIndex? 0 0 inner = none := by
    cases earlier : closingIndex? 0 0 inner with
    | none => rfl
    | some index =>
        have same := closingIndex?_append_of_closed earlier (')' :: rest)
        rw [closed] at same
        obtain ⟨front, back, frontEq, indexEq⟩ := exists_division_of_closed earlier
        have shorter := congrArg List.length frontEq
        simp only [Option.some.injEq, List.length_append, List.length_cons] at same shorter
        omega
  obtain ⟨deeper, balance, goesOn⟩ := closingIndex?_append_of_unclosed unclosed
  have level : deeper = 0 := by
    rw [goesOn] at closed
    cases deeper with
    | zero => rfl
    | succ deeper =>
        rw [closingIndex?_close_succ] at closed
        obtain ⟨front, back, -, indexEq⟩ := exists_division_of_closed closed
        omega
  exact ⟨by omega, (closingIndex?_eq_none_iff 0 0 inner).mp unclosed⟩

end Arity

namespace ArgumentList

variable {inner text : List Char}

/-- A text begins with a balanced text and the parenthesis that closes the list behind it. -/
def ClosesBehind (text inner : List Char) : Prop :=
  IsBalanced inner ∧ inner ++ [')'] <+: text

theorem ClosesBehind.exists_rest (closes : ClosesBehind text inner) :
    ∃ rest, text = inner ++ ')' :: rest ∧
      Arity.closingIndex? 0 0 (inner ++ ')' :: rest) = some inner.length := by
  obtain ⟨balanced, rest, rfl⟩ := closes
  exact ⟨rest, by simp, Arity.closingIndex?_of_isBalanced balanced rest⟩

theorem ClosesBehind.unique {other : List Char} (closes : ClosesBehind text inner)
    (closesToo : ClosesBehind text other) : other = inner := by
  obtain ⟨rest, textEq, found⟩ := closes.exists_rest
  obtain ⟨otherRest, otherEq, otherFound⟩ := closesToo.exists_rest
  rw [← textEq] at found
  rw [← otherEq, found] at otherFound
  have same : inner ++ ')' :: rest = other ++ ')' :: otherRest := textEq.symm.trans otherEq
  exact (List.append_inj same (Option.some.inj otherFound)).1.symm

theorem scan_of_closesBehind (closes : ClosesBehind text inner) :
    scan text = ⟨inner, inner ++ [')']⟩ := by
  obtain ⟨rest, rfl, found⟩ := closes.exists_rest
  exact scan_of_closed found

/-- The list that a text begins with is closed behind a balanced text, or nowhere. -/
theorem scan_closesBehind_cases (text : List Char) :
    (∃ inner, ClosesBehind text inner) ∨
      (∀ inner, ¬ ClosesBehind text inner) ∧ Arity.closingIndex? 0 0 text = none := by
  rcases scan_cases text with ⟨inner, rest, rfl, found, -⟩ | ⟨unclosed, -⟩
  · exact Or.inl ⟨inner, Arity.isBalanced_of_closed found, rest, by simp⟩
  · refine Or.inr ⟨fun inner closes => ?_, unclosed⟩
    obtain ⟨rest, rfl, found⟩ := closes.exists_rest
    rw [unclosed] at found
    cases found

theorem count_le_of_prefix_inner {front : List Char} (begins : front <+: (scan text).inner) :
    front.count ')' ≤ front.count '(' := by
  rcases scan_closesBehind_cases text with ⟨inner, closes⟩ | ⟨-, unclosed⟩
  · rw [scan_of_closesBehind closes] at begins
    exact closes.1.count_le front begins
  · rw [scan_of_unclosed unclosed] at begins
    exact (Arity.closingIndex?_eq_none_iff 0 0 text).mp unclosed front begins

/-- How the bytes of an argument list end. -/
inductive ByteEnd where
  | closedAt (offset : Nat)
  | unclosed
  /-- A parenthesis is closed, but none is open. -/
  | belowZero

/-- The end of the list that is open at some depth, which counts the parenthesis before the list. -/
def byteEnd (depth offset : Nat) : List UInt8 → ByteEnd
  | [] => .unclosed
  | byte :: rest =>
    if byte = '('.toUInt8 then byteEnd (depth + 1) (offset + 1) rest
    else if byte = ')'.toUInt8 then
      match depth with
      | 0 => .belowZero
      | 1 => .closedAt offset
      | deeper + 2 => byteEnd (deeper + 1) (offset + 1) rest
    else byteEnd depth (offset + 1) rest

/-- The text in the bytes before an offset, unless a character is cut there. -/
def textBefore? (text : String) (offset : Nat) : Option String :=
  String.fromUTF8? (text.toUTF8.extract 0 offset)

/-- The argument list that a text begins with, and how many bytes belong to the call.  There is
none if the depth falls below zero or the end of the list cuts a character. -/
def ofBytes? (text : String) : Option (String × Nat) :=
  match byteEnd 1 0 (bytes text) with
  | .closedAt offset => (textBefore? text offset).map fun inner => (inner, offset + 1)
  | .unclosed => some (text, (bytes text).length)
  | .belowZero => none

theorem byteEnd_cons {byte : UInt8} (unopened : byte ≠ '('.toUInt8) (unclosed : byte ≠ ')'.toUInt8)
    (depth offset : Nat) (rest : List UInt8) :
    byteEnd depth offset (byte :: rest) = byteEnd depth (offset + 1) rest := by
  rw [byteEnd.eq_def]
  simp only [if_neg unopened, if_neg unclosed]

theorem byteEnd_append {run : List UInt8} (unopened : '('.toUInt8 ∉ run)
    (unclosed : ')'.toUInt8 ∉ run) (depth offset : Nat) (rest : List UInt8) :
    byteEnd depth offset (run ++ rest) = byteEnd depth (offset + run.length) rest := by
  induction run generalizing offset with
  | nil => rfl
  | cons byte later ih =>
      rw [List.mem_cons, not_or] at unopened unclosed
      rw [List.cons_append, byteEnd_cons (Ne.symm unopened.1) (Ne.symm unclosed.1),
        ih unopened.2 unclosed.2, List.length_cons, Nat.add_assoc, Nat.add_comm 1]

/-- The end over the bytes of a character and more, given the end over what is behind it. -/
def ByteEnd.ofIndex? (offset : Nat) (chars : List Char) : Option Nat → ByteEnd
  | some index => .closedAt (offset + byteLength (chars.take index))
  | none => .unclosed

theorem ByteEnd.ofIndex?_cons (offset : Nat) (c : Char) (rest : List Char) (index? : Option Nat) :
    ofIndex? offset (c :: rest) (index?.map (· + 1)) =
      ofIndex? (offset + c.utf8Size) rest index? := by
  cases index? with
  | none => rfl
  | some index =>
      simp only [Option.map_some, ofIndex?, List.take_succ_cons, byteLength_cons, Nat.add_assoc]

theorem byteEnd_flatMap (depth offset : Nat) (chars : List Char) :
    byteEnd (depth + 1) offset (chars.flatMap String.utf8EncodeChar) =
      .ofIndex? offset chars (Arity.closingIndex? depth 0 chars) := by
  -- A character other than a parenthesis is a run of bytes that leaves the depth as it is.
  induction chars generalizing depth offset with
  | nil => rfl
  | cons c rest ih =>
      have shifted (depth : Nat) := Arity.closingIndex?_add depth 0 1 rest
      rw [List.flatMap_cons]
      by_cases opens : c = '('
      · subst opens
        rw [Arity.closingIndex?_open, shifted, ByteEnd.ofIndex?_cons, ← ih,
          utf8EncodeChar_of_lt (by decide)]
        rfl
      · by_cases closes : c = ')'
        · subst closes
          rw [utf8EncodeChar_of_lt (by decide)]
          cases depth with
          | zero => rfl
          | succ depth =>
              rw [Arity.closingIndex?_close_succ, shifted, ByteEnd.ofIndex?_cons, ← ih]
              rfl
        · rw [Arity.closingIndex?_cons opens closes, shifted, ByteEnd.ofIndex?_cons, ← ih,
            byteEnd_append (not_mem_utf8EncodeChar (by decide) opens)
              (not_mem_utf8EncodeChar (by decide) closes), String.length_utf8EncodeChar]

theorem textBefore?_append (front back : String) :
    textBefore? (front ++ back) (byteLength front.toList) = some front := by
  have sizeEq : byteLength front.toList = front.toByteArray.size := by
    rw [← length_bytes, bytes, Array.length_toList, ByteArray.size_data,
      String.toUTF8_eq_toByteArray]
  rw [textBefore?, String.toUTF8_eq_toByteArray, String.toByteArray_append,
    ByteArray.extract_append_eq_left sizeEq, String.fromUTF8?, dif_pos front.isValidUTF8]
  rfl

theorem ofBytes?_eq (text : String) :
    ofBytes? text = some (String.ofList (scan text.toList).inner,
      byteLength (scan text.toList).consumed) := by
  have ends := byteEnd_flatMap 0 0 text.toList
  rw [← bytes_eq_flatMap, Nat.zero_add] at ends
  rcases scan_cases text.toList with ⟨inner, rest, textEq, found, scanned⟩ | ⟨unclosed, scanned⟩
  · have divided : text = String.ofList inner ++ String.ofList (')' :: rest) := by
      rw [← String.ofList_append, ← textEq, String.ofList_toList]
    have before : textBefore? text (byteLength inner) = some (String.ofList inner) := by
      have found := textBefore?_append (String.ofList inner) (String.ofList (')' :: rest))
      rwa [← divided, String.toList_ofList] at found
    have closeSize : byteLength [')'] = 1 := by decide
    rw [found, textEq, ByteEnd.ofIndex?, List.take_left, Nat.zero_add] at ends
    simp only [ofBytes?, ends, before, Option.map_some, scanned, byteLength_append, closeSize]
  · rw [ofBytes?, ends, unclosed, scanned, ByteEnd.ofIndex?, String.ofList_toList, length_bytes]

end ArgumentList

/-- If a text begins with a balanced text and a closing parenthesis behind it, then there is one
such beginning, and the argument list takes it, whatever is added behind.  Otherwise the list takes
the whole text.  Counting over the bytes gives the same list without ever falling below zero or
cutting a character. -/
theorem scan_takes_balanced_text (text : String) :
    ((∃ inner, ArgumentList.ClosesBehind text.toList inner ∧
        (∀ other, ArgumentList.ClosesBehind text.toList other → other = inner) ∧
        ArgumentList.scan text.toList = ⟨inner, inner ++ [')']⟩ ∧
        byteLength (ArgumentList.scan text.toList).consumed = byteLength inner + 1 ∧
        ∀ more, ArgumentList.scan (text.toList ++ more) = ArgumentList.scan text.toList) ∨
      (∀ inner, ¬ ArgumentList.ClosesBehind text.toList inner) ∧
        ArgumentList.scan text.toList = ⟨text.toList, text.toList⟩) ∧
    (∀ front, front <+: (ArgumentList.scan text.toList).inner →
      front.count ')' ≤ front.count '(') ∧
    ArgumentList.ofBytes? text = some (String.ofList (ArgumentList.scan text.toList).inner,
      byteLength (ArgumentList.scan text.toList).consumed) := by
  refine ⟨?_, fun front => ArgumentList.count_le_of_prefix_inner, ArgumentList.ofBytes?_eq text⟩
  rcases ArgumentList.scan_closesBehind_cases text.toList with ⟨inner, closes⟩ | ⟨nowhere, unclosed⟩
  · have scanned := ArgumentList.scan_of_closesBehind closes
    have isClosed : (ArgumentList.scan text.toList).IsClosed := by rw [scanned]; rfl
    have closeSize : byteLength [')'] = 1 := by decide
    refine Or.inl ⟨inner, closes, fun other => closes.unique, scanned, ?_,
      ArgumentList.scan_append_of_isClosed isClosed⟩
    rw [scanned, byteLength_append, closeSize]
  · exact Or.inr ⟨nowhere, ArgumentList.scan_of_unclosed unclosed⟩

end ScriptLint
