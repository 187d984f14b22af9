import ScriptLint.Proofs.Script.ArgumentLists
import ScriptLint.Proofs.Script.CallScan

/-!
# Scanning calls that were written

A script is written from trees of calls.  A scan of it finds the calls of the trees, each before
the calls among its arguments, and nothing else.  A call counts every comma between arguments
inside it, at any depth.

All of this is shown along the trees: how a written argument is passed by the count of
parentheses, how many commas it has, and what a cursor finds that stands in front of it.
-/

namespace ScriptLint

open Text

/-- The text of an argument without calls. -/
structure PlainArgument where
  chars : List Char
  filled : ∃ c ∈ chars, isBlank c = false
  unopened : '(' ∉ chars
  unclosed : ')' ∉ chars
  unparted : ',' ∉ chars

/-- An argument: a text without calls, or a call with its arguments. -/
inductive WrittenArgument where
  | plain (text : PlainArgument)
  | call (anchor : {anchor : Anchor // anchor.IsWellFormed}) (arguments : List WrittenArgument)

namespace WrittenArgument

mutual

/-- An argument as it is written. -/
def chars : WrittenArgument → List Char
  | plain text => text.chars
  | call anchor arguments => anchor.1.chars ++ (listChars [] arguments ++ [')'])

/-- Arguments one after the other, with something in front of the first and a comma and a space in
front of every other one. -/
def listChars : List Char → List WrittenArgument → List Char
  | _, [] => []
  | lead, argument :: rest => lead ++ (argument.chars ++ listChars [',', ' '] rest)

end

mutual

/-- How many commas stand between arguments inside an argument, at any depth. -/
def commas : WrittenArgument → Nat
  | plain _ => 0
  | call _ arguments => listCommas arguments

def listCommas : List WrittenArgument → Nat
  | [] => 0
  | [argument] => argument.commas
  | argument :: next :: rest => argument.commas + 1 + listCommas (next :: rest)

end

/-- The number of arguments that is reported for a call with the given ones. -/
def reportedArity (arguments : List WrittenArgument) : Nat :=
  if arguments.isEmpty then 0 else 1 + listCommas arguments

mutual

/-- The calls of an argument that is written at an offset, each before those among its
arguments. -/
def calls (lines : LineIndex) : Nat → WrittenArgument → List CallSite
  | _, plain _ => []
  | offset, call anchor arguments =>
    ⟨String.ofList anchor.1.className, String.ofList anchor.1.methodName,
        reportedArity arguments, (lines.lineCol offset).1, (lines.lineCol offset).2, offset⟩ ::
      listCalls lines [] (offset + byteLength anchor.1.chars) arguments

def listCalls (lines : LineIndex) : List Char → Nat → List WrittenArgument → List CallSite
  | _, _, [] => []
  | lead, offset, argument :: rest =>
    argument.calls lines (offset + byteLength lead) ++
      listCalls lines [',', ' '] (offset + byteLength lead + byteLength argument.chars) rest

end

/-- Written arguments are joined by a comma and a space. -/
theorem listChars_eq_intercalate (arguments : List WrittenArgument) :
    listChars [] arguments = List.intercalate [',', ' '] (arguments.map chars) := by
  have later : ∀ (argument : WrittenArgument) (rest : List WrittenArgument),
      argument.chars ++ listChars [',', ' '] rest =
        List.intercalate [',', ' '] ((argument :: rest).map chars) := by
    intro argument rest
    induction rest generalizing argument with
    | nil => simp [listChars]
    | cons next rest ih =>
        rw [listChars, ih, List.map_cons, List.map_cons, List.map_cons]
        simp
  cases arguments with
  | nil => simp [listChars]
  | cons argument rest => rw [listChars, List.nil_append, later]

theorem closingIndex?_anchor {anchor : Anchor} (wellFormed : anchor.IsWellFormed)
    (depth passed : Nat) (back : List Char) :
    Arity.closingIndex? depth passed (anchor.chars ++ back) =
      Arity.closingIndex? (depth + 1) (passed + anchor.chars.length) back := by
  have unopened := Anchor.not_mem_head wellFormed
  have unclosed : ')' ∉ anchor.head := Anchor.not_mem_head_of_standsApart wellFormed (by decide)
  rw [Anchor.chars_eq_head_append, List.append_assoc,
    Arity.closingIndex?_append unopened unclosed, List.singleton_append,
    Arity.closingIndex?_open, List.length_append, List.length_singleton, Nat.add_assoc]

mutual

theorem closingIndex?_chars (depth passed : Nat) (back : List Char) :
    ∀ argument : WrittenArgument,
      Arity.closingIndex? depth passed (argument.chars ++ back) =
        Arity.closingIndex? depth (passed + argument.chars.length) back
  | plain text => by
      rw [chars, Arity.closingIndex?_append text.unopened text.unclosed]
  | call anchor arguments => by
      rw [chars, List.append_assoc, List.append_assoc, closingIndex?_anchor anchor.2,
        closingIndex?_listChars _ _ [] (by simp) (by simp), List.singleton_append,
        Arity.closingIndex?_close_succ]
      simp only [List.length_append, List.length_singleton, Nat.add_assoc]

theorem closingIndex?_listChars (depth passed : Nat) (lead : List Char) (unopened : '(' ∉ lead)
    (unclosed : ')' ∉ lead) (back : List Char) :
    ∀ arguments : List WrittenArgument,
      Arity.closingIndex? depth passed (listChars lead arguments ++ back) =
        Arity.closingIndex? depth (passed + (listChars lead arguments).length) back
  | [] => rfl
  | argument :: rest => by
      rw [listChars, List.append_assoc, List.append_assoc,
        Arity.closingIndex?_append unopened unclosed, closingIndex?_chars _ _ _ argument,
        closingIndex?_listChars _ _ [',', ' '] (by decide) (by decide) _ rest]
      simp only [List.length_append, Nat.add_assoc]

end

theorem inner_scan_listChars (arguments : List WrittenArgument) (back : List Char) :
    (ArgumentList.scan (listChars [] arguments ++ ')' :: back)).inner = listChars [] arguments := by
  have closed := closingIndex?_listChars 0 0 [] (by simp) (by simp) (')' :: back) arguments
  rw [Arity.closingIndex?_close_zero, Nat.zero_add] at closed
  rw [ArgumentList.scan_of_closed closed]

mutual

theorem count_chars : ∀ argument : WrittenArgument, argument.chars.count ',' = argument.commas
  | plain text => by
      rw [chars, commas, List.count_eq_zero]
      exact text.unparted
  | call anchor arguments => by
      have inHead : anchor.1.head.count ',' = 0 :=
        List.count_eq_zero.mpr (Anchor.not_mem_head_of_standsApart anchor.2 (by decide))
      rw [chars, commas, Anchor.chars_eq_head_append, List.count_append, List.count_append,
        List.count_append, inHead, count_listChars arguments]
      simp

theorem count_listChars :
    ∀ arguments : List WrittenArgument,
      (listChars [] arguments).count ',' = listCommas arguments
  | [] => rfl
  | [argument] => by simp [listChars, listCommas, count_chars argument]
  | argument :: next :: rest => by
      have later := count_listChars (next :: rest)
      rw [listChars, List.nil_append] at later
      rw [listChars, listCommas, listChars, List.nil_append, List.count_append,
        List.count_append, count_chars argument, ← later]
      simp
      omega

end

theorem exists_isBlank_eq_false (argument : WrittenArgument) :
    ∃ c ∈ argument.chars, isBlank c = false := by
  cases argument with
  | plain text => exact text.filled
  | call anchor arguments => exact ⟨')', by simp [chars], by decide⟩

theorem ofArguments_listChars (arguments : List WrittenArgument) :
    Arity.ofArguments (listChars [] arguments) = reportedArity arguments := by
  rw [Arity.ofArguments_eq_ite, count_listChars, reportedArity, Nat.add_comm 1]
  cases arguments with
  | nil => rfl
  | cons argument rest =>
      obtain ⟨c, member, unblank⟩ := argument.exists_isBlank_eq_false
      have filled : ¬ (listChars [] (argument :: rest)).all isBlank := by
        rw [List.all_eq_true]
        intro blank
        rw [blank c (by simp [listChars, member])] at unblank
        cases unblank
      rw [if_neg filled, if_neg (by simp)]

end WrittenArgument

/-- No anchor ends behind a character that stands apart unless it has its parenthesis before. -/
theorem Anchor.parse?_eq_none_of_standsApart {front : List Char} {c : Char} (unopened : '(' ∉ front)
    (apart : StandsApart c) (other : c ≠ '(') (back : List Char) :
    parse? (front ++ c :: back) = none := by
  by_contra read
  obtain ⟨⟨anchor, behind⟩, parsed⟩ := Option.ne_none_iff_exists'.mp read
  obtain ⟨wellFormed, textEq⟩ := parse?_eq_some_iff.mp parsed
  rw [chars_eq_head_append, List.append_assoc, List.singleton_append] at textEq
  rcases List.append_eq_append_iff.mp textEq with
    ⟨between, headEq, backEq⟩ | ⟨between, frontEq, backEq⟩
  · apply not_mem_head_of_standsApart wellFormed apart
    cases between with
    | nil => exact absurd (List.cons.inj backEq).1 other
    | cons first more =>
        obtain rfl := (List.cons.inj backEq).1
        simp [headEq]
  · apply unopened
    cases between with
    | nil => exact absurd (List.cons.inj backEq).1.symm other
    | cons first more =>
        obtain rfl := (List.cons.inj backEq).1
        simp [frontEq]

namespace CallCursor

variable {back : List Char}

theorem remaining_congr {cursor other : CallCursor} (same : cursor.next? = other.next?) :
    cursor.remaining = other.remaining := by
  cases step : other.next? with
  | none =>
      rw [remaining_of_next?_eq_none step, remaining_of_next?_eq_none (same.trans step)]
  | some pair =>
      rw [remaining_of_next?_eq_some step, remaining_of_next?_eq_some (same.trans step)]

/-- A cursor passes over a character at which no anchor begins. -/
theorem remaining_cons {c : Char} (unread : Anchor.parse? (c :: back) = none) (lines : LineIndex)
    (offset : Nat) :
    (⟨lines, offset, c :: back⟩ : CallCursor).remaining =
      (⟨lines, offset + c.utf8Size, back⟩ : CallCursor).remaining := by
  apply remaining_congr
  simp only [next?, firstAnchor?, unread]

/-- A cursor passes over a text without parentheses. -/
theorem remaining_unopened_append {front : List Char} {c : Char} (unopened : '(' ∉ front)
    (apart : StandsApart c) (other : c ≠ '(') (lines : LineIndex) (offset : Nat)
    (back : List Char) :
    (⟨lines, offset, front ++ c :: back⟩ : CallCursor).remaining =
      (⟨lines, offset + byteLength front, c :: back⟩ : CallCursor).remaining := by
  induction front generalizing offset with
  | nil => rfl
  | cons first rest ih =>
      have unread := Anchor.parse?_eq_none_of_standsApart unopened apart other back
      rw [List.cons_append] at unread ⊢
      rw [remaining_cons unread, ih (List.not_mem_of_not_mem_cons unopened),
        byteLength_cons, Nat.add_assoc]

end CallCursor

namespace WrittenArgument

variable (lines : LineIndex)

/-- Something behind a written argument in a list. -/
theorem exists_ending (rest : List WrittenArgument) (back : List Char) :
    ∃ c later, listChars [',', ' '] rest ++ ')' :: back = c :: later ∧
      StandsApart c ∧ c ≠ '(' := by
  cases rest with
  | nil => exact ⟨')', back, rfl, by decide, by decide⟩
  | cons argument rest =>
      exact ⟨',', _, by rw [listChars, List.append_assoc]; rfl, by decide, by decide⟩

theorem remaining_separator (offset : Nat) (back : List Char) :
    (⟨lines, offset, [',', ' '] ++ back⟩ : CallCursor).remaining =
      (⟨lines, offset + byteLength [',', ' '], back⟩ : CallCursor).remaining := by
  have comma : Anchor.parse? (',' :: ' ' :: back) = none := rfl
  have space : Anchor.parse? (' ' :: back) = none := rfl
  rw [List.cons_append, List.singleton_append, CallCursor.remaining_cons comma,
    CallCursor.remaining_cons space, byteLength_cons, byteLength_cons, byteLength_nil,
    Nat.add_assoc, Nat.add_zero]

mutual

theorem remaining_chars {c : Char} (apart : StandsApart c) (other : c ≠ '(') (back : List Char) :
    ∀ (offset : Nat) (argument : WrittenArgument),
      (⟨lines, offset, argument.chars ++ c :: back⟩ : CallCursor).remaining =
        argument.calls lines offset ++
          (⟨lines, offset + byteLength argument.chars, c :: back⟩ : CallCursor).remaining
  | offset, plain text => by
      rw [chars, calls, List.nil_append,
        CallCursor.remaining_unopened_append text.unopened apart other]
  | offset, call anchor arguments => by
      have closing : Anchor.parse? (')' :: c :: back) = none := rfl
      have nothing (start : Nat) (behind : List Char) :
          (⟨lines, start, [] ++ behind⟩ : CallCursor).remaining =
            (⟨lines, start + byteLength [], behind⟩ : CallCursor).remaining := rfl
      have site : CallSite.ofAnchor lines offset anchor.1
            (listChars [] arguments ++ ')' :: c :: back) =
          ⟨String.ofList anchor.1.className, String.ofList anchor.1.methodName,
            reportedArity arguments, (lines.lineCol offset).1, (lines.lineCol offset).2,
            offset⟩ := by
        rw [CallSite.ofAnchor, ArgumentList.arity, inner_scan_listChars, ofArguments_listChars]
      rw [chars, calls, List.append_assoc, List.append_assoc, List.singleton_append,
        CallCursor.remaining_of_parse? (Anchor.parse?_chars_append anchor.2 _), site,
        remaining_listChars [] nothing _ _ arguments, CallCursor.remaining_cons closing]
      simp [Nat.add_assoc]

theorem remaining_listChars (lead : List Char)
    (passes : ∀ offset back, (⟨lines, offset, lead ++ back⟩ : CallCursor).remaining =
      (⟨lines, offset + byteLength lead, back⟩ : CallCursor).remaining) (back : List Char) :
    ∀ (offset : Nat) (arguments : List WrittenArgument),
      (⟨lines, offset, listChars lead arguments ++ ')' :: back⟩ : CallCursor).remaining =
        listCalls lines lead offset arguments ++
          (⟨lines, offset + byteLength (listChars lead arguments), ')' :: back⟩ :
            CallCursor).remaining
  | offset, [] => rfl
  | offset, argument :: rest => by
      obtain ⟨c, later, endingEq, apart, other⟩ := exists_ending rest back
      have behind := remaining_listChars [',', ' '] (remaining_separator lines) back
        (offset + byteLength lead + byteLength argument.chars) rest
      rw [listChars, listCalls, List.append_assoc, List.append_assoc, passes, endingEq,
        remaining_chars apart other later _ argument, ← endingEq, behind]
      simp [Nat.add_assoc]

end

end WrittenArgument

/-- A call that stands by itself. -/
structure WrittenCall where
  anchor : {anchor : Anchor // anchor.IsWellFormed}
  arguments : List WrittenArgument

namespace WrittenCall

def toArgument (call : WrittenCall) : WrittenArgument :=
  .call call.anchor call.arguments

/-- Calls one after the other, each with a semicolon and a line feed behind it. -/
def scriptChars : List WrittenCall → List Char
  | [] => []
  | call :: rest => call.toArgument.chars ++ ([';', '\n'] ++ scriptChars rest)

def scriptCalls (lines : LineIndex) : Nat → List WrittenCall → List CallSite
  | _, [] => []
  | offset, call :: rest =>
    call.toArgument.calls lines offset ++
      scriptCalls lines (offset + byteLength call.toArgument.chars + byteLength [';', '\n']) rest

theorem remaining_scriptChars (lines : LineIndex) (offset : Nat) (script : List WrittenCall) :
    (⟨lines, offset, scriptChars script⟩ : CallCursor).remaining =
      scriptCalls lines offset script := by
  induction script generalizing offset with
  | nil => exact CallCursor.remaining_of_next?_eq_none rfl
  | cons call rest ih =>
      have semicolon : Anchor.parse? (';' :: '\n' :: scriptChars rest) = none := rfl
      have lineFeed : Anchor.parse? ('\n' :: scriptChars rest) = none := rfl
      rw [scriptChars, scriptCalls, List.cons_append, List.singleton_append,
        WrittenArgument.remaining_chars lines (by decide) (by decide),
        CallCursor.remaining_cons semicolon, CallCursor.remaining_cons lineFeed, ih,
        byteLength_cons, byteLength_cons, byteLength_nil, Nat.add_zero, ← Nat.add_assoc]

end WrittenCall

/-- A scan of a script that was written from trees of calls finds the calls of the trees in order,
each at the offset at which it was written and before those among its arguments. -/
theorem scanCalls_scriptChars (script : List WrittenCall) :
    scanCalls (String.ofList (WrittenCall.scriptChars script)) =
      WrittenCall.scriptCalls (LineIndex.ofText (WrittenCall.scriptChars script)) 0 script := by
  rw [scanCalls, String.toList_ofList, CallCursor.ofText, WrittenCall.remaining_scriptChars]

-- The comma between the arguments of the inner call counts in the outer one too.
example :
    (scanCalls "GSGoal.Set (x, GSGoal.Get(1, 2));\n").map (fun site => (site.arity, site.offset)) =
      [(3, 0), (2, 15)] := by
  decide +kernel

end ScriptLint
