import Mathlib.Data.List.DropRight
import Mathlib.Data.Nat.Find
import ScriptLint.Proofs.Docs.SignatureText

/-!
# Where a signature is found

The search for a signature goes through the places where a name may begin, but the signature that
it finds is the one of a parenthesis: of the first that stands behind a name, if any such
parenthesis is closed later.  The two orders agree, because a name reaches its parenthesis over
blanks only, so that no name can begin before another and have its parenthesis behind the other's.
In particular a signature is found behind any text without parentheses that does not run into its
name.
-/

namespace ScriptLint

open Text

theorem isDigit_eq_false_of_isNameStart {c : Char} (starts : isNameStart c) :
    c.isDigit = false := by
  delta isNameStart Char.isAlpha Char.isUpper Char.isLower at starts
  delta Char.isDigit
  simp only [Bool.or_eq_true, Bool.and_eq_true, decide_eq_true_eq, beq_iff_eq, ge_iff_le,
    UInt32.le_iff_toNat_le] at starts
  simp only [Bool.and_eq_false_iff, decide_eq_false_iff_not, ge_iff_le, UInt32.le_iff_toNat_le]
  rcases starts with (upper | lower) | rfl
  · exact Or.inr (Nat.not_le_of_lt (Nat.lt_of_lt_of_le (by decide) upper.1))
  · exact Or.inr (Nat.not_le_of_lt (Nat.lt_of_lt_of_le (by decide) lower.1))
  · decide

theorem isNameStart_of_isNameChar {c : Char} (named : isNameChar c) (noDigit : c.isDigit = false) :
    isNameStart c := by
  simpa [isNameChar, isNameStart, Char.isAlphanum, noDigit] using named

theorem isIdentifier_iff {word : List Char} :
    IsIdentifier word ↔
      word ≠ [] ∧ (∀ c ∈ word, isNameChar c) ∧ ∀ c ∈ word.head?, c.isDigit = false := by
  constructor
  · intro named
    refine ⟨?_, fun c => named.isNameChar_of_mem, ?_⟩
    · obtain ⟨first, later, rfl, -⟩ := named
      exact List.cons_ne_nil first later
    · obtain ⟨first, later, rfl, starts, -⟩ := named
      rintro c ⟨⟩
      exact isDigit_eq_false_of_isNameStart starts
  · rintro ⟨filled, named, noDigit⟩
    obtain ⟨first, later, rfl⟩ := List.exists_cons_of_ne_nil filled
    obtain ⟨firstNamed, laterNamed⟩ := List.forall_mem_cons.mp named
    exact ⟨first, later, rfl, isNameStart_of_isNameChar firstNamed (noDigit first rfl), laterNamed⟩

namespace Signature

/-- The word at the end of a text, blanks behind it passed over. -/
def wordAtEnd (text : List Char) : List Char :=
  (text.rdropWhile isBlank).rtakeWhile isWordChar

/-- Whether a parenthesis behind a text opens parameters: the word before it is a name. -/
def OpensParameters (before : List Char) : Prop :=
  wordAtEnd before ≠ [] ∧ (∀ c ∈ wordAtEnd before, isNameChar c) ∧
    ∀ c ∈ (wordAtEnd before).head?, c.isDigit = false

/-- Whether a text is divided by the first parenthesis in it that opens parameters. -/
structure FirstOpening (text before after : List Char) : Prop where
  text_eq : text = before ++ '(' :: after
  opens : OpensParameters before
  first : ∀ earlier later, text = earlier ++ '(' :: later → OpensParameters earlier →
    before.length ≤ earlier.length

variable {before front name gap params rest : List Char}

theorem wordAtEnd_append (ends : ∀ c ∈ front.getLast?, isWordChar c = false)
    (named : IsIdentifier name) (blank : ∀ c ∈ gap, isBlank c) :
    wordAtEnd (front ++ (name ++ gap)) = name := by
  have gapRun : ∀ c ∈ gap.reverse, isBlank c := by simpa using blank
  have nameRun : ∀ c ∈ name.reverse, isWordChar c := fun c member =>
    isWordChar_of_isNameChar (named.isNameChar_of_mem (List.mem_reverse.mp member))
  have filled : name.reverse ≠ [] := by simpa using (isIdentifier_iff.mp named).1
  have gapStops : ∀ c ∈ (name.reverse ++ front.reverse).head?, isBlank c = false := by
    intro c last
    rw [List.head?_append_of_ne_nil _ filled] at last
    have member := List.mem_reverse.mp (List.mem_of_mem_head? last)
    exact isBlank_eq_false_of_isNameChar (named.isNameChar_of_mem member)
  have nameStops : ∀ c ∈ front.reverse.head?, isWordChar c = false := by simpa using ends
  rw [wordAtEnd, List.rdropWhile, List.rtakeWhile, List.reverse_reverse, List.reverse_append,
    List.reverse_append, List.append_assoc, dropWhile_append_of_stops gapRun gapStops,
    takeWhile_append_of_stops nameRun nameStops, List.reverse_reverse]

theorem exists_eq_wordAtEnd (before : List Char) :
    ∃ front gap, before = front ++ (wordAtEnd before ++ gap) ∧ (∀ c ∈ gap, isBlank c) ∧
      ∀ c ∈ front.getLast?, isWordChar c = false := by
  refine ⟨(before.rdropWhile isBlank).rdropWhile isWordChar, before.rtakeWhile isBlank, ?_,
    fun c => List.mem_rtakeWhile_imp, ?_⟩
  · rw [wordAtEnd, ← List.append_assoc, List.rdropWhile_append_rtakeWhile,
      List.rdropWhile_append_rtakeWhile]
  · rw [List.rdropWhile, List.getLast?_reverse]
    exact head?_dropWhile isWordChar _

theorem opensParameters_append (ends : ∀ c ∈ front.getLast?, isWordChar c = false)
    (named : IsIdentifier name) (blank : ∀ c ∈ gap, isBlank c) :
    OpensParameters (front ++ (name ++ gap)) := by
  rw [OpensParameters, wordAtEnd_append ends named blank]
  exact isIdentifier_iff.mp named

/-- Whether a word reaches up to the end of a text, or to its beginning if it is empty. -/
def endsInWord (insideWord : Bool) : List Char → Bool
  | [] => insideWord
  | c :: rest => endsInWord (isWordChar c) rest

theorem endsInWord_eq (insideWord : Bool) (front : List Char) :
    endsInWord insideWord front = (front.getLast?.map isWordChar).getD insideWord := by
  induction front generalizing insideWord with
  | nil => rfl
  | cons c front ih =>
      rw [endsInWord, ih, List.getLast?_cons]
      cases front.getLast? <;> rfl

theorem endsInWord_eq_false_iff :
    endsInWord false front = false ↔ ∀ c ∈ front.getLast?, isWordChar c = false := by
  rw [endsInWord_eq]
  cases front.getLast? <;> simp

/-- The search goes through a text if no signature begins in it. -/
theorem first?_append {insideWord : Bool} {behind : List Char}
    (unread : ∀ early late, front = early ++ late → late ≠ [] →
      endsInWord insideWord early = false → atStart? (late ++ behind) = none) :
    first? insideWord (front ++ behind) = first? (endsInWord insideWord front) behind := by
  induction front generalizing insideWord with
  | nil => rfl
  | cons c front ih =>
      have passed : (if insideWord then none else atStart? (c :: (front ++ behind))) = none := by
        cases insideWord with
        | true => rfl
        | false => exact unread [] (c :: front) rfl (List.cons_ne_nil c front) rfl
      rw [List.cons_append, first?, passed]
      refine ih fun early late divided filled outside => ?_
      exact unread (c :: early) late (by rw [divided, List.cons_append]) filled outside

theorem exists_of_first? {insideWord : Bool} {text : List Char} {found : Signature}
    (read : first? insideWord text = some found) :
    ∃ front behind, text = front ++ behind ∧ endsInWord insideWord front = false ∧
      atStart? behind = some found := by
  induction text generalizing insideWord with
  | nil => cases read
  | cons c rest ih =>
      rw [first?] at read
      split at read
      next here =>
        split_ifs at here with inside
        cases read
        exact ⟨[], c :: rest, rfl, by simpa [endsInWord] using inside, here⟩
      next =>
        obtain ⟨front, behind, divided, outside, found⟩ := ih read
        exact ⟨c :: front, behind, by rw [divided, List.cons_append], outside, found⟩

theorem first?_of_atStart? {behind : List Char} {found : Signature}
    (read : atStart? behind = some found) : first? false behind = some found := by
  cases behind with
  | nil => cases read
  | cons c rest => rw [first?, if_neg Bool.false_ne_true, read]

variable {text before after : List Char}

theorem exists_firstOpening (divided : text = before ++ '(' :: after)
    (opens : OpensParameters before) :
    ∃ first behind, FirstOpening text first behind ∧ first.length ≤ before.length := by
  classical
  let Opens (size : Nat) : Prop := ∃ earlier later,
    text = earlier ++ '(' :: later ∧ OpensParameters earlier ∧ earlier.length = size
  have some : ∃ size, Opens size := ⟨_, before, after, divided, opens, rfl⟩
  obtain ⟨first, behind, firstDivided, firstOpens, firstLength⟩ := Nat.find_spec some
  refine ⟨first, behind, ⟨firstDivided, firstOpens, fun earlier later elsewhere earlierOpens => ?_⟩,
    ?_⟩
  · rw [firstLength]
    exact Nat.find_min' some ⟨earlier, later, elsewhere, earlierOpens, rfl⟩
  · rw [firstLength]
    exact Nat.find_min' some ⟨before, after, divided, opens, rfl⟩

/-- A name that begins before the one at the first opening does not reach a parenthesis: behind
what is no part of a name it would have to pass over blanks only, but there the other name is. -/
theorem FirstOpening.atStart?_eq_none (opening : FirstOpening text before after)
    {early late : List Char} (shape : before = early ++ (late ++ (wordAtEnd before ++ gap)))
    (filled : late ≠ []) (lateEnds : ∀ c ∈ late.getLast?, isWordChar c = false)
    (earlyEnds : ∀ c ∈ early.getLast?, isWordChar c = false) :
    atStart? (late ++ (wordAtEnd before ++ (gap ++ '(' :: after))) = none := by
  rw [Option.eq_none_iff_forall_ne_some]
  intro found read
  obtain ⟨name, blanks, params, rest, behindEq, named, blank, -, -⟩ := exists_of_atStart? read
  have divided : text = (early ++ (name ++ blanks)) ++ '(' :: (params ++ ')' :: rest) := by
    rw [opening.text_eq, shape, List.append_assoc, List.append_assoc, List.append_assoc, behindEq,
      List.append_assoc, List.append_assoc]
  have notEarlier := opening.first _ _ divided (opensParameters_append earlyEnds named blank)
  have reached : late ++ (wordAtEnd before ++ gap) <+: name ++ blanks := by
    have openedEarly : name ++ blanks <+: late ++ (wordAtEnd before ++ (gap ++ '(' :: after)) :=
      ⟨'(' :: (params ++ ')' :: rest), by simp [behindEq]⟩
    refine List.prefix_of_prefix_length_le ⟨'(' :: after, by simp⟩ openedEarly ?_
    have sizes := congrArg List.length shape
    simp only [List.length_append] at sizes notEarlier ⊢
    omega
  have nameFirst : (name ++ blanks).Pairwise fun c d => isNameChar d → isNameChar c := by
    refine List.pairwise_append.mpr ⟨?_, ?_, ?_⟩
    · exact List.pairwise_of_forall_mem_list fun c member _ _ _ => named.isNameChar_of_mem member
    · refine List.pairwise_of_forall_mem_list fun c _ d member dNamed => ?_
      rw [isNameChar_eq_false_of_isBlank (blank d member)] at dNamed
      cases dNamed
    · exact fun c member _ _ _ => named.isNameChar_of_mem member
  obtain ⟨c, wordRest, wordEq⟩ := List.exists_cons_of_ne_nil opening.opens.1
  have cNamed := opening.opens.2.1 c (by rw [wordEq]; exact List.mem_cons_self)
  have lastNamed := (List.pairwise_append.mp (nameFirst.sublist reached.sublist)).2.2
    (late.getLast filled) (List.getLast_mem filled) c (by simp [wordEq]) cNamed
  have outside := lateEnds _ (List.getLast?_eq_some_getLast filled)
  rw [isWordChar_of_isNameChar lastNamed] at outside
  cases outside

/-- If the first opening is closed, the signature is the one of its name and its parameters. -/
theorem FirstOpening.first?_eq (opening : FirstOpening text before (params ++ ')' :: rest))
    (unclosed : ')' ∉ params) :
    first? false text = some ⟨String.ofList (wordAtEnd before), Arity.ofArguments params⟩ := by
  obtain ⟨front, gap, shape, blank, ends⟩ := exists_eq_wordAtEnd before
  have read := atStart?_written (isIdentifier_iff.mpr opening.opens) blank unclosed rest
  have textEq : text =
      front ++ (wordAtEnd before ++ (gap ++ '(' :: (params ++ ')' :: rest))) := by
    conv_lhs => rw [opening.text_eq, shape]
    simp only [List.append_assoc]
  rw [textEq, first?_append, endsInWord_eq_false_iff.mpr ends, first?_of_atStart? read]
  intro early late frontEq filled outside
  refine opening.atStart?_eq_none ?_ filled ?_ (endsInWord_eq_false_iff.mp outside)
  · rw [← List.append_assoc early, ← frontEq]
    exact shape
  · rwa [frontEq, List.getLast?_append_of_ne_nil _ filled] at ends

theorem firstOpening_of_unopened (opens : OpensParameters before) (unopened : '(' ∉ before) :
    FirstOpening (before ++ '(' :: after) before after := by
  refine ⟨rfl, opens, fun earlier later elsewhere _ => ?_⟩
  by_contra shorter
  have reached : earlier ++ ['('] <+: before := by
    refine List.prefix_of_prefix_length_le ⟨later, ?_⟩ (List.prefix_append before ('(' :: after)) ?_
    · simp [elsewhere]
    · rw [List.length_append, List.length_singleton]
      omega
  exact unopened (reached.subset (by simp))

/-- A signature with a text before it that does not run into its name, and any text behind. -/
theorem parse?_written {before name gap params : String} (named : IsIdentifier name.toList)
    (blank : ∀ c ∈ gap.toList, isBlank c) (unclosed : ')' ∉ params.toList)
    (unopened : '(' ∉ before.toList) (ends : ∀ c ∈ before.toList.getLast?, isWordChar c = false)
    (after : String) :
    parse? (before ++ name ++ gap ++ "(" ++ params ++ ")" ++ after) =
      some ⟨name, Arity.ofArguments params.toList⟩ := by
  have nameUnopened : '(' ∉ name.toList := fun member =>
    absurd (named.isNameChar_of_mem member) (by decide)
  have gapUnopened : '(' ∉ gap.toList := fun member => absurd (blank _ member) (by decide)
  have opening : FirstOpening _ _ (params.toList ++ ')' :: after.toList) :=
    firstOpening_of_unopened (opensParameters_append ends named blank)
      (by simp [unopened, nameUnopened, gapUnopened])
  have textEq : (before ++ name ++ gap ++ "(" ++ params ++ ")" ++ after).toList =
      (before.toList ++ (name.toList ++ gap.toList)) ++
        '(' :: (params.toList ++ ')' :: after.toList) := by
    simp
  rw [parse?, textEq, opening.first?_eq unclosed, wordAtEnd_append ends named blank,
    String.ofList_toList]

/-- A signature that is found has a word for its name, with a closed parenthesis behind it. -/
theorem exists_of_parse? {text : String} {found : Signature} (read : parse? text = some found) :
    ∃ front gap params rest,
      text.toList = front ++ (found.name.toList ++ (gap ++ '(' :: (params ++ ')' :: rest))) ∧
        (∀ c ∈ front.getLast?, isWordChar c = false) ∧ IsIdentifier found.name.toList ∧
          ∀ c ∈ gap, isBlank c := by
  obtain ⟨front, behind, divided, outside, here⟩ := exists_of_first? read
  obtain ⟨name, gap, params, rest, rfl, named, blank, -, rfl⟩ := exists_of_atStart? here
  refine ⟨front, gap, params, rest, ?_, endsInWord_eq_false_iff.mp outside, ?_, blank⟩
  · simpa using divided
  · simpa using named

/-- The signature that a text has is that of the first parenthesis behind a name, if any such
parenthesis is closed, and its name is a whole word. -/
theorem parse?_eq_at_first_opening (text : String) :
    (∀ before after, text.toList = before ++ '(' :: after → OpensParameters before → ')' ∈ after →
      ∃ first params rest, FirstOpening text.toList first (params ++ ')' :: rest) ∧ ')' ∉ params ∧
        parse? text = some ⟨String.ofList (wordAtEnd first), Arity.ofArguments params⟩) ∧
    ((∀ before after, text.toList = before ++ '(' :: after → OpensParameters before →
      ')' ∉ after) → parse? text = none) ∧
    ∀ found, parse? text = some found →
      ∃ front back, text.toList = front ++ (found.name.toList ++ back) ∧
        IsIdentifier found.name.toList ∧ (∀ c ∈ front.getLast?, isWordChar c = false) ∧
          ∀ c ∈ back.head?, isWordChar c = false := by
  refine ⟨?found, ?absent, ?whole⟩
  case found =>
    intro before after divided opens closed
    obtain ⟨first, behind, opening, notLater⟩ := exists_firstOpening divided opens
    have behindClosed : ')' ∈ behind := by
      have longer : after <:+ behind := by
        have whole : behind <:+ text.toList := ⟨first ++ ['('], by simp [opening.text_eq]⟩
        refine List.suffix_of_suffix_length_le ⟨before ++ ['('], by simp [divided]⟩ whole ?_
        have sizes := congrArg List.length (divided.symm.trans opening.text_eq)
        rw [List.length_append, List.length_append, List.length_cons, List.length_cons] at sizes
        omega
      exact longer.subset closed
    obtain ⟨params, rest, rfl, unclosed⟩ := List.eq_append_cons_of_mem behindClosed
    exact ⟨first, params, rest, opening, unclosed, opening.first?_eq unclosed⟩
  case absent =>
    intro unclosed
    rw [Option.eq_none_iff_forall_ne_some]
    intro found read
    obtain ⟨front, gap, params, rest, divided, ends, named, blank⟩ := exists_of_parse? read
    refine unclosed (front ++ (found.name.toList ++ gap)) (params ++ ')' :: rest) ?_
      (opensParameters_append ends named blank) (by simp)
    simpa using divided
  case whole =>
    intro found read
    obtain ⟨front, gap, params, rest, divided, ends, named, blank⟩ := exists_of_parse? read
    refine ⟨front, gap ++ '(' :: (params ++ ')' :: rest), divided, named, ends, ?_⟩
    cases gap with
    | nil => simp; decide
    | cons c gap => simpa using isWordChar_eq_false_of_isBlank (blank c List.mem_cons_self)

/-- Neither a number nor the end of a longer word is a name. -/
example : parse? "3(x) äb(y) f (g(z), w)" = some ⟨"f", 1⟩ := by
  decide +kernel

end Signature

end ScriptLint
