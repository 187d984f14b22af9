import ScriptLint.Proofs.Json.WrittenText
import ScriptLint.Proofs.Text.Digits
import ScriptLint.Proofs.Text.Divisions

/-!
# Reading written values

Every value that a program makes, in whichever layout it has been written, is read as the value
that it was.  The layout puts only gaps between the parts, a number ends at the comma, gap or
bracket behind it, and the length of the text provides for all steps of the reading.
-/

namespace ScriptLint.Json

open Text

/-- A value whose strings are whole and whose numbers are natural. -/
inductive IsPlain : Json → Prop where
  | null : IsPlain null
  | bool (value : Bool) : IsPlain (bool value)
  | natural (value : Nat) : IsPlain (natural value)
  | ofString (text : String) : IsPlain (ofString text)
  | array {items : List Json} (each : ∀ item ∈ items, IsPlain item) : IsPlain (array items)
  | ofMembers {members : List (String × Json)} (each : ∀ member ∈ members, IsPlain member.2) :
      IsPlain (ofMembers members)

/-- Whether a text consists of gaps. -/
def AllGaps (chars : List Char) : Prop :=
  ∀ c ∈ chars, isGap c = true

theorem Layout.allGaps_lineBreak (layout : Layout) : AllGaps layout.lineBreak := by
  cases layout with
  | compact => simp [AllGaps, lineBreak]
  | lines depth =>
      intro c member
      simp only [lineBreak, List.mem_cons, List.mem_replicate] at member
      rcases member with rfl | ⟨-, rfl⟩ <;> decide

theorem skipGaps_append {gaps : List Char} (allGaps : AllGaps gaps) (rest : List Char) :
    skipGaps (gaps ++ rest) = skipGaps rest :=
  List.dropWhile_append_of_pos allGaps

theorem skipGaps_cons {c : Char} (notGap : isGap c = false) (rest : List Char) :
    skipGaps (c :: rest) = c :: rest :=
  List.dropWhile_cons_of_neg (by simp [notGap])

theorem readValue_append {gaps : List Char} (allGaps : AllGaps gaps) (steps : Nat)
    (rest : List Char) : readValue steps (gaps ++ rest) = readValue steps rest := by
  cases steps with
  | zero => rw [readValue, readValue]
  | succ steps => rw [readValue, readValue, skipGaps_append allGaps]

theorem readItems_append {gaps : List Char} (allGaps : AllGaps gaps) (steps : Nat)
    (rest : List Char) : readItems steps (gaps ++ rest) = readItems steps rest := by
  cases steps with
  | zero => rw [readItems, readItems]
  | succ steps => rw [readItems, readItems, readValue_append allGaps]

theorem readMembers_append {gaps : List Char} (allGaps : AllGaps gaps) (steps : Nat)
    (rest : List Char) : readMembers steps (gaps ++ rest) = readMembers steps rest := by
  cases steps with
  | zero => rw [readMembers, readMembers]
  | succ steps => rw [readMembers, readMembers, skipGaps_append allGaps]

theorem isGap_eq_false_of_isDigit {c : Char} (digit : c.isDigit = true) : isGap c = false := by
  have apart : ∀ mark : Char, mark.isDigit = false → (c == mark) = false := fun mark noDigit =>
    beq_false_of_ne (ne_of_isDigit digit noDigit)
  simp [isGap, apart]

/-- Whether a number ends where a text begins. -/
def EndsNumber (rest : List Char) : Prop :=
  ∀ c ∈ rest.head?, c.isDigit = false ∧ c ≠ '.' ∧ c ≠ 'e' ∧ c ≠ 'E'

theorem endsNumber_nil : EndsNumber [] := by
  rintro c ⟨⟩

theorem endsNumber_cons {c : Char}
    (ends : c.isDigit = false ∧ c ≠ '.' ∧ c ≠ 'e' ∧ c ≠ 'E') (rest : List Char) :
    EndsNumber (c :: rest) := by
  intro other atHead
  obtain rfl : c = other := Option.some.inj atHead
  exact ends

theorem endsNumber_of_gaps {gaps : List Char} (allGaps : AllGaps gaps) {rest : List Char}
    (ends : EndsNumber rest) : EndsNumber (gaps ++ rest) := by
  cases gaps with
  | nil => exact ends
  | cons first later =>
      have gap := allGaps first List.mem_cons_self
      simp only [isGap, Bool.or_eq_true, beq_iff_eq] at gap
      rcases gap with ((rfl | rfl) | rfl) | rfl <;> exact endsNumber_cons (by decide) _

theorem digitsValue_toDigits (n : Nat) : digitsValue (Nat.toDigits 10 n) = n := by
  have value := Nat.ofDigitChars_ten_toDigits (n := n)
  rw [Nat.ofDigitChars_eq_foldl] at value
  simpa only [digitsValue, Nat.mul_comm, Char.reduceToNat] using value

theorem readFraction_of_ends {rest : List Char} (ends : EndsNumber rest) :
    readFraction rest = some (false, rest) := by
  unfold readFraction
  split
  · exact absurd rfl (ends '.' rfl).2.1
  · rfl

theorem readExponent_of_ends {rest : List Char} (ends : EndsNumber rest) :
    readExponent rest = some (false, rest) := by
  cases rest with
  | nil => rfl
  | cons c later =>
      obtain ⟨-, -, notSmall, notLarge⟩ := ends c rfl
      simp [readExponent.eq_def, notSmall, notLarge]

theorem readDigits?_toDigits (n : Nat) {rest : List Char} (ends : EndsNumber rest) :
    readDigits? (Nat.toDigits 10 n ++ rest) = some (Nat.toDigits 10 n, rest) := by
  have stops : ∀ c ∈ rest.head?, c.isDigit = false := fun c atHead => (ends c atHead).1
  rw [readDigits?, takeWhile_append_of_stops (isDigit_of_mem_toDigits n) stops,
    dropWhile_append_of_stops (isDigit_of_mem_toDigits n) stops]
  obtain ⟨first, later, digits, -⟩ := exists_toDigits_eq_cons n
  rw [digits]

/-- The digits of a number are read as the number. -/
theorem readNumber_toDigits (n : Nat) {rest : List Char} (ends : EndsNumber rest) :
    readNumber (Nat.toDigits 10 n ++ rest) = some (natural n, rest) := by
  have unsigned : ((Nat.toDigits 10 n ++ rest).head? == some '-') = false := by
    obtain ⟨first, later, digits, digit⟩ := exists_toDigits_eq_cons n
    simpa [digits] using ne_of_isDigit digit (show '-'.isDigit = false by decide)
  rw [readNumber, unsigned]
  simp only [Bool.false_eq_true, if_false, readDigits?_toDigits n ends, Option.bind_eq_bind,
    Option.bind_some, not_superfluous_zero_toDigits, readFraction_of_ends ends,
    readExponent_of_ends ends, Bool.or_self, digitsValue_toDigits, Option.pure_def]

/-- Whether a value that has been written is read as itself, with what follows it left over. -/
def ReadsBack (value : Json) : Prop :=
  ∀ (layout : Layout) (steps : Nat) (rest : List Char), EndsNumber rest →
    (write layout value).length < steps →
      readValue steps (write layout value ++ rest) = some (value, rest)

theorem writeItems_eq_map (layout : Layout) (items : List Json) :
    writeItems layout items = items.map (write layout) := by
  induction items with
  | nil => rw [writeItems, List.map_nil]
  | cons item rest ih => rw [writeItems, List.map_cons, ih]

/-- The text of a member of an object. -/
def memberText (layout : Layout) (member : String × Json) : List Char :=
  quote member.1.toList ++ layout.colon ++ write layout member.2

theorem writeMembers_eq_map (layout : Layout) (members : List (String × Json)) :
    writeMembers layout (members.map fun member => (some member.1, member.2)) =
      members.map (memberText layout) := by
  induction members with
  | nil => rw [List.map_nil, List.map_nil, writeMembers]
  | cons member rest ih =>
      rw [List.map_cons, List.map_cons, writeMembers, ih, memberText]
      rfl

theorem exists_bracket_eq_cons (layout : Layout) (opening closing : Char)
    (items : List (List Char)) :
    ∃ later, bracket layout opening closing items = opening :: later := by
  cases items with
  | nil => exact ⟨_, rfl⟩
  | cons first rest => exact ⟨_, rfl⟩

/-- The first character of a written value is no gap and closes no list. -/
theorem exists_head_write (layout : Layout) {value : Json} (plain : IsPlain value) :
    ∃ first later, write layout value = first :: later ∧ isGap first = false ∧ first ≠ ']' := by
  cases plain with
  | null => exact ⟨'n', _, by simp [write]; rfl, by decide, by decide⟩
  | bool value =>
      cases value with
      | true => exact ⟨'t', _, by simp [write]; rfl, by decide, by decide⟩
      | false => exact ⟨'f', _, by simp [write]; rfl, by decide, by decide⟩
  | natural value =>
      obtain ⟨first, later, digits, digit⟩ := exists_toDigits_eq_cons value
      refine ⟨first, later, by rw [write, ← digits]; simp, isGap_eq_false_of_isDigit digit, ?_⟩
      exact ne_of_isDigit digit (by decide)
  | ofString text => exact ⟨'"', _, by rw [ofString, write, quote]; rfl, by decide, by decide⟩
  | @array items each =>
      obtain ⟨later, bracketEq⟩ := exists_bracket_eq_cons layout '[' ']'
        (writeItems layout.deeper items)
      exact ⟨'[', later, by rw [write, bracketEq], by decide, by decide⟩
  | @ofMembers members each =>
      obtain ⟨later, bracketEq⟩ := exists_bracket_eq_cons layout '\x7b' '\x7d'
        (members.map (memberText layout.deeper))
      exact ⟨'\x7b', later, by rw [ofMembers, write, writeMembers_eq_map, bracketEq], by decide,
        by decide⟩

/-- What stands behind the first of several items or members. -/
def followers (layout : Layout) (texts : List (List Char)) : List Char :=
  texts.flatMap fun text => ',' :: layout.lineBreak ++ text

theorem bracket_cons (layout : Layout) (opening closing : Char) (first : List Char)
    (others : List (List Char)) (rest : List Char) :
    bracket layout opening closing (first :: others) ++ rest =
      opening :: (layout.deeper.lineBreak ++ (first ++ (followers layout.deeper others ++
        (layout.lineBreak ++ closing :: rest)))) := by
  simp [bracket, followers]

/-- Items that read back one by one are read as a list. -/
theorem readItems_written (inner : Layout) {gaps : List Char} (allGaps : AllGaps gaps)
    {others : List Json} {first : Json} {steps : Nat}
    (each : ∀ item ∈ first :: others, ReadsBack item)
    (enough : (write inner first).length +
      (followers inner (others.map (write inner))).length + 1 < steps) (rest : List Char) :
    readItems steps (write inner first ++ (followers inner (others.map (write inner)) ++
      (gaps ++ ']' :: rest))) = some (first :: others, rest) := by
  induction others generalizing first steps with
  | nil =>
      obtain ⟨fewer, rfl⟩ : ∃ fewer, steps = fewer + 1 := ⟨steps - 1, by omega⟩
      have ends : EndsNumber (gaps ++ ']' :: rest) :=
        endsNumber_of_gaps allGaps (endsNumber_cons (by decide) rest)
      rw [List.map_nil, followers, List.flatMap_nil, List.nil_append, readItems,
        each first List.mem_cons_self inner fewer _ ends (by omega)]
      simp [skipGaps_append allGaps, skipGaps_cons (show isGap ']' = false by decide)]
  | cons next others ih =>
      obtain ⟨fewer, rfl⟩ : ∃ fewer, steps = fewer + 1 := ⟨steps - 1, by omega⟩
      have behind : followers inner ((next :: others).map (write inner)) =
          ',' :: (inner.lineBreak ++ (write inner next ++
            followers inner (others.map (write inner)))) := by
        simp [followers]
      rw [behind, List.length_cons, List.length_append, List.length_append] at enough
      have later := ih (fun item member => each item (List.mem_cons_of_mem first member))
        (show _ < fewer by omega)
      rw [behind, readItems, List.cons_append,
        each first List.mem_cons_self inner fewer _ (endsNumber_cons (by decide) _) (by omega)]
      simp [skipGaps_cons (show isGap ',' = false by decide),
        readItems_append inner.allGaps_lineBreak, later]

theorem memberText_append (layout : Layout) (member : String × Json) (rest : List Char) :
    memberText layout member ++ rest =
      '"' :: (member.1.toList.flatMap escapeChar ++ '"' :: (':' :: (layout.colon.tail ++
        (write layout member.2 ++ rest)))) := by
  cases layout <;> simp [memberText, quote, Layout.colon]

theorem length_write_le_memberText (layout : Layout) (member : String × Json) :
    (write layout member.2).length ≤ (memberText layout member).length := by
  rw [memberText, List.length_append]
  omega

theorem Layout.allGaps_colon_tail (layout : Layout) : AllGaps layout.colon.tail := by
  cases layout with
  | compact => simp [AllGaps, colon]
  | lines depth => simp [AllGaps, colon, isGap]

/-- Members whose values read back one by one are read as those of an object. -/
theorem readMembers_written (inner : Layout) {gaps : List Char} (allGaps : AllGaps gaps)
    {others : List (String × Json)} {first : String × Json} {steps : Nat}
    (each : ∀ member ∈ first :: others, ReadsBack member.2)
    (enough : (memberText inner first).length +
      (followers inner (others.map (memberText inner))).length + 1 < steps) (rest : List Char) :
    readMembers steps (memberText inner first ++ (followers inner (others.map (memberText inner)) ++
      (gaps ++ '\x7d' :: rest))) =
        some ((first :: others).map fun member => (some member.1, member.2), rest) := by
  have quoteStays := skipGaps_cons (show isGap '"' = false by decide)
  have colonStays := skipGaps_cons (show isGap ':' = false by decide)
  induction others generalizing first steps with
  | nil =>
      have shorter := length_write_le_memberText inner first
      obtain ⟨fewer, rfl⟩ : ∃ fewer, steps = fewer + 1 := ⟨steps - 1, by omega⟩
      have ends : EndsNumber (gaps ++ '\x7d' :: rest) :=
        endsNumber_of_gaps allGaps (endsNumber_cons (by decide) rest)
      have value := each first List.mem_cons_self inner fewer _ ends (by omega)
      rw [List.map_nil, followers, List.flatMap_nil, List.nil_append, memberText_append,
        readMembers, quoteStays]
      simp [readText_written, colonStays, readValue_append inner.allGaps_colon_tail, value,
        skipGaps_append allGaps, skipGaps_cons (show isGap '\x7d' = false by decide)]
  | cons next others ih =>
      have shorter := length_write_le_memberText inner first
      obtain ⟨fewer, rfl⟩ : ∃ fewer, steps = fewer + 1 := ⟨steps - 1, by omega⟩
      have behind : followers inner ((next :: others).map (memberText inner)) =
          ',' :: (inner.lineBreak ++ (memberText inner next ++
            followers inner (others.map (memberText inner)))) := by
        simp [followers]
      rw [behind, List.length_cons, List.length_append, List.length_append] at enough
      have later := ih (fun member inRest => each member (List.mem_cons_of_mem first inRest))
        (show _ < fewer by omega)
      have value := each first List.mem_cons_self inner fewer _
        (endsNumber_cons (c := ',') (by decide) (inner.lineBreak ++ (memberText inner next ++
          (followers inner (others.map (memberText inner)) ++ (gaps ++ '\x7d' :: rest)))))
        (by omega)
      rw [behind, memberText_append, readMembers, quoteStays]
      simp [readText_written, colonStays, readValue_append inner.allGaps_colon_tail, value,
        skipGaps_cons (show isGap ',' = false by decide),
        readMembers_append inner.allGaps_lineBreak, later]

theorem readsBack_of_succ {value : Json}
    (backs : ∀ layout fewer rest, EndsNumber rest → (write layout value).length ≤ fewer →
      readValue (fewer + 1) (write layout value ++ rest) = some (value, rest)) :
    ReadsBack value := by
  intro layout steps rest ends enough
  obtain ⟨fewer, rfl⟩ : ∃ fewer, steps = fewer + 1 := ⟨steps - 1, by omega⟩
  exact backs layout fewer rest ends (by omega)

theorem readValue_list (steps : Nat) {rest : List Char}
    (notEmpty : ∀ behind, skipGaps rest ≠ ']' :: behind) :
    readValue (steps + 1) ('[' :: rest) =
      (readItems steps rest).map fun (items, behind) => (array items, behind) := by
  rw [readValue, skipGaps_cons (by decide)]
  split <;> simp_all

theorem readValue_record (steps : Nat) {rest : List Char}
    (notEmpty : ∀ behind, skipGaps rest ≠ '\x7d' :: behind) :
    readValue (steps + 1) ('\x7b' :: rest) =
      (readMembers steps rest).map fun (members, behind) => (object members, behind) := by
  rw [readValue, skipGaps_cons (by decide)]
  split <;> simp_all

theorem readsBack_natural (value : Nat) : ReadsBack (natural value) := by
  refine readsBack_of_succ fun layout fewer rest ends enough => ?_
  have read := readNumber_toDigits value ends
  obtain ⟨first, later, digits, digit⟩ := exists_toDigits_eq_cons value
  have notMark : ∀ mark : Char, mark.isDigit = false → first ≠ mark := fun mark noDigit =>
    ne_of_isDigit digit noDigit
  rw [write, Nat.toString_eq_repr, Nat.toList_repr]
  rw [digits, List.cons_append] at read ⊢
  rw [readValue, skipGaps_cons (isGap_eq_false_of_isDigit digit)]
  split
  case h_8 => exact read
  all_goals simp_all

theorem readsBack_array {items : List Json} (plain : ∀ item ∈ items, IsPlain item)
    (each : ∀ item ∈ items, ReadsBack item) : ReadsBack (array items) := by
  refine readsBack_of_succ fun layout fewer rest ends enough => ?_
  rw [write, writeItems_eq_map] at enough ⊢
  cases items with
  | nil =>
      simp [bracket, readValue, skipGaps_cons (show isGap '[' = false by decide),
        skipGaps_cons (show isGap ']' = false by decide)]
  | cons first others =>
      rw [List.map_cons] at enough ⊢
      have lengthEq := congrArg List.length (bracket_cons layout '[' ']'
        (write layout.deeper first) (others.map (write layout.deeper)) [])
      simp only [List.append_nil, List.length_cons, List.length_append, List.length_nil]
        at lengthEq
      have read := readItems_written layout.deeper layout.allGaps_lineBreak each
        (show _ < fewer by omega) rest
      obtain ⟨head, later, headEq, notGap, notClosing⟩ :=
        exists_head_write layout.deeper (plain first List.mem_cons_self)
      rw [bracket_cons, readValue_list, readItems_append layout.deeper.allGaps_lineBreak, read]
      · rfl
      · intro behind
        rw [skipGaps_append layout.deeper.allGaps_lineBreak, headEq, List.cons_append,
          skipGaps_cons notGap]
        exact fun closes => notClosing (List.cons.inj closes).1

theorem readsBack_ofMembers {members : List (String × Json)}
    (each : ∀ member ∈ members, ReadsBack member.2) : ReadsBack (ofMembers members) := by
  refine readsBack_of_succ fun layout fewer rest ends enough => ?_
  rw [ofMembers, write, writeMembers_eq_map] at enough ⊢
  cases members with
  | nil =>
      simp [bracket, readValue, skipGaps_cons (show isGap '\x7b' = false by decide),
        skipGaps_cons (show isGap '\x7d' = false by decide)]
  | cons first others =>
      rw [List.map_cons (f := memberText layout.deeper)] at enough ⊢
      have lengthEq := congrArg List.length (bracket_cons layout '\x7b' '\x7d'
        (memberText layout.deeper first) (others.map (memberText layout.deeper)) [])
      simp only [List.append_nil, List.length_cons, List.length_append, List.length_nil]
        at lengthEq
      have read := readMembers_written layout.deeper layout.allGaps_lineBreak each
        (show _ < fewer by omega) rest
      rw [bracket_cons, readValue_record, readMembers_append layout.deeper.allGaps_lineBreak, read]
      · rfl
      · intro behind
        rw [skipGaps_append layout.deeper.allGaps_lineBreak, memberText_append,
          skipGaps_cons (by decide)]
        simp

/-- Every value that a program makes reads back. -/
theorem IsPlain.readsBack {value : Json} (plain : IsPlain value) : ReadsBack value := by
  induction plain with
  | null =>
      refine readsBack_of_succ fun layout fewer rest ends enough => ?_
      simp [write, readValue, skipGaps_cons (show isGap 'n' = false by decide), dropWord?]
  | bool value =>
      refine readsBack_of_succ fun layout fewer rest ends enough => ?_
      cases value with
      | true => simp [write, readValue, skipGaps_cons (show isGap 't' = false by decide), dropWord?]
      | false =>
          simp [write, readValue, skipGaps_cons (show isGap 'f' = false by decide), dropWord?]
  | natural value => exact readsBack_natural value
  | ofString text =>
      refine readsBack_of_succ fun layout fewer rest ends enough => ?_
      simp [Json.ofString, write, quote, readValue,
        skipGaps_cons (show isGap '"' = false by decide), readText_written]
  | array plain each => exact readsBack_array plain each
  | ofMembers plain each => exact readsBack_ofMembers each

/-- A written value that a program made is read as itself, whatever the layout. -/
theorem parse?_write {value : Json} (plain : IsPlain value) (layout : Layout) :
    parse? (String.ofList (write layout value)) = some value := by
  have read := plain.readsBack layout ((write layout value).length + 1) [] endsNumber_nil
    (Nat.lt_succ_self _)
  rw [List.append_nil] at read
  rw [parse?, String.toList_ofList]
  dsimp only
  rw [read]
  rfl

end ScriptLint.Json
