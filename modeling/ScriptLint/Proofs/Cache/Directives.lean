import ScriptLint.Proofs.Cache.Lifetimes

/-!
# The directives of a cache-control value

A `cache-control` value is a list of directives.  Its lifetime is read as the number behind the
first `max-age=`, wherever that stands, so it is the number of the `max-age` directive as long as no
directive before it has these characters in it too: at the end of a longer name, or in an argument.
-/

namespace ScriptLint

/-- A character that the name of a directive may have. -/
def isTokenChar (c : Char) : Bool :=
  c.isAlphanum || "!#$%&\x27*+-.^_\x60|~".toList.contains c

/-- A directive: a name, and perhaps an argument behind an equals sign. -/
structure Directive where
  name : List Char
  argument : Option (List Char)
  nameIsToken : name ≠ [] ∧ name.all isTokenChar = true
deriving DecidableEq

namespace Directive

open Calendar Text ValidationHeaders

def text (directive : Directive) : List Char :=
  directive.name ++ (directive.argument.map ('=' :: ·)).getD []

/-- What stands between two directives: a comma, with any number of blanks and further commas. -/
def IsSeparator (gap : List Char) : Prop :=
  ',' ∈ gap ∧ gap.all (fun c => c == ',' || isBlank c) = true

instance : DecidablePred IsSeparator := fun _ =>
  inferInstanceAs (Decidable (_ ∧ _))

/-- The texts of a list of directives. -/
inductive Lists : List Directive → List Char → Prop
  | none : Lists [] []
  | single (directive : Directive) : Lists [directive] directive.text
  | more (directive : Directive) {next : Directive} {rest : List Directive} {gap text : List Char}
      (separates : IsSeparator gap) (lists : Lists (next :: rest) text) :
      Lists (directive :: next :: rest) (directive.text ++ (gap ++ text))

def lifetimeName : List Char :=
  "max-age".toList

/-- What the number of seconds stands behind. -/
def lifetimeMark : List Char :=
  "max-age=".toList

/-- Whether a directive of another name has the characters in it that a lifetime stands behind: at
the end of its name, or in its argument. -/
def IsMistakable (directive : Directive) : Prop :=
  (lifetimeName <:+ directive.name ∧ directive.name ≠ lifetimeName ∧
      directive.argument.isSome) ∨
    lifetimeMark <:+: directive.argument.getD []

instance : DecidablePred IsMistakable := fun _ =>
  inferInstanceAs (Decidable (_ ∨ _))

variable {directive : Directive} {directives : List Directive} {value : List Char}

theorem not_mem_name_of_not_isTokenChar {c : Char} (other : isTokenChar c = false) :
    c ∉ directive.name := by
  intro member
  rw [List.all_eq_true.mp directive.nameIsToken.2 c member] at other
  cases other

theorem not_mark_infix_name : ¬lifetimeMark <:+: directive.name := by
  intro occurs
  have sign : '=' ∈ lifetimeMark := by decide
  exact not_mem_name_of_not_isTokenChar (by decide) (occurs.subset sign)

/-- The mark occurs in a directive with the name of a lifetime and in those that are taken for
one. -/
theorem eq_name_or_isMistakable (occurs : lifetimeMark <:+: directive.text) :
    directive.name = lifetimeName ∨ directive.IsMistakable := by
  have noSign : '=' ∉ directive.name := not_mem_name_of_not_isTokenChar (by decide)
  obtain ⟨front, more, textEq⟩ := occurs
  cases given : directive.argument with
  | none =>
      have inName : lifetimeMark <:+: directive.name :=
        ⟨front, more, by simpa [text, given] using textEq⟩
      exact absurd inName not_mark_infix_name
  | some argument =>
      have markEq : lifetimeMark = lifetimeName ++ ['='] := by decide
      have textIs : front ++ lifetimeName ++ '=' :: more = directive.name ++ '=' :: argument := by
        simpa [text, given, markEq] using textEq
      -- The sign of the directive is the first one: it is the mark's own, or the mark stands behind.
      by_cases signBefore : '=' ∈ front
      · obtain ⟨before, between, rfl, noSignBefore⟩ := List.eq_append_cons_of_mem signBefore
        have split : before ++ '=' :: (between ++ lifetimeName ++ '=' :: more) =
            directive.name ++ '=' :: argument := by
          simpa using textIs
        obtain ⟨-, argumentEq⟩ := eq_of_append_mark_eq noSignBefore noSign split
        refine .inr (.inr ⟨between, more, ?_⟩)
        simp [given, markEq, ← argumentEq]
      · have noSignInFront : '=' ∉ front ++ lifetimeName := by
          simp [signBefore]
          decide
        obtain ⟨nameEq, -⟩ := eq_of_append_mark_eq noSignInFront noSign textIs
        by_cases sameName : directive.name = lifetimeName
        · exact .inl sameName
        · exact .inr (.inl ⟨⟨front, nameEq⟩, sameName, by simp [given]⟩)

section Search

variable {word front rest : List Char} {c : Char}

theorem not_prefix_append_cons (absent : ¬word <:+: front) (foreign : c ∉ word)
    (rest : List Char) : ¬word <+: front ++ c :: rest := by
  rintro ⟨more, same⟩
  rcases List.append_eq_append_iff.mp same with ⟨between, rfl, -⟩ | ⟨between, rfl, behind⟩
  · exact absent (List.prefix_append word between).isInfix
  · cases between with
    | nil => exact absent (by simp)
    | cons d between =>
        obtain rfl := (List.cons.inj behind).1
        exact foreign (by simp)

/-- The search passes over a text without the word, up to a character that the word does not
have. -/
theorem behindWord?_append_cons (absent : ¬word <:+: front) (foreign : c ∉ word) :
    behindWord? word (front ++ c :: rest) = behindWord? word rest := by
  induction front with
  | nil =>
      have notFirst := not_prefix_append_cons absent foreign rest
      rw [List.nil_append] at notFirst ⊢
      rw [behindWord?, if_neg (mt List.isPrefixOf_iff_prefix.mp notFirst)]
  | cons d front ih =>
      have notFirst := not_prefix_append_cons absent foreign rest
      rw [List.cons_append] at notFirst ⊢
      rw [behindWord?, if_neg (mt List.isPrefixOf_iff_prefix.mp notFirst)]
      exact ih fun occurs => absent (occurs.trans (List.suffix_cons d front).isInfix)

theorem behindWord?_eq_none (absent : ¬word <:+: front) : behindWord? word front = .none := by
  induction front with
  | nil =>
      have written : word ≠ [] := by
        rintro rfl
        exact absent (List.infix_refl _)
      simp [behindWord?, written]
  | cons d front ih =>
      rw [behindWord?, if_neg (mt List.isPrefixOf_iff_prefix.mp (mt List.IsPrefix.isInfix absent))]
      exact ih fun occurs => absent (occurs.trans (List.suffix_cons d front).isInfix)

/-- A word that is found in a text is found there in front of anything. -/
theorem exists_behindWord?_of_infix (occurs : word <:+: front) :
    ∃ left, behindWord? word front = some left ∧
      ∀ rest, behindWord? word (front ++ rest) = some (left ++ rest) := by
  obtain ⟨before, more, rfl⟩ := occurs
  obtain ⟨left, -, found⟩ :=
    exists_behindWord?_append (List.suffix_append before word)
  refine ⟨left ++ more, found more, fun rest => ?_⟩
  rw [List.append_assoc, found, List.append_assoc]

theorem behindWord?_append_gap {gap : List Char} (absent : ¬word <:+: front) (filled : gap ≠ [])
    (foreign : ∀ c ∈ gap, c ∉ word) :
    behindWord? word (front ++ (gap ++ rest)) = behindWord? word rest := by
  induction gap generalizing front with
  | nil => exact absurd rfl filled
  | cons c gap ih =>
      rw [List.cons_append, behindWord?_append_cons absent (foreign c List.mem_cons_self)]
      cases gap with
      | nil => rfl
      | cons d gap =>
          have absentInNone : ¬word <:+: [] := fun occurs => absent (occurs.trans List.nil_infix)
          exact ih absentInNone (by simp) fun e member => foreign e (List.mem_cons_of_mem c member)

end Search

variable {gap rest : List Char}

theorem IsSeparator.comma_or_isBlank (separates : IsSeparator gap) :
    ∀ c ∈ gap, c = ',' ∨ isBlank c = true := by
  intro c member
  simpa using List.all_eq_true.mp separates.2 c member

theorem IsSeparator.not_mem_mark (separates : IsSeparator gap) :
    ∀ c ∈ gap, c ∉ lifetimeMark := by
  intro c member inMark
  have notBlank : lifetimeMark.all (fun d => d != ',' && !isBlank d) = true := by decide
  have apart := List.all_eq_true.mp notBlank c inMark
  rcases separates.comma_or_isBlank c member with rfl | blank
  · cases apart
  · simp [blank] at apart

theorem IsSeparator.ne_nil (separates : IsSeparator gap) : gap ≠ [] :=
  List.ne_nil_of_mem separates.1

theorem IsSeparator.endsDigits (separates : IsSeparator gap) (rest : List Char) :
    EndsDigits (gap ++ rest) := by
  cases gap with
  | nil => exact absurd rfl separates.ne_nil
  | cons c later =>
      apply endsDigits_cons
      rcases separates.comma_or_isBlank c List.mem_cons_self with rfl | blank
      · decide
      · by_contra digit
        rw [isBlank_eq_false_of_isDigit (by simpa using digit)] at blank
        cases blank

/-- The lifetime that a `cache-control` value gives. -/
def lifetimeOf (value : List Char) : Option Nat :=
  maxAgeOf? (String.ofList value)

/-- The lifetime at the front of what is behind the mark. -/
def lifetimeAtFront (behind : List Char) : Option Nat :=
  let digits := behind.takeWhile Char.isDigit
  if digits = [] ∨ 2 ^ 64 ≤ decimalValue digits then .none else some (decimalValue digits)

theorem lifetimeOf_eq (value : List Char) :
    lifetimeOf value = (behindWord? lifetimeMark value).bind lifetimeAtFront := by
  have toList : behindWord? "max-age=".toList (String.ofList value).toList =
      behindWord? lifetimeMark value :=
    congrArg (behindWord? lifetimeMark) String.toList_ofList
  cases found : behindWord? lifetimeMark value with
  | none =>
      rw [found] at toList
      rw [lifetimeOf, maxAgeOf?, toList, Option.bind_eq_bind, Option.bind_none, Option.bind_none]
  | some behind =>
      rw [found] at toList
      rw [lifetimeOf, maxAgeOf?_of_behind toList, Option.bind_some, lifetimeAtFront]

theorem lifetimeAtFront_append (ends : EndsDigits rest) (left : List Char) :
    lifetimeAtFront (left ++ rest) = lifetimeAtFront left := by
  simp only [lifetimeAtFront, takeWhile_append_of_endsDigits ends]

/-- Whether the mark occurs in the text of a directive. -/
def HasMark (directive : Directive) : Prop :=
  lifetimeMark <:+: directive.text

instance : DecidablePred HasMark := fun directive =>
  inferInstanceAs (Decidable (lifetimeMark <:+: directive.text))

theorem lifetimeOf_append_of_hasMark (hasMark : directive.HasMark) (ends : EndsDigits rest) :
    lifetimeOf (directive.text ++ rest) = lifetimeOf directive.text := by
  obtain ⟨left, found, foundBefore⟩ := exists_behindWord?_of_infix hasMark
  rw [lifetimeOf_eq, lifetimeOf_eq, found, foundBefore, Option.bind_some, Option.bind_some,
    lifetimeAtFront_append ends]

/-- The first directive with the mark decides, whatever stands before it and behind it. -/
theorem lifetimeOf_lists (lists : Lists directives value) :
    lifetimeOf value =
      (directives.find? HasMark).bind fun directive => lifetimeOf directive.text := by
  induction lists with
  | none => rfl
  | single directive =>
      by_cases hasMark : directive.HasMark
      · simp [hasMark]
      · simp [hasMark, lifetimeOf_eq, behindWord?_eq_none hasMark]
  | @more directive next rest gap text separates lists ih =>
      by_cases hasMark : directive.HasMark
      · rw [lifetimeOf_append_of_hasMark hasMark (separates.endsDigits text)]
        simp [hasMark]
      · rw [lifetimeOf_eq, behindWord?_append_gap hasMark separates.ne_nil separates.not_mem_mark,
          ← lifetimeOf_eq, ih]
        simp [hasMark]

/-- Whether a directive is the one for the lifetime, with a number of seconds that may have zeros in
front. -/
def GivesLifetime (directive : Directive) (seconds : Nat) : Prop :=
  directive.name = lifetimeName ∧ ∃ digits ∈ directive.argument,
    digits ≠ [] ∧ digits.all Char.isDigit = true ∧ decimalValue digits = seconds

variable {seconds : Nat}

theorem GivesLifetime.text_eq (gives : directive.GivesLifetime seconds) :
    ∃ digits, directive.text = lifetimeMark ++ digits ∧ digits ≠ [] ∧
      (∀ c ∈ digits, c.isDigit = true) ∧ decimalValue digits = seconds := by
  obtain ⟨nameEq, digits, argumentEq, filled, allDigits, valueEq⟩ := gives
  have markEq : lifetimeMark = lifetimeName ++ ['='] := by decide
  refine ⟨digits, ?_, filled, List.all_eq_true.mp allDigits, valueEq⟩
  rw [text, nameEq, Option.mem_def.mp argumentEq, markEq]
  simp

theorem GivesLifetime.hasMark (gives : directive.GivesLifetime seconds) : directive.HasMark := by
  obtain ⟨digits, textEq, -⟩ := gives.text_eq
  rw [HasMark, textEq]
  exact (List.prefix_append lifetimeMark digits).isInfix

theorem GivesLifetime.lifetimeOf_text (gives : directive.GivesLifetime seconds)
    (small : seconds < 2 ^ 64) : lifetimeOf directive.text = some seconds := by
  obtain ⟨digits, textEq, filled, allDigits, rfl⟩ := gives.text_eq
  have written : lifetimeMark ≠ [] := by decide
  have whole : digits.takeWhile Char.isDigit = digits := List.takeWhile_eq_self_iff.mpr allDigits
  rw [lifetimeOf_eq, textEq, behindWord?_append written, Option.bind_some, lifetimeAtFront, whole,
    if_neg]
  simp only [filled, false_or]
  omega

theorem not_hasMark (otherName : directive.name ≠ lifetimeName)
    (notMistaken : ¬directive.IsMistakable) : ¬directive.HasMark := by
  intro hasMark
  rcases eq_name_or_isMistakable hasMark with sameName | mistakable
  · exact otherName sameName
  · exact notMistaken mistakable

/-- If no other directive is taken for it, the directive with the lifetime decides. -/
theorem lifetimeOf_of_givesLifetime (lists : Lists directives value)
    (member : directive ∈ directives) (gives : directive.GivesLifetime seconds)
    (small : seconds < 2 ^ 64)
    (others : ∀ other ∈ directives,
      other = directive ∨ other.name ≠ lifetimeName ∧ ¬other.IsMistakable) :
    lifetimeOf value = some seconds := by
  have found : directives.find? HasMark = some directive := by
    cases first : directives.find? HasMark with
    | none =>
        have unmarked := List.find?_eq_none.mp first directive member
        simp [gives.hasMark] at unmarked
    | some other =>
        have hasMark : other.HasMark := by simpa using List.find?_some first
        rcases others other (List.mem_of_find?_eq_some first) with rfl | ⟨otherName, notMistaken⟩
        · rfl
        · exact absurd hasMark (not_hasMark otherName notMistaken)
  rw [lifetimeOf_lists lists, found, Option.bind_some, gives.lifetimeOf_text small]

end Directive

open Directive

/-- The lifetime of a list of directives is that of the first one in which `max-age=` occurs.  This
is the `max-age` directive, wherever it stands among the others, if no other directive is mistakable
for it, and without a `max-age` directive there is then no lifetime. -/
theorem maxAge?_of_directives (headers : ValidationHeaders) {directives : List Directive}
    {value : List Char} (lists : Lists directives value) :
    let read := fun value : List Char =>
      { headers with cacheControl := some (String.ofList value) }.maxAge?
    read value = (directives.find? HasMark).bind (fun directive => read directive.text) ∧
      (∀ directive ∈ directives, ∀ seconds < 2 ^ 64, directive.GivesLifetime seconds →
        (∀ other ∈ directives,
          other = directive ∨ other.name ≠ lifetimeName ∧ ¬other.IsMistakable) →
        ∀ reordered text, reordered.Perm directives → Lists reordered text →
          read text = some seconds) ∧
      ((∀ directive ∈ directives, directive.name ≠ lifetimeName ∧ ¬directive.IsMistakable) →
        read value = none) := by
  refine ⟨lifetimeOf_lists lists, ?_, ?_⟩
  · intro directive member seconds small gives others reordered text reorders listsReordered
    apply lifetimeOf_of_givesLifetime listsReordered (reorders.mem_iff.mpr member) gives small
    exact fun other otherMem => others other (reorders.mem_iff.mp otherMem)
  · intro noneNamed
    have unmarked : directives.find? HasMark = none := by
      apply List.find?_eq_none.mpr
      intro directive member
      simpa using not_hasMark (noneNamed directive member).1 (noneNamed directive member).2
    refine (lifetimeOf_lists lists).trans ?_
    rw [unmarked, Option.bind_none]

theorem maxAge?_of_directives_amongOthers :
    let forAll : Directive := ⟨"public".toList, none, by decide⟩
    let shared : Directive := ⟨"s-maxage".toList, some "5".toList, by decide⟩
    let lifetime : Directive := ⟨"max-age".toList, some "0600".toList, by decide⟩
    Lists [forAll, shared, lifetime] "public , s-maxage=5,max-age=0600".toList ∧
      lifetime.GivesLifetime 600 ∧
      { ValidationHeaders.none with
        cacheControl := some "public , s-maxage=5,max-age=0600" }.maxAge? = some 600 ∧
      { ValidationHeaders.none with
        cacheControl := some "max-age=0600, public,,s-maxage=5" }.maxAge? = some 600 := by
  intro forAll shared lifetime
  have lists : Lists [forAll, shared, lifetime] "public , s-maxage=5,max-age=0600".toList :=
    .more forAll (by decide : IsSeparator " , ".toList)
      (.more shared (by decide : IsSeparator ",".toList) (.single lifetime))
  have listsReordered : Lists [lifetime, forAll, shared]
      "max-age=0600, public,,s-maxage=5".toList :=
    .more lifetime (by decide : IsSeparator ", ".toList)
      (.more forAll (by decide : IsSeparator ",,".toList) (.single shared))
  have gives : lifetime.GivesLifetime 600 :=
    ⟨rfl, "0600".toList, rfl, by decide, by decide, by decide⟩
  have others : ∀ other ∈ [forAll, shared, lifetime],
      other = lifetime ∨ other.name ≠ lifetimeName ∧ ¬other.IsMistakable := by
    decide
  have reads := (maxAge?_of_directives .none lists).2.1 lifetime (by simp) 600 (by decide) gives
    others
  refine ⟨lists, gives, ?_, ?_⟩
  · simpa using reads _ _ (.refl _) lists
  · have reorders : ([lifetime] ++ [forAll, shared]).Perm ([forAll, shared] ++ [lifetime]) :=
      List.perm_append_comm
    simpa using reads _ _ reorders listsReordered

/-- A directive whose name goes on before `max-age` is taken for the lifetime: if it stands before
the `max-age` directive, and if there is none. -/
theorem longer_name_is_taken_for_lifetime :
    let extension : Directive := ⟨"x-max-age".toList, some "5".toList, by decide⟩
    let lifetime : Directive := ⟨"max-age".toList, some "600".toList, by decide⟩
    let read := fun value : String =>
      { ValidationHeaders.none with cacheControl := some value }.maxAge?
    (Lists [extension, lifetime] "x-max-age=5, max-age=600".toList ∧
        lifetime.GivesLifetime 600 ∧ extension.name ≠ lifetimeName ∧
        read "x-max-age=5, max-age=600" = some 5) ∧
      Lists [lifetime, extension] "max-age=600, x-max-age=5".toList ∧
        read "max-age=600, x-max-age=5" = some 600 ∧
      Lists [extension] "x-max-age=5".toList ∧ read "x-max-age=5" = some 5 := by
  intro extension lifetime read
  have separates : IsSeparator ", ".toList := by decide
  refine ⟨⟨.more extension separates (.single lifetime), ?_, by decide, by decide +kernel⟩,
    .more lifetime separates (.single extension), by decide +kernel, .single extension,
    by decide +kernel⟩
  exact ⟨rfl, "600".toList, rfl, by decide, by decide, by decide⟩

end ScriptLint
