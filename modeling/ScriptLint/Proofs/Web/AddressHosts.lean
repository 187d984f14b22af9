import ScriptLint.Proofs.Text.Divisions
import ScriptLint.Web.Address

/-!
# Hosts of addresses below a base

An address is put together from a base, a slash and the name of a page.  Its host is read behind
all slashes that follow the scheme.  So the base gives the host if it has anything else there, and
otherwise the page is taken for the host.
-/

namespace ScriptLint.WebAddress

open Text

/-- The scheme of an address of the web, with its colon. -/
def schemeChars (isSecure : Bool) : List Char :=
  if isSecure then "https:".toList else "http:".toList

/-- Whether a character between a scheme and a host is dropped or read as a slash. -/
def isPassedOver (c : Char) : Bool :=
  isSlash c || c == '\t' || c == '\n' || c == '\r'

/-- Whether a character is kept when an address is tidied. -/
def isKept (c : Char) : Bool :=
  c != '\t' && c != '\n' && c != '\r'

/-- A name that can stand for a page or a host: it is not empty, and no character of it is blank
or a slash. -/
structure IsName (name : List Char) : Prop where
  filled : name ≠ []
  visible : ∀ c ∈ name, 0x20 < c.toNat ∧ isSlash c = false

variable {isSecure : Bool} {more first second name : List Char}

theorem isKept_of_visible {c : Char} (visible : 0x20 < c.toNat) : isKept c := by
  simp only [isKept, Bool.and_eq_true, bne_iff_ne, ne_eq]
  refine ⟨⟨?_, ?_⟩, ?_⟩ <;>
    · rintro rfl
      revert visible
      decide

theorem IsName.filter_isKept (named : IsName name) : name.filter isKept = name := by
  rw [List.filter_eq_self]
  exact fun c member => isKept_of_visible (named.visible c member).1

/-- A text that begins and ends with visible characters only loses tabs and line ends. -/
theorem tidy_eq_filter {chars : List Char} (begins : ∀ c ∈ chars.head?, 0x20 < c.toNat)
    (ends : ∀ c ∈ chars.getLast?, 0x20 < c.toNat) : tidy chars = chars.filter isKept := by
  have front : chars.dropWhile (fun c => c.toNat ≤ 0x20) = chars :=
    dropWhile_eq_self_of_stops fun c member => by simpa using begins c member
  have back : chars.reverse.dropWhile (fun c => c.toNat ≤ 0x20) = chars.reverse :=
    dropWhile_eq_self_of_stops fun c member => by simpa using ends c (by simpa using member)
  simp only [tidy, front, back, List.reverse_reverse]
  rfl

theorem scheme?_schemeChars (isSecure : Bool) (rest : List Char) :
    scheme? (schemeChars isSecure ++ rest) =
      some (if isSecure then "https" else "http", rest) := by
  cases isSecure <;> rfl

/-- What is read behind the scheme of an address below a base. -/
theorem ofText?_below (isSecure : Bool) (more : List Char) (named : IsName name) :
    ofText? (String.ofList (schemeChars isSecure ++ (more ++ '/' :: name))) =
      ofHost? isSecure ((more.filter isKept ++ '/' :: name).dropWhile isSlash) := by
  have begins : ∀ c ∈ (schemeChars isSecure ++ (more ++ '/' :: name)).head?, 0x20 < c.toNat := by
    cases isSecure <;>
      · rintro c ⟨⟩
        decide
  have ends : ∀ c ∈ (schemeChars isSecure ++ (more ++ '/' :: name)).getLast?, 0x20 < c.toNat := by
    intro c member
    rw [← List.append_assoc, List.append_cons, List.getLast?_append,
      List.getLast?_eq_some_getLast named.filled, Option.some_or] at member
    obtain rfl := Option.some.inj member
    exact (named.visible _ (List.getLast_mem named.filled)).1
  have schemeKept : (schemeChars isSecure).filter isKept = schemeChars isSecure := by
    cases isSecure <;> rfl
  have slashKept : isKept '/' := by decide
  rw [ofText?, String.toList_ofList, tidy_eq_filter begins ends, List.filter_append, schemeKept,
    List.filter_append, List.filter_cons_of_pos slashKept, named.filter_isKept,
    scheme?_schemeChars]
  cases isSecure <;> simp [ofScheme?]

/-- Where nothing else stands behind the scheme, the page is taken for the host. -/
theorem ofText?_below_of_passedOver (passed : ∀ c ∈ more, isPassedOver c) (named : IsName name) :
    ofText? (String.ofList (schemeChars isSecure ++ (more ++ '/' :: name))) =
      ofHost? isSecure name := by
  have slashes : ∀ c ∈ more.filter isKept, isSlash c := by
    intro c member
    obtain ⟨member, kept⟩ := List.mem_filter.mp member
    have either := passed c member
    simp only [isPassedOver, isKept, Bool.or_eq_true, Bool.and_eq_true, beq_iff_eq, bne_iff_ne]
      at either kept
    tauto
  have nameStops : ∀ c ∈ name.head?, isSlash c = false :=
    fun c member => (named.visible c (List.mem_of_mem_head? member)).2
  rw [ofText?_below isSecure more named, List.append_cons]
  congr 1
  apply dropWhile_append_of_stops _ nameStops
  intro c member
  rcases List.mem_append.mp member with inMore | slash
  · exact slashes c inMore
  · rw [List.mem_singleton.mp slash]
    decide

theorem host_withTarget (address : WebAddress) (segments : List String) (chars : List Char) :
    (withTarget address segments chars).host = address.host :=
  rfl

/-- The host depends only on what stands before the next slash, question mark or number sign. -/
theorem host_ofHost?_congr
    (same : first.takeWhile (fun c => !(isSlash c || c == '?' || c == '#')) =
      second.takeWhile (fun c => !(isSlash c || c == '?' || c == '#'))) :
    (ofHost? isSecure first).map host = (ofHost? isSecure second).map host := by
  have hostOfParts (place : Option String) (number : Option (Option Nat)) (path : List Char) :
      (do
        let host ← place
        let number ← number
        return withTarget ⟨isSecure, host, number, [], none, none⟩ [] path).map host =
        place.bind fun host => number.map fun _ => host := by
    cases place <;> cases number <;> simp [host_withTarget]
  simp only [ofHost?, same]
  exact (hostOfParts _ _ _).trans (hostOfParts _ _ _).symm

/-- Where something else stands behind the scheme, the host is the same for every page. -/
theorem host_below_eq (given : ∃ c ∈ more, isPassedOver c = false) (firstNamed : IsName first)
    (secondNamed : IsName second) :
    (ofText? (String.ofList (schemeChars isSecure ++ (more ++ '/' :: first)))).map host =
      (ofText? (String.ofList (schemeChars isSecure ++ (more ++ '/' :: second)))).map host := by
  obtain ⟨c, member, unpassed⟩ := given
  have filled : (more.filter isKept).dropWhile isSlash ≠ [] := by
    simp only [isPassedOver, Bool.or_eq_false_iff, beq_eq_false_iff_ne] at unpassed
    rw [Ne, List.dropWhile_eq_nil_iff]
    intro slashes
    have slash := slashes c (List.mem_filter.mpr ⟨member, by simp [isKept, unpassed]⟩)
    simp [unpassed] at slash
  have goesOn (name : List Char) :
      (more.filter isKept ++ '/' :: name).dropWhile isSlash =
        (more.filter isKept).dropWhile isSlash ++ '/' :: name := by
    rw [List.dropWhile_append, if_neg (by simpa [List.isEmpty_iff] using filled)]
  rw [ofText?_below isSecure more firstNamed, ofText?_below isSecure more secondNamed, goesOn,
    goesOn]
  apply host_ofHost?_congr
  rw [List.takeWhile_append, List.takeWhile_append]
  split <;> simp [isSlash]

end ScriptLint.WebAddress
