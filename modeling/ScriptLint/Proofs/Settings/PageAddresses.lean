import ScriptLint.Proofs.Web.AddressHosts
import ScriptLint.Registry
import ScriptLint.Settings.Decoder
import ScriptLint.Web.Site

/-!
# Page addresses of accepted settings

Settings are accepted by what their base address is without the blanks around it, and pages are
asked for below the base as it stands, without the slashes at its end.  Hence an accepted base may
begin with a blank, and it may have nothing but slashes behind its scheme, in which case the scheme
loses its slashes and the page is taken for the host.  Every other accepted base begins with its
scheme and goes on behind it.
-/

namespace ScriptLint

open Text WebAddress

namespace Site

/-- A base without the slashes at its end. -/
structure IsStemOf (stem base : String) : Prop where
  exists_slashes : ∃ slashes : String, base = stem ++ slashes ∧ ∀ c ∈ slashes.toList, c = '/'
  getLast?_ne : stem.toList.getLast? ≠ some '/'

variable {stem base : String}

theorem IsStemOf.toList_eq (isStem : IsStemOf stem base) :
    (base.toList.reverse.dropWhile (· == '/')).reverse = stem.toList := by
  obtain ⟨⟨slashes, rfl, allSlashes⟩, ends⟩ := isStem
  have run : ∀ c ∈ slashes.toList.reverse, (c == '/') = true := by
    intro c member
    rw [allSlashes c (List.mem_reverse.mp member)]
    rfl
  have stops : ∀ c ∈ stem.toList.reverse.head?, (c == '/') = false := by
    intro c member
    rw [List.head?_reverse] at member
    rw [beq_eq_false_iff_ne]
    rintro rfl
    exact ends member
  rw [String.toList_append, List.reverse_append, dropWhile_append_of_stops run stops,
    List.reverse_reverse]

theorem exists_isStemOf (base : String) : ∃ stem, IsStemOf stem base := by
  have division := List.takeWhile_append_dropWhile (p := (· == '/')) (l := base.toList.reverse)
  refine ⟨String.ofList (base.toList.reverse.dropWhile (· == '/')).reverse,
    ⟨String.ofList (base.toList.reverse.takeWhile (· == '/')).reverse, ?_, ?_⟩, ?_⟩
  · rw [← String.ofList_append, ← List.reverse_append, division, List.reverse_reverse,
      String.ofList_toList]
  · intro c member
    rw [String.toList_ofList, List.mem_reverse] at member
    simpa using List.mem_takeWhile_imp member
  · rw [String.toList_ofList, List.getLast?_reverse]
    intro slash
    have stops := List.head?_dropWhile_not (· == '/') base.toList.reverse
    rw [slash] at stops
    cases stops

theorem IsStemOf.unique {other : String} (isStem : IsStemOf stem base)
    (otherIsStem : IsStemOf other base) : stem = other :=
  String.toList_injective (isStem.toList_eq.symm.trans otherIsStem.toList_eq)

/-- A stem may have something in front of it, and so may nothing if that does not end in a slash. -/
theorem IsStemOf.append (isStem : IsStemOf stem base) (front : String)
    (separate : stem ≠ "" ∨ front.toList.getLast? ≠ some '/') :
    IsStemOf (front ++ stem) (front ++ base) := by
  obtain ⟨⟨slashes, rfl, allSlashes⟩, ends⟩ := isStem
  refine ⟨⟨slashes, (String.append_assoc ..).symm, allSlashes⟩, ?_⟩
  rw [String.toList_append, List.getLast?_append]
  cases last : stem.toList.getLast? with
  | some c => rwa [← last, last, Option.some_or, ← last]
  | none =>
      have nothing : stem = "" := String.toList_eq_nil_iff.mp (List.getLast?_eq_none_iff.mp last)
      rw [Option.none_or]
      exact separate.resolve_left (not_not.mpr nothing)

theorem IsStemOf.joinUrl_eq (isStem : IsStemOf stem base) (page : String) :
    joinUrl base page = stem ++ "/" ++ page := by
  rw [joinUrl, isStem.toList_eq, String.ofList_toList]

end Site

namespace WebAddress

/-- How an address of the web begins. -/
def beginning (isSecure : Bool) : String :=
  if isSecure then "https://" else "http://"

/-- An address that begins with a scheme and has something behind it. -/
def GoesOnBehindScheme (address : String) : Prop :=
  ∃ isSecure rest, address = beginning isSecure ++ rest ∧ rest ≠ ""

/-- An address that has nothing but slashes behind its scheme. -/
def IsBareScheme (address : String) : Prop :=
  ∃ isSecure slashes, address = beginning isSecure ++ slashes ∧ ∀ c ∈ slashes.toList, c = '/'

theorem beginning_append_inj {isSecure otherSecure : Bool} {rest otherRest : String}
    (same : beginning isSecure ++ rest = beginning otherSecure ++ otherRest) :
    isSecure = otherSecure ∧ rest = otherRest := by
  have sameChars := congrArg String.toList same
  rw [String.toList_append, String.toList_append] at sameChars
  cases isSecure <;> cases otherSecure <;> simp [beginning] at sameChars <;>
    exact ⟨rfl, String.toList_injective sameChars⟩

theorem head?_beginning_append (isSecure : Bool) (rest : String) :
    (beginning isSecure ++ rest).toList.head? = some 'h' := by
  rw [String.toList_append]
  cases isSecure <;> rfl

/-- A stem goes on behind its scheme if the base does not begin with a blank and is not bare. -/
theorem goesOnBehindScheme_iff {stem base lead rest : String} {isSecure : Bool}
    (isStem : Site.IsStemOf stem base) (baseEq : base = lead ++ (beginning isSecure ++ rest))
    (blank : ∀ c ∈ lead.toList, isBlank c) :
    GoesOnBehindScheme stem ↔
      (∀ c ∈ base.toList.head?, isBlank c = false) ∧ ¬ IsBareScheme base := by
  constructor
  · rintro ⟨stemSecure, behind, rfl, filled⟩
    obtain ⟨⟨slashes, rfl, allSlashes⟩, ends⟩ := isStem
    rw [String.append_assoc, head?_beginning_append]
    refine ⟨?_, ?_⟩
    · rintro c ⟨⟩
      decide
    · rintro ⟨bareSecure, bareSlashes, same, bareAllSlashes⟩
      obtain ⟨-, rfl⟩ := beginning_append_inj same
      -- The last character behind the scheme would be a slash of the stem.
      obtain ⟨front, last, behindEq⟩ := (List.eq_nil_or_concat behind.toList).resolve_left
        fun nothing => filled (String.toList_eq_nil_iff.mp nothing)
      rw [List.concat_eq_append] at behindEq
      have lastSlash : last = '/' := bareAllSlashes last (by simp [behindEq])
      apply ends
      rw [String.toList_append, behindEq, lastSlash, ← List.append_assoc, List.getLast?_concat]
  · rintro ⟨unblank, notBare⟩
    have leadEmpty : lead = "" := by
      by_contra filled
      obtain ⟨c, more, leadEq⟩ := List.exists_cons_of_ne_nil
        fun nothing => filled (String.toList_eq_nil_iff.mp nothing)
      have cBlank := blank c (by simp [leadEq])
      rw [unblank c (by simp [baseEq, leadEq])] at cBlank
      cases cBlank
    rw [leadEmpty, String.empty_append] at baseEq
    obtain ⟨restStem, restIsStem⟩ := Site.exists_isStemOf rest
    have filled : restStem ≠ "" := by
      rintro rfl
      obtain ⟨⟨slashes, restEq, allSlashes⟩, -⟩ := restIsStem
      rw [String.empty_append] at restEq
      exact notBare ⟨isSecure, slashes, restEq ▸ baseEq, allSlashes⟩
    have whole := restIsStem.append (beginning isSecure) (Or.inl filled)
    rw [← baseEq] at whole
    exact ⟨isSecure, restStem, isStem.unique whole, filled⟩

/-- The host that is asked for a page below a base, if the address of the page can be read. -/
def hostBelow? (base page : String) : Option String :=
  (ofText? (Site.joinUrl base page)).map host

theorem isName_page (trackedClass : TrackedClass) : IsName trackedClass.page.toList := by
  cases trackedClass <;> constructor <;> simp [TrackedClass.page, TrackedClass.name, isSlash]

section

variable {more rest : String}

theorem joinUrl_beginning_append (isStem : Site.IsStemOf more ("//" ++ rest)) (isSecure : Bool)
    (page : String) :
    Site.joinUrl (beginning isSecure ++ rest) page =
      String.ofList (schemeChars isSecure ++ (more.toList ++ '/' :: page.toList)) := by
  have endsInColon : (String.ofList (schemeChars isSecure)).toList.getLast? ≠ some '/' := by
    cases isSecure <;> decide
  have whole := isStem.append (String.ofList (schemeChars isSecure)) (Or.inr endsInColon)
  have baseEq : String.ofList (schemeChars isSecure) ++ ("//" ++ rest) =
      beginning isSecure ++ rest := by
    rw [← String.append_assoc]
    cases isSecure <;> rfl
  rw [← baseEq, whole.joinUrl_eq]
  apply String.toList_injective
  simp

/-- What is passed over in a stem is passed over with the slashes around it. -/
theorem exists_isPassedOver_eq_false_iff (isStem : Site.IsStemOf more ("//" ++ rest)) :
    (∃ c ∈ more.toList, isPassedOver c = false) ↔ ∃ c ∈ rest.toList, isPassedOver c = false := by
  obtain ⟨slashes, sameText, allSlashes⟩ := isStem.exists_slashes
  have sameChars := congrArg String.toList sameText
  rw [String.toList_append, String.toList_append] at sameChars
  have notSlash {c : Char} (unpassed : isPassedOver c = false) : c ≠ '/' := by
    rintro rfl
    revert unpassed
    decide
  constructor
  · rintro ⟨c, member, unpassed⟩
    have inWhole : c ∈ "//".toList ++ rest.toList :=
      sameChars ▸ List.mem_append_left slashes.toList member
    exact ⟨c, by simpa [notSlash unpassed] using inWhole, unpassed⟩
  · rintro ⟨c, member, unpassed⟩
    have inWhole : c ∈ more.toList ++ slashes.toList :=
      sameChars ▸ List.mem_append_right "//".toList member
    rcases List.mem_append.mp inWhole with inMore | inSlashes
    · exact ⟨c, inMore, unpassed⟩
    · exact absurd (allSlashes c inSlashes) (notSlash unpassed)

/-- The host is the same for all pages if something behind the scheme of the base can be one. -/
theorem hostBelow?_eq_iff (isSecure : Bool) (rest : String) :
    (∀ first second : TrackedClass, hostBelow? (beginning isSecure ++ rest) first.page =
        hostBelow? (beginning isSecure ++ rest) second.page) ↔
      ∃ c ∈ rest.toList, isPassedOver c = false := by
  obtain ⟨more, isStem⟩ := Site.exists_isStemOf ("//" ++ rest)
  have address := joinUrl_beginning_append isStem isSecure
  rw [← exists_isPassedOver_eq_false_iff isStem]
  constructor
  · intro same
    by_contra allPassed
    have passed : ∀ c ∈ more.toList, isPassedOver c := by
      simpa using allPassed
    -- Without a host of its own the base leaves two pages to be two hosts.
    have differ := same .news .goal
    rw [hostBelow?, hostBelow?, address, address,
      ofText?_below_of_passedOver passed (isName_page .news),
      ofText?_below_of_passedOver passed (isName_page .goal)] at differ
    revert differ
    cases isSecure <;> decide +kernel
  · intro given first second
    rw [hostBelow?, hostBelow?, address, address]
    exact host_below_eq given (isName_page first) (isName_page second)

end

end WebAddress

namespace Settings

variable {text : String} {settings : Settings}

theorem isWebAddress_of_accepted (accepted : ofText text = .ok settings) :
    isWebAddress (trimString settings.baseUrl) := by
  rw [ofText] at accepted
  split at accepted
  · cases accepted
  · split at accepted
    · cases accepted
    next faultless =>
      cases accepted
      by_contra foreign
      simp only [fault?] at faultless
      split at faultless
      · cases faultless
      · rw [if_pos (by simpa using foreign)] at faultless
        cases faultless

/-- An accepted base begins with a scheme behind some blanks. -/
theorem exists_beginning (web : isWebAddress (trimString settings.baseUrl)) :
    ∃ lead isSecure rest, settings.baseUrl = lead ++ (beginning isSecure ++ rest) ∧
      ∀ c ∈ lead.toList, isBlank c := by
  have begins : ∃ isSecure, (beginning isSecure).toList <+: trim settings.baseUrl.toList := by
    have chars : (trimString settings.baseUrl).toList = trim settings.baseUrl.toList :=
      String.toList_ofList
    rw [isWebAddress, Bool.or_eq_true, String.startsWith_string_iff, String.startsWith_string_iff,
      chars] at web
    rcases web with plain | secure
    · exact ⟨false, plain⟩
    · exact ⟨true, secure⟩
  obtain ⟨isSecure, rest, trimmed⟩ := begins
  have front := List.takeWhile_append_dropWhile (p := isBlank) (l := settings.baseUrl.toList)
  have back := List.takeWhile_append_dropWhile (p := isBlank)
    (l := (trimStart settings.baseUrl.toList).reverse)
  have backward := congrArg List.reverse back
  rw [List.reverse_append, List.reverse_reverse] at backward
  refine ⟨String.ofList (settings.baseUrl.toList.takeWhile isBlank), isSecure,
    String.ofList (rest ++ ((trimStart settings.baseUrl.toList).reverse.takeWhile isBlank).reverse),
    ?_, fun c member => List.mem_takeWhile_imp (by simpa using member)⟩
  apply String.toList_injective
  rw [String.toList_append, String.toList_append, String.toList_ofList, String.toList_ofList,
    ← List.append_assoc _ rest, trimmed, trim, trimEnd, backward, trimStart, front]

/-- The address of a page below the base of accepted settings is the base without the slashes at its
end, a slash and the page; so it does not matter how many slashes there are.  The base then begins
with its scheme and goes on behind it unless it begins with a blank or has only slashes behind the
scheme.  The page is not taken for the host where the base has a character behind its scheme that is
neither dropped nor read as a slash. -/
theorem page_addresses_of_accepted (accepted : ofText text = .ok settings) :
    ∃ stem, Site.IsStemOf stem settings.baseUrl ∧
      (∀ (network : Network) (trackedClass : TrackedClass),
        (network.site settings.baseUrl).url trackedClass.page =
          stem ++ "/" ++ trackedClass.page) ∧
      (∀ (otherText : String) (other : Settings), ofText otherText = .ok other →
        Site.IsStemOf stem other.baseUrl →
          ∀ (network : Network) (trackedClass : TrackedClass),
            (network.site other.baseUrl).url trackedClass.page =
              (network.site settings.baseUrl).url trackedClass.page) ∧
      (GoesOnBehindScheme stem ↔ (∀ c ∈ settings.baseUrl.toList.head?, isBlank c = false) ∧
        ¬ IsBareScheme settings.baseUrl) ∧
      ∀ isSecure rest, settings.baseUrl = beginning isSecure ++ rest →
        ((∀ first second : TrackedClass, hostBelow? settings.baseUrl first.page =
            hostBelow? settings.baseUrl second.page) ↔
          ∃ c ∈ rest.toList, isPassedOver c = false) := by
  obtain ⟨stem, isStem⟩ := Site.exists_isStemOf settings.baseUrl
  obtain ⟨lead, isSecure, rest, baseEq, blank⟩ :=
    exists_beginning (isWebAddress_of_accepted accepted)
  have url (network : Network) (trackedClass : TrackedClass) :
      (network.site settings.baseUrl).url trackedClass.page = stem ++ "/" ++ trackedClass.page :=
    isStem.joinUrl_eq trackedClass.page
  refine ⟨stem, isStem, url, ?_, goesOnBehindScheme_iff isStem baseEq blank, ?_⟩
  · intro otherText other _ otherIsStem network trackedClass
    rw [url]
    exact otherIsStem.joinUrl_eq trackedClass.page
  · intro isSecure rest baseEq
    rw [baseEq]
    exact hostBelow?_eq_iff isSecure rest

theorem exists_accepted (text base : String)
    (loads : (ofText text).toOption.map Settings.baseUrl = some base) :
    ∃ settings, ofText text = .ok settings ∧ settings.baseUrl = base := by
  cases loaded : ofText text with
  | error failure => simp [loaded, Except.toOption] at loads
  | ok settings => exact ⟨settings, rfl, by simpa [loaded, Except.toOption] using loads⟩

/-- Settings of a mirror, whose base ends in a blank and two slashes. -/
theorem page_addresses_of_accepted_mirror :
    ∃ settings, ofText "[docs]\nbase_url = \"https://mirror/gs //\"\n" = .ok settings ∧
      ∃ stem, Site.IsStemOf stem settings.baseUrl ∧ GoesOnBehindScheme stem ∧
        (∀ (network : Network) (trackedClass : TrackedClass),
          (network.site settings.baseUrl).url trackedClass.page =
            stem ++ "/" ++ trackedClass.page) ∧
        ∀ first second : TrackedClass,
          hostBelow? settings.baseUrl first.page = hostBelow? settings.baseUrl second.page := by
  obtain ⟨settings, accepted, baseEq⟩ := exists_accepted
    "[docs]\nbase_url = \"https://mirror/gs //\"\n" "https://mirror/gs //" (by decide +kernel)
  obtain ⟨stem, isStem, url, -, goesOn, hosts⟩ := page_addresses_of_accepted accepted
  refine ⟨settings, accepted, stem, isStem, goesOn.mpr ⟨?_, ?_⟩, url, ?_⟩
  · rw [baseEq]
    rintro c ⟨⟩
    decide
  · rintro ⟨isSecure, slashes, same, allSlashes⟩
    have sameBase : beginning true ++ "mirror/gs //" = beginning isSecure ++ slashes :=
      baseEq.symm.trans same
    obtain ⟨-, rfl⟩ := beginning_append_inj sameBase
    have slash := allSlashes 'm' (by decide)
    revert slash
    decide
  · exact (hosts true "mirror/gs //" baseEq).mpr ⟨'m', by decide, by decide⟩

/-- A base that is all scheme is accepted, and then the page is taken for the host. -/
theorem bare_scheme_is_accepted :
    ∃ settings, ofText "[docs]\nbase_url = \"http://\"\n" = .ok settings ∧
      Site.IsStemOf "http:" settings.baseUrl ∧ ¬ GoesOnBehindScheme "http:" ∧
      (∀ network : Network, (network.site settings.baseUrl).url TrackedClass.goal.page =
        "http:/classGSGoal.html") ∧
      hostBelow? settings.baseUrl TrackedClass.goal.page = some "classgsgoal.html" := by
  obtain ⟨settings, accepted, baseEq⟩ := exists_accepted
    "[docs]\nbase_url = \"http://\"\n" "http://" (by decide +kernel)
  have isStem : Site.IsStemOf "http:" settings.baseUrl :=
    ⟨⟨"//", baseEq, by simp⟩, by simp⟩
  refine ⟨settings, accepted, isStem, ?_, fun _ => isStem.joinUrl_eq _, ?_⟩
  · rintro ⟨isSecure, rest, same, -⟩
    have sameChars := congrArg String.toList same
    rw [String.toList_append] at sameChars
    cases isSecure <;> simp [beginning] at sameChars
  · rw [baseEq]
    decide +kernel

end Settings

end ScriptLint
