import Mathlib.Data.List.DropRight
import ScriptLint.Proofs.Files.PathParts

/-!
# Paths above a path

The path above another one has its parts without the last one, and its text is a front of the text
of the other one.  Only the root is not taken off, so the way upward from an absolute path ends at
the root, and that from a relative path at the empty path.  On it there is a path for everything
that is left when parts are taken off the end.
-/

namespace ScriptLint.Path

variable {path above first : String} {rest pieces : List String}

theorem not_mem_of_mem_splitOn {α : Type} [BEq α] [LawfulBEq α] {mark : α} {items piece : List α}
    (member : piece ∈ items.splitOn mark) : mark ∉ piece := by
  induction items generalizing piece with
  | nil =>
      obtain rfl : piece = [] := by simpa using member
      exact List.not_mem_nil
  | cons item later ih =>
      rw [List.splitOn_cons_eq_if_modifyHead] at member
      split at member
      · rcases List.mem_cons.mp member with rfl | inLater
        · exact List.not_mem_nil
        · exact ih inLater
      · rename_i differs
        obtain ⟨head, others, cut⟩ := List.exists_cons_of_ne_nil (List.splitOn_ne_nil mark later)
        rw [cut, List.modifyHead_cons] at member
        rcases List.mem_cons.mp member with rfl | inOthers
        · rw [List.mem_cons, not_or]
          exact ⟨fun same => differs (by simp [same]), ih (by rw [cut]; exact List.mem_cons_self)⟩
        · exact ih (by rw [cut]; exact List.mem_cons_of_mem _ inOthers)

/-- Texts that slashes can go between. -/
def AreSegments (pieces : List String) : Prop :=
  ∀ piece ∈ pieces, '/' ∉ piece.toList

theorem toList_ofSegments (pieces : List String) :
    (ofSegments pieces).toList = ['/'].intercalate (pieces.map String.toList) := by
  rw [ofSegments, String.toList_intercalate]
  rfl

theorem segments_ofSegments (free : AreSegments pieces) (filled : pieces ≠ []) :
    segments (ofSegments pieces) = pieces := by
  have cut : (['/'].intercalate (pieces.map String.toList)).splitOn '/' =
      pieces.map String.toList := by
    refine List.splitOn_intercalate '/' ?_ (by simpa using filled)
    intro piece member
    obtain ⟨piece, pieceMem, rfl⟩ := List.mem_map.mp member
    exact free piece pieceMem
  rw [segments, toList_ofSegments, cut, List.map_map]
  simp [Function.comp_def]

theorem exists_eq_ofSegments (path : String) :
    ∃ first rest, path = ofSegments (first :: rest) ∧ AreSegments (first :: rest) := by
  obtain ⟨head, others, cut⟩ := List.exists_cons_of_ne_nil (List.splitOn_ne_nil '/' path.toList)
  refine ⟨String.ofList head, others.map String.ofList, ?_, ?_⟩
  · rw [← String.toList_inj, toList_ofSegments, ← List.map_cons, ← cut, List.map_map]
    simp [Function.comp_def, List.intercalate_splitOn]
  · intro piece member
    rw [← List.map_cons, ← cut] at member
    obtain ⟨chars, charsMem, rfl⟩ := List.mem_map.mp member
    rw [String.toList_ofList]
    exact not_mem_of_mem_splitOn charsMem

theorem ofSegments_singleton (piece : String) : ofSegments [piece] = piece := by
  rw [ofSegments, String.intercalate_singleton]

theorem toList_ofSegments_cons_cons (piece next : String) (later : List String) :
    (ofSegments (piece :: next :: later)).toList =
      piece.toList ++ '/' :: (ofSegments (next :: later)).toList := by
  simp [toList_ofSegments, List.intercalate_cons_cons]

theorem isAbsolute_ofSegments (free : AreSegments (first :: rest)) :
    isAbsolute (ofSegments (first :: rest)) = (first.isEmpty && !rest.isEmpty) := by
  have firstFree : '/' ∉ first.toList := free first List.mem_cons_self
  rw [Bool.eq_iff_iff, isAbsolute_iff]
  cases chars : first.toList with
  | nil =>
      obtain rfl : first = "" := String.toList_eq_nil_iff.mp chars
      cases rest with
      | nil => simp [ofSegments_singleton]
      | cons next later => simp [toList_ofSegments_cons_cons]
  | cons c more =>
      have filled : first.isEmpty = false := by
        rw [Bool.eq_false_iff, ne_eq, String.isEmpty_iff, ← String.toList_eq_nil_iff, chars]
        exact List.cons_ne_nil c more
      have differs : c ≠ '/' := by
        rintro rfl
        exact firstFree (by rw [chars]; exact List.mem_cons_self)
      cases rest with
      | nil => simp [ofSegments_singleton, chars, filled, differs]
      | cons next later => simp [toList_ofSegments_cons_cons, chars, filled, differs]

/-- The part that a path begins with, if its segments do. -/
def beginning? (first : String) (rest : List String) : Option PathPart :=
  if first.isEmpty then if rest.isEmpty then none else some .root
  else if first = "." then some .here
  else innerPart? first

theorem beginning?_congr {other : List String}
    (same : first.isEmpty → rest.isEmpty = other.isEmpty) :
    beginning? first rest = beginning? first other := by
  rw [beginning?, beginning?]
  cases empty : first.isEmpty with
  | true => rw [same empty]
  | false => rfl

theorem exists_innerPart? (segment : String) (kept : isFiller segment = false) :
    ∃ part, innerPart? segment = some part := by
  rw [innerPart?, kept]
  split_ifs <;> simp_all

theorem exists_beginning? (filled : first.isEmpty = false) (rest : List String) :
    ∃ part, beginning? first rest = some part := by
  by_cases dot : first = "."
  · exact ⟨.here, by simp [beginning?, dot]⟩
  · obtain ⟨part, isPart⟩ := exists_innerPart? first (by simp [isFiller, filled, dot])
    exact ⟨part, by simp [beginning?, filled, dot, isPart]⟩

theorem parts_ofSegments (free : AreSegments (first :: rest)) :
    parts (ofSegments (first :: rest)) =
      (beginning? first rest).toList ++ rest.filterMap innerPart? := by
  rw [parts, segments_ofSegments free (List.cons_ne_nil first rest), beginning?]
  dsimp only
  rw [isAbsolute_ofSegments free]
  cases empty : first.isEmpty with
  | true =>
      obtain rfl : first = "" := String.isEmpty_iff.mp empty
      cases rest with
      | nil => rfl
      | cons next later => rfl
  | false => simp

theorem innerPart?_eq_none_iff {segment : String} :
    innerPart? segment = none ↔ isFiller segment = true := by
  rw [innerPart?]
  split_ifs <;> simp_all

theorem dropFiller_isPrefix (pieces : List String) : dropFiller pieces <+: pieces :=
  List.rdropWhile_prefix isFiller pieces

theorem filterMap_dropFiller (pieces : List String) :
    (dropFiller pieces).filterMap innerPart? = pieces.filterMap innerPart? := by
  have dropped : (pieces.rtakeWhile isFiller).filterMap innerPart? = [] := by
    rw [List.filterMap_eq_nil_iff]
    exact fun piece member => innerPart?_eq_none_iff.mpr (List.mem_rtakeWhile_imp member)
  calc
    _ = (pieces.rdropWhile isFiller ++ pieces.rtakeWhile isFiller).filterMap innerPart? := by
      rw [List.filterMap_append, dropped, List.append_nil]
      rfl
    _ = pieces.filterMap innerPart? := by rw [List.rdropWhile_append_rtakeWhile]

theorem exists_part_of_dropFiller {last : String} {inner : List String}
    (left : dropFiller pieces = inner ++ [last]) :
    ∃ part, pieces.filterMap innerPart? = (dropFiller inner).filterMap innerPart? ++ [part] := by
  have leftEq : pieces.rdropWhile isFiller = inner ++ [last] := left
  have kept : isFiller last = false := by
    have lastKept := List.rdropWhile_last_not isFiller pieces (by simp [leftEq])
    simpa [leftEq] using lastKept
  obtain ⟨part, isPart⟩ := exists_innerPart? last kept
  refine ⟨part, ?_⟩
  rw [← filterMap_dropFiller pieces, left, List.filterMap_append, filterMap_dropFiller]
  simp [isPart]

theorem parent?_of_alone (free : AreSegments (first :: rest)) (nothing : dropFiller rest = []) :
    parent? (ofSegments (first :: rest)) = if first.isEmpty then none else some "" := by
  simp only [parent?, segments_ofSegments free (List.cons_ne_nil first rest), nothing]

theorem parent?_of_left {last : String} {inner : List String} (free : AreSegments (first :: rest))
    (left : dropFiller rest = inner ++ [last]) :
    parent? (ofSegments (first :: rest)) =
      some (if first.isEmpty && (dropFiller inner).isEmpty then "/"
        else ofSegments (first :: dropFiller inner)) := by
  obtain ⟨next, later, leftCons⟩ :=
    List.exists_cons_of_ne_nil (l := inner ++ [last]) (by simp)
  have innerEq : (next :: later).dropLast = inner := by rw [← leftCons, List.dropLast_concat]
  simp only [parent?, segments_ofSegments free (List.cons_ne_nil first rest), left, leftCons,
    innerEq]
  cases dropFiller inner with
  | nil => simp [ofSegments_singleton]
  | cons piece others => simp

/-- A path that is left when parts, but never the root, are taken off the end of another one. -/
structure IsAtOrAbove (above path : String) : Prop where
  parts_isPrefix : parts above <+: parts path
  isAbsolute_eq : isAbsolute above = isAbsolute path

/-- The next path upward, cut off another path. -/
structure IsNextAbove (above path : String) : Prop where
  parts_eq : parts above = (parts path).dropLast
  filled : parts path ≠ []
  isAbsolute_eq : isAbsolute above = isAbsolute path
  toList_isPrefix : above.toList <+: path.toList

theorem toList_ofSegments_isPrefix {fewer : List String} (begins : fewer <+: pieces) :
    (ofSegments fewer).toList <+: (ofSegments pieces).toList := by
  obtain ⟨more, rfl⟩ := begins
  induction fewer with
  | nil => simp [toList_ofSegments]
  | cons piece later ih =>
      cases later with
      | nil =>
          cases more with
          | nil => exact List.prefix_refl _
          | cons next more =>
              rw [List.singleton_append, toList_ofSegments_cons_cons, ofSegments_singleton]
              exact List.prefix_append _ _
      | cons next later =>
          rw [List.cons_append] at ih
          rw [List.cons_append, List.cons_append, toList_ofSegments_cons_cons,
            toList_ofSegments_cons_cons, List.prefix_append_right_inj, List.prefix_cons_inj]
          exact ih

theorem AreSegments.cons_of_isPrefix {fewer : List String} (free : AreSegments (first :: rest))
    (begins : fewer <+: rest) : AreSegments (first :: fewer) := by
  intro piece member
  refine free piece ?_
  rcases List.mem_cons.mp member with rfl | inFewer
  · exact List.mem_cons_self
  · exact List.mem_cons_of_mem _ (begins.subset inFewer)

theorem isAbsolute_root : isAbsolute "/" = true :=
  isAbsolute_iff.mpr rfl

theorem parts_root : parts "/" = [.root] := by
  have rootEq := parts_slash_empty ""
  rwa [show (segments "").filterMap innerPart? = [] by decide] at rootEq

theorem isNextAbove_of_alone (free : AreSegments (first :: rest)) (nothing : dropFiller rest = [])
    (filled : first.isEmpty = false) : IsNextAbove "" (ofSegments (first :: rest)) := by
  obtain ⟨part, begins⟩ := exists_beginning? filled rest
  have partsEq : parts (ofSegments (first :: rest)) = [part] := by
    rw [parts_ofSegments free, begins, ← filterMap_dropFiller, nothing]
    rfl
  refine ⟨by rw [partsEq]; rfl, by simp [partsEq], ?_, List.nil_prefix⟩
  rw [isAbsolute_ofSegments free, filled]
  rfl

section Left

variable {last : String} {inner : List String} (free : AreSegments (first :: rest))
  (left : dropFiller rest = inner ++ [last])

include left

theorem isEmpty_of_left : rest.isEmpty = false := by
  cases rest with
  | nil => simp [dropFiller] at left
  | cons next later => rfl

include free

theorem exists_parts_of_left :
    ∃ part, parts (ofSegments (first :: rest)) =
      (beginning? first rest).toList ++ (dropFiller inner).filterMap innerPart? ++ [part] := by
  obtain ⟨part, restEq⟩ := exists_part_of_dropFiller left
  exact ⟨part, by rw [parts_ofSegments free, restEq, List.append_assoc]⟩

theorem isNextAbove_root (empty : first.isEmpty = true) (nothing : dropFiller inner = []) :
    IsNextAbove "/" (ofSegments (first :: rest)) := by
  obtain ⟨part, partsEq⟩ := exists_parts_of_left free left
  have filled := isEmpty_of_left left
  have root : beginning? first rest = some .root := by simp [beginning?, empty, filled]
  obtain ⟨next, later, rfl⟩ := List.exists_cons_of_ne_nil (List.isEmpty_eq_false_iff.mp filled)
  refine ⟨?_, by simp [partsEq], ?_, ?_⟩
  · rw [partsEq, List.dropLast_concat, root, nothing, parts_root]
    rfl
  · rw [isAbsolute_root, isAbsolute_ofSegments free, empty]
    rfl
  · rw [toList_ofSegments_cons_cons, String.isEmpty_iff.mp empty]
    exact List.prefix_append ['/'] _

theorem isNextAbove_ofSegments (kept : first.isEmpty → (dropFiller inner).isEmpty = false) :
    IsNextAbove (ofSegments (first :: dropFiller inner)) (ofSegments (first :: rest)) := by
  obtain ⟨part, partsEq⟩ := exists_parts_of_left free left
  have begins : dropFiller inner <+: rest := by
    refine (dropFiller_isPrefix inner).trans (List.IsPrefix.trans ?_ (dropFiller_isPrefix rest))
    rw [left]
    exact List.prefix_append inner [last]
  have freeAbove := free.cons_of_isPrefix begins
  have sameEmpty : first.isEmpty → rest.isEmpty = (dropFiller inner).isEmpty := by
    intro empty
    rw [isEmpty_of_left left, kept empty]
  refine ⟨?_, by simp [partsEq], ?_, ?_⟩
  · rw [partsEq, List.dropLast_concat, parts_ofSegments freeAbove, beginning?_congr sameEmpty]
  · rw [isAbsolute_ofSegments freeAbove, isAbsolute_ofSegments free]
    cases empty : first.isEmpty with
    | true => rw [sameEmpty empty]
    | false => rfl
  · exact toList_ofSegments_isPrefix ((List.prefix_cons_inj first).mpr begins)

theorem isNextAbove_of_left :
    IsNextAbove (if first.isEmpty && (dropFiller inner).isEmpty then "/"
      else ofSegments (first :: dropFiller inner)) (ofSegments (first :: rest)) := by
  cases onlyRoot : first.isEmpty && (dropFiller inner).isEmpty with
  | true =>
      rw [Bool.and_eq_true, List.isEmpty_iff] at onlyRoot
      exact isNextAbove_root free left onlyRoot.1 onlyRoot.2
  | false =>
      refine isNextAbove_ofSegments free left fun empty => ?_
      rwa [empty, Bool.true_and] at onlyRoot

end Left

theorem isNextAbove_of_parent? (found : parent? path = some above) : IsNextAbove above path := by
  obtain ⟨first, rest, rfl, free⟩ := exists_eq_ofSegments path
  rcases List.eq_nil_or_concat (dropFiller rest) with nothing | ⟨inner, last, left⟩
  · rw [parent?_of_alone free nothing] at found
    cases empty : first.isEmpty with
    | true =>
        rw [empty] at found
        cases found
    | false =>
        rw [empty] at found
        obtain rfl : "" = above := Option.some.inj found
        exact isNextAbove_of_alone free nothing empty
  · rw [List.concat_eq_append] at left
    rw [parent?_of_left free left] at found
    exact Option.some.inj found ▸ isNextAbove_of_left free left

/-- The way upward ends where nothing is left or only the root. -/
theorem parts_of_parent?_eq_none (ended : parent? path = none) :
    parts path = if isAbsolute path then [.root] else [] := by
  obtain ⟨first, rest, rfl, free⟩ := exists_eq_ofSegments path
  rcases List.eq_nil_or_concat (dropFiller rest) with nothing | ⟨inner, last, left⟩
  · rw [parent?_of_alone free nothing] at ended
    cases empty : first.isEmpty with
    | false =>
        rw [empty] at ended
        cases ended
    | true =>
        rw [parts_ofSegments free, isAbsolute_ofSegments free, ← filterMap_dropFiller, nothing,
          beginning?, empty]
        cases rest.isEmpty <;> rfl
  · rw [List.concat_eq_append] at left
    rw [parent?_of_left free left] at ended
    cases ended

theorem IsNextAbove.length_parts_lt (next : IsNextAbove above path) :
    (parts above).length < (parts path).length := by
  have positive := List.length_pos_of_ne_nil next.filled
  rw [next.parts_eq, List.length_dropLast]
  omega

theorem upward_of_parent? (found : parent? path = some above) :
    upward path = path :: upward above := by
  have next := isNextAbove_of_parent? found
  have positive := List.length_pos_of_ne_nil next.filled
  have steps : (parts path).length = (parts above).length + 1 := by
    rw [next.parts_eq, List.length_dropLast]
    omega
  rw [upward, steps, climb, found]
  rfl

theorem upward_of_parent?_eq_none (ended : parent? path = none) : upward path = [path] := by
  rw [upward]
  cases (parts path).length with
  | zero => rfl
  | succ steps => rw [climb, ended]

theorem find?_upward_eq (p : String → Bool) (path : String) :
    (upward path).find? p =
      if p path then some path else (parent? path).bind fun above => (upward above).find? p := by
  by_cases holds : p path = true
  · rw [if_pos holds]
    cases upper : parent? path with
    | none => rw [upward_of_parent?_eq_none upper, List.find?_cons_of_pos holds]
    | some above => rw [upward_of_parent? upper, List.find?_cons_of_pos holds]
  · rw [if_neg holds]
    cases upper : parent? path with
    | none =>
        rw [upward_of_parent?_eq_none upper, List.find?_cons_of_neg holds]
        rfl
    | some above =>
        rw [upward_of_parent? upper, List.find?_cons_of_neg holds]
        rfl

theorem IsAtOrAbove.refl (path : String) : IsAtOrAbove path path :=
  ⟨List.prefix_refl _, rfl⟩

theorem IsAtOrAbove.of_next {other : String} (next : IsNextAbove above path)
    (upper : IsAtOrAbove other above) : IsAtOrAbove other path := by
  have begins := List.dropLast_prefix (parts path)
  rw [← next.parts_eq] at begins
  exact ⟨upper.parts_isPrefix.trans begins, upper.isAbsolute_eq.trans next.isAbsolute_eq⟩

/-- What is left of a path is the whole path, or it is left of the next path above. -/
theorem IsAtOrAbove.cases_next {other : String} (next : IsNextAbove above path)
    (upper : IsAtOrAbove other path) : parts other = parts path ∨ IsAtOrAbove other above := by
  have wholeEq := List.dropLast_append_getLast next.filled
  have begins := upper.parts_isPrefix
  rw [← wholeEq, ← next.parts_eq, List.prefix_concat_iff] at begins
  rcases begins with whole | shorter
  · left
    rw [whole, next.parts_eq, wholeEq]
  · exact Or.inr ⟨shorter, upper.isAbsolute_eq.trans next.isAbsolute_eq.symm⟩

theorem IsAtOrAbove.parts_eq_of_ended {other : String} (ended : parent? path = none)
    (upper : IsAtOrAbove other path) : parts other = parts path := by
  have begins := upper.parts_isPrefix
  have partsEq := parts_of_parent?_eq_none ended
  cases absolute : isAbsolute path with
  | false =>
      rw [partsEq, absolute] at begins ⊢
      exact List.prefix_nil.mp begins
  | true =>
      have otherFilled : other ≠ "" := by
        rintro rfl
        have same := upper.isAbsolute_eq
        rw [absolute] at same
        cases isAbsolute_iff.mp same
      rw [partsEq, absolute, if_pos rfl] at begins ⊢
      have notNil := parts_ne_nil otherFilled
      obtain ⟨more, wholeEq⟩ := begins
      cases otherParts : parts other with
      | nil => exact absurd otherParts notNil
      | cons part later =>
          rw [otherParts, List.cons_append, List.cons.injEq, List.append_eq_nil_iff] at wholeEq
          rw [wholeEq.1, wholeEq.2.1]

/-- The first path upward of which something holds is the longest one of which it holds, if it holds
of all spellings of a path or of none. -/
theorem find?_upward {p : String → Bool}
    (spelledAlike : ∀ left right, parts left = parts right → isAbsolute left = isAbsolute right →
      p left = p right) (path : String) :
    (∃ found, (upward path).find? p = some found ∧ p found ∧ IsAtOrAbove found path ∧
        found.toList <+: path.toList ∧
        ∀ other, IsAtOrAbove other path → p other → parts other <+: parts found) ∨
      (upward path).find? p = none ∧ ∀ other, IsAtOrAbove other path → p other = false := by
  -- The path above is cut from the text, so the induction is on the number of parts.
  induction size : (parts path).length using Nat.strongRecOn generalizing path with
  | ind size ih =>
      rw [find?_upward_eq]
      cases holds : p path with
      | true =>
          exact Or.inl ⟨path, rfl, holds, .refl path, List.prefix_refl _,
            fun other left _ => left.parts_isPrefix⟩
      | false =>
          have failsAlike (other : String) (left : IsAtOrAbove other path)
              (same : parts other = parts path) : p other = false := by
            rw [← holds]
            exact spelledAlike other path same left.isAbsolute_eq
          cases upper : parent? path with
          | none =>
              exact Or.inr ⟨rfl, fun other left =>
                failsAlike other left (left.parts_eq_of_ended upper)⟩
          | some above =>
              have next := isNextAbove_of_parent? upper
              rcases ih _ (size ▸ next.length_parts_lt) above rfl with
                ⟨found, foundEq, foundHolds, left, begins, longest⟩ | ⟨nothing, nowhere⟩
              · refine Or.inl ⟨found, foundEq, foundHolds, left.of_next next,
                  begins.trans next.toList_isPrefix, fun other otherLeft holdsToo => ?_⟩
                rcases otherLeft.cases_next next with same | upwardLeft
                · rw [failsAlike other otherLeft same] at holdsToo
                  cases holdsToo
                · exact longest other upwardLeft holdsToo
              · refine Or.inr ⟨nothing, fun other otherLeft => ?_⟩
                rcases otherLeft.cases_next next with same | upwardLeft
                · exact failsAlike other otherLeft same
                · exact nowhere other upwardLeft

end ScriptLint.Path
