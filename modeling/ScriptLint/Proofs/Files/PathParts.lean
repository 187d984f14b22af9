import Mathlib.Tactic.Common
import ScriptLint.Files.Path

/-!
# Parts of paths

Paths are ordered by their parts, so two paths are equal in the order just when their parts are.  A
single dot is a part only where a path begins with it: without this dot the parts say which names
the path goes through, and a path joined to another one adds its own parts behind those of the other
one.
-/

namespace ScriptLint

instance : Std.TransOrd PathPart :=
  inferInstanceAs (Std.TransCmp (compareLex (compareOn PathPart.rank) (compareOn PathPart.text)))

instance : Std.LawfulEqOrd PathPart where
  compare_self := by
    intro part
    have lawful : Std.ReflCmp
      (compareLex (compareOn PathPart.rank) (compareOn PathPart.text)) := inferInstance
    exact lawful.compare_self
  eq_of_compare := by
    intro left right same
    obtain ⟨sameRank, sameText⟩ := compareLex_eq_eq.mp
      (show compareLex (compareOn PathPart.rank) (compareOn PathPart.text) left right = .eq from same)
    have rankEq : left.rank = right.rank := Std.LawfulEqOrd.eq_of_compare sameRank
    have textEq : left.text = right.text := Std.LawfulEqOrd.eq_of_compare sameText
    cases left <;> cases right <;> simp_all [PathPart.rank, PathPart.text]

namespace Path

variable {left right base child path : String}

theorem order_eq_eq_iff : order left right = .eq ↔ parts left = parts right :=
  Std.LawfulEqOrd.compare_eq_iff_eq

theorem order_isLE_trans {middle : String} (first : (order left middle).isLE)
    (second : (order middle right).isLE) : (order left right).isLE :=
  Std.TransOrd.isLE_trans first second

theorem order_lt_trans {middle : String} (first : order left middle = .lt)
    (second : order middle right = .lt) : order left right = .lt := by
  rw [order] at first second ⊢
  exact Std.TransCmp.lt_trans first second

theorem order_isLE_total (left right : String) :
    (order left right).isLE ∨ (order right left).isLE := by
  rw [order, order, Std.OrientedOrd.eq_swap (a := parts right)]
  cases compare (parts left) (parts right) <;> simp

theorem order_lt_of_isLE_of_ne (notAfter : (order left right).isLE)
    (different : parts left ≠ parts right) : order left right = .lt := by
  cases ordered : order left right with
  | lt => rfl
  | eq => exact absurd (order_eq_eq_iff.mp ordered) different
  | gt => rw [ordered] at notAfter; cases notAfter

theorem parts_ne_of_order_lt (before : order left right = .lt) : parts left ≠ parts right := by
  intro same
  rw [order_eq_eq_iff.mpr same] at before
  cases before

/-- Whether a path begins with a single dot. -/
def BeginsHere (path : String) : Prop :=
  (parts path).head? = some .here

/-- The parts of a path without the single dot that it may begin with. -/
def partsBehindDot (path : String) : List PathPart :=
  (parts path).filter (· ≠ .here)

theorem innerPart?_ne_here (segment : String) : innerPart? segment ≠ some .here := by
  rw [innerPart?]
  split_ifs <;> simp

theorem filter_ne_here_filterMap (segments : List String) :
    (segments.filterMap innerPart?).filter (· ≠ .here) = segments.filterMap innerPart? := by
  refine List.filter_eq_self.mpr fun part member => ?_
  obtain ⟨segment, -, isPart⟩ := List.mem_filterMap.mp member
  have notHere : part ≠ .here := fun here => innerPart?_ne_here segment (here ▸ isPart)
  simpa using notHere

/-- No part behind the first one is a single dot. -/
theorem parts_eq_or (path : String) :
    parts path = partsBehindDot path ∨ parts path = .here :: partsBehindDot path := by
  rw [partsBehindDot, parts]
  split
  · exact .inl rfl
  · rename_i first rest cut
    have restKept := filter_ne_here_filterMap rest
    dsimp only
    split_ifs with absolute dot
    · left
      rw [List.filter_append, restKept]
      rfl
    · right
      rw [List.filter_append, restKept]
      rfl
    · left
      have firstKept : (innerPart? first).toList.filter (· ≠ .here) = (innerPart? first).toList :=
        by simpa using filter_ne_here_filterMap [first]
      rw [List.filter_append, restKept, firstKept]

theorem beginsHere_iff : BeginsHere path ↔ parts path = .here :: partsBehindDot path := by
  constructor
  · intro begins
    refine (parts_eq_or path).resolve_left fun same => ?_
    have member : PathPart.here ∈ partsBehindDot path := by
      rw [← same]
      exact List.mem_of_head? begins
    simp [partsBehindDot] at member
  · intro same
    rw [BeginsHere, same]
    rfl

/-- Two paths with the same parts behind the dot are the same path if both begin with the dot or
neither does. -/
theorem parts_eq_of_partsBehindDot_eq (same : partsBehindDot left = partsBehindDot right)
    (alike : BeginsHere left ↔ BeginsHere right) : parts left = parts right := by
  by_cases begins : BeginsHere left
  · rw [beginsHere_iff.mp begins, beginsHere_iff.mp (alike.mp begins), same]
  · have otherwise {path : String} (without : ¬BeginsHere path) :
        parts path = partsBehindDot path :=
      (parts_eq_or path).resolve_right fun dotted => without (beginsHere_iff.mpr dotted)
    rw [otherwise begins, otherwise (mt alike.mpr begins), same]

theorem isAbsolute_iff : isAbsolute path ↔ path.toList.head? = some '/' := by
  rw [isAbsolute, String.startsWith_string_iff]
  cases path.toList with
  | nil => simp
  | cons c rest => simp [List.prefix_cons_iff, eq_comm]

/-- Every path but the empty one has a part. -/
theorem parts_ne_nil (filled : path ≠ "") : parts path ≠ [] := by
  cases chars : path.toList with
  | nil => exact absurd (String.toList_eq_nil_iff.mp chars) filled
  | cons c later =>
      by_cases slash : c = '/'
      · have absolute : isAbsolute path := isAbsolute_iff.mpr (by simp [chars, slash])
        simp [parts, segments, chars, slash, List.splitOn_cons_eq_if_modifyHead, absolute]
      · obtain ⟨head, others, cut⟩ :=
          List.exists_cons_of_ne_nil (List.splitOn_ne_nil '/' later)
        have begins : segments path = String.ofList (c :: head) :: others.map String.ofList := by
          simp [segments, chars, List.splitOn_cons_eq_if_modifyHead, slash, cut]
        rw [parts, begins]
        dsimp only
        split_ifs with absolute dot
        · simp
        · simp
        · have noFiller : isFiller (String.ofList (c :: head)) = false := by
            simpa [isFiller, ← String.toList_eq_nil_iff] using dot
          rw [innerPart?, noFiller]
          split_ifs <;> simp_all

/-- A path with a slash and another path behind it has the segments of both. -/
theorem segments_slash (base child : String) :
    segments (base ++ "/" ++ child) = segments base ++ segments child := by
  simp only [segments, String.toList_append, ← List.map_append]
  congr 1
  exact (congrArg _ (by simp)).trans (List.splitOn_append_cons_self base.toList child.toList)

theorem parts_slash (filled : base ≠ "") (child : String) :
    parts (base ++ "/" ++ child) = parts base ++ (segments child).filterMap innerPart? := by
  have absolute : isAbsolute (base ++ "/" ++ child) = isAbsolute base := by
    rw [Bool.eq_iff_iff, isAbsolute_iff, isAbsolute_iff]
    cases chars : base.toList with
    | nil => exact absurd (String.toList_eq_nil_iff.mp chars) filled
    | cons c rest => simp [chars]
  cases cut : segments base with
  | nil => simp [segments] at cut
  | cons first rest =>
      rw [parts, segments_slash, cut, parts, cut]
      simp [absolute]

theorem parts_slash_empty (child : String) :
    parts ("" ++ "/" ++ child) = .root :: (segments child).filterMap innerPart? := by
  have absolute : isAbsolute ("" ++ "/" ++ child) := isAbsolute_iff.mpr (by simp)
  have empty : segments "" = [""] := by simp [segments]
  rw [parts, segments_slash, empty, List.singleton_append]
  dsimp only
  rw [if_pos absolute]
  rfl

theorem exists_eq_slash (ended : path.endsWith "/") : ∃ front, path = front ++ "/" := by
  rw [← String.endsWith_toSlice, String.Slice.endsWith_string_iff, String.copy_toSlice] at ended
  obtain ⟨front, frontEq⟩ := ended
  exact ⟨String.ofList front, String.toList_injective (by simp [← frontEq])⟩

/-- A path below another one has the parts of that one and behind them its own. -/
theorem parts_join (filled : base ≠ "") (relative : ¬isAbsolute child) :
    parts (join base child) = parts base ++ (segments child).filterMap innerPart? := by
  rw [join, if_neg relative]
  split
  · rename_i ended
    obtain ⟨front, rfl⟩ := exists_eq_slash (by simpa [filled] using ended)
    have nothing : (segments "").filterMap innerPart? = [] := by
      simp [segments, innerPart?, isFiller]
    have itself : front ++ "/" = front ++ "/" ++ "" := by simp
    by_cases root : front = ""
    · subst root
      rw [parts_slash_empty, itself, parts_slash_empty, nothing]
      rfl
    · rw [parts_slash root, itself, parts_slash root, nothing, List.append_nil]
  · exact parts_slash filled child

end Path

end ScriptLint
