import ScriptLint.Project
import ScriptLint.Proofs.Files.EnteredDirectories

/-!
# The nearest settings

The root of a project is searched upward from a path, by taking one part after the other off its
end.  It is the first directory in which the name of the settings file is that of a file, directly
or through a link.  A directory of this name does not count, so that the search goes on above it.
-/

namespace ScriptLint

open ScriptLint.Path

namespace Settings

variable {tree : FileTree} {here : Place}

/-- The directory that the parts of a path enter holds a settings file. -/
def AreIn (tree : FileTree) (here : Place) (directory : List PathPart) : Prop :=
  ∃ links place, tree.Enters FileTree.linkLimit here directory links place ∧
    tree.HoldsFile links place fileName

theorem isAbsolute_append {base : String} (filled : base ≠ "") (more : String) :
    isAbsolute (base ++ more) = isAbsolute base := by
  rw [Bool.eq_iff_iff, isAbsolute_iff, isAbsolute_iff]
  cases chars : base.toList with
  | nil => exact absurd (String.toList_eq_nil_iff.mp chars) filled
  | cons c rest => simp [chars]

theorem isAbsolute_fileName : isAbsolute fileName = false := by
  rw [Bool.eq_false_iff, ne_eq, isAbsolute_iff]
  decide

/-- The segments of the file's path are those that enter the directory, and then the file's name. -/
theorem exists_segments_join (directory : String) :
    ∃ pieces, segments (Path.join directory fileName) = pieces ++ [fileName] ∧
      isAbsolute (Path.join directory fileName) = isAbsolute directory ∧
      pieces.filterMap innerPart? = (segments directory).filterMap innerPart? := by
  have single : segments fileName = [fileName] := by decide
  have nothing : (segments "").filterMap innerPart? = [] := by decide
  rw [Path.join, if_neg (by simp [isAbsolute_fileName])]
  by_cases filled : directory = ""
  · subst filled
    refine ⟨[], single, isAbsolute_fileName.trans ?_, nothing.symm⟩
    rw [eq_comm, Bool.eq_false_iff, ne_eq, isAbsolute_iff]
    decide
  · have absolute := isAbsolute_append filled
    split
    · rename_i ended
      obtain ⟨front, rfl⟩ := exists_eq_slash (by simpa [filled] using ended)
      have emptyBehind := segments_slash front ""
      rw [String.append_empty] at emptyBehind
      refine ⟨segments front, by rw [segments_slash, single], absolute fileName, ?_⟩
      rw [emptyBehind, List.filterMap_append, nothing, List.append_nil]
    · refine ⟨segments directory, by rw [segments_slash, single], ?_, rfl⟩
      rw [String.append_assoc]
      exact absolute ("/" ++ fileName)

theorem isIn_iff (directory : String) :
    isIn tree here directory = true ↔ AreIn tree here (parts directory) := by
  obtain ⟨pieces, segmentsEq, absoluteEq, piecesEq⟩ := exists_segments_join directory
  have filled : Path.join directory fileName ≠ "" := by
    intro empty
    rw [empty] at segmentsEq
    have last := congrArg List.getLast? segmentsEq
    rw [List.getLast?_concat] at last
    exact absurd last (by decide)
  rw [isIn, FileTree.isFile_iff filled, segmentsEq, absoluteEq]
  simp only [FileTree.follow_append_eq_ok_iff (List.cons_ne_nil fileName []), piecesEq,
    ← FileTree.enters_parts_iff, AreIn]
  have proper : isFiller fileName = false := by decide
  have notUp : fileName ≠ ".." := by decide
  have named (links : Nat) (place : Place) :=
    FileTree.exists_follow_name_iff tree proper notUp links place
  constructor
  · rintro ⟨place, content, left, there, enters, arrives⟩
    exact ⟨left, there, enters, (named left there).mp ⟨place, content, arrives⟩⟩
  · rintro ⟨left, there, enters, holds⟩
    obtain ⟨place, content, arrives⟩ := (named left there).mpr holds
    exact ⟨place, content, left, there, enters, arrives⟩

end Settings

namespace Project

variable {tree : FileTree} {here : Place}

theorem findRoot_eq (start : String) :
    findRoot tree here start =
      if Settings.isIn tree here start then some start
      else (parent? start).bind (findRoot tree here) :=
  find?_upward_eq _ start

end Project

/-- The root that is found is the longest path in which there are settings, among the path itself
and those that are left when parts are taken off its end.  None is found just when none of them has
settings. -/
theorem findRoot_finds_nearest_settings (tree : FileTree) (here : Place) (start : String) :
    ((∃ root, Project.findRoot tree here start = some root ∧ IsAtOrAbove root start ∧
        root.toList <+: start.toList ∧ Settings.AreIn tree here (parts root) ∧
        ∀ other, IsAtOrAbove other start → Settings.AreIn tree here (parts other) →
          parts other <+: parts root) ∨
      Project.findRoot tree here start = none ∧
        ∀ other, IsAtOrAbove other start → ¬ Settings.AreIn tree here (parts other)) ∧
    (Project.findRoot tree here start =
      if Settings.isIn tree here start then some start
      else (parent? start).bind (Project.findRoot tree here)) ∧
    (∀ above ∈ parent? start, (parts above).length < (parts start).length) ∧
    (tree.find? here (Path.join start Settings.fileName) = some .directory →
      Project.findRoot tree here start = (parent? start).bind (Project.findRoot tree here)) := by
  have spelledAlike (left right : String) (same : parts left = parts right)
      (_ : isAbsolute left = isAbsolute right) :
      Settings.isIn tree here left = Settings.isIn tree here right := by
    rw [Bool.eq_iff_iff, Settings.isIn_iff, Settings.isIn_iff, same]
  refine ⟨?_, Project.findRoot_eq start, ?_, ?_⟩
  · simp only [← Settings.isIn_iff, Bool.not_eq_true]
    rcases find?_upward spelledAlike start with
      ⟨root, found, holds, left, begins, longest⟩ | ⟨nothing, nowhere⟩
    · exact Or.inl ⟨root, found, left, begins, holds, longest⟩
    · exact Or.inr ⟨nothing, nowhere⟩
  · exact fun above isAbove => (isNextAbove_of_parent? isAbove).length_parts_lt
  · intro isDirectory
    have notIn : Settings.isIn tree here start = false := by
      rw [Settings.isIn, FileTree.isFile, isDirectory]
    rw [Project.findRoot_eq, notIn, if_neg Bool.false_ne_true]

end ScriptLint
