import Mathlib.Tactic.Common
import ScriptLint.Files.Tree
import ScriptLint.Proofs.Files.PathsAbove

/-!
# Directories that a path enters

A path enters the directories that its parts name, one inside the other, and where a name is that of
a link it goes on along the parts of the link's target.  Each link takes one off the number of links
that are allowed.  A file is found in a directory if the path to the directory enters it with some
number of links left, and the name there is that of a file or of a link that leads to one.
-/

namespace ScriptLint

open ScriptLint.Path

namespace FileTree

variable {tree : FileTree} {links left : Nat} {here there : Place} {rest : List PathPart}
  {name : String}

/-- From a directory, with some number of links allowed, the parts of a path lead into another
directory, with some number left. -/
inductive Enters (tree : FileTree) : Nat → Place → List PathPart → Nat → Place → Prop
  | arrived {links : Nat} {here : Place} : Enters tree links here [] links here
  | root {links left : Nat} {here there : Place} {rest : List PathPart} :
      Enters tree links [] rest left there → Enters tree links here (.root :: rest) left there
  | here {links left : Nat} {here there : Place} {rest : List PathPart} :
      Enters tree links here rest left there → Enters tree links here (.here :: rest) left there
  | up {links left : Nat} {here there : Place} {rest : List PathPart} :
      Enters tree links here.dropLast rest left there →
        Enters tree links here (.up :: rest) left there
  | directory {links left : Nat} {here there : Place} {rest : List PathPart} {name : String} :
      tree.node? (here ++ [name]) = some .directory →
        Enters tree links (here ++ [name]) rest left there →
          Enters tree links here (.name name :: rest) left there
  | link {links left : Nat} {here there : Place} {rest : List PathPart} {name target : String} :
      tree.node? (here ++ [name]) = some (.link target) →
        Enters tree links here (parts target ++ rest) left there →
          Enters tree (links + 1) here (.name name :: rest) left there

/-- In a directory a name is that of a file, or of a link from which one gets to a file. -/
inductive HoldsFile (tree : FileTree) : Nat → Place → String → Prop
  | direct {links : Nat} {here : Place} {name : String} {content : ByteArray} :
      tree.node? (here ++ [name]) = some (.file content) → HoldsFile tree links here name
  | linked {links : Nat} {here place : Place} {name target : String} {content : ByteArray} :
      tree.node? (here ++ [name]) = some (.link target) →
        tree.follow links (if isAbsolute target then [] else here) (segments target) =
            .ok ⟨place, some (.file content)⟩ →
          HoldsFile tree (links + 1) here name

theorem enters_nil_iff : Enters tree links here [] left there ↔ links = left ∧ here = there := by
  constructor
  · rintro ⟨⟩
    exact ⟨rfl, rfl⟩
  · rintro ⟨rfl, rfl⟩
    exact .arrived

theorem enters_root_iff :
    Enters tree links here (.root :: rest) left there ↔ Enters tree links [] rest left there := by
  constructor
  · rintro (_ | onward)
    exact onward
  · exact .root

theorem enters_here_iff :
    Enters tree links here (.here :: rest) left there ↔ Enters tree links here rest left there := by
  constructor
  · rintro (_ | _ | onward)
    exact onward
  · exact .here

theorem enters_up_iff :
    Enters tree links here (.up :: rest) left there ↔
      Enters tree links here.dropLast rest left there := by
  constructor
  · rintro (_ | _ | _ | onward)
    exact onward
  · exact .up

theorem enters_name_iff :
    Enters tree links here (.name name :: rest) left there ↔
      (tree.node? (here ++ [name]) = some .directory ∧
          Enters tree links (here ++ [name]) rest left there) ∨
        ∃ fewer target, links = fewer + 1 ∧ tree.node? (here ++ [name]) = some (.link target) ∧
          Enters tree fewer here (parts target ++ rest) left there := by
  constructor
  · intro enters
    cases enters with
    | directory node onward => exact Or.inl ⟨node, onward⟩
    | link node onward => exact Or.inr ⟨_, _, rfl, node, onward⟩
  · rintro (⟨node, onward⟩ | ⟨fewer, target, rfl, node, onward⟩)
    · exact .directory node onward
    · exact .link node onward

/-- The parts of a path lead on from the root if the path is absolute. -/
theorem enters_parts_append (path : String) :
    Enters tree links here (parts path ++ rest) left there ↔
      Enters tree links (if isAbsolute path then [] else here)
        ((segments path).filterMap innerPart? ++ rest) left there := by
  obtain ⟨first, others, rfl, free⟩ := exists_eq_ofSegments path
  rw [parts_ofSegments free, isAbsolute_ofSegments free,
    segments_ofSegments free (List.cons_ne_nil first others), beginning?]
  cases empty : first.isEmpty with
  | true =>
      obtain rfl : first = "" := String.isEmpty_iff.mp empty
      cases others with
      | nil => rfl
      | cons next later => exact enters_root_iff
  | false =>
      by_cases dot : first = "."
      · subst dot
        exact enters_here_iff
      · rw [if_neg Bool.false_ne_true, if_neg dot, Bool.false_and, if_neg Bool.false_ne_true,
          List.filterMap_cons]
        cases innerPart? first <;> rfl

theorem enters_parts_iff (path : String) :
    Enters tree links here (parts path) left there ↔
      Enters tree links (if isAbsolute path then [] else here)
        ((segments path).filterMap innerPart?) left there := by
  rw [← List.append_nil (parts path), enters_parts_append, List.append_nil]

/-- Whatever is behind them, segments lead to where the directory is that they enter. -/
theorem follow_append_eq_ok_iff {more : List String} (filled : more ≠ []) (links : Nat)
    (here : Place) (pieces : List String) (arrival : Arrival) :
    tree.follow links here (pieces ++ more) = .ok arrival ↔
      ∃ left there, Enters tree links here (pieces.filterMap innerPart?) left there ∧
        tree.follow left there more = .ok arrival := by
  -- A link makes the path longer, but it uses up one of the links, so these are counted first.
  induction links using Nat.strongRecOn generalizing here pieces with
  | ind links fewerLinks =>
      induction pieces generalizing here with
      | nil =>
          constructor
          · exact fun arrives => ⟨links, here, .arrived, arrives⟩
          · rintro ⟨left, there, enters, arrives⟩
            obtain ⟨rfl, rfl⟩ := enters_nil_iff.mp enters
            exact arrives
      | cons piece pieces fewerPieces =>
          have goesOn : (pieces ++ more).isEmpty = false := by simp [filled]
          rw [List.cons_append, follow]
          by_cases filler : isFiller piece = true
          · rw [if_pos filler, fewerPieces, List.filterMap_cons,
              innerPart?_eq_none_iff.mpr filler]
          · rw [if_neg filler]
            by_cases up : piece = ".."
            · subst up
              have isPart : innerPart? ".." = some .up := by decide
              rw [if_pos rfl, fewerPieces, List.filterMap_cons, isPart]
              simp only [enters_up_iff]
            · have isPart : innerPart? piece = some (.name piece) := by
                rw [innerPart?, if_neg filler, if_neg up]
              rw [if_neg up, List.filterMap_cons, isPart]
              simp only [enters_name_iff, goesOn]
              cases node : tree.node? (here ++ [piece]) with
              | none => simp
              | some found =>
                  cases found with
                  | file content => simp
                  | directory => simp [fewerPieces]
                  | link target =>
                      cases links with
                      | zero => simp
                      | succ links =>
                          have onward := fewerLinks links (Nat.lt_succ_self links)
                            (if isAbsolute target then [] else here) (segments target ++ pieces)
                          simp only [List.filterMap_append, ← enters_parts_append,
                            List.append_assoc] at onward
                          simp [onward]

theorem exists_follow_name_iff (tree : FileTree) (proper : isFiller name = false)
    (notUp : name ≠ "..") (links : Nat) (here : Place) :
    (∃ place content, tree.follow links here [name] = .ok ⟨place, some (.file content)⟩) ↔
      HoldsFile tree links here name := by
  rw [follow, proper, if_neg Bool.false_ne_true, if_neg notUp]
  constructor
  · rintro ⟨place, content, arrives⟩
    cases node : tree.node? (here ++ [name]) with
    | none => simp [node] at arrives
    | some found =>
        cases found with
        | file known => exact .direct node
        | directory => simp [node, follow] at arrives
        | link target =>
            cases links with
            | zero => simp [node] at arrives
            | succ links =>
                have onward : tree.follow links (if isAbsolute target then [] else here)
                    (segments target) = .ok ⟨place, some (.file content)⟩ := by
                  simpa [node] using arrives
                exact .linked node onward
  · intro holds
    cases holds with
    | @direct _ _ _ content node => exact ⟨here ++ [name], content, by simp [node]⟩
    | linked node arrives => exact ⟨_, _, by simpa [node] using arrives⟩

theorem isFile_iff {path : String} (filled : path ≠ "") :
    tree.isFile here path = true ↔ ∃ place content,
      tree.follow linkLimit (if isAbsolute path then [] else here) (segments path) =
        .ok ⟨place, some (.file content)⟩ := by
  have notEmpty : ¬ path.isEmpty = true := by rwa [String.isEmpty_iff]
  rw [isFile, find?, arrive, if_neg notEmpty]
  cases tree.follow linkLimit (if isAbsolute path then [] else here) (segments path) with
  | error cause => simp [Except.toOption]
  | ok arrival =>
      obtain ⟨place, node⟩ := arrival
      cases node with
      | none => simp [Except.toOption]
      | some node => cases node <;> simp [Except.toOption]

end FileTree

end ScriptLint
