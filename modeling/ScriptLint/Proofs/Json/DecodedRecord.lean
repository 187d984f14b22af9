import Mathlib.Data.List.Nodup
import ScriptLint.Json.Decoder

/-!
# Decoding encoded values

A list is decoded by decoding its items, and a record that has been written with all of its fields
is decoded to them, in order.
-/

namespace ScriptLint.Json

theorem mapM_map_eq_some {α β γ : Type} {encode : α → β} {decode : β → Option γ} {value : α → γ}
    {items : List α} (each : ∀ item ∈ items, decode (encode item) = some (value item)) :
    (items.map encode).mapM decode = some (items.map value) := by
  induction items with
  | nil => rfl
  | cons first rest ih =>
      rw [List.map_cons, List.mapM_cons, each first List.mem_cons_self,
        ih fun item member => each item (List.mem_cons_of_mem first member)]
      rfl

/-- What is decoded and then changed can be decoded first and changed together. -/
theorem mapM_map_comp {α β γ : Type} (decode : α → Option β) (f : β → γ) (items : List α) :
    items.mapM (fun item => (decode item).map f) = (items.mapM decode).map (List.map f) := by
  induction items with
  | nil => rfl
  | cons first rest ih =>
      rw [List.mapM_cons, List.mapM_cons, ih]
      cases decode first with
      | none => rfl
      | some value => cases rest.mapM decode <;> rfl

theorem asMapOf?_map {α β : Type} (decode : Json → Option α) (f : α → β) (value : Json) :
    value.asMapOf? (fun inner => (decode inner).map f) =
      (value.asMapOf? decode).map (List.map fun member => (member.1, f member.2)) := by
  cases value with
  | object members =>
      rw [asMapOf?, asMapOf?, ← mapM_map_comp]
      congr 1
      funext member
      obtain ⟨key, inner⟩ := member
      cases key with
      | none => rfl
      | some name =>
          dsimp only
          cases decode inner <;> rfl
  | _ => rfl

/-- The members of an object are decoded one by one. -/
theorem asMapOf?_ofMembers {α : Type} {encode : α → Json} {decode : Json → Option α}
    {members : List (String × α)}
    (each : ∀ member ∈ members, decode (encode member.2) = some member.2) :
    asMapOf? decode (ofMembers (members.map fun member => (member.1, encode member.2))) =
      some members := by
  rw [ofMembers, asMapOf?, List.map_map]
  refine Eq.trans (mapM_map_eq_some ?_) (congrArg some (List.map_id members))
  intro member inMembers
  simp [each member inMembers]

theorem asMapOf?_some (members : List (String × Json)) :
    asMapOf? some (ofMembers members) = some members := by
  have decoded : asMapOf? some (ofMembers (members.map fun member => (member.1, id member.2))) =
      some members := asMapOf?_ofMembers fun _ _ => rfl
  simpa using decoded

theorem filter_eq_singleton {members : List (String × Json)} {member : String × Json}
    (distinct : (members.map Prod.fst).Nodup) (inMembers : member ∈ members) :
    (members.filter fun other => other.1 == member.1) = [member] := by
  induction members with
  | nil => cases inMembers
  | cons first rest ih =>
      rw [List.map_cons, List.nodup_cons] at distinct
      rcases List.mem_cons.mp inMembers with rfl | inRest
      · have noOther : (rest.filter fun other => other.1 == member.1) = [] := by
          refine List.filter_eq_nil_iff.mpr fun other otherMem same => distinct.1 ?_
          exact (beq_iff_eq.mp same) ▸ List.mem_map_of_mem otherMem
        rw [List.filter_cons_of_pos (by simp), noOther]
      · have different : first.1 ≠ member.1 := fun same =>
          distinct.1 (same ▸ List.mem_map_of_mem inRest)
        rw [List.filter_cons_of_neg (by simpa using different), ih distinct.2 inRest]

/-- A record that is written with all of its fields is decoded to them. -/
theorem asRecord?_ofMembers {members : List (String × Json)}
    (distinct : (members.map Prod.fst).Nodup) :
    asRecord? (members.map Prod.fst) (ofMembers members) =
      some (members.map fun member => some member.2) := by
  have keyed := asMapOf?_some members
  rw [ofMembers] at keyed ⊢
  rw [asRecord?, keyed, Option.bind_eq_bind, Option.bind_some]
  refine mapM_map_eq_some fun member inMembers => ?_
  rw [filter_eq_singleton distinct inMembers]

end ScriptLint.Json
