import Mathlib.Data.Set.Card
import TypeSurvey.Registry

/-!
# What a registry holds

Registering, removing and clearing leave one entry for each root that has a session, and none for a
blank root. So the size of a registry counts the roots that have a session.
-/
namespace TypeSurvey.Registry

variable {r : Registry} {root key : UnitKey} {i : Nat}

theorem get_eq_ok_iff : r.get root = .ok i ↔ r.find? root = some i := by
  rw [get]
  cases r.find? root <;> simp

theorem get_eq_error (h : r.find? root = none) : r.get root = .error (.noSession root) := by
  rw [get, h]

theorem toOption_get (r : Registry) (root : UnitKey) : (r.get root).toOption = r.find? root := by
  rw [get]
  cases r.find? root <;> rfl

theorem contains_iff : r.contains root = true ↔ ∃ i, r.get root = .ok i := by
  simp only [contains, get_eq_ok_iff, Option.isSome_iff_exists]

theorem register_of_blank (r : Registry) (i : Nat) (h : root.isBlank = true) :
    r.register root i = (.error (.blankArgument .rootUnit), r) := by
  simp [register, h]

theorem register_of_not_blank (r : Registry) (i : Nat) (h : root.isBlank = false) :
    r.register root i = (.ok (r.find? root), ⟨(r.erase root).entries ++ [(root, i)]⟩) := by
  simp [register, h]

theorem find?_register_self (r : Registry) (i : Nat) (h : root.isBlank = false) :
    (r.register root i).2.find? root = some i := by
  have hgone : (r.erase root).entries.find? (fun entry => entry.1 = root) = none := by
    simpa [find?] using find?_erase_self r root
  simp [register_of_not_blank r i h, find?, List.find?_append, hgone]

theorem find?_register_of_ne (r : Registry) (i : Nat) (h : key ≠ root) :
    (r.register root i).2.find? key = r.find? key := by
  cases hblank : root.isBlank with
  | true => rw [register_of_blank r i hblank]
  | false =>
    rw [register_of_not_blank r i hblank, ← find?_erase_of_ne r h]
    simp [find?, List.find?_append, h.symm]

/-- No root has two entries, and no blank root has one. -/
structure Orderly (r : Registry) : Prop where
  nodup : (r.entries.map Prod.fst).Nodup
  named : ∀ entry ∈ r.entries, entry.1.isBlank = false

theorem orderly_empty : Orderly {} where
  nodup := List.nodup_nil
  named _ h := absurd h List.not_mem_nil

theorem Orderly.erase (h : r.Orderly) (root : UnitKey) : (r.erase root).Orderly where
  nodup := h.nodup.sublist (List.filter_sublist.map Prod.fst)
  named entry hentry := h.named entry (List.mem_filter.mp hentry).1

theorem Orderly.register (h : r.Orderly) (root : UnitKey) (i : Nat) :
    (r.register root i).2.Orderly := by
  cases hblank : root.isBlank with
  | true => rwa [register_of_blank r i hblank]
  | false =>
    rw [register_of_not_blank r i hblank]
    have hrest := h.erase root
    constructor
    · have hgone : root ∉ (r.erase root).entries.map Prod.fst := by simp [Registry.erase]
      rw [List.map_append, List.map_singleton, ← List.concat_eq_append]
      exact hrest.nodup.concat hgone
    · intro entry hentry
      rcases List.mem_append.mp hentry with hold | hnew
      · exact hrest.named entry hold
      · rwa [List.mem_singleton.mp hnew]

theorem find?_isSome_iff : (∃ i, r.find? root = some i) ↔ root ∈ r.entries.map Prod.fst := by
  rw [← Option.isSome_iff_exists]
  simp [find?]

theorem Orderly.find?_of_blank (h : r.Orderly) (hblank : root.isBlank = true) :
    r.find? root = none := by
  cases hfound : r.find? root with
  | none => rfl
  | some i =>
    obtain ⟨entry, hentry, rfl⟩ := List.mem_map.mp (find?_isSome_iff.mp ⟨i, hfound⟩)
    simp [h.named entry hentry] at hblank

/-- Each root that has a session counts once. -/
theorem Orderly.size_eq (h : r.Orderly) :
    (r.size : ℕ∞) = Set.encard {root | ∃ i, r.get root = .ok i} := by
  have hroots : {root | ∃ i, r.get root = .ok i} = ((r.entries.map Prod.fst).toFinset : Set _) := by
    ext root
    simp only [Set.mem_ofPred_eq, get_eq_ok_iff, find?_isSome_iff, List.coe_toFinset]
  rw [hroots, Set.encard_coe_eq_coe_finsetCard, List.toFinset_card_of_nodup h.nodup,
    List.length_map, size]

end TypeSurvey.Registry
