import TypeSurvey.Proofs.Walk.Turn

/-!
# What lookups do to a catalog

A lookup adds to the log and trips wires, and nothing else of a catalog changes during a move of a
walk. Over a catalog that is steady for a token, no lookup changes whether it is cancelled.
-/
namespace TypeSurvey

namespace Catalog

/-- No lookup cancels the token. A program without tripwires is steady for every token. -/
def Steady (c : Catalog) (token : Option Token) : Prop := ∀ wire ∈ c.tripwires, token ≠ some wire.2

variable {c : Catalog} {token : Option Token} {id : UnitKey}

theorem wasCancelled_iff :
    c.wasCancelled token = true ↔ ∃ t, token = some t ∧ t ∈ c.cancelled := by
  cases token <;> simp [wasCancelled]

theorem wasCancelled_cancel {t : Token} : (c.cancel t).wasCancelled (some t) = true := by
  simp [wasCancelled, cancel]

theorem mem_tripped {t : Token} : t ∈ c.tripped id ↔ (id, t) ∈ c.tripwires := by
  simp [tripped]

theorem steady_of_tripwires (h : c.tripwires = []) : c.Steady token := by
  intro wire hwire
  rw [h] at hwire
  exact absurd hwire List.not_mem_nil

theorem Steady.visited (h : c.Steady token) : (c.visited id).Steady token := h

theorem wasCancelled_visited (h : c.Steady token) :
    (c.visited id).wasCancelled token = c.wasCancelled token := by
  rw [Bool.eq_iff_iff, wasCancelled_iff, wasCancelled_iff]
  constructor
  · rintro ⟨t, rfl, ht⟩
    rcases List.mem_append.mp ht with ht | ht
    · exact absurd rfl (h (id, t) (mem_tripped.mp ht))
    · exact ⟨t, rfl, ht⟩
  · rintro ⟨t, rfl, ht⟩
    exact ⟨t, rfl, List.mem_append_right _ ht⟩

/-- Once cancelled, a token stays so. -/
theorem wasCancelled_visited_of (h : c.wasCancelled token = true) :
    (c.visited id).wasCancelled token = true := by
  obtain ⟨t, rfl, ht⟩ := wasCancelled_iff.mp h
  exact wasCancelled_iff.mpr ⟨t, rfl, List.mem_append_right _ ht⟩

end Catalog

namespace Walk

variable {P : Catalog → Prop}

/-- What every lookup keeps is kept while the dependencies of a unit are considered. -/
theorem queue_catalog (hvisit : ∀ {c : Catalog} {id : UnitKey}, P c → P (c.visited id))
    (u : CodeUnit) {s : Walk × Catalog} (h : P s.2) : P (queue u s).2 := by
  unfold queue
  induction u.dependencies with
  | nil => exact h
  | cons id ids ih =>
    rw [List.foldr_cons]
    unfold consider
    split
    · exact ih
    · exact hvisit ih

theorem step_catalog (hvisit : ∀ {c : Catalog} {id : UnitKey}, P c → P (c.visited id)) (w : Walk)
    {c : Catalog} (h : P c) : P (w.step c).2.2 := by
  unfold step
  repeat' split
  all_goals try exact h
  unfold leave
  split
  · exact queue_catalog hvisit _ h
  · exact h

end Walk

end TypeSurvey
