import Mathlib.Logic.Relation
import TypeSurvey.TypeDecl.Lineage

/-!
# What a lineage holds

The chain of ancestors and the set of capabilities hold nothing but what is reached by references.
Both are cut by symbol, and yet whatever one of their members refers to is there as well, if not
itself then as another declaration of its symbol.
-/
namespace TypeSurvey.TypeDecl

open Relation

variable {t u b c : TypeDecl} {seen : List Symbol} {ts us pending : List TypeDecl}

/-- `b` is what `t` declares as its base. -/
def HasBase (t b : TypeDecl) : Prop := t.base = some b

/-- `c` is one of the capabilities that `t` declares itself. -/
def Declares (t c : TypeDecl) : Prop := c ∈ t.capabilities

theorem bases_of_hasBase (h : t.HasBase b) : t.bases = b :: b.bases := by
  cases t
  cases h
  rw [bases]

theorem bases_of_none (h : t.base = none) : t.bases = [] := by
  cases t
  cases h
  rw [bases]

/-- Each of the bases is reached from the type, and behind it stand its own. -/
theorem bases_split (h : t.bases = ts ++ u :: us) : TransGen HasBase t u ∧ u.bases = us := by
  induction ts generalizing t with
  | nil =>
    cases hbase : t.base with
    | none => simp [bases_of_none hbase] at h
    | some b =>
      rw [bases_of_hasBase hbase, List.nil_append] at h
      obtain ⟨rfl, hus⟩ := List.cons.inj h
      exact ⟨.single hbase, hus⟩
  | cons x ts ih =>
    cases hbase : t.base with
    | none => simp [bases_of_none hbase] at h
    | some b =>
      rw [bases_of_hasBase hbase, List.cons_append] at h
      obtain ⟨hreached, hus⟩ := ih (List.cons.inj h).2
      exact ⟨.head hbase hreached, hus⟩

theorem mem_bases_iff : u ∈ t.bases ↔ TransGen HasBase t u := by
  constructor
  · intro h
    obtain ⟨ts, us, hsplit⟩ := List.append_of_mem h
    exact (bases_split hsplit).1
  · intro h
    induction h using TransGen.head_induction_on with
    | single hbase => simp [bases_of_hasBase hbase]
    | head hbase _ ih => exact bases_of_hasBase hbase ▸ List.mem_cons_of_mem _ ih

/-- A symbol that is seen once `t` has been met was seen before or is that of `t`. -/
theorem found_cons {s : Symbol} (h : s ∈ t.symbol :: seen ∨ ∃ z ∈ ts, z.symbol = s) :
    s ∈ seen ∨ ∃ z ∈ t :: ts, z.symbol = s := by
  rcases h with h | ⟨z, hz, hs⟩
  · rcases List.mem_cons.mp h with rfl | h
    · exact Or.inr ⟨t, List.mem_cons_self, rfl⟩
    · exact Or.inl h
  · exact Or.inr ⟨z, List.mem_cons_of_mem _ hz, hs⟩

/-- A cut falls in front of a symbol that was there before. -/
theorem beforeRepeat_cut (seen : List Symbol) (ts : List TypeDecl) :
    beforeRepeat seen ts = ts ∨ ∃ u us, ts = beforeRepeat seen ts ++ u :: us ∧
      (u.symbol ∈ seen ∨ ∃ z ∈ beforeRepeat seen ts, z.symbol = u.symbol) := by
  induction ts generalizing seen with
  | nil => exact Or.inl rfl
  | cons t ts ih =>
    by_cases ht : t.symbol ∈ seen
    · rw [beforeRepeat, if_pos ht]
      exact Or.inr ⟨t, ts, rfl, Or.inl ht⟩
    · rw [beforeRepeat, if_neg ht]
      rcases ih (t.symbol :: seen) with hwhole | ⟨u, us, hsplit, hu⟩
      · exact Or.inl (by rw [hwhole])
      · exact Or.inr ⟨u, us, by rw [List.cons_append, ← hsplit], found_cons hu⟩

/-- Either no base is left out, or the first that is has the symbol of an ancestor. -/
theorem ancestors_cut (t : TypeDecl) :
    t.ancestors = t.bases ∨ ∃ u us, t.bases = t.ancestors ++ u :: us ∧
      ∃ z ∈ t.ancestors, z.symbol = u.symbol := by
  rcases beforeRepeat_cut [] t.bases with hwhole | ⟨u, us, hsplit, hu⟩
  · exact Or.inl hwhole
  · exact Or.inr ⟨u, us, hsplit, hu.resolve_left List.not_mem_nil⟩

/-- Behind an ancestor come the other ancestors and then what is left out. -/
theorem bases_of_mem_ancestors {x : TypeDecl} (hsplit : t.bases = t.ancestors ++ x :: us)
    (hu : u ∈ t.ancestors) : ∃ before behind,
      t.ancestors = before ++ u :: behind ∧ u.bases = behind ++ x :: us := by
  obtain ⟨before, behind, hancestors⟩ := List.append_of_mem hu
  rw [hancestors, List.append_assoc, List.cons_append] at hsplit
  exact ⟨before, behind, hancestors, (bases_split hsplit).2⟩

theorem mem_bases_of_mem_ancestors (h : u ∈ t.ancestors) : u ∈ t.bases := by
  rcases ancestors_cut t with hwhole | ⟨x, us, hsplit, -⟩
  · exact hwhole ▸ h
  · exact hsplit ▸ List.mem_append_left _ h

theorem mem_ancestors_of_hasBase (h : t.HasBase b) : b ∈ t.ancestors := by
  simp [ancestors, bases_of_hasBase h, beforeRepeat]

/-- The base of an ancestor has the symbol of an ancestor. -/
theorem ancestors_closed (hu : u ∈ t.ancestors) (h : u.HasBase b) :
    ∃ z ∈ t.ancestors, z.symbol = b.symbol := by
  rcases ancestors_cut t with hwhole | ⟨x, us, hsplit, hx⟩
  · rw [hwhole, mem_bases_iff] at hu
    exact ⟨b, hwhole ▸ mem_bases_iff.mpr (hu.tail h), rfl⟩
  · obtain ⟨before, behind, hancestors, hbases⟩ := bases_of_mem_ancestors hsplit hu
    rw [bases_of_hasBase h] at hbases
    cases behind with
    | nil =>
      obtain ⟨rfl, -⟩ := List.cons.inj hbases
      exact hx
    | cons y behind =>
      obtain ⟨rfl, -⟩ := List.cons.inj hbases
      exact ⟨b, by simp [hancestors], rfl⟩

/-- If a base is left out, then no ancestor is the last of the bases. -/
theorem ancestors_whole_or (t : TypeDecl) :
    t.ancestors = t.bases ∨ ∀ u ∈ t.ancestors, ∃ b, u.HasBase b := by
  rcases ancestors_cut t with hwhole | ⟨x, us, hsplit, -⟩
  · exact Or.inl hwhole
  · refine Or.inr fun u hu => ?_
    obtain ⟨before, behind, -, hbases⟩ := bases_of_mem_ancestors hsplit hu
    cases hbase : u.base with
    | some b => exact ⟨b, hbase⟩
    | none => simp [bases_of_none hbase] at hbases

/-- What a visit finds is reached from what was pending. -/
theorem reached_of_mem_visit (h : u ∈ visit seen pending) :
    ∃ c ∈ pending, ReflTransGen Declares c u := by
  induction seen, pending using visit.induct with
  | case1 seen => simp [visit] at h
  | case2 seen t rest ht ih =>
    rw [visit, if_pos ht] at h
    obtain ⟨c, hc, hreached⟩ := ih h
    exact ⟨c, List.mem_cons_of_mem _ hc, hreached⟩
  | case3 seen t rest ht ih =>
    rw [visit, if_neg ht] at h
    rcases List.mem_cons.mp h with rfl | h
    · exact ⟨u, List.mem_cons_self, .refl⟩
    · obtain ⟨c, hc, hreached⟩ := ih h
      rcases List.mem_append.mp hc with hc | hc
      · exact ⟨t, List.mem_cons_self, .head hc hreached⟩
      · exact ⟨c, List.mem_cons_of_mem _ hc, hreached⟩

/-- Whatever was pending is found, if not itself then by its symbol. -/
theorem symbol_of_mem_pending (h : c ∈ pending) :
    c.symbol ∈ seen ∨ ∃ u ∈ visit seen pending, u.symbol = c.symbol := by
  induction seen, pending using visit.induct with
  | case1 seen => simp at h
  | case2 seen t rest ht ih =>
    rw [visit, if_pos ht]
    rcases List.mem_cons.mp h with rfl | h
    · exact Or.inl ht
    · exact ih h
  | case3 seen t rest ht ih =>
    rw [visit, if_neg ht]
    rcases List.mem_cons.mp h with rfl | h
    · exact Or.inr ⟨c, List.mem_cons_self, rfl⟩
    · exact found_cons (ih (List.mem_append_right _ h))

/-- What a visit finds has all its capabilities found. -/
theorem visit_closed (hu : u ∈ visit seen pending) (h : u.Declares c) :
    c.symbol ∈ seen ∨ ∃ v ∈ visit seen pending, v.symbol = c.symbol := by
  induction seen, pending using visit.induct with
  | case1 seen => simp [visit] at hu
  | case2 seen t rest ht ih =>
    rw [visit, if_pos ht] at hu ⊢
    exact ih hu
  | case3 seen t rest ht ih =>
    rw [visit, if_neg ht] at hu ⊢
    apply found_cons
    rcases List.mem_cons.mp hu with rfl | hu
    · exact symbol_of_mem_pending (List.mem_append_left _ h)
    · exact ih hu

/-- A capability is reached from the type, or from one of its ancestors, by references to
capabilities alone. -/
theorem declarer_of_mem_capabilityClosure (h : u ∈ t.capabilityClosure) :
    ∃ x ∈ t :: t.ancestors, TransGen Declares x u := by
  obtain ⟨c, hc, hreached⟩ := reached_of_mem_visit h
  rcases List.mem_append.mp hc with hc | hc
  · exact ⟨t, List.mem_cons_self, .head' hc hreached⟩
  · obtain ⟨x, hx, hc⟩ := List.mem_flatMap.mp hc
    exact ⟨x, List.mem_cons_of_mem _ hx, .head' hc hreached⟩

/-- So it is reached by references to bases and then to capabilities. -/
theorem reached_of_mem_capabilityClosure (h : u ∈ t.capabilityClosure) :
    ∃ x, ReflTransGen HasBase t x ∧ TransGen Declares x u := by
  obtain ⟨x, hx, hreached⟩ := declarer_of_mem_capabilityClosure h
  refine ⟨x, ?_, hreached⟩
  rcases List.mem_cons.mp hx with rfl | hx
  · exact .refl
  · exact (mem_bases_iff.mp (mem_bases_of_mem_ancestors hx)).to_reflTransGen

/-- The capabilities of the type and of its ancestors are found. -/
theorem symbol_mem_capabilityClosure (hu : u = t ∨ u ∈ t.ancestors) (h : u.Declares c) :
    ∃ v ∈ t.capabilityClosure, v.symbol = c.symbol := by
  refine (symbol_of_mem_pending ?_).resolve_left List.not_mem_nil
  rcases hu with rfl | hu
  · exact List.mem_append_left _ h
  · exact List.mem_append_right _ (List.mem_flatMap.mpr ⟨u, hu, h⟩)

/-- The capabilities of a capability are found. -/
theorem capabilityClosure_closed (hu : u ∈ t.capabilityClosure) (h : u.Declares c) :
    ∃ v ∈ t.capabilityClosure, v.symbol = c.symbol :=
  (visit_closed hu h).resolve_left List.not_mem_nil

end TypeSurvey.TypeDecl
