import TypeSurvey.Proofs.TypeDecl.Subtyping

/-!
# The set of capabilities

The capabilities of a type are gathered with a stack of declarations that grows while it is emptied
and a symbol that was met before is dropped from it. What is gathered, in this order, is what a
depth-first search meets for the first time, also where declarations of one symbol disagree.
-/
namespace TypeSurvey.TypeDecl

open Relation

variable {u : TypeDecl} {met met' : List Symbol} {ts found : List TypeDecl}

/-- Depth-first search through the declarations of a list, one after the other. A declaration whose
symbol was met before is passed over. Any other one is followed by what its own capabilities lead to
and only then by what the rest of the list does. The last argument lists what is found. -/
inductive DepthFirst : List Symbol → List TypeDecl → List TypeDecl → Prop
  | done (met : List Symbol) : DepthFirst met [] []
  | pass {met : List Symbol} {t : TypeDecl} {ts found : List TypeDecl} (known : t.symbol ∈ met)
      (rest : DepthFirst met ts found) : DepthFirst met (t :: ts) found
  | meet {met : List Symbol} {t : TypeDecl} {ts below beside : List TypeDecl}
      (fresh : t.symbol ∉ met) (inner : DepthFirst (t.symbol :: met) t.capabilities below)
      (rest : DepthFirst ((t :: below).map symbol ++ met) ts beside) :
      DepthFirst met (t :: ts) (t :: below ++ beside)

/-- Every search comes to its end. -/
theorem exists_depthFirst (met : List Symbol) :
    (ts : List TypeDecl) → ∃ found, DepthFirst met ts found
  | [] => ⟨[], .done met⟩
  | t :: ts => by
    by_cases ht : t.symbol ∈ met
    · obtain ⟨found, hfound⟩ := exists_depthFirst met ts
      exact ⟨found, .pass ht hfound⟩
    · obtain ⟨below, hbelow⟩ := exists_depthFirst (t.symbol :: met) t.capabilities
      obtain ⟨beside, hbeside⟩ := exists_depthFirst ((t :: below).map symbol ++ met) ts
      exact ⟨_, .meet ht hbelow hbeside⟩
termination_by ts => conformanceAll ts
decreasing_by
  all_goals simp only [conformanceAll, conformance_eq]; omega

/-- The order in which symbols were met makes no difference. -/
theorem visit_congr (h : ∀ s, s ∈ met ↔ s ∈ met') : visit met ts = visit met' ts := by
  induction met, ts using visit.induct generalizing met' with
  | case1 met => simp only [visit]
  | case2 met t ts ht ih =>
    rw [visit, if_pos ht, visit, if_pos ((h _).mp ht)]
    exact ih h
  | case3 met t ts ht ih =>
    rw [visit, if_neg ht, visit, if_neg (mt (h _).mpr ht), ih]
    intro s
    rw [List.mem_cons, List.mem_cons, h]

theorem visit_append_comm (as bs met : List Symbol) (ts : List TypeDecl) :
    visit (as ++ (bs ++ met)) ts = visit (bs ++ as ++ met) ts := by
  apply visit_congr
  intro s
  simp only [List.mem_append]
  rw [or_left_comm, or_assoc]

/-- The stack finds what a search of its upper part finds, and then goes on with the lower one. -/
theorem DepthFirst.visit_append (h : DepthFirst met ts found) (us : List TypeDecl) :
    visit met (ts ++ us) = found ++ visit (found.map symbol ++ met) us := by
  induction h generalizing us with
  | done met => rfl
  | pass known _ ih =>
    rw [List.cons_append, visit, if_pos known]
    exact ih us
  | @meet met t ts below beside fresh _ _ ihbelow ihbeside =>
    have hbelow : visit (t.symbol :: met) (t.capabilities ++ (ts ++ us)) =
        below ++ visit ((t :: below).map symbol ++ met) (ts ++ us) := by
      rw [ihbelow]
      exact congrArg (below ++ ·) (visit_append_comm (below.map symbol) [t.symbol] met (ts ++ us))
    have hbeside : visit ((t :: below).map symbol ++ met) (ts ++ us) =
        beside ++ visit ((t :: below ++ beside).map symbol ++ met) us := by
      rw [ihbeside, visit_append_comm, ← List.map_append]
    rw [List.cons_append, visit, if_neg fresh, hbelow, hbeside, List.append_assoc]
    rfl

/-- A search finds what the stack finds, and nothing else. -/
theorem depthFirst_iff : DepthFirst met ts found ↔ found = visit met ts := by
  have heq {found : List TypeDecl} (h : DepthFirst met ts found) : found = visit met ts := by
    have hall := h.visit_append []
    rw [List.append_nil, visit, List.append_nil] at hall
    exact hall.symm
  constructor
  · exact heq
  · rintro rfl
    obtain ⟨found, hfound⟩ := exists_depthFirst met ts
    exact heq hfound ▸ hfound

theorem symbol_not_mem_of_mem_visit (h : u ∈ visit met ts) : u.symbol ∉ met := by
  induction met, ts using visit.induct with
  | case1 met => simp [visit] at h
  | case2 met t ts ht ih =>
    rw [visit, if_pos ht] at h
    exact ih h
  | case3 met t ts ht ih =>
    rw [visit, if_neg ht] at h
    rcases List.mem_cons.mp h with rfl | h
    · exact ht
    · exact fun hmet => ih h (List.mem_cons_of_mem _ hmet)

theorem nodup_visit (met : List Symbol) (ts : List TypeDecl) :
    ((visit met ts).map symbol).Nodup := by
  induction met, ts using visit.induct with
  | case1 met => simp [visit]
  | case2 met t ts ht ih =>
    rw [visit, if_pos ht]
    exact ih
  | case3 met t ts ht ih =>
    rw [visit, if_neg ht, List.map_cons, List.nodup_cons]
    refine ⟨fun hmem => ?_, ih⟩
    obtain ⟨u, hu, hsymbol⟩ := List.mem_map.mp hmem
    exact symbol_not_mem_of_mem_visit hu (hsymbol ▸ List.mem_cons_self)

/-- Whatever the declarations, coherent or not: no symbol is gathered twice; what the type and its
ancestors declare is gathered, and so is what is declared by each declaration that is gathered, all
up to symbols; nothing is gathered that these do not lead to by one capability after the other; and
the order is that of a depth-first search, from the capabilities of the type itself and then from
those of its ancestors, the nearest first. -/
theorem capabilityClosure_gathers (t : TypeDecl) :
    (t.capabilityClosure.map symbol).Nodup ∧
    (∀ x ∈ t :: t.ancestors, ∀ c, x.Declares c → ∃ v ∈ t.capabilityClosure, v.symbol = c.symbol) ∧
    (∀ u ∈ t.capabilityClosure, ∀ c, u.Declares c →
      ∃ v ∈ t.capabilityClosure, v.symbol = c.symbol) ∧
    (∀ u ∈ t.capabilityClosure, ∃ x ∈ t :: t.ancestors, TransGen Declares x u) ∧
    ∀ found, DepthFirst [] ((t :: t.ancestors).flatMap capabilities) found ↔
      found = t.capabilityClosure := by
  refine ⟨nodup_visit _ _, fun x hx c hc => ?_, fun u hu c hc => capabilityClosure_closed hu hc,
    fun u hu => declarer_of_mem_capabilityClosure hu, fun found => depthFirst_iff⟩
  exact symbol_mem_capabilityClosure (List.mem_cons.mp hx) hc

/-- Of the two declarations of one symbol the first one is met below a capability of the type itself.
It stands for the other one, which the base declares, and what only that one leads to is left out. -/
theorem capabilityClosure_gathers_copies :
    let first := plain "IShared"
    let second := plain "IShared" none [plain "IRoot"]
    let middle := plain "IMiddle" none [first]
    let base := plain "Base" none [second]
    let t := plain "Whole" (some base) [middle]
    (base ∈ t.ancestors ∧ base.Declares second ∧
      ∃ v ∈ t.capabilityClosure, v.symbol = second.symbol) ∧
    DepthFirst [] [middle, second] t.capabilityClosure ∧ t.capabilityClosure = [middle, first] := by
  intro first second middle base t
  have hbase : base ∈ t.ancestors := mem_ancestors_of_hasBase rfl
  have hsecond : base.Declares second := List.mem_cons_self
  have hother : first.symbol ∉ [middle.symbol] := by decide +kernel
  have hsame : second.symbol ∈ [middle, first].map symbol := by decide +kernel
  obtain ⟨-, hdeclared, -, -, horder⟩ := capabilityClosure_gathers t
  have hfirst : DepthFirst [middle.symbol] [first] [first] := .meet hother (.done _) (.done _)
  have hfound : DepthFirst [] [middle, second] [middle, first] :=
    .meet List.not_mem_nil hfirst (.pass (List.mem_append_left _ hsame) (.done _))
  have hclosure : [middle, first] = t.capabilityClosure := (horder _).mp hfound
  refine ⟨⟨hbase, hsecond, ?_⟩, ?_, hclosure.symm⟩
  · exact hdeclared base (List.mem_cons_of_mem _ hbase) second hsecond
  · exact hclosure ▸ hfound

end TypeSurvey.TypeDecl
