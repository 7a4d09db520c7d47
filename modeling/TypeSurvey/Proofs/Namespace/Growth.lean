import Mathlib.Data.List.Basic
import Mathlib.Data.List.Induction
import TypeSurvey.Namespace

/-!
# How a namespace tree grows

Types are placed one after the other, each at a path of names. What comes of that is told level by
level: a namespace holds the types whose path ends in it, and one child for each name with which a
path goes on, in the order in which the names are first needed. The child is what comes of the types
that go that way.
-/
namespace TypeSurvey

section Lists

variable {α : Type} [BEq α] [LawfulBEq α] {l p s : List α}

theorem dropPrefix?_eq_some_iff_append : l.dropPrefix? p = some s ↔ l = p ++ s := by
  rw [List.dropPrefix?_eq_some_iff]
  constructor
  · rintro ⟨p', hl, hp⟩
    rw [hl, eq_of_beq hp]
  · intro hl
    exact ⟨p, hl, beq_self_eq_true p⟩

theorem dropPrefix?_append (l p q : List α) :
    l.dropPrefix? (p ++ q) = (l.dropPrefix? p).bind fun rest => rest.dropPrefix? q := by
  ext s
  simp only [Option.bind_eq_some_iff, dropPrefix?_eq_some_iff_append, List.append_assoc]
  constructor
  · intro hl
    exact ⟨q ++ s, hl, rfl⟩
  · rintro ⟨rest, rfl, rfl⟩
    rfl

theorem dropPrefix?_ne_none_iff : l.dropPrefix? p ≠ none ↔ p <+: l := by
  rw [Option.ne_none_iff_exists']
  simp only [dropPrefix?_eq_some_iff_append]
  exact exists_congr fun s => eq_comm

theorem eraseDups_concat (l : List α) (a : α) :
    (l ++ [a]).eraseDups = if l.elem a then l.eraseDups else l.eraseDups ++ [a] := by
  have hsingle : [a].eraseDups = [a] := by simp [List.eraseDups_cons]
  rw [List.eraseDups_append, List.cons_removeAll]
  split <;> simp_all

theorem nodup_eraseDups (l : List α) : l.eraseDups.Nodup := by
  induction l using List.reverseRecOn with
  | nil => simp
  | append_singleton l a ih =>
    rw [eraseDups_concat]
    split
    · exact ih
    · rename_i h
      have hfresh : a ∉ l.eraseDups := by simpa using h
      simpa [List.nodup_append] using ⟨ih, fun b hb e => hfresh (e ▸ List.mem_eraseDups.mpr hb)⟩

end Lists

namespace Namespace

/-- A type with the names of the namespaces it goes through. -/
abbrev Placement := List String × TypeDecl

/-- The types that go through the path, with what is left of their paths. -/
def within (path : List String) (ps : List Placement) : List Placement :=
  ps.filterMap fun p => (p.1.dropPrefix? path).map (·, p.2)

def here (ps : List Placement) : List TypeDecl :=
  ps.filterMap fun p => if p.1 = [] then some p.2 else none

/-- The names with which the paths go on. -/
def heads (ps : List Placement) : List String := ps.filterMap fun p => p.1.head?

/-- The namespace in which the types have been placed one after the other. -/
def grown (name : String) (ps : List Placement) : Namespace :=
  ps.foldl (fun n p => n.place p.2 p.1) { name }

variable {name h : String} {path q : List String} {ps ps' : List Placement} {t : TypeDecl}

@[simp] theorem within_append : within path (ps ++ ps') = within path ps ++ within path ps' :=
  List.filterMap_append

@[simp] theorem here_append : here (ps ++ ps') = here ps ++ here ps' :=
  List.filterMap_append

@[simp] theorem heads_append : heads (ps ++ ps') = heads ps ++ heads ps' :=
  List.filterMap_append

@[simp] theorem within_nil (ps : List Placement) : within [] ps = ps := by
  simp [within]

theorem within_within (path q : List String) (ps : List Placement) :
    within q (within path ps) = within (path ++ q) ps := by
  unfold within
  rw [List.filterMap_filterMap]
  congr 1
  funext p
  rw [dropPrefix?_append]
  cases p.1.dropPrefix? path <;> rfl

theorem within_ne_nil_iff : within path ps ≠ [] ↔ ∃ p ∈ ps, path <+: p.1 := by
  simp only [within, ne_eq, List.filterMap_eq_nil_iff, Option.map_eq_none_iff, not_forall,
    exists_prop, ← dropPrefix?_ne_none_iff]

theorem within_singleton (k : String) (rest : List String) (t : TypeDecl) :
    within [h] [(k :: rest, t)] = if k = h then [(rest, t)] else [] := by
  by_cases hk : k = h <;> simp [within, List.dropPrefix?, hk]

/-- A name is needed exactly if some type goes through it. -/
theorem mem_heads_iff : h ∈ heads ps ↔ within [h] ps ≠ [] := by
  rw [within_ne_nil_iff, heads, List.mem_filterMap]
  refine exists_congr fun p => and_congr_right fun _ => ?_
  cases p.1 with
  | nil => simp
  | cons k rest => simp [eq_comm]

@[simp] theorem grown_nil (name : String) : grown name [] = { name } := rfl

theorem grown_concat (name : String) (ps : List Placement) (p : Placement) :
    grown name (ps ++ [p]) = (grown name ps).place p.2 p.1 := by
  simp [grown]

@[simp] theorem place_name (t : TypeDecl) (path : List String) (n : Namespace) :
    (n.place t path).name = n.name := by
  cases path <;> rfl

@[simp] theorem grown_name (name : String) (ps : List Placement) : (grown name ps).name = name := by
  induction ps using List.reverseRecOn with
  | nil => rfl
  | append_singleton ps p ih => rw [grown_concat, place_name, ih]

/-- Of several children the one called `h` is changed, and if there is none, one is added. -/
theorem changeChild_map {names : List String} (hnames : names.Nodup) {node : String → Namespace}
    (hnode : ∀ k, (node k).name = k) (h : String) (change : Namespace → Namespace) :
    changeChild h change (names.map node) =
      if h ∈ names then names.map (Function.update node h (change (node h)))
      else names.map node ++ [change { name := h }] := by
  induction names with
  | nil => rfl
  | cons k names ih =>
    obtain ⟨hk, hnames⟩ := List.nodup_cons.mp hnames
    rw [List.map_cons, changeChild, hnode, ih hnames]
    by_cases hkh : k = h
    · subst hkh
      have hothers : names.map (Function.update node k (change (node k))) = names.map node := by
        apply List.map_congr_left
        intro j hj
        have hjk : j ≠ k := fun e => hk (e ▸ hj)
        exact Function.update_of_ne hjk _ _
      simp [hothers]
    · by_cases hmem : h ∈ names <;> simp [hkh, hmem, Ne.symm hkh]

/-- One more type changes the child that its path goes on with, or adds it behind the others. -/
theorem changeChild_grown (h : String) (path : List String) (t : TypeDecl) (ps : List Placement) :
    changeChild h (·.place t path) ((heads ps).eraseDups.map fun k => grown k (within [k] ps)) =
      (heads (ps ++ [(h :: path, t)])).eraseDups.map fun k =>
        grown k (within [k] (ps ++ [(h :: path, t)])) := by
  have hheads : heads [(h :: path, t)] = [h] := rfl
  rw [changeChild_map (nodup_eraseDups _) (fun k => grown_name k _)]
  simp only [heads_append, within_append, hheads, eraseDups_concat, within_singleton,
    List.mem_eraseDups, List.elem_eq_mem, decide_eq_true_eq]
  by_cases hneeded : h ∈ heads ps
  · rw [if_pos hneeded, if_pos hneeded]
    apply List.map_congr_left
    intro k _
    by_cases hk : k = h
    · subst hk
      simp [grown_concat]
    · simp [Function.update_of_ne hk, Ne.symm hk]
  · rw [if_neg hneeded, if_neg hneeded, List.map_append]
    have hnone : within [h] ps = [] := by
      by_contra hne
      exact hneeded (mem_heads_iff.mpr hne)
    congr 1
    · apply List.map_congr_left
      intro k hk
      have hkh : h ≠ k := fun e => hneeded (e ▸ List.mem_eraseDups.mp hk)
      simp [hkh]
    · simp [hnone, grown]

/-- A namespace holds the types that end in it and a child for each name that is needed, in the
order in which the names are first needed. -/
theorem grown_eq (name : String) (ps : List Placement) :
    grown name ps =
      ⟨name, (heads ps).eraseDups.map fun h => grown h (within [h] ps), here ps⟩ := by
  induction ps using List.reverseRecOn with
  | nil => rfl
  | append_singleton ps p ih =>
    obtain ⟨path, t⟩ := p
    rw [grown_concat, ih]
    cases path with
    | nil =>
      have hheads : heads [([], t)] = [] := rfl
      have hwithin (h : String) : within [h] [([], t)] = [] := rfl
      simp only [place, heads_append, here_append, within_append, hheads, hwithin,
        List.append_nil]
      rfl
    | cons h path =>
      have hhere : here [(h :: path, t)] = [] := rfl
      rw [place, changeChild_grown, here_append, hhere, List.append_nil]

end Namespace

end TypeSurvey
