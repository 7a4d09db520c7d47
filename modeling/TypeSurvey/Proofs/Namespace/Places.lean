import TypeSurvey.Proofs.Namespace.Growth
import TypeSurvey.Proofs.Text.Dotted
import TypeSurvey.Sample

/-!
# Places in a namespace tree

The place of a namespace is the path of names that leads to it from the root. In the tree of a unit
each place is taken once, a namespace holds the types whose path is its place, in the order in which
they were added, and there is a namespace at a place exactly if a type goes through it.
-/
namespace TypeSurvey

/-- The names of the namespaces that a type is declared in, outermost first. -/
def TypeDecl.path (t : TypeDecl) : List String := Text.segments t.space

namespace Namespace

/-- The names of the path lead from `n` to the last argument. -/
inductive At (n : Namespace) : List String → Namespace → Prop
  | root : At n [] n
  | child {path : List String} {m child : Namespace} (parent : At n path m)
      (mem : child ∈ m.children) : At n (path ++ [child.name]) child

/-- The name with which the type's path goes on behind `path`, if it goes through it. -/
def nextName? (path : List String) (t : TypeDecl) : Option String :=
  (t.path.dropPrefix? path).bind List.head?

/-- The names that the types need below the path, in the order of the types. -/
def needed (path : List String) (types : List TypeDecl) : List String :=
  types.filterMap (nextName? path)

variable {name : String} {path : List String} {ps : List Placement} {m : Namespace}
  {types : List TypeDecl}

theorem grown_types (name : String) (ps : List Placement) : (grown name ps).types = here ps := by
  rw [grown_eq]

theorem grown_children (name : String) (ps : List Placement) :
    (grown name ps).children =
      (heads ps).eraseDups.map fun h => grown h (within [h] ps) := by
  rw [grown_eq]

theorem grown_children_names (name : String) (ps : List Placement) :
    (grown name ps).children.map Namespace.name = (heads ps).eraseDups := by
  rw [grown_children, List.map_map]
  exact List.map_id'' (fun h => grown_name h _) _

/-- What lies at a place has grown from the types that go through it. -/
theorem At.eq_grown (hat : (grown name ps).At path m) :
    (path = [] ∨ within path ps ≠ []) ∧
      m = grown (path.getLast?.getD name) (within path ps) := by
  induction hat with
  | root => exact ⟨Or.inl rfl, by simp⟩
  | @child path m child parent mem ih =>
    rw [ih.2, grown_children, List.mem_map] at mem
    obtain ⟨h, hh, rfl⟩ := mem
    rw [List.mem_eraseDups, mem_heads_iff, within_within] at hh
    rw [grown_name, within_within]
    exact ⟨Or.inr hh, by simp⟩

/-- Wherever a type goes through there is a namespace. -/
theorem exists_at (name : String) (h : path = [] ∨ within path ps ≠ []) :
    ∃ m, (grown name ps).At path m := by
  induction path using List.reverseRecOn with
  | nil => exact ⟨_, .root⟩
  | append_singleton path k ih =>
    have hk : within (path ++ [k]) ps ≠ [] := h.resolve_left (by simp)
    rw [← within_within] at hk
    have hparent : within path ps ≠ [] := by
      intro hnil
      exact hk (congrArg (within [k]) hnil)
    obtain ⟨m, hm⟩ := ih (Or.inr hparent)
    have hchild : grown k (within [k] (within path ps)) ∈ m.children := by
      rw [hm.eq_grown.2, grown_children]
      exact List.mem_map_of_mem (List.mem_eraseDups.mpr (mem_heads_iff.mpr hk))
    have hat := At.child hm hchild
    rw [grown_name] at hat
    exact ⟨_, hat⟩

/-- Each type with the path it is placed at. -/
def placements (types : List TypeDecl) : List Placement := types.map fun t => (t.path, t)

theorem ofTypes_eq_grown (types : List TypeDecl) : ofTypes types = grown "" (placements types) := by
  rw [grown, placements, List.foldl_map]
  rfl

theorem within_placements_ne_nil_iff :
    within path (placements types) ≠ [] ↔ ∃ t ∈ types, path <+: t.path := by
  rw [within_ne_nil_iff, placements]
  simp

theorem here_within_placements (path : List String) (types : List TypeDecl) :
    here (within path (placements types)) = types.filter fun t => t.path = path := by
  rw [here, within, placements, List.filterMap_filterMap, List.filterMap_map,
    ← List.filterMap_eq_filter]
  congr 1
  funext t
  have hends : t.path.dropPrefix? path = some [] ↔ t.path = path := by
    rw [dropPrefix?_eq_some_iff_append, List.append_nil]
  by_cases hpath : t.path = path
  · rw [Function.comp_apply, hends.mpr hpath]
    simp [hpath, Option.guard]
  · have hother : t.path.dropPrefix? path ≠ some [] := fun h => hpath (hends.mp h)
    cases hdrop : t.path.dropPrefix? path with
    | none => simp [hdrop, hpath, Option.guard]
    | some rest =>
      have hrest : rest ≠ [] := fun e => hother (hdrop.trans (e ▸ rfl))
      simp [hdrop, hrest, hpath, Option.guard]

theorem heads_within_placements (path : List String) (types : List TypeDecl) :
    heads (within path (placements types)) = needed path types := by
  rw [heads, within, placements, List.filterMap_filterMap, List.filterMap_map, needed]
  congr 1
  funext t
  simp only [nextName?, Function.comp_apply]
  cases t.path.dropPrefix? path <;> rfl

theorem nextName?_eq_some_iff {path : List String} {t : TypeDecl} {h : String} :
    nextName? path t = some h ↔ ∃ rest, t.path = path ++ h :: rest := by
  simp only [nextName?, Option.bind_eq_some_iff, dropPrefix?_eq_some_iff_append,
    List.head?_eq_some_iff]
  constructor
  · rintro ⟨_, hpath, rest, rfl⟩
    exact ⟨rest, hpath⟩
  · rintro ⟨rest, hpath⟩
    exact ⟨_, hpath, rest, rfl⟩

/-- Whatever name is needed is a segment of a namespace text. -/
theorem plain_of_mem_needed {h : String} (hh : h ∈ needed path types) :
    h ≠ "" ∧ '.' ∉ h.toList := by
  obtain ⟨t, -, ht⟩ := List.mem_filterMap.mp hh
  obtain ⟨rest, hpath⟩ := nextName?_eq_some_iff.mp ht
  have hsegment : h ∈ Text.segments t.space := by
    rw [TypeDecl.path] at hpath
    simp [hpath]
  exact ⟨Text.segment_ne_empty hsegment, Text.dot_not_mem_segment hsegment⟩

/-- What a namespace is if the types have been added and it lies at the place `path`. -/
structure Arranges (types : List TypeDecl) (path : List String) (m : Namespace) : Prop where
  distinct : (m.children.map Namespace.name).Nodup
  plain : ∀ child ∈ m.children, child.name ≠ "" ∧ '.' ∉ child.name.toList
  ending : m.types = types.filter fun t => t.path = path
  order : m.children.map Namespace.name = (needed path types).eraseDups

theorem At.arranges (hat : (ofTypes types).At path m) : m.Arranges types path := by
  rw [ofTypes_eq_grown] at hat
  have hm := hat.eq_grown.2
  have horder : m.children.map Namespace.name = (needed path types).eraseDups := by
    rw [hm, grown_children_names, heads_within_placements]
  refine ⟨?_, ?_, ?_, horder⟩
  · rw [horder]
    exact nodup_eraseDups _
  · intro child hchild
    have hname : child.name ∈ m.children.map Namespace.name := List.mem_map_of_mem hchild
    rw [horder, List.mem_eraseDups] at hname
    exact plain_of_mem_needed hname
  · rw [hm, grown_types, here_within_placements]

theorem At.unique {m' : Namespace} (hat : (ofTypes types).At path m)
    (hat' : (ofTypes types).At path m') : m' = m := by
  rw [ofTypes_eq_grown] at hat hat'
  rw [hat.eq_grown.2, hat'.eq_grown.2]

theorem exists_at_iff : (∃ m, (ofTypes types).At path m) ↔
    path = [] ∨ ∃ t ∈ types, path <+: t.path := by
  rw [ofTypes_eq_grown, ← within_placements_ne_nil_iff]
  constructor
  · rintro ⟨m, hat⟩
    exact hat.eq_grown.1
  · exact exists_at ""

/-- Each type has a place. -/
theorem exists_at_path {t : TypeDecl} (ht : t ∈ types) : ∃ m, (ofTypes types).At t.path m :=
  exists_at_iff.mpr (Or.inr ⟨t, ht, List.prefix_rfl⟩)

end Namespace

namespace CodeUnit

/-- In the tree of a unit there is one namespace at most at each place, and there is one exactly at
the root and at the places that a type goes through. It holds the types whose path is its place, in
the order in which they were added, and its children have distinct names that are not empty and have
no dot, in the order in which the names were first needed. -/
theorem ofTypes_arranges (id : UnitKey) (types : List TypeDecl) (dependencies : List UnitKey)
    (annotations : List Annotation) :
    let tree := (ofTypes id types dependencies annotations).root
    (∀ path m, tree.At path m → m.Arranges types path ∧ ∀ m', tree.At path m' → m' = m) ∧
      ∀ path, (∃ m, tree.At path m) ↔ path = [] ∨ ∃ t ∈ types, path <+: t.path := by
  intro tree
  refine ⟨fun path m hat => ?_, fun path => Namespace.exists_at_iff⟩
  exact ⟨hat.arranges, fun m' hat' => hat.unique hat'⟩

/-- The second type goes through the namespace of the first, and the third one's dots say no more
than those of the second. -/
theorem ofTypes_arranges_overlap :
    let declare (space name : String) : TypeDecl := { unit := Sample.app, space, name }
    let types := [declare "App" "Main", declare "App.Data" "Row", declare ".App..Data" "Table"]
    ∃ m, (ofTypes Sample.app types).root.At ["App", "Data"] m ∧
      m.types = [declare "App.Data" "Row", declare ".App..Data" "Table"] ∧
      m.children.map Namespace.name = [] := by
  intro declare types
  have hmain : (declare "App" "Main").path = ["App"] := by decide
  have hrow : (declare "App.Data" "Row").path = ["App", "Data"] := by decide
  have htable : (declare ".App..Data" "Table").path = ["App", "Data"] := by decide
  obtain ⟨harranged, hplaces⟩ := ofTypes_arranges Sample.app types [] []
  have hthrough : ∃ t ∈ types, ["App", "Data"] <+: t.path :=
    ⟨declare "App.Data" "Row", by simp [types], hrow ▸ List.prefix_rfl⟩
  obtain ⟨m, hat⟩ := (hplaces ["App", "Data"]).mpr (Or.inr hthrough)
  have hm := (harranged _ _ hat).1
  refine ⟨m, hat, ?_, ?_⟩
  · rw [hm.ending]
    simp [types, hmain, hrow, htable]
  · rw [hm.order]
    simp [types, Namespace.needed, Namespace.nextName?, hmain, hrow, htable, List.dropPrefix?]

end CodeUnit

end TypeSurvey
