import Mathlib.Data.Set.Card
import Mathlib.Order.Bounds.Defs
import TypeSurvey.Proofs.Walk.Listing

/-!
# The scope of a walk

The scope of a root is the least set of units that holds the root and, if the walk may cross, every
unit with the marker that a member refers to. `Coherent` is what every move of a walk keeps; from it
a walk that is not cut short enters exactly the units of the scope, each of them once.
-/
namespace TypeSurvey

/-- The set holds the root and, if `crosses`, the units found for the dependencies of its members
that carry the marker. -/
structure ScopeClosed (p : Program) (g : Gate) (crosses : Bool) (root : CodeUnit)
    (S : Set CodeUnit) : Prop where
  root_mem : root ∈ S
  follow_mem : crosses = true → ∀ u ∈ S, ∀ id ∈ u.dependencies, ∀ v, p.find? id = some v →
    v.carries g.marker = true → v ∈ S

namespace Walk

/-- The entered units whose dependencies have been considered: all but the current one. -/
def departed (w : Walk) : List CodeUnit := if w.current.isSome then w.entered.tail else w.entered

/-- Queued and entered units are told apart by identity and lie in every closed set; what was seen
and may be entered is queued or entered, as long as the walk is not cut short; and the dependencies
of the units left behind have been seen. -/
structure Coherent (p : Program) (root : CodeUnit) (w : Walk) : Prop where
  tidy : w.frontier.Tidy w.entered
  sound : ∀ S, ScopeClosed p w.gate w.crosses root S → ∀ u ∈ w.worklist ++ w.entered, u ∈ S
  covers : w.isOver = false → w.frontier.Covers p w.gate w.entered
  rooted : w.isOver = false → root ∈ w.worklist ++ w.entered
  followed : w.crosses = true → ∀ u ∈ w.departed, ∀ id ∈ u.dependencies, id ∈ w.seen
  latest : ∀ u, w.current = some u → w.entered.head? = some u

theorem coherent_start {p : Program} {g : Gate} {root : CodeUnit} {crosses : Bool}
    {token : Option Token} (hroot : p.find? root.id = some root) :
    (start g root crosses token).Coherent p root := by
  constructor
  · constructor
    · simp [start, frontier]
    · simp [start, frontier]
  · intro S hS u hu
    obtain rfl : u = root := by simpa [start] using hu
    exact hS.root_mem
  · intro _ id hid v hv _
    obtain rfl : id = root.id := by simpa [start, frontier] using hid
    obtain rfl : root = v := Option.some.inj (hroot.symm.trans hv)
    simp [start, frontier]
  · simp [start]
  · simp [start, departed]
  · simp [start]

end Walk

namespace Walk.Coherent

variable {p : Program} {root u : CodeUnit} {w : Walk}

theorem current_mem (h : w.Coherent p root) (hcurrent : w.current = some u) : u ∈ w.entered :=
  List.mem_of_head? (h.latest u hcurrent)

/-- Only the current unit's dependencies may be unseen. -/
theorem followed_of_mem (h : w.Coherent p root) (hcrosses : w.crosses = true)
    {current : CodeUnit} (hcurrent : w.current = some current) (hu : u ∈ w.entered) :
    u = current ∨ ∀ id ∈ u.dependencies, id ∈ w.seen := by
  obtain ⟨rest, hrest⟩ : ∃ rest, w.entered = current :: rest :=
    ⟨_, (List.eq_cons_of_mem_head? (h.latest current hcurrent))⟩
  rcases List.mem_cons.mp (hrest ▸ hu) with rfl | hu
  · exact Or.inl rfl
  · refine Or.inr (h.followed hcrosses u ?_)
    simpa [departed, hcurrent, hrest] using hu

theorem depart (hp : p.Filed) (h : w.Coherent p root) (hcurrent : w.current = some u) :
    (w.departing p u).Coherent p root := by
  unfold departing
  split
  · rename_i hcrosses
    have hseen {id : UnitKey} (hid : id ∈ w.seen) :
        id ∈ (w.frontier.meetAll p w.gate u.dependencies).seen :=
      Frontier.mem_seen_meetAll.mpr (Or.inr hid)
    constructor
    · exact h.tidy.meetAll hp u.dependencies
    · intro S hS v hv
      rcases List.mem_append.mp hv with hv | hv
      · rcases Frontier.mem_worklist_meetAll hv with ⟨id, hid, hfind, hadmits⟩ | hv
        · have hu : u ∈ S :=
            h.sound S hS u (List.mem_append_right _ (h.current_mem hcurrent))
          exact hS.follow_mem hcrosses u hu id hid v hfind (Gate.admits_iff.mp hadmits)
        · exact h.sound S hS v (List.mem_append_left _ hv)
      · exact h.sound S hS v (List.mem_append_right _ hv)
    · intro hlive
      exact (h.covers hlive).meetAll u.dependencies
    · intro hlive
      rcases List.mem_append.mp (h.rooted hlive) with hr | hr
      · exact List.mem_append_left _ (Frontier.worklist_subset_meetAll hr)
      · exact List.mem_append_right _ hr
    · intro _ v hv id hid
      rcases h.followed_of_mem hcrosses hcurrent hv with rfl | hfollowed
      · exact Frontier.mem_seen_meetAll.mpr (Or.inl hid)
      · exact hseen (hfollowed id hid)
    · intro v hv
      exact absurd hv (by simp [withFrontier])
  · rename_i hcrosses
    exact ⟨h.tidy, h.sound, h.covers, h.rooted, fun hc => absurd hc hcrosses,
      fun v hv => absurd hv (by simp)⟩

/-- Entering a unit moves it from the worklist to the entered units. -/
theorem enter (h : w.Coherent p root) {rest : List CodeUnit} (hcurrent : w.current = none)
    (hworklist : w.worklist = u :: rest) : (w.entering u rest).Coherent p root := by
  have hperm : (w.worklist ++ w.entered).Perm (rest ++ u :: w.entered) := by
    rw [hworklist]
    exact List.perm_middle.symm
  constructor
  · constructor
    · exact (hperm.map CodeUnit.id).nodup_iff.mp h.tidy.nodup
    · intro v hv
      exact h.tidy.seen v (hperm.mem_iff.mpr hv)
  · intro S hS v hv
    exact h.sound S hS v (hperm.mem_iff.mpr hv)
  · intro hlive id hid v hfind hadmits
    exact hperm.mem_iff.mp (h.covers hlive id hid v hfind hadmits)
  · intro hlive
    exact hperm.mem_iff.mp (h.rooted hlive)
  · intro hcrosses v hv
    refine h.followed hcrosses v ?_
    simpa [departed, entering, hcurrent] using hv
  · intro v hv
    simpa [entering] using hv

theorem turn (hp : p.Filed) {c : Catalog} {w' : Walk} {m : Move} (hc : c.program = p)
    (hturn : Turn c w m w') (h : w.Coherent p root) : w'.Coherent p root := by
  subst hc
  cases hturn with
  | stay ended => exact h
  | unpack live pending => exact ⟨h.tidy, h.sound, h.covers, h.rooted, h.followed, h.latest⟩
  | list live pending => exact ⟨h.tidy, h.sound, h.covers, h.rooted, h.followed, h.latest⟩
  | depart live pending current => exact h.depart hp current
  | exhaust => exact h
  | cut live pending current worklist cancelled =>
    have hmem {v : CodeUnit} (hv : v ∈ [] ++ w.entered) : v ∈ w.worklist ++ w.entered :=
      List.mem_append_right _ hv
    constructor
    · constructor
      · exact h.tidy.nodup.sublist ((List.sublist_append_right _ _).map CodeUnit.id)
      · intro v hv
        exact h.tidy.seen v (hmem hv)
    · intro S hS v hv
      exact h.sound S hS v (hmem hv)
    · intro hover
      simp at hover
    · intro hover
      simp at hover
    · exact h.followed
    · exact h.latest
  | enter live pending current worklist => exact h.enter current worklist

theorem advances (hp : p.Filed) {w' : Walk} {ts : List TypeDecl} (hw : w.Coherent p root)
    (h : Advances p w ts w') : w'.Coherent p root :=
  h.preserves (fun hc hturn => turn hp hc hturn) hw

/-- With nothing ahead, the entered units are the scope. -/
theorem entered_isLeast (h : w.Coherent p root) (hend : w.Exhausted) :
    IsLeast {S | ScopeClosed p w.gate w.crosses root S} {u | u ∈ w.entered} := by
  constructor
  · constructor
    · simpa [hend.worklist] using h.rooted hend.live
    · intro hcrosses u hu id hid v hfind hmarked
      have hdeparted : u ∈ w.departed := by simpa [departed, hend.current] using hu
      have hseen : id ∈ w.frontier.seen := h.followed hcrosses u hdeparted id hid
      have hmem := h.covers hend.live id hseen v hfind (Gate.admits_iff.mpr hmarked)
      simpa [frontier, hend.worklist] using hmem
  · intro S hS u hu
    exact h.sound S hS u (List.mem_append_right _ hu)

theorem entered_nodup (h : w.Coherent p root) : (w.entered.map CodeUnit.id).Nodup :=
  h.tidy.nodup.sublist ((List.sublist_append_right _ _).map CodeUnit.id)

/-- A root without dependencies is a scope of its own. -/
theorem entered_of_lone (h : w.Coherent p root) (hend : w.Exhausted)
    (hdeps : root.dependencies = []) : w.entered = [root] := by
  have hclosed : ScopeClosed p w.gate w.crosses root {root} := by
    refine ⟨rfl, fun _ u hu id hid => ?_⟩
    obtain rfl : u = root := hu
    simp [hdeps] at hid
  have hleast := h.entered_isLeast hend
  have hnodup : w.entered.Nodup := h.entered_nodup.of_map CodeUnit.id
  have hperm : w.entered.Perm [root] := by
    rw [List.perm_ext_iff_of_nodup hnodup (List.nodup_singleton root)]
    intro u
    rw [List.mem_singleton]
    constructor
    · intro hu
      exact hleast.2 hclosed hu
    · rintro rfl
      exact hleast.1.root_mem
  exact List.perm_singleton.mp hperm

theorem enteredCount_eq_ncard (h : w.Coherent p root) :
    w.enteredCount = {u | u ∈ w.entered}.ncard := by
  classical
  have hset : {u | u ∈ w.entered} = (w.entered.toFinset : Set CodeUnit) := by
    ext u
    simp
  have hnodup : w.entered.Nodup := h.entered_nodup.of_map CodeUnit.id
  rw [hset, Set.ncard_coe_finset, List.toFinset_card_of_nodup hnodup, enteredCount]

end Walk.Coherent

end TypeSurvey
