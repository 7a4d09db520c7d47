import TypeSurvey.Proofs.Walk.Route

/-!
# What a walk looks up

A walk looks an identity up when it first marks it as seen, and at no other time. The root is marked
from the start, since whoever starts the walk has looked it up. At the end of a walk the identities
that are marked are the root and the dependencies of the entered units.
-/
namespace TypeSurvey

namespace Frontier

variable {p : Program} {g : Gate} {f : Frontier}

theorem nodup_seen_meet (h : f.seen.Nodup) (id : UnitKey) : (f.meet p g id).seen.Nodup := by
  unfold meet
  split
  · exact h
  · rename_i hid
    exact List.nodup_cons.mpr ⟨hid, h⟩

theorem nodup_seen_meetAll (h : f.seen.Nodup) (ids : List UnitKey) :
    (f.meetAll p g ids).seen.Nodup := by
  induction ids with
  | nil => exact h
  | cons id ids ih => exact nodup_seen_meet ih id

end Frontier

namespace Walk

/-- The identities that were marked as seen in between are those that were looked up, in this
order. -/
def Recorded (s s' : Walk × Catalog) : Prop :=
  ∃ ids, s'.1.seen = ids ++ s.1.seen ∧ s'.2.log = ids ++ s.2.log

theorem Recorded.refl (s : Walk × Catalog) : Recorded s s := ⟨[], rfl, rfl⟩

theorem Recorded.trans {s s' s'' : Walk × Catalog} (h : Recorded s s') (h' : Recorded s' s'') :
    Recorded s s'' := by
  obtain ⟨ids, hseen, hlog⟩ := h
  obtain ⟨ids', hseen', hlog'⟩ := h'
  exact ⟨ids' ++ ids, by rw [hseen', hseen, List.append_assoc], by
    rw [hlog', hlog, List.append_assoc]⟩

theorem consider_recorded (id : UnitKey) (s : Walk × Catalog) : Recorded s (consider id s) := by
  unfold consider
  split
  · exact .refl s
  · exact ⟨[id], rfl, rfl⟩

theorem queue_recorded (u : CodeUnit) (s : Walk × Catalog) : Recorded s (queue u s) := by
  unfold queue
  induction u.dependencies with
  | nil => exact .refl s
  | cons id ids ih => exact ih.trans (consider_recorded id _)

theorem step_recorded (w : Walk) (c : Catalog) : Recorded (w, c) (w.step c).2 := by
  unfold step
  repeat' split
  all_goals try exact ⟨[], rfl, rfl⟩
  unfold leave
  split
  · exact queue_recorded _ ({ w with current := none }, c)
  · exact ⟨[], rfl, rfl⟩

theorem run_recorded (w : Walk) (c : Catalog) : Recorded (w, c) (w.run c).2 := by
  have hstepped {w w' : Walk} {c c' : Catalog} {m : Move} (hstep : w.step c = (m, w', c')) :
      Recorded (w, c) (w', c') := by
    have hmove := step_recorded w c
    rwa [hstep] at hmove
  induction w, c using run.induct with
  | case1 w c w' c' hstep ih =>
    rw [run_of_quiet hstep]
    exact (hstepped hstep).trans ih
  | case2 w c t w' c' hstep ih =>
    rw [run_of_item hstep]
    exact (hstepped hstep).trans ih
  | case3 w c e w' c' hstep =>
    rw [run_of_error hstep]
    exact hstepped hstep
  | case4 w c w' c' hstep =>
    rw [run_of_finished hstep]
    exact hstepped hstep

/-- What was seen is the root and dependencies of entered units, and nothing was seen twice. -/
structure Accounted (p : Program) (root : CodeUnit) (w : Walk) : Prop where
  coherent : w.Coherent p root
  nodup : w.seen.Nodup
  rooted : root.id ∈ w.seen
  met : ∀ id ∈ w.seen, id = root.id ∨ w.crosses = true ∧ ∃ u ∈ w.entered, id ∈ u.dependencies

theorem accounted_start {p : Program} {g : Gate} {root : CodeUnit} {crosses : Bool}
    {token : Option Token} (hroot : p.find? root.id = some root) :
    (start g root crosses token).Accounted p root where
  coherent := coherent_start hroot
  nodup := List.nodup_singleton root.id
  rooted := List.mem_singleton_self root.id
  met _ hid := Or.inl (List.mem_singleton.mp hid)

namespace Accounted

variable {p : Program} {root u : CodeUnit} {w w' : Walk} {id : UnitKey}

theorem depart (hp : p.Filed) (h : w.Accounted p root) (hcurrent : w.current = some u) :
    (w.departing p u).Accounted p root := by
  have hcoherent := h.coherent.depart hp hcurrent
  unfold departing at hcoherent ⊢
  split
  · rename_i hcrosses
    rw [if_pos hcrosses] at hcoherent
    constructor
    · exact hcoherent
    · exact Frontier.nodup_seen_meetAll h.nodup u.dependencies
    · exact Frontier.mem_seen_meetAll.mpr (Or.inr h.rooted)
    · intro id hid
      rcases Frontier.mem_seen_meetAll.mp hid with hdep | hseen
      · exact Or.inr ⟨hcrosses, u, h.coherent.current_mem hcurrent, hdep⟩
      · exact h.met id hseen
  · rename_i hstays
    rw [if_neg hstays] at hcoherent
    exact ⟨hcoherent, h.nodup, h.rooted, h.met⟩

theorem turn (hp : p.Filed) {c : Catalog} {m : Move} (hc : c.program = p) (hturn : Turn c w m w')
    (h : w.Accounted p root) : w'.Accounted p root := by
  subst hc
  have hcoherent := h.coherent.turn hp rfl hturn
  cases hturn with
  | depart live pending current => exact h.depart hp current
  | enter =>
    refine ⟨hcoherent, h.nodup, h.rooted, fun id hid => (h.met id hid).imp_right ?_⟩
    rintro ⟨hcrosses, u, hu, hdep⟩
    exact ⟨hcrosses, u, List.mem_cons_of_mem _ hu, hdep⟩
  | stay | exhaust | unpack | list | cut => exact ⟨hcoherent, h.nodup, h.rooted, h.met⟩

theorem advances (hp : p.Filed) {ts : List TypeDecl} (hw : w.Accounted p root)
    (h : Advances p w ts w') : w'.Accounted p root :=
  h.preserves (fun hc hturn => turn hp hc hturn) hw

/-- With nothing ahead, every dependency of an entered unit has been met. -/
theorem mem_seen_iff (h : w.Accounted p root) (hend : w.Exhausted) :
    id ∈ w.seen ↔ id = root.id ∨ w.crosses = true ∧ ∃ u ∈ w.entered, id ∈ u.dependencies := by
  constructor
  · exact h.met id
  · rintro (rfl | ⟨hcrosses, u, hu, hdep⟩)
    · exact h.rooted
    · refine h.coherent.followed hcrosses u ?_ id hdep
      simpa [departed, hend.current] using hu

end Accounted

/-- A complete walk looks up the root and, if crossing is allowed, the dependencies of the units on
the route, each of them once. The lookup of the root comes before the walk. -/
theorem start_lookups {g : Gate} {root : UnitKey} {u : CodeUnit} {token : Option Token}
    {c : Catalog} {ts : List TypeDecl} (hp : c.program.Filed)
    (hfound : c.program.find? root = some u)
    (hrun : ((start g u g.allowsCrossing token).run (c.visited root)).1 = .ok ts) :
    ∃ ids : List UnitKey,
      ((start g u g.allowsCrossing token).run (c.visited root)).2.2.log = ids ++ c.log ∧
      ids.Nodup ∧
      ∀ id, id ∈ ids ↔ id = root ∨
        g.allowsCrossing = true ∧ ∃ v ∈ c.program.route g root, id ∈ v.dependencies := by
  have hid : u.id = root := hp root u hfound
  have hadvances := run_advances hrun
  have hend := run_exhausted hrun rfl
  have hstart : (start g u g.allowsCrossing token).Accounted c.program u :=
    accounted_start (hid ▸ hfound)
  have haccounted := hstart.advances hp hadvances
  obtain ⟨ids, hseen, hlog⟩ := run_recorded (start g u g.allowsCrossing token) (c.visited root)
  have hmarked : ids ++ [root] =
      ((start g u g.allowsCrossing token).run (c.visited root)).2.1.seen := by
    rw [hseen, ← hid]
    rfl
  refine ⟨ids ++ [root], ?_, ?_, fun id => ?_⟩
  · rw [hlog, List.append_assoc]
    rfl
  · exact hmarked ▸ haccounted.nodup
  · have hroute := Program.route_of_run (c := c.visited root) rfl hfound hrun
    have hmem : id ∈ ids ++ [root] ↔ _ := hmarked ▸ haccounted.mem_seen_iff hend
    rw [hadvances.setup.2.1, hid] at hmem
    rw [hmem, show c.program.route g root = _ from hroute]
    simp [start]

end Walk

end TypeSurvey
