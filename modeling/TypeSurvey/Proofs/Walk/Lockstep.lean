import TypeSurvey.Proofs.Walk.Route

/-!
# Walks over two programs in step

All that a walk takes from its program is which unit to queue for a dependency, if any. Where two
programs agree in that, on every dependency of every unit that the walk may enter, the walks over
them make the same moves and the same lookups.
-/
namespace TypeSurvey

/-- The same records over another program. -/
def Catalog.rebase (c : Catalog) (p : Program) : Catalog := { c with program := p }

namespace Walk

section Considering

variable {p' : Program} {c : Catalog} {w : Walk}

/-- Only a unit that the gate admits makes a difference. -/
theorem consider_rebase {id : UnitKey}
    (h : (p'.find? id).filter w.gate.admits = (c.program.find? id).filter w.gate.admits) :
    consider id (w, c.rebase p') = ((consider id (w, c)).1, (consider id (w, c)).2.rebase p') := by
  unfold consider
  split
  · rfl
  · have hreceive : w.receive id ((c.rebase p').lookup id).1 = w.receive id (c.lookup id).1 :=
      congrArg (fun found : Option CodeUnit =>
        { w with seen := id :: w.seen, worklist := found.toList ++ w.worklist }) h
    exact Prod.ext hreceive rfl

theorem foldr_consider_rebase {ids : List UnitKey}
    (h : ∀ id ∈ ids,
      (p'.find? id).filter w.gate.admits = (c.program.find? id).filter w.gate.admits) :
    ids.foldr consider (w, c.rebase p') =
      ((ids.foldr consider (w, c)).1, (ids.foldr consider (w, c)).2.rebase p') := by
  induction ids with
  | nil => rfl
  | cons id ids ih =>
    obtain ⟨hwalk, hprogram⟩ := foldr_consider ids (w, c)
    rw [List.foldr_cons, List.foldr_cons, ih fun k hk => h k (List.mem_cons_of_mem _ hk)]
    apply consider_rebase
    rw [hwalk, hprogram]
    exact h id List.mem_cons_self

theorem leave_rebase {u : CodeUnit}
    (h : w.crosses = true → ∀ id ∈ u.dependencies,
      (p'.find? id).filter w.gate.admits = (c.program.find? id).filter w.gate.admits) :
    w.leave u (c.rebase p') = ((w.leave u c).1, (w.leave u c).2.rebase p') := by
  unfold leave
  split
  · rename_i hcrosses
    exact foldr_consider_rebase (w := { w with current := none }) (h hcrosses)
  · rfl

theorem step_rebase
    (h : w.crosses = true → ∀ u, w.current = some u → ∀ id ∈ u.dependencies,
      (p'.find? id).filter w.gate.admits = (c.program.find? id).filter w.gate.admits) :
    w.step (c.rebase p') = ((w.step c).1, (w.step c).2.1, (w.step c).2.2.rebase p') := by
  unfold step
  split
  · rfl
  · split
    · rfl
    · rfl
    · split
      · rename_i u hcurrent
        rw [leave_rebase fun hcrosses => h hcrosses u hcurrent]
      · split
        · rfl
        · change (if c.wasCancelled w.token then _ else _) = _
          split <;> rfl

end Considering

/-- All that the walk may come to lies in `S`, and for each dependency of a unit in `S` the programs
queue the same. -/
structure InStep (p p' : Program) (root : CodeUnit) (S : Set CodeUnit) (w : Walk) : Prop where
  coherent : w.Coherent p root
  closed : ScopeClosed p w.gate w.crosses root S
  agrees : w.crosses = true → ∀ u ∈ S, ∀ id ∈ u.dependencies,
    (p'.find? id).filter w.gate.admits = (p.find? id).filter w.gate.admits

namespace InStep

variable {p p' : Program} {root : CodeUnit} {S : Set CodeUnit} {w w' : Walk} {c c' : Catalog}
  {m : Move}

theorem turn (hp : p.Filed) (h : w.InStep p p' root S) (hc : c.program = p)
    (hturn : Turn c w m w') : w'.InStep p p' root S := by
  obtain ⟨hgate, hcrosses, -⟩ := hturn.setup
  constructor
  · exact h.coherent.turn hp hc hturn
  · rw [hgate, hcrosses]
    exact h.closed
  · rw [hgate, hcrosses]
    exact h.agrees

/-- One move. -/
theorem step (h : w.InStep p p' root S) (hc : c.program = p) (hstep : w.step c = (m, w', c')) :
    w.step (c.rebase p') = (m, w', c'.rebase p') := by
  subst hc
  have hsame := step_rebase (w := w) (c := c) fun hcrosses u hcurrent =>
    h.agrees hcrosses u (h.coherent.sound S h.closed u
      (List.mem_append_right _ (h.coherent.current_mem hcurrent)))
  rwa [hstep] at hsame

/-- A complete run. -/
theorem run (hp : p.Filed) (h : w.InStep p p' root S) (hc : c.program = p) :
    w.run (c.rebase p') = ((w.run c).1, (w.run c).2.1, (w.run c).2.2.rebase p') := by
  induction w, c using Walk.run.induct with
  | case1 w c w' c' hstep ih =>
    rw [run_of_quiet hstep, run_of_quiet (h.step hc hstep)]
    exact ih (h.turn hp hc (turn_of_step hstep)) ((program_of_step hstep).trans hc)
  | case2 w c t w' c' hstep ih =>
    rw [run_of_item hstep, run_of_item (h.step hc hstep),
      ih (h.turn hp hc (turn_of_step hstep)) ((program_of_step hstep).trans hc)]
  | case3 w c e w' c' hstep => rw [run_of_error hstep, run_of_error (h.step hc hstep)]
  | case4 w c w' c' hstep => rw [run_of_finished hstep, run_of_finished (h.step hc hstep)]

/-- One item, behind which the walks are in step again. -/
theorem next (hp : p.Filed) (h : w.InStep p p' root S) (hc : c.program = p) :
    w.next (c.rebase p') = ((w.next c).1, (w.next c).2.1, (w.next c).2.2.rebase p') ∧
      (w.next c).2.1.InStep p p' root S := by
  induction w, c using Walk.next.induct with
  | case1 w c w' c' hstep ih =>
    rw [next_of_quiet hstep, next_of_quiet (h.step hc hstep)]
    exact ih (h.turn hp hc (turn_of_step hstep)) ((program_of_step hstep).trans hc)
  | case2 w c r w' c' hstep =>
    rw [next_of_item hstep, next_of_item (h.step hc hstep)]
    exact ⟨rfl, h.turn hp hc (turn_of_step hstep)⟩
  | case3 w c w' c' hstep =>
    rw [next_of_finished hstep, next_of_finished (h.step hc hstep)]
    exact ⟨rfl, h.turn hp hc (turn_of_step hstep)⟩

/-- Any number of items. -/
theorem take (hp : p.Filed) (h : w.InStep p p' root S) (hc : c.program = p) (n : Nat) :
    w.take (c.rebase p') n = ((w.take c n).1, (w.take c n).2.1, (w.take c n).2.2.rebase p') := by
  induction n generalizing w c with
  | zero => rfl
  | succ n ih =>
    obtain ⟨hnext, hstays⟩ := h.next hp hc
    have hprogram : (w.next c).2.2.program = p :=
      next_catalog (P := fun d => d.program = p) id hc
    have hothers := ih hstays hprogram
    rw [Walk.take, Walk.take, hnext]
    cases hitem : (w.next c).1 with
    | none => rfl
    | some item => simp only [hothers]

end InStep

end Walk

namespace Program

variable {p p' : Program} {g : Gate} {root : UnitKey} {u v : CodeUnit} {id : UnitKey}

/-- The programs hold the same units under the root and under the identities of the units on its
route, and, if crossing is allowed, the same dependencies of these stand for a unit with the
marker. -/
structure Agree (p p' : Program) (g : Gate) (root : UnitKey) : Prop where
  rooted : p'.find? root = p.find? root
  entered : ∀ v ∈ p.route g root, p'.find? v.id = p.find? v.id
  marked : g.allowsCrossing = true → ∀ v ∈ p.route g root, ∀ id ∈ v.dependencies,
    ((p'.find? id).any fun x => x.carries g.marker) = (p.find? id).any fun x => x.carries g.marker

/-- A marked dependency is on the route itself, so both programs hold the same unit for it. -/
theorem Agree.admitted (hp : p.Filed) (h : p.Agree p' g root) (hfound : p.find? root = some u)
    (hcrosses : g.allowsCrossing = true) (hv : v ∈ p.route g root) (hid : id ∈ v.dependencies) :
    (p'.find? id).filter g.admits = (p.find? id).filter g.admits := by
  rw [g.admits_eq]
  cases hfilter : (p.find? id).filter fun x => x.carries g.marker with
  | some x =>
    obtain ⟨hx, hmarked⟩ := Option.filter_eq_some_iff.mp hfilter
    have hroute : x ∈ p.route g root :=
      (route_isLeast hp hfound).1.follow_mem hcrosses v hv id hid x hx hmarked
    have hsame : p'.find? id = p.find? id := hp id x hx ▸ h.entered x hroute
    rw [hsame, hfilter]
  | none =>
    have hany := h.marked hcrosses v hv id hid
    rw [← Option.isSome_filter, ← Option.isSome_filter, hfilter] at hany
    exact Option.not_isSome_iff_eq_none.mp (by rw [hany]; simp)

/-- Walks from the root start in step, whatever their token. -/
theorem Agree.inStep (hp : p.Filed) (h : p.Agree p' g root) (hfound : p.find? root = some u)
    (token : Option Token) :
    (Walk.start g u g.allowsCrossing token).InStep p p' u {v | v ∈ p.route g root} where
  coherent := Walk.coherent_start (hp root u hfound ▸ hfound)
  closed := (route_isLeast hp hfound).1
  agrees hcrosses _ hv _ hid := h.admitted hp hfound hcrosses hv hid

/-- It is enough to look at a closed set that holds the root. -/
theorem Agree.of_closed (hp : p.Filed) (hfound : p.find? root = some u) {S : Set CodeUnit}
    (hS : ScopeClosed p g g.allowsCrossing u S) (hentered : ∀ v ∈ S, p'.find? v.id = p.find? v.id)
    (hmarked : g.allowsCrossing = true → ∀ v ∈ S, ∀ id ∈ v.dependencies,
      ((p'.find? id).any fun x => x.carries g.marker) =
        (p.find? id).any fun x => x.carries g.marker) : p.Agree p' g root where
  rooted := hp root u hfound ▸ hentered u hS.root_mem
  entered v hv := hentered v (mem_of_mem_route hp hfound hS hv)
  marked hcrosses v hv := hmarked hcrosses v (mem_of_mem_route hp hfound hS hv)

/-- With crossing disabled nothing but the root matters. -/
theorem Agree.of_disabled (hp : p.Filed) (hdisabled : g.allowsCrossing = false)
    (hroot : p'.find? root = p.find? root) : p.Agree p' g root := by
  have hstays (h : g.allowsCrossing = true) : False := by simp [hdisabled] at h
  cases hfound : p.find? root with
  | none =>
    have hroute : p.route g root = [] := by rw [route, hfound]
    exact ⟨hroot, by simp [hroute], by simp [hroute]⟩
  | some u =>
    have hclosed : ScopeClosed p g g.allowsCrossing u {u} := ⟨rfl, fun h => (hstays h).elim⟩
    refine Agree.of_closed hp hfound hclosed ?_ fun h => (hstays h).elim
    rintro v rfl
    rw [hp root v hfound, hroot]

/-- Nothing matters but what is found under which identity. -/
theorem Agree.of_find? (h : ∀ id, p'.find? id = p.find? id) : p.Agree p' g root where
  rooted := h root
  entered v _ := h v.id
  marked _ _ _ id _ := by rw [h id]

end Program

end TypeSurvey
