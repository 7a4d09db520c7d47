import TypeSurvey.Proofs.Walk.Logbook
import TypeSurvey.Proofs.Walk.Scope

/-!
# The bounds of a walk

Whoever asks a walk for its items may stop anywhere, and the token may be cancelled at any time. So
what bounds a walk has to hold between any two moves: which units it has entered or queued, what it
has seen, and where the types come from that it has listed.
-/
namespace TypeSurvey

namespace Walk

/-- On the way from `s` to `w` the unit has been the current one. -/
def Visited (p : Program) (s w : Walk) (v : CodeUnit) : Prop :=
  ∃ ts us x, Advances p s ts x ∧ Advances p x us w ∧ x.current = some v

/-- What bounds the walk `w` when it has come from `s` and has listed the types. -/
structure Bounded (p : Program) (s : Walk) (root : CodeUnit) (listed : List TypeDecl) (w : Walk) :
    Prop where
  nodup : ((w.worklist ++ w.entered).map CodeUnit.id).Nodup
  seen : ∀ v ∈ w.worklist ++ w.entered, v.id ∈ w.seen
  admitted : ∀ v ∈ w.worklist ++ w.entered,
    v = root ∨ v.carries s.gate.marker = true ∧ p.find? v.id = some v
  confined : s.crosses = false → ∀ v ∈ w.worklist ++ w.entered, v = root
  followed : s.crosses = true → ∀ v ∈ w.entered, w.current ≠ some v →
    ∀ id ∈ v.dependencies, id ∈ w.seen
  entered_iff : ∀ v, v ∈ w.entered ↔ Visited p s w v
  counted : w.enteredCount = {v | Visited p s w v}.ncard
  declared : ∀ t ∈ listed, ∃ v ∈ w.entered, t ∈ v.root.declared

end Walk

variable {p : Program} {g : Gate} {crosses : Bool} {token : Option Token} {root v : CodeUnit}
  {s w w' : Walk} {c : Catalog} {m : Move} {listed : List TypeDecl}

/-- A move enters no unit, or else makes the unit it enters the current one. -/
theorem Turn.stays_or_makes_current (h : Turn c w m w') :
    w'.entered = w.entered ∨ ∃ u, w'.current = some u ∧ w'.entered = u :: w.entered := by
  cases h with
  | enter => exact Or.inr ⟨_, rfl, rfl⟩
  | depart => exact Or.inl (by simp)
  | _ => exact Or.inl rfl

namespace Walk

theorem Visited.move (h : Visited p s w v) (hprogram : c.program = p) (hturn : Turn c w m w') :
    Visited p s w' v := by
  obtain ⟨ts, us, x, hx, hrest, hcurrent⟩ := h
  exact ⟨ts, _, x, hx, .move hrest hprogram hturn, hcurrent⟩

/-- Every unit entered on the way has been the current one. -/
theorem visited_of_mem_entered (h : Advances p s listed w) (hstart : s.entered = [])
    (hv : v ∈ w.entered) : Visited p s w v := by
  induction h with
  | still => simp [hstart] at hv
  | move prior hprogram hturn ih =>
    rcases hturn.stays_or_makes_current with hentered | ⟨u, hcurrent, hentered⟩
    · exact (ih (hentered ▸ hv)).move hprogram hturn
    · rcases List.mem_cons.mp (hentered ▸ hv) with rfl | hv
      · exact ⟨_, [], _, .move prior hprogram hturn, .still, hcurrent⟩
      · exact (ih hv).move hprogram hturn

/-- A unit that has been the current one was entered, and entered units stay so. -/
theorem Visited.mem_entered (hp : p.Filed) (hs : s.Coherent p root) (h : Visited p s w v) :
    v ∈ w.entered := by
  obtain ⟨ts, us, x, hx, hrest, hcurrent⟩ := h
  exact hrest.entered_suffix.subset ((hs.advances hp hx).current_mem hcurrent)

/-- The root and whatever carries the marker and is found under its own identity. A coherent walk
stays in every closed set, so this one bounds it without an induction of its own. -/
theorem scopeClosed_admitted (hp : p.Filed) (g : Gate) (crosses : Bool) (root : CodeUnit) :
    ScopeClosed p g crosses root
      {v | v = root ∨ crosses = true ∧ v.carries g.marker = true ∧ p.find? v.id = some v} := by
  refine ⟨Or.inl rfl, fun hcrosses u _ id _ v hfind hmarked => Or.inr ⟨hcrosses, hmarked, ?_⟩⟩
  rw [hp id v hfind]
  exact hfind

theorem Coherent.admitted (hp : p.Filed) (h : w.Coherent p root)
    (hv : v ∈ w.worklist ++ w.entered) :
    v = root ∨ w.crosses = true ∧ v.carries w.gate.marker = true ∧ p.find? v.id = some v :=
  h.sound _ (scopeClosed_admitted hp w.gate w.crosses root) v hv

/-- The dependencies of every unit but the current one have been seen. -/
theorem Coherent.seen_of_ne_current (h : w.Coherent p root) (hcrosses : w.crosses = true)
    (hv : v ∈ w.entered) (hcurrent : w.current ≠ some v) {id : UnitKey}
    (hid : id ∈ v.dependencies) : id ∈ w.seen := by
  cases hc : w.current with
  | none =>
    have hdeparted : v ∈ w.departed := by simpa [departed, hc] using hv
    exact h.followed hcrosses v hdeparted id hid
  | some u =>
    rcases h.followed_of_mem hcrosses hc hv with rfl | hfollowed
    · exact absurd hc hcurrent
    · exact hfollowed id hid

/-- Every type listed is declared in a unit that was entered. -/
theorem exists_declaring (h : Advances p (start g root crosses token) listed w) {t : TypeDecl}
    (ht : t ∈ listed) : ∃ v ∈ w.entered, t ∈ v.root.declared := by
  have hpromised : w.promised = [] ++ listed ++ w.owed := h.promised rfl
  have hmem : t ∈ w.promised := by simp [hpromised, ht]
  obtain ⟨v, hv, hdeclared⟩ := List.mem_flatMap.mp hmem
  exact ⟨v, List.mem_reverse.mp hv, hdeclared⟩

theorem Bounded.of_advances (hp : p.Filed) (hroot : p.find? root.id = some root)
    (h : Advances p (start g root crosses token) listed w) :
    Bounded p (start g root crosses token) root listed w := by
  have hstart : (start g root crosses token).Coherent p root := coherent_start hroot
  have hw : w.Coherent p root := hstart.advances hp h
  obtain ⟨hgate, hcrosses, -⟩ := h.setup
  have hentered (v : CodeUnit) : v ∈ w.entered ↔ Visited p (start g root crosses token) w v :=
    ⟨visited_of_mem_entered h rfl, Visited.mem_entered hp hstart⟩
  constructor
  · exact hw.tidy.nodup
  · exact hw.tidy.seen
  · intro v hv
    rw [← hgate]
    exact (hw.admitted hp hv).imp_right And.right
  · intro hconfined v hv
    rcases hw.admitted hp hv with hroot | ⟨hcrossing, -⟩
    · exact hroot
    · rw [hcrosses, hconfined] at hcrossing
      cases hcrossing
  · intro hcrossing v hv hcurrent id hid
    exact hw.seen_of_ne_current (hcrosses.trans hcrossing) hv hcurrent hid
  · exact hentered
  · rw [hw.enteredCount_eq_ncard]
    simp only [hentered]
  · intro t ht
    exact exists_declaring h ht

/-- A call of `next` is a number of moves, which list what it brings. -/
theorem next_advances (w : Walk) (c : Catalog) (n : Nat) :
    Advances c.program w ((listedTypes [(n, (w.next c).1)]).map Prod.snd) (w.next c).2.1 := by
  induction w, c using next.induct with
  | case1 w c w' c' hstep ih =>
    rw [next_of_quiet hstep]
    rw [program_of_step hstep] at ih
    exact (Advances.single rfl (turn_of_step hstep)).trans ih
  | case2 w c r w' c' hstep =>
    rw [next_of_item hstep]
    have hmove := Advances.single rfl (turn_of_step hstep)
    cases r with
    | ok t => exact hmove
    | error e => exact hmove
  | case3 w c w' c' hstep =>
    rw [next_of_finished hstep]
    exact .single rfl (turn_of_step hstep)

/-- Calls of `next` are moves as well, as long as the program stays the same between them. -/
theorem observe_advances {changes : List (Catalog → Catalog)}
    (hchanges : ∀ change ∈ changes, ∀ d, (change d).program = d.program) (w : Walk) (c : Catalog) :
    Advances c.program w ((listedTypes (w.observe c changes).1).map Prod.snd)
      (w.observe c changes).2 := by
  induction changes generalizing w c with
  | nil => exact .still
  | cons change changes ih =>
    have hprogram : (change (w.next c).2.2).program = c.program := by
      rw [hchanges change List.mem_cons_self]
      exact next_catalog (P := fun d => d.program = c.program) (fun hd => hd) rfl
    have hothers := ih (fun d hd => hchanges d (List.mem_cons_of_mem _ hd)) (w.next c).2.1
      (change (w.next c).2.2)
    rw [hprogram] at hothers
    simp only [observe]
    rw [listedTypes_cons, List.map_append]
    exact (next_advances w c _).trans hothers

/-- From a root that the program has, a walk is bounded after every move, whatever the catalog is
by then, and so it is after any number of calls of `next`, whoever cancels what between them: queued
and entered units have identities of their own, all of them seen; any of them but the root has
opted in and is what the program has under its identity; without crossing there is only the root;
with it, what the units left behind refer to has been seen; the units entered, as many as are
counted, are those that have been the current one; and every type listed is declared in one of
them. -/
theorem bounded_throughout (g : Gate) (crosses : Bool) (token : Option Token)
    {units : List CodeUnit} (root : UnitKey) {u : CodeUnit}
    (hfound : (Program.ofUnits units).find? root = some u) :
    let s := start g u crosses token
    (∀ listed w, Advances (.ofUnits units) s listed w → Bounded (.ofUnits units) s u listed w) ∧
    ∀ c changes, c.program = .ofUnits units →
      (∀ change ∈ changes, ∀ d, (change d).program = d.program) →
      let seen := s.observe c changes
      Bounded (.ofUnits units) s u ((listedTypes seen.1).map Prod.snd) seen.2 := by
  intro s
  have hfiled := Program.filed_ofUnits units
  have hown : (Program.ofUnits units).find? u.id = some u := by
    rw [hfiled root u hfound]
    exact hfound
  refine ⟨fun listed w h => .of_advances hfiled hown h, fun c changes hprogram hchanges => ?_⟩
  have hadvances := observe_advances hchanges s c
  rw [hprogram] at hadvances
  exact .of_advances hfiled hown hadvances

/-- The token is cancelled behind the first type. By then the unit on the right has not even been
seen; then it is queued and given up, and the last call changes nothing. -/
theorem bounded_throughout_cycle :
    ∃ units u, Sample.cycle.program = .ofUnits units ∧
      (Program.ofUnits units).find? Sample.left = some u ∧
      let s := start {} u true (some ⟨0⟩)
      let changes : List (Catalog → Catalog) := [fun d => d.cancel ⟨0⟩, id, id]
      let seen := s.observe { program := .ofUnits units } changes
      (∀ change ∈ changes, ∀ d, (change d).program = d.program) ∧
      Bounded (.ofUnits units) s u ((listedTypes seen.1).map Prod.snd) seen.2 ∧
      (listedTypes seen.1).map (fun item => item.2.name) = ["Alpha"] ∧
      seen.2.enteredCount = 1 ∧ seen.2.worklist = [] ∧
      seen.2.seen = [Sample.right, Sample.left] := by
  refine ⟨_, _, rfl, rfl, ?_⟩
  intro s changes seen
  have hchanges : ∀ change ∈ changes, ∀ d, (change d).program = d.program := by
    simp [changes, Catalog.cancel]
  refine ⟨hchanges, (bounded_throughout {} true _ Sample.left rfl).2 _ changes rfl hchanges, ?_⟩
  simp only [seen, changes, observe]
  -- enter the unit, unpack its root and the namespace in that, and list the type; then leave the
  -- unit and be cut short
  rw [next_of_quiet rfl, next_of_quiet rfl, next_of_quiet rfl, next_of_item rfl]
  rw [next_of_quiet rfl, next_of_item rfl, next_of_finished rfl]
  exact ⟨rfl, rfl, rfl, rfl⟩

end Walk

end TypeSurvey
