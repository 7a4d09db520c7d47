import Mathlib.Data.List.Dedup
import TypeSurvey.Proofs.Namespace.Growth
import TypeSurvey.Proofs.Walk.Route
import TypeSurvey.Sample

/-!
# The order of the route

When a walk leaves a unit, it queues the unit's newcomers: the dependencies that it had not seen and
may enter. They lie in front of all that was queued before, so the first of them is entered next,
and whatever else comes in between, the others follow in their order. That order is the one in which
the dependencies are mentioned for the last time, since the last mention is considered first.
-/
namespace TypeSurvey

/-- Parts of a list without repetitions are told apart by their members. -/
theorem eq_of_sublist_of_perm {α : Type} {l l₁ l₂ : List α} (h₁ : l₁.Sublist l) (h₂ : l₂.Sublist l)
    (hperm : l₁.Perm l₂) (hnodup : l.Nodup) : l₁ = l₂ := by
  induction h₁ generalizing l₂ with
  | slnil => exact hperm.nil_eq
  | @cons l₁ l a h₁ ih =>
    obtain ⟨ha, hnodup⟩ := List.nodup_cons.mp hnodup
    cases h₂ with
    | cons _ h₂ => exact ih h₂ hperm hnodup
    | cons_cons => exact absurd (h₁.subset (hperm.mem_iff.mpr List.mem_cons_self)) ha
  | @cons_cons l₁ l a h₁ ih =>
    obtain ⟨ha, hnodup⟩ := List.nodup_cons.mp hnodup
    cases h₂ with
    | cons _ h₂ => exact absurd (h₂.subset (hperm.mem_iff.mp List.mem_cons_self)) ha
    | cons_cons _ h₂ => rw [ih h₂ hperm.cons_inv hnodup]

/-- The units that the identities stand for, unless the identity was seen or the unit does not carry
the marker. -/
def Program.newcomers (p : Program) (g : Gate) (seen ids : List UnitKey) : List CodeUnit :=
  ids.filterMap fun id =>
    if id ∈ seen then none else (p.find? id).filter fun u => u.carries g.marker

/-- Of the units to come, the first of the queued ones is next, and they come in their order. -/
structure InTurn (queued ahead : List CodeUnit) : Prop where
  sublist : queued.Sublist ahead
  first : queued ≠ [] → ahead.head? = queued.head?

namespace InTurn

variable {queued ahead others : List CodeUnit}

theorem front (queued others : List CodeUnit) : InTurn queued (queued ++ others) where
  sublist := List.sublist_append_left queued others
  first := List.head?_append_of_ne_nil queued

/-- Units that are put in behind the next one change nothing. -/
theorem insert {first : List CodeUnit} (h : InTurn queued (first ++ ahead)) (hfirst : first ≠ [])
    (others : List CodeUnit) : InTurn queued (first ++ (others ++ ahead)) where
  sublist := h.sublist.trans ((List.sublist_append_right others ahead).append_left first)
  first hqueued := by
    rw [List.head?_append_of_ne_nil first hfirst, ← h.first hqueued,
      List.head?_append_of_ne_nil first hfirst]

/-- Two orders of the same units cannot both be kept. -/
theorem eq_of_perm (h : InTurn queued ahead) (h' : InTurn others ahead) (hperm : queued.Perm others)
    (hnodup : ahead.Nodup) : queued = others :=
  eq_of_sublist_of_perm h.sublist h'.sublist hperm hnodup

end InTurn

namespace Program

variable {p : Program} {g : Gate} {seen seen' ids ids' : List UnitKey} {id : UnitKey}

theorem newcomers_congr (h : ∀ id, id ∈ seen ↔ id ∈ seen') :
    p.newcomers g seen ids = p.newcomers g seen' ids := by
  simp only [newcomers, h]

theorem newcomers_perm (h : ids.Perm ids') :
    (p.newcomers g seen ids).Perm (p.newcomers g seen ids') := h.filterMap _

theorem newcomers_cons_of_mem (h : id ∈ seen) :
    p.newcomers g seen (id :: ids) = p.newcomers g seen ids := by
  simp [newcomers, h]

theorem newcomers_cons (h : id ∉ seen) :
    p.newcomers g seen (id :: ids) =
      ((p.find? id).filter fun u => u.carries g.marker).toList ++ p.newcomers g seen ids := by
  cases hfound : (p.find? id).filter fun u => u.carries g.marker <;> simp [newcomers, h, hfound]

end Program

/-- What a list of dependencies puts in front of the worklist. An identity that is mentioned again
further on has been seen when it is met. -/
theorem Frontier.worklist_meetAll (p : Program) (g : Gate) (ids : List UnitKey) (f : Frontier) :
    (f.meetAll p g ids).worklist = p.newcomers g f.seen ids.dedup ++ f.worklist := by
  induction ids with
  | nil => rfl
  | cons id ids ih =>
    have hstep : f.meetAll p g (id :: ids) = (f.meetAll p g ids).meet p g id := rfl
    rw [hstep, meet, g.admits_eq]
    by_cases hagain : id ∈ ids
    · rw [if_pos (mem_seen_meetAll.mpr (Or.inl hagain)), List.dedup_cons_of_mem hagain, ih]
    · rw [List.dedup_cons_of_notMem hagain]
      by_cases hseen : id ∈ f.seen
      · rw [if_pos (mem_seen_meetAll.mpr (Or.inr hseen)), Program.newcomers_cons_of_mem hseen, ih]
      · have hfresh : id ∉ (f.meetAll p g ids).seen := by
          simp [mem_seen_meetAll, hagain, hseen]
        rw [if_neg hfresh, Program.newcomers_cons hseen, List.append_assoc, ih]

namespace Walk

/-- What was seen are the root and the dependencies of the units left behind; and as long as the
walk is not cut short, after each of these units its newcomers come in turn, first those entered
since and then those queued. -/
structure Ordered (p : Program) (root : CodeUnit) (w : Walk) : Prop where
  coherent : w.Coherent p root
  rooted : root.id ∈ w.seen
  met : ∀ id ∈ w.seen, id = root.id ∨ ∃ u ∈ w.departed, id ∈ u.dependencies
  inTurn : w.isOver = false → ∀ before u after, w.entered.reverse = before ++ u :: after →
    (after = [] → w.current = none) →
    InTurn (p.newcomers w.gate (root.id :: before.flatMap CodeUnit.dependencies)
      u.dependencies.dedup) (after ++ w.worklist)

theorem ordered_start {p : Program} {g : Gate} {root : CodeUnit} {crosses : Bool}
    {token : Option Token} (hroot : p.find? root.id = some root) :
    (start g root crosses token).Ordered p root where
  coherent := coherent_start hroot
  rooted := List.mem_singleton_self root.id
  met _ hid := Or.inl (List.mem_singleton.mp hid)
  inTurn _ before u after hentered := by simp [start] at hentered

namespace Ordered

variable {p : Program} {root u : CodeUnit} {w w' : Walk} {id : UnitKey}

/-- When a unit is left, what was seen are the root and the dependencies of the units before it. -/
theorem mem_seen_iff (h : w.Ordered p root) (hcrosses : w.crosses = true)
    (hcurrent : w.current = some u) {before : List CodeUnit}
    (hentered : w.entered.reverse = before ++ [u]) :
    id ∈ w.seen ↔ id ∈ root.id :: before.flatMap CodeUnit.dependencies := by
  have hdeparted : w.departed = before.reverse := by
    have hreverse : w.entered = u :: before.reverse := by simpa using congrArg List.reverse hentered
    simp [departed, hcurrent, hreverse]
  rw [List.mem_cons, List.mem_flatMap]
  constructor
  · intro hid
    simpa [hdeparted] using h.met id hid
  · rintro (rfl | ⟨v, hv, hid⟩)
    · exact h.rooted
    · exact h.coherent.followed hcrosses v (by simpa [hdeparted] using hv) id hid

theorem mem_entered_of_mem_departed (hu : u ∈ w.departed) : u ∈ w.entered := by
  unfold departed at hu
  split at hu
  · exact List.mem_of_mem_tail hu
  · exact hu

theorem depart (hp : p.Filed) (h : w.Ordered p root) (hcrosses : w.crosses = true)
    (hcurrent : w.current = some u) : (w.departing p u).Ordered p root := by
  have hcoherent := h.coherent.depart hp hcurrent
  have hleft : w.departing p u =
      { w with current := none }.withFrontier (w.frontier.meetAll p w.gate u.dependencies) :=
    if_pos hcrosses
  rw [hleft] at hcoherent ⊢
  constructor
  · exact hcoherent
  · exact Frontier.mem_seen_meetAll.mpr (Or.inr h.rooted)
  · intro id hid
    rcases Frontier.mem_seen_meetAll.mp hid with hdep | hseen
    · exact Or.inr ⟨u, h.coherent.current_mem hcurrent, hdep⟩
    · refine (h.met id hseen).imp_right ?_
      rintro ⟨v, hv, hdep⟩
      exact ⟨v, mem_entered_of_mem_departed (w := w) hv, hdep⟩
  · intro hlive before v after hsplit _
    have hentered : w.entered.reverse = before ++ v :: after := hsplit
    have hworklist : (w.frontier.meetAll p w.gate u.dependencies).worklist =
        p.newcomers w.gate w.seen u.dependencies.dedup ++ w.worklist :=
      Frontier.worklist_meetAll p w.gate u.dependencies w.frontier
    simp only [withFrontier, hworklist]
    by_cases hafter : after = []
    · -- the last unit entered is the one that is left now
      subst hafter
      obtain rfl : u = v := by
        have hlatest := h.coherent.latest u hcurrent
        have hreverse : w.entered = v :: before.reverse := by
          simpa using congrArg List.reverse hentered
        simpa [hreverse] using hlatest.symm
      rw [p.newcomers_congr fun id => h.mem_seen_iff hcrosses hcurrent hentered]
      exact .front _ _
    · exact (h.inTurn hlive before v after hentered fun hnil => absurd hnil hafter).insert hafter _

theorem enter (h : w.Ordered p root) {rest : List CodeUnit} (hcurrent : w.current = none)
    (hworklist : w.worklist = u :: rest) : (w.entering u rest).Ordered p root where
  coherent := h.coherent.enter hcurrent hworklist
  rooted := h.rooted
  met id hid := by
    simpa [departed, entering, hcurrent] using h.met id hid
  inTurn hlive before v after hentered hlast := by
    have hsplit : w.entered.reverse ++ [u] = before ++ v :: after := by
      simpa [entering] using hentered
    rcases List.eq_nil_or_concat after with rfl | ⟨after', z, rfl⟩
    · simp [entering] at hlast
    · have hsplit' : w.entered.reverse ++ [u] = (before ++ v :: after') ++ [z] := by
        simpa using hsplit
      obtain ⟨hbefore, hz⟩ := List.append_inj' hsplit' rfl
      obtain rfl : u = z := by simpa using hz
      have hturn := h.inTurn hlive before v after' hbefore fun _ => hcurrent
      simpa [entering, hworklist] using hturn

theorem turn (hp : p.Filed) {c : Catalog} {m : Move} (hc : c.program = p) (hturn : Turn c w m w')
    (h : w.crosses = true ∧ w.Ordered p root) : w'.crosses = true ∧ w'.Ordered p root := by
  obtain ⟨hcrosses, h⟩ := h
  refine ⟨hturn.setup.2.1.trans hcrosses, ?_⟩
  subst hc
  have hcoherent := h.coherent.turn hp rfl hturn
  cases hturn with
  | depart live pending current => exact h.depart hp hcrosses current
  | enter live pending current worklist => exact h.enter current worklist
  | cut => exact ⟨hcoherent, h.rooted, h.met, fun hover => by simp at hover⟩
  | stay | exhaust | unpack | list => exact ⟨hcoherent, h.rooted, h.met, h.inTurn⟩

end Ordered

end Walk

namespace Program

variable {units : List CodeUnit} {g : Gate} {root : UnitKey} {before after : List CodeUnit}
  {u : CodeUnit}

theorem route_nodup {p : Program} (hp : p.Filed) : (p.route g root).Nodup := by
  cases hfound : p.find? root with
  | none => simp [route, hfound]
  | some r =>
    have hself : p.find? r.id = some r := hp root r hfound ▸ hfound
    obtain ⟨ts, w, hadvances, -, hroute⟩ := route_reached (g := g) hfound
    have hcoherent := (Walk.coherent_start hself).advances hp hadvances
    rw [hroute, List.nodup_reverse]
    exact hcoherent.entered_nodup.of_map CodeUnit.id

/-- The newcomers among the dependencies of a unit on the route come in turn after it, in the order
of their last mentions. -/
theorem inTurn_of_route {p : Program} (hp : p.Filed) (hcrosses : g.allowsCrossing = true)
    (h : p.route g root = before ++ u :: after) :
    InTurn (p.newcomers g (root :: before.flatMap CodeUnit.dependencies) u.dependencies.dedup)
      after := by
  cases hfound : p.find? root with
  | none => simp [route, hfound] at h
  | some r =>
    have hid : r.id = root := hp root r hfound
    have hself : p.find? r.id = some r := hid ▸ hfound
    obtain ⟨ts, w, hadvances, hend, hroute⟩ := route_reached (g := g) hfound
    have hordered :=
      (hadvances.preserves (Walk.Ordered.turn hp) ⟨hcrosses, Walk.ordered_start hself⟩).2
    have hsplit : w.entered.reverse = before ++ u :: after := hroute.symm.trans h
    have hturn := hordered.inTurn hend.live before u after hsplit fun _ => hend.current
    rwa [hend.worklist, List.append_nil, hadvances.setup.1, hid] at hturn

/-- On a route that crosses, the units that a unit newly brings in come in turn after it: the first
of them is the next unit entered, and the others follow in their order, which is the order in which
their dependencies are mentioned for the last time. The order of the first mentions is kept exactly
if it is the same. -/
theorem route_by_last_mention (units : List CodeUnit) (hcrosses : g.allowsCrossing = true)
    (h : (ofUnits units).route g root = before ++ u :: after) :
    let brought (ids : List UnitKey) :=
      (ofUnits units).newcomers g (root :: before.flatMap CodeUnit.dependencies) ids
    InTurn (brought u.dependencies.dedup) after ∧
      (InTurn (brought u.dependencies.eraseDups) after ↔
        brought u.dependencies.eraseDups = brought u.dependencies.dedup) := by
  intro brought
  have hfiled : (ofUnits units).Filed := filed_ofUnits units
  have hlast : InTurn (brought u.dependencies.dedup) after := inTurn_of_route hfiled hcrosses h
  have hnodup : after.Nodup := by
    have hroute : (before ++ u :: after).Nodup := h ▸ route_nodup hfiled
    exact ((List.sublist_cons_self u after).trans (List.sublist_append_right before _)).nodup hroute
  have hperm : (brought u.dependencies.eraseDups).Perm (brought u.dependencies.dedup) := by
    apply newcomers_perm
    rw [List.perm_ext_iff_of_nodup (nodup_eraseDups _) (List.nodup_dedup _)]
    intro id
    rw [List.mem_eraseDups, List.mem_dedup]
  refine ⟨hlast, fun hfirst => hfirst.eq_of_perm hlast hperm hnodup, fun hsame => ?_⟩
  rw [hsame]
  exact hlast

/-- An application that mentions the left unit both before and behind the right one. -/
def mentioner : CodeUnit :=
  { id := Sample.app, dependencies := [Sample.left, Sample.right, Sample.left] }

def openUnit (id : UnitKey) (dependencies : List UnitKey) : CodeUnit :=
  { id, dependencies, annotations := [Sample.optIn] }

def mentionedTwice : Program :=
  .ofUnits [mentioner, openUnit Sample.left [], openUnit Sample.right [Sample.core],
    openUnit Sample.core []]

theorem route_mentionedTwice :
    mentionedTwice.route {} Sample.app =
      [mentioner, openUnit Sample.right [Sample.core], openUnit Sample.core [],
        openUnit Sample.left []] := by
  have hfound : mentionedTwice.find? Sample.app = some mentioner := rfl
  rw [route_of_found hfound]
  -- each unit is entered, its root unpacked and the unit left again
  rw [Walk.run_of_quiet rfl, Walk.run_of_quiet rfl, Walk.run_of_quiet rfl]
  rw [Walk.run_of_quiet rfl, Walk.run_of_quiet rfl, Walk.run_of_quiet rfl]
  rw [Walk.run_of_quiet rfl, Walk.run_of_quiet rfl, Walk.run_of_quiet rfl]
  rw [Walk.run_of_quiet rfl, Walk.run_of_quiet rfl, Walk.run_of_quiet rfl]
  rw [Walk.run_of_finished rfl]
  rfl

/-- The left unit comes last, and the core that the right one brings in lies in between. -/
theorem route_by_last_mention_twice :
    let brought := mentionedTwice.newcomers {} [Sample.app]
    let after := [openUnit Sample.right [Sample.core], openUnit Sample.core [],
      openUnit Sample.left []]
    ({} : Gate).allowsCrossing = true ∧
      mentionedTwice.route {} Sample.app = [] ++ mentioner :: after ∧
      brought mentioner.dependencies.dedup =
        [openUnit Sample.right [Sample.core], openUnit Sample.left []] ∧
      InTurn (brought mentioner.dependencies.dedup) after ∧
      (InTurn (brought mentioner.dependencies.eraseDups) after ↔
        brought mentioner.dependencies.eraseDups = brought mentioner.dependencies.dedup) := by
  intro brought after
  have hroute : mentionedTwice.route {} Sample.app = [] ++ mentioner :: after :=
    route_mentionedTwice
  exact ⟨rfl, hroute, rfl, route_by_last_mention _ rfl hroute⟩

/-- In the order of first mentions the left unit would come next. -/
theorem not_inTurn_first_mention :
    let brought := mentionedTwice.newcomers {} [Sample.app] mentioner.dependencies.eraseDups
    let after := [openUnit Sample.right [Sample.core], openUnit Sample.core [],
      openUnit Sample.left []]
    brought = [openUnit Sample.left [], openUnit Sample.right [Sample.core]] ∧
      mentionedTwice.route {} Sample.app = mentioner :: after ∧ ¬ InTurn brought after := by
  intro brought after
  have hbrought : brought = [openUnit Sample.left [], openUnit Sample.right [Sample.core]] := rfl
  refine ⟨hbrought, route_mentionedTwice, fun hturn => ?_⟩
  have hnext : some Sample.right = some Sample.left :=
    congrArg (Option.map CodeUnit.id) (hturn.first (by simp [hbrought]))
  exact absurd hnext (by decide)

end Program

end TypeSurvey
