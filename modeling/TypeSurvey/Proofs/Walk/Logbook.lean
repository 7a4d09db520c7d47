import Mathlib.Data.List.Induction
import TypeSurvey.Proofs.Walk.Cut

/-!
# The logbook of a walk

Whoever asks a walk for one item after the other sees with each item how many units it has entered.
By these numbers the types of a walk fall into one stretch for each unit, and each stretch is the
recursive listing of the unit's declarations. What happens to the catalog between the calls makes no
difference to that.
-/
namespace TypeSurvey

abbrev LogEntry := Nat × Option (Except SurveyError TypeDecl)

/-- The types among the entries, each with the number of units entered by then. -/
def listedTypes (entries : List LogEntry) : List (Nat × TypeDecl) :=
  entries.filterMap fun entry =>
    match entry.2 with
    | some (.ok t) => some (entry.1, t)
    | _ => none

/-- The types of the units in declaration order, each with the place of its unit. -/
def itemised (units : List CodeUnit) : List (Nat × TypeDecl) :=
  (units.zipIdx 1).flatMap fun place => place.1.root.declared.map (place.2, ·)

theorem itemised_concat (units : List CodeUnit) (u : CodeUnit) :
    itemised (units ++ [u]) =
      itemised units ++ u.root.declared.map (units.length + 1, ·) := by
  simp [itemised, List.zipIdx_append, Nat.add_comm]

/-- The types at one place are those of the unit there. -/
theorem itemised_filter (units : List CodeUnit) (i : Nat) :
    ((itemised units).filter fun item => item.1 = i + 1).map Prod.snd =
      units[i]?.elim [] fun u => u.root.declared := by
  induction units using List.reverseRecOn with
  | nil => rfl
  | append_singleton units u ih =>
    rw [itemised_concat, List.filter_append, List.map_append, ih]
    rcases lt_trichotomy i units.length with hlt | rfl | hgt
    · have hne : units.length ≠ i := by omega
      simp [List.getElem?_append_left hlt, List.filter_map, Function.comp_def, hne]
    · simp [List.filter_map, Function.comp_def]
    · have hne : units.length ≠ i := by omega
      have hnone : (units ++ [u])[i]? = none := by
        rw [List.getElem?_eq_none_iff]
        simp
        omega
      have hbefore : units[i]? = none := by
        rw [List.getElem?_eq_none_iff]
        omega
      simp [hnone, hbefore, List.filter_map, Function.comp_def, hne]

namespace Walk

/-- What calls of `next` bring, each with the number of units entered by then, and the walk behind
them. Each change is what happens to the catalog after a call. -/
def observe (w : Walk) (c : Catalog) : List (Catalog → Catalog) → List LogEntry × Walk
  | [] => ([], w)
  | change :: changes =>
    let first := w.next c
    let others := observe first.2.1 (change first.2.2) changes
    ((first.2.1.enteredCount, first.1) :: others.1, others.2)

/-- What is owed belongs to the latest unit. -/
def outstanding (w : Walk) : List (Nat × TypeDecl) := w.owed.map (w.enteredCount, ·)

/-- The log and what is outstanding are the types of the entered units, and a walk that was cut
short owes nothing. -/
structure Logged (w : Walk) (log : List (Nat × TypeDecl)) : Prop where
  complete : log ++ w.outstanding = itemised w.entered.reverse
  settled : w.isOver = true → w.owed = []

theorem logged_start (g : Gate) (root : CodeUnit) (crosses : Bool) (token : Option Token) :
    (start g root crosses token).Logged [] :=
  ⟨rfl, fun _ => rfl⟩

/-- No further call brings anything, whatever the catalog. -/
def Ended (w : Walk) : Prop := ∀ c, w.step c = (.finished, w, c)

end Walk

variable {c c' : Catalog} {w w' : Walk} {m : Move} {log : List (Nat × TypeDecl)}

theorem Turn.logged (h : Turn c w m w') (hw : w.Logged log) :
    w'.Logged (log ++ m.listed.map (w'.enteredCount, ·)) := by
  constructor
  · rcases h.lists_or_enters with ⟨hentered, howed⟩ | ⟨u, hentered, hnone, hquiet, howed⟩
    · have hcount : w'.enteredCount = w.enteredCount := congrArg List.length hentered
      rw [hentered, ← hw.complete, Walk.outstanding, Walk.outstanding, hcount, howed]
      simp
    · have hlog : log = itemised w.entered.reverse := by
        simpa [Walk.outstanding, hnone] using hw.complete
      rw [hentered, List.reverse_cons, itemised_concat, hquiet, Walk.outstanding, howed,
        Walk.enteredCount, hentered, hlog]
      simp
  · intro hover
    cases h with
    | stay ended => exact hw.settled ended
    | cut live pending => simp [Walk.owed, pending]
    | _ => simp_all [Walk.entering]

namespace Walk

theorem ended_of_finished (h : w.step c = (.finished, w', c')) : w.Ended := by
  intro d
  cases turn_of_step h with
  | stay ended => simp [step, ended]
  | exhaust live pending current worklist => simp [step, live, pending, current, worklist]

theorem Ended.owed (h : w.Ended) (hw : w.Logged log) : w.owed = [] := by
  cases turn_of_step (h { program := .ofUnits [] }) with
  | stay ended => exact hw.settled ended
  | exhaust live pending => simp [Walk.owed, pending]

/-- A walk that has ended brings its end over and over. -/
theorem Ended.observe (h : w.Ended) (changes : List (Catalog → Catalog)) :
    w.observe c changes = (changes.map fun _ => (w.enteredCount, none), w) := by
  induction changes generalizing c with
  | nil => rfl
  | cons change changes ih => simp [Walk.observe, next_of_finished (h c), ih]

theorem listedTypes_cons (entry : LogEntry) (entries : List LogEntry) :
    listedTypes (entry :: entries) = listedTypes [entry] ++ listedTypes entries := by
  rw [← List.singleton_append, listedTypes, List.filterMap_append]
  rfl

/-- One call logs what it brings, and the end is brought by a walk that has ended. -/
theorem next_logged (hw : w.Logged log) :
    (w.next c).2.1.Logged
        (log ++ listedTypes [((w.next c).2.1.enteredCount, (w.next c).1)]) ∧
      ((w.next c).1 = none → (w.next c).2.1.Ended) := by
  induction w, c using next.induct generalizing log with
  | case1 w c w' c' hstep ih =>
    rw [next_of_quiet hstep]
    have hturn := (turn_of_step hstep).logged hw
    simp only [Move.listed, List.map_nil, List.append_nil] at hturn
    exact ih hturn
  | case2 w c r w' c' hstep =>
    rw [next_of_item hstep]
    have hturn := (turn_of_step hstep).logged hw
    cases r with
    | ok t => exact ⟨hturn, by simp⟩
    | error e => exact ⟨hturn, by simp⟩
  | case3 w c w' c' hstep =>
    have hended := ended_of_finished hstep
    rw [next_of_finished (hended c)]
    refine ⟨?_, fun _ => hended⟩
    simpa [listedTypes] using hw

/-- Calls log what they bring, and if the end is among it, then the walk has ended. -/
theorem observe_logged (hw : w.Logged log) (changes : List (Catalog → Catalog)) :
    (w.observe c changes).2.Logged (log ++ listedTypes (w.observe c changes).1) ∧
      (none ∈ (w.observe c changes).1.map Prod.snd → (w.observe c changes).2.Ended) := by
  induction changes generalizing w c log with
  | nil => exact ⟨by simpa [observe, listedTypes] using hw, by simp [observe]⟩
  | cons change changes ih =>
    obtain ⟨hfirst, hend⟩ := next_logged (c := c) hw
    obtain ⟨hothers, hlater⟩ := ih (c := change (w.next c).2.2) hfirst
    simp only [observe]
    rw [listedTypes_cons, ← List.append_assoc]
    refine ⟨hothers, fun hnone => ?_⟩
    rw [List.map_cons, List.mem_cons] at hnone
    rcases hnone with hnone | hnone
    · rw [(hend hnone.symm).observe]
      exact hend hnone.symm
    · exact hlater hnone

/-- Left alone, a walk comes to its end. -/
theorem exists_end (w : Walk) (c : Catalog) :
    ∃ n, none ∈ (w.observe c (List.replicate n id)).1.map Prod.snd := by
  induction w, c using run.induct with
  | case1 w c w' c' hstep ih =>
    obtain ⟨n, hn⟩ := ih
    cases n with
    | zero => simp [observe] at hn
    | succ n =>
      refine ⟨n + 1, ?_⟩
      simpa [List.replicate_succ, observe, next_of_quiet hstep] using hn
  | case2 w c t w' c' hstep ih =>
    obtain ⟨n, hn⟩ := ih
    refine ⟨n + 1, ?_⟩
    simpa [List.replicate_succ, observe, next_of_item hstep] using hn
  | case3 w c e w' c' hstep =>
    refine ⟨2, ?_⟩
    have hover : w'.isOver = true := by
      cases turn_of_step hstep
      rfl
    simp [List.replicate_succ, observe, next_of_item hstep,
      next_of_finished (step_of_over hover)]
  | case4 w c w' c' hstep =>
    exact ⟨1, by simp [observe, next_of_finished hstep]⟩

/-- Whatever happens between the calls, at any time the types listed by a walk, each with the
number of units entered by then, followed by what is outstanding of the latest unit, are the
declarations of the units it has entered: unit by unit in the order of entering, each unit's in
declaration order. A walk that is left alone comes to its end, and at its end nothing is
outstanding. -/
theorem observe_lists_by_unit (g : Gate) (root : CodeUnit) (crosses : Bool) (token : Option Token)
    (c : Catalog) :
    let w := start g root crosses token
    (∀ changes, let seen := w.observe c changes
      let units := seen.2.entered.reverse
      listedTypes seen.1 ++ seen.2.outstanding = itemised units ∧
        (none ∈ seen.1.map Prod.snd →
          listedTypes seen.1 = itemised units ∧
          ∀ i, ((listedTypes seen.1).filter fun item => item.1 = i + 1).map Prod.snd =
            units[i]?.elim [] fun u => u.root.declared)) ∧
      ∃ n, none ∈ (w.observe c (List.replicate n id)).1.map Prod.snd := by
  intro w
  refine ⟨fun changes => ?_, exists_end w c⟩
  intro seen units
  obtain ⟨hlogged, hend⟩ := observe_logged (c := c) (logged_start g root crosses token) changes
  refine ⟨hlogged.complete, fun hnone => ?_⟩
  have hall : listedTypes seen.1 = itemised units := by
    have hcomplete := hlogged.complete
    rw [outstanding, (hend hnone).owed hlogged] at hcomplete
    simpa using hcomplete
  exact ⟨hall, fun i => hall ▸ itemised_filter units i⟩

/-- A type that nests in another comes before the types of a namespace further in. -/
theorem observe_lists_by_unit_services :
    let data : Namespace := { name := "Data", types := [Sample.userRepository] }
    let top : Namespace := { name := "Services", children := [data], types := [Sample.mailer] }
    let root : CodeUnit := { id := Sample.services, root := { name := "", children := [top] } }
    let seen := (start {} root false none).observe { program := Sample.layered.program }
      (List.replicate 4 id)
    none ∈ seen.1.map Prod.snd ∧
      listedTypes seen.1 = itemised seen.2.entered.reverse ∧
      listedTypes seen.1 =
        [(1, Sample.mailer), (1, Sample.mailerOptions), (1, Sample.userRepository)] := by
  intro data top root seen
  have hseen : seen.1 = [(1, some (.ok Sample.mailer)), (1, some (.ok Sample.mailerOptions)),
      (1, some (.ok Sample.userRepository)), (1, none)] := by
    simp only [seen, List.replicate, observe]
    -- enter the unit, unpack its root and the namespace in that, and then the nested type
    rw [next_of_quiet rfl, next_of_quiet rfl, next_of_quiet rfl, next_of_item rfl]
    rw [next_of_item rfl]
    rw [next_of_quiet rfl, next_of_item rfl]
    rw [next_of_quiet rfl, next_of_finished rfl]
    rfl
  have hnone : none ∈ seen.1.map Prod.snd := by simp [hseen]
  refine ⟨hnone, ?_, by simp [hseen, listedTypes]⟩
  exact (((observe_lists_by_unit {} root false none { program := Sample.layered.program }).1
    (List.replicate 4 id)).2 hnone).1

end Walk

end TypeSurvey
