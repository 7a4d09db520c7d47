import TypeSurvey.BuildPass
import TypeSurvey.Proofs.Registry
import TypeSurvey.Proofs.Session.Calls

/-!
# Runs of a build pass

Whatever is registered, removed, cleared, looked up and asked in whatever order, a root is served by
the session that was last registered for it and not removed since. And a session is as the calls to
itself left it, whether or not the registry still finds it.
-/
namespace TypeSurvey.BuildPass

/-- What is done in a build pass. A question goes to the session that serves a root or, like any
other call, to a session that is held. -/
inductive Act where
  | register (root : UnitKey) (place : Nat)
  | remove (root : UnitKey)
  | clear
  | get (root : UnitKey)
  | contains (root : UnitKey)
  | size
  | statistics (root : UnitKey)
  | ask (key : UnitKey) (q : Question) (root : UnitKey)
  | call (place : Nat) (x : Session.Call)

variable {b : BuildPass} {a : Act} {root key : UnitKey} {i j : Nat} {history : List Act}

/-- The build pass after one act, whatever its result. -/
def perform (b : BuildPass) : Act → BuildPass
  | .register root place => { b with registry := (b.registry.register root place).2 }
  | .remove root => { b with registry := (b.registry.remove root).2 }
  | .clear => { b with registry := {} }
  | .get _ | .contains _ | .size | .statistics _ => b
  | .ask key q root => (b.ask key q root).2
  | .call place x => { b with sessions := b.sessions.modify place (·.call x) }

def after (b : BuildPass) (history : List Act) : BuildPass := history.foldl perform b

/-- What ends the service of a session for `root`, be it that another one takes its place. -/
def Act.Ends (a : Act) (root : UnitKey) : Prop :=
  a = .clear ∨ a = .remove root ∨ ∃ place, a = .register root place

/-- The last session that was registered for `root`, unless it was removed or all were. -/
def Latest (history : List Act) (root : UnitKey) (place : Nat) : Prop :=
  root.isBlank = false ∧ ∃ before later, history = before ++ .register root place :: later ∧
    ∀ a ∈ later, ¬ a.Ends root

/-- The session an act calls, and how. -/
def addressed (b : BuildPass) : Act → Option (Nat × Session.Call)
  | .ask key q root =>
    match b.registry.find? key with
    | some place => some (place, .ask q root none)
    | none => none
  | .call place x => some (place, x)
  | _ => none

/-- What an act calls on the session at place `j`. -/
def calls (b : BuildPass) (j : Nat) (a : Act) : List Session.Call :=
  match b.addressed a with
  | some (place, x) => if place = j then [x] else []
  | none => []

/-- What a run calls on the session at place `j`. -/
def heard (b : BuildPass) (j : Nat) : List Act → List Session.Call
  | [] => []
  | a :: rest => b.calls j a ++ (b.perform a).heard j rest

theorem after_concat (b : BuildPass) (history : List Act) (a : Act) :
    b.after (history ++ [a]) = (b.after history).perform a := by
  simp [after, List.foldl_append]

theorem serving_of_found {s : Session} (h : b.registry.find? key = some i)
    (hs : b.sessions[i]? = some s) : b.serving key = .ok (i, s) := by
  simp [serving, Registry.get, h, hs]

theorem serving_of_missing (h : ∀ i, b.registry.find? key = some i → b.sessions[i]? = none) :
    b.serving key = .error (.noSession key) := by
  simp only [serving, Registry.get]
  cases hplace : b.registry.find? key with
  | none => rfl
  | some place => simp only [h place hplace]

theorem sessions_ask (b : BuildPass) (key : UnitKey) (q : Question) (root : UnitKey) (j : Nat) :
    (b.ask key q root).2.sessions[j]? =
      b.sessions[j]?.map (·.after (b.calls j (.ask key q root))) := by
  by_cases hserved : ∃ place s, b.registry.find? key = some place ∧ b.sessions[place]? = some s
  · obtain ⟨place, s, hplace, hs⟩ := hserved
    simp only [ask, serving_of_found hplace hs, calls, addressed, hplace]
    by_cases hj : place = j
    · subst hj
      obtain ⟨hlt, -⟩ := List.getElem?_eq_some_iff.mp hs
      rw [List.getElem?_set_self hlt, hs, if_pos rfl]
      rfl
    · rw [List.getElem?_set_ne hj, if_neg hj]
      simp [Session.after]
  · have hmissing : ∀ i, b.registry.find? key = some i → b.sessions[i]? = none := by
      intro i hi
      exact Option.eq_none_iff_forall_ne_some.mpr fun s hs => hserved ⟨i, s, hi, hs⟩
    simp only [ask, serving_of_missing hmissing, calls, addressed]
    cases hplace : b.registry.find? key with
    | none => simp [Session.after]
    | some place =>
      by_cases hj : place = j
      · simp [← hj, hmissing place hplace]
      · simp [hj, Session.after]

/-- A session is changed by the calls to it and by nothing else. -/
theorem sessions_perform (b : BuildPass) (a : Act) (j : Nat) :
    (b.perform a).sessions[j]? = b.sessions[j]?.map (·.after (b.calls j a)) := by
  cases a with
  | ask key q root => exact sessions_ask b key q root j
  | call place x =>
    by_cases hj : place = j <;> simp [perform, calls, addressed, hj, Session.after]
  | _ => simp [perform, calls, addressed, Session.after]

theorem sessions_perform_of_bystander (h : ∀ x, b.addressed a ≠ some (j, x)) :
    (b.perform a).sessions[j]? = b.sessions[j]? := by
  have hnone : b.calls j a = [] := by
    unfold calls
    split
    · rename_i place x haddressed
      rw [if_neg]
      rintro rfl
      exact h x haddressed
    · rfl
  rw [sessions_perform, hnone]
  simp [Session.after]

/-- Any number of acts. -/
theorem sessions_after (b : BuildPass) (history : List Act) (j : Nat) :
    (b.after history).sessions[j]? = b.sessions[j]?.map (·.after (b.heard j history)) := by
  induction history generalizing b with
  | nil => simp [after, heard, Session.after]
  | cons a rest ih =>
    have hstep : b.after (a :: rest) = (b.perform a).after rest := rfl
    rw [hstep, ih, sessions_perform, Option.map_map, heard]
    congr 1
    funext s
    simp [Session.after, List.foldl_append]

theorem ask_registry (b : BuildPass) (key : UnitKey) (q : Question) (root : UnitKey) :
    (b.ask key q root).2.registry = b.registry := by
  unfold ask
  split <;> rfl

theorem find?_perform_of_not_ends (h : ¬ a.Ends root) :
    (b.perform a).registry.find? root = b.registry.find? root := by
  cases a with
  | register key place =>
    have hne : root ≠ key := by
      rintro rfl
      exact h (Or.inr (Or.inr ⟨place, rfl⟩))
    exact b.registry.find?_register_of_ne place hne
  | remove key =>
    have hne : root ≠ key := by
      rintro rfl
      exact h (Or.inr (Or.inl rfl))
    exact b.registry.find?_erase_of_ne hne
  | clear => exact absurd (Or.inl rfl) h
  | ask key q root' => rw [perform, ask_registry]
  | _ => rfl

theorem latest_concat : Latest (history ++ [a]) root i ↔
    root.isBlank = false ∧ a = .register root i ∨ ¬ a.Ends root ∧ Latest history root i := by
  constructor
  · rintro ⟨hblank, before, later, hsplit, hlater⟩
    rcases List.eq_nil_or_concat later with rfl | ⟨middle, last, rfl⟩
    · obtain ⟨-, hlast⟩ := List.append_inj' hsplit rfl
      exact Or.inl ⟨hblank, List.head_eq_of_cons_eq hlast⟩
    · rw [List.concat_eq_append, ← List.cons_append, ← List.append_assoc] at hsplit
      obtain ⟨hhistory, hlast⟩ := List.append_inj' hsplit rfl
      obtain rfl := List.head_eq_of_cons_eq hlast
      refine Or.inr ⟨hlater a (by simp), hblank, before, middle, hhistory, ?_⟩
      exact fun x hx => hlater x (by simp [hx])
  · rintro (⟨hblank, rfl⟩ | ⟨hends, hblank, before, later, rfl, hlater⟩)
    · exact ⟨hblank, history, [], rfl, fun x hx => absurd hx List.not_mem_nil⟩
    · refine ⟨hblank, before, later ++ [a], by simp, fun x hx => ?_⟩
      rcases List.mem_append.mp hx with hx | hx
      · exact hlater x hx
      · rwa [List.mem_singleton.mp hx]

theorem orderly_perform (h : b.registry.Orderly) (a : Act) : (b.perform a).registry.Orderly := by
  cases a with
  | register root place => exact h.register root place
  | remove root => exact h.erase root
  | clear => exact Registry.orderly_empty
  | ask key q root => rwa [perform, ask_registry]
  | _ => exact h

theorem orderly_after (sessions : List Session) (history : List Act) :
    (({ sessions } : BuildPass).after history).registry.Orderly := by
  induction history using List.reverseRecOn with
  | nil => exact Registry.orderly_empty
  | append_singleton history a ih => exact after_concat _ history a ▸ orderly_perform ih a

/-- One more act keeps the latest session or ends its service. -/
theorem find?_perform_iff (horderly : b.registry.Orderly)
    (h : ∀ i, b.registry.find? root = some i ↔ Latest history root i) (a : Act) :
    (b.perform a).registry.find? root = some i ↔ Latest (history ++ [a]) root i := by
  rw [latest_concat]
  by_cases hends : a.Ends root
  · simp only [hends, not_true_eq_false, false_and, or_false]
    rcases hends with rfl | rfl | ⟨place, rfl⟩
    · simp [perform, Registry.find?]
    · simp [perform, Registry.remove]
    · cases hblank : root.isBlank with
      | true => simp [perform, Registry.register_of_blank _ _ hblank, horderly.find?_of_blank hblank]
      | false => simp [perform, Registry.find?_register_self _ _ hblank]
  · simp only [find?_perform_of_not_ends hends, h, hends, not_false_eq_true, true_and]
    constructor
    · exact Or.inr
    · rintro (⟨-, rfl⟩ | hlatest)
      · exact absurd (Or.inr (Or.inr ⟨i, rfl⟩)) hends
      · exact hlatest

theorem find?_after_iff (sessions : List Session) (history : List Act) (root : UnitKey) (i : Nat) :
    (({ sessions } : BuildPass).after history).registry.find? root = some i ↔
      Latest history root i := by
  induction history using List.reverseRecOn generalizing i with
  | nil =>
    constructor
    · rintro ⟨⟩
    · rintro ⟨-, before, later, hsplit, -⟩
      simp at hsplit
  | append_singleton history a ih =>
    rw [after_concat]
    exact find?_perform_iff (orderly_after sessions history) ih a

/-- What a run of `history` over `sessions` leaves. -/
structure Faithful (sessions : List Session) (history : List Act) (b : BuildPass) : Prop where
  get_ok : ∀ root i, b.registry.get root = .ok i ↔ Latest history root i
  get_error : ∀ root, (∀ i, ¬ Latest history root i) →
    b.registry.get root = .error (.noSession root)
  contains : ∀ root, b.registry.contains root = true ↔ ∃ i, b.registry.get root = .ok i
  size : (b.registry.size : ℕ∞) = Set.encard {root | ∃ i, b.registry.get root = .ok i}
  register : ∀ root i, root.isBlank = false →
    (b.registry.register root i).1 = .ok (b.registry.get root).toOption
  remove : ∀ root, (b.registry.remove root).1 = (b.registry.get root).toOption
  blank : ∀ root, root.isBlank = true →
    b.registry.get root = .error (.noSession root) ∧
      ∀ i, b.registry.register root i = (.error (.blankArgument .rootUnit), b.registry)
  /-- An act leaves the sessions alone that it does not call. -/
  bystander : ∀ a j, (∀ x, b.addressed a ≠ some (j, x)) →
    (b.perform a).sessions[j]? = b.sessions[j]?
  sessions : ∀ j : Nat, b.sessions[j]? =
    sessions[j]?.map (·.after (heard { sessions } j history))

/-- A registry finds the latest session of each root, and a session depends on its own calls. -/
theorem faithful_after (sessions : List Session) (history : List Act) :
    Faithful sessions history (({ sessions } : BuildPass).after history) where
  get_ok root i := by rw [Registry.get_eq_ok_iff, find?_after_iff]
  get_error root h := by
    refine Registry.get_eq_error (Option.eq_none_iff_forall_ne_some.mpr fun i hi => ?_)
    exact h i ((find?_after_iff sessions history root i).mp hi)
  contains root := Registry.contains_iff
  size := (orderly_after sessions history).size_eq
  register root i h := by rw [Registry.register_of_not_blank _ _ h, Registry.toOption_get]
  remove root := by rw [Registry.remove, Registry.toOption_get]
  blank root h := by
    have hnone := (orderly_after sessions history).find?_of_blank h
    exact ⟨Registry.get_eq_error hnone, fun i => Registry.register_of_blank _ i h⟩
  bystander a j := sessions_perform_of_bystander
  sessions := sessions_after _ history

/-- Another version is another root. -/
example : (({ sessions := [] } : BuildPass).after [.register ⟨"App", "1"⟩ 0,
    .register ⟨"App", "1"⟩ 1, .remove ⟨"App", "2"⟩]).registry.get ⟨"App", "1"⟩ = .ok 1 := by
  rfl

end TypeSurvey.BuildPass
