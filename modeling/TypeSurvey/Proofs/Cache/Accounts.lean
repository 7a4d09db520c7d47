import TypeSurvey.Proofs.Cache.History

/-!
# What the counters of a cache count

Every demand takes one of four courses, at whatever depth it is made, and each counter counts
courses: the hits those that are served from what is stored, the entries those that store their
result, and the misses all but the former. A miss is counted before the computation it needs, and
its entry is stored behind that computation, so in between the misses run ahead of the entries by
the computations that are under way.
-/
namespace TypeSurvey

def Request.isDemand {α : Type} : Request α → Bool
  | .demand .. => true
  | _ => false

namespace Cache

/-- A demand is served from what is stored, or else its computation fails, or succeeds when a
request inside it has stored an entry for the key, or its result is stored. -/
inductive Course where
  | kept
  | failed
  | overtaken
  | stored
  deriving DecidableEq, Repr

variable {α : Type} {cmp : Comparer α}

namespace Event

/-- The course that a demand takes; other requests take none. -/
def course? (v : Event cmp) : Option Course :=
  match v.request with
  | .demand a root inner outcome =>
    match v.before.peek a root, outcome with
    | some _, _ => some .kept
    | none, .error _ => some .failed
    | none, .ok _ =>
      match (performAll inner v.before.countMiss).2.peek a root with
      | some _ => some .overtaken
      | none => some .stored
  | _ => none

/-- The event stores the entry that is found for the key from then on. -/
structure Stores (v : Event cmp) (a : α) (root : UnitKey) : Prop where
  course : v.course? = some .stored
  target : ∃ b, v.request.target? = some (b, root) ∧ cmp.same b a = true

end Event

/-- How many of the events take the course. -/
def tally (k : Course) (vs : List (Event cmp)) : Nat := vs.countP fun v => v.course? = some k

section Tally

variable (k : Course) (v : Event cmp) (vs ws : List (Event cmp))

@[simp] theorem tally_nil : tally k ([] : List (Event cmp)) = 0 := rfl

@[simp] theorem tally_cons :
    tally k (v :: vs) = tally k vs + if v.course? = some k then 1 else 0 := by
  simp [tally, List.countP_cons]

@[simp] theorem tally_append : tally k (vs ++ ws) = tally k vs + tally k ws :=
  List.countP_append

theorem isDemand_eq_course : v.request.isDemand = v.course?.isSome := by
  obtain ⟨request, before⟩ := v
  cases request with
  | observe => rfl
  | peek => rfl
  | demand a root inner outcome =>
    simp only [Request.isDemand, Event.course?]
    repeat' split
    all_goals rfl

/-- Each demand takes one course. -/
theorem countP_isDemand :
    vs.countP (fun v => v.request.isDemand) =
      tally .kept vs + (tally .failed vs + tally .overtaken vs + tally .stored vs) := by
  induction vs with
  | nil => rfl
  | cons v vs ih =>
    rw [List.countP_cons, ih, isDemand_eq_course]
    simp only [tally_cons]
    cases v.course? with
    | none => simp
    | some k => cases k <;> simp <;> omega

end Tally

namespace Event

variable {v w : Event cmp} {a : α} {root : UnitKey} {inner : List (Request α)}

theorem course_of_kept {outcome : Except SurveyError (List TypeDecl)} {e : Entry}
    (hrequest : v.request = .demand a root inner outcome) (h : v.before.peek a root = some e) :
    v.course? = some .kept ∧ v.nested = [] ∧ v.after = v.before.countHit := by
  obtain ⟨request, before⟩ := v
  obtain rfl : request = _ := hrequest
  refine ⟨?_, ?_, congrArg Prod.snd (perform_of_kept h)⟩
  · simp [course?, h]
  · simp [nested, h]

theorem nested_of_missing {outcome : Except SurveyError (List TypeDecl)}
    (hrequest : v.request = .demand a root inner outcome) (h : v.before.peek a root = none) :
    v.nested = historyAll inner v.before.countMiss := by
  simp [nested, hrequest, h]

theorem course_of_failed {err : SurveyError}
    (hrequest : v.request = .demand a root inner (.error err)) (h : v.before.peek a root = none) :
    v.course? = some .failed ∧ v.after = (performAll inner v.before.countMiss).2 := by
  obtain ⟨request, before⟩ := v
  obtain rfl : request = _ := hrequest
  refine ⟨?_, congrArg Prod.snd (perform_of_error h)⟩
  simp [course?, h]

theorem course_of_overtaken {types : List TypeDecl} {e : Entry}
    (hrequest : v.request = .demand a root inner (.ok types)) (h : v.before.peek a root = none)
    (hinner : (performAll inner v.before.countMiss).2.peek a root = some e) :
    v.course? = some .overtaken ∧ v.after = (performAll inner v.before.countMiss).2 := by
  obtain ⟨request, before⟩ := v
  obtain rfl : request = _ := hrequest
  have hkind := (historyAll_stretch inner before.countMiss).becomes.kind_eq
  have hperform : perform (.demand a root inner (.ok types)) before = _ :=
    perform_of_ok h rfl hkind
  rw [store_of_kept types hinner] at hperform
  exact ⟨by simp [course?, h, hinner], congrArg Prod.snd hperform⟩

theorem course_of_stored {types : List TypeDecl}
    (hrequest : v.request = .demand a root inner (.ok types)) (h : v.before.peek a root = none)
    (hinner : (performAll inner v.before.countMiss).2.peek a root = none) :
    v.course? = some .stored ∧
      v.after = ((performAll inner v.before.countMiss).2.store
        ⟨(performAll inner v.before.countMiss).2.kind, a, root⟩ types).2 := by
  obtain ⟨request, before⟩ := v
  obtain rfl : request = _ := hrequest
  have hkind := (historyAll_stretch inner before.countMiss).becomes.kind_eq
  have hperform : perform (.demand a root inner (.ok types)) before = _ :=
    perform_of_ok h rfl hkind
  exact ⟨by simp [course?, h, hinner], congrArg Prod.snd hperform⟩

end Event

/-- From `c` to `d` the counters grow by the courses of the events `vs`, and what is found at the end
was found before or is stored by one of them. -/
structure Balance (c d : Cache cmp) (vs : List (Event cmp)) : Prop where
  hits : d.hits = c.hits + tally .kept vs
  misses : d.misses = c.misses + (tally .failed vs + tally .overtaken vs + tally .stored vs)
  entries : d.size = c.size + tally .stored vs
  sources : ∀ a root e, d.peek a root = some e →
    c.peek a root = some e ∨ ∃ v ∈ vs, v.Stores a root

namespace Balance

variable {c d d' : Cache cmp} {vs ws : List (Event cmp)} {v : Event cmp} {a : α} {root : UnitKey}
  {inner : List (Request α)} {k : Nat}

theorem nil (c : Cache cmp) : Balance c c [] where
  hits := rfl
  misses := rfl
  entries := rfl
  sources _ _ _ h := Or.inl h

theorem append (h : Balance c d vs) (h' : Balance d d' ws) : Balance c d' (vs ++ ws) where
  hits := by rw [h'.hits, h.hits, tally_append, Nat.add_assoc]
  misses := by
    rw [h'.misses, h.misses]
    simp only [tally_append]
    omega
  entries := by rw [h'.entries, h.entries, tally_append, Nat.add_assoc]
  sources a root e he := by
    rcases h'.sources a root e he with hd | ⟨v, hv, hstores⟩
    · rcases h.sources a root e hd with hc | ⟨v, hv, hstores⟩
      · exact Or.inl hc
      · exact Or.inr ⟨v, List.mem_append_left _ hv, hstores⟩
    · exact Or.inr ⟨v, List.mem_append_right _ hv, hstores⟩

/-- A request that is no demand changes nothing. -/
theorem of_course (hcourse : v.course? = none) (hafter : v.after = v.before) :
    Balance v.before v.after [v] where
  hits := by simp [hafter, hcourse]
  misses := by simp [hafter, hcourse]
  entries := by simp [hafter, hcourse]
  sources _ _ _ he := Or.inl (hafter ▸ he)

/-- A demand is settled by its own course behind those of the demands inside it. -/
theorem close {outcome : Except SurveyError (List TypeDecl)}
    (hrequest : v.request = .demand a root inner outcome)
    (h : Balance v.before.countMiss (performAll inner v.before.countMiss).2
      (historyAll inner v.before.countMiss)) :
    Balance v.before v.after (v.nested ++ [v]) := by
  have hold {b : α} {root' : UnitKey} {e : Entry}
      (he : (performAll inner v.before.countMiss).2.peek b root' = some e) :
      v.before.peek b root' = some e ∨
        ∃ w ∈ historyAll inner v.before.countMiss ++ [v], w.Stores b root' := by
    rcases h.sources b root' e he with hc | ⟨w, hw, hstores⟩
    · exact Or.inl hc
    · exact Or.inr ⟨w, List.mem_append_left _ hw, hstores⟩
  have hhits : (performAll inner v.before.countMiss).2.hits = v.before.hits + _ := h.hits
  have hmisses : (performAll inner v.before.countMiss).2.misses = v.before.misses + 1 + _ :=
    h.misses
  have hentries : (performAll inner v.before.countMiss).2.size = v.before.size + _ := h.entries
  cases hpeek : v.before.peek a root with
  | some e =>
    obtain ⟨hcourse, hnested, hafter⟩ := Event.course_of_kept hrequest hpeek
    rw [hnested, hafter]
    exact ⟨by simp [countHit, hcourse], by simp [countHit, hcourse],
      by simp [countHit, size, hcourse], fun _ _ _ he => Or.inl he⟩
  | none =>
    rw [Event.nested_of_missing hrequest hpeek]
    cases outcome with
    | error err =>
      obtain ⟨hcourse, hafter⟩ := Event.course_of_failed hrequest hpeek
      rw [hafter]
      refine ⟨?_, ?_, ?_, fun _ _ _ he => hold he⟩
      · simp [hhits, hcourse]
      · simp [hmisses, hcourse]
        omega
      · simp [hentries, hcourse]
    | ok types =>
      cases hinner : (performAll inner v.before.countMiss).2.peek a root with
      | some e =>
        obtain ⟨hcourse, hafter⟩ := Event.course_of_overtaken hrequest hpeek hinner
        rw [hafter]
        refine ⟨?_, ?_, ?_, fun _ _ _ he => hold he⟩
        · simp [hhits, hcourse]
        · simp [hmisses, hcourse]
          omega
        · simp [hentries, hcourse]
      | none =>
        obtain ⟨hcourse, hafter⟩ := Event.course_of_stored hrequest hpeek hinner
        rw [hafter]
        refine ⟨?_, ?_, ?_, fun b root' e he => ?_⟩
        · simp [store_of_missing types hinner, hhits, hcourse]
        · simp [store_of_missing types hinner, hmisses, hcourse]
          omega
        · simp only [size] at hentries
          simp [store_of_missing types hinner, size, hentries, hcourse]
          omega
        · rcases peek_of_peek_store he with he | ⟨-, rfl, hsame⟩
          · exact hold he
          · refine Or.inr ⟨v, List.mem_append_right _ List.mem_cons_self, hcourse, a, ?_, hsame⟩
            rw [hrequest]
            rfl

/-- The misses stay ahead of the entries. -/
theorem ahead (h : Balance c d vs) (hc : c.size + k ≤ c.misses) : d.size + k ≤ d.misses := by
  have hmisses := h.misses
  have hentries := h.entries
  omega

end Balance

mutual

theorem history_balance (r : Request α) (c : Cache cmp) :
    Balance c (perform r c).2 (history r c) := by
  match r with
  | .observe => exact Balance.of_course (v := ⟨.observe, c⟩) rfl rfl
  | .peek a root => exact Balance.of_course (v := ⟨.peek a root, c⟩) rfl rfl
  | .demand a root inner outcome =>
    rw [history_eq]
    exact Balance.close (v := ⟨.demand a root inner outcome, c⟩) rfl
      (historyAll_balance inner c.countMiss)

theorem historyAll_balance (rs : List (Request α)) (c : Cache cmp) :
    Balance c (performAll rs c).2 (historyAll rs c) := by
  match rs with
  | [] => exact Balance.nil c
  | r :: rest => exact (history_balance r c).append (historyAll_balance rest (perform r c).2)

end

mutual

/-- If the misses are `k` ahead of the entries, they are so whenever a request is made, and one more
for every computation in which it is made. -/
theorem history_ahead (r : Request α) {c : Cache cmp} {k : Nat} (h : c.size + k ≤ c.misses) :
    ∀ v ∈ history r c, v.before.size + k ≤ v.before.misses := by
  match r with
  | .observe | .peek _ _ =>
    intro v hv
    obtain rfl := List.mem_singleton.mp hv
    exact h
  | .demand a root inner outcome =>
    intro v hv
    rw [history_eq] at hv
    rcases List.mem_append.mp hv with hv | hv
    · cases hpeek : c.peek a root with
      | some e => simp [Event.nested, hpeek] at hv
      | none =>
        rw [Event.nested_of_missing rfl hpeek] at hv
        have hmiss : c.countMiss.size + (k + 1) ≤ c.countMiss.misses := Nat.add_le_add_right h 1
        have hv := historyAll_ahead inner hmiss v hv
        omega
    · obtain rfl := List.mem_singleton.mp hv
      exact h

theorem historyAll_ahead (rs : List (Request α)) {c : Cache cmp} {k : Nat}
    (h : c.size + k ≤ c.misses) :
    ∀ v ∈ historyAll rs c, v.before.size + k ≤ v.before.misses := by
  match rs with
  | [] => exact fun v hv => absurd hv List.not_mem_nil
  | r :: rest =>
    intro v hv
    rcases List.mem_append.mp hv with hv | hv
    · exact history_ahead r h v hv
    · exact historyAll_ahead rest ((history_balance r c).ahead h) v hv

end

namespace Event

variable {v : Event cmp}

theorem course_eq_failed_iff :
    v.course? = some .failed ↔ ∃ err ran, v.answer = .demanded (.error err) ran := by
  constructor
  · intro h
    obtain ⟨request, before⟩ := v
    simp only [course?] at h
    split at h
    · rename_i a root inner outcome
      split at h
      · simp at h
      · rename_i err hpeek
        exact ⟨err, _, congrArg Prod.fst (perform_of_error hpeek)⟩
      · split at h <;> simp at h
    · simp at h
  · rintro ⟨err, ran, h⟩
    obtain ⟨a, root, inner, hrequest, hpeek, -⟩ := of_failed h
    exact (course_of_failed hrequest hpeek).1

/-- A demand that stores its result brings the entry. -/
theorem Stores.yields {a : α} {root : UnitKey} (h : v.Stores a root) :
    ∃ b e, v.Yields b root e ∧ cmp.same b a = true := by
  obtain ⟨request, before⟩ := v
  obtain ⟨hcourse, b, htarget, hsame⟩ := h
  cases request with
  | observe => simp [course?] at hcourse
  | peek => simp [course?] at hcourse
  | demand a' root' inner outcome =>
    obtain ⟨rfl, rfl⟩ := Prod.mk.inj (Option.some.inj htarget)
    cases outcome with
    | ok types =>
      obtain ⟨e, he⟩ := yields_of_ok (v := ⟨.demand a' root' inner (.ok types), before⟩) rfl
      exact ⟨a', e, he, hsame⟩
    | error err =>
      simp only [course?] at hcourse
      split at hcourse <;> simp_all

/-- An overtaken computation finds what a demand inside it has stored. -/
theorem course_eq_overtaken_iff :
    v.course? = some .overtaken ↔
      ∃ a root inner types, v.request = .demand a root inner (.ok types) ∧
        v.before.peek a root = none ∧ ∃ w ∈ v.nested, w.Stores a root := by
  constructor
  · intro h
    obtain ⟨request, before⟩ := v
    simp only [course?] at h
    split at h
    · rename_i a root inner outcome
      split at h
      · simp at h
      · simp at h
      · rename_i types hpeek
        split at h
        · rename_i e hinner
          refine ⟨a, root, inner, types, rfl, hpeek, ?_⟩
          rw [nested_of_missing rfl hpeek]
          rcases (historyAll_balance inner before.countMiss).sources a root e hinner with hc | hw
          · exact absurd (hpeek.symm.trans hc) (by simp)
          · exact hw
        · simp at h
    · simp at h
  · rintro ⟨a, root, inner, types, hrequest, hpeek, w, hw, hstores⟩
    rw [nested_of_missing hrequest hpeek] at hw
    obtain ⟨b, e, hyields, hsame⟩ := hstores.yields
    have hwithin := (historyAll_stretch inner v.before.countMiss).within w hw
    have hfound := hyields.peek_later hwithin.2.2
    rw [peek_congr hsame] at hfound
    exact (course_of_overtaken hrequest hpeek hfound).1

theorem ahead_after {k : Nat} (h : v.before.size + k ≤ v.before.misses) :
    v.after.size + k ≤ v.after.misses :=
  (history_balance v.request v.before).ahead h

/-- In a computation the misses are one more ahead. -/
theorem ahead_nested {k : Nat} (h : v.before.size + k ≤ v.before.misses) :
    ∀ w ∈ v.nested, w.before.size + (k + 1) ≤ w.before.misses := by
  intro w hw
  unfold nested at hw
  split at hw
  · split at hw
    · simp at hw
    · have hmiss : v.before.countMiss.size + (k + 1) ≤ v.before.countMiss.misses :=
        Nat.add_le_add_right h 1
      exact historyAll_ahead _ hmiss w hw
  · simp at hw

end Event

/-- Requests on one new cache, nested to any depth. At the end the hits and the misses count the
demands that were made at all levels, and the misses are the entries together with the demands whose
computation failed and those that were overtaken, for which a demand inside them had stored an
entry. Requests other than demands leave the cache as it is. The entries are never more than the
misses, and inside a computation they are fewer. -/
theorem performAll_balances (kind : QuestionKind) (requests : List (Request α)) :
    let c : Cache cmp := { kind }
    let final := (performAll requests c).2.statistics
    let events := historyAll requests c
    final.hits + final.misses = events.countP (fun v => v.request.isDemand) ∧
    final.misses = final.entries + tally .failed events + tally .overtaken events ∧
    (∀ v ∈ events, v.course? = some .failed ↔
      ∃ err ran, v.answer = .demanded (.error err) ran) ∧
    (∀ v ∈ events, v.course? = some .overtaken ↔
      ∃ a root inner types, v.request = .demand a root inner (.ok types) ∧
        v.before.peek a root = none ∧ ∃ w ∈ v.nested, w.Stores a root) ∧
    (∀ v ∈ events, v.request.isDemand = false → v.after = v.before) ∧
    ∀ v ∈ events, v.before.size ≤ v.before.misses ∧ v.after.size ≤ v.after.misses ∧
      ∀ w ∈ v.nested, w.before.size < w.before.misses ∧ w.after.size < w.after.misses := by
  intro c final events
  have hbalance : Balance c (performAll requests c).2 events := historyAll_balance requests c
  have hhits : final.hits = 0 + tally .kept events := hbalance.hits
  have hmisses : final.misses =
      0 + (tally .failed events + tally .overtaken events + tally .stored events) :=
    hbalance.misses
  have hentries : final.entries = 0 + tally .stored events := hbalance.entries
  refine ⟨?_, by omega, fun _ _ => Event.course_eq_failed_iff,
    fun _ _ => Event.course_eq_overtaken_iff, ?_, ?_⟩
  · rw [countP_isDemand]
    omega
  · intro v _ hrequest
    obtain ⟨request, before⟩ := v
    cases request with
    | observe | peek => rfl
    | demand => simp [Request.isDemand] at hrequest
  · intro v hv
    have hbefore : v.before.size + 0 ≤ v.before.misses :=
      historyAll_ahead requests (Nat.le_refl 0) v hv
    refine ⟨hbefore, Event.ahead_after hbefore, fun w hw => ?_⟩
    have hinside := Event.ahead_nested hbefore w hw
    exact ⟨hinside, Event.ahead_after hinside⟩

/-- The computation for the application asks for a root that is nowhere, which fails, and then for
the application itself, whose entry overtakes it and serves the last demand. -/
theorem performAll_balances_overtaken :
    let c : Cache Comparer.rootOnly := { kind := .everything }
    let lost : Request Unit := .demand () Sample.left [] (.error (.unresolved Sample.left))
    let inner : Request Unit := .demand () Sample.app [] (.ok [Sample.clock])
    let outer : Request Unit := .demand () Sample.app [lost, inner] (.ok [Sample.controller])
    let again : Request Unit := .demand () Sample.app [] (.ok [])
    let final := (performAll [outer, again] c).2.statistics
    let events := historyAll [outer, again] c
    tally .failed events = 1 ∧ tally .overtaken events = 1 ∧ final.entries = 1 ∧
      final.misses = 3 ∧ final.hits = 1 ∧
      ∃ w ∈ Event.nested ⟨outer, c⟩, w.Stores () Sample.app := by
  intro c lost inner outer again final events
  obtain ⟨hdemands, hmisses, -, hovertaken, -, -⟩ :=
    @performAll_balances Unit Comparer.rootOnly .everything [outer, again]
  have hmisses' : final.misses = final.entries + tally .failed events + tally .overtaken events :=
    hmisses
  have hdemands' : final.hits + final.misses = 4 := hdemands
  have hfailed : tally .failed events = 1 := rfl
  have hcourse : tally .overtaken events = 1 := rfl
  have hentries : final.entries = 1 := rfl
  have hmem : ⟨outer, c⟩ ∈ events := by
    refine List.mem_append_left _ ?_
    rw [history_eq]
    exact List.mem_append_right _ List.mem_cons_self
  obtain ⟨a, root, inside, types, hrequest, -, hstored⟩ := (hovertaken ⟨outer, c⟩ hmem).mp rfl
  obtain ⟨-, rfl, -, -⟩ := Request.demand.inj hrequest
  exact ⟨hfailed, hcourse, hentries, by omega, by omega, hstored⟩

end Cache

end TypeSurvey
