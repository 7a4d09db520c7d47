import TypeSurvey.Cache.Request
import TypeSurvey.Proofs.Cache.Store
import TypeSurvey.Sample

/-!
# The history of nested requests

The history of a tree of requests lists all that are performed, at every depth, in the order in
which they end, each with the cache to which it was made. Between the look-up of a request and its
end the requests inside it may have stored anything. Still the entry that is stored first for a key
is the one that every request for the key brings.
-/
namespace TypeSurvey

/-- The parameter and the root that a request is about. -/
def Request.target? {α : Type} : Request α → Option (α × UnitKey)
  | .observe => none
  | .peek parameter root => some (parameter, root)
  | .demand parameter root _ _ => some (parameter, root)

def Answer.entry? : Answer → Option Entry
  | .observed _ => none
  | .peeked found => found
  | .demanded result _ => result.toOption

namespace Cache

/-- A request and the cache to which it is made. -/
structure Event {α : Type} (cmp : Comparer α) where
  request : Request α
  before : Cache cmp

variable {α : Type} {cmp : Comparer α}

mutual

def history : Request α → Cache cmp → List (Event cmp)
  | .observe, c => [⟨.observe, c⟩]
  | .peek parameter root, c => [⟨.peek parameter root, c⟩]
  | .demand parameter root inner outcome, c =>
    let within := match c.peek parameter root with
      | some _ => []
      | none => historyAll inner c.countMiss
    within ++ [⟨.demand parameter root inner outcome, c⟩]

/-- The requests that are performed, inner ones first. -/
def historyAll : List (Request α) → Cache cmp → List (Event cmp)
  | [], _ => []
  | r :: rest, c => history r c ++ historyAll rest (perform r c).2

end

namespace Event

def answer (v : Event cmp) : Answer := (perform v.request v.before).1

def after (v : Event cmp) : Cache cmp := (perform v.request v.before).2

/-- The request is about the key and brings the entry. -/
structure Yields (v : Event cmp) (a : α) (root : UnitKey) (e : Entry) : Prop where
  target : v.request.target? = some (a, root)
  entry : v.answer.entry? = some e

/-- What happens in the computation that the request needs, if it needs one. -/
def nested (v : Event cmp) : List (Event cmp) :=
  match v.request with
  | .demand parameter root inner _ =>
    match v.before.peek parameter root with
    | some _ => []
    | none => historyAll inner v.before.countMiss
  | _ => []

end Event

theorem history_eq (r : Request α) (c : Cache cmp) :
    history r c = Event.nested ⟨r, c⟩ ++ [⟨r, c⟩] := by
  cases r <;> rfl

section Perform

variable {c : Cache cmp} {a : α} {root : UnitKey} {inner : List (Request α)}

theorem perform_of_kept {outcome : Except SurveyError (List TypeDecl)} {e : Entry}
    (h : c.peek a root = some e) :
    perform (.demand a root inner outcome) c = (.demanded (.ok e) none, c.countHit) := by
  simp only [perform]
  rw [fetch_of_kept h]

theorem perform_of_error {err : SurveyError} (h : c.peek a root = none) :
    perform (.demand a root inner (.error err)) c =
      (.demanded (.error err) (some (performAll inner c.countMiss).1),
        (performAll inner c.countMiss).2) := by
  simp only [perform]
  rw [fetch_of_error h rfl]

/-- The result is stored in the cache `d` that the inner requests leave. -/
theorem perform_of_ok {types : List TypeDecl} {d : Cache cmp} (h : c.peek a root = none)
    (hinner : (performAll inner c.countMiss).2 = d) (hkind : d.kind = c.kind) :
    perform (.demand a root inner (.ok types)) c =
      (.demanded (.ok (d.store ⟨d.kind, a, root⟩ types).1) (some (performAll inner c.countMiss).1),
        (d.store ⟨d.kind, a, root⟩ types).2) := by
  simp only [perform]
  rw [fetch_of_ok h rfl, hinner, hkind]

end Perform

/-- The events `vs` lead from `c` to `d`: each of them finds what `c` has become by then, what one
leaves becomes what later ones leave, and nothing is found at the end that was not found before or
brought by one of them. With an event the events inside it belong to them. -/
structure Stretch (c d : Cache cmp) (vs : List (Event cmp)) : Prop where
  becomes : c.Becomes d
  closed : ∀ v ∈ vs, v.nested ⊆ vs
  within : ∀ v ∈ vs, c.Becomes v.before ∧ v.before.Becomes v.after ∧ v.after.Becomes d
  ordered : vs.Pairwise fun v w => v.after.Becomes w.after
  sources : ∀ a root e, d.peek a root = some e →
    c.peek a root = some e ∨ ∃ v ∈ vs, ∃ b, v.Yields b root e ∧ cmp.same b a = true

namespace Stretch

variable {c c' d d' : Cache cmp} {vs ws : List (Event cmp)}

theorem nil (c : Cache cmp) : Stretch c c [] where
  becomes := .refl
  closed _ hv := absurd hv List.not_mem_nil
  within _ hv := absurd hv List.not_mem_nil
  ordered := .nil
  sources _ _ _ he := Or.inl he

theorem append (h : Stretch c d vs) (h' : Stretch d d' ws) : Stretch c d' (vs ++ ws) where
  becomes := h.becomes.trans h'.becomes
  closed v hv := by
    rcases List.mem_append.mp hv with hv | hv
    · exact List.subset_append_of_subset_left _ (h.closed v hv)
    · exact List.subset_append_of_subset_right _ (h'.closed v hv)
  within v hv := by
    rcases List.mem_append.mp hv with hv | hv
    · obtain ⟨hbefore, hduring, hafter⟩ := h.within v hv
      exact ⟨hbefore, hduring, hafter.trans h'.becomes⟩
    · obtain ⟨hbefore, hduring, hafter⟩ := h'.within v hv
      exact ⟨h.becomes.trans hbefore, hduring, hafter⟩
  ordered := by
    rw [List.pairwise_append]
    refine ⟨h.ordered, h'.ordered, fun v hv w hw => ?_⟩
    obtain ⟨hbefore, hduring, -⟩ := h'.within w hw
    exact (h.within v hv).2.2.trans (hbefore.trans hduring)
  sources a root e he := by
    rcases h'.sources a root e he with hd | ⟨v, hv, hyields⟩
    · rcases h.sources a root e hd with hc | ⟨v, hv, hyields⟩
      · exact Or.inl hc
      · exact Or.inr ⟨v, List.mem_append_left _ hv, hyields⟩
    · exact Or.inr ⟨v, List.mem_append_right _ hv, hyields⟩

/-- An event ends behind those inside it, and may bring one entry more. -/
theorem close (h : Stretch c' d vs) (v : Event cmp) (hnested : v.nested = vs)
    (hcount : v.before.Becomes c')
    (hpeek : ∀ a root, c'.peek a root = v.before.peek a root) (hafter : d.Becomes v.after)
    (hsources : ∀ a root e, v.after.peek a root = some e →
      d.peek a root = some e ∨ ∃ b, v.Yields b root e ∧ cmp.same b a = true) :
    Stretch v.before v.after (vs ++ [v]) where
  becomes := (hcount.trans h.becomes).trans hafter
  closed w hw := by
    apply List.subset_append_of_subset_left
    rcases List.mem_append.mp hw with hw | hw
    · exact h.closed w hw
    · obtain rfl := List.mem_singleton.mp hw
      exact hnested ▸ List.Subset.refl _
  within w hw := by
    rcases List.mem_append.mp hw with hw | hw
    · obtain ⟨hbefore, hduring, hend⟩ := h.within w hw
      exact ⟨hcount.trans hbefore, hduring, hend.trans hafter⟩
    · obtain rfl := List.mem_singleton.mp hw
      exact ⟨.refl, (hcount.trans h.becomes).trans hafter, .refl⟩
  ordered := by
    rw [List.pairwise_append]
    refine ⟨h.ordered, List.pairwise_singleton _ _, fun w hw u hu => ?_⟩
    obtain rfl := List.mem_singleton.mp hu
    exact (h.within w hw).2.2.trans hafter
  sources a root e he := by
    rcases hsources a root e he with hd | hyields
    · rcases h.sources a root e hd with hc | ⟨w, hw, hyields⟩
      · exact Or.inl (hpeek a root ▸ hc)
      · exact Or.inr ⟨w, List.mem_append_left _ hw, hyields⟩
    · exact Or.inr ⟨v, List.mem_append_right _ List.mem_cons_self, hyields⟩

end Stretch

theorem demand_stretch (a : α) (root : UnitKey) {inner : List (Request α)}
    (outcome : Except SurveyError (List TypeDecl)) (c : Cache cmp)
    (h : Stretch c.countMiss (performAll inner c.countMiss).2 (historyAll inner c.countMiss)) :
    Stretch c (perform (.demand a root inner outcome) c).2
      (history (.demand a root inner outcome) c) := by
  let v : Event cmp := ⟨.demand a root inner outcome, c⟩
  cases hpeek : c.peek a root with
  | some e =>
    have hafter : v.after = c.countHit := congrArg Prod.snd (perform_of_kept hpeek)
    have hnested : v.nested = [] := by simp [Event.nested, v, hpeek]
    rw [history, hpeek]
    refine (Stretch.nil c).close v hnested .refl (fun _ _ => rfl) (hafter ▸ .hit c) ?_
    intro _ _ _ he
    rw [hafter] at he
    exact Or.inl he
  | none =>
    have hnested : v.nested = historyAll inner c.countMiss := by simp [Event.nested, v, hpeek]
    rw [history, hpeek]
    cases outcome with
    | error err =>
      have hafter : v.after = (performAll inner c.countMiss).2 :=
        congrArg Prod.snd (perform_of_error hpeek)
      refine h.close v hnested (.miss c) (fun _ _ => rfl) (hafter ▸ .refl) fun _ _ _ he => ?_
      rw [hafter] at he
      exact Or.inl he
    | ok types =>
      have hperform : perform (.demand a root inner (.ok types)) c = _ :=
        perform_of_ok hpeek rfl h.becomes.kind_eq
      have hafter : v.after = _ := congrArg Prod.snd hperform
      have hanswer : v.answer = _ := congrArg Prod.fst hperform
      refine h.close v hnested (.miss c) (fun _ _ => rfl) (hafter ▸ .store _ a root types) ?_
      intro b root' e he
      rw [hafter] at he
      rcases peek_of_peek_store he with hold | ⟨rfl, rfl, hsame⟩
      · exact Or.inl hold
      · exact Or.inr ⟨a, ⟨rfl, by rw [hanswer]; rfl⟩, hsame⟩

mutual

/-- What a request makes of a cache is what its history makes of it, inner requests included. -/
theorem history_stretch (r : Request α) (c : Cache cmp) :
    Stretch c (perform r c).2 (history r c) := by
  match r with
  | .observe =>
    exact (Stretch.nil c).close ⟨.observe, c⟩ rfl .refl (fun _ _ => rfl) .refl
      fun _ _ _ he => Or.inl he
  | .peek a root =>
    exact (Stretch.nil c).close ⟨.peek a root, c⟩ rfl .refl (fun _ _ => rfl) .refl
      fun _ _ _ he => Or.inl he
  | .demand a root inner outcome =>
    exact demand_stretch a root outcome c (historyAll_stretch inner c.countMiss)

theorem historyAll_stretch (rs : List (Request α)) (c : Cache cmp) :
    Stretch c (performAll rs c).2 (historyAll rs c) := by
  match rs with
  | [] => exact Stretch.nil c
  | r :: rest => exact (history_stretch r c).append (historyAll_stretch rest (perform r c).2)

end

namespace Event

variable {v w : Event cmp} {a b : α} {root root' : UnitKey} {e e' : Entry}

theorem nested_stretch (v : Event cmp) : Stretch v.before v.after (v.nested ++ [v]) :=
  history_eq v.request v.before ▸ history_stretch v.request v.before

theorem becomes_of_nested (hw : w ∈ v.nested) : w.after.Becomes v.after :=
  (v.nested_stretch.within w (List.mem_append_left _ hw)).2.2

/-- What a request brings is stored when it ends. -/
theorem Yields.peek_after (h : v.Yields a root e) : v.after.peek a root = some e := by
  obtain ⟨request, before⟩ := v
  obtain ⟨htarget, hentry⟩ := h
  cases request with
  | observe => simp [Request.target?] at htarget
  | peek a' root' =>
    obtain ⟨rfl, rfl⟩ := Prod.mk.inj (Option.some.inj htarget)
    exact hentry
  | demand a' root' inner outcome =>
    obtain ⟨rfl, rfl⟩ := Prod.mk.inj (Option.some.inj htarget)
    cases hpeek : before.peek a' root' with
    | some kept =>
      rw [answer, perform_of_kept hpeek] at hentry
      rw [after, perform_of_kept hpeek]
      exact hpeek.trans hentry
    | none =>
      cases outcome with
      | error err => simp [answer, perform_of_error hpeek, Answer.entry?, Except.toOption] at hentry
      | ok types =>
        have hkind := (historyAll_stretch inner before.countMiss).becomes.kind_eq
        rw [answer, perform_of_ok hpeek rfl hkind] at hentry
        rw [after, perform_of_ok hpeek rfl hkind]
        exact (peek_store_self _ a' root' types).trans hentry

theorem Yields.peek_later {d : Cache cmp} (h : v.Yields a root e) (hd : v.after.Becomes d) :
    d.peek a root = some e :=
  hd.peek h.peek_after

/-- Two requests for one key bring one entry if some cache is later than both. -/
theorem Yields.unique {d : Cache cmp} (h : v.Yields a root e) (h' : w.Yields b root e')
    (hv : v.after.Becomes d) (hw : w.after.Becomes d) (hsame : cmp.same a b = true) : e = e' := by
  have hfound := h.peek_later hv
  rw [peek_congr hsame, h'.peek_later hw] at hfound
  exact (Option.some.inj hfound).symm

/-- A request whose computation succeeds brings an entry, whoever stored it. -/
theorem yields_of_ok {inner : List (Request α)} {types : List TypeDecl}
    (h : v.request = .demand a root inner (.ok types)) : ∃ e, v.Yields a root e := by
  obtain ⟨request, before⟩ := v
  obtain rfl : request = _ := h
  cases hpeek : before.peek a root with
  | some kept => exact ⟨kept, rfl, by rw [answer, perform_of_kept hpeek]; rfl⟩
  | none =>
    have hkind := (historyAll_stretch inner before.countMiss).becomes.kind_eq
    exact ⟨_, rfl, by rw [answer, perform_of_ok hpeek rfl hkind]; rfl⟩

/-- A request fails only if its own computation does, which then leaves what the requests inside it
leave. -/
theorem of_failed {err : SurveyError} {ran : Option (List Answer)}
    (h : v.answer = .demanded (.error err) ran) :
    ∃ a root inner, v.request = .demand a root inner (.error err) ∧
      v.before.peek a root = none ∧ v.nested = historyAll inner v.before.countMiss ∧
      v.after = (performAll inner v.before.countMiss).2 := by
  obtain ⟨request, before⟩ := v
  cases request with
  | observe => simp [answer, perform] at h
  | peek a root => simp [answer, perform] at h
  | demand a root inner outcome =>
    cases hpeek : before.peek a root with
    | some kept => simp [answer, perform_of_kept hpeek] at h
    | none =>
      cases outcome with
      | ok types =>
        have hkind := (historyAll_stretch inner before.countMiss).becomes.kind_eq
        simp [answer, perform_of_ok hpeek rfl hkind] at h
      | error err' =>
        rw [answer, perform_of_error hpeek] at h
        obtain ⟨herr, -⟩ := Answer.demanded.inj h
        obtain rfl := Except.error.inj herr
        refine ⟨a, root, inner, rfl, hpeek, ?_, ?_⟩
        · simp [nested, hpeek]
        · rw [after, perform_of_error hpeek]

end Event

/-- Requests on one cache, nested to any depth. What is stored when one of them ends is stored in
its place at every later end. A request that brings an entry brings the one that is found for its
key when it ends; so all requests for one key bring one entry, and a computation that was overtaken
by a request inside it brings what that one brought. A failed computation adds nothing to what was
found before and what the requests inside it brought. In an orderly cache keys remain different, and
different keys have different entries. -/
theorem performAll_keeps_first (c : Cache cmp) (requests : List (Request α)) :
    ((historyAll requests c).Pairwise fun v w => v.after.stored <+: w.after.stored) ∧
    (∀ v ∈ historyAll requests c, v.nested ⊆ historyAll requests c ∧
      c.stored <+: v.before.stored ∧ v.before.stored <+: v.after.stored ∧
      v.after.stored <+: (performAll requests c).2.stored) ∧
    (∀ v ∈ historyAll requests c, ∀ a root e, v.Yields a root e →
      v.after.peek a root = some e) ∧
    (∀ v ∈ historyAll requests c, ∀ w ∈ historyAll requests c, ∀ a b root e e',
      v.Yields a root e → w.Yields b root e' → cmp.same a b = true → e = e') ∧
    (∀ v ∈ historyAll requests c, ∀ a root inner types,
      v.request = .demand a root inner (.ok types) → ∃ e, v.Yields a root e ∧
        ∀ w ∈ v.nested, ∀ b e', w.Yields b root e' → cmp.same b a = true → e = e') ∧
    (∀ v ∈ historyAll requests c, ∀ err ran, v.answer = .demanded (.error err) ran →
      ∃ a root inner, v.request = .demand a root inner (.error err) ∧
        v.before.peek a root = none ∧
        ∀ b root' e, v.after.peek b root' = some e ↔
          v.before.peek b root' = some e ∨
            ∃ w ∈ v.nested, ∃ b', w.Yields b' root' e ∧ cmp.same b' b = true) ∧
    (c.Orderly → ∀ v ∈ historyAll requests c, v.before.Orderly ∧ v.after.Orderly ∧
      ∀ w ∈ historyAll requests c, ∀ a b root root' e e', v.Yields a root e → w.Yields b root' e' →
        (e.isSame e' = true ↔ root = root' ∧ cmp.same a b = true)) := by
  have hall := historyAll_stretch requests c
  refine ⟨?_, ?_, ?_, ?_, ?_, ?_, ?_⟩
  · exact hall.ordered.imp fun h => h.stored_prefix
  · intro v hv
    obtain ⟨hbefore, hduring, hafter⟩ := hall.within v hv
    exact ⟨hall.closed v hv, hbefore.stored_prefix, hduring.stored_prefix, hafter.stored_prefix⟩
  · intro v _ a root e he
    exact he.peek_after
  · intro v hv w hw a b root e e' he he' hsame
    exact he.unique he' (hall.within v hv).2.2 (hall.within w hw).2.2 hsame
  · intro v _ a root inner types hrequest
    obtain ⟨e, he⟩ := Event.yields_of_ok hrequest
    refine ⟨e, he, fun w hw b e' he' hsame => ?_⟩
    exact (he'.unique he (Event.becomes_of_nested hw) .refl hsame).symm
  · intro v _ err ran hfailed
    obtain ⟨a, root, inner, hrequest, hmissing, hnested, hafter⟩ := Event.of_failed hfailed
    refine ⟨a, root, inner, hrequest, hmissing, fun b root' e => ⟨fun he => ?_, ?_⟩⟩
    · rw [hafter] at he
      rw [hnested]
      exact (historyAll_stretch inner v.before.countMiss).sources b root' e he
    · rintro (he | ⟨w, hw, b', he, hsame⟩)
      · exact v.nested_stretch.becomes.peek he
      · rw [← peek_congr hsame]
        exact he.peek_later (Event.becomes_of_nested hw)
  · intro hc v hv
    obtain ⟨hbefore, hduring, hafter⟩ := hall.within v hv
    refine ⟨hbefore.orderly hc, (hbefore.trans hduring).orderly hc, ?_⟩
    intro w hw a b root root' e e' he he'
    have hlater := he.peek_later hafter
    have hlater' := he'.peek_later (hall.within w hw).2.2
    constructor
    · exact (hall.becomes.orderly hc).same_of_isSame hlater hlater'
    · rintro ⟨rfl, hsame⟩
      obtain rfl := he.unique he' hafter (hall.within w hw).2.2 hsame
      simp [Entry.isSame]

/-- The computation for the application asks for the application itself, and its own result comes
too late. -/
theorem performAll_keeps_first_overtaken :
    let c : Cache Comparer.rootOnly := { kind := .everything }
    let inner : Request Unit := .demand () Sample.app [] (.ok [Sample.clock])
    let outer : Request Unit := .demand () Sample.app [inner] (.ok [Sample.controller])
    let e : Entry := ⟨.everything, 0, [Sample.clock]⟩
    historyAll [outer] c = [⟨inner, c.countMiss⟩, ⟨outer, c⟩] ∧
      Event.Yields ⟨inner, c.countMiss⟩ () Sample.app e ∧ Event.Yields ⟨outer, c⟩ () Sample.app e ∧
      (Event.after ⟨outer, c⟩).peek () Sample.app = some e ∧ (Event.after ⟨outer, c⟩).Orderly := by
  intro c inner outer e
  have hhistory : historyAll [outer] c = [⟨inner, c.countMiss⟩, ⟨outer, c⟩] := rfl
  have hinner : Event.Yields ⟨inner, c.countMiss⟩ () Sample.app e := ⟨rfl, rfl⟩
  obtain ⟨-, -, hfound, -, hbrings, -, horderly⟩ := performAll_keeps_first c [outer]
  have hmem : ⟨outer, c⟩ ∈ historyAll [outer] c := by simp [hhistory]
  obtain ⟨e', houter, hfirst⟩ :=
    hbrings ⟨outer, c⟩ hmem () Sample.app [inner] [Sample.controller] rfl
  obtain rfl : e' = e := hfirst ⟨inner, c.countMiss⟩ List.mem_cons_self () e hinner rfl
  exact ⟨hhistory, hinner, houter, hfound _ hmem _ _ _ houter,
    (horderly (orderly_new _) _ hmem).2.1⟩

end Cache

end TypeSurvey
