import Mathlib.Data.List.Nodup
import Mathlib.Logic.Relation
import TypeSurvey.Cache

/-!
# What a cache stores

What a cache keeps for a key serves every key that the comparer takes for the same. A cache changes
by counting and by storing under keys for which it has nothing yet, so what it stores stays where it
is, whatever is asked of it in between.
-/
namespace TypeSurvey.Cache

variable {α : Type} {cmp : Comparer α} {c d : Cache cmp} {a b : α} {root root' : UnitKey}
  {e e' : Entry}

theorem Key.same_iff {k l : Key α} :
    k.same cmp l = true ↔
      k.kind = l.kind ∧ k.root = l.root ∧ cmp.same k.parameter l.parameter = true := by
  simp [Key.same, and_assoc]

/-- Parameters that count as the same find the same entry. -/
theorem peek_congr (h : cmp.same a b = true) : c.peek a root = c.peek b root := by
  have hkey : (fun pair : Key α × Entry => pair.1.same cmp ⟨c.kind, a, root⟩) =
      fun pair => pair.1.same cmp ⟨c.kind, b, root⟩ := by
    funext pair
    rw [Bool.eq_iff_iff, Key.same_iff, Key.same_iff]
    refine and_congr_right fun _ => and_congr_right fun _ => ⟨fun hk => ?_, fun hk => ?_⟩
    · exact cmp.same_trans _ _ _ hk h
    · exact cmp.same_trans _ _ _ hk (cmp.same_symm _ _ h)
  rw [peek, peek, find?, find?, hkey]

theorem mem_of_peek (h : c.peek a root = some e) :
    ∃ k, (k, e) ∈ c.stored ∧ k.same cmp ⟨c.kind, a, root⟩ = true := by
  rw [peek, find?, Option.map_eq_some_iff] at h
  obtain ⟨⟨k, e'⟩, hfound, rfl⟩ := h
  have hkey := List.find?_some hfound
  exact ⟨k, List.mem_of_find?_eq_some hfound, hkey⟩

theorem same_eq_false_of_peek (h : c.peek a root = none) {pair : Key α × Entry}
    (hpair : pair ∈ c.stored) : pair.1.same cmp ⟨c.kind, a, root⟩ = false := by
  rw [peek, find?, Option.map_eq_none_iff, List.find?_eq_none] at h
  simpa using h pair hpair

section Store

theorem store_of_kept (types : List TypeDecl) (h : c.peek a root = some e) :
    c.store ⟨c.kind, a, root⟩ types = (e, c) := by
  rw [peek] at h
  rw [store, h]

theorem store_of_missing (types : List TypeDecl) (h : c.peek a root = none) :
    c.store ⟨c.kind, a, root⟩ types =
      (⟨c.kind, c.size, types⟩,
        { c with
          stored := c.stored ++ [(⟨c.kind, a, root⟩, ⟨c.kind, c.size, types⟩)] }) := by
  rw [peek] at h
  rw [store, h]

/-- A stored entry is found under its own key and no other lookup changes. -/
theorem peek_store (types : List TypeDecl) (b : α) (root' : UnitKey)
    (h : c.peek a root = none) :
    (c.store ⟨c.kind, a, root⟩ types).2.peek b root' =
      (c.peek b root').or
        (if root = root' ∧ cmp.same a b = true then
          some (c.store ⟨c.kind, a, root⟩ types).1
        else none) := by
  rw [store_of_missing types h]
  simp only [peek, find?, List.find?_append, Option.map_or]
  congr 1
  by_cases hsame : root = root' ∧ cmp.same a b = true
  · have hkey : Key.same cmp ⟨c.kind, a, root⟩ ⟨c.kind, b, root'⟩ = true :=
      Key.same_iff.mpr ⟨rfl, hsame.1, hsame.2⟩
    rw [if_pos hsame]
    simp [hkey]
  · have hkey : Key.same cmp ⟨c.kind, a, root⟩ ⟨c.kind, b, root'⟩ = false := by
      rw [Bool.eq_false_iff]
      intro hkey
      exact hsame (Key.same_iff.mp hkey).2
    rw [if_neg hsame]
    simp [hkey]

/-- What is stored last is found under its key, even if it was stored before. -/
theorem peek_store_self (c : Cache cmp) (a : α) (root : UnitKey) (types : List TypeDecl) :
    (c.store ⟨c.kind, a, root⟩ types).2.peek a root =
      some (c.store ⟨c.kind, a, root⟩ types).1 := by
  cases h : c.peek a root with
  | some e =>
    rw [store_of_kept types h]
    exact h
  | none =>
    rw [peek_store types a root h, h, if_pos ⟨rfl, cmp.same_refl a⟩, Option.none_or]

/-- Nothing is found after storing but what was found before and the entry of that key. -/
theorem peek_of_peek_store {types : List TypeDecl}
    (h : (c.store ⟨c.kind, a, root⟩ types).2.peek b root' = some e) :
    c.peek b root' = some e ∨
      (c.store ⟨c.kind, a, root⟩ types).1 = e ∧ root = root' ∧ cmp.same a b = true := by
  cases hpeek : c.peek a root with
  | some kept =>
    rw [store_of_kept types hpeek] at h
    exact Or.inl h
  | none =>
    rw [peek_store types b root' hpeek] at h
    rcases Option.or_eq_some_iff.mp h with hold | ⟨-, hnew⟩
    · exact Or.inl hold
    · split at hnew
      · rename_i hsame
        exact Or.inr ⟨Option.some.inj hnew, hsame⟩
      · simp at hnew

end Store

section Fetch

variable {σ : Type} {compute : Cache cmp → σ → Except SurveyError (List TypeDecl) × Cache cmp × σ}
  {s : σ}

theorem fetch_of_kept (h : c.peek a root = some e) :
    c.fetch compute s a root = (.ok e, c.countHit, s) := by
  rw [peek] at h
  simp [fetch, h]

theorem fetch_of_error {err : SurveyError} (h : c.peek a root = none)
    (herr : (compute c.countMiss s).1 = .error err) :
    c.fetch compute s a root = (.error err, (compute c.countMiss s).2) := by
  rw [peek] at h
  simp [fetch, h, herr]

theorem fetch_of_ok {types : List TypeDecl} (h : c.peek a root = none)
    (hok : (compute c.countMiss s).1 = .ok types) :
    c.fetch compute s a root =
      (.ok ((compute c.countMiss s).2.1.store ⟨c.kind, a, root⟩ types).1,
        ((compute c.countMiss s).2.1.store ⟨c.kind, a, root⟩ types).2,
        (compute c.countMiss s).2.2) := by
  rw [peek] at h
  simp [fetch, h, hok]

end Fetch

/-- One change of a cache: a hit or a miss is counted, or a first result is stored. -/
inductive Change : Cache cmp → Cache cmp → Prop
  | hit (c : Cache cmp) : Change c c.countHit
  | miss (c : Cache cmp) : Change c c.countMiss
  | add (c : Cache cmp) (a : α) (root : UnitKey) (types : List TypeDecl)
      (missing : c.peek a root = none) :
    Change c
      { c with
        stored := c.stored ++ [(⟨c.kind, a, root⟩, ⟨c.kind, c.size, types⟩)] }

/-- What a cache has become after any number of changes. -/
def Becomes : Cache cmp → Cache cmp → Prop := Relation.ReflTransGen Change

/-- Keys are pairwise different, and entries are numbered by their places. -/
structure Orderly (c : Cache cmp) : Prop where
  distinct : c.stored.Pairwise fun p q => p.1.same cmp q.1 = false
  serials : c.stored.map (fun p => p.2.serial) = List.range c.size

theorem orderly_new (kind : QuestionKind) : Orderly ({ kind } : Cache cmp) := ⟨.nil, rfl⟩

theorem Change.kind_eq (h : Change c d) : d.kind = c.kind := by
  cases h <;> rfl

theorem Change.stored_prefix (h : Change c d) : c.stored <+: d.stored := by
  cases h with
  | hit | miss => exact List.prefix_rfl
  | add => exact List.prefix_append _ _

theorem Change.orderly (h : Change c d) (hc : c.Orderly) : d.Orderly := by
  cases h with
  | hit | miss => exact ⟨hc.distinct, hc.serials⟩
  | add a root types missing =>
    constructor
    · rw [List.pairwise_append]
      refine ⟨hc.distinct, List.pairwise_singleton _ _, fun p hp q hq => ?_⟩
      obtain rfl := List.mem_singleton.mp hq
      exact same_eq_false_of_peek missing hp
    · simp [hc.serials, size, List.range_succ]

namespace Becomes

theorem trans {c d e : Cache cmp} (h : c.Becomes d) (h' : d.Becomes e) : c.Becomes e :=
  Relation.ReflTransGen.trans h h'

theorem hit (c : Cache cmp) : c.Becomes c.countHit := Relation.ReflTransGen.single (.hit c)

theorem miss (c : Cache cmp) : c.Becomes c.countMiss := Relation.ReflTransGen.single (.miss c)

theorem store (c : Cache cmp) (a : α) (root : UnitKey) (types : List TypeDecl) :
    c.Becomes (c.store ⟨c.kind, a, root⟩ types).2 := by
  cases hpeek : c.peek a root with
  | some e =>
    rw [store_of_kept types hpeek]
    exact .refl
  | none =>
    rw [store_of_missing types hpeek]
    exact Relation.ReflTransGen.single (.add c a root types hpeek)

theorem kind_eq (h : c.Becomes d) : d.kind = c.kind := by
  induction h with
  | refl => rfl
  | tail _ hchange ih => exact hchange.kind_eq.trans ih

/-- What is stored is neither moved nor replaced nor removed. -/
theorem stored_prefix (h : c.Becomes d) : c.stored <+: d.stored := by
  induction h with
  | refl => exact List.prefix_rfl
  | tail _ hchange ih => exact ih.trans hchange.stored_prefix

theorem orderly (h : c.Becomes d) (hc : c.Orderly) : d.Orderly := by
  induction h with
  | refl => exact hc
  | tail _ hchange ih => exact hchange.orderly ih

/-- What was found once is found ever after. -/
theorem peek (h : c.Becomes d) (hpeek : c.peek a root = some e) : d.peek a root = some e := by
  obtain ⟨more, hmore⟩ := h.stored_prefix
  rw [Cache.peek, find?, Option.map_eq_some_iff] at hpeek ⊢
  obtain ⟨pair, hfound, rfl⟩ := hpeek
  refine ⟨pair, ?_, rfl⟩
  rw [h.kind_eq, ← hmore, List.find?_append, hfound, Option.some_or]

end Becomes

/-- In an orderly cache two keys share an entry only if they are the same. -/
theorem Orderly.same_of_isSame (h : c.Orderly) (ha : c.peek a root = some e)
    (hb : c.peek b root' = some e') (hsame : e.isSame e' = true) :
    root = root' ∧ cmp.same a b = true := by
  obtain ⟨k, hk, hka⟩ := mem_of_peek ha
  obtain ⟨l, hl, hlb⟩ := mem_of_peek hb
  have hserial : e.serial = e'.serial := by
    simp only [Entry.isSame, Bool.and_eq_true, decide_eq_true_eq] at hsame
    exact hsame.2
  have hnodup : (c.stored.map fun p => p.2.serial).Nodup := h.serials ▸ List.nodup_range
  have hpair : (k, e) = (l, e') := List.inj_on_of_nodup_map hnodup hk hl hserial
  obtain ⟨rfl, rfl⟩ := Prod.mk.inj hpair
  obtain ⟨-, hroot, hparameter⟩ := Key.same_iff.mp hka
  obtain ⟨-, hroot', hparameter'⟩ := Key.same_iff.mp hlb
  exact ⟨hroot.symm.trans hroot', cmp.same_trans _ _ _ (cmp.same_symm _ _ hparameter) hparameter'⟩

end TypeSurvey.Cache
