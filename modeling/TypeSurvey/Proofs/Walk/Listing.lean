import TypeSurvey.Proofs.Walk.Runs

/-!
# What a walk lists

At any time the types a walk has listed, followed by those in what is pending, are the types of the
units it has entered: unit by unit in the order of entering, each unit's tree in declaration order.
-/
namespace TypeSurvey

namespace TypeDecl

theorem preorderAll_eq (ts : List TypeDecl) : preorderAll ts = ts.flatMap preorder := by
  induction ts with
  | nil => rfl
  | cons t ts ih => rw [preorderAll, ih, List.flatMap_cons]

theorem preorder_eq (t : TypeDecl) : t.preorder = t :: t.nested.flatMap preorder := by
  cases t
  rw [preorder, preorderAll_eq]

end TypeDecl

namespace Namespace

theorem declaredAll_eq (ns : List Namespace) : declaredAll ns = ns.flatMap declared := by
  induction ns with
  | nil => rfl
  | cons n ns ih => rw [declaredAll, ih, List.flatMap_cons]

theorem declared_eq (n : Namespace) :
    n.declared = n.types.flatMap TypeDecl.preorder ++ n.children.flatMap declared := by
  cases n
  rw [declared, declaredAll_eq, TypeDecl.preorderAll_eq]

end Namespace

def Part.declared : Part → List TypeDecl
  | space n => n.declared
  | type t => t.preorder

namespace Walk

/-- The types in what is pending, in the order in which they will be listed. -/
def owed (w : Walk) : List TypeDecl := w.pending.flatMap Part.declared

/-- The types of all units entered so far. -/
def promised (w : Walk) : List TypeDecl := w.entered.reverse.flatMap fun u => u.root.declared

theorem owed_of_space {w : Walk} {n : Namespace} {rest : List Part}
    (h : w.pending = .space n :: rest) :
    w.owed = (n.types.map Part.type ++ (n.children.map Part.space ++ rest)).flatMap
      Part.declared := by
  simp [owed, h, Part.declared, n.declared_eq, List.flatMap_map]

theorem owed_of_type {w : Walk} {t : TypeDecl} {rest : List Part}
    (h : w.pending = .type t :: rest) :
    w.owed = t :: (t.nested.map Part.type ++ rest).flatMap Part.declared := by
  simp [owed, h, Part.declared, t.preorder_eq, List.flatMap_map]

end Walk

/-- A move either lists the front of what is owed, or it lists nothing and enters a unit, all of
which is then owed. -/
theorem Turn.lists_or_enters {c : Catalog} {w w' : Walk} {m : Move} (h : Turn c w m w') :
    (w'.entered = w.entered ∧ w.owed = m.listed ++ w'.owed) ∨
      ∃ u, w'.entered = u :: w.entered ∧ w.owed = [] ∧ m.listed = [] ∧
        w'.owed = u.root.declared := by
  cases h with
  | stay => exact Or.inl ⟨rfl, rfl⟩
  | unpack live pending => exact Or.inl ⟨rfl, Walk.owed_of_space pending⟩
  | list live pending => exact Or.inl ⟨rfl, Walk.owed_of_type pending⟩
  | depart =>
    unfold Walk.departing
    split <;> exact Or.inl ⟨rfl, rfl⟩
  | exhaust => exact Or.inl ⟨rfl, rfl⟩
  | cut => exact Or.inl ⟨rfl, rfl⟩
  | @enter u rest live pending current worklist =>
    refine Or.inr ⟨u, rfl, ?_, rfl, ?_⟩
    · rw [Walk.owed, pending, List.flatMap_nil]
    · simp [Walk.owed, Walk.entering, Part.declared]

/-- A move lists the front of what is owed, and entering a unit adds its types at the end. -/
theorem Turn.promised {c : Catalog} {w w' : Walk} {m : Move} {ts : List TypeDecl}
    (h : Turn c w m w') (hw : w.promised = ts ++ w.owed) :
    w'.promised = ts ++ m.listed ++ w'.owed := by
  rcases h.lists_or_enters with ⟨hentered, howed⟩ | ⟨u, hentered, hnone, hquiet, howed⟩
  · rw [Walk.promised, hentered, List.append_assoc, ← howed]
    exact hw
  · rw [Walk.promised, hentered, List.reverse_cons, List.flatMap_append, hquiet, howed]
    simpa [Walk.promised, hnone] using hw

theorem Advances.promised {p : Program} {w w' : Walk} {ts us : List TypeDecl}
    (h : Advances p w us w') (hw : w.promised = ts ++ w.owed) :
    w'.promised = ts ++ us ++ w'.owed := by
  induction h with
  | still => simpa using hw
  | move _ _ hturn ih =>
    rw [← List.append_assoc]
    exact hturn.promised ih

/-- The types listed by a complete run are those of the entered units, in the order of entering. -/
theorem Walk.start_listed {g : Gate} {root : CodeUnit} {crosses : Bool} {token : Option Token}
    {c : Catalog} {ts : List TypeDecl} (hrun : ((start g root crosses token).run c).1 = .ok ts) :
    ts = ((start g root crosses token).run c).2.1.promised := by
  have hend := run_exhausted hrun rfl
  have hstart : (start g root crosses token).promised =
      [] ++ (start g root crosses token).owed := rfl
  have hlisted := (run_advances hrun).promised hstart
  simpa [owed, hend.pending] using hlisted.symm

end TypeSurvey
