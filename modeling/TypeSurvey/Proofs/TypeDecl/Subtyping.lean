import TypeSurvey.Proofs.TypeDecl.Lineage
import TypeSurvey.Sample

/-!
# Subtypes

A lineage tells declarations apart by symbol and follows only the first of each. That loses nothing
where declarations of one symbol refer to the same symbols: there the subtypes of a base are what
reaches its symbol by references to bases and then to capabilities. Such subtypes can be chained,
except that the bases of a capability do not count.
-/
namespace TypeSurvey.TypeDecl

open Relation

variable {t u b c m : TypeDecl}

/-- References to bases and then to capabilities, any number of each. -/
def InLineage (t u : TypeDecl) : Prop :=
  ∃ x, ReflTransGen HasBase t x ∧ ReflTransGen Declares x u

/-- References to bases and then to capabilities, at least one in all. -/
def Inherits (t u : TypeDecl) : Prop :=
  ∃ x, ReflTransGen HasBase t x ∧ ReflTransGen Declares x u ∧
    (TransGen HasBase t x ∨ TransGen Declares x u)

/-- References to bases and capabilities in any order. -/
def Reaches (t u : TypeDecl) : Prop := ReflTransGen (fun x y => x.HasBase y ∨ x.Declares y) t u

/-- Declarations of one symbol have bases of one symbol, as far as they have any, and capabilities of
the same symbols. -/
structure Coherent (among : TypeDecl → Prop) : Prop where
  base : ∀ x y, among x → among y → x.symbol = y.symbol →
    ∀ b b', x.HasBase b → y.HasBase b' → b.symbol = b'.symbol
  capabilities : ∀ x y, among x → among y → x.symbol = y.symbol →
    ∀ c, x.Declares c → ∃ c', y.Declares c' ∧ c'.symbol = c.symbol

theorem Coherent.mono {among among' : TypeDecl → Prop} (h : Coherent among)
    (hsub : ∀ x, among' x → among x) : Coherent among' where
  base x y hx hy := h.base x y (hsub x hx) (hsub y hy)
  capabilities x y hx hy := h.capabilities x y (hsub x hx) (hsub y hy)

/-- It is enough that a symbol tells the symbols a declaration refers to. -/
theorem Coherent.of_symbols {among : TypeDecl → Prop} (baseOf : Symbol → Option Symbol)
    (capabilitiesOf : Symbol → List Symbol)
    (hbase : ∀ x, among x → x.base.map symbol = baseOf x.symbol)
    (hcapabilities : ∀ x, among x → x.capabilities.map symbol = capabilitiesOf x.symbol) :
    Coherent among where
  base x y hx hy hxy b b' hb hb' := by
    have hsame : x.base.map symbol = y.base.map symbol := by rw [hbase x hx, hbase y hy, hxy]
    rw [hb, hb'] at hsame
    exact Option.some.inj hsame
  capabilities x y hx hy hxy c hc := by
    have hsame : x.capabilities.map symbol = y.capabilities.map symbol := by
      rw [hcapabilities x hx, hcapabilities y hy, hxy]
    have hmem : c.symbol ∈ y.capabilities.map symbol := hsame ▸ List.mem_map_of_mem hc
    exact List.mem_map.mp hmem

theorem InLineage.reaches (h : t.InLineage u) : t.Reaches u := by
  obtain ⟨x, hbases, hcapabilities⟩ := h
  have hfirst : t.Reaches x := ReflTransGen.mono (fun _ _ => Or.inl) _ _ hbases
  have hsecond : x.Reaches u := ReflTransGen.mono (fun _ _ => Or.inr) _ _ hcapabilities
  exact ReflTransGen.trans hfirst hsecond

theorem Inherits.of_bases (h : TransGen HasBase t u) : t.Inherits u :=
  ⟨u, h.to_reflTransGen, .refl, Or.inl h⟩

theorem Inherits.of_capabilities {x : TypeDecl} (hx : ReflTransGen HasBase t x)
    (h : TransGen Declares x u) : t.Inherits u :=
  ⟨x, hx, h.to_reflTransGen, Or.inr h⟩

/-- Some reference leads to a capability, or all lead to bases. -/
theorem inherits_iff : t.Inherits u ↔
    TransGen HasBase t u ∨ ∃ x, ReflTransGen HasBase t x ∧ TransGen Declares x u := by
  constructor
  · rintro ⟨x, hbases, hcapabilities, hbase | hcapability⟩
    · rcases reflTransGen_iff_eq_or_transGen.mp hcapabilities with rfl | hcapability
      · exact Or.inl hbase
      · exact Or.inr ⟨x, hbases, hcapability⟩
    · exact Or.inr ⟨x, hbases, hcapability⟩
  · rintro (h | ⟨x, hx, h⟩)
    · exact .of_bases h
    · exact .of_capabilities hx h

/-- Whatever its references, a type has no subtype relation that they do not bear out. -/
theorem inherits_of_isSubtypeOf (h : t.isSubtypeOf b = true) :
    ∃ u, t.Inherits u ∧ u.symbol = b.symbol := by
  simp only [isSubtypeOf, Bool.or_eq_true, List.any_eq_true, decide_eq_true_eq] at h
  rcases h with ⟨u, hu, hsymbol⟩ | ⟨u, hu, hsymbol⟩
  · exact ⟨u, .of_bases (mem_bases_iff.mp (mem_bases_of_mem_ancestors hu)), hsymbol⟩
  · obtain ⟨x, hx, hreached⟩ := reached_of_mem_capabilityClosure hu
    exact ⟨u, .of_capabilities hx hreached, hsymbol⟩

/-- Every base is there among the ancestors, if not itself then by its symbol. -/
theorem symbol_mem_ancestors (h : Coherent t.InLineage) (hu : TransGen HasBase t u) :
    ∃ z ∈ t.ancestors, z.symbol = u.symbol := by
  rcases ancestors_whole_or t with hwhole | hbase
  · exact ⟨u, hwhole ▸ mem_bases_iff.mpr hu, rfl⟩
  · induction hu with
    | single hb => exact ⟨_, mem_ancestors_of_hasBase hb, rfl⟩
    | @tail x y hx hy ih =>
      obtain ⟨z, hz, hzx⟩ := ih
      obtain ⟨b, hb⟩ := hbase z hz
      obtain ⟨v, hv, hvb⟩ := ancestors_closed hz hb
      have hzbases := mem_bases_iff.mp (mem_bases_of_mem_ancestors hz)
      have hby : b.symbol = y.symbol :=
        h.base z x ⟨z, hzbases.to_reflTransGen, .refl⟩ ⟨x, hx.to_reflTransGen, .refl⟩ hzx b y hb hy
      exact ⟨v, hv, hvb.trans hby⟩

/-- Every capability in the lineage is there, if not itself then by its symbol. -/
theorem symbol_mem_of_declares {x : TypeDecl} (h : Coherent t.InLineage)
    (hx : ReflTransGen HasBase t x) (hu : TransGen Declares x u) :
    ∃ v ∈ t.capabilityClosure, v.symbol = u.symbol := by
  induction hu with
  | @single c hc =>
    obtain ⟨z, hz, hzbases, hzx⟩ :
        ∃ z, (z = t ∨ z ∈ t.ancestors) ∧ ReflTransGen HasBase t z ∧ z.symbol = x.symbol := by
      rcases reflTransGen_iff_eq_or_transGen.mp hx with rfl | hsome
      · exact ⟨x, Or.inl rfl, .refl, rfl⟩
      · obtain ⟨z, hz, hzx⟩ := symbol_mem_ancestors h hsome
        have hzbases := mem_bases_iff.mp (mem_bases_of_mem_ancestors hz)
        exact ⟨z, Or.inr hz, hzbases.to_reflTransGen, hzx⟩
    obtain ⟨c', hc', hsymbol⟩ :=
      h.capabilities x z ⟨x, hx, .refl⟩ ⟨z, hzbases, .refl⟩ hzx.symm c hc
    obtain ⟨v, hv, hvc⟩ := symbol_mem_capabilityClosure hz hc'
    exact ⟨v, hv, hvc.trans hsymbol⟩
  | @tail c d hc hd ih =>
    obtain ⟨v, hv, hvc⟩ := ih
    obtain ⟨y, hy, hreached⟩ := reached_of_mem_capabilityClosure hv
    obtain ⟨d', hd', hsymbol⟩ :=
      h.capabilities c v ⟨x, hx, hc.to_reflTransGen⟩ ⟨y, hy, hreached.to_reflTransGen⟩ hvc.symm d hd
    obtain ⟨w, hw, hwd⟩ := capabilityClosure_closed hv hd'
    exact ⟨w, hw, hwd.trans hsymbol⟩

theorem isSubtypeOf_of_inherits (h : Coherent t.InLineage) (hu : t.Inherits u)
    (hsymbol : u.symbol = b.symbol) : t.isSubtypeOf b = true := by
  simp only [isSubtypeOf, Bool.or_eq_true, List.any_eq_true, decide_eq_true_eq]
  rcases inherits_iff.mp hu with hbase | ⟨x, hx, hcapability⟩
  · obtain ⟨z, hz, hzu⟩ := symbol_mem_ancestors h hbase
    exact Or.inl ⟨z, hz, hzu.trans hsymbol⟩
  · obtain ⟨v, hv, hvu⟩ := symbol_mem_of_declares h hx hcapability
    exact Or.inr ⟨v, hv, hvu.trans hsymbol⟩

/-- Where all that a type reaches is coherent, the types it is a subtype of are those whose symbol
it reaches through bases and then capabilities; and it is a concrete subtype of them if it is
neither an interface nor abstract and of another symbol. -/
theorem isSubtypeOf_iff_inherits (h : Coherent c.Reaches) (b : TypeDecl) :
    (c.isSubtypeOf b = true ↔ ∃ u, c.Inherits u ∧ u.symbol = b.symbol) ∧
    (c.isConcreteSubtypeOf b = true ↔
      (∃ u, c.Inherits u ∧ u.symbol = b.symbol) ∧
        .abstractType ∉ c.modifiers ∧ c.kind ≠ .interfaceKind ∧ c.symbol ≠ b.symbol) := by
  have hlineage : Coherent c.InLineage := h.mono fun x hx => hx.reaches
  have hsubtype : c.isSubtypeOf b = true ↔ ∃ u, c.Inherits u ∧ u.symbol = b.symbol := by
    constructor
    · exact inherits_of_isSubtypeOf
    · rintro ⟨u, hu, hsymbol⟩
      exact isSubtypeOf_of_inherits hlineage hu hsymbol
  refine ⟨hsubtype, ?_⟩
  rw [← hsubtype, isConcreteSubtypeOf, isAbstract]
  simp only [Bool.and_eq_true, Bool.not_eq_true', Bool.or_eq_false_iff, decide_eq_false_iff_not,
    decide_eq_true_eq]
  constructor
  · rintro ⟨⟨⟨hkind, hmodifiers⟩, hother⟩, hsub⟩
    exact ⟨hsub, hmodifiers, hkind, hother⟩
  · rintro ⟨hsub, hmodifiers, hkind, hother⟩
    exact ⟨⟨⟨hkind, hmodifiers⟩, hother⟩, hsub⟩

/-- A type of the application with nothing but its references. -/
def plain (name : String) (base : Option TypeDecl := none) (capabilities : List TypeDecl := []) :
    TypeDecl :=
  { unit := Sample.app, space := "App", name, base, capabilities }

def top : TypeDecl := plain "ITop" none [plain "IRoot"]

def side : TypeDecl := plain "Side" none [top]

/-- Its own capability is another declaration of the one that its base has. -/
def bottom : TypeDecl := plain "Bottom" (some side) [{ top with row := some 0 }]

theorem reaches_bottom (h : bottom.Reaches u) :
    u = bottom ∨ u = side ∨ u = top ∨ u = { top with row := some 0 } ∨ u = plain "IRoot" := by
  induction h with
  | refl => exact Or.inl rfl
  | tail _ hstep ih =>
    rcases ih with rfl | rfl | rfl | rfl | rfl <;> rcases hstep with hbase | hcapability
    · exact Or.inr (Or.inl (Option.some.inj hbase).symm)
    · exact Or.inr (Or.inr (Or.inr (Or.inl (List.mem_singleton.mp hcapability))))
    · cases hbase
    · exact Or.inr (Or.inr (Or.inl (List.mem_singleton.mp hcapability)))
    · cases hbase
    · exact Or.inr (Or.inr (Or.inr (Or.inr (List.mem_singleton.mp hcapability))))
    · cases hbase
    · exact Or.inr (Or.inr (Or.inr (Or.inr (List.mem_singleton.mp hcapability))))
    · cases hbase
    · cases hcapability

theorem coherent_bottom : Coherent bottom.Reaches := by
  refine Coherent.of_symbols
    (fun s => if s = bottom.symbol then some side.symbol else none)
    (fun s =>
      if s = top.symbol then [(plain "IRoot").symbol]
      else if s = (plain "IRoot").symbol then [] else [top.symbol]) ?_ ?_
  all_goals
    intro x hx
    rcases reaches_bottom hx with rfl | rfl | rfl | rfl | rfl <;> decide +kernel

theorem isSubtypeOf_iff_inherits_bottom :
    Coherent bottom.Reaches ∧ bottom.isSubtypeOf (plain "IRoot") = true ∧
      bottom.isConcreteSubtypeOf side = true := by
  have hroot : bottom.Inherits (plain "IRoot") :=
    .of_capabilities (.single rfl)
      (.head (b := top) List.mem_cons_self (.single List.mem_cons_self))
  have hside : bottom.Inherits side := .of_bases (.single rfl)
  refine ⟨coherent_bottom, ?_, ?_⟩
  · exact (isSubtypeOf_iff_inherits coherent_bottom _).1.mpr ⟨_, hroot, rfl⟩
  · refine (isSubtypeOf_iff_inherits coherent_bottom side).2.mpr ⟨⟨_, hside, rfl⟩, ?_⟩
    decide +kernel

theorem Inherits.below (hm : TransGen HasBase t m) (hu : m.Inherits u) : t.Inherits u := by
  rcases inherits_iff.mp hu with hbase | ⟨x, hx, hcapability⟩
  · exact .of_bases (hm.trans hbase)
  · exact .of_capabilities (hm.to_reflTransGen.trans hx) hcapability

/-- Without a base, all that is inherited are capabilities. -/
theorem Inherits.by_capabilities (h : m.base = none) (hu : m.Inherits u) : TransGen Declares m u := by
  have hnone : ∀ x, ¬ TransGen HasBase m x := by
    intro x hx
    have hmem := mem_bases_iff.mpr hx
    simp [bases_of_none h] at hmem
  rcases inherits_iff.mp hu with hbase | ⟨x, hx, hcapability⟩
  · exact absurd hbase (hnone u)
  · rcases reflTransGen_iff_eq_or_transGen.mp hx with rfl | hsome
    · exact hcapability
    · exact absurd hsome (hnone x)

/-- In a coherent lineage the relation chains through every ancestor, and through a capability as far
as that leads on by capabilities alone, as it does if it has no base. -/
theorem isSubtypeOf_trans (h : Coherent t.InLineage) (hmb : m.isSubtypeOf b = true) :
    (m ∈ t.ancestors → t.isSubtypeOf b = true) ∧
    (m ∈ t.capabilityClosure →
      (m.base = none ∨ ∃ u, TransGen Declares m u ∧ u.symbol = b.symbol) →
      t.isSubtypeOf b = true) := by
  obtain ⟨u, hu, hub⟩ := inherits_of_isSubtypeOf hmb
  constructor
  · intro hm
    have hbases := mem_bases_iff.mp (mem_bases_of_mem_ancestors hm)
    exact isSubtypeOf_of_inherits h (hu.below hbases) hub
  · intro hm hcapability
    obtain ⟨x, hx, hreached⟩ := reached_of_mem_capabilityClosure hm
    obtain ⟨v, hv, hvb⟩ : ∃ v, TransGen Declares m v ∧ v.symbol = b.symbol := by
      rcases hcapability with hnone | hsome
      · exact ⟨u, hu.by_capabilities hnone, hub⟩
      · exact hsome
    exact isSubtypeOf_of_inherits h (.of_capabilities hx (hreached.trans hv)) hvb

/-- The base of `bottom` leads on to `top`, its own capability to the root. -/
theorem isSubtypeOf_trans_bottom :
    let m : TypeDecl := { top with row := some 0 }
    let root := plain "IRoot"
    Coherent bottom.InLineage ∧
      (side ∈ bottom.ancestors ∧ side.isSubtypeOf top = true ∧ bottom.isSubtypeOf top = true) ∧
      (m ∈ bottom.capabilityClosure ∧ m.base = none ∧ m.isSubtypeOf root = true ∧
        bottom.isSubtypeOf root = true) := by
  intro m root
  have hcoherent : Coherent bottom.InLineage := coherent_bottom.mono fun x hx => hx.reaches
  have hside : side ∈ bottom.ancestors := mem_ancestors_of_hasBase rfl
  have htop : side.isSubtypeOf top = true := by decide +kernel
  have hm : m ∈ bottom.capabilityClosure := by simp [capabilityClosure, visit, bottom, plain, m]
  have hroot : m.isSubtypeOf root = true := by decide +kernel
  refine ⟨hcoherent, ⟨hside, htop, ?_⟩, hm, rfl, hroot, ?_⟩
  · exact (isSubtypeOf_trans hcoherent htop).1 hside
  · exact (isSubtypeOf_trans hcoherent hroot).2 hm (Or.inl rfl)

/-- A capability that has a base, and a type that has this capability. -/
def part : TypeDecl := plain "IPart" (some (plain "Root"))

def whole : TypeDecl := plain "Whole" none [part]

theorem inLineage_whole (h : whole.InLineage u) : u = whole ∨ u = part := by
  obtain ⟨x, hx, hu⟩ := h
  rcases hx.cases_head with rfl | ⟨y, hbase, -⟩
  · rcases hu.cases_head with rfl | ⟨c, hc, hu⟩
    · exact Or.inl rfl
    · obtain rfl := List.mem_singleton.mp hc
      rcases hu.cases_head with rfl | ⟨d, hd, -⟩
      · exact Or.inr rfl
      · cases hd
  · cases hbase

/-- The base of a capability is not inherited. Where the chain of bases comes back to a symbol, what
is behind it is not inherited; and of two declarations of a capability only the first is followed. -/
theorem isSubtypeOf_not_trans :
    let root := plain "Root"
    let looped := plain "Middle" (some (plain "Outer" (some root)))
    let loop := plain "Loop" (some (plain "Outer" (some looped)))
    let richer := plain "IMiddle" none [plain "IShared" none [root]]
    let poorer := plain "Poorer" none [plain "IShared", richer]
    (Coherent whole.InLineage ∧ part ∈ whole.capabilityClosure ∧
      part.isSubtypeOf root = true ∧ whole.isSubtypeOf root = false) ∧
    (looped ∈ loop.ancestors ∧ looped.isSubtypeOf root = true ∧ loop.isSubtypeOf root = false) ∧
    (richer ∈ poorer.capabilityClosure ∧ richer.isSubtypeOf root = true ∧
      poorer.isSubtypeOf root = false) := by
  intro root looped loop richer poorer
  have hcoherent : Coherent whole.InLineage := by
    refine Coherent.of_symbols
      (fun s => if s = part.symbol then some (plain "Root").symbol else none)
      (fun s => if s = whole.symbol then [part.symbol] else []) ?_ ?_
    all_goals
      intro x hx
      rcases inLineage_whole hx with rfl | rfl <;> decide +kernel
  have hpart : part ∈ whole.capabilityClosure := by simp [capabilityClosure, visit, whole, plain]
  have hlooped : looped ∈ loop.ancestors := by
    have hother : looped.symbol ∉ [(plain "Outer" (some looped)).symbol] := by decide +kernel
    have hbases : loop.bases = plain "Outer" (some looped) :: looped :: looped.bases := rfl
    rw [ancestors, hbases, beforeRepeat, if_neg List.not_mem_nil, beforeRepeat, if_neg hother]
    simp
  have hricher : richer ∈ poorer.capabilityClosure := by
    have hother : richer.symbol ∉ [(plain "IShared").symbol] := by decide +kernel
    change richer ∈ visit [] [plain "IShared", richer]
    rw [visit, if_neg List.not_mem_nil]
    change richer ∈ plain "IShared" :: visit [(plain "IShared").symbol] [richer]
    rw [visit, if_neg hother]
    simp
  refine ⟨⟨hcoherent, hpart, ?_, ?_⟩, ⟨hlooped, ?_, ?_⟩, ⟨hricher, ?_, ?_⟩⟩ <;> decide +kernel

end TypeSurvey.TypeDecl
