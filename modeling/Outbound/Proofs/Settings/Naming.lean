import Outbound.Proofs.Event.Declarations
import Outbound.Proofs.Keyed
import Outbound.Proofs.Policy.Preset
import Outbound.Settings.Basic

namespace Outbound

/-- The first `outbound` declaration of the event has this target, which is not blank. -/
def Event.DeclaresRoute (e : Event) (target : String) : Prop :=
  (∃ before after, e.declarations = before ++ .outbound target :: after ∧
    ∀ d ∈ before, d.kind ≠ .outbound) ∧ isBlank target = false

theorem Declaration.kind_eq_outbound_iff {d : Declaration} :
    d.kind = .outbound ↔ ∃ target, d = .outbound target := by
  cases d <;> simp [kind]

theorem Event.declaration?_outbound_iff {e : Event} {target : String} :
    e.declaration? .outbound = some (.outbound target) ↔
      ∃ before after, e.declarations = before ++ .outbound target :: after ∧
        ∀ d ∈ before, d.kind ≠ .outbound :=
  declaration?_eq_some_iff.trans (and_iff_right rfl)

theorem Event.declares_outbound_iff {e : Event} :
    e.declares .outbound = true ↔ ∃ target, .outbound target ∈ e.declarations := by
  rw [declares_iff]
  constructor
  · intro h
    obtain ⟨d, hmem, hkind⟩ := h
    obtain ⟨target, rfl⟩ := Declaration.kind_eq_outbound_iff.mp hkind
    exact ⟨target, hmem⟩
  · intro h
    obtain ⟨target, hmem⟩ := h
    exact ⟨_, hmem, rfl⟩

theorem RouteSource.routeOf_outbound_iff {e : Event} {route : String} :
    ((RouteSource.declared .outbound).routeOf e).value = some route ↔ e.DeclaresRoute route := by
  unfold Event.DeclaresRoute
  rw [← Event.declaration?_outbound_iff]
  change ((e.declaration? .outbound).bind Declaration.route).bind unlessBlank = some route ↔ _
  simp only [Option.bind_eq_some_iff, unlessBlank_eq_some_iff]
  constructor
  · intro h
    obtain ⟨_, ⟨d, hfind, hroute⟩, hblank, rfl⟩ := h
    have hkind := List.find?_some hfind
    obtain ⟨target, rfl⟩ := Declaration.kind_eq_outbound_iff.mp (of_decide_eq_true hkind)
    obtain ⟨_, rfl⟩ := unlessBlank_eq_some_iff.mp hroute
    exact ⟨hfind, hblank⟩
  · intro h
    obtain ⟨hfind, hblank⟩ := h
    exact ⟨route, ⟨_, hfind, unlessBlank_eq_some_iff.mpr ⟨hblank, rfl⟩⟩, hblank, rfl⟩

namespace Settings

/-- The settings list the type under this route, which is not blank. -/
def Lists (s : Settings) (t : TypePath) (route : String) : Prop :=
  (t.name, route) ∈ s.declarations.entries ∧ isBlank route = false

/-- This is what follows the longest namespace of the settings that the type stands in. -/
def HasLocalName (s : Settings) (t : TypePath) (x : String) : Prop :=
  ∃ root ∈ s.namespaces,
    (t.isWithin root = true ∧ t.name.toList = Path.trim root.toList ++ ':' :: ':' :: x.toList) ∧
      ∀ other ∈ s.namespaces, t.isWithin other = true →
        trimmedLength other ≤ trimmedLength root

/-- Where the name of a destination is taken from. -/
inductive NameOrigin where
  | declaration
  | list
  | localName
  | fullName

/-- How settings are meant to name the destination of an event: by the first of four origins that
gives a name. -/
inductive Names (s : Settings) (e : Event) : NameOrigin → String → Prop where
  | declaration {target : String} (h : e.DeclaresRoute target) : Names s e .declaration target
  | list {route : String} (undeclared : ∀ target, ¬ e.DeclaresRoute target)
      (h : s.Lists e.type route) : Names s e .list route
  | localName {x : String} (undeclared : ∀ target, ¬ e.DeclaresRoute target)
      (unlisted : ∀ route, ¬ s.Lists e.type route) (h : s.HasLocalName e.type x) :
      Names s e .localName x
  | fullName (undeclared : ∀ target, ¬ e.DeclaresRoute target)
      (unlisted : ∀ route, ¬ s.Lists e.type route) (outside : ∀ x, ¬ s.HasLocalName e.type x) :
      Names s e .fullName (if isBlank e.type.name then e.concreteName else e.type.name)

variable {s : Settings} {e : Event}

theorem routeOf_table_iff {route : String} :
    ((RouteSource.table s.declarations).routeOf e).value = some route ↔ s.Lists e.type route := by
  change (s.declarations.get? e.type.name).bind unlessBlank = some route ↔ _
  unfold Lists
  rw [Option.bind_eq_some_iff, ← Keyed.get?_eq_some_iff]
  constructor
  · intro h
    obtain ⟨listed, hget, hlisted⟩ := h
    obtain ⟨hblank, rfl⟩ := unlessBlank_eq_some_iff.mp hlisted
    exact ⟨hget, hblank⟩
  · intro h
    obtain ⟨hget, hblank⟩ := h
    exact ⟨route, hget, unlessBlank_eq_some_iff.mpr ⟨hblank, rfl⟩⟩

theorem localPart_eq_some_iff_hasLocalName {x : String} :
    PartialNaming.localPart s.namespaces e.type = some x ↔ s.HasLocalName e.type x := by
  rw [PartialNaming.localPart_eq_some_iff]
  simp only [TypePath.localPart_eq_some_iff]
  rfl

theorem value_registry_routeOf (s : Settings) (e : Event) :
    (s.registry.routeOf e).value =
      ((RouteSource.declared .outbound).routeOf e).value.or
        ((RouteSource.table s.declarations).routeOf e).value := by
  unfold Registry.routeOf
  rw [Registry.value_routeFrom]
  change List.findSome? _ [RouteSource.declared .outbound, .table s.declarations] = _
  simp only [List.findSome?_cons, List.findSome?_nil]
  cases ((RouteSource.declared .outbound).routeOf e).value <;>
    cases ((RouteSource.table s.declarations).routeOf e).value <;> rfl

theorem registry_isBuiltIn (s : Settings) : s.registry.IsBuiltIn := by
  intro source hmem
  change source ∈ [RouteSource.declared .outbound, .table s.declarations] at hmem
  rcases List.mem_cons.mp hmem with rfl | hmem
  · rfl
  · rw [List.mem_singleton.mp hmem]
    rfl

/-- The name that the policy takes the destination from. -/
def nameOf (s : Settings) (e : Event) : String :=
  ((s.registry.routeOf e).value.or (PartialNaming.localPart s.namespaces e.type)).getD
    (Naming.fullName e)

theorem Names.eq_nameOf {origin : NameOrigin} {name : String} (h : s.Names e origin name) :
    name = s.nameOf e := by
  unfold nameOf
  rw [value_registry_routeOf]
  have hnone {o : Option String} {P : String → Prop} (ho : ∀ x, o = some x ↔ P x)
      (hP : ∀ x, ¬ P x) : o = none :=
    Option.eq_none_iff_forall_ne_some.mpr fun x hx => hP x ((ho x).mp hx)
  cases h with
  | declaration h => simp [RouteSource.routeOf_outbound_iff.mpr h]
  | list undeclared h =>
    have h0 := hnone (fun _ => RouteSource.routeOf_outbound_iff) undeclared
    simp [h0, routeOf_table_iff.mpr h]
  | localName undeclared unlisted h =>
    have h0 := hnone (fun _ => RouteSource.routeOf_outbound_iff) undeclared
    have h1 := hnone (fun _ => routeOf_table_iff) unlisted
    simp [h0, h1, localPart_eq_some_iff_hasLocalName.mpr h]
  | fullName undeclared unlisted outside =>
    have h0 := hnone (fun _ => RouteSource.routeOf_outbound_iff) undeclared
    have h1 := hnone (fun _ => routeOf_table_iff) unlisted
    have h2 := hnone (fun _ => localPart_eq_some_iff_hasLocalName) outside
    simp [h0, h1, h2, Naming.fullName]

/-- Every event has a name from one of the origins. -/
theorem names_exists (s : Settings) (e : Event) : ∃ origin name, s.Names e origin name := by
  by_cases hdeclared : ∃ target, e.DeclaresRoute target
  · obtain ⟨target, h⟩ := hdeclared
    exact ⟨_, _, .declaration h⟩
  · have undeclared := not_exists.mp hdeclared
    by_cases hlisted : ∃ route, s.Lists e.type route
    · obtain ⟨route, h⟩ := hlisted
      exact ⟨_, _, .list undeclared h⟩
    · have unlisted := not_exists.mp hlisted
      by_cases hlocal : ∃ x, s.HasLocalName e.type x
      · obtain ⟨x, h⟩ := hlocal
        exact ⟨_, _, .localName undeclared unlisted h⟩
      · exact ⟨_, _, .fullName undeclared unlisted (not_exists.mp hlocal)⟩

theorem covers_registry_congr {s' : Settings}
    (h : s'.declarations.get? e.type.name = s.declarations.get? e.type.name) :
    s'.registry.covers e = s.registry.covers e := by
  have htable : (RouteSource.table s'.declarations).covers e =
      (RouteSource.table s.declarations).covers e := by
    simp only [RouteSource.covers, Keyed.contains, h]
  change Registry.coveredBy [RouteSource.declared .outbound, .table s'.declarations] e =
    Registry.coveredBy [RouteSource.declared .outbound, .table s.declarations] e
  simp only [Registry.coveredBy, htable]

theorem routeOf_registry_congr {s' : Settings}
    (h : s'.declarations.get? e.type.name = s.declarations.get? e.type.name) :
    s'.registry.routeOf e = s.registry.routeOf e := by
  have htable : (RouteSource.table s'.declarations).routeOf e =
      (RouteSource.table s.declarations).routeOf e := by
    simp only [RouteSource.routeOf, h]
  change Registry.routeFrom [RouteSource.declared .outbound, .table s'.declarations] e =
    Registry.routeFrom [RouteSource.declared .outbound, .table s.declarations] e
  simp only [Registry.routeFrom, htable]

/-- What the settings list under other names does not bear on an event. -/
theorem policy_congr {s' : Settings} {c c' : Policy} (h : s.policy = .ok c)
    (h' : s'.policy = .ok c') (hroots : s'.namespaces = s.namespaces)
    (hlisted : s'.declarations.get? e.type.name = s.declarations.get? e.type.name) :
    c'.accepts e = c.accepts e ∧
      ∀ p : Payload, p.event = e → c'.destination p = c.destination p := by
  have hcovers := covers_registry_congr hlisted
  have hroute := routeOf_registry_congr hlisted
  rw [Policy.eq_of_preset h, Policy.eq_of_preset h', hroots]
  constructor
  · change (if _ then s'.registry.covers e else pure false) = if _ then s.registry.covers e else _
    rw [hcovers]
  · intro p heq
    subst heq
    have hname : Naming.declaredOrLocal s.namespaces s'.registry p.event =
        Naming.declaredOrLocal s.namespaces s.registry p.event := by
      simp only [Naming.declaredOrLocal, PartialNaming.otherwise, PartialNaming.orElse,
        PartialNaming.declared, hroute]
    unfold Policy.destination Policy.routeBy Policy.named
    simp only [hname]

theorem accepts_iff {c : Policy} (h : s.policy = .ok c) :
    (c.accepts e).value = true ↔
      (∃ root ∈ s.namespaces, e.type.isWithin root = true) ∧
        ((∃ target, .outbound target ∈ e.declarations) ∨
          e.type.name ∈ s.declarations.entries.map Prod.fst) := by
  rw [Policy.accepts_of_preset h, Bool.and_eq_true, List.any_eq_true]
  apply and_congr_right'
  rw [← Event.declares_outbound_iff, ← Keyed.contains_iff, List.any_eq_true]
  change (∃ source ∈ [RouteSource.declared .outbound, .table s.declarations], _) ↔ _
  simp only [List.mem_cons, List.not_mem_nil, or_false, exists_eq_or_imp, exists_eq_left]
  rfl

theorem destination_of_names {c : Policy} (h : s.policy = .ok c) {origin : NameOrigin}
    {name : String} (hname : s.Names e origin name) {p : Payload} (hp : p.event = e) :
    (c.destination p).run.value = Destination.ofText name := by
  subst hp
  rw [Policy.destination_of_preset h, hname.eq_nameOf]
  rfl

theorem origin_ne_fullName {c : Policy} (h : s.policy = .ok c) {origin : NameOrigin}
    {name : String} (hname : s.Names e origin name) (ha : (c.accepts e).value = true) :
    origin ≠ .fullName := by
  intro heq
  subst heq
  cases hname with
  | fullName _ _ outside =>
    obtain ⟨x, hx⟩ := PartialNaming.localPart_exists_iff.mpr (Policy.exists_within_of_accepted h ha)
    exact outside x (localPart_eq_some_iff_hasLocalName.mp hx)

/-- Settings make the policy that they are meant to make: it accepts what stands in a namespace
and is declared or listed, keeps events as they are, and names destinations by the first origin
that gives a name. -/
theorem policy_names_as_meant {s : Settings} {c : Policy} (h : s.policy = .ok c) (e : Event) :
    ((c.accepts e).value = true ↔
      (∃ root ∈ s.namespaces, e.type.isWithin root = true) ∧
        ((∃ target, .outbound target ∈ e.declarations) ∨
          e.type.name ∈ s.declarations.entries.map Prod.fst)) ∧
    (∀ p : Payload, p.event = e → (c.transform p).run.value = .ok p) ∧
    (∃ origin name, s.Names e origin name) ∧
    (∀ origin name, s.Names e origin name →
      (∀ p : Payload, p.event = e → (c.destination p).run.value = Destination.ofText name) ∧
      ((c.accepts e).value = true → origin ≠ .fullName)) ∧
    (∀ (s' : Settings) (c' : Policy), s'.policy = .ok c' → s'.namespaces = s.namespaces →
      s'.declarations.get? e.type.name = s.declarations.get? e.type.name →
      c'.accepts e = c.accepts e ∧
        ∀ p : Payload, p.event = e → c'.destination p = c.destination p) := by
  refine ⟨accepts_iff h, ?_, s.names_exists e, ?_, ?_⟩
  · intro p _
    rw [Policy.transform_of_preset h]
    rfl
  · intro origin name hname
    exact ⟨fun p hp => destination_of_names h hname hp, origin_ne_fullName h hname⟩
  · intro s' c' h' hroots hlisted
    exact policy_congr h h' hroots hlisted

/-- Settings with two namespaces, one inside the other, that list one type without a route. -/
def nestedShop : Settings :=
  ⟨["acme::shop", "acme::shop::orders::"], .ofList [("acme::shop::orders::Placed", " ")]⟩

/-- An event that declares itself twice, first without a route. -/
def orderPlaced : Event :=
  ⟨.bool true, ⟨"acme::shop::orders::Placed"⟩, "bool", [.outbound " ", .outbound "orders"]⟩

theorem names_nestedShop_orderPlaced : nestedShop.Names orderPlaced .localName "Placed" := by
  refine .localName ?_ ?_ (localPart_eq_some_iff_hasLocalName.mp (by decide +kernel))
  · intro target h
    have hroute := RouteSource.routeOf_outbound_iff.mpr h
    have hnone : ((RouteSource.declared .outbound).routeOf orderPlaced).value = none := by
      decide +kernel
    rw [hnone] at hroute
    simp at hroute
  · intro route h
    have hroute := routeOf_table_iff.mpr h
    have hnone : ((RouteSource.table nestedShop.declarations).routeOf orderPlaced).value = none := by
      decide +kernel
    rw [hnone] at hroute
    simp at hroute

/-- The longer namespace is left out of the name, and neither blank route counts. -/
theorem policy_names_as_meant_nested : ∃ c, nestedShop.policy = .ok c ∧
    (c.accepts orderPlaced).value = true ∧
    (c.destination (.raised orderPlaced)).run.value = Destination.ofText "Placed" := by
  obtain ⟨c, h⟩ : ∃ c, nestedShop.policy = .ok c := ⟨_, rfl⟩
  obtain ⟨haccepts, _, _, hnames, _⟩ := policy_names_as_meant h orderPlaced
  refine ⟨c, h, haccepts.mpr ⟨?_, .inl ⟨" ", ?_⟩⟩, ?_⟩
  · exact ⟨"acme::shop", by decide +kernel, by decide +kernel⟩
  · exact List.mem_cons_self
  · exact (hnames _ _ names_nestedShop_orderPlaced).1 (.raised orderPlaced) rfl

end Settings

end Outbound
