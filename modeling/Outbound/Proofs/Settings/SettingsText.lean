import Outbound.Proofs.Json.FieldPair
import Outbound.Proofs.Json.RoundTrip
import Outbound.Settings.File

namespace Outbound

namespace Source

/-- The roots that an array of texts lists. -/
def roots? : Source → Option (List String)
  | array _ items => items.mapM fun s => s.item.string?
  | _ => none

def route? (m : Member Source) : Option (String × String) :=
  m.label?.bind fun k => m.value.string?.map fun v => (k, v)

/-- The routes that an object of texts declares. -/
def routes? : Source → Option RouteTable
  | object _ members => (members.mapM fun s => route? s.item).map Keyed.ofList
  | _ => none

/-- The text is an object of texts, and the table has what it declares. Of equal names the last one
counts. -/
inductive Declares : Source → RouteTable → Prop
  | object {gap members named table} :
      List.Forall₂ (fun s e => Literal.Spells s.item.name e.1.toList ∧
        s.item.value.Denotes (.string e.2)) members named →
      (∀ k, table.get? k = named.reverse.lookup k) → Declares (.object gap members) table

theorem roots?_eq_some_iff {x : Source} {roots : List String} :
    x.roots? = some roots ↔ x.Denotes (.array (roots.map .string)) := by
  cases x with
  | array gap items =>
    rw [denotes_array_iff, List.forall₂_map_right_iff]
    simp only [← string?_eq_some_iff]
    exact mapM_eq_some_iff
  | _ => exact ⟨fun h => by simp [roots?] at h, fun h => by cases h⟩

theorem route?_eq_some_iff {m : Member Source} {e : String × String} :
    route? m = some e ↔ Literal.Spells m.name e.1.toList ∧ m.value.Denotes (.string e.2) := by
  rw [← Literal.decode_glyphs_iff, ← string?_eq_some_iff, route?, Option.bind_eq_some_iff]
  constructor
  · intro h
    obtain ⟨k, hk, h⟩ := h
    obtain ⟨v, hv, rfl⟩ := Option.map_eq_some_iff.mp h
    exact ⟨hk, hv⟩
  · intro h
    exact ⟨e.1, h.1, by rw [h.2]; rfl⟩

theorem routes?_eq_some_iff {x : Source} {table : RouteTable} :
    x.routes? = some table ↔ x.Declares table := by
  constructor
  · intro h
    cases x with
    | object gap members =>
      obtain ⟨named, hnamed, rfl⟩ := Option.map_eq_some_iff.mp h
      have hall := (mapM_eq_some_iff.mp hnamed).imp fun _ _ => route?_eq_some_iff.mp
      exact .object hall (Keyed.get?_ofList named)
    | _ => simp [routes?] at h
  · intro h
    cases h with
    | @object gap members named _ hall hlookup =>
      have hnamed : members.mapM (fun s => route? s.item) = some named :=
        mapM_eq_some_iff.mpr (hall.imp fun _ _ => route?_eq_some_iff.mpr)
      simp [routes?, hnamed, Keyed.ofList_eq hlookup]

end Source

namespace Settings

open Outbound.Source (under sole)

/-- The parts are those of a text of the settings: each of its two fields, unless that is empty and
left out, and anything else under other names. -/
structure WrittenIn (s : Settings) (parts : List (String × Source)) : Prop where
  namespaces : (under "namespaces" parts = [] ∧ s.namespaces = []) ∨
    ∃ x, under "namespaces" parts = [x] ∧ x.Denotes (.array (s.namespaces.map .string))
  declarations : (under "declarations" parts = [] ∧ s.declarations = .empty) ∨
    ∃ x, under "declarations" parts = [x] ∧ x.Declares s.declarations

/-- What the parts of settings must not be. -/
inductive Faulty (parts : List (String × Source)) : Prop
  | repeated {name} : name = "namespaces" ∨ name = "declarations" →
      1 < (under name parts).length → Faulty parts
  | namespaces {x} : x ∈ under "namespaces" parts →
      (∀ roots : List String, ¬ x.Denotes (.array (roots.map .string))) → Faulty parts
  | declarations {x} : x ∈ under "declarations" parts → (∀ table, ¬ x.Declares table) →
      Faulty parts

theorem follows_readNamespaces :
    Parser.Follows readNamespaces fun x => x.roots?.map Part.namespaces := by
  intro t gap rest _
  beta_reduce
  by_cases ht : ∃ inner items, t = .array inner items
  · obtain ⟨inner, items, rfl⟩ := ht
    have hitems : ∀ s ∈ items, Parser.MakesOf Parser.string s.item.text s.item.string? :=
      fun s _ => Parser.follows_string.makesOf s.item
    have hsequence := Parser.sequence_slots (show Parser.isClosing ']' = true from rfl) hitems
      (fun s _ => Source.opens_text s.item) inner rest
    have hspace : Parser.isSpace '[' = false := rfl
    rw [Source.text, Source.itemTexts_eq_map, Source.roots?]
    simp only [List.cons_append, List.append_assoc, List.nil_append, readNamespaces,
      Parser.skipSpaces_gap, Parser.skipSpaces_cons hspace, hsequence]
    cases items.mapM fun s => s.item.string? <;> rfl
  · obtain ⟨c, after, htext, hspace, _, _, hsquare, _⟩ := t.exists_cons_text
    have hc : c ≠ '[' := fun h => ht (hsquare h)
    have hroots : t.roots? = none := by
      cases t with
      | array inner items => exact absurd ⟨inner, items, rfl⟩ ht
      | _ => rfl
    rw [hroots, htext]
    simp [readNamespaces, Parser.skipSpaces_gap, Parser.skipSpaces_cons hspace, hc]

theorem makesOf_route (m : Member Source) :
    Parser.MakesOf
      (Parser.member Parser.string fun name s =>
        (Parser.string s).map fun (route, rest) => ((name, route), rest))
      (m.textWith Source.text) (Source.route? m) := by
  apply Parser.makesOf_member
  intro k
  exact (Parser.follows_string.map fun v => (k, v)).makesOf m.value

theorem follows_readDeclarations :
    Parser.Follows readDeclarations fun x => x.routes?.map Part.declarations := by
  intro t gap rest _
  beta_reduce
  by_cases ht : ∃ inner members, t = .object inner members
  · obtain ⟨inner, members, rfl⟩ := ht
    have hmembers := fun (s : Slot (Member Source)) (_ : s ∈ members) => makesOf_route s.item
    have hsequence := Parser.sequence_slots (show Parser.isClosing '\x7d' = true from rfl) hmembers
      (fun s _ => Source.opens_member s.item) inner rest
    have hspace : Parser.isSpace '\x7b' = false := rfl
    rw [Source.text, Source.memberTexts_eq_map, Source.routes?]
    simp only [List.cons_append, List.append_assoc, List.nil_append, readDeclarations,
      Parser.skipSpaces_gap, Parser.skipSpaces_cons hspace, hsequence]
    cases members.mapM fun s => Source.route? s.item <;> rfl
  · obtain ⟨c, after, htext, hspace, _, _, _, hcurly⟩ := t.exists_cons_text
    have hc : c ≠ '\x7b' := fun h => ht (hcurly h)
    have hroutes : t.routes? = none := by
      cases t with
      | object inner members => exact absurd ⟨inner, members, rfl⟩ ht
      | _ => rfl
    rw [hroutes, htext]
    simp [readDeclarations, Parser.skipSpaces_gap, Parser.skipSpaces_cons hspace, hc]

/-- The members of settings, with what their values mean. -/
def members : FieldPair Part (List String) RouteTable where
  first := ⟨"namespaces", readNamespaces⟩
  second := ⟨"declarations", readDeclarations⟩
  distinct := by decide
  meaningFirst := Source.roots?
  meaningSecond := Source.routes?
  ofFirst := .namespaces
  ofSecond := .declarations
  pickFirst := Part.namespaces?
  pickSecond := Part.declarations?
  readFirst := follows_readNamespaces
  readSecond := follows_readDeclarations
  pickFirst_ofFirst _ := rfl
  pickFirst_ofSecond _ := rfl
  pickSecond_ofSecond _ := rfl
  pickSecond_ofFirst _ := rfl

/-- The settings of namespaces and declarations, where they are present. -/
def ofParts (roots : Option (List String)) (routes : Option RouteTable) : Option Settings :=
  some ⟨roots.getD [], routes.getD .empty⟩

theorem parse?_eq (s : List Char) : parse? (String.ofList s) = members.parse ofParts s := by
  rw [parse?, String.toList_ofList]
  rfl

variable {t : Source} {parts : List (String × Source)} {s : Settings}

theorem writtenIn_iff :
    s.WrittenIn parts ↔
      (∃ roots, sole members.meaningFirst (under members.first.name parts) = some roots ∧
        roots.getD [] = s.namespaces) ∧
      ∃ routes, sole members.meaningSecond (under members.second.name parts) = some routes ∧
        routes.getD .empty = s.declarations := by
  have hroots : ∀ x, members.meaningFirst x = some s.namespaces ↔ _ := fun x =>
    Source.roots?_eq_some_iff
  have hroutes : ∀ x, members.meaningSecond x = some s.declarations ↔ _ := fun x =>
    Source.routes?_eq_some_iff
  rw [Source.exists_sole_getD_iff, Source.exists_sole_getD_iff]
  simp only [hroots, hroutes]
  exact ⟨fun h => ⟨h.namespaces, h.declarations⟩, fun h => ⟨h.1, h.2⟩⟩

theorem parse?_eq_some_iff_of_parts (h : t.Parts ["namespaces", "declarations"] parts)
    (before after : Gap) :
    parse? (String.ofList (before.chars ++ (t.text ++ after.chars))) = some s ↔
      s.WrittenIn parts := by
  rw [parse?_eq, members.parse_of_parts ofParts h, writtenIn_iff]
  constructor
  · intro hs
    obtain ⟨roots, hroots, hs⟩ := Option.bind_eq_some_iff.mp hs
    obtain ⟨routes, hroutes, hs⟩ := Option.bind_eq_some_iff.mp hs
    obtain rfl := Option.some.inj hs
    exact ⟨⟨roots, hroots, rfl⟩, routes, hroutes, rfl⟩
  · intro hs
    obtain ⟨⟨roots, hroots, hnamespaces⟩, routes, hroutes, hdeclarations⟩ := hs
    rw [hroots, hroutes, Option.bind_some, Option.bind_some, ofParts, hnamespaces, hdeclarations]

theorem parse?_eq_none_of_faulty (h : t.Parts ["namespaces", "declarations"] parts)
    (hfaulty : Faulty parts) (before after : Gap) :
    parse? (String.ofList (before.chars ++ (t.text ++ after.chars))) = none := by
  rw [parse?_eq]
  cases hfaulty with
  | repeated hname hlength =>
    have hmem := List.mem_pair.mpr hname
    exact members.parse_eq_none_of_faulty ofParts h (.repeated hmem hlength) before after
  | @namespaces x hx hkind =>
    have hnone : x.roots? = none := Option.eq_none_iff_forall_ne_some.mpr fun roots hroots =>
      hkind roots (Source.roots?_eq_some_iff.mp hroots)
    exact members.parse_eq_none_of_faulty ofParts h (.first hx hnone) before after
  | @declarations x hx hkind =>
    have hnone : x.routes? = none := Option.eq_none_iff_forall_ne_some.mpr fun table htable =>
      hkind table (Source.routes?_eq_some_iff.mp htable)
    exact members.parse_eq_none_of_faulty ofParts h (.second hx hnone) before after

theorem parse?_eq_none_of_no_parts (h : ∀ parts, ¬ t.Parts ["namespaces", "declarations"] parts)
    (before after : Gap) :
    parse? (String.ofList (before.chars ++ (t.text ++ after.chars))) = none := by
  rw [parse?_eq]
  exact members.parse_eq_none ofParts h before after.chars

/-- The texts of settings are records with the right parts, and no other texts. -/
theorem parse?_eq_some_iff (before after : Gap) :
    parse? (String.ofList (before.chars ++ (t.text ++ after.chars))) = some s ↔
      ∃ parts, t.Parts ["namespaces", "declarations"] parts ∧ s.WrittenIn parts := by
  constructor
  · intro hs
    by_cases h : ∃ parts, t.Parts ["namespaces", "declarations"] parts
    · obtain ⟨parts, hparts⟩ := h
      exact ⟨parts, hparts, (parse?_eq_some_iff_of_parts hparts before after).mp hs⟩
    · have hnone := parse?_eq_none_of_no_parts (fun parts hparts => h ⟨parts, hparts⟩) before after
      cases hnone.symm.trans hs
  · intro hs
    obtain ⟨parts, hparts, hs⟩ := hs
    exact (parse?_eq_some_iff_of_parts hparts before after).mpr hs

theorem parse?_eq_none_of_forall_faulty
    (h : ∀ parts, t.Parts ["namespaces", "declarations"] parts → Faulty parts)
    (before after : Gap) :
    parse? (String.ofList (before.chars ++ (t.text ++ after.chars))) = none := by
  by_cases hrecord : ∃ parts, t.Parts ["namespaces", "declarations"] parts
  · obtain ⟨parts, hparts⟩ := hrecord
    exact parse?_eq_none_of_faulty hparts (h parts hparts) before after
  · exact parse?_eq_none_of_no_parts (fun parts hparts => hrecord ⟨parts, hparts⟩) before after

theorem exists_source_of_namespaces (roots : List String) :
    ∃ x : Source, x.text = (Json.array (roots.map .string)).write ∧
      x.Denotes (.array (roots.map .string)) := by
  have hcanonical : (Json.array (roots.map .string)).Canonical 1 := by
    apply Json.Canonical.array
    intro v hv
    obtain ⟨root, _, rfl⟩ := List.mem_map.mp hv
    exact .string
  have hintegral : (Json.array (roots.map .string)).Integral := by
    apply Json.Integral.array
    intro v hv
    obtain ⟨root, _, rfl⟩ := List.mem_map.mp hv
    exact .string
  obtain ⟨x, htext, hx, _⟩ := Source.exists_of_canonical hcanonical hintegral
  exact ⟨x, htext, hx⟩

theorem exists_source_of_declarations (table : RouteTable) :
    ∃ x : Source, x.text = (Json.object (table.entries.map fun e => (e.1, .string e.2))).write ∧
      x.Declares table := by
  have hroutes : ∀ m ∈ table.entries.map fun e => (e.1, Json.string e.2),
      ∃ t : Source, t.text = m.2.write ∧ t.Denotes m.2 ∧ t.depth ≤ 0 := by
    intro m hm
    obtain ⟨e, _, rfl⟩ := List.mem_map.mp hm
    exact Source.exists_of_canonical .string .string
  -- `Denotes` would allow a value that is no text under a name that comes again
  obtain ⟨slots, htexts, hall, _⟩ := Source.exists_members hroutes
  refine ⟨.object .none slots, ?_, .object (List.forall₂_map_right_iff.mp hall) ?_⟩
  · simp [Source.text, Json.write, Gap.none, htexts]
  · exact table.get?_eq_lookup_reverse

/-- What is written for settings is one of their texts. -/
theorem exists_source (s : Settings) :
    ∃ t : Source, String.ofList t.text = s.render ∧
      ∃ parts, t.Parts ["namespaces", "declarations"] parts ∧ s.WrittenIn parts := by
  obtain ⟨x, hxtext, hx⟩ := exists_source_of_namespaces s.namespaces
  obtain ⟨y, hytext, hy⟩ := exists_source_of_declarations s.declarations
  obtain ⟨names, hnames, hnamesSpell⟩ := Literal.exists_glyphs_of_written "namespaces".toList
  obtain ⟨routes, hroutes, hroutesSpell⟩ :=
    Literal.exists_glyphs_of_written "declarations".toList
  have hnamesText : "\x7b\"namespaces\":".toList = '\x7b' :: (literalText names ++ [':']) := by
    rw [literalText, hnames]
    decide +kernel
  have hroutesText : ",\"declarations\":".toList = ',' :: (literalText routes ++ [':']) := by
    rw [literalText, hroutes]
    decide +kernel
  let parts : List (String × Source) := [("namespaces", x), ("declarations", y)]
  have hs : s.WrittenIn parts := by
    constructor
    · exact Or.inr ⟨x, by simp [parts, under], hx⟩
    · exact Or.inr ⟨y, by simp [parts, under], hy⟩
  refine ⟨.object .none [⟨.none, ⟨names, .none, .none, x⟩, .none⟩,
    ⟨.none, ⟨routes, .none, .none, y⟩, .none⟩], ?_, parts, ?_, hs⟩
  · unfold render
    rw [← hxtext, ← hytext, hnamesText, hroutesText]
    simp only [Source.text, Source.memberTexts, Json.commaSeparated, Gap.none,
      List.cons_append, List.append_assoc, List.nil_append, List.append_nil]
  · exact @Source.Parts.object _ _ _ ["namespaces", "declarations"]
      (.cons hnamesSpell (.cons hroutesSpell .nil))

theorem ofText_eq_ok_iff {text : String} : ofText text = .ok s ↔ parse? text = some s := by
  unfold ofText
  cases parse? text <;> simp

theorem ofText_eq_malformed_iff {text : String} :
    ofText text = .error .malformed ↔ parse? text = none := by
  unfold ofText
  cases parse? text <;> simp

/-- Settings are read back from what is written for them, and from every other text of them.
Members come in any order and among others. -/
theorem ofText_source :
    (∀ s : Settings, ofText s.render = .ok s) ∧
    ∀ (before after : Gap) (t : Source),
      (∀ s, ofText (String.ofList (before.chars ++ (t.text ++ after.chars))) = .ok s ↔
        ∃ parts, t.Parts ["namespaces", "declarations"] parts ∧ s.WrittenIn parts) ∧
      ((∀ parts, t.Parts ["namespaces", "declarations"] parts → Faulty parts) →
        ofText (String.ofList (before.chars ++ (t.text ++ after.chars))) = .error .malformed) := by
  constructor
  · intro s
    obtain ⟨t, htext, hs⟩ := s.exists_source
    have hparse := (parse?_eq_some_iff .none .none).mpr hs
    simp only [Gap.none, List.nil_append, List.append_nil, htext] at hparse
    exact ofText_eq_ok_iff.mpr hparse
  · intro before after t
    exact ⟨fun s => ofText_eq_ok_iff.trans (parse?_eq_some_iff before after),
      fun h => ofText_eq_malformed_iff.mpr (parse?_eq_none_of_forall_faulty h before after)⟩

theorem plain_repeatedName : "A".toList.all Glyph.isPlain = true := rfl

/-- `{"x":[],"declarations":{"A":"b","A":"c"}}` -/
def overriding : Source :=
  .object .none
    [⟨.none, ⟨Glyph.verbatim "x" rfl, .none, .none, .array .none []⟩, .none⟩,
      ⟨.none, ⟨Glyph.verbatim "declarations" rfl, .none, .none, .object .none
        [⟨.none, ⟨Glyph.verbatim "A" plain_repeatedName, .none, .none,
          .string (Glyph.verbatim "b" rfl)⟩, .none⟩,
        ⟨.none, ⟨Glyph.verbatim "A" plain_repeatedName, .none, .none,
          .string (Glyph.verbatim "c" rfl)⟩, .none⟩]⟩, .none⟩]

theorem ofText_overriding :
    ofText "\x7b\"x\":[],\"declarations\":\x7b\"A\":\"b\",\"A\":\"c\"\x7d\x7d" =
      .ok ⟨[], Keyed.empty.insert "A" "c"⟩ ∧
    ofText "[null]" = .error .malformed := by
  have htext : String.ofList (Gap.none.chars ++ (overriding.text ++ Gap.none.chars)) =
      "\x7b\"x\":[],\"declarations\":\x7b\"A\":\"b\",\"A\":\"c\"\x7d\x7d" := by decide +kernel
  have hparts : overriding.Parts ["namespaces", "declarations"] _ :=
    @Source.Parts.object _ _ _ ["x", "declarations"]
      (.cons (Literal.spells_verbatim rfl) (.cons (Literal.spells_verbatim rfl) .nil))
  have hlast : ∀ k, (Keyed.empty.insert "A" "c").get? k =
      [("A", "b"), ("A", "c")].reverse.lookup k := by
    intro k
    simp only [Keyed.get?_insert, List.reverse_cons, List.reverse_nil, List.nil_append,
      List.cons_append, lookup_cons_eq]
    split <;> rfl
  obtain ⟨hread, _⟩ := ofText_source.2 .none .none overriding
  obtain ⟨_, hrefused⟩ := ofText_source.2 .none .none (.array .none [⟨.none, .null, .none⟩])
  constructor
  · rw [← htext, hread]
    refine ⟨_, hparts, Or.inl ⟨by simp [under], rfl⟩, Or.inr ⟨_, by simp [under]; rfl, ?_⟩⟩
    exact @Source.Declares.object _ _ [("A", "b"), ("A", "c")] _
      (.cons ⟨Literal.spells_verbatim rfl, .string (Literal.spells_verbatim rfl)⟩
        (.cons ⟨Literal.spells_verbatim rfl, .string (Literal.spells_verbatim rfl)⟩ .nil)) hlast
  · apply hrefused
    intro parts h
    cases h
    exact .namespaces List.mem_cons_self fun roots hroots => by cases hroots

end Settings

end Outbound
