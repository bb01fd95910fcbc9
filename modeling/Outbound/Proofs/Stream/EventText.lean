import Outbound.Delivery.Sink
import Outbound.Proofs.Json.FieldPair
import Outbound.Proofs.Json.RoundTrip
import Outbound.Stream.Event

namespace Outbound

namespace StreamEvent

open Outbound.Source (under sole)

/-- The parts are those of a text of the event: its type, its body unless that is null and left
out, and anything else under other names. -/
structure WrittenIn (e : StreamEvent) (parts : List (String × Source)) : Prop where
  type : ∃ x, under "type" parts = [x] ∧ x.Denotes (.string e.typeName)
  body : (under "body" parts = [] ∧ e.body = .null) ∨
    ∃ x, under "body" parts = [x] ∧ x.Denotes e.body ∧ x.depth ≤ 126

/-- What the parts of an event must not be. -/
inductive Faulty (parts : List (String × Source)) : Prop
  | untyped : under "type" parts = [] → Faulty parts
  | repeated {name} : name = "type" ∨ name = "body" → 1 < (under name parts).length → Faulty parts
  | kind {x} : x ∈ under "type" parts → (∀ s, ¬ x.Denotes (.string s)) → Faulty parts
  | deep {x} : x ∈ under "body" parts → 126 < x.depth → Faulty parts

/-- The members of an event, with what their values mean. -/
def members : FieldPair Part String Json where
  first := ⟨"type", fun s => (Parser.string s).map fun (name, rest) => (.type name, rest)⟩
  second := ⟨"body", fun s =>
    (Parser.value .full (Json.maxDepth - 1) s).map fun (v, rest) => (.body v, rest)⟩
  distinct := by decide
  meaningFirst := Source.string?
  meaningSecond := Source.read .full (Json.maxDepth - 1)
  ofFirst := .type
  ofSecond := .body
  pickFirst := Part.type?
  pickSecond := Part.body?
  readFirst := Parser.follows_string.map Part.type
  readSecond := (Parser.follows_value .full (Json.maxDepth - 1)).map Part.body
  pickFirst_ofFirst _ := rfl
  pickFirst_ofSecond _ := rfl
  pickSecond_ofSecond _ := rfl
  pickSecond_ofFirst _ := rfl

/-- The event of a type and a body, where they are present. -/
def ofParts (typeName : Option String) (body : Option Json) : Option StreamEvent :=
  typeName.map fun name => ⟨name, body.getD .null⟩

theorem parse?_eq (s : List Char) : parse? (String.ofList s) = members.parse ofParts s := by
  rw [parse?, String.toList_ofList]
  unfold FieldPair.parse FieldPair.combine ofParts
  simp only [Option.map_eq_bind, Function.comp_def]
  rfl

variable {t : Source} {parts : List (String × Source)}

theorem parse?_of_writtenIn {e : StreamEvent} (h : t.Parts ["type", "body"] parts)
    (he : e.WrittenIn parts) (before after : Gap) :
    parse? (String.ofList (before.chars ++ (t.text ++ after.chars))) = some e := by
  obtain ⟨x, htype, hx⟩ := he.type
  have hname : sole members.meaningFirst (under members.first.name parts) =
      some (some e.typeName) := by
    have hs : members.meaningFirst x = some e.typeName := Source.string?_eq_some_iff.mpr hx
    rw [show under members.first.name parts = [x] from htype, sole, hs]
    rfl
  have hbody : ∃ body?, sole members.meaningSecond (under members.second.name parts) = some body? ∧
      body?.getD .null = e.body := by
    apply Source.exists_sole_getD_iff.mpr
    rcases he.body with hnull | ⟨y, hbody, hy, hdepth⟩
    · exact Or.inl hnull
    · exact Or.inr ⟨y, hbody, hy.read_full hdepth⟩
  obtain ⟨body?, hbody, hvalue⟩ := hbody
  rw [parse?_eq, members.parse_of_parts ofParts h, hname, hbody, Option.bind_some, Option.bind_some,
    ofParts, hvalue]
  rfl

theorem parse?_eq_none_of_faulty (h : t.Parts ["type", "body"] parts) (hfaulty : Faulty parts)
    (before after : Gap) :
    parse? (String.ofList (before.chars ++ (t.text ++ after.chars))) = none := by
  rw [parse?_eq]
  cases hfaulty with
  | untyped hnone =>
    rw [members.parse_of_parts ofParts h, show under members.first.name parts = [] from hnone]
    cases sole members.meaningSecond (under members.second.name parts) <;> rfl
  | repeated hname hlength =>
    have hmem := List.mem_pair.mpr hname
    exact members.parse_eq_none_of_faulty ofParts h (.repeated hmem hlength) before after
  | @kind x hx hkind =>
    have hnone : x.string? = none :=
      Option.eq_none_iff_forall_ne_some.mpr fun s hs => hkind s (Source.string?_eq_some_iff.mp hs)
    exact members.parse_eq_none_of_faulty ofParts h (.first hx hnone) before after
  | @deep x hx hdepth =>
    have hnone : x.read .full (Json.maxDepth - 1) = none := Source.read_of_lt_depth .full hdepth
    exact members.parse_eq_none_of_faulty ofParts h (.second hx hnone) before after

/-- What is no record is no event either. -/
theorem parse?_eq_none_of_forall_faulty (h : ∀ parts, t.Parts ["type", "body"] parts → Faulty parts)
    (before after : Gap) :
    parse? (String.ofList (before.chars ++ (t.text ++ after.chars))) = none := by
  by_cases hrecord : ∃ parts, t.Parts ["type", "body"] parts
  · obtain ⟨parts, hparts⟩ := hrecord
    exact parse?_eq_none_of_faulty hparts (h parts hparts) before after
  · rw [parse?_eq]
    exact members.parse_eq_none ofParts (fun parts hparts => hrecord ⟨parts, hparts⟩) before
      after.chars

theorem parse?_eq_none_of_trailing (before : Gap) (t : Source) {rest : List Char}
    (h : ∃ c ∈ rest, Parser.isSpace c = false) :
    parse? (String.ofList (before.chars ++ (t.text ++ rest))) = none := by
  rw [parse?_eq]
  exact members.parse_eq_none_of_trailing ofParts before h

/-- What a JSON text stands for as an event. Members come in any order and among others. -/
theorem parse?_source (before after : Gap) (t : Source) :
    (∀ parts e, t.Parts ["type", "body"] parts → e.WrittenIn parts →
      parse? (String.ofList (before.chars ++ (t.text ++ after.chars))) = some e ∧
        e.toEvent.type.name = e.typeName ∧ Encoder.body e.toEvent = .ok e.body) ∧
    ((∀ parts, t.Parts ["type", "body"] parts → Faulty parts) →
      parse? (String.ofList (before.chars ++ (t.text ++ after.chars))) = none) ∧
    ∀ rest, (∃ c ∈ rest, Parser.isSpace c = false) →
      parse? (String.ofList (before.chars ++ (t.text ++ rest))) = none :=
  ⟨fun _ _ h he => ⟨parse?_of_writtenIn h he before after, rfl, rfl⟩,
    fun h => parse?_eq_none_of_forall_faulty h before after,
    fun _ h => parse?_eq_none_of_trailing before t h⟩

/-- `{"note":[],"body":7,"type":"A"}` -/
def noted : Source :=
  .object .none
    [⟨.none, ⟨Glyph.verbatim "note" rfl, .none, .none, .array .none []⟩, .none⟩,
      ⟨.none, ⟨Glyph.verbatim "body" rfl, .none, .none, .number
        ⟨false, ⟨['7'], List.forall_mem_singleton.mpr rfl, by decide⟩, none, none, by decide⟩⟩,
        .none⟩,
      ⟨.none, ⟨Glyph.verbatim "type" rfl, .none, .none,
        .string (Glyph.verbatim "A" rfl)⟩, .none⟩]

theorem parse?_noted :
    (parse? "\x7b\"note\":[],\"body\":7,\"type\":\"A\"\x7d" = some ⟨"A", .number (.int 7)⟩ ∧
      (toEvent ⟨"A", .number (.int 7)⟩).type.name = "A" ∧
      Encoder.body (toEvent ⟨"A", .number (.int 7)⟩) = .ok (.number (.int 7))) ∧
    parse? "[]" = none ∧ parse? "[]]" = none := by
  have htext : String.ofList (Gap.none.chars ++ (noted.text ++ Gap.none.chars)) =
      "\x7b\"note\":[],\"body\":7,\"type\":\"A\"\x7d" := by decide +kernel
  have hparts : noted.Parts ["type", "body"]
      [("note", .array .none []), ("body", _), ("type", _)] :=
    @Source.Parts.object _ _ _ ["note", "body", "type"]
      (.cons (Literal.spells_verbatim rfl) (.cons (Literal.spells_verbatim rfl)
        (.cons (Literal.spells_verbatim rfl) .nil)))
  have hempty : ∀ parts, (Source.array .none []).Parts ["type", "body"] parts → Faulty parts := by
    intro parts h
    cases h
    exact .untyped rfl
  obtain ⟨hnoted, _⟩ := parse?_source .none .none noted
  obtain ⟨_, hrefused, htrailing⟩ := parse?_source .none .none (.array .none [])
  refine ⟨?_, hrefused hempty, htrailing [']'] ⟨']', by simp, rfl⟩⟩
  rw [← htext]
  apply hnoted _ _ hparts
  have hseven : Numeral.Exact 7 := ⟨by decide, by decide⟩
  exact ⟨⟨_, rfl, .string (Literal.spells_verbatim rfl)⟩,
    Or.inr ⟨_, rfl, .int hseven (by decide), by decide⟩⟩

end StreamEvent

end Outbound
