import Outbound.Proofs.Json.RecordText

namespace Outbound

namespace RecordField

open Outbound.Parser (Follows)

variable {μ : Type} {fields : List (RecordField μ)} {meaning : String → Source → Option μ}

/-- A field finds its own parts among all parts of a record, and no others. -/
structure Picks {α : Type} (fields : List (RecordField μ)) (meaning : String → Source → Option μ)
    (key : String) (pick : μ → Option α) (own : Source → Option α) : Prop where
  mem : key ∈ fields.map name
  own : ∀ x, (meaning key x).map pick = (own x).map some
  other : ∀ k ∈ fields.map name, k ≠ key → ∀ x m, meaning k x = some m → pick m = none

namespace Picks

variable {α : Type} {key : String} {pick : μ → Option α} {own : Source → Option α}
  {parts : List (String × Source)} {ms : List μ}

theorem mapM_under (h : Picks fields meaning key pick own)
    (hms : parts? fields meaning parts = some ms) :
    (Source.under key parts).mapM own = some (ms.filterMap pick) := by
  induction parts generalizing ms with
  | nil =>
    obtain rfl := Option.some.inj hms
    rfl
  | cons p parts ih =>
    rw [parts?_cons] at hms
    by_cases hknown : p.1 ∈ fields.map name
    · rw [if_pos hknown] at hms
      obtain ⟨m, hm, hms⟩ := Option.bind_eq_some_iff.mp hms
      obtain ⟨rest, hrest, rfl⟩ := Option.map_eq_some_iff.mp hms
      rw [Source.under_cons]
      by_cases hkey : p.1 = key
      · have hown := h.own p.2
        rw [← hkey, hm] at hown
        obtain ⟨a, ha, hpick⟩ := Option.map_eq_some_iff.mp hown.symm
        rw [if_pos hkey, List.mapM_cons, ha, ih hrest, List.filterMap_cons_some hpick.symm]
        rfl
      · rw [if_neg hkey, ih hrest, List.filterMap_cons_none (h.other p.1 hknown hkey p.2 m hm)]
    · have hkey : p.1 ≠ key := fun heq => hknown (heq ▸ h.mem)
      rw [if_neg hknown] at hms
      rw [Source.under_cons, if_neg hkey, ih hms]

theorem atMostOne_eq (h : Picks fields meaning key pick own)
    (hms : parts? fields meaning parts = some ms) :
    atMostOne pick ms = Source.sole own (Source.under key parts) := by
  have hunder := mapM_eq_some_iff.mp (h.mapM_under hms)
  unfold atMostOne
  generalize Source.under key parts = xs at hunder
  generalize ms.filterMap pick = as at hunder
  cases hunder with
  | nil => rfl
  | cons hx hrest =>
    cases hrest with
    | nil => rw [Source.sole, hx]; rfl
    | cons _ _ => rfl

end Picks

end RecordField

/-- The two fields of a record, with what a value means under each of them. -/
structure FieldPair (μ α β : Type) where
  first : RecordField μ
  second : RecordField μ
  distinct : first.name ≠ second.name
  meaningFirst : Source → Option α
  meaningSecond : Source → Option β
  ofFirst : α → μ
  ofSecond : β → μ
  pickFirst : μ → Option α
  pickSecond : μ → Option β
  readFirst : Parser.Follows first.read fun x => (meaningFirst x).map ofFirst
  readSecond : Parser.Follows second.read fun x => (meaningSecond x).map ofSecond
  pickFirst_ofFirst : ∀ a, pickFirst (ofFirst a) = some a
  pickFirst_ofSecond : ∀ b, pickFirst (ofSecond b) = none
  pickSecond_ofSecond : ∀ b, pickSecond (ofSecond b) = some b
  pickSecond_ofFirst : ∀ a, pickSecond (ofFirst a) = none

namespace FieldPair

open Outbound.Source (under sole)

variable {μ α β γ : Type} (pair : FieldPair μ α β)

def fields : List (RecordField μ) :=
  [pair.first, pair.second]

def names : List String :=
  [pair.first.name, pair.second.name]

/-- What a value means under the name of a field. -/
def meaning (name : String) (x : Source) : Option μ :=
  if name = pair.first.name then (pair.meaningFirst x).map pair.ofFirst
  else (pair.meaningSecond x).map pair.ofSecond

theorem meaning_first (x : Source) :
    pair.meaning pair.first.name x = (pair.meaningFirst x).map pair.ofFirst :=
  if_pos rfl

theorem meaning_second (x : Source) :
    pair.meaning pair.second.name x = (pair.meaningSecond x).map pair.ofSecond :=
  if_neg pair.distinct.symm

theorem follows_fields : ∀ f ∈ pair.fields, Parser.Follows f.read (pair.meaning f.name) := by
  intro f hf
  simp only [fields, List.mem_cons, List.not_mem_nil, or_false] at hf
  rcases hf with rfl | rfl
  · rw [funext pair.meaning_first]
    exact pair.readFirst
  · rw [funext pair.meaning_second]
    exact pair.readSecond

theorem picks_first :
    RecordField.Picks pair.fields pair.meaning pair.first.name pair.pickFirst
      pair.meaningFirst where
  mem := List.mem_cons_self
  own x := by
    rw [meaning_first, Option.map_map]
    exact congrArg (Option.map · _) (funext pair.pickFirst_ofFirst)
  other k hk hne x m hm := by
    rw [meaning, if_neg hne] at hm
    obtain ⟨b, _, rfl⟩ := Option.map_eq_some_iff.mp hm
    exact pair.pickFirst_ofSecond b

theorem picks_second :
    RecordField.Picks pair.fields pair.meaning pair.second.name pair.pickSecond
      pair.meaningSecond where
  mem := List.mem_cons_of_mem _ List.mem_cons_self
  own x := by
    rw [meaning_second, Option.map_map]
    exact congrArg (Option.map · _) (funext pair.pickSecond_ofSecond)
  other k hk hne x m hm := by
    obtain rfl : k = pair.first.name := by simpa [fields, hne] using hk
    rw [meaning_first] at hm
    obtain ⟨a, _, rfl⟩ := Option.map_eq_some_iff.mp hm
    exact pair.pickSecond_ofFirst a

/-- What is made of the parts of a record. -/
def combine (make : Option α → Option β → Option γ) (ms : List μ) : Option γ := do
  let a ← RecordField.atMostOne pair.pickFirst ms
  let b ← RecordField.atMostOne pair.pickSecond ms
  make a b

/-- Reads a whole text as a record. -/
def parse (make : Option α → Option β → Option γ) (s : List Char) : Option γ :=
  (Parser.document (RecordField.readRecord pair.fields) s).bind (pair.combine make)

variable {t : Source} {parts : List (String × Source)} (make : Option α → Option β → Option γ)

theorem parts?_bind_combine :
    (RecordField.parts? pair.fields pair.meaning parts).bind (pair.combine make) =
      (sole pair.meaningFirst (under pair.first.name parts)).bind fun a =>
        (sole pair.meaningSecond (under pair.second.name parts)).bind (make a) := by
  cases hms : RecordField.parts? pair.fields pair.meaning parts with
  | some ms =>
    rw [Option.bind_some, combine, pair.picks_first.atMostOne_eq hms,
      pair.picks_second.atMostOne_eq hms]
    rfl
  | none =>
    -- the part that is refused may come before or after others, and be one of two
    obtain ⟨p, hp, hnone⟩ := mapM_eq_none_iff.mp hms
    obtain ⟨hmem, hname⟩ := List.mem_filter.mp hp
    have hname : p.1 = pair.first.name ∨ p.1 = pair.second.name := by
      simpa [fields] using hname
    rcases hname with hname | hname
    · have hunder : p.2 ∈ under pair.first.name parts := Source.mem_under.mpr (hname ▸ hmem)
      rw [hname, meaning_first, Option.map_eq_none_iff] at hnone
      rw [Source.sole_eq_none_of_mem hunder hnone]
      rfl
    · have hunder : p.2 ∈ under pair.second.name parts := Source.mem_under.mpr (hname ▸ hmem)
      rw [hname, meaning_second, Option.map_eq_none_iff] at hnone
      rw [Source.sole_eq_none_of_mem hunder hnone]
      cases sole pair.meaningFirst (under pair.first.name parts) <;> rfl

/-- A record of two fields is what each field makes of the only part under its name. -/
theorem parse_of_parts (h : t.Parts pair.names parts) (before after : Gap) :
    pair.parse make (before.chars ++ (t.text ++ after.chars)) =
      (sole pair.meaningFirst (under pair.first.name parts)).bind fun a =>
        (sole pair.meaningSecond (under pair.second.name parts)).bind (make a) := by
  have hread := RecordField.readRecord_of_parts pair.follows_fields h before after.chars
  have hdocument := Parser.document_eq hread (Parser.skipSpaces_chars after)
  rw [parse, hdocument, parts?_bind_combine]

/-- What is no record is refused, whatever follows it. -/
theorem parse_eq_none (h : ∀ parts, ¬ t.Parts pair.names parts) (before : Gap)
    (rest : List Char) : pair.parse make (before.chars ++ (t.text ++ rest)) = none := by
  have hread := RecordField.readRecord_eq_none pair.follows_fields h before rest
  rw [parse, Parser.document, hread]
  rfl

/-- After a record there may be white space only. -/
theorem parse_eq_none_of_trailing (before : Gap) {rest : List Char}
    (hrest : ∃ c ∈ rest, Parser.isSpace c = false) :
    pair.parse make (before.chars ++ (t.text ++ rest)) = none := by
  by_cases h : ∃ parts, t.Parts pair.names parts
  · obtain ⟨parts, h⟩ := h
    have hread := RecordField.readRecord_of_parts pair.follows_fields h before rest
    rw [parse, Parser.document_eq_none hread hrest]
    rfl
  · exact pair.parse_eq_none make (fun parts hparts => h ⟨parts, hparts⟩) before rest

/-- What the parts of a record must not be: there are two of one field, or one that means
nothing. -/
inductive Faulty (parts : List (String × Source)) : Prop
  | repeated {name} : name ∈ pair.names → 1 < (under name parts).length → Faulty parts
  | first {x} : x ∈ under pair.first.name parts → pair.meaningFirst x = none → Faulty parts
  | second {x} : x ∈ under pair.second.name parts → pair.meaningSecond x = none → Faulty parts

theorem parse_eq_none_of_faulty (h : t.Parts pair.names parts) (hfaulty : pair.Faulty parts)
    (before after : Gap) : pair.parse make (before.chars ++ (t.text ++ after.chars)) = none := by
  rw [pair.parse_of_parts make h]
  cases hfaulty with
  | repeated hname hlength =>
    simp only [names, List.mem_cons, List.not_mem_nil, or_false] at hname
    rcases hname with rfl | rfl
    · rw [Source.sole_eq_none_of_length hlength]
      rfl
    · rw [Source.sole_eq_none_of_length hlength]
      cases sole pair.meaningFirst (under pair.first.name parts) <;> rfl
  | first hx hnone =>
    rw [Source.sole_eq_none_of_mem hx hnone]
    rfl
  | second hx hnone =>
    rw [Source.sole_eq_none_of_mem hx hnone]
    cases sole pair.meaningFirst (under pair.first.name parts) <;> rfl

end FieldPair

end Outbound
