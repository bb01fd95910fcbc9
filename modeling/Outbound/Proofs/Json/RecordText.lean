import Mathlib.Data.List.TakeWhile
import Outbound.Json.Record
import Outbound.Proofs.Json.SourceReading

namespace Outbound

namespace Source

/-- The parts of a text that is taken for a record with these fields: the members of an object
under their names, or the items of an array in the order of the fields. Half of a surrogate pair
names nothing, whereas it may stand in the text of a value. -/
inductive Parts (names : List String) : Source → List (String × Source) → Prop
  | array {gap items} : items.length ≤ names.length →
      Parts names (.array gap items) (names.zip (items.map Slot.item))
  | object {gap members labels} :
      List.Forall₂ (fun s label => Literal.Spells s.item.name label.toList) members labels →
      Parts names (.object gap members) (labels.zip (members.map fun s => s.item.value))

/-- What stands under a name. -/
def under (name : String) (parts : List (String × Source)) : List Source :=
  (parts.filter fun p => p.1 = name).map Prod.snd

theorem under_cons (name : String) (p : String × Source) (parts : List (String × Source)) :
    under name (p :: parts) = if p.1 = name then p.2 :: under name parts else under name parts := by
  unfold under
  split
  next h => rw [List.filter_cons_of_pos (by simpa using h), List.map_cons]
  next h => rw [List.filter_cons_of_neg (by simpa using h)]

theorem mem_under {name : String} {x : Source} {parts : List (String × Source)} :
    x ∈ under name parts ↔ (name, x) ∈ parts := by
  simp [under]

/-- What a value means where at most one may stand. -/
def sole {α : Type} (meaning : Source → Option α) : List Source → Option (Option α)
  | [] => some none
  | [x] => (meaning x).map some
  | _ => none

/-- A value that may be left out where it is the default. -/
theorem exists_sole_getD_iff {α : Type} {meaning : Source → Option α} {xs : List Source}
    {default a : α} :
    (∃ a?, sole meaning xs = some a? ∧ a?.getD default = a) ↔
      (xs = [] ∧ a = default) ∨ ∃ x, xs = [x] ∧ meaning x = some a := by
  match xs with
  | [] => simp [sole, eq_comm]
  | [x] => simp [sole, Option.map_eq_some_iff]
  | _ :: _ :: _ => simp [sole]

theorem sole_eq_none_of_length {α : Type} {meaning : Source → Option α} {xs : List Source}
    (h : 1 < xs.length) : sole meaning xs = none := by
  match xs, h with
  | _ :: _ :: _, _ => rfl

theorem sole_eq_none_of_mem {α : Type} {meaning : Source → Option α} {xs : List Source} {x : Source}
    (hx : x ∈ xs) (hnone : meaning x = none) : sole meaning xs = none := by
  match xs, hx with
  | [y], hx =>
    rw [sole, ← List.mem_singleton.mp hx, hnone]
    rfl
  | _ :: _ :: _, _ => rfl

/-- The text that a value is, if it is one. -/
def string? : Source → Option String
  | string glyphs => Literal.decode (glyphs.flatMap Glyph.text)
  | _ => none

theorem string?_eq_some_iff {t : Source} {s : String} :
    t.string? = some s ↔ t.Denotes (.string s) := by
  constructor
  · intro h
    cases t with
    | string glyphs => exact .string (Literal.decode_glyphs_iff.mp h)
    | _ => simp [string?] at h
  · intro h
    cases h with
    | string hs => exact Literal.decode_glyphs_iff.mpr hs

end Source

/-- The name of a member, if it has one. -/
def Member.label? (m : Member Source) : Option String :=
  Literal.decode (m.name.flatMap Glyph.text)

namespace Parser

open Numeral (Ends)

theorem follows_string : Follows string Source.string? := by
  intro t gap rest _
  by_cases ht : ∃ glyphs, t = .string glyphs
  · obtain ⟨glyphs, rfl⟩ := ht
    exact stringWith_literal Literal.decode gap glyphs rest
  · obtain ⟨c, after, htext, hspace, _, hquote, _⟩ := t.exists_cons_text
    have hc : c ≠ '"' := fun h => ht (hquote h)
    have hstring : t.string? = none := by
      cases t with
      | string glyphs => exact absurd ⟨glyphs, rfl⟩ ht
      | _ => rfl
    rw [hstring, htext]
    simp [string, stringWith, literal, skipSpaces_gap, skipSpaces_cons hspace, hc]

end Parser

namespace RecordField

open Outbound.Parser (Follows MakesOf)
open Numeral (Ends)

variable {μ : Type} {fields : List (RecordField μ)} {meaning : String → Source → Option μ}

/-- What a member means to the field of its name, if there is one. -/
def memberPart (fields : List (RecordField μ)) (meaning : String → Source → Option μ)
    (m : Member Source) : Option (Option μ) :=
  m.label?.bind fun k =>
    if k ∈ fields.map name then (meaning k m.value).map some else some none

/-- A member is read by the field of its name, and skipped if there is none. -/
theorem makesOf_readMember (hread : ∀ f ∈ fields, Follows f.read (meaning f.name))
    (m : Member Source) :
    MakesOf (readMember fields) (m.textWith Source.text) (memberPart fields meaning m) := by
  apply Parser.makesOf_member
  intro k gap rest hrest
  cases hfind : fields.find? fun f => f.name == k with
  | some f =>
    have hmem := List.mem_of_find?_eq_some hfind
    obtain rfl : f.name = k := by simpa using List.find?_some hfind
    have hf := hread f hmem m.value gap rest fun _ _ => hrest
    simp only [hf, if_pos (List.mem_map_of_mem hmem), Option.map_map]
    rfl
  | none =>
    have hnot : k ∉ fields.map name := by simpa using hfind
    simp only [Parser.follows_skip m.value gap rest fun _ _ => hrest, if_neg hnot]
    rfl

/-- What the items of an array mean to the fields, in their order. Each item needs a field. -/
def itemParts (fields : List (RecordField μ)) (meaning : String → Source → Option μ)
    (items : List (Slot Source)) : Option (List μ) :=
  if items.length ≤ fields.length then
    ((fields.map name).zip (items.map Slot.item)).mapM fun p => meaning p.1 p.2
  else none

theorem itemParts_cons (f : RecordField μ) (s : Slot Source) (items : List (Slot Source)) :
    itemParts (f :: fields) meaning (s :: items) =
      (meaning f.name s.item).bind fun m => (itemParts fields meaning items).map (m :: ·) := by
  unfold itemParts
  by_cases hlength : items.length ≤ fields.length
  · have hsucc : (s :: items).length ≤ (f :: fields).length := Nat.succ_le_succ hlength
    rw [if_pos hlength, if_pos hsucc, List.map_cons, List.map_cons, List.zip_cons_cons,
      List.mapM_cons]
    simp only [Option.map_eq_bind]
    rfl
  · have hsucc : ¬ (s :: items).length ≤ (f :: fields).length := fun h =>
      hlength (Nat.le_of_succ_le_succ h)
    rw [if_neg hlength, if_neg hsucc]
    cases meaning f.name s.item <;> rfl

theorem ends_items (items : List (Slot Source)) (rest : List Char) :
    Ends (items.flatMap (fun s => ',' :: s.textWith Source.text) ++ ']' :: rest) :=
  Parser.ends_slots rfl Source.text items rest

theorem readMore_text (hread : ∀ f ∈ fields, Follows f.read (meaning f.name))
    (items : List (Slot Source)) (gap : Gap) (rest : List Char) :
    readMore fields
        (gap.chars ++ (items.flatMap (fun s => ',' :: s.textWith Source.text) ++ ']' :: rest)) =
      (itemParts fields meaning items).map fun ms => (ms, rest) := by
  have hsquare : Parser.isSpace ']' = false := rfl
  have hcomma : Parser.isSpace ',' = false := rfl
  induction items generalizing fields gap with
  | nil =>
    cases fields <;>
      simp [readMore, itemParts, Parser.skipSpaces_gap, Parser.skipSpaces_cons hsquare]
  | cons s items ih =>
    cases fields with
    | nil => simp [readMore, itemParts, Parser.skipSpaces_gap, Parser.skipSpaces_cons hcomma]
    | cons f fields =>
      obtain ⟨hf, hfields⟩ := List.forall_mem_cons.mp hread
      have hitem := hf s.item s.before _ fun _ _ => Parser.ends_gap s.after (ends_items items rest)
      rw [itemParts_cons, List.flatMap_cons]
      simp only [Slot.textWith, List.cons_append, List.append_assoc] at hitem ih ⊢
      simp only [readMore, Parser.skipSpaces_gap, Parser.skipSpaces_cons hcomma, hitem]
      cases meaning f.name s.item with
      | none => rfl
      | some m =>
        simp only [Option.map_some, Option.bind_eq_bind, Option.bind_some, ih hfields]
        cases itemParts fields meaning items <;> rfl

theorem readItems_text (hread : ∀ f ∈ fields, Follows f.read (meaning f.name))
    (items : List (Slot Source)) (gap : Gap) (rest : List Char) :
    readItems fields
        (gap.chars ++
          (Json.commaSeparated (items.map (Slot.textWith Source.text)) ++ ']' :: rest)) =
      (itemParts fields meaning items).map fun ms => (ms, rest) := by
  have hsquare : Parser.isSpace ']' = false := rfl
  cases items with
  | nil =>
    cases fields <;>
      simp [readItems, readMore, itemParts, Json.commaSeparated, Parser.skipSpaces_gap,
        Parser.skipSpaces_cons hsquare]
  | cons s items =>
    obtain ⟨c, after, htext, hspace, hclosing⟩ := Source.opens_text s.item
    have hne : c ≠ ']' := by
      rintro rfl
      exact Bool.noConfusion hclosing
    rw [List.map_cons, Json.commaSeparated_cons, List.flatMap_map]
    cases fields with
    | nil =>
      simp [readItems, readMore, itemParts, Slot.textWith, htext, Parser.skipSpaces_gap,
        Parser.skipSpaces_cons hspace, hne]
    | cons f fields =>
      obtain ⟨hf, hfields⟩ := List.forall_mem_cons.mp hread
      have hitem := hf s.item .none _ fun _ _ => Parser.ends_gap s.after (ends_items items rest)
      have hmore := readMore_text hfields items s.after rest
      rw [itemParts_cons]
      simp only [Slot.textWith, Gap.none, List.append_assoc, List.nil_append, htext,
        List.cons_append] at hitem hmore ⊢
      simp only [readItems, Parser.skipSpaces_gap, Parser.skipSpaces_cons hspace]
      split
      next heq => exact absurd (List.cons.inj heq).1 hne
      next =>
        rw [hitem]
        cases meaning f.name s.item with
        | none => rfl
        | some m =>
          simp only [Option.map_some, Option.bind_eq_bind, Option.bind_some, hmore]
          cases itemParts fields meaning items <;> rfl

/-- What the parts of a record mean to the fields of their names. Other parts count for nothing. -/
def parts? (fields : List (RecordField μ)) (meaning : String → Source → Option μ)
    (parts : List (String × Source)) : Option (List μ) :=
  (parts.filter fun p => p.1 ∈ fields.map name).mapM fun p => meaning p.1 p.2

theorem parts?_cons (p : String × Source) (parts : List (String × Source)) :
    parts? fields meaning (p :: parts) =
      if p.1 ∈ fields.map name then
        (meaning p.1 p.2).bind fun m => (parts? fields meaning parts).map (m :: ·)
      else parts? fields meaning parts := by
  unfold parts?
  by_cases hknown : p.1 ∈ fields.map name
  · rw [if_pos hknown, List.filter_cons_of_pos (by simpa using hknown), List.mapM_cons]
    simp only [Option.map_eq_bind]
    rfl
  · rw [if_neg hknown, List.filter_cons_of_neg (by simpa using hknown)]

theorem parts?_of_items {items : List (Slot Source)} (h : items.length ≤ fields.length) :
    parts? fields meaning ((fields.map name).zip (items.map Slot.item)) =
      itemParts fields meaning items := by
  have hknown : ∀ p ∈ (fields.map name).zip (items.map Slot.item),
      decide (p.1 ∈ fields.map name) = true := fun p hp =>
    decide_eq_true (List.of_mem_zip hp).1
  rw [parts?, itemParts, if_pos h, List.filter_eq_self.mpr hknown]

/-- The members of an object whose names are all texts. -/
theorem parts?_of_members {members : List (Slot (Member Source))} {labels : List String}
    (h : List.Forall₂ (fun s label => Literal.Spells s.item.name label.toList) members labels) :
    (members.mapM fun s => memberPart fields meaning s.item).map (List.filterMap id) =
      parts? fields meaning (labels.zip (members.map fun s => s.item.value)) := by
  induction h with
  | nil => rfl
  | @cons s label members labels hs _ ih =>
    have hlabel : s.item.label? = some label := Literal.decode_glyphs_iff.mpr hs
    rw [List.map_cons, List.zip_cons_cons, parts?_cons, ← ih, List.mapM_cons, memberPart, hlabel]
    by_cases hknown : label ∈ fields.map name
    · simp only [Option.bind_some, if_pos hknown]
      cases meaning label s.item.value with
      | none => rfl
      | some m => cases members.mapM fun s => memberPart fields meaning s.item <;> rfl
    · simp only [Option.bind_some, if_neg hknown]
      cases members.mapM fun s => memberPart fields meaning s.item <;> rfl

theorem readRecord_array (hread : ∀ f ∈ fields, Follows f.read (meaning f.name))
    (inner : Gap) (items : List (Slot Source)) (gap : Gap) (rest : List Char) :
    readRecord fields (gap.chars ++ ((Source.array inner items).text ++ rest)) =
      (itemParts fields meaning items).map fun ms => (ms, rest) := by
  have hitems := readItems_text hread items inner rest
  rw [Source.text, Source.itemTexts_eq_map]
  simp only [List.cons_append, List.append_assoc, List.nil_append, readRecord,
    Parser.skipSpaces_gap, Parser.skipSpaces_cons (show Parser.isSpace '[' = false from rfl),
    hitems]

theorem readRecord_object (hread : ∀ f ∈ fields, Follows f.read (meaning f.name))
    (inner : Gap) (members : List (Slot (Member Source))) (gap : Gap) (rest : List Char) :
    readRecord fields (gap.chars ++ ((Source.object inner members).text ++ rest)) =
      ((members.mapM fun s => memberPart fields meaning s.item).map (List.filterMap id)).map
        fun ms => (ms, rest) := by
  have hmembers : ∀ s ∈ members, MakesOf (readMember fields) (s.item.textWith Source.text)
      (memberPart fields meaning s.item) := fun s _ => makesOf_readMember hread s.item
  have hsequence := Parser.sequence_slots (show Parser.isClosing '\x7d' = true from rfl) hmembers
    (fun s _ => Source.opens_member s.item) inner rest
  rw [Source.text, Source.memberTexts_eq_map]
  simp only [List.cons_append, List.append_assoc, List.nil_append, readRecord,
    Parser.skipSpaces_gap, Parser.skipSpaces_cons (show Parser.isSpace '\x7b' = false from rfl),
    hsequence, Option.map_map]
  rfl

variable {t : Source}

/-- A record is read part by part, whatever follows it. -/
theorem readRecord_of_parts (hread : ∀ f ∈ fields, Follows f.read (meaning f.name))
    {parts : List (String × Source)} (h : t.Parts (fields.map name) parts) (gap : Gap)
    (rest : List Char) :
    readRecord fields (gap.chars ++ (t.text ++ rest)) =
      (parts? fields meaning parts).map fun ms => (ms, rest) := by
  cases h with
  | array hlength =>
    rw [List.length_map] at hlength
    rw [readRecord_array hread, parts?_of_items hlength]
  | object hlabels => rw [readRecord_object hread, parts?_of_members hlabels]

/-- What is no record is refused, whatever follows it. -/
theorem readRecord_eq_none (hread : ∀ f ∈ fields, Follows f.read (meaning f.name))
    (h : ∀ parts, ¬ t.Parts (fields.map name) parts) (gap : Gap) (rest : List Char) :
    readRecord fields (gap.chars ++ (t.text ++ rest)) = none := by
  by_cases harray : ∃ inner items, t = .array inner items
  · obtain ⟨inner, items, rfl⟩ := harray
    have hlength : ¬ items.length ≤ fields.length := by
      intro hle
      exact h _ (.array (by rwa [List.length_map]))
    rw [readRecord_array hread, itemParts, if_neg hlength]
    rfl
  by_cases hobject : ∃ inner members, t = .object inner members
  · obtain ⟨inner, members, rfl⟩ := hobject
    have hname : ∃ s ∈ members, s.item.label? = none := by
      by_contra hall
      have hlabels : List.Forall₂ (fun s label => Literal.Spells s.item.name label.toList) members
          (members.map fun s => s.item.label?.getD "") := by
        rw [List.forall₂_map_right_iff, List.forall₂_same]
        intro s hs
        cases hlabel : s.item.label? with
        | none => exact absurd ⟨s, hs, hlabel⟩ hall
        | some label => exact Literal.decode_glyphs_iff.mp hlabel
      exact h _ (.object hlabels)
    obtain ⟨s, hs, hlabel⟩ := hname
    have hpart : memberPart fields meaning s.item = none := by
      rw [memberPart, hlabel]
      rfl
    rw [readRecord_object hread, mapM_eq_none_iff.mpr ⟨s, hs, hpart⟩]
    rfl
  · obtain ⟨c, after, htext, hspace, _, _, hsquare, hcurly⟩ := t.exists_cons_text
    have hneSquare : c ≠ '[' := fun hc => harray (hsquare hc)
    have hneCurly : c ≠ '\x7b' := fun hc => hobject (hcurly hc)
    rw [htext]
    simp [readRecord, Parser.skipSpaces_gap, Parser.skipSpaces_cons hspace, hneSquare, hneCurly]

end RecordField

namespace Parser

variable {α : Type} {p : Parser α} {s rest : List Char} {result : Option α}

theorem document_eq (h : p s = result.map fun a => (a, rest)) (hrest : skipSpaces rest = []) :
    document p s = result := by
  unfold document
  rw [h]
  cases result with
  | none => rfl
  | some a => simp [hrest]

/-- After the item there may be white space only. -/
theorem document_eq_none (h : p s = result.map fun a => (a, rest))
    (hrest : ∃ c ∈ rest, isSpace c = false) : document p s = none := by
  unfold document
  rw [h]
  cases result with
  | none => rfl
  | some a =>
    have hne : skipSpaces rest ≠ [] := by
      obtain ⟨c, hc, hspace⟩ := hrest
      intro hnil
      have hall := List.dropWhile_eq_nil_iff.mp hnil c hc
      rw [hspace] at hall
      exact Bool.noConfusion hall
    simp [hne]

end Parser

end Outbound
