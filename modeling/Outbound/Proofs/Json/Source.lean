import Mathlib.Data.List.Forall2
import Outbound.Json.Parser.Basic
import Outbound.Proofs.Json.Literal
import Outbound.Proofs.Json.Numeral

namespace Outbound

/-- White space between the parts of a JSON text. -/
structure Gap where
  chars : List Char
  blank : ∀ c ∈ chars, Parser.isSpace c = true

def Gap.none : Gap := ⟨[], List.forall_mem_nil _⟩

/-- Something with white space around it. -/
structure Slot (α : Type) where
  before : Gap
  item : α
  after : Gap

/-- A name, a colon with white space around it, and a value. -/
structure Member (α : Type) where
  name : List Glyph
  middle : Gap
  inner : Gap
  value : α

/-- A JSON text as it is written, with every choice that the format leaves open. -/
inductive Source where
  | null
  | bool (value : Bool)
  | number (x : WrittenNumber)
  | string (glyphs : List Glyph)
  | array (gap : Gap) (items : List (Slot Source))
  | object (gap : Gap) (members : List (Slot (Member Source)))

def Slot.textWith {α : Type} (text : α → List Char) (s : Slot α) : List Char :=
  s.before.chars ++ (text s.item ++ s.after.chars)

def literalText (glyphs : List Glyph) : List Char :=
  '"' :: (glyphs.flatMap Glyph.text ++ ['"'])

def Member.textWith {α : Type} (text : α → List Char) (m : Member α) : List Char :=
  literalText m.name ++ (m.middle.chars ++ ':' :: (m.inner.chars ++ text m.value))

namespace Source

/-- Induction on the values that stand in a text. -/
@[elab_as_elim, induction_eliminator]
theorem induct {P : Source → Prop} (null : P .null) (bool : ∀ value, P (.bool value))
    (number : ∀ x, P (.number x)) (string : ∀ glyphs, P (.string glyphs))
    (array : ∀ gap items, (∀ s ∈ items, P s.item) → P (.array gap items))
    (object : ∀ gap members, (∀ s ∈ members, P s.item.value) → P (.object gap members))
    (t : Source) : P t :=
  @Source.rec P (fun items => ∀ s ∈ items, P s.item) (fun members => ∀ s ∈ members, P s.item.value)
    (fun s => P s.item) (fun s => P s.item.value) (fun m => P m.value) null bool number string
    array object (List.forall_mem_nil _) (fun _ _ hs h => List.forall_mem_cons.mpr ⟨hs, h⟩)
    (List.forall_mem_nil _) (fun _ _ hs h => List.forall_mem_cons.mpr ⟨hs, h⟩)
    (fun _ _ _ h => h) (fun _ _ _ h => h) (fun _ _ _ _ h => h) t

mutual

def text : Source → List Char
  | null => ['n', 'u', 'l', 'l']
  | bool true => ['t', 'r', 'u', 'e']
  | bool false => ['f', 'a', 'l', 's', 'e']
  | number x => x.text
  | string glyphs => literalText glyphs
  | array gap items => '[' :: (gap.chars ++ (Json.commaSeparated (itemTexts items) ++ [']']))
  | object gap members =>
    '\x7b' :: (gap.chars ++ (Json.commaSeparated (memberTexts members) ++ ['\x7d']))

def itemTexts : List (Slot Source) → List (List Char)
  | [] => []
  | ⟨before, v, after⟩ :: rest => (before.chars ++ (v.text ++ after.chars)) :: itemTexts rest

def memberTexts : List (Slot (Member Source)) → List (List Char)
  | [] => []
  | ⟨before, ⟨name, middle, inner, v⟩, after⟩ :: rest =>
    (before.chars ++
      (literalText name ++ (middle.chars ++ ':' :: (inner.chars ++ v.text)) ++ after.chars)) ::
        memberTexts rest

end

theorem itemTexts_eq_map (items : List (Slot Source)) :
    itemTexts items = items.map (Slot.textWith text) := by
  induction items with
  | nil => rfl
  | cons s items ih => rw [itemTexts, ih]; rfl

theorem memberTexts_eq_map (members : List (Slot (Member Source))) :
    memberTexts members = members.map (Slot.textWith (Member.textWith text)) := by
  induction members with
  | nil => rfl
  | cons s members ih => rw [memberTexts, ih]; rfl

mutual

/-- How deeply arrays and objects are nested. -/
def depth : Source → Nat
  | array _ items => itemsDepth items + 1
  | object _ members => membersDepth members + 1
  | _ => 0

def itemsDepth : List (Slot Source) → Nat
  | [] => 0
  | ⟨_, v, _⟩ :: rest => max v.depth (itemsDepth rest)

def membersDepth : List (Slot (Member Source)) → Nat
  | [] => 0
  | ⟨_, ⟨_, _, _, v⟩, _⟩ :: rest => max v.depth (membersDepth rest)

end

theorem itemsDepth_le_iff {items : List (Slot Source)} {n : Nat} :
    itemsDepth items ≤ n ↔ ∀ s ∈ items, s.item.depth ≤ n := by
  induction items with
  | nil => simp [itemsDepth]
  | cons s items ih => rw [itemsDepth, Nat.max_le, ih, List.forall_mem_cons]

theorem membersDepth_le_iff {members : List (Slot (Member Source))} {n : Nat} :
    membersDepth members ≤ n ↔ ∀ s ∈ members, s.item.value.depth ≤ n := by
  induction members with
  | nil => simp [membersDepth]
  | cons s members ih => rw [membersDepth, Nat.max_le, ih, List.forall_mem_cons]

/-- The value that a text stands for, where all numbers in it are integers of 64 bits. Of equal
names in an object the last one counts. -/
inductive Denotes : Source → Json → Prop
  | null : Denotes .null .null
  | bool {b} : Denotes (.bool b) (.bool b)
  | int {x n} : Numeral.Exact n → x.text = Json.writeInt n → Denotes (.number x) (.number (.int n))
  | string {glyphs s} : Literal.Spells glyphs s.toList → Denotes (.string glyphs) (.string s)
  | array {gap items vs} : items.length = vs.length →
      (∀ p ∈ items.zip vs, Denotes p.1.item p.2) → Denotes (.array gap items) (.array vs)
  | object {gap members named entries} : members.length = named.length →
      (∀ p ∈ members.zip named, Literal.Spells p.1.item.name p.2.1.toList) →
      (∀ p ∈ members.zip named, Denotes p.1.item.value p.2.2) →
      Increasing entries → (∀ k, entries.lookup k = named.reverse.lookup k) →
      Denotes (.object gap members) (.object entries)

theorem denotes_array_iff {gap : Gap} {items : List (Slot Source)} {vs : List Json} :
    (array gap items).Denotes (.array vs) ↔
      List.Forall₂ (fun s v => s.item.Denotes v) items vs := by
  constructor
  · intro h
    cases h with
    | array hlength hall => exact List.forall₂_iff_zip.mpr ⟨hlength, fun hp => hall _ hp⟩
  · intro h
    obtain ⟨hlength, hall⟩ := List.forall₂_iff_zip.mp h
    exact .array hlength fun _ hp => hall hp

end Source

end Outbound
