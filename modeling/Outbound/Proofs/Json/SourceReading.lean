import Outbound.Json.Parser.Value
import Outbound.Proofs.Json.Sequence

namespace Outbound

namespace Source

open Outbound.Parser (Opens MakesOf)
open Numeral (Ends)

/-- A text can go on after a number only where the number has ended. -/
def EndsBefore (t : Source) (rest : List Char) : Prop :=
  ∀ x, t = .number x → Ends rest

/-- A character that a written number can begin with. -/
def beginsNumber (c : Char) : Bool :=
  c == '-' || c.isDigit

theorem exists_cons_of_number (x : WrittenNumber) :
    ∃ c rest, x.text = c :: rest ∧ beginsNumber c = true := by
  unfold WrittenNumber.text
  cases x.negative with
  | true => exact ⟨'-', _, rfl, rfl⟩
  | false =>
    obtain ⟨c, rest, hc, hdigit⟩ := x.whole.exists_cons
    exact ⟨c, _, by rw [hc]; rfl, by simp [beginsNumber, hdigit]⟩

theorem opens_number (x : WrittenNumber) : Opens x.text := by
  obtain ⟨c, rest, htext, hc⟩ := exists_cons_of_number x
  have hne : ∀ d, beginsNumber d = false → c ≠ d := fun d hd => ne_of_class hc hd
  refine ⟨c, rest, htext, ?_, ?_⟩
  · simp [Parser.isSpace, hne ' ' rfl, hne '\n' rfl, hne '\t' rfl, hne '\r' rfl]
  · simp [Parser.isClosing, hne ']' rfl, hne '\x7d' rfl]

/-- The first character tells the kind of a text. -/
theorem exists_cons_text (t : Source) :
    ∃ c rest, t.text = c :: rest ∧ Parser.isSpace c = false ∧ Parser.isClosing c = false ∧
      (c = '"' → ∃ glyphs, t = .string glyphs) ∧ (c = '[' → ∃ gap items, t = .array gap items) ∧
      (c = '\x7b' → ∃ gap members, t = .object gap members) := by
  cases t with
  | null => exact ⟨'n', _, rfl, rfl, rfl, by simp, by simp, by simp⟩
  | bool b =>
    cases b
    · exact ⟨'f', _, rfl, rfl, rfl, by simp, by simp, by simp⟩
    · exact ⟨'t', _, rfl, rfl, rfl, by simp, by simp, by simp⟩
  | number x =>
    obtain ⟨c, rest, htext, hc⟩ := exists_cons_of_number x
    obtain ⟨d, rest', htext', hspace, hclosing⟩ := opens_number x
    obtain rfl : c = d := (List.cons.inj (htext.symm.trans htext')).1
    have hne : ∀ e, beginsNumber e = false → c ≠ e := fun e he => ne_of_class hc he
    exact ⟨c, rest, htext, hspace, hclosing, fun h => absurd h (hne '"' rfl),
      fun h => absurd h (hne '[' rfl), fun h => absurd h (hne '\x7b' rfl)⟩
  | string glyphs => exact ⟨'"', _, rfl, rfl, rfl, by simp, by simp, by simp⟩
  | array gap items => exact ⟨'[', _, by rw [text], rfl, rfl, by simp, by simp, by simp⟩
  | object gap members => exact ⟨'\x7b', _, by rw [text], rfl, rfl, by simp, by simp, by simp⟩

theorem opens_text (t : Source) : Opens t.text := by
  obtain ⟨c, rest, htext, hspace, hclosing, _⟩ := t.exists_cons_text
  exact ⟨c, rest, htext, hspace, hclosing⟩

theorem opens_member (m : Member Source) : Opens (m.textWith text) :=
  ⟨'"', _, rfl, rfl, rfl⟩

variable {κ ν : Type}

mutual

/-- What a reading makes of a text whose arrays and objects may be nested so deep. -/
def read (r : Reading κ ν) : Nat → Source → Option ν
  | _, null => some r.null
  | _, bool b => some (r.bool b)
  | _, number x => r.number x.numeral
  | _, string glyphs => r.string (glyphs.flatMap Glyph.text)
  | 0, array _ _ => none
  | 0, object _ _ => none
  | depth + 1, array _ items => (readItems r depth items).map r.array
  | depth + 1, object _ members => (readMembers r depth members).map r.object

def readItems (r : Reading κ ν) (depth : Nat) : List (Slot Source) → Option (List ν)
  | [] => some []
  | ⟨_, v, _⟩ :: rest => do return (← v.read r depth) :: (← readItems r depth rest)

def readMembers (r : Reading κ ν) (depth : Nat) :
    List (Slot (Member Source)) → Option (List (κ × ν))
  | [] => some []
  | ⟨_, ⟨name, _, _, v⟩, _⟩ :: rest => do
    let k ← r.name (name.flatMap Glyph.text)
    return (k, ← v.read r depth) :: (← readMembers r depth rest)

end

theorem readItems_eq_mapM (r : Reading κ ν) (depth : Nat) (items : List (Slot Source)) :
    readItems r depth items = items.mapM fun s => s.item.read r depth := by
  induction items with
  | nil => rfl
  | cons s items ih => rw [readItems, ih, List.mapM_cons]

/-- What a reading makes of a member. -/
def readMember (r : Reading κ ν) (depth : Nat) (m : Member Source) : Option (κ × ν) := do
  let k ← r.name (m.name.flatMap Glyph.text)
  return (k, ← m.value.read r depth)

theorem readMembers_eq_mapM (r : Reading κ ν) (depth : Nat)
    (members : List (Slot (Member Source))) :
    readMembers r depth members = members.mapM fun s => readMember r depth s.item := by
  induction members with
  | nil => rfl
  | cons s members ih =>
    rw [readMembers, ih, List.mapM_cons]
    simp [readMember, Option.bind_assoc]

end Source

namespace Parser

open Numeral (Ends)

variable {κ ν : Type} (r : Reading κ ν)

theorem scalar_number (x : WrittenNumber) {rest : List Char} (h : Ends rest) :
    scalar r (x.text ++ rest) = (r.number x.numeral).map fun v => (v, rest) := by
  obtain ⟨c, after, htext, hc⟩ := Source.exists_cons_of_number x
  have hread := Numeral.read_written x h
  have hne : ∀ d, Source.beginsNumber d = false → c ≠ d := fun d hd => ne_of_class hc hd
  rw [htext, List.cons_append] at hread ⊢
  unfold scalar
  split
  next heq => exact absurd (List.cons.inj heq).1 (hne 'n' rfl)
  next heq => exact absurd (List.cons.inj heq).1 (hne 't' rfl)
  next heq => exact absurd (List.cons.inj heq).1 (hne 'f' rfl)
  next heq => exact absurd (List.cons.inj heq).1 (hne '"' rfl)
  next =>
    rw [hread, Option.map_eq_bind]
    rfl

theorem scalar_literal (glyphs : List Glyph) (rest : List Char) :
    scalar r (literalText glyphs ++ rest) =
      (r.string (glyphs.flatMap Glyph.text)).map fun v => (v, rest) := by
  have hbody := Literal.body_glyphs glyphs rest
  simp only [scalar, literalText, List.cons_append, List.append_assoc, List.nil_append, hbody]
  rw [Option.map_eq_bind]
  rfl

theorem scalar_bracket {c : Char} (hc : c = '[' ∨ c = '\x7b') (rest : List Char) :
    scalar r (c :: rest) = none := by
  rcases hc with rfl | rfl <;> rfl

/-- Texts that neither an array nor an object begins with are read in one go. -/
theorem value_eq_scalar (depth : Nat) {c : Char} (hspace : isSpace c = false) (hsquare : c ≠ '[')
    (hcurly : c ≠ '\x7b') (rest : List Char) :
    value r depth (c :: rest) = scalar r (c :: rest) := by
  cases depth with
  | zero =>
    change scalar r (skipSpaces (c :: rest)) = _
    rw [skipSpaces_cons hspace]
  | succ depth =>
    simp only [value, skipSpaces_cons hspace]
    split
    next heq => exact absurd (List.cons.inj heq).1 hsquare
    next heq => exact absurd (List.cons.inj heq).1 hcurly
    next => rfl

theorem value_gap (depth : Nat) (gap : Gap) (s : List Char) :
    value r depth (gap.chars ++ s) = value r depth s := by
  cases depth with
  | zero =>
    change scalar r (skipSpaces _) = scalar r (skipSpaces s)
    rw [skipSpaces_gap]
  | succ depth => simp only [value, skipSpaces_gap]

theorem value_array (depth : Nat) (s : List Char) :
    value r (depth + 1) ('[' :: s) =
      (sequence (value r depth) ']' s).bind fun (items, rest) => some (r.array items, rest) := rfl

/-- A member of an object, as a pair. -/
def entry (depth : Nat) : Parser (κ × ν) :=
  member (stringWith r.name) fun k s => do
    let (v, rest) ← value r depth s
    some ((k, v), rest)

theorem value_object (depth : Nat) (s : List Char) :
    value r (depth + 1) ('\x7b' :: s) =
      (sequence (entry r depth) '\x7d' s).bind fun (members, rest) =>
        some (r.object members, rest) := rfl

theorem stringWith_literal {α : Type} (decode : List Char → Option α) (gap : Gap)
    (glyphs : List Glyph) (rest : List Char) :
    stringWith decode (gap.chars ++ (literalText glyphs ++ rest)) =
      (decode (glyphs.flatMap Glyph.text)).map fun a => (a, rest) := by
  have hbody := Literal.body_glyphs glyphs rest
  have hquote : isSpace '"' = false := rfl
  simp only [stringWith, literal, literalText, List.cons_append, List.append_assoc, List.nil_append,
    skipSpaces_gap, skipSpaces_cons hquote, hbody]
  rw [Option.map_eq_bind]
  rfl

/-- A member is read by its name and then by its value. -/
theorem makesOf_member {α : Type} {decode : List Char → Option κ} {value : κ → Parser α}
    {m : Member Source} {make : κ → Option α}
    (h : ∀ k, MakesOf (value k) m.value.text (make k)) :
    MakesOf (member (stringWith decode) value) (m.textWith Source.text)
      ((decode (m.name.flatMap Glyph.text)).bind make) := by
  intro gap rest hrest
  unfold member
  have hname := stringWith_literal decode gap m.name
    (m.middle.chars ++ ':' :: (m.inner.chars ++ (m.value.text ++ rest)))
  simp only [Member.textWith, List.append_assoc, List.cons_append]
  rw [hname]
  cases decode (m.name.flatMap Glyph.text) with
  | none => rfl
  | some k =>
    have hcolon : isSpace ':' = false := rfl
    simp only [Option.map_some, Option.bind_eq_bind, Option.bind_some, skipSpaces_gap,
      skipSpaces_cons hcolon]
    exact h k m.inner rest hrest

/-- A text of any form is read as it is made up, before whatever can stand after it. -/
theorem value_text (t : Source) (depth : Nat) (gap : Gap) {rest : List Char}
    (hrest : t.EndsBefore rest) :
    value r depth (gap.chars ++ (t.text ++ rest)) = (t.read r depth).map fun v => (v, rest) := by
  rw [value_gap]
  -- items end before a comma or a bracket, which no number goes on with: `rest` is general
  induction t generalizing depth rest with
  | null => cases depth <;> rfl
  | bool b => cases b <;> cases depth <;> rfl
  | number x =>
    obtain ⟨c, after, htext, hc⟩ := Source.exists_cons_of_number x
    obtain ⟨d, after', heq, hspace, _⟩ := Source.opens_number x
    have hcd : c = d := (List.cons.inj (htext.symm.trans heq)).1
    have hscalar := scalar_number r x (hrest x rfl)
    rw [Source.text, Source.read]
    rw [htext, List.cons_append] at hscalar ⊢
    rw [value_eq_scalar r depth (hcd ▸ hspace) (ne_of_class hc rfl) (ne_of_class hc rfl), hscalar]
  | string glyphs =>
    rw [Source.text, Source.read, ← scalar_literal]
    exact value_eq_scalar r depth rfl (by decide) (by decide) _
  | array gap items ih =>
    cases depth with
    | zero => rw [Source.text]; exact scalar_bracket r (Or.inl rfl) _
    | succ depth =>
      have hitems : ∀ s ∈ items, MakesOf (value r depth) s.item.text (s.item.read r depth) := by
        intro s hs gap rest hrest
        rw [value_gap]
        exact ih s hs depth fun _ _ => hrest
      have hsequence := sequence_slots (show isClosing ']' = true from rfl) hitems
        (fun s _ => Source.opens_text s.item) gap rest
      rw [Source.text, Source.itemTexts_eq_map, Source.read, Source.readItems_eq_mapM]
      simp only [List.cons_append, List.append_assoc, List.nil_append, value_array, hsequence]
      cases items.mapM fun s => s.item.read r depth <;> rfl
  | object gap members ih =>
    cases depth with
    | zero => rw [Source.text]; exact scalar_bracket r (Or.inr rfl) _
    | succ depth =>
      have hmembers : ∀ s ∈ members,
          MakesOf (entry r depth) (s.item.textWith Source.text)
            (Source.readMember r depth s.item) := by
        intro s hs
        apply makesOf_member
        intro k gap rest hrest
        beta_reduce
        rw [value_gap, ih s hs depth fun _ _ => hrest]
        cases s.item.value.read r depth <;> rfl
      have hsequence := sequence_slots (show isClosing '\x7d' = true from rfl) hmembers
        (fun s _ => Source.opens_member s.item) gap rest
      rw [Source.text, Source.memberTexts_eq_map, Source.read, Source.readMembers_eq_mapM]
      simp only [List.cons_append, List.append_assoc, List.nil_append, value_object, hsequence]
      cases members.mapM fun s => Source.readMember r depth s.item <;> rfl

end Parser

theorem mapM_eq_none_iff {α β : Type} {f : α → Option β} {l : List α} :
    l.mapM f = none ↔ ∃ a ∈ l, f a = none := by
  induction l with
  | nil => simp
  | cons a l ih =>
    have hmem : (∃ b ∈ a :: l, f b = none) ↔ f a = none ∨ l.mapM f = none := by
      simp [ih]
    rw [hmem, List.mapM_cons]
    cases f a with
    | none => simp
    | some b => cases l.mapM f <;> simp

theorem mapM_eq_some_iff {α β : Type} {f : α → Option β} {l : List α} {l' : List β} :
    l.mapM f = some l' ↔ List.Forall₂ (fun a b => f a = some b) l l' := by
  constructor
  · intro h
    induction l generalizing l' with
    | nil => exact Option.some.inj h ▸ .nil
    | cons a l ih =>
      rw [List.mapM_cons] at h
      obtain ⟨b, hb, h⟩ := Option.bind_eq_some_iff.mp h
      obtain ⟨bs, hbs, h⟩ := Option.bind_eq_some_iff.mp h
      exact Option.some.inj h ▸ .cons hb (ih hbs)
  · intro h
    induction h with
    | nil => rfl
    | cons hab _ ih =>
      rw [List.mapM_cons, hab, ih]
      rfl

theorem mapM_eq_some_map {α β : Type} {f : α → Option β} {g : α → β} {l : List α}
    (h : ∀ a ∈ l, f a = some (g a)) : l.mapM f = some (l.map g) := by
  induction l with
  | nil => rfl
  | cons a l ih =>
    obtain ⟨ha, hl⟩ := List.forall_mem_cons.mp h
    rw [List.mapM_cons, ha, ih hl]
    rfl

namespace Source

variable {κ ν : Type} {t : Source} {depth : Nat}

theorem exists_lt_depth_of_items {items : List (Slot Source)} (h : depth < itemsDepth items) :
    ∃ s ∈ items, depth < s.item.depth := by
  by_contra hnone
  apply Nat.not_le.mpr h
  exact itemsDepth_le_iff.mpr fun s hs => Nat.not_lt.mp fun hlt => hnone ⟨s, hs, hlt⟩

theorem exists_lt_depth_of_members {members : List (Slot (Member Source))}
    (h : depth < membersDepth members) : ∃ s ∈ members, depth < s.item.value.depth := by
  by_contra hnone
  apply Nat.not_le.mpr h
  exact membersDepth_le_iff.mpr fun s hs => Nat.not_lt.mp fun hlt => hnone ⟨s, hs, hlt⟩

/-- No reading goes deeper than it may. -/
theorem read_of_lt_depth (r : Reading κ ν) (h : depth < t.depth) : t.read r depth = none := by
  induction t generalizing depth with
  | null => simp [Source.depth] at h
  | bool b => simp [Source.depth] at h
  | number x => simp [Source.depth] at h
  | string glyphs => simp [Source.depth] at h
  | array gap items ih =>
    cases depth with
    | zero => rfl
    | succ depth =>
      rw [Source.depth, Nat.succ_lt_succ_iff] at h
      obtain ⟨s, hs, hdepth⟩ := exists_lt_depth_of_items h
      rw [read, readItems_eq_mapM, mapM_eq_none_iff.mpr ⟨s, hs, ih s hs hdepth⟩]
      rfl
  | object gap members ih =>
    cases depth with
    | zero => rfl
    | succ depth =>
      rw [Source.depth, Nat.succ_lt_succ_iff] at h
      obtain ⟨s, hs, hdepth⟩ := exists_lt_depth_of_members h
      have hmember : readMember r depth s.item = none := by
        unfold readMember
        rw [ih s hs hdepth]
        cases r.name (s.item.name.flatMap Glyph.text) <;> rfl
      rw [read, readMembers_eq_mapM, mapM_eq_none_iff.mpr ⟨s, hs, hmember⟩]
      rfl

/-- Every text is well-formed for a reading that keeps nothing, if it may go deep enough. -/
theorem read_skim (h : t.depth ≤ depth) : t.read .skim depth = some () := by
  induction t generalizing depth with
  | null => cases depth <;> rfl
  | bool b => cases depth <;> rfl
  | number x => cases depth <;> rfl
  | string glyphs => cases depth <;> simp [read, Reading.skim, Literal.pieces_glyphs]
  | array gap items ih =>
    obtain ⟨depth, rfl⟩ : ∃ k, depth = k + 1 := ⟨depth - 1, by rw [Source.depth] at h; omega⟩
    have hitems := itemsDepth_le_iff.mp (Nat.le_of_succ_le_succ h)
    have hread := mapM_eq_some_map fun s hs => ih s hs (hitems s hs)
    rw [read, readItems_eq_mapM, hread]
    rfl
  | object gap members ih =>
    obtain ⟨depth, rfl⟩ : ∃ k, depth = k + 1 := ⟨depth - 1, by rw [Source.depth] at h; omega⟩
    have hmembers := membersDepth_le_iff.mp (Nat.le_of_succ_le_succ h)
    have hmember : ∀ s ∈ members, readMember .skim depth s.item = some ((), ()) := by
      intro s hs
      have hname : Reading.skim.name (s.item.name.flatMap Glyph.text) = some () := by
        simp [Reading.skim, Literal.pieces_glyphs]
      unfold readMember
      rw [hname, ih s hs (hmembers s hs)]
      rfl
    rw [read, readMembers_eq_mapM, mapM_eq_some_map hmember]
    rfl

/-- Each level of nesting takes a bracket at least. -/
theorem depth_le_length (t : Source) : t.depth ≤ t.text.length := by
  induction t with
  | null => simp [depth]
  | bool b => simp [depth]
  | number x => simp [depth]
  | string glyphs => simp [depth]
  | array gap items ih =>
    have hitems : itemsDepth items ≤ (Json.commaSeparated (itemTexts items)).length := by
      apply itemsDepth_le_iff.mpr
      intro s hs
      have hlength := Json.length_le_commaSeparated
        (List.mem_map_of_mem (f := Slot.textWith text) hs)
      have hs := ih s hs
      rw [itemTexts_eq_map]
      simp only [Slot.textWith, List.length_append] at hlength
      omega
    simp only [depth, text, List.length_cons, List.length_append]
    omega
  | object gap members ih =>
    have hmembers : membersDepth members ≤ (Json.commaSeparated (memberTexts members)).length := by
      apply membersDepth_le_iff.mpr
      intro s hs
      have hlength := Json.length_le_commaSeparated
        (List.mem_map_of_mem (f := Slot.textWith (Member.textWith text)) hs)
      have hs := ih s hs
      rw [memberTexts_eq_map]
      simp only [Slot.textWith, Member.textWith, List.length_append, List.length_cons] at hlength
      omega
    simp only [depth, text, List.length_cons, List.length_append]
    omega

end Source

namespace Parser

/-- The parser reads every text of a value, or refuses it, by what the value means to it. -/
def Follows {α : Type} (p : Parser α) (meaning : Source → Option α) : Prop :=
  ∀ (t : Source) (gap : Gap) (rest : List Char), t.EndsBefore rest →
    p (gap.chars ++ (t.text ++ rest)) = (meaning t).map fun a => (a, rest)

theorem Follows.makesOf {α : Type} {p : Parser α} {meaning : Source → Option α}
    (h : Follows p meaning) (t : Source) : MakesOf p t.text (meaning t) :=
  fun gap rest hrest => h t gap rest fun _ _ => hrest

theorem Follows.map {α β : Type} {p : Parser α} {meaning : Source → Option α}
    (h : Follows p meaning) (f : α → β) :
    Follows (fun s => (p s).map fun (a, rest) => (f a, rest)) fun t => (meaning t).map f := by
  intro t gap rest hrest
  simp only [h t gap rest hrest, Option.map_map]
  rfl

theorem follows_value {κ ν : Type} (r : Reading κ ν) (depth : Nat) :
    Follows (value r depth) (Source.read r depth) :=
  fun t gap _ hrest => value_text r t depth gap hrest

/-- Every value can be skipped, however deep it is. -/
theorem follows_skip : Follows skip fun _ => some () := by
  intro t gap rest hrest
  have hdepth : t.depth ≤ (gap.chars ++ (t.text ++ rest)).length := by
    have hlength := t.depth_le_length
    simp only [List.length_append]
    omega
  unfold skip
  rw [value_text _ t _ gap hrest, Source.read_skim hdepth]

end Parser

end Outbound
