import Outbound.Proofs.Json.Source

namespace Outbound

theorem ne_of_class {p : Char → Bool} {c d : Char} (hc : p c = true) (hd : p d = false) :
    c ≠ d := by
  intro heq
  rw [heq, hd] at hc
  exact Bool.noConfusion hc

namespace Parser

open Numeral (Ends)

/-- A bracket that closes a sequence. -/
def isClosing (c : Char) : Bool :=
  c == ']' || c == '\x7d'

/-- A text that begins an item of a sequence: no space is skipped before it, and it does not close
the sequence. -/
def Opens (s : List Char) : Prop :=
  ∃ c rest, s = c :: rest ∧ isSpace c = false ∧ isClosing c = false

theorem skipSpaces_cons {c : Char} (hc : isSpace c = false) (rest : List Char) :
    skipSpaces (c :: rest) = c :: rest := by
  simp [skipSpaces, hc]

theorem skipSpaces_gap (gap : Gap) (s : List Char) :
    skipSpaces (gap.chars ++ s) = skipSpaces s :=
  List.dropWhile_append_of_pos gap.blank

theorem skipSpaces_chars (gap : Gap) : skipSpaces gap.chars = [] := by
  simpa [skipSpaces] using skipSpaces_gap gap []

theorem skipSpaces_append {s : List Char} (h : Opens s) (rest : List Char) :
    skipSpaces (s ++ rest) = s ++ rest := by
  obtain ⟨c, after, rfl, hc, _⟩ := h
  exact skipSpaces_cons hc _

theorem isClosing_cases {close : Char} (h : isClosing close = true) :
    close = ']' ∨ close = '\x7d' := by
  simpa [isClosing] using h

theorem ends_of_isSpace {c : Char} (h : isSpace c = true) (rest : List Char) :
    Ends (c :: rest) := by
  have hcases : ((c = ' ' ∨ c = '\n') ∨ c = '\t') ∨ c = '\r' := by simpa [isSpace] using h
  intro d hd
  obtain rfl : c = d := by simpa using hd
  rcases hcases with ((rfl | rfl) | rfl) | rfl <;> decide

theorem ends_of_isClosing {c : Char} (h : isClosing c = true) (rest : List Char) :
    Ends (c :: rest) := by
  intro d hd
  obtain rfl : c = d := by simpa using hd
  rcases isClosing_cases h with rfl | rfl <;> decide

theorem ends_comma (rest : List Char) : Ends (',' :: rest) := by
  intro d hd
  obtain rfl : ',' = d := by simpa using hd
  decide

/-- White space before a text that no number goes on with is such a text again. -/
theorem ends_gap (gap : Gap) {rest : List Char} (h : Ends rest) : Ends (gap.chars ++ rest) := by
  cases hchars : gap.chars with
  | nil => exact h
  | cons c chars => exact ends_of_isSpace (gap.blank c (hchars ▸ List.mem_cons_self)) _

theorem ends_chars (gap : Gap) : Ends gap.chars := by
  have h := ends_gap gap Numeral.ends_nil
  rwa [List.append_nil] at h

end Parser

namespace Json

theorem commaSeparated_cons (text : List Char) (rest : List (List Char)) :
    commaSeparated (text :: rest) = text ++ rest.flatMap (',' :: ·) := by
  induction rest generalizing text with
  | nil => simp [commaSeparated]
  | cons next rest ih => simp [commaSeparated, ih]

theorem length_le_commaSeparated {text : List Char} {texts : List (List Char)}
    (h : text ∈ texts) : text.length ≤ (commaSeparated texts).length := by
  cases texts with
  | nil => simp at h
  | cons first rest =>
    rw [commaSeparated_cons, List.length_append]
    rcases List.mem_cons.mp h with rfl | hrest
    · exact Nat.le_add_right _ _
    · have hmem : ',' :: text ∈ rest.map (',' :: ·) := List.mem_map_of_mem hrest
      have hlength := (List.sublist_flatten_of_mem hmem).length_le
      rw [List.length_cons, ← List.flatMap_def] at hlength
      omega

end Json

namespace Parser

open Numeral (Ends)

section

variable {α β : Type} {item : Parser α} {close : Char} {text : β → List Char}
  {make : β → Option α} {slots : List (Slot β)}

/-- The parser makes this of a text, with any white space before it and before anything that no
number goes on with. -/
def MakesOf (item : Parser α) (text : List Char) (result : Option α) : Prop :=
  ∀ (gap : Gap) (rest : List Char), Ends rest →
    item (gap.chars ++ (text ++ rest)) = result.map fun a => (a, rest)

theorem ends_slots (hclose : isClosing close = true) (text : β → List Char) (slots : List (Slot β))
    (rest : List Char) :
    Ends (slots.flatMap (fun s => ',' :: s.textWith text) ++ close :: rest) := by
  cases slots with
  | nil => exact ends_of_isClosing hclose rest
  | cons s slots => exact ends_comma _

/-- Each item takes a comma at least, so that the text left is fuel enough. -/
theorem length_le_slots (text : β → List Char) (slots : List (Slot β)) :
    slots.length ≤ (slots.flatMap fun s => ',' :: s.textWith text).length := by
  induction slots with
  | nil => simp
  | cons s slots ih =>
    simp only [List.flatMap_cons, List.length_append, List.length_cons]
    omega

theorem more_slots (hclose : isClosing close = true)
    (h : ∀ s ∈ slots, MakesOf item (text s.item) (make s.item)) (gap : Gap) (rest : List Char)
    {fuel : Nat} (hfuel : slots.length < fuel) :
    more item close fuel
        (gap.chars ++ (slots.flatMap (fun s => ',' :: s.textWith text) ++ close :: rest)) =
      (slots.mapM fun s => make s.item).map fun as => (as, rest) := by
  have hspace : isSpace close = false := by
    rcases isClosing_cases hclose with rfl | rfl <;> rfl
  -- the gap in front is the one after the item before, so it changes from item to item
  induction slots generalizing gap fuel with
  | nil =>
    obtain ⟨fuel, rfl⟩ : ∃ k, fuel = k + 1 := ⟨fuel - 1, by omega⟩
    simp [more, skipSpaces_gap, skipSpaces_cons hspace]
  | cons s slots ih =>
    obtain ⟨fuel, rfl⟩ : ∃ k, fuel = k + 1 := ⟨fuel - 1, by omega⟩
    obtain ⟨hs, hslots⟩ := List.forall_mem_cons.mp h
    have hne : ',' ≠ close := (ne_of_class hclose rfl).symm
    have hitem := hs s.before _ (ends_gap s.after (ends_slots hclose text slots rest))
    have hlength : slots.length < fuel := by simpa using hfuel
    have hmore := ih hslots s.after hlength
    rw [List.flatMap_cons, List.mapM_cons]
    simp only [Slot.textWith, List.cons_append, List.append_assoc] at hitem hmore ⊢
    simp only [more, skipSpaces_gap, skipSpaces_cons (show isSpace ',' = false from rfl),
      if_neg hne, if_true, hitem]
    cases make s.item with
    | none => rfl
    | some a =>
      simp only [Option.map_some, Option.bind_eq_bind, Option.bind_some, hmore]
      cases slots.mapM fun s => make s.item <;> rfl

/-- A sequence is read item by item, and refused with any of them. -/
theorem sequence_slots (hclose : isClosing close = true)
    (h : ∀ s ∈ slots, MakesOf item (text s.item) (make s.item))
    (hopens : ∀ s ∈ slots, Opens (text s.item)) (gap : Gap) (rest : List Char) :
    sequence item close
        (gap.chars ++ (Json.commaSeparated (slots.map (Slot.textWith text)) ++ close :: rest)) =
      (slots.mapM fun s => make s.item).map fun as => (as, rest) := by
  cases slots with
  | nil =>
    have hspace : isSpace close = false := by
      rcases isClosing_cases hclose with rfl | rfl <;> rfl
    simp [Json.commaSeparated, sequence, skipSpaces_gap, skipSpaces_cons hspace]
  | cons s slots =>
    obtain ⟨hs, hslots⟩ := List.forall_mem_cons.mp h
    have hopen := hopens s List.mem_cons_self
    have ⟨c, after, htext, _, hnot⟩ := hopen
    have hne : c ≠ close := (ne_of_class hclose hnot).symm
    have hitem := hs .none _ (ends_gap s.after (ends_slots hclose text slots rest))
    have hfuel : slots.length <
        (s.after.chars ++
          (slots.flatMap (fun s => ',' :: s.textWith text) ++ close :: rest)).length := by
      have hlength := length_le_slots text slots
      simp only [List.length_append, List.length_cons]
      omega
    have hmore := more_slots hclose hslots s.after rest hfuel
    rw [List.map_cons, Json.commaSeparated_cons, List.mapM_cons, List.flatMap_map]
    simp only [Slot.textWith, Gap.none, List.append_assoc, List.nil_append] at hitem hmore ⊢
    unfold sequence
    rw [skipSpaces_gap, skipSpaces_gap, skipSpaces_append hopen]
    rw [htext] at hitem ⊢
    simp only [List.cons_append] at hitem ⊢
    simp only [if_neg hne, hitem]
    cases make s.item with
    | none => rfl
    | some a =>
      simp only [Option.map_some, Option.bind_eq_bind, Option.bind_some, hmore]
      cases slots.mapM fun s => make s.item <;> rfl

end

end Parser

end Outbound
