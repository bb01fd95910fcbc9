import Outbound.Proofs.Json.Canonical
import Outbound.Proofs.Json.SourceReading

namespace Outbound

namespace Source

variable {t : Source} {v : Json} {depth : Nat}

/-- A text that stands for a value is read as that value. -/
theorem Denotes.read_full (hv : t.Denotes v) (h : t.depth ≤ depth) :
    t.read .full depth = some v := by
  induction hv generalizing depth with
  | null => cases depth <;> rfl
  | bool => cases depth <;> rfl
  | int hn htext =>
    have hvalue := Numeral.value_of_text_eq_writeInt hn htext
    cases depth <;> simp [read, Reading.full, hvalue]
  | string hs =>
    have hdecode := Literal.decode_glyphs_iff.mpr hs
    cases depth <;> simp [read, Reading.full, hdecode]
  | @array gap items vs hlength _ ih =>
    obtain ⟨depth, rfl⟩ : ∃ k, depth = k + 1 := ⟨depth - 1, by rw [Source.depth] at h; omega⟩
    have hdepth := itemsDepth_le_iff.mp (Nat.le_of_succ_le_succ h)
    have hitem : ∀ p ∈ items.zip vs, p.1.item.read .full depth = some p.2 :=
      fun p hp => ih p hp (hdepth p.1 (List.of_mem_zip hp).1)
    have hitems : items.mapM (fun s => s.item.read .full depth) = some vs :=
      mapM_eq_some_iff.mpr (List.forall₂_iff_zip.mpr ⟨hlength, fun hp => hitem _ hp⟩)
    rw [read, readItems_eq_mapM, hitems]
    rfl
  | @object gap members named entries hlength hnames _ hincreasing hlookup ih =>
    obtain ⟨depth, rfl⟩ : ∃ k, depth = k + 1 := ⟨depth - 1, by rw [Source.depth] at h; omega⟩
    have hdepth := membersDepth_le_iff.mp (Nat.le_of_succ_le_succ h)
    have hmember : ∀ p ∈ members.zip named, readMember .full depth p.1.item = some p.2 := by
      intro p hp
      have hname : Reading.full.name (p.1.item.name.flatMap Glyph.text) = some p.2.1 :=
        Literal.decode_glyphs_iff.mpr (hnames p hp)
      unfold readMember
      rw [hname, ih p hp (hdepth p.1 (List.of_mem_zip hp).1)]
      rfl
    have hentries : Keyed.ofList named = ⟨entries, hincreasing⟩ := Keyed.ofList_eq hlookup
    have hmembers : members.mapM (fun s => readMember .full depth s.item) = some named :=
      mapM_eq_some_iff.mpr (List.forall₂_iff_zip.mpr ⟨hlength, fun hp => hmember _ hp⟩)
    rw [read, readMembers_eq_mapM, hmembers]
    simp [Reading.full, Json.ofMembers, hentries]

/-- Items that are written one after another, each with nothing around it. -/
theorem exists_items {items : List Json}
    (h : ∀ v ∈ items, ∃ t : Source, t.text = v.write ∧ t.Denotes v ∧ t.depth ≤ depth) :
    ∃ slots, itemTexts slots = Json.writeItems items ∧
      List.Forall₂ (fun s v => s.item.Denotes v) slots items ∧ itemsDepth slots ≤ depth := by
  induction items with
  | nil => exact ⟨[], rfl, .nil, Nat.zero_le depth⟩
  | cons v items ih =>
    obtain ⟨⟨t, htext, hdenotes, hdepth⟩, hitems⟩ := List.forall_mem_cons.mp h
    obtain ⟨slots, htexts, hall, hdepths⟩ := ih hitems
    refine ⟨⟨.none, t, .none⟩ :: slots, ?_, .cons hdenotes hall, Nat.max_le.mpr ⟨hdepth, hdepths⟩⟩
    simp [itemTexts, Json.writeItems, Gap.none, htext, htexts]

/-- Members that are written one after another, each with nothing around its parts. -/
theorem exists_members {entries : List (String × Json)}
    (h : ∀ m ∈ entries, ∃ t : Source, t.text = m.2.write ∧ t.Denotes m.2 ∧ t.depth ≤ depth) :
    ∃ slots, memberTexts slots = Json.writeMembers entries ∧
      List.Forall₂ (fun s m => Literal.Spells s.item.name m.1.toList ∧ s.item.value.Denotes m.2)
        slots entries ∧
      membersDepth slots ≤ depth := by
  induction entries with
  | nil => exact ⟨[], rfl, .nil, Nat.zero_le depth⟩
  | cons m entries ih =>
    obtain ⟨⟨t, htext, hdenotes, hdepth⟩, hentries⟩ := List.forall_mem_cons.mp h
    obtain ⟨slots, htexts, hall, hdepths⟩ := ih hentries
    obtain ⟨glyphs, hglyphs, hspells⟩ := Literal.exists_glyphs_of_written m.1.toList
    refine ⟨⟨.none, ⟨glyphs, .none, .none, t⟩, .none⟩ :: slots, ?_, .cons ⟨hspells, hdenotes⟩ hall,
      Nat.max_le.mpr ⟨hdepth, hdepths⟩⟩
    simp [memberTexts, Json.writeMembers, Json.writeString, literalText, Gap.none, htext, htexts,
      hglyphs]

/-- What is written for a canonical value without floats is a text that stands for it. -/
theorem exists_of_canonical (hv : v.Canonical depth) (hint : v.Integral) :
    ∃ t : Source, t.text = v.write ∧ t.Denotes v ∧ t.depth ≤ depth := by
  induction hv with
  | null => exact ⟨.null, rfl, .null, Nat.zero_le _⟩
  | @bool depth b => exact ⟨.bool b, by cases b <;> rfl, .bool, Nat.zero_le _⟩
  | number hexact =>
    cases hint with
    | @int n =>
      obtain ⟨x, hx, _⟩ := Numeral.exists_writtenNumber n
      exact ⟨.number x, by rw [text, hx]; rfl, .int (hexact n rfl) hx, Nat.zero_le _⟩
  | @string depth s =>
    obtain ⟨glyphs, hglyphs, hspells⟩ := Literal.exists_glyphs_of_written s.toList
    exact ⟨.string glyphs, by simp [text, literalText, Json.write, Json.writeString, hglyphs],
      .string hspells, Nat.zero_le _⟩
  | array _ ih =>
    cases hint with
    | array hitems =>
      obtain ⟨slots, htexts, hall, hdepth⟩ := exists_items fun v hv => ih v hv (hitems v hv)
      exact ⟨.array .none slots, by simp [text, Json.write, Gap.none, htexts],
        denotes_array_iff.mpr hall, Nat.succ_le_succ hdepth⟩
  | object hincreasing _ ih =>
    cases hint with
    | object hmembers =>
      obtain ⟨slots, htexts, hall, hdepth⟩ := exists_members fun m hm => ih m hm (hmembers m hm)
      obtain ⟨hlength, hdenotes⟩ := List.forall₂_iff_zip.mp hall
      have hlookup := Keyed.get?_eq_lookup_reverse ⟨_, hincreasing⟩
      exact ⟨.object .none slots, by simp [text, Json.write, Gap.none, htexts],
        .object hlength (fun _ hp => (hdenotes hp).1) (fun _ hp => (hdenotes hp).2) hincreasing
          hlookup,
        Nat.succ_le_succ hdepth⟩

end Source

namespace Json

/-- A text that stands for a value is parsed as that value, within the bound on nesting. -/
theorem parse?_text {t : Source} {v : Json} (before after : Gap) (hv : t.Denotes v)
    (hdepth : t.depth ≤ maxDepth) :
    parse? (String.ofList (before.chars ++ (t.text ++ after.chars))) = some v := by
  have hread := Parser.value_text .full t maxDepth before fun _ _ => Parser.ends_chars after
  rw [hv.read_full hdepth] at hread
  simp [parse?, Parser.document, hread, Parser.skipSpaces_chars]

/-- Rendering is undone by parsing, within the bound on nesting. -/
theorem parse?_render {v : Json} (hv : v.Canonical maxDepth) (hint : v.Integral) :
    parse? v.render = some v := by
  obtain ⟨t, htext, hdenotes, hdepth⟩ := Source.exists_of_canonical hv hint
  have hparse := parse?_text .none .none hdenotes hdepth
  simpa [render, Gap.none, htext] using hparse

end Json

end Outbound
