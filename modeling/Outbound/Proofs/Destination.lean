import Outbound.Destination
import Outbound.Proofs.Json.RecordText

namespace Outbound

namespace Parser

theorem exists_gap (s : List Char) : ∃ gap : Gap, s = gap.chars ++ skipSpaces s := by
  refine ⟨⟨s.takeWhile isSpace, fun c hc => ?_⟩, List.takeWhile_append_dropWhile.symm⟩
  exact List.all_eq_true.mp List.all_takeWhile c hc

/-- A text that is read begins with a literal that spells it. -/
theorem exists_glyphs_of_string {s rest : List Char} {text : String}
    (h : string s = some (text, rest)) :
    ∃ (gap : Gap) (glyphs : List Glyph), s = gap.chars ++ (literalText glyphs ++ rest) ∧
      Literal.Spells glyphs text.toList := by
  obtain ⟨⟨b, after⟩, hliteral, h⟩ := Option.bind_eq_some_iff.mp h
  obtain ⟨text', hdecode, h⟩ := Option.bind_eq_some_iff.mp h
  obtain ⟨rfl, rfl⟩ := Prod.mk.inj (Option.some.inj h)
  unfold literal at hliteral
  split at hliteral
  next body hskip =>
    have hbody := Literal.eq_append_of_body hliteral
    obtain ⟨ps, hpieces, _⟩ := Option.bind_eq_some_iff.mp hdecode
    obtain ⟨glyphs, rfl⟩ := Literal.exists_glyphs_of_body (hbody ▸ hliteral) hpieces
    obtain ⟨gap, hgap⟩ := exists_gap s
    refine ⟨gap, glyphs, ?_, Literal.decode_glyphs_iff.mp hdecode⟩
    rw [hgap, hskip, hbody, literalText]
    simp
  next => simp at hliteral

/-- A text that stands for another: a literal that spells it, with white space around it. -/
def Quotes (text s : String) : Prop :=
  ∃ (before : Gap) (glyphs : List Glyph) (after : Gap),
    text.toList = before.chars ++ (literalText glyphs ++ after.chars) ∧
      Literal.Spells glyphs s.toList

theorem document_string_eq_some_iff {text s : String} :
    document string text.toList = some s ↔ Quotes text s := by
  constructor
  · intro h
    unfold document at h
    split at h
    next a rest hstring =>
      split at h
      next hrest =>
        obtain rfl := Option.some.inj h
        obtain ⟨before, glyphs, htext, hspells⟩ := exists_glyphs_of_string hstring
        obtain ⟨after, hafter⟩ := exists_gap rest
        rw [List.isEmpty_iff.mp hrest, List.append_nil] at hafter
        exact ⟨before, glyphs, after, by rw [htext, hafter], hspells⟩
      next => simp at h
    next => simp at h
  · intro h
    obtain ⟨before, glyphs, after, htext, hspells⟩ := h
    have hstring := stringWith_literal Literal.decode before glyphs after.chars
    rw [Literal.decode_glyphs_iff.mpr hspells] at hstring
    rw [htext]
    exact document_eq hstring (skipSpaces_chars after)

theorem quotes_render (s : String) : Quotes (Json.string s).render s := by
  obtain ⟨glyphs, hglyphs, hspells⟩ := Literal.exists_glyphs_of_written s.toList
  refine ⟨.none, glyphs, .none, ?_, hspells⟩
  simp [Json.render, Json.write, Json.writeString, literalText, Gap.none, hglyphs]

/-- A JSON text is a document of one text where it stands for one. -/
theorem document_string_text (before : Gap) (t : Source) (after : Gap) :
    document string (before.chars ++ (t.text ++ after.chars)) = t.string? := by
  have hstring := follows_string t before after.chars fun _ _ => ends_chars after
  exact document_eq hstring (skipSpaces_chars after)

end Parser

namespace Destination

open Outbound.Parser (Quotes)

variable {s text : String} {d d' : Destination}

theorem ofText_eq_ok_iff : ofText s = .ok d ↔ d.text = s := by
  obtain ⟨t, ht⟩ := d
  unfold ofText
  split
  next h => simp [h, ht]
  next h => simp [eq_comm]

theorem ofText_eq_error_iff {error : EvalError} :
    ofText s = .error error ↔ s = "" ∧ error = .invalidArgument .emptyDestination := by
  unfold ofText
  split
  next h => simp [h, eq_comm]
  next h => simp [h]

theorem exists_text_eq_iff : (∃ d : Destination, d.text = s) ↔ s ≠ "" := by
  constructor
  · intro h
    obtain ⟨d, rfl⟩ := h
    exact d.ne_empty
  · exact fun h => ⟨⟨s, h⟩, rfl⟩

theorem toOption_ofText_eq_some_iff : (ofText s).toOption = some d ↔ d.text = s := by
  rw [← ofText_eq_ok_iff]
  cases ofText s <;> simp [Except.toOption]

theorem parse?_eq_some_iff :
    parse? text = some d ↔ Parser.document Parser.string text.toList = some d.text := by
  unfold parse?
  split
  next s hs => rw [toOption_ofText_eq_some_iff, hs, Option.some.injEq, eq_comm]
  next hs => simp [hs]

theorem parse?_eq_some_iff_quotes : parse? text = some d ↔ Quotes text d.text :=
  parse?_eq_some_iff.trans Parser.document_string_eq_some_iff

theorem parse?_source_eq_some_iff {before after : Gap} {t : Source} :
    parse? (String.ofList (before.chars ++ (t.text ++ after.chars))) = some d ↔
      t.Denotes (.string d.text) := by
  rw [parse?_eq_some_iff, String.toList_ofList, Parser.document_string_text,
    Source.string?_eq_some_iff]

theorem eq_none_iff_of_some_iff {d? : Option Destination} {P : String → Prop}
    (h : ∀ d, d? = some d ↔ P d.text) : d? = none ↔ ∀ s, s ≠ "" → ¬ P s := by
  rw [Option.eq_none_iff_forall_ne_some]
  constructor
  · exact fun hnone s hs hP => hnone ⟨s, hs⟩ ((h ⟨s, hs⟩).mpr hP)
  · exact fun hnot d hsome => hnot d.text d.ne_empty ((h d).mp hsome)

theorem parse?_eq_some_iff_of_quotes (h : Quotes text s) : parse? text = some d ↔ d.text = s := by
  rw [parse?_eq_some_iff, Parser.document_string_eq_some_iff.mpr h, Option.some.injEq, eq_comm]

theorem beq_iff : (d == d') = true ↔ d.text = d'.text := by
  rw [beq_iff_eq, mk.injEq]

/-- A text is a destination, by itself and where JSON stands for it, unless it is empty, and no
other JSON is one. A destination that is made of a text is shown and rendered as that text, and its
rendering is read as the same destination. Destinations are equal as their texts are. -/
theorem conversions_keep_text :
    (∀ s : String,
      ((∃ d, ofText s = .ok d) ↔ s ≠ "") ∧
      Quotes (Json.string s).render s ∧
      ∀ text, Quotes text s →
        ((∃ d, parse? text = some d) ↔ s ≠ "") ∧ ∀ d, parse? text = some d ↔ ofText s = .ok d) ∧
    (∀ text, parse? text = none ↔ ∀ s, s ≠ "" → ¬ Quotes text s) ∧
    (∀ (before after : Gap) (t : Source),
      parse? (String.ofList (before.chars ++ (t.text ++ after.chars))) = none ↔
        ∀ s, s ≠ "" → ¬ t.Denotes (.string s)) ∧
    (∀ (s : String) (d : Destination),
      ofText s = .ok d ∨ (∃ text, Quotes text s ∧ parse? text = some d) →
        s ≠ "" ∧ d.text = s ∧ toString d = s ∧ d.toJson.render = (Json.string s).render ∧
          parse? d.toJson.render = some d) ∧
    ∀ d d' : Destination, (d == d') = true ↔ d.text = d'.text := by
  refine ⟨fun s => ⟨?_, Parser.quotes_render s, fun text htext => ⟨?_, fun d => ?_⟩⟩,
    fun text => eq_none_iff_of_some_iff fun _ => parse?_eq_some_iff_quotes,
    fun before after t => eq_none_iff_of_some_iff fun _ => parse?_source_eq_some_iff,
    fun s d h => ?_, fun d d' => beq_iff⟩
  · simp only [ofText_eq_ok_iff, exists_text_eq_iff]
  · simp only [parse?_eq_some_iff_of_quotes htext, exists_text_eq_iff]
  · rw [parse?_eq_some_iff_of_quotes htext, ofText_eq_ok_iff]
  · obtain rfl : d.text = s := by
      rcases h with hof | ⟨text, htext, hparse⟩
      · exact ofText_eq_ok_iff.mp hof
      · exact (parse?_eq_some_iff_of_quotes htext).mp hparse
    have hparse := (parse?_eq_some_iff_of_quotes (Parser.quotes_render d.text)).mpr rfl
    exact ⟨d.ne_empty, rfl, rfl, rfl, hparse⟩

theorem conversions_keep_text_controls :
    ∃ d : Destination, d.text = " \"\\\n\x01 " ∧
      d.toJson.render = "\" \\\"\\\\\\n\\u0001 \"" ∧ parse? d.toJson.render = some d := by
  obtain ⟨d, hd⟩ := (conversions_keep_text.1 " \"\\\n\x01 ").1.mpr (by decide)
  obtain ⟨_, htext, _, hrender, hparse⟩ := conversions_keep_text.2.2.2.1 _ d (.inl hd)
  exact ⟨d, htext, hrender.trans rfl, hparse⟩

end Destination

end Outbound
