import Outbound.Proofs.Json.Printable
import Outbound.Proofs.Stream.Lines

namespace Outbound

/-- The bytes of a text. -/
def utf8Bytes (s : String) : List UInt8 :=
  s.toByteArray.data.toList

theorem utf8Bytes_append (s t : String) : utf8Bytes (s ++ t) = utf8Bytes s ++ utf8Bytes t := by
  simp [utf8Bytes, String.toByteArray_append]

theorem utf8Bytes_eq_flatMap (s : String) :
    utf8Bytes s = s.toList.flatMap String.utf8EncodeChar := by
  unfold utf8Bytes
  rw [← String.utf8Encode_toList, List.utf8Encode, List.toList_data_toByteArray]

/-- A byte below 0x80 is the whole of the character that it belongs to. -/
theorem eq_of_mem_utf8EncodeChar {c : Char} {b : UInt8} (hb : b ∈ String.utf8EncodeChar c)
    (hlow : b.toNat < 0x80) : String.utf8EncodeChar c = [b] ∧ c.toNat = b.toNat := by
  have hhigh : ∀ n, 0x80 ≤ n → n < 0x100 → 0x80 ≤ (UInt8.ofNat n).toNat := by
    intro n hn hn'
    rw [UInt8.toNat_ofNat', Nat.mod_eq_of_lt hn']
    exact hn
  unfold String.utf8EncodeChar at hb ⊢
  simp only at hb ⊢
  split at hb
  next hc =>
    obtain rfl := List.mem_singleton.mp hb
    rw [if_pos hc]
    refine ⟨rfl, ?_⟩
    rw [UInt8.toNat_ofNat', Nat.mod_eq_of_lt (by omega)]
    rfl
  next =>
    apply absurd hlow
    apply Nat.not_lt.mpr
    split at hb
    next =>
      simp only [List.mem_cons, List.not_mem_nil, or_false] at hb
      rcases hb with rfl | rfl <;> exact hhigh _ (by omega) (by omega)
    next =>
      split at hb
      next =>
        simp only [List.mem_cons, List.not_mem_nil, or_false] at hb
        rcases hb with rfl | rfl | rfl <;> exact hhigh _ (by omega) (by omega)
      next =>
        simp only [List.mem_cons, List.not_mem_nil, or_false] at hb
        rcases hb with rfl | rfl | rfl | rfl <;> exact hhigh _ (by omega) (by omega)

/-- A character that is no control character has no control character among its bytes. -/
theorem le_of_mem_utf8EncodeChar {c : Char} (hc : 0x20 ≤ c.toNat) {b : UInt8}
    (hb : b ∈ String.utf8EncodeChar c) : 0x20 ≤ b.toNat := by
  apply Nat.not_lt.mp
  intro hlow
  have heq := (eq_of_mem_utf8EncodeChar hb (by omega)).2
  omega

theorem le_of_mem_utf8Bytes {s : String} (h : Printable s.toList) {b : UInt8}
    (hb : b ∈ utf8Bytes s) : 0x20 ≤ b.toNat := by
  rw [utf8Bytes_eq_flatMap] at hb
  obtain ⟨c, hc, hb⟩ := List.mem_flatMap.mp hb
  exact le_of_mem_utf8EncodeChar (h c hc) hb

theorem not_mem_utf8Bytes {s : String} (h : '\n' ∉ s.toList) : 10 ∉ utf8Bytes s := by
  intro hmem
  rw [utf8Bytes_eq_flatMap] at hmem
  obtain ⟨c, hc, hb⟩ := List.mem_flatMap.mp hmem
  have hnat := (eq_of_mem_utf8EncodeChar hb (by decide)).2
  have hfeed : c = '\n' := Char.toNat_inj.mp hnat
  exact h (hfeed ▸ hc)

/-- A text is made out from its bytes. -/
theorem fromUTF8?_utf8Bytes (s : String) : String.fromUTF8? ⟨(utf8Bytes s).toArray⟩ = some s := by
  have hbytes : (⟨(utf8Bytes s).toArray⟩ : ByteArray) = s.toByteArray := rfl
  rw [hbytes, String.fromUTF8?, dif_pos s.isValidUTF8]
  rfl

theorem fromUTF8?_eq_some_iff {bytes : List UInt8} {s : String} :
    String.fromUTF8? ⟨bytes.toArray⟩ = some s ↔ utf8Bytes s = bytes := by
  constructor
  · intro h
    unfold String.fromUTF8? at h
    split at h
    next hvalid =>
      obtain rfl := Option.some.inj h
      rfl
    next => simp at h
  · intro h
    subst h
    exact fromUTF8?_utf8Bytes s

namespace Stream

/-- The texts in order, each with a line feed after it. -/
def feedLines (texts : List String) : String :=
  String.join (texts.map (· ++ "\n"))

theorem utf8Bytes_feedLines_cons (text : String) (texts : List String) :
    utf8Bytes (feedLines (text :: texts)) =
      utf8Bytes text ++ 10 :: utf8Bytes (feedLines texts) := by
  have hfeed : utf8Bytes "\n" = [10] := by decide +kernel
  unfold feedLines
  rw [List.map_cons, String.join_cons, utf8Bytes_append, utf8Bytes_append, hfeed,
    List.append_assoc, List.singleton_append]

/-- Texts without line feeds are the lines of the text that they are written to, but for a carriage
return at the end. -/
theorem lines_feedLines_eq {texts : List String} (h : ∀ text ∈ texts, '\n' ∉ text.toList) :
    lines (utf8Bytes (feedLines texts)) = texts.map fun text => stripReturn (utf8Bytes text) := by
  induction texts with
  | nil => rfl
  | cons text texts ih =>
    obtain ⟨htext, hrest⟩ := List.forall_mem_cons.mp h
    rw [utf8Bytes_feedLines_cons, lines_append_feed (not_mem_utf8Bytes htext), ih hrest,
      List.map_cons]

theorem stripReturn_of_printable {text : String} (h : Printable text.toList) :
    stripReturn (utf8Bytes text) = utf8Bytes text := by
  apply if_neg
  intro hlast
  exact absurd (le_of_mem_utf8Bytes h (List.mem_of_getLast? hlast)) (by decide)

/-- Printable texts are the lines of the text that they are written to. -/
theorem lines_feedLines {texts : List String} (h : ∀ text ∈ texts, Printable text.toList) :
    lines (utf8Bytes (feedLines texts)) = texts.map utf8Bytes := by
  have hfeed : ∀ text ∈ texts, '\n' ∉ text.toList := fun text htext hmem =>
    absurd (h text htext '\n' hmem) (by decide)
  rw [lines_feedLines_eq hfeed]
  exact List.map_congr_left fun text htext => stripReturn_of_printable (h text htext)

theorem aligned_feedLines (texts : List String) : Aligned (utf8Bytes (feedLines texts)) := by
  induction texts with
  | nil => exact Or.inl rfl
  | cons text texts ih =>
    rw [utf8Bytes_feedLines_cons]
    exact aligned_feed ih (utf8Bytes text)

/-- There are as many line feeds as texts. -/
theorem count_feedLines {texts : List String} (h : ∀ text ∈ texts, Printable text.toList) :
    (utf8Bytes (feedLines texts)).count 10 = texts.length := by
  have hcount := length_lines (aligned_feedLines texts)
  rw [lines_feedLines h, List.length_map] at hcount
  exact hcount.symm

end Stream

end Outbound
