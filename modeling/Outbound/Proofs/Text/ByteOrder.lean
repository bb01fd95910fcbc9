import Outbound.Proofs.Stream.OutputLines

namespace Outbound

/-- How many bytes a character takes, and which. -/
theorem utf8EncodeChar_cases (c : Char) :
    (c.toNat < 0x80 ∧ String.utf8EncodeChar c = [.ofNat c.toNat]) ∨
    (0x80 ≤ c.toNat ∧ c.toNat < 0x800 ∧
      String.utf8EncodeChar c = [.ofNat (c.toNat / 64 % 32 + 192), .ofNat (c.toNat % 64 + 128)]) ∨
    (0x800 ≤ c.toNat ∧ c.toNat < 0x10000 ∧
      String.utf8EncodeChar c =
        [.ofNat (c.toNat / 4096 % 16 + 224), .ofNat (c.toNat / 64 % 64 + 128),
          .ofNat (c.toNat % 64 + 128)]) ∨
    (0x10000 ≤ c.toNat ∧ c.toNat < 0x110000 ∧
      String.utf8EncodeChar c =
        [.ofNat (c.toNat / 262144 % 8 + 240), .ofNat (c.toNat / 4096 % 64 + 128),
          .ofNat (c.toNat / 64 % 64 + 128), .ofNat (c.toNat % 64 + 128)]) := by
  have hmax : c.toNat < 0x110000 := by
    have hvalid : c.toNat < 0xD800 ∨ 0xDFFF < c.toNat ∧ c.toNat < 0x110000 := c.valid
    omega
  rw [String.utf8EncodeChar.eq_1]
  simp only [show c.val.toNat = c.toNat from rfl]
  by_cases h1 : c.toNat ≤ 127
  · exact .inl ⟨by omega, if_pos h1⟩
  · by_cases h2 : c.toNat ≤ 2047
    · exact .inr (.inl ⟨by omega, by omega, by rw [if_neg h1, if_pos h2]⟩)
    · by_cases h3 : c.toNat ≤ 65535
      · exact .inr (.inr (.inl ⟨by omega, by omega, by rw [if_neg h1, if_neg h2, if_pos h3]⟩))
      · exact .inr (.inr (.inr ⟨by omega, hmax, by rw [if_neg h1, if_neg h2, if_neg h3]⟩))

theorem uint8_ofNat_lt_iff {m n : Nat} (hm : m < 256) (hn : n < 256) :
    UInt8.ofNat m < UInt8.ofNat n ↔ m < n := by
  rw [UInt8.lt_iff_toNat_lt, UInt8.toNat_ofNat', UInt8.toNat_ofNat', Nat.mod_eq_of_lt hm,
    Nat.mod_eq_of_lt hn]

theorem uint8_ofNat_inj {m n : Nat} (hm : m < 256) (hn : n < 256) :
    UInt8.ofNat m = UInt8.ofNat n ↔ m = n := by
  rw [← UInt8.toNat_inj, UInt8.toNat_ofNat', UInt8.toNat_ofNat', Nat.mod_eq_of_lt hm,
    Nat.mod_eq_of_lt hn]

/-- The first byte in which two characters differ decides, so that it does not matter what stands
after them. -/
theorem utf8EncodeChar_append_lt {c d : Char} (h : c < d) (x y : List UInt8) :
    String.utf8EncodeChar c ++ x < String.utf8EncodeChar d ++ y := by
  have hlt : c.toNat < d.toNat := h
  -- the digits to the base 64, each from the one below it
  have h4096 (n : Nat) : n / 4096 = n / 64 / 64 := by rw [Nat.div_div_eq_div_mul]
  have h262144 (n : Nat) : n / 262144 = n / 64 / 64 / 64 := by
    rw [Nat.div_div_eq_div_mul, Nat.div_div_eq_div_mul]
  rcases utf8EncodeChar_cases c with ⟨hc, hx⟩ | ⟨_, hc, hx⟩ | ⟨_, hc, hx⟩ | ⟨_, hc, hx⟩ <;>
    rcases utf8EncodeChar_cases d with ⟨hd, hy⟩ | ⟨_, hd, hy⟩ | ⟨_, hd, hy⟩ | ⟨_, hd, hy⟩ <;>
    rw [hx, hy] <;>
    simp (disch := omega) only [h4096, h262144, List.cons_append, List.nil_append,
      List.cons_lt_cons_iff, uint8_ofNat_lt_iff, uint8_ofNat_inj] <;>
    omega

theorem append_lt_append_left {x y : List UInt8} (h : x < y) (bytes : List UInt8) :
    bytes ++ x < bytes ++ y := by
  induction bytes with
  | nil => exact h
  | cons b bytes ih => exact List.cons_lt_cons_iff.mpr (Or.inr ⟨rfl, ih⟩)

theorem flatMap_utf8EncodeChar_lt {s t : List Char} (h : s < t) :
    s.flatMap String.utf8EncodeChar < t.flatMap String.utf8EncodeChar := by
  induction s generalizing t with
  | nil =>
    cases t with
    | nil => exact absurd h (List.not_lt_nil [])
    | cons d t =>
      rcases utf8EncodeChar_cases d with ⟨_, hd⟩ | ⟨_, _, hd⟩ | ⟨_, _, hd⟩ | ⟨_, _, hd⟩ <;>
        simp [hd]
  | cons c s ih =>
    cases t with
    | nil => exact absurd h (List.not_lt_nil _)
    | cons d t =>
      rw [List.flatMap_cons, List.flatMap_cons]
      rcases List.cons_lt_cons_iff.mp h with hcd | ⟨rfl, hrest⟩
      · exact utf8EncodeChar_append_lt hcd _ _
      · exact append_lt_append_left (ih hrest) _

/-- Texts are ordered as their bytes are. -/
theorem utf8Bytes_lt_iff {s t : String} : utf8Bytes s < utf8Bytes t ↔ s < t := by
  have hlt : ∀ {s t : String}, s < t → utf8Bytes s < utf8Bytes t := by
    intro s t h
    rw [utf8Bytes_eq_flatMap, utf8Bytes_eq_flatMap]
    exact flatMap_utf8EncodeChar_lt h
  refine ⟨fun h => ?_, hlt⟩
  rcases Std.lt_trichotomy s t with hst | rfl | hts
  · exact hst
  · exact absurd h (List.lt_irrefl _)
  · exact absurd h (List.lt_asymm (hlt hts))

end Outbound
