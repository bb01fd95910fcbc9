import Outbound.Json.Record
import Outbound.Proofs.Json.Numeral
import Outbound.Proofs.Keyed

namespace Outbound

namespace Json

/-- The values that a text can stand for when arrays and objects are nested at most so deep: names
are in order, and integers have 64 bits. -/
inductive Canonical : Nat → Json → Prop
  | null {depth} : Canonical depth .null
  | bool {depth b} : Canonical depth (.bool b)
  | number {depth x} : (∀ n, x = .int n → Numeral.Exact n) → Canonical depth (.number x)
  | string {depth s} : Canonical depth (.string s)
  | array {depth items} : (∀ v ∈ items, Canonical depth v) → Canonical (depth + 1) (.array items)
  | object {depth members} : Increasing members → (∀ m ∈ members, Canonical depth m.2) →
      Canonical (depth + 1) (.object members)

/-- All numbers of a value are integers. -/
inductive Integral : Json → Prop
  | null : Integral .null
  | bool {b} : Integral (.bool b)
  | int {n} : Integral (.number (.int n))
  | string {s} : Integral (.string s)
  | array {items} : (∀ v ∈ items, Integral v) → Integral (.array items)
  | object {members} : (∀ m ∈ members, Integral m.2) → Integral (.object members)

end Json

namespace Parser

variable {α : Type} {item : Parser α} {close : Char} {P : α → Prop}

theorem forall_of_more (hitem : ∀ s a rest, item s = some (a, rest) → P a) {fuel : Nat}
    {s rest : List Char} {as : List α} (h : more item close fuel s = some (as, rest)) :
    ∀ a ∈ as, P a := by
  induction fuel generalizing s rest as with
  | zero => simp [more] at h
  | succ fuel ih =>
    simp only [more] at h
    split at h
    next => simp at h
    next c after hs =>
      by_cases hclose : c = close
      · rw [if_pos hclose] at h
        obtain ⟨rfl, _⟩ := Prod.mk.inj (Option.some.inj h)
        exact List.forall_mem_nil P
      · rw [if_neg hclose] at h
        split at h
        next =>
          obtain ⟨⟨a, middle⟩, ha, h⟩ := Option.bind_eq_some_iff.mp h
          obtain ⟨⟨others, last⟩, hothers, h⟩ := Option.bind_eq_some_iff.mp h
          obtain ⟨rfl, _⟩ := Prod.mk.inj (Option.some.inj h)
          exact List.forall_mem_cons.mpr ⟨hitem _ _ _ ha, ih hothers⟩
        next => simp at h

/-- What holds of each item that can be read holds of the items of a sequence. -/
theorem forall_of_sequence (hitem : ∀ s a rest, item s = some (a, rest) → P a)
    {s rest : List Char} {as : List α} (h : sequence item close s = some (as, rest)) :
    ∀ a ∈ as, P a := by
  unfold sequence at h
  split at h
  next => simp at h
  next c after hs =>
    by_cases hclose : c = close
    · rw [if_pos hclose] at h
      obtain ⟨rfl, _⟩ := Prod.mk.inj (Option.some.inj h)
      exact List.forall_mem_nil P
    · rw [if_neg hclose] at h
      obtain ⟨⟨a, middle⟩, ha, h⟩ := Option.bind_eq_some_iff.mp h
      obtain ⟨⟨others, last⟩, hothers, h⟩ := Option.bind_eq_some_iff.mp h
      obtain ⟨rfl, _⟩ := Prod.mk.inj (Option.some.inj h)
      exact List.forall_mem_cons.mpr ⟨hitem _ _ _ ha, forall_of_more hitem hothers⟩

/-- A member gives what is read after its colon. -/
theorem of_member {κ : Type} {name : Parser κ} {value : κ → Parser α}
    (hvalue : ∀ k s a rest, value k s = some (a, rest) → P a) {s rest : List Char} {a : α}
    (h : member name value s = some (a, rest)) : P a := by
  obtain ⟨⟨k, after⟩, _, h⟩ := Option.bind_eq_some_iff.mp h
  simp only at h
  split at h
  next => exact hvalue k _ _ _ h
  next => simp at h

theorem exists_of_document {p : Parser α} {s : List Char} {a : α} (h : document p s = some a) :
    ∃ rest, p s = some (a, rest) := by
  unfold document at h
  split at h
  next b rest hb =>
    split at h
    next => exact ⟨rest, by rw [hb, Option.some.inj h]⟩
    next => simp at h
  next => simp at h

theorem canonical_of_scalar {depth : Nat} {s rest : List Char} {v : Json}
    (h : scalar .full s = some (v, rest)) : Json.Canonical depth v := by
  unfold scalar at h
  split at h
  next => exact (Prod.mk.inj (Option.some.inj h)).1 ▸ .null
  next => exact (Prod.mk.inj (Option.some.inj h)).1 ▸ .bool
  next => exact (Prod.mk.inj (Option.some.inj h)).1 ▸ .bool
  next =>
    obtain ⟨⟨b, after⟩, _, h⟩ := Option.bind_eq_some_iff.mp h
    obtain ⟨w, hw, h⟩ := Option.bind_eq_some_iff.mp h
    obtain ⟨t, _, rfl⟩ := Option.map_eq_some_iff.mp hw
    exact (Prod.mk.inj (Option.some.inj h)).1 ▸ .string
  next =>
    obtain ⟨⟨numeral, after⟩, _, h⟩ := Option.bind_eq_some_iff.mp h
    obtain ⟨w, hw, h⟩ := Option.bind_eq_some_iff.mp h
    obtain ⟨x, hx, rfl⟩ := Option.map_eq_some_iff.mp hw
    have hexact : ∀ n, x = .int n → Numeral.Exact n := by
      intro n hn
      rw [hn] at hx
      exact Numeral.exact_of_value hx
    exact (Prod.mk.inj (Option.some.inj h)).1 ▸ .number hexact

/-- Every value that is read is canonical at the depth that it is read with. -/
theorem canonical_of_value {depth : Nat} {s rest : List Char} {v : Json}
    (h : value .full depth s = some (v, rest)) : Json.Canonical depth v := by
  induction depth generalizing s rest v with
  | zero => exact canonical_of_scalar h
  | succ depth ih =>
    simp only [value] at h
    split at h
    next =>
      obtain ⟨⟨items, after⟩, hitems, h⟩ := Option.bind_eq_some_iff.mp h
      have hcanonical := forall_of_sequence (fun _ _ _ hv => ih hv) hitems
      exact (Prod.mk.inj (Option.some.inj h)).1 ▸ .array hcanonical
    next =>
      obtain ⟨⟨members, after⟩, hmembers, h⟩ := Option.bind_eq_some_iff.mp h
      have hcanonical : ∀ m ∈ members, Json.Canonical depth m.2 := by
        apply forall_of_sequence (P := fun m => Json.Canonical depth m.2) _ hmembers
        intro s m rest hm
        apply of_member _ hm
        intro k s m rest hm
        obtain ⟨⟨w, after⟩, hw, hm⟩ := Option.bind_eq_some_iff.mp hm
        obtain ⟨rfl, _⟩ := Prod.mk.inj (Option.some.inj hm)
        exact ih hw
      have hobject : Json.Canonical (depth + 1) (Json.ofMembers members) :=
        .object (Keyed.ofList members).increasing
          fun m hm => hcanonical m (Keyed.mem_of_mem_ofList hm)
      exact (Prod.mk.inj (Option.some.inj h)).1 ▸ hobject
    next => exact canonical_of_scalar h

end Parser

namespace RecordField

variable {μ : Type} {fields : List (RecordField μ)} {P : μ → Prop}

theorem forall_of_readMore {ms : List μ} {s rest : List Char}
    (hfield : ∀ f ∈ fields, ∀ s m rest, f.read s = some (m, rest) → P m)
    (h : readMore fields s = some (ms, rest)) : ∀ m ∈ ms, P m := by
  induction fields generalizing s rest ms with
  | nil =>
    unfold readMore at h
    split at h
    next =>
      obtain ⟨rfl, _⟩ := Prod.mk.inj (Option.some.inj h)
      exact List.forall_mem_nil P
    next => simp at h
  | cons f fields ih =>
    unfold readMore at h
    split at h
    next =>
      obtain ⟨rfl, _⟩ := Prod.mk.inj (Option.some.inj h)
      exact List.forall_mem_nil P
    next =>
      obtain ⟨⟨m, after⟩, hm, h⟩ := Option.bind_eq_some_iff.mp h
      obtain ⟨⟨others, last⟩, hothers, h⟩ := Option.bind_eq_some_iff.mp h
      obtain ⟨rfl, _⟩ := Prod.mk.inj (Option.some.inj h)
      have hrest := ih (fun g hg => hfield g (List.mem_cons_of_mem f hg)) hothers
      exact List.forall_mem_cons.mpr ⟨hfield f List.mem_cons_self _ _ _ hm, hrest⟩
    next => simp at h

theorem forall_of_readItems {ms : List μ} {s rest : List Char}
    (hfield : ∀ f ∈ fields, ∀ s m rest, f.read s = some (m, rest) → P m)
    (h : readItems fields s = some (ms, rest)) : ∀ m ∈ ms, P m := by
  cases fields with
  | nil => exact forall_of_readMore hfield h
  | cons f fields =>
    simp only [readItems] at h
    split at h
    next =>
      obtain ⟨rfl, _⟩ := Prod.mk.inj (Option.some.inj h)
      exact List.forall_mem_nil P
    next =>
      obtain ⟨⟨m, after⟩, hm, h⟩ := Option.bind_eq_some_iff.mp h
      obtain ⟨⟨others, last⟩, hothers, h⟩ := Option.bind_eq_some_iff.mp h
      obtain ⟨rfl, _⟩ := Prod.mk.inj (Option.some.inj h)
      have hrest :=
        forall_of_readMore (fun g hg => hfield g (List.mem_cons_of_mem f hg)) hothers
      exact List.forall_mem_cons.mpr ⟨hfield f List.mem_cons_self _ _ _ hm, hrest⟩

theorem of_readMember {s rest : List Char} {m : μ}
    (hfield : ∀ f ∈ fields, ∀ s m rest, f.read s = some (m, rest) → P m)
    (h : readMember fields s = some (some m, rest)) : P m := by
  have hmember : ∀ (m? : Option μ) rest, readMember fields s = some (m?, rest) →
      ∀ m, m? = some m → P m := by
    intro m? rest h
    apply Parser.of_member (P := fun m? => ∀ m, m? = some m → P m) _ h
    intro name s m? rest h m hm
    subst hm
    simp only at h
    split at h
    next f hf =>
      obtain ⟨⟨n, after⟩, hn, h⟩ := Option.map_eq_some_iff.mp h
      obtain ⟨hm, _⟩ := Prod.mk.inj h
      exact Option.some.inj hm ▸ hfield f (List.mem_of_find?_eq_some hf) _ _ _ hn
    next =>
      obtain ⟨⟨_, after⟩, _, h⟩ := Option.map_eq_some_iff.mp h
      simp at h
  exact hmember (some m) rest h m rfl

/-- What holds of each part that a field can read holds of the parts of a record. -/
theorem forall_of_readRecord {ms : List μ} {s rest : List Char}
    (hfield : ∀ f ∈ fields, ∀ s m rest, f.read s = some (m, rest) → P m)
    (h : readRecord fields s = some (ms, rest)) : ∀ m ∈ ms, P m := by
  unfold readRecord at h
  split at h
  next =>
    obtain ⟨⟨parts, after⟩, hparts, h⟩ := Option.map_eq_some_iff.mp h
    obtain ⟨rfl, _⟩ := Prod.mk.inj h
    have hpart : ∀ m? ∈ parts, ∀ m, m? = some m → P m := by
      apply Parser.forall_of_sequence (P := fun m? => ∀ m, m? = some m → P m) _ hparts
      intro s m? rest hm m heq
      exact of_readMember hfield (heq ▸ hm)
    intro m hm
    obtain ⟨m?, hmem, heq⟩ := List.mem_filterMap.mp hm
    exact hpart m? hmem m heq
  next => exact forall_of_readItems hfield h
  next => simp at h

theorem exists_of_atMostOne {β : Type} {pick : μ → Option β} {parts : List μ} {b : β}
    (h : atMostOne pick parts = some (some b)) : ∃ part ∈ parts, pick part = some b := by
  apply List.mem_filterMap.mp
  unfold atMostOne at h
  split at h
  next => simp at h
  next only heq =>
    rw [heq, Option.some.inj (Option.some.inj h)]
    exact List.mem_singleton_self b
  next => simp at h

end RecordField

end Outbound
