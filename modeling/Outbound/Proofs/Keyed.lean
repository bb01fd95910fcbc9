import Mathlib.Data.List.Dedup
import Outbound.Keyed

namespace Outbound

theorem lookup_eq_some_iff {α : Type} {entries : List (String × α)} (h : Increasing entries)
    {k : String} {v : α} : entries.lookup k = some v ↔ (k, v) ∈ entries := by
  induction entries with
  | nil => simp
  | cons e rest ih =>
    obtain ⟨hfirst, hrest⟩ := List.pairwise_cons.mp h
    rw [lookup_cons_eq, List.mem_cons]
    by_cases hk : k = e.1
    · have hnot : (k, v) ∉ rest := by
        intro hmem
        have hlt := hfirst k (List.mem_map.mpr ⟨(k, v), hmem, rfl⟩)
        exact String.lt_irrefl k (hk ▸ hlt)
      simp only [hk, ↓reduceIte, Option.some.injEq, hk ▸ hnot, or_false]
      exact ⟨fun hv => by rw [← hv], fun he => by rw [← he]⟩
    · have hne : (k, v) ≠ e := fun he => hk (by rw [← he])
      simp only [hk, ↓reduceIte, hne, false_or]
      exact ih hrest

theorem nodup_keys {α : Type} {entries : List (String × α)} (h : Increasing entries) :
    (entries.map Prod.fst).Nodup := by
  apply List.Pairwise.imp _ h
  intro k l hlt heq
  exact String.lt_irrefl k (heq ▸ hlt)

/-- Entries in order are determined by what each key has. -/
theorem eq_of_lookup {α : Type} {entries others : List (String × α)} (h : Increasing entries)
    (h' : Increasing others) (hlookup : ∀ k, entries.lookup k = others.lookup k) :
    entries = others := by
  have hperm : entries.Perm others := by
    apply (List.perm_ext_iff_of_nodup (nodup_keys h).of_map (nodup_keys h').of_map).mpr
    intro e
    rw [← lookup_eq_some_iff h, ← lookup_eq_some_iff h', hlookup]
  apply List.Perm.eq_of_pairwise _ (List.pairwise_map.mp h) (List.pairwise_map.mp h') hperm
  intro e f _ _ hlt hgt
  exact absurd (String.lt_trans hlt hgt) (String.lt_irrefl e.1)

theorem mem_of_mem_insertEntry {α : Type} {k : String} {v : α} {e : String × α}
    {entries : List (String × α)} (h : e ∈ insertEntry k v entries) : e = (k, v) ∨ e ∈ entries := by
  induction entries with
  | nil => exact Or.inl (List.mem_singleton.mp h)
  | cons first rest ih =>
    unfold insertEntry at h
    split at h
    next => exact List.mem_cons.mp h
    next =>
      split at h
      next =>
        rcases List.mem_cons.mp h with he | he
        · exact Or.inl he
        · exact Or.inr (List.mem_cons_of_mem first he)
      next =>
        rcases List.mem_cons.mp h with he | he
        · exact Or.inr (he ▸ List.mem_cons_self)
        · exact (ih he).imp_right (List.mem_cons_of_mem first)

/-- A key above all others goes to the end. -/
theorem insertEntry_of_forall_lt {α : Type} {k : String} (v : α) {entries : List (String × α)}
    (h : ∀ x ∈ entries.map Prod.fst, x < k) : insertEntry k v entries = entries ++ [(k, v)] := by
  induction entries with
  | nil => rfl
  | cons e rest ih =>
    have he : e.1 < k := h e.1 List.mem_cons_self
    have hrest := ih fun x hx => h x (List.mem_cons_of_mem e.1 hx)
    have hnot : ¬ k < e.1 := fun hk => String.lt_irrefl k (String.lt_trans hk he)
    have hne : k ≠ e.1 := fun hk => String.lt_irrefl k (hk ▸ he)
    rw [insertEntry, if_neg hnot, if_neg hne, hrest, List.cons_append]

namespace Keyed

variable {α : Type}

theorem get?_eq_some_iff {m : Keyed α} {k : String} {v : α} :
    m.get? k = some v ↔ (k, v) ∈ m.entries :=
  lookup_eq_some_iff m.increasing

theorem contains_iff {m : Keyed α} {k : String} :
    m.contains k = true ↔ k ∈ m.entries.map Prod.fst := by
  unfold contains
  rw [Option.isSome_iff_exists, List.mem_map]
  constructor
  · intro h
    obtain ⟨v, hv⟩ := h
    exact ⟨(k, v), get?_eq_some_iff.mp hv, rfl⟩
  · intro h
    obtain ⟨⟨_, v⟩, hmem, rfl⟩ := h
    exact ⟨v, get?_eq_some_iff.mpr hmem⟩

theorem mem_of_mem_ofList {e : String × α} {entries : List (String × α)}
    (h : e ∈ (ofList entries).entries) : e ∈ entries := by
  have hfold : ∀ (rest : List (String × α)) (m : Keyed α),
      e ∈ (rest.foldl (fun m e => m.insert e.1 e.2) m).entries → e ∈ m.entries ∨ e ∈ rest := by
    intro rest
    induction rest with
    | nil => exact fun m hm => Or.inl hm
    | cons first rest ih =>
      intro m hm
      rcases ih (m.insert first.1 first.2) hm with hmem | hmem
      · rcases mem_of_mem_insertEntry hmem with he | he
        · exact Or.inr (he ▸ List.mem_cons_self)
        · exact Or.inl he
      · exact Or.inr (List.mem_cons_of_mem first hmem)
  rcases hfold entries empty h with hmem | hmem
  · exact absurd hmem List.not_mem_nil
  · exact hmem

/-- Of equal keys the last one counts. -/
theorem get?_ofList (entries : List (String × α)) (k : String) :
    (ofList entries).get? k = entries.reverse.lookup k := by
  have hfold : ∀ (rest : List (String × α)) (m : Keyed α),
      (rest.foldl (fun m e => m.insert e.1 e.2) m).get? k =
        (rest.reverse.lookup k).or (m.get? k) := by
    intro rest
    induction rest with
    | nil => exact fun m => rfl
    | cons e rest ih =>
      intro m
      rw [List.foldl_cons, ih, get?_insert, List.reverse_cons, List.lookup_append, lookup_cons_eq,
        Option.or_assoc]
      split <;> simp
  exact (hfold entries empty).trans Option.or_none

/-- Maps are equal where each key has the same in both. -/
theorem eq_of_get? {m m' : Keyed α} (h : ∀ k, m.get? k = m'.get? k) : m = m' := by
  have hentries : m.entries = m'.entries := eq_of_lookup m.increasing m'.increasing h
  cases m
  exact (mk.injEq ..).mpr hentries

/-- A map that has for each key what the last of the entries with that key has. -/
theorem ofList_eq {entries : List (String × α)} {m : Keyed α}
    (h : ∀ k, m.get? k = entries.reverse.lookup k) : ofList entries = m :=
  eq_of_get? fun k => (get?_ofList entries k).trans (h k).symm

/-- Insertions under different keys can change places. -/
theorem insert_comm {k l : String} (h : k ≠ l) (v w : α) (m : Keyed α) :
    (m.insert k v).insert l w = (m.insert l w).insert k v := by
  apply eq_of_get?
  intro x
  simp only [get?_insert]
  by_cases hk : x = k
  · simp [hk, h]
  · simp [hk]

theorem contains_ofList_iff {entries : List (String × α)} {k : String} :
    (ofList entries).contains k = true ↔ ∃ e ∈ entries, e.1 = k := by
  unfold contains
  rw [get?_ofList, List.lookup_isSome_iff]
  simp only [List.mem_reverse, beq_iff_eq, @eq_comm _ k]

/-- Each key counts once. -/
theorem size_ofList (entries : List (String × α)) :
    (ofList entries).size = (entries.map Prod.fst).dedup.length := by
  have hkeys : ((ofList entries).entries.map Prod.fst).Perm (entries.map Prod.fst).dedup := by
    apply (List.perm_ext_iff_of_nodup (nodup_keys (increasing _)) (List.nodup_dedup _)).mpr
    intro k
    rw [← contains_iff, contains_ofList_iff, List.mem_dedup, List.mem_map]
  rw [← hkeys.length_eq, List.length_map]
  rfl

theorem beq_iff [BEq α] [LawfulBEq α] {m m' : Keyed α} : (m == m') = true ↔ m = m' := by
  change (m.entries == m'.entries) = true ↔ _
  rw [beq_iff_eq]
  cases m
  cases m'
  exact (mk.injEq ..).symm.to_iff

/-- Entries that are in order already are kept as they are. -/
theorem entries_ofList {entries : List (String × α)} (h : Increasing entries) :
    (ofList entries).entries = entries := by
  have hfold : ∀ (rest : List (String × α)) (m : Keyed α), Increasing (m.entries ++ rest) →
      (rest.foldl (fun m e => m.insert e.1 e.2) m).entries = m.entries ++ rest := by
    intro rest
    induction rest with
    | nil => simp
    | cons first rest ih =>
      intro m hm
      have hlast : ∀ x ∈ m.entries.map Prod.fst, x < first.1 := by
        intro x hx
        unfold Increasing at hm
        rw [List.map_append, List.pairwise_append] at hm
        exact hm.2.2 x hx first.1 List.mem_cons_self
      have hinsert : (m.insert first.1 first.2).entries = m.entries ++ [first] :=
        insertEntry_of_forall_lt first.2 hlast
      have happend : (m.insert first.1 first.2).entries ++ rest = m.entries ++ first :: rest := by
        rw [hinsert, List.append_assoc, List.singleton_append]
      rw [List.foldl_cons, ih _ (happend ▸ hm), happend]
  exact hfold entries empty h

/-- Keys occur once, so that it does not matter from which end they are looked up. -/
theorem get?_eq_lookup_reverse (m : Keyed α) (k : String) :
    m.get? k = m.entries.reverse.lookup k := by
  rw [← get?_ofList, get?, get?, entries_ofList m.increasing]

end Keyed

end Outbound
