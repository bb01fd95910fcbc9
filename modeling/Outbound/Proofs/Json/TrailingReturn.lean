import Outbound.Proofs.Json.Local
import Outbound.Stream.Event

namespace Outbound

namespace Parser

variable {α β κ ν : Type} {item : Parser α}

theorem literal_eq : literal = dispatch fun c rest => if c = '"' then Literal.body rest else none := by
  funext s
  unfold literal dispatch
  split
  next h => simp [h]
  next h => cases hs : skipSpaces s <;> simp_all

theorem local_literal : Local literal := by
  rw [literal_eq]
  exact Literal.local_body.after '"'

theorem local_stringWith (decode : List Char → Option α) : Local (stringWith decode) :=
  local_literal.decode decode

theorem member_eq (name : Parser κ) (value : κ → Parser α) :
    member name value =
      name.andThen fun k => dispatch fun c rest => if c = ':' then value k rest else none := by
  funext s
  unfold member andThen dispatch
  congr 1
  funext x
  dsimp only
  split
  next h => simp [h]
  next h => cases hs : skipSpaces x.2 <;> simp_all

theorem local_member {name : Parser κ} {value : κ → Parser α} (hname : Local name)
    (hvalue : ∀ k, Local (value k)) : Local (member name value) := by
  rw [member_eq]
  exact hname.andThen fun k => (hvalue k).after ':'

theorem more_eq (item : Parser α) (close : Char) (fuel : Nat) :
    more item close (fuel + 1) = dispatch fun c rest =>
      if c = close then some ([], rest)
      else if c = ',' then
        item.andThen (fun a => (more item close fuel).andThen fun as => give (a :: as)) rest
      else none := rfl

theorem local_more (hitem : Local item) (close : Char) (fuel : Nat) :
    Local (more item close fuel) := by
  induction fuel with
  | zero => exact local_none
  | succ fuel ih =>
    have hitems := hitem.andThen fun a => ih.andThen fun as => local_give (a :: as)
    rw [more_eq]
    exact local_dispatch fun c => localAfter_ite (c = close) ((local_give []).localAfter c) <|
      localAfter_ite (c = ',') (hitems.localAfter c) (local_none.localAfter c)

theorem Local.length_le {p : Parser α} (hp : Local p) {s rest : List Char} {a : α}
    (h : p s = some (a, rest)) : rest.length ≤ s.length :=
  (hp.suffix h).length_le

theorem andThen_congr {p : Parser α} (hp : Local p) {q q' : α → Parser β} {s : List Char}
    (h : ∀ a rest, rest.length ≤ s.length → q a rest = q' a rest) :
    p.andThen q s = p.andThen q' s := by
  unfold andThen
  cases hread : p s with
  | none => rfl
  | some x => exact h x.1 x.2 (hp.length_le hread)

theorem andThen_congr_left {p p' : Parser α} (q : α → Parser β) {s : List Char} (h : p s = p' s) :
    p.andThen q s = p'.andThen q s := by
  unfold andThen
  rw [h]

theorem dispatch_congr {f g : Char → Parser α} {s : List Char}
    (h : ∀ c rest, rest.length < s.length → f c rest = g c rest) :
    dispatch f s = dispatch g s := by
  unfold dispatch
  cases hskip : skipSpaces s with
  | nil => rfl
  | cons c rest =>
    have hle := (skipSpaces_suffix s).length_le
    rw [hskip] at hle
    exact h c rest hle

/-- As much fuel as there is text is enough. -/
theorem more_succ (hitem : Local item) (close : Char) {fuel : Nat} {s : List Char}
    (h : s.length ≤ fuel) : more item close (fuel + 1) s = more item close fuel s := by
  induction fuel generalizing s with
  | zero =>
    obtain rfl := List.length_eq_zero_iff.mp (Nat.le_zero.mp h)
    rfl
  | succ fuel ih =>
    rw [more_eq item close (fuel + 1)]
    conv_rhs => rw [more_eq]
    apply dispatch_congr
    intro c rest hrest
    congr 2
    apply andThen_congr hitem
    intro a after hafter
    exact andThen_congr_left _ (ih (by omega))

theorem local_more_length (hitem : Local item) (close : Char) :
    Local fun s => more item close s.length s := by
  constructor
  · intro s as rest h
    exact (local_more hitem close s.length).suffix h
  · intro s
    rw [(local_more hitem close _).append_return, List.length_append, List.length_singleton,
      more_succ hitem close (Nat.le_refl _)]

theorem sequence_eq (item : Parser α) (close : Char) :
    sequence item close = dispatch fun c rest =>
      if c = close then some ([], rest)
      else item.andThen
        (fun a => andThen (fun s => more item close s.length s) fun as => give (a :: as))
        (c :: rest) := rfl

theorem local_sequence (hitem : Local item) (close : Char) : Local (sequence item close) := by
  have hitems := hitem.andThen fun a =>
    (local_more_length hitem close).andThen fun as => local_give (a :: as)
  rw [sequence_eq]
  exact local_dispatch fun c =>
    localAfter_ite (c = close) ((local_give []).localAfter c) (hitems.putBack c)

/-- A text without carriage returns that another one begins with, the return at the end of that
one left aside. -/
theorem exists_of_append_return (word : List Char) {s rest : List Char} (hword : '\r' ∉ word)
    (h : s ++ ['\r'] = word ++ rest) : ∃ middle, s = word ++ middle ∧ rest = middle ++ ['\r'] := by
  rcases List.append_eq_append_iff.mp h with ⟨left, hleft, hreturn⟩ | hmiddle
  · cases left with
    | nil => exact ⟨[], by simpa using hleft.symm, by simpa using hreturn.symm⟩
    | cons c left =>
      obtain ⟨rfl, _⟩ := List.cons.inj hreturn
      exact absurd (hleft ▸ List.mem_append_right s List.mem_cons_self) hword
  · exact hmiddle

section

variable (r : Reading κ ν)

theorem local_literalScalar :
    Local (andThen Literal.body fun b s => (r.string b).bind fun v => some (v, s)) :=
  Literal.local_body.decode r.string

theorem local_numeralScalar :
    Local (andThen Numeral.read fun n s => (r.number n).bind fun v => some (v, s)) :=
  Numeral.local_read.decode r.number

theorem local_scalar : Local (scalar r) := by
  constructor
  · intro s v rest h
    unfold scalar at h
    split at h
    next =>
      obtain ⟨_, rfl⟩ := Prod.mk.inj (Option.some.inj h)
      exact List.suffix_append ['n', 'u', 'l', 'l'] _
    next =>
      obtain ⟨_, rfl⟩ := Prod.mk.inj (Option.some.inj h)
      exact List.suffix_append ['t', 'r', 'u', 'e'] _
    next =>
      obtain ⟨_, rfl⟩ := Prod.mk.inj (Option.some.inj h)
      exact List.suffix_append ['f', 'a', 'l', 's', 'e'] _
    next => exact ((local_literalScalar r).suffix h).trans (List.suffix_cons _ _)
    next => exact (local_numeralScalar r).suffix h
  · intro s
    rw [scalar.eq_def r (s ++ ['\r'])]
    split
    next heq =>
      obtain ⟨middle, rfl, rfl⟩ :=
        exists_of_append_return ['n', 'u', 'l', 'l'] (by decide) heq
      rfl
    next heq =>
      obtain ⟨middle, rfl, rfl⟩ :=
        exists_of_append_return ['t', 'r', 'u', 'e'] (by decide) heq
      rfl
    next heq =>
      obtain ⟨middle, rfl, rfl⟩ :=
        exists_of_append_return ['f', 'a', 'l', 's', 'e'] (by decide) heq
      rfl
    next heq =>
      obtain ⟨middle, rfl, rfl⟩ := exists_of_append_return ['"'] (by decide) heq
      exact (local_literalScalar r).append_return middle
    next hnull htrue hfalse hquote =>
      have heq : scalar r s =
          andThen Numeral.read (fun n s => (r.number n).bind fun v => some (v, s)) s := by
        unfold scalar
        split
        next => exact absurd rfl (hnull _)
        next => exact absurd rfl (htrue _)
        next => exact absurd rfl (hfalse _)
        next => exact absurd rfl (hquote _)
        next => rfl
      rw [heq]
      exact (local_numeralScalar r).append_return s

/-- A value goes by its first character. -/
theorem value_succ_eq (depth : Nat) :
    value r (depth + 1) = dispatch fun c rest =>
      if c = '[' then (sequence (value r depth) ']').andThen (fun items => give (r.array items)) rest
      else if c = '\x7b' then
        (sequence (entry r depth) '\x7d').andThen (fun members => give (r.object members)) rest
      else scalar r (c :: rest) := by
  funext s
  rw [value]
  unfold dispatch
  beta_reduce
  cases skipSpaces s with
  | nil => rfl
  | cons c rest =>
    by_cases hsquare : c = '['
    · subst hsquare
      rfl
    · by_cases hcurly : c = '\x7b'
      · subst hcurly
        rfl
      · dsimp only
        rw [if_neg hsquare, if_neg hcurly]
        split
        next heq => exact absurd (List.cons.inj heq).1 hsquare
        next heq => exact absurd (List.cons.inj heq).1 hcurly
        next => rfl

theorem value_zero_eq : value r 0 = dispatch fun c rest => scalar r (c :: rest) := by
  funext s
  change scalar r (skipSpaces s) = _
  unfold dispatch
  cases skipSpaces s <;> rfl

theorem local_entry {depth : Nat} (h : Local (value r depth)) : Local (entry r depth) :=
  local_member (local_stringWith r.name) fun k => h.andThen fun v => local_give (k, v)

theorem local_value (depth : Nat) : Local (value r depth) := by
  have hscalar := local_scalar r
  induction depth with
  | zero =>
    rw [value_zero_eq]
    exact local_dispatch fun c => hscalar.putBack c
  | succ depth ih =>
    have hitems := (local_sequence ih ']').andThen fun items => local_give (r.array items)
    have hmembers := (local_sequence (local_entry r ih) '\x7d').andThen fun members =>
      local_give (r.object members)
    rw [value_succ_eq]
    exact local_dispatch fun c => localAfter_ite (c = '[') (hitems.localAfter c) <|
      localAfter_ite (c = '\x7b') (hmembers.localAfter c) (hscalar.putBack c)

end

section

variable {item' : Parser α} {n : Nat}

theorem more_congr (hitem : Local item) (h : ∀ s : List Char, s.length ≤ n → item' s = item s)
    (close : Char) (fuel : Nat) {s : List Char} (hs : s.length ≤ n) :
    more item' close fuel s = more item close fuel s := by
  induction fuel generalizing s with
  | zero => rfl
  | succ fuel ih =>
    rw [more_eq, more_eq]
    apply dispatch_congr
    intro c rest hrest
    congr 2
    rw [andThen_congr_left _ (h rest (by omega))]
    apply andThen_congr hitem
    intro a after hafter
    exact andThen_congr_left _ (ih (by omega))

/-- A sequence hands its items no longer texts than it is given. -/
theorem sequence_congr (hitem : Local item) (h : ∀ s : List Char, s.length ≤ n → item' s = item s)
    (close : Char) {s : List Char} (hs : s.length ≤ n) :
    sequence item' close s = sequence item close s := by
  rw [sequence_eq, sequence_eq]
  apply dispatch_congr
  intro c rest hrest
  congr 1
  have hlength : (c :: rest).length ≤ n := by
    rw [List.length_cons]
    omega
  rw [andThen_congr_left _ (h (c :: rest) hlength)]
  apply andThen_congr hitem
  intro a after hafter
  exact andThen_congr_left _ (more_congr hitem h close after.length (by omega))

end

section

variable (r : Reading κ ν)

theorem entry_succ {depth : Nat}
    (h : ∀ s : List Char, s.length ≤ depth → value r (depth + 1) s = value r depth s)
    {s : List Char} (hs : s.length ≤ depth) : entry r (depth + 1) s = entry r depth s := by
  unfold entry
  rw [member_eq, member_eq]
  apply andThen_congr (local_stringWith r.name)
  intro k after hafter
  apply dispatch_congr
  intro c rest hrest
  rw [h rest (by omega)]

/-- A text has no deeper nesting than it is long. -/
theorem value_succ {depth : Nat} {s : List Char} (hs : s.length ≤ depth) :
    value r (depth + 1) s = value r depth s := by
  induction depth generalizing s with
  | zero =>
    obtain rfl := List.length_eq_zero_iff.mp (Nat.le_zero.mp hs)
    rfl
  | succ depth ih =>
    rw [value_succ_eq]
    conv_rhs => rw [value_succ_eq]
    apply dispatch_congr
    intro c rest hrest
    have hlength : rest.length ≤ depth := by omega
    have hvalue : ∀ s : List Char, s.length ≤ depth → value r (depth + 1) s = value r depth s :=
      fun _ h => ih h
    have hentry : ∀ s : List Char, s.length ≤ depth → entry r (depth + 1) s = entry r depth s :=
      fun _ h => entry_succ r hvalue h
    have hitems := sequence_congr (local_value r depth) hvalue ']' hlength
    have hmembers := sequence_congr (local_entry r (local_value r depth)) hentry '\x7d' hlength
    rw [andThen_congr_left _ hitems, andThen_congr_left _ hmembers]

end

theorem local_skip : Local skip := by
  constructor
  · intro s u rest h
    exact (local_value Reading.skim s.length).suffix h
  · intro s
    unfold skip
    rw [(local_value Reading.skim _).append_return, List.length_append, List.length_singleton,
      value_succ Reading.skim (Nat.le_refl _)]

/-- A carriage return at the end of a document is among the spaces around it. -/
theorem document_append_return {p : Parser α} (hp : Local p) (s : List Char) :
    document p (s ++ ['\r']) = document p s := by
  unfold document
  rw [hp.append_return]
  cases p s with
  | none => rfl
  | some x =>
    have hrest : (skipSpaces (x.2 ++ ['\r'])).isEmpty = (skipSpaces x.2).isEmpty := by
      rw [skipSpaces_append_return]
      cases skipSpaces x.2 <;> rfl
    simp only [Option.map_some, leaveReturn, hrest]

end Parser

namespace RecordField

open Outbound.Parser (Local leaveReturn skipSpaces)

variable {μ : Type} {fields : List (RecordField μ)}

theorem local_readMember (h : ∀ f ∈ fields, Local f.read) : Local (readMember fields) := by
  apply Parser.local_member (Parser.local_stringWith Literal.decode)
  intro name
  cases hfind : fields.find? (fun f => f.name == name) with
  | none => exact Parser.local_skip.map fun _ => none
  | some f => exact (h f (List.mem_of_find?_eq_some hfind)).map some

theorem readMore_nil_eq : readMore ([] : List (RecordField μ)) =
    Parser.dispatch fun c rest => if c = ']' then some ([], rest) else none := by
  funext s
  rw [readMore]
  unfold Parser.dispatch
  split
  next hs => simp [hs]
  next hs => cases hskip : skipSpaces s <;> simp_all

theorem readMore_cons_eq (f : RecordField μ) (fields : List (RecordField μ)) :
    readMore (f :: fields) = Parser.dispatch fun c rest =>
      if c = ']' then some ([], rest)
      else if c = ',' then
        f.read.andThen (fun m => Parser.andThen (readMore fields) fun ms => Parser.give (m :: ms)) rest
      else none := by
  funext s
  rw [readMore]
  unfold Parser.dispatch
  split
  next hs => simp [hs]
  next hs =>
    rw [hs]
    rfl
  next hs => cases hskip : skipSpaces s <;> simp_all

theorem local_readMore (h : ∀ f ∈ fields, Local f.read) : Local (readMore fields) := by
  induction fields with
  | nil =>
    rw [readMore_nil_eq]
    exact (Parser.local_give []).after ']'
  | cons f fields ih =>
    obtain ⟨hf, hfields⟩ := List.forall_mem_cons.mp h
    have hrest := hf.andThen fun m => (ih hfields).andThen fun ms => Parser.local_give (m :: ms)
    rw [readMore_cons_eq]
    exact Parser.local_dispatch fun c =>
      Parser.localAfter_ite (c = ']') ((Parser.local_give []).localAfter c) <|
        Parser.localAfter_ite (c = ',') (hrest.localAfter c) (Parser.local_none.localAfter c)

theorem readItems_cons_eq {f : RecordField μ} (hnil : f.read [] = none)
    (fields : List (RecordField μ)) :
    readItems (f :: fields) = Parser.dispatch fun c rest =>
      if c = ']' then some ([], rest)
      else f.read.andThen
        (fun m => Parser.andThen (readMore fields) fun ms => Parser.give (m :: ms)) (c :: rest) := by
  funext s
  rw [readItems]
  unfold Parser.dispatch
  split
  next hs => simp [hs]
  next hs =>
    cases hskip : skipSpaces s with
    | nil => simp [hnil]
    | cons c rest =>
      have hc : c ≠ ']' := fun heq => hs rest (by rw [hskip, heq])
      dsimp only
      rw [if_neg hc]
      rfl

theorem local_readItems (h : ∀ f ∈ fields, Local f.read) (hnil : ∀ f ∈ fields, f.read [] = none) :
    Local (readItems fields) := by
  cases fields with
  | nil => exact local_readMore h
  | cons f fields =>
    obtain ⟨hf, hfields⟩ := List.forall_mem_cons.mp h
    have hitems := hf.andThen fun m =>
      (local_readMore hfields).andThen fun ms => Parser.local_give (m :: ms)
    rw [readItems_cons_eq (hnil f List.mem_cons_self)]
    exact Parser.local_dispatch fun c => Parser.localAfter_ite (c = ']')
      ((Parser.local_give []).localAfter c) (hitems.putBack c)

theorem readRecord_eq (fields : List (RecordField μ)) :
    readRecord fields = Parser.dispatch fun c rest =>
      if c = '\x7b' then
        (Parser.sequence (readMember fields) '\x7d' rest).map fun x => (x.1.filterMap id, x.2)
      else if c = '[' then readItems fields rest
      else none := by
  funext s
  unfold readRecord Parser.dispatch
  split
  next hs => simp [hs]
  next hs => simp [hs]
  next => cases hskip : skipSpaces s <;> simp_all

theorem local_readRecord (h : ∀ f ∈ fields, Local f.read)
    (hnil : ∀ f ∈ fields, f.read [] = none) : Local (readRecord fields) := by
  have hmembers := (Parser.local_sequence (local_readMember h) '\x7d').map
    fun ms => ms.filterMap id
  rw [readRecord_eq]
  exact Parser.local_dispatch fun c =>
    Parser.localAfter_ite (c = '\x7b') (hmembers.localAfter c) <|
      Parser.localAfter_ite (c = '[') ((local_readItems h hnil).localAfter c)
        (Parser.local_none.localAfter c)

end RecordField

namespace StreamEvent

theorem local_fields : ∀ f ∈ fields, f.read.Local := by
  intro f hf
  rcases List.mem_cons.mp hf with rfl | hf
  · exact (Parser.local_stringWith Literal.decode).map Part.type
  · obtain rfl := List.mem_singleton.mp hf
    exact (Parser.local_value .full (Json.maxDepth - 1)).map Part.body

/-- A carriage return after an event is skipped with the spaces there. -/
theorem parse?_append_return (s : String) : parse? (s ++ "\r") = parse? s := by
  have hnil : ∀ f ∈ fields, f.read [] = none := by
    intro f hf
    rcases List.mem_cons.mp hf with rfl | hf
    · rfl
    · obtain rfl := List.mem_singleton.mp hf
      rfl
  have hread := Parser.document_append_return
    (RecordField.local_readRecord local_fields hnil) s.toList
  have htext : (s ++ "\r").toList = s.toList ++ ['\r'] := String.toList_append
  unfold parse?
  rw [htext, hread]

end StreamEvent

end Outbound
