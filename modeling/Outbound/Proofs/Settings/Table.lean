import Outbound.Proofs.Route.Priority
import Outbound.Proofs.Settings.SettingsText

namespace Outbound

namespace RouteTable

/-- Declares types with their routes one after another, starting from nothing. -/
def declareAll (calls : List (String × String)) : RouteTable :=
  calls.foldl (fun table call => table.insert call.1 call.2) .empty

/-- The last call for the name comes with this route. -/
def DeclaresLast (calls : List (String × String)) (name route : String) : Prop :=
  ∃ before after, calls = before ++ (name, route) :: after ∧ ∀ call ∈ after, call.1 ≠ name

section

variable {calls others : List (String × String)} {name route : String} {e : Event}

theorem declareAll_eq_ofList (calls : List (String × String)) :
    declareAll calls = Keyed.ofList calls := rfl

theorem get?_declareAll_iff :
    (declareAll calls).get? name = some route ↔ DeclaresLast calls name route := by
  rw [declareAll_eq_ofList, Keyed.get?_ofList, List.lookup_eq_some_iff]
  constructor
  · intro h
    obtain ⟨after, before, hcalls, hafter⟩ := h
    refine ⟨before.reverse, after.reverse, ?_, fun call hcall => ?_⟩
    · rw [List.reverse_eq_iff.mp hcalls]
      simp
    · exact (bne_iff_ne.mp (hafter call (List.mem_reverse.mp hcall))).symm
  · intro h
    obtain ⟨before, after, rfl, hafter⟩ := h
    refine ⟨after.reverse, before.reverse, by simp, fun call hcall => ?_⟩
    exact bne_iff_ne.mpr (hafter call (List.mem_reverse.mp hcall)).symm

theorem covers_declareAll_iff :
    ((RouteSource.table (declareAll calls)).covers e).value = true ↔
      ∃ call ∈ calls, call.1 = e.type.name :=
  Keyed.contains_ofList_iff

theorem routeOf_declareAll_iff :
    ((RouteSource.table (declareAll calls)).routeOf e).value = some route ↔
      DeclaresLast calls e.type.name route ∧ isBlank route = false := by
  rw [RouteSource.value_routeOf_table, Option.bind_eq_some_iff]
  constructor
  · intro h
    obtain ⟨listed, hget, hlisted⟩ := h
    obtain ⟨hblank, rfl⟩ := unlessBlank_eq_some_iff.mp hlisted
    exact ⟨get?_declareAll_iff.mp hget, hblank⟩
  · intro h
    obtain ⟨hlast, hblank⟩ := h
    exact ⟨route, get?_declareAll_iff.mpr hlast, unlessBlank_eq_some_iff.mpr ⟨hblank, rfl⟩⟩

/-- A blank route that is declared last withdraws the others, and leaves the type declared. -/
theorem coversBlank_declareAll (h : DeclaresLast calls e.type.name route)
    (hblank : isBlank route = true) : (RouteSource.table (declareAll calls)).CoversBlank e :=
  .table (get?_declareAll_iff.mpr h) hblank

theorem declareAll_eq_iff :
    declareAll calls = declareAll others ↔
      ∀ name route, DeclaresLast calls name route ↔ DeclaresLast others name route := by
  simp only [← get?_declareAll_iff]
  constructor
  · intro h name route
    rw [h]
  · intro h
    apply Keyed.eq_of_get?
    intro name
    exact Option.ext (h name)

theorem declareAll_swap {a b : String × String} (h : a.1 ≠ b.1)
    (before after : List (String × String)) :
    declareAll (before ++ a :: b :: after) = declareAll (before ++ b :: a :: after) := by
  simp only [declareAll, List.foldl_append, List.foldl_cons, Keyed.insert_comm h]

theorem size_declareAll_eq_zero_iff : (declareAll calls).size = 0 ↔ calls = [] := by
  rw [declareAll_eq_ofList, Keyed.size_ofList, List.length_eq_zero_iff, List.dedup_eq_nil,
    List.map_eq_nil_iff]

end

end RouteTable

namespace Settings

open Outbound.Source (under)

/-- The parts are those of settings with these namespaces and with an object that has these
declarations, in this order. -/
structure ListsCalls (parts : List (String × Source)) (roots : List String)
    (calls : List (String × String)) : Prop where
  namespaces : (under "namespaces" parts = [] ∧ roots = []) ∨
    ∃ x, under "namespaces" parts = [x] ∧ x.Denotes (.array (roots.map .string))
  declarations : ∃ gap members, under "declarations" parts = [.object gap members] ∧
    List.Forall₂ (fun s call => Literal.Spells s.item.name call.1.toList ∧
      s.item.value.Denotes (.string call.2)) members calls

theorem ListsCalls.writtenIn {parts : List (String × Source)} {roots : List String}
    {calls : List (String × String)} (h : ListsCalls parts roots calls) :
    WrittenIn ⟨roots, RouteTable.declareAll calls⟩ parts := by
  obtain ⟨gap, members, hunder, hcalls⟩ := h.declarations
  exact ⟨h.namespaces, Or.inr ⟨_, hunder, .object hcalls (Keyed.get?_ofList calls)⟩⟩

theorem ofText_of_listsCalls {t : Source} {parts : List (String × Source)} {roots : List String}
    {calls : List (String × String)} (ht : t.Parts ["namespaces", "declarations"] parts)
    (h : ListsCalls parts roots calls) (before after : Gap) :
    ofText (String.ofList (before.chars ++ (t.text ++ after.chars))) =
      .ok ⟨roots, RouteTable.declareAll calls⟩ := by
  apply ofText_eq_ok_iff.mpr
  exact (parse?_eq_some_iff_of_parts ht before after).mpr h.writtenIn

end Settings

namespace RouteTable

/-- A table is what its declarations say last. It covers the types that were declared, and routes
them as the last declaration says, unless that is blank. Each type counts once, and equal tables are
those with the same last routes, so that declarations of different types can change places. Settings
that list the declarations in this order come to the same table. -/
theorem declareAll_last_wins (calls : List (String × String)) :
    (∀ e, ((RouteSource.table (declareAll calls)).covers e).value = true ↔
      ∃ call ∈ calls, call.1 = e.type.name) ∧
    (∀ e route, ((RouteSource.table (declareAll calls)).routeOf e).value = some route ↔
      DeclaresLast calls e.type.name route ∧ isBlank route = false) ∧
    (∀ e route, DeclaresLast calls e.type.name route → isBlank route = true →
      ((RouteSource.table (declareAll calls)).covers e).value = true ∧
      ((RouteSource.table (declareAll calls)).routeOf e).value = none) ∧
    (declareAll calls).size = (calls.map Prod.fst).dedup.length ∧
    ((declareAll calls).size = 0 ↔ calls = []) ∧
    (∀ others, ((declareAll calls == declareAll others) = true ↔
        declareAll calls = declareAll others) ∧
      (declareAll calls = declareAll others ↔
        ∀ name route, DeclaresLast calls name route ↔ DeclaresLast others name route)) ∧
    (∀ before a b after, calls = before ++ a :: b :: after → a.1 ≠ b.1 →
      declareAll calls = declareAll (before ++ b :: a :: after)) ∧
    (∀ (t : Source) parts roots, t.Parts ["namespaces", "declarations"] parts →
      Settings.ListsCalls parts roots calls → ∀ before after : Gap, ∃ s : Settings,
        Settings.ofText (String.ofList (before.chars ++ (t.text ++ after.chars))) = .ok s ∧
        s.declarations = declareAll calls ∧
        s.registry = Registry.standard.add (.table (declareAll calls))) := by
  refine ⟨fun e => covers_declareAll_iff, fun e route => routeOf_declareAll_iff, ?_,
    Keyed.size_ofList calls, size_declareAll_eq_zero_iff, fun others => ?_, ?_, ?_⟩
  · intro e route hlast hblank
    have hcovers := coversBlank_declareAll hlast hblank
    exact ⟨RouteSource.covers_of_coversBlank hcovers, RouteSource.routeOf_of_coversBlank hcovers⟩
  · exact ⟨Keyed.beq_iff, declareAll_eq_iff⟩
  · intro before a b after hcalls hne
    rw [hcalls]
    exact declareAll_swap hne before after
  · intro t parts roots ht h before after
    exact ⟨_, Settings.ofText_of_listsCalls ht h before after, rfl, rfl⟩

/-- A route, a type without one, and the route withdrawn. -/
def withdrawn : List (String × String) :=
  [("Q", "q"), ("P", ""), ("Q", " ")]

theorem plain_declarations : "declarations".toList.all Glyph.isPlain = true := rfl

/-- `{"declarations":{"Q":"q","P":"","Q":" "}}` -/
def withdrawnSource : Source :=
  .object .none
    [⟨.none, ⟨Glyph.verbatim "declarations" plain_declarations, .none, .none, .object .none
      [⟨.none, ⟨Glyph.verbatim "Q" rfl, .none, .none, .string (Glyph.verbatim "q" rfl)⟩, .none⟩,
      ⟨.none, ⟨Glyph.verbatim "P" rfl, .none, .none, .string (Glyph.verbatim "" rfl)⟩, .none⟩,
      ⟨.none, ⟨Glyph.verbatim "Q" rfl, .none, .none, .string (Glyph.verbatim " " rfl)⟩, .none⟩]⟩,
      .none⟩]

theorem listsCalls_withdrawn : ∃ parts,
    withdrawnSource.Parts ["namespaces", "declarations"] parts ∧
      Settings.ListsCalls parts [] withdrawn := by
  refine ⟨_, @Source.Parts.object _ _ _ ["declarations"]
    (.cons (Literal.spells_verbatim rfl) .nil), Or.inl ⟨by simp [Source.under], rfl⟩,
    _, _, by simp [Source.under]; exact ⟨rfl, rfl⟩, ?_⟩
  exact .cons ⟨Literal.spells_verbatim rfl, .string (Literal.spells_verbatim rfl)⟩
    (.cons ⟨Literal.spells_verbatim rfl, .string (Literal.spells_verbatim rfl)⟩
      (.cons ⟨Literal.spells_verbatim rfl, .string (Literal.spells_verbatim rfl)⟩ .nil))

/-- An event of the type whose route is withdrawn. -/
def eventOfQ : Event :=
  ⟨.bool true, ⟨"Q"⟩, "bool", []⟩

/-- The type is still declared when its route is withdrawn, and counts once. -/
theorem declareAll_last_wins_withdrawn :
    ((RouteSource.table (declareAll withdrawn)).covers eventOfQ).value = true ∧
    ((RouteSource.table (declareAll withdrawn)).routeOf eventOfQ).value = none ∧
    (declareAll withdrawn).size = 2 ∧
    declareAll withdrawn = declareAll [("P", ""), ("Q", "q"), ("Q", " ")] ∧
    ∃ s : Settings, Settings.ofText
        "\x7b\"declarations\":\x7b\"Q\":\"q\",\"P\":\"\",\"Q\":\" \"\x7d\x7d" = .ok s ∧
      s.declarations = declareAll withdrawn := by
  obtain ⟨_, _, hwithdrawn, hsize, _, _, hswap, hsettings⟩ := declareAll_last_wins withdrawn
  have hlast : DeclaresLast withdrawn "Q" " " := ⟨[("Q", "q"), ("P", "")], [], rfl, by simp⟩
  obtain ⟨hcovers, hroute⟩ := hwithdrawn eventOfQ " " hlast (by decide +kernel)
  obtain ⟨parts, hparts, hcalls⟩ := listsCalls_withdrawn
  obtain ⟨s, hs, htable, _⟩ := hsettings withdrawnSource parts [] hparts hcalls .none .none
  have htext : String.ofList (Gap.none.chars ++ (withdrawnSource.text ++ Gap.none.chars)) =
      "\x7b\"declarations\":\x7b\"Q\":\"q\",\"P\":\"\",\"Q\":\" \"\x7d\x7d" := by decide +kernel
  refine ⟨hcovers, hroute, ?_, ?_, s, htext ▸ hs, htable⟩
  · rw [hsize]
    decide +kernel
  · exact hswap [] ("Q", "q") ("P", "") [("Q", " ")] rfl (by decide)

end RouteTable

end Outbound
