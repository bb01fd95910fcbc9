import Outbound.Proofs.Json.RoundTrip
import Outbound.Proofs.Stream.OutputLines
import Outbound.Proofs.Stream.Transcript

namespace Outbound

namespace StreamEvent

theorem canonical_part {s : String} {parts : List Part}
    (h : Parser.document (RecordField.readRecord fields) s.toList = some parts) :
    ∀ part ∈ parts, ∀ v, part.body? = some v → v.Canonical (Json.maxDepth - 1) := by
  obtain ⟨after, hrecord⟩ := Parser.exists_of_document h
  apply RecordField.forall_of_readRecord
    (P := fun part => ∀ v, part.body? = some v → v.Canonical (Json.maxDepth - 1)) _ hrecord
  intro f hf s part rest hread v hv
  simp only [fields, List.mem_cons, List.not_mem_nil, or_false] at hf
  rcases hf with rfl | rfl
  · obtain ⟨⟨name, after⟩, _, hread⟩ := Option.map_eq_some_iff.mp hread
    obtain ⟨rfl, _⟩ := Prod.mk.inj hread
    simp [Part.body?] at hv
  · obtain ⟨⟨w, after⟩, hw, hread⟩ := Option.map_eq_some_iff.mp hread
    obtain ⟨rfl, _⟩ := Prod.mk.inj hread
    obtain rfl := Option.some.inj hv
    exact Parser.canonical_of_value hw

/-- The body of an event that is read leaves one level of nesting for a record around it. -/
theorem canonical_body {s : String} {event : StreamEvent} (h : parse? s = some event) :
    event.body.Canonical (Json.maxDepth - 1) := by
  obtain ⟨parts, hparts, h⟩ := Option.bind_eq_some_iff.mp h
  obtain ⟨typeName?, _, h⟩ := Option.bind_eq_some_iff.mp h
  obtain ⟨body?, hbody, h⟩ := Option.bind_eq_some_iff.mp h
  obtain ⟨typeName, _, h⟩ := Option.bind_eq_some_iff.mp h
  obtain rfl := Option.some.inj h
  cases body? with
  | none => exact .null
  | some v =>
    obtain ⟨part, hmem, hpart⟩ := RecordField.exists_of_atMostOne hbody
    exact canonical_part hparts part hmem v hpart

end StreamEvent

namespace Sink

/-- The text of a record: an object with two members, and nothing besides. -/
theorem render_jsonRecord (d : Destination) (body : Json) :
    (jsonRecord d body).render =
      "\x7b\"payload\":" ++ body.render ++ ",\"target\":" ++ (Json.string d.text).render ++
        "\x7d" := by
  apply String.toList_injective
  have hpayload : Json.writeString "payload" = "\"payload\"".toList := by decide +kernel
  have htarget : Json.writeString "target" = "\"target\"".toList := by decide +kernel
  simp [jsonRecord, Json.render, Json.write, Json.writeMembers, Json.commaSeparated,
    Destination.toJson, hpayload, htarget]

theorem printable_jsonRecord (d : Destination) (body : Json) :
    Printable (jsonRecord d body).render.toList := by
  rw [Json.render, String.toList_ofList]
  exact Json.printable_write _

/-- A record nests one level deeper than its payload, and is read back. -/
theorem parse?_jsonRecord (d : Destination) {body : Json}
    (hbody : body.Canonical (Json.maxDepth - 1)) (hint : body.Integral) :
    Json.parse? (jsonRecord d body).render = some (jsonRecord d body) := by
  apply Json.parse?_render
  · have hlt : "payload" < "target" := by decide +kernel
    have hnames : Increasing [("payload", body), ("target", d.toJson)] := by
      refine List.pairwise_cons.mpr ⟨?_, List.pairwise_singleton _ _⟩
      intro x hx
      rw [List.mem_singleton.mp hx]
      exact hlt
    apply Json.Canonical.object hnames
    intro m hm
    simp only [List.mem_cons, List.not_mem_nil, or_false] at hm
    rcases hm with rfl | rfl
    · exact hbody
    · exact .string
  · apply Json.Integral.object
    intro m hm
    simp only [List.mem_cons, List.not_mem_nil, or_false] at hm
    rcases hm with rfl | rfl
    · exact hint
    · exact .string

end Sink

namespace Stream

/-- The text is the record of the event under the policy. -/
def IsRecord (c : Policy) (event : StreamEvent) (text : String) : Prop :=
  ∃ d, (c.destination (.raised event.toEvent)).run.value = .ok d ∧
    text = (Sink.jsonRecord d event.body).render ∧
    event.body.Canonical (Json.maxDepth - 1)

theorem printable_of_recorded {c : Policy} {accepted : List StreamEvent} {records : List String}
    (h : List.Forall₂ (IsRecord c) accepted records) :
    ∀ record ∈ records, Printable record.toList := by
  induction h with
  | nil => simp
  | cons hrecord _ ih =>
    obtain ⟨d, _, rfl, _⟩ := hrecord
    exact List.forall_mem_cons.mpr ⟨Sink.printable_jsonRecord d _, ih⟩

/-- What a run over the given lines amounts to: their texts, the events on those that are not
blank, and the records of those that the policy accepts. -/
structure Account (c : Policy) (rest : List (List UInt8)) (texts : List String)
    (events : List StreamEvent) (records : List String) (tally : Tally) (output : String) :
    Prop where
  decoded : rest.map (fun line => String.fromUTF8? ⟨line.toArray⟩) = texts.map some
  parsed : (texts.filter fun s => !isBlank s).map StreamEvent.parse? = events.map some
  recorded : List.Forall₂ (IsRecord c)
    (events.filter fun event => (c.accepts event.toEvent).value) records
  counted : tally.events = events.length
  delivered : tally.delivered = records.length
  written : output = feedLines records

namespace Account

variable {c : Policy}

theorem nil : Account c [] [] [] [] ⟨0, 0⟩ "" :=
  ⟨rfl, rfl, .nil, rfl, rfl, rfl⟩

theorem append {first second : List (List UInt8)} {texts texts' : List String}
    {events events' : List StreamEvent} {records records' : List String} {tally tally' : Tally}
    {output output' : String} (h : Account c first texts events records tally output)
    (h' : Account c second texts' events' records' tally' output') :
    Account c (first ++ second) (texts ++ texts') (events ++ events') (records ++ records')
      (tally.plus tally') (output ++ output') := by
  constructor
  · rw [List.map_append, h.decoded, h'.decoded, List.map_append]
  · rw [List.filter_append, List.map_append, h.parsed, h'.parsed, List.map_append]
  · rw [List.filter_append]
    exact List.rel_append h.recorded h'.recorded
  · simp [Tally.plus, h.counted, h'.counted]
  · simp [Tally.plus, h.delivered, h'.delivered]
  · rw [h.written, h'.written]
    simp [feedLines, String.join_append]

end Account

variable {c : Policy} {number : Nat}

/-- What one line adds to the account. -/
theorem account_of_effect {line : List UInt8} {tally : Tally} {output : String}
    (h : effect c number line = .ok (tally, output)) :
    ∃ texts events records, Account c [line] texts events records tally output := by
  cases hs : String.fromUTF8? ⟨line.toArray⟩ with
  | none => simp [effect, readLine, hs] at h
  | some s =>
    by_cases hblank : isBlank s
    · have heq : (⟨0, 0⟩, "") = (tally, output) := by
        simpa [effect, readLine, hs, hblank] using h
      obtain ⟨rfl, rfl⟩ := Prod.mk.inj heq
      exact ⟨[s], [], [], by simp [hs], by simp [hblank], .nil, rfl, rfl, rfl⟩
    · cases hparse : StreamEvent.parse? s with
      | none => simp [effect, readLine, hs, hblank, hparse] at h
      | some event =>
        by_cases ha : (c.accepts event.toEvent).value
        · cases hd : (c.destination (.raised event.toEvent)).run.value with
          | error e => simp [effect, readLine, hs, hblank, hparse, ha, hd] at h
          | ok d =>
            have heq : (⟨1, 1⟩, outputLine d event.body) = (tally, output) := by
              simpa [effect, readLine, hs, hblank, hparse, ha, hd] using h
            obtain ⟨rfl, rfl⟩ := Prod.mk.inj heq
            have hrecord : IsRecord c event (Sink.jsonRecord d event.body).render :=
              ⟨d, hd, rfl, StreamEvent.canonical_body hparse⟩
            refine ⟨[s], [event], [(Sink.jsonRecord d event.body).render], by simp [hs],
              by simp [hblank, hparse], ?_, rfl, rfl, ?_⟩
            · simpa [ha] using hrecord
            · simp [feedLines, outputLine]
        · have heq : (⟨1, 0⟩, "") = (tally, output) := by
            simpa [effect, readLine, hs, hblank, hparse, ha] using h
          obtain ⟨rfl, rfl⟩ := Prod.mk.inj heq
          exact ⟨[s], [event], [], by simp [hs], by simp [hblank, hparse], by simp [ha], rfl, rfl,
            rfl⟩

theorem account_of_transcript {rest : List (List UInt8)} {tally : Tally}
    (h : (transcript c number rest).2 = .ok tally) :
    ∃ texts events records,
      Account c rest texts events records tally (transcript c number rest).1 := by
  induction rest generalizing number tally with
  | nil =>
    obtain rfl := Except.ok.inj h
    exact ⟨[], [], [], .nil⟩
  | cons line rest ih =>
    unfold transcript at h ⊢
    cases he : effect c number line with
    | error e => simp [he] at h
    | ok more =>
      obtain ⟨first, text⟩ := more
      simp only [he] at h ⊢
      cases hrest : (transcript c (number + 1) rest).2 with
      | error e => simp [hrest, Except.map] at h
      | ok last =>
        rw [hrest] at h
        obtain rfl := Except.ok.inj h
        obtain ⟨_, _, _, hline⟩ := account_of_effect he
        obtain ⟨_, _, _, hmore⟩ := ih hrest
        exact ⟨_, _, _, hline.append hmore⟩

/-- A run that reaches the end of a stream has read the event on every line that is not blank. It
has written one line for each of them that is accepted, in order, and nothing else. The line holds
the body and the destination of that event, and is read back as these. -/
theorem run_records {ω : Type} {w : Writer ω} {written : ω → String} (hw : w.Keeps written)
    {settings : Settings} {log : LogFilter} {start stop : ω} {input : List UInt8} {tally : Tally}
    (h : (run settings log w start input).value = (stop, .ok tally)) :
    ∃ (c : Policy) (texts : List String) (events : List StreamEvent) (records : List String),
      settings.policy = .ok c ∧
      (lines input).map (fun line => String.fromUTF8? ⟨line.toArray⟩) = texts.map some ∧
      (texts.filter fun s => !isBlank s).map StreamEvent.parse? = events.map some ∧
      tally.events = (texts.filter fun s => !isBlank s).length ∧
      tally.delivered = (events.filter fun event => (c.accepts event.toEvent).value).length ∧
      tally.delivered ≤ tally.events ∧
      tally.delivered = (utf8Bytes (feedLines records)).count 10 ∧
      written stop = written start ++ feedLines records ∧
      lines (utf8Bytes (feedLines records)) = records.map utf8Bytes ∧
      List.Forall₂ (fun event record => ∃ d,
          (c.destination (.raised event.toEvent)).run.value = .ok d ∧
          record = "\x7b\"payload\":" ++ event.body.render ++ ",\"target\":" ++
            (Json.string d.text).render ++ "\x7d" ∧
          (event.body.Integral → Json.parse? record =
            some (.object [("payload", event.body), ("target", .string d.text)])))
        (events.filter fun event => (c.accepts event.toEvent).value) records := by
  cases hs : settings.policy with
  | error e => simp [run, hs] at h
  | ok c =>
    have hc := Settings.keepsEvents_of_policy hs
    obtain ⟨last, hlast, hvalue⟩ := value_run log hw hs hc start input
    obtain ⟨rfl, hend⟩ := Prod.mk.inj (h.symm.trans hvalue)
    obtain ⟨texts, events, records, haccount⟩ := account_of_transcript hend.symm
    have hprintable := printable_of_recorded haccount.recorded
    have hlength := haccount.recorded.length_eq
    have hparsed : (texts.filter fun s => !isBlank s).length = events.length := by
      simpa using congrArg List.length haccount.parsed
    refine ⟨c, texts, events, records, rfl, haccount.decoded, haccount.parsed, ?_, ?_, ?_, ?_, ?_,
      lines_feedLines hprintable, ?_⟩
    · rw [haccount.counted, hparsed]
    · rw [haccount.delivered, hlength]
    · rw [haccount.delivered, haccount.counted, ← hlength]
      exact List.length_filter_le _ _
    · rw [haccount.delivered, count_feedLines hprintable]
    · rw [hlast, haccount.written]
    · apply haccount.recorded.imp
      intro event record hrecord
      obtain ⟨d, hd, hrender, hbody⟩ := hrecord
      refine ⟨d, hd, hrender.trans (Sink.render_jsonRecord d event.body), ?_⟩
      intro hint
      rw [hrender]
      exact Sink.parse?_jsonRecord d hbody hint

/-- A listed event, a blank line, an event that is not listed and a listed event without body. -/
def placedTwice : String :=
  "\x7b\"type\":\"a::Placed\",\"body\":[1,-2]\x7d\n \n" ++
    "\x7b\"type\":\"a::Paid\"\x7d\n\x7b\"type\":\"a::Placed\"\x7d\n"

/-- Two of three events are written, each on a line. -/
theorem run_records_placedTwice :
    ∃ records,
      (run ⟨["a"], .ofList [("a::Placed", "")]⟩ .nothing .memory "" (utf8Bytes placedTwice)).value =
        (feedLines records, .ok ⟨3, 2⟩) ∧
      (utf8Bytes (feedLines records)).count 10 = 2 ∧
      lines (utf8Bytes (feedLines records)) = records.map utf8Bytes := by
  have hrun : (run ⟨["a"], .ofList [("a::Placed", "")]⟩ .nothing .memory ""
      (utf8Bytes placedTwice)).value =
      ("\x7b\"payload\":[1,-2],\"target\":\"Placed\"\x7d\n" ++
        "\x7b\"payload\":null,\"target\":\"Placed\"\x7d\n", .ok ⟨3, 2⟩) := by decide +kernel
  obtain ⟨_, _, _, records, _, _, _, _, _, _, hcount, hwritten, hlines, _⟩ :=
    run_records Writer.memory_keeps hrun
  refine ⟨records, ?_, hcount.symm, hlines⟩
  rw [hrun]
  exact Prod.ext (by simpa using hwritten) rfl

end Stream

end Outbound
