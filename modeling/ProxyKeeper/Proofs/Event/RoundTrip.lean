/-
Events over the wire: an event that was written is read back, and what was
written is one line.

The text of an event is read as a tree that holds its members
(`Json.read_chars`). An event is taken from a tree without regard to its
marks: `take_of_plain` says that a tree gives the event that what it holds
gives, and `take_toJson` that the members of an event give the event.
-/
import ProxyKeeper.CommandLine.Events
import ProxyKeeper.Proofs.Data.Plain
import ProxyKeeper.Proofs.Data.Record
import ProxyKeeper.Proofs.Json.RoundTrip

namespace ProxyKeeper

open Data

namespace Event

section

variable {κ ι : Type} {d : Datum κ ι} {members : List (κ × Option ι × String × Datum κ ι)}
  {kept : List (Unit × Option Empty × String × Plain)} {p : Plain} {kind : Option Kind}

/-! ## the kind and the rest -/

theorem takeKind_of_plain {kind : Kind} (h : d.plain = .ok p) (hp : takeKind p = .ok kind) :
    takeKind d = .ok kind := by
  cases d with
  | text mark name =>
    cases h
    simp only [takeKind] at hp ⊢
    cases hk : Kind.ofName? name <;> simp_all
  | list mark items ending =>
    obtain ⟨_, -, -, rfl⟩ := Datum.plain_list_eq_ok h
    cases hp
  | fields mark members ending =>
    obtain ⟨_, -, -, rfl⟩ := Datum.plain_fields_eq_ok h
    cases hp
  | null | flag | number | letter =>
    cases h
    cases hp
  | flawed | broken => cases h

/-- Members of other names are put aside. -/
theorem splitKind_others (h : Datum.plainMembers members = .ok kept)
    (hn : ∀ member ∈ members, member.2.2.1 ≠ kindName) : splitKind members kind = .ok (kind, kept) := by
  induction members generalizing kept with
  | nil =>
    cases h
    rfl
  | cons member members ih =>
    obtain ⟨mark, flaw, name, d⟩ := member
    obtain ⟨rfl, p, rest, hp, hrest, rfl⟩ := Datum.plainMembers_cons_eq_ok h
    have hname : name ≠ kindName := hn _ List.mem_cons_self
    have hothers := ih hrest fun m hm => hn m (List.mem_cons_of_mem _ hm)
    simp only [splitKind, if_neg hname, hp, hothers]
    rfl

/-- The kind and the other members of a tree are those of what it holds. -/
theorem splitKind_of_plain (h : Datum.plainMembers members = .ok kept)
    {result : Option Kind × List (Unit × Option Empty × String × Plain)}
    (hs : splitKind kept kind = .ok result) : splitKind members kind = .ok result := by
  induction members generalizing kept kind result with
  | nil =>
    cases h
    cases hs
    rfl
  | cons member members ih =>
    obtain ⟨mark, flaw, name, d⟩ := member
    obtain ⟨rfl, p, rest, hp, hrest, rfl⟩ := Datum.plainMembers_cons_eq_ok h
    simp only [splitKind] at hs ⊢
    by_cases hname : name = kindName
    · rw [if_pos hname] at hs ⊢
      cases kind with
      | some _ => cases hs
      | none =>
        obtain ⟨k, hk, hs⟩ := bind_eq_ok.1 hs
        exact bind_eq_ok.2 ⟨k, takeKind_of_plain hp hk, ih hrest hs⟩
    · rw [if_neg hname, Datum.plain_plain hp] at hs
      rw [if_neg hname, hp]
      obtain ⟨q, hq, hs⟩ := bind_eq_ok.1 hs
      obtain ⟨others, hothers, hs⟩ := bind_eq_ok.1 hs
      cases hq
      cases hs
      exact bind_eq_ok.2 ⟨p, rfl, bind_eq_ok.2 ⟨others, ih hrest hothers, rfl⟩⟩

/-! ## taking an event from a tree -/

theorem ofAside_eq_ok {kind : Kind} {e : Event} :
    ofAside (κ := κ) (ι := ι) kind p = .ok e ↔ (shape kind).take p = .ok e := by
  rw [ofAside]
  cases (shape kind).take p with
  | ok e => simp
  | error fault =>
    obtain ⟨issue⟩ | ⟨mark, cause⟩ := fault
    · exact issue.elim
    · simp

/-- The event of an object of this kind. -/
theorem take_fields (mark : κ) {kind : Kind} (ending : Ending κ ι) (he : Datum.useEnding ending = .ok (.closed ()))
    (hs : splitKind members none = .ok (some kind, kept)) :
    take (.fields mark members ending) = ofAside kind (.fields () kept (.closed ())) := by
  cases ending with
  | broken => cases he
  | closed | unreached =>
    rw [take, hs]
    rfl

/-- A tree gives the event that what it holds gives. -/
theorem take_of_plain {e : Event} (h : d.plain = .ok p) (hp : take p = .ok e) : take d = .ok e := by
  cases d with
  | fields mark members ending =>
    obtain ⟨kept, hkept, hending, rfl⟩ := Datum.plain_fields_eq_ok h
    simp only [take] at hp
    obtain ⟨⟨kind, others⟩, hs, hp⟩ := bind_eq_ok.1 hp
    rw [mapError_eq_ok] at hs
    cases kind with
    | none => cases hp
    | some kind =>
      rw [take_fields mark ending hending (splitKind_of_plain hkept hs), ofAside_eq_ok]
      exact ofAside_eq_ok.1 hp
  | list mark items ending =>
    obtain ⟨kept, hkept, hending, rfl⟩ := Datum.plain_list_eq_ok h
    cases items with
    | nil =>
      cases hkept
      cases hp
    | cons item items =>
      obtain ⟨leaving, first⟩ := item
      obtain ⟨q, rest, hq, hrest, rfl⟩ := Datum.plainItems_cons_eq_ok hkept
      simp only [take] at hp ⊢
      obtain ⟨kind, hkind, hp⟩ := bind_eq_ok.1 hp
      obtain ⟨others, hothers, hp⟩ := bind_eq_ok.1 hp
      rw [mapError_eq_ok] at hkind hothers
      rw [Datum.plainItems_plainItems hrest] at hothers
      cases hothers
      refine bind_eq_ok.2 ⟨kind, mapError_eq_ok.2 (takeKind_of_plain hq hkind),
        bind_eq_ok.2 ⟨rest, mapError_eq_ok.2 hrest, ?_⟩⟩
      cases ending with
      | broken => cases hending
      | closed | unreached => exact ofAside_eq_ok.2 (ofAside_eq_ok.1 hp)
  | text | null | flag | number | letter =>
    cases h
    cases hp
  | flawed | broken => cases h

end

/-! ## the members of an event -/

theorem readable_toJson (e : Event) : e.toJson.Readable Json.depthLimit := by
  have hport : e.port.toNat < naturalBound := Nat.lt_trans e.port.toNat_lt (by decide)
  have hdelay : e.delayMillis.toNat < naturalBound := e.delayMillis.toNat_lt
  have htime : e.requestTimeMillis.toNat < naturalBound := e.requestTimeMillis.toNat_lt
  obtain ⟨host, port, outbound, delay, time, outcome⟩ := e
  cases outcome <;>
    simp [toJson, Json.Readable, Json.ReadableMembers, Json.entry, ToJson.toJson, Json.ofNat, Json.depthLimit,
      hport, hdelay, htime]

/-- The word for the kind of an event. -/
def kindWord (e : Event) : String :=
  match e.outcome with
  | .connected => "Connected"
  | .failed _ => "Error"

/-- The kind of an event. -/
def kind (e : Event) : Kind :=
  match e.outcome with
  | .connected => .connected
  | .failed _ => .failed

/-- The members of an event but the one that tells its kind. -/
def others (e : Event) : List (String × Json) :=
  [Json.entry "host" e.host, Json.entry "port" e.port, Json.entry "outbound" e.outbound,
    Json.entry "delay_millis" e.delayMillis.toNat,
    Json.entry "request_time_millis" e.requestTimeMillis.toNat] ++
      e.diagnostic?.toList.map (Json.entry "error")

theorem toJson_eq (e : Event) : e.toJson = .object (Json.entry kindName e.kindWord :: e.others) := by
  obtain ⟨host, port, outbound, delay, time, outcome⟩ := e
  cases outcome <;> rfl

theorem plain_others (e : Event) :
    Datum.plainMembers (Json.plainMembers e.others) = .ok (Json.plainMembers e.others) := by
  obtain ⟨host, port, outbound, delay, time, outcome⟩ := e
  cases outcome <;> rfl

theorem names_others (e : Event) : ∀ member ∈ Json.plainMembers e.others, member.2.2.1 ≠ kindName := by
  obtain ⟨host, port, outbound, delay, time, outcome⟩ := e
  cases outcome <;> simp [others, diagnostic?, Json.plainMembers, Json.entry, kindName]

theorem takePort_toNat {κ ι : Type} (mark : κ) (n : UInt16) :
    takePort (ι := ι) (.number mark (.natural n.toNat)) = .ok n := by
  rw [takePort, Take.map, Take.natural_eq_ok rfl n.toNat_lt]
  simp [Except.map]

theorem takeMillis_toNat {κ ι : Type} (mark : κ) (n : UInt64) :
    takeMillis (ι := ι) (.number mark (.natural n.toNat)) = .ok n := by
  rw [takeMillis, Take.map, Take.natural_eq_ok rfl n.toNat_lt]
  simp [Except.map]

/-- The members that were put aside are those of the event of this kind. -/
theorem take_others (e : Event) : (shape e.kind).take (.fields () (Json.plainMembers e.others) (.closed ())) = .ok e := by
  obtain ⟨host, port, outbound, delay, time, outcome⟩ := e
  have hport := takePort_toNat (ι := Empty) () port
  have hdelay := takeMillis_toNat (ι := Empty) () delay
  have htime := takeMillis_toNat (ι := Empty) () time
  cases outcome <;>
    simp [Shape.take, kind, others, diagnostic?, shape, Shape.members, Shape.missing?, sharedFields, Field.of,
      Field.also, Field.answersTo, Json.plainMembers, Json.entry, ToJson.toJson, Json.ofNat, Json.plain,
      Take.text, hport, hdelay, htime, bind, Except.bind, Except.map, pure, Except.pure]

theorem take_toJson (e : Event) : take e.toJson.plain = .ok e := by
  have hsplit : splitKind (Json.plainMembers (Json.entry kindName e.kindWord :: e.others)) none =
      .ok (some e.kind, Json.plainMembers e.others) := by
    have hothers : splitKind (Json.plainMembers e.others) (some e.kind) = .ok (some e.kind, Json.plainMembers e.others) :=
      splitKind_others (plain_others e) (names_others e)
    obtain ⟨host, port, outbound, delay, time, outcome⟩ := e
    cases outcome <;> exact hothers
  rw [toJson_eq, Json.plain, take_fields () _ rfl hsplit, ofAside_eq_ok]
  exact take_others e

/-! ## over the wire -/

theorem decode_encode (e : Event) : decode e.encode = .ok e := by
  obtain ⟨t, hread, ht⟩ := Json.read_chars (readable_toJson e)
  have htake : take t = .ok e := take_of_plain ht (take_toJson e)
  rw [decode, Json.decodeText, encode, Json.render, String.toList_ofList, hread, htake]

theorem unbroken_encode (e : Event) : Json.Unbroken e.encode.toList := by
  rw [encode, Json.render, String.toList_ofList]
  exact Json.unbroken_chars e.toJson (readable_toJson e)

/-! ## printed lines -/

/-- A batch is printed line by line, all of it unless the limit is reached. -/
theorem printEvents_eq (style : Report.Style) (limit : Option Nat) (seen : Nat) (events : List Event) :
    ∃ printed, printed <+: events ∧
      (CommandLine.printEvents style limit seen events).2.1 = printed.map (Report.event style) ∧
      ((CommandLine.printEvents style limit seen events).2.2 = false → printed = events) := by
  induction events generalizing seen with
  | nil => exact ⟨[], List.prefix_rfl, rfl, fun _ => rfl⟩
  | cons e rest ih =>
    rw [CommandLine.printEvents]
    split
    · exact ⟨[e], ⟨rest, rfl⟩, rfl, fun h => by cases h⟩
    · obtain ⟨printed, hp, hl, hall⟩ := ih (seen + 1)
      refine ⟨e :: printed, List.cons_prefix_cons.2 ⟨rfl, hp⟩, congrArg (Report.event style e :: ·) hl, fun h => ?_⟩
      rw [hall h]

/-- What is printed of batches are the lines of their events, in order and up to the limit. -/
theorem printBatches_eq (style : Report.Style) (limit : Option Nat) (seen : Nat) (batches : List (List Event)) :
    ∃ printed, printed <+: batches.flatten ∧
      (CommandLine.printBatches style limit seen batches).1 = printed.map (Report.event style) := by
  induction batches generalizing seen with
  | nil => exact ⟨[], List.prefix_rfl, rfl⟩
  | cons batch rest ih =>
    obtain ⟨printed, hp, hl, hall⟩ := printEvents_eq style limit seen batch
    rw [CommandLine.printBatches]
    cases hb : CommandLine.printEvents style limit seen batch with
    | mk next result =>
      obtain ⟨lines, reached⟩ := result
      rw [hb] at hl hall
      cases reached with
      | true => exact ⟨printed, hp.trans (List.prefix_append _ _), hl⟩
      | false =>
        obtain ⟨more, hm, hml⟩ := ih next
        refine ⟨batch ++ more, (List.prefix_append_right_inj _).2 hm, ?_⟩
        rw [List.map_append, ← hall rfl, ← hl, ← hml]

/-- **Events survive the wire**: an event that is written is read back as it was, whatever its texts and
numbers are; its text is one line; each line that is printed as JSON stands for the event it was printed
for, in the order of the events; and of any text that is read, what is written of the event reads the
same. -/
theorem events_survive_the_wire :
    (∀ e : Event, decode e.encode = .ok e) ∧
      (∀ e : Event, ∀ c ∈ e.encode.toList, c ≠ '\n' ∧ c ≠ '\r' ∧ 0x20 ≤ c.toNat) ∧
      (∀ color limit seen batches, ∃ printed, printed <+: batches.flatten ∧
        (CommandLine.printBatches ⟨.json, color⟩ limit seen batches).1 = printed.map encode ∧
        (CommandLine.printBatches ⟨.json, color⟩ limit seen batches).1.map decode = printed.map .ok) ∧
      ∀ text e, decode text = .ok e → decode e.encode = .ok e := by
  refine ⟨decode_encode, fun e c hc => ?_, fun color limit seen batches => ?_, fun _ e _ => decode_encode e⟩
  · have h := unbroken_encode e c hc
    exact ⟨by rintro rfl; revert h; decide, by rintro rfl; revert h; decide, h⟩
  · obtain ⟨printed, hp, hl⟩ := printBatches_eq ⟨.json, color⟩ limit seen batches
    have hl : (CommandLine.printBatches ⟨.json, color⟩ limit seen batches).1 = printed.map encode := hl
    refine ⟨printed, hp, hl, ?_⟩
    rw [hl, List.map_map]
    exact List.map_congr_left fun e _ => decode_encode e

end Event

end ProxyKeeper
