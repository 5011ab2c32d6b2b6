/-
Events from objects that somebody else wrote.

The members of such an object come in any order, some under older spellings,
among members that mean nothing, and the kind may stand anywhere. `Variation`
says which members tell an event; a text of theirs is read as the event, and a
text in which a field of the kind stands twice, under whichever of its names,
is refused.

The kind is split off first, so its place does not matter (`splitKind_kind`,
`splitKind_eq_ok`). What is left is taken field by field (`slotted`).
-/
import ProxyKeeper.Proofs.Data.Slots
import ProxyKeeper.Proofs.Event.RoundTrip
import ProxyKeeper.Proofs.Json.Layout

namespace ProxyKeeper

open Data

/-! ## members without marks -/

namespace Json

mutual

theorem plain_plain : ∀ v : Json, v.plain.plain = .ok v.plain
  | .null | .bool _ | .number _ | .string _ => rfl
  | .array items => by
    rw [plain, Datum.plain, plainItems_plain items]
    rfl
  | .object members => by
    rw [plain, Datum.plain, plainMembers_plain members]
    rfl

theorem plainItems_plain : ∀ items : List Json, Datum.plainItems (plainItems items) = .ok (plainItems items)
  | [] => rfl
  | v :: rest => by
    rw [plainItems, Datum.plainItems, plain_plain v, plainItems_plain rest]
    rfl

theorem plainMembers_plain : ∀ members : List (String × Json),
    Datum.plainMembers (plainMembers members) = .ok (plainMembers members)
  | [] => rfl
  | (name, v) :: rest => by
    simp only [plainMembers, Datum.plainMembers, plain_plain v, plainMembers_plain rest]
    rfl

end

theorem plainMembers_eq_map (members : List (String × Json)) :
    plainMembers members = members.map fun m => ((), none, m.1, m.2.plain) := by
  induction members with
  | nil => rfl
  | cons m rest ih => rw [plainMembers, ih, List.map_cons]

end Json

namespace Event

/-! ## the fields of a kind -/

def portSlot : Slot Unit Empty Event :=
  ⟨"port", [], .allowed, UInt16, takePort, port, fun v e => { e with port := v }⟩

def sharedSlots : List (Slot Unit Empty Event) :=
  [⟨"host", [], .refused, String, Take.text, host, fun v e => { e with host := v }⟩, portSlot,
    ⟨"outbound", [], .refused, String, Take.text, outbound, fun v e => { e with outbound := v }⟩,
    ⟨"delay_millis", ["delay_mills"], .refused, UInt64, takeMillis, delayMillis,
      fun v e => { e with delayMillis := v }⟩,
    ⟨"request_time_millis", ["request_time_mills"], .refused, UInt64, takeMillis, requestTimeMillis,
      fun v e => { e with requestTimeMillis := v }⟩]

def errorSlot : Slot Unit Empty Event :=
  ⟨"error", [], .refused, String, Take.text, fun e => e.diagnostic?.getD "",
    fun v e => { e with outcome := .failed v }⟩

def slots : Kind → List (Slot Unit Empty Event)
  | .connected => sharedSlots
  | .failed => sharedSlots ++ [errorSlot]

theorem slotted (k : Kind) : Slotted (shape k) (slots k) := by
  cases k with
  | connected => exact ⟨rfl, by decide, by simp [slots, sharedSlots, portSlot],
      by simp [slots, sharedSlots, portSlot]⟩
  | failed =>
    exact ⟨rfl, by decide, by simp [slots, sharedSlots, portSlot, errorSlot, diagnostic?],
      by simp [slots, sharedSlots, portSlot, errorSlot, diagnostic?]⟩

/-- An event of a kind is what its fields hold. -/
theorem eq_of_slots {e e' : Event} (hk : e'.kind = e.kind) (h : ∀ x ∈ slots e.kind, x.get e' = x.get e) : e' = e := by
  obtain ⟨host, port, outbound, delay, time, outcome⟩ := e
  obtain ⟨host', port', outbound', delay', time', outcome'⟩ := e'
  cases outcome with
  | connected =>
    cases outcome' with
    | connected => simpa [kind, slots, sharedSlots, portSlot] using h
    | failed diagnostic' => cases hk
  | failed diagnostic =>
    cases outcome' with
    | connected => cases hk
    | failed diagnostic' => simpa [kind, slots, sharedSlots, portSlot, errorSlot, diagnostic?, and_assoc] using h

theorem kind_of_take {k : Kind} {given : List (Given Unit Empty)} {ending : Ending Unit Empty} {e : Event}
    (h : (shape k).take (.fields () given ending) = .ok e) : e.kind = k := by
  refine (slotted k).keeps (·.kind = k) (by cases k <;> rfl) ?_ h
  cases k <;> simp +contextual [slots, sharedSlots, portSlot, errorSlot, kind]

/-- Only the port may be left out. -/
theorem eq_portSlot {k : Kind} {x : Slot Unit Empty Event} (hx : x ∈ slots k) (h : x.absence ≠ .refused) :
    x = portSlot := by
  have hall : ∀ x ∈ slots k, x.absence ≠ .refused → x = portSlot := by
    cases k <;> simp [slots, sharedSlots, portSlot, errorSlot]
  exact hall x hx h

/-! ## the kind among the members -/

/-- The kind is found wherever it stands, and the others keep their order. -/
theorem splitKind_kind {before after : List (String × Json)} {word : String} {k : Kind}
    (hword : Kind.ofName? word = some k) (hbefore : ∀ m ∈ before, m.1 ≠ kindName)
    (hafter : ∀ m ∈ after, m.1 ≠ kindName) :
    splitKind (Json.plainMembers (before ++ (kindName, .string word) :: after)) none =
      .ok (some k, Json.plainMembers (before ++ after)) := by
  induction before with
  | nil =>
    have hothers : splitKind (Json.plainMembers after) (some k) = .ok (some k, Json.plainMembers after) := by
      refine splitKind_others (Json.plainMembers_plain after) fun m hm => ?_
      rw [Json.plainMembers_eq_map] at hm
      obtain ⟨m', hm', rfl⟩ := List.mem_map.1 hm
      exact hafter m' hm'
    simp only [List.nil_append, Json.plainMembers, Json.plain, splitKind, takeKind, hword]
    exact hothers
  | cons m before ih =>
    obtain ⟨name, v⟩ := m
    obtain ⟨hname, hbefore⟩ := List.forall_mem_cons.1 hbefore
    simp only [List.cons_append, Json.plainMembers, splitKind, if_neg hname, Json.plain_plain, ih hbefore]
    rfl

theorem takeKind_eq_ok {κ ι : Type} {d : Datum κ ι} {k : Kind} (h : takeKind d = .ok k) :
    ∃ mark word, d = .text mark word ∧ Kind.ofName? word = some k := by
  cases d with
  | text mark word =>
    refine ⟨mark, word, rfl, ?_⟩
    rw [takeKind] at h
    cases hk : Kind.ofName? word with
    | none => rw [hk] at h; cases h
    | some k' => rw [hk] at h; cases h; rfl
  | null | flag | number | letter | list | fields | flawed | broken => cases h

/-- Of members with a kind, every one of its name names it, and those of another name are put aside. -/
theorem splitKind_eq_ok {κ ι : Type} {members : List (Given κ ι)} {found : List (String × Json)}
    (hplain : Datum.plainMembers members = .ok (Json.plainMembers found)) {before after : Option Kind}
    {aside : List (Given Unit Empty)} (h : splitKind members before = .ok (after, aside)) :
    aside = Json.plainMembers (found.filter (·.1 ≠ kindName)) ∧ (∀ k, before = some k → after = some k) ∧
      ∀ word, (kindName, .string word) ∈ found → after = Kind.ofName? word := by
  induction members generalizing found before aside with
  | nil =>
    cases found with
    | nil =>
      cases h
      exact ⟨rfl, fun _ hk => hk, fun _ hw => absurd hw List.not_mem_nil⟩
    | cons m found => cases hplain
  | cons m members ih =>
    obtain ⟨mark, flaw, name, d⟩ := m
    obtain ⟨rfl, p, rest, hp, hrest, hfound⟩ := Datum.plainMembers_cons_eq_ok hplain
    cases found with
    | nil => cases hfound
    | cons m found =>
      obtain ⟨name', v⟩ := m
      cases hfound
      simp only [splitKind] at h
      by_cases hname : name = kindName
      · rw [if_pos hname] at h
        cases before with
        | some _ => cases h
        | none =>
          obtain ⟨k, hk, h⟩ := bind_eq_ok.1 h
          obtain ⟨haside, hkept, hwords⟩ := ih hrest h
          obtain ⟨mark', word', rfl, hword'⟩ := takeKind_eq_ok hk
          refine ⟨by simp [haside, hname], fun _ hnone => (by cases hnone), fun word hw => ?_⟩
          rcases List.mem_cons.1 hw with hw | hw
          · cases hw
            cases hp
            rw [hkept k rfl, hword']
          · exact hwords word hw
      · rw [if_neg hname, hp] at h
        obtain ⟨q, hq, h⟩ := bind_eq_ok.1 h
        obtain ⟨⟨after', others⟩, hothers, h⟩ := bind_eq_ok.1 h
        cases hq
        cases h
        obtain ⟨haside, hkept, hwords⟩ := ih hrest hothers
        refine ⟨by simp [haside, hname, Json.plainMembers], hkept, fun word hw => hwords word ?_⟩
        exact List.mem_of_ne_of_mem (fun he => hname (congrArg Prod.fst he).symm) hw

/-! ## variations -/

/-- The field that a member of this name gives. -/
def fieldOf? (k : Kind) (name : String) : Option String :=
  ((shape k : Shape Unit Empty Event).fields.find? (·.answersTo name)).map (·.name)

/-- The members that tell an event, with the names of its times, and with its port or without it. -/
def ownMembers (e : Event) (delay time : String) (ports : List (String × Json)) : List (String × Json) :=
  Json.entry "host" e.host :: ports ++
    [Json.entry "outbound" e.outbound, Json.entry delay e.delayMillis.toNat,
      Json.entry time e.requestTimeMillis.toNat] ++
    e.diagnostic?.toList.map (Json.entry "error")

/-- Either spelling for each of the times, and the port, which may be left out if it is zero. -/
structure Spelled (e : Event) (delay time : String) (ports : List (String × Json)) : Prop where
  delay : delay ∈ ["delay_millis", "delay_mills"]
  time : time ∈ ["request_time_millis", "request_time_mills"]
  ports : ports = [Json.entry "port" e.port] ∨ ports = [] ∧ e.port = 0

/-- Members that tell an event, in any order. Names that no field of the kind has may be anything. -/
structure Variation (e : Event) (members : List (String × Json)) : Prop where
  exists_own : ∃ word delay time ports extras,
    Kind.ofName? word = some e.kind ∧
    Spelled e delay time ports ∧
    (∀ m ∈ extras, m.1 ≠ kindName ∧ fieldOf? e.kind m.1 = none) ∧
    members.Perm (Json.entry kindName word :: e.ownMembers delay time ports ++ extras)

/-- What is written of an event is one of them. -/
theorem variation_toJson (e : Event) : ∃ members, e.toJson = .object members ∧ Variation e members := by
  refine ⟨_, e.toJson_eq, e.kindWord, "delay_millis", "request_time_millis", [Json.entry "port" e.port], [], ?_,
    ⟨by decide, by decide, .inl rfl⟩, List.forall_mem_nil _, ?_⟩
  · obtain ⟨host, port, outbound, delayMillis, requestTimeMillis, outcome⟩ := e
    cases outcome <;> rfl
  · rw [List.append_nil]
    exact .refl _

section

variable {e : Event} {delay time : String} {ports extras others : List (String × Json)}

/-- The field of a member holds what the member says. -/
def Tells (e : Event) (m : String × Json) : Prop :=
  ∃ x ∈ slots e.kind, m.1 ∈ x.names ∧ x.take m.2.plain = .ok (x.get e)

theorem tells_shared {m : String × Json} (i : Nat) {x : Slot Unit Empty Event} (hi : sharedSlots[i]? = some x)
    (hn : m.1 ∈ x.names) (ht : x.take m.2.plain = .ok (x.get e)) : Tells e m := by
  have hx : x ∈ sharedSlots := List.mem_of_getElem? hi
  refine ⟨x, ?_, hn, ht⟩
  cases e.kind with
  | connected => exact hx
  | failed => exact List.mem_append_left _ hx

theorem tells_ownMembers (h : Spelled e delay time ports) :
    ∀ m ∈ e.ownMembers delay time ports, Tells e m := by
  simp only [ownMembers, List.forall_mem_append, List.forall_mem_cons, List.cons_append]
  refine ⟨?host, ⟨?port, ?outbound, ?delay, ?time, List.forall_mem_nil _⟩, ?error⟩
  case host => exact tells_shared 0 rfl List.mem_cons_self rfl
  case port =>
    rcases h.ports with rfl | ⟨rfl, -⟩
    · exact List.forall_mem_singleton.2 (tells_shared 1 rfl List.mem_cons_self (takePort_toNat () e.port))
    · exact List.forall_mem_nil _
  case outbound => exact tells_shared 2 rfl List.mem_cons_self rfl
  case delay => exact tells_shared 3 rfl h.delay (takeMillis_toNat () e.delayMillis)
  case time => exact tells_shared 4 rfl h.time (takeMillis_toNat () e.requestTimeMillis)
  case error =>
    obtain ⟨host, port, outbound, delayMillis, requestTimeMillis, outcome⟩ := e
    cases outcome with
    | connected => exact List.forall_mem_nil _
    | failed diagnostic =>
      refine List.forall_mem_singleton.2 ⟨errorSlot, ?_, List.mem_cons_self, rfl⟩
      exact List.mem_append_right _ (List.mem_singleton.2 rfl)

theorem fieldOf_ownMembers (h : Spelled e delay time ports) :
    (e.ownMembers delay time ports).filterMap (fun m => fieldOf? e.kind m.1) =
      "host" :: ports.map (·.1) ++ ["outbound", "delay_millis", "request_time_millis"] ++
        (e.diagnostic?.toList.map fun _ => "error") := by
  obtain ⟨hdelay, htime, hports⟩ := h
  obtain ⟨host, port, outbound, delayMillis, requestTimeMillis, outcome⟩ := e
  simp only [List.mem_cons, List.not_mem_nil, or_false] at hdelay htime
  rcases hdelay with rfl | rfl <;> rcases htime with rfl | rfl <;> rcases hports with rfl | ⟨rfl, -⟩ <;>
    cases outcome <;> rfl

theorem named_plainMembers (k : Kind) (members : List (String × Json)) :
    (shape k).named (Json.plainMembers members) = members.filterMap fun m => fieldOf? k m.1 := by
  rw [Shape.named, Json.plainMembers_eq_map, List.filterMap_map]
  rfl

/-- A field that is given, and the member that gives it. -/
theorem exists_of_fieldOf {k : Kind} {x : Slot Unit Empty Event} (hx : x ∈ slots k) {members : List (String × Json)}
    (h : x.name ∈ members.filterMap fun m => fieldOf? k m.1) : ∃ m ∈ members, m.1 ∈ x.names := by
  obtain ⟨m, hm, hf⟩ := List.mem_filterMap.1 h
  obtain ⟨f, hf, hname⟩ := Option.map_eq_some_iff.1 hf
  obtain ⟨y, hy, rfl, hyn⟩ := (slotted k).exists_of_find? hf
  obtain rfl := (slotted k).eq_of_name hy hx hname
  exact ⟨m, hm, hyn⟩

theorem fieldOf_eq {k : Kind} {x : Slot Unit Empty Event} (hx : x ∈ slots k) {name : String} (hn : name ∈ x.names) :
    fieldOf? k name = some x.name := by
  rw [fieldOf?, (slotted k).find?_eq hx hn]
  rfl

/-- The fields that are given. -/
theorem fieldOf_others (h : Spelled e delay time ports)
    (hextras : ∀ m ∈ extras, fieldOf? e.kind m.1 = none)
    (hperm : others.Perm (e.ownMembers delay time ports ++ extras)) :
    (others.filterMap fun m => fieldOf? e.kind m.1).Nodup ∧
      ∀ x ∈ slots e.kind, x.absence = .refused → x.name ∈ others.filterMap fun m => fieldOf? e.kind m.1 := by
  have hfields := hperm.filterMap fun m => fieldOf? e.kind m.1
  rw [List.filterMap_append, fieldOf_ownMembers h, List.filterMap_eq_nil_iff.2 hextras,
    List.append_nil] at hfields
  simp only [hfields.nodup_iff, hfields.mem_iff]
  obtain ⟨host, port, outbound, delayMillis, requestTimeMillis, outcome⟩ := e
  constructor
  · rcases h.ports with rfl | ⟨rfl, -⟩ <;> cases outcome <;> simp [diagnostic?, Json.entry]
  · cases outcome <;> simp [slots, sharedSlots, portSlot, errorSlot, kind, diagnostic?]

/-- Whatever a member is, the field that answers to it holds what it says. -/
theorem take_field (h : Spelled e delay time ports)
    (hextras : ∀ m ∈ extras, fieldOf? e.kind m.1 = none)
    (hperm : others.Perm (e.ownMembers delay time ports ++ extras)) :
    ∀ m ∈ others, ∀ x ∈ slots e.kind, m.1 ∈ x.names → x.take m.2.plain = .ok (x.get e) := by
  intro m hm x hx hn
  rcases List.mem_append.1 (hperm.mem_iff.1 hm) with hm | hm
  · obtain ⟨y, hy, hyn, ht⟩ := tells_ownMembers h m hm
    rwa [(slotted e.kind).eq_of_mem_names hx hy hn hyn]
  · have hnone := hextras m hm
    rw [fieldOf_eq hx hn] at hnone
    cases hnone

/-- The members of an event, among others that mean nothing, give the event. -/
theorem take_of_own (h : Spelled e delay time ports)
    (hextras : ∀ m ∈ extras, fieldOf? e.kind m.1 = none)
    (hperm : others.Perm (e.ownMembers delay time ports ++ extras)) :
    (shape e.kind).take (.fields () (Json.plainMembers others) (.closed ())) = .ok e := by
  have hslots := slotted e.kind
  have htake := take_field h hextras hperm
  obtain ⟨hnodup, hrefused⟩ := fieldOf_others h hextras hperm
  rw [← named_plainMembers] at hnodup
  have htaken : ∀ m ∈ Json.plainMembers others, ∀ x ∈ slots e.kind, m.2.2.1 ∈ x.names →
      ∃ v, x.take m.2.2.2 = .ok v := by
    rw [Json.plainMembers_eq_map, List.forall_mem_map]
    exact fun m hm x hx hn => ⟨_, htake m hm x hx hn⟩
  have hgiven : ∀ f ∈ (shape e.kind : Shape Unit Empty Event).fields, f.absence = .refused →
      f.name ∈ (shape e.kind).named (Json.plainMembers others) := by
    rw [hslots.fields, List.forall_mem_map, named_plainMembers]
    exact hrefused
  obtain ⟨e', he'⟩ := hslots.exists_take (.of_plain htaken hnodup) hgiven () ()
  have hget : ∀ x ∈ slots e.kind, x.get e' = x.get e := by
    intro x hx
    obtain ⟨hheld, hkept⟩ := hslots.holds he' hx
    rw [Json.plainMembers_eq_map, List.forall_mem_map] at hheld hkept
    by_cases hm : ∃ m ∈ others, m.1 ∈ x.names
    · obtain ⟨m, hm, hn⟩ := hm
      exact Except.ok.inj ((hheld m hm hn).symm.trans (htake m hm x hx hn))
    · -- A field that no member gives is the port, which is zero then.
      have hnone : ∀ m ∈ others, m.1 ∉ x.names := fun m hmem hn => hm ⟨m, hmem, hn⟩
      obtain rfl := eq_portSlot hx fun ha => hm (exists_of_fieldOf hx (hrefused x hx ha))
      rw [hkept hnone]
      rcases h.ports with rfl | ⟨-, hport⟩
      · refine absurd List.mem_cons_self (hnone (Json.entry "port" e.port) (hperm.mem_iff.2 ?_))
        simp [ownMembers]
      · exact Eq.trans (by cases e.kind <;> rfl) hport.symm
  rw [he', eq_of_slots (kind_of_take he') hget]

theorem take_of_variation {members : List (String × Json)} (h : Variation e members) :
    take (Json.object members).plain = .ok e := by
  obtain ⟨word, delay, time, ports, extras, hword, hspelled, hextras, hperm⟩ := h.exists_own
  obtain ⟨before, after, rfl⟩ := List.append_of_mem (hperm.mem_iff.2 List.mem_cons_self)
  have hothers : (before ++ after).Perm (e.ownMembers delay time ports ++ extras) :=
    (List.perm_middle.symm.trans hperm).cons_inv
  have hkind : fieldOf? e.kind kindName = none := by cases e.kind <;> rfl
  have hnames : ∀ m ∈ before ++ after, m.1 ≠ kindName := by
    intro m hm hname
    rcases List.mem_append.1 (hothers.mem_iff.1 hm) with hm | hm
    · obtain ⟨x, hx, hn, -⟩ := tells_ownMembers hspelled m hm
      rw [hname] at hn
      rw [fieldOf_eq hx hn] at hkind
      cases hkind
    · exact (hextras m hm).1 hname
  rw [List.forall_mem_append] at hnames
  have hsplit := splitKind_kind hword hnames.1 hnames.2
  refine (take_fields () _ rfl hsplit).trans (ofAside_eq_ok.2 ?_)
  exact take_of_own hspelled (fun m hm => (hextras m hm).2) hothers

theorem decode_of_variation {members : List (String × Json)} {text : String} (h : Variation e members)
    (ht : Json.ObjectText members text.toList) : decode text = .ok e := by
  obtain ⟨t, hread, hplain⟩ := ht.read
  have htake : take t = .ok e := take_of_plain hplain (take_of_variation h)
  rw [decode, Json.decodeText, hread, htake]

end

/-! ## fields that are given twice -/

/-- What an object with a kind comes to if it comes to an event. -/
theorem take_eq_ok {κ ι : Type} {t : Datum κ ι} {members : List (String × Json)} {e : Event} {word : String} {k : Kind}
    (hplain : t.plain = .ok (Json.object members).plain) (hword : Kind.ofName? word = some k)
    (hmem : (kindName, .string word) ∈ members) (h : take t = .ok e) :
    (shape k).take (.fields () (Json.plainMembers (members.filter (·.1 ≠ kindName))) (.closed ())) = .ok e := by
  cases t with
  | fields mark found ending =>
    obtain ⟨kept, hkept, hending, hp⟩ := Datum.plain_fields_eq_ok hplain
    cases hp
    simp only [take] at h
    obtain ⟨⟨kind, aside⟩, hs, h⟩ := bind_eq_ok.1 h
    rw [mapError_eq_ok] at hs
    obtain ⟨rfl, -, hwords⟩ := splitKind_eq_ok hkept hs
    have hkind : kind = some k := (hwords word hmem).trans hword
    cases hkind
    cases ending with
    | broken => cases hending
    | closed | unreached => exact ofAside_eq_ok.1 h
  | list mark items ending =>
    obtain ⟨kept, -, -, hp⟩ := Datum.plain_list_eq_ok hplain
    cases hp
  | null | flag | number | text | letter => cases hplain
  | flawed | broken => cases hplain

/-- The members of one field: an event has no more than one. -/
theorem countP_le_one {k : Kind} {members : List (String × Json)} {e : Event} {f : Field Unit Empty Event}
    (hf : f ∈ (shape k).fields)
    (h : (shape k).take (.fields () (Json.plainMembers (members.filter (·.1 ≠ kindName))) (.closed ())) = .ok e) :
    members.countP (fun m => f.answersTo m.1) ≤ 1 := by
  obtain ⟨seen, hm⟩ := Shape.take_fields_eq_ok h
  have hnodup := (Shape.nodup_of_members hm).1
  rw [named_plainMembers, List.nodup_iff_count] at hnodup
  have honce := hnodup f.name
  rw [List.count_filterMap, List.countP_filter] at honce
  refine Nat.le_trans (List.countP_mono_left fun m _ ha => ?_) honce
  obtain ⟨x, hx, rfl⟩ := List.mem_map.1 ((slotted k).fields ▸ hf)
  have hfield := fieldOf_eq hx (Slot.answersTo_field.1 ha)
  have hname : m.1 ≠ kindName := fun hname => by
    have hkind : fieldOf? k kindName = none := by cases k <;> rfl
    rw [hname, hkind] at hfield
    cases hfield
  rw [hfield]
  simpa [Slot.field] using hname

/-- **Events are read from whatever order and spelling of their members**: the members of an event in any order, with
either spelling of the times and either word for a failure, with the port left out where it is zero, with any members
of other names among them, and with blanks wherever they may stand, are read as the event. But a text in which one of
the fields of its kind is given twice, under one of its names or under two, is refused. -/
theorem events_read_from_any_spelling (e : Event) (text : String) :
    (∀ members, Variation e members → Json.ObjectText members text.toList → decode text = .ok e) ∧
      ∀ members word, Json.ObjectText members text.toList → (kindName, .string word) ∈ members →
        Kind.ofName? word = some e.kind →
        ∀ field ∈ (shape e.kind : Shape Unit Empty Event).fields, 1 < members.countP (fun m => field.answersTo m.1) →
          ∃ error, decode text = .error error := by
  refine ⟨fun members h ht => decode_of_variation h ht, fun members word ht hmem hword field hf htwice => ?_⟩
  obtain ⟨t, hread, hplain⟩ := ht.read
  cases htake : take t with
  | error fault => exact ⟨Json.faultIn text.toList fault, by rw [decode, Json.decodeText, hread, htake]⟩
  | ok e' => exact absurd (countP_le_one hf (take_eq_ok hplain hword hmem htake)) (Nat.not_le.2 htwice)

/-- Older spellings in the order from back to front, no port, and a member that only failures have. The time of the
delay in both of its spellings is one too many. -/
theorem event_read_from_older_spelling :
    let e : Event := ⟨"h", 0, "proxy", 250, 42, .connected⟩
    let members : List (String × Json) :=
      [("error", .null), ("request_time_mills", .ofNat 42), ("delay_mills", .ofNat 250), ("outbound", .string "proxy"),
        ("host", .string "h"), ("type", .string "Connected")]
    let twice := ("delay_millis", .ofNat 250) :: members
    Variation e members ∧ decode (Json.object members).render = .ok e ∧
      ∃ error, decode (Json.object twice).render = .error error := by
  intro e members twice
  have hscalars : ∀ m ∈ twice, Json.Spelling m.2 m.2.chars := by
    have hnatural {n : Nat} (hn : n < naturalBound) : Json.Spelling (.ofNat n) (Json.ofNat n).chars := by
      rw [Json.ofNat, Json.chars_natural]
      exact .natural hn
    simp only [twice, members, List.forall_mem_cons]
    exact ⟨hnatural (by decide), .null, hnatural (by decide), hnatural (by decide), Json.spelling_string _,
      Json.spelling_string _, Json.spelling_string _, List.forall_mem_nil _⟩
  have htexts : ∀ l : List (String × Json), (∀ m ∈ l, Json.Spelling m.2 m.2.chars) →
      Json.ObjectText l (Json.object l).render.toList := fun l hl => by
    rw [Json.render, String.toList_ofList]
    exact Json.objectText_chars hl
  have hreverse : members.reverse =
      Json.entry kindName "Connected" :: e.ownMembers "delay_mills" "request_time_mills" [] ++ [("error", .null)] := rfl
  have hvariation : Variation e members :=
    ⟨"Connected", "delay_mills", "request_time_mills", [], [("error", .null)], rfl,
      ⟨by decide, by decide, .inr ⟨rfl, rfl⟩⟩, List.forall_mem_singleton.2 ⟨by decide, rfl⟩,
      hreverse ▸ (List.reverse_perm members).symm⟩
  refine ⟨hvariation, ?_, ?_⟩
  · exact (events_read_from_any_spelling e _).1 members hvariation
      (htexts members fun m hm => hscalars m (List.mem_cons_of_mem _ hm))
  · have hdelay := List.mem_of_getElem? (show (shape e.kind : Shape Unit Empty Event).fields[3]? = some _ from rfl)
    exact (events_read_from_any_spelling e _).2 twice "Connected" (htexts twice hscalars)
      (by simp [twice, members, kindName]) rfl _ hdelay (by decide)

/-- Blanks around the parts of a text, and an escape in a string. -/
example :
    (decode ("\t\x7b\"error\" : null,\"type\":\"Connected\",\n\"host\":\"\\u0068\"," ++
      "\"outbound\":\"proxy\",\"delay_mills\":250, \"request_time_millis\": 42\x7d\r")).toOption =
      some ⟨"h", 0, "proxy", 250, 42, .connected⟩ := by
  decide +kernel

end Event

end ProxyKeeper
