/-
How many lines the printed events take.

What stands in a printed line besides the texts of its event is fixed or made
of digits, so a line has the breaks that the event's own texts bring along and
no others (`breaks_text`). Written as JSON the texts are escaped, and no break
is left of them (`breaks_json`).

A break is a line feed or a carriage return. Other characters that some
screens break a line at (U+0085, U+2028) are not looked at.
-/
import Mathlib.Algebra.GroupWithZero.Nat
import ProxyKeeper.CommandLine.Summary
import ProxyKeeper.Proofs.Event.RoundTrip
import ProxyKeeper.Proofs.Report

namespace ProxyKeeper

/-! ## breaks -/

/-- Whether a character ends a line. -/
def isBreak (c : Char) : Bool := c == '\n' || c == '\r'

/-- How often a text goes on to another line. -/
def breaks (s : String) : Nat := s.toList.countP isBreak

theorem breaks_append (s t : String) : breaks (s ++ t) = breaks s + breaks t := by
  rw [breaks, String.toList_append, List.countP_append, breaks, breaks]

theorem breaks_eq_zero {s : String} (h : ∀ c ∈ s.toList, isBreak c = false) : breaks s = 0 :=
  List.countP_eq_zero.2 fun c hc => by rw [h c hc]; exact Bool.false_ne_true

theorem isBreak_eq_false {c : Char} : isBreak c = false ↔ c ≠ '\n' ∧ c ≠ '\r' := by
  simp [isBreak]

theorem isBreak_of_isDigit {c : Char} (h : c.isDigit = true) : isBreak c = false :=
  isBreak_eq_false.2 ⟨by rintro rfl; revert h; decide, by rintro rfl; revert h; decide⟩

/-- Past the last digit every number is written as a star. -/
theorem isBreak_digitChar (n : Nat) : isBreak (Nat.digitChar n) = false := by
  by_cases h : n < 16
  · exact (by decide : ∀ n < 16, isBreak (Nat.digitChar n) = false) n h
  · have star : Nat.digitChar n = '*' := by
      unfold Nat.digitChar
      iterate 16 rw [if_neg (by omega)]
    rw [star]
    rfl

theorem breaks_natural (n : Nat) : breaks (toString n) = 0 :=
  breaks_eq_zero fun _ hc => isBreak_of_isDigit (Report.isDigit_of_mem_toString hc)

theorem breaks_joinLines (lines : List String) :
    breaks (CommandLine.joinLines lines) = lines.length + (lines.map breaks).sum := by
  have newline : breaks "\n" = 1 := by decide
  induction lines with
  | nil => rfl
  | cons line lines ih =>
    have hjoin : CommandLine.joinLines (line :: lines) = line ++ "\n" ++ CommandLine.joinLines lines := by
      simp [CommandLine.joinLines, String.join_cons]
    rw [hjoin, breaks_append, breaks_append, newline, ih, List.length_cons, List.map_cons, List.sum_cons]
    omega

/-- The breaks in the texts of an event. -/
def Event.breaks (e : Event) : Nat :=
  ProxyKeeper.breaks e.host + ProxyKeeper.breaks e.outbound + (e.diagnostic?.map ProxyKeeper.breaks).getD 0

theorem Event.breaks_eq_zero_iff (e : Event) :
    e.breaks = 0 ↔ ProxyKeeper.breaks e.host = 0 ∧ ProxyKeeper.breaks e.outbound = 0 ∧
      ∀ diagnostic, e.outcome = .failed diagnostic → ProxyKeeper.breaks diagnostic = 0 := by
  rw [Event.breaks, Event.diagnostic?]
  cases e.outcome with
  | connected => simp
  | failed diagnostic =>
    simp
    omega

namespace Report

/-! ## one line -/

theorem breaks_twoDigits (n : Nat) : breaks (twoDigits n) = 0 := by
  rw [breaks, twoDigits, String.toList_ofList]
  simp [isBreak_digitChar]

theorem breaks_clock (millis : Nat) : breaks (clock millis) = 0 := by
  rw [clock]
  split
  · simp only [breaks_append, breaks_twoDigits]
    decide
  · decide

/-- The codes around a painted text have no breaks. -/
theorem breaks_coloured {first last : String} (hfirst : breaks first = 0) (hlast : breaks last = 0) (s : String) :
    breaks (coloured first last s) = breaks s := by
  have opening : breaks "\x1b[" = 0 := by decide
  have closing : breaks "m" = 0 := by decide
  have spelled : coloured first last s = "\x1b[" ++ first ++ "m" ++ s ++ "\x1b[" ++ last ++ "m" := rfl
  simp only [spelled, breaks_append, hfirst, hlast, opening, closing]
  omega

theorem breaks_paint (style : Style) {painter : String → String} (h : ∀ s, breaks (painter s) = breaks s)
    (s : String) : breaks (style.paint painter s) = breaks s := by
  rw [Style.paint]
  split
  · exact h s
  · rfl

theorem breaks_target (e : Event) : breaks (target e) = breaks e.host := by
  have spelled : s!"{e.host}:{e.port}" = e.host ++ ":" ++ toString e.port.toNat := rfl
  have colon : breaks ":" = 0 := by decide
  rw [target]
  split
  · rfl
  · rw [spelled, breaks_append, breaks_append, colon, breaks_natural, Nat.add_zero]

/-- A line for people has the breaks of the texts of its event. -/
theorem breaks_text (color : Bool) (e : Event) : breaks (event ⟨.text, color⟩ e) = e.breaks := by
  have gap : breaks "  " = 0 := by decide
  have via : breaks "  via " = 0 := by decide
  have unit : breaks "ms" = 0 := by decide
  have ok : ∀ s, breaks (green s) = breaks s := breaks_coloured (by decide) (by decide)
  have fail : ∀ s, breaks (red s) = breaks s := breaks_coloured (by decide) (by decide)
  have dim : ∀ s, breaks (dimmed s) = breaks s := breaks_coloured (by decide) (by decide)
  have delay : breaks (toString e.delayMillis) = 0 := breaks_natural e.delayMillis.toNat
  cases ho : e.outcome with
  | connected =>
    have spelled : event ⟨.text, color⟩ e = clock e.requestTimeMillis.toNat ++ "  "
        ++ Style.paint ⟨.text, color⟩ green "OK  "
        ++ ("  " ++ target e ++ "  via " ++ e.outbound ++ "  " ++ toString e.delayMillis ++ "ms") := by
      simp only [event, ho]
      rfl
    have word : breaks "OK  " = 0 := by decide
    simp only [spelled, breaks_append, breaks_clock, breaks_paint _ ok, breaks_target, gap, via, unit, delay, word,
      Event.breaks, Event.diagnostic?, ho]
    simp
  | failed diagnostic =>
    have spelled : event ⟨.text, color⟩ e = clock e.requestTimeMillis.toNat ++ "  "
        ++ Style.paint ⟨.text, color⟩ red "FAIL"
        ++ ("  " ++ target e ++ "  via " ++ e.outbound ++ "  ")
        ++ Style.paint ⟨.text, color⟩ dimmed diagnostic := by
      simp only [event, ho]
      rfl
    have word : breaks "FAIL" = 0 := by decide
    simp only [spelled, breaks_append, breaks_clock, breaks_paint _ fail, breaks_paint _ dim, breaks_target, gap, via,
      word, Event.breaks, Event.diagnostic?, ho]
    simp

/-- A line for programs has none. -/
theorem breaks_json (color : Bool) (e : Event) : breaks (event ⟨.json, color⟩ e) = 0 := by
  refine breaks_eq_zero fun c hc => ?_
  have visible : 0x20 ≤ c.toNat := Event.unbroken_encode e c hc
  exact isBreak_eq_false.2 ⟨by rintro rfl; revert visible; decide, by rintro rfl; revert visible; decide⟩

/-! ## all that is printed -/

/-- The breaks that the line of an event takes over from the event. -/
def carried (style : Style) (e : Event) : Nat :=
  match style.format with
  | .json => 0
  | .text => e.breaks

theorem breaks_event (style : Style) (e : Event) : breaks (event style e) = carried style e := by
  obtain ⟨format, color⟩ := style
  cases format with
  | json => exact breaks_json color e
  | text => exact breaks_text color e

/-- What is printed of a feed's batches has a line for each event that is printed, and those that the events
bring along. -/
theorem breaks_printBatches (style : Style) (limit : Option Nat) (seen : Nat) (batches : List (List Event)) :
    ∃ printed, printed <+: batches.flatten ∧
      (CommandLine.printBatches style limit seen batches).1 = printed.map (event style) ∧
      breaks (CommandLine.joinLines (CommandLine.printBatches style limit seen batches).1) =
        printed.length + (printed.map (carried style)).sum := by
  obtain ⟨printed, hp, hl⟩ := Event.printBatches_eq style limit seen batches
  have hcarried : (printed.map (event style)).map breaks = printed.map (carried style) := by
    rw [List.map_map]
    exact List.map_congr_left fun e _ => breaks_event style e
  exact ⟨printed, hp, hl, by rw [hl, breaks_joinLines, hcarried, List.length_map]⟩

/-- **An event is a line, and one more for each break in its texts that is printed as it is**: written as JSON,
an event is one line whatever its texts are; written for people, coloured or not, it has the breaks of its
host, its outbound and its diagnostic and no others, so it is one line exactly if none of these is broken.
The same holds of all that is printed of a feed's batches. There is no event that a feed cannot send, so
no broken text is kept out on the way. -/
theorem printed_breaks_are_those_of_the_texts (style : Style) (e : Event) (limit : Option Nat) (seen : Nat)
    (batches : List (List Event)) :
    (breaks (event style e) = 0 ↔ style.format = .json ∨
        breaks e.host = 0 ∧ breaks e.outbound = 0 ∧
          ∀ diagnostic, e.outcome = .failed diagnostic → breaks diagnostic = 0) ∧
      breaks (event style e) = carried style e ∧
      (∃ printed, printed <+: batches.flatten ∧
        (CommandLine.printBatches style limit seen batches).1 = printed.map (event style) ∧
        breaks (CommandLine.joinLines (CommandLine.printBatches style limit seen batches).1) =
          printed.length + (printed.map (carried style)).sum) ∧
      ∃ frame, Event.decode frame = .ok e := by
  refine ⟨?_, breaks_event style e, breaks_printBatches style limit seen batches,
    e.encode, Event.decode_encode e⟩
  rw [breaks_event, carried, ← Event.breaks_eq_zero_iff]
  cases style.format with
  | json => simp
  | text => simp

/-- A host of two lines, which a frame may name, makes the line of its event two. -/
theorem broken_host_breaks_the_line :
    let e : Event := ⟨"a\nb", 0, "direct", 1, 0, .connected⟩
    Event.decode ("\x7b\"type\":\"Connected\",\"host\":\"a\\nb\",\"port\":0,\"outbound\":\"direct\","
        ++ "\"delay_millis\":1,\"request_time_millis\":0\x7d") = .ok e ∧
      event ⟨.text, false⟩ e = "00:00:00  OK    a\nb  via direct  1ms" ∧
      breaks (event ⟨.text, false⟩ e) = 1 := by
  intro e
  have written : e.encode = "\x7b\"type\":\"Connected\",\"host\":\"a\\nb\",\"port\":0,\"outbound\":\"direct\","
      ++ "\"delay_millis\":1,\"request_time_millis\":0\x7d" := by decide
  refine ⟨?_, by decide, ?_⟩
  · rw [← written]
    exact Event.decode_encode e
  · rw [breaks_text]
    decide

end Report

end ProxyKeeper
