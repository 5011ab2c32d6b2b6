/-
What is printed of the view of a profile engine for people, by what the view
says: one line for each state, and no line of one state is a line of another.

Every line opens with the number of a generation and a colon, so two lines
agree only if they agree in what follows (`line_inj`). What follows is told
apart by its first letter, whatever names and messages stand behind it.
-/
import ProxyKeeper.Report

namespace ProxyKeeper.Report

/-! ## lines -/

/-- A line about a generation. -/
def line (generation : Nat) (text : String) : String := "generation " ++ toString generation ++ ": " ++ text

/-- What is printed while an engine is stopped or nothing is selected. -/
def idleLine (generation : Nat) : String := s!"generation {generation}: idle"

/-- What is printed while a profile runs. -/
def runningLine (generation : Nat) (name : String) (port : UInt16) : String :=
  s!"generation {generation}: profile '{name}' running, events on port {port}"

/-- What is printed of an attempt that failed. -/
def failedLine (generation : Nat) (message : String) : String := s!"generation {generation}: failed: {message}"

theorem idleLine_eq (g : Nat) : idleLine g = line g "idle" := by
  rw [idleLine, line]
  simp only [String.append_assoc]
  rfl

theorem runningLine_eq (g : Nat) (name : String) (port : UInt16) :
    runningLine g name port = line g ("profile '" ++ (name ++ ("' running, events on port " ++ toString port))) := by
  rw [runningLine, line]
  simp only [String.append_assoc]
  rfl

theorem failedLine_eq (g : Nat) (message : String) : failedLine g message = line g ("failed: " ++ message) := by
  rw [failedLine, line]
  simp only [String.append_assoc]
  rfl

theorem isDigit_of_mem_toString {n : Nat} {c : Char} (h : c ∈ (toString n).toList) : c.isDigit = true := by
  rw [Nat.toString_eq_ofList_toDigits, String.toList_ofList] at h
  exact Nat.isDigit_of_mem_toDigits (Nat.succ_pos 9) (Nat.le_refl 10) h

/-- Lines say the same only if the same follows the number. -/
theorem line_inj {m n : Nat} {a b : String} (h : line m a = line n b) : a = b := by
  have colon : ∀ (n : Nat) (s : List Char),
      ((toString n).toList ++ ':' :: s).dropWhile Char.isDigit = ':' :: s := fun n s =>
    List.dropWhile_append_of_pos (fun c hc => isDigit_of_mem_toString hc)
  have h := congrArg String.toList h
  simp only [line, String.append_assoc, String.toList_append] at h
  have h := congrArg (List.dropWhile Char.isDigit) (List.append_cancel_left h)
  have h : ':' :: ' ' :: a.toList = ':' :: ' ' :: b.toList := (colon m _).symm.trans (h.trans (colon n _))
  exact String.toList_injective (List.cons.inj (List.cons.inj h).2).2

/-! ## one state from another -/

theorem runningLine_ne_idleLine (m n : Nat) (name : String) (port : UInt16) :
    runningLine m name port ≠ idleLine n := by
  rw [runningLine_eq, idleLine_eq]
  intro h
  have h := congrArg String.toList (line_inj h)
  simp at h

theorem runningLine_ne_failedLine (m n : Nat) (name message : String) (port : UInt16) :
    runningLine m name port ≠ failedLine n message := by
  rw [runningLine_eq, failedLine_eq]
  intro h
  have h := congrArg String.toList (line_inj h)
  simp at h

/-- A painted line opens with a code of the terminal, which no line about a generation does. -/
theorem runningLine_ne_red (m : Nat) (name s : String) (port : UInt16) : runningLine m name port ≠ red s := by
  have opens : red s = "\x1b[" ++ ("31m" ++ s ++ "\x1b[39m") := by
    rw [red, coloured]
    simp only [String.append_assoc]
    rfl
  rw [runningLine_eq, opens, line]
  intro h
  have h := congrArg String.toList h
  simp at h

/-! ## the view of a profile engine -/

variable {v : ProfileView}

theorem profile_of_running {set : ProfileSet} {p : Profile} (hv : v.outcome = some .running)
    (hset : v.configUsed = some set) (hp : set.selectedProfile? = some p) (color : Bool) :
    profile ⟨.text, color⟩ v = runningLine v.generation p.name set.apiServerPort := by
  have hr : v.isRunning = true := by rw [ProfileView.isRunning, hv]; rfl
  have hname : profileName? v = some p.name := by simp [profileName?, hset, hp]
  have hf : v.failure? = none := by rw [ProfileView.failure?, hv]; rfl
  have hport : v.activeEndpoint = some set.apiServerPort := by rw [ProfileView.activeEndpoint, hr, hset]; rfl
  simp only [profile, hname, hf, hr, hport, runningLine, if_true, Option.getD_some]

theorem profile_of_not_running (hv : v.isRunning = false) (color : Bool) :
    profile ⟨.text, color⟩ v = idleLine v.generation ∨
      ∃ message, v.outcome = some (.failed message) ∧
        profile ⟨.text, color⟩ v = Style.paint ⟨.text, color⟩ red (failedLine v.generation message) := by
  cases ho : v.outcome with
  | none =>
    have hf : v.failure? = none := by rw [ProfileView.failure?, ho]; rfl
    refine .inl ?_
    cases hn : profileName? v <;> simp [profile, hn, hf, hv, idleLine]
  | some status =>
    cases status with
    | running => simp [ProfileView.isRunning, ho, Status.isRunning] at hv
    | failed message =>
      have hf : v.failure? = some message := by rw [ProfileView.failure?, ho]; rfl
      exact .inr ⟨message, rfl, by simp [profile, hf, failedLine]⟩

theorem profile_ne_runningLine (hv : v.isRunning = false) (color : Bool) (g : Nat) (name : String) (port : UInt16) :
    profile ⟨.text, color⟩ v ≠ runningLine g name port := by
  rcases profile_of_not_running hv color with h | ⟨message, -, h⟩ <;> rw [h]
  · exact (runningLine_ne_idleLine g v.generation name port).symm
  · cases color with
    | false => exact (runningLine_ne_failedLine g v.generation name message port).symm
    | true => exact (runningLine_ne_red g name _ port).symm

end ProxyKeeper.Report
