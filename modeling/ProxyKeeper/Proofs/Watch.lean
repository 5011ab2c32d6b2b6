/-
What a watcher is told, by versions: of a change exactly when there was a
publication since it looked (`notice_eq_changed_iff`), and of the end only
when there was none.
-/
import ProxyKeeper.Watch

namespace ProxyKeeper.Watch

variable {α β ε : Type} {w : Watch α} {o : Watcher}

theorem notice_eq_changed_iff : w.notice o = .changed ↔ w.version ≠ o.seen := by
  rw [notice]
  by_cases hv : w.version = o.seen <;> cases hl : w.live <;> simp [hv]

/-- A watcher that has seen everything is told by the publisher alone. -/
theorem notice_of_seen (h : w.version = o.seen) : w.notice o = if w.live then .pending else .closed := by
  rw [notice, if_neg fun hne => hne h]

theorem live_of_notice_closed (h : w.notice o = .closed) : w.live = false := by
  rw [notice] at h
  split at h
  · cases h
  · split at h
    · cases h
    · rename_i hl; simpa using hl

@[simp] theorem seen_subscribe (w : Watch α) : w.subscribe.seen = w.version := rfl

@[simp] theorem version_publish (v : α) (w : Watch α) : (w.publish v).version = w.version + 1 := rfl

@[simp] theorem value_publish (v : α) (w : Watch α) : (w.publish v).value = v := rfl

@[simp] theorem live_publish (v : α) (w : Watch α) : (w.publish v).live = w.live := rfl

theorem update_of_ok {edit : α → Except ε (α × β)} {v : α} {b : β} (h : edit w.value = .ok (v, b)) :
    w.update edit = (w.publish v, .ok b) := by
  rw [update, h]

theorem update_of_error {edit : α → Except ε (α × β)} {e : ε} (h : edit w.value = .error e) :
    w.update edit = (w, .error e) := by
  rw [update, h]

/-- An edit publishes its outcome, or leaves the watch as it is. -/
theorem update_cases (edit : α → Except ε (α × β)) (w : Watch α) :
    (∃ v b, edit w.value = .ok (v, b) ∧ w.update edit = (w.publish v, .ok b)) ∨
      ∃ e, edit w.value = .error e ∧ w.update edit = (w, .error e) := by
  rw [update]
  cases h : edit w.value with
  | ok r => exact .inl ⟨r.1, r.2, rfl, rfl⟩
  | error e => exact .inr ⟨e, rfl, rfl⟩

end ProxyKeeper.Watch
