import EntityDiagram.Session.Configuration

/-! # Actions one after another

An action with another one after it ends where the first fails, or where the second ends. A message
is delivered to one target after another, and messages are logged one after another: a relation
between sessions that every delivery keeps to is kept to by all of them together.
-/

namespace EntityDiagram

/-! ## Two actions -/

namespace Run

variable {α β : Type} {first : Run α} {second : α → Run β} {session next : Session}

theorem bind_of_ok {a : α} (h : first session = (.ok a, next)) :
    (first >>= second) session = second a next := by
  rw [bind_apply, h]

theorem bind_of_error {failure : Failure} (h : first session = (.error failure, next)) :
    (first >>= second) session = (.error failure, next) := by
  rw [bind_apply, h]

theorem get_bind (use : Session → Run α) (session : Session) :
    (Run.get >>= use) session = use session session := rfl

theorem exists_of_bind_eq_ok {after : Session} {b : β}
    (h : (first >>= second) session = (.ok b, after)) :
    ∃ a next, first session = (.ok a, next) ∧ second a next = (.ok b, after) := by
  rw [bind_apply] at h
  match hfirst : first session with
  | (.error failure, next) =>
      rw [hfirst] at h
      cases h
  | (.ok a, next) =>
      rw [hfirst] at h
      exact ⟨a, next, rfl, h⟩

/-- One action after another ends where the first ended, or where the second ends from there. -/
theorem snd_bind_cases (first : Run α) (second : α → Run β) (session : Session) :
    ((first >>= second) session).2 = (first session).2 ∨
      ∃ a, ((first >>= second) session).2 = (second a (first session).2).2 := by
  rw [bind_apply]
  rcases first session with ⟨failure | a, next⟩
  · exact .inl rfl
  · exact .inr ⟨a, rfl⟩

theorem snd_attempt (action : Run α) (session : Session) :
    (Run.attempt action session).2 = (action session).2 := by
  unfold Run.attempt
  split <;> next hrun => rw [hrun]

end Run

/-! ## Messages -/

namespace Session

/-- What each delivery keeps to, a message keeps to. -/
theorem log_of_deliver {R : Session → Session → Prop} (hrefl : ∀ session, R session session)
    (htrans : ∀ {before middle after}, R before middle → R middle after → R before after)
    {message : Log.Message} {session : Session}
    (h : ∀ target ∈ session.logging.targets message, ∀ before,
      R before (deliver message.line before target)) : R session (log message session).2 :=
  List.foldlRecOn _ _ (hrefl session) fun before hbefore target htarget =>
    htrans hbefore (h target htarget before)

/-- What each message keeps to, all of them keep to. -/
theorem logAll_of_log {R : Session → Session → Prop} (hrefl : ∀ session, R session session)
    (htrans : ∀ {before middle after}, R before middle → R middle after → R before after)
    {messages : List Log.Message}
    (h : ∀ message ∈ messages, ∀ session, R session (log message session).2) (session : Session) :
    R session (logAll messages session).2 := by
  induction messages generalizing session with
  | nil => exact hrefl session
  | cons message rest ih =>
      rw [List.forall_mem_cons] at h
      exact htrans (h.1 session) (ih h.2 (log message session).2)

theorem snd_logAll_append (messages more : List Log.Message) (session : Session) :
    (logAll (messages ++ more) session).2 = (logAll more (logAll messages session).2).2 := by
  induction messages generalizing session with
  | nil => rfl
  | cons message rest ih => exact ih (log message session).2

/-- Nothing differs but what messages are written to. -/
def SameUpToLog (before after : Session) : Prop :=
  ∃ error files, after = { before with standardError := error, files := files }

namespace SameUpToLog

theorem refl (session : Session) : session.SameUpToLog session := ⟨_, _, rfl⟩

theorem trans {before middle after : Session} (h : before.SameUpToLog middle)
    (hnext : middle.SameUpToLog after) : before.SameUpToLog after := by
  obtain ⟨_, _, rfl⟩ := h
  obtain ⟨_, _, rfl⟩ := hnext
  exact ⟨_, _, rfl⟩

end SameUpToLog

theorem sameUpToLog_log (message : Log.Message) (session : Session) :
    session.SameUpToLog (log message session).2 := by
  refine log_of_deliver .refl .trans fun target _ before => ?_
  cases target <;> exact ⟨_, _, rfl⟩

theorem sameUpToLog_logAll (messages : List Log.Message) (session : Session) :
    session.SameUpToLog (logAll messages session).2 :=
  logAll_of_log .refl .trans (fun message _ => sameUpToLog_log message) session

end Session

end EntityDiagram
