import BringUp.Code
import BringUp.Proofs.Console.Sending

/-!
# Logging

With both locks free a record is never kept waiting: it is sent whole if its level passes, and
either way the locks are free again afterwards. A record of an error does not even need them: it
is sent past whoever holds them.
-/

namespace BringUp.Console

set_option autoImplicit false

/-- A record's line in full. -/
def recordText (level : Level) (shown : String) : String :=
  "[" ++ level.name ++ "] " ++ shown ++ "\n"

theorem lineText_complete (level : Level) (shown : String) :
    lineText level shown true = recordText level shown := rfl

/-- The console once a record of plain text has been logged. -/
def logged (level : Level) (shown : String) (c : Console) : Console :=
  if level.Within c.maxLevel then c.sent (recordText level shown) else c

theorem free_logged {c : Console} (h : c.Free) (level : Level) (shown : String) :
    (c.logged level shown).Free := by
  unfold logged
  split
  · exact ⟨h.record, h.port⟩
  · exact h

/-- The console once a record has been logged, if there was anything to log. -/
def loggedIf (condition : Bool) (level : Level) (shown : String) (c : Console) : Console :=
  if condition then c.logged level shown else c

theorem loggedIf_true (level : Level) (shown : String) (c : Console) :
    c.loggedIf true level shown = c.logged level shown := rfl

theorem loggedIf_false (level : Level) (shown : String) (c : Console) :
    c.loggedIf false level shown = c := rfl

theorem free_loggedIf {c : Console} (h : c.Free) (condition : Bool) (level : Level)
    (shown : String) : (c.loggedIf condition level shown).Free := by
  unfold loggedIf
  split
  · exact free_logged h level shown
  · exact h

theorem logged_of_within {c : Console} {level : Level} (h : level.Within c.maxLevel)
    (shown : String) : c.logged level shown = c.sent (recordText level shown) := if_pos h

theorem logged_of_above {c : Console} {level : Level} (h : ¬ level.Within c.maxLevel)
    (shown : String) : c.logged level shown = c := if_neg h

/-- A record above the threshold leaves everything as it was. -/
theorem logging_dropped {c : Console} {level : Level} (h : ¬ level.Within c.maxLevel)
    (body : Action Console Bool) : logging level body c = .ok () c := by
  have hsent := sends_dropped h body c rfl
  rwa [sent_empty] at hsent

/-- A record of an error is sent whatever is held, and all that was held is still held. -/
theorem logging_error (shown : String) (c : Console) :
    logging .error (put shown) c = .ok () (c.logged .error shown) := by
  by_cases hwithin : Level.error.Within c.maxLevel
  · rw [logged_of_within hwithin, ← lineText_complete]
    exact (sends_put shown).logging_error hwithin c rfl
  · rw [logged_of_above hwithin, logging_dropped hwithin]

/-- A plain record is logged at once. -/
theorem logging_put {c : Console} (h : c.Free) (level : Level) (shown : String) :
    logging level (put shown) c = .ok () (c.logged level shown) := by
  by_cases hl : level = .error
  · subst hl
    exact logging_error shown c
  by_cases hwithin : level.Within c.maxLevel
  · rw [logged_of_within hwithin, (sends_put shown).logging h hl hwithin, lineText_complete]
    rfl
  · rw [logged_of_above hwithin, logging_dropped hwithin]

/-- A record below an error that lies within the threshold waits for whoever prints. -/
theorem logging_waits {c : Console} {level : Level} (hlevel : level ≠ .error)
    (hwithin : level.Within c.maxLevel) (hprinting : ¬ c.Free) (body : Action Console Bool) :
    ∃ stuck, logging level body c = .error .blocked stuck := by
  obtain ⟨maxLevel, installed, recordHeld, portHeld, uart⟩ := c
  rw [logging, Action.bind_get, if_pos (enabled_iff.mpr hwithin), if_neg hlevel]
  cases recordHeld with
  | true => exact ⟨_, Action.bind_error rfl⟩
  | false =>
    cases portHeld with
    | false => exact absurd ⟨rfl, rfl⟩ hprinting
    | true =>
      have htake : takeRecord ⟨maxLevel, installed, false, true, uart⟩ =
          .ok () ⟨maxLevel, installed, true, true, uart⟩ := rfl
      rw [Action.bind_ok htake]
      exact ⟨_, Action.releasing_error (Action.bind_error rfl)⟩

/-- A plain record is done with at once, unless it waits for somebody who prints. -/
theorem logging_put_or_waits (level : Level) (shown : String) (c : Console) :
    logging level (put shown) c = .ok () (c.logged level shown) ∨
      (¬ c.Free ∧ ∃ stuck, logging level (put shown) c = .error .blocked stuck) := by
  by_cases hfree : c.Free
  · exact .inl (logging_put hfree level shown)
  by_cases hlevel : level = .error
  · subst hlevel
    exact .inl (logging_error shown c)
  by_cases hwithin : level.Within c.maxLevel
  · exact .inr ⟨hfree, logging_waits hlevel hwithin hfree (put shown)⟩
  · rw [logged_of_above hwithin]
    exact .inl (logging_dropped hwithin (put shown))

variable {σ : Type} [HasConsole σ]

/-- Whatever becomes of a record, nothing but the console changes. -/
theorem after_log (level : Level) (shown : String) (s : σ) :
    ∃ c, Code.after (log level shown) s = HasConsole.withConsole c s := by
  rw [Code.after, log, Action.inPlace, Action.within]
  cases logging level (put shown) (HasConsole.console s) with
  | ok value c => exact ⟨c, rfl⟩
  | error stop c => exact ⟨c, rfl⟩

theorem log_error (shown : String) (s : σ) :
    log .error shown s =
      .ok () (HasConsole.withConsole ((HasConsole.console s).logged .error shown) s) :=
  Action.inPlace_ok (logging_error shown (HasConsole.console s))

theorem log_free {s : σ} (h : (HasConsole.console s).Free) (level : Level) (shown : String) :
    log level shown s =
      .ok () (HasConsole.withConsole ((HasConsole.console s).logged level shown) s) :=
  Action.inPlace_ok (logging_put h level shown)

theorem log_if_free {s : σ} (h : (HasConsole.console s).Free)
    (hs : HasConsole.withConsole (HasConsole.console s) s = s) (condition : Prop)
    [Decidable condition] (level : Level) (shown : String) :
    (if condition then log level shown else pure PUnit.unit : Action σ PUnit) s =
      .ok () (HasConsole.withConsole
        ((HasConsole.console s).loggedIf (decide condition) level shown) s) := by
  by_cases hc : condition
  · rw [if_pos hc, log_free h, loggedIf, if_pos (decide_eq_true hc)]
  · rw [if_neg hc, loggedIf, if_neg (by simpa using hc), hs]
    rfl

end BringUp.Console
