import BringUp.Proofs.Console.Line

/-!
# Sending under locks

What a body sends does not depend on the locks that are held around it. Every way of printing it
sends the same text: they differ in the locks that they want and in what becomes of a failure.
-/

namespace BringUp.Console

set_option autoImplicit false

/-- Nobody is printing. -/
structure Free (c : Console) : Prop where
  record : c.recordHeld = false
  port : c.portHeld = false

theorem free_ready : ready.Free := ⟨rfl, rfl⟩

/-- The console once a text has gone out on its line, behind everything before it. -/
def sent (shown : String) (c : Console) : Console :=
  { c with uart := { c.uart with sent := c.uart.sent ++ Text.blanked (Text.utf8 shown) } }

theorem sent_empty (c : Console) : c.sent "" = c := by
  have hnone : Text.blanked (Text.utf8 "") = [] := by decide
  rw [sent, hnone, List.append_nil]

theorem sent_sent (first second : String) (c : Console) :
    (c.sent first).sent second = c.sent (first ++ second) := by
  rw [sent, sent, sent, Text.utf8_append, Text.blanked_append, List.append_assoc]

theorem Free.sent {c : Console} (h : c.Free) (shown : String) : (c.sent shown).Free :=
  ⟨h.record, h.port⟩

/-- While a threshold is in force, `body` sends `shown` and answers `value` whatever is held, and
nothing but the line has changed afterwards. -/
def Sends {α : Type} (threshold : Option Level) (body : Action Console α) (shown : String)
    (value : α) : Prop :=
  ∀ c : Console, c.maxLevel = threshold → body c = .ok value (c.sent shown)

section Bodies

variable {threshold : Option Level} {body : Action Console Bool} {shown : String} {complete : Bool}

theorem sends_pure {α : Type} (value : α) : Sends threshold (pure value) "" value := by
  intro c _
  rw [sent_empty]
  rfl

theorem sends_put (shown : String) : Sends threshold (put shown) shown true := by
  intro c _
  rw [put, Uart.sendText_eq]
  rfl

/-- What is sent first comes first. -/
theorem Sends.bind {α β : Type} {first : Action Console α} {next : α → Action Console β}
    {value : α} {result : β} {before behind : String} (hfirst : Sends threshold first before value)
    (hnext : Sends threshold (next value) behind result) :
    Sends threshold (first >>= next) (before ++ behind) result := by
  intro c hc
  rw [Action.bind_ok (hfirst c hc), hnext (c.sent before) hc, sent_sent]

/-- A record's line, which is left open if the record's text has failed. -/
def lineText (level : Level) (shown : String) (complete : Bool) : String :=
  "[" ++ level.name ++ "] " ++ shown ++ if complete then "\n" else ""

theorem Sends.recordLine (h : Sends threshold body shown complete) (level : Level) :
    Sends threshold (recordLine level body) (lineText level shown complete) complete := by
  have hend : Sends threshold (if complete then put "\n" else pure false)
      (if complete then "\n" else "") complete := by
    cases complete with
    | true => exact sends_put "\n"
    | false => exact sends_pure false
  rw [lineText, String.append_assoc]
  exact (sends_put _).bind (h.bind hend)

/-- A fatal printer takes the port if it can, sends the same either way, and leaves the lock as it
found it. -/
theorem Sends.printingFatal (h : Sends threshold body shown complete) :
    Sends threshold (printingFatal body) shown () := by
  intro c hc
  obtain ⟨maxLevel, installed, recordHeld, portHeld, uart⟩ := c
  have hsent := h ⟨maxLevel, installed, recordHeld, true, uart⟩ hc
  have hwrite : writeOrSteal tryTakePort releasePort body body
      ⟨maxLevel, installed, recordHeld, portHeld, uart⟩ =
        .ok complete (sent shown ⟨maxLevel, installed, recordHeld, portHeld, uart⟩) := by
    cases portHeld with
    | false => exact Action.releasing_ok hsent
    | true => exact hsent
  exact Action.bind_ok hwrite

/-- An error's record takes the record lock if it can and does without it otherwise. -/
theorem Sends.logging_error (h : Sends threshold body shown complete)
    (hwithin : Level.error.Within threshold) :
    Sends threshold (logging .error body) (lineText .error shown complete) () := by
  intro c hc
  obtain ⟨maxLevel, installed, recordHeld, portHeld, uart⟩ := c
  subst hc
  have hline := (h.recordLine .error).printingFatal ⟨maxLevel, installed, true, portHeld, uart⟩ rfl
  rw [logging, Action.bind_get, if_pos (enabled_iff.mpr hwithin), if_pos rfl]
  cases recordHeld with
  | false => exact Action.releasing_ok hline
  | true => exact hline

/-- A record above the threshold is not even put together. -/
theorem sends_dropped {level : Level} (habove : ¬ level.Within threshold)
    (body : Action Console Bool) : Sends threshold (logging level body) "" () := by
  intro c hc
  subst hc
  rw [logging, Action.bind_get, if_neg (mt enabled_iff.mp habove), sent_empty]
  rfl

end Bodies

section Printing

variable {c : Console} {body : Action Console Bool} {shown : String} {complete : Bool}

/-- How printing ends: a text that was not put together to its end is a broken rule. -/
def settled (complete : Bool) (c : Console) : EStateM.Result Stop Console Unit :=
  if complete then .ok () c else .error (.fault .printFailed) c

/-- A printer that finds the port free sends its text and gives the port back, also when the text
fails. -/
theorem Sends.printing (h : Sends c.maxLevel body shown complete) (hport : c.portHeld = false) :
    printing body c = settled complete (c.sent shown) := by
  obtain ⟨maxLevel, installed, recordHeld, portHeld, uart⟩ := c
  cases hport
  have htake : takePort ⟨maxLevel, installed, recordHeld, false, uart⟩ =
      .ok () ⟨maxLevel, installed, recordHeld, true, uart⟩ := rfl
  have hbody : body.releasing releasePort ⟨maxLevel, installed, recordHeld, true, uart⟩ =
      .ok complete (sent shown ⟨maxLevel, installed, recordHeld, false, uart⟩) :=
    Action.releasing_ok (h ⟨maxLevel, installed, recordHeld, true, uart⟩ rfl)
  rw [Console.printing, Action.bind_ok htake, Action.bind_ok hbody]
  cases complete with
  | true => rfl
  | false => rfl

/-- A record below an error that finds both locks free gives both back. -/
theorem Sends.logging (h : Sends c.maxLevel body shown complete) (hfree : c.Free) {level : Level}
    (hlevel : level ≠ .error) (hwithin : level.Within c.maxLevel) :
    logging level body c = settled complete (c.sent (lineText level shown complete)) := by
  obtain ⟨maxLevel, installed, recordHeld, portHeld, uart⟩ := c
  obtain ⟨hrecord, hport⟩ := hfree
  cases hrecord
  cases hport
  have htake : takeRecord ⟨maxLevel, installed, false, false, uart⟩ =
      .ok () ⟨maxLevel, installed, true, false, uart⟩ := rfl
  have hprint := (h.recordLine level).printing (c := ⟨maxLevel, installed, true, false, uart⟩) rfl
  rw [Console.logging, Action.bind_get, if_pos (enabled_iff.mpr hwithin), if_neg hlevel,
    Action.bind_ok htake]
  cases complete with
  | true => exact Action.releasing_ok hprint
  | false => exact Action.releasing_error hprint

end Printing

end BringUp.Console
