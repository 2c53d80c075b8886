import BringUp.Proofs.Console.Logging

/-!
# Messages within messages

Producing a message may print others on the way: records of errors, records above the
threshold, and fatal texts. None of them waits for a lock, so at every depth all of it comes out in
the order in which it arises, and a failure ends the message that it arises in and no other. The
bytes of it are those of the text, but for the erasing ones, which are blanked out.
-/

namespace BringUp

set_option autoImplicit false

namespace Message

/-- Whether a message is produced to its end. What fails within it does not count. -/
def completes : Message → Bool
  | finish => true
  | text _ rest => rest.completes
  | record _ _ rest => rest.completes
  | fatal _ rest => rest.completes
  | failure => false

/-- All that comes out while a message is produced. -/
def printed (threshold : Option Level) : Message → String
  | finish => ""
  | text shown rest => shown ++ rest.printed threshold
  | record level inner rest =>
      (if level.Within threshold then
        Console.lineText level (inner.printed threshold) inner.completes else "") ++
        rest.printed threshold
  | fatal shown rest => shown ++ rest.printed threshold
  | failure => ""

/-- Every record that arises is of an error or above the threshold. The text of one above it is
never produced, so it may be anything. -/
def Nests (threshold : Option Level) : Message → Prop
  | finish => True
  | text _ rest => rest.Nests threshold
  | record level inner rest =>
      (¬ level.Within threshold ∨ level = .error ∧ inner.Nests threshold) ∧
        rest.Nests threshold
  | fatal _ rest => rest.Nests threshold
  | failure => True

instance (threshold : Option Level) : (message : Message) → Decidable (message.Nests threshold)
  | finish => isTrue trivial
  | text _ rest => instDecidableNests threshold rest
  | record _ inner rest =>
      have := instDecidableNests threshold inner
      have := instDecidableNests threshold rest
      inferInstanceAs (Decidable (_ ∧ _))
  | fatal _ rest => instDecidableNests threshold rest
  | failure => isTrue trivial

end Message

namespace Console

variable {threshold : Option Level}

/-- A record within a message sends its line, or nothing if it is above the threshold, and its
failure stays its own. -/
theorem sends_inner {level : Level} {body : Action Console Bool} {shown : String} {complete : Bool}
    (h : ¬ level.Within threshold ∨ level = .error ∧ Sends threshold body shown complete) :
    Sends threshold (logging level body)
      (if level.Within threshold then lineText level shown complete else "") () := by
  by_cases hwithin : level.Within threshold
  · rw [if_pos hwithin]
    rcases h with habove | ⟨rfl, hbody⟩
    · exact absurd hwithin habove
    · exact hbody.logging_error hwithin
  · rw [if_neg hwithin]
    exact sends_dropped hwithin body

/-- Whatever is held around it, a message sends its pieces in order, to any depth. -/
theorem sends_send (message : Message) (hnests : message.Nests threshold) :
    Sends threshold message.send (message.printed threshold) message.completes := by
  -- `Sends` speaks of all lock states at once, so it can be used for a record's own message, which
  -- is produced with more held than the message around it.
  induction message with
  | finish => exact sends_pure true
  | text shown rest ih => exact (sends_put shown).bind (ih hnests)
  | record level inner rest ihInner ihRest =>
    obtain ⟨hrecord, hrest⟩ := hnests
    exact (sends_inner (hrecord.imp_right fun ⟨herror, hinner⟩ => ⟨herror, ihInner hinner⟩)).bind
      (ihRest hrest)
  | fatal shown rest ih => exact (sends_put shown).printingFatal.bind (ih hnests)
  | failure => exact sends_pure false

/-- How a console is left once a text has gone out on its line. -/
structure Carried (shown : String) (before after : Console) : Prop where
  bytes : after.uart.sent = before.uart.sent ++ Text.blanked (Text.utf8 shown)
  /-- A text without erasing bytes goes out byte for byte. -/
  whole : (∀ byte ∈ Text.utf8 shown, ¬ Text.Erases byte) →
    after.uart.sent = before.uart.sent ++ Text.utf8 shown
  free : after.Free
  rest : after = { before with uart := { before.uart with sent := after.uart.sent } }

theorem carried_sent {c : Console} (hfree : c.Free) (shown : String) :
    Carried shown c (c.sent shown) where
  bytes := rfl
  whole h := by
    show c.uart.sent ++ Text.blanked (Text.utf8 shown) = _
    rw [Text.blanked_of_not_erases h]
  free := hfree.sent shown
  rest := rfl

/-- A message of which nothing can wait for a lock goes out whole and in order, however deep its
records nest, and the locks are free afterwards. As a record it is dropped or goes out as one line,
printed plainly it goes out as it is; both break a rule if it fails, unless the record is of an
error. A fatal printer lets every failure pass. -/
theorem messages_whole {c : Console} (hfree : c.Free) {message : Message}
    (hnests : message.Nests c.maxLevel) (level : Level) :
    (¬ level.Within c.maxLevel → logging level message.send c = .ok () c) ∧
    (level.Within c.maxLevel → ∃ c',
      logging level message.send c = settled (message.completes || level = .error) c' ∧
        Carried (lineText level (message.printed c.maxLevel) message.completes) c c') ∧
    (∃ c', print message c = settled message.completes c' ∧
      Carried (message.printed c.maxLevel) c c') ∧
    (∃ c', printFatal message c = .ok () c' ∧ Carried (message.printed c.maxLevel) c c') := by
  have hsend := sends_send message hnests
  refine ⟨fun habove => logging_dropped habove message.send, fun hwithin => ?_,
    ⟨_, hsend.printing hfree.port, carried_sent hfree _⟩,
    ⟨_, hsend.printingFatal c rfl, carried_sent hfree _⟩⟩
  refine ⟨_, ?_, carried_sent hfree _⟩
  by_cases herror : level = .error
  · subst herror
    rw [settled, if_pos (by simp)]
    exact hsend.logging_error hwithin c rfl
  · rw [hsend.logging hfree herror hwithin, decide_eq_false herror, Bool.or_false]

/-- A warning fails behind an error's record that has failed on its own, with a dropped record and
a fatal text in it. -/
theorem failing_message_whole :
    let message := Message.text "a" (.record .error
      (.text "b" (.record .trace .failure (.fatal "c" .failure))) (.text "d" .failure))
    ∃ warned fatal, logging .warn message.send ready = .error (.fault .printFailed) warned ∧
      warned.uart.sent = Text.utf8 "[WARN] a[ERROR] bcd" ∧
      printFatal message ready = .ok () fatal ∧ fatal.uart.sent = Text.utf8 "a[ERROR] bcd" := by
  intro message
  have hnests : message.Nests ready.maxLevel := by decide
  obtain ⟨-, hlog, -, fatal, hfatal, hprinted⟩ := messages_whole free_ready hnests .warn
  obtain ⟨warned, hwarned, hline⟩ := hlog ⟨.debug, rfl, by decide⟩
  have htext : message.printed ready.maxLevel = "a[ERROR] bcd" := by decide
  have hwhole : lineText .warn (message.printed ready.maxLevel) message.completes =
      "[WARN] a[ERROR] bcd" := by
    rw [htext]
    decide
  rw [htext] at hprinted
  rw [hwhole] at hline
  exact ⟨warned, fatal, hwarned, hline.whole (by decide +kernel), hfatal,
    hprinted.whole (by decide +kernel)⟩

/-- A text with a backspace does not reach the line as it is: three bytes go out for one. -/
theorem backspace_blanked :
    ∃ c, print (.ofText "a\x08b") ready = .ok () c ∧
      c.uart.sent = [0x61, 0x08, 0x20, 0x08, 0x62] ∧
      c.uart.sent ≠ ready.uart.sent ++ Text.utf8 "a\x08b" :=
  ⟨ready.sent "a\x08b", rfl, by decide, by decide⟩

end Console

end BringUp
