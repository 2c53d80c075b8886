import BringUp.Console.Level

/-!
# Messages with side effects

A message is printed piece by piece. While one piece is being produced, other output may arise:
a log record of its own, or a fatal text. Production may also fail, which ends the message.
-/

namespace BringUp

set_option autoImplicit false

/-- The pieces of a message, in order. -/
inductive Message where
  | finish
  | text (shown : String) (rest : Message)
  /-- A log record that arises while the message is produced. -/
  | record (level : Level) (inner rest : Message)
  /-- A fatal text that arises while the message is produced. -/
  | fatal (shown : String) (rest : Message)
  /-- Production fails; nothing more comes. -/
  | failure

namespace Message

def ofText (shown : String) : Message := text shown finish

/-- One message behind another; a message that fails has nothing behind it. -/
def append : Message → Message → Message
  | finish, behind => behind
  | text shown rest, behind => text shown (rest.append behind)
  | record level inner rest, behind => record level inner (rest.append behind)
  | fatal shown rest, behind => fatal shown (rest.append behind)
  | failure, _ => failure

end Message

end BringUp
