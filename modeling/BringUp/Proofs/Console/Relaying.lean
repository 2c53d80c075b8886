import BringUp.Console.Relay
import BringUp.Proofs.Console.Nesting

/-!
# Where written text ends up

A call writes to the guarded sink when it finds the lock free, and to the spare one when somebody
holds it. Over any number of calls each sink gets the pieces that it took in the calls that reached
it, in order and once each, and nothing else. A call stops at its first refused or failing piece
and says so; what it leaves out is not tried on the other sink, and the lock is as it was.
-/

namespace BringUp

set_option autoImplicit false

namespace Message

/-- The pieces that a message produces, up to its failure if it has one. -/
def texts : Message → List String
  | finish => []
  | text shown rest => shown :: rest.texts
  | record _ _ rest => rest.texts
  | fatal _ rest => rest.texts
  | failure => []

/-- Every record that arises while the message is produced is let through, whatever has gone out
on the console's line by then. A message without records always returns, also if it fails. -/
def Returns (c : Console) : Message → Prop
  | finish => True
  | text _ rest => rest.Returns c
  | record level inner rest =>
      (∀ shown, ∃ more,
        Console.logging level inner.send (c.sent shown) = .ok () (c.sent (shown ++ more))) ∧
        rest.Returns c
  | fatal _ rest => rest.Returns c
  | failure => True

variable {c : Console}

/-- A message of which nothing waits for a lock returns. -/
theorem returns_of_nests {message : Message} (hnests : message.Nests c.maxLevel) :
    message.Returns c := by
  induction message with
  | finish => trivial
  | text shown rest ih => exact ih hnests
  | record level inner rest _ ihRest =>
    obtain ⟨hrecord, hrest⟩ := hnests
    have hsends := Console.sends_inner
      (hrecord.imp_right fun ⟨herror, hinner⟩ => ⟨herror, Console.sends_send inner hinner⟩)
    refine ⟨fun shown => ?_, ihRest hrest⟩
    have hsent := hsends (c.sent shown) rfl
    rw [Console.sent_sent] at hsent
    exact ⟨_, hsent⟩
  | fatal shown rest ih => exact ih hnests
  | failure => trivial

theorem Returns.sent {message : Message} (h : message.Returns c) (before : String) :
    message.Returns (c.sent before) := by
  induction message with
  | finish => trivial
  | text shown rest ih => exact ih h
  | record level inner rest _ ihRest =>
    refine ⟨fun shown => ?_, ihRest h.2⟩
    obtain ⟨more, hmore⟩ := h.1 (before ++ shown)
    refine ⟨more, ?_⟩
    rw [Console.sent_sent, Console.sent_sent, hmore, String.append_assoc]
  | fatal shown rest ih => exact ih h
  | failure => trivial

end Message

namespace Sink

/-- The pieces that are taken when some are offered in turn: those ahead of the first refusal. -/
def taken : List String → Sink → List String
  | [], _ => []
  | piece :: rest, sink =>
      match sink.offer piece with
      | (true, sink') => piece :: taken rest sink'
      | (false, _) => []

/-- The sink once pieces have been offered in turn, up to the first refusal. -/
def after : List String → Sink → Sink
  | [], sink => sink
  | piece :: rest, sink =>
      match sink.offer piece with
      | (true, sink') => after rest sink'
      | (false, sink') => sink'

/-- What is taken of several messages, each up to its own first refusal. -/
def takenOf : List Message → Sink → List String
  | [], _ => []
  | message :: rest, sink => sink.taken message.texts ++ takenOf rest (sink.after message.texts)

def afterAll (messages : List Message) (sink : Sink) : Sink :=
  messages.foldl (fun sink message => sink.after message.texts) sink

theorem contents_after (pieces : List String) (sink : Sink) :
    (sink.after pieces).contents = sink.contents ++ String.join (sink.taken pieces) := by
  induction pieces generalizing sink with
  | nil => simp [after, taken]
  | cons piece rest ih =>
    cases h : sink.accepts sink.offered sink.contents piece with
    | true =>
      rw [after, taken, offer_accepted h]
      simp only [ih, String.join_cons, String.append_assoc]
    | false =>
      rw [after, taken, offer_refused h]
      simp

theorem contents_afterAll (messages : List Message) (sink : Sink) :
    (sink.afterAll messages).contents =
      sink.contents ++ String.join (sink.takenOf messages) := by
  induction messages generalizing sink with
  | nil => simp [afterAll, takenOf]
  | cons message rest ih =>
    have hrest : (sink.afterAll (message :: rest)).contents = _ := ih (sink.after message.texts)
    rw [hrest, contents_after, takenOf, String.join_append, String.append_assoc]

/-- Nothing is passed over: what follows the pieces taken is a piece that the sink refuses. -/
theorem taken_stops (pieces : List String) (sink : Sink) :
    sink.taken pieces = pieces ∨ ∃ piece rest, pieces = sink.taken pieces ++ piece :: rest ∧
      ((sink.after (sink.taken pieces)).offer piece).1 = false := by
  induction pieces generalizing sink with
  | nil => exact .inl rfl
  | cons piece rest ih =>
    cases h : sink.accepts sink.offered sink.contents piece with
    | true =>
      rw [taken, offer_accepted h]
      simp only [after, offer_accepted h]
      obtain hall | ⟨refused, behind, hrest, hrefused⟩ := ih _
      · exact .inl (congrArg (piece :: ·) hall)
      · exact .inr ⟨refused, behind, congrArg (piece :: ·) hrest, hrefused⟩
    | false =>
      rw [taken, offer_refused h]
      refine .inr ⟨piece, rest, rfl, ?_⟩
      rw [after, offer_refused h]

end Sink

namespace Side

def other : Side → Side
  | .guarded => .spare
  | .spare => .guarded

end Side

namespace Relay

/-- The relay once one of its sinks has become `sink` and a text has gone out on the console. -/
def moved (side : Side) (sink : Sink) (shown : String) (relay : Relay) : Relay :=
  { relay.withSink side sink with console := relay.console.sent shown }

section Moved

variable (side : Side) (sink : Sink) (shown : String) (relay : Relay)

theorem sink_moved : (relay.moved side sink shown).sink side = sink := by
  cases side <;> rfl

theorem moved_still : relay.moved side (relay.sink side) "" = relay := by
  rw [moved, Console.sent_empty]
  cases side <;> rfl

theorem moved_moved (sink' : Sink) (behind : String) :
    (relay.moved side sink shown).moved side sink' behind =
      relay.moved side sink' (shown ++ behind) := by
  cases side <;> simp only [moved, withSink, Console.sent_sent]

end Moved

theorem offer_eq (side : Side) (piece : String) (relay : Relay) :
    offer side piece relay =
      .ok ((relay.sink side).offer piece).1
        (relay.moved side ((relay.sink side).offer piece).2 "") := by
  rw [moved, Console.sent_empty]
  cases side <;> rfl

/-- What goes out on the console meanwhile does not touch the sinks. -/
theorem inPlace_eq (side : Side) {body : Action Console Unit} {shown : String} {relay : Relay}
    (h : body relay.console = .ok () (relay.console.sent shown)) :
    Action.inPlace body relay = .ok () (relay.moved side (relay.sink side) shown) := by
  have hbody : body (HasConsole.console relay) = .ok () (relay.console.sent shown) := h
  rw [Action.inPlace_ok hbody]
  cases side <;> rfl

/-- A message goes into the sink that it is written to, as far as the sink takes it. It is written
completely if every piece is taken and the message is produced to its end. -/
theorem write_message (side : Side) (message : Message) (relay : Relay)
    (hreturns : message.Returns relay.console) :
    ∃ shown, message.write (offer side) Action.inPlace relay =
      .ok (decide ((relay.sink side).taken message.texts = message.texts) && message.completes)
        (relay.moved side ((relay.sink side).after message.texts) shown) := by
  -- Each piece leaves another relay for the rest: only the sink and the console's line have moved,
  -- and neither stops a record from being let through.
  induction message generalizing relay with
  | finish => exact ⟨"", by rw [Message.texts, Sink.after, moved_still]; rfl⟩
  | text piece rest ih =>
    have hoffer := offer_eq side piece relay
    rw [Message.write, Message.texts, Sink.after, Sink.taken, Message.completes]
    cases htaken : (relay.sink side).accepts (relay.sink side).offered
        (relay.sink side).contents piece with
    | true =>
      rw [Sink.offer_accepted htaken] at hoffer ⊢
      rw [Action.bind_ok hoffer]
      obtain ⟨shown, hrest⟩ := ih (relay.moved side _ "") (hreturns.sent "")
      rw [sink_moved, moved_moved] at hrest
      refine ⟨"" ++ shown, hrest.trans ?_⟩
      simp only [List.cons.injEq, true_and]
    | false =>
      rw [Sink.offer_refused htaken] at hoffer ⊢
      rw [Action.bind_ok hoffer]
      exact ⟨"", rfl⟩
  | record level inner rest _ ihRest =>
    obtain ⟨hrecord, hrest⟩ := hreturns
    obtain ⟨more, hlog⟩ := hrecord ""
    rw [Console.sent_empty] at hlog
    rw [Message.write, Action.bind_ok (inPlace_eq side hlog)]
    obtain ⟨shown, hwrite⟩ := ihRest (relay.moved side _ _) (hrest.sent ("" ++ more))
    rw [sink_moved, moved_moved] at hwrite
    exact ⟨_, hwrite⟩
  | fatal piece rest ih =>
    have hfatal := (Console.sends_put piece).printingFatal relay.console rfl
    rw [Message.write, Action.bind_ok (inPlace_eq side hfatal)]
    obtain ⟨shown, hwrite⟩ := ih (relay.moved side _ _) (Message.Returns.sent hreturns piece)
    rw [sink_moved, moved_moved] at hwrite
    exact ⟨_, hwrite⟩
  | failure => exact ⟨"", by rw [Message.texts, Sink.after, moved_still]; rfl⟩

/-- A message to write, and whether somebody else holds the lock meanwhile. -/
structure Call where
  message : Message
  held : Bool

namespace Call

/-- The sink that a call reaches. -/
def side (call : Call) : Side := if call.held then .spare else .guarded

/-- Writes the message with the lock as the call finds it; tells whether all of it was written. -/
def perform (call : Call) : Action Relay Bool := fun relay =>
  Relay.write call.message { relay with held := call.held }

/-- The pieces of the call's message that its sink takes. -/
def taken (call : Call) (relay : Relay) : List String :=
  (relay.sink call.side).taken call.message.texts

/-- Whether the sink takes the whole message and the message does not fail. -/
def complete (call : Call) (relay : Relay) : Bool :=
  decide (call.taken relay = call.message.texts) && call.message.completes

/-- The relay behind a call, if a text has gone out on the console meanwhile. -/
def past (call : Call) (shown : String) (relay : Relay) : Relay :=
  { relay.moved call.side ((relay.sink call.side).after call.message.texts) shown with
    held := call.held
    spareWriters := relay.spareWriters + if call.held then 1 else 0 }

section Past

variable (call : Call) (shown : String) (relay : Relay)

theorem sink_past :
    (call.past shown relay).sink call.side = (relay.sink call.side).after call.message.texts := by
  obtain ⟨message, held⟩ := call
  cases held <;> rfl

theorem sink_other_past :
    (call.past shown relay).sink call.side.other = relay.sink call.side.other := by
  obtain ⟨message, held⟩ := call
  cases held <;> rfl

theorem console_past : (call.past shown relay).console = relay.console.sent shown := rfl

theorem spareWriters_past :
    (call.past shown relay).spareWriters = relay.spareWriters + if call.held then 1 else 0 := rfl

end Past

/-- A call that returns moves the sink that it reaches along its message, and nothing else but the
console's line. -/
theorem perform_eq (call : Call) (relay : Relay)
    (hreturns : call.message.Returns relay.console) :
    ∃ shown, call.perform relay = .ok (call.complete relay) (call.past shown relay) := by
  obtain ⟨message, held⟩ := call
  cases held with
  | false =>
    obtain ⟨shown, hwrite⟩ := write_message .guarded message { relay with held := true } hreturns
    have hreleased : (message.write (offer .guarded) Action.inPlace).releasing release
        { relay with held := true } = _ := Action.releasing_ok hwrite
    exact ⟨shown, hreleased⟩
  | true =>
    obtain ⟨shown, hwrite⟩ := write_message .spare message
      { relay with held := true, spareWriters := relay.spareWriters + 1 } hreturns
    exact ⟨shown, hwrite⟩

/-- What a call does that finds `before`, leaves `after` and tells `complete`. -/
structure Lands (call : Call) (before after : Relay) (complete : Bool) : Prop where
  reached : (after.sink call.side).contents =
    (before.sink call.side).contents ++ String.join (call.taken before)
  other : after.sink call.side.other = before.sink call.side.other
  /-- The call stops at the first piece that is refused. -/
  stops : call.taken before = call.message.texts ∨
    ∃ piece rest, call.message.texts = call.taken before ++ piece :: rest ∧
      (((before.sink call.side).after (call.taken before)).offer piece).1 = false
  complete : complete = true ↔
    call.taken before = call.message.texts ∧ call.message.completes = true
  writer : after.spareWriters = before.spareWriters + if call.held then 1 else 0
  lock : after.held = call.held

theorem lands_past (call : Call) (shown : String) (relay : Relay) :
    call.Lands relay (call.past shown relay) (call.complete relay) := by
  constructor
  case reached => rw [sink_past, Sink.contents_after, taken]
  case other => exact sink_other_past call shown relay
  case stops => exact Sink.taken_stops call.message.texts (relay.sink call.side)
  case complete => rw [Call.complete, Bool.and_eq_true, decide_eq_true_iff]
  case writer => rfl
  case lock => rfl

/-- The messages of the calls that reach a sink. -/
def messagesTo (side : Side) (calls : List Call) : List Message :=
  (calls.filter (·.side = side)).map message

theorem afterAll_cons (side : Side) (call : Call) (rest : List Call) (shown : String)
    (relay : Relay) :
    (relay.sink side).afterAll (messagesTo side (call :: rest)) =
      ((call.past shown relay).sink side).afterAll (messagesTo side rest) := by
  have hside : side = call.side ∨ side = call.side.other := by
    cases side <;> cases call.side <;> simp [Side.other]
  obtain rfl | rfl := hside
  · rw [sink_past, messagesTo, List.filter_cons_of_pos (by simp)]
    rfl
  · have hne : call.side ≠ call.side.other := by cases call.side <;> decide
    rw [sink_other_past, messagesTo, List.filter_cons_of_neg (by simpa using hne)]
    rfl

end Call

theorem mapM_cons_ok {calls : List Call} {call : Call} {relay next after : Relay} {complete : Bool}
    {answers : List Bool} (hcall : call.perform relay = .ok complete next)
    (hcalls : calls.mapM Call.perform next = .ok answers after) :
    (call :: calls).mapM Call.perform relay = .ok (complete :: answers) after := by
  rw [List.mapM_cons, Action.bind_ok hcall, Action.bind_ok hcalls]
  rfl

/-- Calls that return move each sink along the messages that reach it. -/
theorem run_eq (calls : List Call) (relay : Relay)
    (hreturns : ∀ call ∈ calls, call.message.Returns relay.console) :
    ∃ answers after, calls.mapM Call.perform relay = .ok answers after ∧
      (∀ side, after.sink side = (relay.sink side).afterAll (Call.messagesTo side calls)) ∧
      after.spareWriters = relay.spareWriters + calls.countP (·.held) ∧
      ∃ shown, after.console = relay.console.sent shown := by
  induction calls generalizing relay with
  | nil => exact ⟨[], relay, rfl, fun _ => rfl, rfl, "", (Console.sent_empty relay.console).symm⟩
  | cons call rest ih =>
    obtain ⟨shown, hcall⟩ := Call.perform_eq call relay (hreturns call List.mem_cons_self)
    obtain ⟨answers, after, hrest, hsinks, hwriters, more, hconsole⟩ :=
      ih (call.past shown relay)
        fun later hlater => (hreturns later (List.mem_cons_of_mem call hlater)).sent shown
    refine ⟨_, after, mapM_cons_ok hcall hrest, fun side => ?_, ?_, shown ++ more, ?_⟩
    · rw [hsinks side, Call.afterAll_cons side call rest shown]
    · rw [hwriters, Call.spareWriters_past, List.countP_cons]
      omega
    · rw [hconsole, Call.console_past, Console.sent_sent]

/-- Over calls that return, each sink gets exactly what it takes of the messages that reach it, in
order, and a spare writer is made just for the calls that find the lock held. Every one of the calls
lands in its sink alone, stops at its first refused or failing piece and answers whether there was
one, and leaves the lock as it found it. -/
theorem writes_land {calls : List Call} {relay : Relay}
    (hreturns : ∀ call ∈ calls, call.message.Returns relay.console) :
    ∃ answers after, calls.mapM Call.perform relay = .ok answers after ∧
      (∀ side, (after.sink side).contents = (relay.sink side).contents ++
        String.join ((relay.sink side).takenOf (Call.messagesTo side calls))) ∧
      after.spareWriters = relay.spareWriters + calls.countP (·.held) ∧
      ∀ earlier call later, calls = earlier ++ call :: later →
        ∃ told before complete next rest,
          earlier.mapM Call.perform relay = .ok told before ∧
          call.perform before = .ok complete next ∧ call.Lands before next complete ∧
          later.mapM Call.perform next = .ok rest after ∧ answers = told ++ complete :: rest := by
  obtain ⟨answers, after, hrun, hsinks, hwriters, -⟩ := run_eq calls relay hreturns
  refine ⟨answers, after, hrun, fun side => ?_, hwriters, ?_⟩
  · rw [hsinks side, Sink.contents_afterAll]
  rintro earlier call later rfl
  rw [List.forall_mem_append, List.forall_mem_cons] at hreturns
  obtain ⟨hearlier, hcall, hlater⟩ := hreturns
  obtain ⟨told, before, htold, -, -, first, hbefore⟩ := run_eq earlier relay hearlier
  obtain ⟨shown, hnext⟩ := Call.perform_eq call before (hbefore ▸ hcall.sent first)
  have hremaining : ∀ other ∈ later, other.message.Returns (call.past shown before).console := by
    intro other hother
    rw [Call.console_past, hbefore]
    exact ((hlater other hother).sent first).sent shown
  obtain ⟨rest, end', hrest, -⟩ := run_eq later (call.past shown before) hremaining
  -- The three parts are runs of their own so far; together they are the run that was given.
  have hsplit : (earlier ++ call :: later).mapM Call.perform relay =
      .ok (told ++ call.complete before :: rest) end' := by
    rw [List.mapM_append, Action.bind_ok htold, Action.bind_ok (mapM_cons_ok hnext hrest)]
    rfl
  rw [hsplit] at hrun
  cases hrun
  exact ⟨told, before, _, _, rest, htold, hnext, Call.lands_past call shown before, hrest, rfl⟩

/-- Four calls over a guarded sink of five bytes and a spare one without a bound. An error is
recorded amid the first, the second finds the lock held and fails, and the third is refused its
first piece and tries no other. -/
theorem crowded_writes_land :
    let relay : Relay := ⟨.ready, .bounded 5, false, .unbounded, 0⟩
    let calls : List Call :=
      [⟨.text "ab" (.record .error (.text "x" .failure) (.text "cd" .finish)), false⟩,
       ⟨.text "e" .failure, true⟩,
       ⟨.text "fg" (.text "h" .finish), false⟩,
       ⟨.text "i" .finish, false⟩]
    ∃ after, calls.mapM Call.perform relay = .ok [true, false, false, true] after ∧
      after.guarded.contents = "abcdi" ∧ after.spare.contents = "e" ∧ after.spareWriters = 1 ∧
      after.held = false := by
  intro relay calls
  have hnests : ∀ call ∈ calls, call.message.Nests relay.console.maxLevel := by decide
  obtain ⟨answers, after, hrun, hsinks, hwriters, hcalls⟩ :=
    writes_land fun call hcall => Message.returns_of_nests (hnests call hcall)
  obtain ⟨told, before, complete, next, rest, -, hlast, hlands, hrest, -⟩ :=
    hcalls (calls.take 3) ⟨.text "i" .finish, false⟩ [] rfl
  cases hrest
  have hguarded : String.join ((relay.sink .guarded).takenOf (Call.messagesTo .guarded calls)) =
      "abcdi" := by decide
  have hspare : String.join ((relay.sink .spare).takenOf (Call.messagesTo .spare calls)) = "e" := by
    decide
  have htold : (match calls.mapM Call.perform relay with
      | .ok answers _ => answers
      | .error _ _ => []) = [true, false, false, true] := by decide +kernel
  rw [hrun] at htold
  obtain rfl : answers = _ := htold
  refine ⟨after, hrun, ?_, ?_, hwriters, hlands.lock⟩
  · exact (hsinks .guarded).trans hguarded
  · exact (hsinks .spare).trans hspare

end Relay

end BringUp
