import Inlay.Proofs.Bridge.Registration

/-!
# Whose reply a caller gets

Replies come in any order, twice, too late or for calls that nobody made.  A caller
gets a value or a failed analysis only from the first reply to its own id that came
while the id was registered, and any other outcome is a failure of the bridge.

Two facts about a single step carry this.  A call that can still be answered could be
answered before, and was not answered by the step (`Step.answerable`).  An outcome
that a call has got was there before, is a failure of the bridge, or comes from the
line that the step handled (`Step.has_cases`).
-/

namespace Inlay

namespace Bridge

variable {bridge after : Bridge} {holder kept : Option Nat} {id : Nat} {send : Send}
  {stage next : Stage} {task : Task} {event : Event} {more : List Task}

/-! ## Outcomes -/

/-- The interpreter's own answer: a value or a failed analysis. -/
def OfInterpreter : Outcome Json → Prop
  | .ok _ => True
  | .error failure => failure.layer = .pike

/-- A failure of the bridge. -/
def OfBridge (outcome : Outcome Json) : Prop :=
  ∃ failure, outcome = .error failure ∧ failure.layer = .bridge

theorem ofBridge_bridge (kind : FailureKind) (message : String) :
    OfBridge (.error (.bridge kind message)) :=
  ⟨_, rfl, rfl⟩

/-- An answer of the interpreter is no failure of the bridge. -/
theorem OfInterpreter.not_ofBridge {outcome : Outcome Json} (answer : OfInterpreter outcome) :
    ¬OfBridge outcome := by
  rintro ⟨failure, rfl, ofBridge⟩
  change failure.layer = .pike at answer
  rw [ofBridge] at answer
  cases answer

/-- A bridge that turns callers away says so itself. -/
theorem ofBridge_of_refused {bridge : Bridge} {failure : Failure}
    (refused : bridge.readiness = .refused failure) : OfBridge (.error failure) := by
  rw [readiness] at refused
  split at refused
  next =>
    cases refused
    exact ofBridge_bridge _ _
  next =>
    split at refused
    next => split at refused <;> cases refused
    next => cases refused

/-! ## Answers -/

/-- The line is a reply to a registered call. -/
def World.Answers (world : World) (text : String) (id : Nat) (outcome : Outcome Json) : Prop :=
  world.bridge.pending.Holds id ∧ Response.ofLine text = .ok (.reply id outcome)

namespace History

/-- No reply to the call has come while it was registered. -/
def Unanswered (history : History) (id : Nat) : Prop :=
  ∀ world text outcome, (world, Event.line text) ∈ history → ¬world.Answers text id outcome

/-- The first reply that came to the call while it was registered has this outcome. -/
def AnsweredBy (history : History) (id : Nat) (outcome : Outcome Json) : Prop :=
  ∃ before world text later, history = before ++ (world, Event.line text) :: later ∧
    world.Answers text id outcome ∧ Unanswered before id

variable {history : History} {world : World} {event : Event} {id : Nat} {outcome : Outcome Json}

theorem Unanswered.append (unanswered : history.Unanswered id)
    (silent : ∀ text outcome, event = .line text → ¬world.Answers text id outcome) :
    Unanswered (history ++ [(world, event)]) id := by
  intro earlier text outcome there
  rcases List.mem_append.1 there with before | now
  · exact unanswered earlier text outcome before
  · cases List.mem_singleton.1 now
    exact silent text outcome rfl

theorem AnsweredBy.append (answered : history.AnsweredBy id outcome) (more : History) :
    AnsweredBy (history ++ more) id outcome := by
  obtain ⟨before, earlier, text, later, rfl, answers, unanswered⟩ := answered
  exact ⟨before, earlier, text, later ++ more, by simp, answers, unanswered⟩

/-- The first line that answers an unanswered call is its answer. -/
theorem answeredBy_last {text : String} (answers : world.Answers text id outcome)
    (unanswered : history.Unanswered id) :
    AnsweredBy (history ++ [(world, .line text)]) id outcome :=
  ⟨history, world, text, [], rfl, answers, unanswered⟩

theorem AnsweredBy.not_unanswered (answered : history.AnsweredBy id outcome) :
    ¬history.Unanswered id := by
  obtain ⟨before, earlier, text, later, rfl, answers, _⟩ := answered
  exact fun unanswered => unanswered earlier text outcome (by simp) answers

end History

/-! ## Calls that can still be answered -/

/-- The call has not come to its registration. -/
def Stage.Early : Stage → Prop
  | .locking | .connecting | .starting | .registering _ => True
  | _ => False

theorem Stage.Early.registration? {stage : Stage} (early : stage.Early) :
    stage.registration? = none := by
  cases stage with
  | locking => rfl
  | connecting => rfl
  | starting => rfl
  | registering => rfl
  | _ => cases early

/-- No call goes back to a time before its registration. -/
theorem Move.early (move : Move bridge holder id send stage after kept next)
    (early : next.Early) : stage.Early := by
  cases move with
  | lock => trivial
  | reuse => trivial
  | restart => trivial
  | spawn => trivial
  | _ => cases early

/-- The call with this id is registered, or it has not come to that or not been made. -/
def World.Answerable (world : World) (id : Nat) : Prop :=
  world.bridge.pending.Holds id ∨
    ∀ send stage, world.sends id = some (send, stage) → stage.Early

/-- A call that is registered after a move was so before, or comes to it now. -/
theorem Booking.holds {pending after : Pending} {id : Nat} {stage next : Stage}
    (booking : Booking pending id stage next after) (held : after.Holds id) :
    pending.Holds id ∨ stage.Early := by
  obtain ⟨registration, registered, sameId⟩ := held
  cases booking with
  | keep => exact .inl ⟨registration, registered, sameId⟩
  | register registering =>
      subst registering
      exact .inr trivial
  | retire => exact absurd sameId (Pending.mem_remove.1 registered).2
  | receive => exact absurd sameId (Pending.mem_remove.1 registered).2

/-- Tasks in the background register nothing. -/
theorem Work.mem_table (work : Work bridge holder task event after more)
    {registration : Registration} (registered : registration ∈ after.pending.table) :
    registration ∈ bridge.pending.table := by
  cases work with
  | fail => exact (Pending.mem_failGeneration.1 registered).1
  | drain => exact (Pending.mem_failGeneration.1 registered).1
  | _ => exact registered

/-- A call that can be answered after a line could be answered before, and the line
was no answer to it. -/
theorem World.Attended.answerable_line {world : World} {id : Nat} (attended : world.Attended)
    {text : String}
    (answerable : World.Answerable { world with bridge := (world.bridge.dispatch text).1 } id) :
    world.Answerable id ∧ ∀ outcome, ¬world.Answers text id outcome := by
  rcases answerable with ⟨registration, registered, rfl⟩ | early
  · rcases dispatch_cases world.bridge text with
      ⟨answered, outcome, decoded, dispatched⟩ | ⟨undecoded, dispatched⟩
    · rw [dispatched] at registered
      obtain ⟨was, different⟩ := Pending.mem_remove.1 registered
      refine ⟨.inl ⟨registration, was, rfl⟩, ?_⟩
      rintro other ⟨_, otherDecoded⟩
      rw [decoded] at otherDecoded
      cases otherDecoded
      exact different rfl
    · rw [dispatched] at registered
      exact ⟨.inl ⟨registration, registered, rfl⟩,
        fun other answers => undecoded _ other answers.2⟩
  · refine ⟨.inr early, fun outcome answers => attended.not_holds ?_ answers.1⟩
    cases found : world.sends id with
    | none => rw [World.registration?, found, Option.bind_none]
    | some call =>
        obtain ⟨send, stage⟩ := call
        exact (World.registration?_eq found).trans (early send stage found).registration?

/-- A call that can be answered after a move could be answered before it. -/
theorem World.answerable_move {world : World} {mover id : Nat} {send : Send} {stage next : Stage}
    {bridge : Bridge} {holder : Option Nat} (here : world.sends mover = some (send, stage))
    (move : Move world.bridge world.holder mover send stage bridge holder next)
    (answerable : World.Answerable ({ world with bridge, holder }.put mover send next) id) :
    world.Answerable id := by
  by_cases same : id = mover
  · subst same
    have stageEarly (early : stage.Early) : world.Answerable id := by
      refine .inr fun otherSend otherStage found => ?_
      rw [here] at found
      cases found
      exact early
    rcases answerable with held | early
    · rcases move.booking.holds held with was | early
      · exact .inl was
      · exact stageEarly early
    · exact stageEarly (move.early (early send next (World.sends_put_self ..)))
  · rcases answerable with ⟨registration, registered, rfl⟩ | early
    · exact .inl ⟨registration, move.booking.mem_table registered same, rfl⟩
    · exact .inr fun otherSend otherStage found =>
        early otherSend otherStage ((if_neg same).trans found)

/-- A call that can be answered after a step could be answered before, and the step
was no answer to it. -/
theorem Step.answerable {world after : World} {event : Event} {id : Nat}
    (step : Step world event after) (attended : world.Attended) (answerable : after.Answerable id) :
    world.Answerable id ∧
      ∀ text outcome, event = .line text → ¬world.Answers text id outcome := by
  cases step with
  | call send =>
      refine ⟨?_, by simp⟩
      rcases answerable with held | early
      · exact .inl held
      · refine .inr fun other stage found => early other stage ?_
        -- The id that the new call takes is nobody else's.
        have taken : id ≠ world.bridge.nextId := by
          rintro rfl
          rw [attended.fresh _ (Nat.le_refl _)] at found
          cases found
        exact (if_neg taken).trans found
  | move here move => exact ⟨World.answerable_move here move answerable, by simp⟩
  | line text =>
      obtain ⟨was, silent⟩ := attended.answerable_line answerable
      refine ⟨was, fun other outcome same => ?_⟩
      cases same
      exact silent outcome
  | lose => exact ⟨answerable, by simp⟩
  | close => exact ⟨answerable, by simp⟩
  | work _ work =>
      refine ⟨?_, ?_⟩
      · rcases answerable with ⟨registration, registered, sameId⟩ | early
        · exact .inl ⟨registration, work.mem_table registered, sameId⟩
        · exact .inr early
      · rintro text outcome rfl
        cases work

/-! ## Outcomes that have come -/

/-- The outcome is in the mailbox of the call, or its caller has it or is about to get
it. -/
inductive World.Has (world : World) (id : Nat) (outcome : Outcome Json) : Prop where
  | arrived {registration : Registration} :
      world.registration? id = some registration →
      world.mailbox? registration.mailbox = some (.ready outcome) → World.Has world id outcome
  | rejected {send : Send} {registration : Registration} {failure : Failure} :
      world.sends id = some (send, .rejected registration failure) →
      outcome = .error failure → World.Has world id outcome
  | returned {send : Send} :
      world.sends id = some (send, .returned outcome) → World.Has world id outcome

/-- No caller's move makes an outcome arrive. -/
theorem Booking.ready {pending after : Pending} {id mailbox : Nat} {stage next : Stage}
    {outcome : Outcome Json} (booking : Booking pending id stage next after)
    (ready : after.mailboxes[mailbox]? = some (.ready outcome)) :
    pending.mailboxes[mailbox]? = some (.ready outcome) := by
  cases booking with
  | keep => exact ready
  | register => exact Pending.ready_of_register ready
  | retire => exact Pending.ready_of_remove_close ready
  | receive _ found => exact Pending.ready_of_poll found (Pending.ready_of_remove_close ready)

/-- A caller whose outcome is there after its move had the same registration before. -/
theorem Booking.registration?_of_ready {pending after : Pending} {id : Nat} {stage next : Stage}
    {registration : Registration} {outcome : Outcome Json}
    (booking : Booking pending id stage next after)
    (registered : next.registration? = some registration)
    (ready : after.mailboxes[registration.mailbox]? = some (.ready outcome)) :
    stage.registration? = some registration := by
  cases booking with
  | keep same => exact same ▸ registered
  | register _ new =>
      rw [new] at registered
      cases registered
      rw [Pending.waiting_register] at ready
      cases ready
  | retire gone =>
      rw [gone] at registered
      cases registered
  | receive _ _ returned =>
      subst returned
      cases registered

/-- A caller that cannot send its call is told by the bridge. -/
theorem Move.rejected {registration : Registration} {failure : Failure}
    (move : Move bridge holder id send stage after kept (.rejected registration failure)) :
    OfBridge (.error failure) := by
  cases move with
  | reject => exact ofBridge_bridge _ _
  | block => exact ofBridge_bridge _ _

/-- A caller gets what is in its mailbox, what it was rejected with, or a failure of
the bridge. -/
theorem Move.returned {outcome : Outcome Json}
    (move : Move bridge holder id send stage after kept (.returned outcome)) :
    OfBridge outcome ∨
      (∃ registration failure, stage = .rejected registration failure ∧ outcome = .error failure) ∨
      ∃ registration, stage = .waiting registration ∧
        bridge.pending.mailboxes[registration.mailbox]? = some (.ready outcome) := by
  cases move with
  | refuse refused => exact .inl (ofBridge_of_refused refused)
  | spawnFail => exact .inl ⟨_, rfl, rfl⟩
  | withdraw => exact .inr (.inl ⟨_, _, rfl, rfl⟩)
  | receive found => exact .inr (.inr ⟨_, rfl, (Pending.poll_outcome found).1⟩)
  | miss => exact .inl (ofBridge_bridge _ _)
  | expire => exact .inl (ofBridge_bridge _ _)

/-- What a caller has after its own move it had before, or it is a failure of the
bridge. -/
theorem World.has_move {world : World} {id : Nat} {send : Send} {stage next : Stage}
    {bridge : Bridge} {holder : Option Nat} {outcome : Outcome Json}
    (here : world.sends id = some (send, stage))
    (move : Move world.bridge world.holder id send stage bridge holder next)
    (has : World.Has ({ world with bridge, holder }.put id send next) id outcome) :
    world.Has id outcome ∨ OfBridge outcome := by
  cases has with
  | @arrived registration registered ready =>
      rw [registration?_put, if_pos rfl] at registered
      have had := move.booking.registration?_of_ready registered ready
      exact .inl (.arrived ((registration?_eq here).trans had) (move.booking.ready ready))
  | rejected found failed =>
      rw [sends_put_self] at found
      cases found
      exact .inr (failed ▸ move.rejected)
  | returned found =>
      rw [sends_put_self] at found
      cases found
      rcases move.returned with ofBridge | ⟨_, _, rfl, failed⟩ | ⟨_, rfl, ready⟩
      · exact .inr ofBridge
      · exact .inl (.rejected here failed)
      · exact .inl (.arrived (registration?_eq here) ready)

/-- Tasks in the background deliver nothing but failures of the bridge. -/
theorem Work.ready_cases (work : Work bridge holder task event after more) {mailbox : Nat}
    {outcome : Outcome Json} (ready : after.pending.mailboxes[mailbox]? = some (.ready outcome)) :
    bridge.pending.mailboxes[mailbox]? = some (.ready outcome) ∨ OfBridge outcome := by
  have failing {generation : Nat} {message : String}
      (ready : (bridge.failCalls generation message).pending.mailboxes[mailbox]? =
        some (.ready outcome)) :
      bridge.pending.mailboxes[mailbox]? = some (.ready outcome) ∨ OfBridge outcome := by
    rcases Pending.ready_of_failGeneration ready with was | rfl
    · exact .inl was
    · exact .inr (ofBridge_bridge _ _)
  cases work with
  | fail => exact failing ready
  | drain => exact failing ready
  | _ => exact .inl ready

/-! ## What a line does -/

namespace World

variable {world : World} {text : String} {id : Nat} {outcome : Outcome Json}

/-- The world after a line of output. -/
def afterLine (world : World) (text : String) : World :=
  { world with bridge := (world.bridge.dispatch text).1 }

/-- A line that answers nobody changes nothing. -/
theorem afterLine_eq_self (silent : ∀ id outcome, ¬world.Answers text id outcome) :
    world.afterLine text = world := by
  rcases dispatch_cases world.bridge text with ⟨id, outcome, decoded, dispatched⟩ | ⟨_, dispatched⟩
  · have absent : ¬world.bridge.pending.Holds id := fun held => silent id outcome ⟨held, decoded⟩
    rw [afterLine, dispatched, Pending.remove_of_not_holds absent]
  · rw [afterLine, dispatched]

/-- A line answers the call, or it leaves the call alone. -/
theorem Attended.line_cases (attended : world.Attended) (text : String)
    {registration : Registration} (has : world.registration? id = some registration) :
    (∃ outcome, world.Answers text id outcome ∧
      (world.afterLine text).mailbox? registration.mailbox = some (.ready outcome)) ∨
    ((world.afterLine text).mailbox? registration.mailbox = world.mailbox? registration.mailbox ∧
      (registration ∈ (world.afterLine text).table ↔ registration ∈ world.table)) := by
  by_cases answering : ∃ answered outcome, world.Answers text answered outcome
  · obtain ⟨_, outcome, ⟨another, registered, rfl⟩, decoded⟩ := answering
    have owned := attended.owned another registered
    have dispatched : (world.bridge.dispatch text).1.pending =
        world.bridge.pending.remove another.id (Pending.deliver outcome) := by
      rw [dispatch, decoded, ← Pending.complete_eq_remove]
    have boxes := Pending.mailbox_remove attended.sound.ids registered (Pending.deliver outcome)
      registration.mailbox
    rw [← dispatched] at boxes
    by_cases same : id = another.id
    · subst same
      rw [owned] at has
      cases has
      rw [if_pos rfl, attended.sound.waiting registration registered] at boxes
      exact .inl ⟨outcome, ⟨⟨registration, registered, rfl⟩, decoded⟩, boxes⟩
    · have otherBox : another.mailbox ≠ registration.mailbox := fun shared =>
        same (attended.distinct id another.id registration another has owned shared.symm)
      have otherId : registration.id ≠ another.id := by
        rw [(attended.served id registration has).1]
        exact same
      rw [if_neg otherBox] at boxes
      refine .inr ⟨boxes, ?_⟩
      rw [afterLine, table, dispatched, Pending.mem_remove]
      exact and_iff_left otherId
  · rw [afterLine_eq_self fun answered outcome answers => answering ⟨answered, outcome, answers⟩]
    exact .inr ⟨rfl, .rfl⟩

end World

/-- An outcome that a call has after a step was there before, is a failure of the
bridge, or comes from the line that the step handled. -/
theorem Step.has_cases {world after : World} {event : Event} {id : Nat} {outcome : Outcome Json}
    (step : Step world event after) (attended : world.Attended) (has : after.Has id outcome) :
    world.Has id outcome ∨ OfBridge outcome ∨
      ∃ text, event = .line text ∧ world.Answers text id outcome := by
  -- While the call's stage is as it was, only its mailbox can have changed.
  have unmoved (sends : after.sends id = world.sends id)
      (mailboxes : ∀ registration, world.registration? id = some registration →
        after.mailbox? registration.mailbox = some (.ready outcome) →
        world.mailbox? registration.mailbox = some (.ready outcome) ∨ OfBridge outcome ∨
          ∃ text, event = .line text ∧ world.Answers text id outcome) :
      world.Has id outcome ∨ OfBridge outcome ∨
        ∃ text, event = .line text ∧ world.Answers text id outcome := by
    cases has with
    | @arrived registration registered ready =>
        rw [World.registration?, sends] at registered
        exact (mailboxes registration registered ready).imp_left (.arrived registered)
    | rejected found failed => exact .inl (.rejected (sends ▸ found) failed)
    | returned found => exact .inl (.returned (sends ▸ found))
  cases step with
  | call send =>
      by_cases new : id = world.bridge.takeId.2
      · subst new
        cases has with
        | arrived registered =>
            rw [World.registration?_put, if_pos rfl] at registered
            cases registered
        | rejected found =>
            rw [World.sends_put_self] at found
            cases found
        | returned found =>
            rw [World.sends_put_self] at found
            cases found
      · exact unmoved (if_neg new) fun _ _ ready => .inl ready
  | @move mover send stage next bridge holder here move =>
      by_cases same : id = mover
      · subst same
        exact (World.has_move here move has).imp_right .inl
      · exact unmoved (if_neg same) fun _ _ ready => .inl (move.booking.ready ready)
  | line text =>
      refine unmoved rfl fun registration registered ready => ?_
      rcases attended.line_cases text registered with ⟨answer, answers, answered⟩ | ⟨same, _⟩
      · rw [World.afterLine, ready] at answered
        cases answered
        exact .inr (.inr ⟨text, rfl, answers⟩)
      · exact .inl (same.symm.trans ready)
  | lose => exact unmoved rfl fun _ _ ready => .inl ready
  | close => exact unmoved rfl fun _ _ ready => .inl ready
  | work _ work =>
      exact unmoved rfl fun _ _ ready => (work.ready_cases ready).imp_right .inl

/-! ## Attribution -/

/-- A call that can still be answered has not been answered, and an outcome that has
come is the first answer or a failure of the bridge. -/
structure History.Accounts (history : History) (world : World) : Prop where
  silent : ∀ id, world.Answerable id → history.Unanswered id
  accounted : ∀ id outcome, world.Has id outcome →
    history.AnsweredBy id outcome ∨ OfBridge outcome

/-- A line is accounted for by the call it answers, and every other step by what was there or a
failure of the bridge. -/
theorem History.Accounts.step {history : History} {world after : World} {event : Event}
    (accounts : history.Accounts world) (attended : world.Attended)
    (step : Step world event after) : Accounts (history ++ [(world, event)]) after := by
  refine ⟨?_, ?_⟩
  · intro id answerable
    obtain ⟨was, silent⟩ := step.answerable attended answerable
    exact (accounts.silent id was).append silent
  · intro id outcome has
    rcases step.has_cases attended has with had | ofBridge | ⟨text, rfl, answers⟩
    · exact (accounts.accounted id outcome had).imp_left fun answered => answered.append _
    · exact .inr ofBridge
    · exact .inl (answeredBy_last answers (accounts.silent id (.inl answers.1)))

/-- Every outcome of a run is accounted for. -/
theorem Run.accounts {history : History} {world : World} (run : Run history world) :
    history.Accounts world := by
  induction run with
  | start =>
      refine ⟨by simp [History.Unanswered], ?_⟩
      rintro id outcome (registered | found | found)
      · cases registered
      · cases found
      · cases found
  | step earlier step ih => exact ih.step earlier.attended step

/-- A step takes away the entry of a call or changes its mailbox. -/
def World.Completes (world after : World) (id : Nat) : Prop :=
  ∃ registration, world.registration? id = some registration ∧
    ¬(after.mailbox? registration.mailbox = world.mailbox? registration.mailbox ∧
      (registration ∈ after.table ↔ registration ∈ world.table))

/-- A line that changes the entry or the mailbox of a call is a reply to it. -/
theorem World.Attended.answers_of_completes {world : World} (attended : world.Attended)
    {text : String} {id : Nat} (completes : world.Completes (world.afterLine text) id) :
    ∃ outcome, world.Answers text id outcome := by
  obtain ⟨registration, has, changed⟩ := completes
  rcases attended.line_cases text has with ⟨outcome, answers, _⟩ | unchanged
  · exact ⟨outcome, answers⟩
  · exact absurd unchanged changed

/-- A line answers one call at most. -/
theorem World.Answers.id_eq {world : World} {text : String} {id other : Nat}
    {outcome another : Outcome Json} (answers : world.Answers text id outcome)
    (otherAnswers : world.Answers text other another) : id = other := by
  have same := answers.2.symm.trans otherAnswers.2
  cases same
  rfl

/-- However the steps of callers, losses and a shutdown interleave and whatever the
interpreters write: a caller gets a value or a failed analysis only from the first
reply to its own call that came while the call was registered, and a failure of the
bridge when there was none; a line completes at most one call, and one that is no
reply to a registered call changes nothing. -/
theorem Run.attributed {history : History} {world : World} (run : Run history world) :
    (∀ id send outcome, world.sends id = some (send, .returned outcome) →
      (OfInterpreter outcome → history.AnsweredBy id outcome) ∧
      (history.Unanswered id → OfBridge outcome)) ∧
    ∀ text after, Step world (.line text) after →
      (∀ id other, world.Completes after id → world.Completes after other → id = other) ∧
      ((∀ id outcome, ¬world.Answers text id outcome) → after = world) := by
  have attended := run.attended
  refine ⟨?_, ?_⟩
  · intro id send outcome returned
    rcases run.accounts.accounted id outcome (.returned returned) with answered | ofBridge
    · exact ⟨fun _ => answered, fun unanswered => absurd unanswered answered.not_unanswered⟩
    · exact ⟨fun answer => absurd ofBridge answer.not_ofBridge, fun _ => ofBridge⟩
  · intro text after step
    have handled : after = world.afterLine text := by
      cases step with
      | line => rfl
      | work _ work => cases work
    subst handled
    refine ⟨?_, World.afterLine_eq_self⟩
    intro id other completes otherCompletes
    obtain ⟨_, answers⟩ := attended.answers_of_completes completes
    obtain ⟨_, otherAnswers⟩ := attended.answers_of_completes otherCompletes
    exact answers.id_eq otherAnswers

/-- A reply to the first call.  The reader recurses on two bounds at once, so it is
unfolded step by step. -/
theorem ofLine_first_reply :
    Response.ofLine "\x7b\"id\":1,\"result\":null\x7d" = .ok (.reply 1 (.ok .null)) := by
  have number (rest : List Char) :
      Json.readValue 126 ('1' :: ',' :: rest) = some (.int 1, ',' :: rest) := by
    rw [Json.readValue]
    · rfl
    all_goals simp
  have value : Json.readValue Json.maxNesting
      (Json.skipSpace (Text.trimChars "\x7b\"id\":1,\"result\":null\x7d".toList)) =
      some (.obj [("id", .int 1), ("result", .null)], []) := by
    show Json.readValue (126 + 1) "\x7b\"id\":1,\"result\":null\x7d".toList = _
    simp [Json.readValue, Json.readMembers, Json.readString, Json.skipSpace, Json.isSpace,
      Json.afterWord, number]
    rfl
  have parsed : Json.parseChars? (Text.trimChars "\x7b\"id\":1,\"result\":null\x7d".toList) =
      some (.obj [("id", .int 1), ("result", .null)]) := by
    rw [Json.parseChars?, value]
    rfl
  rw [Response.ofLine, parsed]
  rfl

/-- A reply comes while its caller waits, and the caller takes it. -/
theorem Run.attributed_reply : ∃ history world send, Run history world ∧
    world.sends 1 = some (send, .returned (.ok .null)) ∧ history.AnsweredBy 1 (.ok .null) := by
  let send : Send := ⟨"tokenize", .null, 1000⟩
  have called := Run.start.step (.call send)
  have locked := called.move 1 rfl (.lock rfl)
  have starting := locked.move 1 rfl (.restart rfl)
  have started := starting.move 1 rfl .spawn
  have registered := started.move 1 rfl .register
  have passed := registered.move 1 rfl (.pass rfl)
  have waiting := passed.move 1 rfl .queue
  have answered := waiting.reply ofLine_first_reply
  have returned := answered.move 1 rfl (.receive rfl)
  exact ⟨_, _, send, returned, rfl, (returned.attributed.1 1 send _ rfl).1 trivial⟩

end Bridge

end Inlay
