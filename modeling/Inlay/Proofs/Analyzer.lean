import Inlay.Analyzer.Remote
import Inlay.Proofs.Analysis

/-!
# The interpreter asked once

Whatever the interpreter answers and however often it fails, all that the analyzer keeps of
it is what the first useful answer to the question for its operations taught.  Until then
every query begins with that question and ends there if it fails; from then on the question
is not sent again.  An operation is asked for where it is offered and nowhere else, and its
reply decoded is the outcome of the query.  Nothing is assumed of the channel: replies of any
shape, time limits, and interpreters that exit and are started again are all outcomes that its
link may lead to.

What is sent is read off a channel that keeps a record (`Channel.recorded`), which changes
nothing else.  A query first finds the capabilities (`Learns`) and then does its own part
(`Course`); a run of queries is followed by one lemma for each more query.
-/

namespace Inlay

/-- A request that was sent, and what came of it. -/
structure Exchange where
  method : String
  params : Json
  outcome : Outcome Json

namespace Exchange

/-- The interpreter was asked which operations it offers. -/
def IsQuestion (exchange : Exchange) : Prop :=
  exchange.method = "capabilities" ∧ exchange.params = .obj []

/-- What is known from then on: the operations named in a reply of the right shape, and all
of them when the interpreter rejects the question. -/
def teaches? (exchange : Exchange) : Option Capabilities :=
  if exchange.method = "capabilities" then
    match exchange.outcome with
    | .ok reply => Capabilities.ofJson? reply
    | .error failure => if failure.layer = .pike then some .all else none
  else none

/-- The failure of an exchange that is of no use. -/
def failure (exchange : Exchange) : Failure :=
  match exchange.outcome with
  | .ok _ => Remote.shapeFailure exchange.method
  | .error failure => failure

/-- The outcome of an exchange, its reply decoded. -/
def decoded {α : Type} (decode : Json → Option α) (exchange : Exchange) : Outcome α :=
  match exchange.outcome with
  | .error failure => .error failure
  | .ok reply =>
      match decode reply with
      | some value => .ok value
      | none => .error exchange.failure

/-- What the first useful answer among all that was sent taught. -/
def known? (log : List Exchange) : Option Capabilities := log.findSome? teaches?

/-- What is made of the outcome of the question is what it teaches, and else its failure. -/
theorem settle_decoded {exchange : Exchange} (question : exchange.IsQuestion) :
    Remote.settleCapabilities (exchange.decoded Capabilities.ofJson?) =
      match exchange.teaches? with
      | some capabilities => .ok capabilities
      | none => .error exchange.failure := by
  obtain ⟨method, params, failure | reply⟩ := exchange
  · simp only [decoded, teaches?, Exchange.failure, if_pos question.1,
      Remote.settleCapabilities]
    split <;> rfl
  · simp only [decoded, teaches?, if_pos question.1]
    cases Capabilities.ofJson? reply <;> rfl

/-- A question of no use did not fail in the interpreter. -/
theorem failure_layer {exchange : Exchange} (question : exchange.IsQuestion)
    (useless : exchange.teaches? = none) : exchange.failure.layer ≠ .pike := by
  obtain ⟨method, params, failure | reply⟩ := exchange
  · intro rejected
    rw [teaches?, if_pos question.1] at useless
    exact absurd useless (by simp [show failure.layer = .pike from rejected])
  · intro rejected
    cases rejected

end Exchange

/-- Whether the operation of the given name is offered. -/
def Capabilities.offers (capabilities : Capabilities) : String → Bool
  | "tokenize" => capabilities.tokenize
  | "resolve" => capabilities.resolve
  | "symbols" => capabilities.symbols
  | "diagnostics" => capabilities.diagnostics
  | _ => false

/-! ## Recording what is sent -/

namespace Channel

variable {τ : Type}

/-- A request over a channel, with its outcome. -/
def exchange (channel : Channel τ) (method : String) (params : Json) (link : τ) : Exchange :=
  ⟨method, params, (channel.send method params link).2⟩

/-- The channel that also keeps what is sent over it, in order. -/
def recorded (channel : Channel τ) : Channel (τ × List Exchange) where
  send method params state :=
    let (link, outcome) := channel.send method params state.1
    ((link, state.2 ++ [⟨method, params, outcome⟩]), outcome)
  shutdown state := (channel.shutdown state.1, state.2)

end Channel

/-- The analyzer's state together with a record. -/
def Remote.logged {τ : Type} (remote : Remote τ) (log : List Exchange) :
    Remote (τ × List Exchange) :=
  ⟨(remote.link, log), remote.capabilities⟩

/-- Work over a channel comes to a result and sends the given requests: over the recorded
channel it does the same and adds them to the record. -/
structure Sends {τ α : Type} (channel : Channel τ)
    (work : ∀ σ : Type, Channel σ → Analysis (Remote σ) α) (remote : Remote τ)
    (sent : List Exchange) (result : Outcome α) (later : Remote τ) : Prop where
  runs : (work τ channel).run.run remote = (result, later)
  records : ∀ log, (work _ channel.recorded).run.run (remote.logged log) =
    (result, later.logged (log ++ sent))

namespace Sends

variable {τ α β : Type} {channel : Channel τ} {remote middle later : Remote τ}
  {sent own : List Exchange} {work : ∀ σ : Type, Channel σ → Analysis (Remote σ) α}
  {next : ∀ σ : Type, Channel σ → α → Analysis (Remote σ) β}

/-- What two pieces of work send is sent in this order, the second starting where the first has
ended. -/
theorem bind_ok {value : α} {result : Outcome β}
    (first : Sends channel work remote sent (.ok value) middle)
    (second : Sends channel (fun σ wire => next σ wire value) middle own result later) :
    Sends channel (fun σ wire => work σ wire >>= next σ wire) remote (sent ++ own) result
      later where
  runs := (Analysis.run_bind_ok first.runs).trans second.runs
  records log := by
    rw [Analysis.run_bind_ok (first.records log), second.records, List.append_assoc]

theorem bind_error {failure : Failure}
    (first : Sends channel work remote sent (.error failure) later) :
    Sends channel (fun σ wire => work σ wire >>= next σ wire) remote sent (.error failure)
      later where
  runs := Analysis.run_bind_error first.runs
  records log := Analysis.run_bind_error (first.records log)

end Sends

/-! ## The course of a query -/

/-- How the capabilities are found, from those kept before to those kept afterwards, with
what is sent for it. -/
inductive Remote.Learns : Option Capabilities → List Exchange → Outcome Capabilities →
    Option Capabilities → Prop where
  | known (capabilities : Capabilities) :
    Learns (some capabilities) [] (.ok capabilities) (some capabilities)
  | learnt {question : Exchange} {capabilities : Capabilities} :
    question.IsQuestion →
    question.teaches? = some capabilities →
    Learns none [question] (.ok capabilities) (some capabilities)
  | failed {question : Exchange} :
    question.IsQuestion →
    question.teaches? = none →
    Learns none [question] (.error question.failure) none

namespace Remote.Learns

variable {before now : Option Capabilities} {asked : List Exchange}
  {found : Outcome Capabilities} {capabilities : Capabilities}

/-- The capabilities that are found are kept, and no others. -/
theorem found_iff (learns : Learns before asked found now) :
    found = .ok capabilities ↔ now = some capabilities := by
  cases learns <;> simp

theorem isQuestion (learns : Learns before asked found now) {exchange : Exchange}
    (sent : exchange ∈ asked) : exchange.IsQuestion := by
  cases learns with
  | known => cases sent
  | learnt asks _ => exact List.mem_singleton.1 sent ▸ asks
  | failed asks _ => exact List.mem_singleton.1 sent ▸ asks

end Remote.Learns

/-- What becomes of the request for an operation once the capabilities are found or not, with
what is sent for it. -/
inductive Remote.Proceeds {α : Type} (method : String) (params : Json)
    (decode : Json → Option α) : Outcome Capabilities → List Exchange → Outcome α → Prop where
  | unknown (failure : Failure) :
    Proceeds method params decode (.error failure) [] (.error failure)
  | withheld {capabilities : Capabilities} :
    capabilities.offers method = false →
    Proceeds method params decode (.ok capabilities) [] (.error (.unavailable method))
  | sent {capabilities : Capabilities} {exchange : Exchange} :
    capabilities.offers method = true →
    exchange.method = method →
    exchange.params = params →
    Proceeds method params decode (.ok capabilities) [exchange] (exchange.decoded decode)

namespace Remote

variable {τ α : Type} {channel : Channel τ}

/-- A call sends one request and returns its reply decoded; what was known is kept. -/
theorem call_run (channel : Channel τ) (method : String) (params : Json)
    (decode : Json → Option α) (remote : Remote τ) :
    (call channel method params decode).run.run remote =
      ((channel.exchange method params remote.link).decoded decode,
        { remote with link := (channel.send method params remote.link).1 }) := by
  have sent : (call channel method params decode).run.run remote =
      ((match (channel.send method params remote.link).2 with
        | .error failure => throw failure
        | .ok reply =>
            match decode reply with
            | some value => pure value
            | none => throw (shapeFailure method) : Analysis (Remote τ) α).run.run
        { remote with link := (channel.send method params remote.link).1 }) := rfl
  rw [sent, Exchange.decoded, Channel.exchange]
  rcases (channel.send method params remote.link).2 with failure | reply
  · rfl
  · simp only
    cases decode reply <;> rfl

/-- Over a recorded channel a call adds its own request to the record. -/
theorem call_sends (channel : Channel τ) (method : String) (params : Json)
    (decode : Json → Option α) (remote : Remote τ) :
    Sends channel (fun _ wire => call wire method params decode) remote
      [channel.exchange method params remote.link]
      ((channel.exchange method params remote.link).decoded decode)
      { remote with link := (channel.send method params remote.link).1 } where
  runs := call_run channel method params decode remote
  records log := call_run channel.recorded method params decode (remote.logged log)

/-- While nothing is known the question is asked, and only a useful answer is kept. -/
theorem capabilitiesOf_run (channel : Channel τ) (link : τ) :
    (capabilitiesOf channel).run.run ⟨link, none⟩ =
      match (channel.exchange "capabilities" (.obj []) link).teaches? with
      | some capabilities =>
          (.ok capabilities, ⟨(channel.send "capabilities" (.obj []) link).1, some capabilities⟩)
      | none =>
          (.error (channel.exchange "capabilities" (.obj []) link).failure,
            ⟨(channel.send "capabilities" (.obj []) link).1, none⟩) := by
  have asked : (capabilitiesOf channel).run.run ⟨link, none⟩ =
      ((Analysis.attempt (call channel "capabilities" (.obj []) Capabilities.ofJson?) >>=
        fun outcome => Analysis.ofOutcome (settleCapabilities outcome) >>=
        fun capabilities => (modify fun remote =>
          { remote with capabilities := some capabilities }) >>= fun _ => pure capabilities :
        Analysis (Remote τ) Capabilities).run.run ⟨link, none⟩) := rfl
  rw [asked, Analysis.run_bind_ok (Analysis.run_attempt _ _), call_run,
    Exchange.settle_decoded ⟨rfl, rfl⟩]
  cases (channel.exchange "capabilities" (.obj []) link).teaches? <;> rfl

theorem capabilitiesOf_run_learnt (channel : Channel τ) (link : τ) {capabilities : Capabilities}
    (taught : (channel.exchange "capabilities" (.obj []) link).teaches? = some capabilities) :
    (capabilitiesOf channel).run.run ⟨link, none⟩ = (.ok capabilities,
      ⟨(channel.send "capabilities" (.obj []) link).1, some capabilities⟩) := by
  rw [capabilitiesOf_run, taught]

theorem capabilitiesOf_run_failed (channel : Channel τ) (link : τ)
    (useless : (channel.exchange "capabilities" (.obj []) link).teaches? = none) :
    (capabilitiesOf channel).run.run ⟨link, none⟩ =
      (.error (channel.exchange "capabilities" (.obj []) link).failure,
        ⟨(channel.send "capabilities" (.obj []) link).1, none⟩) := by
  rw [capabilitiesOf_run, useless]

/-- The capabilities are found in one of the three ways, recorded or not. -/
theorem capabilitiesOf_sends (channel : Channel τ) (remote : Remote τ) :
    ∃ asked found later,
      Sends channel (fun _ wire => capabilitiesOf wire) remote asked found later ∧
        Learns remote.capabilities asked found later.capabilities := by
  obtain ⟨link, _ | capabilities⟩ := remote
  · have question : (channel.exchange "capabilities" (.obj []) link).IsQuestion := ⟨rfl, rfl⟩
    refine ⟨[channel.exchange "capabilities" (.obj []) link], ?_⟩
    cases taught : (channel.exchange "capabilities" (.obj []) link).teaches? with
    | none =>
      exact ⟨_, _, ⟨capabilitiesOf_run_failed channel link taught,
        fun log => capabilitiesOf_run_failed channel.recorded (link, log) taught⟩,
        .failed question taught⟩
    | some capabilities =>
      exact ⟨_, _, ⟨capabilitiesOf_run_learnt channel link taught,
        fun log => capabilitiesOf_run_learnt channel.recorded (link, log) taught⟩,
        .learnt question taught⟩
  · refine ⟨[], .ok capabilities, ⟨link, some capabilities⟩, ⟨rfl, fun log => ?_⟩, .known _⟩
    rw [List.append_nil]
    rfl

/-- A request finds the capabilities, and is sent only if they offer its operation. -/
theorem request_sends (channel : Channel τ) {method : String} {offered : Capabilities → Bool}
    (offers : ∀ capabilities, offered capabilities = capabilities.offers method)
    (params : Json) (decode : Json → Option α) (remote : Remote τ) :
    ∃ asked own found result later,
      Sends channel (fun _ wire => request wire method offered params decode) remote
        (asked ++ own) result later ∧
      Learns remote.capabilities asked found later.capabilities ∧
      Proceeds method params decode found own result := by
  obtain ⟨asked, failure | capabilities, middle, learns, course⟩ :=
    capabilitiesOf_sends channel remote
  · refine ⟨asked, [], _, _, middle, ?_, course, .unknown failure⟩
    rw [List.append_nil]
    exact learns.bind_error
  · cases offering : capabilities.offers method with
    | false =>
      refine ⟨asked, [], _, _, middle, learns.bind_ok ?_, course, .withheld offering⟩
      simp only [offers, offering, Bool.false_eq_true, if_false]
      exact ⟨rfl, fun log => by rw [List.append_nil]; rfl⟩
    | true =>
      refine ⟨asked, [channel.exchange method params middle.link], .ok capabilities,
        (channel.exchange method params middle.link).decoded decode,
        { middle with link := (channel.send method params middle.link).1 },
        learns.bind_ok ?_, course, .sent offering rfl rfl⟩
      simp only [offers, offering, if_true]
      exact call_sends channel method params decode middle

end Remote

/-- What the analyzer can be asked. -/
inductive Remote.Query where
  | capabilities
  | tokenize (source : String)
  | resolve (source path name : String) (line : Nat)
  | symbols (source : String)
  | diagnostics (source path : String)

namespace Remote.Query

/-- What a query asks for. -/
abbrev Answer : Query → Type
  | capabilities => Capabilities
  | tokenize _ => List RawToken
  | resolve _ _ _ _ => Option String
  | symbols _ => List RawSymbol
  | diagnostics _ _ => List RawDiagnostic

/-- The operation of the interpreter that a query needs. -/
def method? : Query → Option String
  | capabilities => none
  | tokenize _ => some "tokenize"
  | resolve _ _ _ _ => some "resolve"
  | symbols _ => some "symbols"
  | diagnostics _ _ => some "diagnostics"

/-- What is sent along with a query. -/
def params : Query → Json
  | capabilities => .obj []
  | tokenize source => .ofMembers [("source", .str source)]
  | resolve source path name line =>
      .ofMembers [("source", .str source), ("path", .str path), ("symbol", .str name),
        ("line", .nat line)]
  | symbols source => .ofMembers [("source", .str source)]
  | diagnostics source path => .ofMembers [("source", .str source), ("path", .str path)]

/-- How the reply to a query is read. -/
def decode : (query : Query) → Json → Option query.Answer
  | capabilities => Capabilities.ofJson?
  | tokenize _ => Remote.listOf? RawToken.ofJson?
  | resolve _ _ _ _ => Json.nullable Json.text?
  | symbols _ => Remote.listOf? RawSymbol.ofJson?
  | diagnostics _ _ => Remote.listOf? RawDiagnostic.ofJson?

/-- Asks the analyzer over a channel. -/
def ask : (query : Query) → (τ : Type) → Channel τ → Analysis (Remote τ) query.Answer
  | capabilities, _, channel => Remote.capabilitiesOf channel
  | tokenize source, _, channel => (Analyzer.remote channel).tokenize source
  | resolve source path name line, _, channel =>
      (Analyzer.remote channel).resolve source path name line
  | symbols source, _, channel => (Analyzer.remote channel).symbols source
  | diagnostics source path, _, channel => (Analyzer.remote channel).diagnostics source path

section

variable {τ : Type}

/-- The outcome of a query, and the analyzer after it. -/
def run (channel : Channel τ) (query : Query) (remote : Remote τ) :
    Outcome query.Answer × Remote τ :=
  (query.ask τ channel).run.run remote

/-- What is sent for a query. -/
def sends (channel : Channel τ) (query : Query) (remote : Remote τ) : List Exchange :=
  ((query.ask _ channel.recorded).run.run (remote.logged [])).2.link.2

/-- What becomes of a query once the capabilities are found or not. -/
inductive Course : (query : Query) → Outcome Capabilities → List Exchange →
    Outcome query.Answer → Prop where
  | told (found : Outcome Capabilities) : Course .capabilities found [] found
  | operation {query : Query} {method : String} {found : Outcome Capabilities}
      {own : List Exchange} {result : Outcome query.Answer} :
    query.method? = some method →
    Proceeds method query.params query.decode found own result →
    Course query found own result

/-- A query for an operation is a request for it. -/
theorem request_course (channel : Channel τ) {query : Query} {method : String}
    {offered : Capabilities → Bool} (needs : query.method? = some method)
    (requests : query.ask = fun _ wire =>
      Remote.request wire method offered query.params query.decode)
    (offers : ∀ capabilities, offered capabilities = capabilities.offers method)
    (remote : Remote τ) :
    ∃ asked own found result later,
      Sends channel query.ask remote (asked ++ own) result later ∧
      Learns remote.capabilities asked found later.capabilities ∧
      query.Course found own result := by
  obtain ⟨asked, own, found, result, later, sends, learns, proceeds⟩ :=
    Remote.request_sends channel offers query.params query.decode remote
  rw [requests]
  exact ⟨asked, own, found, result, later, sends, learns, .operation needs proceeds⟩

/-- Every query finds the capabilities first and then does its own part. -/
theorem ask_course (channel : Channel τ) (query : Query) (remote : Remote τ) :
    ∃ asked own found result later,
      Sends channel query.ask remote (asked ++ own) result later ∧
      Learns remote.capabilities asked found later.capabilities ∧
      query.Course found own result := by
  cases query with
  | capabilities =>
    obtain ⟨asked, found, later, sends, learns⟩ := Remote.capabilitiesOf_sends channel remote
    refine ⟨asked, [], found, found, later, ?_, learns, .told found⟩
    rw [List.append_nil]
    exact sends
  | tokenize => exact request_course channel rfl rfl (fun _ => rfl) remote
  | resolve => exact request_course channel rfl rfl (fun _ => rfl) remote
  | symbols => exact request_course channel rfl rfl (fun _ => rfl) remote
  | diagnostics => exact request_course channel rfl rfl (fun _ => rfl) remote

/-- Keeping a record changes nothing else: the query has the same outcome, and what was sent
for it is added to the record. -/
theorem run_recorded (channel : Channel τ) (query : Query) (remote : Remote τ)
    (log : List Exchange) :
    query.run channel.recorded (remote.logged log) = ((query.run channel remote).1,
      (query.run channel remote).2.logged (log ++ query.sends channel remote)) := by
  obtain ⟨_, _, _, _, _, sends, _⟩ := ask_course channel query remote
  rw [Query.sends, sends.records, run, run, sends.runs, sends.records]
  rfl

/-- A query finds the capabilities and then does its own part. -/
theorem course (channel : Channel τ) (query : Query) (remote : Remote τ) :
    ∃ asked own found, query.sends channel remote = asked ++ own ∧
      Learns remote.capabilities asked found (query.run channel remote).2.capabilities ∧
      query.Course found own (query.run channel remote).1 := by
  obtain ⟨asked, own, found, result, later, sends, learns, course⟩ :=
    ask_course channel query remote
  refine ⟨asked, own, found, ?_, ?_, ?_⟩
  · rw [Query.sends, sends.records]
    rfl
  · rw [run, sends.runs]
    exact learns
  · rw [run, sends.runs]
    exact course

end

end Remote.Query

/-! ### What is sent for an operation -/

theorem Capabilities.ne_of_offers {capabilities : Capabilities} {method : String}
    (offered : capabilities.offers method = true) : method ≠ "capabilities" := by
  rintro rfl
  cases offered

namespace Remote.Query.Course

variable {query : Query} {found : Outcome Capabilities} {own : List Exchange}
  {result : Outcome query.Answer} {exchange : Exchange}

/-- Without capabilities nothing is asked for, and the query fails as the question did. -/
theorem of_error {failure : Failure} (course : query.Course (.error failure) own result) :
    own = [] ∧ result = .error failure := by
  cases course with
  | told => exact ⟨rfl, rfl⟩
  | operation _ proceeds =>
    cases proceeds
    exact ⟨rfl, rfl⟩

/-- What is sent for an operation is offered, and is what the query needs. -/
theorem offered (course : query.Course found own result) (sent : exchange ∈ own) :
    query.method? = some exchange.method ∧
      ∃ capabilities, found = .ok capabilities ∧ capabilities.offers exchange.method = true := by
  cases course with
  | told => cases sent
  | operation needs proceeds =>
    cases proceeds with
    | unknown => cases sent
    | withheld => cases sent
    | sent offering named _ =>
      cases List.mem_singleton.1 sent
      subst named
      exact ⟨needs, _, rfl, offering⟩

/-- A query for an operation proceeds as a request for it does. -/
theorem proceeds {method : String} (course : query.Course found own result)
    (needs : query.method? = some method) :
    Proceeds method query.params query.decode found own result := by
  cases course with
  | told => cases needs
  | operation needed proceeds => exact Option.some.inj (needed.symm.trans needs) ▸ proceeds

theorem of_not_offered {capabilities : Capabilities} {method : String}
    (course : query.Course (.ok capabilities) own result) (needs : query.method? = some method)
    (lacking : capabilities.offers method = false) : result = .error (.unavailable method) := by
  cases course.proceeds needs with
  | withheld => rfl
  | sent offering _ _ => exact absurd (offering.symm.trans lacking) (by decide)

/-- An operation that is offered is asked for, and the reply decoded is the outcome. -/
theorem of_offered {capabilities : Capabilities} {method : String}
    (course : query.Course (.ok capabilities) own result) (needs : query.method? = some method)
    (offering : capabilities.offers method = true) :
    ∃ exchange, own = [exchange] ∧ exchange.method = method ∧ exchange.params = query.params ∧
      result = exchange.decoded query.decode := by
  cases course.proceeds needs with
  | withheld lacking => exact absurd (offering.symm.trans lacking) (by decide)
  | sent _ named carried => exact ⟨_, rfl, named, carried, rfl⟩

theorem ne_question (course : query.Course found own result) (sent : exchange ∈ own) :
    exchange.method ≠ "capabilities" :=
  have ⟨_, _, _, offering⟩ := course.offered sent
  Capabilities.ne_of_offers offering

theorem teaches_none (course : query.Course found own result) (sent : exchange ∈ own) :
    exchange.teaches? = none :=
  if_neg (course.ne_question sent)

end Remote.Query.Course

/-! ## Runs of queries -/

namespace Remote

variable {τ : Type} {channel : Channel τ} {remote : Remote τ}

/-- The analyzer after a run of queries. -/
def after (channel : Channel τ) (remote : Remote τ) : List Query → Remote τ
  | [] => remote
  | query :: later => after channel (query.run channel remote).2 later

/-- What is sent for a run of queries. -/
def requests (channel : Channel τ) (remote : Remote τ) : List Query → List Exchange
  | [] => []
  | query :: later =>
      query.sends channel remote ++ requests channel (query.run channel remote).2 later

/-- What is sent for a run of queries is what the recorded channel keeps. -/
theorem after_recorded (channel : Channel τ) (remote : Remote τ) (log : List Exchange)
    (queries : List Query) :
    after channel.recorded (remote.logged log) queries =
      (after channel remote queries).logged (log ++ requests channel remote queries) := by
  induction queries generalizing remote log with
  | nil => rw [requests, List.append_nil, after, after]
  | cons query later ih =>
    rw [after, Query.run_recorded, ih, List.append_assoc]
    rfl

/-- What is kept after a query is what all that was sent taught. -/
theorem capabilities_run {log : List Exchange} (kept : remote.capabilities = Exchange.known? log)
    (query : Query) :
    (query.run channel remote).2.capabilities =
      Exchange.known? (log ++ query.sends channel remote) := by
  obtain ⟨asked, own, found, sends, learns, course⟩ := query.course channel remote
  have useless : Exchange.known? own = none :=
    List.findSome?_eq_none_iff.2 fun _ sent => course.teaches_none sent
  rw [sends, Exchange.known?, List.findSome?_append, List.findSome?_append,
    ← Exchange.known?, ← kept, ← Exchange.known?, ← Exchange.known?, useless, Option.or_none]
  generalize remote.capabilities = before, (query.run channel remote).2.capabilities = now
    at learns
  cases learns with
  | known => rfl
  | learnt _ taught => simp [Exchange.known?, taught]
  | failed _ useless => simp [Exchange.known?, useless]

theorem capabilities_after {log : List Exchange}
    (kept : remote.capabilities = Exchange.known? log) (queries : List Query) :
    (after channel remote queries).capabilities =
      Exchange.known? (log ++ requests channel remote queries) := by
  induction queries generalizing remote log with
  | nil => rw [requests, List.append_nil, after, kept]
  | cons query later ih =>
    rw [after, ih (capabilities_run kept query), List.append_assoc]
    rfl

/-- Once the capabilities are known, a query keeps them and does not ask for them. -/
theorem run_known (channel : Channel τ) {capabilities : Capabilities}
    (known : remote.capabilities = some capabilities) (query : Query) :
    (query.run channel remote).2.capabilities = some capabilities ∧
      ∀ exchange ∈ query.sends channel remote, exchange.method ≠ "capabilities" := by
  obtain ⟨asked, own, found, sends, learns, course⟩ := query.course channel remote
  rw [sends]
  rw [known] at learns
  generalize (query.run channel remote).2.capabilities = now at learns
  cases learns
  exact ⟨rfl, fun _ sent => course.ne_question sent⟩

/-- Over any later queries what is known is kept, and the question is not asked again. -/
theorem after_known {capabilities : Capabilities}
    (known : remote.capabilities = some capabilities) (queries : List Query) :
    (after channel remote queries).capabilities = some capabilities ∧
      ∀ exchange ∈ requests channel remote queries, exchange.method ≠ "capabilities" := by
  induction queries generalizing remote with
  | nil => exact ⟨known, fun _ sent => nomatch sent⟩
  | cons query later ih =>
    obtain ⟨kept, unasked⟩ := run_known channel known query
    obtain ⟨keptLater, unaskedLater⟩ := ih kept
    refine ⟨keptLater, fun exchange sent => ?_⟩
    exact (List.mem_append.1 sent).elim (unasked exchange) (unaskedLater exchange)

/-- Whatever was asked before and whatever became of it: what is kept is what the first useful
answer to the question for the operations taught.  As long as there was none, a query begins
with the question, and one of no use ends it with the failure and leaves nothing behind.
After it, no query changes what is kept or asks again.  An operation is asked for only where
it is offered, and a query for one that is not ends as unavailable.  A query for one that is
offered asks for it once, last of all and with its own parameters, and the reply decoded is its
outcome. -/
theorem queries_ask_once (channel : Channel τ) (link : τ) (earlier : List Query)
    (query : Query) :
    let before := after channel ⟨link, none⟩ earlier
    let known := Exchange.known? (requests channel ⟨link, none⟩ earlier)
    let sent := query.sends channel before
    let result := (query.run channel before).1
    let now := (query.run channel before).2
    before.capabilities = known ∧
    (known = none → ∃ question rest, sent = question :: rest ∧ question.IsQuestion ∧
      (question.teaches? = none → question.failure.layer ≠ .pike ∧ rest = [] ∧
        result = .error question.failure ∧ now.capabilities = none)) ∧
    (∀ capabilities, known = some capabilities → ∀ later,
      (after channel before later).capabilities = some capabilities ∧
      ∀ exchange ∈ requests channel before later, exchange.method ≠ "capabilities") ∧
    (∀ exchange ∈ sent, exchange.IsQuestion ∨ query.method? = some exchange.method ∧
      ∃ capabilities, now.capabilities = some capabilities ∧
        capabilities.offers exchange.method = true) ∧
    (∀ method capabilities, query.method? = some method → now.capabilities = some capabilities →
      capabilities.offers method = false → result = .error (.unavailable method)) ∧
    (∀ method capabilities, query.method? = some method → now.capabilities = some capabilities →
      capabilities.offers method = true → ∃ asked exchange, sent = asked ++ [exchange] ∧
        (∀ first ∈ asked, first.IsQuestion) ∧ exchange.method = method ∧
        exchange.params = query.params ∧ result = exchange.decoded query.decode) := by
  intro before known sent result now
  have start : (⟨link, none⟩ : Remote τ).capabilities = Exchange.known? [] := rfl
  have kept : before.capabilities = known := capabilities_after start earlier
  obtain ⟨asked, own, found, sends, learns, course⟩ := query.course channel before
  refine ⟨kept, fun unknown => ?_, fun capabilities learnt => after_known (kept.trans learnt),
    fun exchange inside => ?_, fun method capabilities needs stored lacking => ?_,
    fun method capabilities needs stored offering => ?_⟩
  · rw [kept, unknown] at learns
    generalize (query.run channel before).2.capabilities = held at learns ⊢
    cases learns with
    | @learnt question capabilities asks taught =>
      refine ⟨question, own, sends, asks, fun useless => ?_⟩
      cases taught.symm.trans useless
    | @failed question asks useless =>
      obtain ⟨silent, failed⟩ := course.of_error
      exact ⟨question, own, sends, asks, fun _ =>
        ⟨Exchange.failure_layer asks useless, silent, failed, rfl⟩⟩
  · rcases List.mem_append.1 (sends ▸ inside : exchange ∈ asked ++ own) with first | second
    · exact .inl (learns.isQuestion first)
    · obtain ⟨needs, capabilities, finds, offers⟩ := course.offered second
      exact .inr ⟨needs, capabilities, learns.found_iff.1 finds, offers⟩
  · exact (learns.found_iff.2 stored ▸ course).of_not_offered needs lacking
  · obtain ⟨exchange, own_eq, named, carried, outcome⟩ :=
      (learns.found_iff.2 stored ▸ course).of_offered needs offering
    exact ⟨asked, exchange, own_eq ▸ sends, fun _ => learns.isQuestion, named, carried, outcome⟩

/-- The channel that gives the listed outcomes, one for each request. -/
def scripted : Channel (List (Outcome Json)) where
  send _ _
    | [] => ([], .error (.bridge .timeout "no reply"))
    | outcome :: rest => (rest, outcome)
  shutdown _ := []

/-- A question that gets no reply is asked again; what is not offered is never asked for. -/
example :
    let lost : Failure := .bridge .timeout "no reply"
    let offer : Json := .ofMembers [("tokenize", .bool true)]
    let start : Remote (List (Outcome Json)) := ⟨[.error lost, .ok offer, .ok (.arr [])], none⟩
    let first : List Query := [.tokenize "a", .tokenize "a"]
    requests scripted start (first ++ [.symbols "a"]) =
      [⟨"capabilities", .obj [], .error lost⟩, ⟨"capabilities", .obj [], .ok offer⟩,
        ⟨"tokenize", .ofMembers [("source", .str "a")], .ok (.arr [])⟩] ∧
    ((Query.symbols "a").run scripted (after scripted start first)).1 =
      .error (.unavailable "symbols") :=
  ⟨rfl, rfl⟩

end Remote

end Inlay
