import Inlay.Server.Basic

/-!
# Problems are published for the text they were found in

A notice of the editor takes effect on the open documents at once.  The validation it
starts takes its time: other notices are heeded and other validations end before its
problems are known.  An `Activity` is the server together with the validations that
are under way, a `Step` is a notice or the end of a validation, and a `Run` is any
interleaving of them.

An id and a version stand for a text.  A document keeps its id while it is open and
only takes newer versions, and an id is never given to another document, so a
validation whose id and version are those of the open document was started for the
text that the document has now.
-/

namespace Inlay

/-- An accepted batch of changes leads to a newer version of the same document. -/
theorem Document.apply_ok {document revised : Document} {changes : List Change} {version : Int}
    (accepted : document.apply changes version = .ok revised) :
    revised.id = document.id ∧ revised.uri = document.uri ∧ document.version < revised.version := by
  rw [Document.apply, Revision.apply] at accepted
  split at accepted
  next applied =>
    split at applied
    next => cases applied
    next newer =>
      cases applied
      cases accepted
      exact ⟨rfl, rfl, Int.not_le.1 newer⟩
  next => cases accepted

namespace Server

variable {σ : Type}

/-! ## The document under a URI -/

theorem find?_without (documents : List Document) (closed uri : Uri) :
    (without documents closed).find? (fun document => document.uri == uri) =
      if closed = uri then none else documents.find? fun document => document.uri == uri := by
  rw [without, List.find?_filter]
  split
  next same =>
    subst same
    simp
  next different =>
    congr 1
    funext document
    by_cases here : document.uri = uri
    · simp [here, Ne.symm different]
    · simp [here]

theorem document?_closeDocument (server : Server σ) (closed uri : Uri) :
    (server.closeDocument closed).document? uri =
      if closed = uri then none else server.document? uri :=
  find?_without server.documents closed uri

theorem document?_putDocument (server : Server σ) (document : Document) (uri : Uri) :
    (server.putDocument document).document? uri =
      if document.uri = uri then some document else server.document? uri := by
  rw [document?, putDocument, List.find?_append, find?_without]
  split
  next same => simp [same]
  next different => simp [different, document?]

theorem uri_of_document? {server : Server σ} {uri : Uri} {document : Document}
    (found : server.document? uri = some document) : document.uri = uri := by
  simpa using List.find?_some found

/-! ## Notices and the validations they start -/

/-- The server after a notice, and the validation that the notice starts. -/
def receive (server : Server σ) : Notice → Server σ × Option Validation
  | .ready => (server, none)
  | .opened uri text version =>
      let (server, document) := server.openDocument uri text version
      (server, some (validationOf document))
  | .changed uri version changes =>
      match server.document? uri with
      | none => (server, none)
      | some document =>
          match document.apply changes version with
          | .ok revised => (server.putDocument revised, some (validationOf revised))
          | .error _ => (server, none)
  | .saved uri => (server, (server.document? uri).map validationOf)
  | .closed uri => (server.closeDocument uri, none)

/-- What is announced about a notice without any validation. -/
def remarks (server : Server σ) : Notice → List Announcement
  | .ready => [.info server.greeting]
  | .closed uri => [.diagnostics uri [] none]
  | _ => []

/-- Heeding a notice is receiving it and then, before anything else happens, carrying
out the validation it starts. -/
theorem heed_eq_receive (server : Server σ) (notice : Notice) :
    server.heed notice =
      match server.receive notice with
      | (after, none) => (after, server.remarks notice)
      | (after, some validation) => after.validate validation := by
  cases notice with
  | ready => rfl
  | opened uri text version => rfl
  | changed uri version changes =>
      simp only [heed, receive]
      cases server.document? uri with
      | none => rfl
      | some document =>
          simp only
          cases document.apply changes version with
          | ok revised => rfl
          | error failure => rfl
  | saved uri =>
      simp only [heed, receive]
      cases server.document? uri with
      | none => rfl
      | some document => rfl
  | closed uri => rfl

/-- An opened document has a new id, even where one was open under the URI. -/
theorem document?_opened (server : Server σ) (uri : Uri) (text : String) (version : Int) :
    (server.receive (.opened uri text version)).1.document? uri =
      some ⟨server.nextDocumentId, uri, ⟨text.toList, version⟩⟩ :=
  (document?_putDocument _ _ _).trans (if_pos rfl)

theorem document?_closed (server : Server σ) (uri : Uri) :
    (server.receive (.closed uri)).1.document? uri = none :=
  (document?_closeDocument _ _ _).trans (if_pos rfl)

/-- A change that is accepted keeps the document and its id. -/
theorem document?_changed {server : Server σ} {uri : Uri} {document revised : Document}
    {changes : List Change} {version : Int} (found : server.document? uri = some document)
    (accepted : document.apply changes version = .ok revised) :
    (server.receive (.changed uri version changes)).1.document? uri = some revised := by
  have sameUri : revised.uri = uri :=
    (Document.apply_ok accepted).2.1.trans (uri_of_document? found)
  simp only [receive, found, accepted]
  rw [document?_putDocument, if_pos sameUri]

/-- A notice that starts a validation announces nothing by itself. -/
theorem remarks_eq_nil {server after : Server σ} {notice : Notice} {validation : Validation}
    (started : server.receive notice = (after, some validation)) : server.remarks notice = [] := by
  cases notice with
  | ready => cases started
  | closed uri => cases started
  | _ => rfl

/-- A notice starts a validation of the document that it leaves open. -/
theorem receive_validation {server after : Server σ} {notice : Notice} {validation : Validation}
    (started : server.receive notice = (after, some validation)) :
    ∃ document, after.document? validation.uri = some document ∧
      validation = validationOf document := by
  cases notice with
  | ready => cases started
  | opened uri text version =>
      cases started
      exact ⟨_, (document?_putDocument _ _ _).trans (if_pos rfl), rfl⟩
  | changed uri version changes =>
      simp only [receive] at started
      split at started
      next => cases started
      next document _ =>
        split at started
        next revised _ =>
          cases started
          exact ⟨revised, (document?_putDocument _ _ _).trans (if_pos rfl), rfl⟩
        next => cases started
  | saved uri =>
      simp only [receive, Prod.mk.injEq, Option.map_eq_some_iff] at started
      obtain ⟨rfl, document, found, rfl⟩ := started
      refine ⟨document, ?_, rfl⟩
      rw [validationOf, uri_of_document? found, found]
  | closed uri => cases started

/-! ## What becomes of a document -/

/-- What becomes of the document under a URI, given the id of the next document before
and after. -/
inductive Fate (before : Option Document) (next : Nat) (after : Option Document) (later : Nat) :
    Prop where
  | kept : after = before → Fate before next after later
  | opened {document : Document} :
      after = some document → document.id = next → next < later → Fate before next after later
  | revised {document revised : Document} :
      before = some document → after = some revised → revised.id = document.id →
      document.version < revised.version → Fate before next after later
  | closed : after = none → Fate before next after later

/-- The fates of all documents. -/
structure Fates (server after : Server σ) : Prop where
  next : server.nextDocumentId ≤ after.nextDocumentId
  fate : ∀ uri, Fate (server.document? uri) server.nextDocumentId (after.document? uri)
    after.nextDocumentId

theorem Fates.refl (server : Server σ) : Fates server server :=
  ⟨Nat.le_refl _, fun _ => .kept rfl⟩

/-- A notice leaves a document as it is, opens it under a new id, revises it or closes it. -/
theorem fates_receive (server : Server σ) (notice : Notice) :
    Fates server (server.receive notice).1 := by
  cases notice with
  | ready => exact .refl server
  | opened uri text version =>
      refine ⟨Nat.le_succ _, fun other => ?_⟩
      simp only [receive, openDocument, document?_putDocument]
      split
      next => exact .opened rfl rfl (Nat.lt_succ_self _)
      next => exact .kept rfl
  | changed uri version changes =>
      simp only [receive]
      split
      next => exact .refl server
      next document found =>
        split
        next revised accepted =>
          obtain ⟨sameId, sameUri, newer⟩ := Document.apply_ok accepted
          refine ⟨Nat.le_refl _, fun other => ?_⟩
          rw [document?_putDocument]
          split
          next here =>
            rw [← here, sameUri, uri_of_document? found]
            exact .revised found rfl sameId newer
          next => exact .kept rfl
        next => exact .refl server
  | saved uri => exact .refl server
  | closed uri =>
      refine ⟨Nat.le_refl _, fun other => ?_⟩
      simp only [receive, document?_closeDocument]
      split
      next => exact .closed rfl
      next => exact .kept rfl

/-! ## Validations and the document they were started for -/

/-- The document that a validation was started for, if it is still open, is in a
state of this kind. -/
structure Finds (server : Server σ) (validation : Validation) (state : Document → Prop) :
    Prop where
  taken : validation.documentId < server.nextDocumentId
  state : ∀ document, server.document? validation.uri = some document →
    document.id = validation.documentId → state document

/-- The document has had a newer version since the validation was started. -/
def Newer (validation : Validation) (document : Document) : Prop :=
  validation.version < document.version

/-- The document has had a newer version since, or it still has the validation's text
and version. -/
def NewerOrSame (validation : Validation) (document : Document) : Prop :=
  Newer validation document ∨
    document.version = validation.version ∧ document.text = validation.text

/-- What holds of every newer version goes on to hold. -/
theorem Finds.fates {server after : Server σ} {validation : Validation} {state : Document → Prop}
    (finds : server.Finds validation state) (fates : Fates server after)
    (newer : ∀ document revised, state document → document.version < revised.version →
      state revised) : after.Finds validation state := by
  refine ⟨Nat.lt_of_lt_of_le finds.taken fates.next, fun document found same => ?_⟩
  cases fates.fate validation.uri with
  | kept kept => exact finds.state document (kept ▸ found) same
  | @opened new opened id _ =>
      rw [found] at opened
      cases opened
      exact absurd finds.taken (by omega)
  | @revised old new was now sameId isNewer =>
      rw [found] at now
      cases now
      exact newer old document (finds.state old was (sameId.symm.trans same)) isNewer
  | closed closed =>
      rw [found] at closed
      cases closed

theorem Newer.revised {validation : Validation} {document revised : Document}
    (newer : Newer validation document) (isNewer : document.version < revised.version) :
    Newer validation revised :=
  Int.lt_trans newer isNewer

/-- A document is newer than all validations under way once it is revised. -/
theorem NewerOrSame.revised {validation : Validation} {document revised : Document}
    (state : NewerOrSame validation document) (isNewer : document.version < revised.version) :
    Newer validation revised := by
  rcases state with newer | ⟨same, _⟩
  · exact newer.revised isNewer
  · rw [Newer, ← same]
    exact isNewer

/-- A validation whose document has gone or changed publishes nothing. -/
theorem Finds.publish_eq_nil {server : Server σ} {validation : Validation}
    (finds : server.Finds validation (Newer validation)) (found : List Diagnostic) :
    server.publish validation found = [] := by
  rw [publish, if_neg]
  rw [isCurrent]
  split
  next document here =>
    simp only [Bool.and_eq_true, beq_iff_eq, not_and]
    intro sameId sameVersion
    exact Int.ne_of_lt (finds.state document here sameId) sameVersion.symm
  next => simp

/-- A validation that publishes finds the open document in the text and the version it
was started for. -/
theorem Finds.of_publish {server : Server σ} {validation : Validation}
    (finds : server.Finds validation (NewerOrSame validation)) {found : List Diagnostic}
    {announcement : Announcement} (said : announcement ∈ server.publish validation found) :
    announcement = .diagnostics validation.uri found (some validation.version) ∧
      ∃ document, server.document? validation.uri = some document ∧
        document.text = validation.text ∧ document.version = validation.version := by
  rw [publish] at said
  split at said
  next current =>
    rw [isCurrent] at current
    split at current
    next document here =>
      simp only [Bool.and_eq_true, beq_iff_eq] at current
      obtain ⟨sameId, sameVersion⟩ := current
      refine ⟨List.mem_singleton.1 said, document, here, ?_, sameVersion⟩
      rcases finds.state document here sameId with newer | ⟨_, sameText⟩
      · exact absurd sameVersion.symm (Int.ne_of_lt newer)
      · exact sameText
    next => cases current
  next => cases said

/-! ## Activities -/

/-- The server and the validations that are under way. -/
structure Activity (σ : Type) where
  server : Server σ
  underWay : List Validation := []

namespace Activity

/-- What a step was. -/
inductive Event where
  /-- A notice took effect. -/
  | received (notice : Notice)
  /-- A validation ended, and this was announced. -/
  | ended (validation : Validation) (announced : List Announcement)
  | other

/-- A step of the server among its validations.  The analysis behind a validation may
find anything; that the validation is still current is checked when it ends. -/
inductive Step : Activity σ → Event → Activity σ → Prop where
  | receive {activity : Activity σ} (notice : Notice) :
      Step activity (.received notice)
        { server := (activity.server.receive notice).1
          underWay := (activity.server.receive notice).2.toList ++ activity.underWay }
  /-- A document that has been closed or replaced since it was looked up is
  validated. -/
  | straggle {activity : Activity σ} {validation : Validation} :
      validation.documentId < activity.server.nextDocumentId →
      (∀ document, activity.server.document? validation.uri = some document →
        document.id ≠ validation.documentId) →
      Step activity .other { activity with underWay := validation :: activity.underWay }
  | finish {activity : Activity σ} {validation : Validation} (found : List Diagnostic) :
      validation ∈ activity.underWay →
      Step activity (.ended validation (activity.server.publish validation found))
        { activity with underWay := activity.underWay.erase validation }
  /-- A validation is given up. -/
  | abandon {activity : Activity σ} {validation : Validation} :
      validation ∈ activity.underWay →
      Step activity .other { activity with underWay := activity.underWay.erase validation }
  /-- The server does anything that leaves the documents alone. -/
  | tend {activity : Activity σ} {server : Server σ} :
      server.documents = activity.server.documents →
      server.nextDocumentId = activity.server.nextDocumentId →
      Step activity .other { activity with server }

/-- What has happened, oldest first, each event with the activity it happened in. -/
abbrev History (σ : Type) := List (Activity σ × Event)

/-- The steps from a server without documents to an activity. -/
inductive Run : History σ → Activity σ → Prop where
  | start {server : Server σ} : server.documents = [] → Run [] { server }
  | step {history : History σ} {activity after : Activity σ} {event : Event} :
      Run history activity → Step activity event after →
      Run (history ++ [(activity, event)]) after

/-- What an event announced. -/
def Event.announced : Event → List Announcement
  | .ended _ announced => announced
  | _ => []

/-- A notice is heeded without anything else coming between. -/
theorem Run.heed {history : History σ} {activity : Activity σ} (run : Run history activity)
    (notice : Notice) :
    ∃ later after, Run (history ++ later) after ∧
      after.server = (activity.server.heed notice).1 ∧ after.underWay = activity.underWay ∧
      (activity.server.heed notice).2 =
        activity.server.remarks notice ++ later.flatMap fun step => step.2.announced := by
  have received := run.step (.receive notice)
  rw [heed_eq_receive]
  cases started : activity.server.receive notice with
  | mk server validation? =>
      rw [started] at received
      cases validation? with
      | none => exact ⟨_, _, received, rfl, rfl, by simp [Event.announced]⟩
      | some validation =>
          have unremarked := remarks_eq_nil started
          simp only [validate]
          cases server.engine with
          | none =>
              have given := received.step (.abandon (.head _))
              rw [List.append_assoc] at given
              exact ⟨_, _, given, rfl, by simp, by simp [unremarked, Event.announced]⟩
          | some engine =>
              simp only
              cases analysed : server.analyse
                  (engine.diagnostics ⟨validation.uri.documentPath, validation.text⟩) with
              | mk tended found =>
                  have same : tended.documents = server.documents ∧
                      tended.nextDocumentId = server.nextDocumentId := by
                    cases analysed
                    exact ⟨rfl, rfl⟩
                  have tended := received.step (.tend same.1 same.2)
                  have finished := tended.step (.finish found (.head _))
                  rw [List.append_assoc, List.append_assoc] at finished
                  exact ⟨_, _, finished, rfl, by simp, by simp [unremarked, Event.announced]⟩

/-! ## What holds along a run -/

/-- No step does more to the documents than a notice may. -/
theorem Step.fates {activity after : Activity σ} {event : Event}
    (step : Step activity event after) : Fates activity.server after.server := by
  cases step with
  | receive notice => exact fates_receive activity.server notice
  | straggle => exact .refl _
  | finish => exact .refl _
  | abandon => exact .refl _
  | tend documents next =>
      refine ⟨Nat.le_of_eq next.symm, fun uri => .kept ?_⟩
      rw [document?, document?, documents]

/-- Every validation under way was started for the text its document still has, or for
an older version. -/
structure Tracked (activity : Activity σ) : Prop where
  numbered : ∀ uri document, activity.server.document? uri = some document →
    document.id < activity.server.nextDocumentId
  underWay : ∀ validation ∈ activity.underWay,
    activity.server.Finds validation (NewerOrSame validation)

/-- An id that has been given to a document is not given again. -/
theorem Tracked.numbered_step {activity after : Activity σ} {event : Event}
    (tracked : activity.Tracked) (step : Step activity event after) :
    ∀ uri document, after.server.document? uri = some document →
      document.id < after.server.nextDocumentId := by
  intro uri document found
  have fates := step.fates
  cases fates.fate uri with
  | kept kept =>
      exact Nat.lt_of_lt_of_le (tracked.numbered uri document (kept ▸ found)) fates.next
  | opened opened id later =>
      rw [found] at opened
      cases opened
      exact id ▸ later
  | revised was now sameId =>
      rw [found] at now
      cases now
      exact sameId ▸ Nat.lt_of_lt_of_le (tracked.numbered uri _ was) fates.next
  | closed closed =>
      rw [found] at closed
      cases closed

/-- Every step keeps the validations behind their documents. -/
theorem Tracked.step {activity after : Activity σ} {event : Event} (tracked : activity.Tracked)
    (step : Step activity event after) : after.Tracked := by
  have numbered := tracked.numbered_step step
  have kept {validation : Validation} (listed : validation ∈ activity.underWay) :
      after.server.Finds validation (NewerOrSame validation) :=
    (tracked.underWay validation listed).fates step.fates
      fun _ _ state isNewer => .inl (state.revised isNewer)
  refine ⟨numbered, fun validation listed => ?_⟩
  cases step with
  | receive notice =>
      rcases List.mem_append.1 listed with new | old
      · obtain ⟨document, found, rfl⟩ := receive_validation
          (Prod.ext rfl (Option.mem_toList.1 new))
        refine ⟨numbered _ document found, fun other here _ => ?_⟩
        rw [found] at here
        cases here
        exact .inr ⟨rfl, rfl⟩
      · exact kept old
  | straggle taken gone =>
      rcases List.mem_cons.1 listed with rfl | old
      · exact ⟨taken, fun document found same => absurd same (gone document found)⟩
      · exact kept old
  | finish => exact kept (List.mem_of_mem_erase listed)
  | abandon => exact kept (List.mem_of_mem_erase listed)
  | tend => exact kept listed

/-- Over a whole run no validation gets ahead of its document. -/
theorem Run.tracked {history : History σ} {activity : Activity σ} (run : Run history activity) :
    activity.Tracked := by
  induction run with
  | start empty =>
      refine ⟨fun uri document found => ?_, by simp⟩
      rw [document?, empty] at found
      cases found
  | step _ step ih => exact ih.step step

/-! ## Superseded validations -/

/-- The document under a URI is closed, opened anew or given a newer version. -/
def Event.Supersedes (activity : Activity σ) (uri : Uri) : Event → Prop
  | .received (.opened opened _ _) => opened = uri
  | .received (.closed closed) => closed = uri
  | .received (.changed changed version changes) => changed = uri ∧
      ∃ document revised, activity.server.document? uri = some document ∧
        document.apply changes version = .ok revised
  | _ => False

/-- A validation under way comes too late once its document is closed, opened anew or
given a newer version. -/
theorem Step.supersedes {activity after : Activity σ} {event : Event} {validation : Validation}
    (step : Step activity event after)
    (finds : activity.server.Finds validation (NewerOrSame validation))
    (supersedes : event.Supersedes activity validation.uri) :
    after.server.Finds validation (Newer validation) := by
  refine ⟨Nat.lt_of_lt_of_le finds.taken step.fates.next, fun document found same => ?_⟩
  cases step with
  | receive notice =>
      cases notice with
      | opened uri text version =>
          change uri = validation.uri at supersedes
          subst supersedes
          rw [document?_opened] at found
          cases found
          exact absurd same (Nat.ne_of_gt finds.taken)
      | changed uri version changes =>
          obtain ⟨rfl, old, revised, was, accepted⟩ := supersedes
          rw [document?_changed was accepted] at found
          cases found
          obtain ⟨sameId, _, isNewer⟩ := Document.apply_ok accepted
          exact (finds.state old was (sameId.symm.trans same)).revised isNewer
      | closed uri =>
          change uri = validation.uri at supersedes
          subst supersedes
          rw [document?_closed] at found
          cases found
      | _ => cases supersedes
  | _ => cases supersedes

/-- A document that was closed, replaced or revised while a validation was under way is never
again in the state it was validated in. -/
theorem Run.superseded {history : History σ} {activity : Activity σ} (run : Run history activity)
    {earlier : Activity σ} {event : Event} {validation : Validation}
    (happened : (earlier, event) ∈ history) (listed : validation ∈ earlier.underWay)
    (supersedes : event.Supersedes earlier validation.uri) :
    activity.server.Finds validation (Newer validation) := by
  induction run with
  | start => cases happened
  | step before step ih =>
      rcases List.mem_append.1 happened with past | now
      · exact (ih past).fates step.fates fun _ _ newer isNewer => newer.revised isNewer
      · cases List.mem_singleton.1 now
        exact step.supersedes (before.tracked.underWay validation listed) supersedes

/-- However notices and the ends of validations interleave: problems are published
for the document that is open under the URI, in the version it has, and were found in
the text it has; and nothing is published by a validation that was under way when its
document was closed, opened anew or given a newer version. -/
theorem Run.publishes_current {history : History σ} {activity : Activity σ}
    (run : Run history activity) :
    (∀ validation announced after, Step activity (.ended validation announced) after →
      ∀ announcement ∈ announced, ∃ found document,
        announcement = .diagnostics validation.uri found (some document.version) ∧
        activity.server.document? validation.uri = some document ∧
        document.version = validation.version ∧ document.text = validation.text) ∧
    ∀ earlier event validation, (earlier, event) ∈ history → validation ∈ earlier.underWay →
      event.Supersedes earlier validation.uri →
      ∀ found, activity.server.publish validation found = [] := by
  refine ⟨?_, ?_⟩
  · intro validation announced after step announcement said
    cases step with
    | finish found listed =>
        obtain ⟨rfl, document, here, sameText, sameVersion⟩ :=
          (run.tracked.underWay validation listed).of_publish said
        exact ⟨found, document, by rw [sameVersion], here, sameVersion, sameText⟩
  · intro earlier event validation happened listed supersedes found
    exact (run.superseded happened listed supersedes).publish_eq_nil found

/-- A document is changed while the validation of its first version is under way: only
the second version's problems are published. -/
theorem Run.publishes_current_changed : ∃ (history : History Unit) (activity : Activity Unit)
    (first second : Validation), Run history activity ∧ activity.underWay = [second, first] ∧
    (∀ found, activity.server.publish first found = []) ∧
    activity.server.publish second [] = [.diagnostics second.uri [] (some 2)] := by
  let uri : Uri := ⟨"file", none, "/a.pike", none, none⟩
  let server : Server Unit := { launch := fun _ => .error (.server ""), analysis := () }
  let revise : List Change := [⟨none, "int b;"⟩]
  let first : Document := ⟨0, uri, ⟨"int a;".toList, 1⟩⟩
  let second : Document := ⟨0, uri, ⟨"int b;".toList, 2⟩⟩
  have started : Run [] { server } := .start rfl
  have opened := started.step (.receive (.opened uri "int a;" 1))
  have changed := opened.step (.receive (.changed uri 2 revise))
  have superseded := changed.publishes_current.2 _ (.received (.changed uri 2 revise))
    (validationOf first) (.tail _ (.head _)) (.head _) ⟨rfl, first, second, rfl, rfl⟩
  exact ⟨_, _, validationOf first, validationOf second, changed, rfl, superseded, rfl⟩

end Activity

end Server

end Inlay
