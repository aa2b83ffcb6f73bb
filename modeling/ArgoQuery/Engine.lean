import ArgoQuery.Advisory
import ArgoQuery.Engine.Plan
import ArgoQuery.Engine.Race
import ArgoQuery.Engine.Timeline
import ArgoQuery.Report.Context
import ArgoQuery.Rest

/-!
# Answering questions

An engine plans a question, joins the collections of its store and reports on the rows, while a
provider is asked for an advisory. A run says what came of the question and what was asked of the
store and the provider on the way.
-/

namespace ArgoQuery

/-- Why a question has no answer. -/
inductive QueryError where
  | blankQuestion
  | join (failure : Join.Failure)
  | cancelled
  | timedOut (limitMs : Nat)
  | internal (cause : StoreError)
deriving DecidableEq, Repr

/-- What a user is told of an error. -/
def QueryError.message : QueryError → String
  | blankQuestion => "Invalid request: Query text must be non-empty."
  | join (.store collection cause) => "Store error on " ++ collection ++ ": " ++ cause.message
  | join .disorder => "user-provided comparison function does not correctly implement a total order"
  | cancelled => "Query was cancelled."
  | timedOut limitMs => "Query timed out after " ++ decimalText limitMs ++ " ms."
  | internal cause => "Internal error: " ++ cause.message

/-- What an engine would do about a question. -/
structure Explanation where
  question : String
  plan : Plan
  advisory : Option String
deriving Repr

/-- The text that is displayed: the advisory, or else the planned query. -/
def Explanation.displayed (explanation : Explanation) : String :=
  explanation.advisory.getD explanation.plan.sql

/-- The answer to a question. -/
structure Answer where
  explanation : Explanation
  rows : List Row
  report : Report
  statistics : Join.Statistics
deriving Repr

/-- An engine over a store and a generator of texts. -/
structure Engine where
  settings : Settings
  gazetteer : Geography.Gazetteer
  store : Store
  generator : Advisory.Generator
  schedule : Join.Schedule := Join.oldestFirst

/-- How a query goes in time, in milliseconds from its start. Whatever has no moment never comes. -/
structure Course where
  /-- The requests of the join. -/
  requests : List Engine.TimedRequest
  joined : Option Nat
  generated : Option Nat
  cancelled : Option Nat
deriving DecidableEq, Repr

/-- How long a store and a generator take, and when a query is cancelled. -/
structure Circumstances where
  latencyMs : Nat := 0
  generatorDelayMs : Nat := 0
  cancelAfterMs : Option Nat := none
deriving DecidableEq, Repr

/-- The course of a query over a store that takes the same time for every answer. -/
def Circumstances.course (circumstances : Circumstances) (concurrency : Nat)
    (execution : Join.Execution) : Course :=
  let requests := Engine.timeline circumstances.latencyMs concurrency execution.selects
  { requests
    joined := some (Engine.lastAnswer requests)
    generated := some circumstances.generatorDelayMs
    cancelled := circumstances.cancelAfterMs }

/-- What came of a question. -/
structure Run where
  result : Except QueryError Answer
  endedAt : Nat
  /-- The requests that were made before the end. -/
  requests : List Engine.TimedRequest
  /-- How many of them were unanswered at the end. -/
  abandoned : Nat
  generatorAsked : Bool

namespace Engine

/-- How many pages a fetch may ask for. -/
def pageBudget : Nat := 1000000

/-- The engine over the store and the provider that the settings name. -/
def overNetwork (settings : Settings) (transport : Http.Transport) : Except QueryError Engine :=
  match RestStore.ofSettings settings.store with
  | .error cause => .error (.internal cause)
  | .ok store => .ok {
      settings
      gazetteer := settings.gazetteer
      store := store.toStore transport pageBudget
      generator := Advisory.overNetwork transport }

/-- The plan for a question. -/
def plan (engine : Engine) (question : String) : Plan :=
  .ofQuestion engine.gazetteer engine.settings.store.collections question

/-- The advisory for a question, if there is one. -/
def advise (engine : Engine) (question : String) : Option String :=
  Advisory.advise engine.generator engine.settings.provider engine.settings.store.collections
    question engine.settings.engine.minAdvisoryChars

/-- Says what `run` would do, without asking the store. -/
def explain (engine : Engine) (question : String) : Explanation :=
  { question, plan := engine.plan question, advisory := engine.advise question }

/-- Executes a descriptor on the store of the engine. -/
def join (engine : Engine) (descriptor : Descriptor) : Join.Execution :=
  Join.execute engine.store engine.settings.store.collections engine.settings.engine.concurrency
    engine.schedule descriptor

/-- When the parts of a query become due. Without a provider there is no advisory to wait for. -/
def moments (engine : Engine) (course : Course) (execution : Join.Execution) : Moments where
  join := course.joined
  joinFails := match execution.result with
    | .ok _ => false
    | .error _ => true
  advisory := if engine.settings.provider.isSome then course.generated else some 0
  cancellation := course.cancelled
  deadline := engine.settings.engine.queryTimeoutMs

/-- The answer that the rows of a join make. -/
def answer (engine : Engine) (question : String) (advised : Bool) (outcome : Join.Outcome) :
    Answer :=
  { explanation := {
      question
      plan := engine.plan question
      advisory := if advised then engine.advise question else none }
    rows := outcome.rows
    report := (Report.ofRows outcome.rows).withContext question
    statistics := outcome.statistics }

/-- What a query comes to, given how it ends. -/
def resultOf (engine : Engine) (question : String) (execution : Join.Execution)
    (ending : Ending) : Except QueryError Answer :=
  match ending with
  | .cancelled => .error .cancelled
  | .timedOut => .error (.timedOut engine.settings.engine.queryTimeoutMs)
  | .failed | .finished false => finish false
  | .finished true => finish true
where
  /-- The answer, or the error of the join. -/
  finish (advised : Bool) : Except QueryError Answer :=
    match execution.result with
    | .ok outcome => .ok (engine.answer question advised outcome)
    | .error failure => .error (.join failure)

/-- Whether a request is made before a query ends. A cancellation is noticed before the join moves
on, the deadline after that. -/
def isMadeBefore (moment : Nat) (ending : Ending) (request : TimedRequest) : Bool :=
  match ending with
  | .cancelled => decide (request.askedAt < moment)
  | _ => decide (request.askedAt ≤ moment)

/-- Whether a request is answered before a query ends. -/
def isAnsweredBefore (moment : Nat) (ending : Ending) (request : TimedRequest) : Bool :=
  match ending with
  | .cancelled => decide (request.answeredAt < moment)
  | _ => decide (request.answeredAt ≤ moment)

/-- Answers a question whose join takes the given course. A blank question is refused before
anything else. -/
def runAlong (engine : Engine) (courseOf : Join.Execution → Course) (question : String) : Run :=
  if Text.isBlankText question then ⟨.error .blankQuestion, 0, [], 0, false⟩
  else
    let execution := engine.join (engine.plan question).descriptor
    let course := courseOf execution
    let moments := engine.moments course execution
    let (moment, ending) := moments.ending
    let made := course.requests.filter (isMadeBefore moment ending)
    { result := engine.resultOf question execution ending
      endedAt := moment
      requests := made
      abandoned := made.countP fun request => !isAnsweredBefore moment ending request
      generatorAsked := engine.settings.provider.isSome && moments.asksForAdvisory }

/-- Answers a question over a store that takes the same time for every answer. -/
def run (engine : Engine) (circumstances : Circumstances) (question : String) : Run :=
  engine.runAlong (circumstances.course engine.settings.engine.concurrency) question

end Engine

end ArgoQuery
