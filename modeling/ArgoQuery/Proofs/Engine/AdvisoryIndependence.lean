import ArgoQuery.Proofs.Engine.QueryOutcome

/-!
# The advisory never influences execution

Main statement: `runAlong_ignores_advisory`. Two runs of one question are compared that differ in
where advisories come from and in how long that takes, and in nothing else. Both come to the same
error, or to answers that are equal without their advisories. An answer lacks its advisory exactly
if the generator failed, was late, or gave a text that is not accepted.

The moment at which a run ends does depend on the generator: an answer waits for it, up to the
deadline.
-/

namespace ArgoQuery

/-- The answer without its advisory. -/
def Answer.withoutAdvisory (answer : Answer) : Answer :=
  { answer with explanation := { answer.explanation with advisory := none } }

/-- There is no advisory exactly if the generator fails or its text is not accepted. -/
theorem Advisory.advise_eq_none_iff {generator : Generator} {settings : ProviderSettings}
    {names : CollectionNames} {question : String} {minChars : Nat} :
    advise generator (some settings) names question minChars = none ↔
      (∃ fault, generator settings (messages names question) = .error fault) ∨
        ∃ text, generator settings (messages names question) = .ok text ∧
          accept? minChars text = none := by
  cases generated : generator settings (messages names question) with
  | error fault => simp [advise, generated]
  | ok text => simp [advise, generated]

namespace Engine

/-- The engine with another source of advisories, or with none. -/
def advisedBy (engine : Engine) (generator : Advisory.Generator)
    (provider : Option ProviderSettings) : Engine :=
  { engine with generator, settings := { engine.settings with provider } }

section Uncancelled

variable {engine : Engine} {courseOf : Join.Execution → Course} {question : String}

variable (engine) in
/-- What comes of a question that is not blank if nobody cancels: the deadline counts for the join
alone, and the advisory for nothing but itself. -/
theorem result_of_uncancelled (asked : ¬ Text.trim question = "")
    (uncancelled : (courseOf (engine.join (engine.plan question).descriptor)).cancelled = none) :
    let execution := engine.join (engine.plan question).descriptor
    let course := courseOf execution
    let limit := engine.settings.engine.queryTimeoutMs
    let advisory := timeOf (if engine.settings.provider.isSome then course.generated else some 0)
    (engine.runAlong courseOf question).result =
      if timeOf (some limit) < timeOf course.joined then .error (.timedOut limit)
      else match execution.result with
        | .error failure => .error (.join failure)
        | .ok outcome =>
          .ok (engine.answer question (decide (advisory ≤ timeOf (some limit))) outcome) := by
  intro execution course limit advisory
  have outcome := runAlong_of_not_blank engine courseOf asked
  simp only [uncancelled, if_neg (not_never_le_min _ _)] at outcome
  by_cases late : timeOf (some limit) < timeOf course.joined
  · rw [if_pos late] at outcome ⊢
    exact (Prod.mk.inj outcome).2
  · rw [if_neg late] at outcome ⊢
    cases joined : execution.result with
    | error failure =>
      rw [joined] at outcome
      exact (Prod.mk.inj outcome).2
    | ok rows =>
      rw [joined] at outcome
      exact (Prod.mk.inj outcome).2

/-- Whoever asks for advisories plans and joins alike, and apart from its advisory an answer is made
of the plan and the join. -/
theorem withoutAdvisory_result (asked : ¬ Text.trim question = "")
    (uncancelled : ∀ execution, (courseOf execution).cancelled = none) :
    (engine.runAlong courseOf question).result.map Answer.withoutAdvisory =
      if timeOf (some engine.settings.engine.queryTimeoutMs) <
          timeOf (courseOf (engine.join (engine.plan question).descriptor)).joined then
        .error (.timedOut engine.settings.engine.queryTimeoutMs)
      else match (engine.join (engine.plan question).descriptor).result with
        | .error failure => .error (.join failure)
        | .ok outcome => .ok (engine.answer question false outcome) := by
  rw [result_of_uncancelled engine asked (uncancelled _)]
  split
  · rfl
  · cases (engine.join (engine.plan question).descriptor).result with
    | error failure => rfl
    | ok outcome => rfl

/-- With a provider, an answer lacks its advisory exactly if the generator fails, is late, or gives
a text that is not accepted. -/
theorem advisory_eq_none_iff {answer : Answer} {settings : ProviderSettings}
    (uncancelled : ∀ execution, (courseOf execution).cancelled = none)
    (answered : (engine.runAlong courseOf question).result = .ok answer)
    (provided : engine.settings.provider = some settings) :
    let names := engine.settings.store.collections
    answer.explanation.advisory = none ↔
      (∃ fault, engine.generator settings (Advisory.messages names question) = .error fault) ∨
      timeOf (some engine.settings.engine.queryTimeoutMs) <
        timeOf (courseOf (engine.join (engine.plan question).descriptor)).generated ∨
      ∃ text, engine.generator settings (Advisory.messages names question) = .ok text ∧
        Advisory.accept? engine.settings.engine.minAdvisoryChars text = none := by
  intro names
  by_cases blank : Text.trim question = ""
  · rw [runAlong_of_blank blank] at answered
    cases answered
  have result := result_of_uncancelled engine blank (uncancelled _)
  simp only [provided, Option.isSome_some, if_true] at result
  rw [answered] at result
  split at result
  · cases result
  split at result
  · cases result
  · obtain rfl := Except.ok.inj result
    by_cases late : timeOf (some engine.settings.engine.queryTimeoutMs) <
        timeOf (courseOf (engine.join (engine.plan question).descriptor)).generated
    · simp [answer, late]
    · have advised : engine.advise question = Advisory.advise engine.generator (some settings) names
          question engine.settings.engine.minAdvisoryChars := by rw [advise, provided]
      simp only [answer, decide_eq_true (not_lt.mp late), if_true, advised,
        Advisory.advise_eq_none_iff, late, false_or]

end Uncancelled

/-- Two generators, each with or without a provider and each with its own time, answer a question
alike that nobody cancels: both runs come to the same error, or to answers with the same plan, rows,
report and statistics. Of either run's answer it is said when its advisory is absent.

Without its advisory a result is one of the join and the deadline, in which neither a generator nor
its time has a part. -/
theorem runAlong_ignores_advisory (engine : Engine) (courseOf : Join.Execution → Course)
    (question : String) :
    let runWith (generator : Advisory.Generator) (provider : Option ProviderSettings)
        (generated : Option Nat) : Run :=
      (engine.advisedBy generator provider).runAlong
        (fun execution => { courseOf execution with generated, cancelled := none }) question
    (∀ first second provider provider' generated generated',
      (runWith first provider generated).result.map Answer.withoutAdvisory =
        (runWith second provider' generated').result.map Answer.withoutAdvisory) ∧
    ∀ generator settings generated answer,
      (runWith generator (some settings) generated).result = .ok answer →
      (answer.explanation.advisory = none ↔
        (∃ fault, generator settings
          (Advisory.messages engine.settings.store.collections question) = .error fault) ∨
        timeOf (some engine.settings.engine.queryTimeoutMs) < timeOf generated ∨
        ∃ text, generator settings
          (Advisory.messages engine.settings.store.collections question) = .ok text ∧
          Advisory.accept? engine.settings.engine.minAdvisoryChars text = none) := by
  intro runWith
  constructor
  · intro first second provider provider' generated generated'
    by_cases blank : Text.trim question = ""
    · simp only [runWith, runAlong_of_blank blank]
    · simp only [runWith]
      rw [withoutAdvisory_result blank fun _ => rfl, withoutAdvisory_result blank fun _ => rfl]
      rfl
  · intro generator settings generated answer answered
    exact advisory_eq_none_iff (fun _ => rfl) answered rfl

end Engine

end ArgoQuery
