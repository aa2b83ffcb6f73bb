import ArgoQuery.Engine
import ArgoQuery.Proofs.Engine.Endings
import Mathlib.Data.List.TakeWhile

/-!
# What comes of a question under any order of events

Main statement: `runAlong_outcome`. The moments of the join, the advisory, the cancellation and the
deadline decide what comes of a question and when, whatever the store answers and however long
anything takes. A question that is refused and one that is cancelled from the start ask the store
for nothing.

Of the other requests nothing is said here: which of them are made in time depends on the moments at
which the store answers, and the course of a query may have any.
-/

namespace ArgoQuery

/-- A text is blank if nothing is left of it between its white space. -/
theorem Text.isBlankText_iff {text : String} : isBlankText text = true ↔ trim text = "" := by
  rw [isBlankText, List.all_eq_true, trim, String.ofList_eq_empty_iff, trimmed, dropEndWhile,
    List.reverse_eq_nil_iff, List.dropWhile_eq_nil_iff]
  constructor
  · intro blank c member
    exact blank c ((List.dropWhile_sublist _).subset (List.mem_reverse.mp member))
  · intro rest c member
    rw [← List.takeWhile_append_dropWhile (p := isBlank) (l := text.toList)] at member
    rcases List.mem_append.mp member with leading | later
    · exact List.mem_takeWhile_imp leading
    · exact rest c (List.mem_reverse.mpr later)

namespace Engine

variable {engine : Engine} {courseOf : Join.Execution → Course} {question : String}

/-- A blank question is refused at once. -/
theorem runAlong_of_blank (blank : Text.trim question = "") :
    engine.runAlong courseOf question = ⟨.error .blankQuestion, 0, [], 0, false⟩ := by
  rw [runAlong, if_pos (Text.isBlankText_iff.mpr blank)]

/-- The verdict on the moments of any other question decides what comes of it, and when. -/
theorem runAlong_of_verdict (asked : ¬ Text.trim question = "") :
    let execution := engine.join (engine.plan question).descriptor
    let moments := engine.moments (courseOf execution) execution
    let run := engine.runAlong courseOf question
    (timeOf (some run.endedAt), run.result) =
        (moments.verdict.1, engine.resultOf question execution moments.verdict.2) ∧
      run.requests = (courseOf execution).requests.filter
        (isMadeBefore moments.ending.1 moments.ending.2) := by
  intro execution moments run
  have unfolded : run.endedAt = moments.ending.1 ∧
      run.result = engine.resultOf question execution moments.ending.2 ∧
      run.requests = (courseOf execution).requests.filter
        (isMadeBefore moments.ending.1 moments.ending.2) := by
    simp only [run, runAlong, if_neg (mt Text.isBlankText_iff.mp asked)]
    exact ⟨rfl, rfl, rfl⟩
  obtain ⟨endedAt, result, requests⟩ := unfolded
  rw [endedAt, result, ← moments.ending_eq]
  exact ⟨rfl, requests⟩

variable (engine courseOf) in
/-- What comes of a question that is not blank, and when, from the moments of its course. -/
theorem runAlong_of_not_blank (asked : ¬ Text.trim question = "") :
    let execution := engine.join (engine.plan question).descriptor
    let course := courseOf execution
    let limit := engine.settings.engine.queryTimeoutMs
    let join := timeOf course.joined
    let advisory := timeOf (if engine.settings.provider.isSome then course.generated else some 0)
    let cancellation := timeOf course.cancelled
    let deadline := timeOf (some limit)
    let run := engine.runAlong courseOf question
    (timeOf (some run.endedAt), run.result) =
      if cancellation ≤ min join deadline then (cancellation, .error .cancelled)
      else if deadline < join then (deadline, .error (.timedOut limit))
      else match execution.result with
        | .error failure => (join, .error (.join failure))
        | .ok outcome =>
          if cancellation ≤ min advisory deadline then (cancellation, .error .cancelled)
          else (max join (min advisory deadline),
            .ok (engine.answer question (decide (advisory ≤ deadline)) outcome)) := by
  intro execution course limit join advisory cancellation deadline run
  let moments := engine.moments course execution
  have verdict : moments.verdict =
      if cancellation ≤ min join deadline then (cancellation, .cancelled)
      else if deadline < join then (deadline, .timedOut)
      else if moments.joinFails then (join, .failed)
      else if cancellation ≤ min advisory deadline then (cancellation, .cancelled)
      else (max join (min advisory deadline), .finished (decide (advisory ≤ deadline))) := rfl
  rw [(runAlong_of_verdict asked).1]
  change (moments.verdict.1, engine.resultOf question execution moments.verdict.2) = _
  rw [verdict]
  by_cases first : cancellation ≤ min join deadline
  · rw [if_pos first, if_pos first]
    rfl
  rw [if_neg first, if_neg first]
  by_cases late : deadline < join
  · rw [if_pos late, if_pos late]
    rfl
  rw [if_neg late, if_neg late]
  cases joined : execution.result with
  | error failure =>
    have fails : moments.joinFails = true := by simp only [moments, Engine.moments, joined]
    simp [fails, resultOf, resultOf.finish, joined]
  | ok outcome =>
    have succeeds : moments.joinFails = false := by simp only [moments, Engine.moments, joined]
    rw [succeeds]
    by_cases second : cancellation ≤ min advisory deadline
    · simp [second, resultOf]
    · cases decide (advisory ≤ deadline) <;>
        simp [second, resultOf, resultOf.finish, joined]

/-- A query that is cancelled from the start is cancelled before its first request. -/
theorem requests_of_cancelled (cancelled : (courseOf
      (engine.join (engine.plan question).descriptor)).cancelled = some 0) :
    (engine.runAlong courseOf question).requests = [] := by
  by_cases blank : Text.trim question = ""
  · rw [runAlong_of_blank blank]
  · let execution := engine.join (engine.plan question).descriptor
    let moments := engine.moments (courseOf execution) execution
    have due : timeOf moments.cancellation = timeOf (some 0) := congrArg timeOf cancelled
    have verdict : moments.verdict = (timeOf (some 0), .cancelled) := by
      have first : timeOf (some 0) ≤ min (timeOf moments.join) (timeOf (some moments.deadline)) :=
        le_min (timeOf_zero_le _) (timeOf_zero_le _)
      simp only [Moments.verdict, due, if_pos first]
    obtain ⟨time, ending⟩ := Prod.mk.inj (moments.ending_eq.trans verdict)
    have atOnce : moments.ending.1 = 0 := WithTop.coe_injective time
    rw [(runAlong_of_verdict blank).2]
    refine List.filter_eq_nil_iff.mpr ?_
    intro request _
    change ¬ isMadeBefore moments.ending.1 moments.ending.2 request = true
    rw [atOnce, ending]
    simp [isMadeBefore]

/-- However a query ends, only a join that has rows makes an answer, and the answer has them. -/
theorem result_of_resultOf {execution : Join.Execution} {ending : Ending} {answer : Answer}
    (answered : engine.resultOf question execution ending = .ok answer) :
    execution.result = .ok ⟨answer.rows, answer.statistics⟩ := by
  have finished (advised : Bool)
      (answered : resultOf.finish engine question execution advised = .ok answer) :
      execution.result = .ok ⟨answer.rows, answer.statistics⟩ := by
    cases joined : execution.result with
    | error failure =>
      rw [resultOf.finish, joined] at answered
      cases answered
    | ok outcome =>
      rw [resultOf.finish, joined] at answered
      cases answered
      rfl
  cases ending with
  | cancelled => cases answered
  | timedOut => cases answered
  | failed => exact finished false answered
  | finished advised => cases advised <;> exact finished _ answered

/-- A query that has an answer has the rows and the statistics of its join. -/
theorem result_of_answered {answer : Answer}
    (answered : (engine.runAlong courseOf question).result = .ok answer) :
    (engine.join (engine.plan question).descriptor).result =
      .ok ⟨answer.rows, answer.statistics⟩ := by
  by_cases blank : Text.trim question = ""
  · rw [runAlong_of_blank blank] at answered
    cases answered
  · rw [(Prod.mk.inj (runAlong_of_verdict blank).1).2] at answered
    exact result_of_resultOf answered

/-- What comes of a question and when, from the moments of its course: `join` when the join is done,
`advisory` when the generator is (at once where there is none), `cancellation`, and the deadline.

A blank question is refused, cancelled or not. Otherwise a cancellation counts if the join is not
done before it and the deadline has not passed. If the join is late the query is out of time. If the
join fails its error is the result, and the advisory is not waited for. If the join succeeds, the
query can still be cancelled while it waits for the advisory. In the end there is an answer with the
rows and the statistics of the join.

A run looks at the moments one after the other. Its looks come to the verdict that can be read off
the moments at once, and the cases are those of the verdict. -/
theorem runAlong_outcome (engine : Engine) (courseOf : Join.Execution → Course)
    (question : String) :
    let execution := engine.join (engine.plan question).descriptor
    let course := courseOf execution
    let limit := engine.settings.engine.queryTimeoutMs
    let join := timeOf course.joined
    let advisory := timeOf (if engine.settings.provider.isSome then course.generated else some 0)
    let cancellation := timeOf course.cancelled
    let deadline := timeOf (some limit)
    let run := engine.runAlong courseOf question
    (timeOf (some run.endedAt), run.result) =
        (if Text.trim question = "" then (timeOf (some 0), .error .blankQuestion)
        else if cancellation ≤ min join deadline then (cancellation, .error .cancelled)
        else if deadline < join then (deadline, .error (.timedOut limit))
        else match execution.result with
          | .error failure => (join, .error (.join failure))
          | .ok outcome =>
            if cancellation ≤ min advisory deadline then (cancellation, .error .cancelled)
            else (max join (min advisory deadline),
              .ok (engine.answer question (decide (advisory ≤ deadline)) outcome))) ∧
      (∀ answer, run.result = .ok answer →
        execution.result = .ok ⟨answer.rows, answer.statistics⟩) ∧
      (Text.trim question = "" ∨ course.cancelled = some 0 → run.requests = []) := by
  intro execution course limit join advisory cancellation deadline run
  refine ⟨?_, fun _ => result_of_answered, ?_⟩
  · by_cases blank : Text.trim question = ""
    · have refused : run = ⟨.error .blankQuestion, 0, [], 0, false⟩ := runAlong_of_blank blank
      rw [if_pos blank, refused]
    · rw [if_neg blank]
      exact runAlong_of_not_blank engine courseOf blank
  · rintro (blank | cancelled)
    · have refused : run = ⟨.error .blankQuestion, 0, [], 0, false⟩ := runAlong_of_blank blank
      rw [refused]
    · exact requests_of_cancelled cancelled

end Engine

end ArgoQuery
