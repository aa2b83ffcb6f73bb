import ArgoQuery.Engine.Plan
import ArgoQuery.Proofs.Geography.CoordinateLetters
import ArgoQuery.Report.Context

/-!
# Letter case does not change a plan

The topic, the date and the notes of a question are read from its lowercase form, and so are the
names of regions. Coordinates are read from the question as it is written, but in either case. So
questions that agree but for the case of ASCII letters have one descriptor, and what is shown of it
and reported with its rows is the same. Main statement: `plan_of_agreeButCase`.
-/

namespace ArgoQuery

open Calendar (DateHint)
open Geography (Gazetteer LocationMatch)
open Text (AgreeButCase lowercase_eq_of_agreeButCase)

section Agree

variable {first second : String} (agree : AgreeButCase first second)

include agree

/-- Texts that agree but for the case of their letters are about one topic. -/
theorem topic_of_agreeButCase : Topic.ofText first = Topic.ofText second := by
  rw [Topic.ofText, lowercase_eq_of_agreeButCase agree, Topic.ofText]

/-- Texts that agree but for the case of their letters say the same about the date. -/
theorem date_of_agreeButCase : DateHint.ofText? first = DateHint.ofText? second := by
  rw [DateHint.ofText?, DateHint.ofText, lowercase_eq_of_agreeButCase agree, DateHint.ofText?,
    DateHint.ofText]

/-- Texts that agree but for the case of their letters give a report the same context. -/
theorem withContext_of_agreeButCase (report : Report) :
    report.withContext first = report.withContext second := by
  rw [Report.withContext, Report.questionNotes, lowercase_eq_of_agreeButCase agree,
    Report.withContext, Report.questionNotes]

end Agree

/-- A descriptor depends on the topic of the question, on where its place lies and what it is
called, and on the range of days. -/
theorem describe_congr {first second : String} {intent other : Intent}
    (topic : Topic.ofText first = Topic.ofText second)
    (place : intent.location.map LocationMatch.place = other.location.map LocationMatch.place)
    (range : intent.range = other.range) :
    Plan.describe first intent = Plan.describe second other := by
  simp only [Plan.describe, topic, range]
  cases here : intent.location with
  | none =>
    rw [here] at place
    have there : other.location = none := Option.map_eq_none_iff.mp place.symm
    rw [there]
  | some location =>
    rw [here] at place
    obtain ⟨location', there, same⟩ := Option.map_eq_some_iff.mp place.symm
    obtain ⟨box, label⟩ := Prod.mk.inj same
    simp only [there, Option.map_some, box, label]

/-- Letter case never changes the plan.

Questions that differ only in the case of ASCII letters have one topic and one date, and are located
in one box under one label or not at all. Hence they have one descriptor, shown by one text and with
one fingerprint, and every report gains the same notes from them.

Topic, date and place read the text in small letters, or letters in either case, and the rest of a
plan is made of them. -/
theorem plan_of_agreeButCase (gazetteer : Gazetteer) (names : CollectionNames)
    {first second : String} (agree : AgreeButCase first second) :
    Topic.ofText first = Topic.ofText second ∧
      DateHint.ofText? first = DateHint.ofText? second ∧
      (gazetteer.locate? first).map LocationMatch.place =
        (gazetteer.locate? second).map LocationMatch.place ∧
      (Plan.ofQuestion gazetteer names first).descriptor =
        (Plan.ofQuestion gazetteer names second).descriptor ∧
      (Plan.ofQuestion gazetteer names first).sql = (Plan.ofQuestion gazetteer names second).sql ∧
      (Plan.ofQuestion gazetteer names first).fingerprint =
        (Plan.ofQuestion gazetteer names second).fingerprint ∧
      ∀ report : Report, report.withContext first = report.withContext second := by
  have topic := topic_of_agreeButCase agree
  have date := date_of_agreeButCase agree
  have place := Geography.place_of_agreeButCase gazetteer agree
  have range : (Intent.ofText gazetteer first).range = (Intent.ofText gazetteer second).range := by
    rw [Intent.ofText, date, Intent.ofText]
  have descriptor : Plan.describe first (Intent.ofText gazetteer first) =
      Plan.describe second (Intent.ofText gazetteer second) := describe_congr topic place range
  refine ⟨topic, date, place, descriptor, ?_, ?_, withContext_of_agreeButCase agree⟩
  · rw [Plan.ofQuestion, descriptor, Plan.ofQuestion]
  · rw [Plan.ofQuestion, descriptor, Plan.ofQuestion]

/-- A question with a coordinate pair and with a word whose last letter is a sigma, in capital and
in small letters. -/
theorem plan_of_capitals_and_small_letters :
    AgreeButCase "PSAL at 10.5N, 70W ΟΔΟΣ MAR 2023" "psal AT 10.5n, 70w ΟΔΟΣ mar 2023" ∧
      (Gazetteer.builtin.locate? "PSAL at 10.5N, 70W ΟΔΟΣ MAR 2023").isSome = true ∧
      DateHint.ofText? "PSAL at 10.5N, 70W ΟΔΟΣ MAR 2023" = some ⟨some 2023, some 3⟩ ∧
      DateHint.ofText? "psal AT 10.5n, 70w ΟΔΟΣ mar 2023" = some ⟨some 2023, some 3⟩ ∧
      (Plan.ofQuestion Gazetteer.builtin {} "PSAL at 10.5N, 70W ΟΔΟΣ MAR 2023").descriptor =
        (Plan.ofQuestion Gazetteer.builtin {} "psal AT 10.5n, 70w ΟΔΟΣ mar 2023").descriptor := by
  have agree : AgreeButCase "PSAL at 10.5N, 70W ΟΔΟΣ MAR 2023"
      "psal AT 10.5n, 70w ΟΔΟΣ mar 2023" := by decide +kernel
  have located : (Gazetteer.builtin.locate? "PSAL at 10.5N, 70W ΟΔΟΣ MAR 2023").isSome = true := by
    decide +kernel
  have date : DateHint.ofText? "PSAL at 10.5N, 70W ΟΔΟΣ MAR 2023" = some ⟨some 2023, some 3⟩ := by
    decide +kernel
  obtain ⟨-, dates, -, descriptor, -⟩ := plan_of_agreeButCase Gazetteer.builtin {} agree
  exact ⟨agree, located, date, dates.symm.trans date, descriptor⟩

end ArgoQuery
