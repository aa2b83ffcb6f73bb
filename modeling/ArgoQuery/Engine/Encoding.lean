import ArgoQuery.Engine
import ArgoQuery.Intent.Encoding
import ArgoQuery.Join.Encoding
import ArgoQuery.Report.Encoding
import ArgoQuery.Table.Payload

/-!
# Answers as JSON

A caller receives an envelope that says whether the query succeeded: with the whole answer if it
did, with the message of its error if not.
-/

namespace ArgoQuery

namespace Explanation

/-- The fields of an explanation. -/
def fields (explanation : Explanation) : List (String × Json) :=
  [("query", .text explanation.question),
    ("intent", explanation.plan.intent.toJson),
    ("descriptor", explanation.plan.descriptor.toJson),
    ("descriptor_sql", .text explanation.plan.sql),
    ("fingerprint", .text explanation.plan.fingerprint),
    ("advisory", .ofOption .text explanation.advisory),
    ("display_sql", .text explanation.displayed)]

/-- An explanation is written field by field. -/
def toJson (explanation : Explanation) : Json := .object explanation.fields

end Explanation

/-- The fields of an answer without the rows' own form. -/
def Answer.fields (answer : Answer) : List (String × Json) :=
  answer.explanation.fields ++
    [("rows", .ofList Row.toJson answer.rows),
      ("summary", answer.report.toJson),
      ("stats", answer.statistics.toJson)]

/-- The envelope of an answer, which is given an identifier of its own. -/
def Answer.envelope (answer : Answer) (id : String) : Json :=
  .object (("success", .bool true) :: ("query_id", .text id) :: answer.fields)

/-- What is printed of a question without an answer. -/
def QueryError.envelope (error : QueryError) (question : String) : Json :=
  .object [("success", .bool false), ("query", .text question), ("error", .text error.message)]

end ArgoQuery
