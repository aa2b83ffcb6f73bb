import ArgoQuery.Calendar.DateHint
import ArgoQuery.Geography.Gazetteer

/-!
# What a question asks for

The place and the time that a question mentions. Whatever is not recognised stays open.
-/

namespace ArgoQuery

open Calendar Geography

/-- The place and the time that a question names. -/
structure Intent where
  location : Option LocationMatch
  date : Option DateHint
  range : Option JulianRange
deriving DecidableEq, Repr

/-- Reads a question. Both parts are looked for independently in the same text. -/
def Intent.ofText (gazetteer : Gazetteer) (text : String) : Intent :=
  let date := DateHint.ofText? text
  { location := gazetteer.locate? text, date, range := date.bind DateHint.range? }

end ArgoQuery
