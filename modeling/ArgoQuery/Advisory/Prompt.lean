import ArgoQuery.Json
import ArgoQuery.Table.CollectionNames

/-!
# The prompt

A provider is sent two messages: the rules with the schema of the collections, and the question as
it was asked.
-/

namespace ArgoQuery.Advisory

/-- A message to a provider. -/
structure Message where
  role : String
  content : String
deriving DecidableEq, Repr

/-- A message as a provider wants it. -/
def Message.toJson (message : Message) : Json :=
  .object [("content", .text message.content), ("role", .text message.role)]

/-- The schema of the collections under their names. -/
def schemaText (names : CollectionNames) : String :=
  "Database schema:\n" ++
    "1. " ++ names.floats ++ "\n   - float_id (TEXT, primary key)\n" ++
    "2. " ++ names.measurements ++ "\n   - float_id (TEXT)\n   - cycle_number (TEXT)\n" ++
    "   - pres_adjusted (DOUBLE PRECISION) pressure in decibars\n" ++
    "   - temp_adjusted (DOUBLE PRECISION) temperature in Celsius\n" ++
    "   - psal_adjusted (DOUBLE PRECISION) practical salinity\n" ++
    "3. " ++ names.locations ++ "\n   - float_id (TEXT)\n   - cycle_number (TEXT)\n" ++
    "   - juld (DOUBLE PRECISION) Julian day\n   - latitude (DOUBLE PRECISION)\n" ++
    "   - longitude (DOUBLE PRECISION)\n"

/-- What a provider is told about its task and the collections it may use. -/
def systemText (names : CollectionNames) : String :=
  "You are an expert SQL query generator for oceanographic Argo float data.\n\n" ++
    schemaText names ++ "\n" ++
    "Rules:\n" ++
    "1. Use only the tables and columns listed above.\n" ++
    "2. Use psal_adjusted for salinity.\n" ++
    "3. Use temp_adjusted for temperature.\n" ++
    "4. Use pres_adjusted for depth or pressure (1 dbar is about 1 meter).\n" ++
    "5. Use latitude and longitude from " ++ names.locations ++ " for location filters.\n" ++
    "6. Join tables on float_id and cycle_number.\n" ++
    "7. Return only the SQL query, ending with a semicolon."

/-- The messages for a question. -/
def messages (names : CollectionNames) (question : String) : List Message :=
  [⟨"system", systemText names⟩, ⟨"user", question⟩]

end ArgoQuery.Advisory
