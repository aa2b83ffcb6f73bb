import ArgoQuery.Descriptor.Column
import ArgoQuery.Text.LetterCase
import ArgoQuery.Text.Search

/-!
# What a question is about

The topic of a question is settled by the first family of keywords that occurs in it, in lower case
and anywhere in a word.
-/

namespace ArgoQuery

/-- What a question is about. -/
inductive Topic where
  | salinity
  | temperature
  | profile
  | general
deriving DecidableEq, Repr

namespace Topic

/-- The name of a topic. -/
def name : Topic → String
  | salinity => "salinity"
  | temperature => "temperature"
  | profile => "profile"
  | general => "default"

/-- All topics. -/
def all : List Topic := [salinity, temperature, profile, general]

/-- The column that a measurement must not lack to be of use for the topic. -/
def required? : Topic → Option Column
  | salinity => some .salinity
  | temperature => some .temperature
  | profile => some .pressure
  | general => none

/-- The keywords of each topic, in the order in which topics are tried. -/
def keywords : List (Topic × List String) :=
  [(salinity, ["salinity", "psal"]), (temperature, ["temperature", "temp"]),
    (profile, ["profile", "depth"])]

/-- The topic of a question. -/
def ofText (text : String) : Topic :=
  let lowered := Text.lowercase text
  match keywords.find? fun (_, words) => words.any (Text.contains lowered) with
  | some (topic, _) => topic
  | none => general

end Topic

end ArgoQuery
