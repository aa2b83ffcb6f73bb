import ArgoQuery.Advisory.Fences
import ArgoQuery.Advisory.Prompt
import ArgoQuery.Provider

/-!
# Advisory texts

An advisory is text from a provider that is shown and never executed. Whatever goes wrong on the way
to it, and any text that is too short, leaves it absent.
-/

namespace ArgoQuery.Advisory

/-- A way to generate text from messages. -/
abbrev Generator := ProviderSettings → List Message → Except Provider.Fault String

/-- The generator that asks a provider over the network. -/
def overNetwork (transport : Http.Transport) : Generator := fun settings messages =>
  Provider.generate transport settings (messages.map Message.toJson)

/-- The advisory on a question; without a provider there is none. -/
def advise (generator : Generator) (provider : Option ProviderSettings) (names : CollectionNames)
    (question : String) (minChars : Nat) : Option String := do
  let settings ← provider
  match generator settings (messages names question) with
  | .ok text => accept? minChars text
  | .error _ => none

end ArgoQuery.Advisory
