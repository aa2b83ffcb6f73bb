import ArgoQuery.Http.Message
import ArgoQuery.Json.Reader
import ArgoQuery.Settings

/-!
# Providers of generated text

A provider is sent messages and answers with text. Two forms of answers are understood: a list of
choices, of which the first is taken, and a generated text, alone or as the first of a list.
-/

namespace ArgoQuery.Provider

/-- Why an answer holds no text. -/
inductive AnswerFault where
  | choiceWithoutText
  | noText
deriving DecidableEq, Repr

/-- What a user is told of an answer without text. -/
def AnswerFault.message : AnswerFault → String
  | choiceWithoutText => "Generation choice is missing text content."
  | noText => "Generation response is missing text content."

/-- Why a provider gives no text. -/
inductive Fault where
  | transport (fault : Http.TransportFault)
  | header (fault : Http.HeaderFault)
  | status (provider : String) (code : Nat)
  | answer (fault : AnswerFault)
deriving DecidableEq, Repr

/-- What a user is told of a request that brought no text. -/
def Fault.message : Fault → String
  | transport fault => fault.message
  | header fault => fault.message
  | status provider code =>
    "Provider " ++ provider ++ " responded with status " ++ decimalText code ++ "."
  | answer fault => fault.message

/-- The first item of an array. -/
def firstItem? : Json → Option Json
  | .array items => items.head?
  | _ => none

/-- The text of a choice: the content of its message, or else its own text. What is there but not a
text is not made up for. -/
def choiceText? (choice : Json) : Option String :=
  (((choice.field? "message").bind (·.field? "content")).or (choice.field? "text")).bind Json.text?

/-- The value that holds the text of an answer without choices. -/
def generated? : Json → Option Json
  | .array items => items.head?.bind (·.field? "generated_text")
  | json => json.field? "generated_text"

/-- The text of an answer. -/
def textOf (json : Json) : Except AnswerFault String :=
  match (json.field? "choices").bind firstItem? with
  | some choice =>
    match choiceText? choice with
    | some text => .ok text
    | none => .error .choiceWithoutText
  | none =>
    match (generated? json).bind Json.text? with
    | some text => .ok text
    | none => .error .noText

/-- The body of a request. Its messages are sent on in whatever form they have. -/
def bodyOf (settings : ProviderSettings) (messages : List Json) : Json :=
  .object [("max_tokens", .ofNat settings.maxTokens),
    ("messages", .array messages),
    ("model", .text settings.model),
    ("temperature", .float settings.temperature)]

/-- The request for a text. Its headers are made before its address is looked at. -/
def request (settings : ProviderSettings) (messages : List Json) : Except Fault Http.Request :=
  match Http.Headers.forProvider settings.apiKey settings.defaultHeaders with
  | .error fault => .error (.header fault)
  | .ok headers =>
    let address := settings.apiBase ++ settings.path
    match Http.Request.toAddress .post address [] headers (bodyOf settings messages) with
    | .error fault => .error (.transport fault)
    | .ok request => .ok request

/-- The text in a response. -/
def read (settings : ProviderSettings) (response : Http.Response) : Except Fault String :=
  if response.isSuccess then
    match Json.ofText? response.body with
    | none => .error (.transport .undecodable)
    | some json =>
      match textOf json with
      | .ok text => .ok text
      | .error fault => .error (.answer fault)
  else .error (.status settings.id response.status)

/-- Asks a provider for a text. -/
def generate (transport : Http.Transport) (settings : ProviderSettings) (messages : List Json) :
    Except Fault String :=
  match request settings messages with
  | .error fault => .error fault
  | .ok request =>
    match transport request with
    | .error fault => .error (.transport fault)
    | .ok response => read settings response

end ArgoQuery.Provider
