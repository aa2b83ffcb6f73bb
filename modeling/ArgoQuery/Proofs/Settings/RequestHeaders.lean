import ArgoQuery.Advisory
import ArgoQuery.Rest
import ArgoQuery.Settings.Validation

/-!
# Headers from valid settings

The headers of a request are refused for the first configured one that cannot be sent
(`addDefaults_eq_error_iff`), unless the key itself cannot be. Valid settings have texts only among
the headers for the store, so what they make of a request to it is never refused for a value that is
no text. Main statement: `headers_of_valid`.

The headers for a provider are checked by nobody. One that is no text makes every request for an
advisory fail before it is sent, and all that is seen of it is that there is no advisory:
`valid_without_advisory`.
-/

namespace ArgoQuery

namespace Http.Headers

/-- Why a configured header cannot be sent, if it cannot. -/
def refusal? (header : String × Json) : Option HeaderFault :=
  match header.2.text? with
  | none => some .valueNotText
  | some text =>
    if isHeaderName header.1 then if isHeaderValue text then none else some .invalidValue
    else some .invalidName

/-- A header is refused for a value that is no text exactly if its value is none, whatever its name.
-/
theorem refusal?_eq_valueNotText_iff {header : String × Json} :
    refusal? header = some .valueNotText ↔ header.2.isText = false := by
  rw [refusal?, Json.isText]
  cases header.2.text? with
  | none => simp
  | some text => cases isHeaderName header.1 <;> cases isHeaderValue text <;> simp

/-- A header is added unless it cannot be sent. -/
theorem addDefault_eq (headers : Headers) (header : String × Json) :
    headers.addDefault header.1 header.2 =
      match refusal? header with
      | some fault => .error fault
      | none => .ok (headers.set (lowercaseName header.1) (header.2.text?.getD "")) := by
  obtain ⟨name, value⟩ := header
  cases value with
  | text text =>
    simp only [addDefault, add, refusal?, Json.text?]
    cases isHeaderName name <;> cases isHeaderValue text <;> rfl
  | _ => rfl

/-- Headers are refused for the first one that cannot be sent. -/
theorem addDefaults_eq_error_iff {headers : Headers} {defaults : List (String × Json)}
    {fault : HeaderFault} :
    headers.addDefaults defaults = .error fault ↔ defaults.findSome? refusal? = some fault := by
  induction defaults generalizing headers with
  | nil =>
    constructor <;> rintro ⟨⟩
  | cons header rest ih =>
    have step : headers.addDefaults (header :: rest) =
        (headers.addDefault header.1 header.2).bind fun headers => headers.addDefaults rest := rfl
    rw [step, addDefault_eq, List.findSome?_cons]
    cases refusal? header with
    | some refused => simp [Except.bind]
    | none => exact ih

/-- A key can be sent as such if it can be sent behind the word that introduces it. -/
theorem isHeaderValue_bearer (key : String) :
    isHeaderValue ("Bearer " ++ key) = isHeaderValue key := by
  simp only [isHeaderValue, String.toList_append, List.all_append]
  exact Bool.and_eq_right_iff_imp.mpr fun _ => by decide

/-- The headers for a provider are refused for its key, or for the first configured one that cannot
be sent. -/
theorem forProvider_eq_valueNotText_iff {key : String} {defaults : List (String × Json)} :
    forProvider key defaults = .error .valueNotText ↔
      isHeaderValue key = true ∧ defaults.findSome? refusal? = some .valueNotText := by
  rw [forProvider, add, isHeaderValue_bearer]
  cases isHeaderValue key with
  | false => simp [bind, Except.bind]
  | true => simpa [bind, Except.bind] using addDefaults_eq_error_iff

/-- The headers for a store whose configured ones are all texts are not refused for one that is
none. -/
theorem forStore_ne_valueNotText {key : String} {defaults : List (String × Json)}
    (texts : ∀ header ∈ defaults, header.2.isText = true) :
    forStore key defaults ≠ .error .valueNotText := by
  have fine (headers : Headers) : headers.addDefaults defaults ≠ .error .valueNotText := by
    intro refused
    obtain ⟨_, header, _, rfl, found, -⟩ :=
      List.findSome?_eq_some_iff.mp (addDefaults_eq_error_iff.mp refused)
    have text := texts header (by simp)
    rw [refusal?_eq_valueNotText_iff.mp found] at text
    cases text
  simp only [forStore, add, isHeaderValue_bearer]
  cases isHeaderValue key with
  | false => simp [bind, Except.bind]
  | true => exact fine _

end Http.Headers

open Http.Headers (forProvider forStore refusal?)

/-- A provider whose headers are refused is never asked, and gives no advisory. -/
theorem Advisory.advise_of_refused {provider : ProviderSettings} {fault : Http.HeaderFault}
    (refused : forProvider provider.apiKey provider.defaultHeaders = .error fault)
    (transport : Http.Transport) (names : CollectionNames) (question : String) (minChars : Nat) :
    advise (overNetwork transport) (some provider) names question minChars = none := by
  have failed : Provider.request provider ((messages names question).map Message.toJson) =
      .error (.header fault) := by
    rw [Provider.request, refused]
  have unanswered : overNetwork transport provider (messages names question) =
      .error (.header fault) := by
    rw [overNetwork, Provider.generate, failed]
  simp only [advise, bind, Option.bind_some, unanswered]

namespace Settings

/-- The configured headers for the store are texts in valid settings. -/
theorem isText_of_valid {settings : Settings} (valid : settings.fault? = none)
    {header : String × Json} (configured : header ∈ settings.store.defaultHeaders) :
    header.2.isText = true := by
  have listed : (⟨!header.2.isText, .headerNotText header.1⟩ : Check) ∈ settings.checks := by
    have own : (⟨!header.2.isText, .headerNotText header.1⟩ : Check) ∈ settings.store.checks :=
      List.mem_append_right _ (List.mem_map.mpr ⟨header, configured, rfl⟩)
    simp only [checks, List.mem_append]
    exact .inl (.inl (.inl (.inr own)))
  simpa using passes_of_valid valid listed

/-- Valid settings never have the headers for the store refused for a value that is no text. Those
for a provider are, exactly if its key can be sent and so can all its headers in front of one that
is no text; and then no question gets an advisory, whatever the network does.

Headers are added one after the other, so the first one that is refused decides. In valid settings
all headers for the store are texts. -/
theorem headers_of_valid {settings : Settings} (valid : settings.fault? = none) :
    forStore settings.store.apiKey settings.store.defaultHeaders ≠ .error .valueNotText ∧
    ∀ provider ∈ settings.provider,
      (forProvider provider.apiKey provider.defaultHeaders = .error .valueNotText ↔
        Http.isHeaderValue provider.apiKey = true ∧
          ∃ before header after, provider.defaultHeaders = before ++ header :: after ∧
            header.2.isText = false ∧ ∀ other ∈ before, refusal? other = none) ∧
      (forProvider provider.apiKey provider.defaultHeaders = .error .valueNotText →
        ∀ transport question, Advisory.advise (Advisory.overNetwork transport) settings.provider
          settings.store.collections question settings.engine.minAdvisoryChars = none) := by
  refine ⟨Http.Headers.forStore_ne_valueNotText fun _ => isText_of_valid valid, ?_⟩
  intro provider used
  constructor
  · simp only [Http.Headers.forProvider_eq_valueNotText_iff, List.findSome?_eq_some_iff,
      Http.Headers.refusal?_eq_valueNotText_iff]
  · intro refused transport question
    rw [Option.mem_def.mp used]
    exact Advisory.advise_of_refused refused ..

/-- Settings whose store and whose provider have the given headers beyond those for their keys. -/
def withHeaders (store provider : List (String × Json)) : Settings where
  logLevel := "info"
  store := { apiBase := "http://store", apiKey := "key", timeoutMs := 1000, defaultHeaders := store }
  provider := some {
    id := "provider", apiBase := "http://provider", apiKey := "key", path := "/chat"
    model := "model", temperature := 0.5, timeoutMs := 1000, defaultHeaders := provider }

/-- A text is no reason to refuse the headers, and a count behind it is one. -/
theorem headers_of_text_and_count :
    let settings := withHeaders [("x-client", .text "argo")]
      [("x-client", .text "argo"), ("x-retries", .int 3)]
    settings.fault? = none ∧
      forStore settings.store.apiKey settings.store.defaultHeaders ≠ .error .valueNotText ∧
      ∀ transport question, Advisory.advise (Advisory.overNetwork transport) settings.provider
        settings.store.collections question settings.engine.minAdvisoryChars = none := by
  intro settings
  have valid : settings.fault? = none := by decide +kernel
  obtain ⟨store, provider⟩ := headers_of_valid valid
  obtain ⟨exactly, silent⟩ := provider _ rfl
  exact ⟨valid, store, silent (exactly.mpr ⟨by decide, [("x-client", .text "argo")], _, [], rfl, rfl,
    by decide⟩)⟩

/-- A header that is refused among those for the store goes unnoticed among those for the provider,
where it is refused by every request. -/
theorem valid_without_advisory :
    (withHeaders [("x-retries", .int 3)] []).fault? = some (.headerNotText "x-retries") ∧
      ∃ provider ∈ (withHeaders [] [("x-retries", .int 3)]).provider,
        (withHeaders [] [("x-retries", .int 3)]).fault? = none ∧
        forProvider provider.apiKey provider.defaultHeaders = .error .valueNotText := by
  refine ⟨by decide +kernel, _, rfl, by decide +kernel, ?_⟩
  exact Http.Headers.forProvider_eq_valueNotText_iff.mpr ⟨by decide, rfl⟩

end Settings

end ArgoQuery
