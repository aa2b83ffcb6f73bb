import ArgoQuery.Settings.Decoding
import ArgoQuery.Settings.Validation
import ArgoQuery.Toml

/-!
# Settings files

A settings file is a TOML document. Slashes at the end of addresses are dropped and a provider
without a key counts as none before the settings are checked.
-/

namespace ArgoQuery

/-- Why a file gives no settings. -/
inductive SettingsFileFault where
  | unreadable
  | malformed
  | invalid (fault : SettingsFault)
deriving DecidableEq, Repr

namespace ProviderSettings

/-- The provider, unless its key is blank. -/
def usable? (provider : ProviderSettings) : Option ProviderSettings :=
  if Text.isBlankText provider.apiKey then none
  else some { provider with apiBase := Text.withoutTrailingSlashes provider.apiBase }

end ProviderSettings

namespace Settings

/-- Settings as they are used: without slashes at the end of the address, and without a provider
that cannot be used. -/
def normalize (settings : Settings) : Settings :=
  { settings with
    store := { settings.store with
      apiBase := Text.withoutTrailingSlashes settings.store.apiBase }
    provider := settings.provider.bind ProviderSettings.usable? }

/-- The settings that are written in the text of a file, if there is one. -/
def ofFile (content : Option String) : Except SettingsFileFault Settings :=
  match content with
  | none => .error .unreadable
  | some text =>
    match (Toml.ofText? text).bind (ofJson? Json.openRecord?) with
    | none => .error .malformed
    | some written =>
      let settings := written.normalize
      match settings.fault? with
      | some fault => .error (.invalid fault)
      | none => .ok settings

end Settings

end ArgoQuery
