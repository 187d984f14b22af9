import ScriptLint.FileError
import ScriptLint.Lint.Settings
import ScriptLint.Text.Blank
import ScriptLint.Text.Decimal

/-!
# Project settings

Where the documentation is, where it is cached, and how scripts are checked.  Every setting has a
standard value.  Settings are accepted when their values make sense; of several faults the first
one in the order of the settings is told.
-/

namespace ScriptLint

/-- The settings of a project. -/
structure Settings where
  baseUrl : String
  /-- How many seconds a request may take, if that is limited. -/
  timeoutSeconds : Option Nat
  /-- The cache directory, if one is given. -/
  cacheDirectory : Option String
  lint : LintSettings

/-- What makes no sense in settings. -/
inductive SettingsFault where
  | blankBaseUrl
  /-- The address does not begin as one of the web; it is given without the blanks around it. -/
  | foreignBaseUrl (trimmed : String)
  | noTime
  | threshold (value : Float)
  | noSuggestions

namespace SettingsFault

def message : SettingsFault → String
  | blankBaseUrl => "docs.base_url must not be empty"
  | foreignBaseUrl trimmed => "docs.base_url must be an http(s) URL, got '" ++ trimmed ++ "'"
  | noTime => "docs.timeout_secs must be at least 1"
  | threshold value =>
    "lint.similarity_threshold must be within 0..=1, got " ++ Text.decimalText value
  | noSuggestions => "lint.max_suggestions must be at least 1"

end SettingsFault

/-- Why settings could not be loaded. -/
inductive SettingsError where
  /-- The file could not be read. -/
  | unreadable (cause : FileError)
  /-- The file does not hold settings. -/
  | malformed (reason : String)
  | invalid (reason : String)
deriving DecidableEq, Repr

namespace SettingsError

def message : SettingsError → String
  | unreadable cause => "failed to read configuration: " ++ cause.message
  | malformed reason => "failed to parse configuration: " ++ reason
  | invalid reason => "validation error: " ++ reason

end SettingsError

namespace Settings

/-- The address of the documentation unless another one is given. -/
def standardBaseUrl : String :=
  "https://docs.openttd.org/gs-api"

def standard : Settings :=
  ⟨standardBaseUrl, none, none, .standard⟩

/-- Whether settings are the standard ones. -/
def isStandard (settings : Settings) : Bool :=
  settings.baseUrl == standardBaseUrl && settings.timeoutSeconds.isNone &&
    settings.cacheDirectory.isNone && settings.lint.allow.isEmpty &&
    settings.lint.deny.isEmpty &&
    settings.lint.maxSuggestions == LintSettings.standard.maxSuggestions &&
    settings.lint.similarityThreshold == LintSettings.standard.similarityThreshold

/-- Whether an address begins as one of the web. -/
def isWebAddress (address : String) : Bool :=
  address.startsWith "http://" || address.startsWith "https://"

/-- What makes no sense in the settings, if anything does not. -/
def fault? (settings : Settings) : Option SettingsFault :=
  let trimmed := Text.trimString settings.baseUrl
  let threshold := settings.lint.similarityThreshold
  if trimmed.isEmpty then some .blankBaseUrl
  else if !isWebAddress trimmed then some (.foreignBaseUrl trimmed)
  else if settings.timeoutSeconds = some 0 then some .noTime
  else if !(0 ≤ threshold && threshold ≤ 1) then some (.threshold threshold)
  else if settings.lint.maxSuggestions = 0 then some .noSuggestions
  else none

end Settings

end ScriptLint
