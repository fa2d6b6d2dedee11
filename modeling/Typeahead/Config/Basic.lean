-- The configuration of the program: quiet period, query length, link
-- template, browser, proxy, theme, emoji, which translation backend to use
-- and how, the answer cache and logging. Every field has a default; the
-- default model paths lie in a models folder given from outside.
import Typeahead.Query.Settings

namespace Typeahead

/-- Which translation backend the configuration asks for. -/
inductive BackendKind where
  | local
  | remote
  deriving Repr, DecidableEq

/-- The name of a backend kind, as the configuration writes it. -/
def BackendKind.name : BackendKind → String
  | .local => "local"
  | .remote => "remote"

/-- The fewest characters a query needs when the configuration does not say. -/
def BackendKind.minChars : BackendKind → Nat
  | .local => 3
  | .remote => 1

/-- Where the two local models lie. -/
structure LocalPaths where
  sourceToEnglish : String
  englishToTarget : String
  deriving Repr, DecidableEq

/-- How the remote dictionary is reached. -/
structure RemoteSettings where
  urlTemplate : String
  targetLanguage : String
  timeoutSecs : Nat
  deriving Repr, DecidableEq

/-- The backend part of the configuration. -/
structure BackendChoice where
  kind : BackendKind
  localPaths : LocalPaths
  remote : RemoteSettings
  deriving Repr, DecidableEq

/-- The answer cache part of the configuration. -/
structure CacheSettings where
  enable : Bool
  capacity : Nat
  deriving Repr, DecidableEq

/-- The logging part of the configuration. -/
structure LogSettings where
  enable : Bool
  path : Option String
  level : String
  deriving Repr, DecidableEq

/-- The whole configuration. -/
structure Config where
  debounceMs : Nat
  minQueryChars : Option Nat
  lookupUrl : String
  browser : Option String
  httpProxy : Option String
  theme : String
  enableEmoji : Bool
  backend : BackendChoice
  cache : CacheSettings
  logging : LogSettings
  deriving Repr, DecidableEq

/-- A name under a folder. -/
def joinPath (dir name : String) : String :=
  if name.startsWith "/" then name
  else if dir.isEmpty then name
  else if dir.endsWith "/" then dir ++ name else dir ++ "/" ++ name

/-- The default model paths under a models folder. -/
def LocalPaths.default (modelsDir : String) : LocalPaths :=
  ⟨joinPath modelsDir "opus_mul_en", joinPath modelsDir "opus_en_zh"⟩

/-- The default remote dictionary. -/
def RemoteSettings.default : RemoteSettings :=
  ⟨"https://en.wiktionary.org/api/rest_v1/page/definition/{text}", "zh", 10⟩

/-- The default backend: the local models. -/
def BackendChoice.default (modelsDir : String) : BackendChoice :=
  ⟨.local, LocalPaths.default modelsDir, RemoteSettings.default⟩

/-- The default cache: on, for 1024 answers. -/
def CacheSettings.default : CacheSettings := ⟨true, 1024⟩

/-- The default logging: on, to the default place, from warnings up. -/
def LogSettings.default : LogSettings := ⟨true, none, "WARN"⟩

/-- The configuration used when nothing else is said. -/
def Config.default (modelsDir : String) : Config where
  debounceMs := 500
  minQueryChars := none
  lookupUrl := Query.defaultLookupUrl
  browser := none
  httpProxy := none
  theme := "temp"
  enableEmoji := true
  backend := BackendChoice.default modelsDir
  cache := CacheSettings.default
  logging := LogSettings.default

/-- The fewest characters a query needs: as configured, else as the backend kind says. -/
def Config.minChars (c : Config) : Nat := c.minQueryChars.getD c.backend.kind.minChars

/-- The controller settings the configuration gives. -/
def Config.settings (c : Config) : Query.Settings :=
  ⟨c.debounceMs, c.minChars, Query.linkTemplate c.lookupUrl⟩

end Typeahead
