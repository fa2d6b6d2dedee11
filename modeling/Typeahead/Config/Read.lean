-- Reading the configuration from TOML text. Fields not given keep their
-- defaults, unknown keys are passed over, and the first fault in document
-- order is shown against the text.
import Typeahead.Config.Basic
import Typeahead.Toml.Decode

namespace Typeahead

open Toml

/-- The backend kind as the configuration names it. -/
def backendKindDecoder : Decoder BackendKind := fun n =>
  (variant ["local", "remote"] n).map (fun s => if s = "remote" then .remote else .local)

/-- The local model paths. -/
def localPathsDecoder (init : LocalPaths) : Decoder LocalPaths :=
  record "LocalConfig" [
    .of "source_to_english" (string "path string") (fun v s => { s with sourceToEnglish := v }) false,
    .of "english_to_target" (string "path string") (fun v s => { s with englishToTarget := v }) false
  ] init

/-- The remote dictionary settings. -/
def remoteDecoder : Decoder RemoteSettings :=
  record "RemoteConfig" [
    .of "url_template" (string "a string") (fun v s => { s with urlTemplate := v }) false,
    .of "target_language" (string "a string") (fun v s => { s with targetLanguage := v }) false,
    .of "timeout_secs" (natural "u64") (fun v s => { s with timeoutSecs := v }) false
  ] RemoteSettings.default

/-- The backend part. -/
def backendDecoder (modelsDir : String) : Decoder BackendChoice :=
  record "BackendConfig" [
    .of "kind" backendKindDecoder (fun v s => { s with kind := v }) false,
    .of "local" (localPathsDecoder (LocalPaths.default modelsDir))
      (fun v s => { s with localPaths := v }) false,
    .of "remote" remoteDecoder (fun v s => { s with remote := v }) false
  ] (BackendChoice.default modelsDir)

/-- The cache part. -/
def cacheDecoder : Decoder CacheSettings :=
  record "CacheConfig" [
    .of "enable" boolean (fun v s => { s with enable := v }) false,
    .of "capacity" (natural "usize") (fun v s => { s with capacity := v }) false
  ] CacheSettings.default

/-- The logging part. -/
def logDecoder : Decoder LogSettings :=
  record "Logging" [
    .of "enable" boolean (fun v s => { s with enable := v }) false,
    .of "path" (optional (string "a string")) (fun v s => { s with path := v }) true,
    .of "level" (string "a string") (fun v s => { s with level := v }) false
  ] LogSettings.default

/-- The whole configuration. -/
def configDecoder (modelsDir : String) : Decoder Config :=
  record "Config" [
    .of "debounce_ms" (natural "u64") (fun v s => { s with debounceMs := v }) false,
    .of "min_query_chars" (optional (natural "usize")) (fun v s => { s with minQueryChars := v }) true,
    .of "lookup_url" (string "a string") (fun v s => { s with lookupUrl := v }) false,
    .of "browser" (optional (string "a string")) (fun v s => { s with browser := v }) true,
    .of "http_proxy" (optional (string "a string")) (fun v s => { s with httpProxy := v }) true,
    .of "theme" (string "a string") (fun v s => { s with theme := v }) false,
    .of "enable_emoji" boolean (fun v s => { s with enableEmoji := v }) false,
    .of "backend" (backendDecoder modelsDir) (fun v s => { s with backend := v }) false,
    .of "cache" cacheDecoder (fun v s => { s with cache := v }) false,
    .of "logging" logDecoder (fun v s => { s with logging := v }) false
  ] (Config.default modelsDir)

/-- Reads a configuration from TOML text, or gives the fault as shown against
the text. -/
def Config.read (modelsDir : String) (text : String) : Except String Config :=
  let bytes := text.toUTF8.toList
  match readDocument bytes >>= configDecoder modelsDir with
  | .ok c => .ok c
  | .error f => .error (f.render bytes)

end Typeahead
