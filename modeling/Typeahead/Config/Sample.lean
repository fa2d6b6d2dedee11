-- The configuration written out as TOML: top-level values first, then one
-- table per part, in field order, with absent values left out. This is the
-- sample file the program writes for a user to edit.
import Typeahead.Config.Basic

namespace Typeahead

/-- A string as a TOML value: a literal string when it holds a backslash and
nothing that a literal string cannot hold, else a basic string with escapes. -/
def tomlString (s : String) : String :=
  let cs := s.toList
  let apostrophe := Char.ofNat 39
  let plain := cs.all (fun ch => ch = '\t' || (ch.toNat > 31 && ch.toNat != 127))
  if cs.contains '\\' && !cs.contains apostrophe && plain then
    String.ofList (apostrophe :: cs ++ [apostrophe])
  else
    let esc (ch : Char) : List Char :=
      if ch = '\x08' then ['\\', 'b'] else if ch = '\t' then ['\\', 't']
      else if ch = '\n' then ['\\', 'n'] else if ch = '\x0c' then ['\\', 'f']
      else if ch = '\r' then ['\\', 'r'] else if ch = '"' then ['\\', '"']
      else if ch = '\\' then ['\\', '\\']
      else if ch.toNat ≤ 31 || ch.toNat = 127 then
        let hex := (Nat.toDigits 16 ch.toNat).map Char.toUpper
        '\\' :: 'u' :: List.replicate (4 - hex.length) '0' ++ hex
      else [ch]
    String.ofList ('"' :: cs.flatMap esc ++ ['"'])

/-- A line `key = value`. -/
def tomlLine (key value : String) : String := key ++ " = " ++ value ++ "\n"

/-- A boolean as TOML writes it. -/
def tomlBool (b : Bool) : String := if b then "true" else "false"

/-- The configuration as TOML text. -/
def Config.toToml (c : Config) : String :=
  tomlLine "debounce_ms" (toString c.debounceMs) ++
  (c.minQueryChars.map (fun n => tomlLine "min_query_chars" (toString n))).getD "" ++
  tomlLine "lookup_url" (tomlString c.lookupUrl) ++
  (c.browser.map (fun b => tomlLine "browser" (tomlString b))).getD "" ++
  (c.httpProxy.map (fun p => tomlLine "http_proxy" (tomlString p))).getD "" ++
  tomlLine "theme" (tomlString c.theme) ++
  tomlLine "enable_emoji" (tomlBool c.enableEmoji) ++
  "\n[backend]\n" ++
  tomlLine "kind" (tomlString c.backend.kind.name) ++
  "\n[backend.local]\n" ++
  tomlLine "source_to_english" (tomlString c.backend.localPaths.sourceToEnglish) ++
  tomlLine "english_to_target" (tomlString c.backend.localPaths.englishToTarget) ++
  "\n[backend.remote]\n" ++
  tomlLine "url_template" (tomlString c.backend.remote.urlTemplate) ++
  tomlLine "target_language" (tomlString c.backend.remote.targetLanguage) ++
  tomlLine "timeout_secs" (toString c.backend.remote.timeoutSecs) ++
  "\n[cache]\n" ++
  tomlLine "enable" (tomlBool c.cache.enable) ++
  tomlLine "capacity" (toString c.cache.capacity) ++
  "\n[logging]\n" ++
  tomlLine "enable" (tomlBool c.logging.enable) ++
  (c.logging.path.map (fun p => tomlLine "path" (tomlString p))).getD "" ++
  tomlLine "level" (tomlString c.logging.level)

end Typeahead
