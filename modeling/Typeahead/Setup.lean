-- Setting the program up from its configuration: the HTTP client must
-- accept the proxy, and then the backend the configuration names is built,
-- under an answer cache when the configuration turns one on.
import Typeahead.Config.Basic
import Typeahead.Query.Backend
import Typeahead.Files

namespace Typeahead.Setup

/-- Checks what the shared HTTP client is made from: the proxy setting. -/
def client (c : Config) : Except Error Unit := Remote.checkProxy c.httpProxy

/-- The engine the configuration names; a remote one asks the service
`svc`. -/
def engine (fs : Files) (svc : Remote.Service) (c : Config) : Except Error Query.Engine :=
  match c.backend.kind with
  | .local =>
    (Pipeline.load fs c.backend.localPaths.sourceToEnglish c.backend.localPaths.englishToTarget).map
      Query.Engine.phrases
  | .remote =>
    (Remote.Dictionary.new c.backend.remote.urlTemplate c.backend.remote.targetLanguage).map
      (Query.Engine.remote · svc)

/-- The backend the configuration names, under a cache if it asks for one. -/
def backend (fs : Files) (svc : Remote.Service) (c : Config) : Except Error Query.Backend :=
  (engine fs svc c).map (fun e => ⟨e, if c.cache.enable then some (Cache.empty c.cache.capacity) else none⟩)

end Typeahead.Setup
