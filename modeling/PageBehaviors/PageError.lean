import PageBehaviors.Json.Position

/-!
# What can go wrong on a page

No failure ever reaches the reader of a page: it is logged and the page carries on.

## Main definitions

* `PageError` — the causes.
* `PageError.message` — their wording.
-/

namespace PageBehaviors

/-- Why a page cannot be configured or started, or why a call to its document failed. -/
inductive PageError where
  /-- The configuration is not a JSON text of the right shape. -/
  | config (error : Json.Error)
  /-- The configured log level names no level. -/
  | logLevel (name : String)
  /-- There is no window. -/
  | missingWindow
  /-- The window has no document. -/
  | missingDocument
  /-- The document refused a call. -/
  | document (message : String)
  deriving DecidableEq

namespace PageError

/-- The wording of an error. -/
def message : PageError → String
  | config error => "invalid page config: " ++ error.message
  | logLevel name => "unknown log level: " ++ name
  | missingWindow => "window is unavailable"
  | missingDocument => "document is unavailable"
  | document message => "dom error: " ++ message

end PageError

end PageBehaviors
