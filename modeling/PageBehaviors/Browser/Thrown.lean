import PageBehaviors.PageError

/-!
# Values that scripts throw

A call of the browser may throw any value.  A thrown text speaks for itself; everything else is
described by its kind.

## Main definitions

* `Browser.Thrown` — the thrown values.
* `Browser.Thrown.message` — what an error message says about them.
-/

namespace PageBehaviors.Browser

/-- A thrown value. -/
inductive Thrown where
  | text (value : String)
  | error (name message : String)
  | boolean (value : Bool)
  | integer (value : Int)
  | null
  | undefined
  | object
  deriving DecidableEq

namespace Thrown

/-- What an error message says about a thrown value. -/
def message : Thrown → String
  | text value => value
  | error name message => "JsValue(" ++ name ++ ": " ++ message ++ ")"
  | boolean true => "JsValue(true)"
  | boolean false => "JsValue(false)"
  | integer value => "JsValue(" ++ toString value ++ ")"
  | null => "JsValue(null)"
  | undefined => "JsValue(undefined)"
  | object => "JsValue(Object)"

/-- The error of a page whose document threw a value. -/
def toPageError (thrown : Thrown) : PageError :=
  .document thrown.message

end Thrown

end PageBehaviors.Browser
