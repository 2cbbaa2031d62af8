import PageBehaviors.Action
import PageBehaviors.Config.Basic
import PageBehaviors.Cookie
import PageBehaviors.Document.Basic

/-!
# The forgery token of the forms

The server hands a token out in a cookie and wants it back in a field of every form that is sent
with POST.  Without a token no form is touched, and a form that cannot take the field does not keep
the others from getting it.

## Main definitions

* `FormToken.token?` — the token of a cookie line.
* `FormToken.inject` — giving the token to the forms.
-/

namespace PageBehaviors.FormToken

/-- The method of the forms that get the token. -/
def postMethod : String := "post"

/-- The token of a cookie line: an empty one counts as none. -/
def token? (config : XsrfConfig) (cookies : String) : Option String :=
  (Cookie.value? cookies config.cookieName).filter fun token => token != ""

variable {D E : Type} [Document D E]

/-- Give the token to a form if it is sent with POST.  The value is the number of fields added. -/
def injectInto (config : XsrfConfig) (token : String) (form : E) : Action D Nat := do
  let method ← .call (Document.formMethod form : StateM D _)
  if method.any (Text.sameIgnoringCase postMethod) then
    match ← .call (Document.appendHiddenInput form config.fieldName token : StateM D _) with
    | .ok () => pure 1
    | .error error => do
      .log .warn ("xsrf: cannot add " ++ config.fieldName ++ " field: " ++ error.message)
      pure 0
  else
    pure 0

/-- Give the token to each form of a list.  The value is the number of fields added. -/
def injectAll (config : XsrfConfig) (token : String) : List E → Action D Nat
  | [] => pure 0
  | form :: forms => do
    let first ← injectInto config token form
    let others ← injectAll config token forms
    pure (first + others)

/-- Give the token of the cookie to the forms of a document.  The value is the number of fields
added. -/
def inject (config : XsrfConfig) : Action D Nat := do
  match ← .call (Document.cookie : StateM D _) with
  | .error error =>
    .log .warn ("xsrf: cannot read cookies: " ++ error.message)
    pure 0
  | .ok cookies =>
    match token? config cookies with
    | none =>
      .log .debug ("xsrf: no " ++ config.cookieName ++ " cookie, forms left untouched")
      pure 0
    | some token =>
      let forms ← .read fun document : D => Document.forms document
      let count ← injectAll config token forms
      .log .info ("xsrf: token added to " ++ toString count ++ " form(s)")
      pure count

end PageBehaviors.FormToken
