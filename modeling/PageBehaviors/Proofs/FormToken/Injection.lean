import PageBehaviors.Proofs.Document.Simulation

/-!
# What giving the token can do

Two inversions: giving the token to one form goes one of three ways, and so does giving the token of
the cookie to all forms.  Each way says which calls were made, with which results, and which lines
were written.

## Main definitions and statements

* `FormToken.Given`, `FormToken.injectInto_given` — one form.
* `FormToken.Injected`, `FormToken.inject_injected` — the cookie and all forms.
-/

namespace PageBehaviors.FormToken

variable {D E : Type} [Document D E]

/-- The three ways of giving the token to a form, from a document to the outcome. -/
inductive Given (config : XsrfConfig) (token : String) (form : E) (document : D) :
    Outcome D Nat → Prop
  /-- The form is not sent with POST, or does not tell. -/
  | spared {method : Option String} {after : D}
      (asked : (Document.formMethod form).run document = (method, after))
      (other : Document.isPost method = false) :
      Given config token form document ⟨0, after, []⟩
  /-- The form got the token. -/
  | added {method : Option String} {next after : D}
      (asked : (Document.formMethod form).run document = (method, next))
      (post : Document.isPost method = true)
      (appended : (Document.appendHiddenInput form config.fieldName token).run next =
        (.ok (), after)) :
      Given config token form document ⟨1, after, []⟩
  /-- The form could not take the token. -/
  | refused {method : Option String} {error : PageError} {next after : D}
      (asked : (Document.formMethod form).run document = (method, next))
      (post : Document.isPost method = true)
      (appended : (Document.appendHiddenInput form config.fieldName token).run next =
        (.error error, after)) :
      Given config token form document
        ⟨0, after, [⟨.warn, "xsrf: cannot add " ++ config.fieldName ++ " field: " ++
          error.message⟩]⟩

section

variable {config : XsrfConfig} {form : E} {document next after : D} {method : Option String}

/-- Giving the token to a form that is not sent with POST, or does not tell. -/
theorem run_injectInto_of_spared (token : String)
    (asked : (Document.formMethod form).run document = (method, after))
    (other : Document.isPost method = false) :
    (injectInto config token form).run document = ⟨0, after, []⟩ := by
  rw [Document.isPost] at other
  simp [injectInto, Action.run_bind, asked, other]

/-- Giving the token to a form that is sent with POST and takes it. -/
theorem run_injectInto_of_added {token : String}
    (asked : (Document.formMethod form).run document = (method, next))
    (post : Document.isPost method = true)
    (appended : (Document.appendHiddenInput form config.fieldName token).run next =
      (.ok (), after)) :
    (injectInto config token form).run document = ⟨1, after, []⟩ := by
  have hpost : method.any (Text.sameIgnoringCase postMethod) = true := post
  simp [injectInto, Action.run_bind, asked, hpost, appended]

/-- Giving the token to a form that is sent with POST and refuses it. -/
theorem run_injectInto_of_refused {token : String} {error : PageError}
    (asked : (Document.formMethod form).run document = (method, next))
    (post : Document.isPost method = true)
    (appended : (Document.appendHiddenInput form config.fieldName token).run next =
      (.error error, after)) :
    (injectInto config token form).run document = ⟨0, after,
      [⟨.warn, "xsrf: cannot add " ++ config.fieldName ++ " field: " ++ error.message⟩]⟩ := by
  have hpost : method.any (Text.sameIgnoringCase postMethod) = true := post
  simp [injectInto, Action.run_bind, asked, hpost, appended]

end

/-- **Giving the token to a form goes one of the three ways.** -/
theorem injectInto_given (config : XsrfConfig) (token : String) (form : E) (document : D) :
    Given config token form document ((injectInto config token form).run document) := by
  cases asked : (Document.formMethod form).run document with
  | mk method next =>
      cases post : Document.isPost method with
      | false =>
          rw [run_injectInto_of_spared token asked post]
          exact .spared asked post
      | true =>
          cases appended :
              (Document.appendHiddenInput form config.fieldName token).run next with
          | mk result after =>
              cases result with
              | ok =>
                  rw [run_injectInto_of_added asked post appended]
                  exact .added asked post appended
              | error error =>
                  rw [run_injectInto_of_refused asked post appended]
                  exact .refused asked post appended

theorem run_injectAll_cons (config : XsrfConfig) (token : String) (form : E) (forms : List E)
    (document : D) :
    (injectAll config token (form :: forms)).run document =
      let first := (injectInto config token form).run document
      let others := (injectAll config token forms).run first.state
      ⟨first.value + others.value, others.state, first.entries ++ others.entries⟩ := by
  simp [injectAll, Action.run_bind]

/-- The three ways of giving the token of the cookie to all forms. -/
inductive Injected (config : XsrfConfig) (document : D) : Outcome D Nat → Prop
  /-- The cookies cannot be read. -/
  | unreadable {error : PageError} {after : D}
      (asked : (Document.cookie : StateM D _).run document = (.error error, after)) :
      Injected config document
        ⟨0, after, [⟨.warn, "xsrf: cannot read cookies: " ++ error.message⟩]⟩
  /-- The cookies have no token. -/
  | absent {cookies : String} {after : D}
      (asked : (Document.cookie : StateM D _).run document = (.ok cookies, after))
      (missing : token? config cookies = none) :
      Injected config document
        ⟨0, after, [⟨.debug, "xsrf: no " ++ config.cookieName ++
          " cookie, forms left untouched"⟩]⟩
  /-- The forms were given the token. -/
  | given {cookies token : String} {next : D}
      (asked : (Document.cookie : StateM D _).run document = (.ok cookies, next))
      (present : token? config cookies = some token)
      {outcome : Outcome D Nat}
      (run : outcome = (injectAll config token (Document.forms next)).run next) :
      Injected config document
        ⟨outcome.value, outcome.state, outcome.entries ++
          [⟨.info, "xsrf: token added to " ++ toString outcome.value ++ " form(s)"⟩]⟩

section

variable {config : XsrfConfig} {document next after : D} {cookies token : String}

theorem run_inject_of_unreadable (config : XsrfConfig) {error : PageError}
    (asked : (Document.cookie : StateM D _).run document = (.error error, after)) :
    (inject config).run document =
      ⟨0, after, [⟨.warn, "xsrf: cannot read cookies: " ++ error.message⟩]⟩ := by
  simp [inject, Action.run_bind, asked]

theorem run_inject_of_absent
    (asked : (Document.cookie : StateM D _).run document = (.ok cookies, after))
    (missing : token? config cookies = none) :
    (inject config).run document = ⟨0, after,
      [⟨.debug, "xsrf: no " ++ config.cookieName ++ " cookie, forms left untouched"⟩]⟩ := by
  simp [inject, Action.run_bind, asked, missing]

theorem run_inject_of_present
    (asked : (Document.cookie : StateM D _).run document = (.ok cookies, next))
    (present : token? config cookies = some token) :
    (inject config).run document =
      let outcome := (injectAll config token (Document.forms next)).run next
      ⟨outcome.value, outcome.state, outcome.entries ++
        [⟨.info, "xsrf: token added to " ++ toString outcome.value ++ " form(s)"⟩]⟩ := by
  simp [inject, Action.run_bind, asked, present]

end

/-- **Giving the token of the cookie goes one of the three ways.** -/
theorem inject_injected (config : XsrfConfig) (document : D) :
    Injected config document ((inject config).run document) := by
  cases asked : (Document.cookie : StateM D _).run document with
  | mk result next =>
      cases result with
      | error error =>
          rw [run_inject_of_unreadable config asked]
          exact .unreadable asked
      | ok cookies =>
          cases htoken : token? config cookies with
          | none =>
              rw [run_inject_of_absent asked htoken]
              exact .absent asked htoken
          | some token =>
              rw [run_inject_of_present asked htoken]
              exact .given asked htoken rfl

end PageBehaviors.FormToken
