import PageBehaviors.Proofs.Document.Places
import PageBehaviors.Proofs.FormToken.Injection
import PageBehaviors.Proofs.Section.Nodes

/-!
# What a page can do to a list of nodes

Whatever is done with a page and whatever calls fail, its document is changed by edits of three
kinds: a section is shown or hidden, the source of an icon is written, and a form sent with POST is
given an input with the token.  Everything that a page leaves alone is read off these three kinds.

## Main definitions and statements

* `MemoryDocument.giveField` — giving a form an input.
* `MemoryDocument.Edited` — what edits make of a document, and how many of them gave an input.
* `MemoryDocument.Toggled.edited`, `MemoryDocument.edited_inject` — the edits of a toggle and of
  giving the token to the forms.
-/

namespace PageBehaviors

open Section (Visibility)

/-- Whether a node is a form that is sent with POST. -/
def MemoryNode.isPost (node : MemoryNode) : Bool :=
  node.tag == "form" && Document.isPost (some ((node.attributes.get? "method").getD "get"))

namespace MemoryDocument

/-- Give the node at a place a new hidden input as its last child. -/
def giveField (name value : String) (form : Nat) (document : MemoryDocument) : MemoryDocument :=
  (document.add (.hiddenInput name value)).modifyNode form
    (·.appendChild document.nodes.length)

/-- The token of the cookie line, if it can be read and has one. -/
def token? (config : XsrfConfig) (document : MemoryDocument) : Option String :=
  document.cookies.bind (FormToken.token? config)

/-- What edits make of a document, given which sections they may flip and how many inputs they
add. -/
inductive Edited (config : PageConfig) (flipped : String → Prop) (start : MemoryDocument) :
    (fields : Nat) → MemoryDocument → Prop
  /-- Nothing has been edited. -/
  | start : Edited config flipped start 0 start
  /-- A section was shown or hidden. -/
  | visibility {fields : Nat} {document : MemoryDocument} {id : String} {place : Nat}
      (earlier : Edited config flipped start fields document) (flip : flipped id)
      (found : Document.elementById document id = some place) (next : Visibility) :
      Edited config flipped start fields
        (document.setVisibility config.toggle.hiddenClass place next)
  /-- The source of a section's icon was written. -/
  | source {fields : Nat} {document : MemoryDocument} {id : String} {icon : Nat}
      (earlier : Edited config flipped start fields document) (flip : flipped id)
      (found : Document.elementById document (config.toggle.iconId id) = some icon)
      (value : String) :
      Edited config flipped start fields (document.setSource icon value)
  /-- A form sent with POST was given the token. -/
  | field {fields : Nat} {document : MemoryDocument} {token : String} {form : Nat}
      (earlier : Edited config flipped start fields document)
      (present : document.token? config.xsrf = some token)
      (post : document.satisfies MemoryNode.isPost form = true) :
      Edited config flipped start (fields + 1)
        (document.giveField config.xsrf.fieldName token form)

namespace Edited

variable {config : PageConfig} {flipped others : String → Prop}
variable {start document last : MemoryDocument} {fields more : Nat}

/-- More sections may be flipped. -/
theorem mono (h : Edited config flipped start fields document)
    (himp : ∀ id, flipped id → others id) : Edited config others start fields document := by
  induction h with
  | start => exact .start
  | visibility _ flip found next ih => exact ih.visibility (himp _ flip) found next
  | source _ flip found value ih => exact ih.source (himp _ flip) found value
  | field _ present post ih => exact ih.field present post

/-- Edits go on where earlier ones have ended. -/
theorem trans (h : Edited config flipped start fields document)
    (hnext : Edited config flipped document more last) :
    Edited config flipped start (fields + more) last := by
  induction hnext with
  | start => exact h
  | visibility _ flip found next ih => exact ih.visibility flip found next
  | source _ flip found value ih => exact ih.source flip found value
  | field _ present post ih => exact ih.field present post

/-- The edits touch nodes only. -/
theorem rest_eq (h : Edited config flipped start fields document) :
    document.cookies = start.cookies ∧ document.classesReadOnly = start.classesReadOnly := by
  induction h with
  | start => exact ⟨rfl, rfl⟩
  | visibility _ _ _ _ ih => exact ih
  | source _ _ _ _ ih => exact ih
  | field _ _ _ ih => exact ih

/-- The token stays the same. -/
theorem token?_eq (h : Edited config flipped start fields document) (xsrf : XsrfConfig) :
    document.token? xsrf = start.token? xsrf := by
  rw [token?, token?, h.rest_eq.1]

end Edited

/-! ### Toggles -/

/-- A toggle edits the section it flips and its icon, if it flips it. -/
theorem Toggled.edited {config : PageConfig} {id : String} {before after : MemoryDocument}
    {value : Option Visibility} {failed : List Unreliable.Call}
    (h : Toggled config.toggle id before value after failed) :
    Edited config (fun other => other = id ∧ value ≠ none) before 0 after := by
  have flip : ∀ next, id = id ∧ some next ≠ (none : Option Visibility) :=
    fun next => ⟨rfl, Option.some_ne_none next⟩
  cases h with
  | absent => exact .start
  | refused => exact .start
  | plain found => exact Edited.start.visibility (flip _) found _
  | iconRefused found => exact Edited.start.visibility (flip _) found _
  | iconWritten found _ foundIcon =>
      -- the icon is looked up once the class has been changed, which no lookup sees
      refine (Edited.start.visibility (flip _) found _).source (flip _) ?_ _
      rw [elementById_setVisibility]
      exact foundIcon

/-! ### The token -/

/-- Whether a form is sent with POST is told by its method. -/
theorem isPost_formMethod (document : MemoryDocument) (form : Nat) :
    Document.isPost ((Document.formMethod form : StateM MemoryDocument _).run document).1 =
      document.satisfies MemoryNode.isPost form := by
  show Document.isPost (document.nodes[form]?.bind fun node => _) = document.nodes[form]?.any _
  cases document.nodes[form]? with
  | none => rfl
  | some node => by_cases h : node.tag = "form" <;> simp [MemoryNode.isPost, Document.isPost, h]

/-- What is read of the cookies is the cookie line, if it can be read. -/
theorem toOption_run_cookie (document : MemoryDocument) :
    ((Document.cookie : StateM MemoryDocument _).run document).1.toOption = document.cookies := by
  obtain ⟨nodes, cookies, readOnly⟩ := document
  cases cookies with
  | none => rfl
  | some line => rfl

end MemoryDocument

namespace Unreliable

variable {whole after : Unreliable MemoryDocument} {form : Nat}

/-- Asking for the method of a form changes nothing, and the answer is POST only for such a form. -/
theorem of_formMethod {method : Option String}
    (asked : (Document.formMethod form).run whole = (method, after)) :
    after.document = whole.document ∧
      (Document.isPost method = true →
        whole.document.satisfies MemoryNode.isPost form = true) := by
  have hanswer := run_attempt .formMethod (fun _ => none) (Document.formMethod form) whole
  have hasked : (attempt .formMethod (fun _ => none) (Document.formMethod form)).run whole =
      (method, after) := asked
  rw [hasked] at hanswer
  rcases hanswer with ⟨_, hmethod, hdocument⟩ | ⟨hmethod, hdocument⟩
  · refine ⟨hdocument, fun hpost => ?_⟩
    obtain rfl : method = none := hmethod
    cases hpost
  · refine ⟨hdocument, fun hpost => ?_⟩
    rw [← MemoryDocument.isPost_formMethod, ← hmethod]
    exact hpost

theorem makes_giveField (name value : String) (form : Nat) :
    Makes (MemoryDocument.giveField name value form)
      (Document.appendHiddenInput form name value) :=
  run_guarded .appendHiddenInput (Document.appendHiddenInput form name value)

/-- Reading the cookies changes nothing, and what is read is the cookie line. -/
theorem of_cookie {result : Except PageError String}
    (asked : (Document.cookie : StateM (Unreliable MemoryDocument) _).run whole =
      (result, after)) :
    after.document = whole.document ∧
      ∀ cookies, result = .ok cookies → whole.document.cookies = some cookies := by
  have hanswer := run_guarded .cookie Document.cookie whole
  have hasked : (guarded .cookie Document.cookie).run whole = (result, after) := asked
  rw [hasked] at hanswer
  rcases hanswer with ⟨_, hresult, hdocument⟩ | ⟨hresult, hdocument⟩
  · refine ⟨hdocument, fun cookies hcookies => ?_⟩
    rw [hcookies] at hresult
    cases hresult
  · refine ⟨hdocument.trans (MemoryDocument.document_run_cookie _), fun cookies hcookies => ?_⟩
    rw [← MemoryDocument.toOption_run_cookie, ← hresult]
    exact congrArg Except.toOption hcookies

end Unreliable

namespace MemoryDocument

variable {config : PageConfig} {flipped : String → Prop} {whole : Unreliable MemoryDocument}
variable {token : String}

/-- Giving the token to one form edits this form, if it is sent with POST and takes the field. -/
theorem edited_injectInto (present : whole.document.token? config.xsrf = some token) (form : Nat) :
    Edited config flipped whole.document
      ((FormToken.injectInto config.xsrf token form).run whole).value
      ((FormToken.injectInto config.xsrf token form).run whole).state.document := by
  have given := FormToken.injectInto_given config.xsrf token form whole
  have makes := Unreliable.makes_giveField config.xsrf.fieldName token form
  generalize (FormToken.injectInto config.xsrf token form).run whole = outcome at given
  cases given with
  | spared asked =>
      rw [(Unreliable.of_formMethod asked).1]
      exact .start
  | @added method next after asked post appended =>
      obtain ⟨hnext, hpost⟩ := Unreliable.of_formMethod asked
      have hafter : after.document = whole.document.giveField config.xsrf.fieldName token form := by
        rw [← hnext]
        simpa [appended] using makes next
      rw [hafter]
      exact Edited.start.field present (hpost post)
  | @refused method error next after asked post appended =>
      have hafter : after.document = next.document := by
        simpa [appended] using makes next
      rw [hafter, (Unreliable.of_formMethod asked).1]
      exact .start

/-- Giving the token to several forms edits them one after the other. -/
theorem edited_injectAll (present : whole.document.token? config.xsrf = some token)
    (forms : List Nat) :
    Edited config flipped whole.document
      ((FormToken.injectAll config.xsrf token forms).run whole).value
      ((FormToken.injectAll config.xsrf token forms).run whole).state.document := by
  induction forms generalizing whole with
  | nil => exact .start
  | cons form forms ih =>
      rw [FormToken.run_injectAll_cons]
      have hfirst : Edited config flipped whole.document _ _ := edited_injectInto present form
      -- the others are given the same token, since the first form has not changed the cookies
      refine hfirst.trans (ih ?_)
      rw [hfirst.token?_eq]
      exact present

/-- Giving the token of the cookie adds as many inputs as it tells. -/
theorem edited_inject (config : PageConfig) (flipped : String → Prop)
    (whole : Unreliable MemoryDocument) :
    Edited config flipped whole.document
      ((FormToken.inject config.xsrf).run whole).value
      ((FormToken.inject config.xsrf).run whole).state.document := by
  have injected := FormToken.inject_injected config.xsrf whole
  generalize (FormToken.inject config.xsrf).run whole = outcome at injected
  cases injected with
  | unreadable asked =>
      rw [(Unreliable.of_cookie asked).1]
      exact .start
  | absent asked =>
      rw [(Unreliable.of_cookie asked).1]
      exact .start
  | given asked present run =>
      -- the forms are those that are there after the cookies were read: the same as before
      obtain ⟨hnext, hcookies⟩ := Unreliable.of_cookie asked
      rw [run, ← hnext]
      refine edited_injectAll ?_ _
      rw [token?, hnext, hcookies _ rfl]
      exact present

end MemoryDocument

end PageBehaviors
