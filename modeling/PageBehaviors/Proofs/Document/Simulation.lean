import PageBehaviors.Page
import PageBehaviors.Proofs.Action.Relation

/-!
# Documents that answer a page alike

A page knows its document only by the calls it makes.  So two documents whose answers to these
calls agree are the same to a page: whatever is done with it, it gives the same replies, writes the
same lines, and leaves the two documents in agreement.

Which calls a page makes depends on its settings: it asks for one attribute and one class, and it
writes the source of icons and one field of forms.  Nor does it touch an element that it has not
been given by a lookup.  A simulation need not speak about any other call.

## Main definitions and statements

* `Document.SectionSimulation`, `Document.TriggerSimulation`, `Document.TokenSimulation` — a
  relation between two documents that the calls of one behaviour keep.
* `Document.Simulation` — a relation that all calls of a page keep.
* `Document.SectionSimulation.run` — a page that is only used cannot tell two documents apart whose
  sections answer alike.
* `Document.Simulation.run` — a page cannot tell two documents apart that answer alike.
-/

namespace PageBehaviors

open PageBehaviors.Action (Alike CallsAgree)

variable {D D' E : Type}

namespace Document

/-- Whether a method is the one of the forms that get the token. -/
def isPost (method : Option String) : Bool :=
  method.any (Text.sameIgnoringCase FormToken.postMethod)

variable [Document D E] [Document D' E]

/-- A relation between two documents that no call breaks or reveals by which sections are folded.
The lookups give `Known` elements only, and no other element is ever named in a call. -/
structure SectionSimulation (config : ToggleConfig) (R : D → D' → Prop) (Known : E → Prop) :
    Prop where
  elementById : ∀ d d', R d d' → ∀ id,
    Document.elementById d id = Document.elementById d' id ∧
      ∀ element, Document.elementById d id = some element → Known element
  hasClass : ∀ d d', R d d' → ∀ element, Known element →
    Document.hasClass d element config.hiddenClass =
      Document.hasClass d' element config.hiddenClass
  setSource : ∀ element, Known element → ∀ value,
    CallsAgree R Eq (Document.setAttribute element "src" value)
      (Document.setAttribute element "src" value)
  addClass : ∀ element, Known element →
    CallsAgree R Eq (Document.addClass element config.hiddenClass)
      (Document.addClass element config.hiddenClass)
  removeClass : ∀ element, Known element →
    CallsAgree R Eq (Document.removeClass element config.hiddenClass)
      (Document.removeClass element config.hiddenClass)

/-- A relation between two documents that no call breaks or reveals by which triggers are found. -/
structure TriggerSimulation (config : ToggleConfig) (R : D → D' → Prop) (Known : E → Prop) :
    Prop where
  elementsWithAttribute :
    CallsAgree R (fun found other => found = other ∧
        ∀ elements, found = .ok elements → ∀ element ∈ elements, Known element)
      (Document.elementsWithAttribute config.marker) (Document.elementsWithAttribute config.marker)
  attributeOf : ∀ element, Known element →
    CallsAgree R Eq (Document.attributeOf element config.marker)
      (Document.attributeOf element config.marker)

/-- A relation between two documents that no call breaks or reveals by which one of them gives a
token to its forms, and the other one another. -/
structure TokenSimulation (config : XsrfConfig) (token token' : String) (R : D → D' → Prop)
    (Known : E → Prop) : Prop where
  forms : ∀ d d', R d d' →
    Document.forms d = Document.forms d' ∧ ∀ form ∈ Document.forms d, Known form
  /-- The two may word a method differently, as long as they agree on whether it is POST. -/
  formMethod : ∀ form, Known form →
    CallsAgree R (fun method other => isPost method = isPost other)
      (Document.formMethod form) (Document.formMethod form)
  appendHiddenInput : ∀ form, Known form →
    CallsAgree R Eq (Document.appendHiddenInput form config.fieldName token)
      (Document.appendHiddenInput form config.fieldName token')

/-- A relation between two documents that no call of a page with the given settings breaks or
reveals. -/
structure Simulation (config : PageConfig) (R : D → D' → Prop) (Known : E → Prop) : Prop
    extends SectionSimulation config.toggle R Known, TriggerSimulation config.toggle R Known where
  forms : ∀ d d', R d d' →
    Document.forms d = Document.forms d' ∧ ∀ form ∈ Document.forms d, Known form
  /-- The two may word a method differently, as long as they agree on whether it is POST. -/
  formMethod : ∀ form, Known form →
    CallsAgree R (fun method other => isPost method = isPost other)
      (Document.formMethod form) (Document.formMethod form)
  appendHiddenInput : ∀ form, Known form → ∀ value,
    CallsAgree R Eq (Document.appendHiddenInput form config.xsrf.fieldName value)
      (Document.appendHiddenInput form config.xsrf.fieldName value)
  cookie : CallsAgree R Eq Document.cookie Document.cookie

/-- Two documents that answer alike do so for any token. -/
theorem Simulation.tokens {config : PageConfig} {R : D → D' → Prop} {Known : E → Prop}
    (sim : Simulation config R Known) (token : String) :
    TokenSimulation config.xsrf token token R Known where
  forms := sim.forms
  formMethod := sim.formMethod
  appendHiddenInput form known := sim.appendHiddenInput form known token

end Document

/-! ### Sections -/

namespace Document.SectionSimulation

variable [Document D E] [Document D' E] {config : ToggleConfig} {R : D → D' → Prop}
variable {Known : E → Prop} (sim : Document.SectionSimulation config R Known)

include sim

theorem lookup (id : String) :
    Alike R (fun found other => found = other ∧ ∀ element, found = some element → Known element)
      (.read fun document : D => Document.elementById document id)
      (.read fun document : D' => Document.elementById document id) :=
  Alike.read fun d d' related => sim.elementById d d' related id

theorem setVisibility {element : E} (known : Known element) (visibility : Section.Visibility) :
    CallsAgree R Eq (Section.setVisibility config element visibility)
      (Section.setVisibility config element visibility) := by
  cases visibility with
  | visible => exact sim.removeClass element known
  | hidden => exact sim.addClass element known

theorem updateIcon (id : String) (visibility : Section.Visibility) :
    Alike R Eq (Section.updateIcon config id visibility)
      (Section.updateIcon config id visibility) := by
  refine (sim.lookup _).bind ?_
  rintro icon _ ⟨rfl, known⟩
  cases icon with
  | none => exact Alike.pure rfl
  | some icon =>
      refine (Alike.call (sim.setSource icon (known icon rfl) _)).bind_eq fun result => ?_
      cases result with
      | ok => exact Alike.pure rfl
      | error error => exact Alike.log _ _

theorem visibilityOf {d : D} {d' : D'} (related : R d d') {element : E} (known : Known element) :
    Section.visibilityOf config d element = Section.visibilityOf config d' element := by
  rw [Section.visibilityOf, Section.visibilityOf, sim.hasClass d d' related element known]

theorem visibility? {d : D} {d' : D'} (related : R d d') (id : String) :
    Section.visibility? config id d = Section.visibility? config id d' := by
  obtain ⟨same, known⟩ := sim.elementById d d' related id
  rw [Section.visibility?, Section.visibility?, ← same]
  cases h : Document.elementById d id with
  | none => rfl
  | some element =>
      rw [Option.map_some, Option.map_some, sim.visibilityOf related (known element h)]

theorem toggle (id : String) :
    Alike R Eq (Section.toggle config id) (Section.toggle config id) := by
  refine (sim.lookup id).bind ?_
  rintro element _ ⟨rfl, known⟩
  cases element with
  | none => exact (Alike.log _ _).bind_eq fun _ => Alike.pure rfl
  | some element =>
      have hknown := known element rfl
      refine Alike.bind_eq (Alike.read fun d d' related => sim.visibilityOf related hknown) ?_
      intro now
      refine (Alike.call (sim.setVisibility hknown _)).bind_eq fun result => ?_
      cases result with
      | error error => exact (Alike.log _ _).bind_eq fun _ => Alike.pure rfl
      | ok =>
          refine (sim.updateIcon id _).bind_eq fun _ => ?_
          exact (Alike.log _ _).bind_eq fun _ => Alike.pure rfl

end Document.SectionSimulation

/-! ### Triggers -/

namespace Document.TriggerSimulation

variable [Document D E] [Document D' E] {config : ToggleConfig} {R : D → D' → Prop}
variable {Known : E → Prop} (sim : Document.TriggerSimulation config R Known)

include sim

theorem bind? {trigger : E} (known : Known trigger) :
    Alike R Eq (Section.bind? config trigger) (Section.bind? config trigger) := by
  refine (Alike.call (sim.attributeOf trigger known)).bind_eq fun target => ?_
  cases target with
  | none => exact Alike.pure rfl
  | some target =>
      by_cases h : target = ""
      · simp only [h, if_true]
        exact (Alike.log _ _).bind_eq fun _ => Alike.pure rfl
      · simp only [h, if_false]
        exact Alike.pure rfl

theorem bindAll {triggers : List E} (known : ∀ trigger ∈ triggers, Known trigger) :
    Alike R Eq (Section.bindAll config triggers) (Section.bindAll config triggers) := by
  induction triggers with
  | nil => exact Alike.pure rfl
  | cons trigger triggers ih =>
      refine (sim.bind? (known trigger List.mem_cons_self)).bind_eq fun first => ?_
      refine (ih fun other h => known other (List.mem_cons_of_mem _ h)).bind_eq fun others => ?_
      exact Alike.pure rfl

theorem discover :
    Alike R Eq (Section.discover config) (Section.discover config) := by
  refine (Alike.call sim.elementsWithAttribute).bind ?_
  rintro found _ ⟨rfl, known⟩
  cases found with
  | error error => exact (Alike.log _ _).bind_eq fun _ => Alike.pure rfl
  | ok triggers => exact sim.bindAll (known triggers rfl)

end Document.TriggerSimulation

/-! ### The token -/

namespace Document.TokenSimulation

variable [Document D E] [Document D' E] {config : XsrfConfig} {token token' : String}
variable {R : D → D' → Prop} {Known : E → Prop}
variable (sim : Document.TokenSimulation config token token' R Known)

include sim

theorem injectInto {form : E} (known : Known form) :
    Alike R Eq (FormToken.injectInto config token form)
      (FormToken.injectInto config token' form) := by
  refine (Alike.call (sim.formMethod form known)).bind fun method other agree => ?_
  simp only [Document.isPost] at agree
  rw [← agree]
  split
  · refine (Alike.call (sim.appendHiddenInput form known)).bind_eq fun result => ?_
    cases result with
    | ok => exact Alike.pure rfl
    | error error => exact (Alike.log _ _).bind_eq fun _ => Alike.pure rfl
  · exact Alike.pure rfl

theorem readForms :
    Alike R (fun forms other => forms = other ∧ ∀ form ∈ forms, Known form)
      (.read fun document : D => Document.forms document)
      (.read fun document : D' => Document.forms document) :=
  Alike.read fun d d' related => sim.forms d d' related

theorem injectAll {forms : List E} (known : ∀ form ∈ forms, Known form) :
    Alike R Eq (FormToken.injectAll config token forms)
      (FormToken.injectAll config token' forms) := by
  induction forms with
  | nil => exact Alike.pure rfl
  | cons form forms ih =>
      refine (sim.injectInto (known form List.mem_cons_self)).bind_eq fun first => ?_
      refine (ih fun other h => known other (List.mem_cons_of_mem _ h)).bind_eq fun others => ?_
      exact Alike.pure rfl

end Document.TokenSimulation

/-- Giving the token of the cookie to the forms, where the two documents tell the same cookies. -/
theorem Document.TokenSimulation.inject [Document D E] [Document D' E] {config : XsrfConfig}
    {R : D → D' → Prop} {Known : E → Prop}
    (cookies : Action.CallsAgree R Eq (Document.cookie : StateM D _) Document.cookie)
    (sims : ∀ token, Document.TokenSimulation config token token R Known) :
    Action.Alike R Eq (FormToken.inject config) (FormToken.inject config) := by
  refine (Action.Alike.call cookies).bind_eq fun cookies => ?_
  cases cookies with
  | error error => exact (Action.Alike.log _ _).bind_eq fun _ => Action.Alike.pure rfl
  | ok cookies =>
      cases h : FormToken.token? config cookies with
      | none =>
          simp only [h]
          exact (Action.Alike.log _ _).bind_eq fun _ => Action.Alike.pure rfl
      | some token =>
          simp only [h]
          refine (sims token).readForms.bind ?_
          rintro forms _ ⟨rfl, known⟩
          refine ((sims token).injectAll known).bind_eq fun count => ?_
          exact (Action.Alike.log _ _).bind_eq fun _ => Action.Alike.pure rfl

theorem Document.Simulation.inject [Document D E] [Document D' E] {config : PageConfig}
    {R : D → D' → Prop} {Known : E → Prop} (sim : Document.Simulation config R Known) :
    Action.Alike R Eq (FormToken.inject config.xsrf) (FormToken.inject config.xsrf) :=
  Document.TokenSimulation.inject sim.cookie sim.tokens

/-! ### Pages -/

namespace Document

variable [Document D E] [Document D' E] {config : PageConfig} {R : D → D' → Prop}
variable {Known : E → Prop}

theorem SectionSimulation.pageToggle (sim : SectionSimulation config.toggle R Known)
    {page : Page E} (hconfig : page.config = config) (id : String) :
    Alike R Eq (page.toggle id) (page.toggle id) := by
  subst hconfig
  exact sim.toggle id

theorem SectionSimulation.click (sim : SectionSimulation config.toggle R Known) {page : Page E}
    (hconfig : page.config = config) (index : Nat) :
    Alike R Eq (page.click index) (page.click index) := by
  unfold Page.click
  split
  · exact Alike.pure rfl
  · exact sim.pageToggle hconfig _

theorem Simulation.init (sim : Simulation config R Known) {page : Page E}
    (hconfig : page.config = config) :
    Alike R (fun result other => result = other ∧ result.1.config = config)
      page.init page.init := by
  subst hconfig
  refine sim.discover.bind_eq fun bindings => ?_
  refine Alike.bind_eq ?_ fun count => ?_
  · unfold Page.injectToken
    split
    · exact sim.inject
    · exact Alike.pure rfl
  · exact (Alike.log _ _).bind_eq fun _ => Alike.pure ⟨rfl, rfl⟩

end Document

/-! ### Sessions -/

namespace Session

/-- Two sessions with the same page, whose settings are the given ones, and related documents. -/
structure Agree (config : PageConfig) (R : D → D' → Prop) (s : Session D E) (t : Session D' E) :
    Prop where
  document : R s.document t.document
  page : s.page = t.page
  config : s.page.config = config

variable {α β : Type} {config : PageConfig} {R : D → D' → Prop}

theorem Agree.onDocument {Q : α → β → Prop} {first : Action D α} {second : Action D' β}
    (h : Alike R Q first second) :
    Alike (Agree (E := E) config R) Q (Session.onDocument first) (Session.onDocument second) := by
  intro s t agree
  obtain ⟨entries, value, document⟩ := h _ _ agree.document
  exact ⟨entries, value, ⟨document, agree.page, agree.config⟩⟩

theorem Agree.readPage :
    Alike (Agree (E := E) config R) (fun page other => page = other ∧ page.config = config)
      (.read Session.page) (.read Session.page) :=
  Alike.read fun _ _ agree => ⟨agree.page, agree.config⟩

theorem Agree.putPage {page : Page E} (h : page.config = config) :
    Alike (Agree (E := E) config R) Eq
      (.call (modify fun session : Session D E => { session with page := page }))
      (.call (modify fun session : Session D' E => { session with page := page })) :=
  Alike.call fun _ _ agree => ⟨rfl, ⟨agree.document, rfl, h⟩⟩

end Session

/-- Whether an operation uses a page that is set up: it looks for no triggers and gives no token. -/
def Operation.isUse : Operation → Bool
  | .bindings | .click _ | .toggle _ | .visibility _ => true
  | .init | .discover | .inject => false

namespace Document

open Session (Agree onDocument)

variable [Document D E] [Document D' E] {config : PageConfig} {R : D → D' → Prop}
variable {Known : E → Prop}

theorem SectionSimulation.perform (sim : SectionSimulation config.toggle R Known)
    {operation : Operation} (h : operation.isUse = true) :
    Alike (Agree config R) Eq (Session.perform operation : Action (Session D E) _)
      (Session.perform operation : Action (Session D' E) _) := by
  refine Agree.readPage.bind ?_
  rintro page _ ⟨rfl, hconfig⟩
  cases operation with
  | bindings => exact Alike.pure rfl
  | click index =>
      exact (Agree.onDocument (sim.click hconfig index)).bind_eq fun _ => Alike.pure rfl
  | toggle id =>
      exact (Agree.onDocument (sim.pageToggle hconfig id)).bind_eq fun _ => Alike.pure rfl
  | visibility id =>
      subst hconfig
      refine Alike.bind_eq (Alike.read fun s t agree => ?_) fun _ => Alike.pure rfl
      exact sim.visibility? agree.document id
  | init => cases h
  | discover => cases h
  | inject => cases h

/-- **A page that is only used cannot tell the two documents apart**: the replies and the lines are
the same and the documents stay related. -/
theorem SectionSimulation.run (sim : SectionSimulation config.toggle R Known)
    {operations : List Operation} (h : ∀ operation ∈ operations, operation.isUse = true) :
    Alike (Agree config R) Eq (Session.run operations : Action (Session D E) _)
      (Session.run operations : Action (Session D' E) _) := by
  induction operations with
  | nil => exact Alike.pure rfl
  | cons operation operations ih =>
      obtain ⟨hfirst, hrest⟩ := List.forall_mem_cons.mp h
      exact (sim.perform hfirst).bind_eq fun _ => (ih hrest).bind_eq fun _ => Alike.pure rfl

theorem Simulation.perform (sim : Simulation config R Known) (operation : Operation) :
    Alike (Agree config R) Eq (Session.perform operation : Action (Session D E) _)
      (Session.perform operation : Action (Session D' E) _) := by
  cases operation with
  | init =>
      refine Agree.readPage.bind ?_
      rintro page _ ⟨rfl, hconfig⟩
      refine (Agree.onDocument (sim.init hconfig)).bind ?_
      rintro ⟨page', report⟩ _ ⟨rfl, hconfig'⟩
      exact (Agree.putPage hconfig').bind_eq fun _ => Alike.pure rfl
  | discover =>
      refine Agree.readPage.bind ?_
      rintro page _ ⟨rfl, rfl⟩
      exact (Agree.onDocument sim.discover).bind_eq fun _ => Alike.pure rfl
  | inject =>
      refine Agree.readPage.bind ?_
      rintro page _ ⟨rfl, rfl⟩
      exact (Agree.onDocument sim.inject).bind_eq fun _ => Alike.pure rfl
  | bindings => exact sim.toSectionSimulation.perform rfl
  | click index => exact sim.toSectionSimulation.perform rfl
  | toggle id => exact sim.toSectionSimulation.perform rfl
  | visibility id => exact sim.toSectionSimulation.perform rfl

/-- **A page cannot tell the two documents apart**: whatever is done with it, in any order and any
number of times, the replies and the lines are the same and the documents stay related. -/
theorem Simulation.run (sim : Simulation config R Known) (operations : List Operation) :
    Alike (Agree config R) Eq (Session.run operations : Action (Session D E) _)
      (Session.run operations : Action (Session D' E) _) := by
  induction operations with
  | nil => exact Alike.pure rfl
  | cons operation operations ih =>
      exact (sim.perform operation).bind_eq fun _ => ih.bind_eq fun _ => Alike.pure rfl

end Document

end PageBehaviors
