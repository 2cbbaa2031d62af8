import PageBehaviors.Proofs.Document.Lifting
import PageBehaviors.Proofs.Document.Nodes

/-!
# The two behaviours of a page do not meddle with each other

Setting a page up finds its triggers and gives the token to its forms.  What the forms are given
depends on the settings for the token and on the three kinds of calls that giving it makes; what is
bound depends on the settings for sections and on the two kinds of calls that finding triggers
makes.  So a page whose triggers cannot be found still protects its forms, and a page that cannot
give the token still folds its sections.

Two runs are compared.  The triggers are found first, in nodes that the two documents share.  The
token is given afterwards, by which time the calls that found the triggers have left the document
and the schedules of the other calls alone.

## Main definitions and statements

* `Page.triggerCalls`, `Page.tokenCalls` — the kinds of calls that each behaviour makes.
* `Page.discover_agree`, `Page.injectToken_agree` — each behaviour, in two runs.
* `Page.behaviours_independent` — setting a page up.
-/

namespace PageBehaviors

open PageBehaviors.Action (Alike CallsAgree)
open Unreliable (AgreeOn)

namespace Unreliable

variable {D E : Type} [Document D E]

/-- Finding triggers leaves alone the schedules of all calls but those that it makes. -/
theorem overlooksTriggers_faults {call : Call} (hquery : call ≠ .elementsWithAttribute)
    (hread : call ≠ .attributeOf) :
    Document.OverlooksTriggers fun whole : Unreliable D => whole.faults call where
  elementsWithAttribute name whole := by
    have hfaults := faults_run_attempt .elementsWithAttribute
      (fun message => .error (.document message)) (Document.elementsWithAttribute name) whole
    exact (congrFun hfaults call).trans (Faults.next_ne _ hquery)
  attributeOf element name whole := by
    have hfaults := faults_run_attempt .attributeOf (fun _ => none)
      (Document.attributeOf element name) whole
    exact (congrFun hfaults call).trans (Faults.next_ne _ hread)

end Unreliable

namespace Page

/-- The kinds of calls that find the triggers. -/
def triggerCalls : List Unreliable.Call :=
  [.elementsWithAttribute, .attributeOf]

/-- The kinds of calls that give the token to the forms. -/
def tokenCalls : List Unreliable.Call :=
  [.cookie, .formMethod, .appendHiddenInput]

/-! ### Triggers -/

/-- Documents with the same nodes answer alike when triggers are looked for. -/
theorem sameNodes_triggers (config : ToggleConfig) :
    Document.TriggerSimulation config
      (fun document other : MemoryDocument => document.nodes = other.nodes)
      (fun _ : Nat => True) where
  elementsWithAttribute document other same := by
    refine ⟨⟨?_, fun _ _ _ _ => trivial⟩, same⟩
    show Except.ok (document.places _) = .ok (other.places _)
    rw [MemoryDocument.places, MemoryDocument.places, same]
  attributeOf place _ document other same := by
    refine ⟨?_, same⟩
    show document.nodes[place]?.bind _ = other.nodes[place]?.bind _
    rw [same]

/-- **Finding triggers**, in two documents with the same nodes. -/
theorem discover_agree (config : ToggleConfig) {whole other : Unreliable MemoryDocument}
    (agree : AgreeOn triggerCalls (fun document other => document.nodes = other.nodes)
      whole other) :
    ((Section.discover config).run whole).value = ((Section.discover config).run other).value := by
  have sim : Document.TriggerSimulation config (AgreeOn triggerCalls _) (fun _ => True) :=
    (sameNodes_triggers config).agreeOn (by decide) (by decide)
  exact (sim.discover whole other agree).2.1

/-! ### The token -/

/-- Finding triggers changes nothing that giving the token depends on. -/
theorem discover_spares_token (config : ToggleConfig) (whole : Unreliable MemoryDocument) :
    AgreeOn tokenCalls Eq ((Section.discover config).run whole).state whole where
  document :=
    (Unreliable.overlooksTriggers MemoryDocument.overlooksTriggers_self).discover config whole
  faults call mem := by
    have hquery : call ≠ .elementsWithAttribute := by
      rintro rfl
      exact absurd mem (by decide)
    have hread : call ≠ .attributeOf := by
      rintro rfl
      exact absurd mem (by decide)
    exact (Unreliable.overlooksTriggers_faults hquery hread).discover config whole

/-- A document answers as it does itself when the token is given. -/
theorem same_tokens (config : XsrfConfig) (token : String) :
    Document.TokenSimulation config token token (Eq : MemoryDocument → MemoryDocument → Prop)
      (fun _ : Nat => True) where
  forms := by
    rintro document _ rfl
    exact ⟨rfl, fun _ _ => trivial⟩
  formMethod form _ := by
    rintro document _ rfl
    exact ⟨rfl, rfl⟩
  appendHiddenInput form _ := by
    rintro document _ rfl
    exact ⟨rfl, rfl⟩

/-- **Giving the token**, in one document whose other calls may fail differently. -/
theorem injectToken_agree {page other : Page Nat} (hconfig : page.config.xsrf = other.config.xsrf) :
    Alike (AgreeOn tokenCalls (Eq : MemoryDocument → MemoryDocument → Prop)) Eq page.injectToken
      other.injectToken := by
  unfold Page.injectToken
  rw [← hconfig]
  split
  · have cookies : CallsAgree (AgreeOn tokenCalls Eq) Eq
        (Document.cookie : StateM (Unreliable MemoryDocument) _) Document.cookie := by
      have mem : .cookie ∈ tokenCalls := by decide
      refine Unreliable.attempt_agreeOn mem (fun _ => rfl) ?_
      rintro document _ rfl
      exact ⟨rfl, rfl⟩
    exact Document.TokenSimulation.inject cookies fun token =>
      (same_tokens _ token).agreeOn (by decide) (by decide)
  · exact Alike.pure rfl

/-! ### Both -/

/-- Setting a page up is finding its triggers and then giving the token. -/
theorem run_init_eq {D E : Type} [Document D E] (page : Page E) (document : D) :
    let found := (Section.discover page.config.toggle).run document
    let given := page.injectToken.run found.state
    (page.init.run document).value =
        ({ page with bindings := found.value }, ⟨found.value.length, given.value⟩) ∧
      (page.init.run document).state = given.state :=
  ⟨rfl, rfl⟩

/-- **The two behaviours of a page are independent.**  Set up two pages.  If they have the same
settings for the token, their documents are the same, and the calls that give the token fail on the
same schedules, then they leave the same document and tell the same number of forms, whatever their
triggers are and whether these can be found.  If they have the same settings for sections, their
documents have the same nodes, and the calls that find triggers fail on the same schedules, then
they find the same bindings and tell the same number of them, whatever becomes of the token. -/
theorem behaviours_independent (page other : Page Nat) (whole whole' : Unreliable MemoryDocument) :
    (page.config.xsrf = other.config.xsrf → AgreeOn tokenCalls Eq whole whole' →
      (page.init.run whole).state.document = (other.init.run whole').state.document ∧
      (page.init.run whole).value.2.formsInjected =
        (other.init.run whole').value.2.formsInjected) ∧
    (page.config.toggle = other.config.toggle →
      AgreeOn triggerCalls (fun document document' => document.nodes = document'.nodes) whole
        whole' →
      (page.init.run whole).value.1.bindings = (other.init.run whole').value.1.bindings ∧
      (page.init.run whole).value.2.bindings = (other.init.run whole').value.2.bindings) := by
  constructor
  · intro hconfig agree
    have hfirst := discover_spares_token page.config.toggle whole
    have hsecond := discover_spares_token other.config.toggle whole'
    -- what the two searches for triggers leave to the token is what there was before them
    have related : AgreeOn tokenCalls Eq ((Section.discover page.config.toggle).run whole).state
        ((Section.discover other.config.toggle).run whole').state :=
      ⟨(hfirst.document.trans agree.document).trans hsecond.document.symm, fun call mem =>
        ((hfirst.faults call mem).trans (agree.faults call mem)).trans
          (hsecond.faults call mem).symm⟩
    obtain ⟨-, hcount, hend⟩ := injectToken_agree hconfig _ _ related
    obtain ⟨hvalue, hstate⟩ := run_init_eq page whole
    obtain ⟨hvalue', hstate'⟩ := run_init_eq other whole'
    rw [hvalue, hvalue', hstate, hstate']
    exact ⟨hend.document, hcount⟩
  · intro hconfig agree
    have hfound := discover_agree page.config.toggle agree
    obtain ⟨hvalue, -⟩ := run_init_eq page whole
    obtain ⟨hvalue', -⟩ := run_init_eq other whole'
    rw [hvalue, hvalue', ← hconfig]
    exact ⟨hfound, congrArg List.length hfound⟩

/-- A form that is sent with POST and is a trigger. -/
def petition : MemoryDocument where
  nodes := [.ofTag "form" [("method", "post"), ("showHide", "s")]]
  cookies := some "XSRF-TOKEN=t"

/-- The form in a document whose triggers cannot be found. -/
def unsearchable : Unreliable MemoryDocument where
  document := petition
  faults call := if call = .elementsWithAttribute then some ⟨"no", 0, none⟩ else none

/-- The form in a document whose cookies cannot be read. -/
def unreadable : Unreliable MemoryDocument :=
  .reliable { petition with cookies := none }

/-- A page whose marker is an attribute of the inputs that are added. -/
def valueMarked : Page Nat where
  config := { toggle := { marker := "value" } }

/-- A page with all its settings left as they are. -/
def unconfigured : Page Nat where
  config := {}

/-- The form gets the token although no trigger can be found, and it is bound although the cookies
cannot be read. -/
theorem behaviours_independent_petition :
    valueMarked.config.xsrf = unconfigured.config.xsrf ∧
    AgreeOn tokenCalls Eq unsearchable (.reliable petition) ∧
    AgreeOn triggerCalls (fun document document' => document.nodes = document'.nodes) unreadable
      (.reliable petition) ∧
    (valueMarked.init.run unsearchable).value.2.formsInjected = 1 ∧
    (unconfigured.init.run unreadable).value.1.bindings = [⟨0, "s", "sImg"⟩] := by
  have hschedules : AgreeOn tokenCalls Eq unsearchable (.reliable petition) := by
    refine ⟨rfl, fun call mem => ?_⟩
    cases call with
    | elementsWithAttribute => exact absurd mem (by decide)
    | _ => rfl
  have hnodes : AgreeOn triggerCalls (fun document document' => document.nodes = document'.nodes)
      unreadable (.reliable petition) :=
    ⟨rfl, fun _ _ => rfl⟩
  obtain ⟨hgiven, -⟩ := behaviours_independent valueMarked unconfigured unsearchable
    (.reliable petition)
  obtain ⟨-, hbound⟩ := behaviours_independent unconfigured unconfigured unreadable
    (.reliable petition)
  have hcount : (unconfigured.init.run (Unreliable.reliable petition)).value.2.formsInjected =
      1 := by
    decide +kernel
  have htriggers : (unconfigured.init.run (Unreliable.reliable petition)).value.1.bindings =
      [⟨0, "s", "sImg"⟩] := by
    decide +kernel
  exact ⟨rfl, hschedules, hnodes, (hgiven rfl hschedules).2.trans hcount,
    (hbound rfl hnodes).1.trans htriggers⟩

end Page

end PageBehaviors
