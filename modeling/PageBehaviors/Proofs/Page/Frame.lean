import PageBehaviors.Proofs.Document.Frame
import PageBehaviors.Proofs.Page.Icons

/-!
# What a page leaves alone

Whatever is done with a page and whatever calls fail, its document only ever changes by the three
kinds of edits: sections that were flipped, the icons of such sections, and inputs for forms that
are sent with POST.  The inputs are counted by the replies, so none is added unseen.

## Main statements

* `Session.edited_perform`, `Session.edited_run` — the edits of one operation and of a run.
* `Session.only_edits` — what a run leaves alone.
-/

namespace PageBehaviors

open MemoryDocument (Edited Framed)

/-- The number of inputs that a reply tells: those that setting the page up or giving the token
added. -/
def Reply.fields {E : Type} : Reply E → Nat
  | .report told => told.formsInjected
  | .count told => told
  | .bindings _ => 0
  | .visibility _ => 0

/-- The number of inputs that several replies tell together. -/
def Reply.allFields {E : Type} : List (Reply E) → Nat
  | [] => 0
  | reply :: replies => reply.fields + allFields replies

namespace Session

/-- Finding bindings changes no node, whatever fails. -/
theorem document_discover (config : ToggleConfig) (whole : Unreliable MemoryDocument) :
    ((Section.discover config).run whole).state.document = whole.document :=
  (Unreliable.overlooksTriggers MemoryDocument.overlooksTriggers_self).discover config whole

/-- Setting a page up adds as many inputs as its report tells. -/
theorem edited_init (page : Page Nat) (flipped : String → Prop)
    (whole : Unreliable MemoryDocument) :
    Edited page.config flipped whole.document (page.init.run whole).value.2.formsInjected
      (page.init.run whole).state.document := by
  have hfound := document_discover page.config.toggle whole
  have hgiven : ∀ rest : Unreliable MemoryDocument, Edited page.config flipped rest.document
      (page.injectToken.run rest).value (page.injectToken.run rest).state.document := by
    intro rest
    unfold Page.injectToken
    split
    · exact MemoryDocument.edited_inject page.config flipped rest
    · exact .start
  rw [← hfound]
  exact hgiven _

/-- **One operation** edits the section with a verdict, if there is one, and adds the inputs that
its reply tells. -/
theorem edited_perform (operation : Operation)
    (session : Session (Unreliable MemoryDocument) Nat) :
    Edited session.page.config (fun id => verdict? id operation session ≠ none)
      session.document.document ((perform operation).run session).value.fields
      ((perform operation).run session).state.document.document := by
  cases haddressee : operation.addressee? session.page with
  | some addressee =>
      -- a toggle: its reply tells no input
      have hfields : ((perform operation).run session).value.fields = 0 := by
        rw [perform_of_addressee haddressee]
        rfl
      rw [hfields]
      refine (toggled_of_addressee haddressee).edited.mono ?_
      rintro id ⟨rfl, hverdict⟩
      exact hverdict
  | none =>
      cases operation with
      | toggle id => cases haddressee
      | click index =>
          have hnone : session.page.bindings[index]? = none := Option.map_eq_none_iff.mp haddressee
          have hrun : (perform (.click index)).run session = ⟨.visibility none, session, []⟩ := by
            simp [perform, Action.run_bind, onDocument, Page.click, hnone]
          rw [hrun]
          exact .start
      | init => exact edited_init session.page _ session.document
      | bindings => exact .start
      | visibility => exact .start
      | discover =>
          have hfound : ((perform .discover).run session).state.document.document =
              session.document.document :=
            document_discover session.page.config.toggle session.document
          rw [hfound]
          exact .start
      | inject => exact MemoryDocument.edited_inject session.page.config _ session.document

/-- A run edits the sections with verdicts and adds the inputs that its replies tell. -/
theorem edited_run (operations : List Operation)
    (session : Session (Unreliable MemoryDocument) Nat) :
    Edited session.page.config (fun id => verdicts id operations session ≠ [])
      session.document.document (Reply.allFields ((run operations).run session).value)
      ((run operations).run session).state.document.document := by
  induction operations generalizing session with
  | nil => exact .start
  | cons operation operations ih =>
      have hrest := ih ((perform operation).run session).state
      rw [config_perform] at hrest
      refine Edited.trans
        ((edited_perform operation session).mono fun id hid => ?_) (hrest.mono fun id hid => ?_)
      · exact verdicts_ne_nil_cons.mpr (Or.inl hid)
      · exact verdicts_ne_nil_cons.mpr (Or.inr hid)

/-- **Nothing else is ever touched**, whatever is done with a page and whatever calls fail.  At the
end of a run, and so at every moment of a longer one, the nodes are those from the start, kept and
in their places, followed by as many inputs with the token as the replies have told; each input is
the child of one node, once; and the cookies are the same. -/
theorem only_edits (operations : List Operation)
    (session : Session (Unreliable MemoryDocument) Nat)
    (closed : session.document.document.Closed) :
    (∃ kept added,
      Framed session.page.config (fun id => verdicts id operations session ≠ [])
        session.document.document ((run operations).run session).state.document.document
        kept added ∧
      added.length = Reply.allFields ((run operations).run session).value) ∧
    (∀ place, session.document.document.nodes.length ≤ place →
      place < ((run operations).run session).state.document.document.nodes.length →
      ((run operations).run session).state.document.document.timesListed place = 1) ∧
    ((run operations).run session).state.document.document.cookies =
      session.document.document.cookies := by
  have edited := edited_run operations session
  refine ⟨edited.framed, ?_, edited.rest_eq.1⟩
  intro place hfirst hlast
  rw [edited.timesListed_eq, closed.timesListed_eq_zero hfirst, if_pos ⟨hfirst, hlast⟩]

/-- A page with a section, its icon, a form that is sent with POST and one that is not.  The first
attempt to add an input fails. -/
def letter : Session (Unreliable MemoryDocument) Nat where
  document :=
    { document :=
        { nodes :=
            [.ofTag "p" [("id", "s")], .ofTag "img" [("id", "sImg")],
              { tag := "form", attributes := Attributes.empty.set "method" "POST",
                children := [0] },
              .ofTag "form" []]
          cookies := some "XSRF-TOKEN=t" }
      faults := fun call => if call = .appendHiddenInput then some ⟨"busy", 0, some 1⟩ else none }
  page := { config := {} }

/-- One input is added by the second and the third attempt each. -/
theorem only_edits_letter :
    letter.document.document.Closed ∧
    ∃ kept added,
      Framed {} (fun id => verdicts id [.init, .toggle "s", .inject, .init] letter ≠ [])
        letter.document.document
        ((run [.init, .toggle "s", .inject, .init]).run letter).state.document.document
        kept added ∧
      added.length = 2 := by
  have closed : letter.document.document.Closed := by
    unfold MemoryDocument.Closed
    decide
  obtain ⟨⟨kept, added, framed, hlength⟩, -⟩ :=
    only_edits [.init, .toggle "s", .inject, .init] letter closed
  have htold : Reply.allFields ((run [.init, .toggle "s", .inject, .init]).run letter).value =
      2 := by
    decide +kernel
  exact ⟨closed, kept, added, framed, hlength.trans htold⟩

end Session

end PageBehaviors
