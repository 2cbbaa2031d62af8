import PageBehaviors.Proofs.Document.Passes
import PageBehaviors.Proofs.Document.Reliable
import PageBehaviors.Proofs.Page.Frame

/-!
# Setting a page up again

Where no call fails, a page can be set up any number of times, between clicks and flips of sections:
each time it reports the same and finds the same bindings, and it replaces those it had.  Only the
inputs add up, one for each form that is sent with POST and each time.

The marker must not be an attribute that a page writes itself: the source of icons, or one of the
attributes of an input.

## Main definitions and statements

* `MemoryDocument.initReport`, `Session.run_init` — setting a page up where no call fails.
* `Session.length_childrenAt_run` — how many inputs a run gives.
* `Session.init_repeated` — what setting up again does and does not do.
-/

namespace PageBehaviors

open MemoryDocument (Edited Framed)

namespace MemoryDocument

/-- Whether setting a page up gives the forms a token. -/
def givesToken (config : PageConfig) (document : MemoryDocument) : Bool :=
  config.xsrf.enabled && (document.token? config.xsrf).isSome

/-- What setting a page up reports: how many bindings there are, and how many forms are sent with
POST if these get a token. -/
def initReport (config : PageConfig) (document : MemoryDocument) : InitReport where
  bindings := (document.bindings config.toggle).length
  formsInjected := if document.givesToken config then document.posts.length else 0

section

variable {config : PageConfig} {flipped : String → Prop} {start document : MemoryDocument}
variable {fields : Nat}

theorem Edited.givesToken_eq (h : Edited config flipped start fields document) :
    document.givesToken config = start.givesToken config := by
  rw [givesToken, givesToken, h.token?_eq]

theorem Edited.initReport_eq (h : Edited config flipped start fields document)
    (marker : config.toggle.marker ∉ ["src", "type", "name", "value"]) :
    document.initReport config = start.initReport config := by
  rw [initReport, initReport, h.bindings_eq marker, h.givesToken_eq, h.posts_eq]

end

end MemoryDocument

namespace Session

/-! ### One operation -/

/-- **Setting a page up** where no call fails. -/
theorem run_init (page : Page Nat) (document : MemoryDocument) :
    (page.init.run document).value =
        ({ page with bindings := document.bindings page.config.toggle },
          document.initReport page.config) ∧
      (page.init.run document).state =
        if page.config.xsrf.enabled then document.injected page.config.xsrf else document := by
  obtain ⟨hfound, hkept⟩ := document.run_discover page.config.toggle
  obtain ⟨hcount, hgiven⟩ := document.run_inject page.config.xsrf
  cases henabled : page.config.xsrf.enabled with
  | true =>
      have hinject : (page.injectToken : Action MemoryDocument Nat) =
          FormToken.inject page.config.xsrf := by
        rw [Page.injectToken, henabled]
        rfl
      simp [Page.init, MemoryDocument.initReport, MemoryDocument.givesToken, hfound, hkept,
        hinject, hcount, hgiven, henabled]
  | false =>
      have hinject : (page.injectToken : Action MemoryDocument Nat) = pure 0 := by
        rw [Page.injectToken, henabled]
        rfl
      simp [Page.init, MemoryDocument.initReport, MemoryDocument.givesToken, hfound, hkept,
        hinject, henabled]

variable (operation : Operation) (session : Session MemoryDocument Nat)

theorem value_perform_init :
    ((perform .init).run session).value =
      .report (session.document.initReport session.page.config) :=
  congrArg (fun told : Page Nat × InitReport => Reply.report told.2)
    (run_init session.page session.document).1

theorem bindings_perform_init :
    ((perform .init).run session).state.page.bindings =
      session.document.bindings session.page.config.toggle :=
  congrArg (fun told : Page Nat × InitReport => told.1.bindings)
    (run_init session.page session.document).1

theorem page_perform_of_ne {D E : Type} [Document D E] {operation : Operation}
    (h : operation ≠ .init) (session : Session D E) :
    ((perform operation).run session).state.page = session.page := by
  cases operation with
  | init => exact absurd rfl h
  | bindings => rfl
  | click => rfl
  | toggle => rfl
  | visibility => rfl
  | discover => rfl
  | inject => rfl

/-- The edits of an operation where no call fails. -/
theorem edited_perform_of_reliable :
    Edited session.page.config (fun _ => True) session.document
      ((perform operation).run session).value.fields
      ((perform operation).run session).state.document := by
  have edited := edited_perform operation session.reliable
  rw [reliable_perform] at edited
  exact edited.mono fun _ _ => trivial

/-- Setting a page up gives each form that is sent with POST one child, if there is a token, and no
other use of a page gives one. -/
theorem length_childrenAt_perform {operation : Operation} (h : operation ≠ .inject) (place : Nat) :
    (((perform operation).run session).state.document.childrenAt place).length =
      (session.document.childrenAt place).length +
        if operation = .init ∧ session.document.givesToken session.page.config = true ∧
          session.document.satisfies MemoryNode.isPost place = true then 1 else 0 := by
  by_cases hinit : operation = .init
  · subst hinit
    have hstate : ((perform .init).run session).state.document = _ :=
      (run_init session.page session.document).2
    rw [hstate, MemoryDocument.givesToken]
    cases session.page.config.xsrf.enabled with
    | false => simp
    | true =>
        rw [if_pos rfl, MemoryDocument.length_childrenAt_injected]
        simp
  · have hfields : ((perform operation).run session).value.fields = 0 := by
      cases operation with
      | init => exact absurd rfl hinit
      | inject => exact absurd rfl h
      | bindings => rfl
      | click => rfl
      | toggle => rfl
      | visibility => rfl
      | discover => rfl
    have edited := edited_perform_of_reliable operation session
    rw [hfields] at edited
    rw [edited.childrenAt_eq, if_neg fun hand => hinit hand.1, Nat.add_zero]

/-! ### Whole runs -/

variable (operations : List Operation)

theorem edited_run_of_reliable :
    Edited session.page.config (fun _ => True) session.document
      (Reply.allFields ((run operations).run session).value)
      ((run operations).run session).state.document := by
  induction operations generalizing session with
  | nil => exact .start
  | cons operation operations ih =>
      have hrest := ih ((perform operation).run session).state
      rw [config_perform] at hrest
      exact (edited_perform_of_reliable operation session).trans hrest

variable {operations} {session}

/-- Each time a page is set up, it reports the same. -/
theorem report_of_mem_run (marker : session.page.config.toggle.marker ∉
      ["src", "type", "name", "value"]) {told : Operation × Reply Nat}
    (h : told ∈ operations.zip ((run operations).run session).value) (hinit : told.1 = .init) :
    told.2 = .report (session.document.initReport session.page.config) := by
  induction operations generalizing session with
  | nil => cases h
  | cons operation operations ih =>
      have hzip : told = (operation, ((perform operation).run session).value) ∨
          told ∈ operations.zip
            ((run operations).run ((perform operation).run session).state).value := by
        simpa [run] using h
      rcases hzip with rfl | hrest
      -- the first operation meets the document from the start, the others an edited one
      · obtain rfl : operation = .init := hinit
        exact value_perform_init session
      · have hconfig := config_perform operation session
        have hsame := (edited_perform_of_reliable operation session).initReport_eq marker
        have htold := ih (by rw [hconfig]; exact marker) hrest
        rw [hconfig, hsame] at htold
        exact htold

/-- A page that was set up has the bindings that were there from the start. -/
theorem bindings_run (marker : session.page.config.toggle.marker ∉
      ["src", "type", "name", "value"])
    (h : .init ∈ operations ∨
      session.page.bindings = session.document.bindings session.page.config.toggle) :
    ((run operations).run session).state.page.bindings =
      session.document.bindings session.page.config.toggle := by
  induction operations generalizing session with
  | nil => exact h.resolve_left List.not_mem_nil
  | cons operation operations ih =>
      have hconfig := config_perform operation session
      have hsame := (edited_perform_of_reliable operation session).bindings_eq marker
      rw [← hsame, ← hconfig]
      refine ih (by rw [hconfig]; exact marker) ?_
      rw [hconfig, hsame]
      by_cases hinit : operation = .init
      · subst hinit
        exact Or.inr (bindings_perform_init session)
      -- any other operation leaves the page alone
      · rw [page_perform_of_ne hinit]
        exact h.imp_left fun hmem => (List.mem_cons.mp hmem).resolve_left (Ne.symm hinit)

/-- How many children a run gives: one to each form that is sent with POST each time the page is set
up, if there is a token. -/
theorem length_childrenAt_run (h : .inject ∉ operations) (place : Nat) :
    (((run operations).run session).state.document.childrenAt place).length =
      (session.document.childrenAt place).length +
        if session.document.givesToken session.page.config = true ∧
          session.document.satisfies MemoryNode.isPost place = true then operations.count .init
        else 0 := by
  induction operations generalizing session with
  | nil => simp [run]
  | cons operation operations ih =>
      have hfirst : operation ≠ .inject := fun heq => h (heq ▸ List.mem_cons_self)
      have hrest : .inject ∉ operations := fun hmem => h (List.mem_cons_of_mem _ hmem)
      have edited := edited_perform_of_reliable operation session
      have hrun : (((run operations).run
          ((perform operation).run session).state).state.document.childrenAt place).length = _ :=
        ih hrest
      rw [config_perform, edited.givesToken_eq, edited.satisfies_isPost_eq,
        length_childrenAt_perform session hfirst] at hrun
      refine hrun.trans ?_
      rw [List.count_cons]
      by_cases hinit : operation = .init
      · simp only [hinit, true_and, beq_self_eq_true, if_true]
        split_ifs <;> omega
      · simp only [hinit, false_and, beq_iff_eq, if_false, Nat.add_zero]

/-- **Setting a page up again**, where no call fails, between uses of the page: each time it reports
the same, and it has the bindings that finding them at any moment gives.  Each form that is sent
with POST has been given one input with the token each time, if there is one, at the end of its
children; no other node has been given a child. -/
theorem init_repeated (operations : List Operation) (session : Session MemoryDocument Nat)
    (marker : session.page.config.toggle.marker ∉ ["src", "type", "name", "value"])
    (uses : .inject ∉ operations) :
    (∀ told ∈ operations.zip ((run operations).run session).value, told.1 = .init →
      told.2 = .report (session.document.initReport session.page.config)) ∧
    (.init ∈ operations → ((run operations).run session).state.page.bindings =
      session.document.bindings session.page.config.toggle) ∧
    ((Section.discover session.page.config.toggle).run
        ((run operations).run session).state.document).value =
      session.document.bindings session.page.config.toggle ∧
    (∀ (place : Nat) before, session.document.nodes[place]? = some before →
      ∃ after fields, ((run operations).run session).state.document.nodes[place]? = some after ∧
        after.children = before.children ++ fields ∧
        fields.length =
          (if session.document.givesToken session.page.config ∧ before.isPost then
            operations.count .init
          else 0) ∧
        ∀ field ∈ fields, ∃ token,
          session.document.token? session.page.config.xsrf = some token ∧
          ((run operations).run session).state.document.nodes[field]? =
            some (.hiddenInput session.page.config.xsrf.fieldName token)) ∧
    ∀ (place : Nat) after, session.document.nodes.length ≤ place →
      ((run operations).run session).state.document.nodes[place]? = some after →
      after.children = [] := by
  have edited := edited_run_of_reliable session operations
  obtain ⟨kept, added, framed, -⟩ := edited.framed
  refine ⟨?_, ?_, ?_, ?_, ?_⟩
  · intro told htold hinit
    exact report_of_mem_run marker htold hinit
  · intro hinit
    exact bindings_run marker (Or.inl hinit)
  · rw [(MemoryDocument.run_discover _ _).1, edited.bindings_eq marker]
  · intro place before hbefore
    -- which nodes were added is told by the edits, and how many by the run
    obtain ⟨after, hafter, keeps⟩ := framed.exists_kept hbefore
    obtain ⟨fields, hchildren, hbounds, -⟩ := keeps.children
    have hcount : (((run operations).run session).state.document.childrenAt place).length = _ :=
      length_childrenAt_run uses place
    simp only [MemoryDocument.childrenAt, MemoryDocument.viewAt, MemoryDocument.satisfies, hafter,
      hbefore, Option.elim_some, Option.any_some, hchildren, List.length_append] at hcount
    refine ⟨after, fields, hafter, hchildren, by omega, ?_⟩
    intro field hfield
    obtain ⟨hfirst, hlast⟩ := hbounds field hfield
    have hnode := List.getElem?_eq_getElem hlast
    obtain ⟨token, htoken, hinput⟩ := framed.exists_token hnode hfirst
    exact ⟨token, htoken, hinput ▸ hnode⟩
  · intro place after hplace hafter
    obtain ⟨token, -, rfl⟩ := framed.exists_token hafter hplace
    rfl

/-- A trigger, its section, and a form that is sent with POST and has a child. -/
def notice : Session MemoryDocument Nat where
  document :=
    { nodes :=
        [.ofTag "a" [("showHide", "s")], .ofTag "p" [("id", "s")],
          { tag := "form", attributes := Attributes.empty.set "method" "Post", children := [1] }]
      cookies := some "XSRF-TOKEN=t" }
  page := { config := {} }

/-- The form is given two inputs, after its own child, and the trigger is bound once. -/
theorem init_repeated_notice :
    notice.page.config.toggle.marker ∉ ["src", "type", "name", "value"] ∧
    .inject ∉ [Operation.init, .click 0, .init] ∧
    ((run [.init, .click 0, .init]).run notice).state.page.bindings = [⟨0, "s", "sImg"⟩] ∧
    ∃ after fields, ((run [.init, .click 0, .init]).run notice).state.document.nodes[2]? =
        some after ∧ after.children = 1 :: fields ∧ fields.length = 2 := by
  have marker : notice.page.config.toggle.marker ∉ ["src", "type", "name", "value"] := by decide
  have uses : .inject ∉ [Operation.init, .click 0, .init] := by decide
  obtain ⟨-, hbindings, -, hnodes, -⟩ := init_repeated [.init, .click 0, .init] notice marker uses
  obtain ⟨after, fields, hafter, hchildren, hlength, -⟩ := hnodes 2 _ rfl
  have hbound : notice.document.bindings notice.page.config.toggle = [⟨0, "s", "sImg"⟩] := by
    decide +kernel
  have hgiven : notice.document.givesToken notice.page.config = true := by decide +kernel
  refine ⟨marker, uses, (hbindings (by decide)).trans hbound, after, fields, hafter, hchildren, ?_⟩
  rw [hlength, hgiven]
  decide +kernel

end Session

end PageBehaviors
