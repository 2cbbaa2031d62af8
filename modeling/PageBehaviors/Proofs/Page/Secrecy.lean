import PageBehaviors.Proofs.Document.Veil

/-!
# The token is not told

Two runs of a page differ in nothing but the cookies: they set the page up and then use it, and
either both cookie lines have a token or neither has.  Then nothing that can be seen of the runs
depends on the cookies but the value of the inputs that were added: not the replies, not the log at
any level, not the bindings and not the other nodes, whatever calls fail.

Triggers are found before there are inputs.  If the marker is the attribute that holds the token, a
second look for triggers would tell the token, so only the uses of a page may follow.

## Main statements

* `Session.inject_veiled`, `Session.init_veiled` — setting the page up.
* `Session.token_untold` — a run.
-/

namespace PageBehaviors

open PageBehaviors.Action (Alike CallsAgree)
open MemoryDocument (Veiled tokenFields)
open Unreliable (Lifted)

namespace Session

section

variable {config : XsrfConfig} {cookies cookies' : String} {known : Nat}

/-- Both documents fail to tell their cookies, or each tells its own. -/
theorem cookie_veiled :
    CallsAgree
      (Lifted fun first second => ∃ count, Veiled config cookies cookies' known count first second)
      (fun answer other => (∃ error, answer = .error error ∧ other = .error error) ∨
        answer = .ok cookies ∧ other = .ok cookies')
      (Document.cookie : StateM (Unreliable MemoryDocument) _) Document.cookie := by
  refine Unreliable.attempt_agree .cookie (fun message => Or.inl ⟨_, rfl, rfl⟩) ?_
  rintro ⟨nodes, line, readOnly⟩ ⟨nodes', line', readOnly'⟩ ⟨count, veiled⟩
  obtain rfl : line = some cookies := veiled.cookies
  obtain rfl : line' = some cookies' := veiled.cookies'
  exact ⟨Or.inr ⟨rfl, rfl⟩, count, veiled⟩

/-- **Giving the token** does not tell it. -/
theorem inject_veiled (same : (FormToken.token? config cookies).isSome =
    (FormToken.token? config cookies').isSome) :
    Alike
      (Lifted fun first second => ∃ count, Veiled config cookies cookies' known count first second)
      Eq (FormToken.inject config : Action (Unreliable MemoryDocument) Nat)
      (FormToken.inject config) := by
  refine (Alike.call cookie_veiled).bind fun answer other agree => ?_
  rcases agree with ⟨error, rfl, rfl⟩ | ⟨rfl, rfl⟩
  · exact (Alike.log _ _).bind_eq fun _ => Alike.pure rfl
  · cases htoken : FormToken.token? config cookies with
    | none =>
        have htoken' : FormToken.token? config cookies' = none := by
          simpa [htoken] using same.symm
        simp only [htoken, htoken']
        exact (Alike.log _ _).bind_eq fun _ => Alike.pure rfl
    | some token =>
        -- the two tokens are not related in any way
        obtain ⟨token', htoken'⟩ : ∃ token', FormToken.token? config cookies' = some token' := by
          rw [htoken] at same
          exact Option.isSome_iff_exists.mp same.symm
        have sim := (Veiled.tokens htoken htoken' known).lifted
        simp only [htoken, htoken']
        refine sim.readForms.bind ?_
        rintro forms _ ⟨rfl, hknown⟩
        refine (sim.injectAll hknown).bind_eq fun count => ?_
        exact (Alike.log _ _).bind_eq fun _ => Alike.pure rfl

end

/-- **Setting a page up** does not tell the token: triggers are found before there are inputs. -/
theorem init_veiled {page : Page Nat} {cookies cookies' : String} {known : Nat}
    (same : (FormToken.token? page.config.xsrf cookies).isSome =
      (FormToken.token? page.config.xsrf cookies').isSome)
    {whole other : Unreliable MemoryDocument}
    (related : Lifted (Veiled page.config.xsrf cookies cookies' known 0) whole other) :
    (page.init.run whole).entries = (page.init.run other).entries ∧
      (page.init.run whole).value = (page.init.run other).value ∧
      Lifted (fun first second =>
          ∃ count, Veiled page.config.xsrf cookies cookies' known count first second)
        (page.init.run whole).state (page.init.run other).state := by
  have sim := (Veiled.triggers page.config cookies cookies' known).lifted
  -- the relation is loosened here: from now on there may be inputs
  refine Alike.bind_mono (fun _ _ related => ⟨⟨0, related.document⟩, related.faults⟩) sim.discover
    ?_ whole other related
  rintro bindings _ rfl
  refine Alike.bind_eq ?_ fun count => (Alike.log _ _).bind_eq fun _ => Alike.pure rfl
  unfold Page.injectToken
  split
  · exact inject_veiled same
  · exact Alike.pure rfl

/-- The same session with another cookie line. -/
def withCookies (cookies : String) (session : Session (Unreliable MemoryDocument) Nat) :
    Session (Unreliable MemoryDocument) Nat :=
  { session with
    document := { session.document with
      document := { session.document.document with cookies := some cookies } } }

/-- The two sessions, once they are set up, are told apart by no use. -/
theorem perform_init_veiled (session : Session (Unreliable MemoryDocument) Nat)
    {cookies cookies' : String}
    (same : (FormToken.token? session.page.config.xsrf cookies).isSome =
      (FormToken.token? session.page.config.xsrf cookies').isSome) :
    ((perform .init).run (session.withCookies cookies)).entries =
        ((perform .init).run (session.withCookies cookies')).entries ∧
      ((perform .init).run (session.withCookies cookies)).value =
        ((perform .init).run (session.withCookies cookies')).value ∧
      ∃ count, Agree session.page.config
        (Lifted (Veiled session.page.config.xsrf cookies cookies'
          session.document.document.nodes.length count))
        ((perform .init).run (session.withCookies cookies)).state
        ((perform .init).run (session.withCookies cookies')).state := by
  have related : Lifted (Veiled session.page.config.xsrf cookies cookies'
      session.document.document.nodes.length 0) (session.withCookies cookies).document
      (session.withCookies cookies').document := by
    refine ⟨⟨⟨session.document.document.nodes, rfl, ?_, ?_⟩, rfl, rfl, rfl⟩, rfl⟩
    · rw [MemoryDocument.tokenFields_zero, List.append_nil]
      rfl
    · rw [MemoryDocument.tokenFields_zero, List.append_nil]
      rfl
  obtain ⟨hlines, htold, ⟨count, veiled⟩, hfaults⟩ := init_veiled same related
  rw [run_perform_init, run_perform_init]
  exact ⟨hlines, congrArg (fun told => Reply.report told.2) htold, count,
    ⟨⟨veiled, hfaults⟩, congrArg Prod.fst htold, rfl⟩⟩

/-- **The token is not told.**  Two runs that set a page up and then use it, and differ by their
cookies only, give the same replies and write the same lines, whatever calls fail, as long as either
both cookie lines have a token or neither has.  In the end they have the same bindings, and their
documents are the same but for the tokens of the inputs that were added; if there is no token, the
nodes are the same. -/
theorem token_untold (uses : List Operation) (session : Session (Unreliable MemoryDocument) Nat)
    (cookies cookies' : String) (huses : ∀ use ∈ uses, use.isUse = true)
    (same : (FormToken.token? session.page.config.xsrf cookies).isSome =
      (FormToken.token? session.page.config.xsrf cookies').isSome) :
    let first := (run (.init :: uses)).run (session.withCookies cookies)
    let second := (run (.init :: uses)).run (session.withCookies cookies')
    first.value = second.value ∧ first.entries = second.entries ∧
      first.state.page = second.state.page ∧
      (∃ count, Veiled session.page.config.xsrf cookies cookies'
        session.document.document.nodes.length count first.state.document.document
        second.state.document.document) ∧
      (FormToken.token? session.page.config.xsrf cookies = none →
        first.state.document.document.nodes = second.state.document.document.nodes) := by
  intro first second
  obtain ⟨hlines, htold, count, agree⟩ := perform_init_veiled session same
  have sim := (Veiled.sections session.page.config cookies cookies'
    session.document.document.nodes.length count).lifted
  obtain ⟨hrest, hreplies, hend⟩ := sim.run huses _ _ agree
  have hfirst : first = _ := run_cons .init uses (session.withCookies cookies)
  have hsecond : second = _ := run_cons .init uses (session.withCookies cookies')
  rw [hfirst, hsecond]
  refine ⟨?_, ?_, hend.page, ⟨count, hend.document.document⟩, ?_⟩
  · show _ :: _ = _ :: _
    rw [htold, hreplies]
  · show _ ++ _ = _ ++ _
    rw [hlines, hrest]
  · intro hnone
    have hnone' : FormToken.token? session.page.config.xsrf cookies' = none := by
      simpa [hnone] using same.symm
    obtain ⟨common, -, hnodes, hnodes'⟩ := hend.document.document.nodes
    refine hnodes.trans (Eq.trans ?_ hnodes'.symm)
    rw [tokenFields, tokenFields, hnone, hnone']

/-- A section and a form that is sent with POST.  The marker is the attribute that will hold the
token. -/
def ticket : Session (Unreliable MemoryDocument) Nat where
  document := .reliable { nodes := [.ofTag "p" [("id", "s")], .ofTag "form" [("method", "post")]] }
  page := { config := { toggle := { marker := "value" } } }

/-- The two documents differ, but the two logs do not. -/
theorem token_untold_ticket :
    (∀ use ∈ [Operation.toggle "s", .visibility "s"], use.isUse = true) ∧
    (FormToken.token? ticket.page.config.xsrf "XSRF-TOKEN=a").isSome =
      (FormToken.token? ticket.page.config.xsrf "XSRF-TOKEN=b").isSome ∧
    ((run [.init, .toggle "s", .visibility "s"]).run (ticket.withCookies "XSRF-TOKEN=a")).entries =
      ((run [.init, .toggle "s", .visibility "s"]).run
        (ticket.withCookies "XSRF-TOKEN=b")).entries ∧
    ((run [.init, .toggle "s", .visibility "s"]).run
        (ticket.withCookies "XSRF-TOKEN=a")).state.document.document.nodes ≠
      ((run [.init, .toggle "s", .visibility "s"]).run
        (ticket.withCookies "XSRF-TOKEN=b")).state.document.document.nodes := by
  have huses : ∀ use ∈ [Operation.toggle "s", .visibility "s"], use.isUse = true := by decide
  have same : (FormToken.token? ticket.page.config.xsrf "XSRF-TOKEN=a").isSome =
      (FormToken.token? ticket.page.config.xsrf "XSRF-TOKEN=b").isSome := by
    decide +kernel
  obtain ⟨-, hlines, -⟩ := token_untold [.toggle "s", .visibility "s"] ticket "XSRF-TOKEN=a"
    "XSRF-TOKEN=b" huses same
  exact ⟨huses, same, hlines, by decide +kernel⟩

end Session

end PageBehaviors
