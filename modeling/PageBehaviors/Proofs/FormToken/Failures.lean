import Mathlib.Data.List.Induction
import PageBehaviors.Proofs.Document.Passes
import PageBehaviors.Proofs.Document.Schedules

/-!
# Giving the token while calls fail

Which forms get the token can be told before any of them is asked: each form is asked for its method
by the next call of that kind, each form that answers with POST is given its input by the next call
of that kind, and a call that fails passes over its form and no other.  What the document is like
afterwards is written down node by node: the forms that got the token have one child more, which is
the last, and the inputs stand behind all other nodes in the order of their forms.

## Main definitions and statements

* `MemoryDocument.withFields` — the nodes of a document some of whose forms were given an input.
* `MemoryDocument.giveFields_eq_withFields` — giving inputs one after the other.
* `Unreliable.cookieValue?`, `Unreliable.told`, `Unreliable.given` — the value of the cookie, the
  forms that answer with POST, and those of them that get the token.
* `Unreliable.run_injectAll` — the forms of a list.
* `Unreliable.run_inject` — all forms of a document.
-/

namespace PageBehaviors

/-! ### Giving inputs one after the other -/

namespace MemoryDocument

variable (document : MemoryDocument) (name value : String)

/-- The document after the nodes of a list were given an input: each of them has one child more, the
last, and the inputs are numbered from the old number of nodes on. -/
def withFields (forms : List Nat) : MemoryDocument :=
  { document with
    nodes := (document.nodes.mapIdx fun place node =>
        if place ∈ forms then node.appendChild (document.nodes.length + forms.idxOf place)
        else node) ++
      List.replicate forms.length (.hiddenInput name value) }

theorem length_withFields (forms : List Nat) :
    (document.withFields name value forms).nodes.length =
      document.nodes.length + forms.length := by
  simp [withFields]

theorem withFields_nil : document.withFields name value [] = document := by
  have hnodes : (document.nodes.mapIdx fun _ node => node) = document.nodes :=
    List.ext_getElem? fun place => by simp
  simp [withFields, hnodes]

/-- One input more: it is numbered after the others, and the nodes before it stay. -/
theorem giveField_withFields {forms : List Nat} {form : Nat} (hlt : form < document.nodes.length)
    (hnew : form ∉ forms) :
    (document.withFields name value forms).giveField name value form =
      document.withFields name value (forms ++ [form]) := by
  have hnodes : (document.nodes.mapIdx fun place node =>
        if place ∈ forms then node.appendChild (document.nodes.length + forms.idxOf place)
        else node).modify form (·.appendChild (document.nodes.length + forms.length)) =
      document.nodes.mapIdx fun place node =>
        if place ∈ forms ++ [form] then
          node.appendChild (document.nodes.length + (forms ++ [form]).idxOf place)
        else node := by
    refine List.ext_getElem? fun place => ?_
    rw [List.getElem?_modify, List.getElem?_mapIdx, List.getElem?_mapIdx]
    by_cases hplace : form = place
    · subst hplace
      have hidx : (forms ++ [form]).idxOf form = forms.length := by
        rw [List.idxOf_append_of_notMem hnew, List.idxOf_cons_self, Nat.add_zero]
      simp [hnew, hidx]
    · have hmem : place ∈ forms ++ [form] ↔ place ∈ forms := by
        simp [Ne.symm hplace]
      cases document.nodes[place]? with
      | none => rfl
      | some node =>
          by_cases hgiven : place ∈ forms
          · simp [hplace, hmem, hgiven, List.idxOf_append_of_mem hgiven]
          · simp [hplace, hmem, hgiven]
  have hlength : (document.withFields name value forms).nodes.length =
      document.nodes.length + forms.length := document.length_withFields name value forms
  have hlt' : form < (document.nodes.mapIdx fun place node =>
      if place ∈ forms then node.appendChild (document.nodes.length + forms.idxOf place)
      else node).length := by
    rwa [List.length_mapIdx]
  rw [giveField, hlength]
  unfold modifyNode add withFields
  congr 1
  rw [List.append_assoc, modify_append_of_lt hlt', hnodes, List.length_append,
    List.length_singleton, List.replicate_succ']

/-- **Giving inputs to different nodes** gives each of them one child. -/
theorem giveFields_eq_withFields {forms : List Nat} (nodup : forms.Nodup)
    (hlt : ∀ form ∈ forms, form < document.nodes.length) :
    document.giveFields name value forms = document.withFields name value forms := by
  induction forms using List.reverseRecOn with
  | nil => exact (document.withFields_nil name value).symm
  | append_singleton forms form ih =>
      obtain ⟨hform, hforms⟩ := List.nodup_cons.mp (List.nodup_append_comm.mp nodup)
      obtain ⟨hothers, hlast⟩ := List.forall_mem_append.mp hlt
      have hbefore := ih hforms hothers
      rw [giveFields] at hbefore ⊢
      rw [List.foldl_concat, hbefore]
      exact document.giveField_withFields name value (hlast form List.mem_cons_self) hform

end MemoryDocument

/-! ### Asking and giving -/

namespace Unreliable

variable (whole : Unreliable MemoryDocument)

/-- The cookie line, if reading it works. -/
def readableCookies? : Option String :=
  if (whole.faults.failure? .cookie).isSome then none else whole.document.cookies

/-- The value of the cookie with the token, if it can be read and there is one. -/
def cookieValue? (config : XsrfConfig) : Option String :=
  whole.readableCookies?.bind fun line => Cookie.value? line config.cookieName

/-- The forms of a list that answer with POST when they are asked for their method in turn. -/
def told (forms : List Nat) : List Nat :=
  (whole.faults.granted .formMethod forms).filter (whole.document.satisfies MemoryNode.isPost)

/-- The forms of a list that get an input: the calls for those that answer with POST, in turn. -/
def given (forms : List Nat) : List Nat :=
  whole.faults.granted .appendHiddenInput (whole.told forms)

theorem run_cookie : ∃ result, (Document.cookie : StateM (Unreliable MemoryDocument) _).run whole =
      (result, ⟨whole.document, whole.faults.next .cookie⟩) ∧
    result.toOption = whole.readableCookies? := by
  show ∃ result, (guarded .cookie Document.cookie).run whole = _ ∧ _
  rw [guarded, readableCookies?]
  cases hfault : whole.faults.failure? .cookie with
  | some message => exact ⟨_, run_attempt_of_some hfault _ _, rfl⟩
  | none =>
      refine ⟨_, ?_, whole.document.toOption_run_cookie⟩
      rw [run_attempt_of_none hfault, whole.document.document_run_cookie]

/-- A form answers with POST if it is sent with POST and the call works. -/
theorem run_formMethod (form : Nat) :
    ∃ method, (Document.formMethod form).run whole =
        (method, ⟨whole.document, whole.faults.next .formMethod⟩) ∧
      Document.isPost method = ((whole.faults.failure? .formMethod).isNone &&
        whole.document.satisfies MemoryNode.isPost form) := by
  show ∃ method, (attempt .formMethod (fun _ => none) (Document.formMethod form)).run whole = _ ∧ _
  cases hfault : whole.faults.failure? .formMethod with
  | some message => exact ⟨_, run_attempt_of_some hfault _ _, rfl⟩
  | none =>
      refine ⟨_, run_attempt_of_none hfault _ _, ?_⟩
      exact whole.document.isPost_formMethod form

theorem run_appendHiddenInput (name value : String) (form : Nat) :
    (Document.appendHiddenInput form name value).run whole =
      match whole.faults.failure? .appendHiddenInput with
      | none => (.ok (), ⟨whole.document.giveField name value form,
          whole.faults.next .appendHiddenInput⟩)
      | some message => (.error (.document message),
          ⟨whole.document, whole.faults.next .appendHiddenInput⟩) := by
  show (guarded .appendHiddenInput (Document.appendHiddenInput form name value)).run whole = _
  rw [guarded]
  cases hfault : whole.faults.failure? .appendHiddenInput with
  | some message => rw [run_attempt_of_some hfault]
  | none =>
      rw [run_attempt_of_none hfault]
      rfl

/-! ### One form after the other -/

variable {whole} {form : Nat}

theorem told_cons (forms : List Nat) :
    whole.told (form :: forms) =
      (if (whole.faults.failure? .formMethod).isNone &&
          whole.document.satisfies MemoryNode.isPost form then [form] else []) ++
        ((whole.faults.next .formMethod).granted .formMethod forms).filter
          (whole.document.satisfies MemoryNode.isPost) := by
  rw [told, Faults.granted_cons, List.filter_append]
  cases (whole.faults.failure? .formMethod).isNone with
  | false => rfl
  | true => simp [List.filter_cons]

/-- A form that does not answer with POST is passed over; only the schedule of such questions has
gone on. -/
theorem given_cons_of_other
    (h : ((whole.faults.failure? .formMethod).isNone &&
      whole.document.satisfies MemoryNode.isPost form) = false) (forms : List Nat) :
    whole.given (form :: forms) =
      given ⟨whole.document, whole.faults.next .formMethod⟩ forms := by
  rw [given, told_cons, h]
  exact (whole.faults.granted_next_ne (by decide) _).symm

/-- A form that answers with POST gets an input if that call works; both schedules have gone on. -/
theorem given_cons_of_post
    (h : ((whole.faults.failure? .formMethod).isNone &&
      whole.document.satisfies MemoryNode.isPost form) = true) (forms : List Nat) :
    whole.given (form :: forms) =
      (if (whole.faults.failure? .appendHiddenInput).isNone then [form] else []) ++
        given ⟨whole.document, (whole.faults.next .formMethod).next .appendHiddenInput⟩ forms := by
  have htold :
      told ⟨whole.document, (whole.faults.next .formMethod).next .appendHiddenInput⟩ forms =
        ((whole.faults.next .formMethod).granted .formMethod forms).filter
          (whole.document.satisfies MemoryNode.isPost) := by
    rw [told, Faults.granted_next_ne _ (by decide)]
  have hgranted (elements : List Nat) :
      ((whole.faults.next .formMethod).next .appendHiddenInput).granted .appendHiddenInput
          elements =
        (whole.faults.next .appendHiddenInput).granted .appendHiddenInput elements := by
    rw [Faults.next_comm]
    exact Faults.granted_next_ne _ (by decide) elements
  rw [given, told_cons, h, if_pos rfl, List.singleton_append, Faults.granted_cons, given, htold,
    hgranted]

/-- Giving a form an input changes nothing about which forms get one. -/
theorem given_giveField (name value : String) (document : MemoryDocument)
    (faults : Faults Call String) (forms : List Nat) :
    given ⟨document.giveField name value form, faults⟩ forms = given ⟨document, faults⟩ forms := by
  have hsame : (document.giveField name value form).satisfies MemoryNode.isPost =
      document.satisfies MemoryNode.isPost :=
    funext fun place => document.satisfies_isPost_giveField name value form place
  rw [given, given, told, told, hsame]

variable (whole)

/-- **The forms of a list**: those get the token for which both calls work, and an input is added
for each of them. -/
theorem run_injectAll (config : XsrfConfig) (token : String) (forms : List Nat) :
    ((FormToken.injectAll config token forms).run whole).value = (whole.given forms).length ∧
      ((FormToken.injectAll config token forms).run whole).state.document =
        whole.document.giveFields config.fieldName token (whole.given forms) := by
  induction forms generalizing whole with
  | nil => exact ⟨rfl, rfl⟩
  | cons form forms ih =>
      have given := FormToken.injectInto_given config token form whole
      obtain ⟨method, hasked, hpost⟩ := whole.run_formMethod form
      -- asking for the method leaves the schedule of the inputs alone
      have hnext : (whole.faults.next .formMethod).failure? .appendHiddenInput =
          whole.faults.failure? .appendHiddenInput :=
        whole.faults.failure?_next_ne (by decide)
      rw [FormToken.run_injectAll_cons]
      generalize (FormToken.injectInto config token form).run whole = outcome at given
      cases given with
      | spared asked other =>
          obtain ⟨rfl, rfl⟩ := Prod.mk.inj (hasked.symm.trans asked)
          obtain ⟨hcount, hgiven⟩ := ih ⟨whole.document, whole.faults.next .formMethod⟩
          rw [given_cons_of_other (hpost.symm.trans other)]
          exact ⟨(Nat.zero_add _).trans hcount, hgiven⟩
      | added asked post appended =>
          obtain ⟨rfl, rfl⟩ := Prod.mk.inj (hasked.symm.trans asked)
          rw [run_appendHiddenInput] at appended
          cases hfault : whole.faults.failure? .appendHiddenInput with
          | none =>
              rw [hnext, hfault] at appended
              obtain ⟨-, rfl⟩ := Prod.mk.inj appended
              obtain ⟨hcount, hgiven⟩ := ih ⟨whole.document.giveField config.fieldName token form,
                (whole.faults.next .formMethod).next .appendHiddenInput⟩
              rw [given_giveField] at hcount hgiven
              rw [given_cons_of_post (hpost.symm.trans post), hfault]
              exact ⟨(congrArg (1 + ·) hcount).trans (Nat.add_comm 1 _), hgiven⟩
          | some message =>
              rw [hnext, hfault] at appended
              cases congrArg Prod.fst appended
      | refused asked post appended =>
          obtain ⟨rfl, rfl⟩ := Prod.mk.inj (hasked.symm.trans asked)
          rw [run_appendHiddenInput] at appended
          cases hfault : whole.faults.failure? .appendHiddenInput with
          | none =>
              rw [hnext, hfault] at appended
              cases congrArg Prod.fst appended
          | some message =>
              rw [hnext, hfault] at appended
              obtain ⟨-, rfl⟩ := Prod.mk.inj appended
              obtain ⟨hcount, hgiven⟩ := ih
                ⟨whole.document, (whole.faults.next .formMethod).next .appendHiddenInput⟩
              rw [given_cons_of_post (hpost.symm.trans post), hfault]
              exact ⟨(Nat.zero_add _).trans hcount, hgiven⟩

/-! ### All forms -/

theorem told_sublist (forms : List Nat) : (whole.told forms).Sublist forms :=
  List.filter_sublist.trans (whole.faults.granted_sublist .formMethod forms)

theorem given_sublist_told (forms : List Nat) : (whole.given forms).Sublist (whole.told forms) :=
  whole.faults.granted_sublist .appendHiddenInput _

/-- The forms of a document are found in their order. -/
theorem pairwise_forms (document : MemoryDocument) :
    (Document.forms document).Pairwise (· < ·) := by
  show (document.places fun node => node.tag == "form").Pairwise (· < ·)
  rw [MemoryDocument.places_eq]
  exact List.pairwise_lt_range.filter _

theorem lt_of_mem_forms {document : MemoryDocument} {form : Nat}
    (h : form ∈ Document.forms document) : form < document.nodes.length := by
  have hplace : form ∈ document.places fun node => node.tag == "form" := h
  rw [MemoryDocument.places_eq] at hplace
  exact List.mem_range.mp (List.mem_filter.mp hplace).1

/-- Reading the cookies makes no difference to which forms get the token. -/
theorem given_next_cookie (forms : List Nat) :
    given ⟨whole.document, whole.faults.next .cookie⟩ forms = whole.given forms := by
  rw [given, given, told, told, Faults.granted_next_ne _ (by decide),
    Faults.granted_next_ne _ (by decide)]

/-- Giving the token of the cookie, as far as it can be read and is not empty. -/
theorem run_inject (config : XsrfConfig) :
    ((whole.cookieValue? config).filter (· != "") = none →
        ((FormToken.inject config).run whole).value = 0 ∧
          ((FormToken.inject config).run whole).state.document = whole.document) ∧
      ∀ token, (whole.cookieValue? config).filter (· != "") = some token →
        ((FormToken.inject config).run whole).value =
            (whole.given (Document.forms whole.document)).length ∧
          ((FormToken.inject config).run whole).state.document =
            whole.document.giveFields config.fieldName token
              (whole.given (Document.forms whole.document)) := by
  have injected := FormToken.inject_injected config whole
  obtain ⟨result, hread, hline⟩ := whole.run_cookie
  generalize (FormToken.inject config).run whole = outcome at injected
  cases injected with
  | unreadable asked =>
      obtain ⟨rfl, rfl⟩ := Prod.mk.inj (hread.symm.trans asked)
      rw [cookieValue?, ← hline]
      exact ⟨fun _ => ⟨rfl, rfl⟩, nofun⟩
  | absent asked missing =>
      obtain ⟨rfl, rfl⟩ := Prod.mk.inj (hread.symm.trans asked)
      rw [cookieValue?, ← hline]
      constructor
      · intro _
        exact ⟨rfl, rfl⟩
      · intro token htoken
        cases missing.symm.trans htoken
  | given asked present run =>
      obtain ⟨rfl, rfl⟩ := Prod.mk.inj (hread.symm.trans asked)
      rw [cookieValue?, ← hline]
      constructor
      · intro hnone
        cases present.symm.trans hnone
      · intro token htoken
        obtain rfl := Option.some.inj (present.symm.trans htoken)
        obtain ⟨hcount, hgiven⟩ := run_injectAll ⟨whole.document, whole.faults.next .cookie⟩
          config _ (Document.forms whole.document)
        rw [given_next_cookie] at hcount hgiven
        rw [run]
        exact ⟨hcount, hgiven⟩

/-- **Giving the token under failures.**  Without a value of the cookie, or with an empty one,
nothing is given and nothing changes.  Otherwise the forms that answer with POST are taken in
document order, and each of them for which adding an input works gets the token in a new input,
which is its last child; the inputs are numbered from the old number of nodes on, nothing else of
the document changes, and the value is their number. -/
theorem inject_exact (config : XsrfConfig) :
    (whole.cookieValue? config = none ∨ whole.cookieValue? config = some "" →
        ((FormToken.inject config).run whole).value = 0 ∧
          ((FormToken.inject config).run whole).state.document = whole.document) ∧
      ∀ token, whole.cookieValue? config = some token → token ≠ "" →
        (whole.told (Document.forms whole.document)).Pairwise (· < ·) ∧
          ((FormToken.inject config).run whole).value =
            (whole.given (Document.forms whole.document)).length ∧
          ((FormToken.inject config).run whole).state.document =
            whole.document.withFields config.fieldName token
              (whole.given (Document.forms whole.document)) := by
  obtain ⟨without, withToken⟩ := whole.run_inject config
  constructor
  · intro hvalue
    apply without
    rcases hvalue with hnone | hempty
    · rw [hnone]
      rfl
    · rw [hempty]
      rfl
  · intro token hvalue hne
    have hsome : (whole.cookieValue? config).filter (· != "") = some token := by
      rw [hvalue, Option.filter_some, if_pos (bne_iff_ne.mpr hne)]
    obtain ⟨hcount, hgiven⟩ := withToken token hsome
    have hsorted := (pairwise_forms whole.document).sublist (whole.told_sublist _)
    have hforms := (whole.given_sublist_told (Document.forms whole.document)).trans
      (whole.told_sublist _)
    refine ⟨hsorted, hcount, ?_⟩
    rw [hgiven]
    apply whole.document.giveFields_eq_withFields
    · exact (hsorted.sublist (whole.given_sublist_told _)).imp fun hlt => Nat.ne_of_lt hlt
    · intro form hform
      exact lt_of_mem_forms (hforms.subset hform)

/-- Four forms, of which the first is sent with GET; the last cannot be asked for its method, and
the first input that is given is refused. -/
def registration : Unreliable MemoryDocument where
  document :=
    { nodes := [.ofTag "form" [], .ofTag "form" [("method", "POST")], .ofTag "p" [],
        .ofTag "form" [("method", "Post")], .ofTag "form" [("method", "post")]]
      cookies := some "lang=de; XSRF-TOKEN=t1" }
  faults
    | .formMethod => some ⟨"no method", 3, some 1⟩
    | .appendHiddenInput => some ⟨"no room", 0, some 1⟩
    | _ => none

/-- Only the third form gets the token. -/
theorem inject_exact_registration :
    ((FormToken.inject {}).run registration).value = 1 ∧
      ((FormToken.inject {}).run registration).state.document.nodes =
        [.ofTag "form" [], .ofTag "form" [("method", "POST")], .ofTag "p" [],
          { MemoryNode.ofTag "form" [("method", "Post")] with children := [5] },
          .ofTag "form" [("method", "post")], .hiddenInput "X-XSRF-TOKEN" "t1"] := by
  have hvalue : registration.cookieValue? {} = some "t1" := by
    decide +kernel
  have hgiven : registration.given (Document.forms registration.document) = [3] := by
    decide +kernel
  obtain ⟨-, hcount, hdocument⟩ := (inject_exact registration {}).2 "t1" hvalue (by decide)
  rw [hcount, hdocument, hgiven]
  exact ⟨rfl, rfl⟩

end Unreliable

end PageBehaviors
