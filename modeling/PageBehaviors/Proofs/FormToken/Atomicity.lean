import PageBehaviors.Proofs.Browser.Fields
import PageBehaviors.Proofs.Browser.Interchange
import PageBehaviors.Proofs.FormToken.Injection

/-!
# No half-built field

However many calls fail while the forms of a browser's document are given the token, the document
gets finished inputs only.  One attempt is made for each form that is sent with POST, in document
order; an attempt that succeeds adds one input as the last child of its form, and one that fails
leaves the document as it was and writes one warning.  An input whose attempt failed stays outside
the document for good.

## Main definitions and statements

* `Browser.Element.isPost` — the forms that get the token.
* `Browser.LiveDocument.attempts` — the attempts for the forms of a list, told by the schedules.
* `Browser.Tree.Gains` — what a tree gains by attempts, with `Gains.of_leaves` for one attempt and
  `Gains.trans` for sequencing.
* `Browser.LiveDocument.run_injectAll_attempts` — the forms of a list.
* `Browser.LiveDocument.inject_attaches_finished` — all forms of a document.
-/

namespace PageBehaviors.Browser

open FormToken (injectInto injectAll inject)

/-! ### Forms that are sent with POST -/

/-- Whether an element is a form of HTML whose method is written as POST, in small or capital
letters. -/
def Element.isPost (element : Element) : Bool :=
  element.isForm && !element.svg && (element.get? "method").any (Text.sameIgnoringCase "post")

theorem Element.isPost_method? (element : Element) :
    Document.isPost element.method? = element.isPost := by
  by_cases hform : element.isForm = true ∧ element.svg = false
  · rw [method?, if_pos hform, isPost, hform.1, hform.2]
    cases element.get? "method" with
    | none => decide +kernel
    | some text => exact isPost_normalized text
  · rw [method?, if_neg hform, isPost]
    have hnot : (element.isForm && !element.svg) = false := by
      rw [Bool.eq_false_iff]
      intro h
      exact hform (by simpa using h)
    rw [hnot]
    rfl

/-! ### Attempts one after the other -/

namespace Attempt

/-- The number that the next element gets after an attempt in a tree of a given size. -/
def sizeAfter (size : Nat) (attempt : Attempt) : Nat :=
  (attempt.created?.map (· + 1)).getD size

/-- The line that reports a failure. -/
def warning? (fieldName : String) : Attempt → Option Log.Entry
  | added _ => none
  | failed _ thrown =>
    some ⟨.warn, "xsrf: cannot add " ++ fieldName ++ " field: " ++ thrown.toPageError.message⟩

/-- The inputs that were attached, in their order. -/
def inputs (attempts : List (Nat × Attempt)) : List Nat :=
  attempts.filterMap fun entry => entry.2.input?

/-- The inputs that were attached to a node, in their order. -/
def inputsUnder (parent : Option Nat) (attempts : List (Nat × Attempt)) : List Nat :=
  attempts.filterMap fun entry => if parent = some entry.1 then entry.2.input? else none

theorem inputs_cons (form : Nat) (attempt : Attempt) (attempts : List (Nat × Attempt)) :
    inputs ((form, attempt) :: attempts) = attempt.input?.toList ++ inputs attempts := by
  cases attempt with
  | added => rfl
  | failed => rfl

@[simp] theorem inputs_singleton (form : Nat) (attempt : Attempt) :
    inputs [(form, attempt)] = attempt.input?.toList :=
  (inputs_cons form attempt []).trans (List.append_nil _)

@[simp] theorem inputsUnder_singleton (parent : Option Nat) (form : Nat) (attempt : Attempt) :
    inputsUnder parent [(form, attempt)] =
      if parent = some form then attempt.input?.toList else [] := by
  rw [inputsUnder, List.filterMap_cons, List.filterMap_nil]
  by_cases h : parent = some form
  · rw [if_pos h, if_pos h]
    exact inputs_singleton form attempt
  · rw [if_neg h, if_neg h]

theorem mem_inputs {attempts : List (Nat × Attempt)} {n : Nat} :
    n ∈ inputs attempts ↔ ∃ form, (form, .added n) ∈ attempts := by
  rw [inputs, List.mem_filterMap]
  constructor
  · rintro ⟨⟨form, attempt⟩, hmem, hinput⟩
    cases attempt with
    | added input =>
        cases hinput
        exact ⟨form, hmem⟩
    | failed left thrown => cases hinput
  · rintro ⟨form, hmem⟩
    exact ⟨_, hmem, rfl⟩

/-- Of attempts for different forms, one at most attaches an input to a node. -/
theorem inputsUnder_of_mem {attempts : List (Nat × Attempt)}
    (hnodup : (attempts.map Prod.fst).Nodup) {form : Nat} {attempt : Attempt}
    (hmem : (form, attempt) ∈ attempts) :
    inputsUnder (some form) attempts = attempt.input?.toList := by
  induction attempts with
  | nil => cases hmem
  | cons entry attempts ih =>
      obtain ⟨hfirst, hothers⟩ := List.nodup_cons.mp hnodup
      rw [inputsUnder, List.filterMap_cons]
      rcases List.mem_cons.mp hmem with heq | hmem
      · obtain rfl := heq
        have hnone : inputsUnder (some form) attempts = [] := by
          refine List.filterMap_eq_nil_iff.mpr ?_
          intro other hother
          refine if_neg ?_
          intro h
          exact hfirst (List.mem_map.mpr ⟨other, hother, (Option.some.inj h).symm⟩)
        rw [inputsUnder] at hnone
        rw [if_pos rfl, hnone]
        cases attempt.input? with
        | none => rfl
        | some input => rfl
      · have hne : ¬ some form = some entry.1 := by
          intro h
          exact hfirst (List.mem_map.mpr ⟨_, hmem, Option.some.inj h⟩)
        rw [if_neg hne]
        exact ih hothers hmem

end Attempt

open Attempt (inputs inputsUnder)

/-! ### What a tree gains -/

namespace Tree

/-- What a tree gains by attempts to give forms an input, where the finished inputs are all
alike. -/
structure Gains (finished : Element) (before after : Tree) (attempts : List (Nat × Attempt)) :
    Prop where
  /-- The elements from before are as they were. -/
  kept : before.elements <+: after.elements
  /-- The new elements are those of the attempts, in their order. -/
  created : attempts.filterMap (fun entry => entry.2.created?) =
    List.range' before.size (after.size - before.size)
  /-- An input that was attached is finished. -/
  finished : ∀ form input, (form, .added input) ∈ attempts →
    after.elements[input]? = some finished
  /-- Every node keeps its children, and those that were given an input have it at the end. -/
  children : ∀ parent, after.forest.childrenOf parent =
    before.forest.childrenOf parent ++ inputsUnder parent attempts
  /-- In the document are the nodes from before and the inputs that were attached. -/
  attached : after.forest.preorder.Perm (before.forest.preorder ++ inputs attempts)
  /-- An input whose attempt failed is outside the document. -/
  outside : ∀ form input thrown, (form, .failed (some input) thrown) ∈ attempts →
    input ∉ after.forest.preorder

namespace Gains

variable {finished : Element} {before middle after : Tree} {attempts others : List (Nat × Attempt)}

theorem refl (finished : Element) (tree : Tree) : Gains finished tree tree [] where
  kept := List.prefix_rfl
  created := by
    rw [Nat.sub_self]
    rfl
  finished _ _ h := by cases h
  children _ := (List.append_nil _).symm
  attached := by
    show List.Perm _ (_ ++ [])
    rw [List.append_nil]
  outside _ _ _ h := by cases h

theorem size_le (gains : Gains finished before after attempts) : before.size ≤ after.size :=
  gains.kept.length_le

/-- The numbers of the inputs that were created. -/
theorem bounds (gains : Gains finished before after attempts) {form n : Nat} {attempt : Attempt}
    (hmem : (form, attempt) ∈ attempts) (hcreated : attempt.created? = some n) :
    before.size ≤ n ∧ n < after.size := by
  have hn : n ∈ attempts.filterMap fun entry => entry.2.created? :=
    List.mem_filterMap.mpr ⟨_, hmem, hcreated⟩
  rw [gains.created, List.mem_range'_1] at hn
  have hle := gains.size_le
  omega

theorem getElem?_eq (gains : Gains finished before after attempts) {n : Nat} (h : n < before.size) :
    after.elements[n]? = before.elements[n]? := by
  obtain ⟨rest, hrest⟩ := gains.kept
  rw [← hrest, List.getElem?_append_left h]

/-- Tests of elements from before have the same result. -/
theorem satisfies_eq (gains : Gains finished before after attempts) (test : Element → Bool)
    {n : Nat} (h : n < before.size) : after.satisfies test n = before.satisfies test n := by
  rw [satisfies, satisfies, gains.getElem?_eq h]

theorem filter_satisfies_eq (gains : Gains finished before after attempts) (test : Element → Bool)
    {nodes : List Nat} (h : ∀ n ∈ nodes, n < before.size) :
    nodes.filter (after.satisfies test) = nodes.filter (before.satisfies test) := by
  apply List.filter_congr
  intro n hn
  exact gains.satisfies_eq test (h n hn)

/-- A node from before is still in the document. -/
theorem mem_preorder (gains : Gains finished before after attempts) {n : Nat}
    (h : n ∈ before.forest.preorder) : n ∈ after.forest.preorder :=
  gains.attached.mem_iff.mpr (List.mem_append_left _ h)

/-- Attempts after other attempts. -/
theorem trans (first : Gains finished before middle attempts)
    (second : Gains finished middle after others) :
    Gains finished before after (attempts ++ others) where
  kept := first.kept.trans second.kept
  created := by
    have hfirst := first.size_le
    have hsecond := second.size_le
    have hmiddle : middle.size = before.size + (middle.size - before.size) := by omega
    have hsum : middle.size - before.size + (after.size - middle.size) =
        after.size - before.size := by omega
    rw [List.filterMap_append, first.created, second.created, ← hsum, ← List.range'_append_1,
      ← hmiddle]
  finished form input hmem := by
    rcases List.mem_append.mp hmem with hmem | hmem
    · rw [second.getElem?_eq (first.bounds hmem rfl).2]
      exact first.finished form input hmem
    · exact second.finished form input hmem
  children parent := by
    rw [second.children, first.children, List.append_assoc, inputsUnder, inputsUnder, inputsUnder,
      List.filterMap_append]
  attached := by
    rw [inputs, List.filterMap_append, ← List.append_assoc]
    exact second.attached.trans (first.attached.append_right _)
  outside form input thrown hmem := by
    rcases List.mem_append.mp hmem with hmem | hmem
    · rw [second.attached.mem_iff, List.mem_append, not_or, Attempt.mem_inputs]
      refine ⟨first.outside form input thrown hmem, ?_⟩
      -- the inputs of later attempts have greater numbers
      rintro ⟨other, hother⟩
      have hfirst := (first.bounds hmem rfl).2
      have hsecond := (second.bounds hother rfl).1
      omega
    · exact second.outside form input thrown hmem

/-- **One attempt** for a form in the document. -/
theorem of_leaves {form : Nat} {attempt : Attempt}
    (h : attempt.Leaves form finished before after) (hform : form ∈ before.forest.preorder) :
    Gains finished before after [(form, attempt)] := by
  cases h with
  | refused thrown =>
      constructor
      · exact List.prefix_rfl
      · simp [Attempt.created?]
      · simp
      · simp [Attempt.input?]
      · simp [Attempt.input?]
      · simp
  | left thrown unfinished =>
      constructor
      · exact List.prefix_append _ _
      · simp [Attempt.created?, create, size]
      · simp
      · simp [Attempt.input?, create]
      · simp [Attempt.input?, create]
      · intro other input reason hmem
        simp only [List.mem_singleton, Prod.mk.injEq, Attempt.failed.injEq, Option.some.injEq]
          at hmem
        obtain ⟨-, rfl, -⟩ := hmem
        exact before.size_notMem_preorder
  | added =>
      have hparent : ∀ p, some form = some p → p ∈ before.forest.preorder := by
        rintro p ⟨⟩
        exact hform
      constructor
      · rw [elements_add]
        exact List.prefix_append _ _
      · simp [Attempt.created?, size]
      · intro other input hmem
        simp only [List.mem_singleton, Prod.mk.injEq, Attempt.added.injEq] at hmem
        obtain ⟨-, rfl⟩ := hmem
        simp [size]
      · intro parent
        rw [childrenOf_add _ _ hparent, Attempt.inputsUnder_singleton]
        rfl
      · have hfresh : (before.forest.preorder ++ [before.size]).Nodup := by
          rw [List.nodup_append]
          refine ⟨before.nodup, List.nodup_singleton _, ?_⟩
          intro n hn last hlast heq
          exact before.size_notMem_preorder (List.mem_singleton.mp hlast ▸ heq ▸ hn)
        rw [Attempt.inputs_singleton]
        refine (List.perm_ext_iff_of_nodup (before.add (some form) finished).nodup hfresh).mpr ?_
        intro n
        rw [forest_add, Forest.mem_preorder_attach_iff hparent, List.mem_append,
          List.mem_singleton]
      · simp

end Gains

/-- The size of the tree after an attempt. -/
theorem size_of_leaves {form : Nat} {finished : Element} {before after : Tree} {attempt : Attempt}
    (h : attempt.Leaves form finished before after) :
    after.size = attempt.sizeAfter before.size := by
  cases h with
  | refused => rfl
  | left => simp [Attempt.sizeAfter, Attempt.created?, create, size]
  | added => simp [Attempt.sizeAfter, Attempt.created?, size]

end Tree

/-! ### The forms of a document -/

namespace LiveDocument

/-- The attempts for the forms of a list, one after the other, in a tree of a given size. -/
def attempts (faults : Faults Call Thrown) (size : Nat) : List Nat → List (Nat × Attempt)
  | [] => []
  | form :: forms =>
    let first := attempt faults size
    (form, first) :: attempts (faults.meet fieldCalls).2 (first.sizeAfter size) forms

theorem map_fst_attempts (faults : Faults Call Thrown) (size : Nat) (forms : List Nat) :
    (attempts faults size forms).map Prod.fst = forms := by
  induction forms generalizing faults size with
  | nil => rfl
  | cons form forms ih => exact congrArg (form :: ·) (ih _ _)

variable {config : XsrfConfig} {token : String} {document : LiveDocument} {form : Nat}

theorem isPost_formMethod (document : LiveDocument) (form : Nat) :
    Document.isPost (document.tree.elements[form]?.bind Element.method?) =
      document.tree.satisfies Element.isPost form := by
  rw [Tree.satisfies]
  cases document.tree.elements[form]? with
  | none => rfl
  | some element => exact element.isPost_method?

/-- Other forms are passed over. -/
theorem run_injectInto_of_not_isPost (config : XsrfConfig) (token : String)
    (h : document.tree.satisfies Element.isPost form = false) :
    (injectInto config token form).run document = ⟨0, document, []⟩ := by
  rw [← isPost_formMethod] at h
  exact FormToken.run_injectInto_of_spared token rfl h

/-- **One form that is sent with POST** is attempted once. -/
theorem run_injectInto_of_isPost (config : XsrfConfig) (token : String)
    (h : document.tree.satisfies Element.isPost form = true) :
    ∃ after, (injectInto config token form).run document =
        ⟨(attempt document.faults document.tree.size).input?.toList.length,
          { document with tree := after, faults := (document.faults.meet fieldCalls).2 },
          ((attempt document.faults document.tree.size).warning? config.fieldName).toList⟩ ∧
      (attempt document.faults document.tree.size).Leaves form
        (Markup.hiddenInput config.fieldName token).element document.tree after := by
  obtain ⟨after, hrun, hleaves⟩ := run_appendHiddenInput_leaves form config.fieldName token document
  refine ⟨after, ?_, hleaves⟩
  rw [← isPost_formMethod] at h
  have happended : (Document.appendHiddenInput form config.fieldName token).run document =
      ((attempt document.faults document.tree.size).result.mapError Thrown.toPageError,
        { document with tree := after, faults := (document.faults.meet fieldCalls).2 }) := by
    show (guarded (appendHiddenInput form config.fieldName token)) document = _
    rw [guarded, hrun]
  cases hattempt : attempt document.faults document.tree.size with
  | added input =>
      rw [hattempt] at happended
      exact FormToken.run_injectInto_of_added rfl h happended
  | failed left thrown =>
      rw [hattempt] at happended
      exact FormToken.run_injectInto_of_refused rfl h happended

/-- **The forms of a list**: those that are sent with POST are attempted one after the other. -/
theorem run_injectAll_attempts (config : XsrfConfig) (token : String) (forms : List Nat)
    (document : LiveDocument) (attached : ∀ form ∈ forms, form ∈ document.tree.forest.preorder) :
    let made := attempts document.faults document.tree.size
      (forms.filter (document.tree.satisfies Element.isPost))
    let outcome := (injectAll config token forms).run document
    outcome.value = (inputs made).length ∧
      outcome.entries = made.filterMap (fun entry => entry.2.warning? config.fieldName) ∧
      Tree.Gains (Markup.hiddenInput config.fieldName token).element document.tree
        outcome.state.tree made := by
  induction forms generalizing document with
  | nil => exact ⟨rfl, rfl, .refl _ _⟩
  | cons form forms ih =>
      obtain ⟨hform, hforms⟩ := List.forall_mem_cons.mp attached
      intro made outcome
      have hcons : outcome = _ := FormToken.run_injectAll_cons config token form forms document
      cases hpost : document.tree.satisfies Element.isPost form with
      | false =>
          rw [run_injectInto_of_not_isPost config token hpost] at hcons
          have hmade : made = attempts document.faults document.tree.size
              (forms.filter (document.tree.satisfies Element.isPost)) := by
            show attempts _ _ (List.filter _ (form :: forms)) = _
            rw [List.filter_cons_of_neg (by simp [hpost])]
          rw [hcons, hmade]
          obtain ⟨hvalue, hentries, hgains⟩ := ih document hforms
          exact ⟨(Nat.zero_add _).trans hvalue, hentries, hgains⟩
      | true =>
          obtain ⟨after, hrun, hleaves⟩ := run_injectInto_of_isPost config token hpost
          have hgained := Tree.Gains.of_leaves hleaves hform
          rw [hrun] at hcons
          -- the attempt has moved no form, and made none
          have hlater : ∀ other ∈ forms, other ∈ after.forest.preorder :=
            fun other hother => hgained.mem_preorder (hforms other hother)
          have hsame := hgained.filter_satisfies_eq Element.isPost
            fun other hother => document.tree.created other (hforms other hother)
          have hmade : made = (form, attempt document.faults document.tree.size) ::
              attempts (document.faults.meet fieldCalls).2 after.size
                (forms.filter (after.satisfies Element.isPost)) := by
            show attempts _ _ (List.filter _ (form :: forms)) = _
            rw [List.filter_cons_of_pos (by simp [hpost]), hsame, Tree.size_of_leaves hleaves]
            rfl
          obtain ⟨hvalue, hentries, hgains⟩ := ih { document with
            tree := after, faults := (document.faults.meet fieldCalls).2 } hlater
          rw [hcons, hmade]
          refine ⟨?_, ?_, hgained.trans hgains⟩
          · show _ + _ = _
            rw [hvalue, Attempt.inputs_cons, List.length_append]
          · show _ ++ _ = _
            rw [hentries, List.filterMap_cons]
            cases (attempt document.faults document.tree.size).warning? config.fieldName with
            | none => rfl
            | some entry => rfl

/-- The token of the cookie, if the document has cookies, reading them works, and the token is not
empty. -/
def token? (config : XsrfConfig) (document : LiveDocument) : Option String :=
  if document.html = true ∧ document.faults.failure? .cookie = none then
    FormToken.token? config document.cookies
  else none

/-- Reading the cookies, if that works. -/
theorem run_cookie_of_readable
    (h : document.html = true ∧ document.faults.failure? .cookie = none) :
    (Document.cookie : StateM LiveDocument _).run document =
      (.ok document.cookies, { document with faults := document.faults.next .cookie }) := by
  have hread : readCookies.run document =
      (.ok document.cookies, { document with faults := document.faults.next .cookie }) := by
    rw [readCookies, run_bind, run_enter_of_none h.2]
    rfl
  show (if document.html = true then guarded readCookies document else _) = _
  rw [if_pos h.1]
  exact guarded_ok hread

/-- If the cookies cannot be read, the tree is as it was. -/
theorem run_cookie_of_unreadable
    (h : ¬ (document.html = true ∧ document.faults.failure? .cookie = none)) :
    ∃ error after, (Document.cookie : StateM LiveDocument _).run document = (.error error, after) ∧
      after.tree = document.tree := by
  have hcookie : (Document.cookie : StateM LiveDocument _).run document =
      if document.html = true then guarded readCookies document
      else (.error (.document "document is not an HTML document"), document) := rfl
  rw [hcookie]
  by_cases hhtml : document.html = true
  · rw [if_pos hhtml]
    obtain ⟨thrown, hthrown⟩ := Option.ne_none_iff_exists'.mp fun hnone => h ⟨hhtml, hnone⟩
    have hread : readCookies.run document =
        (.error thrown, { document with faults := document.faults.next .cookie }) := by
      rw [readCookies, run_bind, run_enter_of_some hthrown]
    rw [guarded, hread]
    exact ⟨_, _, rfl, rfl⟩
  · rw [if_neg hhtml]
    exact ⟨_, _, rfl, rfl⟩

/-- The forms that are sent with POST are among all forms, those of SVG included. -/
theorem filter_forms (tree : Tree) :
    (tree.select Element.isForm).filter (tree.satisfies Element.isPost) =
      tree.select Element.isPost := by
  rw [Tree.select, Tree.select, List.filter_filter]
  congr 1
  funext n
  rw [Tree.satisfies, Tree.satisfies]
  cases tree.elements[n]? with
  | none => rfl
  | some element =>
      rw [Option.any_some, Option.any_some, Element.isPost]
      cases element.isForm with
      | false => rfl
      | true => simp

/-- **No half-built field is ever attached**, whatever calls fail.  Without a token the tree is as
it was.  With one, each form of HTML that is sent with POST is attempted once, in document order;
the value is the number of attempts that succeeded, and each of the others has written one warning.
A form whose attempt succeeded has the finished input as its last child, and for the rest the
document is as it was: an input whose attempt failed is outside of it. -/
theorem inject_attaches_finished (config : XsrfConfig) (document : LiveDocument) :
    let outcome := (inject config).run document
    (document.token? config = none → outcome.value = 0 ∧ outcome.state.tree = document.tree) ∧
    ∀ token, document.token? config = some token →
      let forms := document.tree.select Element.isPost
      let made := attempts (document.faults.next .cookie) document.tree.size forms
      forms.Nodup ∧ made.map Prod.fst = forms ∧
      outcome.value = (inputs made).length ∧
      outcome.entries = made.filterMap (fun entry => entry.2.warning? config.fieldName) ++
        [⟨.info, "xsrf: token added to " ++ toString outcome.value ++ " form(s)"⟩] ∧
      Tree.Gains (Markup.hiddenInput config.fieldName token).element document.tree
        outcome.state.tree made ∧
      ∀ form input, (form, .added input) ∈ made →
        outcome.state.tree.forest.childrenOf (some form) =
          document.tree.forest.childrenOf (some form) ++ [input] := by
  intro outcome
  by_cases hreadable : document.html = true ∧ document.faults.failure? .cookie = none
  · have hcookie := run_cookie_of_readable hreadable
    rw [token?, if_pos hreadable]
    constructor
    · intro hnone
      rw [show outcome = _ from FormToken.run_inject_of_absent hcookie hnone]
      exact ⟨rfl, rfl⟩
    · intro token htoken forms made
      have hrun : outcome = _ := FormToken.run_inject_of_present hcookie htoken
      obtain ⟨hvalue, hentries, hgains⟩ := run_injectAll_attempts config token
        (document.tree.select Element.isForm)
        { document with faults := document.faults.next .cookie }
        fun form hform => List.mem_of_mem_filter hform
      simp only [filter_forms] at hvalue hentries hgains
      have hforms : made.map Prod.fst = forms := map_fst_attempts _ _ _
      have hnodup : forms.Nodup := document.tree.nodup.filter _
      have hgains : Tree.Gains (Markup.hiddenInput config.fieldName token).element document.tree
          outcome.state.tree made := by
        rw [hrun]
        exact hgains
      refine ⟨hnodup, hforms, ?_, ?_, hgains, ?_⟩
      · rw [hrun]
        exact hvalue
      · rw [hrun]
        exact congrArg (· ++ _) hentries
      · intro form input hmem
        rw [hgains.children, Attempt.inputsUnder_of_mem (hforms ▸ hnodup) hmem]
        rfl
  · obtain ⟨error, after, hcookie, hafter⟩ := run_cookie_of_unreadable hreadable
    rw [token?, if_neg hreadable]
    constructor
    · intro _
      rw [show outcome = _ from FormToken.run_inject_of_unreadable config hcookie]
      exact ⟨rfl, hafter⟩
    · intro token htoken
      cases htoken

/-- A form within a form, a form of SVG and a form that is not sent with POST.  The second attempt
fails at its first attribute. -/
def orderPage : LiveDocument where
  tree :=
    ((Markup.document [⟨"form", [("method", "get")]⟩, ⟨"form", [("method", "POST")]⟩] "").tree.add
      (some 1) (.ofTag "form" false [("method", "post")])).add
        none (.ofTag "form" true [("method", "post")])
  cookies := "XSRF-TOKEN=t1"
  faults
    | .setAttribute => some ⟨.null, 3, some 1⟩
    | _ => none

/-- The outer form got its field after the inner form, and the unfinished one is nowhere. -/
theorem inject_attaches_finished_orderPage :
    ((inject {}).run orderPage).value = 1 ∧
      ((inject {}).run orderPage).state.tree.forest.childrenOf (some 1) = [2, 4] ∧
      5 ∉ ((inject {}).run orderPage).state.tree.forest.preorder := by
  have htoken : orderPage.token? {} = some "t1" := by decide +kernel
  have hmade : attempts (orderPage.faults.next .cookie) orderPage.tree.size
      (orderPage.tree.select Element.isPost) =
        [(1, .added 4), (2, .failed (some 5) .null)] := by
    decide +kernel
  have hbefore : orderPage.tree.forest.childrenOf (some 1) = [2] := by decide +kernel
  obtain ⟨-, hpresent⟩ := inject_attaches_finished {} orderPage
  obtain ⟨-, -, hvalue, -, hgains, hlast⟩ := hpresent "t1" htoken
  rw [hmade] at hvalue hgains hlast
  refine ⟨hvalue, ?_, ?_⟩
  · rw [hlast 1 4 List.mem_cons_self, hbefore]
    rfl
  · exact hgains.outside 2 5 .null (by simp)

end LiveDocument

end PageBehaviors.Browser
