import PageBehaviors.Proofs.Browser.Calls
import PageBehaviors.Proofs.Document.Schedules
import PageBehaviors.Proofs.Page.Operations

/-!
# The triggers of a browser's document

Looking for triggers reads the document and counts the calls; it changes nothing else.  The tree
gives a list of bindings, one for each element of the document whose marker is not empty, and
whatever calls fail, the bindings that are found are some of these.  So the triggers are different
elements, and each of them is bound to the id that stands in its marker.

## Main definitions and statements

* `Browser.LiveDocument.attribute?` — the attribute of an element by its number.
* `Browser.LiveDocument.Spares` — a view of the document that a step leaves alone, with
  `Spares.bind` for sequencing.
* `Browser.LiveDocument.marked`, `Browser.LiveDocument.holders` — the bindings that the tree gives;
  the elements that are asked for them.
* `Browser.LiveDocument.run_bindAll`, `Browser.LiveDocument.run_discover` — binding the elements of
  a list; looking for triggers.
* `Browser.LiveDocument.filterMap_granted` — the bindings that are missing if calls fail.
* `Browser.LiveDocument.nodup_discover` — no element is bound twice.
* `Browser.LiveDocument.attribute?_of_mem_discover` — a trigger is bound to what its marker says.
* `Browser.LiveDocument.overlooks_listenerFaults` — setting a page up has nobody listen.
-/

namespace PageBehaviors

/-- The first element of a list is asked before the others. -/
theorem Section.run_bindAll_cons {D E : Type} [Document D E] (config : ToggleConfig) (trigger : E)
    (triggers : List E) (document : D) :
    (bindAll config (trigger :: triggers)).run document =
      let first := (bind? config trigger).run document
      let others := (bindAll config triggers).run first.state
      ⟨first.value.toList ++ others.value, others.state, first.entries ++ others.entries⟩ := by
  simp only [bindAll, Action.run_bind, Action.run_pure, List.append_nil]

/-- A text about a thrown value, worded by the error that a page makes of it. -/
theorem Browser.Thrown.append_message_toPageError (thrown : Thrown) (subject colon : String) :
    subject ++ colon ++ thrown.toPageError.message =
      subject ++ (colon ++ "dom error: ") ++ thrown.message := by
  have hmessage : thrown.toPageError.message = "dom error: " ++ thrown.message := rfl
  simp only [hmessage, String.append_assoc]

namespace Browser.LiveDocument

variable {α β ι : Type}

/-- The value of an attribute of an element. -/
def attribute? (document : LiveDocument) (n : Nat) (name : String) : Option String :=
  document.tree.elements[n]?.bind fun element => element.get? name

/-! ### What steps leave alone -/

/-- A step leaves a view of the document alone, whether it throws or not. -/
def Spares (view : LiveDocument → ι) (step : Step α) : Prop :=
  ∀ document, view (step.run document).2 = view document

namespace Spares

variable {view : LiveDocument → ι}

theorem pure (value : α) : Spares view (Pure.pure value) :=
  fun _ => rfl

theorem get : Spares view MonadState.get :=
  fun _ => rfl

theorem refuse (problem : Option Thrown) : Spares view (LiveDocument.refuse problem) := by
  intro document
  cases problem with
  | none => rfl
  | some thrown => rfl

theorem change {f : Tree → Tree}
    (h : ∀ document, view { document with tree := f document.tree } = view document) :
    Spares view (LiveDocument.change f) :=
  h

theorem bind {step : Step α} {next : α → Step β} (h : Spares view step)
    (hnext : ∀ value, Spares view (next value)) : Spares view (step >>= next) := by
  intro document
  have hfirst := h document
  rw [run_bind]
  cases hstep : step.run document with
  | mk result rest =>
      rw [hstep] at hfirst
      cases result with
      | ok value => exact (hnext value rest).trans hfirst
      | error thrown => exact hfirst

theorem guarded {step : Step α} (h : Spares view step) (document : LiveDocument) :
    view ((LiveDocument.guarded step).run document).2 = view document :=
  h document

end Spares

/-- Entering a call does nothing but count it. -/
theorem state_enter (call : Call) (document : LiveDocument) :
    ((enter call).run document).2 = { document with faults := document.faults.next call } := by
  cases h : document.faults.failure? call with
  | none => rw [run_enter_of_none h]
  | some thrown => rw [run_enter_of_some h]

/-! ### The calls that look for triggers -/

theorem run_attributeOf_eq (n : Nat) (name : String) (document : LiveDocument) :
    (Document.attributeOf n name : StateM LiveDocument _).run document =
      (if document.faults.failure? .getAttribute = none then document.attribute? n name else none,
        { document with faults := document.faults.next .getAttribute }) := by
  show (Document.attributeOf n name : StateM LiveDocument _) document = _
  simp only [Document.attributeOf]
  cases h : document.faults.failure? .getAttribute with
  | none => rw [run_enter_of_none h, if_pos rfl]; rfl
  | some thrown => rw [run_enter_of_some h, if_neg (Option.some_ne_none thrown)]

/-- What a query throws whose selector is not valid. -/
def selectorProblem (name : String) : Thrown :=
  .error "SyntaxError" ("'[" ++ name ++ "]' is not a valid selector")

/-- A query throws what it is made to throw, or what its selector deserves. -/
theorem run_elementsWithAttribute (name : String) (document : LiveDocument) :
    (Document.elementsWithAttribute name : StateM LiveDocument _).run document =
      (match document.faults.failure? .querySelectorAll with
        | some thrown => .error thrown.toPageError
        | none =>
          if Text.isIdentifier name then
            .ok (document.tree.select fun element => (element.get? name).isSome)
          else .error (selectorProblem name).toPageError,
        { document with faults := document.faults.next .querySelectorAll }) := by
  show guarded (querySelectorAll name) document = _
  rw [guarded, querySelectorAll, run_bind]
  cases hfault : document.faults.failure? .querySelectorAll with
  | some thrown =>
      rw [run_enter_of_some hfault]
      rfl
  | none =>
      rw [run_enter_of_none hfault]
      by_cases hname : Text.isIdentifier name = true
      · simp only [hname, if_true]
        rfl
      · simp only [hname]
        rfl

/-! ### The bindings that the tree gives -/

section

open Section (Binding bind? bindAll discover)

variable (config : ToggleConfig) (document : LiveDocument)

/-- What an element is bound to, if its marker is not empty. -/
def binding? (n : Nat) : Option (Binding Nat) :=
  ((document.attribute? n config.marker).filter (· != "")).map fun target =>
    ⟨n, target, config.iconId target⟩

/-- The bindings that the tree gives, in document order. -/
def marked : List (Binding Nat) :=
  document.tree.forest.preorder.filterMap (document.binding? config)

/-- The elements that hold the marker, empty or not, in document order. -/
def holders : List Nat :=
  document.tree.select fun element => (element.get? config.marker).isSome

variable {config document}

theorem binding?_eq_some_iff {n : Nat} {binding : Binding Nat} :
    document.binding? config n = some binding ↔
      n = binding.trigger ∧ document.attribute? n config.marker = some binding.target ∧
        binding.target ≠ "" ∧ binding.icon = binding.target ++ config.iconSuffix := by
  obtain ⟨trigger, target, icon⟩ := binding
  simp only [binding?, Option.map_eq_some_iff, Option.filter_eq_some_iff, bne_iff_ne,
    Binding.mk.injEq]
  constructor
  · rintro ⟨_, ⟨hmarker, hne⟩, rfl, rfl, rfl⟩
    exact ⟨rfl, hmarker, hne, rfl⟩
  · rintro ⟨rfl, hmarker, hne, rfl⟩
    exact ⟨target, ⟨hmarker, hne⟩, rfl, rfl, rfl⟩

theorem satisfies_marker (n : Nat) :
    document.tree.satisfies (fun element => (element.get? config.marker).isSome) n =
      (document.attribute? n config.marker).isSome := by
  rw [Tree.satisfies, attribute?]
  cases document.tree.elements[n]? with
  | none => rfl
  | some element => rfl

variable (config document)

/-- The bindings stand in document order. -/
theorem sublist_marked :
    ((document.marked config).map Binding.trigger).Sublist document.tree.forest.preorder := by
  have htrigger (n : Nat) : (document.binding? config n).map Binding.trigger =
      Option.guard (fun n => (document.binding? config n).isSome) n := by
    rw [Option.guard]
    cases h : document.binding? config n with
    | none => rfl
    | some binding => rw [(binding?_eq_some_iff.mp h).1]; rfl
  rw [marked, List.map_filterMap]
  simp only [htrigger, List.filterMap_eq_filter]
  exact List.filter_sublist

theorem nodup_holders : (document.holders config).Nodup :=
  document.tree.nodup.filter _

/-- Only elements that hold the marker are bound. -/
theorem filterMap_holders :
    (document.holders config).filterMap (document.binding? config) = document.marked config := by
  rw [holders, Tree.select, List.filterMap_filter, marked]
  congr 1
  funext n
  rw [satisfies_marker, binding?]
  cases document.attribute? n config.marker with
  | none => rfl
  | some value => rfl

/-- If some elements do not answer, exactly their bindings are missing. -/
theorem filterMap_granted (faults : Faults Call Thrown) :
    (faults.granted .getAttribute (document.holders config)).filterMap
        (document.binding? config) =
      (document.marked config).filter fun binding =>
        faults.worksAfter .getAttribute ((document.holders config).idxOf binding.trigger) := by
  rw [faults.granted_eq_filter _ (document.nodup_holders config), List.filterMap_filter,
    ← filterMap_holders, List.filter_filterMap]
  congr 1
  funext n
  cases h : document.binding? config n with
  | none => exact ite_self _
  | some binding =>
      rw [(binding?_eq_some_iff.mp h).1]
      rfl

/-! ### Asking one element after the other -/

/-- The line about an element whose marker is empty. -/
def skippedLine : Log.Entry :=
  ⟨.debug, "toggle: skipping trigger with empty " ++ config.marker⟩

/-- The lines about those of several elements whose markers are empty. -/
def skippedLines (elements : List Nat) : List Log.Entry :=
  (elements.filter fun n => document.attribute? n config.marker == some "").map fun _ =>
    skippedLine config

variable {document}

/-- An element that does not answer is passed over. -/
theorem run_bind?_of_some {n : Nat} {thrown : Thrown}
    (h : document.faults.failure? .getAttribute = some thrown) :
    (bind? config n).run document =
      ⟨none, { document with faults := document.faults.next .getAttribute }, []⟩ := by
  rw [bind?, Action.run_bind, Action.run_call, run_attributeOf_eq, h]
  rfl

/-- An element that answers is bound, unless its marker is empty. -/
theorem run_bind?_of_none {n : Nat} (h : document.faults.failure? .getAttribute = none) :
    (bind? config n).run document =
      ⟨document.binding? config n,
        { document with faults := document.faults.next .getAttribute },
        document.skippedLines config [n]⟩ := by
  rw [bind?, Action.run_bind, Action.run_call, run_attributeOf_eq, h, if_pos rfl, binding?,
    skippedLines, List.filter_singleton]
  cases document.attribute? n config.marker with
  | none => rfl
  | some target =>
      by_cases hempty : target = ""
      · subst hempty
        rfl
      · have hkept : (target != "") = true := bne_iff_ne.mpr hempty
        have hlines : (some target == some "") = false :=
          beq_eq_false_iff_ne.mpr fun heq => hempty (Option.some.inj heq)
        simp only [hempty, if_false, Option.filter_some, hkept, if_true, Option.map_some, hlines]
        rfl

theorem skippedLines_append (first second : List Nat) :
    document.skippedLines config (first ++ second) =
      document.skippedLines config first ++ document.skippedLines config second := by
  rw [skippedLines, List.filter_append, List.map_append]
  rfl

variable (document)

/-- **Binding the elements of a list**: one call is made for each, and those whose calls work get
what they are bound to. -/
theorem run_bindAll (elements : List Nat) :
    (bindAll config elements).run document =
      let read := document.faults.granted .getAttribute elements
      ⟨read.filterMap (document.binding? config),
        { document with faults := document.faults.after .getAttribute elements.length },
        document.skippedLines config read⟩ := by
  induction elements generalizing document with
  | nil => rfl
  | cons n elements ih =>
      rw [Section.run_bindAll_cons, Faults.granted_cons]
      have hothers := ih { document with faults := document.faults.next .getAttribute }
      cases hfault : document.faults.failure? .getAttribute with
      | some thrown =>
          simp only [run_bind?_of_some config hfault, hothers]
          rfl
      | none =>
          have hfirst : [n].filterMap (document.binding? config) =
              (document.binding? config n).toList := by
            cases h : document.binding? config n <;> simp [h]
          simp only [run_bind?_of_none config hfault, hothers, Option.isNone_none, if_true,
            List.filterMap_append, skippedLines_append, hfirst]
          rfl

/-! ### Looking for triggers -/

/-- The line about a query that throws. -/
def queryLine (thrown : Thrown) : Log.Entry :=
  ⟨.warn, "toggle: cannot query [" ++ config.marker ++ "] triggers: dom error: " ++ thrown.message⟩

/-- The line is worded by the error that the page makes of what was thrown. -/
theorem queryLine_eq (thrown : Thrown) :
    queryLine config thrown =
      ⟨.warn, "toggle: cannot query [" ++ config.marker ++ "] triggers: " ++
        thrown.toPageError.message⟩ := by
  have htext := thrown.append_message_toPageError ("toggle: cannot query [" ++ config.marker)
    "] triggers: "
  have hcolon : "] triggers: " ++ "dom error: " = "] triggers: dom error: " := by decide
  rw [hcolon] at htext
  exact congrArg (Log.Entry.mk .warn) htext.symm

/-- **Looking for triggers**: nothing is found and one line is written if the query throws, and
otherwise the elements that hold the marker are asked. -/
theorem run_discover :
    (discover config).run document =
      let asked : LiveDocument := { document with faults := document.faults.next .querySelectorAll }
      match document.faults.failure? .querySelectorAll with
      | some thrown => ⟨[], asked, [queryLine config thrown]⟩
      | none =>
        if Text.isIdentifier config.marker then
          (bindAll config (document.holders config)).run asked
        else ⟨[], asked, [queryLine config (selectorProblem config.marker)]⟩ := by
  rw [discover, Action.run_bind, Action.run_call, run_elementsWithAttribute]
  cases document.faults.failure? .querySelectorAll with
  | some thrown =>
      simp only [queryLine_eq]
      rfl
  | none =>
      by_cases hname : Text.isIdentifier config.marker = true
      · simp only [hname, if_true]
        rfl
      · simp only [hname, queryLine_eq]
        rfl

/-- The bindings that are found are among those that the tree gives, in their order. -/
theorem sublist_discover :
    ((discover config).run document).value.Sublist (document.marked config) := by
  rw [run_discover]
  cases document.faults.failure? .querySelectorAll with
  | some thrown => exact List.nil_sublist _
  | none =>
      dsimp only
      split
      · rw [run_bindAll, ← filterMap_holders]
        exact (Faults.granted_sublist _ _ _).filterMap _
      · exact List.nil_sublist _

/-- **No element is bound twice.** -/
theorem nodup_discover : (((discover config).run document).value.map Binding.trigger).Nodup := by
  have hsublist := (document.sublist_discover config).map Binding.trigger
  exact document.tree.nodup.sublist (hsublist.trans (document.sublist_marked config))

variable {config document}

/-- **A trigger is bound to what its marker says.** -/
theorem attribute?_of_mem_discover {binding : Binding Nat}
    (h : binding ∈ ((discover config).run document).value) :
    document.attribute? binding.trigger config.marker = some binding.target ∧
      binding.target ≠ "" := by
  have hmarked := (document.sublist_discover config).subset h
  obtain ⟨n, -, hbinding⟩ := List.mem_filterMap.mp hmarked
  obtain ⟨rfl, hmarker, hne, -⟩ := binding?_eq_some_iff.mp hbinding
  exact ⟨hmarker, hne⟩

end

/-! ### Nobody is made to listen by the way -/

/-- The schedule of the calls that have an element listen. -/
def listenerFaults (document : LiveDocument) : Option (Outage Thrown) :=
  document.faults .addEventListener

/-- Calls of other kinds do not advance that schedule. -/
theorem spares_listenerFaults_enter {call : Call} (h : Call.addEventListener ≠ call) :
    Spares listenerFaults (enter call) := by
  intro document
  rw [state_enter]
  exact document.faults.next_ne h

theorem spares_listenerFaults_change (f : Tree → Tree) : Spares listenerFaults (change f) :=
  Spares.change fun _ => rfl

theorem spares_listenerFaults_querySelectorAll (name : String) :
    Spares listenerFaults (querySelectorAll name) := by
  refine (spares_listenerFaults_enter (by decide)).bind fun _ => ?_
  exact (Spares.refuse _).bind fun _ => Spares.get.bind fun _ => Spares.pure _

theorem spares_listenerFaults_setAttribute (n : Nat) (name value : String) :
    Spares listenerFaults (setAttribute n name value) :=
  (spares_listenerFaults_enter (by decide)).bind fun _ => spares_listenerFaults_change _

theorem spares_listenerFaults_createElement (tag : String) :
    Spares listenerFaults (createElement tag) := by
  refine (spares_listenerFaults_enter (by decide)).bind fun _ => Spares.get.bind fun _ => ?_
  exact (spares_listenerFaults_change _).bind fun _ => Spares.pure _

theorem spares_listenerFaults_appendHiddenInput (form : Nat) (name value : String) :
    Spares listenerFaults (appendHiddenInput form name value) := by
  refine (spares_listenerFaults_createElement _).bind fun input => ?_
  refine (spares_listenerFaults_setAttribute input _ _).bind fun _ => ?_
  refine (spares_listenerFaults_setAttribute input _ _).bind fun _ => ?_
  refine (spares_listenerFaults_setAttribute input _ _).bind fun _ => ?_
  exact (spares_listenerFaults_enter (by decide)).bind fun _ => spares_listenerFaults_change _

theorem spares_listenerFaults_readCookies : Spares listenerFaults readCookies :=
  (spares_listenerFaults_enter (by decide)).bind fun _ => Spares.get.bind fun _ => Spares.pure _

/-- Setting a page up makes no call that has an element listen. -/
theorem overlooks_listenerFaults : Document.Overlooks listenerFaults where
  elementsWithAttribute name := (spares_listenerFaults_querySelectorAll name).guarded
  attributeOf n name document := by
    rw [run_attributeOf_eq]
    exact document.faults.next_ne (by decide : Call.addEventListener ≠ .getAttribute)
  formMethod _ _ := rfl
  appendHiddenInput form name value :=
    (spares_listenerFaults_appendHiddenInput form name value).guarded
  cookie document := by
    by_cases html : document.html
    · have hcookie : (Document.cookie : StateM LiveDocument _).run document =
          (guarded readCookies).run document := if_pos html
      rw [hcookie]
      exact spares_listenerFaults_readCookies.guarded document
    · have hcookie : (Document.cookie : StateM LiveDocument _).run document =
          (.error (.document "document is not an HTML document"), document) := if_neg html
      rw [hcookie]

end Browser.LiveDocument

end PageBehaviors
