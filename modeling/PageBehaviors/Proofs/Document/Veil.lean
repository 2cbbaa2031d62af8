import PageBehaviors.Proofs.Document.Edits
import PageBehaviors.Proofs.Document.Lifting

/-!
# Documents that differ by their token

Two documents have the same nodes, followed by equally many inputs, each with the token of its own
document.  As long as only sections are folded, no call tells the two apart, since no lookup leads
to an input.  The forms take the two tokens alike, and where there are no inputs yet, triggers are
found alike as well.

## Main definitions and statements

* `MemoryDocument.tokenFields` — the inputs with the token of a cookie line.
* `MemoryDocument.Veiled` — documents that differ by their token.
* `MemoryDocument.Veiled.sections`, `MemoryDocument.Veiled.triggers`, `MemoryDocument.Veiled.tokens`
  — the calls of each behaviour.
-/

namespace PageBehaviors

open PageBehaviors.Action (CallsAgree)

namespace MemoryDocument

/-- Inputs with the token of a cookie line, if it has one. -/
def tokenFields (config : XsrfConfig) (cookies : String) (count : Nat) : List MemoryNode :=
  match FormToken.token? config cookies with
  | none => []
  | some token => List.replicate count (.hiddenInput config.fieldName token)

/-- The same nodes, as many as are known, followed by equally many inputs with the token of the
cookies. -/
structure Veiled (config : XsrfConfig) (cookies cookies' : String) (known count : Nat)
    (first second : MemoryDocument) : Prop where
  nodes : ∃ common : List MemoryNode, common.length = known ∧
    first.nodes = common ++ tokenFields config cookies count ∧
    second.nodes = common ++ tokenFields config cookies' count
  cookies : first.cookies = some cookies
  cookies' : second.cookies = some cookies'
  classesReadOnly : first.classesReadOnly = second.classesReadOnly

theorem tokenFields_zero (config : XsrfConfig) (cookies : String) :
    tokenFields config cookies 0 = [] := by
  unfold tokenFields
  split
  · rfl
  · rfl

theorem tokenFields_of_some {config : XsrfConfig} {cookies token : String}
    (h : FormToken.token? config cookies = some token) (count : Nat) :
    tokenFields config cookies count =
      List.replicate count (.hiddenInput config.fieldName token) := by
  rw [tokenFields, h]

theorem isField_of_mem_tokenFields {config : XsrfConfig} {cookies : String} {count : Nat}
    {node : MemoryNode} (h : node ∈ tokenFields config cookies count) : node.IsField := by
  unfold tokenFields at h
  split at h
  · cases h
  · rw [List.eq_of_mem_replicate h]
    exact MemoryNode.isField_hiddenInput ..

namespace Veiled

variable {config : XsrfConfig} {cookies cookies' : String} {known count : Nat}
variable {first second : MemoryDocument}

/-- A query that finds no inputs finds the same nodes in both documents. -/
theorem places_eq (veiled : Veiled config cookies cookies' known count first second)
    {test : MemoryNode → Bool} (htest : ∀ node, node.IsField → test node = false) :
    first.places test = second.places test ∧ ∀ place ∈ first.places test, place < known := by
  obtain ⟨common, rfl, hfirst, hsecond⟩ := veiled.nodes
  rw [places_append hfirst (fun _ => isField_of_mem_tokenFields) htest,
    places_append hsecond (fun _ => isField_of_mem_tokenFields) htest]
  refine ⟨rfl, fun place hplace => ?_⟩
  rw [MemoryDocument.places_eq] at hplace
  exact List.mem_range.mp (List.mem_filter.mp hplace).1

/-- A known node is the same in both documents. -/
theorem getElem?_eq (veiled : Veiled config cookies cookies' known count first second)
    {place : Nat} (h : place < known) : first.nodes[place]? = second.nodes[place]? := by
  obtain ⟨common, rfl, hfirst, hsecond⟩ := veiled.nodes
  rw [hfirst, hsecond, List.getElem?_append_left h, List.getElem?_append_left h]

/-- A known node may change, if it does so in both documents. -/
theorem modifyNode (veiled : Veiled config cookies cookies' known count first second)
    {place : Nat} (h : place < known) (change : MemoryNode → MemoryNode) :
    Veiled config cookies cookies' known count (first.modifyNode place change)
      (second.modifyNode place change) where
  nodes := by
    obtain ⟨common, rfl, hfirst, hsecond⟩ := veiled.nodes
    refine ⟨common.modify place change, List.length_modify .., ?_, ?_⟩
    · rw [nodes_modifyNode, hfirst, modify_append_of_lt h]
    · rw [nodes_modifyNode, hsecond, modify_append_of_lt h]
  cookies := veiled.cookies
  cookies' := veiled.cookies'
  classesReadOnly := veiled.classesReadOnly

theorem changeClasses_agree {place : Nat} (h : place < known) (change : MemoryNode → MemoryNode) :
    CallsAgree (Veiled config cookies cookies' known count) Eq (changeClasses place change)
      (changeClasses place change) := by
  intro first second veiled
  simp only [changeClasses, StateT.run, veiled.classesReadOnly]
  split
  · exact ⟨rfl, veiled⟩
  · exact ⟨rfl, veiled.modifyNode h change⟩

/-- **Folding sections** does not tell the two apart. -/
theorem sections (config : PageConfig) (cookies cookies' : String) (known count : Nat) :
    Document.SectionSimulation config.toggle
      (Veiled config.xsrf cookies cookies' known count) (· < known) where
  elementById first second veiled id := by
    obtain ⟨hsame, hknown⟩ := veiled.places_eq fun _ hfield => hfield.id_ne id
    rw [elementById_eq_head?, elementById_eq_head?, hsame]
    refine ⟨rfl, fun place hplace => hknown place ?_⟩
    rw [hsame]
    exact List.mem_of_mem_head? hplace
  hasClass first second veiled place hplace := by
    rw [hasClass_eq, hasClass_eq, veiled.getElem?_eq hplace]
  setSource place hplace value first second veiled :=
    ⟨rfl, veiled.modifyNode hplace (·.setAttribute "src" value)⟩
  addClass place hplace := changeClasses_agree hplace _
  removeClass place hplace := changeClasses_agree hplace _

/-- **Finding triggers** does not tell the two apart before there are inputs. -/
theorem triggers (config : PageConfig) (cookies cookies' : String) (known : Nat) :
    Document.TriggerSimulation config.toggle
      (Veiled config.xsrf cookies cookies' known 0) (fun _ : Nat => True) := by
  have hnodes : ∀ first second : MemoryDocument,
      Veiled config.xsrf cookies cookies' known 0 first second → first.nodes = second.nodes := by
    intro first second veiled
    obtain ⟨common, -, hfirst, hsecond⟩ := veiled.nodes
    rw [hfirst, hsecond, tokenFields_zero, tokenFields_zero]
  constructor
  · intro first second veiled
    refine ⟨⟨?_, fun _ _ _ _ => trivial⟩, veiled⟩
    show Except.ok (first.places _) = .ok (second.places _)
    rw [places, places, hnodes first second veiled]
  · intro place _ first second veiled
    refine ⟨?_, veiled⟩
    show first.nodes[place]?.bind _ = second.nodes[place]?.bind _
    rw [hnodes first second veiled]

/-- The nodes after a known form was given the token. -/
theorem nodes_giveField {document : MemoryDocument} {common : List MemoryNode} {token : String}
    (h : document.nodes = common ++ tokenFields config cookies count)
    (htoken : FormToken.token? config cookies = some token) {form : Nat}
    (hform : form < common.length) :
    (document.giveField config.fieldName token form).nodes =
      common.modify form (·.appendChild (common.length + count)) ++
        tokenFields config cookies (count + 1) := by
  have hlength : document.nodes.length = common.length + count := by
    rw [h, tokenFields_of_some htoken, List.length_append, List.length_replicate]
  rw [giveField, nodes_modifyNode, nodes_add, hlength, h, tokenFields_of_some htoken,
    tokenFields_of_some htoken, List.append_assoc, ← List.replicate_succ',
    modify_append_of_lt hform]

/-- A known form takes the two tokens alike. -/
theorem giveField (veiled : Veiled config cookies cookies' known count first second)
    {token token' : String} (htoken : FormToken.token? config cookies = some token)
    (htoken' : FormToken.token? config cookies' = some token') {form : Nat} (h : form < known) :
    Veiled config cookies cookies' known (count + 1)
      (first.giveField config.fieldName token form)
      (second.giveField config.fieldName token' form) where
  nodes := by
    obtain ⟨common, rfl, hfirst, hsecond⟩ := veiled.nodes
    exact ⟨_, List.length_modify .., nodes_giveField hfirst htoken h,
      nodes_giveField hsecond htoken' h⟩
  cookies := veiled.cookies
  cookies' := veiled.cookies'
  classesReadOnly := veiled.classesReadOnly

/-- **Giving the two tokens** does not tell the two apart. -/
theorem tokens {token token' : String} (htoken : FormToken.token? config cookies = some token)
    (htoken' : FormToken.token? config cookies' = some token') (known : Nat) :
    Document.TokenSimulation config token token'
      (fun first second => ∃ count, Veiled config cookies cookies' known count first second)
      (· < known) where
  forms := by
    rintro first second ⟨count, veiled⟩
    exact veiled.places_eq fun node hfield => by simp [hfield.1]
  formMethod form hform := by
    rintro first second ⟨count, veiled⟩
    refine ⟨congrArg Document.isPost ?_, count, veiled⟩
    show first.nodes[form]?.bind _ = second.nodes[form]?.bind _
    rw [veiled.getElem?_eq hform]
  appendHiddenInput form hform := by
    rintro first second ⟨count, veiled⟩
    exact ⟨rfl, count + 1, veiled.giveField htoken htoken' hform⟩

end Veiled

end MemoryDocument

end PageBehaviors
