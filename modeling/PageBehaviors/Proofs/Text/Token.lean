import Mathlib.Data.List.Nodup
import PageBehaviors.Text.Token

/-!
# Class lists read back

The classes of an element are read from a text and, after a change, written back with one blank
between them.  A list of classes survives being written and read exactly because classes are not
empty and hold no blank, and every class that is read is of this kind.

## Main definitions and statements

* `Text.IsToken` — the names that a class can have.
* `Text.isToken_of_mem_tokens`, `Text.nodup_tokens` — what is read.
* `Text.tokens_joined` — reading what was written.
-/

namespace PageBehaviors.Text

/-- A name that a class can have: it is not empty and holds no blank. -/
def IsToken (s : String) : Prop :=
  s ≠ "" ∧ hasBlank s = false

instance (s : String) : Decidable (IsToken s) :=
  inferInstanceAs (Decidable (_ ∧ _))

/-! ### Words -/

/-- A part that is read holds no blank and is not empty. -/
theorem mem_wordsFrom {current text word : List Char} (hcurrent : current.any isBlank = false)
    (h : word ∈ wordsFrom current text) : word ≠ [] ∧ word.any isBlank = false := by
  fun_induction wordsFrom current text with
  | case1 => cases h
  | case2 current hne =>
      rw [List.mem_singleton] at h
      exact h ▸ ⟨hne, hcurrent⟩
  | case3 c rest hblank ih => exact ih rfl h
  | case4 current c rest hblank hne ih =>
      rcases List.mem_cons.mp h with rfl | h
      · exact ⟨hne, hcurrent⟩
      · exact ih rfl h
  | case5 current c rest hblank ih =>
      refine ih ?_ h
      simp [hcurrent, Bool.eq_false_iff.mpr hblank]

theorem isToken_of_mem_words {text word : String} (h : word ∈ words text) : IsToken word := by
  obtain ⟨letters, hmem, rfl⟩ := List.mem_map.mp h
  obtain ⟨hne, hblank⟩ := mem_wordsFrom rfl hmem
  refine ⟨fun hempty => hne ?_, ?_⟩
  · rw [← String.toList_ofList (l := letters), hempty]
    rfl
  · rw [hasBlank, String.toList_ofList, hblank]

/-- Letters that are not blank all belong to the part that is being read. -/
theorem wordsFrom_append {letters : List Char} (h : letters.any isBlank = false)
    (current rest : List Char) :
    wordsFrom current (letters ++ rest) = wordsFrom (current ++ letters) rest := by
  induction letters generalizing current with
  | nil => simp
  | cons c letters ih =>
      rw [List.any_cons, Bool.or_eq_false_iff] at h
      rw [List.cons_append, wordsFrom, if_neg (by simp [h.1]), ih h.2, List.append_assoc]
      rfl

theorem wordsFrom_joined {tokens : List String} (h : ∀ token ∈ tokens, IsToken token) :
    wordsFrom [] (joined tokens).toList = tokens.map String.toList := by
  induction tokens with
  | nil => rfl
  | cons token tokens ih =>
      obtain ⟨hne, hblank⟩ := h token List.mem_cons_self
      have hletters : token.toList ≠ [] := fun hnil => hne (String.toList_eq_nil_iff.mp hnil)
      cases tokens with
      | nil =>
          have hread := wordsFrom_append hblank [] []
          rw [List.append_nil, List.nil_append] at hread
          rw [joined, hread, wordsFrom, if_neg hletters]
          rfl
      | cons next others =>
          rw [joined, String.toList_append, String.toList_append, List.append_assoc,
            wordsFrom_append hblank]
          have hrest := ih fun other hmem => h other (List.mem_cons_of_mem _ hmem)
          show wordsFrom _ (' ' :: (joined (next :: others)).toList) = _
          rw [wordsFrom, if_pos (show isBlank ' ' = true from rfl), List.nil_append,
            if_neg hletters, hrest]
          rfl

theorem words_joined {tokens : List String} (h : ∀ token ∈ tokens, IsToken token) :
    words (joined tokens) = tokens := by
  rw [words, wordsFrom_joined h, List.map_map]
  simp

/-! ### Repetitions -/

theorem nodup_eraseDups (names : List String) : names.eraseDups.Nodup := by
  match names with
  | [] => exact List.nodup_nil
  | name :: names =>
      rw [List.eraseDups_cons, List.nodup_cons, List.mem_eraseDups]
      exact ⟨by simp, nodup_eraseDups _⟩
termination_by names.length
decreasing_by exact Nat.lt_succ_of_le (List.length_filter_le _ _)

theorem eraseDups_of_nodup {names : List String} (h : names.Nodup) : names.eraseDups = names := by
  induction names with
  | nil => rfl
  | cons name names ih =>
      obtain ⟨hnotMem, hnodup⟩ := List.nodup_cons.mp h
      have hkept : names.filter (fun other => !other == name) = names := by
        refine List.filter_eq_self.mpr fun other hother => ?_
        have hne : other ≠ name := fun heq => hnotMem (heq ▸ hother)
        simpa using hne
      rw [List.eraseDups_cons, hkept, ih hnodup]

/-! ### Class lists -/

theorem isToken_of_mem_tokens {text token : String} (h : token ∈ tokens text) : IsToken token :=
  isToken_of_mem_words (List.mem_eraseDups.mp h)

theorem nodup_tokens (text : String) : (tokens text).Nodup :=
  nodup_eraseDups _

/-- Classes that are written are read back, in their order. -/
theorem tokens_joined {names : List String} (h : ∀ name ∈ names, IsToken name)
    (hnodup : names.Nodup) : tokens (joined names) = names := by
  rw [tokens, words_joined h, eraseDups_of_nodup hnodup]

end PageBehaviors.Text
