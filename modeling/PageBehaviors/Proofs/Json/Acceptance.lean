import PageBehaviors.Proofs.Json.Tokens

/-!
# Only values are skipped

Whatever is skipped as a value has the form of a value: a container is gone through entry by entry,
each of them the first one or after a comma, up to the closing bracket, and nothing else may stand
between them.  The entries are described by where the text goes on after each part, in a form that
readers which keep the entries share.

## Main definitions and statements

* `Json.Accepts` — the tokens that a reader takes have a given form.
* `Json.Bracket.Contains` — the entries of a container and its closing bracket stand next.
* `Json.Bracket.Reaches`, `Json.Bracket.ReachesNext` — what stands next leads to an entry's value.
* `Json.contains_of_skipEntries`, `Json.accepts_skipValue` — entries and values that are skipped.
-/

namespace PageBehaviors.Json

/-- The tokens that a reader takes, with blanks before each of them, have the given form, and the
rest is left. -/
def Accepts {α : Type} {bound : List Char → Nat} (reader : (s : List Char) → Reading α (bound s))
    (form : List Token → Prop) : Prop :=
  ∀ ⦃s rest value⦄, parse reader s = .ok (value, rest) →
    ∃ tokens, form tokens ∧ Spaced tokens rest s

/-- What a reader takes does not depend on what is made of its value. -/
theorem Accepts.map {α β : Type} {bound : List Char → Nat}
    {reader : (s : List Char) → Reading α (bound s)} {form : List Token → Prop}
    (h : Accepts reader form) (f : α → β) : Accepts (fun s => (reader s).map f) form := by
  intro s rest value hmapped
  rw [parse, Reading.result_map] at hmapped
  obtain ⟨_, hread, -⟩ := exists_of_map hmapped fun _ => rfl
  exact h hread

/-! ### Blanks -/

theorem Blank.append {blanks blanks' : List Char} (h : Blank blanks) (h' : Blank blanks') :
    Blank (blanks ++ blanks') := by
  intro c hc
  rcases List.mem_append.mp hc with hmem | hmem
  · exact h c hmem
  · exact h' c hmem

theorem exists_blanks_append_skipBlanks (s : List Char) :
    ∃ blanks, Blank blanks ∧ s = blanks ++ skipBlanks s :=
  ⟨s.takeWhile isBlank, fun c hc => isBlank_iff.mp (List.all_eq_true.mp List.all_takeWhile c hc),
    List.takeWhile_append_dropWhile.symm⟩

namespace Spaced

variable {token : Token} {tokens others : List Token} {s middle after rest : List Char}

/-- The converse of `Spaced.skipBlanks_eq`. -/
theorem of_skipBlanks (h : Json.skipBlanks s = token ++ after)
    (others : Spaced tokens rest after) : Spaced (token :: tokens) rest s := by
  obtain ⟨blanks, blank, hs⟩ := exists_blanks_append_skipBlanks s
  rw [hs, h]
  exact .token blank others

/-- More blanks may stand before the first token. -/
theorem blanks_append {blanks : List Char} (blank : Blank blanks)
    (h : Spaced (token :: tokens) rest s) : Spaced (token :: tokens) rest (blanks ++ s) := by
  cases h with
  | @token before _ _ _ after blankBefore others =>
      rw [← List.append_assoc]
      exact .token (blank.append blankBefore) others

theorem append (h : Spaced tokens middle s) (h' : Spaced others rest middle) :
    Spaced (tokens ++ others) rest s :=
  append_iff.mpr ⟨middle, h, h'⟩

end Spaced

/-! ### Values that are no containers -/

theorem readsOnly_skipScalar : ReadsOnly skipScalar fun token => IsValue [token] := by
  intro s rest value h
  cases s with
  | nil => simp at h
  | cons c s =>
      rw [parse_skipScalar_cons] at h
      split at h
      next hn => exact ⟨_, .null, eq_append_of_readIdentifier (by rw [hn]; rfl) h⟩
      next =>
        split at h
        next ht =>
          exact ⟨_, @IsValue.boolean true, eq_append_of_readIdentifier (by rw [ht]; rfl) h⟩
        next =>
          split at h
          next hf =>
            exact ⟨_, @IsValue.boolean false, eq_append_of_readIdentifier (by rw [hf]; rfl) h⟩
          next =>
            split at h
            next hquote =>
              obtain ⟨inside, closes, hs⟩ := readsOnly_skipString h
              exact ⟨_, .string closes, by rw [hquote, hs, List.cons_append]⟩
            next =>
              split at h
              next =>
                obtain ⟨_, hread, -⟩ := exists_of_map h fun _ => rfl
                obtain ⟨token, isNumber, hs⟩ := readsOnly_readNumeral _ hread
                exact ⟨token, .number isNumber, hs⟩
              next => cases h

/-! ### Entries of a container -/

namespace Bracket

variable {bracket : Bracket} {first : Bool} {s middle after rest : List Char}

/-- Up to `rest` stand the entries of a container and its closing bracket.  `first` tells that no
entry stands before them. -/
def Contains (bracket : Bracket) (first : Bool) (rest s : List Char) : Prop :=
  ∃ parts, (∀ part ∈ parts, bracket.IsEntry part) ∧
    Spaced (entryTokens first parts ++ [[bracket.closing]]) rest s

/-- Up to `rest`, and blanks before it, stands what comes before the value of an entry. -/
def Reaches (bracket : Bracket) (rest s : List Char) : Prop :=
  ∃ label blanks, bracket.IsLabel label ∧ Blank blanks ∧ Spaced label (blanks ++ rest) s

/-- The same with the comma that stands before all entries but the first. -/
def ReachesNext (bracket : Bracket) (first : Bool) (rest s : List Char) : Prop :=
  if first then bracket.Reaches rest s
  else ∃ after, skipBlanks s = ',' :: after ∧ bracket.Reaches rest after

theorem reaches_of_spaced {label : List Token} (hlabel : bracket.IsLabel label)
    (spaced : Spaced label rest s) : bracket.Reaches rest s :=
  ⟨label, [], hlabel, nofun, spaced⟩

/-- Blanks may stand before an entry. -/
theorem Reaches.of_skipBlanks (h : bracket.Reaches rest (skipBlanks s)) :
    bracket.Reaches rest s := by
  obtain ⟨blanks, blank, hs⟩ := exists_blanks_append_skipBlanks s
  obtain ⟨label, blanks', hlabel, blank', spaced⟩ := h
  rw [hs]
  cases label with
  | nil =>
      generalize skipBlanks s = text at spaced ⊢
      cases spaced
      refine ⟨[], blanks ++ blanks', hlabel, blank.append blank', ?_⟩
      rw [List.append_assoc]
      exact .done
  | cons token label => exact ⟨token :: label, blanks', hlabel, blank', spaced.blanks_append blank⟩

theorem reachesNext_first (hfirst : first = true) (h : bracket.Reaches rest s) :
    bracket.ReachesNext first rest s := by
  rw [ReachesNext, if_pos hfirst]
  exact h

theorem reachesNext_comma (hfirst : ¬ first = true) (hs : skipBlanks s = ',' :: after)
    (h : bracket.Reaches rest after) : bracket.ReachesNext first rest s := by
  rw [ReachesNext, if_neg hfirst]
  exact ⟨after, hs, h⟩

theorem contains_close (h : skipBlanks s = bracket.closing :: rest) :
    bracket.Contains first rest s := by
  refine ⟨[], nofun, ?_⟩
  rw [entryTokens_nil, List.nil_append]
  exact .of_skipBlanks h .done

/-- An entry, after the comma if there is one, is followed by the other entries. -/
theorem ReachesNext.contains (h : bracket.ReachesNext first middle s) {value : List Token}
    (hvalue : IsValue value) (spaced : Spaced value after middle)
    (others : bracket.Contains false rest after) : bracket.Contains first rest s := by
  obtain ⟨parts, hparts, hothers⟩ := others
  obtain ⟨token, tokens, rfl⟩ := hvalue.exists_cons
  have entry {start : List Char} (hreach : bracket.Reaches middle start) :
      ∃ part, bracket.IsEntry part ∧
        Spaced (part ++ (entryTokens false parts ++ [[bracket.closing]])) rest start := by
    obtain ⟨label, blanks, hlabel, blank, hspaced⟩ := hreach
    refine ⟨_, ⟨label, _, hlabel, hvalue, rfl⟩, ?_⟩
    rw [List.append_assoc]
    exact hspaced.append ((spaced.blanks_append blank).append hothers)
  cases first with
  | true =>
      obtain ⟨part, hpart, hspaced⟩ := entry h
      refine ⟨part :: parts, List.forall_mem_cons.mpr ⟨hpart, hparts⟩, ?_⟩
      rw [entryTokens_cons, if_pos rfl, List.nil_append, List.append_assoc]
      exact hspaced
  | false =>
      obtain ⟨start, hcomma, hreach⟩ := h
      obtain ⟨part, hpart, hspaced⟩ := entry hreach
      refine ⟨part :: parts, List.forall_mem_cons.mpr ⟨hpart, hparts⟩, ?_⟩
      rw [entryTokens_cons, List.append_assoc, List.append_assoc]
      exact .of_skipBlanks hcomma hspaced

/-- The bracket that opens a container makes a value of its entries. -/
theorem Contains.exists_value (h : bracket.Contains true rest after)
    (hs : skipBlanks s = bracket.opening :: after) :
    ∃ value, IsValue value ∧ Spaced value rest s := by
  obtain ⟨parts, hparts, spaced⟩ := h
  exact ⟨_, isValue_container hparts, .of_skipBlanks hs spaced⟩

end Bracket

/-! ### Values that are skipped -/

theorem accepts_readColon : Accepts readColon (· = [[':']]) := by
  intro s rest value h
  rw [parse_readColon] at h
  split at h
  next => cases h
  next c after hs =>
    split at h
    next hcolon =>
      cases h
      exact ⟨_, rfl, .of_skipBlanks (by rw [hs, hcolon]; rfl) .done⟩
    next => cases h

/-- A key is a string with a colon after it. -/
theorem spaced_key {s inside after rest : List Char} {value : Unit}
    (hs : skipBlanks s = '"' :: (inside ++ after)) (closes : ClosesString inside)
    (h : parse readColon after = .ok (value, rest)) :
    ∃ label, Bracket.object.IsLabel label ∧ Spaced label rest s := by
  obtain ⟨_, rfl, colon⟩ := accepts_readColon h
  exact ⟨_, ⟨_, closes, rfl⟩, .of_skipBlanks hs colon⟩

theorem accepts_skipKey : Accepts skipKey Bracket.object.IsLabel := by
  intro s rest value h
  rw [parse_skipKey] at h
  split at h
  next => cases h
  next c afterQuote hs =>
    split at h
    next hquote =>
      cases hkey : parse skipString afterQuote with
      | error failure => simp [hkey] at h
      | ok taken =>
          obtain ⟨_, afterKey⟩ := taken
          simp only [hkey] at h
          obtain ⟨inside, closes, rfl⟩ := readsOnly_skipString hkey
          exact spaced_key (by rw [hs, hquote]) closes h
    next => cases h

theorem accepts_skipLabel (bracket : Bracket) : Accepts bracket.skipLabel bracket.IsLabel := by
  intro s rest value h
  cases bracket with
  | list =>
      cases (parse_skipLabel_list s).symm.trans h
      exact ⟨[], rfl, .done⟩
  | object =>
      rw [parse_skipLabel_object] at h
      exact accepts_skipKey h

/-- Before each entry its label is skipped, and a comma if it is not the first one. -/
theorem of_parse_skipToEntry {bracket : Bracket} {first : Bool} {s rest : List Char} {step : Step}
    (h : parse (bracket.skipToEntry first) s = .ok (step, rest)) :
    step = .close ∧ skipBlanks s = bracket.closing :: rest ∨
      step = .entry ∧ bracket.ReachesNext first rest s := by
  have reaches {start : List Char}
      (h : ((parse bracket.skipLabel start).map fun taken => (Step.entry, taken.2)) =
        .ok (step, rest)) : step = .entry ∧ bracket.Reaches rest start := by
    obtain ⟨_, hlabel, heq⟩ := exists_of_map h fun _ => rfl
    obtain ⟨label, isLabel, spaced⟩ := accepts_skipLabel bracket hlabel
    exact ⟨(congrArg Prod.fst heq).symm, Bracket.reaches_of_spaced isLabel spaced⟩
  rw [parse_skipToEntry] at h
  split at h
  next => cases h
  next c after hs =>
    split at h
    next hclosing =>
      cases h
      exact Or.inl ⟨rfl, by rw [hs, hclosing]⟩
    next =>
      split at h
      next hfirst =>
        obtain ⟨hstep, hreach⟩ := reaches h
        rw [← hs] at hreach
        exact Or.inr ⟨hstep, Bracket.reachesNext_first hfirst hreach.of_skipBlanks⟩
      next hfirst =>
        split at h
        next hcomma =>
          obtain ⟨hstep, hreach⟩ := reaches h
          rw [hcomma] at hs
          exact Or.inr ⟨hstep, Bracket.reachesNext_comma hfirst hs hreach⟩
        next => cases h

theorem Bracket.eq_opening {bracket : Bracket} {c : Char} (h : ofOpening? c = some bracket) :
    c = bracket.opening := by
  unfold ofOpening? at h
  split at h
  next hc =>
    cases h
    exact hc
  next =>
    split at h
    next hc =>
      cases h
      exact hc
    next => cases h

/-- A whole scalar, or the bracket that opens a container. -/
theorem of_parse_openValue {s rest : List Char} {inner? : Option Bracket}
    (h : parse openValue s = .ok (inner?, rest)) :
    (inner? = none ∧ ∃ value, IsValue value ∧ Spaced value rest s) ∨
      ∃ inner, inner? = some inner ∧ skipBlanks s = inner.opening :: rest := by
  rw [parse_openValue] at h
  split at h
  next => cases h
  next c after hs =>
    split at h
    next inner hopening =>
      cases h
      exact Or.inr ⟨inner, rfl, by rw [hs, Bracket.eq_opening hopening]⟩
    next =>
      obtain ⟨_, hscalar, heq⟩ := exists_of_map h fun _ => rfl
      obtain ⟨token, isValue, htoken⟩ := readsOnly_skipScalar hscalar
      have hspaced : Spaced [token] rest s := .of_skipBlanks (hs.trans htoken) .done
      exact Or.inl ⟨(congrArg Prod.fst heq).symm, [token], isValue, hspaced⟩

/-- **The entries of a container**, however deeply they are nested, by induction on the length of
the text. -/
theorem contains_of_skipEntries {bracket : Bracket} {first : Bool} {s rest : List Char}
    {value : Unit} (h : parse (skipEntries bracket first) s = .ok (value, rest)) :
    bracket.Contains first rest s := by
  induction hlength : s.length using Nat.strongRecOn generalizing bracket first s rest value with
  | _ length ih =>
      subst hlength
      rw [parse_skipEntries] at h
      cases hnext : parse (bracket.skipToEntry first) s with
      | error failure => simp [hnext] at h
      | ok next =>
          obtain ⟨step, afterLead⟩ := next
          have hlead := length_lt_of_parse hnext
          rcases of_parse_skipToEntry hnext with ⟨rfl, hclosing⟩ | ⟨rfl, hreach⟩
          · simp only [hnext] at h
            cases h
            exact Bracket.contains_close hclosing
          cases hopen : parse openValue afterLead with
          | error failure => simp [hnext, hopen] at h
          | ok opened =>
              obtain ⟨inner?, contents⟩ := opened
              have hopened := length_lt_of_parse hopen
              rcases of_parse_openValue hopen with
                ⟨rfl, value, hvalue, spaced⟩ | ⟨inner, rfl, hopening⟩
              · simp only [hnext, hopen] at h
                exact hreach.contains hvalue spaced (ih _ (by omega) h rfl)
              cases hinner : parse (skipEntries inner true) contents with
              | error failure => simp [hnext, hopen, hinner] at h
              | ok taken =>
                  obtain ⟨_, afterValue⟩ := taken
                  have hentries := length_lt_of_parse hinner
                  simp only [hnext, hopen, hinner] at h
                  have hcontents := ih _ (by omega) hinner rfl
                  obtain ⟨value, hvalue, spaced⟩ := hcontents.exists_value hopening
                  exact hreach.contains hvalue spaced (ih _ (by omega) h rfl)

/-- **Values that are skipped** have the form of a value. -/
theorem accepts_skipValue : Accepts skipValue IsValue := by
  intro s rest value h
  rw [parse_skipValue] at h
  cases hopen : parse openValue s with
  | error failure => simp [hopen] at h
  | ok opened =>
      obtain ⟨inner?, contents⟩ := opened
      rcases of_parse_openValue hopen with ⟨rfl, value, hvalue, spaced⟩ | ⟨inner, rfl, hopening⟩
      · simp only [hopen] at h
        cases h
        exact ⟨value, hvalue, spaced⟩
      · simp only [hopen] at h
        exact (contains_of_skipEntries h).exists_value hopening

end PageBehaviors.Json
