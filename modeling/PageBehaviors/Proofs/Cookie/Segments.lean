import Mathlib.Data.List.Infix
import Mathlib.Data.List.TakeWhile
import PageBehaviors.Cookie

/-!
# Cookie lines as lists of segments

The lookup of a cookie never cuts the line: it searches for the places where a pair of the wanted
name begins.  This file compares it with the reading that cuts the line at every joint and asks
which segments begin with the name and an equals sign.

The two agree because the start of a pair is *solid*: a name that holds no joint, followed by an
equals sign, neither holds a joint nor ends in the first half of one.  So an occurrence of the
pattern never reaches over the border of a segment, and no two occurrences overlap.

## Main definitions and statements

* `Cookie.segments` — a line cut at every joint; `Cookie.intercalate_segments` and
  `Cookie.not_joint_infix_of_mem_segments` fix what the cut is.
* `Cookie.Solid` — the texts that no joint can reach into.
* `Cookie.value?_iff_unique_segment` — the value is that of the only segment of the name, and for
  any name at all a value stands in the line where a pair may begin.
-/

namespace PageBehaviors.Cookie

/-- What joins two pairs of a line. -/
def joint : List Char := [';', ' ']

/-- A line cut at every joint. -/
def segments : List Char → List (List Char)
  | [] => [[]]
  | ';' :: ' ' :: rest => [] :: segments rest
  | c :: rest => (segments rest).modifyHead (c :: ·)

/-- Where a value ends: at the end of the text or before a semicolon. -/
def Ends (rest : List Char) : Prop :=
  rest = [] ∨ ∃ others, rest = ';' :: others

/-! ### The cut -/

theorem segments_ne_nil (line : List Char) : segments line ≠ [] := by
  fun_induction segments line with
  | case1 => simp
  | case2 => simp
  | case3 c rest _ ih => simpa using ih

theorem exists_segments_eq_cons (line : List Char) :
    ∃ first others, segments line = first :: others :=
  List.exists_cons_of_ne_nil (segments_ne_nil line)

/-- A character that begins no joint belongs to the first segment. -/
theorem segments_cons {c : Char} {rest : List Char}
    (h : ¬ (c = ';' ∧ rest.head? = some ' ')) :
    segments (c :: rest) = (segments rest).modifyHead (c :: ·) := by
  refine segments.eq_3 c rest fun others hc hrest => h ⟨hc, ?_⟩
  rw [hrest, List.head?_cons]

/-- Nothing of the line is lost but the joints. -/
theorem intercalate_segments (line : List Char) : joint.intercalate (segments line) = line := by
  fun_induction segments line with
  | case1 => rfl
  | case2 rest ih =>
      obtain ⟨first, others, h⟩ := exists_segments_eq_cons rest
      rw [h] at ih ⊢
      simpa [List.intercalate, joint] using ih
  | case3 c rest _ ih =>
      obtain ⟨first, others, h⟩ := exists_segments_eq_cons rest
      rw [h] at ih ⊢
      cases others with
      | nil => simpa [List.intercalate] using ih
      | cons second others => simpa [List.intercalate] using ih

/-- A segment begins with what the line begins with, up to the first semicolon. -/
theorem takeWhile_segments {line first : List Char} {others : List (List Char)}
    (h : segments line = first :: others) :
    first.takeWhile (· != ';') = line.takeWhile (· != ';') := by
  fun_induction segments line generalizing first others with
  | case1 => simp_all
  | case2 rest => simp_all
  | case3 c rest _ ih =>
      obtain ⟨next, later, hnext⟩ := exists_segments_eq_cons rest
      rw [hnext, List.modifyHead_cons, List.cons.injEq] at h
      rw [← h.1, List.takeWhile_cons, List.takeWhile_cons, ih hnext]

/-- The cut leaves no joint uncut. -/
theorem not_joint_infix_of_mem_segments {line segment : List Char}
    (h : segment ∈ segments line) : ¬ joint <:+: segment := by
  fun_induction segments line generalizing segment with
  | case1 =>
      rw [List.mem_singleton] at h
      simp [h, joint]
  | case2 rest ih =>
      rcases List.mem_cons.mp h with rfl | h
      · simp [joint]
      · exact ih h
  | case3 c rest noJoint ih =>
      obtain ⟨first, others, hrest⟩ := exists_segments_eq_cons rest
      rw [hrest, List.modifyHead_cons] at h
      rcases List.mem_cons.mp h with rfl | h
      · intro hinfix
        rcases List.infix_cons_iff.mp hinfix with hstarts | hinfix
        · obtain ⟨rfl, tail, rfl⟩ : c = ';' ∧ ∃ tail, first = ' ' :: tail := by
            obtain ⟨tail, h⟩ := hstarts
            obtain ⟨rfl, rfl⟩ := List.cons.inj h
            exact ⟨rfl, tail, rfl⟩
          -- the line itself goes on like its first segment
          have hline := intercalate_segments rest
          rw [hrest] at hline
          cases others with
          | nil => exact noJoint tail rfl (by simpa [List.intercalate] using hline.symm)
          | cons second others =>
              exact noJoint _ rfl (by simpa [List.intercalate] using hline.symm)
        · exact ih (hrest ▸ List.mem_cons_self) hinfix
      · exact ih (hrest ▸ List.mem_cons_of_mem _ h)

/-! ### Texts that no joint can reach into -/

/-- A text that holds no joint and does not end in the first half of one. -/
def Solid : List Char → Prop
  | [] => True
  | c :: rest => ¬ (c = ';' ∧ (rest = [] ∨ rest.head? = some ' ')) ∧ Solid rest

/-- No joint begins at a semicolon of a solid text, whatever follows the text. -/
theorem Solid.not_joint {c : Char} {text : List Char} (h : Solid (c :: text)) (rest : List Char) :
    ¬ (c = ';' ∧ (text ++ rest).head? = some ' ') := by
  rintro ⟨rfl, hblank⟩
  refine h.1 ⟨rfl, ?_⟩
  cases text with
  | nil => exact Or.inl rfl
  | cons d text => exact Or.inr (by simpa using hblank)

/-- The start of a pair is solid, since the equals sign closes the name. -/
theorem solid_append_equals {name : List Char} (h : ¬ joint <:+: name) :
    Solid (name ++ ['=']) := by
  induction name with
  | nil => simp [Solid]
  | cons c name ih =>
      refine ⟨?_, ih fun hinfix => h (List.infix_cons hinfix)⟩
      rintro ⟨rfl, hempty | hblank⟩
      · simp at hempty
      · cases name with
        | nil => simp at hblank
        | cons d name =>
            obtain rfl : d = ' ' := by simpa using hblank
            exact h (List.prefix_append [';', ' '] name).isInfix

theorem segments_append {text : List Char} (h : Solid text) (rest : List Char) :
    segments (text ++ rest) = (segments rest).modifyHead (text ++ ·) := by
  induction text with
  | nil =>
      obtain ⟨first, others, h⟩ := exists_segments_eq_cons rest
      rw [List.nil_append, h, List.modifyHead_cons, List.nil_append]
  | cons c text ih =>
      rw [List.cons_append, segments_cons (h.not_joint rest), ih h.2, List.modifyHead_modifyHead]
      rfl

/-- A line begins with a solid text exactly if its first segment does. -/
theorem isPrefixOf_segments {text line first : List Char} {others : List (List Char)}
    (solid : Solid text) (h : segments line = first :: others) :
    text.isPrefixOf first = text.isPrefixOf line := by
  rw [Bool.eq_iff_iff, List.isPrefixOf_iff_prefix, List.isPrefixOf_iff_prefix]
  constructor
  · intro hstarts
    refine hstarts.trans ?_
    rw [← intercalate_segments line, h]
    cases others with
    | nil => simp [List.intercalate]
    | cons second others => simp [List.intercalate]
  · rintro ⟨rest, rfl⟩
    obtain ⟨next, later, hrest⟩ := exists_segments_eq_cons rest
    rw [segments_append solid, hrest, List.modifyHead_cons, List.cons.injEq] at h
    exact h.1 ▸ List.prefix_append text next

/-- After a solid text, the first segment has the same value as the line. -/
theorem valueOf_segments {text line first : List Char} {others : List (List Char)}
    (solid : Solid text) (hstarts : text.isPrefixOf line = true)
    (h : segments line = first :: others) :
    valueOf (first.drop text.length) = valueOf (line.drop text.length) := by
  obtain ⟨rest, rfl⟩ := List.isPrefixOf_iff_prefix.mp hstarts
  obtain ⟨next, later, hrest⟩ := exists_segments_eq_cons rest
  rw [segments_append solid, hrest, List.modifyHead_cons, List.cons.injEq] at h
  rw [← h.1, List.drop_left, List.drop_left, valueOf, valueOf, takeWhile_segments hrest]

/-! ### The search -/

theorem followers_eq_drop (pattern : List Char) (skip : Nat) (text : List Char) :
    followers pattern skip text = followers pattern 0 (text.drop skip) := by
  induction text generalizing skip with
  | nil => simp [followers]
  | cons c text ih =>
      cases skip with
      | zero => rfl
      | succ skip => rw [followers, ih, List.drop_succ_cons]

/-- Where no joint begins, no later pair begins either. -/
theorem followers_cons {c : Char} {rest : List Char} (name : String)
    (h : ¬ (c = ';' ∧ rest.head? = some ' ')) :
    followers (joinedStart name) 0 (c :: rest) = followers (joinedStart name) 0 rest := by
  rw [followers, if_neg]
  rw [List.isPrefixOf_iff_prefix]
  rintro ⟨tail, htail⟩
  obtain ⟨rfl, rfl⟩ := List.cons.inj htail
  exact h ⟨rfl, rfl⟩

theorem followers_append {text : List Char} (h : Solid text) (name : String) (rest : List Char) :
    followers (joinedStart name) 0 (text ++ rest) = followers (joinedStart name) 0 rest := by
  induction text with
  | nil => rfl
  | cons c text ih => rw [List.cons_append, followers_cons name (h.not_joint rest), ih h.2]

/-- After a joint the search goes on as at the start of a line: the pair that begins there, if any,
takes away no text in which another could begin. -/
theorem followers_joint {name : String} (solid : Solid (pairStart name)) (rest : List Char) :
    followers (joinedStart name) 0 (';' :: ' ' :: rest) = candidates rest name := by
  rw [followers, candidates, joinedStart]
  by_cases h : (pairStart name).isPrefixOf rest = true
  · obtain ⟨tail, rfl⟩ := List.isPrefixOf_iff_prefix.mp h
    have resume := followers_append solid name tail
    rw [joinedStart] at resume
    rw [resume]
    simp [followers_eq_drop _ ((pairStart name).length + 1), List.isPrefixOf]
  · have skipBlank : followers (joinedStart name) 0 (' ' :: rest) =
        followers (joinedStart name) 0 rest := followers_cons name (by simp)
    rw [joinedStart] at skipBlank
    simp [List.isPrefixOf, h, skipBlank]

/-- The segments of a line that begin like a pair of the given name. -/
def segmentsOf (name : String) (line : List Char) : List (List Char) :=
  (segments line).filter (pairStart name).isPrefixOf

/-- What a segment says about the given name. -/
def answerOf (name : String) (segment : List Char) : String :=
  valueOf (segment.drop (pairStart name).length)

/-- The test at the start of a line and the search in it, once the search is known to find the
later segments. -/
theorem map_valueOf_candidates_of_followers {name : String} (solid : Solid (pairStart name))
    {line : List Char}
    (later : (followers (joinedStart name) 0 line).map valueOf =
      ((segments line).tail.filter (pairStart name).isPrefixOf).map (answerOf name)) :
    (candidates line name).map valueOf = (segmentsOf name line).map (answerOf name) := by
  obtain ⟨first, others, h⟩ := exists_segments_eq_cons line
  rw [h, List.tail_cons] at later
  have hstarts := isPrefixOf_segments solid h
  rw [candidates, segmentsOf, h, List.map_append, later]
  by_cases hfirst : (pairStart name).isPrefixOf line = true
  · have hvalue := valueOf_segments solid hfirst h
    simp [hfirst, hstarts, answerOf, hvalue]
  · simp [hfirst, hstarts]

/-- The search finds the later segments, each by the joint before it. -/
theorem map_valueOf_followers {name : String} (solid : Solid (pairStart name))
    (line : List Char) :
    (followers (joinedStart name) 0 line).map valueOf =
      ((segments line).tail.filter (pairStart name).isPrefixOf).map (answerOf name) := by
  fun_induction segments line with
  | case1 => rfl
  | case2 rest ih =>
      rw [followers_joint solid, List.tail_cons]
      exact map_valueOf_candidates_of_followers solid ih
  | case3 c rest noJoint ih =>
      obtain ⟨first, others, h⟩ := exists_segments_eq_cons rest
      have hc : ¬ (c = ';' ∧ rest.head? = some ' ') := by
        rintro ⟨rfl, hblank⟩
        obtain ⟨tail, rfl⟩ := List.head?_eq_some_iff.mp hblank
        exact noJoint tail rfl rfl
      rw [followers_cons name hc, ih, h, List.modifyHead_cons, List.tail_cons, List.tail_cons]

/-- **The search finds the segments**: the values found are those of the segments of the name, in
the order of the line. -/
theorem map_valueOf_candidates {name : String} (solid : Solid (pairStart name))
    (line : List Char) :
    (candidates line name).map valueOf = (segmentsOf name line).map (answerOf name) :=
  map_valueOf_candidates_of_followers solid (map_valueOf_followers solid line)

/-! ### The value -/

/-- A value is found exactly if there is one candidate. -/
theorem value?_eq_some_iff {line name value : String} :
    value? line name = some value ↔
      (candidates line.toList name).map valueOf = [value] := by
  unfold value?
  split
  · next rest h => simp [h]
  · next h =>
      constructor
      · intro hnone
        cases hnone
      · intro hmap
        obtain ⟨rest, hrest, -⟩ := List.map_eq_singleton_iff.mp hmap
        exact absurd hrest (h rest)

/-- What follows a found place stands in the line right after the pattern. -/
theorem exists_append_of_mem_followers {pattern : List Char} {skip : Nat} {text rest : List Char}
    (h : rest ∈ followers pattern skip text) : ∃ before, text = before ++ pattern ++ rest := by
  fun_induction followers pattern skip text with
  | case1 => cases h
  | case2 skip c text ih =>
      obtain ⟨before, rfl⟩ := ih h
      exact ⟨c :: before, rfl⟩
  | case3 c text hstarts ih =>
      rcases List.mem_cons.mp h with rfl | h
      · exact ⟨[], (List.prefix_iff_eq_append.mp (List.isPrefixOf_iff_prefix.mp hstarts)).symm⟩
      · obtain ⟨before, rfl⟩ := ih h
        exact ⟨c :: before, rfl⟩
  | case4 c text hstarts ih =>
      obtain ⟨before, rfl⟩ := ih h
      exact ⟨c :: before, rfl⟩

theorem exists_eq_valueOf_append (rest : List Char) :
    ∃ others, rest = (valueOf rest).toList ++ others ∧ Ends others := by
  refine ⟨rest.dropWhile (· != ';'), ?_, ?_⟩
  · rw [valueOf, String.toList_ofList, List.takeWhile_append_dropWhile]
  · cases h : rest.dropWhile (· != ';') with
    | nil => exact Or.inl rfl
    | cons c others =>
        have hc := List.head_dropWhile_not (l := rest) (· != ';') (by simp [h])
        simp only [h, List.head_cons, bne_eq_false_iff_eq] at hc
        exact Or.inr ⟨others, by rw [hc]⟩

theorem semicolon_notMem_valueOf (rest : List Char) : ';' ∉ (valueOf rest).toList := by
  rw [valueOf, String.toList_ofList]
  intro h
  simpa using List.mem_takeWhile_imp h

/-- The value of a text is the part up to where it ends. -/
theorem valueOf_eq_of_ends {value : String} {others : List Char} (hvalue : ';' ∉ value.toList)
    (hothers : Ends others) : valueOf (value.toList ++ others) = value := by
  have hstop : others.takeWhile (· != ';') = [] := by
    rcases hothers with rfl | ⟨rest, rfl⟩
    · rfl
    · rfl
  have hkeep : ∀ c ∈ value.toList, (c != ';') = true := by
    intro c hc
    exact bne_iff_ne.mpr fun h => hvalue (h ▸ hc)
  rw [valueOf, List.takeWhile_append_of_pos hkeep, hstop, List.append_nil, String.ofList_toList]

/-- A segment of the name says `value` exactly if that is what stands between the equals sign and
the end. -/
theorem answerOf_eq_iff {name value : String} {segment : List Char}
    (h : (pairStart name).isPrefixOf segment = true) :
    answerOf name segment = value ↔ ';' ∉ value.toList ∧
      ∃ others, segment = pairStart name ++ value.toList ++ others ∧ Ends others := by
  obtain ⟨rest, rfl⟩ := List.isPrefixOf_iff_prefix.mp h
  rw [answerOf, List.drop_left]
  constructor
  · rintro rfl
    obtain ⟨others, hrest, hends⟩ := exists_eq_valueOf_append rest
    refine ⟨semicolon_notMem_valueOf rest, others, ?_, hends⟩
    rw [List.append_assoc, ← hrest]
  · rintro ⟨hvalue, others, hrest, hends⟩
    rw [List.append_assoc, List.append_cancel_left_eq] at hrest
    rw [hrest, valueOf_eq_of_ends hvalue hends]

/-- A candidate stands in the line where a pair may begin: at its start or after a joint. -/
theorem exists_append_of_mem_candidates {line : List Char} {name : String} {rest : List Char}
    (h : rest ∈ candidates line name) :
    ∃ before, line = before ++ pairStart name ++ rest ∧ (before = [] ∨ joint <:+ before) := by
  rcases List.mem_append.mp h with h | h
  · by_cases hstarts : (pairStart name).isPrefixOf line = true
    · obtain ⟨tail, rfl⟩ := List.isPrefixOf_iff_prefix.mp hstarts
      obtain rfl : rest = tail := by simpa [hstarts] using h
      exact ⟨[], rfl, Or.inl rfl⟩
    · simp [hstarts] at h
  · obtain ⟨before, rfl⟩ := exists_append_of_mem_followers h
    exact ⟨before ++ joint, by simp [joinedStart, joint], Or.inr (List.suffix_append before joint)⟩

/-! ### The value -/

/-- For a name that holds no joint, the value is the answer of the only segment of the name. -/
theorem value?_eq_some_iff_answerOf {name : String} (hname : ¬ joint <:+: name.toList)
    (line value : String) :
    value? line name = some value ↔
      ∃ segment, segmentsOf name line.toList = [segment] ∧ answerOf name segment = value := by
  rw [value?_eq_some_iff, map_valueOf_candidates (solid_append_equals hname),
    List.map_eq_singleton_iff]

/-- For a name that holds no joint, there is no value exactly if there is not just one segment of
the name. -/
theorem value?_eq_none_iff {name : String} (hname : ¬ joint <:+: name.toList) (line : String) :
    value? line name = none ↔ (segmentsOf name line.toList).length ≠ 1 := by
  rw [Option.eq_none_iff_forall_ne_some]
  constructor
  · intro hnone hlength
    obtain ⟨segment, hsegment⟩ := List.length_eq_one_iff.mp hlength
    exact hnone _ ((value?_eq_some_iff_answerOf hname line _).mpr ⟨segment, hsegment, rfl⟩)
  · intro hlength value hvalue
    obtain ⟨segment, hsegment, -⟩ := (value?_eq_some_iff_answerOf hname line value).mp hvalue
    exact hlength (by rw [hsegment, List.length_singleton])

/-- Whatever the name, a value stands in the line where a pair may begin, up to its end. -/
theorem exists_append_of_value? {line name value : String} (h : value? line name = some value) :
    ';' ∉ value.toList ∧
      ∃ before others, line.toList = before ++ pairStart name ++ value.toList ++ others ∧
        (before = [] ∨ joint <:+ before) ∧ Ends others := by
  obtain ⟨rest, hrest, rfl⟩ := List.map_eq_singleton_iff.mp (value?_eq_some_iff.mp h)
  have hmem : rest ∈ candidates line.toList name := by
    rw [hrest]
    exact List.mem_singleton_self rest
  obtain ⟨before, hline, hbefore⟩ := exists_append_of_mem_candidates hmem
  obtain ⟨others, hothers, hends⟩ := exists_eq_valueOf_append rest
  refine ⟨semicolon_notMem_valueOf rest, before, others, ?_, hbefore, hends⟩
  rw [List.append_assoc _ _ others, ← hothers, hline]

/-- **The value of a cookie.**  For a name that holds no joint, the line has the value `value`
exactly if one of its segments and no other begins with the name and an equals sign, and `value`
is the text of that segment from there to the first semicolon or the end; there is no value
exactly if the number of such segments is not one.  For any name at all, a value holds no
semicolon and stands in the line where a pair may begin. -/
theorem value?_iff_unique_segment (line name : String) :
    (¬ joint <:+: name.toList →
      (∀ value, value? line name = some value ↔
        ∃ segment others, segmentsOf name line.toList = [segment] ∧
          segment = pairStart name ++ value.toList ++ others ∧
          ';' ∉ value.toList ∧ Ends others) ∧
      (value? line name = none ↔ (segmentsOf name line.toList).length ≠ 1)) ∧
    ∀ value, value? line name = some value →
      ';' ∉ value.toList ∧
      ∃ before others, line.toList = before ++ pairStart name ++ value.toList ++ others ∧
        (before = [] ∨ joint <:+ before) ∧ Ends others := by
  refine ⟨fun hname => ⟨fun value => ?_, value?_eq_none_iff hname line⟩,
    fun value hvalue => exists_append_of_value? hvalue⟩
  rw [value?_eq_some_iff_answerOf hname]
  constructor
  · rintro ⟨segment, hsegment, hanswer⟩
    have hmem : segment ∈ segmentsOf name line.toList := by simp [hsegment]
    obtain ⟨hvalue, others, heq, hends⟩ :=
      (answerOf_eq_iff (List.mem_filter.mp hmem).2).mp hanswer
    exact ⟨segment, others, hsegment, heq, hvalue, hends⟩
  · rintro ⟨segment, others, hsegment, heq, hvalue, hends⟩
    have hmem : segment ∈ segmentsOf name line.toList := by simp [hsegment]
    exact ⟨segment, hsegment,
      (answerOf_eq_iff (List.mem_filter.mp hmem).2).mpr ⟨hvalue, others, heq, hends⟩⟩

/-- The name may hold a semicolon, and the value ends before a bare one. -/
theorem value?_of_name_with_semicolon :
    ¬ joint <:+: "t;".toList ∧ value? "a=1; t;=x;y; b=2" "t;" = some "x" ∧
      ';' ∉ "x".toList := by
  have hname : ¬ joint <:+: "t;".toList := by decide
  have hvalue : value? "a=1; t;=x;y; b=2" "t;" = some "x" :=
    (((value?_iff_unique_segment _ _).1 hname).1 "x").mpr
      ⟨"t;=x;y".toList, [';', 'y'], by decide, by decide, by decide, Or.inr ⟨['y'], rfl⟩⟩
  exact ⟨hname, hvalue, ((value?_iff_unique_segment _ _).2 "x" hvalue).1⟩

end PageBehaviors.Cookie
