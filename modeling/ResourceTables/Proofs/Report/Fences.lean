import ResourceTables.Report.Fences
import Mathlib.Data.List.Infix

/-!
# Writing tables a second time

When tables are written to a document that has tables already, the new ones should take the place
of the old ones, as if the old ones had never been written. Whether they do is decided by the
comments that the document had before its first tables were written. A document has one of four
layouts:

* `Bare`: it has neither comment;
* `Paired`: its first opening comment stands before every closing one, and a closing one follows;
* `Unclosed`: it has an opening comment but no closing one;
* `Reversed`: its first closing comment stands before every opening one.

Main results:

* `mergeChars_paired`: what stands between the comments of a paired document is replaced;
* `mergeChars_mergeChars_unclosed`: in an unclosed document the second tables replace all that
  stood behind the stray opening comment;
* `mergeChars_mergeChars_reversed`: in a reversed document the second tables come behind the first;
* `merge_merge_eq_iff`: the second tables take the place of the first exactly in documents that
  were bare or paired.
-/

namespace ResourceTables.Fences

variable {part before after text : List Char}

/-! ## Searching -/

/-- The text begins with a character that cannot stand inside of the part, so that no part begins
before the text and ends in it. -/
def Apart (part text : List Char) : Prop :=
  ∀ c ∈ text.head?, c ∉ part.tail

theorem apart_cons {c : Char} : Apart part (c :: text) ↔ c ∉ part.tail := by
  simp [Apart]

theorem isPrefixOf_append (hafter : Apart part after) (hbefore : before ≠ []) :
    part.isPrefixOf (before ++ after) = part.isPrefixOf before := by
  rw [Bool.eq_iff_iff, List.isPrefixOf_iff_prefix, List.isPrefixOf_iff_prefix]
  constructor
  · intro h
    -- A part that reached beyond `before` would hold the first character behind it.
    by_contra hnot
    have hshort : before <+: part :=
      (List.prefix_or_prefix_of_prefix h (List.prefix_append before after)).resolve_left hnot
    obtain ⟨more, rfl⟩ := hshort
    have hmore : more <+: after := (List.prefix_append_right_inj before).1 h
    cases more with
    | nil => exact hnot (by simp)
    | cons c more =>
      obtain ⟨rest, rfl⟩ := hmore
      refine hafter c rfl ?_
      obtain ⟨d, before, rfl⟩ := List.exists_cons_of_ne_nil hbefore
      simp
  · exact fun h => h.trans (List.prefix_append before after)

/-- Searching a text is searching its first piece and then its second, when nothing that is
searched for begins in the first piece and ends in the second. -/
theorem indexOf?_append (hpart : part ≠ []) (hafter : Apart part after) :
    indexOf? part (before ++ after) =
      (indexOf? part before).or ((indexOf? part after).map (before.length + ·)) := by
  induction before with
  | nil => simp [indexOf?, hpart]
  | cons c before ih =>
    have hcons := isPrefixOf_append hafter (List.cons_ne_nil c before)
    rw [List.cons_append] at hcons ⊢
    rw [indexOf?, indexOf?, hcons, ih]
    split
    · rfl
    · cases indexOf? part before with
      | some n => rfl
      | none =>
        cases indexOf? part after with
        | some n => simp [Nat.add_right_comm]
        | none => rfl

theorem indexOf?_eq_none_iff (hpart : part ≠ []) : indexOf? part text = none ↔ ¬ part <:+: text := by
  induction text with
  | nil => simp [indexOf?, hpart]
  | cons c text ih =>
    rw [indexOf?, List.infix_cons_iff, ← List.isPrefixOf_iff_prefix]
    by_cases h : part.isPrefixOf (c :: text) <;> simp [h, ih]

/-- What occurs in a text occurs in it for a first time. -/
theorem exists_first (hpart : part ≠ []) (h : part <:+: text) :
    ∃ before after, text = before ++ part ++ after ∧ ¬ part <:+: before := by
  induction text with
  | nil => exact absurd (List.infix_nil.1 h) hpart
  | cons c text ih =>
    by_cases hc : part <+: c :: text
    · obtain ⟨after, hafter⟩ := hc
      exact ⟨[], after, hafter.symm, by simpa using hpart⟩
    · obtain ⟨before, after, rfl, hbefore⟩ := ih ((List.infix_cons_iff.1 h).resolve_left hc)
      refine ⟨c :: before, after, rfl, fun hin => ?_⟩
      rcases List.infix_cons_iff.1 hin with hprefix | hrest
      · exact hc (by simpa using hprefix.trans (List.prefix_append (c :: before) (part ++ after)))
      · exact hbefore hrest

/-! ## The two comments -/

theorem opening_ne_nil : opening ≠ [] := by decide

theorem closing_ne_nil : closing ≠ [] := by decide

theorem opening_eq_cons : opening = '<' :: opening.tail := by decide

theorem closing_eq_cons : closing = '<' :: closing.tail := by decide

/-- No comment begins inside of another one, since neither holds a second `<`. -/
theorem apart_comment {comment other : List Char} (hc : comment = opening ∨ comment = closing)
    (ho : other = opening ∨ other = closing) (rest : List Char) : Apart comment (other ++ rest) := by
  have hnot : '<' ∉ comment.tail := by rcases hc with rfl | rfl <;> decide
  rcases ho with rfl | rfl
  · rw [opening_eq_cons, List.cons_append]
    exact apart_cons.2 hnot
  · rw [closing_eq_cons, List.cons_append]
    exact apart_cons.2 hnot

/-- No comment reaches over the end of a line. -/
theorem apart_newline {comment : List Char} (hc : comment = opening ∨ comment = closing)
    (rest : List Char) : Apart comment ('\n' :: rest) := by
  rw [apart_cons]
  rcases hc with rfl | rfl <;> decide

/-- The comments differ in their sixth character. -/
theorem not_prefix_opening (rest : List Char) : ¬ closing <+: opening ++ rest := by
  rintro ⟨more, h⟩
  have htake := congrArg (List.take 6) h
  rw [List.take_append_of_le_length (by decide), List.take_append_of_le_length (by decide)] at htake
  exact absurd htake (by decide)

theorem not_prefix_closing (rest : List Char) : ¬ opening <+: closing ++ rest := by
  rintro ⟨more, h⟩
  have htake := congrArg (List.take 6) h
  rw [List.take_append_of_le_length (by decide), List.take_append_of_le_length (by decide)] at htake
  exact absurd htake (by decide)

/-- No closing comment begins in an opening one. -/
theorem infix_of_infix_opening {rest : List Char} (h : closing <:+: opening ++ rest) :
    closing <:+: rest := by
  -- Behind the first character of the opening comment no comment can begin.
  have hskip : ∀ middle : List Char, '<' ∉ middle → closing <:+: middle ++ rest →
      closing <:+: rest := by
    intro middle
    induction middle with
    | nil => exact fun _ h => h
    | cons c middle ih =>
      intro hmem hin
      obtain ⟨hc, hmiddle⟩ := not_or.1 (mt List.mem_cons.2 hmem)
      rcases List.infix_cons_iff.1 hin with ⟨more, hprefix⟩ | hrest
      · rw [closing_eq_cons] at hprefix
        exact absurd (List.cons.inj hprefix).1 hc
      · exact ih hmiddle hrest
  have hcons : opening ++ rest = '<' :: (opening.tail ++ rest) := by
    rw [← List.cons_append, ← opening_eq_cons]
  rw [hcons] at h
  rcases List.infix_cons_iff.1 h with hprefix | htail
  · exact absurd (hcons ▸ hprefix) (not_prefix_opening rest)
  · exact hskip opening.tail (by decide) htail

/-- Where a comment stands for the first time. -/
theorem indexOf?_comment {comment : List Char} (hc : comment = opening ∨ comment = closing)
    (hbefore : ¬ comment <:+: before) (rest : List Char) :
    indexOf? comment (before ++ (comment ++ rest)) = some before.length := by
  have hne : comment ≠ [] := by
    rcases hc with rfl | rfl
    · exact opening_ne_nil
    · exact closing_ne_nil
  have hself : indexOf? comment (comment ++ rest) = some 0 := by
    obtain ⟨c, tail, rfl⟩ := List.exists_cons_of_ne_nil hne
    rw [List.cons_append, indexOf?, ← List.cons_append, if_pos]
    exact List.isPrefixOf_iff_prefix.2 (List.prefix_append _ rest)
  rw [indexOf?_append hne (apart_comment hc hc rest), (indexOf?_eq_none_iff hne).2 hbefore, hself]
  rfl

/-- A comment in a text of two pieces stands in one of them, when the second piece begins with a
comment or a new line. -/
theorem not_infix_append {comment : List Char} (hne : comment ≠ []) (hafter : Apart comment after)
    (hb : ¬ comment <:+: before) (ha : ¬ comment <:+: after) : ¬ comment <:+: before ++ after := by
  rw [← indexOf?_eq_none_iff hne] at hb ha ⊢
  rw [indexOf?_append hne hafter, hb, ha]
  rfl

/-! ## Layouts of a document -/

/-- The document has neither comment. -/
def Bare (text : List Char) : Prop :=
  ¬ opening <:+: text ∧ ¬ closing <:+: text

/-- The document has both comments, and its first opening comment stands before every closing one:
`before`, the opening comment, `inside`, the closing comment, `after`. -/
structure Paired (text before inside after : List Char) : Prop where
  /-- The pieces of the document. -/
  eq : text = before ++ (opening ++ (inside ++ (closing ++ after)))
  /-- The opening comment is the first one. -/
  no_opening : ¬ opening <:+: before
  /-- No closing comment stands before it. -/
  no_closing : ¬ closing <:+: before
  /-- The closing comment is the first one behind it. -/
  inside_no_closing : ¬ closing <:+: inside

/-- The document has an opening comment, behind `before`, but no closing one. -/
structure Unclosed (text before rest : List Char) : Prop where
  /-- The pieces of the document. -/
  eq : text = before ++ (opening ++ rest)
  /-- The opening comment is the first one. -/
  no_opening : ¬ opening <:+: before
  /-- No closing comment stands before it. -/
  no_closing : ¬ closing <:+: before
  /-- No closing comment stands behind it. -/
  rest_no_closing : ¬ closing <:+: rest

/-- The first comment of the document is a closing one, behind `before`. -/
structure Reversed (text before rest : List Char) : Prop where
  /-- The pieces of the document. -/
  eq : text = before ++ (closing ++ rest)
  /-- No opening comment stands before it. -/
  no_opening : ¬ opening <:+: before
  /-- The closing comment is the first one. -/
  no_closing : ¬ closing <:+: before

/-- Every document has one of the four layouts. -/
theorem layout_cases (text : List Char) :
    Bare text ∨ (∃ before inside after, Paired text before inside after) ∨
      (∃ before rest, Unclosed text before rest) ∨ ∃ before rest, Reversed text before rest := by
  by_cases hopening : opening <:+: text
  · obtain ⟨before, rest, rfl, hfirst⟩ := exists_first opening_ne_nil hopening
    rw [List.append_assoc]
    by_cases hbefore : closing <:+: before
    · -- A closing comment stands before the first opening one.
      obtain ⟨outer, inner, rfl, hclosing⟩ := exists_first closing_ne_nil hbefore
      refine .inr (.inr (.inr ⟨outer, inner ++ (opening ++ rest), by simp, ?_, hclosing⟩))
      exact fun h => hfirst (by simpa using h.trans (List.infix_append [] outer _))
    · by_cases hrest : closing <:+: rest
      · obtain ⟨inside, after, rfl, hinside⟩ := exists_first closing_ne_nil hrest
        exact .inr (.inl ⟨before, inside, after, by simp, hfirst, hbefore, hinside⟩)
      · exact .inr (.inr (.inl ⟨before, rest, rfl, hfirst, hbefore, hrest⟩))
  · by_cases hclosing : closing <:+: text
    · obtain ⟨before, rest, rfl, hfirst⟩ := exists_first closing_ne_nil hclosing
      refine .inr (.inr (.inr ⟨before, rest, by simp, ?_, hfirst⟩))
      exact fun h => hopening (by simpa using h.trans (List.infix_append [] before _))
    · exact .inl ⟨hopening, hclosing⟩

/-! ## Where the tables go -/

theorem find?_bare (h : Bare text) : find? text = none := by
  rw [find?, (indexOf?_eq_none_iff opening_ne_nil).2 h.1]

theorem find?_paired {inside : List Char} (h : Paired text before inside after) :
    find? text = some (before.length, (before ++ (opening ++ inside)).length) := by
  have hopening : indexOf? opening text = some before.length := by
    rw [h.eq]
    exact indexOf?_comment (.inl rfl) h.no_opening _
  have hno : ¬ closing <:+: before ++ (opening ++ inside) :=
    not_infix_append closing_ne_nil (apart_comment (.inr rfl) (.inl rfl) _) h.no_closing
      (mt infix_of_infix_opening h.inside_no_closing)
  have hclosing : indexOf? closing text = some (before ++ (opening ++ inside)).length := by
    have heq : text = (before ++ (opening ++ inside)) ++ (closing ++ after) := by simp [h.eq]
    rw [heq]
    exact indexOf?_comment (.inr rfl) hno after
  rw [find?, hopening, hclosing]
  simp

theorem find?_unclosed {rest : List Char} (h : Unclosed text before rest) : find? text = none := by
  have hno : ¬ closing <:+: text := by
    rw [h.eq]
    exact not_infix_append closing_ne_nil (apart_comment (.inr rfl) (.inl rfl) _) h.no_closing
      (mt infix_of_infix_opening h.rest_no_closing)
  rw [find?, (indexOf?_eq_none_iff closing_ne_nil).2 hno]
  cases indexOf? opening text <;> rfl

theorem find?_reversed {rest : List Char} (h : Reversed text before rest) : find? text = none := by
  have hclosing : indexOf? closing text = some before.length := by
    rw [h.eq]
    exact indexOf?_comment (.inr rfl) h.no_closing rest
  -- The first opening comment, if there is one, stands behind the closing one.
  have hopening : ∀ n, indexOf? opening text = some n → before.length < n := by
    intro n hn
    rw [h.eq, indexOf?_append opening_ne_nil (apart_comment (.inl rfl) (.inr rfl) rest),
      (indexOf?_eq_none_iff opening_ne_nil).2 h.no_opening, Option.none_or] at hn
    obtain ⟨k, hk, rfl⟩ := Option.map_eq_some_iff.1 hn
    have hpos : k ≠ 0 := by
      rintro rfl
      rw [closing_eq_cons, List.cons_append, indexOf?, ← List.cons_append, ← closing_eq_cons,
        if_neg (mt List.isPrefixOf_iff_prefix.1 (not_prefix_closing rest))] at hk
      simp at hk
    omega
  rw [find?, hclosing]
  cases hfirst : indexOf? opening text with
  | none => rfl
  | some n => simp [hopening n hfirst]

/-- The lines from the opening comment to the closing one. -/
def fenced (tables : List Char) : List Char :=
  opening ++ ('\n' :: tables ++ ['\n'] ++ closing)

/-- A document without a place for tables gets one at its end. -/
theorem mergeChars_of_find?_eq_none (h : find? text = none) (tables : List Char) :
    mergeChars text tables =
      (if text.isEmpty then [] else text ++ ['\n']) ++ (fenced tables ++ ['\n']) := by
  simp [mergeChars, h, fenced]

/-- A document with a stray comment gets a place for tables on a line of its own. -/
theorem mergeChars_of_stray {comment rest : List Char}
    (hc : comment = opening ∨ comment = closing) (heq : text = before ++ (comment ++ rest))
    (h : find? text = none) (tables : List Char) :
    mergeChars text tables = text ++ ('\n' :: (fenced tables ++ ['\n'])) := by
  have hne : text.isEmpty = false := by
    rcases hc with rfl | rfl
    · simp [heq, opening_ne_nil]
    · simp [heq, closing_ne_nil]
  rw [mergeChars_of_find?_eq_none h, hne, if_neg Bool.false_ne_true]
  simp

/-- What stands between the comments of a paired document is replaced. -/
theorem mergeChars_paired {inside : List Char} (h : Paired text before inside after)
    (tables : List Char) :
    mergeChars text tables = before ++ (fenced tables ++ after) := by
  have hdrop : text.drop (before ++ (opening ++ inside)).length = closing ++ after := by
    have heq : text = (before ++ (opening ++ inside)) ++ (closing ++ after) := by simp [h.eq]
    rw [heq, List.drop_left]
  have htake : text.take before.length = before := by rw [h.eq, List.take_left]
  rw [mergeChars, find?_paired h]
  simp only [htake, hdrop, fenced]
  simp

/-- Tables between their comments make a document paired, when no comment stands before them and
the tables hold no closing comment. -/
theorem paired_fenced {tables : List Char} (htables : ¬ closing <:+: tables)
    (hopening : ¬ opening <:+: before) (hclosing : ¬ closing <:+: before) (after : List Char) :
    Paired (before ++ (fenced tables ++ after)) before ('\n' :: tables ++ ['\n']) after := by
  refine ⟨by simp [fenced], hopening, hclosing, ?_⟩
  have hend : ¬ closing <:+: ['\n'] := by decide
  have hstart : ¬ closing <:+: '\n' :: tables := by
    intro h
    rcases List.infix_cons_iff.1 h with ⟨more, hprefix⟩ | hin
    · rw [closing_eq_cons] at hprefix
      exact absurd (List.cons.inj hprefix).1 (by decide)
    · exact htables hin
  exact not_infix_append closing_ne_nil (apart_newline (.inr rfl) []) hstart hend

/-! ## Writing twice -/

variable {first : List Char}

/-- In a document without comments, the second tables take the place of the first. -/
theorem mergeChars_mergeChars_bare (h : Bare text) (hfirst : ¬ closing <:+: first)
    (second : List Char) : mergeChars (mergeChars text first) second = mergeChars text second := by
  rw [mergeChars_of_find?_eq_none (find?_bare h), mergeChars_of_find?_eq_none (find?_bare h)]
  split
  · exact mergeChars_paired (paired_fenced hfirst (by decide) (by decide) ['\n']) second
  · have hopening : ¬ opening <:+: text ++ ['\n'] :=
      not_infix_append opening_ne_nil (apart_newline (.inl rfl) []) h.1 (by decide)
    have hclosing : ¬ closing <:+: text ++ ['\n'] :=
      not_infix_append closing_ne_nil (apart_newline (.inr rfl) []) h.2 (by decide)
    exact mergeChars_paired (paired_fenced hfirst hopening hclosing ['\n']) second

/-- In a paired document, the second tables take the place of the first. -/
theorem mergeChars_mergeChars_paired {inside : List Char} (h : Paired text before inside after)
    (hfirst : ¬ closing <:+: first) (second : List Char) :
    mergeChars (mergeChars text first) second = mergeChars text second := by
  rw [mergeChars_paired h, mergeChars_paired h]
  exact mergeChars_paired (paired_fenced hfirst h.no_opening h.no_closing after) second

/-- In an unclosed document the first tables go to the end, and the second ones replace everything
from the stray opening comment to the closing comment of the first. -/
theorem mergeChars_mergeChars_unclosed {rest : List Char} (h : Unclosed text before rest)
    (hfirst : ¬ closing <:+: first) (second : List Char) :
    mergeChars (mergeChars text first) second = before ++ (fenced second ++ ['\n']) := by
  rw [mergeChars_of_stray (.inl rfl) h.eq (find?_unclosed h)]
  -- The document is paired now, with the stray comment as its first one.
  have hopening : ¬ opening <:+: ['\n'] := by decide
  have hclosing : ¬ closing <:+: ['\n'] := by decide
  have hpaired := paired_fenced hfirst hopening hclosing ['\n']
  have hinside : ¬ closing <:+: rest ++ ('\n' :: (opening ++ ('\n' :: first ++ ['\n']))) := by
    refine not_infix_append closing_ne_nil (apart_newline (.inr rfl) _) h.rest_no_closing ?_
    exact not_infix_append closing_ne_nil (apart_comment (.inr rfl) (.inl rfl) _) hclosing
      (mt infix_of_infix_opening hpaired.inside_no_closing)
  refine mergeChars_paired ⟨?_, h.no_opening, h.no_closing, hinside⟩ second
  simp [h.eq, fenced]

/-- In a reversed document the tables are written to the end each time. -/
theorem mergeChars_mergeChars_reversed {rest : List Char} (h : Reversed text before rest)
    (first second : List Char) :
    mergeChars (mergeChars text first) second =
      mergeChars text first ++ ('\n' :: (fenced second ++ ['\n'])) := by
  -- The first comment stays the first one, whatever is written behind it.
  have hreversed : Reversed (mergeChars text first) before
      (rest ++ ('\n' :: (fenced first ++ ['\n']))) := by
    refine ⟨?_, h.no_opening, h.no_closing⟩
    rw [mergeChars_of_stray (.inr rfl) h.eq (find?_reversed h), h.eq]
    simp
  exact mergeChars_of_stray (.inr rfl) hreversed.eq (find?_reversed hreversed) second

/-- In an unclosed document, text that stood behind the stray comment is lost. -/
theorem mergeChars_mergeChars_ne_of_unclosed {rest : List Char} (h : Unclosed text before rest)
    (hfirst : ¬ closing <:+: first) (second : List Char) :
    mergeChars (mergeChars text first) second ≠ mergeChars text second := by
  intro heq
  have hlength := congrArg List.length heq
  rw [mergeChars_mergeChars_unclosed h hfirst,
    mergeChars_of_stray (.inl rfl) h.eq (find?_unclosed h), h.eq] at hlength
  have hpos : 0 < opening.length := List.length_pos_iff.2 opening_ne_nil
  simp only [List.length_append, List.length_cons] at hlength
  omega

/-- In a reversed document, the first tables are still there. -/
theorem mergeChars_mergeChars_ne_of_reversed {rest : List Char} (h : Reversed text before rest)
    (first second : List Char) :
    mergeChars (mergeChars text first) second ≠ mergeChars text second := by
  intro heq
  have hlength := congrArg List.length heq
  rw [mergeChars_mergeChars_reversed h,
    mergeChars_of_stray (.inr rfl) h.eq (find?_reversed h),
    mergeChars_of_stray (.inr rfl) h.eq (find?_reversed h)] at hlength
  simp only [List.length_append, List.length_cons] at hlength
  omega

theorem merge_eq_merge_iff {existing first second : String} :
    merge (merge existing first) second = merge existing second ↔
      mergeChars (mergeChars existing.toList first.toList) second.toList =
        mergeChars existing.toList second.toList := by
  simp only [merge, String.toList_ofList, String.ofList_inj]

theorem not_bare_of_unclosed {rest : List Char} (h : Unclosed text before rest) : ¬ Bare text :=
  fun hbare => hbare.1 ⟨before, rest, by simp [h.eq]⟩

theorem not_bare_of_reversed {rest : List Char} (h : Reversed text before rest) : ¬ Bare text :=
  fun hbare => hbare.2 ⟨before, rest, by simp [h.eq]⟩

/-- A paired document has a place for tables. -/
theorem not_paired_of_find?_eq_none (h : find? text = none) :
    ¬ ∃ before inside after, Paired text before inside after := by
  rintro ⟨before, inside, after, hpaired⟩
  rw [find?_paired hpaired] at h
  cases h

/-- Writing tables a second time gives what writing the second tables alone would have given exactly
in a document with neither comment, or with its first opening comment before every closing one and a
closing one behind it. Tables hold no closing comment. -/
theorem merge_merge_eq_iff {first : String} (hfirst : ¬ closing <:+: first.toList)
    (existing second : String) :
    merge (merge existing first) second = merge existing second ↔
      Bare existing.toList ∨ ∃ before inside after, Paired existing.toList before inside after := by
  rw [merge_eq_merge_iff]
  rcases layout_cases existing.toList with h | ⟨before, inside, after, h⟩ | ⟨before, rest, h⟩ |
    ⟨before, rest, h⟩
  · exact iff_of_true (mergeChars_mergeChars_bare h hfirst _) (.inl h)
  · exact iff_of_true (mergeChars_mergeChars_paired h hfirst _) (.inr ⟨before, inside, after, h⟩)
  · exact iff_of_false (mergeChars_mergeChars_ne_of_unclosed h hfirst _)
      (not_or.2 ⟨not_bare_of_unclosed h, not_paired_of_find?_eq_none (find?_unclosed h)⟩)
  · exact iff_of_false (mergeChars_mergeChars_ne_of_reversed h _ _)
      (not_or.2 ⟨not_bare_of_reversed h, not_paired_of_find?_eq_none (find?_reversed h)⟩)

/-- The second of two closing comments is left alone. -/
theorem merge_merge_eq_iff_doubled :
    let existing := String.ofList ("a".toList ++ (opening ++ ("b".toList ++ (closing ++ closing))))
    ¬ closing <:+: "ONE".toList ∧
      merge (merge existing "ONE") "TWO" = merge existing "TWO" := by
  intro existing
  have hfirst : ¬ closing <:+: "ONE".toList := by decide
  have hpaired : Paired existing.toList "a".toList "b".toList closing :=
    ⟨String.toList_ofList, by decide, by decide, by decide⟩
  exact ⟨hfirst, (merge_merge_eq_iff hfirst existing "TWO").2 (.inr ⟨_, _, _, hpaired⟩)⟩

/-- Tables that are written a second time to a document with both comments in the wrong order come
behind those of the first time. -/
theorem not_forall_merge_merge_eq :
    ¬ ∀ existing first second : String,
      (¬ opening <:+: first.toList ∧ ¬ closing <:+: first.toList) →
      (¬ opening <:+: second.toList ∧ ¬ closing <:+: second.toList) →
      merge (merge existing first) second = merge existing second := by
  intro h
  have hnew : ¬ opening <:+: "NEW".toList ∧ ¬ closing <:+: "NEW".toList := by decide
  have hreversed : Reversed
      "<!-- END_TF_RESOURCE_TABLES -->\n<!-- BEGIN_TF_RESOURCE_TABLES -->\n".toList []
      ('\n' :: opening ++ ['\n']) :=
    ⟨by decide +kernel, by decide, by decide⟩
  exact mergeChars_mergeChars_ne_of_reversed hreversed "NEW".toList "NEW".toList
    (merge_eq_merge_iff.1 (h _ "NEW" "NEW" hnew hnew))

end ResourceTables.Fences
