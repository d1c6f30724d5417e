import Mathlib.Data.List.Forall2
import ResourceTables.Proofs.Report.Lines
import ResourceTables.Proofs.Report.Numerals
import ResourceTables.Report.Markdown

/-!
# The shape of a markdown table

A table keeps its shape as long as the texts in its cells do: a carriage return ends a line, and a
bar that is behind an odd number of backslashes already is behind an even number of them once it is
escaped.

* `Markdown.Shaped level t lines`: the lines are those of the table, one for each row, and each row
  has one cell more than there are attributes;
* `Markdown.Contained s`: the text stays within its cell;
* `Markdown.length_splitBars_escaped`: an escaped text is one cell exactly if no bar in it was behind
  an odd number of backslashes;
* `Markdown.shaped_iff`: a table has its shape exactly if the texts of all its cells are contained.
-/

namespace ResourceTables.Markdown

/-! ## Shapes -/

/-- The line above a table. -/
def heading (level : Int) (type : String) : List Char :=
  List.replicate level.toNat '#' ++ ' ' :: type.toList

/-- The lines are a heading, an empty line, a row of titles, a row of dashes and a row for each
resource, in order, and each row has a cell for the name and one for each attribute. -/
inductive Shaped (level : Int) (t : Table) : List (List Char) → Prop
  | intro {titles dashes : List Char} {rows : List (List Char)}
      (htitles : HasCells (t.request.attributes.length + 1) titles)
      (hdashes : HasCells (t.request.attributes.length + 1) dashes)
      (hrows : List.Forall₂ (fun row line => HasCells (t.request.attributes.length + 1) line ∧
        ("| [`" ++ row.name ++ "`](").toList <+: line) t.rows rows) :
      Shaped level t (heading level t.request.type :: [] :: titles :: dashes :: rows)

/-- Whether a bar stands behind an odd number of backslashes. -/
def hasSlashedBar : Bool → List Char → Bool
  | _, [] => false
  | odd, c :: rest => (c == '|' && odd) || hasSlashedBar (c == '\\' && !odd) rest

/-- The text stays within its cell. -/
structure Contained (s : String) : Prop where
  /-- Nothing ends the line. -/
  noReturn : '\r' ∉ s.toList
  /-- Nothing ends the cell. -/
  noSlashedBar : hasSlashedBar false s.toList = false

/-- The text has no bar, no backslash and no line end. -/
def Plain (cs : List Char) : Prop :=
  ∀ c ∈ cs, c ≠ '|' ∧ c ≠ '\\' ∧ c ≠ '\r' ∧ c ≠ '\n'

instance (cs : List Char) : Decidable (Plain cs) :=
  List.decidableBAll _ cs

variable {cs ds : List Char} {c : Char} {odd : Bool}

/-! ## The texts of cells -/

/-- An escaped text is one piece exactly if no bar in it was behind an odd number of backslashes. -/
theorem length_splitBars_escaped (odd : Bool) (cs : List Char) :
    (splitBars odd (cs.flatMap cellChar ++ [' '])).length = 1 ↔ hasSlashedBar odd cs = false := by
  induction cs generalizing odd with
  | nil => simp [splitBars, hasSlashedBar]
  | cons c cs ih =>
    rw [List.flatMap_cons, List.append_assoc, hasSlashedBar]
    by_cases hbar : c = '|'
    · subst hbar
      have hchar : cellChar '|' = ['\\', '|'] := rfl
      rw [hchar, List.cons_append, length_splitBars_cons (by decide)]
      cases odd with
      -- The backslash that is added is the only one of its run, and escapes the bar.
      | false =>
        have hkept : splitBars true ('|' :: (cs.flatMap cellChar ++ [' '])) =
            ('|' :: (splitBars false (cs.flatMap cellChar ++ [' '])).headD []) ::
              (splitBars false (cs.flatMap cellChar ++ [' '])).tail := by
          rw [splitBars]
          simp
        have hpositive :=
          List.length_pos_iff.2 (splitBars_ne_nil false (cs.flatMap cellChar ++ [' ']))
        simp only [beq_self_eq_true, Bool.not_false, Bool.and_self, List.singleton_append, hkept,
          List.length_cons, List.length_tail, Bool.and_false, Bool.false_or]
        rw [Nat.sub_add_cancel hpositive]
        exact ih false
      -- It completes a run of even length, so the bar separates.
      | true =>
        have hcut : splitBars false ('|' :: (cs.flatMap cellChar ++ [' '])) =
            [] :: splitBars false (cs.flatMap cellChar ++ [' ']) := by
          rw [splitBars]
          simp
        have hpositive :=
          List.length_pos_iff.2 (splitBars_ne_nil false (cs.flatMap cellChar ++ [' ']))
        simp only [beq_self_eq_true, Bool.not_true, Bool.and_false, List.singleton_append, hcut,
          List.length_cons, Bool.and_self, Bool.true_or, Bool.true_eq_false, iff_false]
        omega
    · by_cases hnewline : c = '\n'
      · subst hnewline
        have hchar : cellChar '\n' = ['<', 'b', 'r', '>'] := rfl
        simp only [hchar, List.cons_append, List.nil_append]
        rw [length_splitBars_cons (by decide), length_splitBars_cons (by decide),
          length_splitBars_cons (by decide), length_splitBars_cons (by decide)]
        exact ih false
      · have hchar : cellChar c = [c] := by
          rw [cellChar, if_neg hbar, if_neg hnewline]
        rw [hchar, List.singleton_append, length_splitBars_cons hbar, ih, beq_false_of_ne hbar]
        simp

/-! ## Plain texts -/

theorem Plain.append (h : Plain cs) (h' : Plain ds) : Plain (cs ++ ds) :=
  fun c hc => (List.mem_append.1 hc).elim (h c) (h' c)

theorem Plain.cons (hc : c ≠ '|' ∧ c ≠ '\\' ∧ c ≠ '\r' ∧ c ≠ '\n') (h : Plain cs) :
    Plain (c :: cs) :=
  List.forall_mem_cons.2 ⟨hc, h⟩

theorem plain_nil : Plain [] :=
  fun _ hc => nomatch hc

theorem Plain.noBar (h : Plain cs) : '|' ∉ cs :=
  fun hmem => (h _ hmem).1 rfl

theorem Plain.noReturn (h : Plain cs) : '\r' ∉ cs :=
  fun hmem => (h _ hmem).2.2.1 rfl

theorem Plain.noNewline (h : Plain cs) : '\n' ∉ cs :=
  fun hmem => (h _ hmem).2.2.2 rfl

theorem plain_of_areDigits (h : Json.AreDigits cs) : Plain cs := by
  intro c hc
  have hdigit := h c hc
  refine ⟨?_, ?_, ?_, ?_⟩ <;>
  · rintro rfl
    revert hdigit
    decide

theorem plain_replicate (hc : c ≠ '|' ∧ c ≠ '\\' ∧ c ≠ '\r' ∧ c ≠ '\n') (n : Nat) :
    Plain (List.replicate n c) := by
  intro d hd
  rw [List.eq_of_mem_replicate hd]
  exact hc

theorem plain_digitsOf (n : Nat) : Plain (Decimal.digitsOf n) :=
  plain_of_areDigits (Json.areDigits_digitsOf n)

theorem plain_toString_nat (n : Nat) : Plain (toString n).toList := by
  show Plain n.repr.toList
  rw [Nat.toList_repr]
  exact plain_digitsOf n

theorem plain_toString_int (n : Int) : Plain (toString n).toList := by
  cases n with
  | ofNat k => exact plain_toString_nat k
  | negSucc k =>
    have hminus : (toString (Int.negSucc k)).toList = ['-'] ++ (toString (k + 1)).toList :=
      String.toList_append
    rw [hminus]
    exact .cons (by decide) (plain_toString_nat _)

theorem plain_withPoint (h : Plain cs) (places : Nat) : Plain (Decimal.withPoint cs places) := by
  unfold Decimal.withPoint
  split
  · exact h
  · have hpadded : Plain (List.replicate (places + 1 - cs.length) '0' ++ cs) :=
      (plain_replicate (by decide) _).append h
    refine Plain.append ?_ (.cons (by decide) ?_)
    · exact fun c hc => hpadded c (List.mem_of_mem_take hc)
    · exact fun c hc => hpadded c (List.mem_of_mem_drop hc)

theorem plain_show (l : Binary64.Layout) (d : Decimal) : Plain (l.show d).toList := by
  have hdigits := plain_digitsOf d.coefficient
  unfold Binary64.Layout.show
  rw [String.toList_ofList]
  -- The sign, and then positional or scientific notation.
  refine Plain.append ?_ ?_
  · split
    · exact .cons (by decide) plain_nil
    · exact plain_nil
  · split
    · split
      · exact (hdigits.append (plain_replicate (by decide) _)).append
          (.cons (by decide) (.cons (by decide) plain_nil))
      · exact plain_withPoint hdigits _
    · refine Plain.append ?_ (.cons (by decide) (.cons ?_ ?_))
      · split
        · next first heq => exact heq ▸ hdigits
        · next first rest _ heq =>
          rw [heq] at hdigits
          obtain ⟨hfirst, hrest⟩ := List.forall_mem_cons.1 hdigits
          exact .cons hfirst (.cons (by decide) hrest)
        · exact plain_nil
      · split <;> decide
      · exact (plain_replicate (by decide) _).append (plain_digitsOf _)

/-- The text of a number is plain. -/
theorem plain_display (x : Binary64) : Plain x.display.toList := by
  have htext : Plain x.text.toList := by
    unfold Binary64.text
    split
    · split
      · split <;> decide
      · exact plain_show _ _
    · split <;> decide
    · decide
  unfold Binary64.display
  split
  · dsimp only
    split
    · rw [String.toList_append]
      refine Plain.append ?_ (plain_toString_nat _)
      split <;> decide
    · exact htext
  · exact htext

/-! ## Tables -/

/-- A cell of a row, with a blank on either side. -/
def padded (cell : Option Cell) : List Char :=
  ' ' :: ((cellText cell).toList ++ [' '])

/-- The row of titles. -/
def titleRow (attributes : List String) : List Char :=
  barred (" **Name** ".toList :: attributes.map fun a => " `".toList ++ a.toList ++ "` ".toList)

/-- The row of dashes. -/
def dashRow (attributes : List String) : List Char :=
  barred ("----------".toList :: attributes.map fun a => (dashes a).toList)

/-- The cell with the name of a resource. -/
def nameCell (link : String) (row : Row) : List Char :=
  " [`".toList ++ row.name.toList ++ "`](".toList ++ link.toList ++ ") ".toList

/-- The row of a resource. -/
def resourceRow (attributes : List String) (link : String) (row : Row) : List Char :=
  barred (nameCell link row :: attributes.map fun a => padded (row.cells.lookup a))

/-- The lines of a table whose rows have the links. -/
def tableLines (level : Int) (t : Table) (link : Row → String) : List (List Char) :=
  heading level t.request.type :: [] :: titleRow t.request.attributes ::
    dashRow t.request.attributes ::
    t.rows.map fun row => resourceRow t.request.attributes (link row) row

theorem toList_rowLine (attributes : List String) (link : String) (row : Row) :
    (rowLine attributes link row).toList = resourceRow attributes link row ++ ['\n'] := by
  simp [rowLine, Markdown.cells, resourceRow, barred, nameCell, padded, List.flatMap_map]

theorem toList_header (level : Int) (request : TableRequest) :
    (header level request).toList =
      ended [heading level request.type, [], titleRow request.attributes,
        dashRow request.attributes] := by
  simp [header, Markdown.cells, ended, heading, titleRow, dashRow, barred, List.flatMap_map]

/-- Where all rows have their links, the table has its lines. -/
theorem exists_table {here : List String} {directory : String} (level : Int) {t : Table}
    {link : Row → String} (h : ∀ row ∈ t.rows, link? here directory row = some (link row)) :
    ∃ text, table? here directory level t = some text ∧
      text.toList = ended (tableLines level t link) := by
  have hlines : (t.rows.mapM fun row => (link? here directory row).map fun link =>
      rowLine t.request.attributes link row) =
        some (t.rows.map fun row => rowLine t.request.attributes (link row) row) := by
    generalize t.rows = rows at h
    induction rows with
    | nil => rfl
    | cons row rows ih =>
      obtain ⟨hrow, hrows⟩ := List.forall_mem_cons.1 h
      rw [List.mapM_cons, hrow, ih hrows]
      rfl
  refine ⟨_, by rw [table?, hlines]; rfl, ?_⟩
  rw [String.toList_append, toList_header]
  simp [ended, tableLines, List.flatMap_map, toList_rowLine]

theorem mem_barred {cells : List (List Char)} (hc : c ≠ '|') :
    c ∈ barred cells ↔ ∃ cell ∈ cells, c ∈ cell := by
  simp [barred, hc]

theorem getLast?_barred (cells : List (List Char)) : (barred cells).getLast? = some '|' := by
  induction cells using List.reverseRecOn with
  | nil => rfl
  | append_singleton cells cell _ =>
    rw [barred, List.flatMap_append, List.flatMap_singleton, ← List.append_assoc, ← List.cons_append,
      List.getLast?_append]
    rfl

theorem endsOdd_of_plain (h : Plain cs) : endsOdd false cs = false := by
  induction cs with
  | nil => rfl
  | cons c cs ih =>
    obtain ⟨hc, hcs⟩ := List.forall_mem_cons.1 h
    rw [endsOdd, beq_false_of_ne hc.2.1]
    exact ih hcs

/-- A row of plain cells is read as it is. -/
theorem hasCells_barred_of_plain {cells : List (List Char)} (h : ∀ cell ∈ cells, Plain cell) :
    HasCells cells.length (barred cells) :=
  (hasCells_barred_iff fun cell hcell => endsOdd_of_plain (h cell hcell)).2 fun cell hcell =>
    length_splitBars_of_not_mem (h cell hcell).noBar

theorem endsOdd_padded (cell : Option Cell) : endsOdd false (padded cell) = false :=
  show endsOdd false (' ' :: (cellText cell).toList ++ [' ']) = false from
    endsOdd_append_singleton (by decide)

/-- A plain text is shown as it is. -/
theorem flatMap_cellChar_of_plain (h : Plain cs) : cs.flatMap cellChar = cs := by
  induction cs with
  | nil => rfl
  | cons c cs ih =>
    obtain ⟨hc, hcs⟩ := List.forall_mem_cons.1 h
    rw [List.flatMap_cons, ih hcs, cellChar, if_neg hc.1, if_neg hc.2.2.2]
    rfl

/-- What a cell shows is plain, unless it is a text. -/
theorem plain_cellText {cell : Option Cell} (h : ∀ s, cell ≠ some (.string s)) :
    Plain (cellText cell).toList := by
  rcases cell with _ | ⟨s⟩ | x | b | e
  · decide
  · exact absurd rfl (h s)
  · rw [cellText, String.toList_ofList]
    · exact (flatMap_cellChar_of_plain (plain_display x)).symm ▸ plain_display x
    · nofun
  · cases b <;> decide
  · exact (by decide : Plain unknownText.toList)

/-- A text takes one cell exactly if no bar in it stands behind an odd number of backslashes. -/
theorem length_splitBars_padded (cell : Option Cell) :
    (splitBars false (padded cell)).length = 1 ↔
      ∀ s, cell = some (.string s) → hasSlashedBar false s.toList = false := by
  rw [padded, length_splitBars_cons (by decide)]
  by_cases h : ∃ s, cell = some (.string s)
  · obtain ⟨s, rfl⟩ := h
    have htext : (cellText (some (.string s))).toList = s.toList.flatMap cellChar :=
      String.toList_ofList
    rw [htext]
    refine (length_splitBars_escaped false s.toList).trans ?_
    simp
  · have hplain := plain_cellText fun s hs => h ⟨s, hs⟩
    refine iff_of_true (length_splitBars_of_not_mem ?_) fun s hs => absurd ⟨s, hs⟩ h
    exact (hplain.append (.cons (by decide) plain_nil)).noBar

/-- The characters that an escaped text has beside those that stand for bars and newlines. -/
theorem mem_flatMap_cellChar (hc : c ∉ ['\\', '|', '<', 'b', 'r', '>']) :
    c ∈ cs.flatMap cellChar ↔ c ∈ cs ∧ c ≠ '\n' := by
  -- Bars and newlines are written with characters that `c` is not.
  have hchar : ∀ d, c ∈ cellChar d ↔ c = d ∧ c ≠ '\n' := by
    intro d
    rw [cellChar]
    split
    · next hbar =>
      subst hbar
      refine iff_of_false (fun h => hc ?_) fun h => hc ?_
      · rcases List.mem_cons.1 h with h | h <;> simp_all
      · simp [h.1]
    · split
      · next hnewline =>
        subst hnewline
        refine iff_of_false (fun h => hc ?_) fun h => h.2 h.1
        simp only [List.mem_cons] at h ⊢
        tauto
      · next hnewline =>
        rw [List.mem_singleton]
        exact ⟨fun h => ⟨h, h ▸ hnewline⟩, fun h => h.1⟩
  rw [List.mem_flatMap]
  simp only [hchar]
  constructor
  · rintro ⟨d, hd, rfl, hne⟩
    exact ⟨hd, hne⟩
  · rintro ⟨hmem, hne⟩
    exact ⟨c, hmem, rfl, hne⟩

/-- A carriage return of a text is one in its cell. -/
theorem return_mem_padded (cell : Option Cell) :
    '\r' ∈ padded cell ↔ ∃ s, cell = some (.string s) ∧ '\r' ∈ s.toList := by
  have hpadded : '\r' ∈ padded cell ↔ '\r' ∈ (cellText cell).toList := by
    simp [padded]
  rw [hpadded]
  by_cases h : ∃ s, cell = some (.string s)
  · obtain ⟨s, rfl⟩ := h
    have htext : (cellText (some (.string s))).toList = s.toList.flatMap cellChar :=
      String.toList_ofList
    rw [htext, mem_flatMap_cellChar (by decide)]
    simp
  · have hplain := plain_cellText fun s hs => h ⟨s, hs⟩
    exact iff_of_false hplain.noReturn fun ⟨s, hs, _⟩ => h ⟨s, hs⟩

theorem newline_not_mem_padded (cell : Option Cell) : '\n' ∉ padded cell := by
  have hpadded : '\n' ∈ padded cell ↔ '\n' ∈ (cellText cell).toList := by
    simp [padded]
  rw [hpadded]
  by_cases h : ∃ s, cell = some (.string s)
  · obtain ⟨s, rfl⟩ := h
    have htext : (cellText (some (.string s))).toList = s.toList.flatMap cellChar :=
      String.toList_ofList
    rw [htext, mem_flatMap_cellChar (by decide)]
    simp
  · exact (plain_cellText fun s hs => h ⟨s, hs⟩).noNewline

section Shape

variable {here : List String} {directory : String} {level : Int} {t : Table}

/-- The link of a row with a plain path is plain. -/
theorem exists_plain_link {row : Row} {path : String}
    (hpath : Path.relative? here row.file directory = some path) (hplain : Plain path.toList) :
    ∃ link, link? here directory row = some link ∧ Plain link.toList := by
  refine ⟨path ++ "#L" ++ toString row.line, by rw [link?, hpath]; rfl, ?_⟩
  rw [String.toList_append, String.toList_append]
  exact (hplain.append (by decide)).append (plain_toString_int row.line)

theorem plain_nameCell {row : Row} {link : String} (hname : Plain row.name.toList)
    (hlink : Plain link.toList) : Plain (nameCell link row) :=
  ((((by decide : Plain " [`".toList).append hname).append (by decide)).append hlink).append
    (by decide)

/-- The cells of the titles are plain. -/
theorem plain_titles {attributes : List String} (h : ∀ a ∈ attributes, Plain a.toList) :
    ∀ cell ∈ " **Name** ".toList ::
      attributes.map (fun a => " `".toList ++ a.toList ++ "` ".toList), Plain cell := by
  rw [List.forall_mem_cons, List.forall_mem_map]
  exact ⟨by decide, fun a ha => ((by decide : Plain " `".toList).append (h a ha)).append (by decide)⟩

theorem plain_dashes (attributes : List String) :
    ∀ cell ∈ "----------".toList :: attributes.map (fun a => (dashes a).toList), Plain cell := by
  rw [List.forall_mem_cons, List.forall_mem_map]
  refine ⟨by decide, fun a _ => ?_⟩
  rw [dashes, String.toList_ofList]
  exact plain_replicate (by decide) _

/-- A row of titles or dashes ends no line and has its cells. -/
theorem hasCells_titleRow {attributes : List String} (h : ∀ a ∈ attributes, Plain a.toList) :
    HasCells (attributes.length + 1) (titleRow attributes) := by
  have hcells := hasCells_barred_of_plain (plain_titles h)
  rwa [List.length_cons, List.length_map] at hcells

theorem hasCells_dashRow (attributes : List String) :
    HasCells (attributes.length + 1) (dashRow attributes) := by
  have hcells := hasCells_barred_of_plain (plain_dashes attributes)
  rwa [List.length_cons, List.length_map] at hcells

/-- The row of a resource has its cells exactly if no text in it ends its cell. -/
theorem hasCells_resourceRow_iff {attributes : List String} {link : String} {row : Row}
    (hname : Plain row.name.toList) (hlink : Plain link.toList) :
    HasCells (attributes.length + 1) (resourceRow attributes link row) ↔
      ∀ a ∈ attributes, ∀ s, row.cells.lookup a = some (.string s) →
        hasSlashedBar false s.toList = false := by
  have hplain := plain_nameCell hname hlink
  have hends : ∀ cell ∈ nameCell link row ::
      attributes.map (fun a => padded (row.cells.lookup a)), endsOdd false cell = false := by
    rw [List.forall_mem_cons, List.forall_mem_map]
    exact ⟨endsOdd_of_plain hplain, fun a _ => endsOdd_padded _⟩
  have hcells := hasCells_barred_iff hends
  rw [List.length_cons, List.length_map, List.forall_mem_cons, List.forall_mem_map,
    and_iff_right (length_splitBars_of_not_mem hplain.noBar)] at hcells
  rw [resourceRow, hcells]
  simp only [length_splitBars_padded]

theorem return_mem_resourceRow {attributes : List String} {link : String} {row : Row}
    (hname : Plain row.name.toList) (hlink : Plain link.toList) :
    '\r' ∈ resourceRow attributes link row ↔
      ∃ a ∈ attributes, ∃ s, row.cells.lookup a = some (.string s) ∧ '\r' ∈ s.toList := by
  have hplain := plain_nameCell hname hlink
  rw [resourceRow, mem_barred (by decide)]
  simp [hplain.noReturn, return_mem_padded]

theorem newline_not_mem_resourceRow {attributes : List String} {link : String} {row : Row}
    (hname : Plain row.name.toList) (hlink : Plain link.toList) :
    '\n' ∉ resourceRow attributes link row := by
  have hplain := plain_nameCell hname hlink
  rw [resourceRow, mem_barred (by decide)]
  simp [hplain.noNewline, newline_not_mem_padded]

/-- The lines of a table end where they should, up to carriage returns in them. -/
theorem lines_end (level : Int) {link : Row → String} (htype : Plain t.request.type.toList)
    (hattributes : ∀ a ∈ t.request.attributes, Plain a.toList)
    (hrows : ∀ row ∈ t.rows, Plain row.name.toList ∧ Plain (link row).toList) :
    ∀ line ∈ tableLines level t link, '\n' ∉ line ∧ line.getLast? ≠ some '\r' ∧
      ('\r' ∈ line → ∃ row ∈ t.rows, '\r' ∈ resourceRow t.request.attributes (link row) row) := by
  have hheading : Plain (heading level t.request.type) :=
    (plain_replicate (by decide) _).append (.cons (by decide) htype)
  -- A row ends with a bar, not with a carriage return.
  have hbarred : ∀ {cells : List (List Char)}, (∀ cell ∈ cells, Plain cell) →
      '\r' ∉ barred cells ∧ '\n' ∉ barred cells := by
    intro cells h
    rw [mem_barred (by decide), mem_barred (by decide)]
    exact ⟨fun ⟨cell, hcell, hmem⟩ => (h cell hcell).noReturn hmem,
      fun ⟨cell, hcell, hmem⟩ => (h cell hcell).noNewline hmem⟩
  have hbar : ∀ {cells : List (List Char)}, (barred cells).getLast? ≠ some '\r' := by
    intro cells
    rw [getLast?_barred]
    decide
  obtain ⟨htitlesReturn, htitlesNewline⟩ := hbarred (plain_titles hattributes)
  obtain ⟨hdashesReturn, hdashesNewline⟩ := hbarred (plain_dashes t.request.attributes)
  intro line hline
  simp only [tableLines, List.mem_cons, List.mem_map] at hline
  rcases hline with rfl | rfl | rfl | rfl | ⟨row, hrow, rfl⟩
  · refine ⟨hheading.noNewline, fun hlast => ?_, fun h => absurd h hheading.noReturn⟩
    exact hheading.noReturn (List.mem_of_getLast? hlast)
  · exact ⟨nofun, nofun, nofun⟩
  · exact ⟨htitlesNewline, hbar, fun h => absurd h htitlesReturn⟩
  · exact ⟨hdashesNewline, hbar, fun h => absurd h hdashesReturn⟩
  · obtain ⟨hname, hlink⟩ := hrows row hrow
    exact ⟨newline_not_mem_resourceRow hname hlink, hbar, fun h => ⟨row, hrow, h⟩⟩

/-- Lines of the shape of a table are as many as the table has. -/
theorem Shaped.length_eq {lines : List (List Char)} (h : Shaped level t lines) :
    lines.length = t.rows.length + 4 := by
  cases h with
  | intro htitles hdashes hrows => simp [hrows.length_eq]

/-- A table of a type, attributes, names and paths that are plain has its shape if and only if the
texts in its cells are contained: no carriage return is in them, and no bar behind an odd number of
backslashes. -/
theorem shaped_iff (here : List String) (directory : String) (level : Int)
    (htype : Plain t.request.type.toList)
    (hattributes : ∀ a ∈ t.request.attributes, Plain a.toList)
    (hrows : ∀ row ∈ t.rows, Plain row.name.toList ∧
      ∃ path, Path.relative? here row.file directory = some path ∧ Plain path.toList) :
    ∃ text, table? here directory level t = some text ∧
      (Shaped level t (readLines text.toList) ↔
        ∀ row ∈ t.rows, ∀ a ∈ t.request.attributes, ∀ s,
          row.cells.lookup a = some (.string s) → Contained s) := by
  let link : Row → String := fun row => (link? here directory row).getD ""
  have hlink : ∀ row ∈ t.rows, link? here directory row = some (link row) ∧
      Plain row.name.toList ∧ Plain (link row).toList := by
    intro row hrow
    obtain ⟨hname, path, hpath, hplain⟩ := hrows row hrow
    obtain ⟨found, hfound, hfoundPlain⟩ := exists_plain_link hpath hplain
    have heq : link row = found := by
      show (link? here directory row).getD "" = found
      rw [hfound]
      rfl
    rw [heq]
    exact ⟨hfound, hname, hfoundPlain⟩
  obtain ⟨text, htext, hlines⟩ := exists_table level fun row hrow => (hlink row hrow).1
  refine ⟨text, htext, ?_⟩
  have hends := lines_end level htype hattributes fun row hrow => (hlink row hrow).2
  rw [hlines]
  by_cases hreturn : ∃ row ∈ t.rows, '\r' ∈ resourceRow t.request.attributes (link row) row
  -- A carriage return makes one line too many.
  · obtain ⟨row, hrow, hmem⟩ := hreturn
    obtain ⟨-, hname, hplain⟩ := hlink row hrow
    have hmany := lt_length_readLines_ended (fun line hline => ⟨(hends line hline).1,
      (hends line hline).2.1⟩) ⟨_, List.mem_cons_of_mem _ (List.mem_cons_of_mem _
        (List.mem_cons_of_mem _ (List.mem_cons_of_mem _ (List.mem_map_of_mem hrow)))), hmem⟩
    obtain ⟨a, ha, s, hs, hin⟩ := (return_mem_resourceRow hname hplain).1 hmem
    refine iff_of_false (fun hshaped => ?_) fun hall => (hall row hrow a ha s hs).noReturn hin
    have hlength := hshaped.length_eq
    simp only [tableLines, List.length_cons, List.length_map] at hlength hmany
    omega
  · have hread : readLines (ended (tableLines level t link)) = tableLines level t link :=
      readLines_ended fun line hline =>
        ⟨fun h => hreturn ((hends line hline).2.2 h), (hends line hline).1⟩
    rw [hread]
    constructor
    · intro hshaped row hrow a ha s hs
      obtain ⟨-, hname, hplain⟩ := hlink row hrow
      refine ⟨fun hin => hreturn ⟨row, hrow, ?_⟩, ?_⟩
      · exact (return_mem_resourceRow hname hplain).2 ⟨a, ha, s, hs, hin⟩
      · cases hshaped with
        | intro _ _ hforall =>
          rw [List.forall₂_map_right_iff, List.forall₂_same] at hforall
          exact (hasCells_resourceRow_iff hname hplain).1 (hforall row hrow).1 a ha s hs
    · intro hall
      refine .intro (hasCells_titleRow hattributes) (hasCells_dashRow _) ?_
      rw [List.forall₂_map_right_iff, List.forall₂_same]
      intro row hrow
      obtain ⟨-, hname, hplain⟩ := hlink row hrow
      refine ⟨(hasCells_resourceRow_iff hname hplain).2 fun a ha s hs =>
        (hall row hrow a ha s hs).noSlashedBar, ?_⟩
      exact ⟨(link row).toList ++ ") |".toList ++ (t.request.attributes.map fun a =>
        padded (row.cells.lookup a)).flatMap (· ++ ['|']), by simp [resourceRow, barred, nameCell]⟩

end Shape

/-- A bar and a newline in a cell are escaped, and the table keeps its shape. -/
theorem shaped_iff_escaped :
    let t : Table := ⟨⟨"t", ["a"]⟩, [⟨"n", "m/m.tf", 1, [("a", .string "x|y\nz")]⟩]⟩
    ∃ text, table? [] "m" 2 t = some text ∧ Shaped 2 t (readLines text.toList) := by
  intro t
  have hrows : ∀ row ∈ t.rows, Plain row.name.toList ∧
      ∃ path, Path.relative? [] row.file "m" = some path ∧ Plain path.toList := by
    intro row hrow
    obtain rfl := List.mem_singleton.1 hrow
    exact ⟨by decide, "m.tf", by decide +kernel, by decide⟩
  obtain ⟨text, htext, hshaped⟩ := shaped_iff (t := t) [] "m" 2 (by decide) (by decide) hrows
  refine ⟨text, htext, hshaped.2 fun row hrow a ha s hs => ?_⟩
  obtain rfl := List.mem_singleton.1 hrow
  obtain rfl := List.mem_singleton.1 ha
  cases hs
  exact ⟨by decide, by decide⟩

/-- A carriage return in a cell gives the table a line too many. -/
theorem not_forall_shaped :
    ¬ ∀ (here : List String) (directory : String) (level : Int) (t : Table),
      Plain directory.toList → Plain t.request.type.toList →
      (∀ a ∈ t.request.attributes, Plain a.toList) →
      (∀ row ∈ t.rows, Plain row.name.toList ∧
        ∃ path, Path.relative? here row.file directory = some path ∧ Plain path.toList) →
      ∃ text, table? here directory level t = some text ∧
        Shaped level t (readLines text.toList) := by
  intro h
  let t : Table := ⟨⟨"t", ["a"]⟩, [⟨"n", "m/m.tf", 1, [("a", .string "x\ry")]⟩]⟩
  have hrows : ∀ row ∈ t.rows, Plain row.name.toList ∧
      ∃ path, Path.relative? [] row.file "m" = some path ∧ Plain path.toList := by
    intro row hrow
    obtain rfl := List.mem_singleton.1 hrow
    exact ⟨by decide, "m.tf", by decide +kernel, by decide⟩
  obtain ⟨text, htext, hshaped⟩ := h [] "m" 2 t (by decide) (by decide) (by decide) hrows
  -- The table has one row, so it would have five lines, but it is read as six.
  have hlines : (table? [] "m" 2 t).map (fun text => (readLines text.toList).length) = some 6 := by
    decide +kernel
  rw [htext, Option.map_some, hshaped.length_eq] at hlines
  cases hlines

end ResourceTables.Markdown
