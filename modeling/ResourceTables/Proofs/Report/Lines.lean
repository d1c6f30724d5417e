/-!
# Reading markdown tables

A table is read line by line, and a row cell by cell: a bar separates cells unless an odd number of
backslashes stands before it.

* `Markdown.readLines`, `Markdown.cells?`: the lines of a text, and the cells of a row;
* `Markdown.readLines_ended`, `Markdown.lt_length_readLines_ended`: lines are read as they are unless
  a carriage return is in one of them, and then there are more;
* `Markdown.cells?_barred`: what a reader finds in a row of given cells;
* `Markdown.hasCells_barred_iff`: the cells are as many as they should be exactly if no bar in one of
  them separates.
-/

namespace ResourceTables.Markdown

/-! ## Reading -/

/-- The lines of a text. A line ends at a carriage return, at a newline, or at both together. -/
def readLines : List Char → List (List Char)
  | [] => []
  | '\r' :: '\n' :: rest => [] :: readLines rest
  | c :: rest =>
    if c = '\r' ∨ c = '\n' then [] :: readLines rest
    else (c :: (readLines rest).headD []) :: (readLines rest).tail

/-- The pieces between the bars that stand behind an even number of backslashes. The first argument
says whether an odd number of them stands before the text. -/
def splitBars : Bool → List Char → List (List Char)
  | _, [] => [[]]
  | odd, c :: rest =>
    let pieces := splitBars (c == '\\' && !odd) rest
    if c == '|' && !odd then [] :: pieces else (c :: pieces.headD []) :: pieces.tail

/-- The cells of a row: the pieces between the bar at its start and the one at its end. -/
def cells? (line : List Char) : Option (List (List Char)) :=
  match splitBars false line with
  | [] :: pieces => if pieces.getLast? = some [] then some pieces.dropLast else none
  | _ => none

/-- The line is a row with that many cells. -/
def HasCells (n : Nat) (line : List Char) : Prop :=
  ∃ cells, cells? line = some cells ∧ cells.length = n

variable {cs line : List Char} {c : Char} {odd : Bool}

/-! ## Lines -/

/-- Lines, each with a newline at its end. -/
def ended (lines : List (List Char)) : List Char :=
  lines.flatMap (· ++ ['\n'])

theorem readLines_newline (rest : List Char) :
    readLines ('\n' :: rest) = [] :: readLines rest := by
  rw [readLines]
  · simp
  · simp

/-- A character that ends no line belongs to the first line. -/
theorem readLines_cons (hr : c ≠ '\r') (hn : c ≠ '\n') (rest : List Char) :
    readLines (c :: rest) = (c :: (readLines rest).headD []) :: (readLines rest).tail := by
  rw [readLines]
  · simp [hr, hn]
  · intro _ h
    exact absurd h hr

/-- A carriage return alone ends a line. -/
theorem readLines_return {rest : List Char} (h : rest.head? ≠ some '\n') :
    readLines ('\r' :: rest) = [] :: readLines rest := by
  rw [readLines]
  · simp
  · rintro rest' - rfl
    exact h rfl

theorem readLines_line (hr : '\r' ∉ line) (hn : '\n' ∉ line) (rest : List Char) :
    readLines (line ++ '\n' :: rest) = line :: readLines rest := by
  induction line with
  | nil => exact readLines_newline rest
  | cons c line ih =>
    rw [List.mem_cons, not_or] at hr hn
    rw [List.cons_append, readLines_cons (Ne.symm hr.1) (Ne.symm hn.1), ih hr.2 hn.2]
    rfl

/-- Lines without line ends in them are read as they are. -/
theorem readLines_ended {lines : List (List Char)}
    (h : ∀ line ∈ lines, '\r' ∉ line ∧ '\n' ∉ line) : readLines (ended lines) = lines := by
  induction lines with
  | nil => rfl
  | cons line lines ih =>
    obtain ⟨hline, hlines⟩ := List.forall_mem_cons.1 h
    have hended : ended (line :: lines) = line ++ '\n' :: ended lines := by
      simp [ended]
    rw [hended, readLines_line hline.1 hline.2, ih hlines]

/-- Each carriage return in a line makes one line more. -/
theorem length_readLines_line (hn : '\n' ∉ line) (hlast : line.getLast? ≠ some '\r')
    (rest : List Char) :
    (readLines (line ++ '\n' :: rest)).length = line.count '\r' + 1 + (readLines rest).length := by
  induction line with
  | nil =>
    rw [List.nil_append, readLines_newline, List.count_nil, List.length_cons]
    omega
  | cons c line ih =>
    rw [List.mem_cons, not_or] at hn
    have hrest : line ≠ [] → line.getLast? ≠ some '\r' := fun hne => by
      rwa [List.getLast?_cons_of_ne_nil hne] at hlast
    by_cases hreturn : c = '\r'
    · subst hreturn
      cases line with
      | nil => exact absurd rfl hlast
      | cons next line =>
        -- The return is not the end of a line with a newline behind it, so it ends a line alone.
        have hnext : ((next :: line) ++ '\n' :: rest).head? ≠ some '\n' := by
          rintro h
          cases h
          exact hn.2 List.mem_cons_self
        rw [List.cons_append, readLines_return hnext, List.length_cons,
          ih hn.2 (hrest (by simp)), List.count_cons_self]
        omega
    · rw [List.cons_append, readLines_cons hreturn (Ne.symm hn.1), List.length_cons,
        List.length_tail, List.count_cons_of_ne hreturn]
      have hlength : (readLines (line ++ '\n' :: rest)).length =
          line.count '\r' + 1 + (readLines rest).length := by
        cases line with
        | nil =>
          rw [List.nil_append, readLines_newline, List.count_nil, List.length_cons]
          omega
        | cons next line => exact ih hn.2 (hrest (by simp))
      omega

/-- So there are more lines than there should be if one of them has a carriage return in it. -/
theorem lt_length_readLines_ended {lines : List (List Char)}
    (h : ∀ line ∈ lines, '\n' ∉ line ∧ line.getLast? ≠ some '\r')
    (hreturn : ∃ line ∈ lines, '\r' ∈ line) : lines.length < (readLines (ended lines)).length := by
  have hcount : (readLines (ended lines)).length =
      (lines.map fun line => line.count '\r' + 1).sum := by
    clear hreturn
    induction lines with
    | nil => rfl
    | cons line lines ih =>
      obtain ⟨hline, hlines⟩ := List.forall_mem_cons.1 h
      have hended : ended (line :: lines) = line ++ '\n' :: ended lines := by
        simp [ended]
      rw [hended, length_readLines_line hline.1 hline.2, ih hlines, List.map_cons, List.sum_cons]
  rw [hcount]
  obtain ⟨line, hline, hmem⟩ := hreturn
  obtain ⟨before, after, rfl⟩ := List.append_of_mem hline
  have hpositive : 0 < line.count '\r' := List.count_pos_iff.2 hmem
  -- No line is read as none.
  have hle : ∀ lines : List (List Char),
      lines.length ≤ (lines.map fun line => line.count '\r' + 1).sum := by
    intro lines
    induction lines with
    | nil => simp
    | cons line lines ih =>
      rw [List.map_cons, List.sum_cons, List.length_cons]
      omega
  have hbefore := hle before
  have hafter := hle after
  rw [List.map_append, List.sum_append, List.map_cons, List.sum_cons, List.length_append,
    List.length_cons]
  omega

/-! ## Cells -/

/-- Whether an odd number of backslashes stands at the end of the text. -/
def endsOdd : Bool → List Char → Bool
  | odd, [] => odd
  | odd, c :: rest => endsOdd (c == '\\' && !odd) rest

theorem endsOdd_append_singleton (hc : c ≠ '\\') : endsOdd odd (cs ++ [c]) = false := by
  induction cs generalizing odd with
  | nil => simp [endsOdd, hc]
  | cons d cs ih => exact ih

theorem splitBars_ne_nil (odd : Bool) (cs : List Char) : splitBars odd cs ≠ [] := by
  cases cs with
  | nil => simp [splitBars]
  | cons c cs =>
    rw [splitBars]
    split <;> simp

/-- A bar behind a text that ends in no odd number of backslashes separates it from the rest. -/
theorem splitBars_append (h : endsOdd odd cs = false) (rest : List Char) :
    splitBars odd (cs ++ '|' :: rest) = splitBars odd cs ++ splitBars false rest := by
  induction cs generalizing odd with
  | nil =>
    obtain rfl : odd = false := h
    simp [splitBars]
  | cons c cs ih =>
    rw [List.cons_append, splitBars, splitBars, ih h]
    obtain ⟨piece, pieces, hpieces⟩ :=
      List.exists_cons_of_ne_nil (splitBars_ne_nil (c == '\\' && !odd) cs)
    rw [hpieces]
    split <;> rfl

/-- A character that is no bar separates nothing. -/
theorem length_splitBars_cons (hc : c ≠ '|') :
    (splitBars odd (c :: cs)).length = (splitBars (c == '\\' && !odd) cs).length := by
  have hpositive := List.length_pos_iff.2 (splitBars_ne_nil (c == '\\' && !odd) cs)
  rw [splitBars]
  simp only [beq_false_of_ne hc, Bool.false_and, Bool.false_eq_true, if_false, List.length_cons,
    List.length_tail]
  omega

theorem length_splitBars_of_not_mem (h : '|' ∉ cs) : (splitBars odd cs).length = 1 := by
  induction cs generalizing odd with
  | nil => rfl
  | cons c cs ih =>
    rw [List.mem_cons, not_or] at h
    rw [length_splitBars_cons (Ne.symm h.1), ih h.2]

/-- A row of cells: a bar, and another one behind each cell. -/
def barred (cells : List (List Char)) : List Char :=
  '|' :: cells.flatMap (· ++ ['|'])

/-- What a reader finds in a row: each cell, cut at the bars in it that separate. -/
theorem cells?_barred {cells : List (List Char)} (h : ∀ cell ∈ cells, endsOdd false cell = false) :
    cells? (barred cells) = some (cells.flatMap (splitBars false)) := by
  have hpieces : splitBars false (cells.flatMap (· ++ ['|'])) =
      cells.flatMap (splitBars false) ++ [[]] := by
    induction cells with
    | nil => rfl
    | cons cell cells ih =>
      obtain ⟨hcell, hcells⟩ := List.forall_mem_cons.1 h
      rw [List.flatMap_cons, List.append_assoc, List.singleton_append, splitBars_append hcell,
        ih hcells, List.flatMap_cons, List.append_assoc]
  have hbarred : splitBars false (barred cells) =
      [] :: (cells.flatMap (splitBars false) ++ [[]]) := by
    rw [barred, splitBars]
    simp [hpieces]
  rw [cells?, hbarred]
  simp

/-- Each cell is read as one exactly if there are as many as there should be. -/
theorem hasCells_barred_iff {cells : List (List Char)}
    (h : ∀ cell ∈ cells, endsOdd false cell = false) :
    HasCells cells.length (barred cells) ↔ ∀ cell ∈ cells, (splitBars false cell).length = 1 := by
  have hread : HasCells cells.length (barred cells) ↔
      (cells.flatMap (splitBars false)).length = cells.length := by
    rw [HasCells, cells?_barred h]
    simp
  -- Each cell is read as one at least, so the sum is right only if each is.
  have hle : ∀ cells : List (List Char),
      cells.length ≤ (cells.flatMap (splitBars false)).length := by
    intro cells
    induction cells with
    | nil => simp
    | cons cell cells ih =>
      have hpositive := List.length_pos_iff.2 (splitBars_ne_nil false cell)
      rw [List.flatMap_cons, List.length_append, List.length_cons]
      omega
  rw [hread]
  clear hread h
  induction cells with
  | nil => simp
  | cons cell cells ih =>
    have hpositive := List.length_pos_iff.2 (splitBars_ne_nil false cell)
    have hcells := hle cells
    rw [List.flatMap_cons, List.length_append, List.length_cons, List.forall_mem_cons]
    refine ⟨fun h => ⟨by omega, ih.1 (by omega)⟩, fun ⟨hone, hall⟩ => ?_⟩
    have hlength := ih.2 hall
    omega

end ResourceTables.Markdown
