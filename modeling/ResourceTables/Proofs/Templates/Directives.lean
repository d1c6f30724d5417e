import Mathlib.Data.List.Chain
import ResourceTables.Proofs.Templates.Nesting

/-!
# Writing a template's parts out again

The parts of a template written out again with their directives are the items that they come from.
Each text is as its neighbours trim it, adjacent texts are one and empty texts are gone; and of a
condition without parts behind its `else` the `else` is not written, since the parts do not tell
whether there was one.

* `TemplateItem.trimmed`: the items, each text as its neighbours trim it;
* `Part.writeAll`: the pieces that parts are written with;
* `Piece.joined`, `Piece.withoutIdleElse`: what is not kept of the pieces of the items;
* `Part.ensures_nest_tidied`, `Part.ensures_nest_tidy`: what has been written grows item by item,
  and stays tidy;
* `Part.ofItems_written_or_malformed`: the items of a template are refused, or written out again;
* `Part.not_exists_write_joined`: no way of writing parts gives back each `else`.
-/

namespace ResourceTables.Native

namespace TemplateItem

/-- The item as it is between two others: a text loses the blanks at an end where its neighbour
trims it. -/
def between (before after : Option TemplateItem) : TemplateItem → TemplateItem
  | .text s =>
    let s := if before.any trimsAfter then Text.trimStart s else s
    .text (if after.any trimsBefore then Text.trimEnd s else s)
  | item => item

/-- The items, each as it is between its neighbours. -/
def trimmed (items : List TemplateItem) : List TemplateItem :=
  items.mapIdx fun i item => item.between (if i = 0 then none else items[i - 1]?) items[i + 1]?

theorem trimAll_eq_mapIdx (before : Option TemplateItem) (items : List TemplateItem) :
    trimAll (before.any trimsAfter) items = items.mapIdx fun i item =>
      item.between (if i = 0 then before else items[i - 1]?) items[i + 1]? := by
  induction items generalizing before with
  | nil => rfl
  | cons item items ih =>
    -- The other items are counted from this one on, which is now the one before them.
    have hrest : (items.mapIdx fun i next => next.between
        (if i = 0 then some item else items[i - 1]?) items[i + 1]?) =
        items.mapIdx fun i next => next.between
          (if i + 1 = 0 then before else (item :: items)[i + 1 - 1]?)
          (item :: items)[i + 1 + 1]? := by
      refine congrArg items.mapIdx ?_
      funext i next
      cases i <;> simp
    rw [List.mapIdx_cons, ← hrest, ← ih]
    cases item with
    | text s => cases items <;> rfl
    | interp | directive => rfl

theorem trimAll_eq_trimmed (items : List TemplateItem) : trimAll false items = trimmed items :=
  trimAll_eq_mapIdx none items

end TemplateItem

/-- A piece of the text of a template: an item without its place and its trimming. -/
inductive Piece where
  | text (s : String)
  | interp (e : Expr)
  | directive (d : Directive)

/-- The item as a piece of the text. -/
def TemplateItem.piece : TemplateItem → Piece
  | .text s => .text s
  | .interp _ e => .interp e
  | .directive _ _ d => .directive d

end ResourceTables.Native

namespace ResourceTables.Part

open Native (Piece)

mutual

/-- The pieces that the part is written with. -/
def write : Part → List Piece
  | .text s => [.text s]
  | .interp e => [.interp e]
  | .cond test yes [] => .directive (.cond test) :: writeAll yes ++ [.directive .endCond]
  | .cond test yes no =>
    .directive (.cond test) :: writeAll yes ++ .directive .otherwise :: writeAll no ++
      [.directive .endCond]
  | .loop vars collection body =>
    .directive (.loop vars collection) :: writeAll body ++ [.directive .endLoop]

/-- The pieces that the parts are written with. -/
def writeAll : List Part → List Piece
  | [] => []
  | p :: parts => write p ++ writeAll parts

end

theorem writeAll_append (parts parts' : List Part) :
    writeAll (parts ++ parts') = writeAll parts ++ writeAll parts' := by
  induction parts with
  | nil => rfl
  | cons p parts ih => simp [writeAll, ih]

/-- A part is written with a last piece, which is no `else`, and no text unless the part is one. -/
theorem write_eq_append (p : Part) :
    ∃ init last, write p = init ++ [last] ∧ last ≠ .directive .otherwise ∧
      ∀ s, last = .text s → ∃ t, p = .text t := by
  cases p with
  | text s => exact ⟨[], .text s, by simp [write], by simp, fun _ _ => ⟨s, rfl⟩⟩
  | interp e => exact ⟨[], .interp e, by simp [write], by simp, by simp⟩
  | cond test yes no =>
    cases no with
    | nil => exact ⟨_, .directive .endCond, by rw [write], by simp, by simp⟩
    | cons p no => exact ⟨_, .directive .endCond, by rw [write]; simp, by simp, by simp⟩
  | loop vars collection body =>
    exact ⟨_, .directive .endLoop, by rw [write], by simp, by simp⟩

end ResourceTables.Part

namespace ResourceTables.Native

open ResourceTables.Part (write writeAll writeAll_append write_eq_append)

namespace Piece

/-! ## Texts in one piece -/

/-- The piece in front of pieces: an empty text is left out, and other text is joined to the text
that follows. -/
def joinTo : Piece → List Piece → List Piece
  | text s, ps =>
    if s.isEmpty then ps
    else match ps with
      | text t :: rest => text (s ++ t) :: rest
      | _ => text s :: ps
  | p, ps => p :: ps

/-- The pieces with adjacent texts joined and empty ones left out. -/
def joined (ps : List Piece) : List Piece :=
  ps.foldr joinTo []

/-- The piece in front of pieces, unless it is an `else` and the `endif` follows at once. -/
def unlessIdle : Piece → List Piece → List Piece
  | directive .otherwise, directive .endCond :: rest => directive .endCond :: rest
  | p, ps => p :: ps

/-- The pieces without each `else` that has nothing between it and its `endif`. -/
def withoutIdleElse (ps : List Piece) : List Piece :=
  ps.foldr unlessIdle []

variable {ps rest : List Piece}

theorem joinTo_text_text (s t : String) (ps : List Piece) :
    joinTo (text s) (joinTo (text t) ps) = joinTo (text (s ++ t)) ps := by
  by_cases hs : s = ""
  · simp [hs, joinTo]
  by_cases ht : t = ""
  · simp [ht, joinTo]
  have hst : s ++ t ≠ "" := by simp [hs]
  rcases ps with _ | ⟨_ | _ | _, ps⟩ <;> simp [joinTo, hs, ht, String.append_assoc]

theorem joinTo_append_directive (p : Piece) (ps : List Piece) (d : Directive) (rest : List Piece) :
    joinTo p (ps ++ .directive d :: rest) = joinTo p ps ++ .directive d :: rest := by
  cases p with
  | text s =>
    by_cases hs : s = ""
    · simp [hs, joinTo]
    · rcases ps with _ | ⟨_ | _ | _, ps⟩ <;> simp [joinTo, hs]
  | interp | directive => rfl

/-- Texts are not joined over a directive. -/
theorem foldr_joinTo_directive (ps : List Piece) (d : Directive) (rest : List Piece) :
    ps.foldr joinTo (.directive d :: rest) = joined ps ++ .directive d :: rest := by
  induction ps with
  | nil => rfl
  | cons p ps ih => rw [List.foldr_cons, ih, joinTo_append_directive]; rfl

theorem joined_append_directive (ps : List Piece) (d : Directive) (rest : List Piece) :
    joined (ps ++ .directive d :: rest) = joined ps ++ .directive d :: joined rest := by
  rw [joined, List.foldr_append, List.foldr_cons]
  exact foldr_joinTo_directive ps d (joined rest)

/-- How the items of a template are written once they are a tree. -/
def tidied (ps : List Piece) : List Piece :=
  withoutIdleElse (joined ps)

theorem tidied_text_text (ps : List Piece) (s t : String) (rest : List Piece) :
    tidied (ps ++ .text s :: .text t :: rest) = tidied (ps ++ .text (s ++ t) :: rest) := by
  simp only [tidied, joined, List.foldr_append, List.foldr_cons, joinTo_text_text]

theorem tidied_text_empty (ps rest : List Piece) :
    tidied (ps ++ .text "" :: rest) = tidied (ps ++ rest) := by
  simp [tidied, joined, joinTo]

theorem tidied_idle (ps rest : List Piece) :
    tidied (ps ++ .directive .otherwise :: .directive .endCond :: rest) =
      tidied (ps ++ .directive .endCond :: rest) := by
  have hjoined : joined (.directive .endCond :: rest) = .directive .endCond :: joined rest := rfl
  rw [tidied, tidied, joined_append_directive, joined_append_directive, hjoined]
  simp only [withoutIdleElse, List.foldr_append, List.foldr_cons]
  rfl

/-! ## Tidy pieces -/

/-- The second piece can stand behind the first one. -/
def Precedes : Piece → Piece → Prop
  | text _, text _ => False
  | directive .otherwise, directive .endCond => False
  | _, _ => True

/-- No text is empty or next to another one, and no `else` stands in front of its `endif`. -/
structure Tidy (ps : List Piece) : Prop where
  texts : ∀ s, .text s ∈ ps → s ≠ ""
  neighbours : ps.IsChain Precedes

theorem Tidy.tail {p : Piece} (h : Tidy (p :: ps)) : Tidy ps where
  texts s hs := h.texts s (List.mem_cons_of_mem p hs)
  neighbours := h.neighbours.tail

theorem Tidy.joined_eq (h : Tidy ps) : joined ps = ps := by
  induction ps with
  | nil => rfl
  | cons p ps ih =>
    rw [joined, List.foldr_cons, ← joined, ih h.tail]
    cases p with
    | text s =>
      have hs := h.texts s List.mem_cons_self
      rcases ps with _ | ⟨_ | _ | _, ps⟩
      · simp [joinTo, hs]
      · exact ((List.isChain_cons_cons.1 h.neighbours).1).elim
      · simp [joinTo, hs]
      · simp [joinTo, hs]
    | interp | directive => rfl

theorem Tidy.withoutIdleElse_eq (h : Tidy ps) : withoutIdleElse ps = ps := by
  induction ps with
  | nil => rfl
  | cons p ps ih =>
    rw [withoutIdleElse, List.foldr_cons, ← withoutIdleElse, ih h.tail]
    unfold unlessIdle
    split
    · exact ((List.isChain_cons_cons.1 h.neighbours).1).elim
    · rfl

theorem Tidy.tidied_eq (h : Tidy ps) : tidied ps = ps := by
  rw [tidied, h.joined_eq, h.withoutIdleElse_eq]

theorem precedes_text {p : Piece} {s : String} : Precedes p (.text s) ↔ ∀ t, p ≠ .text t := by
  cases p <;> simp [Precedes]

theorem precedes_endCond {p : Piece} :
    Precedes p (.directive .endCond) ↔ p ≠ .directive .otherwise := by
  rcases p with _ | _ | (_ | _ | _ | _ | _) <;> simp [Precedes]

theorem tidy_append_singleton {p : Piece} :
    Tidy (ps ++ [p]) ↔
      Tidy ps ∧ (∀ s, p = .text s → s ≠ "") ∧ ∀ q ∈ ps.getLast?, Precedes q p := by
  constructor
  · intro h
    obtain ⟨hps, -, hlast⟩ := List.isChain_append.1 h.neighbours
    exact ⟨⟨fun s hs => h.texts s (by simp [hs]), hps⟩, fun s hs => h.texts s (by simp [hs]),
      fun q hq => hlast q hq p rfl⟩
  · rintro ⟨h, htext, hlast⟩
    refine ⟨fun s hs => ?_, List.isChain_append.2 ⟨h.neighbours, .singleton p, ?_⟩⟩
    · rcases List.mem_append.1 hs with hs | hs
      · exact h.texts s hs
      · exact htext s (List.mem_singleton.1 hs).symm
    · rintro q hq _ ⟨⟩
      exact hlast q hq

end Piece

open Directive (WellNested)
open Piece (Tidy Precedes tidied)
open TemplateItem (directives)

/-! ## What is written while directives are open -/

/-- What is written in front of the parts that are being read in an open directive, from the parts
before the directive on. -/
def OpenDirective.written : OpenDirective → List Piece
  | .cond _ test outer => writeAll outer.reverse ++ [.directive (.cond test)]
  | .otherwise _ test yes outer =>
    writeAll outer.reverse ++ .directive (.cond test) :: writeAll yes ++ [.directive .otherwise]
  | .loop _ vars collection outer => writeAll outer.reverse ++ [.directive (.loop vars collection)]

/-- The last of it is a directive. -/
theorem OpenDirective.written_eq_append (d : OpenDirective) :
    ∃ init e, d.written = init ++ [.directive e] := by
  cases d <;> exact ⟨_, _, rfl⟩

/-- What is written of the items that have been read. -/
def writtenSoFar (stack : List OpenDirective) (parts : List Part) : List Piece :=
  stack.reverse.flatMap OpenDirective.written ++ writeAll parts.reverse

namespace writtenSoFar

variable (stack : List OpenDirective) (parts outer : List Part) (pos : Pos) (test : Expr)

theorem open_eq (d : OpenDirective) :
    writtenSoFar (d :: stack) [] = stack.reverse.flatMap OpenDirective.written ++ d.written := by
  simp [writtenSoFar, writeAll]

theorem cons (p : Part) :
    writtenSoFar stack (p :: parts) = writtenSoFar stack parts ++ write p := by
  simp [writtenSoFar, writeAll_append, writeAll]

theorem cond : writtenSoFar (.cond pos test outer :: stack) [] =
    writtenSoFar stack outer ++ [.directive (.cond test)] := by
  simp [writtenSoFar, OpenDirective.written, writeAll]

theorem loop (vars : LoopVars) (collection : Expr) :
    writtenSoFar (.loop pos vars collection outer :: stack) [] =
      writtenSoFar stack outer ++ [.directive (.loop vars collection)] := by
  simp [writtenSoFar, OpenDirective.written, writeAll]

theorem otherwise :
    writtenSoFar (.otherwise pos test parts.reverse outer :: stack) [] =
      writtenSoFar (.cond pos test outer :: stack) parts ++ [.directive .otherwise] := by
  simp [writtenSoFar, OpenDirective.written, writeAll]

theorem endCond :
    writtenSoFar stack (.cond test parts.reverse [] :: outer) =
      writtenSoFar (.cond pos test outer :: stack) parts ++ [.directive .endCond] := by
  simp [writtenSoFar, OpenDirective.written, writeAll_append, writeAll, write]

theorem endCond_otherwise {parts : List Part} (yes : List Part) (h : parts ≠ []) :
    writtenSoFar stack (.cond test yes parts.reverse :: outer) =
      writtenSoFar (.otherwise pos test yes outer :: stack) parts ++ [.directive .endCond] := by
  have hwrite : write (.cond test yes parts.reverse) =
      .directive (.cond test) :: writeAll yes ++ .directive .otherwise :: writeAll parts.reverse ++
        [.directive .endCond] := by
    rw [write]
    exact fun hnil => h (List.reverse_eq_nil_iff.1 hnil)
  simp [writtenSoFar, OpenDirective.written, writeAll_append, writeAll, hwrite]

theorem endLoop (vars : LoopVars) (collection : Expr) :
    writtenSoFar stack (.loop vars collection parts.reverse :: outer) =
      writtenSoFar (.loop pos vars collection outer :: stack) parts ++ [.directive .endLoop] := by
  simp [writtenSoFar, OpenDirective.written, writeAll_append, writeAll, write]

end writtenSoFar

namespace Part

variable {stack : List OpenDirective} {parts : List Part} {items : List TemplateItem}

theorem tidied_addText (s : String) (rest : List Piece) :
    tidied (writtenSoFar stack (addText s parts) ++ rest) =
      tidied (writtenSoFar stack parts ++ .text s :: rest) := by
  unfold addText
  split
  · next hs =>
    rw [String.isEmpty_iff.1 hs, Piece.tidied_text_empty]
  · split
    -- The last part is a text already, and the new one is joined to it.
    · next before parts =>
      simp [writtenSoFar.cons, write, Piece.tidied_text_text]
    · simp [writtenSoFar.cons, write]

/-- An `endif` behind an `else`. -/
theorem tidied_endCond_otherwise (pos : Pos) (test : Expr) (yes outer : List Part)
    (rest : List Piece) :
    tidied (writtenSoFar stack (.cond test yes parts.reverse :: outer) ++ rest) =
      tidied (writtenSoFar (.otherwise pos test yes outer :: stack) parts ++
        .directive .endCond :: rest) := by
  by_cases hparts : parts = []
  · -- Nothing has been read behind the `else`, and it is not written.
    have hcond := writtenSoFar.endCond stack yes.reverse outer pos test
    have hotherwise := writtenSoFar.otherwise stack yes.reverse outer pos test
    rw [List.reverse_reverse] at hcond hotherwise
    rw [hparts, List.reverse_nil, hcond, hotherwise, List.append_assoc, List.append_assoc]
    exact (Piece.tidied_idle _ rest).symm
  · rw [writtenSoFar.endCond_otherwise stack outer pos test yes hparts, List.append_assoc]
    rfl

/-- What is written out is what has been written and the items to come. -/
theorem ensures_nest_tidied :
    Ensures (fun tree => tidied (writeAll tree) =
        tidied (writtenSoFar stack parts ++ items.map TemplateItem.piece))
      (nest stack parts items) := by
  fun_induction nest stack parts items with
  | case1 parts => exact .ok (by simp [writtenSoFar])
  | case2 | case3 | case4 | case13 => exact .error
  | case5 stack parts s rest ih =>
    exact ih.mono fun _ h => h.trans (tidied_addText s _)
  | case6 stack parts trim e rest ih =>
    refine ih.mono fun _ h => h.trans ?_
    simp [writtenSoFar.cons, write, TemplateItem.piece]
  | case7 stack parts trim pos rest test ih =>
    refine ih.mono fun _ h => h.trans ?_
    simp [writtenSoFar.cond, TemplateItem.piece]
  | case8 stack parts trim pos rest vars collection ih =>
    refine ih.mono fun _ h => h.trans ?_
    simp [writtenSoFar.loop, TemplateItem.piece]
  | case9 parts trim pos rest opened test outer stack ih =>
    refine ih.mono fun _ h => h.trans ?_
    simp [writtenSoFar.otherwise, TemplateItem.piece]
  | case10 parts trim pos rest opened test outer stack ih =>
    refine ih.mono fun _ h => h.trans ?_
    simp [writtenSoFar.endCond stack parts outer opened, TemplateItem.piece]
  | case11 parts trim pos rest opened test yes outer stack ih =>
    exact ih.mono fun _ h => h.trans (tidied_endCond_otherwise opened test yes outer _)
  | case12 parts trim pos rest opened vars collection outer stack ih =>
    refine ih.mono fun _ h => h.trans ?_
    simp [writtenSoFar.endLoop stack parts outer opened, TemplateItem.piece]

/-! ## What is written is tidy -/

/-- Behind anything but a text stands no text. -/
theorem last_not_text (h : ∀ s rest, parts ≠ .text s :: rest) :
    ∀ q ∈ (writtenSoFar stack parts).getLast?, ∀ s, q ≠ .text s := by
  cases parts with
  | nil =>
    cases stack with
    | nil => simp [writtenSoFar, writeAll]
    | cons d stack =>
      obtain ⟨init, e, hwritten⟩ := d.written_eq_append
      rw [writtenSoFar.open_eq, hwritten, ← List.append_assoc, List.getLast?_concat]
      rintro _ ⟨⟩
      simp
  | cons p parts =>
    obtain ⟨init, last, hwrite, -, htext⟩ := write_eq_append p
    rw [writtenSoFar.cons, hwrite, ← List.append_assoc, List.getLast?_concat]
    rintro _ ⟨⟩ s rfl
    obtain ⟨t, rfl⟩ := htext s rfl
    exact h t parts rfl

theorem last_not_otherwise_of_cons (p : Part) :
    ∀ q ∈ (writtenSoFar stack (p :: parts)).getLast?, q ≠ .directive .otherwise := by
  obtain ⟨init, last, hwrite, hlast, -⟩ := write_eq_append p
  rw [writtenSoFar.cons, hwrite, ← List.append_assoc, List.getLast?_concat]
  rintro _ ⟨⟩
  exact hlast

theorem last_not_otherwise {pos : Pos} {test : Expr} {outer : List Part} :
    ∀ q ∈ (writtenSoFar (.cond pos test outer :: stack) parts).getLast?,
      q ≠ .directive .otherwise := by
  cases parts with
  | nil => simp [writtenSoFar.cond]
  | cons p parts => exact last_not_otherwise_of_cons p

theorem tidy_addText (s : String) (h : Tidy (writtenSoFar stack parts)) :
    Tidy (writtenSoFar stack (addText s parts)) := by
  unfold addText
  split
  · exact h
  · next hs =>
    split
    · next before parts =>
      -- The longer text stands where the text before it stood.
      rw [writtenSoFar.cons, write, Piece.tidy_append_singleton] at h ⊢
      obtain ⟨hparts, hbefore, hlast⟩ := h
      refine ⟨hparts, ?_, fun q hq => Piece.precedes_text.2 (Piece.precedes_text.1 (hlast q hq))⟩
      rintro _ ⟨⟩
      simp [hbefore before rfl]
    · next hnot =>
      rw [writtenSoFar.cons, write, Piece.tidy_append_singleton]
      refine ⟨h, ?_, fun q hq => Piece.precedes_text.2 (last_not_text hnot q hq)⟩
      rintro _ ⟨⟩
      simpa using hs

theorem tidy_endCond_otherwise {pos : Pos} {test : Expr} {yes outer : List Part}
    (h : Tidy (writtenSoFar (.otherwise pos test yes outer :: stack) parts)) :
    Tidy (writtenSoFar stack (.cond test yes parts.reverse :: outer)) := by
  cases parts with
  | nil =>
    -- The `endif` stands where the `else` stood, which is not written.
    have hcond := writtenSoFar.endCond stack yes.reverse outer pos test
    have hotherwise := writtenSoFar.otherwise stack yes.reverse outer pos test
    rw [List.reverse_reverse] at hcond hotherwise
    rw [hotherwise, Piece.tidy_append_singleton] at h
    rw [List.reverse_nil, hcond, Piece.tidy_append_singleton]
    exact ⟨h.1, by simp, fun q hq => Piece.precedes_endCond.2 (last_not_otherwise q hq)⟩
  | cons p parts =>
    rw [writtenSoFar.endCond_otherwise stack outer pos test yes (by simp),
      Piece.tidy_append_singleton]
    exact ⟨h, by simp, fun q hq => Piece.precedes_endCond.2 (last_not_otherwise_of_cons p q hq)⟩

/-- What is written out is tidy. -/
theorem ensures_nest_tidy (h : Tidy (writtenSoFar stack parts)) :
    Ensures (fun tree => Tidy (writeAll tree)) (nest stack parts items) := by
  fun_induction nest stack parts items with
  | case1 parts => exact .ok (by simpa [writtenSoFar] using h)
  | case2 | case3 | case4 | case13 => exact .error
  | case5 stack parts s rest ih => exact ih (tidy_addText s h)
  | case6 stack parts trim e rest ih =>
    refine ih ?_
    rw [writtenSoFar.cons, write, Piece.tidy_append_singleton]
    exact ⟨h, by simp, by simp [Precedes]⟩
  | case7 stack parts trim pos rest test ih =>
    refine ih ?_
    rw [writtenSoFar.cond, Piece.tidy_append_singleton]
    exact ⟨h, by simp, by simp [Precedes]⟩
  | case8 stack parts trim pos rest vars collection ih =>
    refine ih ?_
    rw [writtenSoFar.loop, Piece.tidy_append_singleton]
    exact ⟨h, by simp, by simp [Precedes]⟩
  | case9 parts trim pos rest opened test outer stack ih =>
    refine ih ?_
    rw [writtenSoFar.otherwise, Piece.tidy_append_singleton]
    exact ⟨h, by simp, by simp [Precedes]⟩
  | case10 parts trim pos rest opened test outer stack ih =>
    refine ih ?_
    rw [writtenSoFar.endCond stack parts outer opened, Piece.tidy_append_singleton]
    exact ⟨h, by simp, fun q hq => Piece.precedes_endCond.2 (last_not_otherwise q hq)⟩
  | case11 parts trim pos rest opened test yes outer stack ih =>
    exact ih (tidy_endCond_otherwise h)
  | case12 parts trim pos rest opened vars collection outer stack ih =>
    refine ih ?_
    rw [writtenSoFar.endLoop stack parts outer opened, Piece.tidy_append_singleton]
    exact ⟨h, by simp, by simp [Precedes]⟩

/-! ## All items -/

/-- The tree of the items is written out as the items, trimmed and tidied. -/
theorem ensures_ofItems_written :
    Ensures (fun tree => writeAll tree =
        Piece.withoutIdleElse (Piece.joined ((TemplateItem.trimmed items).map TemplateItem.piece)))
      (ofItems items) := by
  have hempty : Tidy (writtenSoFar [] []) := ⟨by simp [writtenSoFar, writeAll], .nil⟩
  rw [ofItems, TemplateItem.trimAll_eq_trimmed]
  -- The tree is written like the items once both are tidied, and what it is written with is tidy.
  refine (ensures_nest_tidied.and (ensures_nest_tidy hempty)).mono ?_
  rintro tree ⟨htidied, htidy⟩
  rw [htidy.tidied_eq] at htidied
  simpa [writtenSoFar, writeAll, tidied] using htidied

/-- The items of a template, whatever they are. If their directives are well nested then the parts
are, written out again, the items as they are trimmed, with adjacent texts joined, empty texts
dropped and no `else` that has nothing between it and its `endif`. Otherwise there is a fault in the
template. -/
theorem ofItems_written_or_malformed (items : List TemplateItem) :
    (WellNested (directives items) ∧ ∃ tree, ofItems items = .ok tree ∧ writeAll tree =
      Piece.withoutIdleElse (Piece.joined ((TemplateItem.trimmed items).map TemplateItem.piece))) ∨
    (¬ WellNested (directives items) ∧ ∃ fault, ofItems items = .error (.malformed fault)) := by
  cases hitems : ofItems items with
  | ok tree =>
    refine .inl ⟨exists_ofItems_iff.1 ⟨tree, hitems⟩, tree, rfl, ?_⟩
    exact ensures_ofItems_written tree hitems
  | error e =>
    obtain ⟨fault, rfl⟩ := failsWith_ofItems e hitems
    refine .inr ⟨fun h => ?_, fault, rfl⟩
    obtain ⟨tree, htree⟩ := exists_ofItems_iff.2 h
    rw [hitems] at htree
    cases htree

/-- No way of writing parts gives back all items: with an `else` in front of the `endif` the parts
are the same as without it. -/
theorem not_exists_write_joined :
    ¬ ∃ write : List Part → List Piece, ∀ items tree, ofItems items = .ok tree →
      write tree = Piece.joined ((TemplateItem.trimmed items).map TemplateItem.piece) := by
  rintro ⟨write, hwrite⟩
  let test : Expr := .variable default "c"
  let idle : List TemplateItem :=
    [.directive default default (.cond test), .text "a", .directive default default .otherwise,
      .directive default default .endCond]
  let plain : List TemplateItem :=
    [.directive default default (.cond test), .text "a", .directive default default .endCond]
  have hidle := hwrite idle [.cond test [.text "a"] []] rfl
  have hplain := hwrite plain [.cond test [.text "a"] []] rfl
  have hlength := congrArg List.length (hidle.symm.trans hplain)
  exact absurd hlength (by decide)

end Part

end ResourceTables.Native
