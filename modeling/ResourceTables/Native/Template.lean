import ResourceTables.Config.Error
import ResourceTables.Config.Expr
import ResourceTables.Text.Blank

/-!
# Templates

A template is read as a flat list of items: texts, interpolations and directives. The directives
`if`, `else`, `endif`, `for` and `endfor` nest, and `~` markers trim the text directly next to an
item; the result is the tree of the template's parts.
-/

namespace ResourceTables.Native

/-- On which sides an item trims the text next to it. -/
structure Trim where
  /-- Whether the text before the item loses the blanks at its end. -/
  before : Bool
  /-- Whether the text after the item loses the blanks at its start. -/
  after : Bool
  deriving DecidableEq, Repr, Inhabited

/-- A directive of a template. -/
inductive Directive where
  /-- `if test` -/
  | cond (test : Expr)
  /-- `else` -/
  | otherwise
  /-- `endif` -/
  | endCond
  /-- `for vars in collection` -/
  | loop (vars : LoopVars) (collection : Expr)
  /-- `endfor` -/
  | endLoop

/-- The word that the directive begins with. -/
def Directive.word : Directive → DirectiveWord
  | cond _ => .cond
  | otherwise => .otherwise
  | endCond => .endCond
  | loop _ _ => .loop
  | endLoop => .endLoop

/-- An item of a template as it is written. -/
inductive TemplateItem where
  /-- Literal text. -/
  | text (s : String)
  /-- An interpolated expression. -/
  | interp (trim : Trim) (e : Expr)
  /-- A directive and the place of its word. -/
  | directive (trim : Trim) (pos : Pos) (d : Directive)

namespace TemplateItem

/-- Whether the item trims the text before it. -/
def trimsBefore : TemplateItem → Bool
  | text _ => false
  | interp trim _ | directive trim _ _ => trim.before

/-- Whether the item trims the text after it. -/
def trimsAfter : TemplateItem → Bool
  | text _ => false
  | interp trim _ | directive trim _ _ => trim.after

/-- The items with every text trimmed as its neighbours ask; `after` tells whether the item in
front trims the text behind it. -/
def trimAll (after : Bool) : List TemplateItem → List TemplateItem
  | [] => []
  | .text s :: rest =>
    let s := if after then Text.trimStart s else s
    let s := if rest.head?.any trimsBefore then Text.trimEnd s else s
    .text s :: trimAll false rest
  | item :: rest => item :: trimAll item.trimsAfter rest

end TemplateItem

/-- A directive that is not closed yet, with the parts read before it, last first. -/
inductive OpenDirective where
  /-- An `if` whose first parts are being read. -/
  | cond (pos : Pos) (test : Expr) (outer : List Part)
  /-- An `if` behind its `else`, with its first parts. -/
  | otherwise (pos : Pos) (test : Expr) (yes : List Part) (outer : List Part)
  /-- A `for` whose parts are being read. -/
  | loop (pos : Pos) (vars : LoopVars) (collection : Expr) (outer : List Part)

namespace Part

/-- The parts, last first, with a text behind them; texts are joined and empty ones left out. -/
def addText (s : String) (parts : List Part) : List Part :=
  if s.isEmpty then parts
  else match parts with
    | .text before :: rest => .text (before ++ s) :: rest
    | _ => .text s :: parts

/-- The error of a fault at a place. -/
def faultAt (pos : Pos) (cause : ParseCause) : ReadError :=
  .malformed ⟨pos.file, some pos.line, cause⟩

/-- The tree of the items, given the directives that are open, innermost first, and the parts read
in the innermost one, last first. -/
def nest : List OpenDirective → List Part → List TemplateItem → Except ReadError (List Part)
  | [], parts, [] => .ok parts.reverse
  | .loop pos _ _ _ :: _, _, [] => .error (faultAt pos .unterminatedLoop)
  | .cond pos _ _ :: _, _, [] => .error (faultAt pos .unterminatedCond)
  | .otherwise pos _ _ _ :: _, _, [] => .error (faultAt pos .unterminatedCond)
  | stack, parts, .text s :: rest => nest stack (addText s parts) rest
  | stack, parts, .interp _ e :: rest => nest stack (.interp e :: parts) rest
  | stack, parts, .directive _ pos d :: rest =>
    match d, stack with
    -- A directive begins parts of its own, or ends those of the innermost open one.
    | .cond test, _ => nest (.cond pos test parts :: stack) [] rest
    | .loop vars collection, _ => nest (.loop pos vars collection parts :: stack) [] rest
    | .otherwise, .cond opened test outer :: stack =>
      nest (.otherwise opened test parts.reverse outer :: stack) [] rest
    | .endCond, .cond _ test outer :: stack =>
      nest stack (.cond test parts.reverse [] :: outer) rest
    | .endCond, .otherwise _ test yes outer :: stack =>
      nest stack (.cond test yes parts.reverse :: outer) rest
    | .endLoop, .loop _ vars collection outer :: stack =>
      nest stack (.loop vars collection parts.reverse :: outer) rest
    | d, _ => .error (faultAt pos (.directive d.word))

/-- The parts of a template with the given items. -/
def ofItems (items : List TemplateItem) : Except ReadError (List Part) :=
  nest [] [] (TemplateItem.trimAll false items)

end Part

end ResourceTables.Native
