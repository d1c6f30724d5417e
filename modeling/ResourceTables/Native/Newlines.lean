import ResourceTables.Native.Token

/-!
# Newlines that end something

A newline ends an item of a body, so it matters at the top level and directly inside the braces of
a block. Inside parentheses, brackets, the braces of objects and template sequences it is dropped.
Newlines are added on both sides of a block's closing brace and at the end of a file, so that a
block on one line and a last line without a newline end their items too.
-/

namespace ResourceTables.Native

/-- What an open bracket encloses. -/
inductive Bracket where
  /-- The body of a block. -/
  | block
  /-- An object. -/
  | object
  /-- Anything else: an expression, a list or a template sequence. -/
  | group
  deriving DecidableEq, Repr

/-- What decides about the next newline: the open brackets, innermost first, and the token that was
let through last. -/
structure Newlines where
  /-- The open brackets, innermost first. -/
  brackets : List Bracket := []
  /-- The last token that was let through. -/
  last : Option Token := none

namespace Newlines

/-- Whether a token of this kind came last. -/
def lastIs (s : Newlines) (k : Kind) : Bool :=
  s.last.any (·.kind == k)

/-- Whether a newline would end an item here. -/
def endsItem (s : Newlines) : Bool :=
  (s.brackets.head?.all (· == .block)) && s.last.isSome && !s.lastIs .newline

/-- What the next token opens, if it is an opening bracket. -/
def opens (s : Newlines) (k : Kind) : Option Bracket :=
  match k with
  -- Behind a name or a quoted label a brace opens a block.
  | .openBrace => some (if s.lastIs .name || s.lastIs .quote then .block else .object)
  | .openParen | .openBracket | .openInterp | .openDirective => some .group
  | _ => none

/-- Whether the kind closes a bracket. -/
def closes : Kind → Bool
  | .closeBrace | .closeParen | .closeBracket => true
  | _ => false

/-- What becomes of the next token: the tokens let through for it, and what is then open. -/
def step (s : Newlines) (t : Token) : List Token × Newlines :=
  if t.kind = .newline then
    if s.endsItem then ([t], { s with last := some t }) else ([], s)
  else match s.opens t.kind with
    | some bracket => ([t], ⟨bracket :: s.brackets, some t⟩)
    | none =>
      if closes t.kind then
        match s.brackets with
        | .block :: outer =>
          -- A block is closed on a line of its own, unless it is empty.
          let before := match s.last with
            | some l => if l.kind = .newline ∨ l.kind = .openBrace then [] else [l.newlineAt]
            | none => []
          (before ++ [t, t.newlineAt], ⟨outer, some t.newlineAt⟩)
        | _ :: outer => ([t], ⟨outer, some t⟩)
        | [] => ([t], { s with last := some t })
      else ([t], { s with last := some t })

/-- The newline that ends the last item, where it is missing. -/
def finish (s : Newlines) : List Token :=
  match s.last with
  | some l => if l.kind = .newline then [] else [l.newlineAt]
  | none => []

/-- The tokens let through from a list of tokens, with the missing last newline when `terminate`
holds. -/
def process (terminate : Bool) (s : Newlines) : List Token → List Token
  | [] => if terminate then s.finish else []
  | t :: rest =>
    let (through, s) := s.step t
    through ++ process terminate s rest

end Newlines

end ResourceTables.Native
