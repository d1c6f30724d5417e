import ResourceTables.Native.Heredoc
import ResourceTables.Native.Newlines
import ResourceTables.Native.Reader

/-!
# Native texts

Reading a whole file or a whole template. The text is cut into tokens one at a time, each where the
reader stands, and the newlines that end nothing are left out. A heredoc is a token; its template
is read when it is met, from the line behind its header on.
-/

namespace ResourceTables.Native

/-- The two things that a native text can be. -/
inductive Form where
  /-- A configuration file. -/
  | file
  /-- A template on its own. -/
  | template
  deriving DecidableEq, Repr

/-- What is wrong with a token that cannot stand where it does. -/
def Token.unexpected (t : Token) : ReadError :=
  let pos := t.start.pos
  .malformed ⟨pos.file, some pos.line, if t.kind = .newline then .newline else .token t.text⟩

/-- The reader after all the given tokens. -/
def Reader.feedAll (heredoc : Draft (List Part)) : Reader → List Token → Except ReadError Reader
  | r, [] => .ok r
  | r, t :: rest =>
    match r.feed heredoc t with
    | some r => r.feedAll heredoc rest
    | none => .error t.unexpected

/-- The template of a heredoc token, which a template reader reads from the line behind the header
on. -/
def heredocParts (read : Mark → Except ReadError Reader) (t : Token) : Draft (List Part) :=
  if t.kind = .heredoc then do
    let pos := t.start.pos
    let r ← read (.start pos.file (pos.line + 1) (Heredoc.content t.text.toList))
    (r.parts?).getD (.ok [])
  else .ok []

/-- What is wrong when the text ends inside a construct: the line of the last token, or the first
line of the text when nothing stands there. -/
def endOfFile (first : Pos) (s : Newlines) : ReadError :=
  let line := match s.last with
    | some t => if t.isInserted then first.line else t.start.pos.line
    | none => first.line
  .malformed ⟨first.file, some line, .endOfFile⟩

/-- Whether the reader has read its text to the end. -/
def Reader.isComplete (form : Form) (r : Reader) : Bool :=
  match form with
  | .file => r.items?.isSome
  | .template => r.parts?.isSome

/-- The reader at the end of the text. -/
def finish (form : Form) (first : Pos) (s : Newlines) (r : Reader) : Except ReadError Reader := do
  let last := match form with
    | .file => s.finish
    | .template => []
  let r ← r.feedAll (.ok []) last
  let s := last.foldl (fun s t => { s with last := some t }) s
  if r.isComplete form then return r else throw (endOfFile first s)

/-- Reads the rest of a text that began at `first`. Every token takes at least one character and
the template of a heredoc is shorter than its token, so `fuel` above the length of the rest is
never used up. -/
def readFrom : Nat → Form → Pos → Newlines → Reader → Mark → Except ReadError Reader
  | 0, _, first, s, _, _ => .error (endOfFile first s)
  | fuel + 1, form, first, s, r, m =>
    if m.rest.isEmpty then finish form first s r
    else match nextToken? r.accepts m with
      | none => .error (.malformed ⟨m.pos.file, some m.pos.line, strayCause (form = .template) m⟩)
      | some t =>
        let next := m.advance (t.stop - m.offset)
        if t.kind.ignored then readFrom fuel form first s r next
        else
          -- Only the template of a heredoc is read, which is asked for by no other token.
          let heredoc :=
            heredocParts (fun m => readFrom fuel .template m.pos {} Reader.template m) t
          let (through, s) := s.step t
          match r.feedAll heredoc through with
          | .ok r => readFrom fuel form first s r next
          | .error e => .error e

/-- Reads a whole text that begins on the given line of a file. -/
def read (form : Form) (r : Reader) (file : String) (line : Nat) (text : String) :
    Except ReadError Reader :=
  let m := Mark.start file line text.toList
  readFrom (m.rest.length + 1) form m.pos {} r m

/-- The parts of a template that begins on the given line of a file. -/
def parseTemplate (file : String) (line : Nat) (text : String) : Except ReadError (List Part) := do
  let r ← read .template Reader.template file line text
  (r.parts?).getD (.ok [])

/-- The items of a configuration file. -/
def parseItems (file text : String) : Except ReadError (List Item) := do
  let r ← read .file Reader.file file 1 text
  (r.items?).getD (.ok [])

/-- The body of a configuration file in the native way of writing. -/
def parse (file text : String) : Except ReadError Body :=
  (parseItems file text).map .native

end ResourceTables.Native
