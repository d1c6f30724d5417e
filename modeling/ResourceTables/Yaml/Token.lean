import ResourceTables.Yaml.Mark

/-!
# Tokens of a YAML text
-/

namespace ResourceTables.Yaml

/-- What a line that starts with a percent sign declares. -/
inductive Directive where
  /-- The version of the notation. -/
  | version (major minor : Nat)
  /-- What a tag handle stands for. -/
  | handle (handle stem : String)
  /-- Anything else. -/
  | other
  deriving DecidableEq, Repr, Inhabited

/-- The kinds of tokens. -/
inductive TokenKind where
  | streamStart | streamEnd | documentStart | documentEnd
  | directive (d : Directive)
  | blockSequenceStart | blockMappingStart | blockEnd
  | flowSequenceStart | flowSequenceEnd | flowMappingStart | flowMappingEnd
  | key | value | blockEntry | flowEntry
  | aliasName (name : String)
  | anchor (name : String)
  | tag (handle : Option String) (suffix : String)
  | scalar (text : String) (plain : Bool)
  deriving DecidableEq, Repr, Inhabited

/-- The kind as messages name it. -/
def TokenKind.text : TokenKind → String
  | streamStart => "<stream start>"
  | streamEnd => "<stream end>"
  | documentStart => "<document start>"
  | documentEnd => "<document end>"
  | directive _ => "<directive>"
  | blockSequenceStart => "<block sequence start>"
  | blockMappingStart => "<block mapping start>"
  | blockEnd => "<block end>"
  | flowSequenceStart => "["
  | flowSequenceEnd => "]"
  | flowMappingStart => "\x7b"
  | flowMappingEnd => "\x7d"
  | key => "?"
  | value => ":"
  | blockEntry => "-"
  | flowEntry => ","
  | aliasName _ => "<alias>"
  | anchor _ => "<anchor>"
  | tag .. => "<tag>"
  | scalar .. => "<scalar>"

/-- A token and the places between which it stands. -/
structure Token where
  /-- What the token is. -/
  kind : TokenKind
  /-- Where it begins. -/
  start : Mark
  /-- Where it ends. -/
  stop : Mark
  deriving DecidableEq, Repr, Inhabited

end ResourceTables.Yaml
