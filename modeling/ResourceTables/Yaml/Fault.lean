import ResourceTables.Text.Hex
import ResourceTables.Text.Quoted
import ResourceTables.Yaml.Mark

/-!
# What can be wrong with a YAML text

A fault tells what was being read when it was met, where that began, what is wrong, and where. The
wording of every fault is here.
-/

namespace ResourceTables.Yaml

/-- What is being read. -/
inductive Activity where
  | nextToken | simpleKey | directive | directiveParts | aliasName | anchor | tag | tagParts
  | blockScalar
  | doubleQuoted | quoted | node | blockNode | flowNode | blockCollection | blockMapping
  | flowSequence | flowMapping | mapping | orderedMap | pairs
  /-- The only document of a text. -/
  | document
  /-- A node with an anchor. -/
  | anchored (name : String)
  deriving DecidableEq, Repr, Inhabited

/-- What is being read, in words. -/
def Activity.text : Activity → String
  | nextToken => "while scanning for the next token"
  | simpleKey => "while scanning a simple key"
  | directive => "while scanning a directive"
  | directiveParts => "while parsing a directive"
  | aliasName => "while scanning an alias"
  | anchor => "while scanning an anchor"
  | tag => "while scanning a tag"
  | tagParts => "while parsing a tag"
  | blockScalar => "while scanning a block scalar"
  | doubleQuoted => "while scanning a double-quoted scalar"
  | quoted => "while scanning a quoted scalar"
  | node => "while parsing a node"
  | blockNode => "while parsing a block node"
  | flowNode => "while parsing a flow node"
  | blockCollection => "while parsing a block collection"
  | blockMapping => "while parsing a block mapping"
  | flowSequence => "while parsing a flow sequence"
  | flowMapping => "while parsing a flow mapping"
  | mapping => "while constructing a mapping"
  | orderedMap => "while constructing an ordered map"
  | pairs => "while constructing pairs"
  | document => "expected a single document in the stream"
  | anchored name => "found duplicate anchor " ++ Text.quoted name ++ "; first occurrence"

/-- The kinds of nodes. -/
inductive NodeKind where
  | scalar | sequence | mapping
  deriving DecidableEq, Repr, Inhabited

/-- The kind as messages name it. -/
def NodeKind.text : NodeKind → String
  | scalar => "scalar"
  | sequence => "sequence"
  | mapping => "mapping"

/-- What is wrong. -/
inductive Problem where
  /-- The character begins no token. -/
  | cannotStart (found : Char)
  /-- A key has no colon. -/
  | noColon
  /-- An entry of a sequence stands within a line that cannot hold one. -/
  | sequenceEntry
  /-- A key stands within a line that cannot hold one. -/
  | mappingKey
  /-- A value stands within a line that cannot hold one. -/
  | mappingValue
  /-- A name is wanted. -/
  | name (found : Char)
  /-- A digit or a point is wanted. -/
  | digitOrPoint (found : Char)
  /-- A digit or a blank is wanted. -/
  | digitOrBlank (found : Char)
  /-- A digit is wanted. -/
  | digit (found : Char)
  /-- A given character is wanted. -/
  | expected (wanted found : Char)
  /-- A comment or the end of the line is wanted. -/
  | lineEnd (found : Char)
  /-- The locator of a tag is wanted. -/
  | locator (found : Char)
  /-- Two hexadecimal digits are wanted. -/
  | locatorEscape (found : Char)
  /-- The escaped bytes of a tag are no text, for a reason in words. -/
  | bytes (reason : String)
  /-- The header of a block scalar is wanted. -/
  | blockHeader (found : Char)
  /-- An indentation of zero is asked for. -/
  | zeroIndentation
  /-- Some hexadecimal digits are wanted. -/
  | hexDigits (count : Nat) (found : Char)
  /-- A backslash begins no escape. -/
  | escape (found : Char)
  /-- The text ends within a quoted scalar. -/
  | endOfText
  /-- A document ends within a quoted scalar. -/
  | separator
  /-- A document is wanted. -/
  | documentStart (found : String)
  /-- The version of the notation is told twice. -/
  | secondVersion
  /-- The version of the notation is another one. -/
  | version
  /-- A tag handle is declared twice. -/
  | secondHandle (handle : String)
  /-- A tag handle is not declared. -/
  | unknownHandle (handle : String)
  /-- The content of a node is wanted. -/
  | content (found : String)
  /-- The end of a block is wanted. -/
  | blockEnd (found : String)
  /-- A comma or a closing bracket is wanted. -/
  | commaOr (closing : Char) (found : String)
  /-- Another document follows. -/
  | anotherDocument
  /-- An alias stands for nothing. -/
  | unknownAlias (name : String)
  /-- An anchor is used again. -/
  | secondAnchor
  /-- A node of another kind is wanted. -/
  | kind (wanted found : NodeKind)
  /-- What is merged is no mapping. -/
  | mergedItem (found : NodeKind)
  /-- What is merged is neither a mapping nor a list. -/
  | merged (found : NodeKind)
  /-- A collection stands as a key. -/
  | unhashable
  /-- No sequence stands where a list of pairs is wanted. -/
  | pairSequence (found : NodeKind)
  /-- Something else than a mapping stands for a pair. -/
  | pairMapping (found : NodeKind)
  /-- A mapping of another length stands for a pair. -/
  | pairLength (found : Nat)
  /-- Binary data are no text of ASCII, for a reason in words. -/
  | notAscii (reason : String)
  /-- Binary data are not encoded as they should be, for a reason in words. -/
  | notEncoded (reason : String)
  /-- Nothing is known about a tag. -/
  | unknownTag (tag : String)
  deriving DecidableEq, Repr, Inhabited

/-- A character as messages name it. -/
def charText (c : Char) : String := Text.quoted (String.singleton c)

/-- What is wrong, in words. -/
def Problem.text : Problem → String
  | cannotStart found => "found character " ++ charText found ++ " that cannot start any token"
  | noColon => "could not find expected ':'"
  | sequenceEntry => "sequence entries are not allowed here"
  | mappingKey => "mapping keys are not allowed here"
  | mappingValue => "mapping values are not allowed here"
  | name found => "expected alphabetic or numeric character, but found " ++ charText found
  | digitOrPoint found => "expected a digit or '.', but found " ++ charText found
  | digitOrBlank found => "expected a digit or ' ', but found " ++ charText found
  | digit found => "expected a digit, but found " ++ charText found
  | expected wanted found => "expected " ++ charText wanted ++ ", but found " ++ charText found
  | lineEnd found => "expected a comment or a line break, but found " ++ charText found
  | locator found => "expected URI, but found " ++ charText found
  | locatorEscape found =>
    "expected URI escape sequence of 2 hexadecimal numbers, but found " ++ charText found
  | bytes reason => reason
  | blockHeader found =>
    "expected chomping or indentation indicators, but found " ++ charText found
  | zeroIndentation => "expected indentation indicator in the range 1-9, but found 0"
  | hexDigits count found =>
    "expected escape sequence of " ++ toString count ++ " hexadecimal numbers, but found " ++
      charText found
  | escape found => "found unknown escape character " ++ charText found
  | endOfText => "found unexpected end of stream"
  | separator => "found unexpected document separator"
  | documentStart found => "expected '<document start>', but found " ++ Text.quoted found
  | secondVersion => "found duplicate YAML directive"
  | version => "found incompatible YAML document (version 1.* is required)"
  | secondHandle handle => "duplicate tag handle " ++ Text.quoted handle
  | unknownHandle handle => "found undefined tag handle " ++ Text.quoted handle
  | content found => "expected the node content, but found " ++ Text.quoted found
  | blockEnd found => "expected <block end>, but found " ++ Text.quoted found
  | commaOr closing found =>
    "expected ',' or " ++ charText closing ++ ", but got " ++ Text.quoted found
  | anotherDocument => "but found another document"
  | unknownAlias wanted => "found undefined alias " ++ Text.quoted wanted
  | secondAnchor => "second occurrence"
  | kind wanted found => "expected a " ++ wanted.text ++ " node, but found " ++ found.text
  | mergedItem found => "expected a mapping for merging, but found " ++ found.text
  | merged found =>
    "expected a mapping or list of mappings for merging, but found " ++ found.text
  | unhashable => "found unhashable key"
  | pairSequence found => "expected a sequence, but found " ++ found.text
  | pairMapping found => "expected a mapping of length 1, but found " ++ found.text
  | pairLength found =>
    "expected a single mapping item, but found " ++ toString found ++ " items"
  | notAscii reason => "failed to convert base64 data into ascii: " ++ reason
  | notEncoded reason => "failed to decode base64 data: " ++ reason
  | unknownTag tag => "could not determine a constructor for the tag " ++ Text.quoted tag

/-- A fault in a text. -/
inductive Fault where
  /-- A character that no text may hold, with how many characters stand before it. -/
  | character (c : Char) (index : Nat)
  /-- Something is wrong at a place, while something is read that began at another. -/
  | wrong (activity : Option (Activity × Option Mark)) (problem : Problem) (mark : Mark)
  /-- A number or a character is written that no value can hold. -/
  | beyondLimits
  deriving DecidableEq, Repr, Inhabited

namespace Fault

/-- The lines that tell what is read: its place is left out where the fault itself lies there. -/
def contextLines (source : List Char) (mark : Mark) : Activity × Option Mark → List String
  | (activity, some start) =>
    if start.line = mark.line ∧ start.column = mark.column then [activity.text]
    else [activity.text, start.text source]
  | (activity, none) => [activity.text]

/-- The fault in words; nothing where a value is beyond what values can be. -/
def text? (source : String) : Fault → Option String
  | character c index =>
    let digits := Nat.toDigits 16 c.toNat
    some ("unacceptable character #x" ++
      String.ofList (List.replicate (4 - digits.length) '0' ++ digits) ++
      ": special characters are not allowed\n  in \"<unicode string>\", position " ++
      toString index)
  | .wrong activity problem mark =>
    let source := source.toList
    some ("\n".intercalate ((activity.map (contextLines source mark)).getD [] ++
      [problem.text, mark.text source]))
  | .beyondLimits => none

end Fault

end ResourceTables.Yaml
