import ResourceTables.Disk.Encoding
import ResourceTables.Yaml.Cursor
import ResourceTables.Yaml.Token

/-!
# Names, tags and directives

What stands before a node or a document: anchors and aliases, tags, and the directives that declare
tag handles.
-/

namespace ResourceTables.Yaml

namespace Cursor

/-- The name behind the first character of an anchor or an alias. -/
def anchorName (c : Cursor) : Except Fault (String × Cursor) :=
  let activity : Activity := if c.peek == '*' then .aliasName else .anchor
  let (name, after) := c.next.span isNameChar
  if name.isEmpty then .error (c.next.fault activity c.mark (.name c.next.peek))
  else if isSpaceOrEnd after.peek || "?:,]\x7d%@`".toList.contains after.peek then
    .ok (String.ofList name, after)
  else .error (after.fault activity c.mark (.name after.peek))

/-- Whether the character may stand in the locator of a tag. -/
def isLocatorChar (c : Char) : Bool :=
  isNameChar c || ";/?:@&=+$,.!~*'()[]%".toList.contains c

/-- The bytes that are written with percent signs here. -/
def locatorBytes (activity : Activity) (start : Mark) :
    Nat → Cursor → Except Fault (List UInt8 × Cursor)
  | 0, c => .ok ([], c)
  | fuel + 1, c =>
    if c.peek == '%' then
      let c := c.next
      match Text.hexValue? c.peek, Text.hexValue? (c.peek 1) with
      | some high, some low =>
        (locatorBytes activity start fuel (c.skip 2)).map fun (bytes, c) =>
          (UInt8.ofNat (16 * high + low) :: bytes, c)
      | none, _ => .error (c.fault activity start (.locatorEscape c.peek))
      | some _, none => .error (c.fault activity start (.locatorEscape (c.peek 1)))
    else .ok ([], c)

/-- The characters of a locator. -/
def locatorChars (activity : Activity) (start : Mark) :
    Nat → Cursor → Except Fault (List Char × Cursor)
  | 0, c => .ok ([], c)
  | fuel + 1, c =>
    if c.peek == '%' then do
      let (bytes, after) ← c.locatorBytes activity start c.rest.length
      match String.fromUTF8? ⟨bytes.toArray⟩ with
      | some s =>
        let (more, after) ← locatorChars activity start fuel after
        return (s.toList ++ more, after)
      | none =>
        let codes := bytes.map UInt8.toNat
        let reason := ((Encoding.faultFrom 0 0 codes).map (Encoding.describe codes)).getD ""
        throw (c.fault activity start (.bytes reason))
    else if isLocatorChar c.peek then
      (locatorChars activity start fuel c.next).map fun (more, after) => (c.peek :: more, after)
    else .ok ([], c)

/-- The locator of a tag, read within a tag or a directive. -/
def locator (activity missing : Activity) (start : Mark) (c : Cursor) :
    Except Fault (String × Cursor) := do
  let (found, after) ← c.locatorChars activity start c.rest.length
  if after.mark.index = c.mark.index then
    throw (after.fault missing start (.locator after.peek))
  return (String.ofList found, after)

/-- The handle of a tag: an exclamation mark, or a name between two. -/
def handle (activity : Activity) (start : Mark) (c : Cursor) : Except Fault (String × Cursor) :=
  if c.peek != '!' then .error (c.fault activity start (.expected '!' c.peek))
  else if c.peek 1 == ' ' then .ok ("!", c.next)
  else
    let (name, after) := c.next.span isNameChar
    if after.peek == '!' then .ok (String.ofList ('!' :: name ++ ['!']), after.next)
    else .error (after.fault activity start (.expected '!' after.peek))

/-- Whether a second exclamation mark stands in the tag that begins here. -/
def hasHandle (c : Cursor) : Bool :=
  (c.rest.drop 1).takeWhile (!isWordEnd ·) |>.contains '!'

/-- The tag that begins here: its handle, if it has one, and what follows it. -/
def tag (c : Cursor) : Except Fault (TokenKind × Cursor) := do
  let start := c.mark
  let (kind, after) ←
    if c.peek 1 == '<' then do
      let (suffix, after) ← (c.skip 2).locator .tag .tagParts start
      if after.peek != '>' then throw (after.fault .tagParts start (.expected '>' after.peek))
      pure (TokenKind.tag none suffix, after.next)
    else if isSpaceOrEnd (c.peek 1) then pure (TokenKind.tag none "!", c.next)
    else do
      let (h, after) ← if c.hasHandle then c.handle .tag start else pure ("!", c.next)
      let (suffix, after) ← after.locator .tag .tagParts start
      pure (TokenKind.tag (some h) suffix, after)
  if isWordEnd after.peek then return (kind, after)
  throw (after.fault .tag start (.expected ' ' after.peek))

/-- A number of a version. -/
def versionNumber (start : Mark) (c : Cursor) : Except Fault (Nat × Cursor) :=
  let (digits, after) := c.span isDigit
  if digits.isEmpty then .error (c.fault .directive start (.digit c.peek))
  else if maxIntDigits < digits.length then .error .beyondLimits
  else .ok (digits.foldl (fun n d => 10 * n + (d.toNat - '0'.toNat)) 0, after)

/-- What the directive of the given name declares. -/
def directiveValue (name : String) (start : Mark) (c : Cursor) :
    Except Fault (Directive × Cursor) := do
  if name == "YAML" then
    let (major, c) ← c.skipBlanks.versionNumber start
    if c.peek != '.' then throw (c.fault .directive start (.digitOrPoint c.peek))
    let (minor, c) ← c.next.versionNumber start
    if !isWordEnd c.peek then throw (c.fault .directive start (.digitOrBlank c.peek))
    return (.version major minor, c)
  else if name == "TAG" then
    let (h, c) ← c.skipBlanks.handle .directive start
    if c.peek != ' ' then throw (c.fault .directive start (.expected ' ' c.peek))
    let (stem, c) ← c.skipBlanks.locator .directive .directiveParts start
    if !isWordEnd c.peek then throw (c.fault .directive start (.expected ' ' c.peek))
    return (.handle h stem, c)
  else return (.other, c.skipWhile (!isBreakOrEnd ·))

/-- The directive that begins here, with the place where it ends and the cursor behind its line. -/
def directive (c : Cursor) : Except Fault (Directive × Mark × Cursor) := do
  let start := c.mark
  let (name, after) := c.next.span isNameChar
  if name.isEmpty then throw (c.next.fault .directive start (.name c.next.peek))
  if !isWordEnd after.peek then throw (after.fault .directive start (.name after.peek))
  let (d, after) ← after.directiveValue (String.ofList name) start
  return (d, after.mark, ← after.endLine .directive start)

end Cursor

end ResourceTables.Yaml
