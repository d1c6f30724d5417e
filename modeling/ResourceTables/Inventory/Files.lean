import ResourceTables.Disk.Path
import ResourceTables.Text.Lower

/-!
# Configuration files

Which files of a directory belong to a module, and in which notation each is written, judged by
their names.
-/

namespace ResourceTables

/-- The two notations of configuration files. -/
inductive ConfigNotation where
  | native
  | json
  deriving DecidableEq, Repr, Inhabited

namespace FileName

/-- Whether the text ends in `ending`. -/
def endsIn (ending : String) (name : String) : Bool :=
  ending.toList.isSuffixOf name.toList

/-- The notation of the file at a path. -/
def notationOf (path : String) : ConfigNotation :=
  if endsIn ".json" (Text.lower path) then .json else .native

/-- Whether the file at a path is a configuration file: not hidden and no backup of an editor. -/
def isConfig (path : String) : Bool :=
  let name := Path.base path
  let first := name.toList.head?
  let last := name.toList.getLast?
  first != some '.' && first != some '#' && last != some '~' && last != some '#' &&
    (endsIn ".tf" name || endsIn ".tf.json" name)

/-- The text before `ending`, if the text ends in it. -/
def before? (ending : String) (name : String) : Option String :=
  if endsIn ending name then
    some (String.ofList (name.toList.take (name.length - ending.length)))
  else none

/-- The name without its configuration ending, if it has one. -/
def stem? (name : String) : Option String :=
  (before? ".tf.json" name).or (before? ".tf" name)

/-- Whether the file at a path overrides others instead of belonging to the module by itself. -/
def isOverride (path : String) : Bool :=
  match stem? (Path.base path) with
  | some stem => stem == "override" || endsIn "_override" stem
  | none => false

end FileName

end ResourceTables
