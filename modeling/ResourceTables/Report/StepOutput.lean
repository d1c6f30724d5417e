import ResourceTables.Disk.Basic

/-!
# Step outputs

A step of a build hands a text of several lines on by adding it to a file, between two lines with a
delimiter that stands in no text.
-/

namespace ResourceTables.StepOutput

/-- The entry of a named text. -/
def entry (delimiter name value : String) : String :=
  name ++ "<<" ++ delimiter ++ "\n" ++ value ++ "\n" ++ delimiter ++ "\n"

/-- The disk with a named text added to the file at a path. -/
def set (d : Disk) (path delimiter name value : String) : Except DiskFault Disk :=
  d.append path (entry delimiter name value)

end ResourceTables.StepOutput
