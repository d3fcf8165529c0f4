import CallGuard.Document.Declaration
import CallGuard.Files.Tree

namespace CallGuard

/-!
# Documents in files

Settings and declarations read from files of a tree.
-/

/-- Why a file gives no record. -/
inductive LoadFault where
  | file (fault : FileFault)
  | document (path : String) (fault : DocumentFault)

/-- The wording of a fault. -/
def LoadFault.message : LoadFault → String
  | .file fault => s!"io error: {fault.message}: {fault.message}"
  | .document path fault => s!"invalid document: {path}: {fault.detail}"

/-- Read a record from the file that a path leads to. -/
def FileTree.load
    (tree : FileTree)
    (ofText : String → Except DocumentFault Record)
    (path : String) :
    Except LoadFault Record :=
  match tree.read path with
  | .error fault => .error (.file fault)
  | .ok text => (ofText text).mapError (.document path)

end CallGuard
