import RuleAudit.Text.Utf8

/-!
Trees of files: which file a path leads to, and in words why it leads to none.
-/

namespace RuleAudit

/-! ### Why a file cannot be read -/

/-- Why a path leads to no file that can be read. -/
inductive FileFault
  | missing
  | notDirectory
  | isDirectory
  | nameTooLong
  /-- The path holds the character that ends a path. -/
  | ended
  /-- The system refuses with another code. -/
  | other (code : Nat) (reason : Text)
deriving DecidableEq, Repr

namespace FileFault

/-- A reason with its code. -/
def withCode (reason : Text) (code : Nat) : Text :=
  reason ++ " (os error " ++ Text.decimal code ++ ")"

def message : FileFault → Text
  | missing => withCode "No such file or directory" 2
  | notDirectory => withCode "Not a directory" 20
  | isDirectory => withCode "Is a directory" 21
  | nameTooLong => withCode "File name too long" 36
  | ended => "file name contained an unexpected NUL byte"
  | other code reason => withCode reason code

end FileFault

/-! ### Trees -/

/-- The entries of a tree: the names that lead to each, and the bytes of those that are files. The
directories on the way to an entry are there, too. -/
structure FileTree where
  entries : List (List Text × Option (List UInt8))
deriving Repr

namespace FileTree

/-- The names of a path; empty ones do not count. -/
def names (path : Text) : List Text := (Text.split '/' path).filter (· ≠ [])

/-- The tree of files and directories, each with its path. -/
def ofPaths (entries : List (Text × Option (List UInt8))) : FileTree :=
  ⟨entries.map fun (path, contents) => (names path, contents)⟩

/-- A place: one in the tree, with the names that lead to it, or a directory around the tree, of
which nothing else is known. -/
inductive Place
  | inside (names : List Text)
  | outside
deriving DecidableEq, Repr

namespace Place

/-- The directory around a place. -/
def parent : Place → Place
  | inside [] => outside
  | inside names => inside names.dropLast
  | outside => outside

end Place

/-- The bytes of a place that is a file. -/
def file? (t : FileTree) : Place → Option (List UInt8)
  | .inside names => (t.entries.lookup names).join
  | .outside => none

/-- There is something at a place. -/
def holds (t : FileTree) : Place → Bool
  | .inside names => names.isEmpty || t.entries.any fun e => names.isPrefixOf e.1
  | .outside => true

/-- The greatest number of bytes of a name. -/
def nameLimit : Nat := 255

/-- The number of bytes that a path must stay below. -/
def pathLimit : Nat := 4096

/-- The place that a name leads to from a directory. -/
def enter (t : FileTree) (p : Place) (name : Text) : Except FileFault Place :=
  if (t.file? p).isSome then .error .notDirectory
  else if name = ['.'] then .ok p
  else if name = ['.', '.'] then .ok p.parent
  else if nameLimit < Text.Utf8.size name then .error .nameTooLong
  else
    match p with
    | .outside => .error .missing
    | .inside names =>
      let q := Place.inside (names ++ [name])
      if t.holds q then .ok q else .error .missing

/-- The bytes of the file that a path leads to. Behind a slash only a directory can stand before. -/
def read (t : FileTree) (path : Text) : Except FileFault (List UInt8) := do
  if '\x00' ∈ path then throw .ended
  if path = [] then throw .missing
  if pathLimit ≤ Text.Utf8.size path then throw .nameTooLong
  let start := if path.head? = some '/' then Place.outside else .inside []
  let p ← (names path).foldlM t.enter start
  match t.file? p with
  | none => throw .isDirectory
  | some bytes => if path.getLast? = some '/' then throw .notDirectory else return bytes

end FileTree

end RuleAudit
