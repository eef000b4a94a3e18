import ProgressTable.Text.Basic

/-!
# Hosts

The command line reads files and may write one. What a path means is left to a host, which does both
within some monad. A `Storage` is a host whose state can be looked at, before a run and after it.
`Directory` is one: a working directory in a tree of directories and files of text.
-/

namespace ProgressTable.CommandLine

/-- Why a file could not be read or written. -/
inductive FileError where
  | notFound
  | notDirectory
  | isDirectory
  | nameTooLong
  /-- There is a file, but it cannot be read or written. The words are those of the host. -/
  | denied (words : Text)
deriving Repr, DecidableEq

/-- The words for an error and its number. -/
def FileError.message : FileError → Text
  | notFound => "No such file or directory (os error 2)".toList
  | notDirectory => "Not a directory (os error 20)".toList
  | isDirectory => "Is a directory (os error 21)".toList
  | nameTooLong => "File name too long (os error 36)".toList
  | denied words => words

/-- Reading and writing files. A path that does not begin at the root begins at the working
directory. -/
structure Host (m : Type → Type) where
  workingDirectory : m Text
  read : Text → m (Except FileError Text)
  write : Text → Text → m (Except FileError Unit)

/-- Files that are there in one state and may be others in the next. Only writing leads to another
state, and what cannot be written leaves none. -/
structure Storage (σ : Type) where
  workingDirectory : σ → Text
  read : σ → Text → Except FileError Text
  write : σ → Text → Text → Except FileError σ

/-- Files as a host. What could not be written leaves them as they were. -/
def Storage.host {σ : Type} (files : Storage σ) : Host (StateM σ) where
  workingDirectory := do pure (files.workingDirectory (← get))
  read path := do pure (files.read (← get) path)
  write path contents := do
    match files.write (← get) path contents with
    | .ok after =>
      set after
      pure (.ok ())
    | .error e => pure (.error e)

/-! ## Paths -/

namespace Path

/-- The pieces between slashes. -/
def pieces : Text → List Text
  | [] => [[]]
  | c :: r =>
    if c = '/' then [] :: pieces r
    else match pieces r with
      | [] => [[c]]
      | p :: ps => (c :: p) :: ps

/-- The names on a path. -/
def names (path : Text) : List Text := (pieces path).filter (· ≠ [])

/-- The name that stays where it is. -/
def here : Text := ['.']

/-- The name that goes back to the directory above. -/
def above : Text := ['.', '.']

/-- The longest name in bytes. -/
def greatestName : Nat := 255

/-- The longest path in bytes. -/
def greatestLength : Nat := 4095

/-- The size of a text in bytes. -/
def byteSize (t : Text) : Nat := t.foldl (fun n c => n + c.utf8Size) 0

/-- The path from the root along these names. -/
def ofNames (names : List Text) : Text := '/' :: List.intercalate ['/'] names

/-- Whether a path begins at the root. -/
def isAbsolute (path : Text) : Bool := path.head? = some '/'

/-- The path from the root, if it is not one already and begins at a directory. -/
def join (directory path : Text) : Text :=
  if isAbsolute path then path
  else if directory.getLast? = some '/' then directory ++ path
  else directory ++ '/' :: path

/-- The path with an ending behind its last name, and without what stands there. A path that ends
above its last name has no name to put it to. -/
def withEnding? (ending path : Text) : Option Text :=
  match (pieces path).reverse.dropWhile fun p => p = [] || p = here with
  | [] => none
  | p :: ps =>
    if p = above then none else some (List.intercalate ['/'] (p :: ps).reverse ++ ending)

example : withEnding? ".toml".toList "a/b/./".toList = some "a/b.toml".toList
    ∧ withEnding? ".toml".toList "./".toList = none := by
  decide

end Path

/-! ## A directory -/

/-- A working directory among others. A directory is there if it is the root, if the working
directory or another one lies in it, or if a file does. -/
structure Directory where
  /-- The files, each with the names on the way to it from the root and with its text. -/
  files : List (List Text × Text)
  /-- The names on the way to the working directory. -/
  here : List Text
  /-- Directories that are there even if no file is. -/
  others : List (List Text)
deriving Repr, DecidableEq

namespace Directory

/-- What a path leads to. -/
inductive Place where
  | file (names : List Text) (contents : Text)
  | directory
  /-- Nothing, but the directory is there in which it would be. -/
  | absent (names : List Text)
deriving Repr, DecidableEq

/-- Whether names lead to a directory. -/
def isDirectory (d : Directory) (names : List Text) : Bool :=
  ((d.here :: d.others).any fun other => names.isPrefixOf other)
    || d.files.any fun f => names.isPrefixOf f.1 && names.length < f.1.length

/-- Follows names from a directory on. Above the root there is the root again. -/
def follow (d : Directory) (here : List Text) : List Text → Except FileError Place
  | [] => .ok .directory
  | n :: ns =>
    if n = Path.here then follow d here ns
    else if n = Path.above then follow d here.dropLast ns
    else if Path.greatestName < Path.byteSize n then .error .nameTooLong
    else
      let there := here ++ [n]
      match d.files.lookup there with
      | some contents => if ns.isEmpty then .ok (.file there contents) else .error .notDirectory
      | none =>
        if d.isDirectory there then follow d there ns
        else if ns.isEmpty then .ok (.absent there)
        else .error .notFound

/-- Where a path begins. -/
def start (d : Directory) (path : Text) : List Text := if Path.isAbsolute path then [] else d.here

/-- What a path leads to. -/
def place (d : Directory) (path : Text) : Except FileError Place :=
  if path.isEmpty then .error .notFound
  else if Path.greatestLength < Path.byteSize path then .error .nameTooLong
  else d.follow (d.start path) (Path.names path)

/-- Whether a path can only mean a directory. -/
def endsInSlash (path : Text) : Bool := path.getLast? = some '/'

/-- The text of a file. -/
def read (d : Directory) (path : Text) : Except FileError Text :=
  match d.place path with
  | .error e => .error e
  | .ok (.file _ contents) => if endsInSlash path then .error .notDirectory else .ok contents
  | .ok .directory => .error .isDirectory
  | .ok (.absent _) => .error .notFound

/-- The directory with a text in one of its files, which may be new. -/
def put (d : Directory) (names : List Text) (contents : Text) : Directory :=
  { d with files := (names, contents) :: d.files.filter (·.1 ≠ names) }

/-- Writes a file, a new one or one that is there. -/
def write (d : Directory) (path contents : Text) : Except FileError Directory :=
  match d.place path with
  | .error e => .error e
  | .ok .directory => .error .isDirectory
  | .ok (.file names _) | .ok (.absent names) =>
    if endsInSlash path then .error .isDirectory else .ok (d.put names contents)

/-- The files of a directory and those around it. -/
def storage : Storage Directory where
  workingDirectory d := Path.ofNames d.here
  read := read
  write := write

/-- The directory as a host. -/
def host : Host (StateM Directory) := storage.host

/-- A working directory with files of given names, and nothing else around it. -/
def ofFiles (files : List (Text × Text)) : Directory :=
  let here := ["home".toList, "author".toList]
  { files := files.map fun (name, contents) => (here ++ Path.names name, contents)
    here
    others := [] }

/-- A file is found by its name, from the root, and by way of the directory above. -/
example :
    let d := ofFiles [("table.json".toList, ['t'])]
    ["table.json", "/home/author/table.json", "../author/./table.json", "/home/author",
      "../table.json", "table.json/"].map (fun path => d.read path.toList)
      = [.ok ['t'], .ok ['t'], .ok ['t'], .error .isDirectory, .error .notFound,
        .error .notDirectory] := by
  rfl

end Directory
end ProgressTable.CommandLine
