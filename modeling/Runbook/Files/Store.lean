/-!
# A store of files and directories

The working directory of a run, as a map from relative paths (lists of names) to entries:
directories, and files holding bytes. Paths are
read the way the operating system reads them: `/` separates names, empty names and `.`
are skipped, `..` steps to the parent, and every name before the last must be an existing
directory. Reading a directory, or writing where a directory stands, fails with
`isDirectory`; a missing name fails with `notFound`; a file used as a directory fails with
`notDirectory`.
-/

namespace Runbook

/-- Why a file could not be read or written. -/
inductive FileError where
  | notFound
  | isDirectory
  | notDirectory
  | notUtf8
  deriving Repr, DecidableEq

/-- The operating system's wording of a file error. -/
def FileError.message : FileError → String
  | .notFound => "No such file or directory (os error 2)"
  | .isDirectory => "Is a directory (os error 21)"
  | .notDirectory => "Not a directory (os error 20)"
  | .notUtf8 => "stream did not contain valid UTF-8"

/-- An image of gray levels, row by row. -/
structure Picture where
  width : Nat
  height : Nat
  rows : List (List Nat)
  deriving Repr, DecidableEq

/-- What a file holds: its bytes. -/
inductive Content where
  | bytes (data : List UInt8)
  deriving Repr, DecidableEq

/-- The text of a file holding UTF-8 bytes. -/
def Content.text? : Content → Option String
  | .bytes data => String.fromUTF8? (ByteArray.mk data.toArray)

/-- A file holding the UTF-8 bytes of a text. -/
def Content.ofText (s : String) : Content := .bytes s.toUTF8.toList

/-- An entry of the store. -/
inductive Entry where
  | directory
  | file (content : Content)
  deriving Repr, DecidableEq

/-- Files and directories under the working directory, by path. -/
structure FileStore where
  entries : List (List String × Entry)
  deriving Repr

namespace FileStore

/-- The empty working directory. -/
def empty : FileStore := ⟨[]⟩

/-- The entry at a path; the working directory itself is a directory. -/
def entry? (fs : FileStore) (path : List String) : Option Entry :=
  if path.isEmpty then some .directory else fs.entries.lookup path

/-- Places an entry, replacing the one at the same path. -/
def put (fs : FileStore) (path : List String) (e : Entry) : FileStore :=
  ⟨(path, e) :: fs.entries.filter (fun (p, _) => p != path)⟩

/-- The names of a path text, without empty names and `.`. -/
def names (path : String) : List String :=
  ((path.splitOn "/").filter fun n => n != "" && n != ".")

/-- Whether a path text can only name a directory: it ends in `/`, `.` or `..`. -/
def namesDirectory (path : String) : Bool :=
  match (path.splitOn "/").getLast? with
  | some last => last == "" || last == "." || last == ".."
  | none => false

/-- Walks the names of a path from `here`, each naming an existing directory. -/
def walk (fs : FileStore) (here : List String) : List String → Except FileError (List String)
  | [] => .ok here
  | n :: rest =>
    if n = ".." then
      if here.isEmpty then .error .notFound else walk fs here.dropLast rest
    else
      match fs.entry? (here ++ [n]) with
      | none => .error .notFound
      | some (.file _) => .error .notDirectory
      | some .directory => walk fs (here ++ [n]) rest

/-- Where a path text points: the full path of names, resolved except for the last one. -/
def locate (fs : FileStore) (path : String) : Except FileError (List String) :=
  match (names path).reverse with
  | [] => .ok []
  | last :: revInit => do
    let parent ← fs.walk [] revInit.reverse
    if last = ".." then
      if parent.isEmpty then .error .notFound else .ok parent.dropLast
    else .ok (parent ++ [last])

/-- The content of the file at a path. -/
def read (fs : FileStore) (path : String) : Except FileError Content := do
  if path.isEmpty then .error .notFound else
  let target ← fs.locate path
  match fs.entry? target with
  | none => .error .notFound
  | some .directory => .error .isDirectory
  | some (.file c) => if namesDirectory path then .error .notDirectory else .ok c

/-- Whether a file or directory exists at a path text. -/
def present (fs : FileStore) (path : String) : Bool :=
  if path.isEmpty then false
  else match fs.locate path with
    | .ok target =>
      match fs.entry? target with
      | some .directory => true
      | some (.file _) => !namesDirectory path
      | none => false
    | .error _ => false

/-- Creates or replaces the file at a path. -/
def write (fs : FileStore) (path : String) (c : Content) : Except FileError FileStore := do
  if path.isEmpty then .error .notFound else
  let target ← fs.locate path
  match fs.entry? target with
  | some .directory => .error .isDirectory
  | some (.file _) => if namesDirectory path then .error .notDirectory else .ok (fs.put target (.file c))
  | none => if namesDirectory path then .error .isDirectory else .ok (fs.put target (.file c))

/-- Creates a directory and every missing directory above it. -/
def makeDirectories (fs : FileStore) (path : List String) : FileStore :=
  (List.range path.length).foldl
    (fun acc i =>
      let p := path.take (i + 1)
      match acc.entry? p with
      | some _ => acc
      | none => acc.put p .directory) fs

/-- Places a file at a list of names, creating its directories first. -/
def seed (fs : FileStore) (path : String) (c : Content) : FileStore :=
  let ns := names path
  (fs.makeDirectories ns.dropLast).put ns (.file c)

/-- Every file with its path text (names joined by `/`), sorted by path. -/
def files (fs : FileStore) : List (String × Content) :=
  let all := fs.entries.filterMap fun (p, e) =>
    match e with
    | .file c => some ("/".intercalate p, c)
    | .directory => none
  all.mergeSort (fun a b => decide (a.1 ≤ b.1))

end FileStore

/-- The last name of a path text without its final extension, as a workflow file's
name: `a.b.json` gives `a.b`, `.hidden` gives `.hidden`. -/
def fileStem (path : String) : Option String :=
  match (FileStore.names path).getLast? with
  | none => none
  | some name =>
    if name = ".." then none
    else
      let cs := name.toList
      match (List.range cs.length).reverse.find? (fun i => cs[i]? = some '.') with
      | some i => if i = 0 then some name else some (String.ofList (cs.take i))
      | none => some name

end Runbook
