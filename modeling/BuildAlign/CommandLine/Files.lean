import BuildAlign.Table

/-!
Access to text files, and a directory of text files that is held in memory. Paths are walked part by
part, so a path through a file and a path to a directory are told apart from one that leads nowhere.
-/

namespace BuildAlign

inductive FileFault where
  | notFound
  | notDirectory
  | isDirectory
  | other (explanation : String)
  deriving DecidableEq, Repr

def FileFault.message : FileFault → String
  | notFound => "No such file or directory (os error 2)"
  | notDirectory => "Not a directory (os error 20)"
  | isDirectory => "Is a directory (os error 21)"
  | other explanation => explanation

/-- How a program reads and writes text files. -/
structure Files (m : Type → Type) where
  read : String → m (Except FileFault String)
  write : String → String → m (Except FileFault Unit)

/-- Text files by their path from the directory, without dots in it. -/
abbrev Directory := Table String String

namespace Directory

/-- What a path leads to. -/
inductive Node where
  | file (name : String)
  | directory
  /-- Nothing yet, but a file could be created there. -/
  | vacant (name : String)

def joined (parts : List String) : String :=
  "/".intercalate parts

/-- Whether the parts lead to a directory: there are none, or a file lies below. -/
def isDirectory (d : Directory) (parts : List String) : Bool :=
  parts.isEmpty || d.keys.any fun name => (joined parts ++ "/").isPrefixOf name

/-- Walks the parts of a path, from the directory at the parts walked so far. -/
def walk (d : Directory) : List String → List String → Except FileFault Node
  | _, [] => .ok .directory
  | walked, part :: rest =>
    if part = "" ∨ part = "." then walk d walked rest
    else if part = ".." then
      if walked.isEmpty then .error .notFound else walk d walked.dropLast rest
    else
      let here := walked ++ [part]
      if d.contains (joined here) then
        if rest.isEmpty then .ok (.file (joined here)) else .error .notDirectory
      else if isDirectory d here then walk d here rest
      else if rest.isEmpty then .ok (.vacant (joined here))
      else if rest.all (· == "") then .error .isDirectory
      else .error .notFound

/-- What a path leads to. Nothing is known of paths from the root. -/
def node (d : Directory) (path : String) : Except FileFault Node :=
  let parts := (path.toList.splitOn '/').map String.ofList
  match parts with
  | "" :: rest => .error (if rest.all (· == "") then .isDirectory else .notFound)
  | parts => walk d [] parts

def read (d : Directory) (path : String) : Except FileFault String :=
  match d.node path with
  | .ok (.file name) => .ok (d.getD name "")
  | .ok .directory => .error .isDirectory
  | .ok (.vacant _) => .error .notFound
  | .error .isDirectory => .error (if (path.toList.all (· == '/')) then .isDirectory else .notFound)
  | .error e => .error e

def write (d : Directory) (path text : String) : Except FileFault Directory :=
  match d.node path with
  | .ok (.file name) | .ok (.vacant name) => .ok (d.insert name text)
  | .ok .directory => .error .isDirectory
  | .error e => .error e

def files : Files (StateM Directory) where
  read path := return (← get).read path
  write path text := do
    match (← get).write path text with
    | .ok d =>
      set d
      return .ok ()
    | .error e => return .error e

end Directory

end BuildAlign
