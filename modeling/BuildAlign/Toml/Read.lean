import BuildAlign.Toml.Scalar
import BuildAlign.Toml.Section

/-!
Reading configuration texts. A text is a sequence of lines with a key and a value, headers of
tables, and headers of tables in a list. A text that cannot be read gives the line of the mistake;
a key that is given twice is a mistake on the line of its second place.
-/

namespace BuildAlign.Toml

open Reader

/-- How many brackets may be open at a time, and how many parts a key may have. -/
def maxNesting : Nat :=
  79

def isBareChar (c : Char) : Bool :=
  c.isAlphanum || c == '-' || c == '_'

def keyPart : Reader Name := do
  spaces
  let line ← line
  let text ←
    match ← peek with
    | some '\x22' | some '\x27' => lineString
    | _ =>
      let cs ← run isBareChar
      if cs.isEmpty then fail
      pure (String.ofList cs)
  spaces
  return { text, line }

def keyParts : Nat → Reader (List Name)
  | 0 => fail
  | n + 1 => do
    let part ← keyPart
    if ← accept ['.'] then return part :: (← keyParts n) else return [part]

/-- Reads a key: the parts in front of the last one, and the last one. -/
def key : Reader (List Name × Name) := do
  let parts ← keyParts maxNesting
  match parts.getLast? with
  | some last => return (parts.dropLast, last)
  | none => fail

/-- Goes on with a change that is possible, and fails on the given line otherwise. -/
def orFail {α : Type} (line : Nat) : Option α → Reader α
  | some a => return a
  | none => throw line

mutual

def value : Nat → Nat → Reader Tree
  | 0, _ => fail
  | n + 1, depth => do
    let start ← line
    match ← peek, depth with
    | some '[', 0 | some '\x7b', 0 => fail
    | some '[', depth + 1 =>
      skip 1
      return .list start (← items n depth)
    | some '\x7b', depth + 1 =>
      skip 1
      spaces
      let s : Section := .empty (.opened start)
      if ← accept ['\x7d'] then return s.toTree start
      let s ← fields n depth start s
      return s.toTree start
    | _, _ => scalar

def items : Nat → Nat → Reader (List Tree)
  | 0, _ => fail
  | n + 1, depth => do
    blanks
    if ← accept [']'] then return []
    let x ← value n depth
    blanks
    if ← accept [','] then return x :: (← items n depth)
    expect [']']
    return [x]

/-- Reads the entries of a table in braces, opened on the given line, up to the closing one. -/
def fields : Nat → Nat → Nat → Section → Reader Section
  | 0, _, _, _ => fail
  | n + 1, depth, start, s => do
    let (path, name) ← key
    expect ['=']
    spaces
    let x ← value n depth
    spaces
    let s ← orFail start (s.assign? path name x)
    if ← accept [','] then fields n depth start s
    else
      expect ['\x7d']
      return s

end

/-! ## Documents -/

/-- A document under construction: the tables that are complete, and the open one with its path. -/
structure Document where
  root : Section
  path : List Name
  isItem : Bool
  current : Section

namespace Document

/-- The document before its first line. -/
def start : Document :=
  { root := .empty (.opened 1), path := [], isItem := false, current := .empty (.opened 1) }

def close? (d : Document) : Option Section :=
  match d.path.getLast? with
  | none => some d.current
  | some name =>
    let put (s : Section) : Option Section :=
      if d.isItem then s.push? name d.current else some (s.add name (.table d.current))
    d.root.modifyAt? .passed put d.path.dropLast

def lookup? : List Name → Section → Option Section
  | [], s => some s
  | name :: path, s =>
    match s.find? name.text with
    | some (.table t) => lookup? path t
    | some (.tables ts) => ts.getLast?.bind (lookup? path)
    | _ => none

def open? (d : Document) (line : Nat) (path : List Name) (name : Name) : Option Document := do
  let root ← d.close?
  let root ← root.modifyAt? .passed some path
  let parent ← lookup? path root
  let entries ← parent.take? name.text
  let root ← root.modifyAt? .passed (fun s => some (s.remove name.text)) path
  some { root, path := path ++ [name], isItem := false, current := .mk (.opened line) entries }

def openItem? (d : Document) (line : Nat) (path : List Name) (name : Name) : Option Document := do
  let root ← d.close?
  let root ← root.modifyAt? .passed some path
  let parent ← lookup? path root
  let _ ← parent.push? name (.empty (.opened line))
  some { root, path := path ++ [name], isItem := true, current := .empty (.opened line) }

def assign? (d : Document) (path : List Name) (name : Name) (x : Tree) : Option Document :=
  (d.current.assign? path name x).map fun current => { d with current }

end Document

def header (d : Document) : Reader Document := do
  let start ← line
  expect ['[']
  if ← accept ['['] then
    let (path, name) ← key
    expect [']', ']']
    endOfLine
    orFail start (d.openItem? start path name)
  else
    let (path, name) ← key
    expect [']']
    endOfLine
    orFail start (d.open? start path name)

def assignment (d : Document) : Reader Document := do
  let start ← line
  let (path, name) ← key
  expect ['=']
  spaces
  let x ← value (2 * (← rest).length + 2) maxNesting
  endOfLine
  orFail start (d.assign? path name x)

def lines : Nat → Document → Reader Document
  | 0, _ => fail
  | n + 1, d => do
    blanks
    match ← peek with
    | none => return d
    | some '[' => lines n (← header d)
    | some _ => lines n (← assignment d)

/-- Reads a text; a text that cannot be read gives the line of the mistake. -/
def read (source : String) : Except Nat Tree := do
  let cs := source.toList
  let cs := if cs.head? = some '\ufeff' then cs.tail else cs
  let (d, _) ← StateT.run (lines (cs.length + 1) .start) { rest := cs, line := 1 }
  match d.close? with
  | some root => return root.toTree 1
  | none => throw 1

end BuildAlign.Toml
