import BuildAlign.Config.Tree

/-!
Tables under construction. A table may be opened by a header, by a longer header or a dotted key
that goes through it, or in braces; which of them decides whether it may be extended later. A table
that has been opened by a header or in braces is complete once something else is opened, and no key
is given twice.
-/

namespace BuildAlign.Toml

structure Name where
  text : String
  line : Nat

/-- How a table came to be. -/
inductive Origin where
  /-- Opened by a header of its own on a line, or in braces. -/
  | opened (line : Nat)
  /-- Passed through by a longer header. -/
  | passed
  /-- Passed through by a dotted key. -/
  | dotted
  deriving DecidableEq

mutual

/-- What a key stands for. -/
inductive Item where
  | value (tree : Tree)
  | table (s : Section)
  | tables (items : List Section)

/-- A table under construction, with its entries in order. -/
inductive Section where
  | mk (origin : Origin) (entries : List (Name × Item))

end

namespace Section

def origin : Section → Origin
  | mk origin _ => origin

def entries : Section → List (Name × Item)
  | mk _ entries => entries

def empty (origin : Origin) : Section :=
  mk origin []

def find? (s : Section) (name : String) : Option Item :=
  (s.entries.find? (·.1.text == name)).map Prod.snd

def add (s : Section) (name : Name) (item : Item) : Section :=
  mk s.origin (s.entries ++ [(name, item)])

def remove (s : Section) (name : String) : Section :=
  mk s.origin (s.entries.filter (·.1.text != name))

def replace (s : Section) (name : String) (item : Item) : Section :=
  mk s.origin (s.entries.map fun e => if e.1.text == name then (e.1, item) else e)

/-- Changes the table at the end of a path. Tables that are not there are created; of a list of
tables the last one is taken. A dotted key does not go into tables that have been opened. -/
def modifyAt? (step : Origin) (edit : Section → Option Section) :
    List Name → Section → Option Section
  | [], s => edit s
  | name :: path, s =>
    match s.find? name.text with
    | none => (modifyAt? step edit path (empty step)).map fun t => s.add name (.table t)
    | some (.value _) => none
    | some (.table t) =>
      match step, t.origin with
      | .dotted, .opened _ => none
      | _, _ => (modifyAt? step edit path t).map fun t => s.replace name.text (.table t)
    | some (.tables ts) =>
      match ts.getLast? with
      | none => none
      | some t =>
        (modifyAt? step edit path t).map fun t => s.replace name.text (.tables (ts.dropLast ++ [t]))

/-- Sets a key that is not there yet. A dotted key ends in a table that dotted keys made, and a
plain one does not. -/
def set? (dotted : Bool) (name : Name) (item : Item) (s : Section) : Option Section :=
  if (s.origin == .dotted) != dotted || (s.find? name.text).isSome then none
  else some (s.add name item)

def assign? (s : Section) (path : List Name) (name : Name) (tree : Tree) : Option Section :=
  modifyAt? .dotted (set? (!path.isEmpty) name (.value tree)) path s

/-- Takes the table out that a header opens: a new one, or the one that longer headers have passed
through before. -/
def take? (s : Section) (name : String) : Option (List (Name × Item)) :=
  match s.find? name with
  | none => some []
  | some (.table (.mk .passed entries)) => some entries
  | some _ => none

/-- Puts a table at the end of a list of tables, which is created if there is none. -/
def push? (s : Section) (name : Name) (t : Section) : Option Section :=
  match s.find? name.text with
  | none => some (s.add name (.tables [t]))
  | some (.tables ts) => some (s.replace name.text (.tables (ts ++ [t])))
  | some _ => none

end Section

mutual

/-- The tree of an item. A table without a header of its own has the line of its key. -/
def Item.toTree (keyLine : Nat) : Item → Tree
  | .value tree => tree
  | .table s => s.toTree keyLine
  | .tables items => .list keyLine (listTrees keyLine items)

def Section.toTree (keyLine : Nat) : Section → Tree
  | .mk (.opened line) entries => .table line (entryTrees entries)
  | .mk _ entries => .table keyLine (entryTrees entries)

def listTrees (keyLine : Nat) : List Section → List Tree
  | [] => []
  | s :: rest => s.toTree keyLine :: listTrees keyLine rest

def entryTrees : List (Name × Item) → List (String × Nat × Tree)
  | [] => []
  | (name, item) :: rest => (name.text, name.line, item.toTree name.line) :: entryTrees rest

end

end BuildAlign.Toml
