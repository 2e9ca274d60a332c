import BuildAlign.Pattern.Basic
import BuildAlign.Pattern.Property
import BuildAlign.Text.Digits

/-!
The syntax of patterns: regular expressions with groups, classes, counted repetition, word
boundaries and flags, without references to groups and without look-around. Whether a repetition is
greedy and what a group is called has no influence on where matches start, so both are read and
forgotten.
-/

namespace BuildAlign.Pattern

/-- A switch that a group turns on or off for what follows in it. -/
inductive Flag where
  | caseless
  | multiLine
  | dotAll
  | swapGreed
  | unicode
  | crlf
  | spaced
  deriving DecidableEq, Repr

def Flag.ofChar? (c : Char) : Option Flag :=
  if c == 'i' then some caseless
  else if c == 'm' then some multiLine
  else if c == 's' then some dotAll
  else if c == 'U' then some swapGreed
  else if c == 'u' then some unicode
  else if c == 'R' then some crlf
  else if c == 'x' then some spaced
  else none

abbrev Flags := Flag → Bool

namespace Flags

/-- Only Unicode classes are on at first. -/
def start : Flags :=
  (· == .unicode)

/-- The flags after settings; the settings name every flag at most once. -/
def set (flags : Flags) (settings : List (Flag × Bool)) : Flags := fun f =>
  ((settings.find? (·.1 == f)).map Prod.snd).getD (flags f)

/-- The set closed under case, if case does not matter. -/
def fold (flags : Flags) (s : CharSet) : CharSet :=
  if flags .caseless then (if flags .unicode then .anyCase s else .anyAsciiCase s) else s

/-- A set that may stand without Unicode classes: it must be one of ASCII characters. -/
def accept? (flags : Flags) (s : CharSet) : Option CharSet :=
  if flags .unicode || !s.contains '\x80' then some s else none

/-- A set that is closed under case and then negated. -/
def close? (flags : Flags) (negated : Bool) (s : CharSet) : Option CharSet :=
  flags.accept? ((flags.fold s).complIf negated)

def word (flags : Flags) : CharSet :=
  if flags .unicode then .word else .asciiWord

def dot? (flags : Flags) : Option CharSet :=
  flags.accept? <|
    if flags .dotAll then .compl .empty
    else if flags .crlf then .compl (.union (.single '\r') (.single '\n'))
    else .compl (.single '\n')

def caret (flags : Flags) : Assertion :=
  if !flags .multiLine then .textStart else if flags .crlf then .anyLineStart else .lineStart

def dollar (flags : Flags) : Assertion :=
  if !flags .multiLine then .textEnd else if flags .crlf then .anyLineEnd else .lineEnd

/-- The class that a letter stands for after a backslash; a capital letter negates it. -/
def letterClass? (flags : Flags) (c : Char) : Option CharSet :=
  let unicode := flags .unicode
  match (if c.toLower == 'd' then some (if unicode then CharSet.digit else .asciiDigit)
    else if c.toLower == 's' then some (if unicode then CharSet.blank else .asciiBlank)
    else if c.toLower == 'w' then some flags.word
    else none) with
  | some s => flags.accept? (s.complIf c.isUpper)
  | none => none

end Flags

/-! ## Reading -/

/-- What is still to be read, the flags in force, and the names of groups so far. -/
structure Cursor where
  rest : List Char
  flags : Flags
  names : List (List Char)

/-- A reader of a part of a pattern; it fails on a text that is no pattern. -/
abbrev Reader := StateT Cursor Option

namespace Reader

/-- Drops blanks and comments; a comment ends with its line. -/
def dropSpace : Bool → List Char → List Char
  | _, [] => []
  | true, c :: s => dropSpace (c != '\n') s
  | false, c :: s =>
    if Text.isBlankChar c then dropSpace false s
    else if c == '#' then dropSpace true s
    else c :: s

def peek : Reader (Option Char) :=
  return (← get).rest.head?

/-- The next character, which must be there. -/
def current : Reader Char := do
  match ← peek with
  | some c => return c
  | none => failure

def flags : Reader Flags :=
  return (← get).flags

def skipSpace : Reader Unit :=
  modify fun s => if s.flags .spaced then { s with rest := dropSpace false s.rest } else s

def bump : Reader Unit :=
  modify fun s => { s with rest := s.rest.tail }

def advance : Reader Unit := do
  bump
  skipSpace

def skip (mark : List Char) : Reader Bool := do
  match Text.after? mark (← get).rest with
  | some rest =>
    modify fun s => { s with rest }
    return true
  | none => return false

/-- Reads the characters of a class up to the first other one, at most `n`. -/
def runUpTo (p : Char → Bool) : Nat → Reader (List Char)
  | 0 => return []
  | n + 1 => do
    match ← peek with
    | some c =>
      if p c then
        advance
        return c :: (← runUpTo p n)
      else return []
    | none => return []

def run (p : Char → Bool) : Reader (List Char) := do
  runUpTo p (← get).rest.length

/-- Reads a decimal number of 32 bits with blanks around it. -/
def decimal : Reader Nat := do
  let _ ← run Text.isBlankChar
  let digits ← run Char.isDigit
  let _ ← run Text.isBlankChar
  let n := Text.numeral digits
  if digits.isEmpty || 0xFFFFFFFF < n then failure
  return n

/-! ## Escapes -/

/-- What an escape or a plain character stands for. A literal that is written as one byte is no
character beyond ASCII when Unicode is off. -/
inductive Atom where
  | literal (c : Char) (byte : Bool)
  | set (s : CharSet)
  | look (a : Assertion)

def character (digits : List Char) : Reader Char :=
  let n := Text.numeralIn 16 digits
  if digits.isEmpty || !decide n.isValidChar then failure else return Char.ofNat n

def hexDigits : Nat → Reader (List Char)
  | 0 => return []
  | n + 1 => do
    let c ← current
    if !Text.isHexDigit c then failure
    advance
    return c :: (← hexDigits n)

/-- Reads a character by its code point: in braces, or as a fixed number of digits. -/
def hexLiteral (letter : Char) : Reader Atom := do
  advance
  if (← current) == '\x7b' then
    advance
    let digits ← run Text.isHexDigit
    if (← current) != '\x7d' then failure
    advance
    return .literal (← character digits) false
  else
    let digits ← hexDigits (if letter == 'x' then 2 else if letter == 'u' then 4 else 8)
    return .literal (← character digits) (letter == 'x')

/-- Characters that may be escaped and then stand for themselves. -/
def isEscapable (c : Char) : Bool :=
  c.toNat < 0x80 && !c.isAlphanum && c != '<' && c != '>'

def control? (c : Char) : Option Char :=
  if c == 'a' then some '\x07'
  else if c == 'f' then some '\x0c'
  else if c == 't' then some '\t'
  else if c == 'n' then some '\n'
  else if c == 'r' then some '\r'
  else if c == 'v' then some '\x0b'
  else none

def assertion? (words : CharSet) (c : Char) : Option Assertion :=
  if c == 'A' then some .textStart
  else if c == 'z' then some .textEnd
  else if c == 'b' then some (.boundary words)
  else if c == 'B' then some (.noBoundary words)
  else if c == '<' then some (.wordStart words)
  else if c == '>' then some (.wordEnd words)
  else none

/-- The condition that is named in braces after `\b`. -/
def boundary? (words : CharSet) : String → Option Assertion
  | "start" => some (.wordStart words)
  | "end" => some (.wordEnd words)
  | "start-half" => some (.noWordBefore words)
  | "end-half" => some (.noWordAfter words)
  | _ => none

/-- Reads what follows `\b`: a name in braces if there is one. Braces that hold no name are left
for a counted repetition. -/
def namedBoundary (words : CharSet) : Reader Assertion := do
  let before ← get
  if !(← skip ['\x7b']) then return .boundary words
  skipSpace
  let isNameChar (c : Char) : Bool := c.isAlpha || c == '-'
  if !isNameChar (← current) then
    set before
    return .boundary words
  let name ← run isNameChar
  match ← skip ['\x7d'], boundary? words (String.ofList name) with
  | true, some a => return a
  | _, _ => failure

/-- Reads a class that is named by a property, from its letter on: in braces, or by one letter. A
capital letter in front negates it. Without Unicode there is no such class. -/
def propertyClass (letter : Char) : Reader CharSet := do
  advance
  let set? ←
    if (← current) == '\x7b' then
      advance
      let text ← run (· != '\x7d')
      if (← peek).isNone then failure
      pure (CharSet.ofProperty? text)
    else pure (CharSet.property? (CharSet.propertyName [← current]))
  bump
  let flags ← flags
  if !flags .unicode then failure
  match set?.bind (flags.close? (letter == 'P')) with
  | some s => return s
  | none => failure

def escape : Reader Atom := do
  bump
  let c ← current
  let flags ← flags
  if c == 'x' || c == 'u' || c == 'U' then hexLiteral c
  else if c == 'p' || c == 'P' then return .set (← propertyClass c)
  else if ['d', 's', 'w'].contains c.toLower then
    bump
    match flags.letterClass? c with
    | some s => return .set s
    | none => failure
  else
    bump
    if isEscapable c then return .literal c false
    else if c == 'b' then return .look (← namedBoundary flags.word)
    else
      match control? c, assertion? flags.word c with
      | some c, _ => return .literal c false
      | none, some a => return .look a
      | none, none => failure

def atom : Reader Atom := do
  let c ← current
  if c == '\x5c' then escape
  else
    bump
    return .literal c false

def literalSet? (flags : Flags) (c : Char) (byte : Bool) : Option CharSet :=
  if flags .unicode then some (flags.fold (.single c))
  else if c.toNat < 0x80 then some (flags.fold (.single c))
  else if byte then none
  else some (.single c)

/-! ## Classes in brackets -/

/-- A character in a class; without Unicode only ASCII characters may stand there. -/
def classChar (c : Char) : Reader Char := do
  if (← flags) .unicode || c.toNat < 0x80 then return c else failure

def classItem : Reader CharSet := do
  let first ← atom
  skipSpace
  let rest := (← get).rest
  let follows := if (← flags) .spaced then dropSpace false rest.tail else rest.tail
  if rest.head? == some '-' && follows.head? != some ']' && follows.head? != some '-' then
    advance
    if (← peek).isNone then failure
    match first, ← atom with
    | .literal a _, .literal b _ =>
      let a ← classChar a
      let b ← classChar b
      if a ≤ b then return .range a b else failure
    | _, _ => failure
  else
    match first with
    | .literal c _ => return .single (← classChar c)
    | .set s => return s
    | .look _ => failure

/-- Reads a class that is named between colons, in brackets of its own; on anything else reads
nothing. -/
def namedClass? : Reader (Option CharSet) := do
  let state ← get
  match (Text.after? ['[', ':'] state.rest) with
  | none => return none
  | some rest =>
    let negated := rest.head? == some '^'
    let rest := if negated then rest.tail else rest
    let name := String.ofList (rest.takeWhile (· != ':'))
    match CharSet.named? name, Text.after? [':', ']'] (rest.dropWhile (· != ':')) with
    | some s, some rest =>
      set { state with rest }
      match state.flags.close? negated s with
      | some s => return some s
      | none => failure
    | _, _ => return none

/-- An operation between the parts of a class. -/
inductive ClassOp where
  | inter
  | difference
  | symmetricDifference

def classOp? : Reader (Option ClassOp) := do
  if ← skip ['&', '&'] then return some .inter
  else if ← skip ['-', '-'] then return some .difference
  else if ← skip ['~', '~'] then return some .symmetricDifference
  else return none

def joinClass (flags : Flags) (left : Option (CharSet × ClassOp)) (right : CharSet) : CharSet :=
  match left with
  | none => right
  | some (left, op) =>
    let (s, t) := (flags.fold left, flags.fold right)
    match op with
    | .inter => .inter s t
    | .difference => .difference s t
    | .symmetricDifference => .symmetricDifference s t

/-- Reads dashes that stand for themselves at the start of a class, and then a closing bracket that
does if there was no dash. -/
def leadingItems : Reader CharSet := do
  let dashes ← run (· == '-')
  if !dashes.isEmpty then return .single '-'
  if ← skip [']'] then
    skipSpace
    return .single ']'
  return .empty

def openClass : Reader (Bool × CharSet) := do
  advance
  let negated ← skip ['^']
  if negated then skipSpace
  return (negated, ← leadingItems)

def classRest : Nat → Option (CharSet × ClassOp) → CharSet → Reader CharSet
  | 0, _, _ => failure
  | n + 1, left, items => do
    skipSpace
    let c ← current
    if c == ']' then
      bump
      return joinClass (← flags) left items
    else if c == '[' then
      match ← namedClass? with
      | some s => classRest n left (.union items s)
      | none =>
        let (negated, first) ← openClass
        let inner ← classRest n none first
        match (← flags).close? negated inner with
        | some s => classRest n left (.union items s)
        | none => failure
    else
      match ← classOp? with
      | some op => classRest n (some (joinClass (← flags) left items, op)) .empty
      | none => classRest n left (.union items (← classItem))

def bracketed : Reader CharSet := do
  let (negated, first) ← openClass
  let s ← classRest ((← get).rest.length + 1) none first
  match (← flags).close? negated s with
  | some s => return s
  | none => failure

/-! ## Groups and repetition -/

/-- The settings in a flag group, up to its colon or closing parenthesis, which is given too. -/
def settings? (negated : Bool) (seen : List Flag) :
    List Char → Option (List (Flag × Bool) × Char × List Char)
  | [] => none
  | c :: s =>
    if c == ':' || c == ')' then some ([], c, s)
    else if c == '-' then
      if negated || s.head?.all (fun d => d == ':' || d == ')') then none
      else settings? true seen s
    else do
      let f ← Flag.ofChar? c
      if seen.contains f then none
      else
        let (later, close, rest) ← settings? negated (f :: seen) s
        some ((f, !negated) :: later, close, rest)

def isGroupNameChar (c : Char) : Bool :=
  Unicode.isWord c || c == '.' || c == '[' || c == ']'

def groupName : Reader Unit := do
  let state ← get
  let name := state.rest.takeWhile (· != '>')
  match state.rest.dropWhile (· != '>') with
  | [] => failure
  | _ :: rest =>
    let starts := name.head?.any fun c => Unicode.isWord c && !Unicode.isDigit c
    if !starts || !name.all isGroupNameChar || state.names.contains name then failure
    set { state with rest, names := name :: state.names }

inductive Opening where
  /-- A group, with flags for its content. -/
  | group (settings : List (Flag × Bool))
  /-- No group but flags for what follows. -/
  | flags (settings : List (Flag × Bool))

def opening : Reader Opening := do
  advance
  let lookAround ← [['?', '='], ['?', '!'], ['?', '<', '='], ['?', '<', '!']].anyM skip
  if lookAround then failure
  if ← skip ['?', 'P', '<'] <||> skip ['?', '<'] then
    groupName
    return .group []
  else if ← skip ['?'] then
    match settings? false [] (← get).rest with
    | none => failure
    | some (settings, close, rest) =>
      modify fun s => { s with rest }
      if close == ':' then return .group settings
      else if settings.isEmpty then failure
      else return .flags settings
  else return .group []

/-- The bounds of a counted repetition, from its opening brace on. -/
def counts : Reader (Nat × Option Nat) := do
  advance
  let least ← decimal
  let most ←
    if (← peek) == some ',' then
      advance
      if (← peek) == some '\x7d' then pure none else some <$> decimal
    else pure (some least)
  if (← peek) != some '\x7d' then failure
  advance
  if most.any (· < least) then failure
  return (least, most)

/-- The bounds of a repetition if one comes next, with the mark that makes it lazy. -/
def repetition? : Reader (Option (Nat × Option Nat)) := do
  let bounds ←
    match ← peek with
    | some '?' => bump; pure (some (0, some 1))
    | some '*' => bump; pure (some (0, none))
    | some '+' => bump; pure (some (1, none))
    | some '\x7b' => some <$> counts
    | _ => return none
  let _ ← skip ['?']
  return bounds

def primitive : Reader Pattern := do
  let flags ← flags
  match ← current with
  | '.' =>
    bump
    match flags.dot? with
    | some s => return .chars s
    | none => failure
  | '^' => bump; return .look flags.caret
  | '$' => bump; return .look flags.dollar
  | _ =>
    match ← atom with
    | .literal c byte =>
      match literalSet? flags c byte with
      | some s => return .chars s
      | none => failure
    | .set s => return .chars s
    | .look a => return .look a

def join (front : Pattern) (last : Option Pattern) : Pattern :=
  match last with
  | none => front
  | some p => .seq front p

mutual

def alternatives : Nat → Reader Pattern
  | 0 => failure
  | n + 1 => do
    let p ← branch n .empty none
    if ← skip ['|'] then return .alt p (← alternatives n) else return p

/-- Reads the items of one alternative after those that are read already. The last item is apart,
for a repetition of it. -/
def branch : Nat → Pattern → Option Pattern → Reader Pattern
  | 0, _, _ => failure
  | n + 1, front, last => do
    skipSpace
    match ← repetition?, last with
    | some (least, most), some p => branch n front (some (.repeated p least most))
    | some _, none => failure
    | none, _ =>
      match ← peek with
      | none | some '|' | some ')' => return join front last
      | some '(' =>
        match ← opening with
        | .flags settings =>
          modify fun s => { s with flags := s.flags.set settings }
          branch n (join front last) none
        | .group settings =>
          let outer := (← get).flags
          modify fun s => { s with flags := outer.set settings }
          let p ← alternatives n
          if !(← skip [')']) then failure
          modify fun s => { s with flags := outer }
          branch n (join front last) (some p)
      | some '[' => branch n (join front last) (some (.chars (← bracketed)))
      | some _ => branch n (join front last) (some (← primitive))

end

end Reader

def parse? (source : String) : Option Pattern :=
  let s := source.toList
  match Reader.alternatives (2 * s.length + 2) { rest := s, flags := .start, names := [] } with
  | some (p, cursor) => if cursor.rest.isEmpty then some p else none
  | none => none

end BuildAlign.Pattern
