import TorBundle.Text
import TorBundle.Text.Alphanumeric

/-!
# Patterns for field values

A directive can ask that a field's value match a regular expression. Such a directive is only
readable if its expression is, so this module says which expressions are: those that are well
formed, nest no deeper than 250 levels and need no table of the character set. Without tables
there is no ignoring of case, no class of digits, blanks or words and no word boundary, unless
the expression gives up Unicode by the flag `-u`; and then nothing may match a lone byte beyond
ASCII. Counted repetitions and names in braces are never readable here, since a closing brace
ends the field that the expression stands in. What an expression matches is of no account.
-/

namespace TorBundle.Log.Pattern

structure Mode where
  ignoreCase : Bool := false
  unicode : Bool := true
  /-- Blanks and comments are skipped. -/
  spaced : Bool := false
  deriving DecidableEq, Repr

/-- The rest of a text behind its blanks and comments; a comment runs to the end of its line. -/
def skipSpace : Bool → List Char → List Char
  | _, [] => []
  | true, c :: s => skipSpace (c != '\n') s
  | false, c :: s =>
    if Text.isBlank c then skipSpace false s
    else if c == '#' then skipSpace true s
    else c :: s

def Mode.skip (m : Mode) (s : List Char) : List Char :=
  if m.spaced then skipSpace false s else s

/-- The character that a minus sign in a class is judged by: the next one that is not blank,
be it the first one of a comment. -/
def Mode.peek? (m : Mode) (s : List Char) : Option Char :=
  if m.spaced then
    match s.dropWhile Text.isBlank with
    | '#' :: comment => (comment.dropWhile Text.isBlank).head?
    | rest => rest.head?
  else s.head?

/-- The flags between a question mark and the colon or parenthesis behind them: each at most
once, with at most one minus sign, and that not at the end. -/
def areFlags (flags : List Char) : Bool :=
  flags.all (fun c => "imsUuRx-".toList.contains c) && decide flags.Nodup &&
    flags.getLast? != some '-'

def Mode.switch (m : Mode) (flags : List Char) : Mode :=
  let on := flags.takeWhile (· != '-')
  let off := flags.dropWhile (· != '-')
  let pick := fun c now => if on.contains c then true else if off.contains c then false else now
  { ignoreCase := pick 'i' m.ignoreCase
    unicode := pick 'u' m.unicode
    spaced := pick 'x' m.spaced }

inductive Escape where
  /-- A character; written as a byte if it is given by two hexadecimal digits. -/
  | char (c : Char) (byte : Bool)
  | group
  | place
  deriving DecidableEq, Repr

def hexValue? (c : Char) : Option Nat :=
  if c.isDigit then some (c.toNat - '0'.toNat)
  else if 'a' ≤ c ∧ c ≤ 'f' then some (c.toNat - 'a'.toNat + 10)
  else if 'A' ≤ c ∧ c ≤ 'F' then some (c.toNat - 'A'.toNat + 10)
  else none

def hexNumber? (m : Mode) : Nat → Nat → List Char → Option (Nat × List Char)
  | 0, n, s => some (n, s)
  | _ + 1, _, [] => none
  | digits + 1, n, c :: s =>
    match hexValue? c with
    | some v => hexNumber? m digits (16 * n + v) (m.skip s)
    | none => none

def hexEscape? (m : Mode) (digits : Nat) (s : List Char) : Option (Escape × List Char) :=
  match hexNumber? m digits 0 (m.skip s) with
  | some (n, rest) =>
    if h : n.isValidChar then some (.char (Char.ofNatAux n h) (digits == 2), rest) else none
  | none => none

def escape? (m : Mode) : List Char → Option (Escape × List Char)
  | [] => none
  | c :: s =>
    match c with
    | 'x' => hexEscape? m 2 s
    | 'u' => hexEscape? m 4 s
    | 'U' => hexEscape? m 8 s
    | 'd' | 's' | 'w' => if m.unicode then none else some (.group, s)
    | 'b' | 'B' | '<' | '>' => if m.unicode then none else some (.place, s)
    | 'A' | 'z' => some (.place, s)
    | 'a' => some (.char '\x07' false, s)
    | 'f' => some (.char '\x0c' false, s)
    | 't' => some (.char '\t' false, s)
    | 'n' => some (.char '\n' false, s)
    | 'r' => some (.char '\r' false, s)
    | 'v' => some (.char '\x0b' false, s)
    | c => if c.toNat < 0x80 && !c.isAlphanum then some (.char c false, s) else none

def Mode.admits (m : Mode) (c : Char) (byte : Bool) : Bool :=
  if m.unicode then !m.ignoreCase else !byte || c.toNat < 0x80

def Mode.admitsInClass (m : Mode) (c : Char) : Bool :=
  if m.unicode then !m.ignoreCase else c.toNat < 0x80

/-- A class in square brackets that is being read: the number and the height of the items since
its last operator, and the height of what stands before that. -/
structure OpenClass where
  items : Nat := 0
  height : Nat := 0
  left : Option Nat := none

namespace OpenClass

def add (k : OpenClass) (height : Nat) : OpenClass :=
  { k with items := k.items + 1, height := max k.height height }

/-- The height of all that was read: two items or more are a union. -/
def total (k : OpenClass) : Nat :=
  let right := if k.items ≤ 1 then k.height else k.height + 1
  match k.left with
  | none => right
  | some left => max left right + 1

def operate (k : OpenClass) : OpenClass :=
  { left := some k.total }

end OpenClass

def classNames : List String :=
  ["alnum", "alpha", "ascii", "blank", "cntrl", "digit", "graph", "lower", "print", "punct",
   "space", "upper", "word", "xdigit"]

def namedClass? : List Char → Option (Bool × List Char)
  | ':' :: s =>
    let negated := s.head? == some '^'
    let s := if negated then s.drop 1 else s
    match s.dropWhile (· != ':') with
    | ':' :: ']' :: rest =>
      if classNames.contains (String.ofList (s.takeWhile (· != ':'))) then some (negated, rest)
      else none
    | _ => none
  | _ => none

def leadingDashes (m : Mode) : Nat → List Char → Nat × List Char
  | 0, s => (0, s)
  | fuel + 1, s =>
    match s with
    | '-' :: rest =>
      let (n, rest) := leadingDashes m fuel (m.skip rest)
      (n + 1, rest)
    | s => (0, s)

/-- Opens a class, from behind its bracket on. A closing bracket that comes first stands for
itself. Without Unicode a negated class would match lone bytes. -/
def openClass? (m : Mode) (s : List Char) : Option (OpenClass × List Char) :=
  let s := m.skip s
  let negated := s.head? == some '^'
  let s := if negated then m.skip (s.drop 1) else s
  let (dashes, s) := leadingDashes m s.length s
  let (items, s) := match dashes, s with
    | 0, ']' :: rest => (1, m.skip rest)
    | n, s => (n, s)
  if (negated && !m.unicode) || (items != 0 && !m.admitsInClass '-') || s.isEmpty then none
  else some ({ items }, s)

def classItem? (m : Mode) : List Char → Option (Escape × List Char)
  | [] => none
  | '\\' :: s => escape? m s
  | c :: s => some (.char c false, s)

def Escape.isClassItem (m : Mode) : Escape → Bool
  | .char c _ => m.admitsInClass c
  | .group => true
  | .place => false

def classRange? (m : Mode) (s : List Char) : Option (List Char) := do
  let (first, s) ← classItem? m s
  let alone := if first.isClassItem m then some (m.skip s) else none
  match m.skip s with
  | [] => none
  | '-' :: s =>
    if m.peek? s == some ']' || m.peek? s == some '-' then alone
    else
      let (last, s) ← classItem? m (m.skip s)
      match first, last with
      | .char a _, .char b _ =>
        if a ≤ b && m.admitsInClass a && m.admitsInClass b then some s else none
      | _, _ => none
  | _ => alone

/-- Reads a class to the end of its outermost bracket and gives its height. The fuel is spent
one unit for each item, so a text's length is enough. -/
def class? (m : Mode) : Nat → OpenClass → List OpenClass → List Char → Option (Nat × List Char)
  | 0, _, _, _ => none
  | fuel + 1, k, outer, s =>
    match m.skip s with
    | [] => none
    | ']' :: s =>
      let height := k.total + 1
      match outer with
      | [] => some (height, s)
      | parent :: outer => class? m fuel (parent.add height) outer s
    | '[' :: s =>
      match namedClass? s with
      | some (negated, rest) =>
        if !m.admitsInClass 'a' || (negated && !m.unicode) then none
        else class? m fuel (k.add 0) outer rest
      | none =>
        match openClass? m s with
        | some (inner, s) => class? m fuel inner (k :: outer) s
        | none => none
    | '&' :: '&' :: s | '-' :: '-' :: s | '~' :: '~' :: s => class? m fuel k.operate outer s
    | s =>
      match classRange? m s with
      | some s => class? m fuel (k.add 0) outer s
      | none => none

/-- A group that is being read: the mode to go back to behind it, the number of items of its
current branch and their height, the height of what a repetition would apply to, and the height
of the branches before. -/
structure OpenGroup where
  before : Mode := {}
  items : Nat := 0
  height : Nat := 0
  last : Option Nat := none
  branches : Option Nat := none

namespace OpenGroup

def add (g : OpenGroup) (height : Nat) : OpenGroup :=
  { g with items := g.items + 1, height := max g.height height, last := some height }

def addFlags (g : OpenGroup) : OpenGroup :=
  { g with items := g.items + 1, last := none }

def repeatLast? (g : OpenGroup) : Option OpenGroup :=
  g.last.map fun h => { g with height := max g.height (h + 1), last := some (h + 1) }

/-- The height of the current branch: two items or more are a sequence. -/
def branch (g : OpenGroup) : Nat :=
  if g.items ≤ 1 then g.height else g.height + 1

def alternate (g : OpenGroup) : OpenGroup :=
  { before := g.before, branches := some (max (g.branches.getD 0) g.branch) }

def total (g : OpenGroup) : Nat :=
  match g.branches with
  | none => g.branch
  | some h => max h g.branch + 1

end OpenGroup

inductive Opening where
  | plain
  | named (name : List Char)
  /-- A group of its own mode. -/
  | moded (flags : List Char)
  /-- Flags for the rest of the enclosing group. -/
  | flags (flags : List Char)

def isGroupName : List Char → Bool
  | [] => false
  | c :: s =>
    (c == '_' || Text.isAlphabetic c) &&
      s.all fun c => "_.[]".toList.contains c || Text.isAlphanumeric c

def groupName? (s : List Char) : Option (Opening × List Char) :=
  let name := s.takeWhile (· != '>')
  match s.dropWhile (· != '>') with
  | _ :: rest => if isGroupName name then some (.named name, rest) else none
  | [] => none

/-- Reads what opens a group, from behind its parenthesis on. Groups that look around are not
readable. -/
def opening? : List Char → Option (Opening × List Char)
  | '?' :: '=' :: _ | '?' :: '!' :: _ | '?' :: '<' :: '=' :: _ | '?' :: '<' :: '!' :: _ => none
  | '?' :: 'P' :: '<' :: s | '?' :: '<' :: s => groupName? s
  | '?' :: s =>
    let ends := fun c => c == ':' || c == ')'
    let flags := s.takeWhile (fun c => !ends c)
    if !areFlags flags then none
    else match s.dropWhile (fun c => !ends c) with
      | ':' :: rest => some (.moded flags, rest)
      | _ :: rest => if flags.isEmpty then none else some (.flags flags, rest)
      | [] => none
  | s => some (.plain, s)

/-- Reads an expression to its end and gives its height. The fuel is spent one unit for each
item, so a text's length and one more are enough. -/
def height? : Nat → Mode → List (List Char) → OpenGroup → List OpenGroup → List Char → Option Nat
  | 0, _, _, _, _, _ => none
  | fuel + 1, m, names, g, outer, s =>
    match m.skip s with
    | [] => if outer.isEmpty then some g.total else none
    | '(' :: s =>
      match opening? (m.skip s) with
      | none => none
      | some (.plain, s) => height? fuel m names { before := m } (g :: outer) s
      | some (.named name, s) =>
        if names.contains name then none
        else height? fuel m (name :: names) { before := m } (g :: outer) s
      | some (.moded flags, s) =>
        height? fuel (m.switch flags) names { before := m } (g :: outer) s
      | some (.flags flags, s) => height? fuel (m.switch flags) names g.addFlags outer s
    | ')' :: s =>
      match outer with
      | [] => none
      | parent :: outer => height? fuel g.before names (parent.add (g.total + 1)) outer s
    | '|' :: s => height? fuel m names g.alternate outer s
    | '[' :: s =>
      match openClass? m s with
      | none => none
      | some (k, s) =>
        match class? m (s.length + 1) k [] s with
        | some (h, s) => height? fuel m names (g.add h) outer s
        | none => none
    | '?' :: s | '*' :: s | '+' :: s =>
      match g.repeatLast? with
      | none => none
      | some g => height? fuel m names g outer (if s.head? == some '?' then s.drop 1 else s)
    | '\x7b' :: _ => none
    | '\\' :: s =>
      match escape? m s with
      | none => none
      | some (.char c byte, s) =>
        if m.admits c byte then height? fuel m names (g.add 0) outer s else none
      | some (_, s) => height? fuel m names (g.add 0) outer s
    | '.' :: s => if m.unicode then height? fuel m names (g.add 0) outer s else none
    | '^' :: s | '$' :: s => height? fuel m names (g.add 0) outer s
    | c :: s => if m.admits c false then height? fuel m names (g.add 0) outer s else none

def maxHeight : Nat := 250

def isReadable (s : List Char) : Bool :=
  (height? (s.length + 1) {} [] {} [] s).any (· ≤ maxHeight)

end TorBundle.Log.Pattern
