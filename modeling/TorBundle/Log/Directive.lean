import TorBundle.Event
import TorBundle.Log.Pattern

/-!
# Directives

A directive lets events through up to a level. It can be restricted to events whose target
begins with a text, to events with a field, to what happens inside a span of work, or to fields
with a value:

  LEVEL   TARGET   TARGET=LEVEL   TARGET[SPAN{FIELD=VALUE}]=LEVEL

where each part of the last form may be missing. Blanks around a directive are overlooked when
its parts are looked for, and offsets count from the first character that is not blank; but the
parts are then cut out of the whole text at these offsets. So a blank in front moves every cut,
and a wide one can move a cut into the middle of a character, which is no cut at all. A
directive of a single part is that whole text, with its blanks.

A filter is read from texts between commas, of which the empty ones are overlooked; the first
that cannot be read fails them all. The most special directive for an event decides, the later
of two that are alike.
-/

namespace TorBundle.Log

inductive ReadFailure where
  | malformed
  /-- A cut would have to be made inside a character. -/
  | torn
  deriving DecidableEq, Repr

structure Directive where
  target : Option String := none
  field : Option String := none
  /-- Restricted to a span or to a value; nothing is ever logged inside a span here, and values
  are only looked at on spans, so that no event is let through or held back. -/
  spans : Bool := false
  verbosity : Nat := Level.trace.verbosity
  deriving DecidableEq, Repr

namespace Directive

def number? (s : List Char) : Option Nat :=
  let digits := match s with
    | '+' :: rest => rest
    | s => s
  if digits.isEmpty || !digits.all Char.isDigit then none
  else some (digits.foldl (fun n c => 10 * n + (c.toNat - '0'.toNat)) 0)

/-- The verbosity that a level lets through, by its number or by its name in any case. -/
def verbosity? (s : List Char) : Option Nat :=
  match number? s with
  | some n => if n ≤ 5 then some n else none
  | none =>
    match String.ofList (s.map Char.toLower) with
    | "off" => some 0
    | "error" => some Level.error.verbosity
    | "warn" => some Level.warn.verbosity
    | "info" => some Level.info.verbosity
    | "debug" => some Level.debug.verbosity
    | "trace" => some Level.trace.verbosity
    | _ => none

/-- Whether a text writes a number: digits with or without a point and an exponent, or one of
the names of what is no finite number. -/
def isNumeral (s : List Char) : Bool :=
  let digits := match s with
    | '+' :: rest | '-' :: rest => rest
    | s => s
  if ["inf", "infinity", "nan"].contains (String.ofList (digits.map Char.toLower)) then true
  else
    let whole := digits.takeWhile Char.isDigit
    let (part, rest) := match digits.dropWhile Char.isDigit with
      | '.' :: rest => (rest.takeWhile Char.isDigit, rest.dropWhile Char.isDigit)
      | rest => ([], rest)
    let exponent := match rest with
      | [] => true
      | e :: '+' :: ds | e :: '-' :: ds | e :: ds =>
        (e == 'e' || e == 'E') && !ds.isEmpty && ds.all Char.isDigit
    !(whole ++ part).isEmpty && exponent

/-- The name of a field, and whether it is asked for a value. Of several values between equals
signs the first counts; it must be a number or a readable expression. -/
def field? (s : List Char) : Option (String × Bool) :=
  let name := String.ofList (s.takeWhile (· != '='))
  match s.dropWhile (· != '=') with
  | [] => some (name, false)
  | _ :: rest =>
    let value := rest.takeWhile (· != '=')
    if isNumeral value || Pattern.isReadable value then some (name, true) else none

def cut (s : List Char) (start stop : Nat) : Except ReadFailure (List Char) :=
  match Text.sliceUtf8? s start stop with
  | some part => .ok part
  | none => .error .torn

/-- Completes a directive by the level that begins at an offset; none there means every level. -/
def withLevel (s : List Char) (d : Directive) (start : Nat) : Except ReadFailure Directive := do
  let level ← cut s start (Text.utf8Length s)
  if level.isEmpty then return d
  match verbosity? level with
  | some v => return { d with verbosity := v }
  | none => throw .malformed

def afterBrackets (s : List Char) (d : Directive) (start : Nat) :
    List Char → Except ReadFailure Directive
  | [] => .ok d
  | '=' :: _ => withLevel s d (start + 1)
  | _ => .error .malformed

/-- Reads what a directive is restricted to, from behind its opening bracket on; `start` is the
offset of that place. A span without a name in front of a field is none. -/
def ofBrackets (s : List Char) (target : Option String) (start : Nat) (inside : List Char) :
    Except ReadFailure Directive := do
  let inSpan := fun c => c != ']' && c != '\x7b'
  let stop := start + Text.utf8Length (inside.takeWhile inSpan)
  match inside.dropWhile inSpan with
  | ']' :: rest =>
    let _ ← cut s start stop
    afterBrackets s { target, spans := true } (stop + 1) rest
  | '\x7b' :: fields =>
    let span ← cut s start stop
    let inFields := fun c => c != '\x7d'
    let first := stop + 1
    let last := first + Text.utf8Length (fields.takeWhile inFields)
    match fields.dropWhile inFields with
    | _ :: rest =>
      let text ← cut s first last
      if text.isEmpty then throw .malformed
      match field? text, rest with
      | some (name, valued), ']' :: rest =>
        afterBrackets s { target, field := some name, spans := !span.isEmpty || valued }
          (last + 2) rest
      | _, _ => throw .malformed
    | [] => throw .malformed
  | _ => throw .malformed

def isStart (c : Char) : Bool :=
  c == '-' || c == ':' || c == '_' || Text.isAlphanumeric c

/-- A directive of a single part is a level if it can be, and else a target. -/
def ofName (s : List Char) : Directive :=
  match verbosity? s with
  | some v => { verbosity := v }
  | none => { target := some (String.ofList s) }

def ofChars (s : List Char) : Except ReadFailure Directive := do
  let body := Text.trim s
  match body with
  | [] => throw .malformed
  | '[' :: inside => ofBrackets s none 1 inside
  | c :: _ =>
    if !isStart c then throw .malformed
    let inName := fun c => c != '=' && c != '['
    let stop := Text.utf8Length (body.takeWhile inName)
    match body.dropWhile inName with
    | [] => return ofName s
    | sign :: inside =>
      let target := some (String.ofList (← cut s 0 stop))
      if sign == '=' then withLevel s { target } (stop + 1)
      else ofBrackets s target (stop + 1) inside

def covers (d : Directive) (e : Event) : Bool :=
  !d.spans && d.target.all (fun t => t.toList.isPrefixOf e.target.toList) &&
    d.field.all (fun f => e.fieldNames.contains f)

/-- Whether a directive is at least as special as another one about the same event: by the
length of its target, then by having a field, then by the field's name. -/
def outranks (d other : Directive) : Bool :=
  let length := fun (d : Directive) => (d.target.map fun t => t.utf8ByteSize + 1).getD 0
  if length d != length other then length other < length d
  else match d.field, other.field with
    | some f, some g => g ≤ f
    | none, some _ => false
    | _, none => true

end Directive

abbrev Filter := List Directive

namespace Filter

def ofText (s : String) : Except ReadFailure Filter :=
  ((s.toList.splitOn ',').filter (fun piece => !piece.isEmpty)).mapM Directive.ofChars

def standard : Filter := [{ verbosity := Level.info.verbosity }]

/-- The filter of a setting. A setting that is missing or malformed gives the standard one; a
torn one gives none. -/
def ofSetting? : Option String → Option Filter
  | none => some standard
  | some s =>
    match ofText s with
    | .ok f => some f
    | .error .malformed => some standard
    | .error .torn => none

def deciding (f : Filter) (e : Event) : Option Directive :=
  (f.filter fun d => d.covers e).foldl (fun best d =>
    match best with
    | some b => if d.outranks b then some d else some b
    | none => some d) none

def admits (f : Filter) (e : Event) : Bool :=
  (f.deciding e).any fun d => e.level.verbosity ≤ d.verbosity

end Filter

end TorBundle.Log
