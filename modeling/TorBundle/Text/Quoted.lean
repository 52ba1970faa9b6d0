import TorBundle.Text.Unprintable

/-!
# Quoted texts

A text between double quotes, on one line. Each character is written on its own, so the
quoted form of a text is the quoted forms of its characters one after another. The single
quote stays as it is.
-/

namespace TorBundle.Text.Quoted

/-- The number of a character in lower-case hexadecimal digits, without padding, in braces. -/
def codePoint (c : Char) : List Char :=
  '\\' :: 'u' :: '\x7b' :: (Nat.toDigits 16 c.toNat ++ ['\x7d'])

def escape (c : Char) : List Char :=
  match c with
  | '\x00' => ['\\', '0']
  | '\t' => ['\\', 't']
  | '\r' => ['\\', 'r']
  | '\n' => ['\\', 'n']
  | '"' => ['\\', '"']
  | '\\' => ['\\', '\\']
  | c => if isUnprintable c then codePoint c else [c]

def encode (s : List Char) : List Char :=
  s.flatMap escape

/-- A text in double quotes. -/
def quote (s : String) : String :=
  String.ofList ('"' :: (encode s.toList ++ ['"']))

/-- A record with one text field, as it is shown to a developer. -/
def record (name field value : String) : String :=
  name ++ " \x7b " ++ field ++ ": " ++ quote value ++ " \x7d"

@[simp] theorem encode_nil : encode [] = [] := rfl

@[simp] theorem encode_cons (c : Char) (s : List Char) :
    encode (c :: s) = escape c ++ encode s := rfl

end TorBundle.Text.Quoted
