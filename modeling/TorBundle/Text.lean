/-!
# Texts in pieces

What blanks are and where they are cut off, how a printed text falls into the lines that a reader
sees, and how a text is measured and cut by the bytes of its UTF-8 form. A line is cut at its line
feed, and a carriage return before that belongs to the line end. A cut by bytes is only possible
between two characters.
-/

namespace TorBundle.Text

/-- The code points with the property `White_Space`, in ascending disjoint ranges. -/
def Blank.ranges : List (Nat × Nat) := [
  (0x09, 0x0D), (0x20, 0x20), (0x85, 0x85), (0xA0, 0xA0), (0x1680, 0x1680), (0x2000, 0x200A),
  (0x2028, 0x2029), (0x202F, 0x202F), (0x205F, 0x205F), (0x3000, 0x3000)]

def isBlank (c : Char) : Bool :=
  Blank.ranges.any fun r => r.1 ≤ c.toNat && c.toNat ≤ r.2

def trim (s : List Char) : List Char :=
  ((s.dropWhile isBlank).reverse.dropWhile isBlank).reverse

def withoutReturn (line : List Char) : List Char :=
  match line.getLast? with
  | some '\r' => line.dropLast
  | _ => line

/-- The lines of a text that is printed with a line feed behind it. -/
def printedLines (s : String) : List String :=
  (s.toList.splitOn '\n').map fun line => String.ofList (withoutReturn line)

def utf8Length : List Char → Nat
  | [] => 0
  | c :: s => c.utf8Size + utf8Length s

/-- What follows the first `n` bytes, if they end with a character. -/
def dropUtf8? : Nat → List Char → Option (List Char)
  | 0, s => some s
  | _ + 1, [] => none
  | n + 1, c :: s => if c.utf8Size ≤ n + 1 then dropUtf8? (n + 1 - c.utf8Size) s else none

/-- The first `n` bytes, if they end with a character. -/
def takeUtf8? : Nat → List Char → Option (List Char)
  | 0, _ => some []
  | _ + 1, [] => none
  | n + 1, c :: s =>
    if c.utf8Size ≤ n + 1 then (takeUtf8? (n + 1 - c.utf8Size) s).map (c :: ·) else none

/-- The piece between two offsets, if both are between characters. -/
def sliceUtf8? (s : List Char) (start stop : Nat) : Option (List Char) :=
  (dropUtf8? start s).bind (takeUtf8? (stop - start))

end TorBundle.Text
