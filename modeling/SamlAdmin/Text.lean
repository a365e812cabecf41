/-!
# Text as code points

Everything the admin API sends or receives is text, and a JSON escape may name
one half of a surrogate pair without its partner.  Such a half is no character,
so text here is a list of code points that are either characters or lone halves,
and no answer of the server has to be refused for its spelling.

The module holds the type, its conversions from and to characters, and the list
operations that every other module is written with: splitting, joining, lines,
and the decimal text of a number.
-/

namespace SamlAdmin

/-- One code point of a text: a character, or one half of a surrogate pair that
stands alone. -/
inductive CodePoint where
  | char (value : Char)
  | surrogate (offset : Fin 0x800)
  deriving DecidableEq, Inhabited

namespace CodePoint

def toNat : CodePoint → Nat
  | .char value => value.toNat
  | .surrogate offset => 0xD800 + offset

/-- The code point with a given number, if there is one. -/
def ofNat? (number : Nat) : Option CodePoint :=
  if number < 0xD800 then some (.char (Char.ofNat number))
  else if number < 0xE000 then some (.surrogate (Fin.ofNat 0x800 (number - 0xD800)))
  else if number < 0x110000 then some (.char (Char.ofNat number))
  else none

/-- The replacement character, which stands for what could not be decoded. -/
def replacement : CodePoint := .char '\uFFFD'

/-- Whether a code point is an ASCII character that satisfies a test. -/
def isCharWith (test : Char → Bool) : CodePoint → Bool
  | .char value => test value
  | .surrogate _ => false

def isDigit : CodePoint → Bool := isCharWith Char.isDigit

def isAlpha : CodePoint → Bool := isCharWith Char.isAlpha

/-- Whether a code point is a character, and no half of a pair. -/
def isScalar : CodePoint → Bool
  | .char _ => true
  | .surrogate _ => false

def isAscii (point : CodePoint) : Bool := point.toNat < 0x80

/-- The value of an ASCII hexadecimal digit in either case. -/
def hexValue? : CodePoint → Option Nat
  | .surrogate _ => none
  | .char value =>
    let number := value.toNat
    if 0x30 ≤ number ∧ number ≤ 0x39 then some (number - 0x30)
    else if 0x41 ≤ number ∧ number ≤ 0x46 then some (number - 0x41 + 10)
    else if 0x61 ≤ number ∧ number ≤ 0x66 then some (number - 0x61 + 10)
    else none

def isHexDigit (point : CodePoint) : Bool := point.hexValue?.isSome

def asciiLower : CodePoint → CodePoint
  | .char value => .char value.toLower
  | .surrogate offset => .surrogate offset

end CodePoint

/-- A text: a list of code points. -/
abbrev Text := List CodePoint

namespace Text

def ofChars (chars : List Char) : Text := chars.map .char

def ofString (string : String) : Text := ofChars string.toList

instance : Coe String Text := ⟨ofString⟩

/-- The characters of a text, if it holds no lone surrogate. -/
def toChars? : Text → Option (List Char)
  | [] => some []
  | .char value :: rest => (toChars? rest).map (value :: ·)
  | .surrogate _ :: _ => none

/-- The string of a text, if it holds no lone surrogate. -/
def toString? (text : Text) : Option String := text.toChars?.map String.ofList

@[simp] theorem toChars?_ofChars (chars : List Char) :
    toChars? (ofChars chars) = some chars := by
  induction chars with
  | nil => rfl
  | cons head tail ih => simpa [ofChars, toChars?] using ih

@[simp] theorem toString?_ofString (string : String) :
    toString? (ofString string) = some string := by
  simp [toString?, ofString]

/-- Cut a text at every occurrence of a separator; an empty text is one empty
part. -/
def splitOn (separator : CodePoint) : Text → List Text
  | [] => [[]]
  | point :: rest =>
    if point = separator then [] :: splitOn separator rest
    else match splitOn separator rest with
      | [] => [[point]]
      | part :: parts => (point :: part) :: parts

theorem splitOn_ne_nil (separator : CodePoint) (text : Text) :
    splitOn separator text ≠ [] := by
  cases text with
  | nil => simp [splitOn]
  | cons point rest =>
    rw [splitOn]
    split
    · simp
    · split <;> simp

/-- Put a separator between consecutive parts. -/
def join (separator : Text) : List Text → Text
  | [] => []
  | [part] => part
  | part :: next :: parts => part ++ separator ++ join separator (next :: parts)

/-- Joining what a cut produced gives the text back. -/
theorem join_splitOn (separator : CodePoint) (text : Text) :
    join [separator] (splitOn separator text) = text := by
  induction text with
  | nil => rfl
  | cons point rest ih =>
    have nonempty := splitOn_ne_nil separator rest
    rw [splitOn]
    split
    · next same =>
      subst same
      cases parts : splitOn point rest with
      | nil => exact absurd parts nonempty
      | cons part others => simpa [join, parts] using ih
    · cases parts : splitOn separator rest with
      | nil => exact absurd parts nonempty
      | cons part others =>
        rw [parts] at ih
        cases others with
        | nil => simpa [join] using ih
        | cons next others => simpa [join] using ih

/-- The part of a text after its last separator, or the whole text if it has
none. -/
def afterLast (separator : CodePoint) (text : Text) : Text :=
  (splitOn separator text).getLast?.getD []

/-- The part of a text before its first separator, or the whole text if it has
none. -/
def beforeFirst (separator : CodePoint) (text : Text) : Text :=
  text.takeWhile (· ≠ separator)

/-- Drop every trailing code point that satisfies a test. -/
def dropEndWhile (test : CodePoint → Bool) (text : Text) : Text :=
  (text.reverse.dropWhile test).reverse

/-- What is left of a text after a given beginning, if it begins that way. -/
def afterPrefix? : (text beginning : Text) → Option Text
  | text, [] => some text
  | [], _ :: _ => none
  | point :: rest, expected :: beginning =>
    if expected = point then afterPrefix? rest beginning else none

def asciiLower (text : Text) : Text := text.map CodePoint.asciiLower

/-- Equality of texts up to the case of ASCII letters. -/
def sameIgnoringCase (left right : Text) : Bool := left.asciiLower = right.asciiLower

/-- The decimal text of a natural number. -/
def ofNat (number : Nat) : Text := ofChars (Nat.toDigits 10 number)

/-- The decimal text of an integer. -/
def ofInt : Int → Text
  | .ofNat number => ofNat number
  | .negSucc number => .char '-' :: ofNat (number + 1)

/-- The natural number that a run of decimal digits writes. -/
def digitsValue (digits : Text) : Nat :=
  digits.foldl (fun value digit => 10 * value + digit.hexValue?.getD 0) 0

/-- A number in lower-case hexadecimal, padded with zeros to a width. -/
def ofHex (width number : Nat) : Text :=
  let digits := Nat.toDigits 16 number
  ofChars (List.replicate (width - digits.length) '0' ++ digits)

end Text

end SamlAdmin
