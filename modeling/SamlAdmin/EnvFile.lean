import SamlAdmin.Members
import SamlAdmin.Text.Blank

/-!
# Environment files

An environment file assigns values to names, one assignment on a line:

* a name may follow the word `export`, and it may stand in single quotes;
* a value may stand in single or double quotes, with escapes and over several lines,
  or it is the rest of the line up to a comment;
* a name alone is declared without a value;
* a reference to a variable in braces after a dollar sign, with an optional default,
  is replaced by what the variable holds at that point.

Lines that are none of this are passed over.
-/

namespace SamlAdmin.EnvFile

/-- A name with its value, if it was given one. -/
abbrev Binding := Text × Option Text

/-- One way of ending a line in place of three. -/
def unifyLineEnds : Text → Text
  | [] => []
  | .char '\r' :: .char '\n' :: rest => .char '\n' :: unifyLineEnds rest
  | .char '\r' :: rest => .char '\n' :: unifyLineEnds rest
  | point :: rest => point :: unifyLineEnds rest

/-- Drop the blanks that stay within the line. -/
def skipInline (text : Text) : Text := text.dropWhile CodePoint.isInlineBlank

/-- What follows the end of a line. -/
def afterLineEnd? : Text → Option Text
  | [] => some []
  | .char '\n' :: rest => some rest
  | _ => none

def dropLine (text : Text) : Text :=
  match text.dropWhile (!·.isLineEnd) with
  | [] => []
  | _ :: rest => rest

/-- Drop the word `export` with the blanks after it. -/
def skipExport (text : Text) : Text :=
  match text.afterPrefix? ("export" : Text) with
  | some (next :: rest) => if next.isInlineBlank then skipInline rest else text
  | _ => text

/-- Whether a code point may belong to a name without quotes. -/
def isNamePoint (point : CodePoint) : Bool :=
  point ≠ .char '=' && point ≠ .char '#' && !point.isBlank

/-- The name at the beginning of a text, with what follows.  A comment stands for no
name. -/
def name? (text : Text) : Option (Option Text × Text) :=
  match text with
  | .char '#' :: _ => some (none, text)
  | .char '\'' :: rest =>
    let name := Text.beforeFirst (.char '\'') rest
    match name, rest.drop name.length with
    | _ :: _, _ :: after => some (some name, after)
    | _, _ => none
  | text =>
    let name := text.takeWhile isNamePoint
    if name.isEmpty then none else some (some name, text.drop name.length)

/-- How many code points stand before a closing quote, where a quote after a
backslash does not close.  If no other quote is left, the last of those closes. -/
def quotedLength? (quote : CodePoint) : (position : Nat) → (escaped : Option Nat) → Text →
    Option Nat
  | _, escaped, [] => escaped
  | position, escaped, .char '\\' :: next :: rest =>
    if next = quote then quotedLength? quote (position + 2) (some (position + 1)) rest
    else quotedLength? quote (position + 1) escaped (next :: rest)
  | position, escaped, point :: rest =>
    if point = quote then some position
    else quotedLength? quote (position + 1) escaped rest

/-- What the escapes of single quotes stand for. -/
def singleEscape? : CodePoint → Option Char
  | .char '\\' => some '\\'
  | .char '\'' => some '\''
  | _ => none

/-- What the escapes of double quotes stand for. -/
def doubleEscape? : CodePoint → Option Char
  | .char '\\' => some '\\'
  | .char '\'' => some '\''
  | .char '"' => some '"'
  | .char 'a' => some '\x07'
  | .char 'b' => some '\x08'
  | .char 'f' => some '\x0C'
  | .char 'n' => some '\n'
  | .char 'r' => some '\r'
  | .char 't' => some '\t'
  | .char 'v' => some '\x0B'
  | _ => none

/-- Replace escapes by what they stand for; other backslashes stay. -/
def unescape (meaning : CodePoint → Option Char) : Text → Text
  | [] => []
  | .char '\\' :: next :: rest =>
    match meaning next with
    | some value => .char value :: unescape meaning rest
    | none => .char '\\' :: unescape meaning (next :: rest)
  | point :: rest => point :: unescape meaning rest

/-- The value in quotes after an opening quote, with what follows. -/
def quotedValue? (quote : CodePoint) (meaning : CodePoint → Option Char) (text : Text) :
    Option (Text × Text) :=
  (quotedLength? quote 0 none text).map fun length =>
    (unescape meaning (text.take length), text.drop (length + 1))

/-- What stands before a comment, where blanks come before the sign of the comment. -/
def beforeComment : (blanks : Text) → Text → Text
  | blanks, [] => blanks.reverse
  | blanks, point :: rest =>
    if point.isBlank then beforeComment (point :: blanks) rest
    else if point = .char '#' ∧ blanks ≠ [] then []
    else blanks.reverse ++ point :: beforeComment [] rest

/-- The value at the beginning of a text, with what follows. -/
def value? (text : Text) : Option (Text × Text) :=
  match text with
  | .char '\'' :: rest => quotedValue? (.char '\'') singleEscape? rest
  | .char '"' :: rest => quotedValue? (.char '"') doubleEscape? rest
  | text =>
    let line := text.takeWhile (!·.isLineEnd)
    some (Text.dropEndWhile CodePoint.isBlank (beforeComment [] line), text.drop line.length)

/-- Drop a comment and the end of the line, if nothing else is left of it. -/
def finishLine? (text : Text) : Option Text :=
  match skipInline text with
  | .char '#' :: rest => afterLineEnd? (rest.dropWhile (!·.isLineEnd))
  | rest => afterLineEnd? rest

/-- One assignment, if the text begins with one, with what follows.  Where there is
none, the rest of the line is dropped. -/
def binding (text : Text) : Option Binding × Text :=
  match name? (skipExport text) with
  | none => (none, dropLine (skipExport text))
  | some (name, afterName) =>
    let afterName := skipInline afterName
    let assigned : Option (Option Text × Text) × Text := match afterName with
      | .char '=' :: rest =>
        let rest := skipInline rest
        ((value? rest).map fun (value, after) => (some value, after), rest)
      | rest => (some (none, rest), rest)
    match assigned with
    | (none, rest) => (none, dropLine rest)
    | (some (value, after), _) =>
      match finishLine? after with
      | none => (none, dropLine (skipInline after))
      | some rest => (name.map fun name => (name, value), rest)

/-- The assignments of a text, in order. -/
def bindings : (fuel : Nat) → Text → List Binding
  | 0, _ => []
  | fuel + 1, text =>
    match text.dropWhile CodePoint.isBlank with
    | [] => []
    | text =>
      let (found, rest) := binding text
      found.toList ++ bindings fuel rest

/-- A part of a value: text as it is, or a reference to a variable. -/
inductive Atom where
  | point (value : CodePoint)
  | reference (name : Text) (default : Text)

/-- A reference at the beginning of a text, after its dollar sign and its opening
brace, with what follows. -/
def reference? (text : Text) : Option (Atom × Text) :=
  let name := text.takeWhile fun point => point ≠ .char '\x7d' && point ≠ .char ':'
  match text.drop name.length with
  | .char '\x7d' :: rest => some (.reference name [], rest)
  | .char ':' :: .char '-' :: rest =>
    let default := rest.takeWhile (· ≠ .char '\x7d')
    match rest.drop default.length with
    | _ :: after => some (.reference name default, after)
    | [] => none
  | _ => none

/-- The parts of a value. -/
def atoms : (fuel : Nat) → Text → List Atom
  | 0, _ => []
  | _, [] => []
  | fuel + 1, .char '$' :: .char '\x7b' :: rest =>
    match reference? rest with
    | some (atom, after) => atom :: atoms fuel after
    | none => .point (.char '$') :: atoms fuel (.char '\x7b' :: rest)
  | fuel + 1, point :: rest => .point point :: atoms fuel rest

/-- What a variable holds: the assignments of the file come before the environment. -/
def valueOf (environment : List (Text × Text)) (assigned : List Binding) (name default : Text) :
    Text :=
  match Members.lookup name assigned with
  | some value => value.getD []
  | none => (Members.lookup name environment).getD default

/-- The text of a value with its references replaced. -/
def expand (environment : List (Text × Text)) (assigned : List Binding) (value : Text) : Text :=
  (atoms (value.length + 1) value).flatMap fun
    | .point point => [point]
    | .reference name default => valueOf environment assigned name default

/-- The variables that a file assigns, later assignments in the place of earlier
ones. -/
def assignments (environment : List (Text × Text)) (file : Text) : List Binding :=
  let text := unifyLineEnds file
  (bindings (text.length + 1) text).foldl (fun assigned (name, value) =>
    Members.insert name (value.map (expand environment assigned)) assigned) []

end SamlAdmin.EnvFile
