/-
# Lines, strings and keys of TOML

The smallest parts of a TOML document: the blanks and comments between the others, the ends of lines,
the four kinds of strings and the keys.  Control characters other than the tab may stand nowhere but
in line ends; a line ends in a line feed with or without a carriage return in front of it, and counts
as a line feed inside a string.

Each reader returns what follows the part it read.
-/

import DeviceGateway.Text.Numeral

namespace DeviceGateway.Toml

/-- How deep values may be nested, and how many names a key may have. -/
def greatestDepth : Nat := 79

/-- Whether a character separates words on a line. -/
def isBlank (c : Char) : Bool := c == ' ' || c == '\t'

/-- Whether a character may stand in comments and strings. -/
def isPlain (c : Char) : Bool := c == '\t' || (0x20 ≤ c.toNat && c.toNat != 0x7F)

/-- The text after its leading blanks. -/
def skipBlanks (text : List Char) : List Char := text.dropWhile isBlank

/-- What follows the end of a line. -/
def newline? : List Char → Option (List Char)
  | '\n' :: rest => some rest
  | '\r' :: '\n' :: rest => some rest
  | _ => none

/-- The text after the comment it begins with, if it begins with one. -/
def skipComment : List Char → List Char
  | '#' :: rest => rest.dropWhile isPlain
  | text => text

/-- What follows the present line, if there is nothing left on it but blanks and a comment. -/
def endLine? (text : List Char) : Option (List Char) :=
  match skipComment (skipBlanks text) with
  | [] => some []
  | rest => newline? rest

/-- The text after blanks, ends of lines and comments.  The first argument says whether the text
begins inside a comment. -/
def skipLines : (inComment : Bool) → List Char → List Char
  | _, '\n' :: rest => skipLines false rest
  | _, '\r' :: '\n' :: rest => skipLines false rest
  | true, c :: rest => if isPlain c then skipLines true rest else c :: rest
  | false, c :: rest =>
    if isBlank c then skipLines false rest
    else if c = '#' then skipLines true rest
    else c :: rest
  | _, [] => []

/-- What the escape of one letter stands for. -/
def escaped? : Char → Option Char
  | 'b' => some '\x08'
  | 't' => some '\t'
  | 'n' => some '\n'
  | 'f' => some '\x0C'
  | 'r' => some '\r'
  | '"' => some '"'
  | '\\' => some '\\'
  | _ => none

/-- The character whose number is written in hexadecimal digits; surrogates are no characters. -/
def scalar? (digits : List Char) : Option Char := do
  let values ← digits.mapM Numeral.hexDigit?
  let code := values.foldl (fun code digit => code * 16 + digit) 0
  if code.isValidChar then return Char.ofNat code else none

/-- The text of characters that stand in reverse. -/
def reversed (before : List Char) : String := String.ofList before.reverse

/-- The rest of a string on one line with escapes, behind the characters `before`. -/
def basicAfter? (before : List Char) : List Char → Option (String × List Char)
  | '"' :: rest => some (reversed before, rest)
  | '\\' :: 'u' :: a :: b :: c :: d :: rest =>
    match scalar? [a, b, c, d] with
    | some found => basicAfter? (found :: before) rest
    | none => none
  | '\\' :: 'U' :: a :: b :: c :: d :: e :: f :: g :: h :: rest =>
    match scalar? [a, b, c, d, e, f, g, h] with
    | some found => basicAfter? (found :: before) rest
    | none => none
  | '\\' :: letter :: rest =>
    match escaped? letter with
    | some found => basicAfter? (found :: before) rest
    | none => none
  | c :: rest => if isPlain c then basicAfter? (c :: before) rest else none
  | [] => none

/-- The rest of a string on one line without escapes. -/
def literalAfter? (before : List Char) : List Char → Option (String × List Char)
  | '\'' :: rest => some (reversed before, rest)
  | c :: rest => if isPlain c then literalAfter? (c :: before) rest else none
  | [] => none

/-- The rest of a string on several lines with escapes.  Up to two quotes may stand in front of the
three that end it.  A backslash at the end of a line joins the line with the next that is not blank;
while `joining`, blanks and line ends are dropped. -/
def basicLinesAfter? (before : List Char) (joining : Bool) :
    List Char → Option (String × List Char)
  | '"' :: '"' :: '"' :: '"' :: '"' :: rest => some (reversed ('"' :: '"' :: before), rest)
  | '"' :: '"' :: '"' :: '"' :: rest => some (reversed ('"' :: before), rest)
  | '"' :: '"' :: '"' :: rest => some (reversed before, rest)
  | '\\' :: 'u' :: a :: b :: c :: d :: rest =>
    match scalar? [a, b, c, d] with
    | some found => basicLinesAfter? (found :: before) false rest
    | none => none
  | '\\' :: 'U' :: a :: b :: c :: d :: e :: f :: g :: h :: rest =>
    match scalar? [a, b, c, d, e, f, g, h] with
    | some found => basicLinesAfter? (found :: before) false rest
    | none => none
  | '\\' :: letter :: rest =>
    if (newline? (skipBlanks (letter :: rest))).isSome then
      basicLinesAfter? before true (letter :: rest)
    else
      match escaped? letter with
      | some found => basicLinesAfter? (found :: before) false rest
      | none => none
  | '\r' :: '\n' :: rest =>
    basicLinesAfter? (if joining then before else '\n' :: before) joining rest
  | c :: rest =>
    if joining && (c == '\n' || isBlank c) then basicLinesAfter? before true rest
    else if c = '\n' ∨ isPlain c then basicLinesAfter? (c :: before) false rest
    else none
  | [] => none

/-- The rest of a string on several lines without escapes. -/
def literalLinesAfter? (before : List Char) : List Char → Option (String × List Char)
  | '\'' :: '\'' :: '\'' :: '\'' :: '\'' :: rest => some (reversed ('\'' :: '\'' :: before), rest)
  | '\'' :: '\'' :: '\'' :: '\'' :: rest => some (reversed ('\'' :: before), rest)
  | '\'' :: '\'' :: '\'' :: rest => some (reversed before, rest)
  | '\r' :: '\n' :: rest => literalLinesAfter? ('\n' :: before) rest
  | c :: rest =>
    if c = '\n' ∨ isPlain c then literalLinesAfter? (c :: before) rest else none
  | [] => none

/-- A string.  A line end directly after three opening quotes does not belong to it. -/
def string? : List Char → Option (String × List Char)
  | '"' :: '"' :: '"' :: rest => basicLinesAfter? [] false ((newline? rest).getD rest)
  | '"' :: rest => basicAfter? [] rest
  | '\'' :: '\'' :: '\'' :: rest => literalLinesAfter? [] ((newline? rest).getD rest)
  | '\'' :: rest => literalAfter? [] rest
  | _ => none

/-- Whether a character may stand in a name without quotes. -/
def isBare (c : Char) : Bool := c.isAlphanum || c == '_' || c == '-'

/-- One name of a key, bare or as a string on one line. -/
def name? : List Char → Option (String × List Char)
  | '"' :: rest => basicAfter? [] rest
  | '\'' :: rest => literalAfter? [] rest
  | text =>
    match text.takeWhile isBare with
    | [] => none
    | name => some (String.ofList name, text.dropWhile isBare)

/-- A key: names with points between them.  The last name leads to what the key stands for, the
others to the table that holds it. -/
structure Key where
  /-- The names in front of the last. -/
  path : List String
  /-- The last name. -/
  last : String

namespace Key

/-- All names of a key. -/
def names (key : Key) : List String := key.path ++ [key.last]

/-- A key of at most `parts` names, with the blanks around it. -/
def read? : (parts : Nat) → List Char → Option (Key × List Char)
  | 0, _ => none
  | parts + 1, text =>
    match name? (skipBlanks text) with
    | none => none
    | some (name, rest) =>
      match skipBlanks rest with
      | '.' :: more =>
        (read? parts more).map fun found => (⟨name :: found.1.path, found.1.last⟩, found.2)
      | after => some (⟨[], name⟩, after)

end Key

end DeviceGateway.Toml
