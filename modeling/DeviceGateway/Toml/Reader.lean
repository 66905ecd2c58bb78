/-
# Reading TOML

A document is a sequence of lines, each with a header, with a key and its value, or with neither.
Values that are lists may go over several lines, with comments; tables in braces stand on one line and
have no comma behind the last entry.

The readers of values take `fuel`, one unit for each value, item and entry; the length of the text is
enough.  How deep values may still be nested is counted apart.
-/

import DeviceGateway.Toml.Scalar
import DeviceGateway.Toml.Table

namespace DeviceGateway.Toml

mutual

/-- A value, with nothing in front of it. -/
def item? (fuel depth : Nat) (text : List Char) : Option (Item × List Char) :=
  match fuel, text with
  | 0, _ => none
  | fuel + 1, '[' :: rest =>
    match depth with
    | 0 => none
    | depth + 1 =>
      (items? fuel depth [] (skipLines false rest)).map fun found => (.list found.1, found.2)
  | fuel + 1, '{' :: rest =>
    match depth, skipBlanks rest with
    | 0, _ => none
    | _, '}' :: after => some (.table .closed [], after)
    | depth + 1, entries =>
      (entries? fuel depth {} entries).map fun found =>
        (.table .closed found.1.members, found.2)
  | _ + 1, '"' :: rest => (string? ('"' :: rest)).map fun found => (.string found.1, found.2)
  | _ + 1, '\'' :: rest => (string? ('\'' :: rest)).map fun found => (.string found.1, found.2)
  | _ + 1, text => (plain? text).map fun found => (.scalar found.1, found.2)

/-- The items of a list up to its closing bracket, behind the items `before`, which stand in
reverse. -/
def items? (fuel depth : Nat) (before : List Item) (text : List Char) :
    Option (List Item × List Char) :=
  match fuel, text with
  | 0, _ => none
  | _ + 1, ']' :: rest => some (before.reverse, rest)
  | fuel + 1, text =>
    match item? fuel depth text with
    | none => none
    | some (item, rest) =>
      match skipLines false rest with
      | ',' :: more => items? fuel depth (item :: before) (skipLines false more)
      | ']' :: after => some ((item :: before).reverse, after)
      | _ => none

/-- The entries of a table in braces up to the closing brace, besides those of `table`. -/
def entries? (fuel depth : Nat) (table : Table) (text : List Char) : Option (Table × List Char) :=
  match fuel with
  | 0 => none
  | fuel + 1 =>
    match Key.read? greatestDepth text with
    | some (key, '=' :: assigned) =>
      match item? fuel depth (skipBlanks assigned) with
      | none => none
      | some (item, rest) =>
        match table.define key item, skipBlanks rest with
        | some next, ',' :: more => entries? fuel depth next more
        | some next, '}' :: after => some (next, after)
        | _, _ => none
    | _ => none

end

/-- A document read in part: the document so far, and the table for which keys are now read. -/
structure Draft where
  document : Table := {}
  /-- The names that lead to the present table. -/
  place : List String := []

namespace Draft

/-- A header in brackets; the table it names is the present one from now on. -/
def header? (change : Key → Table → Option Table) (close : List Char) (draft : Draft)
    (text : List Char) : Option (Draft × List Char) := do
  let (key, rest) ← Key.read? greatestDepth text
  let after ← Text.afterStart close rest
  let document ← change key draft.document
  return ({ document, place := key.names }, after)

/-- A key and its value. -/
def entry? (draft : Draft) (text : List Char) : Option (Draft × List Char) := do
  match ← Key.read? greatestDepth text with
  | (key, '=' :: assigned) =>
    let (item, rest) ← item? text.length greatestDepth (skipBlanks assigned)
    let document ← Table.within false (Table.define key item) draft.place draft.document
    return ({ draft with document }, rest)
  | _ => none

/-- A line up to what may stand behind its header or value. -/
def line? (draft : Draft) : List Char → Option (Draft × List Char)
  | [] => some (draft, [])
  | '#' :: rest => some (draft, '#' :: rest)
  | '\n' :: rest => some (draft, '\n' :: rest)
  | '\r' :: rest => some (draft, '\r' :: rest)
  | '[' :: '[' :: rest => draft.header? Table.addTable [']', ']'] rest
  | '[' :: rest => draft.header? Table.openTable [']'] rest
  | text => draft.entry? text

/-- The rest of a document, in which there are fewer than `lines` lines. -/
def read? : (lines : Nat) → Draft → List Char → Option Table
  | 0, _, _ => none
  | _, draft, [] => some draft.document
  | lines + 1, draft, text =>
    match draft.line? (skipBlanks text) with
    | none => none
    | some (next, rest) => (endLine? rest).bind (read? lines next)

end Draft

/-- Read a document. -/
def read? (text : List Char) : Option (List (String × Config.Value)) :=
  (Draft.read? (text.length + 1) {} text).bind Table.values?

end DeviceGateway.Toml
