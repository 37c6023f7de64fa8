import TypedTable.Toml.Quoted
import TypedTable.Toml.Table
/-!
# Reading a TOML document

A document is read line by line. A line gives a key its value, opens a table by a header, or holds
at most a comment; a value in brackets or braces may go over several lines. `Entries.ofText?` reads
a whole text and gives its entries, or nothing if the text is not a document.

The readers take the rest of the text and give what follows what they read. Those that call each
other have a bound, which the length of the text always meets.

A key of more parts, or a value of more brackets and braces inside each other, than `maxDepth` is
refused, so that a document's tree is never deep.
-/

namespace TypedTable.Toml

/-- Whether a character is a space or a tab. -/
def isGap (c : Char) : Bool := c = ' ' || c = '\t'

/-- The text after spaces and tabs. -/
def dropGap (cs : List Char) : List Char := cs.dropWhile isGap

/-- The text after the end of the line, if nothing but a comment comes before it. -/
def endLine? (cs : List Char) : Option (List Char) :=
  let rest := match dropGap cs with
    | '#' :: comment => comment.dropWhile isPlain
    | rest => rest
  match rest with
  | [] => some []
  | '\n' :: rest => some rest
  | '\r' :: '\n' :: rest => some rest
  | _ => none

/-- The text after blanks, line breaks and comments; `comment` if it starts inside one. -/
def dropLines? (comment : Bool) : List Char → Option (List Char)
  | [] => some []
  | '\n' :: rest => dropLines? false rest
  | '\r' :: '\n' :: rest => dropLines? false rest
  | c :: rest =>
    if comment then if isPlain c then dropLines? true rest else none
    else if isGap c then dropLines? false rest
    else if c = '#' then dropLines? true rest
    else some (c :: rest)

/-- The most parts of a key, and the most brackets and braces that stand inside each other. -/
def maxDepth : Nat := 80

/-- Whether a character may stand in a key without quotes. -/
def isBare (c : Char) : Bool := c.isAlphanum || c = '_' || c = '-'

/-- One part of a key. -/
def keyPart? (cs : List Char) : Option (String × List Char) :=
  match cs with
  | '"' :: _ | '\'' :: _ => lineText? cs
  | _ =>
    match cs.takeWhile isBare with
    | [] => none
    | name => some (String.ofList name, cs.dropWhile isBare)

/-- A key of at most `bound` parts: all parts but the last one, and the last one. -/
def keyWithin? : Nat → List Char → Option ((List String × String) × List Char)
  | 0, _ => none
  | bound + 1, cs => do
    let (name, rest) ← keyPart? (dropGap cs)
    match dropGap rest with
    | '.' :: rest =>
      let ((path, last), rest) ← keyWithin? bound rest
      return ((name :: path, last), rest)
    | rest => return (([], name), rest)

/-- A key: all parts but the last one, and the last one. -/
def key? (cs : List Char) : Option ((List String × String) × List Char) := keyWithin? maxDepth cs

/-- Whether a character may stand in a scalar without quotes. -/
def isScalar (c : Char) : Bool := isBare c || c = '+' || c = '.' || c = ':'

/-- A scalar without quotes. The space between a date and a time belongs to it. -/
def unquoted? (cs : List Char) : Option (Node × List Char) :=
  let first := cs.takeWhile isScalar
  let rest := cs.dropWhile isScalar
  match rest with
  | ' ' :: d :: rest' =>
    if afterDate? first == some [] && d.isDigit then
      (scalar? (first ++ ' ' :: (d :: rest').takeWhile isScalar)).map
        (·, (d :: rest').dropWhile isScalar)
    else (scalar? first).map (·, rest)
  | _ => (scalar? first).map (·, rest)

mutual

/-- A value in which brackets and braces stand at most `depth` deep. -/
def value? (depth : Nat) : Nat → List Char → Option (Node × List Char)
  | 0, _ => none
  | bound + 1, cs =>
    match cs, depth with
    | '"' :: _, _ | '\'' :: _, _ => (text? cs).map fun r => (.text r.1, r.2)
    | '[' :: _, 0 | '{' :: _, 0 => none
    | '[' :: rest, depth + 1 => (items? depth bound rest).map fun r => (.array r.1, r.2)
    | '{' :: rest, depth + 1 =>
      (members? depth bound [] rest).map fun r => (.table .inline r.1, r.2)
    | _, _ => unquoted? cs

/-- The values of an array, up to its closing bracket. -/
def items? (depth : Nat) : Nat → List Char → Option (List Node × List Char)
  | 0, _ => none
  | bound + 1, cs => do
    match ← dropLines? false cs with
    | ']' :: rest => return ([], rest)
    | rest =>
      let (node, rest) ← value? depth bound rest
      match ← dropLines? false rest with
      | ',' :: rest =>
        let (others, rest) ← items? depth bound rest
        return (node :: others, rest)
      | ']' :: rest => return ([node], rest)
      | _ => none

/-- The entries of a table in braces, up to its closing brace, added to those before them. -/
def members? (depth : Nat) : Nat → Entries → List Char → Option (Entries × List Char)
  | 0, _, _ => none
  | bound + 1, entries, cs => do
    match ← dropLines? false cs with
    | '}' :: rest => return (entries, rest)
    | rest =>
      let ((path, name), rest) ← key? rest
      let rest ← after? '=' rest
      let (node, rest) ← value? depth bound (dropGap rest)
      let entries ← entries.insert path name node .dotted
      match ← dropLines? false rest with
      | ',' :: rest => members? depth bound entries rest
      | '}' :: rest => return (entries, rest)
      | _ => none

end

/-- What a line of a document says. -/
inductive Line
  | blank
  | entry (path : List String) (name : String) (node : Node)
  | table (path : List String) (name : String)
  /-- One more table under a header in double brackets. -/
  | member (path : List String) (name : String)

/-- A line, up to what must be its end. -/
def line? (bound : Nat) (cs : List Char) : Option (Line × List Char) :=
  match dropGap cs with
  | [] => some (.blank, [])
  | '\n' :: rest => some (.blank, '\n' :: rest)
  | '\r' :: rest => some (.blank, '\r' :: rest)
  | '#' :: rest => some (.blank, '#' :: rest)
  | '[' :: '[' :: rest => do
    let ((path, name), rest) ← key? rest
    return (.member path name, ← after? ']' rest >>= after? ']')
  | '[' :: rest => do
    let ((path, name), rest) ← key? rest
    return (.table path name, ← after? ']' rest)
  | rest => do
    let ((path, name), rest) ← key? rest
    let rest ← after? '=' rest
    let (node, rest) ← value? maxDepth bound (dropGap rest)
    return (.entry path name node, rest)

/-- The lines of a document. -/
def lines? : Nat → List Char → Option (List Line)
  | 0, _ => none
  | _, [] => some []
  | bound + 1, cs => do
    let (line, rest) ← line? (bound + 1) cs
    let rest ← endLine? rest
    return line :: (← lines? bound rest)

/-- What has been read of a document: its entries, and the header that the next ones are under. -/
structure Progress where
  entries : Entries := []
  header : List String := []

/-- Takes in one line. -/
def Progress.add (p : Progress) : Line → Option Progress
  | .blank => some p
  | .entry path name node =>
    (Entries.within p.header (Entries.insert path name node) .headed p.entries).map
      ({ p with entries := · })
  | .table path name => (Entries.openTable path name .headed p.entries).map (⟨·, path ++ [name]⟩)
  | .member path name => (Entries.openMember path name .headed p.entries).map (⟨·, path ++ [name]⟩)

/-- The text without a byte order mark at its beginning. -/
def dropMark (cs : List Char) : List Char :=
  match cs with
  | '\ufeff' :: rest => rest
  | _ => cs

/-- The entries of a document. -/
def Entries.ofText? (s : String) : Option Entries := do
  let cs := dropMark s.toList
  let lines ← lines? (cs.length + 1) cs
  return (← lines.foldlM Progress.add {}).entries

end TypedTable.Toml
