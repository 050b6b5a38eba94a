import WorkQuery.Calendar.Date
import WorkQuery.Data.JsonReader
import WorkQuery.Data.TomlTree
import WorkQuery.Decimal.Reading
import WorkQuery.Text.Blank

/-!
# WorkQuery.Data.TomlReader

Reading of TOML texts, version 1.0. A date or a time is read as a record of its text, which no field
of a settings file takes.
-/

namespace WorkQuery
namespace Toml

def isSpace (c : Char) : Bool := c == ' ' || c == '\t'

def skipSpaces (cs : List Char) : List Char := cs.dropWhile isSpace

/-- Anything that may stand in a comment or between quotes: no control character but the tab. -/
def isPlain (c : Char) : Bool := c == '\t' || (0x20 ≤ c.toNat && c.toNat != 0x7F)

/-- What follows the end of a line, if the text begins with one. -/
def newline? : List Char → Option (List Char)
  | '\n' :: rest => some rest
  | '\r' :: '\n' :: rest => some rest
  | _ => none

/-- What follows a comment, if the text begins with one. -/
def skipComment : List Char → List Char
  | '#' :: rest => rest.dropWhile isPlain
  | cs => cs

/-- The next line, if nothing but spaces and a comment is left of this one. -/
def nextLine? (cs : List Char) : Option (List Char) :=
  match skipComment (skipSpaces cs) with
  | [] => some []
  | rest => newline? rest

def skipLines : Nat → List Char → List Char
  | 0, cs => cs
  | fuel + 1, cs =>
    let rest := skipComment (skipSpaces cs)
    match newline? rest with
    | some rest => skipLines fuel rest
    | none => rest

/-! ## Strings -/

/-- The character of a code point. -/
def charOf? (n : Nat) : Option Char := if n.isValidChar then some (Char.ofNat n) else none

/-- The character that a letter after a backslash stands for. -/
def simpleEscape? (c : Char) : Option Char :=
  match c with
  | '"' => some '"'
  | '\\' => some '\\'
  | 'b' => some (Char.ofNat 8)
  | 'f' => some (Char.ofNat 12)
  | 'n' => some '\n'
  | 'r' => some '\r'
  | 't' => some '\t'
  | _ => none

/-- The character after a backslash, written by its number or by a letter; then what follows. -/
def escape? : List Char → Option (Char × List Char)
  | 'u' :: a :: b :: c :: d :: rest => do
    return (← charOf? (← Data.Json.hex4? a b c d), rest)
  | 'U' :: a :: b :: c :: d :: e :: f :: g :: h :: rest => do
    let high ← Data.Json.hex4? a b c d
    let low ← Data.Json.hex4? e f g h
    return (← charOf? (high * 65536 + low), rest)
  | c :: rest => (simpleEscape? c).map fun char => (char, rest)
  | [] => none

/-- The rest of a string on one line, up to its closing quote. -/
def scanBasic? : Nat → List Char → Option (List Char × List Char)
  | 0, _ => none
  | _ + 1, '"' :: rest => some ([], rest)
  | fuel + 1, '\\' :: rest => do
    let (char, rest) ← escape? rest
    let (body, rest) ← scanBasic? fuel rest
    return (char :: body, rest)
  | fuel + 1, c :: rest =>
    if isPlain c then (scanBasic? fuel rest).map fun (body, rest) => (c :: body, rest) else none
  | _ + 1, [] => none

/-- The rest of a string without escapes, up to its closing quote. -/
def scanLiteral? (cs : List Char) : Option (List Char × List Char) :=
  let body := cs.takeWhile fun c => c != '\'' && isPlain c
  match cs.drop body.length with
  | '\'' :: rest => some (body, rest)
  | _ => none

def skipBreaks : Nat → List Char → List Char
  | 0, cs => cs
  | fuel + 1, cs =>
    match newline? (skipSpaces cs) with
    | some rest => skipBreaks fuel rest
    | none => skipSpaces cs

/-- The rest of a string of several lines. Up to two quotes stand for themselves; three end the
string, and up to two before them belong to it. A backslash at the end of a line joins it to the
next word. -/
def scanLines? (quote : Char) (escapes : Bool) : Nat → List Char → Option (List Char × List Char)
  | 0, _ => none
  | fuel + 1, cs =>
    match cs with
    | [] => none
    | c :: rest =>
      if c = quote then
        let run := (cs.takeWhile (· == quote)).length
        if run < 3 then
          (scanLines? quote escapes fuel rest).map fun (body, rest) => (c :: body, rest)
        else if run < 6 then some (List.replicate (run - 3) quote, cs.drop run)
        else none
      else if escapes && c = '\\' then
        match newline? (skipSpaces rest) with
        | some next => scanLines? quote escapes fuel (skipBreaks next.length next)
        | none =>
          match escape? rest with
          | some (char, rest) =>
            (scanLines? quote escapes fuel rest).map fun (body, rest) => (char :: body, rest)
          | none => none
      else
        match newline? cs with
        | some rest =>
          (scanLines? quote escapes fuel rest).map fun (body, rest) => ('\n' :: body, rest)
        | none =>
          if isPlain c then
            (scanLines? quote escapes fuel rest).map fun (body, rest) => (c :: body, rest)
          else none

/-- Without the end of a line that the text begins with. -/
def dropNewline (cs : List Char) : List Char := (newline? cs).getD cs

def scanString? (cs : List Char) : Option (String × List Char) :=
  let scanned := match cs with
    | '"' :: '"' :: '"' :: rest => scanLines? '"' true (rest.length + 1) (dropNewline rest)
    | '\'' :: '\'' :: '\'' :: rest => scanLines? '\'' false (rest.length + 1) (dropNewline rest)
    | '"' :: rest => scanBasic? (rest.length + 1) rest
    | '\'' :: rest => scanLiteral? rest
    | _ => none
  scanned.map fun (body, rest) => (String.ofList body, rest)

/-! ## Keys -/

/-- A character of a key without quotes. -/
def isKeyChar (c : Char) : Bool := c.isAlphanum || c == '_' || c == '-'

/-- One part of a key. -/
def scanKeyPart? (cs : List Char) : Option (String × List Char) :=
  match cs with
  | '"' :: rest =>
    (scanBasic? (rest.length + 1) rest).map fun (body, rest) => (String.ofList body, rest)
  | '\'' :: rest => (scanLiteral? rest).map fun (body, rest) => (String.ofList body, rest)
  | _ =>
    let run := cs.takeWhile isKeyChar
    if run.isEmpty then none else some (String.ofList run, cs.drop run.length)

/-- A key of at most `limit` parts: the path, and the last part. Spaces may stand around the parts. -/
def scanKey? : (limit : Nat) → List Char → Option ((List String × String) × List Char)
  | 0, _ => none
  | limit + 1, cs =>
    match scanKeyPart? (skipSpaces cs) with
    | none => none
    | some (part, rest) =>
      match skipSpaces rest with
      | '.' :: rest =>
        (scanKey? limit rest).map fun ((path, key), rest) => ((part :: path, key), rest)
      | rest => some (([], part), rest)

/-- Keys have no more parts and values no more levels than this. -/
def mostDepth : Nat := 79

/-! ## Numbers, dates and times -/

/-- More digits of a class, each with an underscore before it or not; the underscores are left
out. -/
def scanMoreDigits? (isDigit : Char → Bool) : List Char → Option (List Char × List Char)
  | ['_'] => none
  | '_' :: d :: rest =>
    if isDigit d then (scanMoreDigits? isDigit rest).map fun (run, rest) => (d :: run, rest)
    else none
  | d :: rest =>
    if isDigit d then (scanMoreDigits? isDigit rest).map fun (run, rest) => (d :: run, rest)
    else some ([], d :: rest)
  | [] => some ([], [])

/-- Digits of a class, at least one, with single underscores between them. -/
def scanDigits? (isDigit : Char → Bool) : List Char → Option (List Char × List Char)
  | d :: rest =>
    if isDigit d then (scanMoreDigits? isDigit rest).map fun (run, rest) => (d :: run, rest)
    else none
  | [] => none

/-- A sign, if the text begins with one. -/
def scanSign : List Char → List Char × List Char
  | '+' :: rest => (['+'], rest)
  | '-' :: rest => (['-'], rest)
  | cs => ([], cs)

/-- A whole number in decimal digits: zero, or digits that do not begin with it. -/
def scanWhole? (cs : List Char) : Option (List Char × List Char) :=
  let (sign, rest) := scanSign cs
  match rest with
  | '0' :: rest => some (sign ++ ['0'], rest)
  | _ => (scanDigits? Char.isDigit rest).map fun (run, rest) => (sign ++ run, rest)

/-- An exponent with its sign. -/
def scanExponent? (cs : List Char) : Option (List Char × List Char) :=
  let (sign, rest) := scanSign cs
  (scanDigits? Char.isDigit rest).map fun (run, rest) => ('e' :: sign ++ run, rest)

/-- Whether an exponent comes next. -/
def exponentMark? : List Char → Option (List Char)
  | 'e' :: rest => some rest
  | 'E' :: rest => some rest
  | _ => none

/-- Fraction and exponent of a floating-point number; one of them has to be there. The outer option
says whether one is, the inner one whether it is well formed. -/
def scanFraction? (cs : List Char) : Option (Option (List Char × List Char)) :=
  match cs with
  | '.' :: rest => some do
    let (run, rest) ← scanDigits? Char.isDigit rest
    match exponentMark? rest with
    | some rest =>
      let (exponent, rest) ← scanExponent? rest
      return ('.' :: run ++ exponent, rest)
    | none => return ('.' :: run, rest)
  | _ => (exponentMark? cs).map scanExponent?

/-- A floating-point number. One above the largest is refused; one below the lowest is minus
infinity. -/
def floatOf? (cs : List Char) : Option Data :=
  match Binary64.ofChars? cs with
  | some (.infinite false) => none
  | some x => some (.float x)
  | none => none

/-- Infinity or no number, perhaps with a sign. -/
def scanSpecial? (cs : List Char) : Option (Data × List Char) :=
  let (sign, rest) := scanSign cs
  match rest with
  | 'i' :: 'n' :: 'f' :: rest => some (.float (.infinite (sign == ['-'])), rest)
  | 'n' :: 'a' :: 'n' :: rest => some (.float .nan, rest)
  | _ => none

/-- The number that hexadecimal, octal or binary digits write. -/
def radixOf? (base : Nat) (digits : List Char) : Option Data :=
  let n := digits.foldl (fun n c => n * base + (Numeral.hexDigit? c).getD 0) 0
  if n ≤ Numeral.maxInt64 then some (.integer n) else none

/-- A whole number in another base. -/
def scanRadix? (base : Nat) (isDigit : Char → Bool) (cs : List Char) : Option (Data × List Char) := do
  let (run, rest) ← scanDigits? isDigit cs
  return (← radixOf? base run, rest)

def scanNumber? (cs : List Char) : Option (Data × List Char) :=
  match cs with
  | '0' :: 'x' :: rest => scanRadix? 16 (fun c => (Numeral.hexDigit? c).isSome) rest
  | '0' :: 'o' :: rest => scanRadix? 8 (fun c => '0' ≤ c && c ≤ '7') rest
  | '0' :: 'b' :: rest => scanRadix? 2 (fun c => c == '0' || c == '1') rest
  | _ =>
    match scanWhole? cs with
    | none => scanSpecial? cs
    | some (whole, rest) =>
      match scanFraction? rest with
      | some (some (fraction, rest)) => (floatOf? (whole ++ fraction)).map fun d => (d, rest)
      | some none => none
      | none => (Numeral.readInt64? whole).map fun n => (.integer n, rest)

/-- Two digits that write a number within bounds. -/
def scanTwo? (low high : Nat) : List Char → Option (Nat × List Char)
  | a :: b :: rest =>
    if a.isDigit && b.isDigit then
      let n := Nat.ofDigitChars 10 [a, b] 0
      if low ≤ n ∧ n ≤ high then some (n, rest) else none
    else none
  | _ => none

/-- What follows a character, if the text begins with it. -/
def skip? (c : Char) : List Char → Option (List Char)
  | d :: rest => if c = d then some rest else none
  | [] => none

/-- What follows a time after its hour and the colon: minute, second and perhaps a fraction. -/
def skipMinutes? (cs : List Char) : Option (List Char) := do
  let (_, cs) ← scanTwo? 0 59 cs
  let (_, cs) ← scanTwo? 0 60 (← skip? ':' cs)
  match cs with
  | '.' :: rest =>
    let run := rest.takeWhile Char.isDigit
    return if run.isEmpty then cs else rest.drop run.length
  | _ => return cs

/-- Whether an hour and a colon come next; then what follows a time. -/
def skipTime? (cs : List Char) : Option (Option (List Char)) := do
  let (_, cs) ← scanTwo? 0 23 cs
  return skipMinutes? (← skip? ':' cs)

/-- What follows an offset from universal time, if one comes next. -/
def skipOffset? (cs : List Char) : Option (List Char) :=
  match cs with
  | 'Z' :: rest => some rest
  | 'z' :: rest => some rest
  | c :: rest =>
    if c = '+' ∨ c = '-' then do
      let (_, rest) ← scanTwo? 0 23 rest
      let (_, rest) ← scanTwo? 0 59 (← skip? ':' rest)
      return rest
    else some cs
  | [] => some []

/-- What follows the time of a date and the offset of that time, if they come next. -/
def skipDateTime? (cs : List Char) : Option (List Char) :=
  match cs with
  | mark :: rest =>
    if mark = 'T' ∨ mark = 't' ∨ mark = ' ' then
      match skipTime? rest with
      | some (some rest) => skipOffset? rest
      | some none => none
      | none => some cs
    else some cs
  | [] => some []

/-- Whether a date or a time comes next; then what follows it. -/
def skipDate? (cs : List Char) : Option (Option (List Char)) :=
  let year := cs.take 4
  match cs.drop 4 with
  | '-' :: rest =>
    if year.length = 4 && year.all Char.isDigit then
      some do
        let (month, rest) ← scanTwo? 1 12 rest
        let (day, rest) ← scanTwo? 1 31 (← skip? '-' rest)
        if Date.occurs (Nat.ofDigitChars 10 year 0 : Nat) month day then skipDateTime? rest else none
    else skipTime? cs
  | _ => skipTime? cs

def scanDateOrNumber? (cs : List Char) : Option (Data × List Char) :=
  match skipDate? cs with
  | some (some rest) =>
    some (.record [("datetime", .string (String.ofList (cs.take (cs.length - rest.length))))], rest)
  | some none => none
  | none => scanNumber? cs

/-! ## Values -/

mutual

/-- One value below `depth` further levels, and what follows it. -/
def scanValue? : Nat → (depth : Nat) → List Char → Option (Data × List Char)
  | 0, _, _ => none
  | fuel + 1, depth, cs =>
    match cs with
    | '"' :: _ => (scanString? cs).map fun (s, rest) => (.string s, rest)
    | '\'' :: _ => (scanString? cs).map fun (s, rest) => (.string s, rest)
    | 't' :: 'r' :: 'u' :: 'e' :: rest => some (.bool true, rest)
    | 'f' :: 'a' :: 'l' :: 's' :: 'e' :: rest => some (.bool false, rest)
    | '[' :: rest =>
      match depth with
      | depth + 1 => (scanItems? fuel depth rest).map fun (items, rest) => (.list items, rest)
      | 0 => none
    | '{' :: rest =>
      match depth with
      | depth + 1 =>
        match skipSpaces rest with
        | '}' :: rest => some (.record [], rest)
        | rest => (scanMembers? fuel depth [] rest).map fun (members, rest) =>
            (.record (membersData members), rest)
      | 0 => none
    | _ => scanDateOrNumber? cs

/-- The items of a list up to its closing bracket. A comma may follow the last one. -/
def scanItems? : Nat → (depth : Nat) → List Char → Option (List Data × List Char)
  | 0, _, _ => none
  | fuel + 1, depth, cs =>
    match skipLines cs.length cs with
    | ']' :: rest => some ([], rest)
    | rest =>
      match scanValue? fuel depth rest with
      | none => none
      | some (item, rest) =>
        match skipLines rest.length rest with
        | ',' :: rest =>
          (scanItems? fuel depth rest).map fun (items, rest) => (item :: items, rest)
        | ']' :: rest => some ([item], rest)
        | _ => none

/-- The members of a table on one line up to its closing brace, added to those before them. -/
def scanMembers? : Nat → (depth : Nat) → Members → List Char → Option (Members × List Char)
  | 0, _, _, _ => none
  | fuel + 1, depth, members, cs =>
    match scanKey? mostDepth cs with
    | some ((path, key), '=' :: rest) =>
      match scanValue? fuel depth (skipSpaces rest) with
      | none => none
      | some (value, rest) =>
        match members.insert path key value with
        | none => none
        | some members =>
          match skipSpaces rest with
          | ',' :: rest => scanMembers? fuel depth members rest
          | '}' :: rest => some (members, rest)
          | _ => none
    | _ => none

end

/-! ## Texts -/

/-- The rest of a header after its key, up to the next line. -/
def closeHeader? (brackets : List Char) (cs : List Char) : Option (List Char) :=
  (Text.dropPrefix? brackets cs).bind nextLine?

/-- One statement, and the lines that follow it. -/
def scanStatement? (cs : List Char) : Option (Statement × List Char) :=
  match cs with
  | '[' :: '[' :: rest => do
    let ((path, key), rest) ← scanKey? mostDepth rest
    return (.listHeader path key, ← closeHeader? [']', ']'] rest)
  | '[' :: rest => do
    let ((path, key), rest) ← scanKey? mostDepth rest
    return (.header path key, ← closeHeader? [']'] rest)
  | _ => do
    let ((path, key), rest) ← scanKey? mostDepth cs
    let (value, rest) ← scanValue? (2 * cs.length + 2) mostDepth (skipSpaces (← skip? '=' rest))
    return (.member path key value, ← nextLine? rest)

def scanStatements? : Nat → List Char → Option (List Statement)
  | 0, _ => none
  | fuel + 1, cs =>
    match skipLines cs.length cs with
    | [] => some []
    | rest =>
      match scanStatement? rest with
      | some (statement, rest) => (scanStatements? fuel rest).map (statement :: ·)
      | none => none

/-- Without the mark that may stand before a text. -/
def dropMark : List Char → List Char
  | '\uFEFF' :: rest => rest
  | cs => cs

end Toml

/-- The record that a TOML text writes. -/
def Data.ofTomlText? (text : String) : Option Data := do
  let cs := Toml.dropMark text.toList
  Toml.recordOf? (← Toml.scanStatements? (cs.length + 1) cs)

end WorkQuery
