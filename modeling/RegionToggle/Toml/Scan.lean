import RegionToggle.Toml.Value

/-!
# Scanning settings files

The smallest pieces of TOML: blanks, line ends, comments, quoted texts and keys. A scanner answers
with what it read and the rest of the text, or with nothing if the text does not start as it should.
-/

namespace RegionToggle.Toml

/-- A scanner reads something off the front of a text. -/
abbrev Scanner (α : Type) := Text → Option (α × Text)

/-- Blanks within a line. -/
def isSpace (c : Char) : Bool := c == ' ' || c == '\t'

/-- Characters that may stand in a comment: all but control characters other than the tab. -/
def isCommentChar (c : Char) : Bool := c == '\t' || (0x20 ≤ c.toNat && c.toNat != 0x7F)

/-- Characters that stand for themselves in a text in double quotes. -/
def isBasicChar (c : Char) : Bool := isCommentChar c && c != '"' && c != '\\'

/-- Characters that may stand in a text in single quotes. -/
def isLiteralChar (c : Char) : Bool := isCommentChar c && c != '\''

/-- Characters of a key without quotes. -/
def isBareKeyChar (c : Char) : Bool := c.isAlphanum || c == '-' || c == '_'

def skipSpace (t : Text) : Text := t.dropWhile isSpace

/-- The text behind a line feed, with or without a carriage return in front of it. -/
def newline? : Text → Option Text
  | '\n' :: rest => some rest
  | '\r' :: '\n' :: rest => some rest
  | _ => none

/-- The text behind the end of a line that may still hold blanks and a comment. -/
def lineEnd? (t : Text) : Option Text :=
  let rest :=
    match skipSpace t with
    | '#' :: rest => rest.dropWhile isCommentChar
    | rest => rest
  if rest.isEmpty then some [] else newline? rest

/-- The text behind the blanks, line ends and comments at its front; `commented` says that a comment
is under way. -/
def skipFiller (commented : Bool) : Text → Text
  | [] => []
  | c :: rest =>
    if commented && isCommentChar c then skipFiller true rest
    else if c == '#' then skipFiller true rest
    else if isSpace c || c == '\n' then skipFiller false rest
    else
      match c, rest with
      | '\r', '\n' :: rest => skipFiller false rest
      | _, _ => c :: rest

/-! ## Quoted texts -/

def escape? : Char → Option Char
  | 'b' => some '\x08'
  | 'f' => some '\x0c'
  | 'n' => some '\n'
  | 'r' => some '\r'
  | 't' => some '\t'
  | '"' => some '"'
  | '\\' => some '\\'
  | _ => none

def hexDigit? (c : Char) : Option Nat :=
  if c.isDigit then some (c.toNat - '0'.toNat)
  else if 'a' ≤ c ∧ c ≤ 'f' then some (c.toNat - 'a'.toNat + 10)
  else if 'A' ≤ c ∧ c ≤ 'F' then some (c.toNat - 'A'.toNat + 10)
  else none

/-- The character whose code point is spelled by hexadecimal digits. -/
def hexChar? (digits : List Char) : Option Char := do
  let values ← digits.mapM hexDigit?
  let code := values.foldl (fun n d => 16 * n + d) 0
  if h : code.isValidChar then some (Char.ofNatAux code h) else none

/-- Puts a character in front of what was read. -/
def pushTo (c : Char) (read : Text × Text) : Text × Text := (c :: read.1, read.2)

/-- Reads a text in double quotes, behind the opening quote. -/
def basicText? : Scanner Text
  | [] => none
  | '"' :: rest => some ([], rest)
  | '\\' :: 'u' :: a :: b :: c :: d :: rest =>
    (hexChar? [a, b, c, d]).bind fun x => (basicText? rest).map (pushTo x)
  | '\\' :: 'U' :: a :: b :: c :: d :: e :: f :: g :: h :: rest =>
    (hexChar? [a, b, c, d, e, f, g, h]).bind fun x => (basicText? rest).map (pushTo x)
  | '\\' :: e :: rest => (escape? e).bind fun x => (basicText? rest).map (pushTo x)
  | c :: rest => if isBasicChar c then (basicText? rest).map (pushTo c) else none

/-- Reads a text in single quotes, behind the opening quote. -/
def literalText? (t : Text) : Option (Text × Text) :=
  match t.dropWhile isLiteralChar with
  | '\'' :: rest => some (t.takeWhile isLiteralChar, rest)
  | _ => none

/-- Where a reader of a text over several lines stands. -/
inductive LineJoin where
  /-- In the text. -/
  | off
  /-- Behind a backslash, on the way to the end of the line. -/
  | seeking
  /-- Past that end of line, in the blanks and empty lines to be left out. -/
  | joining
  deriving DecidableEq, Repr

/-- Reads a text in three double quotes, behind the opening ones. Up to two quotes right before the
closing ones belong to the text. A backslash at the end of a line takes that end away, with all
blanks and line ends that follow. -/
def multilineText? : LineJoin → Scanner Text
  | _, [] => none
  | .seeking, '\r' :: '\n' :: rest => multilineText? .joining rest
  | .seeking, c :: rest =>
    if isSpace c then multilineText? .seeking rest
    else if c == '\n' then multilineText? .joining rest
    else none
  | .joining, '\r' :: '\n' :: rest => multilineText? .joining rest
  | .joining, ' ' :: rest => multilineText? .joining rest
  | .joining, '\t' :: rest => multilineText? .joining rest
  | .joining, '\n' :: rest => multilineText? .joining rest
  | _, '"' :: '"' :: '"' :: '"' :: '"' :: rest => some (['"', '"'], rest)
  | _, '"' :: '"' :: '"' :: '"' :: rest => some (['"'], rest)
  | _, '"' :: '"' :: '"' :: rest => some ([], rest)
  | _, '"' :: rest => (multilineText? .off rest).map (pushTo '"')
  | _, '\n' :: rest => (multilineText? .off rest).map (pushTo '\n')
  | _, '\r' :: '\n' :: rest => (multilineText? .off rest).map (pushTo '\n')
  | _, '\\' :: 'u' :: a :: b :: c :: d :: rest =>
    (hexChar? [a, b, c, d]).bind fun x => (multilineText? .off rest).map (pushTo x)
  | _, '\\' :: 'U' :: a :: b :: c :: d :: e :: f :: g :: h :: rest =>
    (hexChar? [a, b, c, d, e, f, g, h]).bind fun x => (multilineText? .off rest).map (pushTo x)
  | _, '\\' :: e :: rest =>
    match escape? e with
    | some x => (multilineText? .off rest).map (pushTo x)
    | none =>
      if isSpace e then multilineText? .seeking rest
      else if e == '\n' then multilineText? .joining rest
      else
        match e, rest with
        | '\r', '\n' :: rest => multilineText? .joining rest
        | _, _ => none
  | _, c :: rest => if isBasicChar c then (multilineText? .off rest).map (pushTo c) else none

/-- Reads a text in three single quotes, behind the opening ones. Up to two quotes right before the
closing ones belong to the text. -/
def multilineLiteral? : Scanner Text
  | [] => none
  | '\'' :: '\'' :: '\'' :: '\'' :: '\'' :: rest => some (['\'', '\''], rest)
  | '\'' :: '\'' :: '\'' :: '\'' :: rest => some (['\''], rest)
  | '\'' :: '\'' :: '\'' :: rest => some ([], rest)
  | '\'' :: rest => (multilineLiteral? rest).map (pushTo '\'')
  | '\n' :: rest => (multilineLiteral? rest).map (pushTo '\n')
  | '\r' :: '\n' :: rest => (multilineLiteral? rest).map (pushTo '\n')
  | c :: rest => if isLiteralChar c then (multilineLiteral? rest).map (pushTo c) else none

def skipNewline (t : Text) : Text := (newline? t).getD t

def quotedText? : Scanner Text
  | '"' :: '"' :: '"' :: rest => multilineText? .off (skipNewline rest)
  | '"' :: rest => basicText? rest
  | '\'' :: '\'' :: '\'' :: rest => multilineLiteral? (skipNewline rest)
  | '\'' :: rest => literalText? rest
  | _ => none

/-! ## Keys -/

def simpleKey? : Scanner Text
  | '"' :: rest => basicText? rest
  | '\'' :: rest => literalText? rest
  | t =>
    let key := t.takeWhile isBareKeyChar
    if key.isEmpty then none else some (key, t.dropWhile isBareKeyChar)

/-- How deep keys, arrays and tables may be nested. -/
def nestingLimit : Nat := 80

/-- Reads a dotted key of at most so many parts, with the blanks around its parts. -/
def dottedKey? : Nat → Scanner (List Text)
  | 0, _ => none
  | parts + 1, t => do
    let (key, rest) ← simpleKey? (skipSpace t)
    match skipSpace rest with
    | '.' :: rest =>
      let (keys, rest) ← dottedKey? parts rest
      some (key :: keys, rest)
    | rest => some ([key], rest)

def key? : Scanner (List Text) := dottedKey? (nestingLimit - 1)

end RegionToggle.Toml
