import UserRegistry.Text.Scalar

/-!
# TOML text

Blanks, comments, line ends, the four kinds of strings and keys.  Every reader
takes the characters after what is already read and gives back its result and
the rest.  Line ends are single line feeds here: `unifyLineEnds` is applied to a
whole text first, so that a carriage return left over is an error everywhere.
-/

namespace UserRegistry.Toml

/-- Reads each carriage return and line feed as one line feed. -/
def unifyLineEnds : List Char → List Char
  | '\r' :: '\n' :: rest => '\n' :: unifyLineEnds rest
  | c :: rest => c :: unifyLineEnds rest
  | [] => []

def dropByteOrderMark : List Char → List Char
  | '\ufeff' :: rest => rest
  | text => text

/-- The white space inside a line. -/
def isBlank (c : Char) : Bool :=
  c = ' ' || c = '\t'

def skipBlanks (text : List Char) : List Char :=
  text.dropWhile isBlank

/-- Whether a character may stand in a comment: no control but the tab. -/
def isPlain (c : Char) : Bool :=
  c = '\t' || (0x20 ≤ c.toNat && c.toNat ≠ 0x7F)

/-- Whether a character may stand unescaped in a basic string. -/
def isBasic (c : Char) : Bool :=
  isPlain c && c ≠ '"' && c ≠ '\\'

def isLiteral (c : Char) : Bool :=
  isPlain c && c ≠ '\''

/-- The text after a comment, if one starts here. -/
def skipComment : List Char → List Char
  | '#' :: rest => rest.dropWhile isPlain
  | text => text

/-- Ends a line: blanks, a comment, then a line feed or the end of the text. -/
def lineEnd? (text : List Char) : Option (List Char) :=
  match skipComment (skipBlanks text) with
  | [] => some []
  | '\n' :: rest => some rest
  | _ => none

/-- The text after blanks, line feeds and comments; `inComment` tells whether a
comment is open. -/
def skipGap (inComment : Bool) : List Char → List Char
  | [] => []
  | c :: rest =>
    if c = '\n' then skipGap false rest
    else if inComment then (if isPlain c then skipGap true rest else c :: rest)
    else if c = '#' then skipGap true rest
    else if isBlank c then skipGap false rest
    else c :: rest

/-- The character that a letter after a backslash stands for. -/
def unescaped? : Char → Option Char
  | 'b' => some '\x08'
  | 'f' => some '\x0c'
  | 'n' => some '\n'
  | 'r' => some '\r'
  | 't' => some '\t'
  | '\\' => some '\\'
  | '"' => some '"'
  | _ => none

/-- The character with a code point written in hexadecimal. -/
def unicode? (digits : List Char) : Option Char :=
  (Numeral.read? 16 digits).bind Text.scalar?

/-- Whether a backslash here ends its line, blanks aside. -/
def endsLine (text : List Char) : Bool :=
  (skipBlanks text).head? = some '\n'

def twoMore (quote : Char) (text : List Char) : Bool :=
  text.take 2 == [quote, quote]

/-- The content that three quotes close when more quotes follow them: up to two
more belong to the content. -/
def closeQuotes (quote : Char) (text : List Char) : List Char × List Char :=
  let quotes := (text.take 2).takeWhile (· = quote)
  (quotes, text.drop quotes.length)

def keep (c : Option Char) (read : Option (List Char × List Char)) :
    Option (List Char × List Char) := do
  let c ← c
  let (text, rest) ← read
  some (c :: text, rest)

/-- Reads a basic string up to its closing quotes.  While `trimming`, after a
backslash at the end of a line, white space and line feeds are left out. -/
def basicRest (multiline : Bool) : (trimming : Bool) → List Char → Option (List Char × List Char)
  | _, [] => none
  | trimming, first :: rest =>
    if trimming && (isBlank first || first = '\n') then basicRest multiline true rest
    else if first = '"' then
      if ¬ multiline then some ([], rest)
      else if twoMore '"' rest then some (closeQuotes '"' (rest.drop 2))
      else keep (some '"') (basicRest multiline false rest)
    else if first = '\\' then
      if multiline && endsLine rest then basicRest multiline true rest
      else
        match rest with
        | 'u' :: a :: b :: c :: d :: rest =>
          keep (unicode? [a, b, c, d]) (basicRest multiline false rest)
        | 'U' :: a :: b :: c :: d :: e :: f :: g :: h :: rest =>
          keep (unicode? [a, b, c, d, e, f, g, h]) (basicRest multiline false rest)
        | letter :: rest => keep (unescaped? letter) (basicRest multiline false rest)
        | [] => none
    else if isBasic first || (multiline && first = '\n') then
      keep (some first) (basicRest multiline false rest)
    else none

/-- Reads a literal string up to its closing quotes. -/
def literalRest (multiline : Bool) : List Char → Option (List Char × List Char)
  | [] => none
  | first :: rest =>
    if first = '\'' then
      if ¬ multiline then some ([], rest)
      else if twoMore '\'' rest then some (closeQuotes '\'' (rest.drop 2))
      else keep (some '\'') (literalRest multiline rest)
    else if isLiteral first || (multiline && first = '\n') then
      keep (some first) (literalRest multiline rest)
    else none

/-- The text after a line feed that directly follows opening quotes. -/
def dropLineFeed : List Char → List Char
  | '\n' :: rest => rest
  | text => text

def string? : List Char → Option (List Char × List Char)
  | '"' :: '"' :: '"' :: rest => basicRest true false (dropLineFeed rest)
  | '"' :: rest => basicRest false false rest
  | '\'' :: '\'' :: '\'' :: rest => literalRest true (dropLineFeed rest)
  | '\'' :: rest => literalRest false rest
  | _ => none

/-- Whether a character may stand in a key without quotes. -/
def isBareKey (c : Char) : Bool :=
  c.isAlphanum || c = '-' || c = '_'

/-- Reads one part of a key: bare, or a string on one line. -/
def keyPart? : List Char → Option (String × List Char)
  | '"' :: rest => (basicRest false false rest).map fun (part, rest) => (.ofList part, rest)
  | '\'' :: rest => (literalRest false rest).map fun (part, rest) => (.ofList part, rest)
  | text =>
    if (text.takeWhile isBareKey).isEmpty then none
    else some (.ofList (text.takeWhile isBareKey), text.dropWhile isBareKey)

/-- The most parts that a key may have, and the most arrays and inline tables
that may be open at once. -/
def nestingLimit : Nat :=
  79

/-- Reads a key of at most `limit` parts joined by points, blanks around them
included. -/
def keyParts? : (limit : Nat) → List Char → Option (List String × List Char)
  | 0, _ => none
  | limit + 1, text => do
    let (part, rest) ← keyPart? (skipBlanks text)
    match skipBlanks rest with
    | '.' :: rest =>
      let (parts, rest) ← keyParts? limit rest
      some (part :: parts, rest)
    | rest => some ([part], rest)

def key? (text : List Char) : Option (List String × List Char) :=
  keyParts? nestingLimit text

end UserRegistry.Toml
