import FacetSql.Text.Blank
import FacetSql.Text.Figure
import FacetSql.Text.Letter
import FacetSql.Text.UpperCase
/-!
# Token — the words, numbers, texts and signs of SQL

`scan` cuts a text into tokens and drops blanks and comments.  Comments run to the end of the line after two dashes, or
between `/*` and `*/`, where they may be nested.  A quote that is not closed, or a comment that is not, refuses the
whole text; a character that begins no token becomes a sign of its own, which no rule asks for.
-/
namespace FacetSql.Sql

/-- **A name as written**, with its quote if it has one.  Inside the quotes the doubled quote has become one. -/
structure Name where
  text : String
  quote : Option Char

/-- The word a name is when keywords are looked for: upper-cased, and nothing at all for a quoted name. -/
def Name.keyword (n : Name) : String :=
  if n.quote.isNone then Text.upperCase n.text else ""

/-- **A token.** -/
inductive Token where
  | word (name : Name)
  /-- A numeral; `long` tells of an `L` behind it. -/
  | number (numeral : String) (long : Bool)
  | text (s : String)
  /-- A text in which a backslash gives the next character another meaning. -/
  | escaped (s : String)
  /-- A text in the characters of the nation. -/
  | national (s : String)
  /-- Hexadecimal digits. -/
  | hex (digits : String)
  /-- A constant of any other kind, in its canonical form. -/
  | marked (written : String)
  /-- A place for a value, as written. -/
  | place (written : String)
  /-- A semicolon.  The characters behind it are kept, for what follows it may be rows and no SQL. -/
  | semicolon (behind : List Char)
  | sign (s : String)

/-- The quote around texts. -/
def apostrophe : Char := Char.ofNat 39

/-- The second quote that names may have. -/
def backQuote : Char := Char.ofNat 96

/-- The characters between two quotes, as they are. -/
def enclosed (quote : Char) (s : String) : String :=
  String.ofList (quote :: (s.toList ++ [quote]))

/-- **The token as written**, with nothing done to the quotes inside. -/
def Token.written : Token → String
  | word n =>
    match n.quote with
    | some quote => enclosed quote n.text
    | none => n.text
  | number numeral long => if long then numeral ++ "L" else numeral
  | text s => enclosed apostrophe s
  | escaped s => "E" ++ enclosed apostrophe s
  | national s => "N" ++ enclosed apostrophe s
  | hex digits => "X" ++ enclosed apostrophe digits
  | marked written | place written => written
  | semicolon _ => ";"
  | sign s => s

/-- A character that is enough to begin a name. -/
def isNameStart (c : Char) : Bool :=
  Text.isLetter c || c == '_'

/-- A character a name goes on with. -/
def isNamePart (c : Char) : Bool :=
  Text.isLetter c || c.isDigit || c == '_' || c == '#' || c == '@' || c == '$'

/-- A character of the name of a place for a value. -/
def isPlacePart (c : Char) : Bool :=
  Text.isLetter c || Text.isFigure c || c == '_'

/-- **What stands up to the closing quote**, and what follows it.  The doubled quote stands for the quote itself. -/
def readQuoted (quote : Char) : List Char → Option (List Char × List Char)
  | [] => none
  | [c] => if c = quote then some ([], []) else none
  | c :: d :: cs =>
    if c = quote then
      if d = quote then (readQuoted quote cs).map (fun p => (quote :: p.1, p.2)) else some ([], d :: cs)
    else (readQuoted quote (d :: cs)).map (fun p => (c :: p.1, p.2))

/-- The character that a letter behind a backslash stands for. -/
def controlChar (c : Char) : Char :=
  match c with
  | 'r' => '\r'
  | 'n' => '\n'
  | 't' => '\t'
  | c => c

/-- What stands up to the closing quote of a text with escapes, and what follows it.  `behind` is a backslash in
front; a doubled quote is a quote behind one. -/
def readEscaped : Bool → List Char → Option (List Char × List Char)
  | _, [] => none
  | true, c :: cs => (readEscaped false cs).map (fun p => (controlChar c :: p.1, p.2))
  | false, c :: cs =>
    if c = '\\' ∨ (c = apostrophe ∧ cs.head? = some apostrophe) then readEscaped true cs
    else if c = apostrophe then some ([], cs)
    else (readEscaped false cs).map (fun p => (c :: p.1, p.2))

/-- What stands up to two dollars, and what follows them.  `behind` is a dollar in front. -/
def readDollars : Bool → List Char → Option (List Char × List Char)
  | _, [] => none
  | true, c :: cs => if c = '$' then some ([], cs) else (readDollars false cs).map (fun p => ('$' :: c :: p.1, p.2))
  | false, c :: cs => if c = '$' then readDollars true cs else (readDollars false cs).map (fun p => (c :: p.1, p.2))

/-- What stands up to a tag between dollars, and what follows it.  There is no dollar in front of the tag's own. -/
def readTagged (tag cs : List Char) : Option (List Char × List Char) :=
  let closing := '$' :: (tag ++ ['$'])
  let rest := cs.dropWhile (· != '$')
  if closing.isPrefixOf rest then some (cs.takeWhile (· != '$'), rest.drop closing.length) else none

/-- **What a dollar begins**: a text between two dollars or two tags, or a named place for a value. -/
def readDollar (cs : List Char) : Option (Token × List Char) :=
  match cs with
  | '$' :: rest => (readDollars false rest).map (fun p => (.marked ("$$" ++ String.ofList p.1 ++ "$$"), p.2))
  | _ =>
    let tag := cs.takeWhile isPlacePart
    let mark := "$" ++ String.ofList tag
    match cs.dropWhile isPlacePart with
    | '$' :: rest =>
      (readTagged tag rest).map (fun p => (.marked (mark ++ "$" ++ String.ofList p.1 ++ mark ++ "$"), p.2))
    | rest => some (.place mark, rest)

/-- Whether a letter right before a quote marks the text in the quotes. -/
def marksText (mark quote : Char) : Bool :=
  match mark.toUpper with
  | 'B' | 'R' => quote = apostrophe || quote = '"'
  | 'N' | 'E' | 'X' => quote = apostrophe
  | _ => false

/-- **A marked text** behind its quote: bytes, a text as it is, a national text, a text with escapes or hexadecimal
digits. -/
def readMarked (mark quote : Char) (cs : List Char) : Option (Token × List Char) :=
  match mark.toUpper with
  | 'E' => (readEscaped false cs).map (fun p => (.escaped (String.ofList p.1), p.2))
  | 'X' => (readQuoted quote cs).map (fun p => (.hex (String.ofList p.1), p.2))
  | 'N' => (readQuoted quote cs).map (fun p => (.national (String.ofList p.1), p.2))
  | 'R' => (readQuoted quote cs).map (fun p => (.marked ("R" ++ enclosed apostrophe (String.ofList p.1)), p.2))
  | m => (readQuoted quote cs).map (fun p => (.marked (m.toString ++ enclosed quote (String.ofList p.1)), p.2))

/-- The text behind a comment in `/*` and `*/`; `depth` comments are open around it, and `last` is the character
before. -/
def skipComment : Nat → Char → List Char → Option (List Char)
  | _, _, [] => none
  | depth, last, c :: cs =>
    if last = '/' ∧ c = '*' then skipComment (depth + 1) c cs
    else if last = '*' ∧ c = '/' then
      match depth with
      | 0 => some cs
      | depth + 1 => skipComment depth c cs
    else skipComment depth c cs

/-- The exponent of a numeral: a mark, an optional sign and digits; nothing if a digit is missing. -/
def splitExponent (cs : List Char) : List Char × List Char :=
  match cs with
  | mark :: rest =>
    if mark = 'e' ∨ mark = 'E' then
      let (sign, rest) := match rest with
        | '+' :: rest => (['+'], rest)
        | '-' :: rest => (['-'], rest)
        | rest => ([], rest)
      match rest.takeWhile Char.isDigit with
      | [] => ([], cs)
      | ds => (mark :: (sign ++ ds), rest.dropWhile Char.isDigit)
    else ([], cs)
  | [] => ([], [])

/-- A hexadecimal digit. -/
def isHexDigit (c : Char) : Bool :=
  c.isDigit || ('a' ≤ c && c ≤ 'f') || ('A' ≤ c && c ≤ 'F')

/-- **A numeral or a point**: digits, a point, digits, an exponent, all but one of them optional.  `0x` begins
hexadecimal digits. -/
def readNumeral (cs : List Char) : Token × List Char :=
  match cs with
  | '0' :: 'x' :: rest => (.hex (String.ofList (rest.takeWhile isHexDigit)), rest.dropWhile isHexDigit)
  | _ =>
    let whole := cs.takeWhile Char.isDigit
    let rest := cs.dropWhile Char.isDigit
    let (fraction, rest) := match rest with
      | '.' :: rest => ('.' :: rest.takeWhile Char.isDigit, rest.dropWhile Char.isDigit)
      | rest => ([], rest)
    if whole = [] ∧ fraction = ['.'] then (.sign ".", rest)
    else
      let (exponent, rest) := splitExponent rest
      let numeral := String.ofList (whole ++ fraction ++ exponent)
      match rest with
      | 'L' :: rest => (.number numeral true, rest)
      | rest => (.number numeral false, rest)

/-- **The signs of several characters**, each before those it begins with. -/
def longSigns : List String :=
  ["||/", "!~*", "->>", "<=>", "||", "|/", "=>", "==", "!=", "!!", "!~", "<=", "<>", "<<", "<@", ">=", ">>", "::", ":=",
    "&&", "~*", "//", "->"]

/-- **A sign**, the longest that stands there.  Both ways of writing "not equal" are one sign. -/
def readSign (cs : List Char) : Token × List Char :=
  match longSigns.find? (fun s => s.toList.isPrefixOf cs) with
  | some s => (.sign (if s = "!=" then "<>" else s), cs.drop s.length)
  | none => (.sign (String.ofList (cs.take 1)), cs.drop 1)

/-- A name of the characters in front and all that go on with it. -/
def readName (start cs : List Char) : Token × List Char :=
  (.word ⟨String.ofList (start ++ cs.takeWhile isNamePart), none⟩, cs.dropWhile isNamePart)

/-- **A name behind a mark.**  It begins with any character but the blank; before a blank and at the end the mark is a
sign. -/
def readMarkedName (mark : List Char) (cs : List Char) : Token × List Char :=
  match cs with
  | [] | ' ' :: _ => (.sign (String.ofList mark), cs)
  | c :: rest => readName (mark ++ [c]) rest

/-- What a hash begins: an operator or a name. -/
def readHash (cs : List Char) : Token × List Char :=
  match cs with
  | '-' :: rest => (.sign "#-", rest)
  | '>' :: '>' :: rest => (.sign "#>>", rest)
  | '>' :: rest => (.sign "#>", rest)
  | cs => readMarkedName ['#'] cs

/-- What an at sign begins: an operator, or a name behind one or two of them. -/
def readAt (cs : List Char) : Token × List Char :=
  match cs with
  | '>' :: rest => (.sign "@>", rest)
  | '?' :: rest => (.sign "@?", rest)
  | '@' :: rest => readMarkedName ['@', '@'] rest
  | cs => readMarkedName ['@'] cs

/-- **One step**: the token at the front, if it is one and not a blank or a comment, and what follows.  `none` for a
quote or comment that is not closed. -/
def scanStep (c : Char) (cs : List Char) : Option (Option Token × List Char) :=
  if Text.isBlank c then some (none, cs)
  else if marksText c (cs.headD ' ') then
    (readMarked c (cs.headD ' ') (cs.drop 1)).map (fun p => (some p.1, p.2))
  else if c = apostrophe then
    (readQuoted c cs).map (fun p => (some (.text (String.ofList p.1)), p.2))
  else if c = '"' ∨ c = backQuote then
    (readQuoted c cs).map (fun p => (some (.word ⟨String.ofList p.1, some c⟩), p.2))
  else if c.isDigit ∨ c = '.' then
    let (token, rest) := readNumeral (c :: cs)
    some (some token, rest)
  else if isNameStart c then
    let (token, rest) := readName [c] cs
    some (some token, rest)
  else if c = '#' then
    let (token, rest) := readHash cs
    some (some token, rest)
  else if c = '@' then
    let (token, rest) := readAt cs
    some (some token, rest)
  else if c = '-' ∧ cs.head? = some '-' then some (none, (cs.dropWhile (· != '\n')).drop 1)
  else if c = '/' ∧ cs.head? = some '*' then (skipComment 0 ' ' (cs.drop 1)).map (fun rest => (none, rest))
  else if c = '?' then
    some (some (.place ("?" ++ String.ofList (cs.takeWhile Text.isFigure))), cs.dropWhile Text.isFigure)
  else if c = '$' then (readDollar cs).map (fun p => (some p.1, p.2))
  else if c = ';' then some (some (.semicolon cs), cs)
  else
    let (token, rest) := readSign (c :: cs)
    some (some token, rest)

/-- The tokens of the characters, in at most `fuel` steps. -/
def scanSteps : Nat → List Char → Option (List Token)
  | _, [] => some []
  | 0, _ => none
  | fuel + 1, c :: cs =>
    match scanStep c cs with
    | none => none
    | some (none, rest) => scanSteps fuel rest
    | some (some token, rest) => (scanSteps fuel rest).map (token :: ·)

/-- **The tokens of a text.**  Every step takes at least one character, so the length of the text is enough steps. -/
def scan (s : String) : Option (List Token) :=
  scanSteps s.toList.length s.toList

end FacetSql.Sql
