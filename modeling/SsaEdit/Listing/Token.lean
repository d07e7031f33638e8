/-
Tokens of the textual form.

`Terminal.take?` cuts a token of a given kind off the front of a text, as long as
it goes.  `lex?` cuts off a token of one of the kinds that are welcome: where a
name is welcome the longest word is taken first, and it is a keyword only if
that keyword is welcome too; elsewhere a keyword may be followed by anything.
-/
import SsaEdit.Listing.Keyword
import SsaEdit.Number.Numeral

namespace SsaEdit
namespace Listing

/-- The punctuation marks. -/
inductive Mark
  | openRound | closeRound | openCurly | closeCurly | openSquare | closeSquare
  | comma | equals | arrow | colon | doubleColon | at
  deriving DecidableEq

namespace Mark

def spelling : Mark → List Char
  | .openRound => ['(']
  | .closeRound => [')']
  | .openCurly => ['\x7b']
  | .closeCurly => ['\x7d']
  | .openSquare => ['[']
  | .closeSquare => [']']
  | .comma => [',']
  | .equals => ['=']
  | .arrow => ['=', '>']
  | .colon => [':']
  | .doubleColon => [':', ':']
  | .at => ['@']

def all : List Mark :=
  [.openRound, .closeRound, .openCurly, .closeCurly, .openSquare, .closeSquare, .comma,
    .equals, .arrow, .colon, .doubleColon, .at]

end Mark

/-- The kinds of tokens. -/
inductive Terminal
  | keyword (k : Keyword)
  | mark (m : Mark)
  | name
  | quoted
  | variable
  | label
  | argument
  | digits
  | number
  /-- The negative infinity, written as one token. -/
  | minusInf
  deriving DecidableEq

/-- A token: its kind, its characters, and how many characters precede it. -/
structure Token where
  kind : Terminal
  chars : List Char
  start : Nat

/-! ## Blanks -/

/-- The blanks between tokens. -/
def isSpace (c : Char) : Bool := c == ' ' || c == '\t' || c == '\x0c' || c == '\r' || c == '\n'

/-- Split off the blanks and comments in front.  A comment runs from a semicolon
up to the end of the line. -/
def splitBlanks : Bool → List Char → List Char × List Char
  | _, [] => ([], [])
  | inComment, c :: rest =>
    if (inComment && c != '\n') || c == ';' then
      let (blanks, rest) := splitBlanks true rest
      (c :: blanks, rest)
    else if isSpace c then
      let (blanks, rest) := splitBlanks false rest
      (c :: blanks, rest)
    else ([], c :: rest)

theorem length_splitBlanks (inComment : Bool) (s : List Char) :
    (splitBlanks inComment s).2.length ≤ s.length := by
  induction s generalizing inComment with
  | nil => simp [splitBlanks]
  | cons c rest ih =>
    have hComment := ih true
    have hPlain := ih false
    simp only [splitBlanks, List.length_cons]
    split
    · exact Nat.le_succ_of_le hComment
    · split
      · exact Nat.le_succ_of_le hPlain
      · simp

/-! ## Cutting tokens -/

/-- The rest of a text literal up to its closing quote.  A backslash shields the
character after it, and no literal goes beyond its line. -/
def takeQuoted? : List Char → Option (List Char)
  | [] => none
  | '\\' :: c :: rest =>
    if c = '\n' then none else (takeQuoted? rest).map fun inside => '\\' :: c :: inside
  | c :: rest =>
    if c = '"' then some ['"']
    else if c = '\n' then none
    else (takeQuoted? rest).map (c :: ·)

/-- The digits in front, if there are any. -/
def takeDigits? (s : List Char) : Option (List Char) :=
  let digits := s.takeWhile Char.isDigit
  if digits.isEmpty then none else some digits

/-- A sigil with the digits after it. -/
def takeSigil? (sigil : Char) : List Char → Option (List Char)
  | [] => none
  | c :: rest => if c = sigil then (takeDigits? rest).map (c :: ·) else none

/-- A fixed spelling. -/
def takeSpelling? (spelling s : List Char) : Option (List Char) :=
  if spelling.isPrefixOf s then some spelling else none

/-- The longest token of a kind in front. -/
def Terminal.take? : Terminal → List Char → Option (List Char)
  | .keyword k, s => takeSpelling? k.spelling s
  | .mark m, s => takeSpelling? m.spelling s
  | .name, [] => none
  | .name, c :: rest => if isWordStart c then some (c :: rest.takeWhile isWordPart) else none
  | .quoted, [] => none
  | .quoted, c :: rest => if c = '"' then (takeQuoted? rest).map (c :: ·) else none
  | .variable, s => takeSigil? '%' s
  | .label, s => takeSigil? '#' s
  | .argument, s => takeSigil? '$' s
  | .digits, s => takeDigits? s
  | .number, s => (Numeral.read? s).map fun found => found.1.spelling
  | .minusInf, s => takeSpelling? ('-' :: Keyword.inf.spelling) s

/-- The kinds of tokens other than names. -/
def otherTerminals : List Terminal :=
  Keyword.all.map .keyword ++ Mark.all.map .mark ++
    [.quoted, .variable, .label, .argument, .digits, .number, .minusInf]

/-- What a word is where a name is welcome. -/
def classifyWord (welcome : Terminal → Bool) (word : List Char) : Terminal :=
  match Keyword.ofSpelling? word with
  | some k => if welcome (.keyword k) then .keyword k else .name
  | none => .name

/-- The token in front, among the kinds that are welcome. -/
def lex? (welcome : Terminal → Bool) (s : List Char) : Option (Terminal × List Char) :=
  match if welcome .name then Terminal.name.take? s else none with
  | some word => some (classifyWord welcome word, word)
  | none =>
    otherTerminals.findSome? fun t =>
      if welcome t then (t.take? s).map fun chars => (t, chars) else none

end Listing
end SsaEdit
