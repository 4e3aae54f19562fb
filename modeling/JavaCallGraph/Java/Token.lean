/-!
# Tokens of Java text

A token carries its own text and the blanks before it, so that a text is the concatenation of its
tokens and no offsets are needed. Comments are tokens too. Words are not sorted into keywords and
names here: a word is a keyword only where the grammar has a use for it.
-/

namespace JavaCallGraph.Java

inductive Token.Form where
  | word
  | symbol
  | integer
  | floating
  | character
  | string
  /-- A string up to its first embedded expression. -/
  | stringHead
  /-- A string between two embedded expressions. -/
  | stringMiddle
  /-- A string from its last embedded expression on. -/
  | stringTail
  /-- A string that the end of the text cuts off. -/
  | openString
  | lineComment
  | blockComment
  /-- A character that starts no token. -/
  | stray
  | finish
  deriving DecidableEq, Repr, Inhabited

/-- A token with the blanks before it and the line it starts on, counted from one. -/
structure Token where
  form : Token.Form
  gap : String
  text : String
  line : Nat
  deriving DecidableEq, Repr, Inhabited

namespace Token

def isComment (t : Token) : Bool := t.form == .lineComment || t.form == .blockComment

def lineFeeds (s : String) : Nat := s.toList.count '\n'

def endLine (t : Token) : Nat := t.line + lineFeeds t.text

def width (t : Token) : Nat := t.gap.utf8ByteSize + t.text.utf8ByteSize

end Token

end JavaCallGraph.Java
