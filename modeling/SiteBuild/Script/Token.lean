import SiteBuild.Text.CodePoint

/-!
# Script tokens

The tokens that module code is cut into, and what is wrong with code that ends inside one.
-/
namespace SiteBuild.Script

/-- The kinds of tokens. -/
inductive TokenKind where
  /-- A name, a keyword or a number. -/
  | name
  /-- A string literal. -/
  | string
  /-- A part of a template literal that holds no substitution. -/
  | template
  /-- A regular expression literal. -/
  | regex
  /-- A single mark. -/
  | mark
  deriving DecidableEq, Repr

/-- The name of a kind of tokens. -/
def TokenKind.label : TokenKind → Text
  | .name => "NAME"
  | .string => "STRING"
  | .template => "TEMPLATE"
  | .regex => "REGEX"
  | .mark => "PUNCT"

/-- A token of module code. -/
structure Token where
  /-- Its kind. -/
  kind : TokenKind
  /-- What it denotes: the content of a string literal, the text of any other token. -/
  value : Text
  /-- The number of characters before it. -/
  offset : Nat
  deriving DecidableEq, Repr

/-- Whether a token is a given mark. -/
def Token.isMark (token : Token) (mark : Char) : Bool :=
  token.kind == .mark && token.value == [.scalar mark]

/-- Whether a token is a given name. -/
def Token.isName (token : Token) (name : Text) : Bool :=
  token.kind == .name && token.value == name

/-- What module code can end inside of. -/
inductive Unterminated where
  /-- A comment between a slash with a star and a star with a slash. -/
  | comment
  /-- A string literal. -/
  | string
  /-- The text of a template literal. -/
  | template
  deriving DecidableEq, Repr

/-- Module code that ends inside a comment or a literal. -/
structure ScanError where
  /-- What has no end. -/
  part : Unterminated
  /-- The number of characters before its start. -/
  offset : Nat
  deriving DecidableEq, Repr

/-- What a message calls a part without an end. -/
def Unterminated.description : Unterminated → String
  | .comment => "comment"
  | .string => "string literal"
  | .template => "template literal"

/-- The message of an error. -/
def ScanError.message (error : ScanError) : String :=
  s!"Unterminated {error.part.description} at offset {error.offset}"

end SiteBuild.Script
