import SiteBuild.Script.Lexer

/-!
# The imports of module code

Which modules a piece of code depends on, read off its tokens: static imports, exports from
another module, and dynamic imports of a string literal. A keyword behind a point is a member
and no keyword. Text inside literals and comments never counts, because it makes no name tokens.
-/
namespace SiteBuild.Script

/-- Whether a name begins a declaration that can have a source. -/
def isDeclarationKeyword (name : Text) : Bool := name == "import" || name == "export"

/-- The source of a clause that ends with the word `from` and a string. `closed` tells that the
last mark closed a list of names, behind which only a comma or the word may stand. -/
def clauseSource? (closed : Bool) : List Token → Option Text
  | [] => none
  | token :: rest =>
    match token.kind with
    | .name =>
      match token.value == "from", rest.head? with
      | true, some ⟨.string, source, _⟩ => some source
      | _, _ =>
        if closed || isDeclarationKeyword token.value then none else clauseSource? closed rest
    | .mark =>
      if token.isMark ',' then clauseSource? false rest
      else if closed then none
      else if token.isMark '\x7b' || token.isMark '*' then clauseSource? false rest
      else if token.isMark '\x7d' then clauseSource? true rest
      else none
    | _ => none

/-- The source of a dynamic import, from behind its opening parenthesis. -/
def callSource? : List Token → Option Text
  | ⟨.string, source, _⟩ :: behind :: _ =>
    if behind.isMark ')' || behind.isMark ',' then some source else none
  | _ => none

/-- The source that an import names, from behind the keyword. -/
def importSource? : List Token → Option Text
  | [] => none
  | token :: rest =>
    match token.kind with
    | .string => some token.value
    | .name => clauseSource? false (token :: rest)
    | .mark =>
      if token.isMark '(' then callSource? rest
      else if token.isMark '\x7b' || token.isMark '*' then clauseSource? false (token :: rest)
      else none
    | _ => none

/-- The source that an export names, from behind the keyword. -/
def exportSource? : List Token → Option Text
  | [] => none
  | token :: rest =>
    if token.isMark '\x7b' || token.isMark '*' then clauseSource? false (token :: rest) else none

/-- The sources that tokens name, in order. `member` tells that a point stands before the first
token. -/
def sourcesFrom (member : Bool) : List Token → List Text
  | [] => []
  | token :: rest =>
    let source? :=
      if member then none
      else if token.isName "import" then importSource? rest
      else if token.isName "export" then exportSource? rest
      else none
    source?.toList ++ sourcesFrom (token.isMark '.') rest

/-- The modules that code depends on, each once, in order of first appearance. -/
def imports (code : Text) : Except ScanError (List Text) :=
  (tokens code).map fun tokens => (sourcesFrom false tokens).eraseDups

end SiteBuild.Script
