import CodeShape.Regex.Escape

/-!
# The words of the searched language

The word classes of JavaScript as a lexical approximation: literals, operators, keywords and
variables. Each class is a list of words or a shape, and is rendered as a regular expression for one
word of the class.
-/

namespace CodeShape.Grammar

/-- Identifiers that are values and no names. -/
def literalKeywords : List String := ["true", "false", "NaN", "undefined", "null"]

/-- Operators with one operand. -/
def unaryOperators : List String := ["++", "--", "~"]

/-- Operators with two operands; the choice `?:` is not among them. -/
def binaryOperators : List String :=
  ["+", "-", "*", "**", "/", "%", "=", "==", "===", "!=", "!==", ">", "<", ">=", "<=", "&", "|",
    "^", "<<", ">>", ">>>"]

/-- Reserved words, those of the future included. -/
def keywords : List String :=
  ["break", "case", "catch", "class", "const", "continue", "debugger", "default", "delete", "do",
    "else", "export", "extends", "finally", "for", "function", "if", "import", "in", "instanceof",
    "new", "return", "super", "switch", "this", "throw", "try", "typeof", "var", "void", "while",
    "with", "yield", "enum", "implements", "interface", "let", "package", "private", "protected",
    "public", "static", "await"]

/-- The literals that are no keywords: three kinds of strings, numbers with whatever letters follow
them, and regular expressions. -/
def literalShapes : List String :=
  ["\"[\\s\\S]*?\"", "'[\\s\\S]*?'", "`[\\s\\S]*?`", "-?\\d+[\\w.]*", "/[\\s\\S]*?/"]

/-! ## Order of alternatives -/

/-- Inserts a word into an alphabetical list. -/
def insertWord (w : String) : List String → List String
  | [] => [w]
  | v :: rest => if w < v then w :: v :: rest else v :: insertWord w rest

/-- The words in alphabetical order. -/
def alphabetical (words : List String) : List String :=
  words.foldr insertWord []

/-- The words from the longest to the shortest; words of one length keep their order. Where a word
begins with another one, the longer one comes first. -/
def longestFirst (words : List String) : List String :=
  let longest := (words.map String.length).foldr max 0
  (List.range (longest + 1)).reverse.flatMap fun n => words.filter (·.length == n)

/-- The alternatives of an expression, the first one preferred. -/
def alternatives (exprs : List (List Char)) : List Char :=
  ['|'].intercalate exprs

/-- Alternatives in parentheses. -/
def oneOf (exprs : List (List Char)) : List Char :=
  "(?:".toList ++ alternatives exprs ++ [')']

/-! ## The classes as expressions -/

/-- A character that may continue an identifier. -/
def identifierChar : List Char := "[$\\w]".toList

/-- No identifier goes on here. -/
def notContinued : List Char := "(?!".toList ++ identifierChar ++ [')']

/-- No identifier ends here. -/
def notPreceded : List Char := "(?<!".toList ++ identifierChar ++ [')']

/-- One of some whole words, from where an identifier may begin. -/
def wholeWord (words : List String) : List Char :=
  oneOf ((longestFirst (alphabetical words)).map String.toList) ++ notContinued

/-- A literal. -/
def literal : List Char :=
  oneOf ((literalShapes ++ literalKeywords).map String.toList)

/-- An operator, the longest one that stands there. -/
def operator : List Char :=
  oneOf ((longestFirst (unaryOperators ++ binaryOperators)).map fun w => Regex.quote w.toList)

/-- A keyword that is a whole word. -/
def keyword : List Char :=
  notPreceded ++ wholeWord keywords

/-- An identifier that is neither a keyword nor a literal. -/
def variableName : List Char :=
  notPreceded ++ "(?!".toList ++ wholeWord (keywords ++ literalKeywords) ++ [')'] ++
    "[$A-Za-z_][$A-Za-z0-9_]*".toList

/-- The shortest run of anything. -/
def lazyBlock : List Char := "[\\s\\S]*?".toList

/-- The longest run of anything. -/
def greedyBlock : List Char := "[\\s\\S]*".toList

/-- Blanks that may be there. -/
def blanks : List Char := "\\s*".toList

end CodeShape.Grammar
