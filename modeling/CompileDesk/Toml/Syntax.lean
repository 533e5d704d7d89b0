import CompileDesk.Toml.Quoted

/-! # TOML as it is written

A document is a list of statements, each of a key with its value or of the header of a table. Here keys
and plain values are still the texts that were written; what they stand for, and whether they stand for
anything, is decided apart from how a text is cut into statements.
-/

namespace CompileDesk.Toml

/-- A part of a key or a plain value. Of a quoted one the text after the opening quotes is kept, with the
closing quotes if they are there. -/
inductive Lexeme where
  | bare (text : List Char)
  | quoted (style : Style) (text : List Char)
  deriving DecidableEq, Repr

/-- A key: parts with dots between them. -/
structure Key where
  path : List Lexeme
  last : Lexeme
  deriving DecidableEq, Repr

inductive Form where
  | plain (lexeme : Lexeme)
  | array (items : List Form)
  | table (entries : List (Key × Form))

/-- A statement of a document: a value under a key, the header of a table, or the header of a further
element of an array of tables. -/
inductive Statement where
  | binding (key : Key) (form : Form)
  | header (key : Key)
  | element (key : Key)

end CompileDesk.Toml
