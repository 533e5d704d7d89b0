import CompileDesk.Decimal.Shortest
import CompileDesk.Json.Value
import CompileDesk.Text.Natural

/-! # Writing JSON

A string is written between double quotes. The quote and the backslash are escaped, five control
characters have a short escape and the others a `\u00..` one with lower-case digits; every other
character stands for itself. Values are written without white space.
-/

namespace CompileDesk.Json

def escaped (c : Char) : List Char :=
  match c with
  | '"' => ['\\', '"']
  | '\\' => ['\\', '\\']
  | '\x08' => ['\\', 'b']
  | '\t' => ['\\', 't']
  | '\n' => ['\\', 'n']
  | '\x0c' => ['\\', 'f']
  | '\r' => ['\\', 'r']
  | _ =>
    if c.val < 0x20 then
      ['\\', 'u', '0', '0', Text.lowerHexChar (c.toNat / 16), Text.lowerHexChar c.toNat]
    else [c]

def quoted (s : String) : List Char := '"' :: (s.toList.flatMap escaped ++ ['"'])

def renderNumber : JsonNumber → List Char
  | .integer n => (Text.ofInt n).toList
  | .binary x => x.compact

mutual

def render : Json → List Char
  | .null => "null".toList
  | .bool true => "true".toList
  | .bool false => "false".toList
  | .number n => renderNumber n
  | .string s => quoted s
  | .array items => '[' :: (renderItems items ++ [']'])
  | .object fields => '\x7b' :: (renderFields fields ++ ['\x7d'])

def renderItems : List Json → List Char
  | [] => []
  | [v] => render v
  | v :: rest => render v ++ ',' :: renderItems rest

def renderFields : List (String × Json) → List Char
  | [] => []
  | [(name, v)] => quoted name ++ ':' :: render v
  | (name, v) :: rest => quoted name ++ ':' :: render v ++ ',' :: renderFields rest

end

end CompileDesk.Json
