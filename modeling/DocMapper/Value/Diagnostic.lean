import DocMapper.Text.Quoted
import DocMapper.Value.Basic

/-!
# Diagnostic form of values

How messages show a value: the name of its shape and the contents in parentheses, texts quoted,
sequences between brackets.
-/

namespace DocMapper

def bracketed (items : List String) : String :=
  "[" ++ ", ".intercalate items ++ "]"

namespace Value

mutual

def diagnostic : Value → String
  | .null => "Null"
  | .bool b => "Bool(" ++ (if b then "true" else "false") ++ ")"
  | .integer n => "Integer(" ++ toString n.toInt ++ ")"
  | .text s => "Text(" ++ Text.quoted s ++ ")"
  | .bytes bs => "Bytes(" ++ bracketed (bs.map fun b => toString b.toNat) ++ ")"
  | .id oid => "Id(" ++ oid.diagnostic ++ ")"
  | .array items => "Array(" ++ bracketed (diagnosticItems items) ++ ")"
  | .document entries => "Document(Document(" ++ bracketed (diagnosticEntries entries) ++ "))"

def diagnosticItems : List Value → List String
  | [] => []
  | v :: rest => v.diagnostic :: diagnosticItems rest

def diagnosticEntries : List (String × Value) → List String
  | [] => []
  | (key, v) :: rest =>
    ("(" ++ Text.quoted key ++ ", " ++ v.diagnostic ++ ")") :: diagnosticEntries rest

end

end Value

end DocMapper
