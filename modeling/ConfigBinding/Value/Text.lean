import ConfigBinding.Numeric.Layout
import ConfigBinding.Text.Quoted
import ConfigBinding.Value.Basic

/-!
# Values as text

Messages show a value by `Value.display`: strings between quotes, lists between brackets, maps
between braces. Inspection shows it by `Value.inspect`, which names every constructor, escapes
what has no glyph, and shows comments too.
-/

namespace ConfigBinding

open Numeric

/-- Items between two marks, separated by commas. -/
def enclosed (opening closing : String) (items : List String) : String :=
  opening ++ ", ".intercalate items ++ closing

/-- A constructor with its named fields, as inspection shows it. -/
def inspectFields (name : String) (fields : List (String × String)) : String :=
  if fields.isEmpty then name
  else enclosed (name ++ " \x7b ") " \x7d" (fields.map fun p => p.1 ++ ": " ++ p.2)

/-- A constructor with its arguments, as inspection shows it. -/
def inspectCall (name : String) (arguments : List String) : String :=
  if arguments.isEmpty then name else enclosed (name ++ "(") ")" arguments

/-- A map from strings, as inspection shows it. -/
def inspectMap (entries : List (String × String)) : String :=
  enclosed "\x7b" "\x7d" (entries.map fun p => Text.Quoted.string p.1 ++ ": " ++ p.2)

/-- An optional thing, as inspection shows it. -/
def inspectOption : Option String → String
  | none => "None"
  | some s => inspectCall "Some" [s]

/-- The text of a number in messages. -/
def Number.display : Number → String
  | .integer n => toString n.toInt
  | .float x => Layout.plain.write x

/-- The text of a number in inspection. -/
def Number.inspect : Number → String
  | .integer n => inspectCall "Integer" [toString n.toInt]
  | .float x => inspectCall "Float" [Layout.inspected.write x]

/-- A string between quotes, where only a quote is escaped. -/
def displayString (s : String) : String :=
  String.ofList ('"' :: s.toList.flatMap (fun c => if c = '"' then ['\\', '"'] else [c]) ++ ['"'])

mutual

/-- The text of a value in messages. Comments are not shown. -/
def Value.display : Value → String
  | .null => "null"
  | .bool b => toString b
  | .number n => n.display
  | .string s => displayString s
  | .list items => enclosed "[" "]" (displayItems items)
  | .config ⟨entries, _⟩ => enclosed "\x7b" "\x7d" (displayEntries entries)
  | .dateTime t => t.toRfc3339
  | .bigInt n => toString n

/-- The texts of the items of a list. -/
def displayItems : List Value → List String
  | [] => []
  | v :: rest => v.display :: displayItems rest

/-- The texts of the entries of a map. -/
def displayEntries : List (String × Value) → List String
  | [] => []
  | (k, v) :: rest => (k ++ " = " ++ v.display) :: displayEntries rest

end

mutual

/-- The text of a value in inspection. -/
def Value.inspect : Value → String
  | .null => "Null"
  | .bool b => inspectCall "Bool" [toString b]
  | .number n => inspectCall "Number" [n.inspect]
  | .string s => inspectCall "String" [Text.Quoted.string s]
  | .list items => inspectCall "List" [enclosed "[" "]" (inspectItems items)]
  | .config tree => inspectCall "Config" [tree.inspect]
  | .dateTime t => inspectCall "DateTime" [t.inspect]
  | .bigInt n => inspectCall "BigInt" [toString n]

/-- The text of a map in inspection. -/
def Tree.inspect : Tree → String
  | ⟨entries, comments⟩ =>
    inspectFields "ConfigMap"
      [("entries", inspectMap (inspectEntries entries)),
       ("comments", inspectMap (Keyed.mapValues Text.Quoted.string comments))]

/-- The texts of the items of a list. -/
def inspectItems : List Value → List String
  | [] => []
  | v :: rest => v.inspect :: inspectItems rest

/-- The entries of a map with the texts of their values. -/
def inspectEntries : List (String × Value) → List (String × String)
  | [] => []
  | (k, v) :: rest => (k, v.inspect) :: inspectEntries rest

end

end ConfigBinding
