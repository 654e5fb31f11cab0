import EditorBridge.Decimal.Range

/-!
# TOML values

The values of TOML 1.1, the language of configuration files (specification, 9.3).

A document is a table.  Integers are unbounded here and floating-point numbers keep their digits,
because only a reader of a value decides whether it fits the reader's arithmetic.  An integer may
even have no value at all, and does no harm as long as nobody reads it.
-/
namespace EditorBridge.Toml

inductive Value where
  | string (text : String)
  | integer (value : Option Int)
  /-- Infinities and the values that are no number have no digits. -/
  | float (digits : Option Decimal)
  | boolean (value : Bool)
  | dateTime
  | array (items : List Value)
  | table (entries : List (String × Value))

/-- The entries of a table, whose keys are distinct. -/
abbrev Table := List (String × Value)

end EditorBridge.Toml
