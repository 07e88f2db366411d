/-! Points in time are told apart from other values of a document, but not read. -/

namespace ShaderRunner.Toml

inductive Value
  | string (s : String)
  | integer (n : Int)
  | float (x : Float)
  | boolean (b : Bool)
  | dateTime
  | array (items : List Value)
  | table (entries : List (String × Value))
  deriving Inhabited

end ShaderRunner.Toml
