namespace LintAdapter.Toml

inductive Value where
  | string (value : String)
  | integer (value : Int)
  | float (written : String)
  | bool (value : Bool)
  | dateTime (written : String)
  | array (items : List Value)
  | table (members : List (String × Value))

end LintAdapter.Toml
