/-!
The values of a TOML document.
-/

namespace CmsTypings

inductive Toml where
  | string (text : String)
  | integer (value : Int)
  | float (value : Float)
  | boolean (value : Bool)
  /-- A date, a time or both, as `Toml.Moment` writes them. -/
  | moment (written : String)
  | array (items : List Toml)
  | table (entries : List (String × Toml))

instance : Inhabited Toml := ⟨.table []⟩

end CmsTypings
