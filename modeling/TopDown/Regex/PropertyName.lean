import TopDown.Regex.BinaryProperty
import TopDown.Unicode.Script
import TopDown.Unicode.Version

namespace TopDown.Regex

namespace CharSet

/-- A name in lower case, without spaces, `-`, `_` or characters beyond ASCII. -/
def bareName (name : List Char) : String :=
  String.ofList ((name.filter fun c ↦ c.toNat < 128 && !" _-".contains c).map Char.toLower)

/-- As `bareName`, and without a leading `is` unless only `c` is left, which is another property. -/
def plainName (name : List Char) : String :=
  match name with
  | 'i' :: 's' :: rest | 'i' :: 'S' :: rest | 'I' :: 's' :: rest | 'I' :: 'S' :: rest =>
    if bareName rest = "c" then "isc" else bareName rest
  | _ => bareName name

def named? (sets : List (List String × CharSet)) (name : String) : Option CharSet :=
  (sets.find? (·.1.contains name)).map (·.2)

def ofCategoryName? : String → Option CharSet
  | "any" => some (.property .any)
  | "ascii" => some (.property .ascii)
  | "assigned" => some (.property .assigned)
  | name => (Unicode.Category.ofName? name).map ofCategories

def ofScriptName? (name : String) : Option CharSet :=
  (Unicode.Script.all.find? (·.names.contains name)).map fun script ↦ ofTable script.table

/-- The characters that are used in a script, or in no script that shares its characters. -/
def ofScriptExtensionName? (name : String) : Option CharSet :=
  let shared := anyOf (Unicode.Script.own.map fun script ↦ ofTable script.shared)
  match Unicode.Script.own.find? (·.names.contains name) with
  | some script => some (.union (ofTable script.table) (ofTable script.shared))
  | none => (ofScriptName? name).map fun set ↦ sdiff set shared

def ofVersionName? (name : String) : Option CharSet :=
  (Unicode.Version.all.findIdx? (·.names.contains name)).map fun i ↦
    anyOf ((Unicode.Version.all.take (i + 1)).map fun version ↦ ofTable version.added)

def ofValueName? (property value : String) : Option CharSet :=
  match property with
  | "generalcategory" | "gc" => ofCategoryName? value
  | "script" | "sc" => ofScriptName? value
  | "scriptextensions" | "scx" => ofScriptExtensionName? value
  | "age" => ofVersionName? value
  | "graphemeclusterbreak" | "gcb" => named? graphemeBreaks value
  | "wordbreak" | "wb" => named? wordBreaks value
  | "sentencebreak" | "sb" => named? sentenceBreaks value
  | _ => none

def ofPropertyName? (name : List Char) (value : Option (List Char)) : Option CharSet :=
  match value with
  | none =>
    let name := plainName name
    ((named? binaryProperties name).or (ofCategoryName? name)).or (ofScriptName? name)
  | some value => ofValueName? (plainName name) (plainName value)

end CharSet

end TopDown.Regex
