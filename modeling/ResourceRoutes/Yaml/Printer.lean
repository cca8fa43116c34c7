import ResourceRoutes.Document
import ResourceRoutes.Yaml.Text
set_option autoImplicit false

namespace ResourceRoutes.Yaml

def flagText (value : Bool) : List Char := if value then "true".toList else "false".toList

mutual
def writeAt (column : Nat) : Document → List Char
  | .text content => Text.write column content.toList
  | .nat n => Nat.toDigits 10 n ++ ['\n']
  | .flag value => flagText value ++ ['\n']
  | .list [] => "[]\n".toList
  | .list (item :: rest) => '-' :: ' ' :: writeAt (column + 2) item ++ writeItems column rest
  | .record [] => "\x7b\x7d\n".toList
  | .record ((name, value) :: rest) =>
    Text.writeKey name.toList ++ ':' :: writeValue column value ++ writeFields column rest

-- What follows the colon of a key in column `column`. A list is not indented further than its key.
def writeValue (column : Nat) : Document → List Char
  | .text content => ' ' :: Text.write (column + 2) content.toList
  | .nat n => ' ' :: Nat.toDigits 10 n ++ ['\n']
  | .flag value => ' ' :: flagText value ++ ['\n']
  | .list [] => " []\n".toList
  | .list (item :: rest) => '\n' :: writeItems column (item :: rest)
  | .record [] => " \x7b\x7d\n".toList
  | .record (field :: rest) => '\n' :: writeFields (column + 2) (field :: rest)

def writeItems (column : Nat) : List Document → List Char
  | [] => []
  | item :: rest =>
    Text.spaces column ++ '-' :: ' ' :: writeAt (column + 2) item ++ writeItems column rest

def writeFields (column : Nat) : List (String × Document) → List Char
  | [] => []
  | (name, value) :: rest =>
    Text.spaces column ++ Text.writeKey name.toList ++ ':' :: writeValue column value
      ++ writeFields column rest
end

def write : Document → List Char
  | .text content => Text.write 2 content.toList
  | document => writeAt 0 document

def render (document : Document) : String := String.ofList (write document)

end ResourceRoutes.Yaml
