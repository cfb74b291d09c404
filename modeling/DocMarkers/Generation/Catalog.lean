import DocMarkers.Text.Basic

set_option autoImplicit false

namespace DocMarkers

structure ModelInfo where
  key : Text
  id : Text
  name : Text
  quality : Text
  description : Text

namespace ModelInfo

def small : ModelInfo where
  key := "small".toList
  id := "gpt-4o-mini".toList
  name := "GPT-4o mini".toList
  quality := "good".toList
  description := "Fast, inexpensive model for simple tasks".toList

def base : ModelInfo where
  key := "base".toList
  id := "gpt-4.1-mini".toList
  name := "GPT-4.1 mini".toList
  quality := "better".toList
  description := "Balanced model for most use cases".toList

def large : ModelInfo where
  key := "large".toList
  id := "gpt-4o".toList
  name := "GPT-4o".toList
  quality := "best".toList
  description := "Highest quality, slower and more expensive".toList

def catalog : List ModelInfo := [small, base, large]

def keys : List Text := catalog.map ModelInfo.key

def find? (key : Text) : Option ModelInfo := catalog.find? fun info => info.key == key

def resolve (name : Text) : Text := (find? name).elim name ModelInfo.id

def toFields (info : ModelInfo) : List (Text × Text) :=
  [("id".toList, info.id), ("name".toList, info.name), ("quality".toList, info.quality),
    ("description".toList, info.description)]

end ModelInfo

end DocMarkers
