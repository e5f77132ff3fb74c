import PropertyLint.TypeTable.Basic

/-! The core library classes. -/

namespace PropertyLint

open TypeTemplate (param simple generic)

/-- A class declaration before its names are interned. -/
structure ClassHeader where
  name : String
  params : List String := []
  supertypes : List TypeTemplate := []

/-- The core library classes in declaration order. -/
def builtinClasses : List ClassHeader :=
  [ { name := "Comparable", params := ["T"] },
    { name := "CharSequence" },
    { name := "Number" },
    { name := "Unit" },
    { name := "String",
      supertypes := [generic "Comparable" [simple "String"], simple "CharSequence"] },
    { name := "Int", supertypes := [simple "Number", generic "Comparable" [simple "Int"]] },
    { name := "Long", supertypes := [simple "Number", generic "Comparable" [simple "Long"]] },
    { name := "Double", supertypes := [simple "Number", generic "Comparable" [simple "Double"]] },
    { name := "Boolean", supertypes := [generic "Comparable" [simple "Boolean"]] },
    { name := "Iterable", params := ["T"] },
    { name := "Collection", params := ["E"], supertypes := [generic "Iterable" [param 0]] },
    { name := "List", params := ["E"], supertypes := [generic "Collection" [param 0]] },
    { name := "Set", params := ["E"], supertypes := [generic "Collection" [param 0]] },
    { name := "MutableIterable", params := ["T"], supertypes := [generic "Iterable" [param 0]] },
    { name := "MutableCollection", params := ["E"],
      supertypes := [generic "Collection" [param 0], generic "MutableIterable" [param 0]] },
    { name := "MutableList", params := ["E"],
      supertypes := [generic "List" [param 0], generic "MutableCollection" [param 0]] },
    { name := "RandomAccess" },
    { name := "ArrayList", params := ["E"],
      supertypes := [generic "MutableList" [param 0], simple "RandomAccess"] },
    { name := "Map", params := ["K", "V"] },
    { name := "MutableMap", params := ["K", "V"],
      supertypes := [generic "Map" [param 0, param 1]] },
    { name := "HashMap", params := ["K", "V"],
      supertypes := [generic "MutableMap" [param 0, param 1]] } ]

/-- A table that knows the root class and the core library classes. -/
def TypeTable.withBuiltins : TypeTable :=
  builtinClasses.foldl
    (fun table header => table.declareClass header.name header.params header.supertypes)
    .empty

end PropertyLint
