/-!
# Paths

Paths as texts, joined without being tidied up: `.`, `..` and repeated separators are kept.
-/

set_option autoImplicit false

namespace DecompilerBridge.Path

/-- Whether a path starts at the root. -/
def isAbsolute (path : String) : Bool := path.toList.head? == some '/'

/-- Join two paths. An absolute second part replaces the first; otherwise a separator goes between
them unless the first is empty or ends with one. -/
def join (base part : String) : String :=
  if isAbsolute part then part
  else if base.toList.isEmpty || base.toList.getLast? == some '/' then base ++ part
  else base ++ "/" ++ part

/-- The texts between the separators of a path, in order. -/
def components (path : String) : List String :=
  let rec cut : List Char → List Char × List (List Char)
    | [] => ([], [])
    | c :: cs =>
      if c = '/' then ([], (cut cs).1 :: (cut cs).2) else (c :: (cut cs).1, (cut cs).2)
  let parts := cut path.toList
  (parts.1 :: parts.2).map String.ofList

end DecompilerBridge.Path
