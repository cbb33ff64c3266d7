import DecompilerBridge.Json.Scan

/-!
# JSON values

JSON values and the reader of JSON texts.
-/

set_option autoImplicit false

namespace DecompilerBridge

/-- A JSON value. The members of an object are kept in order, with repetitions. -/
inductive Json where
  | null
  | bool (b : Bool)
  | number (x : Json.Literal)
  | string (s : String)
  | array (items : List Json)
  | object (members : List (String × Json))

namespace Json

mutual

/-- Read a value. The first argument bounds the nesting and the length together. -/
def scanValue : Nat → List Char → Except Fault (Json × List Char)
  | 0, _ => .error .ended
  | fuel + 1, cs =>
    match skipBlanks cs with
    | [] => .error .ended
    | '"' :: rest =>
      match scanString rest with
      | .ok (s, after) => .ok (.string s, after)
      | .error e => .error e
    | '[' :: rest =>
      match skipBlanks rest with
      | ']' :: after => .ok (.array [], after)
      | _ =>
        match scanItems fuel rest with
        | .ok (items, after) => .ok (.array items, after)
        | .error e => .error e
    | '\x7b' :: rest =>
      match skipBlanks rest with
      | '\x7d' :: after => .ok (.object [], after)
      | _ =>
        match scanMembers fuel rest with
        | .ok (members, after) => .ok (.object members, after)
        | .error e => .error e
    | 'n' :: rest =>
      match scanWord ['u', 'l', 'l'] rest with
      | .ok after => .ok (.null, after)
      | .error e => .error e
    | 't' :: rest =>
      match scanWord ['r', 'u', 'e'] rest with
      | .ok after => .ok (.bool true, after)
      | .error e => .error e
    | 'f' :: rest =>
      match scanWord ['a', 'l', 's', 'e'] rest with
      | .ok after => .ok (.bool false, after)
      | .error e => .error e
    | c :: rest =>
      match scanNumber (c :: rest) with
      | .ok (x, after) => .ok (.number x, after)
      | .error e => .error e

/-- Read the items of an array up to its closing bracket. -/
def scanItems : Nat → List Char → Except Fault (List Json × List Char)
  | 0, _ => .error .ended
  | fuel + 1, cs =>
    match scanValue fuel cs with
    | .error e => .error e
    | .ok (v, rest) =>
      match skipBlanks rest with
      | [] => .error .ended
      | ',' :: after =>
        match scanItems fuel after with
        | .ok (vs, last) => .ok (v :: vs, last)
        | .error e => .error e
      | ']' :: after => .ok ([v], after)
      | _ => .error .malformed

/-- Read the members of an object up to its closing brace. -/
def scanMembers : Nat → List Char → Except Fault (List (String × Json) × List Char)
  | 0, _ => .error .ended
  | fuel + 1, cs =>
    match skipBlanks cs with
    | [] => .error .ended
    | '"' :: rest =>
      match scanString rest with
      | .error e => .error e
      | .ok (key, afterKey) =>
        match skipBlanks afterKey with
        | [] => .error .ended
        | ':' :: afterColon =>
          match scanValue fuel afterColon with
          | .error e => .error e
          | .ok (v, afterValue) =>
            match skipBlanks afterValue with
            | [] => .error .ended
            | ',' :: after =>
              match scanMembers fuel after with
              | .ok (ms, last) => .ok ((key, v) :: ms, last)
              | .error e => .error e
            | '\x7d' :: after => .ok ([(key, v)], after)
            | _ => .error .malformed
        | _ => .error .malformed
    | _ => .error .malformed

end

/-- Read all of some characters as one JSON value. -/
def parseChars (cs : List Char) : Except Fault Json :=
  match scanValue (2 * cs.length + 2) cs with
  | .error e => .error e
  | .ok (v, rest) => if (skipBlanks rest).isEmpty then .ok v else .error .malformed

/-- Read a whole text as one JSON value. -/
def parse (text : String) : Except Fault Json := parseChars text.toList

end Json

end DecompilerBridge
