import SkipChecks.Json.Token

/-!
# JSON values

A value has one list of tokens, and a list of tokens is read as that value only. The reader keeps
the arrays and objects that are still open on a stack.
-/

namespace SkipChecks

/-- A JSON value. Members of objects stay in order and may repeat a key. -/
inductive Json
  | null
  | bool (value : Bool)
  | natural (value : Nat)
  | number
  | string (content : Option Text)
  | array (items : List Json)
  | object (members : List (Option Text × Json))

namespace Json

/-- An array or object that is open around a value being read. -/
inductive Frame
  | array (before : List Json)
  | object (before : List (Option Text × Json)) (key : Option Text)

/-- What may come next, and what is open around it. -/
inductive State
  /-- A value. -/
  | value (stack : List Frame)
  /-- The first item of an array, or its end. -/
  | firstItem (stack : List Frame)
  /-- The first key of an object, or its end. -/
  | firstKey (stack : List Frame)
  /-- A key behind a comma. -/
  | key (stack : List Frame) (before : List (Option Text × Json))
  | colon (stack : List Frame) (before : List (Option Text × Json)) (key : Option Text)
  /-- What may follow a value that is complete. -/
  | after (stack : List Frame) (value : Json)

/-- Reads the first token of a value. -/
def start (stack : List Frame) : Token → Option State
  | .openArray => some (.firstItem stack)
  | .openObject => some (.firstKey stack)
  | .null => some (.after stack null)
  | .bool b => some (.after stack (bool b))
  | .natural n => some (.after stack (natural n))
  | .number => some (.after stack number)
  | .string s => some (.after stack (string s))
  | _ => none

/-- Reads one token. -/
def step : State → Token → Option State
  | .value stack, token => start stack token
  | .firstItem stack, .closeArray => some (.after stack (array []))
  | .firstItem stack, token => start (.array [] :: stack) token
  | .firstKey stack, .closeObject => some (.after stack (object []))
  | .firstKey stack, .string key => some (.colon stack [] key)
  | .key stack before, .string key => some (.colon stack before key)
  | .colon stack before key, .colon => some (.value (.object before key :: stack))
  | .after (.array before :: stack) v, .comma => some (.value (.array (before ++ [v]) :: stack))
  | .after (.array before :: stack) v, .closeArray => some (.after stack (array (before ++ [v])))
  | .after (.object before key :: stack) v, .comma => some (.key stack (before ++ [(key, v)]))
  | .after (.object before key :: stack) v, .closeObject =>
    some (.after stack (object (before ++ [(key, v)])))
  | _, _ => none

/-- The value that a list of tokens stands for. -/
def ofTokens? (tokens : List Token) : Option Json :=
  match tokens.foldlM step (.value []) with
  | some (.after [] v) => some v
  | _ => none

def ofText? (s : Text) : Option Json := (Token.ofText? s).bind ofTokens?

/-- What the members with a key say: `absent` without one, what `read?` makes of the value of the
only one, and nothing with several. -/
def field? {α : Type} (members : List (Option Text × Json)) (key : Text) (absent : α)
    (read? : Json → Option α) : Option α :=
  match members.filter (·.1 == some key) with
  | [] => some absent
  | [(_, v)] => read? v
  | _ => none

/-- The members of an object, if each key stands for a text. -/
def members? : Json → Option (List (Option Text × Json))
  | object members => if members.all (·.1.isSome) then some members else none
  | _ => none

def text? : Json → Option Text
  | string content => content
  | _ => none

/-- The text of a string, or none for null. -/
def textOrNull? : Json → Option (Option Text)
  | null => some none
  | string (some s) => some (some s)
  | _ => none

/-- The number of a natural that fits into 64 bits. -/
def word? : Json → Option UInt64
  | natural n => if n < Nat.pow 2 64 then some (UInt64.ofNat n) else none
  | _ => none

def texts? : Json → Option (List Text)
  | array items => items.mapM text?
  | _ => none

/-- How a string writes a character. -/
def escapeChar (c : Char) : Text :=
  match c with
  | '"' => ['\\', '"']
  | '\\' => ['\\', '\\']
  | '\x08' => ['\\', 'b']
  | '\x0c' => ['\\', 'f']
  | '\n' => ['\\', 'n']
  | '\r' => ['\\', 'r']
  | '\t' => ['\\', 't']
  | c =>
    if c < ' ' then
      ['\\', 'u', '0', '0', Nat.digitChar (c.toNat / 16), Nat.digitChar (c.toNat % 16)]
    else [c]

/-- The string that stands for a text. -/
def quote (s : Text) : Text := '"' :: s.flatMap escapeChar ++ ['"']

end Json

end SkipChecks
