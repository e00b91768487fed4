import Anchr.Infra.JsNumber

/-!
# JSON values and their text

`JSON.stringify` and `JSON.parse` of the language, on values without `undefined` members
(`stringify` drops those before anything is written). Text is a list of characters.
-/

namespace Anchr.Infra

/-- An object keeps its members in the order of the text. A repeated name is read as the last member
of that name, which is what `JSON.parse` leaves in the object. -/
inductive Json where
  | null
  | bool (b : Bool)
  | num (n : JsNumber)
  | str (s : String)
  | arr (elems : List Json)
  | obj (members : List (String × Json))

namespace Json

/-- `value[name]` on a parsed value; `none` is `undefined`. -/
def get? (j : Json) (name : String) : Option Json :=
  match j with
  | .obj members => (members.reverse.find? fun m => m.1 == name).map Prod.snd
  | _ => none

/-- The own property `name` of a value. An array has its length and its indices. -/
def ownProperty (T : NumberText) (name : String) : Json → Option Json
  | .obj members => (obj members).get? name
  | .arr elems =>
    if name = "length" then some (.num (.ofInt elems.length))
    else (elems.zipIdx.find? fun e => T.toString (.ofInt e.2) == name).map Prod.fst
  | _ => none

/-- `typeof value === "object" && value !== null`. Arrays are objects too. -/
def isObject : Json → Bool
  | .arr _ | .obj _ => true
  | _ => false

/-- Boolean coercion. -/
def truthy : Json → Bool
  | .null => false
  | .bool b => b
  | .num n => n.truthy
  | .str s => decide (s ≠ "")
  | .arr _ | .obj _ => true

/-- `typeof value === "string"`. -/
def asString? : Json → Option String
  | .str s => some s
  | _ => none

/-- `value[name]` when it is a string. -/
def string? (j : Json) (name : String) : Option String := (j.get? name).bind asString?

/-- `value[name]` when it is a number. -/
def number? (j : Json) (name : String) : Option JsNumber :=
  match j.get? name with
  | some (.num n) => some n
  | _ => none

/-- `value[name] === n` for a number literal `n`. -/
def hasNumber (j : Json) (name : String) (n : JsNumber) : Bool :=
  match j.get? name with
  | some (.num m) => m.strictEq n
  | _ => false

/-! ## Writing -/

def hexDigit (n : Nat) : Char := Char.ofNat (if n < 10 then 0x30 + n else 0x61 + n - 10)

def quoteChar (c : Char) : List Char :=
  if c == '"' then ['\\', '"']
  else if c == '\\' then ['\\', '\\']
  else if c.toNat < 0x20 then
    if c.toNat = 0x08 then ['\\', 'b']
    else if c.toNat = 0x09 then ['\\', 't']
    else if c.toNat = 0x0A then ['\\', 'n']
    else if c.toNat = 0x0C then ['\\', 'f']
    else if c.toNat = 0x0D then ['\\', 'r']
    else ['\\', 'u', '0', '0', hexDigit (c.toNat / 16), hexDigit (c.toNat % 16)]
  else [c]

def quote (l : List Char) : List Char := '"' :: l.flatMap quoteChar ++ ['"']

variable (T : NumberText)

/-- NaN and the infinities are written as `null`. -/
def numberChars : JsNumber → List Char
  | .fin q => T.render q
  | _ => ['n', 'u', 'l', 'l']

mutual

def render : Json → List Char
  | .null => ['n', 'u', 'l', 'l']
  | .bool true => ['t', 'r', 'u', 'e']
  | .bool false => ['f', 'a', 'l', 's', 'e']
  | .num n => numberChars T n
  | .str s => quote s.toList
  | .arr [] => ['[', ']']
  | .arr (v :: vs) => '[' :: (render v ++ renderElems vs)
  | .obj [] => ['{', '}']
  | .obj ((k, v) :: ms) => '{' :: (quote k.toList ++ ':' :: (render v ++ renderMembers ms))

/-- The elements after the first, with the closing bracket. -/
def renderElems : List Json → List Char
  | [] => [']']
  | v :: vs => ',' :: (render v ++ renderElems vs)

/-- The members after the first, with the closing brace. -/
def renderMembers : List (String × Json) → List Char
  | [] => ['}']
  | (k, v) :: ms => ',' :: (quote k.toList ++ ':' :: (render v ++ renderMembers ms))

end

def stringify (j : Json) : String := String.ofList (j.render T)

/-! ## Reading -/

def isWs (c : Char) : Bool := c == ' ' || c == '\t' || c == '\n' || c == '\r'

def skipWs (l : List Char) : List Char := l.dropWhile isWs

def hexValue (c : Char) : Option Nat :=
  let n := c.toNat
  if 0x30 ≤ n && n ≤ 0x39 then some (n - 0x30)
  else if 0x61 ≤ n && n ≤ 0x66 then some (n - 0x61 + 10)
  else if 0x41 ≤ n && n ≤ 0x46 then some (n - 0x41 + 10)
  else none

def hex4 : List Char → Option (Nat × List Char)
  | a :: b :: c :: d :: r => do
    let a ← hexValue a
    let b ← hexValue b
    let c ← hexValue c
    let d ← hexValue d
    some (((a * 16 + b) * 16 + c) * 16 + d, r)
  | _ => none

/-- The low half of a surrogate pair, if one follows. -/
def lowSurrogate (r : List Char) : Option (Nat × List Char) :=
  match r with
  | b :: u :: t =>
    if b == '\\' && u == 'u' then
      match hex4 t with
      | some (lo, t') => if 0xDC00 ≤ lo && lo < 0xE000 then some (lo, t') else none
      | none => none
    else none
  | _ => none

/-- What follows `\u`. -/
def readUnicode (r : List Char) : Option (Char × List Char) :=
  match hex4 r with
  | none => none
  | some (n, t) =>
    if 0xD800 ≤ n && n < 0xDC00 then
      match lowSurrogate t with
      | some (lo, t') => some (Char.ofNat (0x10000 + (n - 0xD800) * 0x400 + (lo - 0xDC00)), t')
      | none => some ('�', t)
    else if 0xDC00 ≤ n && n < 0xE000 then some ('�', t)
    else some (Char.ofNat n, t)

/-- The character a one-letter escape stands for. -/
def escapeChar (e : Char) : Option Char :=
  if e == '"' then some '"'
  else if e == '\\' then some '\\'
  else if e == '/' then some '/'
  else if e == 'b' then some (Char.ofNat 0x08)
  else if e == 'f' then some (Char.ofNat 0x0C)
  else if e == 'n' then some (Char.ofNat 0x0A)
  else if e == 'r' then some (Char.ofNat 0x0D)
  else if e == 't' then some (Char.ofNat 0x09)
  else none

/-- One character of a string literal, escaped or not. -/
def readChar (c : Char) (r : List Char) : Option (Char × List Char) :=
  if c == '\\' then
    match r with
    | [] => none
    | e :: t => if e == 'u' then readUnicode t else (escapeChar e).map fun d => (d, t)
  else if c.toNat < 0x20 then none
  else some (c, r)

/-- The rest of a string literal, up to its closing quote. -/
def readChars : Nat → List Char → Option (List Char × List Char)
  | 0, _ => none
  | _ + 1, [] => none
  | fuel + 1, c :: r =>
    if c == '"' then some ([], r)
    else
      match readChar c r with
      | none => none
      | some (d, t) => (readChars fuel t).map fun p => (d :: p.1, p.2)

def readString (r : List Char) : Option (String × List Char) :=
  (readChars (r.length + 1) r).map fun p => (String.ofList p.1, p.2)

def readNumber (l : List Char) : Option (Json × List Char) :=
  let token := l.takeWhile isNumberChar
  if isNumberToken token then some (.num (T.read token), l.dropWhile isNumberChar) else none

/-- `name :` before a member's value. -/
def readName : List Char → Option (String × List Char)
  | [] => none
  | c :: r =>
    if c == '"' then
      match readString r with
      | none => none
      | some (k, t) =>
        match skipWs t with
        | [] => none
        | d :: u => if d == ':' then some (k, skipWs u) else none
    else none

/-- A literal name: `null`, `true`, `false`. -/
def readWord (w : List Char) (j : Json) (l : List Char) : Option (Json × List Char) :=
  if w.isPrefixOf l then some (j, l.drop w.length) else none

mutual

/-- One value, starting at its first character. -/
def readValue : Nat → List Char → Option (Json × List Char)
  | 0, _ => none
  | _ + 1, [] => none
  | fuel + 1, c :: r =>
    if c == '"' then (readString r).map fun p => (.str p.1, p.2)
    else if c == '[' then
      match skipWs r with
      | [] => none
      | d :: t =>
        if d == ']' then some (.arr [], t)
        else (readElems fuel (d :: t)).map fun p => (.arr p.1, p.2)
    else if c == '{' then
      match skipWs r with
      | [] => none
      | d :: t =>
        if d == '}' then some (.obj [], t)
        else (readMembers fuel (d :: t)).map fun p => (.obj p.1, p.2)
    else if c == 'n' then readWord ['n', 'u', 'l', 'l'] .null (c :: r)
    else if c == 't' then readWord ['t', 'r', 'u', 'e'] (.bool true) (c :: r)
    else if c == 'f' then readWord ['f', 'a', 'l', 's', 'e'] (.bool false) (c :: r)
    else readNumber T (c :: r)

/-- Elements of an array that is not empty, with the closing bracket. -/
def readElems : Nat → List Char → Option (List Json × List Char)
  | 0, _ => none
  | fuel + 1, l =>
    match readValue fuel l with
    | none => none
    | some (v, r) =>
      match skipWs r with
      | [] => none
      | d :: t =>
        if d == ',' then (readElems fuel (skipWs t)).map fun p => (v :: p.1, p.2)
        else if d == ']' then some ([v], t)
        else none

/-- Members of an object that is not empty, with the closing brace. -/
def readMembers : Nat → List Char → Option (List (String × Json) × List Char)
  | 0, _ => none
  | fuel + 1, l =>
    match readName l with
    | none => none
    | some (k, u) =>
      match readValue fuel u with
      | none => none
      | some (v, r) =>
        match skipWs r with
        | [] => none
        | d :: t =>
          if d == ',' then (readMembers fuel (skipWs t)).map fun p => ((k, v) :: p.1, p.2)
          else if d == '}' then some ([(k, v)], t)
          else none

end

/-- `JSON.parse`; `none` is a thrown `SyntaxError`. -/
def parseChars (l : List Char) : Option Json :=
  match readValue T (l.length + 1) (skipWs l) with
  | none => none
  | some (j, r) => if (skipWs r).isEmpty then some j else none

/-- One unit of fuel for each character is enough, and the top level supplies that. -/
def parse (s : String) : Option Json := parseChars T s.toList

end Json

/-! ## As text -/

mutual

/-- `String(value)`; `none` when it throws. A member `toString` hides the method of that name, and a
parsed value holds no function. -/
def stringOf (T : NumberText) : Json → Option String
  | .null => some "null"
  | .bool true => some "true"
  | .bool false => some "false"
  | .num n => some (T.toString n)
  | .str s => some s
  | .arr elems => (stringsOf T elems).map ",".intercalate
  | .obj members =>
    if ((Json.obj members).get? "toString").isSome then none else some "[object Object]"

/-- The elements of an array, as `join` writes them: `null` is empty. -/
def stringsOf (T : NumberText) : List Json → Option (List String)
  | [] => some []
  | .null :: rest => (stringsOf T rest).map ("" :: ·)
  | elem :: rest => (stringOf T elem).bind fun s => (stringsOf T rest).map (s :: ·)

end

end Anchr.Infra
