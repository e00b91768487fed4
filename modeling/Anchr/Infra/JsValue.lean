import Anchr.Infra.JsonRoundtrip

/-!
# JavaScript values in `JSON.stringify`

What `JSON.stringify` makes of any value of the language, and what `JSON.parse` gives back.
-/

namespace Anchr.Infra

inductive Written where
  /-- `undefined`: nothing is written. -/
  | omitted
  | json (value : Json)
  | threw

def Written.value? : Written → Option Json
  | .json value => some value
  | _ => none

inductive JsValue where
  | undefined
  | null
  | bool (b : Bool)
  | num (n : JsNumber)
  | str (s : String)
  | bigint (n : Int)
  | symbol
  | function
  | arr (elems : List JsValue)
  /-- An object of own data members, none of them a `toJSON` method. -/
  | obj (members : List (String × JsValue))
  /-- An object that runs code when it is written (a `toJSON` method, a getter, a proxy), or that
  contains itself. -/
  | hosted (written : Written)

namespace JsValue

mutual

/-- `SerializeJSONProperty` of the language. -/
def written : JsValue → Written
  | .undefined | .symbol | .function => .omitted
  | .null => .json .null
  | .bool b => .json (.bool b)
  | .num n => .json (.num n)
  | .str s => .json (.str s)
  | .bigint _ => .threw
  | .arr elems =>
    match writtenElems elems with
    | some values => .json (.arr values)
    | none => .threw
  | .obj members =>
    match writtenMembers members with
    | some values => .json (.obj values)
    | none => .threw
  | .hosted w => w

def writtenElems : List JsValue → Option (List Json)
  | [] => some []
  | v :: vs =>
    match written v with
    | .omitted => (writtenElems vs).map (.null :: ·)
    | .json value => (writtenElems vs).map (value :: ·)
    | .threw => none

def writtenMembers : List (String × JsValue) → Option (List (String × Json))
  | [] => some []
  | (name, v) :: ms =>
    match written v with
    | .omitted => writtenMembers ms
    | .json value => (writtenMembers ms).map ((name, value) :: ·)
    | .threw => none

end

mutual

def ofJson : Json → JsValue
  | .null => .null
  | .bool b => .bool b
  | .num n => .num n
  | .str s => .str s
  | .arr elems => .arr (ofElems elems)
  | .obj members => .obj (ofMembers members)

def ofElems : List Json → List JsValue
  | [] => []
  | v :: vs => ofJson v :: ofElems vs

def ofMembers : List (String × Json) → List (String × JsValue)
  | [] => []
  | (name, v) :: ms => (name, ofJson v) :: ofMembers ms

end

mutual

@[simp] theorem written_ofJson : ∀ v : Json, (ofJson v).written = .json v
  | .null | .bool _ | .num _ | .str _ => rfl
  | .arr elems => by rw [ofJson, written, writtenElems_ofElems elems]
  | .obj members => by rw [ofJson, written, writtenMembers_ofMembers members]

theorem writtenElems_ofElems : ∀ vs : List Json, writtenElems (ofElems vs) = some vs
  | [] => rfl
  | v :: vs => by
    rw [ofElems, writtenElems, written_ofJson v, writtenElems_ofElems vs]
    rfl

theorem writtenMembers_ofMembers : ∀ ms : List (String × Json),
    writtenMembers (ofMembers ms) = some ms
  | [] => rfl
  | (name, v) :: ms => by
    rw [ofMembers, writtenMembers, written_ofJson v, writtenMembers_ofMembers ms]
    rfl

end

theorem writtenMembers_cons {name : String} {v : JsValue} {ms : List (String × JsValue)}
    (h : v.written ≠ .threw) :
    writtenMembers ((name, v) :: ms) =
      (writtenMembers ms).map (((v.written.value?.map fun value => (name, value)).toList) ++ ·) := by
  rw [writtenMembers]
  cases hv : v.written with
  | omitted =>
    show writtenMembers ms = (writtenMembers ms).map fun rest => [] ++ rest
    simp
  | json value => rfl
  | threw => exact absurd hv h

end JsValue

/-! ## Reading back -/

namespace Json

mutual

/-- The value the text stands for. -/
def readBack : Json → Json
  | .num (.fin q) => .num (.fin q)
  | .num _ => .null
  | .arr elems => .arr (readBackElems elems)
  | .obj members => .obj (readBackMembers members)
  | v => v

def readBackElems : List Json → List Json
  | [] => []
  | v :: vs => readBack v :: readBackElems vs

def readBackMembers : List (String × Json) → List (String × Json)
  | [] => []
  | (name, v) :: ms => (name, readBack v) :: readBackMembers ms

end

@[simp] theorem readBack_str (s : String) : (Json.str s).readBack = .str s := rfl

@[simp] theorem readBack_obj (members : List (String × Json)) :
    (Json.obj members).readBack = .obj (readBackMembers members) := rfl

variable {n : JsNumber}

theorem readBack_num (h : n.isFinite = true) : (Json.num n).readBack = .num n := by
  cases n with
  | fin q => rfl
  | _ => cases h

theorem readBack_num_null (h : n.isFinite = false) :
    (Json.num n).readBack = .null := by
  cases n with
  | fin q => cases h
  | _ => rfl

variable (T : NumberText)

mutual

/-- Every finite number in the value is a double. -/
def Numbers : Json → Prop
  | .num (.fin q) => T.double q
  | .arr elems => NumbersElems elems
  | .obj members => NumbersMembers members
  | _ => True

def NumbersElems : List Json → Prop
  | [] => True
  | v :: vs => Numbers v ∧ NumbersElems vs

def NumbersMembers : List (String × Json) → Prop
  | [] => True
  | (_, v) :: ms => Numbers v ∧ NumbersMembers ms

end

mutual

/-- The infinities and NaN are written as `null` is. -/
theorem render_readBack : ∀ v : Json, v.readBack.render T = v.render T
  | .null | .bool _ | .str _ => rfl
  | .num (.fin _) | .num .nan | .num .posInf | .num .negInf => rfl
  | .arr [] | .obj [] => rfl
  | .arr (v :: vs) => by
    rw [readBack, readBackElems, render, render, render_readBack v, renderElems_readBack vs]
  | .obj ((name, v) :: ms) => by
    rw [readBack, readBackMembers, render, render, render_readBack v, renderMembers_readBack ms]

theorem renderElems_readBack : ∀ vs : List Json,
    renderElems T (readBackElems vs) = renderElems T vs
  | [] => rfl
  | v :: vs => by
    rw [readBackElems, renderElems, renderElems, render_readBack v, renderElems_readBack vs]

theorem renderMembers_readBack : ∀ ms : List (String × Json),
    renderMembers T (readBackMembers ms) = renderMembers T ms
  | [] => rfl
  | (name, v) :: ms => by
    rw [readBackMembers, renderMembers, renderMembers, render_readBack v,
      renderMembers_readBack ms]

end

variable {T}

mutual

theorem doubles_readBack : ∀ {v : Json}, v.Numbers T → v.readBack.Doubles T
  | .null, _ | .bool _, _ | .str _, _ => trivial
  | .num (.fin _), h => h
  | .num .nan, _ | .num .posInf, _ | .num .negInf, _ => trivial
  | .arr elems, h => show DoublesElems T (readBackElems elems) from doublesElems_readBack h
  | .obj members, h =>
    show DoublesMembers T (readBackMembers members) from doublesMembers_readBack h

theorem doublesElems_readBack : ∀ {vs : List Json}, NumbersElems T vs →
    DoublesElems T (readBackElems vs)
  | [], _ => trivial
  | _ :: _, h => ⟨doubles_readBack h.1, doublesElems_readBack h.2⟩

theorem doublesMembers_readBack : ∀ {ms : List (String × Json)}, NumbersMembers T ms →
    DoublesMembers T (readBackMembers ms)
  | [], _ => trivial
  | _ :: _, h => ⟨doubles_readBack h.1, doublesMembers_readBack h.2⟩

end

theorem numbersMembers_iff : ∀ ms : List (String × Json),
    NumbersMembers T ms ↔ ∀ m ∈ ms, m.2.Numbers T
  | [] => by simp [NumbersMembers]
  | (name, v) :: ms => by simp [NumbersMembers, numbersMembers_iff ms]

mutual

theorem numbers_of_doubles : ∀ {v : Json}, v.Doubles T → v.Numbers T
  | .null, _ | .bool _, _ | .str _, _ => trivial
  | .num (.fin _), h => h
  | .arr elems, h => show NumbersElems T elems from numbersElems_of_doubles h
  | .obj members, h => show NumbersMembers T members from numbersMembers_of_doubles h

theorem numbersElems_of_doubles : ∀ {vs : List Json}, DoublesElems T vs → NumbersElems T vs
  | [], _ => trivial
  | _ :: _, h => ⟨numbers_of_doubles h.1, numbersElems_of_doubles h.2⟩

theorem numbersMembers_of_doubles : ∀ {ms : List (String × Json)}, DoublesMembers T ms →
    NumbersMembers T ms
  | [], _ => trivial
  | _ :: _, h => ⟨numbers_of_doubles h.1, numbersMembers_of_doubles h.2⟩

end

mutual

/-- Nothing is lost where every number is finite. -/
theorem readBack_of_doubles : ∀ {v : Json}, v.Doubles T → v.readBack = v
  | .null, _ | .bool _, _ | .str _, _ => rfl
  | .num (.fin _), _ => rfl
  | .arr elems, h => by
    have helems : DoublesElems T elems := h
    rw [readBack, readBackElems_of_doubles helems]
  | .obj members, h => by
    have hmembers : DoublesMembers T members := h
    rw [readBack, readBackMembers_of_doubles hmembers]

theorem readBackElems_of_doubles : ∀ {vs : List Json}, DoublesElems T vs → readBackElems vs = vs
  | [], _ => rfl
  | v :: vs, h => by rw [readBackElems, readBack_of_doubles h.1, readBackElems_of_doubles h.2]

theorem readBackMembers_of_doubles : ∀ {ms : List (String × Json)}, DoublesMembers T ms →
    readBackMembers ms = ms
  | [], _ => rfl
  | (name, v) :: ms, h => by
    rw [readBackMembers, readBack_of_doubles h.1, readBackMembers_of_doubles h.2]

end

theorem parse_stringify_readBack {v : Json} (hv : v.Numbers T) :
    parse T (v.stringify T) = some v.readBack := by
  have htext : v.stringify T = v.readBack.stringify T := by
    rw [stringify, stringify, render_readBack]
  rw [htext, parse_stringify (doubles_readBack hv)]

end Json

end Anchr.Infra
