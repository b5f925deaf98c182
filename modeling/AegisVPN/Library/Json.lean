import Mathlib.Data.List.Sort

namespace Library
set_option autoImplicit true

/-- A JSON value. A number with a fraction or an exponent is kept as it is written. -/
inductive Json
  | null
  | bool (b : Bool)
  | int (n : Int)
  | float (text : String)
  | str (s : String)
  | arr (values : List Json)
  | obj (fields : List (String × Json))

namespace Json

/-! ## Equality -/

mutual
def beq : Json → Json → Bool
  | .null, .null => true
  | .bool a, .bool b => a == b
  | .int m, .int n => m == n
  | .float s, .float t => s == t
  | .str s, .str t => s == t
  | .arr xs, .arr ys => beqValues xs ys
  | .obj fs, .obj gs => beqFields fs gs
  | _, _ => false

def beqValues : List Json → List Json → Bool
  | [], [] => true
  | x :: xs, y :: ys => beq x y && beqValues xs ys
  | _, _ => false

def beqFields : List (String × Json) → List (String × Json) → Bool
  | [], [] => true
  | (k, x) :: fs, (l, y) :: gs => k == l && beq x y && beqFields fs gs
  | _, _ => false
end

mutual
theorem eq_of_beq : ∀ {x y : Json}, beq x y = true → x = y
  | .null, .null, _ => rfl
  | .bool _, .bool _, h => by simpa [beq] using h
  | .int _, .int _, h => by simpa [beq] using h
  | .float _, .float _, h => by simpa [beq] using h
  | .str _, .str _, h => by simpa [beq] using h
  | .arr _, .arr _, h => by rw [beq] at h; exact congrArg Json.arr (eq_of_beqValues h)
  | .obj _, .obj _, h => by rw [beq] at h; exact congrArg Json.obj (eq_of_beqFields h)

theorem eq_of_beqValues : ∀ {xs ys : List Json}, beqValues xs ys = true → xs = ys
  | [], [], _ => rfl
  | x :: xs, y :: ys, h => by
    rw [beqValues, Bool.and_eq_true] at h
    rw [eq_of_beq h.1, eq_of_beqValues h.2]

theorem eq_of_beqFields : ∀ {fs gs : List (String × Json)}, beqFields fs gs = true → fs = gs
  | [], [], _ => rfl
  | (k, x) :: fs, (l, y) :: gs, h => by
    rw [beqFields, Bool.and_eq_true, Bool.and_eq_true, beq_iff_eq] at h
    rw [h.1.1, eq_of_beq h.1.2, eq_of_beqFields h.2]
end

mutual
theorem beq_self : ∀ x : Json, beq x x = true
  | .null => rfl
  | .bool _ => by simp [beq]
  | .int _ => by simp [beq]
  | .float _ => by simp [beq]
  | .str _ => by simp [beq]
  | .arr xs => by rw [beq]; exact beqValues_self xs
  | .obj fs => by rw [beq]; exact beqFields_self fs

theorem beqValues_self : ∀ xs : List Json, beqValues xs xs = true
  | [] => rfl
  | x :: xs => by rw [beqValues, beq_self x, beqValues_self xs, Bool.and_self]

theorem beqFields_self : ∀ fs : List (String × Json), beqFields fs fs = true
  | [] => rfl
  | (k, x) :: fs => by
    rw [beqFields, beq_self x, beqFields_self fs, Bool.and_true, Bool.and_true, beq_iff_eq]
end

instance : DecidableEq Json := fun x y =>
  decidable_of_iff (beq x y = true) ⟨eq_of_beq, fun h => h ▸ beq_self x⟩

/-! ## Canonical text -/

def hexDigit (n : Nat) : Char := if n < 10 then Char.ofNat (48 + n) else Char.ofNat (87 + n)

/-- Only what JSON requires is escaped. -/
def escape (c : Char) : List Char :=
  if c = '"' then ['\\', '"']
  else if c = '\\' then ['\\', '\\']
  else if c = '\n' then ['\\', 'n']
  else if c = '\r' then ['\\', 'r']
  else if c = '\t' then ['\\', 't']
  else if c.toNat = 8 then ['\\', 'b']
  else if c.toNat = 12 then ['\\', 'f']
  else if c.toNat < 32 then
    ['\\', 'u', '0', '0', hexDigit (c.toNat / 16), hexDigit (c.toNat % 16)]
  else [c]

def quote (s : String) : List Char := '"' :: s.toList.flatMap escape ++ ['"']

def separated (parts : List (List Char)) : List Char := parts.intersperse [','] |>.flatten

/-- The entries of an object in the order of their names. -/
def sortByName (fields : List (String × β)) : List (String × β) :=
  fields.insertionSort fun a b => a.1 ≤ b.1

mutual
def canonicalChars : Json → List Char
  | .null => "null".toList
  | .bool b => if b then "true".toList else "false".toList
  | .int n => (toString n).toList
  | .float text => text.toList
  | .str s => quote s
  | .arr values => '[' :: separated (canonicalValues values) ++ [']']
  | .obj fields =>
    '\x7b' :: separated ((sortByName (canonicalFields fields)).map Prod.snd) ++ ['\x7d']

def canonicalValues : List Json → List (List Char)
  | [] => []
  | value :: values => canonicalChars value :: canonicalValues values

def canonicalFields : List (String × Json) → List (String × List Char)
  | [] => []
  | (name, value) :: fields =>
    (name, quote name ++ ':' :: canonicalChars value) :: canonicalFields fields
end

/-- Sorted names, no blanks, and no escapes but those that are needed. -/
def canonical (value : Json) : String := String.ofList (canonicalChars value)

example : (obj [("b", arr [int 1, null]), ("a", str "x\n")]).canonical =
    "\x7b\"a\":\"x\\n\",\"b\":[1,null]\x7d" := by decide

/-! ## Python's view of a value -/

def truthy : Json → Bool
  | .null => false
  | .bool b => b
  | .int n => n != 0
  | .float text => text != "0.0" && text != "-0.0"
  | .str s => s != ""
  | .arr values => !values.isEmpty
  | .obj fields => !fields.isEmpty

/-- What `str` makes of a value; for a list or an object, its JSON text stands. -/
def display : Json → String
  | .null => "None"
  | .bool b => if b then "True" else "False"
  | .int n => toString n
  | .float text => text
  | .str s => s
  | .arr values => (arr values).canonical
  | .obj fields => (obj fields).canonical

/-! ## Reading -/

def get? (value : Json) (name : String) : Option Json :=
  match value with
  | .obj fields => fields.lookup name
  | _ => none

def text? : Json → Option String
  | .str s => some s
  | _ => none

def values? : Json → Option (List Json)
  | .arr values => some values
  | _ => none

def fields? : Json → Option (List (String × Json))
  | .obj fields => some fields
  | _ => none

/-- An integer of at least zero. `lax` is what becomes of a value that is not an integer. -/
def nat? (lax : Json → Option Int) (value : Json) : Option Nat :=
  let n := match value with
    | .int n => some n
    | _ => lax value
  n.bind fun n => if 0 ≤ n then some n.toNat else none

@[simp] theorem get?_cons_self (name : String) (value : Json) (fields : List (String × Json)) :
    (obj ((name, value) :: fields)).get? name = some value := by
  simp [get?]

@[simp] theorem text?_str (s : String) : (str s).text? = some s := rfl

@[simp] theorem values?_arr (values : List Json) : (arr values).values? = some values := rfl

@[simp] theorem fields?_obj (fields : List (String × Json)) :
    (obj fields).fields? = some fields := rfl

@[simp] theorem nat?_ofNat (lax : Json → Option Int) (n : Nat) :
    (int n).nat? lax = some n := by
  simp [nat?]

end Json

end Library
