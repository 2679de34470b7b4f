/-!
# JSON values and their printed form

`Value` is the tree of a JSON text. Numbers are kept exactly, as a significand and a decimal
exponent. `Value.pretty` is the indented form: each member and each entry on a line of its
own, two spaces for each level, empty objects and arrays in one piece.
-/

namespace SchemaDiagram.Json

mutual
/-- **JSON value.** -/
inductive Value where
  | null
  | bool (value : Bool)
  /-- The number `significand * 10 ^ exponent`. -/
  | number (significand : Int) (exponent : Int)
  | string (text : String)
  | array (entries : Values)
  | object (members : ObjectMembers)

/-- The entries of an array. -/
inductive Values where
  | nil
  | cons (head : Value) (tail : Values)

/-- The members of an object, in order. -/
inductive ObjectMembers where
  | nil
  | cons (name : String) (value : Value) (tail : ObjectMembers)
end

/-- The entries of a list. -/
def Values.ofList : List Value → Values
  | [] => nil
  | v :: vs => cons v (ofList vs)

/-- The members of a list of names with values. -/
def ObjectMembers.ofList : List (String × Value) → ObjectMembers
  | [] => nil
  | (name, v) :: rest => cons name v (ofList rest)

/-- An array of these entries. -/
def Value.ofList (entries : List Value) : Value := .array (.ofList entries)

/-- An object of these members. -/
def Value.ofMembers (members : List (String × Value)) : Value := .object (.ofList members)

/-- A natural number. -/
def Value.ofNat (n : Nat) : Value := .number n 0

/-! ### Strings -/

/-- The four hexadecimal digits of a number below `0x10000`. -/
def hexDigits4 (n : Nat) : List Char :=
  [n / 0x1000 % 16, n / 0x100 % 16, n / 0x10 % 16, n % 16].map Nat.digitChar

/-- A character as it stands in a JSON string: quotes, backslashes and control characters are
escaped, all others stand for themselves. -/
def encodeChar (c : Char) : List Char :=
  if c = '"' then ['\\', '"']
  else if c = '\\' then ['\\', '\\']
  else if c = '\x08' then ['\\', 'b']
  else if c = '\x0c' then ['\\', 'f']
  else if c = '\n' then ['\\', 'n']
  else if c = '\r' then ['\\', 'r']
  else if c = '\t' then ['\\', 't']
  else if c.toNat < 0x20 then '\\' :: 'u' :: hexDigits4 c.toNat
  else [c]

/-- A text as a JSON string with its quotes. -/
def encodeString (s : String) : List Char := '"' :: s.toList.flatMap encodeChar ++ ['"']

/-! ### The indented form -/

/-- A line feed and the indentation of this level. -/
def newline (level : Nat) : List Char := '\n' :: List.replicate (2 * level) ' '

/-- A number, with an exponent unless it is zero. -/
def encodeNumber (significand exponent : Int) : List Char :=
  (toString significand).toList ++
    if exponent = 0 then [] else 'e' :: (toString exponent).toList

mutual
/-- A value in indented form, where its lines after the first one stand at this level. -/
def Value.write (level : Nat) : Value → List Char
  | .null => ['n', 'u', 'l', 'l']
  | .bool true => ['t', 'r', 'u', 'e']
  | .bool false => ['f', 'a', 'l', 's', 'e']
  | .number significand exponent => encodeNumber significand exponent
  | .string text => encodeString text
  | .array .nil => ['[', ']']
  | .array (.cons v vs) =>
    '[' :: (newline (level + 1) ++ v.write (level + 1) ++ vs.writeRest (level + 1) ++
      newline level ++ [']'])
  | .object .nil => ['\x7b', '\x7d']
  | .object (.cons name v rest) =>
    '\x7b' :: (newline (level + 1) ++ encodeString name ++ [':', ' '] ++ v.write (level + 1) ++
      rest.writeRest (level + 1) ++ newline level ++ ['\x7d'])

/-- The entries after the first one. -/
def Values.writeRest (level : Nat) : Values → List Char
  | .nil => []
  | .cons v vs => ',' :: (newline level ++ v.write level ++ vs.writeRest level)

/-- The members after the first one. -/
def ObjectMembers.writeRest (level : Nat) : ObjectMembers → List Char
  | .nil => []
  | .cons name v rest =>
    ',' :: (newline level ++ encodeString name ++ [':', ' '] ++ v.write level ++
      rest.writeRest level)
end

/-- **The indented form** of a value. -/
def Value.pretty (value : Value) : String := String.ofList (value.write 0)

end SchemaDiagram.Json
