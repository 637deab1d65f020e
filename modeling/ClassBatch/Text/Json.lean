/-! JSON texts, laid out over several lines with an indent of two blanks. -/

namespace ClassBatch.Text

inductive Json
  | null
  | number (n : Nat)
  | text (s : String)
  | list (items : List Json)
  | record (fields : List (String × Json))

namespace Json

def hexChar (n : Nat) : Char :=
  if n < 10 then Char.ofNat (48 + n) else Char.ofNat (87 + n)

def escape (c : Char) : List Char :=
  match c with
  | '\x22' => ['\x5c', '\x22']
  | '\x5c' => ['\x5c', '\x5c']
  | '\x08' => ['\x5c', 'b']
  | '\x09' => ['\x5c', 't']
  | '\x0a' => ['\x5c', 'n']
  | '\x0c' => ['\x5c', 'f']
  | '\x0d' => ['\x5c', 'r']
  | c =>
    if c.toNat < 0x20 then
      ['\x5c', 'u', '0', '0', hexChar (c.toNat / 16), hexChar (c.toNat % 16)]
    else [c]

def quote (s : String) : String :=
  "\x22" ++ String.ofList (s.toList.flatMap escape) ++ "\x22"

def margin (depth : Nat) : String :=
  String.ofList (List.replicate (2 * depth) ' ')

mutual

def render (depth : Nat) : Json → String
  | null => "null"
  | number n => toString n
  | text s => quote s
  | list [] => "[]"
  | list (item :: items) =>
    "[\n" ++ margin (depth + 1) ++ render (depth + 1) item ++ renderItems depth items ++
      "\n" ++ margin depth ++ "]"
  | record [] => "\x7b\x7d"
  | record ((key, value) :: fields) =>
    "\x7b\n" ++ margin (depth + 1) ++ quote key ++ ": " ++ render (depth + 1) value ++
      renderFields depth fields ++ "\n" ++ margin depth ++ "\x7d"

def renderItems (depth : Nat) : List Json → String
  | [] => ""
  | item :: items =>
    ",\n" ++ margin (depth + 1) ++ render (depth + 1) item ++ renderItems depth items

def renderFields (depth : Nat) : List (String × Json) → String
  | [] => ""
  | (key, value) :: fields =>
    ",\n" ++ margin (depth + 1) ++ quote key ++ ": " ++ render (depth + 1) value ++
      renderFields depth fields

end

def pretty (j : Json) : String :=
  render 0 j

end Json

end ClassBatch.Text
