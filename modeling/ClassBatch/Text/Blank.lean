/-! White space in the sense of Unicode, and cutting texts at their ends. -/

namespace ClassBatch.Text

def isBlank (c : Char) : Bool :=
  let n := c.toNat
  (9 ≤ n && n ≤ 13) || n == 0x20 || n == 0x85 || n == 0xA0 || n == 0x1680 ||
    (0x2000 ≤ n && n ≤ 0x200A) || n == 0x2028 || n == 0x2029 || n == 0x202F ||
    n == 0x205F || n == 0x3000

def trimEnd (p : Char → Bool) (s : List Char) : List Char :=
  (s.reverse.dropWhile p).reverse

def trimBoth (p : Char → Bool) (s : List Char) : List Char :=
  trimEnd p (s.dropWhile p)

def beforeEnding? (ending s : List Char) : Option (List Char) :=
  if ending.isSuffixOf s then some (s.take (s.length - ending.length)) else none

def afterStart? : List Char → List Char → Option (List Char)
  | [], s => some s
  | _ :: _, [] => none
  | p :: ps, c :: cs => if p = c then afterStart? ps cs else none

def splitAll (p : Char → Bool) : List Char → List (List Char)
  | [] => [[]]
  | c :: cs =>
    match splitAll p cs with
    | [] => [[]]
    | part :: parts => if p c then [] :: part :: parts else (c :: part) :: parts

def trim (s : String) : String :=
  String.ofList (trimBoth isBlank s.toList)

theorem afterStart?_eq_some {start s rest : List Char} (h : afterStart? start s = some rest) :
    s = start ++ rest := by
  induction start generalizing s with
  | nil => simpa [afterStart?] using h
  | cons p ps ih =>
    cases s with
    | nil => simp [afterStart?] at h
    | cons c cs =>
      by_cases hc : p = c
      · simp only [afterStart?, hc, if_true] at h
        simp [hc, ih h]
      · simp [afterStart?, hc] at h

theorem splitAll_ne_nil (p : Char → Bool) (s : List Char) : splitAll p s ≠ [] := by
  cases s with
  | nil => simp [splitAll]
  | cons c cs =>
    simp only [splitAll]
    split
    · simp
    · split <;> simp

end ClassBatch.Text
