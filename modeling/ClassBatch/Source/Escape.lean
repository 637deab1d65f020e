/-!
Unicode escapes in Java sources: a backslash, one or more `u` and four hexadecimal digits stand
for one UTF-16 unit, unless the backslash is itself escaped. `unescape` replaces those that
denote characters and keeps everything else as it is written.
-/

namespace ClassBatch.Source

def hexDigit? (c : Char) : Option Nat :=
  if '0' ≤ c ∧ c ≤ '9' then some (c.toNat - 48)
  else if 'a' ≤ c ∧ c ≤ 'f' then some (c.toNat - 87)
  else if 'A' ≤ c ∧ c ≤ 'F' then some (c.toNat - 55)
  else none

def hexUnit? (a b c d : Char) : Option Nat := do
  let a ← hexDigit? a
  let b ← hexDigit? b
  let c ← hexDigit? c
  let d ← hexDigit? d
  return ((a * 16 + b) * 16 + c) * 16 + d

def splitMarks : List Char → List Char × List Char
  | 'u' :: rest => let (us, tail) := splitMarks rest; ('u' :: us, tail)
  | s => ([], s)

structure Escape where
  spelling : List Char
  unit : Nat
  rest : List Char

def readEscape? : List Char → Option Escape
  | '\x5c' :: s =>
    match splitMarks s with
    | ([], _) => none
    | (us, a :: b :: c :: d :: rest) =>
      (hexUnit? a b c d).map fun unit => ⟨'\x5c' :: (us ++ [a, b, c, d]), unit, rest⟩
    | _ => none
  | _ => none

def isHighSurrogate (unit : Nat) : Bool :=
  0xD800 ≤ unit && unit < 0xDC00

def isLowSurrogate (unit : Nat) : Bool :=
  0xDC00 ≤ unit && unit < 0xE000

def joinSurrogates (high low : Nat) : Nat :=
  0x10000 + (high - 0xD800) * 0x400 + (low - 0xDC00)

theorem splitMarks_append (s : List Char) : (splitMarks s).1 ++ (splitMarks s).2 = s := by
  fun_induction splitMarks s with
  | case1 rest us tail h ih => simp [h] at ih ⊢; exact ih
  | case2 => rfl

theorem readEscape?_append {s : List Char} {e : Escape} (h : readEscape? s = some e) :
    s = e.spelling ++ e.rest := by
  unfold readEscape? at h
  split at h
  · rename_i s
    have hs := splitMarks_append s
    split at h
    · simp at h
    · rename_i us a b c d rest _ hm
      rw [hm] at hs
      obtain ⟨unit, _, rfl⟩ := Option.map_eq_some_iff.1 h
      simp [← hs]
    · simp at h
  · simp at h

theorem readEscape?_spelling_length {s : List Char} {e : Escape} (h : readEscape? s = some e) :
    6 ≤ e.spelling.length := by
  unfold readEscape? at h
  split at h
  · split at h
    · simp at h
    · rename_i us a b c d rest hne hm
      obtain ⟨unit, _, rfl⟩ := Option.map_eq_some_iff.1 h
      cases us with
      | nil => exact (hne rfl).elim
      | cons u us => simp
    · simp at h
  · simp at h

theorem readEscape?_rest_length {s : List Char} {e : Escape} (h : readEscape? s = some e) :
    e.rest.length < s.length := by
  have h₁ := readEscape?_append h
  have h₂ := readEscape?_spelling_length h
  have := congrArg List.length h₁
  simp at this
  omega

/-- Decodes the escapes of a text from left to right, each at most once. -/
def decodeEscapes (s : List Char) : List Char :=
  match s with
  | [] => []
  | '\x5c' :: '\x5c' :: rest => '\x5c' :: '\x5c' :: decodeEscapes rest
  | c :: rest =>
    match _h : readEscape? (c :: rest) with
    | none => c :: decodeEscapes rest
    | some e =>
      if e.unit.isValidChar then
        Char.ofNat e.unit :: decodeEscapes e.rest
      else
        match _h' : readEscape? e.rest with
        | some e' =>
          if isHighSurrogate e.unit && isLowSurrogate e'.unit then
            Char.ofNat (joinSurrogates e.unit e'.unit) :: decodeEscapes e'.rest
          else e.spelling ++ decodeEscapes e.rest
        | none => e.spelling ++ decodeEscapes e.rest
termination_by s.length
decreasing_by
  · exact Nat.lt_of_lt_of_le (Nat.lt_succ_self _) (Nat.le_succ _)
  · exact Nat.lt_succ_self _
  · exact readEscape?_rest_length _h
  · exact Nat.lt_trans (readEscape?_rest_length _h') (readEscape?_rest_length _h)
  · exact readEscape?_rest_length _h
  · exact readEscape?_rest_length _h

def mentionsEscape : List Char → Bool
  | '\x5c' :: 'u' :: _ => true
  | _ :: rest => mentionsEscape rest
  | [] => false

def unescapeChars (s : List Char) : List Char :=
  if mentionsEscape s then decodeEscapes s else s

def unescape (text : String) : String :=
  String.ofList (unescapeChars text.toList)

end ClassBatch.Source
