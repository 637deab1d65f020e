import ClassBatch.Source.Escape
import ClassBatch.Text.Utf8

/-!
The decoding of escapes on bytes. Texts are cut at offsets, which is a fault outside of a text or
inside a character, and the arithmetic on code points is a fault where it leaves its words.
-/

namespace ClassBatch.Source.Scan

open Text (Bytes)

inductive Fault
  | cut (start stop : Nat)
  | underflow
  | overflow
deriving DecidableEq, Repr

def isContinuation (b : UInt8) : Bool :=
  0x80 ≤ b && b < 0xC0

def isBoundary (s : Bytes) (i : Nat) : Bool :=
  i == 0 || match s[i]? with
    | some b => !isContinuation b
    | none => i == s.length

def slice? (s : Bytes) (start stop : Nat) : Option Bytes :=
  if start ≤ stop ∧ isBoundary s start ∧ isBoundary s stop then some ((s.take stop).drop start)
  else none

def slice (s : Bytes) (start stop : Nat) : Except Fault Bytes :=
  match slice? s start stop with
  | some part => .ok part
  | none => .error (.cut start stop)

def sliceFrom (s : Bytes) (start : Nat) : Except Fault Bytes :=
  slice s start s.length

def digit? (b : UInt8) : Option Nat :=
  hexDigit? (Char.ofNat b.toNat)

def readUnit? (digits : Bytes) : Option Nat :=
  if digits.isEmpty then none
  else digits.foldlM (fun unit b => do
    let unit := unit * 16 + (← digit? b)
    if unit < 0x10000 then some unit else none) 0

def parseEscape? : Bytes → Option (Nat × Nat)
  | 0x5C :: rest =>
    let marks := (rest.takeWhile (· == 0x75)).length
    if marks = 0 then none
    else do
      let digits ← slice? rest marks (marks + 4)
      if !digits.all fun b => (digit? b).isSome then none
      else return (← readUnit? digits, 1 + marks + 4)
  | _ => none

def sub (a b : Nat) : Except Fault Nat :=
  if b ≤ a then .ok (a - b) else .error .underflow

def add (a b : Nat) : Except Fault Nat :=
  if a + b < 0x100000000 then .ok (a + b) else .error .overflow

def codePoint (high low : Nat) : Except Fault Nat := do
  let upper ← sub high 0xD800
  let base ← add 0x10000 ((upper <<< 10) % 0x100000000)
  let lower ← sub low 0xDC00
  add base lower

def charBytes? (code : Nat) : Option Bytes :=
  if code.isValidChar then some (String.utf8EncodeChar (Char.ofNat code)) else none

def pair? (tail : Bytes) (unit len : Nat) : Except Fault (Option (Bytes × Nat)) :=
  if isHighSurrogate unit then do
    match parseEscape? (← sliceFrom tail len) with
    | none => return none
    | some (low, lowLen) =>
      if isLowSurrogate low then
        return (charBytes? (← codePoint unit low)).map fun bytes => (bytes, len + lowLen)
      else return none
  else return none

def turn (tail : Bytes) : Except Fault (Bytes × Bytes) := do
  if (← sliceFrom tail 1).head? = some 0x5C then
    return ([0x5C, 0x5C], ← sliceFrom tail 2)
  else match parseEscape? tail with
    | none => return ([0x5C], ← sliceFrom tail 1)
    | some (unit, len) =>
      match charBytes? unit with
      | some bytes => return (bytes, ← sliceFrom tail len)
      | none =>
        match ← pair? tail unit len with
        | some (bytes, both) => return (bytes, ← sliceFrom tail both)
        | none => return (← slice tail 0 len, ← sliceFrom tail len)

inductive Round
  | finished (out : Bytes)
  | again (out rest : Bytes)
deriving DecidableEq, Repr

def round (out rest : Bytes) : Except Fault Round :=
  match rest.findIdx? (· == 0x5C) with
  | none => return .finished (out ++ rest)
  | some pos => do
    let before ← slice rest 0 pos
    let (bytes, rest) ← turn (← sliceFrom rest pos)
    return .again (out ++ before ++ bytes) rest

theorem le_of_isBoundary {s : Bytes} {i : Nat} (h : isBoundary s i = true) : i ≤ s.length := by
  simp only [isBoundary, Bool.or_eq_true, beq_iff_eq] at h
  rcases h with rfl | h
  · exact Nat.zero_le _
  · split at h
    · rename_i hb
      exact Nat.le_of_lt (List.getElem?_eq_some_iff.mp hb).1
    · exact Nat.le_of_eq (beq_iff_eq.mp h)

theorem slice?_eq_some {s part : Bytes} {start stop : Nat} (h : slice? s start stop = some part) :
    start ≤ stop ∧ stop ≤ s.length ∧ part = (s.take stop).drop start := by
  unfold slice? at h
  split at h
  · rename_i hcut
    exact ⟨hcut.1, le_of_isBoundary hcut.2.2, (Option.some.inj h).symm⟩
  · cases h

theorem slice_eq_ok {s part : Bytes} {start stop : Nat} (h : slice s start stop = .ok part) :
    start ≤ stop ∧ stop ≤ s.length ∧ part = (s.take stop).drop start := by
  unfold slice at h
  split at h
  · rename_i hpart
    cases h
    exact slice?_eq_some hpart
  · cases h

theorem sliceFrom_length {s part : Bytes} {start : Nat} (h : sliceFrom s start = .ok part) :
    part.length + start = s.length := by
  obtain ⟨hstart, -, rfl⟩ := slice_eq_ok h
  simp
  omega

theorem bind_eq_ok {α β : Type} {x : Except Fault α} {f : α → Except Fault β} {b : β}
    (h : x >>= f = .ok b) : ∃ a, x = .ok a ∧ f a = .ok b := by
  cases x with
  | error e => cases h
  | ok a => exact ⟨a, rfl, h⟩

theorem parseEscape?_pos {s : Bytes} {unit len : Nat} (h : parseEscape? s = some (unit, len)) :
    0 < len := by
  unfold parseEscape? at h
  split at h
  · dsimp only at h
    split at h
    · cases h
    · simp only [Option.bind_eq_bind, Option.bind_eq_some_iff] at h
      obtain ⟨digits, -, h⟩ := h
      split at h
      · cases h
      · obtain ⟨unit', -, h⟩ := Option.bind_eq_some_iff.mp h
        cases h
        omega
  · cases h

theorem pair?_pos {tail bytes : Bytes} {unit len both : Nat} (hlen : 0 < len)
    (h : pair? tail unit len = .ok (some (bytes, both))) : 0 < both := by
  unfold pair? at h
  split at h
  · obtain ⟨after, -, h⟩ := bind_eq_ok h
    split at h
    · cases h
    · split at h
      · obtain ⟨code, -, h⟩ := bind_eq_ok h
        obtain ⟨put, -, hboth⟩ := Option.map_eq_some_iff.mp (Except.ok.inj h)
        cases hboth
        omega
      · cases h
  · cases h

theorem turn_length {tail bytes rest : Bytes} (h : turn tail = .ok (bytes, rest)) :
    rest.length < tail.length := by
  have hrest : ∀ {put : Bytes} {start : Nat}, 0 < start →
      (sliceFrom tail start >>= fun part => pure (put, part)) = .ok (bytes, rest) →
      rest.length < tail.length := by
    intro put start hstart h
    obtain ⟨part, hpart, h⟩ := bind_eq_ok h
    cases h
    have := sliceFrom_length hpart
    omega
  unfold turn at h
  obtain ⟨next, -, h⟩ := bind_eq_ok h
  split at h
  · exact hrest (Nat.succ_pos 1) h
  · split at h
    · exact hrest Nat.one_pos h
    · rename_i hparse
      have hlen := parseEscape?_pos hparse
      split at h
      · exact hrest hlen h
      · obtain ⟨paired, hpaired, h⟩ := bind_eq_ok h
        split at h
        · exact hrest (pair?_pos hlen hpaired) h
        · obtain ⟨put, -, h⟩ := bind_eq_ok h
          exact hrest hlen h

theorem round_length {out rest out' rest' : Bytes} (h : round out rest = .ok (.again out' rest')) :
    rest'.length < rest.length := by
  unfold round at h
  split at h
  · cases h
  · obtain ⟨before, -, h⟩ := bind_eq_ok h
    obtain ⟨tail, htail, h⟩ := bind_eq_ok h
    obtain ⟨⟨bytes, next⟩, hturn, h⟩ := bind_eq_ok h
    cases h
    have := sliceFrom_length htail
    have := turn_length hturn
    omega

def loop (out rest : Bytes) : Except Fault Bytes :=
  match _h : round out rest with
  | .error e => .error e
  | .ok (.finished out) => .ok out
  | .ok (.again out rest) => loop out rest
termination_by rest.length
decreasing_by exact round_length _h

def mentionsEscape : Bytes → Bool
  | 0x5C :: 0x75 :: _ => true
  | _ :: rest => mentionsEscape rest
  | [] => false

/-- The bytes of a text with its escapes decoded. -/
def scan (input : Bytes) : Except Fault Bytes :=
  if mentionsEscape input then loop [] input else .ok input

end ClassBatch.Source.Scan
