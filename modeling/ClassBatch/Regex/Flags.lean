import ClassBatch.Regex.Syntax
import ClassBatch.Text.Blank

/-! The flags that an expression can set for itself, and the sets of characters that depend on
them. -/

namespace ClassBatch.Regex

open Unicode

structure Flags where
  caseless : Bool := false
  multiLine : Bool := false
  dotAll : Bool := false
  unicode : Bool := true
  crlf : Bool := false
  verbose : Bool := false
deriving DecidableEq, Repr

namespace Flags

def asciiDigits : CharSet := [⟨0x30, 0x39⟩]
def asciiBlanks : CharSet := [⟨0x09, 0x0D⟩, ⟨0x20, 0x20⟩]
def asciiWord : CharSet := [⟨0x30, 0x39⟩, ⟨0x41, 0x5A⟩, ⟨0x5F, 0x5F⟩, ⟨0x61, 0x7A⟩]

def fold (f : Flags) (set : CharSet) : CharSet :=
  if !f.caseless then set
  else if f.unicode then foldCase set
  else foldAsciiCase set

/-- A set closed under case and then negated. Without Unicode a negated set would hold bytes that
are no characters, so there is none. -/
def foldAndNegate (f : Flags) (negated : Bool) (set : CharSet) : Option CharSet :=
  if !negated then some (f.fold set)
  else if f.unicode then some (f.fold set).complement
  else none

def shorthand (f : Flags) (letter : Char) : CharSet :=
  match letter with
  | 'd' => if f.unicode then decimalDigits else asciiDigits
  | 's' => if f.unicode then blanks else asciiBlanks
  | _ => if f.unicode then wordChars else asciiWord

def negatedShorthand (f : Flags) (letter : Char) : Option CharSet :=
  if f.unicode then some (f.shorthand letter).complement else none

def dot (f : Flags) : Option CharSet :=
  if !f.unicode then none
  else if f.dotAll then some [⟨0, CharSet.lastCode⟩]
  else if f.crlf then some (CharSet.complement [⟨0x0A, 0x0A⟩, ⟨0x0D, 0x0D⟩])
  else some (CharSet.complement [⟨0x0A, 0x0A⟩])

def letter (f : Flags) (c : Char) : Expr :=
  .chars (f.fold (CharSet.single c))

def lineStart (f : Flags) : Look :=
  if !f.multiLine then .start else if f.crlf then .lineStartCrlf else .lineStart

def lineStop (f : Flags) : Look :=
  if !f.multiLine then .stop else if f.crlf then .lineStopCrlf else .lineStop

def set? (f : Flags) (flag : Char) (on : Bool) : Option Flags :=
  match flag with
  | 'i' => some { f with caseless := on }
  | 'm' => some { f with multiLine := on }
  | 's' => some { f with dotAll := on }
  | 'U' => some f
  | 'u' => some { f with unicode := on }
  | 'R' => some { f with crlf := on }
  | 'x' => some { f with verbose := on }
  | _ => none

end Flags

def dropBlanks (inComment : Bool) : List Char → List Char
  | [] => []
  | c :: cs =>
    if inComment then dropBlanks (c != '\n') cs
    else if Text.isBlank c then dropBlanks false cs
    else if c = '\x23' then dropBlanks true cs
    else c :: cs

def Flags.skip (f : Flags) (s : List Char) : List Char :=
  if f.verbose then dropBlanks false s else s

def peekBlanks (inComment : Bool) (fallback : Option Char) : List Char → Option Char
  | [] => fallback
  | c :: cs =>
    if Text.isBlank c then peekBlanks inComment fallback cs
    else if !inComment && c == '\x23' then peekBlanks true fallback cs
    else some c

def Flags.peek (f : Flags) (behind : List Char) : Option Char :=
  if f.verbose then peekBlanks false behind.head? behind else behind.head?

end ClassBatch.Regex
