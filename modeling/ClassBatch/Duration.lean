/-! Spans of time in whole seconds and nanoseconds, up to `2^64` seconds. -/

namespace ClassBatch

structure Duration where
  seconds : UInt64
  subsec : Fin 1000000000
deriving DecidableEq, Repr

namespace Duration

def toNanos (d : Duration) : Nat :=
  d.seconds.toNat * 1000000000 + d.subsec

def toMillis (d : Duration) : Nat :=
  d.toNanos / 1000000

def ofSeconds (s : UInt64) : Duration :=
  ⟨s, 0⟩

def ofNanos (n : Nat) : Duration :=
  ⟨UInt64.ofNat (n / 1000000000), Fin.ofNat 1000000000 n⟩

instance : Inhabited Duration := ⟨ofSeconds 0⟩

theorem toNanos_ofNanos {n : Nat} (h : n < UInt64.size * 1000000000) :
    (ofNanos n).toNanos = n := by
  have h₁ : n / 1000000000 < UInt64.size := by omega
  simp only [ofNanos, toNanos, UInt64.toNat_ofNat', Fin.ofNat, Nat.mod_eq_of_lt h₁]
  omega

theorem toNanos_lt (d : Duration) : d.toNanos < UInt64.size * 1000000000 := by
  have h₁ := d.seconds.toNat_lt
  have h₂ := d.subsec.isLt
  unfold toNanos UInt64.size
  omega

def twoDigits (n : Nat) : String :=
  if n < 10 then "0" ++ toString n else toString n

def clock (d : Duration) : String :=
  let s := d.seconds.toNat
  twoDigits (s / 3600) ++ ":" ++ twoDigits (s / 60 % 60) ++ ":" ++ twoDigits (s % 60)

end Duration

end ClassBatch
