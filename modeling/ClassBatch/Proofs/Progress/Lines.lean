import ClassBatch.Progress
import ClassBatch.Proofs.Text
import Mathlib.Data.List.TakeWhile

/-! The line that tells the progress can be read back, up to parts of a second. -/

namespace ClassBatch

section Grammar

structure IsField (width : Nat) (digits : List Char) (n : Nat) : Prop where
  isDigit : ∀ c ∈ digits, c.isDigit = true
  value : Nat.ofDigitChars 10 digits 0 = n
  filled : width ≤ digits.length
  tight : digits.head? = some '0' → digits.length = width

inductive IsClock : List Char → Nat → Prop
  | intro {hours minutes seconds : List Char} {h m s : Nat} (isHours : IsField 2 hours h)
      (isMinutes : IsField 2 minutes m) (isSeconds : IsField 2 seconds s)
      (twoMinutes : minutes.length = 2 ∧ m < 60) (twoSeconds : seconds.length = 2 ∧ s < 60) :
      IsClock (hours ++ ':' :: (minutes ++ ':' :: seconds)) (3600 * h + 60 * m + s)

namespace Progress

/-- What a line tells. The seconds are those of the estimate, if there is one. -/
structure Reading where
  completed : Nat
  total : Nat
  seconds : Option Nat
deriving DecidableEq, Repr

def reading (p : Progress) : Reading :=
  ⟨p.completed, p.total, p.eta.map fun eta => eta.seconds.toNat⟩

inductive Tells : List Char → Reading → Prop
  | known {completed total clock : List Char} {c t s : Nat} (isCompleted : IsField 1 completed c)
      (isTotal : IsField 1 total t) (isClock : IsClock clock s) :
      Tells ('[' :: (completed ++ '/' :: (total ++ ']' :: ' ' ::
        ("Estimated remaining time: ".toList ++ clock)))) ⟨c, t, some s⟩
  | unknown {completed total : List Char} {c t : Nat} (isCompleted : IsField 1 completed c)
      (isTotal : IsField 1 total t) :
      Tells ('[' :: (completed ++ '/' :: (total ++ ']' :: ' ' ::
        "Remaining time: Unknown".toList))) ⟨c, t, none⟩

end Progress

end Grammar

section Reader

def readNumber (s : List Char) : Nat × List Char :=
  (Nat.ofDigitChars 10 (s.takeWhile Char.isDigit) 0, s.dropWhile Char.isDigit)

def readClock? (s : List Char) : Option Nat := do
  let (h, s) := readNumber s
  let s ← Text.afterStart? [':'] s
  let (m, s) := readNumber s
  let s ← Text.afterStart? [':'] s
  let (s, rest) := readNumber s
  if rest.isEmpty then return 3600 * h + 60 * m + s else none

def Progress.read? (line : List Char) : Option Progress.Reading := do
  let s ← Text.afterStart? ['['] line
  let (completed, s) := readNumber s
  let s ← Text.afterStart? ['/'] s
  let (total, s) := readNumber s
  let s ← Text.afterStart? [']', ' '] s
  match Text.afterStart? "Estimated remaining time: ".toList s with
  | some clock => return ⟨completed, total, some (← readClock? clock)⟩
  | none => if s = "Remaining time: Unknown".toList then return ⟨completed, total, none⟩ else none

end Reader

variable {n width seconds : Nat} {digits text line : List Char} {c : Char} {p q : Progress}

lemma digitChar_eq_zero (hn : n < 10) (h : n.digitChar = '0') : n = 0 := by
  have hvalue := Nat.toNat_digitChar_sub_48_of_lt_ten hn
  rw [h] at hvalue
  exact hvalue.symm

lemma eq_zero_of_toDigits_head? (h : (Nat.toDigits 10 n).head? = some '0') : n = 0 := by
  induction n using Nat.strong_induction_on with
  | h n ih =>
    by_cases hn : n < 10
    · rw [Nat.toDigits_of_lt_base hn] at h
      exact digitChar_eq_zero hn (Option.some.inj h)
    · rw [Nat.toDigits_of_base_le (by omega) (by omega),
        List.head?_append_of_ne_nil _ Nat.toDigits_ne_nil] at h
      have hzero := ih (n / 10) (by omega) h
      omega

lemma isField_toDigits (n : Nat) : IsField 1 (Nat.toDigits 10 n) n where
  isDigit _ hc := Nat.isDigit_of_mem_toDigits (by decide) (by decide) hc
  value := Nat.ofDigitChars_ten_toDigits
  filled := Nat.length_toDigits_pos
  tight h := by
    rw [eq_zero_of_toDigits_head? h]
    rfl

lemma twoDigits_of_lt (h : n < 10) : (Duration.twoDigits n).toList = '0' :: Nat.toDigits 10 n := by
  rw [Duration.twoDigits, if_pos h, String.toList_append, Nat.toString_eq_repr, Nat.toList_repr]
  rfl

lemma twoDigits_of_le (h : 10 ≤ n) : (Duration.twoDigits n).toList = Nat.toDigits 10 n := by
  rw [Duration.twoDigits, if_neg (by omega), Nat.toString_eq_repr, Nat.toList_repr]

lemma twoDigits_length (h : n < 100) : (Duration.twoDigits n).toList.length = 2 := by
  have hlength : ∀ k, 0 < k → ((Nat.toDigits 10 n).length ≤ k ↔ n < 10 ^ k) :=
    fun k hk => Nat.length_toDigits_le_iff (by decide) hk
  have hone := hlength 1 (by decide)
  have htwo := hlength 2 (by decide)
  have hpos : 0 < (Nat.toDigits 10 n).length := Nat.length_toDigits_pos
  by_cases hn : n < 10
  · rw [twoDigits_of_lt hn, List.length_cons]
    omega
  · rw [twoDigits_of_le (by omega)]
    omega

lemma isField_twoDigits (n : Nat) : IsField 2 (Duration.twoDigits n).toList n := by
  have hfield := isField_toDigits n
  by_cases hn : n < 10
  · have hlength := twoDigits_length (n := n) (by omega)
    rw [twoDigits_of_lt hn] at hlength ⊢
    refine ⟨?_, ?_, by omega, fun _ => hlength⟩
    · exact List.forall_mem_cons.mpr ⟨rfl, hfield.isDigit⟩
    · rw [Nat.ofDigitChars_cons]
      exact hfield.value
  · have hlength : ¬ (Nat.toDigits 10 n).length ≤ 1 := by
      rw [Nat.length_toDigits_le_iff (by decide) (by decide)]
      omega
    rw [twoDigits_of_le (by omega)]
    refine ⟨hfield.isDigit, hfield.value, by omega, fun h => ?_⟩
    have := eq_zero_of_toDigits_head? h
    omega

lemma isClock_clock (d : Duration) : IsClock d.clock.toList d.seconds.toNat := by
  have hminutes : d.seconds.toNat / 60 % 60 < 60 := Nat.mod_lt _ (by decide)
  have hseconds : d.seconds.toNat % 60 < 60 := Nat.mod_lt _ (by decide)
  have hclock := IsClock.intro (isField_twoDigits (d.seconds.toNat / 3600))
    (isField_twoDigits (d.seconds.toNat / 60 % 60)) (isField_twoDigits (d.seconds.toNat % 60))
    ⟨twoDigits_length (by omega), hminutes⟩ ⟨twoDigits_length (by omega), hseconds⟩
  have htext : d.clock.toList = (Duration.twoDigits (d.seconds.toNat / 3600)).toList ++ ':' ::
      ((Duration.twoDigits (d.seconds.toNat / 60 % 60)).toList ++ ':' ::
        (Duration.twoDigits (d.seconds.toNat % 60)).toList) := by
    simp [Duration.clock]
  have hvalue : 3600 * (d.seconds.toNat / 3600) + 60 * (d.seconds.toNat / 60 % 60) +
      d.seconds.toNat % 60 = d.seconds.toNat := by
    omega
  rwa [← htext, hvalue] at hclock

lemma readNumber_of_isDigit (h : ∀ c ∈ digits, c.isDigit = true) :
    readNumber digits = (Nat.ofDigitChars 10 digits 0, []) := by
  rw [readNumber, List.takeWhile_eq_self_iff.mpr h, List.dropWhile_eq_nil_iff.mpr h]

lemma IsField.readNumber_cons (h : IsField width digits n) (hc : c.isDigit = false)
    (rest : List Char) : readNumber (digits ++ c :: rest) = (n, c :: rest) := by
  rw [readNumber, List.takeWhile_append_of_pos h.isDigit, List.dropWhile_append_of_pos h.isDigit,
    List.takeWhile_cons_of_neg (by simp [hc]), List.dropWhile_cons_of_neg (by simp [hc]),
    List.append_nil, h.value]

lemma IsClock.readClock? (h : IsClock text seconds) : readClock? text = some seconds := by
  cases h with
  | @intro hours minutes seconds h m s isHours isMinutes isSeconds =>
    have hlast : readNumber seconds = (s, []) := by
      rw [readNumber_of_isDigit isSeconds.isDigit, isSeconds.value]
    simp only [ClassBatch.readClock?, isHours.readNumber_cons (c := ':') rfl, Text.afterStart?,
      if_true, Option.bind_eq_bind, Option.bind_some, isMinutes.readNumber_cons (c := ':') rfl,
      hlast, List.isEmpty_nil, Option.pure_def]

namespace Progress

lemma Tells.read? {r : Reading} (h : Tells line r) : read? line = some r := by
  cases h with
  | @known completed total clock c t s isCompleted isTotal isClock =>
    simp only [Progress.read?, Text.afterStart?, if_true, Option.bind_eq_bind, Option.bind_some,
      isCompleted.readNumber_cons (c := '/') rfl, isTotal.readNumber_cons (c := ']') rfl,
      Text.afterStart?_append, isClock.readClock?, Option.pure_def]
  | @unknown completed total c t isCompleted isTotal =>
    have hnone : Text.afterStart? "Estimated remaining time: ".toList
        "Remaining time: Unknown".toList = none := by
      decide
    simp only [Progress.read?, Text.afterStart?, if_true, Option.bind_eq_bind, Option.bind_some,
      isCompleted.readNumber_cons (c := '/') rfl, isTotal.readNumber_cons (c := ']') rfl, hnone,
      Option.pure_def]

lemma tells_render (p : Progress) : Tells p.render.toList p.reading := by
  have hcompleted := isField_toDigits p.completed
  have htotal := isField_toDigits p.total
  cases heta : p.eta with
  | none =>
    have hreading : p.reading = ⟨p.completed, p.total, none⟩ := by simp [reading, heta]
    rw [hreading]
    simpa [render, heta] using Tells.unknown hcompleted htotal
  | some eta =>
    have hreading : p.reading = ⟨p.completed, p.total, some eta.seconds.toNat⟩ := by
      simp [reading, heta]
    rw [hreading]
    simpa [render, heta] using Tells.known hcompleted htotal (isClock_clock eta)

lemma render_eq_of_reading (h : p.reading = q.reading) : p.render = q.render := by
  obtain ⟨completed, total, eta⟩ := p
  obtain ⟨completed', total', eta'⟩ := q
  obtain ⟨rfl, rfl, heta⟩ : completed = completed' ∧ total = total' ∧
      eta.map (fun eta => eta.seconds.toNat) = eta'.map fun eta => eta.seconds.toNat := by
    simpa [reading] using h
  cases eta with
  | none =>
    cases eta' with
    | none => rfl
    | some eta' => simp at heta
  | some eta =>
    cases eta' with
    | none => simp at heta
    | some eta' =>
      have hseconds : eta.seconds.toNat = eta'.seconds.toNat := Option.some.inj heta
      simp only [render, Duration.clock, hseconds]

lemma render_eq_iff : p.render = q.render ↔ p.reading = q.reading := by
  refine ⟨fun h => ?_, render_eq_of_reading⟩
  have hp := (tells_render p).read?
  rw [h, (tells_render q).read?] at hp
  exact (Option.some.inj hp).symm

lemma reading_eq_iff : p.reading = q.reading ↔ p.completed = q.completed ∧ p.total = q.total ∧
    p.eta.isSome = q.eta.isSome ∧
      ∀ d d', p.eta = some d → q.eta = some d' → d.seconds = d'.seconds := by
  cases hp : p.eta <;> cases hq : q.eta <;>
    simp [reading, hp, hq, UInt64.toNat_inj]

/-- The line can be read in one way only, and what it tells is the two counts, whether there is an
estimate, and the whole seconds of it. -/
theorem line_read_back :
    (∀ p : Progress, Tells p.render.toList p.reading ∧ read? p.render.toList = some p.reading ∧
      ∀ r, Tells p.render.toList r → r = p.reading) ∧
    (∀ d : Duration, IsClock d.clock.toList d.seconds.toNat) ∧
    ∀ p q : Progress, p.render = q.render ↔ p.completed = q.completed ∧ p.total = q.total ∧
      p.eta.isSome = q.eta.isSome ∧
        ∀ d d', p.eta = some d → q.eta = some d' → d.seconds = d'.seconds := by
  refine ⟨fun p => ⟨tells_render p, (tells_render p).read?, fun r hr => ?_⟩, isClock_clock,
    fun p q => render_eq_iff.trans reading_eq_iff⟩
  have hread := hr.read?
  rw [(tells_render p).read?] at hread
  exact (Option.some.inj hread).symm

end Progress

end ClassBatch
