import ClassBatch.Regex.Search
import Mathlib.Logic.Relation

/-! What an expression matches. A match leads from one place of a text to the same or a later one,
and the marks that move over a text tell whether there is one. -/

namespace ClassBatch.Regex

open Relation
open Unicode

@[ext]
structure Cursor where
  before : Option Char
  rest : List Char

namespace Cursor

variable {x y z : Cursor} {c : Char}

def place (x : Cursor) : Place :=
  ⟨x.before, x.rest.head?⟩

structure Next (c : Char) (x y : Cursor) : Prop where
  rest : x.rest = c :: y.rest
  before : y.before = some c

def Reads (set : CharSet) (x y : Cursor) : Prop :=
  ∃ c, set.contains c = true ∧ Next c x y

lemma Next.ne (h : Next c x y) : y ≠ x := by
  rintro rfl
  exact List.cons_ne_self _ _ h.rest.symm

lemma Next.eq {d : Char} (h : Next c x y) (h' : Next d x z) : c = d ∧ y = z := by
  obtain ⟨hcd, hrest⟩ := List.cons.inj (h.rest.symm.trans h'.rest)
  subst hcd
  exact ⟨rfl, Cursor.ext (h.before.trans h'.before.symm) hrest⟩

inductive Leads (x : Cursor) : Cursor → Prop
  | refl : Leads x x
  | next {c : Char} {y z : Cursor} : Leads x y → Next c y z → Leads x z

namespace Leads

lemma trans (h : x.Leads y) (h' : y.Leads z) : x.Leads z := by
  induction h' with
  | refl => exact h
  | next _ hnext ih => exact ih.next hnext

lemma eq_or_lt (h : x.Leads y) : y = x ∨ y.rest.length < x.rest.length := by
  induction h with
  | refl => exact Or.inl rfl
  | next _ hnext ih =>
    have hlength := congrArg List.length hnext.rest
    rw [List.length_cons] at hlength
    rcases ih with rfl | ih
    · omega
    · omega

lemma antisymm (h : x.Leads y) (h' : y.Leads x) : x = y := by
  rcases h.eq_or_lt with rfl | hlt
  · rfl
  · rcases h'.eq_or_lt with heq | hlt'
    · exact heq
    · omega

lemma of_next (hnext : Next c x y) (h : x.Leads z) : z = x ∨ y.Leads z := by
  induction h with
  | refl => exact Or.inl rfl
  | next _ hnext' ih =>
    right
    rcases ih with rfl | ih
    · obtain ⟨-, rfl⟩ := hnext.eq hnext'
      exact refl
    · exact ih.next hnext'

lemma eq_of_before (h : x.Leads y) (hy : y.before = none) : y = x := by
  cases h with
  | refl => rfl
  | next _ hnext =>
    rw [hnext.before] at hy
    cases hy

lemma of_reads {set : CharSet} (h : Reads set x y) : x.Leads y := by
  obtain ⟨c, -, hnext⟩ := h
  exact refl.next hnext

end Leads

end Cursor

section Powers

variable {α : Type} {r : α → α → Prop} {m n : Nat} {x y : α}

def Times (r : α → α → Prop) : Nat → α → α → Prop
  | 0 => Eq
  | n + 1 => Comp r (Times r n)

lemma times_one : Times r 1 x y ↔ r x y := by
  simp [Times, Comp]

lemma times_add : Times r (m + n) x y ↔ Comp (Times r m) (Times r n) x y := by
  induction m generalizing x with
  | zero => simp [Times, Comp]
  | succ m ih =>
    rw [Nat.succ_add_eq_add_succ, Nat.add_succ]
    constructor
    · rintro ⟨z, hxz, hzy⟩
      obtain ⟨z', hzz', hz'y⟩ := ih.mp hzy
      exact ⟨z', ⟨z, hxz, hzz'⟩, hz'y⟩
    · rintro ⟨z', ⟨z, hxz, hzz'⟩, hz'y⟩
      exact ⟨z, hxz, ih.mpr ⟨z', hzz', hz'y⟩⟩

lemma reflTransGen_iff_times : ReflTransGen r x y ↔ ∃ n, Times r n x y := by
  constructor
  · intro h
    induction h using ReflTransGen.head_induction_on with
    | refl => exact ⟨0, rfl⟩
    | head hr _ ih =>
      obtain ⟨n, hn⟩ := ih
      exact ⟨n + 1, _, hr, hn⟩
  · rintro ⟨n, hn⟩
    induction n generalizing x with
    | zero =>
      cases hn
      exact ReflTransGen.refl
    | succ n ih =>
      obtain ⟨z, hr, hz⟩ := hn
      exact (ih hz).head hr

lemma transGen_iff_times : TransGen r x y ↔ ∃ n, Times r (n + 1) x y := by
  rw [TransGen.head'_iff]
  constructor
  · rintro ⟨z, hr, hz⟩
    obtain ⟨n, hn⟩ := reflTransGen_iff_times.mp hz
    exact ⟨n, z, hr, hn⟩
  · rintro ⟨n, z, hr, hn⟩
    exact ⟨z, hr, reflTransGen_iff_times.mpr ⟨n, hn⟩⟩

lemma times_or_eq : Times (fun x y => r x y ∨ x = y) n x y ↔ ∃ k ≤ n, Times r k x y := by
  induction n generalizing x with
  | zero => simp [Times]
  | succ n ih =>
    constructor
    · rintro ⟨z, hr | rfl, hz⟩
      · obtain ⟨k, hk, hz⟩ := ih.mp hz
        exact ⟨k + 1, Nat.succ_le_succ hk, z, hr, hz⟩
      · obtain ⟨k, hk, hz⟩ := ih.mp hz
        exact ⟨k, Nat.le_succ_of_le hk, hz⟩
    · rintro ⟨_ | k, hk, hxy⟩
      · cases hxy
        exact ⟨_, Or.inr rfl, ih.mpr ⟨0, Nat.zero_le n, rfl⟩⟩
      · obtain ⟨z, hr, hz⟩ := hxy
        exact ⟨z, Or.inl hr, ih.mpr ⟨k, Nat.le_of_succ_le_succ hk, hz⟩⟩

lemma exists_ne_of_reflTransGen (h : ReflTransGen r x y) (hne : y ≠ x) :
    ∃ z, r x z ∧ z ≠ x ∧ ReflTransGen r z y := by
  induction h using ReflTransGen.head_induction_on with
  | refl => exact absurd rfl hne
  | @head a c hr hc ih =>
    by_cases hca : c = a
    · subst hca
      exact ih hne
    · exact ⟨c, hr, hca, hc⟩

end Powers

/-- The expression matches what stands between the two places. A loop whose bounds cross runs as
often as its lower bound says. -/
def Expr.Spans : Expr → Cursor → Cursor → Prop
  | empty => Eq
  | chars set => Cursor.Reads set
  | look l => fun x y => l.holds x.place = true ∧ x = y
  | seq a b => Comp a.Spans b.Spans
  | alt a b => fun x y => a.Spans x y ∨ b.Spans x y
  | loop e least most => fun x y =>
    ∃ n, least ≤ n ∧ (∀ m, most = some m → n ≤ max least m) ∧ Times e.Spans n x y
  | group e => e.Spans

namespace Marked

variable {m : Marked} {x y : Cursor} {n : Nat}

def Spans : Marked → Cursor → Cursor → Prop
  | empty => Eq
  | leaf set _ => Cursor.Reads set
  | look l => fun x y => l.holds x.place = true ∧ x = y
  | seq a b => Comp a.Spans b.Spans
  | alt a b => fun x y => a.Spans x y ∨ b.Spans x y
  | many m => TransGen m.Spans

def Pending : Marked → Cursor → Cursor → Prop
  | empty => fun _ _ => False
  | leaf _ mark => fun x y => mark = true ∧ x = y
  | look _ => fun _ _ => False
  | seq a b => fun x y => Comp a.Pending b.Spans x y ∨ b.Pending x y
  | alt a b => fun x y => a.Pending x y ∨ b.Pending x y
  | many m => Comp m.Pending (ReflTransGen m.Spans)

lemma spans_leads (h : m.Spans x y) : x.Leads y := by
  induction m generalizing x y with
  | empty =>
    cases h
    exact .refl
  | leaf set mark => exact Cursor.Leads.of_reads h
  | look l =>
    obtain ⟨-, rfl⟩ := h
    exact .refl
  | seq a b iha ihb =>
    obtain ⟨z, ha, hb⟩ := h
    exact (iha ha).trans (ihb hb)
  | alt a b iha ihb => exact h.elim iha ihb
  | many m ih =>
    induction h with
    | single h => exact ih h
    | tail _ h hxz => exact hxz.trans (ih h)

lemma reflTransGen_leads (h : ReflTransGen m.Spans x y) : x.Leads y := by
  induction h with
  | refl => exact .refl
  | tail _ h hxz => exact hxz.trans (spans_leads h)

lemma pending_leads (h : m.Pending x y) : x.Leads y := by
  induction m generalizing x y with
  | empty | look l => exact h.elim
  | leaf set mark =>
    obtain ⟨-, rfl⟩ := h
    exact .refl
  | seq a b iha ihb =>
    rcases h with ⟨z, ha, hb⟩ | hb
    · exact (iha ha).trans (spans_leads hb)
    · exact ihb hb
  | alt a b iha ihb => exact h.elim iha ihb
  | many m ih =>
    obtain ⟨z, hz, hzy⟩ := h
    exact (ih hz).trans (reflTransGen_leads hzy)

lemma nullable_iff : m.nullable x.place = true ↔ m.Spans x x := by
  induction m with
  | empty => simp [nullable, Spans]
  | leaf set mark =>
    simp only [nullable, Spans, Bool.false_eq_true, false_iff]
    rintro ⟨c, -, hnext⟩
    exact hnext.ne rfl
  | look l => simp [nullable, Spans]
  | seq a b iha ihb =>
    simp only [nullable, Bool.and_eq_true, iha, ihb, Spans]
    constructor
    · exact fun h => ⟨x, h⟩
    · rintro ⟨z, ha, hb⟩
      obtain rfl := (spans_leads ha).antisymm (spans_leads hb)
      exact ⟨ha, hb⟩
  | alt a b iha ihb => simp only [nullable, Bool.or_eq_true, iha, ihb, Spans]
  | many m ih =>
    rw [nullable, ih, Spans]
    constructor
    · exact TransGen.single
    · intro h
      obtain ⟨z, hxz, hzx⟩ := TransGen.head'_iff.mp h
      obtain rfl := (spans_leads hxz).antisymm (reflTransGen_leads hzx)
      exact hxz

lemma final_iff : m.final x.place = true ↔ m.Pending x x := by
  induction m with
  | empty | look l => simp [final, Pending]
  | leaf set mark => simp [final, Pending]
  | seq a b iha ihb =>
    simp only [final, Bool.or_eq_true, Bool.and_eq_true, iha, ihb, nullable_iff, Pending]
    constructor
    · exact Or.imp_left fun h => ⟨x, h⟩
    · refine Or.imp_left ?_
      rintro ⟨z, ha, hb⟩
      obtain rfl := (pending_leads ha).antisymm (spans_leads hb)
      exact ⟨ha, hb⟩
  | alt a b iha ihb => simp only [final, Bool.or_eq_true, iha, ihb, Pending]
  | many m ih =>
    rw [final, ih, Pending]
    constructor
    · exact fun h => ⟨x, h, .refl⟩
    · rintro ⟨z, hxz, hzx⟩
      obtain rfl := (pending_leads hxz).antisymm (reflTransGen_leads hzx)
      exact hxz

lemma shift_spans (p : Place) (c : Char) (enter : Bool) (m : Marked) :
    (m.shift p c enter).Spans = m.Spans := by
  induction m generalizing enter with
  | empty | leaf set mark | look l => rfl
  | seq a b iha ihb => simp only [shift, Spans, iha, ihb]
  | alt a b iha ihb => simp only [shift, Spans, iha, ihb]
  | many m ih => simp only [shift, Spans, ih]

lemma pending_shift {x' : Cursor} {c : Char} (hnext : Cursor.Next c x x') (enter : Bool) :
    (m.shift x.place c enter).Pending x' y ↔
      (enter = true ∧ m.Spans x y ∨ m.Pending x y) ∧ y ≠ x := by
  induction m generalizing enter y with
  | empty | look l =>
    simp only [shift, Pending, Spans, or_false, false_iff]
    rintro ⟨⟨-, h⟩, hne⟩
    first | exact hne h.symm | exact hne h.2.symm
  | leaf set mark =>
    simp only [shift, Pending, Spans, Bool.and_eq_true]
    constructor
    · rintro ⟨⟨henter, hset⟩, rfl⟩
      exact ⟨Or.inl ⟨henter, c, hset, hnext⟩, hnext.ne⟩
    · rintro ⟨⟨henter, d, hset, hnext'⟩ | ⟨-, rfl⟩, hne⟩
      · obtain ⟨rfl, rfl⟩ := hnext.eq hnext'
        exact ⟨⟨henter, hset⟩, rfl⟩
      · exact absurd rfl hne
  | seq a b iha ihb =>
    simp only [shift, Pending, Spans, shift_spans, Comp, iha, ihb, Bool.or_eq_true,
      Bool.and_eq_true, nullable_iff, final_iff]
    constructor
    · rintro (⟨z, ⟨ha, hne⟩, hb⟩ | ⟨⟨⟨henter, ha⟩ | ha, hb⟩ | hb, hne⟩)
      · have hz : x.Leads z := ha.elim (fun h => spans_leads h.2) pending_leads
        refine ⟨ha.imp (fun h => ⟨h.1, z, h.2, hb⟩) fun h => Or.inl ⟨z, h, hb⟩, ?_⟩
        rintro rfl
        exact hne ((spans_leads hb).antisymm hz)
      · exact ⟨Or.inl ⟨henter, x, ha, hb⟩, hne⟩
      · exact ⟨Or.inr (Or.inl ⟨x, ha, hb⟩), hne⟩
      · exact ⟨Or.inr (Or.inr hb), hne⟩
    · rintro ⟨⟨henter, z, ha, hb⟩ | ⟨z, ha, hb⟩ | hb, hne⟩
      · by_cases hz : z = x
        · subst hz
          exact Or.inr ⟨Or.inl ⟨Or.inl ⟨henter, ha⟩, hb⟩, hne⟩
        · exact Or.inl ⟨z, ⟨Or.inl ⟨henter, ha⟩, hz⟩, hb⟩
      · by_cases hz : z = x
        · subst hz
          exact Or.inr ⟨Or.inl ⟨Or.inr ha, hb⟩, hne⟩
        · exact Or.inl ⟨z, ⟨Or.inr ha, hz⟩, hb⟩
      · exact Or.inr ⟨Or.inr hb, hne⟩
  | alt a b iha ihb =>
    simp only [shift, Pending, Spans, iha, ihb]
    constructor
    · rintro (⟨h, hne⟩ | ⟨h, hne⟩)
      · exact ⟨h.imp (And.imp_right Or.inl) Or.inl, hne⟩
      · exact ⟨h.imp (And.imp_right Or.inr) Or.inr, hne⟩
    · rintro ⟨⟨henter, h | h⟩ | h | h, hne⟩
      · exact Or.inl ⟨Or.inl ⟨henter, h⟩, hne⟩
      · exact Or.inr ⟨Or.inl ⟨henter, h⟩, hne⟩
      · exact Or.inl ⟨Or.inr h, hne⟩
      · exact Or.inr ⟨Or.inr h, hne⟩
  | many m ih =>
    simp only [shift, Pending, Spans, shift_spans, Comp, ih, Bool.or_eq_true, final_iff]
    constructor
    · rintro ⟨z, ⟨h, hne⟩, hzy⟩
      have hz : x.Leads z := h.elim (fun h => spans_leads h.2) pending_leads
      refine ⟨?_, ?_⟩
      · rcases h with ⟨henter | hm, hxz⟩ | hm
        · exact Or.inl ⟨henter, TransGen.head' hxz hzy⟩
        · exact Or.inr ⟨x, hm, hzy.head hxz⟩
        · exact Or.inr ⟨z, hm, hzy⟩
      · rintro rfl
        exact hne ((reflTransGen_leads hzy).antisymm hz)
    · rintro ⟨⟨henter, hxy⟩ | ⟨z, hm, hzy⟩, hne⟩
      · obtain ⟨z, hxz, hz, hzy⟩ := exists_ne_of_reflTransGen hxy.to_reflTransGen hne
        exact ⟨z, ⟨Or.inl ⟨Or.inl henter, hxz⟩, hz⟩, hzy⟩
      · by_cases hz : z = x
        · subst hz
          obtain ⟨z', hzz', hz', hzy⟩ := exists_ne_of_reflTransGen hzy hne
          exact ⟨z', ⟨Or.inl ⟨Or.inr hm, hzz'⟩, hz'⟩, hzy⟩
        · exact ⟨z, ⟨Or.inr hm, hz⟩, hzy⟩

lemma runs_iff (before : Option Char) (s : List Char) (m : Marked) : m.runs before s = true ↔
    (∃ y, m.Pending ⟨before, s⟩ y) ∨ ∃ x, Cursor.Leads ⟨before, s⟩ x ∧ ∃ y, m.Spans x y := by
  induction s generalizing before m with
  | nil =>
    have hend {y : Cursor} (h : Cursor.Leads ⟨before, []⟩ y) : y = ⟨before, []⟩ :=
      h.eq_or_lt.resolve_right (Nat.not_lt_zero _)
    have hplace : (⟨before, none⟩ : Place) = Cursor.place ⟨before, []⟩ := rfl
    rw [runs, hplace]
    simp only [Bool.or_eq_true, nullable_iff, final_iff]
    constructor
    · rintro (h | h)
      · exact Or.inr ⟨_, .refl, _, h⟩
      · exact Or.inl ⟨_, h⟩
    · rintro (⟨y, h⟩ | ⟨x, hx, y, h⟩)
      · obtain rfl := hend (pending_leads h)
        exact Or.inr h
      · obtain rfl := hend hx
        obtain rfl := hend (spans_leads h)
        exact Or.inl h
  | cons c cs ih =>
    have hplace : (⟨before, some c⟩ : Place) = Cursor.place ⟨before, c :: cs⟩ := rfl
    have hnext : Cursor.Next c ⟨before, c :: cs⟩ ⟨some c, cs⟩ := ⟨rfl, rfl⟩
    rw [runs, hplace]
    simp only [Bool.or_eq_true, nullable_iff, final_iff, ih, pending_shift hnext, shift_spans,
      true_and]
    constructor
    · rintro ((h | h) | ⟨y, h | h, -⟩ | ⟨x, hx, h⟩)
      · exact Or.inr ⟨_, .refl, _, h⟩
      · exact Or.inl ⟨_, h⟩
      · exact Or.inr ⟨_, .refl, y, h⟩
      · exact Or.inl ⟨y, h⟩
      · exact Or.inr ⟨x, (Cursor.Leads.refl.next hnext).trans hx, h⟩
    · rintro (⟨y, h⟩ | ⟨x, hx, y, h⟩)
      · by_cases hy : y = ⟨before, c :: cs⟩
        · exact Or.inl (Or.inr (hy ▸ h))
        · exact Or.inr (Or.inl ⟨y, Or.inr h, hy⟩)
      · rcases hx.of_next hnext with rfl | hx
        · by_cases hy : y = ⟨before, c :: cs⟩
          · exact Or.inl (Or.inl (hy ▸ h))
          · exact Or.inr (Or.inl ⟨y, Or.inl h, hy⟩)
        · exact Or.inr (Or.inr ⟨x, hx, y, h⟩)

lemma copies_spans (m : Marked) (n : Nat) : (copies m n).Spans = Times m.Spans n := by
  induction n using Nat.strongRecOn with
  | ind n ih =>
    rw [copies]
    by_cases hzero : n = 0
    · rw [if_pos hzero, hzero]
      rfl
    · rw [if_neg hzero]
      by_cases hone : n = 1
      · funext x y
        rw [if_pos hone, hone, times_one]
      · have hsum : n / 2 + (n - n / 2) = n := by omega
        funext x y
        rw [if_neg hone, Spans, ih (n / 2) (by omega), ih (n - n / 2) (by omega), ← times_add,
          hsum]

lemma many_spans : (many m).Spans x y ↔ ∃ n, 1 ≤ n ∧ Times m.Spans n x y := by
  rw [Spans, transGen_iff_times]
  constructor
  · rintro ⟨n, h⟩
    exact ⟨n + 1, Nat.le_add_left 1 n, h⟩
  · rintro ⟨n, hn, h⟩
    exact ⟨n - 1, by rwa [Nat.sub_add_cancel hn]⟩

lemma repeated_spans (m : Marked) (least : Nat) (most : Option Nat) :
    (m.repeated least most).Spans x y ↔
      ∃ n, least ≤ n ∧ (∀ k, most = some k → n ≤ max least k) ∧ Times m.Spans n x y := by
  cases most with
  | none =>
    simp only [repeated, reduceCtorEq, false_implies, implies_true, true_and]
    split
    · rename_i hmin
      subst hmin
      constructor
      · rintro (h | h)
        · obtain ⟨n, -, hn⟩ := many_spans.mp h
          exact ⟨n, Nat.zero_le n, hn⟩
        · exact ⟨0, Nat.zero_le 0, h⟩
      · rintro ⟨_ | n, -, hn⟩
        · exact Or.inr hn
        · exact Or.inl (many_spans.mpr ⟨n + 1, Nat.le_add_left 1 n, hn⟩)
    · rename_i hmin
      rw [Spans, copies_spans]
      constructor
      · rintro ⟨z, hxz, hzy⟩
        obtain ⟨n, hn, hzy⟩ := many_spans.mp hzy
        exact ⟨least - 1 + n, by omega, times_add.mpr ⟨z, hxz, hzy⟩⟩
      · rintro ⟨n, hn, h⟩
        have hsum : least - 1 + (n - (least - 1)) = n := by omega
        obtain ⟨z, hxz, hzy⟩ := times_add.mp (hsum ▸ h)
        exact ⟨z, hxz, many_spans.mpr ⟨n - (least - 1), by omega, hzy⟩⟩
  | some k =>
    have hoptional : (optional m).Spans = fun x y => m.Spans x y ∨ x = y := rfl
    simp only [repeated, Spans, copies_spans, hoptional, Option.some.injEq, forall_eq']
    constructor
    · rintro ⟨z, hxz, hzy⟩
      obtain ⟨n, hn, hzy⟩ := times_or_eq.mp hzy
      exact ⟨least + n, by omega, by omega, times_add.mpr ⟨z, hxz, hzy⟩⟩
    · rintro ⟨n, hmin, hmax, h⟩
      have hsum : least + (n - least) = n := by omega
      obtain ⟨z, hxz, hzy⟩ := times_add.mp (hsum ▸ h)
      exact ⟨z, hxz, times_or_eq.mpr ⟨n - least, by omega, hzy⟩⟩

lemma not_pending_copies (h : ∀ x y, ¬ m.Pending x y) (n : Nat) (x y : Cursor) :
    ¬ (copies m n).Pending x y := by
  induction n using Nat.strongRecOn generalizing x y with
  | ind n ih =>
    rw [copies]
    split
    · exact id
    · split
      · exact h x y
      · rintro (⟨z, hz, -⟩ | hy)
        · exact ih (n / 2) (by omega) x z hz
        · exact ih (n - n / 2) (by omega) x y hy

lemma not_pending_repeated (h : ∀ x y, ¬ m.Pending x y) (min : Nat) (max : Option Nat)
    (x y : Cursor) : ¬ (m.repeated min max).Pending x y := by
  have hmany (x y : Cursor) : ¬ (many m).Pending x y := by
    rintro ⟨z, hz, -⟩
    exact h x z hz
  cases max with
  | none =>
    rw [repeated]
    split
    · rintro (hy | hy)
      · exact hmany x y hy
      · exact hy
    · rintro (⟨z, hz, -⟩ | hy)
      · exact not_pending_copies h _ x z hz
      · exact hmany x y hy
  | some k =>
    have hoptional (x y : Cursor) : ¬ (optional m).Pending x y := by
      rintro (hy | hy)
      · exact h x y hy
      · exact hy
    rintro (⟨z, hz, -⟩ | hy)
    · exact not_pending_copies h _ x z hz
    · exact not_pending_copies hoptional _ x y hy

end Marked

namespace Expr

variable {e : Expr} {x y : Cursor}

lemma unmarked_spans (e : Expr) : e.unmarked.Spans = e.Spans := by
  induction e with
  | empty | chars set | look l => rfl
  | seq a b iha ihb => rw [unmarked, Marked.Spans, Spans, iha, ihb]
  | alt a b iha ihb => rw [unmarked, Marked.Spans, Spans, iha, ihb]
  | loop e min max ih =>
    funext x y
    rw [unmarked, Spans, ← ih]
    exact propext (Marked.repeated_spans e.unmarked min max)
  | group e ih => exact ih

lemma not_pending_unmarked (e : Expr) (x y : Cursor) : ¬ e.unmarked.Pending x y := by
  induction e generalizing x y with
  | empty | look l => exact id
  | chars set => exact fun h => Bool.false_ne_true h.1
  | seq a b iha ihb =>
    rintro (⟨z, hz, -⟩ | hy)
    · exact iha x z hz
    · exact ihb x y hy
  | alt a b iha ihb =>
    rintro (hy | hy)
    · exact iha x y hy
    · exact ihb x y hy
  | loop e min max ih => exact Marked.not_pending_repeated ih min max x y
  | group e ih => exact ih x y

lemma occursIn_iff (e : Expr) (text : List Char) :
    e.occursIn text = true ↔ ∃ x, Cursor.Leads ⟨none, text⟩ x ∧ ∃ y, e.Spans x y := by
  rw [occursIn, Marked.runs_iff, unmarked_spans, or_iff_right]
  rintro ⟨y, h⟩
  exact e.not_pending_unmarked _ y h

end Expr

end ClassBatch.Regex
