import ClassBatch.Regex.Escape
import Mathlib.Data.List.Basic
import Mathlib.Data.List.Infix

/-! Reading a part of an expression that has more text behind it. What is read from a text alone is
read in front of a closing bracket too, unless the reader goes on to the bracket. -/

namespace ClassBatch.Regex

open Unicode

variable {α β : Type} {u s r : List Char} {k : Nat} {x y : Option (α × List Char)} {f : Flags}

/-- `x` is what was read from a text alone, and `y` what was read from the text in front of a closing
bracket and `u`. A reader that went on to the bracket has left no more than `k` characters; on a single
line, it either failed alone or swallowed everything in a comment. -/
inductive Cut (u : List Char) (k : Nat) (x y : Option (α × List Char)) : Prop
  | within (a : α) (r : List Char) (alone : x = some (a, r)) (framed : y = some (a, r ++ ')' :: u))
  | beyond (left : ∀ a r, y = some (a, r) → r.length ≤ k)
      (swallowed : '\n' ∉ u → x = none ∨ ∃ a, x = some (a, []) ∧ y = some (a, []))

namespace Cut

lemma failed (h : ∀ a r, y = some (a, r) → r.length ≤ k) : Cut u k none y :=
  .beyond h fun _ => Or.inl rfl

lemma neither : Cut u k (none : Option (α × List Char)) none :=
  failed nofun

lemma mono {k' : Nat} (h : Cut u k x y) (hk : k ≤ k') : Cut u k' x y := by
  cases h with
  | within a r hx hy => exact .within a r hx hy
  | beyond hleft hnone => exact .beyond (fun a r hy => (hleft a r hy).trans hk) hnone

lemma bind {k' : Nat} {g p : α × List Char → Option (β × List Char)} (h : Cut u k x y)
    (hwithin : ∀ a r, x = some (a, r) → Cut u k' (g (a, r)) (p (a, r ++ ')' :: u)))
    (hleft : ∀ a r b r', r.length ≤ k → p (a, r) = some (b, r') → r'.length ≤ k')
    (hend : ∀ a, g (a, []) = none ∨ ∃ b, g (a, []) = some (b, []) ∧ p (a, []) = some (b, [])) :
    Cut u k' (x >>= g) (y >>= p) := by
  cases h with
  | within a r hx hy =>
    rw [hx, hy]
    exact hwithin a r hx
  | beyond hshort hnone =>
    refine .beyond ?_ ?_
    · intro b r' hy
      obtain ⟨⟨a, r⟩, hread, hgo⟩ := Option.bind_eq_some_iff.mp hy
      exact hleft a r b r' (hshort a r hread) hgo
    · intro hline
      rcases hnone hline with hx | ⟨a, hx, hy⟩
      · rw [hx]
        exact Or.inl rfl
      · rw [hx, hy]
        exact hend a

end Cut

def Passes (g : α × List Char → Option (β × List Char)) : Prop :=
  ∀ a, (∀ r, g (a, r) = none) ∨ ∃ b, ∀ r, g (a, r) = some (b, r)

lemma Passes.exists_of_bind {g : α × List Char → Option (β × List Char)} {b : β} (hg : Passes g)
    (h : (x >>= g) = some (b, r)) : ∃ a, x = some (a, r) := by
  obtain ⟨⟨a, r'⟩, hx, h⟩ := Option.bind_eq_some_iff.mp h
  rcases hg a with hnone | ⟨b', hb⟩
  · rw [hnone] at h
    cases h
  · rw [hb] at h
    cases h
    exact ⟨a, hx⟩

lemma Cut.pass {g : α × List Char → Option (β × List Char)} (h : Cut u k x y) (hg : Passes g) :
    Cut u k (x >>= g) (y >>= g) := by
  refine h.bind ?_ ?_ ?_
  · intro a r _
    rcases hg a with hnone | ⟨b, hb⟩
    · rw [hnone, hnone]
      exact .neither
    · exact .within b r (hb r) (hb _)
  · intro a r b r' hr hgo
    rcases hg a with hnone | ⟨b', hb⟩
    · rw [hnone] at hgo
      cases hgo
    · rw [hb] at hgo
      cases hgo
      exact hr
  · intro a
    rcases hg a with hnone | ⟨b, hb⟩
    · exact Or.inl (hnone [])
    · exact Or.inr ⟨b, hb [], hb []⟩

lemma dropBlanks_suffix (b : Bool) (s : List Char) : dropBlanks b s <:+ s := by
  induction s generalizing b with
  | nil => exact List.suffix_refl []
  | cons c s ih =>
    rw [dropBlanks]
    split_ifs
    · exact (ih _).trans (List.suffix_cons c s)
    · exact (ih _).trans (List.suffix_cons c s)
    · exact (ih _).trans (List.suffix_cons c s)
    · exact List.suffix_refl _

lemma dropBlanks_dropBlanks (b : Bool) (s : List Char) :
    dropBlanks false (dropBlanks b s) = dropBlanks b s := by
  induction s generalizing b with
  | nil => rfl
  | cons c s ih =>
    rw [dropBlanks]
    split_ifs with hb hblank hhash
    · exact ih _
    · exact ih _
    · exact ih _
    · simp [dropBlanks, hblank, hhash]

lemma dropBlanks_comment (h : '\n' ∉ u) : dropBlanks true u = [] := by
  induction u with
  | nil => rfl
  | cons c u ih =>
    have hne : (c != '\n') = true := by
      rw [bne_iff_ne]
      rintro rfl
      exact h List.mem_cons_self
    rw [dropBlanks, if_pos rfl, hne]
    exact ih fun hu => h (List.mem_cons_of_mem c hu)

lemma dropBlanks_append (b : Bool) (s u : List Char) :
    dropBlanks b (s ++ ')' :: u) = dropBlanks b s ++ ')' :: u ∨
      dropBlanks b s = [] ∧ (dropBlanks b (s ++ ')' :: u)).length ≤ u.length ∧
        ('\n' ∉ u → dropBlanks b (s ++ ')' :: u) = []) := by
  induction s generalizing b with
  | nil =>
    cases b with
    | false => exact Or.inl (by simp [dropBlanks, Text.isBlank])
    | true =>
      have htail : dropBlanks true ([] ++ ')' :: u) = dropBlanks true u := rfl
      rw [htail]
      exact Or.inr ⟨rfl, (dropBlanks_suffix true u).length_le, dropBlanks_comment⟩
  | cons c s ih =>
    rw [List.cons_append, dropBlanks, dropBlanks]
    split_ifs
    · exact ih _
    · exact ih _
    · exact ih _
    · exact Or.inl rfl

namespace Flags

lemma skip_suffix (f : Flags) (s : List Char) : f.skip s <:+ s := by
  rw [skip]
  split
  · exact dropBlanks_suffix false s
  · exact List.suffix_refl s

@[simp] lemma skip_nil (f : Flags) : f.skip [] = [] :=
  List.suffix_nil.mp (f.skip_suffix [])

@[simp] lemma skip_skip (f : Flags) (s : List Char) : f.skip (f.skip s) = f.skip s := by
  cases hf : f.verbose with
  | false => simp [skip, hf]
  | true => simp [skip, hf, dropBlanks_dropBlanks]

lemma skip_cons {c : Char} (f : Flags) (hblank : Text.isBlank c = false) (hhash : c ≠ '\x23')
    (s : List Char) : f.skip (c :: s) = c :: s := by
  rw [skip]
  split
  · simp [dropBlanks, hblank, hhash]
  · rfl

lemma skip_append (f : Flags) (s u : List Char) :
    f.skip (s ++ ')' :: u) = f.skip s ++ ')' :: u ∨
      f.skip s = [] ∧ (f.skip (s ++ ')' :: u)).length ≤ u.length ∧
        ('\n' ∉ u → f.skip (s ++ ')' :: u) = []) := by
  cases hf : f.verbose with
  | false => simp [skip, hf]
  | true => simpa [skip, hf] using dropBlanks_append false s u

lemma skip_append_of_ne (h : f.skip s ≠ []) (u : List Char) :
    f.skip (s ++ ')' :: u) = f.skip s ++ ')' :: u :=
  (f.skip_append s u).resolve_right fun hs => h hs.1

lemma skip_append_length (h : f.skip s = []) (u : List Char) :
    (f.skip (s ++ ')' :: u)).length ≤ u.length + 1 := by
  rcases f.skip_append s u with hframed | ⟨-, hshort, -⟩
  · rw [hframed, h]
    exact le_refl _
  · exact hshort.trans (Nat.le_succ _)

end Flags

lemma Cut.skip {g p : List Char → Option (α × List Char)}
    (hwithin : ∀ r, r.length ≤ s.length → Cut u k (g r) (p (r ++ ')' :: u)))
    (hleft : ∀ a r r', r.length ≤ u.length → p r = some (a, r') → r'.length ≤ k)
    (hend : g [] = none ∨ ∃ a, g [] = some (a, []) ∧ p [] = some (a, [])) :
    Cut u k (g (f.skip s)) (p (f.skip (s ++ ')' :: u))) := by
  rcases f.skip_append s u with hs | ⟨hs, hshort, hline⟩
  · rw [hs]
    exact hwithin _ (f.skip_suffix s).length_le
  · rw [hs]
    refine .beyond (fun a r => hleft a _ r hshort) fun hu => ?_
    rw [hline hu]
    exact hend

lemma Cut.of_skip {g : List Char → Option (α × List Char)} (hskip : ∀ s, g (f.skip s) = g s)
    (hwithin : ∀ r, r.length ≤ s.length → f.skip r = r → f.skip (r ++ ')' :: u) = r ++ ')' :: u →
      Cut u k (g r) (g (r ++ ')' :: u)))
    (hleft : ∀ a r r', r.length ≤ u.length → g r = some (a, r') → r'.length ≤ k)
    (hend : g [] = none) : Cut u k (g s) (g (s ++ ')' :: u)) := by
  rw [← hskip s, ← hskip (s ++ ')' :: u)]
  rcases f.skip_append s u with hs | ⟨hs, hshort, -⟩
  · rw [hs]
    refine hwithin _ (f.skip_suffix s).length_le (f.skip_skip s) ?_
    rw [← hs, f.skip_skip]
  · rw [hs, hend]
    exact .failed fun a r => hleft a _ r hshort

lemma Cut.skipped (a : α) :
    Cut u u.length (some (a, f.skip s)) (some (a, f.skip (s ++ ')' :: u))) := by
  refine Cut.skip (g := fun r => some (a, r)) (p := fun r => some (a, r)) ?_ ?_ ?_
  · exact fun r _ => .within a r rfl rfl
  · intro _ r r' hr h
    cases h
    exact hr
  · exact Or.inr ⟨a, rfl, rfl⟩

lemma readDigits_suffix {count value : Nat} {a : Nat} (h : readDigits f count value s = some (a, r)) :
    r <:+ s := by
  induction count generalizing value s with
  | zero =>
    cases h
    exact List.suffix_refl _
  | succ count ih =>
    cases s with
    | nil => cases h
    | cons c s =>
      obtain ⟨digit, -, h⟩ := Option.bind_eq_some_iff.mp h
      exact ((ih h).trans (f.skip_suffix s)).trans (List.suffix_cons c s)

lemma readDigits_nil (count value : Nat) : readDigits f count value [] = none ∨
    ∃ a, readDigits f count value [] = some (a, []) ∧ readDigits f count value [] = some (a, []) := by
  cases count with
  | zero => exact Or.inr ⟨value, rfl, rfl⟩
  | succ count => exact Or.inl rfl

lemma readDigits_cut (count value : Nat) (s : List Char) :
    Cut u u.length (readDigits f count value s) (readDigits f count value (s ++ ')' :: u)) := by
  induction count generalizing value s with
  | zero => exact .within value s rfl rfl
  | succ count ih =>
    cases s with
    | nil => exact .neither
    | cons c s =>
      rw [List.cons_append, readDigits, readDigits]
      cases hdigit : Source.hexDigit? c with
      | none => exact .neither
      | some digit =>
        refine Cut.skip (fun r _ => ih _ r) ?_ (readDigits_nil count _)
        intro a r r' hr h
        exact (readDigits_suffix h).length_le.trans hr

lemma readBraced_suffix {empty : Bool} {value fuel a : Nat}
    (h : readBraced f empty value fuel s = some (a, r)) : r <:+ s := by
  induction fuel generalizing empty value s with
  | zero => cases h
  | succ fuel ih =>
    cases s with
    | nil => cases h
    | cons c s =>
      rw [readBraced] at h
      split at h
      · split at h
        · cases h
        · cases h
          exact (f.skip_suffix s).trans (List.suffix_cons c s)
      · obtain ⟨digit, -, h⟩ := Option.bind_eq_some_iff.mp h
        exact ((ih h).trans (f.skip_suffix s)).trans (List.suffix_cons c s)

lemma readBraced_nil (empty : Bool) (value fuel : Nat) : readBraced f empty value fuel [] = none := by
  cases fuel <;> rfl

lemma readBraced_cut {empty : Bool} {value fuel fuel' : Nat} {s : List Char} (hs : s.length < fuel)
    (hs' : (s ++ ')' :: u).length < fuel') :
    Cut u u.length (readBraced f empty value fuel s)
      (readBraced f empty value fuel' (s ++ ')' :: u)) := by
  induction fuel generalizing fuel' empty value s with
  | zero => omega
  | succ fuel ih =>
    obtain ⟨fuel', rfl⟩ : ∃ n, fuel' = n + 1 := ⟨fuel' - 1, by omega⟩
    cases s with
    | nil => exact .neither
    | cons c s =>
      simp only [List.cons_append, List.length_cons, List.length_append] at hs hs' ih ⊢
      rw [readBraced, readBraced]
      split
      · split
        · exact .neither
        · exact .skipped value
      · cases hdigit : Source.hexDigit? c with
        | none => exact .neither
        | some digit =>
          refine Cut.skip (fun r hr => ih (by omega) (by omega)) ?_ (Or.inl (readBraced_nil _ _ _))
          intro a r r' hr h
          exact (readBraced_suffix h).length_le.trans hr

lemma cons_or_ne (c : Char) (s : List Char) :
    (∃ rest, s = c :: rest) ∨ ∀ rest, s ≠ c :: rest := by
  by_cases h : ∃ rest, s = c :: rest
  · exact Or.inl h
  · exact Or.inr fun rest hs => h ⟨rest, hs⟩

lemma framed_ne {c : Char} (hc : c ≠ ')') (h : ∀ rest, r ≠ c :: rest) (rest : List Char) :
    r ++ ')' :: u ≠ c :: rest := by
  intro heq
  cases r with
  | nil => exact hc (List.cons.inj heq).1.symm
  | cons d r =>
    obtain ⟨rfl, -⟩ := List.cons.inj heq
    exact h r rfl

lemma passes_code (byte : Bool) : Passes fun (code, rest) => do
    return (Atom.char (← codeToChar? code) byte, rest) := by
  intro code
  cases h : codeToChar? code with
  | none => exact Or.inl fun _ => by simp [h]
  | some c => exact Or.inr ⟨.char c byte, fun _ => by simp [h]⟩

lemma readHex_of_ne {kind : Char} (h : ∀ rest, f.skip s ≠ '\x7b' :: rest) :
    readHex f kind s = do
      let width := if kind = 'x' then 2 else if kind = 'u' then 4 else 8
      let (code, rest) ← readDigits f width 0 (f.skip s)
      return (.char (← codeToChar? code) (width == 2), rest) := by
  rw [readHex]
  split
  · rename_i rest hskip
    exact absurd hskip (h rest)
  · rfl

lemma readHex_suffix {kind : Char} {a : Atom} (h : readHex f kind s = some (a, r)) : r <:+ s := by
  rw [readHex] at h
  have hs := f.skip_suffix s
  split at h
  · rename_i rest hskip
    rw [hskip] at hs
    obtain ⟨code, hread⟩ := (passes_code false).exists_of_bind h
    exact (((readBraced_suffix hread).trans (f.skip_suffix rest)).trans
      (List.suffix_cons _ rest)).trans hs
  · obtain ⟨code, hread⟩ := (passes_code _).exists_of_bind h
    exact (readDigits_suffix hread).trans hs

lemma readHex_cut (kind : Char) (s : List Char) :
    Cut u u.length (readHex f kind s) (readHex f kind (s ++ ')' :: u)) := by
  refine Cut.of_skip (f := f) ?_ ?_ ?_ ?_
  · intro s
    simp only [readHex, Flags.skip_skip]
  · intro r _ hr hr'
    rcases cons_or_ne '\x7b' r with ⟨rest, rfl⟩ | hne
    · rw [List.cons_append] at hr'
      simp only [List.cons_append, readHex, hr, hr']
      refine Cut.pass ?_ (passes_code false)
      refine Cut.skip ?_ ?_ (Or.inl (readBraced_nil _ _ _))
      · intro r hr
        exact readBraced_cut (by omega) (by simp; omega)
      · intro a r r' hr h
        exact (readBraced_suffix h).length_le.trans hr
    · have hne' := framed_ne (u := u) (by decide) hne
      rw [readHex_of_ne (by rwa [hr]), readHex_of_ne (by rwa [hr']), hr, hr']
      exact (readDigits_cut _ _ r).pass (passes_code _)
  · intro a r r' hr h
    exact (readHex_suffix h).length_le.trans hr
  · rw [readHex_of_ne (by simp), Flags.skip_nil]
    simp only
    split
    · rfl
    · split <;> rfl

lemma passes_cons (c : Char) : Passes fun (name, rest) => some (c :: name, rest) :=
  fun name => Or.inr ⟨c :: name, fun _ => rfl⟩

lemma readName_suffix {fuel : Nat} {name : List Char} (h : readName f fuel s = some (name, r)) :
    r <:+ s := by
  induction fuel generalizing s name with
  | zero => cases h
  | succ fuel ih =>
    cases s with
    | nil => cases h
    | cons c s =>
      rw [readName] at h
      split at h
      · cases h
        exact List.suffix_cons c _
      · obtain ⟨name, hread⟩ := (passes_cons c).exists_of_bind h
        exact ((ih hread).trans (f.skip_suffix s)).trans (List.suffix_cons c s)

lemma readName_nil (fuel : Nat) : readName f fuel [] = none := by
  cases fuel <;> rfl

lemma readName_cut {fuel fuel' : Nat} {s : List Char} (hs : s.length < fuel)
    (hs' : (s ++ ')' :: u).length < fuel') :
    Cut u u.length (readName f fuel s) (readName f fuel' (s ++ ')' :: u)) := by
  induction fuel generalizing fuel' s with
  | zero => omega
  | succ fuel ih =>
    obtain ⟨fuel', rfl⟩ : ∃ n, fuel' = n + 1 := ⟨fuel' - 1, by omega⟩
    cases s with
    | nil =>
      -- The bracket and more may be part of a name.
      refine .failed fun name r h => ?_
      obtain ⟨name, hread⟩ := (passes_cons ')').exists_of_bind h
      exact ((readName_suffix hread).trans (f.skip_suffix u)).length_le
    | cons c s =>
      simp only [List.cons_append, List.length_cons, List.length_append] at hs hs' ih ⊢
      rw [readName, readName]
      split
      · exact .within [] s rfl rfl
      · refine Cut.pass ?_ (passes_cons c)
        refine Cut.skip (fun r hr => ih (by omega) (by omega)) ?_ (Or.inl (readName_nil _))
        intro name r r' hr h
        exact (readName_suffix h).length_le.trans hr

lemma passes_property (negated : Bool) : Passes fun (name, rest) =>
    if f.unicode then do return (Atom.set (← f.foldAndNegate negated (← name)), rest) else none := by
  intro name
  cases f.unicode with
  | false => exact Or.inl fun _ => rfl
  | true =>
    cases name with
    | none => exact Or.inl fun _ => rfl
    | some set =>
      cases h : f.foldAndNegate negated set with
      | none => exact Or.inl fun _ => by simp [h]
      | some set' => exact Or.inr ⟨.set set', fun _ => by simp [h]⟩

lemma Passes.comp {γ : Type} {g : α × List Char → Option (β × List Char)} (hg : Passes g)
    (h : γ → α) : Passes fun (a, r) => g (h a, r) :=
  fun a => hg (h a)

lemma readProperty_of_ne {negated : Bool} {c : Char} {rest : List Char}
    (hskip : f.skip s = c :: rest) (hc : c ≠ '\x7b') :
    readProperty f negated s = if c = '\x5c' then none else
      some (named? [c], f.skip rest) >>= fun (name, rest) =>
        if f.unicode then do return (Atom.set (← f.foldAndNegate negated (← name)), rest) else none := by
  rw [readProperty, hskip]
  split
  · rename_i h
    cases h
  · rename_i h
    exact absurd (List.cons.inj h).1 hc
  · rename_i h
    obtain ⟨rfl, rfl⟩ := List.cons.inj h
    split <;> rfl

lemma readProperty_suffix {negated : Bool} {a : Atom} (h : readProperty f negated s = some (a, r)) :
    r <:+ s := by
  refine List.IsSuffix.trans ?_ (f.skip_suffix s)
  cases hs : f.skip s with
  | nil =>
    rw [readProperty, hs] at h
    cases h
  | cons c rest =>
    by_cases hc : c = '\x7b'
    · subst hc
      simp only [readProperty, hs] at h
      obtain ⟨name, hread⟩ := ((passes_property negated).comp propertySet?).exists_of_bind h
      exact ((readName_suffix hread).trans (f.skip_suffix rest)).trans (List.suffix_cons _ rest)
    · rw [readProperty_of_ne hs hc] at h
      split at h
      · cases h
      · obtain ⟨name, hread⟩ := (passes_property negated).exists_of_bind h
        cases hread
        exact (f.skip_suffix rest).trans (List.suffix_cons _ rest)

lemma readProperty_cut (negated : Bool) (s : List Char) :
    Cut u u.length (readProperty f negated s) (readProperty f negated (s ++ ')' :: u)) := by
  refine Cut.of_skip (f := f) ?_ ?_ ?_ ?_
  · intro s
    simp only [readProperty, Flags.skip_skip]
  · intro r _ hr hr'
    cases r with
    | nil =>
      have halone : readProperty f negated [] = none := by
        rw [readProperty, hr]
        rfl
      rw [halone]
      refine .failed fun a r h => ?_
      rw [readProperty_of_ne hr' (by decide), if_neg (by decide)] at h
      obtain ⟨name, hread⟩ := (passes_property negated).exists_of_bind h
      cases hread
      exact (f.skip_suffix u).length_le
    | cons c rest =>
      rw [List.cons_append] at hr' ⊢
      by_cases hc : c = '\x7b'
      · subst hc
        simp only [readProperty, hr, hr']
        refine Cut.pass ?_ ((passes_property negated).comp propertySet?)
        refine Cut.skip ?_ ?_ (Or.inl (readName_nil _))
        · intro r hr
          exact readName_cut (by omega) (by simp; omega)
        · intro a r r' hr h
          exact (readName_suffix h).length_le.trans hr
      · rw [readProperty_of_ne hr hc, readProperty_of_ne hr' hc]
        split
        · exact .neither
        · exact (Cut.skipped (named? [c])).pass (passes_property negated)
  · intro a r r' hr h
    exact (readProperty_suffix h).length_le.trans hr
  · rw [readProperty, Flags.skip_nil]
    rfl

def readWhile (kind : Char → Bool) (f : Flags) : Nat → List Char → List Char × List Char
  | 0, s => ([], s)
  | _ + 1, [] => ([], [])
  | fuel + 1, c :: s =>
    if kind c then
      (c :: (readWhile kind f fuel (f.skip s)).1, (readWhile kind f fuel (f.skip s)).2)
    else ([], c :: s)

section Runs

variable {kind : Char → Bool}

lemma readWhile_nil (kind : Char → Bool) (fuel : Nat) : readWhile kind f fuel [] = ([], []) := by
  cases fuel <;> rfl

lemma readWhile_suffix (kind : Char → Bool) (fuel : Nat) (s : List Char) :
    (readWhile kind f fuel s).2 <:+ s := by
  induction fuel generalizing s with
  | zero => exact List.suffix_refl s
  | succ fuel ih =>
    cases s with
    | nil => exact List.suffix_refl []
    | cons c s =>
      rw [readWhile]
      split
      · exact ((ih _).trans (f.skip_suffix s)).trans (List.suffix_cons c s)
      · exact List.suffix_refl _

lemma readWhile_cut (hkind : kind ')' = false) {fuel fuel' : Nat} {s : List Char}
    (hs : s.length ≤ fuel) (hs' : (s ++ ')' :: u).length ≤ fuel') :
    Cut u u.length (some (readWhile kind f fuel s))
      (some (readWhile kind f fuel' (s ++ ')' :: u))) := by
  induction fuel generalizing fuel' s with
  | zero =>
    obtain rfl := List.eq_nil_of_length_eq_zero (Nat.le_zero.mp hs)
    obtain ⟨fuel', rfl⟩ : ∃ n, fuel' = n + 1 := ⟨fuel' - 1, by simp at hs'; omega⟩
    exact .within [] [] rfl (by simp [readWhile, hkind])
  | succ fuel ih =>
    simp only [List.length_append, List.length_cons] at hs' ih
    obtain ⟨fuel', rfl⟩ : ∃ n, fuel' = n + 1 := ⟨fuel' - 1, by omega⟩
    cases s with
    | nil => exact .within [] [] rfl (by simp [readWhile, hkind])
    | cons c s =>
      simp only [List.length_cons] at hs hs'
      rw [List.cons_append, readWhile, readWhile]
      split
      · refine Cut.pass (x := some (readWhile kind f fuel (f.skip s)))
          (y := some (readWhile kind f fuel' (f.skip (s ++ ')' :: u)))) ?_ (passes_cons c)
        refine Cut.skip (g := fun r => some (readWhile kind f fuel r))
          (p := fun r => some (readWhile kind f fuel' r)) ?_ ?_ ?_
        · exact fun r hr => ih (by omega) (by omega)
        · intro a r r' hr h
          have hsuffix := readWhile_suffix (f := f) kind fuel' r
          rw [Option.some.inj h] at hsuffix
          exact hsuffix.length_le.trans hr
        · exact Or.inr ⟨[], by rw [readWhile_nil], by rw [readWhile_nil]⟩
      · exact .within [] (c :: s) rfl rfl

end Runs

lemma readEdgeName_eq (fuel : Nat) (s : List Char) :
    readEdgeName f fuel s = readWhile (fun c => c.isAlpha || c == '-') f fuel s := by
  induction fuel generalizing s with
  | zero => rfl
  | succ fuel ih =>
    cases s with
    | nil => rfl
    | cons c s => rw [readEdgeName, readWhile, ih]

lemma readEdgeName_suffix (fuel : Nat) (s : List Char) : (readEdgeName f fuel s).2 <:+ s := by
  rw [readEdgeName_eq]
  exact readWhile_suffix _ fuel s

lemma readEdgeName_cut {fuel fuel' : Nat} {s : List Char} (hs : s.length ≤ fuel)
    (hs' : (s ++ ')' :: u).length ≤ fuel') :
    Cut u u.length (some (readEdgeName f fuel s)) (some (readEdgeName f fuel' (s ++ ')' :: u))) := by
  rw [readEdgeName_eq, readEdgeName_eq]
  exact readWhile_cut rfl hs hs'

def edge? (f : Flags) (name : List Char) : Option Look :=
  match String.ofList name with
  | "start" => some (.wordStart f.unicode)
  | "end" => some (.wordStop f.unicode)
  | "start-half" => some (.wordStartHalf f.unicode)
  | "end-half" => some (.wordStopHalf f.unicode)
  | _ => none

/-- A word boundary and a brace behind it. Alone it is not read, since the brace has nothing behind
it; in front of a bracket the brace is left for a repetition, which cannot be read either. -/
def Dangles (f : Flags) (u : List Char) (x y : Option (Atom × List Char)) : Prop :=
  x = none ∧ ∃ l w, y = some (.look l, '\x7b' :: w ++ ')' :: u) ∧ f.skip w = []

section Edges

variable {inside cs name rest : List Char} {c : Char} {a : Atom}

lemma readEdge_of_ne (h : ∀ rest, s ≠ '\x7b' :: rest) :
    readEdge f s = some (.look (.wordEdge f.unicode), s) := by
  rw [readEdge]
  exact h

lemma readEdge_of_end (h : f.skip inside = []) : readEdge f ('\x7b' :: inside) = none := by
  rw [readEdge]
  simp only [h]

lemma readEdge_of_other (hskip : f.skip inside = c :: cs)
    (hc : (c.isAlpha || c == '-') = false) :
    readEdge f ('\x7b' :: inside) = some (.look (.wordEdge f.unicode), '\x7b' :: inside) := by
  rw [readEdge]
  simp only [hskip, hc]
  rfl

lemma readEdge_of_name (hskip : f.skip inside = c :: cs)
    (hc : (c.isAlpha || c == '-') = true)
    (hname : readEdgeName f (cs.length + 1) (c :: cs) = (name, '\x7d' :: rest)) :
    readEdge f ('\x7b' :: inside) = (edge? f name).map fun l => (.look l, rest) := by
  rw [readEdge]
  simp only [hskip, hc, hname, if_true, edge?]
  split <;> simp [*]

lemma readEdge_of_not_name (hskip : f.skip inside = c :: cs)
    (hc : (c.isAlpha || c == '-') = true)
    (hname : ∀ rest, (readEdgeName f (cs.length + 1) (c :: cs)).2 ≠ '\x7d' :: rest) :
    readEdge f ('\x7b' :: inside) = none := by
  rw [readEdge]
  simp only [hskip, hc, if_true]
  split
  · rename_i name rest h
    exact absurd (congrArg Prod.snd h) (hname rest)
  · rfl

lemma readEdge_left (hskip : f.skip inside = c :: cs) (hc : (c.isAlpha || c == '-') = true)
    (h : readEdge f ('\x7b' :: inside) = some (a, r)) :
    (readEdgeName f (cs.length + 1) (c :: cs)).2 = '\x7d' :: r := by
  rcases cons_or_ne '\x7d' ((readEdgeName f (cs.length + 1) (c :: cs)).2) with ⟨rest, hname⟩ | hne
  · rw [readEdge_of_name hskip hc (Prod.ext rfl hname), Option.map_eq_some_iff] at h
    obtain ⟨l, -, h⟩ := h
    rw [hname, (Prod.mk.inj h).2]
  · rw [readEdge_of_not_name hskip hc hne] at h
    cases h

lemma readEdge_suffix (h : readEdge f s = some (a, r)) : r <:+ s := by
  rcases cons_or_ne '\x7b' s with ⟨inside, rfl⟩ | hne
  · cases hskip : f.skip inside with
    | nil =>
      rw [readEdge_of_end hskip] at h
      cases h
    | cons c cs =>
      cases hc : c.isAlpha || c == '-' with
      | false =>
        rw [readEdge_of_other hskip hc] at h
        cases h
        exact List.suffix_refl _
      | true =>
        have hleft := readEdgeName_suffix (f := f) (cs.length + 1) (c :: cs)
        rw [readEdge_left hskip hc h, ← hskip] at hleft
        exact ((List.suffix_cons _ r).trans (hleft.trans (f.skip_suffix inside))).trans
          (List.suffix_cons _ inside)
  · rw [readEdge_of_ne hne] at h
    cases h
    exact List.suffix_refl _

lemma readEdge_cut_name (hskip : f.skip inside = c :: cs)
    (hframed : f.skip (inside ++ ')' :: u) = c :: (cs ++ ')' :: u))
    (hc : (c.isAlpha || c == '-') = true) : Cut u u.length (readEdge f ('\x7b' :: inside))
      (readEdge f ('\x7b' :: (inside ++ ')' :: u))) := by
  have hcut := readEdgeName_cut (f := f) (u := u) (s := c :: cs) (le_refl (cs.length + 1))
    (le_refl ((cs ++ ')' :: u).length + 1))
  rw [List.cons_append] at hcut
  cases hcut with
  | within name rest hname hname' =>
    have hname := Option.some.inj hname
    have hname' := Option.some.inj hname'
    rcases cons_or_ne '\x7d' rest with ⟨behind, rfl⟩ | hne
    · rw [readEdge_of_name hskip hc hname, readEdge_of_name hframed hc hname']
      cases edge? f name with
      | none => exact .neither
      | some l => exact .within _ _ rfl rfl
    · have hne' := framed_ne (u := u) (by decide) hne
      rw [readEdge_of_not_name hskip hc (by rwa [hname]),
        readEdge_of_not_name hframed hc (by rwa [hname'])]
      exact .neither
  | beyond hleft hswallowed =>
    refine .beyond ?_ ?_
    · intro a r h
      have hclosed := readEdge_left hframed hc h
      rcases hread : readEdgeName f ((cs ++ ')' :: u).length + 1) (c :: (cs ++ ')' :: u))
        with ⟨name, rest⟩
      have hlength := hleft name rest (congrArg some hread)
      rw [hread] at hclosed
      dsimp only at hclosed
      rw [hclosed, List.length_cons] at hlength
      omega
    · intro hline
      rcases hswallowed hline with h | ⟨name, h, -⟩
      · cases h
      · left
        apply readEdge_of_not_name hskip hc
        rw [Option.some.inj h]
        nofun

-- Only a brace with blanks in it makes a difference: alone it has no end, and in front of a bracket it
-- has no name.
lemma readEdge_cut (s : List Char) : Cut u u.length (readEdge f s) (readEdge f (s ++ ')' :: u)) ∨
    Dangles f u (readEdge f s) (readEdge f (s ++ ')' :: u)) := by
  rcases cons_or_ne '\x7b' s with ⟨inside, rfl⟩ | hne
  · rw [List.cons_append]
    rcases f.skip_append inside u with hframed | ⟨hskip, hshort, -⟩
    · cases hskip : f.skip inside with
      | nil =>
        rw [hskip, List.nil_append] at hframed
        rw [readEdge_of_end hskip, readEdge_of_other hframed (by decide)]
        exact Or.inr ⟨rfl, _, inside, rfl, hskip⟩
      | cons c cs =>
        rw [hskip, List.cons_append] at hframed
        cases hc : c.isAlpha || c == '-' with
        | false =>
          rw [readEdge_of_other hskip hc, readEdge_of_other hframed hc]
          exact Or.inl (.within _ _ rfl rfl)
        | true => exact Or.inl (readEdge_cut_name hskip hframed hc)
    · rw [readEdge_of_end hskip]
      cases hframed : f.skip (inside ++ ')' :: u) with
      | nil =>
        rw [readEdge_of_end hframed]
        exact Or.inl .neither
      | cons c cs =>
        rw [hframed] at hshort
        cases hc : c.isAlpha || c == '-' with
        | false =>
          rw [readEdge_of_other hframed hc]
          exact Or.inr ⟨rfl, _, inside, rfl, hskip⟩
        | true =>
          refine Or.inl (.failed fun a r h => ?_)
          have hleft := (readEdgeName_suffix (f := f) (cs.length + 1) (c :: cs)).length_le
          rw [readEdge_left hframed hc h, List.length_cons] at hleft
          omega
  · rw [readEdge_of_ne hne, readEdge_of_ne (framed_ne (by decide) hne)]
    exact Or.inl (.within _ _ rfl rfl)

end Edges

inductive EscapeRule (f : Flags) (c : Char) : Prop
  | hex (eq : ∀ rest, readEscape f (c :: rest) = readHex f c rest)
  | property (negated : Bool) (eq : ∀ rest, readEscape f (c :: rest) = readProperty f negated rest)
  | edge (eq : ∀ rest, readEscape f (c :: rest) = readEdge f rest)
  | plain (atom : Option Atom) (eq : ∀ rest, readEscape f (c :: rest) = atom.map (·, rest))

lemma escapeRule (f : Flags) (c : Char) : EscapeRule f c := by
  by_cases hx : c = 'x' ∨ c = 'u' ∨ c = 'U'
  · rcases hx with rfl | rfl | rfl <;> exact .hex fun _ => rfl
  by_cases hp : c = 'p' ∨ c = 'P'
  · rcases hp with rfl | rfl
    · exact .property false fun _ => rfl
    · exact .property true fun _ => rfl
  by_cases hb : c = 'b'
  · subst hb
    exact .edge fun _ => rfl
  · refine .plain ((readEscape f [c]).map Prod.fst) fun rest => ?_
    simp only [not_or] at hx hp
    obtain ⟨hx, hu, hU⟩ := hx
    obtain ⟨hp, hP⟩ := hp
    simp only [readEscape]
    split <;> simp_all [Function.comp_def]

lemma readEscape_suffix {a : Atom} (h : readEscape f s = some (a, r)) : r <:+ s := by
  cases s with
  | nil => cases h
  | cons c s =>
    refine List.IsSuffix.trans ?_ (List.suffix_cons c s)
    cases escapeRule f c with
    | hex eq => exact readHex_suffix (eq s ▸ h)
    | property negated eq => exact readProperty_suffix (eq s ▸ h)
    | edge eq => exact readEdge_suffix (eq s ▸ h)
    | plain atom eq =>
      rw [eq, Option.map_eq_some_iff] at h
      obtain ⟨a, -, h⟩ := h
      cases h
      exact List.suffix_refl _

lemma readEscape_cut (s : List Char) :
    Cut u u.length (readEscape f s) (readEscape f (s ++ ')' :: u)) ∨
      Dangles f u (readEscape f s) (readEscape f (s ++ ')' :: u)) := by
  cases s with
  | nil =>
    refine Or.inl (.failed fun a r h => ?_)
    cases h
    exact le_refl _
  | cons c s =>
    rw [List.cons_append]
    cases escapeRule f c with
    | hex eq =>
      rw [eq, eq]
      exact Or.inl (readHex_cut c s)
    | property negated eq =>
      rw [eq, eq]
      exact Or.inl (readProperty_cut negated s)
    | edge eq =>
      rw [eq, eq]
      exact readEdge_cut s
    | plain atom eq =>
      rw [eq, eq]
      cases atom with
      | none => exact Or.inl .neither
      | some a => exact Or.inl (.within a s rfl rfl)

end ClassBatch.Regex
