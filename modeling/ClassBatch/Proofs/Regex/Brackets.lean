import ClassBatch.Regex.Bracket
import ClassBatch.Proofs.Regex.Escapes
import Mathlib.Data.List.TakeWhile

/-! Reading a set in brackets that has more text behind it. A bracket that is not closed within a text
may go on behind it, but then never gives back the closing bracket of the group around it. -/

namespace ClassBatch.Regex

open Unicode

variable {u s r : List Char} {k : Nat} {f : Flags}

section AsciiClasses

variable {name : List Char}

lemma not_mem_of_asciiClass? {set : CharSet} (h : asciiClass? name = some set) : ')' ∉ name := by
  have hnames : ∀ text ∈ ["alnum", "alpha", "ascii", "blank", "cntrl", "digit", "graph", "lower",
      "print", "punct", "space", "upper", "word", "xdigit"], ')' ∉ text.toList := by decide
  have hname : (String.ofList name).toList = name := String.toList_ofList
  rw [asciiClass?] at h
  rw [← hname]
  apply hnames
  split at h <;> simp_all

def readAsciiName (negated : Bool) (s : List Char) : Option ((CharSet × Bool) × List Char) := do
  let rest ← Text.afterStart? [':', ']'] (s.dropWhile (· ≠ ':'))
  return ((← asciiClass? (s.takeWhile (· ≠ ':')), negated), rest)

lemma readAsciiClass_caret (s : List Char) :
    readAsciiClass (':' :: '^' :: s) = readAsciiName true s := rfl

lemma readAsciiClass_colon (h : ∀ rest, s ≠ '^' :: rest) :
    readAsciiClass (':' :: s) = readAsciiName false s := by
  have hstart : Text.afterStart? [':'] (':' :: s) = some s := rfl
  rw [readAsciiClass, hstart]
  simp only [Option.bind_eq_bind, Option.bind_some]
  rfl

lemma readAsciiClass_of_ne (h : ∀ rest, s ≠ ':' :: rest) : readAsciiClass s = none := by
  have hstart : Text.afterStart? [':'] s = none := by
    cases s with
    | nil => rfl
    | cons c s =>
      have hc : ':' ≠ c := fun hc => h s (hc ▸ rfl)
      rw [Text.afterStart?, if_neg hc]
  rw [readAsciiClass, hstart]
  rfl

lemma takeWhile_colon (h : ':' ∉ name) (s : List Char) :
    (name ++ ':' :: s).takeWhile (· ≠ ':') = name := by
  have hname : ∀ c ∈ name, decide (c ≠ ':') = true := fun c hc =>
    decide_eq_true (ne_of_mem_of_not_mem hc h)
  rw [List.takeWhile_append_of_pos hname]
  simp

lemma dropWhile_colon (h : ':' ∉ name) (s : List Char) :
    (name ++ ':' :: s).dropWhile (· ≠ ':') = ':' :: s := by
  have hname : ∀ c ∈ name, decide (c ≠ ':') = true := fun c hc =>
    decide_eq_true (ne_of_mem_of_not_mem hc h)
  rw [List.dropWhile_append_of_pos hname]
  simp

lemma readAsciiName_append (negated : Bool) (s u : List Char) :
    readAsciiName negated (s ++ ')' :: u) =
      (readAsciiName negated s).map fun (found, rest) => (found, rest ++ ')' :: u) := by
  by_cases hcolon : ':' ∈ s
  · obtain ⟨name, rest, rfl, hname⟩ := List.eq_append_cons_of_mem hcolon
    have hstart : Text.afterStart? [':', ']'] (':' :: (rest ++ ')' :: u)) =
        (Text.afterStart? [':', ']'] (':' :: rest)).map (· ++ ')' :: u) := by
      cases rest with
      | nil => rfl
      | cons c rest =>
        by_cases hc : ']' = c
        · subst hc
          rfl
        · simp [Text.afterStart?, hc]
    rw [List.append_assoc, List.cons_append]
    simp only [readAsciiName, takeWhile_colon hname, dropWhile_colon hname, hstart]
    cases Text.afterStart? [':', ']'] (':' :: rest) with
    | none => rfl
    | some rest' => cases asciiClass? name <;> rfl
  · have hname : ∀ c ∈ s, decide (c ≠ ':') = true := fun c hc =>
      decide_eq_true (ne_of_mem_of_not_mem hc hcolon)
    have halone : readAsciiName negated s = none := by
      rw [readAsciiName, List.dropWhile_eq_nil_iff.mpr hname]
      rfl
    have hbracket : ')' ∈ (s ++ ')' :: u).takeWhile (· ≠ ':') := by
      rw [List.takeWhile_append_of_pos hname]
      simp
    rw [halone, readAsciiName]
    cases hset : asciiClass? ((s ++ ')' :: u).takeWhile (· ≠ ':')) with
    | none => cases Text.afterStart? [':', ']'] ((s ++ ')' :: u).dropWhile (· ≠ ':')) <;> rfl
    | some set => exact absurd hbracket (not_mem_of_asciiClass? hset)

lemma readAsciiClass_append (s u : List Char) :
    readAsciiClass (s ++ ')' :: u) =
      (readAsciiClass s).map fun (found, rest) => (found, rest ++ ')' :: u) := by
  rcases cons_or_ne ':' s with ⟨rest, rfl⟩ | hne
  · rw [List.cons_append]
    rcases cons_or_ne '^' rest with ⟨behind, rfl⟩ | hne
    · exact readAsciiName_append true behind u
    · rw [readAsciiClass_colon hne, readAsciiClass_colon (framed_ne (by decide) hne)]
      exact readAsciiName_append false rest u
  · rw [readAsciiClass_of_ne hne, readAsciiClass_of_ne (framed_ne (by decide) hne)]
    rfl

lemma readAsciiName_suffix {negated : Bool} {found : CharSet × Bool}
    (h : readAsciiName negated s = some (found, r)) : r <:+ s := by
  obtain ⟨rest, hrest, h⟩ := Option.bind_eq_some_iff.mp h
  obtain ⟨set, -, h⟩ := Option.bind_eq_some_iff.mp h
  cases h
  have hdrop := List.dropWhile_suffix (l := s) (fun c : Char => decide (c ≠ ':'))
  rw [Text.afterStart?_eq_some hrest] at hdrop
  exact (List.suffix_append _ r).trans hdrop

lemma readAsciiClass_suffix {found : CharSet × Bool} (h : readAsciiClass s = some (found, r)) :
    r <:+ s := by
  rcases cons_or_ne ':' s with ⟨rest, rfl⟩ | hne
  · refine List.IsSuffix.trans ?_ (List.suffix_cons _ rest)
    rcases cons_or_ne '^' rest with ⟨behind, rfl⟩ | hne
    · exact (readAsciiName_suffix (readAsciiClass_caret behind ▸ h)).trans (List.suffix_cons _ behind)
    · rw [readAsciiClass_colon hne] at h
      exact readAsciiName_suffix h
  · rw [readAsciiClass_of_ne hne] at h
    cases h

end AsciiClasses

section Openings

variable {items : Items} {negated : Bool} {opened : Bool × Items}

lemma readHyphens_of_ne (h : ∀ rest, s ≠ '-' :: rest) (fuel : Nat) :
    readHyphens f items fuel s = (items, s) := by
  cases fuel with
  | zero => rfl
  | succ fuel =>
    rw [readHyphens]
    exact h

lemma readHyphens_nil (items : Items) (fuel : Nat) : readHyphens f items fuel [] = (items, []) :=
  readHyphens_of_ne (by simp) fuel

lemma readHyphens_suffix (items : Items) (fuel : Nat) (s : List Char) :
    (readHyphens f items fuel s).2 <:+ s := by
  induction fuel generalizing items s with
  | zero => exact List.suffix_refl s
  | succ fuel ih =>
    rcases cons_or_ne '-' s with ⟨rest, rfl⟩ | hne
    · exact ((ih _ _).trans (f.skip_suffix rest)).trans (List.suffix_cons _ rest)
    · rw [readHyphens_of_ne hne]

lemma readHyphens_cut {fuel fuel' : Nat} (hs : s.length ≤ fuel)
    (hs' : (s ++ ')' :: u).length ≤ fuel') :
    Cut u u.length (some (readHyphens f items fuel s))
      (some (readHyphens f items fuel' (s ++ ')' :: u))) := by
  induction fuel generalizing fuel' items s with
  | zero =>
    obtain rfl := List.eq_nil_of_length_eq_zero (Nat.le_zero.mp hs)
    rw [readHyphens_nil, readHyphens_of_ne (framed_ne (by decide) (by simp))]
    exact .within items [] rfl rfl
  | succ fuel ih =>
    rcases cons_or_ne '-' s with ⟨rest, rfl⟩ | hne
    · simp only [List.cons_append, List.length_cons, List.length_append] at hs hs' ih ⊢
      obtain ⟨fuel', rfl⟩ : ∃ n, fuel' = n + 1 := ⟨fuel' - 1, by omega⟩
      rw [readHyphens, readHyphens]
      refine Cut.skip (g := fun r => some (readHyphens f _ fuel r))
        (p := fun r => some (readHyphens f _ fuel' r)) ?_ ?_ ?_
      · exact fun r hr => ih (by omega) (by omega)
      · intro items' r r' hr h
        have hsuffix := readHyphens_suffix (f := f) (items.push (CharSet.single '-')) fuel' r
        rw [Option.some.inj h] at hsuffix
        exact hsuffix.length_le.trans hr
      · exact Or.inr ⟨_, by rw [readHyphens_nil], by rw [readHyphens_nil]⟩
    · rw [readHyphens_of_ne hne, readHyphens_of_ne (framed_ne (by decide) hne)]
      exact .within items s rfl rfl

def openBehind (f : Flags) (negated : Bool) :
    Items × List Char → Option ((Bool × Items) × List Char)
  | (_, []) => none
  | (items, ']' :: rest) =>
    if items.count = 0 then
      match f.skip rest with
      | [] => none
      | rest => some ((negated, items.push (CharSet.single ']')), rest)
    else some ((negated, items), ']' :: rest)
  | (items, rest) => some ((negated, items), rest)

lemma openBracket_caret {rest : List Char} (hskip : f.skip s = '^' :: rest) : openBracket f s =
    openBehind f true (readHyphens f {} (f.skip rest).length (f.skip rest)) := by
  rw [openBracket]
  simp only [hskip]
  rfl

lemma openBracket_of_ne (h : ∀ rest, f.skip s ≠ '^' :: rest) : openBracket f s =
    openBehind f false (readHyphens f {} (f.skip s).length (f.skip s)) := by
  rw [openBracket]
  split
  rename_i heq
  split at heq
  · rename_i hskip
    exact absurd hskip (h _)
  · cases heq
    rfl

lemma openBehind_of_ne (hs : s ≠ []) (h : ∀ rest, s ≠ ']' :: rest) :
    openBehind f negated (items, s) = some ((negated, items), s) := by
  rw [openBehind]
  · exact hs
  · exact h

lemma openBehind_closing (hcount : items.count = 0) (rest : List Char) :
    openBehind f negated (items, ']' :: rest) = if f.skip rest = [] then none else
      some ((negated, items.push (CharSet.single ']')), f.skip rest) := by
  rw [openBehind, if_pos hcount]
  split
  · rename_i hnil
    rw [if_pos hnil]
  · rename_i hne
    rw [if_neg hne]

lemma openBehind_of_count (hcount : items.count ≠ 0) (rest : List Char) :
    openBehind f negated (items, ']' :: rest) = some ((negated, items), ']' :: rest) := by
  rw [openBehind, if_neg hcount]

lemma openBehind_suffix (h : openBehind f negated (items, s) = some (opened, r)) : r <:+ s := by
  by_cases hnil : s = []
  · subst hnil
    cases h
  rcases cons_or_ne ']' s with ⟨rest, rfl⟩ | hne
  · by_cases hcount : items.count = 0
    · rw [openBehind_closing hcount] at h
      split at h
      · cases h
      · cases h
        exact (f.skip_suffix rest).trans (List.suffix_cons _ rest)
    · rw [openBehind_of_count hcount] at h
      cases h
      exact List.suffix_refl _
  · rw [openBehind_of_ne hnil hne] at h
    cases h
    exact List.suffix_refl _

lemma openBehind_cut (negated : Bool) (items : Items) (s : List Char) :
    Cut u (u.length + 1) (openBehind f negated (items, s))
      (openBehind f negated (items, s ++ ')' :: u)) := by
  by_cases hnil : s = []
  · subst hnil
    exact .failed fun opened r h => (openBehind_suffix h).length_le
  rcases cons_or_ne ']' s with ⟨rest, rfl⟩ | hne
  · rw [List.cons_append]
    by_cases hcount : items.count = 0
    · rw [openBehind_closing hcount, openBehind_closing hcount]
      by_cases hskip : f.skip rest = []
      · rw [if_pos hskip]
        refine .failed fun opened r h => ?_
        split at h
        · cases h
        · cases h
          exact Flags.skip_append_length hskip u
      · rw [if_neg hskip, Flags.skip_append_of_ne hskip, if_neg (by simp)]
        exact .within _ _ rfl rfl
    · rw [openBehind_of_count hcount, openBehind_of_count hcount]
      exact .within _ _ rfl rfl
  · rw [openBehind_of_ne hnil hne, openBehind_of_ne (by simp) (framed_ne (by decide) hne)]
    exact .within _ _ rfl rfl

lemma hyphens_suffix
    (h : openBehind f negated (readHyphens f {} s.length s) = some (opened, r)) : r <:+ s :=
  (openBehind_suffix h).trans (readHyphens_suffix {} s.length s)

lemma hyphens_cut (negated : Bool) (s : List Char) :
    Cut u (u.length + 1) (openBehind f negated (readHyphens f {} s.length s))
      (openBehind f negated (readHyphens f {} (s ++ ')' :: u).length (s ++ ')' :: u))) := by
  refine Cut.bind (g := openBehind f negated) (p := openBehind f negated)
    (readHyphens_cut (le_refl _) (le_refl _)) ?_ ?_ ?_
  · exact fun items r _ => openBehind_cut negated items r
  · intro items r opened r' hr h
    exact ((openBehind_suffix h).length_le.trans hr).trans (Nat.le_succ _)
  · exact fun items => Or.inl rfl

lemma openBracket_suffix (h : openBracket f s = some (opened, r)) : r <:+ s := by
  refine List.IsSuffix.trans ?_ (f.skip_suffix s)
  rcases cons_or_ne '^' (f.skip s) with ⟨rest, hskip⟩ | hne
  · rw [openBracket_caret hskip] at h
    rw [hskip]
    exact ((hyphens_suffix h).trans (f.skip_suffix rest)).trans (List.suffix_cons _ rest)
  · rw [openBracket_of_ne hne] at h
    exact hyphens_suffix h

lemma openBracket_cut (s : List Char) :
    Cut u (u.length + 1) (openBracket f s) (openBracket f (s ++ ')' :: u)) := by
  refine Cut.of_skip (f := f) ?_ ?_ ?_ ?_
  · intro s
    simp only [openBracket, Flags.skip_skip]
  · intro r _ hr hr'
    rcases cons_or_ne '^' r with ⟨rest, rfl⟩ | hne
    · rw [List.cons_append] at hr'
      rw [List.cons_append, openBracket_caret hr, openBracket_caret hr']
      refine Cut.skip (g := fun r => openBehind f true (readHyphens f {} r.length r))
        (p := fun r => openBehind f true (readHyphens f {} r.length r)) ?_ ?_ (Or.inl rfl)
      · exact fun r _ => hyphens_cut true r
      · intro opened r r' hr h
        exact ((hyphens_suffix h).length_le.trans hr).trans (Nat.le_succ _)
    · have hne' := framed_ne (u := u) (by decide) hne
      rw [openBracket_of_ne (by rwa [hr]), openBracket_of_ne (by rwa [hr']), hr, hr']
      exact hyphens_cut false r
  · intro opened r r' hr h
    exact ((openBracket_suffix h).length_le.trans hr).trans (Nat.le_succ _)
  · rw [openBracket_of_ne (by simp), Flags.skip_nil]
    rfl

end Openings

structure Behind (r s : List Char) : Prop where
  suffix : r <:+ s
  shorter : r.length < s.length

lemma Behind.of_suffix (c : Char) (h : r <:+ s) : Behind r (c :: s) :=
  ⟨h.trans (List.suffix_cons c s), Nat.lt_succ_of_le h.length_le⟩

lemma Behind.trans_suffix {t : List Char} (h : Behind r s) (hs : s <:+ t) : Behind r t :=
  ⟨h.suffix.trans hs, h.shorter.trans_le hs.length_le⟩

lemma Behind.of_suffix_behind {t : List Char} (hr : r <:+ s) (h : Behind s t) : Behind r t :=
  ⟨hr.trans h.suffix, hr.length_le.trans_lt h.shorter⟩

section Ranges

variable {a : Atom} {behind : List Char}

lemma readItem_of_ne {c : Char} (hc : c ≠ '\x5c') (s : List Char) :
    readItem f (c :: s) = some (.char c false, s) := by
  rw [readItem]
  exact hc

lemma readItem_behind (h : readItem f s = some (a, r)) : Behind r s := by
  cases s with
  | nil => cases h
  | cons c s =>
    refine .of_suffix c ?_
    by_cases hc : c = '\x5c'
    · subst hc
      exact readEscape_suffix h
    · rw [readItem_of_ne hc] at h
      cases h
      exact List.suffix_refl _

lemma readItem_cut (s : List Char) : Cut u u.length (readItem f s) (readItem f (s ++ ')' :: u)) ∨
    Dangles f u (readItem f s) (readItem f (s ++ ')' :: u)) := by
  cases s with
  | nil =>
    refine Or.inl (.failed fun a r h => ?_)
    rw [List.nil_append, readItem_of_ne (by decide)] at h
    cases h
    exact le_refl _
  | cons c s =>
    rw [List.cons_append]
    by_cases hc : c = '\x5c'
    · subst hc
      exact readEscape_cut s
    · rw [readItem_of_ne hc, readItem_of_ne hc]
      exact Or.inl (.within _ _ rfl rfl)

lemma Dangles.cut {β : Type} {x y : Option (Atom × List Char)}
    {g p : Atom × List Char → Option (β × List Char)} (h : Dangles f u x y)
    (hp : ∀ l w, p (.look l, '\x7b' :: w) = none) : Cut u k (x >>= g) (y >>= p) := by
  obtain ⟨halone, l, w, hframed, -⟩ := h
  have hnone : y >>= p = none := by
    rw [hframed]
    exact hp l _
  rw [halone, hnone]
  exact .neither

lemma peekBlanks_append (inComment : Bool) (s u : List Char) (fallback fallback' : Option Char) :
    peekBlanks inComment fallback' (s ++ ')' :: u) = peekBlanks inComment fallback s ∨
      peekBlanks inComment fallback s = fallback ∧
        peekBlanks inComment fallback' (s ++ ')' :: u) = some ')' := by
  induction s generalizing inComment with
  | nil =>
    right
    simp [peekBlanks, Text.isBlank]
  | cons c s ih =>
    rw [List.cons_append, peekBlanks, peekBlanks]
    split_ifs
    · exact ih _
    · exact ih _
    · exact Or.inl rfl

lemma peek_append_iff {c : Char} (hc : c = ']' ∨ c = '-') (s u : List Char) :
    f.peek (s ++ ')' :: u) = some c ↔ f.peek s = some c := by
  have hne : ')' ≠ c := by
    rcases hc with rfl | rfl <;> decide
  have hblank : Text.isBlank c = false := by
    rcases hc with rfl | rfl <;> decide
  have hhash : c ≠ '\x23' := by
    rcases hc with rfl | rfl <;> decide
  rw [Flags.peek, Flags.peek]
  split
  · rcases peekBlanks_append false s u s.head? (s ++ ')' :: u).head? with h | ⟨hfallback, h⟩
    · rw [h]
    · rw [h, hfallback, Option.some.injEq, iff_false_left hne]
      intro hhead
      obtain ⟨rest, rfl⟩ := List.head?_eq_some_iff.mp hhead
      rw [List.cons_append, peekBlanks] at h
      simp only [hblank, hhash, Bool.false_eq_true, if_false, Bool.and_eq_true, beq_iff_eq,
        and_false] at h
      exact hne (Option.some.inj h).symm
  · cases s with
    | nil => simp [hne]
    | cons d s => simp

def rangeTo (f : Flags) (first : Atom) : Atom × List Char → Option (CharSet × List Char) :=
  fun (last, rest) => do
    let lo ← itemChar? f first
    let hi ← itemChar? f last
    if lo ≤ hi then return ([⟨lo.toNat, hi.toNat⟩], rest) else none

def rangeBehind (f : Flags) (first : Atom) : List Char → Option (CharSet × List Char)
  | [] => none
  | '-' :: behind =>
    if f.peek behind = some ']' ∨ f.peek behind = some '-' then do
      return (← itemSet? f first, '-' :: behind)
    else readItem f (f.skip behind) >>= rangeTo f first
  | rest => do return (← itemSet? f first, rest)

lemma rangeBehind_of_ne (hs : s ≠ []) (h : ∀ rest, s ≠ '-' :: rest) :
    rangeBehind f a s = do return (← itemSet? f a, s) := by
  rw [rangeBehind]
  · exact hs
  · exact h

lemma readRangeItem_eq (s : List Char) : readRangeItem f s =
    readItem f s >>= fun (first, rest) => rangeBehind f first (f.skip rest) := by
  rw [readRangeItem]
  congr 1
  funext ⟨first, rest⟩
  dsimp only
  split
  · rename_i hskip
    rw [hskip]
    rfl
  · rename_i behind hskip
    rw [hskip, rangeBehind]
    split
    · rename_i hpeek
      rw [if_pos (Or.inl hpeek)]
    · rename_i hpeek
      rw [if_pos (Or.inr hpeek)]
    · rename_i hbracket hhyphen
      rw [if_neg (not_or_intro hbracket hhyphen)]
      rfl
  · rename_i hnil hne
    rw [rangeBehind_of_ne hnil hne]

lemma passes_rangeTo (first : Atom) : Passes (rangeTo f first) := by
  intro last
  cases hlo : itemChar? f first with
  | none => exact Or.inl fun _ => by simp [rangeTo, hlo]
  | some lo =>
    cases hhi : itemChar? f last with
    | none => exact Or.inl fun _ => by simp [rangeTo, hlo, hhi]
    | some hi =>
      by_cases hle : lo ≤ hi
      · exact Or.inr ⟨[⟨lo.toNat, hi.toNat⟩], fun _ => by simp [rangeTo, hlo, hhi, hle]⟩
      · exact Or.inl fun _ => by simp [rangeTo, hlo, hhi, hle]

variable {set : CharSet}

lemma rangeBehind_suffix (h : rangeBehind f a s = some (set, r)) : r <:+ s := by
  by_cases hnil : s = []
  · subst hnil
    cases h
  rcases cons_or_ne '-' s with ⟨behind, rfl⟩ | hne
  · rw [rangeBehind] at h
    split at h
    · obtain ⟨set, -, h⟩ := Option.bind_eq_some_iff.mp h
      cases h
      exact List.suffix_refl _
    · obtain ⟨last, hread⟩ := (passes_rangeTo a).exists_of_bind h
      exact ((readItem_behind hread).suffix.trans (f.skip_suffix behind)).trans
        (List.suffix_cons _ behind)
  · rw [rangeBehind_of_ne hnil hne] at h
    obtain ⟨set, -, h⟩ := Option.bind_eq_some_iff.mp h
    cases h
    exact List.suffix_refl _

lemma readRangeItem_behind (h : readRangeItem f s = some (set, r)) : Behind r s := by
  rw [readRangeItem_eq] at h
  obtain ⟨⟨first, rest⟩, hread, h⟩ := Option.bind_eq_some_iff.mp h
  exact .of_suffix_behind ((rangeBehind_suffix h).trans (f.skip_suffix rest)) (readItem_behind hread)

lemma itemSet_cut {k : Nat} (a : Atom) (s : List Char) :
    Cut u k (do return (← itemSet? f a, s)) (do return (← itemSet? f a, s ++ ')' :: u)) := by
  cases itemSet? f a with
  | none => exact .neither
  | some set => exact .within set s rfl rfl

lemma rangeBehind_cut (a : Atom) (s : List Char) :
    Cut u (u.length + 1) (rangeBehind f a s) (rangeBehind f a (s ++ ')' :: u)) := by
  by_cases hnil : s = []
  · subst hnil
    exact .failed fun set r h => (rangeBehind_suffix h).length_le
  rcases cons_or_ne '-' s with ⟨behind, rfl⟩ | hne
  · simp only [List.cons_append, rangeBehind, peek_append_iff (Or.inl rfl),
      peek_append_iff (Or.inr rfl)]
    split
    · exact itemSet_cut a _
    · refine Cut.skip (g := fun r => readItem f r >>= rangeTo f a)
        (p := fun r => readItem f r >>= rangeTo f a) ?_ ?_ (Or.inl rfl)
      · intro r _
        rcases readItem_cut r with hcut | hdangles
        · exact (hcut.pass (passes_rangeTo a)).mono (Nat.le_succ _)
        · refine hdangles.cut fun l w => ?_
          cases h : itemChar? f a <;> simp [rangeTo, itemChar?]
      · intro set r r' hr h
        obtain ⟨last, hread⟩ := (passes_rangeTo a).exists_of_bind h
        exact ((readItem_behind hread).suffix.length_le.trans hr).trans (Nat.le_succ _)
  · rw [rangeBehind_of_ne hnil hne, rangeBehind_of_ne (by simp) (framed_ne (by decide) hne)]
    exact itemSet_cut a s

lemma readRangeItem_cut (s : List Char) :
    Cut u (u.length + 1) (readRangeItem f s) (readRangeItem f (s ++ ')' :: u)) := by
  rw [readRangeItem_eq, readRangeItem_eq]
  rcases readItem_cut s with hcut | hdangles
  · refine hcut.bind ?_ ?_ ?_
    · intro a r _
      refine Cut.skip (fun r _ => rangeBehind_cut a r) ?_ (Or.inl rfl)
      intro set r r' hr h
      exact ((rangeBehind_suffix h).length_le.trans hr).trans (Nat.le_succ _)
    · intro a r set r' hr h
      have hlength := (rangeBehind_suffix h).length_le.trans (f.skip_suffix r).length_le
      exact (hlength.trans hr).trans (Nat.le_succ _)
    · intro a
      dsimp only
      rw [Flags.skip_nil]
      exact Or.inl rfl
  · -- A boundary of words is no item of a set.
    refine hdangles.cut fun l w => ?_
    dsimp only
    rw [f.skip_cons (by decide) (by decide), rangeBehind_of_ne (by simp) (by simp)]
    rfl

end Ranges

section Items

variable {stack : List BracketFrame} {items : Items}

def Operation.sign : Operation → Char
  | intersection => '&'
  | difference => '-'
  | symmetricDifference => '~'

def operator? : List Char → Option (Operation × List Char)
  | '&' :: '&' :: rest => some (.intersection, rest)
  | '-' :: '-' :: rest => some (.difference, rest)
  | '~' :: '~' :: rest => some (.symmetricDifference, rest)
  | _ => none

lemma operator?_eq_some {operation : Operation} :
    operator? s = some (operation, r) ↔ s = operation.sign :: operation.sign :: r := by
  constructor
  · intro h
    unfold operator? at h
    split at h
    · cases h
      rfl
    · cases h
      rfl
    · cases h
      rfl
    · cases h
  · rintro rfl
    cases operation <;> rfl

lemma operator?_append {c : Char} (h : operator? (c :: s) = none) :
    operator? (c :: s ++ ')' :: u) = none := by
  rw [Option.eq_none_iff_forall_ne_some]
  rintro ⟨operation, rest⟩ hframed
  obtain ⟨rfl, htail⟩ := List.cons.inj (operator?_eq_some.mp hframed)
  cases s with
  | nil =>
    obtain ⟨hsign, -⟩ := List.cons.inj htail
    cases operation <;> cases hsign
  | cons d s =>
    obtain ⟨rfl, -⟩ := List.cons.inj htail
    rw [operator?_eq_some.mpr rfl] at h
    cases h

def readElement (f : Flags) (stack : List BracketFrame) (items : Items) :
    List Char → Option ((List BracketFrame × Items) × List Char)
  | [] => none
  | '[' :: rest =>
    match readAsciiClass rest with
    | some ((set, negated), rest) =>
      (f.foldAndNegate negated set).map fun set => ((stack, items.push set), rest)
    | none => do
      let ((negated, inner), rest) ← openBracket f rest
      return ((.opened items negated :: stack, inner), rest)
  | s =>
    match operator? s with
    | some (operation, rest) =>
      let (left, depth, stack) := settleOperation f items.set items.level stack
      some ((.operand operation left depth :: stack, {}), rest)
    | none => do
      let (set, rest) ← readRangeItem f s
      return ((stack, items.push set), rest)

def closeBracket (f : Flags) (stack : List BracketFrame) (items : Items) :
    Option ((List BracketFrame × Items) ⊕ (CharSet × Nat)) :=
  match settleOperation f items.set items.level stack with
  | (set, depth, .opened outer negated :: stack) => do
    let set ← f.foldAndNegate negated set
    if stack.isEmpty then some (.inr (set, depth + 1))
    else some (.inl (stack, outer.push set (depth + 1)))
  | _ => none

lemma readBracketItems_of_end {fuel : Nat} (h : f.skip s = []) :
    readBracketItems f fuel stack items s = none := by
  cases fuel with
  | zero => rfl
  | succ fuel =>
    rw [readBracketItems]
    simp only [h]

lemma readBracketItems_skip (fuel : Nat) :
    readBracketItems f fuel stack items (f.skip s) = readBracketItems f fuel stack items s := by
  cases fuel with
  | zero => rfl
  | succ fuel => simp only [readBracketItems, Flags.skip_skip]

lemma readBracketItems_closing {fuel : Nat} {rest : List Char} (hskip : f.skip s = ']' :: rest) :
    readBracketItems f (fuel + 1) stack items s = match closeBracket f stack items with
      | none => none
      | some (.inr found) => some (found, rest)
      | some (.inl (stack, items)) => readBracketItems f fuel stack items rest := by
  rw [readBracketItems, closeBracket]
  simp only [hskip]
  rcases settleOperation f items.set items.level stack with ⟨set, depth, _ | ⟨frame, stack'⟩⟩
  · rfl
  cases frame with
  | operand operation left leftDepth => rfl
  | opened outer negated =>
    cases hset : f.foldAndNegate negated set with
    | none => simp [hset]
    | some set =>
      cases stack' with
      | nil => simp [hset]
      | cons frame stack' => simp [hset]

lemma readElement_of_operator {operation : Operation} (h : operator? s = some (operation, r)) :
    readElement f stack items s = some ((.operand operation
      (settleOperation f items.set items.level stack).1
      (settleOperation f items.set items.level stack).2.1 ::
      (settleOperation f items.set items.level stack).2.2, {}), r) := by
  obtain rfl := operator?_eq_some.mp h
  cases operation <;> rfl

lemma readElement_of_item (hs : s ≠ []) (hbracket : ∀ rest, s ≠ '[' :: rest)
    (h : operator? s = none) : readElement f stack items s = do
      let (set, rest) ← readRangeItem f s
      return ((stack, items.push set), rest) := by
  rw [readElement]
  · simp only [h]
  · exact hs
  · exact hbracket

lemma readBracketItems_element {fuel : Nat} {c : Char} {cs : List Char}
    (hskip : f.skip s = c :: cs) (hc : c ≠ ']') : readBracketItems f (fuel + 1) stack items s =
      readElement f stack items (c :: cs) >>= fun ((stack, items), rest) =>
        readBracketItems f fuel stack items rest := by
  rw [readBracketItems]
  simp only [hskip]
  split
  · rename_i h
    cases h
  · rename_i rest h
    rw [h, readElement]
    cases readAsciiClass rest with
    | some found =>
      obtain ⟨⟨set, negated⟩, behind⟩ := found
      dsimp only
      cases f.foldAndNegate negated set <;> rfl
    | none =>
      dsimp only
      cases openBracket f rest <;> rfl
  · rename_i h
    exact absurd (List.cons.inj h).1 hc
  · rename_i h
    rw [h]
    rfl
  · rename_i h
    rw [h]
    rfl
  · rename_i h
    rw [h]
    rfl
  · rename_i hbracket _ hboth hwithout heither
    have hitem : operator? (c :: cs) = none := by
      rw [Option.eq_none_iff_forall_ne_some]
      rintro ⟨operation, rest⟩ h
      have hsigns := operator?_eq_some.mp h
      cases operation with
      | intersection => exact hboth _ hsigns
      | difference => exact hwithout _ hsigns
      | symmetricDifference => exact heither _ hsigns
    rw [readElement_of_item (by simp) hbracket hitem]
    cases readRangeItem f (c :: cs) <;> rfl

variable {opened : List BracketFrame × Items} {found : CharSet × Nat}

lemma readElement_behind (h : readElement f stack items s = some (opened, r)) : Behind r s := by
  by_cases hnil : s = []
  · subst hnil
    cases h
  rcases cons_or_ne '[' s with ⟨rest, rfl⟩ | hne
  · refine .of_suffix _ ?_
    rw [readElement] at h
    split at h
    · rename_i hclass
      obtain ⟨set, -, h⟩ := Option.map_eq_some_iff.mp h
      cases h
      exact readAsciiClass_suffix hclass
    · obtain ⟨inner, hread, h⟩ := Option.bind_eq_some_iff.mp h
      cases h
      exact openBracket_suffix hread
  · cases hoperator : operator? s with
    | some found =>
      rw [readElement_of_operator hoperator] at h
      cases h
      rw [operator?_eq_some.mp hoperator]
      exact .of_suffix _ (List.suffix_cons _ _)
    | none =>
      rw [readElement_of_item hnil hne hoperator] at h
      obtain ⟨set, hread, h⟩ := Option.bind_eq_some_iff.mp h
      cases h
      exact readRangeItem_behind hread

lemma readBracketItems_behind {fuel : Nat}
    (h : readBracketItems f fuel stack items s = some (found, r)) : Behind r s := by
  induction fuel generalizing stack items s with
  | zero => cases h
  | succ fuel ih =>
    refine Behind.trans_suffix ?_ (f.skip_suffix s)
    cases hs : f.skip s with
    | nil =>
      rw [readBracketItems_of_end hs] at h
      cases h
    | cons c cs =>
      by_cases hc : c = ']'
      · subst hc
        refine .of_suffix _ ?_
        rw [readBracketItems_closing hs] at h
        split at h
        · cases h
        · cases h
          exact List.suffix_refl _
        · exact (ih h).suffix
      · rw [readBracketItems_element hs hc] at h
        obtain ⟨opened, hread, h⟩ := Option.bind_eq_some_iff.mp h
        exact .of_suffix_behind (ih h).suffix (readElement_behind hread)

lemma readElement_cut (stack : List BracketFrame) (items : Items) (s : List Char) :
    Cut u (u.length + 1) (readElement f stack items s)
      (readElement f stack items (s ++ ')' :: u)) := by
  by_cases hnil : s = []
  · subst hnil
    exact .failed fun opened r h => (readElement_behind h).shorter.le
  rcases cons_or_ne '[' s with ⟨rest, rfl⟩ | hne
  · rw [List.cons_append, readElement, readElement, readAsciiClass_append]
    cases readAsciiClass rest with
    | some found =>
      obtain ⟨⟨set, negated⟩, behind⟩ := found
      dsimp only [Option.map_some]
      cases f.foldAndNegate negated set with
      | none => exact .neither
      | some set => exact .within _ _ rfl rfl
    | none =>
      refine (openBracket_cut rest).pass fun opened => Or.inr ?_
      exact ⟨(.opened items opened.1 :: stack, opened.2), fun _ => rfl⟩
  · cases hoperator : operator? s with
    | some found =>
      obtain ⟨operation, behind⟩ := found
      have hframed : operator? (s ++ ')' :: u) = some (operation, behind ++ ')' :: u) := by
        rw [operator?_eq_some.mp hoperator]
        exact operator?_eq_some.mpr rfl
      rw [readElement_of_operator hoperator, readElement_of_operator hframed]
      exact .within _ _ rfl rfl
    | none =>
      have hframed : operator? (s ++ ')' :: u) = none := by
        obtain ⟨c, cs, rfl⟩ := List.exists_cons_of_ne_nil hnil
        exact operator?_append hoperator
      rw [readElement_of_item hnil hne hoperator,
        readElement_of_item (by simp) (framed_ne (by decide) hne) hframed]
      exact (readRangeItem_cut s).pass fun set => Or.inr ⟨(stack, items.push set), fun _ => rfl⟩

lemma readBracketItems_cut {fuel fuel' : Nat} {s : List Char} (hs : s.length < fuel)
    (hs' : (s ++ ')' :: u).length < fuel') :
    Cut u u.length (readBracketItems f fuel stack items s)
      (readBracketItems f fuel' stack items (s ++ ')' :: u)) := by
  -- An element may leave the bracket behind the text, but the closing square bracket is still to be
  -- read then, so the whole leaves less.
  induction fuel generalizing fuel' stack items s with
  | zero => omega
  | succ fuel ih =>
    obtain ⟨fuel', rfl⟩ : ∃ n, fuel' = n + 1 := ⟨fuel' - 1, by omega⟩
    have hlength := (f.skip_suffix s).length_le
    simp only [List.length_append, List.length_cons] at hs' ih
    cases hskip : f.skip s with
    | nil =>
      rw [readBracketItems_of_end hskip]
      refine .failed fun found r h => ?_
      rw [← readBracketItems_skip] at h
      have hshorter := (readBracketItems_behind h).shorter
      exact Nat.le_of_lt_succ (hshorter.trans_le (Flags.skip_append_length hskip u))
    | cons c cs =>
      have hframed := f.skip_append_of_ne (hskip ▸ List.cons_ne_nil c cs) u
      rw [hskip, List.cons_append] at hframed
      rw [hskip, List.length_cons] at hlength
      by_cases hc : c = ']'
      · subst hc
        rw [readBracketItems_closing hskip, readBracketItems_closing hframed]
        cases closeBracket f stack items with
        | none => exact .neither
        | some next =>
          cases next with
          | inl opened => exact ih (by omega) (by omega)
          | inr found => exact .within found cs rfl rfl
      · rw [readBracketItems_element hskip hc, readBracketItems_element hframed hc]
        refine (readElement_cut stack items (c :: cs)).bind ?_ ?_ ?_
        · intro opened r hread
          have hshorter := (readElement_behind hread).shorter
          rw [List.length_cons] at hshorter
          exact ih (by omega) (by omega)
        · intro opened r found r' hr h
          exact Nat.le_of_lt_succ ((readBracketItems_behind h).shorter.trans_le hr)
        · exact fun opened => Or.inl (readBracketItems_of_end f.skip_nil)

end Items

variable {found : CharSet × Nat}

lemma readBracket_suffix (h : readBracket f s = some (found, r)) : r <:+ s := by
  obtain ⟨opened, hopen, h⟩ := Option.bind_eq_some_iff.mp h
  exact (readBracketItems_behind h).suffix.trans (openBracket_suffix hopen)

lemma readBracket_cut (s : List Char) :
    Cut u u.length (readBracket f s) (readBracket f (s ++ ')' :: u)) := by
  refine (openBracket_cut s).bind ?_ ?_ ?_
  · intro opened r _
    exact readBracketItems_cut (Nat.lt_succ_self _) (Nat.lt_succ_self _)
  · intro opened r found r' hr h
    exact Nat.le_of_lt_succ ((readBracketItems_behind h).shorter.trans_le hr)
  · exact fun opened => Or.inl (readBracketItems_of_end f.skip_nil)

end ClassBatch.Regex
