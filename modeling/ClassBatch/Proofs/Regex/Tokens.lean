import ClassBatch.Regex.Parser
import ClassBatch.Proofs.Regex.Brackets

/-! What a step of the parser reads depends on the flags alone. Reading a text in front of a closing
bracket gives what reading the text alone gives, or goes on to the bracket in a comment. -/

namespace ClassBatch.Regex

open Unicode

variable {u s r : List Char} {f : Flags}

lemma dropLazyMark_of_ne (h : ∀ rest, s ≠ '?' :: rest) : dropLazyMark s = s := by
  rw [dropLazyMark]
  exact h

lemma dropLazyMark_suffix (s : List Char) : dropLazyMark s <:+ s := by
  rcases cons_or_ne '?' s with ⟨rest, rfl⟩ | hne
  · exact List.suffix_cons _ rest
  · rw [dropLazyMark_of_ne hne]

lemma dropLazyMark_append (s u : List Char) :
    dropLazyMark (s ++ ')' :: u) = dropLazyMark s ++ ')' :: u := by
  rcases cons_or_ne '?' s with ⟨rest, rfl⟩ | hne
  · rfl
  · rw [dropLazyMark_of_ne hne, dropLazyMark_of_ne (framed_ne (by decide) hne)]

lemma dropWhile_blank_append (s u : List Char) :
    (s ++ ')' :: u).dropWhile Text.isBlank = s.dropWhile Text.isBlank ++ ')' :: u := by
  have hbracket : (')' :: u).dropWhile Text.isBlank = ')' :: u := by
    simp [Text.isBlank]
  rw [List.dropWhile_append, hbracket]
  split
  · rename_i h
    rw [List.isEmpty_iff.mp h]
    rfl
  · rfl

section Counts

variable {least : Nat} {most : Option Nat} {counts : Nat × Option Nat}

lemma readDecimalDigits_eq (fuel : Nat) (s : List Char) :
    readDecimalDigits f fuel s = readWhile Char.isDigit f fuel s := by
  induction fuel generalizing s with
  | zero => rfl
  | succ fuel ih =>
    cases s with
    | nil => rfl
    | cons c s => rw [readDecimalDigits, readWhile, ih]

lemma readDecimalDigits_suffix (fuel : Nat) (s : List Char) :
    (readDecimalDigits f fuel s).2 <:+ s := by
  rw [readDecimalDigits_eq]
  exact readWhile_suffix _ fuel s

lemma readDecimalDigits_cut (s : List Char) :
    Cut u u.length (some (readDecimalDigits f s.length s))
      (some (readDecimalDigits f (s ++ ')' :: u).length (s ++ ')' :: u))) := by
  rw [readDecimalDigits_eq, readDecimalDigits_eq]
  exact readWhile_cut rfl (le_refl _) (le_refl _)

def number? (digits : List Char) : Option Nat :=
  let value := digits.foldl (fun n c => n * 10 + (c.toNat - 48)) 0
  if digits.isEmpty || value ≥ UInt32.size then none else some value

lemma readNumber_eq (s : List Char) : some (readNumber f s) =
    some (readDecimalDigits f (s.dropWhile Text.isBlank).length (s.dropWhile Text.isBlank)) >>=
      fun (digits, rest) => some (number? digits, f.skip (rest.dropWhile Text.isBlank)) := rfl

lemma readNumber_suffix (s : List Char) : (readNumber f s).2 <:+ s :=
  calc (readNumber f s).2
    _ <:+ (readDecimalDigits f (s.dropWhile Text.isBlank).length
        (s.dropWhile Text.isBlank)).2.dropWhile Text.isBlank := f.skip_suffix _
    _ <:+ (readDecimalDigits f (s.dropWhile Text.isBlank).length
        (s.dropWhile Text.isBlank)).2 := List.dropWhile_suffix _
    _ <:+ s.dropWhile Text.isBlank := readDecimalDigits_suffix _ _
    _ <:+ s := List.dropWhile_suffix _

lemma readNumber_cut (s : List Char) :
    Cut u u.length (some (readNumber f s)) (some (readNumber f (s ++ ')' :: u))) := by
  rw [readNumber_eq, readNumber_eq, dropWhile_blank_append]
  refine (readDecimalDigits_cut _).bind ?_ ?_ ?_
  · intro digits r _
    dsimp only
    rw [dropWhile_blank_append]
    exact .skipped _
  · intro digits r number r' hr h
    cases h
    exact ((f.skip_suffix _).trans (List.dropWhile_suffix _)).length_le.trans hr
  · exact fun digits => Or.inr ⟨number? digits, by simp, by simp⟩

def readBound (f : Flags) : List Char → Option (Option Nat × List Char)
  | '\x7d' :: rest => some (none, '\x7d' :: rest)
  | rest => some (readNumber f rest) >>= fun (most, rest) => most.map (some ·, rest)

def readUpper (f : Flags) (least : Nat) : List Char → Option (Option Nat × List Char)
  | ',' :: rest => readBound f (f.skip rest)
  | rest => some (some least, rest)

def closeCounts (f : Flags) (least : Nat) (found : Option Nat × List Char) :
    Option ((Nat × Option Nat) × List Char) :=
  match found.2 with
  | '\x7d' :: rest =>
    if found.1.all (least ≤ ·) then some ((least, found.1), dropLazyMark (f.skip rest)) else none
  | _ => none

lemma readBound_of_ne (h : ∀ rest, s ≠ '\x7d' :: rest) :
    readBound f s = some (readNumber f s) >>= fun (most, rest) => most.map (some ·, rest) := by
  rw [readBound]
  exact h

lemma readUpper_of_ne (h : ∀ rest, s ≠ ',' :: rest) :
    readUpper f least s = some (some least, s) := by
  rw [readUpper]
  exact h

lemma closeCounts_closed (rest : List Char) : closeCounts f least (most, '\x7d' :: rest) =
    if most.all (least ≤ ·) then some ((least, most), dropLazyMark (f.skip rest)) else none := rfl

lemma closeCounts_of_ne (h : ∀ rest, s ≠ '\x7d' :: rest) :
    closeCounts f least (most, s) = none := by
  rw [closeCounts]
  split
  · rename_i hs
    exact absurd hs (h _)
  · rfl

lemma readCounts_eq (s : List Char) : readCounts f s =
    some (readNumber f (f.skip s)) >>= fun (least, rest) =>
      least.bind fun least => readUpper f least rest >>= closeCounts f least := by
  rw [readCounts]
  split
  · rename_i hskip
    rw [hskip]
    rfl
  · obtain ⟨least, rest⟩ := readNumber f (f.skip s)
    cases least with
    | none => rfl
    | some least =>
      dsimp only [Option.bind_eq_bind, Option.bind_some]
      split
      · rename_i behind
        rw [readUpper]
        split
        · rename_i hskip
          rw [hskip]
          rfl
        · rename_i hskip
          rw [hskip]
          rfl
        · rename_i hopen
          rw [readBound_of_ne hopen]
          rcases readNumber f (f.skip behind) with ⟨_ | most, rest⟩ <;> rfl
      · rename_i hcomma
        rw [readUpper_of_ne hcomma]
        rfl

lemma passes_bound :
    Passes fun ((most, rest) : Option Nat × List Char) => most.map (some ·, rest) := by
  intro most
  cases most with
  | none => exact Or.inl fun _ => rfl
  | some n => exact Or.inr ⟨some n, fun _ => rfl⟩

lemma readBound_suffix (h : readBound f s = some (most, r)) : r <:+ s := by
  rcases cons_or_ne '\x7d' s with ⟨rest, rfl⟩ | hne
  · cases h
    exact List.suffix_refl _
  · rw [readBound_of_ne hne] at h
    obtain ⟨number, hread⟩ := passes_bound.exists_of_bind h
    have hsuffix := readNumber_suffix (f := f) s
    rwa [Option.some.inj hread] at hsuffix

lemma readUpper_suffix (h : readUpper f least s = some (most, r)) : r <:+ s := by
  rcases cons_or_ne ',' s with ⟨rest, rfl⟩ | hne
  · exact ((readBound_suffix h).trans (f.skip_suffix rest)).trans (List.suffix_cons _ rest)
  · rw [readUpper_of_ne hne] at h
    cases h
    exact List.suffix_refl _

lemma closeCounts_suffix (h : closeCounts f least (most, s) = some (counts, r)) : r <:+ s := by
  rcases cons_or_ne '\x7d' s with ⟨rest, rfl⟩ | hne
  · rw [closeCounts_closed] at h
    split at h
    · cases h
      exact ((dropLazyMark_suffix _).trans (f.skip_suffix rest)).trans (List.suffix_cons _ rest)
    · cases h
  · rw [closeCounts_of_ne hne] at h
    cases h

lemma closeUpper_suffix (h : (readUpper f least s >>= closeCounts f least) = some (counts, r)) :
    r <:+ s := by
  obtain ⟨⟨most, rest⟩, hupper, h⟩ := Option.bind_eq_some_iff.mp h
  exact (closeCounts_suffix h).trans (readUpper_suffix hupper)

lemma readCounts_suffix (h : readCounts f s = some (counts, r)) : r <:+ s := by
  rw [readCounts_eq] at h
  obtain ⟨⟨number, rest⟩, hread, h⟩ := Option.bind_eq_some_iff.mp h
  obtain ⟨least, -, h⟩ := Option.bind_eq_some_iff.mp h
  have hnumber := readNumber_suffix (f := f) (f.skip s)
  rw [Option.some.inj hread] at hnumber
  exact ((closeUpper_suffix h).trans hnumber).trans (f.skip_suffix s)

lemma readCounts_of_end (h : f.skip s = []) : readCounts f s = none := by
  rw [readCounts_eq, h]
  rfl

lemma readBound_cut (s : List Char) :
    Cut u u.length (readBound f s) (readBound f (s ++ ')' :: u)) := by
  rcases cons_or_ne '\x7d' s with ⟨rest, rfl⟩ | hne
  · exact .within none _ rfl rfl
  · rw [readBound_of_ne hne, readBound_of_ne (framed_ne (by decide) hne)]
    exact (readNumber_cut s).pass passes_bound

lemma readUpper_cut (least : Nat) (s : List Char) :
    Cut u u.length (readUpper f least s) (readUpper f least (s ++ ')' :: u)) := by
  rcases cons_or_ne ',' s with ⟨rest, rfl⟩ | hne
  · refine Cut.skip (g := readBound f) (p := readBound f) (fun r _ => readBound_cut r) ?_ (Or.inl rfl)
    intro most r r' hr h
    exact (readBound_suffix h).length_le.trans hr
  · rw [readUpper_of_ne hne, readUpper_of_ne (framed_ne (by decide) hne)]
    exact .within _ s rfl rfl

lemma closeCounts_cut (least : Nat) (most : Option Nat) (s : List Char) :
    Cut u u.length (closeCounts f least (most, s)) (closeCounts f least (most, s ++ ')' :: u)) := by
  rcases cons_or_ne '\x7d' s with ⟨rest, rfl⟩ | hne
  · rw [List.cons_append, closeCounts_closed, closeCounts_closed]
    split
    · refine Cut.skip (g := fun r => some ((least, most), dropLazyMark r))
        (p := fun r => some ((least, most), dropLazyMark r)) ?_ ?_ ?_
      · intro r _
        rw [dropLazyMark_append]
        exact .within _ _ rfl rfl
      · intro counts r r' hr h
        cases h
        exact (dropLazyMark_suffix r).length_le.trans hr
      · exact Or.inr ⟨(least, most), rfl, rfl⟩
    · exact .neither
  · rw [closeCounts_of_ne hne, closeCounts_of_ne (framed_ne (by decide) hne)]
    exact .neither

lemma readCounts_cut (s : List Char) :
    Cut u u.length (readCounts f s) (readCounts f (s ++ ')' :: u)) := by
  refine Cut.of_skip (f := f) ?_ ?_ ?_ (readCounts_of_end f.skip_nil)
  · intro s
    rw [readCounts_eq, readCounts_eq, Flags.skip_skip]
  · intro r _ hr hr'
    rw [readCounts_eq, readCounts_eq, hr, hr']
    refine (readNumber_cut r).bind ?_ ?_ ?_
    · intro least r _
      cases least with
      | none => exact .neither
      | some least =>
        refine (readUpper_cut least r).bind ?_ ?_ ?_
        · exact fun most r _ => closeCounts_cut least most r
        · intro most r counts r' hr h
          exact (closeCounts_suffix h).length_le.trans hr
        · exact fun most => Or.inl rfl
    · intro number r counts r' hr h
      obtain ⟨least, -, h⟩ := Option.bind_eq_some_iff.mp h
      exact (closeUpper_suffix h).length_le.trans hr
    · intro least
      cases least with
      | none => exact Or.inl rfl
      | some least => exact Or.inl rfl
  · intro counts r r' hr h
    exact (readCounts_suffix h).length_le.trans hr

end Counts

section Groups

variable {flags : Flags} {seen name : List Char} {found : Flags × Bool} {first : Bool}

lemma readFlags_suffix (h : readFlags flags seen s = some (found, r)) : r <:+ s := by
  induction s generalizing flags seen with
  | nil => cases h
  | cons c s ih =>
    rw [readFlags] at h
    split at h
    · split at h
      · cases h
      · cases h
        exact List.suffix_refl _
    · refine List.IsSuffix.trans ?_ (List.suffix_cons c s)
      split at h
      · cases h
      · split at h
        · exact ih h
        · obtain ⟨flags', -, h⟩ := Option.bind_eq_some_iff.mp h
          exact ih h

lemma readFlags_cut (flags : Flags) (seen s : List Char) :
    Cut u (u.length + 1) (readFlags flags seen s) (readFlags flags seen (s ++ ')' :: u)) := by
  induction s generalizing flags seen with
  | nil => exact .failed fun found r h => (readFlags_suffix h).length_le
  | cons c s ih =>
    rw [List.cons_append, readFlags, readFlags]
    split
    · split
      · exact .neither
      · exact .within _ _ rfl rfl
    · split
      · exact .neither
      · split
        · exact ih _ _
        · cases flags.set? c (!seen.contains '-') with
          | none => exact .neither
          | some flags => exact ih _ _

lemma readGroupName_behind (h : readGroupName first s = some (name, r)) : Behind r s := by
  induction s generalizing first name with
  | nil => cases h
  | cons c s ih =>
    refine .of_suffix c ?_
    rw [readGroupName] at h
    split at h
    · split at h
      · cases h
      · cases h
        exact List.suffix_refl _
    · split at h
      · obtain ⟨⟨name, rest⟩, hread, h⟩ := Option.bind_eq_some_iff.mp h
        cases h
        exact (ih hread).suffix
      · cases h

lemma readGroupName_cut (first : Bool) (s : List Char) :
    Cut u u.length (readGroupName first s) (readGroupName first (s ++ ')' :: u)) := by
  induction s generalizing first with
  | nil => exact .failed fun name r h => Nat.le_of_lt_succ (readGroupName_behind h).shorter
  | cons c s ih =>
    rw [List.cons_append, readGroupName, readGroupName]
    split
    · split
      · exact .neither
      · exact .within _ _ rfl rfl
    · split
      · exact (ih false).pass (passes_cons c)
      · exact .neither

end Groups

inductive Token
  | enter (flags : Flags) (captures : Bool)
  | named (name : List Char)
  | switch (flags : Flags)
  | close
  | branch
  | times (min : Nat) (max : Option Nat)
  | part (part : Part)

def closeFlags (found : (Flags × Bool) × List Char) : Option (Token × List Char) :=
  match found.2 with
  | ':' :: rest => some (.enter found.1.1 false, rest)
  | _ :: rest => if found.1.2 then none else some (.switch found.1.1, rest)
  | [] => none

def readNamed (s : List Char) : Option (Token × List Char) := do
  let (name, rest) ← readGroupName true s
  return (.named name, rest)

def readOpening (f : Flags) : List Char → Option (Token × List Char)
  | '?' :: '=' :: _ => none
  | '?' :: '!' :: _ => none
  | '?' :: '<' :: '=' :: _ => none
  | '?' :: '<' :: '!' :: _ => none
  | '?' :: 'P' :: '<' :: rest => readNamed rest
  | '?' :: '<' :: rest => readNamed rest
  | '?' :: rest => readFlags f [] rest >>= closeFlags
  | rest => some (.enter f true, rest)

def plainToken? (f : Flags) : Char → Option Token
  | ')' => some .close
  | '|' => some .branch
  | '.' => f.dot.map fun set => .part ⟨.chars set, 0, true⟩
  | '^' => some (.part ⟨.look f.lineStart, 0, true⟩)
  | '$' => some (.part ⟨.look f.lineStop, 0, true⟩)
  | c => some (.part ⟨f.letter c, 0, true⟩)

def readToken (f : Flags) (c : Char) (rest : List Char) : Option (Token × List Char) :=
  match c with
  | '(' => readOpening f (f.skip rest)
  | '[' => do
    let ((set, depth), rest) ← readBracket f rest
    return (.part ⟨.chars set, depth, true⟩, rest)
  | '?' => some (.times 0 (some 1), dropLazyMark rest)
  | '*' => some (.times 0 none, dropLazyMark rest)
  | '+' => some (.times 1 none, dropLazyMark rest)
  | '\x7b' => do
    let ((min, max), rest) ← readCounts f rest
    return (.times min max, rest)
  | '\x5c' => do
    let (atom, rest) ← readEscape f rest
    return (.part ⟨← atomExpr? f atom, 0, true⟩, rest)
  | c => (plainToken? f c).map (·, rest)

def ParserState.act (st : ParserState) : Token → Option ParserState
  | .enter flags captures => some (st.enter flags captures)
  | .named name =>
    if st.names.contains name then none
    else some { st.enter st.flags true with names := name :: st.names }
  | .switch flags => some { st.push ⟨.empty, 0, false⟩ with flags }
  | .close => st.leave?
  | .branch => some { st with body := st.body.nextBranch }
  | .times min max => st.repeat? min max
  | .part part => some (st.push part)

lemma openNamed_eq (st : ParserState) (s : List Char) : openNamed st s =
    readNamed s >>= fun (token, rest) => (st.act token).map (·, rest) := by
  rw [openNamed, readNamed]
  cases readGroupName true s with
  | none => rfl
  | some found =>
    by_cases hname : found.1 ∈ st.names <;> simp [ParserState.act, hname]

lemma openGroup_eq (st : ParserState) (s : List Char) : openGroup st s =
    readOpening st.flags (st.flags.skip s) >>= fun (token, rest) => (st.act token).map (·, rest) := by
  rw [openGroup]
  split
  · rename_i h
    rw [h]
    rfl
  · rename_i h
    rw [h]
    rfl
  · rename_i h
    rw [h]
    rfl
  · rename_i h
    rw [h]
    rfl
  · rename_i h
    rw [h]
    exact openNamed_eq st _
  · rename_i h
    rw [h, openNamed_eq, readOpening]
    · assumption
    · assumption
  · rename_i rest _ _ _ _ _ _ h
    rw [h, readOpening]
    · cases readFlags st.flags [] rest with
      | none => rfl
      | some found =>
        obtain ⟨⟨flags, unset⟩, _ | ⟨c, behind⟩⟩ := found
        · rfl
        · by_cases hc : c = ':'
          · subst hc
            rfl
          · cases unset <;> simp [closeFlags, ParserState.act]
    all_goals assumption
  · rw [readOpening]
    · rfl
    all_goals assumption

lemma step_eq (st : ParserState) (c : Char) (rest : List Char) : step st c rest =
    readToken st.flags c rest >>= fun (token, rest) => (st.act token).map (·, rest) := by
  unfold step
  split
  · exact openGroup_eq st rest
  · rfl
  · rfl
  · rw [readToken]
    cases readBracket st.flags rest <;> rfl
  · rfl
  · rfl
  · rfl
  · rw [readToken]
    cases readCounts st.flags rest with
    | none => rfl
    | some found => cases h : st.repeat? found.1.1 found.1.2 <;> simp [ParserState.act, h]
  · rw [readToken]
    cases readEscape st.flags rest with
    | none => rfl
    | some found => cases h : atomExpr? st.flags found.1 <;> simp [ParserState.act, h]
  · cases h : st.flags.dot <;> simp [readToken, plainToken?, ParserState.act, h]
  · rfl
  · rfl
  · rw [readToken, plainToken?]
    · rfl
    all_goals assumption

section Openings

variable {token : Token} {found : Flags × Bool}

lemma readOpening_of_ne (h : ∀ rest, s ≠ '?' :: rest) :
    readOpening f s = some (.enter f true, s) := by
  rw [readOpening]
  all_goals exact fun _ => h _

lemma readOpening_named (h : ∀ rest, s ≠ '=' :: rest) (h' : ∀ rest, s ≠ '!' :: rest) :
    readOpening f ('?' :: '<' :: s) = readNamed s := by
  rw [readOpening]
  · exact h
  · exact h'

lemma readOpening_flags (hequal : ∀ rest, s ≠ '=' :: rest) (hmark : ∀ rest, s ≠ '!' :: rest)
    (hangle : ∀ rest, s ≠ '<' :: rest) (hnamed : ∀ rest, s ≠ 'P' :: '<' :: rest) :
    readOpening f ('?' :: s) = readFlags f [] s >>= closeFlags := by
  rw [readOpening]
  · exact hequal
  · exact hmark
  · exact fun _ => hangle _
  · exact fun _ => hangle _
  · exact hnamed
  · exact hangle

def Closing (t : List Char) : Prop :=
  t = [] ∨ ∃ u, t = ')' :: u

lemma Closing.append_ne {c : Char} {t : List Char} (ht : Closing t) (hc : c ≠ ')')
    (h : ∀ rest, s ≠ c :: rest) (rest : List Char) : s ++ t ≠ c :: rest := by
  rcases ht with rfl | ⟨u, rfl⟩
  · rw [List.append_nil]
    exact h rest
  · exact framed_ne hc h rest

inductive OpeningRule (f : Flags) (s : List Char) : Prop
  | plain (eq : ∀ t, Closing t → readOpening f (s ++ t) = some (.enter f true, s ++ t))
  | refused (eq : ∀ t, Closing t → readOpening f (s ++ t) = none)
  | named (rest : List Char) (suffix : rest <:+ s)
      (eq : ∀ t, Closing t → readOpening f (s ++ t) = readNamed (rest ++ t))
  | flags (rest : List Char) (suffix : rest <:+ s)
      (eq : ∀ t, Closing t → readOpening f (s ++ t) = readFlags f [] (rest ++ t) >>= closeFlags)

lemma openingRule (f : Flags) (s : List Char) : OpeningRule f s := by
  rcases cons_or_ne '?' s with ⟨rest, rfl⟩ | hplain
  swap
  · exact .plain fun t ht => readOpening_of_ne (ht.append_ne (by decide) hplain)
  rcases cons_or_ne '=' rest with ⟨rest', rfl⟩ | hequal
  · exact .refused fun _ _ => rfl
  rcases cons_or_ne '!' rest with ⟨rest', rfl⟩ | hmark
  · exact .refused fun _ _ => rfl
  rcases cons_or_ne '<' rest with ⟨rest', rfl⟩ | hangle
  · rcases cons_or_ne '=' rest' with ⟨rest, rfl⟩ | hequal
    · exact .refused fun _ _ => rfl
    rcases cons_or_ne '!' rest' with ⟨rest, rfl⟩ | hmark
    · exact .refused fun _ _ => rfl
    · refine .named rest' ⟨['?', '<'], rfl⟩ fun t ht => readOpening_named ?_ ?_
      · exact ht.append_ne (by decide) hequal
      · exact ht.append_ne (by decide) hmark
  by_cases hnamed : ∃ rest', rest = 'P' :: '<' :: rest'
  · obtain ⟨rest', rfl⟩ := hnamed
    exact .named rest' ⟨['?', 'P', '<'], rfl⟩ fun _ _ => rfl
  · refine .flags rest (List.suffix_cons _ _) fun t ht => readOpening_flags ?_ ?_ ?_ ?_
    · exact ht.append_ne (by decide) hequal
    · exact ht.append_ne (by decide) hmark
    · exact ht.append_ne (by decide) hangle
    · intro rest' h
      cases rest with
      | nil => exact ht.append_ne (by decide) (by simp) _ h
      | cons c rest =>
        obtain ⟨rfl, htail⟩ := List.cons.inj h
        exact ht.append_ne (by decide) (fun rest' h => hnamed ⟨rest', h ▸ rfl⟩) _ htail

lemma closeFlags_cons (found : Flags × Bool) (c : Char) :
    ∃ token : Option Token, token ≠ some .close ∧
      ∀ s, closeFlags (found, c :: s) = token.map (·, s) := by
  by_cases hc : c = ':'
  · subst hc
    exact ⟨some (.enter found.1 false), nofun, fun _ => rfl⟩
  · cases hunset : found.2 with
    | true => exact ⟨none, nofun, fun s => by simp [closeFlags, hunset]⟩
    | false => exact ⟨some (.switch found.1), nofun, fun s => by simp [closeFlags, hunset]⟩

lemma closeFlags_behind (h : closeFlags (found, s) = some (token, r)) : Behind r s := by
  cases s with
  | nil => cases h
  | cons c s =>
    obtain ⟨token', -, hclose⟩ := closeFlags_cons found c
    rw [hclose, Option.map_eq_some_iff] at h
    obtain ⟨token, -, h⟩ := h
    cases h
    exact .of_suffix c (List.suffix_refl _)

lemma closeFlags_cut (found : Flags × Bool) (s : List Char) :
    Cut u u.length (closeFlags (found, s)) (closeFlags (found, s ++ ')' :: u)) := by
  cases s with
  | nil => exact .failed fun token r h => Nat.le_of_lt_succ (closeFlags_behind h).shorter
  | cons c s =>
    obtain ⟨token, -, hclose⟩ := closeFlags_cons found c
    rw [List.cons_append, hclose, hclose]
    cases token with
    | none => exact .neither
    | some token => exact .within _ _ rfl rfl

lemma passes_named : Passes fun (name, rest) => some (Token.named name, rest) :=
  fun name => Or.inr ⟨.named name, fun _ => rfl⟩

lemma readOpening_suffix (h : readOpening f s = some (token, r)) : r <:+ s := by
  rw [← List.append_nil s] at h
  cases openingRule f s with
  | plain eq =>
    rw [eq [] (Or.inl rfl), List.append_nil] at h
    cases h
    exact List.suffix_refl _
  | refused eq =>
    rw [eq [] (Or.inl rfl)] at h
    cases h
  | named rest suffix eq =>
    rw [eq [] (Or.inl rfl), List.append_nil] at h
    obtain ⟨name, hread⟩ := passes_named.exists_of_bind h
    exact (readGroupName_behind hread).suffix.trans suffix
  | flags rest suffix eq =>
    rw [eq [] (Or.inl rfl), List.append_nil] at h
    obtain ⟨⟨found, rest'⟩, hread, h⟩ := Option.bind_eq_some_iff.mp h
    exact ((closeFlags_behind h).suffix.trans (readFlags_suffix hread)).trans suffix

lemma readOpening_ne_close (s r : List Char) : readOpening f s ≠ some (.close, r) := by
  intro h
  rw [← List.append_nil s] at h
  cases openingRule f s with
  | plain eq =>
    rw [eq [] (Or.inl rfl)] at h
    cases h
  | refused eq =>
    rw [eq [] (Or.inl rfl)] at h
    cases h
  | named rest suffix eq =>
    rw [eq [] (Or.inl rfl)] at h
    obtain ⟨found, -, h⟩ := Option.bind_eq_some_iff.mp h
    cases h
  | flags rest suffix eq =>
    rw [eq [] (Or.inl rfl)] at h
    obtain ⟨⟨found, _ | ⟨c, rest'⟩⟩, -, h⟩ := Option.bind_eq_some_iff.mp h
    · cases h
    · obtain ⟨token, hne, hclose⟩ := closeFlags_cons found c
      rw [hclose, Option.map_eq_some_iff] at h
      obtain ⟨token, rfl, h⟩ := h
      cases h
      exact hne rfl

lemma readOpening_cut (s : List Char) :
    Cut u u.length (readOpening f s) (readOpening f (s ++ ')' :: u)) := by
  have hframe : Closing (')' :: u) := Or.inr ⟨u, rfl⟩
  have halone : Closing [] := Or.inl rfl
  rw [← List.append_nil s, List.append_assoc, List.nil_append]
  cases openingRule f s with
  | plain eq =>
    rw [eq _ halone, eq _ hframe, List.append_nil]
    exact .within _ _ rfl rfl
  | refused eq =>
    rw [eq _ halone, eq _ hframe]
    exact .neither
  | named rest suffix eq =>
    rw [eq _ halone, eq _ hframe, List.append_nil]
    exact (readGroupName_cut true rest).pass passes_named
  | flags rest suffix eq =>
    rw [eq _ halone, eq _ hframe, List.append_nil]
    refine (readFlags_cut f [] rest).bind ?_ ?_ ?_
    · exact fun found r _ => closeFlags_cut found r
    · intro found r token r' hr h
      exact Nat.le_of_lt_succ ((closeFlags_behind h).shorter.trans_le hr)
    · exact fun found => Or.inl rfl

end Openings

section Tokens

variable {token : Token} {c : Char}

inductive TokenRule (f : Flags) (c : Char) : Prop
  | opening (eq : ∀ rest, readToken f c rest = readOpening f (f.skip rest))
  | bracket (eq : ∀ rest, readToken f c rest = do
      let ((set, depth), rest) ← readBracket f rest
      return (.part ⟨.chars set, depth, true⟩, rest))
  | repeated (min : Nat) (max : Option Nat)
      (eq : ∀ rest, readToken f c rest = some (.times min max, dropLazyMark rest))
  | counts (eq : ∀ rest, readToken f c rest = do
      let ((min, max), rest) ← readCounts f rest
      return (.times min max, rest))
  | escape (eq : ∀ rest, readToken f c rest = do
      let (atom, rest) ← readEscape f rest
      return (.part ⟨← atomExpr? f atom, 0, true⟩, rest))
  | plain (eq : ∀ rest, readToken f c rest = (plainToken? f c).map (·, rest))

lemma tokenRule (f : Flags) (c : Char) : TokenRule f c := by
  by_cases hgroup : c = '('
  · subst hgroup
    exact .opening fun _ => rfl
  by_cases hbracket : c = '['
  · subst hbracket
    exact .bracket fun _ => rfl
  by_cases hoption : c = '?'
  · subst hoption
    exact .repeated 0 (some 1) fun _ => rfl
  by_cases hstar : c = '*'
  · subst hstar
    exact .repeated 0 none fun _ => rfl
  by_cases hplus : c = '+'
  · subst hplus
    exact .repeated 1 none fun _ => rfl
  by_cases hbrace : c = '\x7b'
  · subst hbrace
    exact .counts fun _ => rfl
  by_cases hescape : c = '\x5c'
  · subst hescape
    exact .escape fun _ => rfl
  · refine .plain fun rest => ?_
    rw [readToken]
    all_goals assumption

lemma passes_atom : Passes fun (atom, rest) => do
    return (Token.part ⟨← atomExpr? f atom, 0, true⟩, rest) := by
  intro atom
  cases h : atomExpr? f atom with
  | none => exact Or.inl fun _ => by simp [h]
  | some e => exact Or.inr ⟨.part ⟨e, 0, true⟩, fun _ => by simp [h]⟩

lemma passes_counts : Passes fun ((counts, rest) : (Nat × Option Nat) × List Char) =>
    some (Token.times counts.1 counts.2, rest) :=
  fun counts => Or.inr ⟨.times counts.1 counts.2, fun _ => rfl⟩

lemma passes_bracket : Passes fun ((found, rest) : (CharSet × Nat) × List Char) =>
    some (Token.part ⟨.chars found.1, found.2, true⟩, rest) :=
  fun found => Or.inr ⟨.part ⟨.chars found.1, found.2, true⟩, fun _ => rfl⟩

lemma plainToken?_close (h : plainToken? f c = some .close) : c = ')' := by
  unfold plainToken? at h
  split at h
  · rfl
  · cases h
  · obtain ⟨set, -, h⟩ := Option.map_eq_some_iff.mp h
    cases h
  · cases h
  · cases h
  · cases h

lemma readToken_close (h : readToken f c s = some (.close, r)) : c = ')' ∧ r = s := by
  cases tokenRule f c with
  | opening eq => exact absurd (eq s ▸ h) (readOpening_ne_close _ r)
  | bracket eq =>
    rw [eq] at h
    obtain ⟨found, -, h⟩ := Option.bind_eq_some_iff.mp h
    cases h
  | repeated min max eq =>
    rw [eq] at h
    cases h
  | counts eq =>
    rw [eq] at h
    obtain ⟨counts, -, h⟩ := Option.bind_eq_some_iff.mp h
    cases h
  | escape eq =>
    rw [eq] at h
    obtain ⟨found, -, h⟩ := Option.bind_eq_some_iff.mp h
    obtain ⟨e, -, h⟩ := Option.bind_eq_some_iff.mp h
    cases h
  | plain eq =>
    rw [eq, Option.map_eq_some_iff] at h
    obtain ⟨token, htoken, h⟩ := h
    cases h
    exact ⟨plainToken?_close htoken, rfl⟩

lemma readToken_suffix (h : readToken f c s = some (token, r)) : r <:+ s := by
  cases tokenRule f c with
  | opening eq => exact (readOpening_suffix (eq s ▸ h)).trans (f.skip_suffix s)
  | bracket eq =>
    rw [eq] at h
    obtain ⟨found, hread⟩ := passes_bracket.exists_of_bind h
    exact readBracket_suffix hread
  | repeated min max eq =>
    rw [eq] at h
    cases h
    exact dropLazyMark_suffix s
  | counts eq =>
    rw [eq] at h
    obtain ⟨counts, hread⟩ := passes_counts.exists_of_bind h
    exact readCounts_suffix hread
  | escape eq =>
    rw [eq] at h
    obtain ⟨atom, hread⟩ := passes_atom.exists_of_bind h
    exact readEscape_suffix hread
  | plain eq =>
    rw [eq, Option.map_eq_some_iff] at h
    obtain ⟨token, -, h⟩ := h
    cases h
    exact List.suffix_refl _

def LeavesBrace (f : Flags) (u : List Char) (x y : Option (Token × List Char)) : Prop :=
  x = none ∧ ∃ part w, y = some (.part part, '\x7b' :: w ++ ')' :: u) ∧ f.skip w = []

lemma readToken_cut (c : Char) (s : List Char) :
    Cut u u.length (readToken f c s) (readToken f c (s ++ ')' :: u)) ∨
      LeavesBrace f u (readToken f c s) (readToken f c (s ++ ')' :: u)) := by
  cases tokenRule f c with
  | opening eq =>
    rw [eq, eq]
    refine Or.inl (Cut.skip (fun r _ => readOpening_cut r) ?_ ?_)
    · intro token r r' hr h
      exact (readOpening_suffix h).length_le.trans hr
    · exact Or.inr ⟨.enter f true, rfl, rfl⟩
  | bracket eq =>
    rw [eq, eq]
    exact Or.inl ((readBracket_cut s).pass passes_bracket)
  | repeated min max eq =>
    rw [eq, eq, dropLazyMark_append]
    exact Or.inl (.within _ _ rfl rfl)
  | counts eq =>
    rw [eq, eq]
    exact Or.inl ((readCounts_cut s).pass passes_counts)
  | escape eq =>
    rw [eq, eq]
    rcases readEscape_cut s with hcut | ⟨halone, l, w, hframed, hw⟩
    · exact Or.inl (hcut.pass passes_atom)
    · refine Or.inr ⟨?_, ⟨.look l, 0, true⟩, w, ?_, hw⟩
      · rw [halone]
        rfl
      · rw [hframed]
        rfl
  | plain eq =>
    rw [eq, eq]
    cases plainToken? f c with
    | none => exact Or.inl .neither
    | some token => exact Or.inl (.within token s rfl rfl)

end Tokens

end ClassBatch.Regex
