import ClassBatch.Proofs.Regex.Tokens

/-! Reading an expression inside a group. Groups that were opened before it stay open below its own,
so it is read there as it is alone, up to a closing bracket that belongs to no group of its own. -/

namespace ClassBatch.Regex

variable {u s r text : List Char} {c : Char} {st st₁ st₂ : ParserState} {token : Token}
variable {below : List Frame}

lemma step_suffix (h : step st c s = some (st₁, r)) : r <:+ s := by
  rw [step_eq] at h
  obtain ⟨⟨token, rest⟩, hread, h⟩ := Option.bind_eq_some_iff.mp h
  obtain ⟨st', -, h⟩ := Option.map_eq_some_iff.mp h
  cases h
  exact readToken_suffix hread

lemma passes_act (st : ParserState) : Passes fun (token, rest) => (st.act token).map (·, rest) := by
  intro token
  cases h : st.act token with
  | none => exact Or.inl fun _ => by simp [h]
  | some st' => exact Or.inr ⟨st', fun _ => by simp [h]⟩

lemma step_cut (st : ParserState) (c : Char) (s : List Char) :
    Cut u u.length (step st c s) (step st c (s ++ ')' :: u)) ∨
      step st c s = none ∧ ∃ part w,
        step st c (s ++ ')' :: u) = some (st.push part, '\x7b' :: w ++ ')' :: u) ∧
          st.flags.skip w = [] := by
  rw [step_eq, step_eq]
  rcases readToken_cut c s with hcut | ⟨halone, part, w, hframed, hw⟩
  · exact Or.inl (hcut.pass (passes_act st))
  · refine Or.inr ⟨?_, part, w, ?_, hw⟩
    · rw [halone]
      rfl
    · rw [hframed]
      rfl

section Runs

def run (st : ParserState) (s : List Char) : Option ParserState :=
  steps (s.length + 1) st s

lemma steps_eq_run {fuel : Nat} (h : s.length < fuel) : steps fuel st s = run st s := by
  rw [run]
  -- Each step leaves a shorter text, so that any fuel beyond the length of the text will do.
  induction hn : s.length using Nat.strongRecOn generalizing fuel st s with
  | ind n ih =>
    obtain ⟨fuel, rfl⟩ : ∃ m, fuel = m + 1 := ⟨fuel - 1, by omega⟩
    have hskip := (st.flags.skip_suffix s).length_le
    rw [steps, steps]
    split
    · rfl
    · rename_i c rest heq
      rw [heq, List.length_cons] at hskip
      cases hstep : step st c rest with
      | none => rfl
      | some next =>
        obtain ⟨st', r⟩ := next
        have hr := (step_suffix hstep).length_le
        have hfuel : steps fuel st' r = run st' r := ih r.length (by omega) (by omega) rfl
        have hlength : steps n st' r = run st' r := ih r.length (by omega) (by omega) rfl
        exact hfuel.trans hlength.symm

lemma run_of_end (h : st.flags.skip s = []) : run st s = some st := by
  rw [run, steps]
  simp only [h]

@[simp] lemma run_nil (st : ParserState) : run st [] = some st :=
  run_of_end st.flags.skip_nil

lemma run_cons {rest : List Char} (h : st.flags.skip s = c :: rest) :
    run st s = step st c rest >>= fun (st, rest) => run st rest := by
  have hlength := (st.flags.skip_suffix s).length_le
  rw [h, List.length_cons] at hlength
  rw [run, steps]
  simp only [h]
  cases hstep : step st c rest with
  | none => rfl
  | some next =>
    have hr := (step_suffix hstep).length_le
    exact steps_eq_run (by omega)

lemma run_congr (h : st.flags.skip s = st.flags.skip r) : run st s = run st r := by
  cases hr : st.flags.skip r with
  | nil => rw [run_of_end hr, run_of_end (h.trans hr)]
  | cons c rest => rw [run_cons hr, run_cons (h.trans hr)]

end Runs

namespace ParserState

def above (st : ParserState) (below : List Frame) : ParserState :=
  { st with frames := st.frames ++ below }

@[simp] lemma above_flags (st : ParserState) (below : List Frame) :
    (st.above below).flags = st.flags := rfl

@[simp] lemma above_nil (st : ParserState) : st.above [] = st := by
  rw [above, List.append_nil]

lemma act_above (h : token = .close → st.frames ≠ []) :
    (st.above below).act token = (st.act token).map (·.above below) := by
  cases token with
  | enter flags captures => rfl
  | named name =>
    by_cases hname : name ∈ st.names <;> simp [act, above, enter, hname]
  | switch flags => rfl
  | close =>
    obtain ⟨frame, frames, hframes⟩ := List.exists_cons_of_ne_nil (h rfl)
    simp [act, above, leave?, hframes]
  | branch => rfl
  | times min max =>
    rcases hparts : st.body.parts with _ | ⟨part, parts⟩
    · simp [act, above, repeat?, hparts]
    · by_cases hpart : part.repeatable = true <;> simp [act, above, repeat?, hparts, hpart]
  | part part => rfl

end ParserState

lemma step_above (h : c = ')' → st.frames ≠ []) (s : List Char) :
    step (st.above below) c s = (step st c s).map fun (st, r) => (st.above below, r) := by
  rw [step_eq, step_eq, ParserState.above_flags]
  cases hread : readToken st.flags c s with
  | none => rfl
  | some found =>
    obtain ⟨token, r⟩ := found
    have hclose : token = .close → st.frames ≠ [] := by
      rintro rfl
      exact h (readToken_close hread).1
    simp only [Option.bind_eq_bind, Option.bind_some, ParserState.act_above hclose]
    cases st.act token <;> rfl

lemma step_above_of_some (h : step st c s = some (st₁, r)) :
    step (st.above below) c s = some (st₁.above below, r) := by
  rw [step_above, h]
  · rfl
  · rintro rfl hframes
    simp [step, ParserState.leave?, hframes] at h

lemma run_append (hline : '\n' ∉ u) (h : run st s = some st₁) :
    (∀ below, run (st.above below) (s ++ ')' :: u) = run (st₁.above below) (')' :: u)) ∨
      ∀ below, run (st.above below) (s ++ ')' :: u) = some (st₁.above below) := by
  -- Step by step, the groups below stay as they are; only a step that reads a comment or fails may
  -- tell the two texts apart.
  induction hn : s.length using Nat.strongRecOn generalizing st s with
  | ind n ih =>
    cases hskip : st.flags.skip s with
    | nil =>
      rw [run_of_end hskip] at h
      obtain rfl := Option.some.inj h
      rcases st.flags.skip_append s u with hframed | ⟨-, -, hcomment⟩
      · left
        intro below
        apply run_congr
        rw [ParserState.above_flags, hframed, hskip, st.flags.skip_cons (by decide) (by decide),
          List.nil_append]
      · right
        exact fun below => run_of_end (hcomment hline)
    | cons c rest =>
      have hframed := st.flags.skip_append_of_ne (hskip ▸ List.cons_ne_nil c rest) u
      rw [hskip, List.cons_append] at hframed
      have hlength := (st.flags.skip_suffix s).length_le
      rw [hskip, List.length_cons] at hlength
      rw [run_cons hskip] at h
      obtain ⟨⟨st', r⟩, hstep, h⟩ := Option.bind_eq_some_iff.mp h
      have habove (below : List Frame) : run (st.above below) (s ++ ')' :: u) =
          step (st.above below) c (rest ++ ')' :: u) >>= fun (st, rest) => run st rest :=
        run_cons hframed
      rcases step_cut (u := u) st c rest with hcut | ⟨hnone, -⟩
      · cases hcut with
        | within a r' halone hframed' =>
          rw [hstep] at halone
          cases halone
          have hr := (step_suffix hstep).length_le
          refine (ih r.length (by omega) h rfl).imp (fun ih below => ?_) fun ih below => ?_
          · rw [habove, step_above_of_some hframed']
            exact ih below
          · rw [habove, step_above_of_some hframed']
            exact ih below
        | beyond _ hswallowed =>
          rcases hswallowed hline with halone | ⟨a, halone, hframed'⟩
          · rw [hstep] at halone
            cases halone
          · rw [hstep] at halone
            cases halone
            obtain rfl : st' = st₁ := Option.some.inj ((run_nil st').symm.trans h)
            right
            intro below
            rw [habove, step_above_of_some hframed']
            exact run_nil _
      · rw [hnone] at hstep
        cases hstep

lemma run_brace_of_end (h : st.flags.skip s = []) : run st ('\x7b' :: s) = none := by
  rw [run_cons (st.flags.skip_cons (by decide) (by decide) s), step, readCounts_of_end h]
  rfl

lemma skip_of_framed {f : Flags} (h : f.skip (s ++ ')' :: u) = r ++ ')' :: u) : f.skip s = r := by
  rcases f.skip_append s u with hframed | ⟨-, hshort, -⟩
  · exact List.append_cancel_right (hframed.symm.trans h)
  · rw [h, List.length_append, List.length_cons] at hshort
    omega

lemma step_of_framed (h : step st c (s ++ ')' :: u) = some (st₁, r ++ ')' :: u)) :
    step st c s = some (st₁, r) ∨ run st₁ r = none := by
  rcases step_cut (u := u) st c s with hcut | ⟨-, part, w, hframed, hw⟩
  · cases hcut with
    | within a r' halone hframed =>
      obtain ⟨rfl, hr⟩ := Prod.mk.inj (Option.some.inj (hframed.symm.trans h))
      rw [halone, List.append_cancel_right hr]
      exact Or.inl rfl
    | beyond hleft _ =>
      have hshort := hleft _ _ h
      rw [List.length_append, List.length_cons] at hshort
      omega
  · obtain ⟨rfl, hr⟩ := Prod.mk.inj (Option.some.inj (hframed.symm.trans h))
    rw [← List.append_cancel_right hr]
    exact Or.inr (run_brace_of_end hw)

lemma exists_run_of_closed (h : run (st.above below) text = some st₂)
    (hclosed : st₂.frames.length < below.length) :
    ∃ s u st₁, text = s ++ ')' :: u ∧ run st s = some st₁ ∧ st₁.frames = [] := by
  induction hn : text.length using Nat.strongRecOn generalizing st text with
  | ind n ih =>
    cases hskip : st.flags.skip text with
    | nil =>
      have hend : run (st.above below) text = some (st.above below) := run_of_end hskip
      obtain rfl := Option.some.inj (hend.symm.trans h)
      have hlength : (st.above below).frames.length = st.frames.length + below.length :=
        List.length_append
      omega
    | cons c rest =>
      obtain ⟨front, htext⟩ := st.flags.skip_suffix text
      rw [hskip] at htext
      have hrun : run (st.above below) text =
          step (st.above below) c rest >>= fun (st, rest) => run st rest := run_cons hskip
      rw [hrun] at h
      by_cases hopen : c = ')' → st.frames ≠ []
      · rw [step_above hopen] at h
        obtain ⟨⟨st', r⟩, hstep, h⟩ := Option.bind_eq_some_iff.mp h
        obtain ⟨⟨st', r⟩, hstep, heq⟩ := Option.map_eq_some_iff.mp hstep
        cases heq
        obtain ⟨read, hrest⟩ := step_suffix hstep
        have hlength := congrArg List.length htext
        have hlength' := congrArg List.length hrest
        simp only [List.length_append, List.length_cons] at hlength hlength'
        obtain ⟨s, u, st₁, rfl, hs, hframes⟩ := ih r.length (by omega) h rfl
        refine ⟨front ++ c :: (read ++ s), u, st₁, ?_, ?_, hframes⟩
        · rw [← htext, ← hrest]
          simp
        · have hfront : st.flags.skip (front ++ c :: (read ++ s)) = c :: (read ++ s) := by
            apply skip_of_framed (u := u)
            rw [← htext, ← hrest] at hskip
            simpa using hskip
          -- The step was read in front of all that follows; in front of the bracket it is the same.
          rw [← hrest, ← List.append_assoc] at hstep
          rcases step_of_framed hstep with halone | hnone
          · rw [run_cons hfront, halone]
            exact hs
          · rw [hs] at hnone
            cases hnone
      · -- The bracket closes a group around.
        simp only [Classical.not_imp, not_not] at hopen
        obtain ⟨rfl, hframes⟩ := hopen
        rw [← htext] at hskip
        exact ⟨front, rest, st, htext.symm, run_of_end (skip_of_framed hskip), hframes⟩

end ClassBatch.Regex
