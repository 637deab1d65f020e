import ClassBatch.Pattern
import ClassBatch.Proofs.Names
import ClassBatch.Proofs.Regex.Framing
import ClassBatch.Proofs.Regex.Matching

/-! What a pattern selects by an expression. The expression stands in a group between anchors, so
that one that can be read alone has to match whole names. -/

namespace ClassBatch

open Relation

namespace Regex

namespace Expr

def MatchesWhole (e : Expr) (text : List Char) : Prop :=
  ∃ y, e.Spans ⟨none, text⟩ y ∧ y.rest = []

lemma andThen_spans (a b : Expr) : (a.andThen b).Spans = Comp a.Spans b.Spans := by
  unfold andThen
  split
  · exact eq_comp.symm
  · exact comp_eq.symm
  · rfl

lemma concat_nil_spans : (concat []).Spans = Eq := rfl

lemma concat_cons_spans (e : Expr) (es : List Expr) :
    (concat (e :: es)).Spans = Comp e.Spans (concat es).Spans :=
  andThen_spans e (concat es)

lemma look_spans_start {x y : Cursor} : (look .start).Spans x y ↔ x.before = none ∧ x = y := by
  simp [Spans, Look.holds, Cursor.place]

lemma look_spans_stop {x y : Cursor} : (look .stop).Spans x y ↔ x.rest = [] ∧ x = y := by
  simp [Spans, Look.holds, Cursor.place]

lemma occursIn_anchored (e : Expr) (text : List Char) :
    (concat [.look .start, e, .look .stop]).occursIn text = true ↔ e.MatchesWhole text := by
  have hspans (x z : Cursor) : (concat [.look .start, e, .look .stop]).Spans x z ↔
      x.before = none ∧ e.Spans x z ∧ z.rest = [] := by
    rw [concat_cons_spans, concat_cons_spans, concat_cons_spans, concat_nil_spans, comp_eq]
    simp only [Comp, look_spans_start, look_spans_stop]
    constructor
    · rintro ⟨x, ⟨hbefore, rfl⟩, z, hxz, hrest, rfl⟩
      exact ⟨hbefore, hxz, hrest⟩
    · rintro ⟨hbefore, hxz, hrest⟩
      exact ⟨x, ⟨hbefore, rfl⟩, z, hxz, hrest, rfl⟩
  rw [occursIn_iff]
  constructor
  · rintro ⟨x, hx, z, hxz⟩
    obtain ⟨hbefore, hxz, hrest⟩ := (hspans x z).mp hxz
    rw [hx.eq_of_before hbefore] at hxz
    exact ⟨z, hxz, hrest⟩
  · rintro ⟨z, hz, hrest⟩
    exact ⟨_, .refl, z, (hspans _ z).mpr ⟨rfl, hz, hrest⟩⟩

end Expr

def reading? (text : List Char) : Option (Expr × Nat) := do
  let st ← run {} text
  if st.frames.isEmpty then some st.body.finish else none

lemma reading?_eq_some {text : List Char} {found : Expr × Nat} : reading? text = some found ↔
    ∃ st, run {} text = some st ∧ st.frames = [] ∧ st.body.finish = found := by
  rw [reading?, Option.bind_eq_bind, Option.bind_eq_some_iff]
  simp only [List.isEmpty_iff, Option.ite_none_right_eq_some, Option.some.injEq]

lemma compile?_eq_some {expression : String} {e : Expr} : compile? expression = some e ↔
    ∃ depth, reading? expression.toList = some (e, depth) ∧ depth ≤ maxNesting ∧ e.fits = true := by
  have hparse : parse? expression.toList = reading? expression.toList >>= fun found =>
      if found.2 ≤ maxNesting then some found.1 else none := by
    rw [parse?, reading?, ← run]
    cases run {} expression.toList with
    | none => rfl
    | some st => by_cases h : st.frames = [] <;> simp [h]
  rw [compile?, hparse, Option.filter_eq_some_iff, Option.bind_eq_bind, Option.bind_eq_some_iff]
  constructor
  · rintro ⟨⟨⟨e', depth⟩, hread, hshallow⟩, hfits⟩
    obtain ⟨hdepth, heq⟩ := Option.ite_none_right_eq_some.mp hshallow
    cases heq
    exact ⟨depth, hread, hdepth, hfits⟩
  · rintro ⟨depth, hread, hdepth, hfits⟩
    exact ⟨⟨(e, depth), hread, if_pos hdepth⟩, hfits⟩

def wrapper : Frame :=
  ⟨{ parts := [⟨.look .start, 0, true⟩] }, {}, false⟩

lemma run_wrapped (s : List Char) : run {} ('^' :: '(' :: '?' :: ':' :: s) =
    run (({} : ParserState).above [wrapper]) s := by
  let st := ({} : ParserState).push ⟨.look .start, 0, true⟩
  have hanchor : ({} : ParserState).flags.skip ('^' :: '(' :: '?' :: ':' :: s) =
      '^' :: '(' :: '?' :: ':' :: s := rfl
  have hgroup : st.flags.skip ('(' :: '?' :: ':' :: s) = '(' :: '?' :: ':' :: s := rfl
  have hopen : step st '(' ('?' :: ':' :: s) = some (({} : ParserState).above [wrapper], s) := rfl
  calc run {} ('^' :: '(' :: '?' :: ':' :: s)
    _ = run st ('(' :: '?' :: ':' :: s) := run_cons hanchor
    _ = run (({} : ParserState).above [wrapper]) s := by
      rw [run_cons hgroup, hopen]
      rfl

lemma run_closing {st : ParserState} (h : st.frames = []) :
    ∃ st', run (st.above [wrapper]) [')', '$'] = some st' ∧ st'.frames = [] ∧
      st'.body.finish = (Expr.concat [.look .start, st.body.finish.1, .look .stop],
        st.body.finish.2 + 2) := by
  let inner : Part := ⟨st.body.finish.1, st.body.finish.2 + 1, true⟩
  let st' : ParserState := { st with frames := [], body := wrapper.outer.push inner, flags := {} }
  have hclose : step (st.above [wrapper]) ')' ['$'] = some (st', ['$']) := by
    simp [step, ParserState.above, ParserState.leave?, h, st', inner, wrapper]
  have hanchor : st'.flags.skip ['$'] = ['$'] := rfl
  refine ⟨st'.push ⟨.look .stop, 0, true⟩, ?_, rfl, ?_⟩
  · rw [run_cons (Flags.skip_cons _ (by decide) (by decide) _), hclose]
    exact run_cons hanchor
  · simp [Body.finish, Body.branch, Body.push, Body.maxDepth, ParserState.push, wrapper, st', inner]

lemma reading?_wrapped {s : List Char} {e : Expr} {depth : Nat}
    (h : reading? s = some (e, depth)) :
    reading? ('^' :: '(' :: '?' :: ':' :: (s ++ [')', '$'])) =
          some (Expr.concat [.look .start, e, .look .stop], depth + 2) ∧
        reading? (s ++ [')', '$']) = none ∨
      reading? ('^' :: '(' :: '?' :: ':' :: (s ++ [')', '$'])) = none ∧
        reading? (s ++ [')', '$']) = some (e, depth) := by
  obtain ⟨st, hrun, hframes, hfinish⟩ := reading?_eq_some.mp h
  rcases run_append (u := ['$']) (by decide) hrun with hread | hcomment
  · left
    have halone := hread []
    obtain ⟨st', hclosed, hframes', hfinish'⟩ := run_closing hframes
    constructor
    · rw [reading?_eq_some]
      refine ⟨st', ?_, hframes', ?_⟩
      · rw [run_wrapped, hread, hclosed]
      · rw [hfinish', hfinish]
    · rw [ParserState.above_nil, ParserState.above_nil] at halone
      have hnone : run st [')', '$'] = none := by
        rw [run_cons (Flags.skip_cons _ (by decide) (by decide) _)]
        simp [step, ParserState.leave?, hframes]
      rw [reading?, halone, hnone]
      rfl
  · right
    have halone := hcomment []
    rw [ParserState.above_nil, ParserState.above_nil] at halone
    constructor
    · have hopen : (st.above [wrapper]).frames.isEmpty = false := by
        rw [ParserState.above, hframes]
        rfl
      rw [reading?, run_wrapped, hcomment, Option.bind_eq_bind, Option.bind_some, hopen]
      rfl
    · exact reading?_eq_some.mpr ⟨st, halone, hframes, hfinish⟩

lemma readable_of_wrapped {s : List Char} {found : Expr × Nat}
    (h : reading? ('^' :: '(' :: '?' :: ':' :: (s ++ [')', '$'])) = some found) :
    (reading? s).isSome = true ∨
      ∃ front back, s = front ++ ')' :: back ∧ (reading? front).isSome = true := by
  obtain ⟨st, hrun, hframes, -⟩ := reading?_eq_some.mp h
  rw [run_wrapped] at hrun
  obtain ⟨front, back, st', htext, hfront, hframes'⟩ :=
    exists_run_of_closed hrun (by simp [hframes])
  have hreading : (reading? front).isSome = true := by
    rw [reading?_eq_some.mpr ⟨st', hfront, hframes', rfl⟩]
    rfl
  rcases List.append_eq_append_iff.mp htext with ⟨more, rfl, hmore⟩ | ⟨more, rfl, hmore⟩
  · -- No bracket of the text itself: the one that closes the group is the pattern's.
    rcases more with _ | ⟨c, _ | ⟨d, more⟩⟩
    · rw [List.append_nil] at hreading
      exact Or.inl hreading
    · simp at hmore
    · simp at hmore
  · rcases more with _ | ⟨c, more⟩
    · rw [List.append_nil]
      exact Or.inl hreading
    · obtain ⟨rfl, -⟩ := List.cons.inj hmore
      exact Or.inr ⟨front, more, rfl, hreading⟩

end Regex

namespace Pattern

open Regex

def IsExpression (text : String) : Prop :=
  (reading? text.toList).isSome = true

instance (text : String) : Decidable (IsExpression text) :=
  inferInstanceAs (Decidable ((reading? text.toList).isSome = true))

/-- A comment at the end of an expression takes what a pattern puts behind it. -/
def EndsInComment (expression : String) : Prop :=
  IsExpression (expression ++ ")$")

instance (expression : String) : Decidable (EndsInComment expression) :=
  inferInstanceAs (Decidable (IsExpression (expression ++ ")$")))

def WithinLimits (expression : String) : Prop :=
  ∀ found ∈ reading? ("^(?:" ++ expression ++ ")$").toList,
    found.2 ≤ maxNesting ∧ found.1.fits = true

instance (expression : String) : Decidable (WithinLimits expression) :=
  inferInstanceAs (Decidable (∀ found ∈ reading? ("^(?:" ++ expression ++ ")$").toList,
    found.2 ≤ maxNesting ∧ found.1.fits = true))

lemma toList_wrapped (expression : String) : ("^(?:" ++ expression ++ ")$").toList =
    '^' :: '(' :: '?' :: ':' :: (expression.toList ++ [')', '$']) := by
  simp

lemma compile_regex_eq_ok {expression : String} {m : Matcher} :
    (regex expression).compile = .ok m ↔
      ∃ e depth, reading? ("^(?:" ++ expression ++ ")$").toList = some (e, depth) ∧
        depth ≤ maxNesting ∧ e.fits = true ∧ m = .regex e := by
  have hcompile : (regex expression).compile = .ok m ↔
      ∃ e, Regex.compile? ("^(?:" ++ expression ++ ")$") = some e ∧ m = .regex e := by
    rw [compile]
    cases Regex.compile? ("^(?:" ++ expression ++ ")$") with
    | none => simp
    | some e => simp [eq_comm]
  rw [hcompile]
  constructor
  · rintro ⟨e, he, hm⟩
    obtain ⟨depth, hread, hdepth, hfits⟩ := compile?_eq_some.mp he
    exact ⟨e, depth, hread, hdepth, hfits, hm⟩
  · rintro ⟨e, depth, hread, hdepth, hfits, hm⟩
    exact ⟨e, compile?_eq_some.mpr ⟨depth, hread, hdepth, hfits⟩, hm⟩

lemma select_eq_ok {p : Pattern} {names selected : List String} :
    p.select names = .ok selected ↔
      ∃ m, p.compile = .ok m ∧ Names.sorted (names.filter m.accepts) = selected := by
  rw [select]
  cases p.compile with
  | error e => simp [Except.map]
  | ok m => simp [Except.map]

lemma compiles_iff {expression : String} (h : IsExpression expression)
    (hlimits : WithinLimits expression) :
    (∃ m, (regex expression).compile = .ok m) ↔ ¬ EndsInComment expression := by
  obtain ⟨⟨e, depth⟩, hread⟩ := Option.isSome_iff_exists.mp h
  have hend : (expression ++ ")$").toList = expression.toList ++ [')', '$'] :=
    String.toList_append
  rw [EndsInComment, IsExpression, hend]
  rcases reading?_wrapped hread with ⟨hwrapped, halone⟩ | ⟨hwrapped, halone⟩
  · rw [← toList_wrapped] at hwrapped
    obtain ⟨hdepth, hfits⟩ := hlimits _ hwrapped
    rw [halone]
    exact iff_of_true ⟨_, compile_regex_eq_ok.mpr ⟨_, _, hwrapped, hdepth, hfits, rfl⟩⟩ nofun
  · rw [halone]
    refine iff_of_false ?_ (not_not_intro rfl)
    rintro ⟨m, hcompile⟩
    obtain ⟨e', depth', hread', -⟩ := compile_regex_eq_ok.mp hcompile
    rw [toList_wrapped, hwrapped] at hread'
    cases hread'

lemma accepts_iff {expression : String} {m : Matcher} {e : Expr} {depth : Nat}
    (hread : reading? expression.toList = some (e, depth))
    (hcompile : (regex expression).compile = .ok m) (name : String) :
    m.accepts name = true ↔ e.MatchesWhole name.toList := by
  obtain ⟨e', depth', hread', -, -, rfl⟩ := compile_regex_eq_ok.mp hcompile
  rw [toList_wrapped] at hread'
  rcases reading?_wrapped hread with ⟨hwrapped, -⟩ | ⟨hwrapped, -⟩
  · rw [hwrapped] at hread'
    cases hread'
    exact e.occursIn_anchored name.toList
  · rw [hwrapped] at hread'
    cases hread'

/-- An expression that can be read alone is taken unless it ends in a comment, and then selects the
names that it matches as a whole. Another is taken only if a bracket of its own closes the group that
is put around it. -/
theorem regex_selects_whole_names (expression : String) :
    (IsExpression expression → WithinLimits expression →
      ((∃ m, (regex expression).compile = .ok m) ↔ ¬ EndsInComment expression)) ∧
    (∀ e depth, reading? expression.toList = some (e, depth) →
      ∀ names selected, (regex expression).select names = .ok selected →
        ∀ name, name ∈ selected ↔ name ∈ names ∧ e.MatchesWhole name.toList) ∧
    (∀ m, (regex expression).compile = .ok m → ¬ IsExpression expression →
      ∃ front back, expression = front ++ ")" ++ back ∧ IsExpression front) := by
  refine ⟨compiles_iff, ?_, ?_⟩
  · intro e depth hread names selected hselect name
    obtain ⟨m, hcompile, rfl⟩ := select_eq_ok.mp hselect
    rw [Names.mem_sorted, List.mem_filter, accepts_iff hread hcompile]
  · intro m hcompile halone
    obtain ⟨e, depth, hread, -⟩ := compile_regex_eq_ok.mp hcompile
    rw [toList_wrapped] at hread
    rcases readable_of_wrapped hread with hreadable | ⟨front, back, htext, hfront⟩
    · exact absurd hreadable halone
    · refine ⟨String.ofList front, String.ofList back, ?_, ?_⟩
      · rw [← String.toList_inj, htext]
        simp
      · rwa [IsExpression, String.toList_ofList]

theorem regex_selects_whole_names_of_alternative :
    (∃ m, (regex "a|b").compile = .ok m) ∧
      (∀ name, name ∈ ["a", "b"] ↔
        name ∈ ["a", "axyz", "b"] ∧ (Expr.chars [⟨0x61, 0x62⟩]).MatchesWhole name.toList) ∧
      ∃ front back, "a)|(?:b" = front ++ ")" ++ back ∧ IsExpression front := by
  have hread : reading? "a|b".toList = some (.chars [⟨0x61, 0x62⟩], 1) := by decide +kernel
  have hselect : (regex "a|b").select ["a", "axyz", "b"] = .ok ["a", "b"] := by decide +kernel
  have hsplit : (regex "a)|(?:b").select [] = .ok [] := by decide +kernel
  obtain ⟨m, hcompile, -⟩ := select_eq_ok.mp hsplit
  exact ⟨((regex_selects_whole_names "a|b").1 (by decide +kernel) (by decide +kernel)).mpr
      (by decide +kernel),
    (regex_selects_whole_names "a|b").2.1 _ _ hread _ _ hselect,
    (regex_selects_whole_names "a)|(?:b").2.2 m hcompile (by decide +kernel)⟩

/-- Brackets of its own let an expression out of its group, and a comment at the end of an expression
keeps it from being taken. -/
theorem regex_selects_parts_of_names :
    ¬ IsExpression "a)|(?:b" ∧
      (regex "a)|(?:b").select ["a", "axyz", "b"] = .ok ["a", "axyz", "b"] ∧
      IsExpression "(?x)a#c" ∧
      (regex "(?x)a#c").select ["a"] = .error (.invalidRegex "(?x)a#c") := by
  decide +kernel

end Pattern

end ClassBatch
