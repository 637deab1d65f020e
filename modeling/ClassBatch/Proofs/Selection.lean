import ClassBatch.Proofs.Pattern
import ClassBatch.Proofs.Program

/-! A class is selected by whatever is read as its name. Dots are read as slashes and blanks around
a name do not count, so that some names cannot select their own class. -/

namespace ClassBatch

open Batch CommandLine Files Text Tool

namespace ClassName

variable {name : String}

lemma dot_not_mem_normalizeChars (raw : List Char) : '.' ∉ normalizeChars raw := by
  intro hdot
  obtain ⟨c, -, hc⟩ := List.mem_map.mp hdot
  by_cases hsep : separator c = true
  · rw [if_pos hsep] at hc
    exact absurd hc (by decide)
  · rw [if_neg hsep] at hc
    subst hc
    exact hsep rfl

lemma length_normalizeChars_le (raw : List Char) :
    (normalizeChars raw).length ≤ (trimBoth isBlank raw).length := by
  rw [normalizeChars, List.length_map]
  exact (length_getD_beforeEnding?_le _ _).trans (trimBoth_sublist _ _).length_le

structure IsVerbatim (name : String) : Prop where
  dot : '.' ∉ name.toList
  start : ∀ c, name.toList.head? = some c → isBlank c = false
  stop : ∀ c, name.toList.getLast? = some c → isBlank c = false

lemma IsVerbatim.of_normalize_eq (h : normalize name = name) : IsVerbatim name := by
  have hchars : normalizeChars name.toList = name.toList := by
    rw [← String.toList_ofList (l := normalizeChars name.toList), ← normalize, h]
  have hlength : name.toList.length ≤ (trimBoth isBlank name.toList).length := by
    calc name.toList.length = (normalizeChars name.toList).length := by rw [hchars]
      _ ≤ (trimBoth isBlank name.toList).length := length_normalizeChars_le name.toList
  have htrim := (trimBoth_sublist isBlank name.toList).eq_of_length_le hlength
  obtain ⟨hstart, hstop⟩ := trimBoth_eq_self_iff.mp htrim
  exact ⟨hchars ▸ dot_not_mem_normalizeChars name.toList, hstart, hstop⟩

lemma trimBoth_slash_of_plain (h : Path.Plain name) :
    trimBoth (· = '/') name.toList = name.toList :=
  trimBoth_of_splitAll fun part hpart => (Path.isPlain_iff.mp (h part hpart)).1

lemma normalize_eq_self_iff (h : Catalog.IsInternal name) :
    normalize name = name ↔ IsVerbatim name := by
  refine ⟨IsVerbatim.of_normalize_eq, fun hverbatim => ?_⟩
  have hblank := trimBoth_eq_self_iff.mpr ⟨hverbatim.start, hverbatim.stop⟩
  have hending : beforeEnding? ".class".toList name.toList = none :=
    beforeEnding?_of_not_mem (by decide) hverbatim.dot
  rw [← String.toList_inj, normalize, String.toList_ofList, normalizeChars, hblank,
    trimBoth_slash_of_plain h.plain, hending, Option.getD_none]
  refine (List.map_congr_left fun c hc => ?_).trans (List.map_id _)
  have hsep : separator c = false := by
    simp only [separator, Bool.or_eq_false_iff, decide_eq_false_iff_not]
    exact ⟨ne_of_mem_of_not_mem hc hverbatim.dot, ne_of_mem_of_not_mem hc h.backslash⟩
  rw [hsep]
  rfl

end ClassName

namespace Pattern

variable {raw wanted : String} {p : Pattern}

lemma parseExact_eq_ok : parseExact raw = .ok p ↔
    ClassName.normalize raw ≠ "" ∧ p = exact (ClassName.normalize raw) := by
  simp only [parseExact, ofName, checked, compile, String.isEmpty_iff]
  by_cases h : ClassName.normalize raw = ""
  · simp [h, Except.map]
  · simp only [h, if_false, Except.map, Except.ok.injEq, ne_eq, not_false_eq_true, true_and]
    exact eq_comm

lemma select_exact (names : List String) (h : wanted ≠ "") :
    (exact wanted).select names = .ok (if wanted ∈ names then [wanted] else []) := by
  have hcompile : (exact wanted).compile = .ok (.exact wanted) := by simp [compile, h]
  rw [select_eq_ok]
  refine ⟨.exact wanted, hcompile, ?_⟩
  apply (Names.sorted_ordered _).eq_of_mem_iff
  · split
    · exact List.pairwise_singleton _ _
    · exact List.Pairwise.nil
  · intro name
    rw [Names.mem_sorted, List.mem_filter]
    simp only [Matcher.accepts, beq_iff_eq]
    split
    · rename_i hmem
      rw [List.mem_singleton]
      exact ⟨And.right, fun hname => ⟨hname ▸ hmem, hname⟩⟩
    · rename_i hmem
      simp only [List.not_mem_nil, iff_false, not_and]
      rintro hname rfl
      exact hmem hname

end Pattern

namespace Program

variable {d : Disk} {jar name : String} {listed : List String}

lemma wanted_class (hlist : Catalog.list d jar = .ok listed) (raw : String) :
    wanted d jar (.class_ raw) =
      if ClassName.normalize raw = "" then .error (.selection .emptyName)
      else if ClassName.normalize raw ∈ listed then .ok [ClassName.normalize raw]
      else .error (.noneMatched jar) := by
  by_cases hempty : ClassName.normalize raw = ""
  · rw [if_pos hempty]
    simp only [wanted, Selection.toPattern, Pattern.parseExact, Pattern.ofName, Pattern.checked,
      Pattern.compile, hempty]
    rfl
  · have hparse := Pattern.parseExact_eq_ok.mpr ⟨hempty, rfl⟩
    have hselect := Pattern.select_exact listed hempty
    rw [if_neg hempty]
    simp only [wanted, Selection.toPattern, hparse, selectClasses, hlist, hselect,
      Except.mapError, bind, Except.bind]
    by_cases hmem : ClassName.normalize raw ∈ listed
    · simp only [if_pos hmem]
      rfl
    · simp only [if_neg hmem]

lemma wanted_class_eq_ok_iff (hlist : Catalog.list d jar = .ok listed) (hname : name ∈ listed)
    (hinternal : Catalog.IsInternal name) :
    wanted d jar (.class_ name) = .ok [name] ↔ ClassName.IsVerbatim name := by
  rw [← ClassName.normalize_eq_self_iff hinternal, wanted_class hlist]
  constructor
  · intro h
    split at h
    · cases h
    · split at h
      · exact (List.cons.inj (Except.ok.inj h)).1
      · cases h
  · intro h
    rw [h, if_neg hinternal.ne_empty, if_pos hname]

/-- A well-formed class that is listed is selected by its own name if that has no dots and no blanks
at its ends, and then a batch takes that class only. Another name selects another class or none. -/
theorem listed_name_selected_iff (hlist : Catalog.list d jar = .ok listed) (hname : name ∈ listed)
    (hinternal : Catalog.IsInternal name) :
    ((∃ p, Pattern.parseExact name = .ok p ∧ p.select listed = .ok [name]) ↔
      ClassName.IsVerbatim name) ∧
    (wanted d jar (.class_ name) = .ok [name] ↔ ClassName.IsVerbatim name) ∧
    (ClassName.IsVerbatim name → ∀ host words tools verbose threads timeout decompiler output,
      CommandLine.parse words = .ok ⟨tools, verbose,
        .decompile jar (.class_ name) threads timeout decompiler output⟩ →
      (run host words d).ending = .done →
        ∃ (b : CompletedBatch [name]) (elapsed : Duration) (t : Toolchain.Traces),
          RunOn host (Config.ofSeconds host.parallelism threads timeout) b ∧
            run host words d = conclude host.room b.ledger elapsed output t) ∧
    (¬ ClassName.IsVerbatim name → ∀ p selected, Pattern.parseExact name = .ok p →
      p.select listed = .ok selected → name ∉ selected) := by
  have hwanted := wanted_class_eq_ok_iff hlist hname hinternal
  have hself := ClassName.normalize_eq_self_iff hinternal
  refine ⟨?_, hwanted, ?_, ?_⟩
  · rw [← hself]
    constructor
    · rintro ⟨p, hparse, hselect⟩
      obtain ⟨hempty, rfl⟩ := Pattern.parseExact_eq_ok.mp hparse
      rw [Pattern.select_exact listed hempty] at hselect
      split at hselect
      · exact (List.cons.inj (Except.ok.inj hselect)).1
      · cases hselect
    · intro h
      refine ⟨.exact name, Pattern.parseExact_eq_ok.mpr ?_, ?_⟩
      · rw [h]
        exact ⟨hinternal.ne_empty, rfl⟩
      · rw [Pattern.select_exact listed hinternal.ne_empty, if_pos hname]
  · intro hverbatim host words tools verbose threads timeout decompiler output hparse hdone
    simp only [run, hparse] at hdone ⊢
    exact decompile_done (hwanted.mpr hverbatim) hdone
  · intro hverbatim p selected hparse hselect hmem
    obtain ⟨hempty, rfl⟩ := Pattern.parseExact_eq_ok.mp hparse
    rw [Pattern.select_exact listed hempty] at hselect
    cases hselect
    split at hmem
    · exact hverbatim (hself.mp (List.mem_singleton.mp hmem).symm)
    · cases hmem

def homonyms : Disk where
  tree := ⟨.dir [("app.jar", .file (Archive.write
    [("a.b/C.class", []), ("a/b/C.class", []), ("a/D.class", [])]) false)]⟩

lemma list_homonyms : Catalog.list homonyms "app.jar" = .ok ["a.b/C", "a/D", "a/b/C"] := by
  decide +kernel

def homonymWords : List String :=
  ["--cfr", "cfr.jar", "decompile", "app.jar", "--class", "a/b/C"]

theorem listed_name_selected_of_homonyms :
    (∃ p, Pattern.parseExact "a/b/C" = .ok p ∧
      p.select ["a.b/C", "a/D", "a/b/C"] = .ok ["a/b/C"]) ∧
    (∃ (b : CompletedBatch ["a/b/C"]) (elapsed : Duration) (t : Toolchain.Traces),
      run uniformHost homonymWords homonyms = conclude none b.ledger elapsed none t) ∧
    ∀ p selected, Pattern.parseExact "a.b/C" = .ok p →
      p.select ["a.b/C", "a/D", "a/b/C"] = .ok selected → "a.b/C" ∉ selected := by
  have hwords : CommandLine.parse homonymWords = .ok ⟨{ cfr := some "cfr.jar" }, false,
      .decompile "app.jar" (.class_ "a/b/C") 2 10 .cfr none⟩ := by
    decide +kernel
  have hrun : (run uniformHost homonymWords homonyms).ending = .done := by
    decide +kernel
  have hverbatim : ClassName.IsVerbatim "a/b/C" := ClassName.IsVerbatim.of_normalize_eq (by decide)
  have hdot : ¬ ClassName.IsVerbatim "a.b/C" := fun h => h.dot (by decide)
  have hslash : "a/b/C" ∈ ["a.b/C", "a/D", "a/b/C"] := by decide
  have hother : "a.b/C" ∈ ["a.b/C", "a/D", "a/b/C"] := by decide
  obtain ⟨hself, -, hruns, -⟩ :=
    listed_name_selected_iff list_homonyms hslash ⟨by decide, by decide, by decide⟩
  obtain ⟨-, -, -, hmissed⟩ :=
    listed_name_selected_iff list_homonyms hother ⟨by decide, by decide, by decide⟩
  obtain ⟨b, elapsed, t, -, hb⟩ := hruns hverbatim uniformHost _ _ _ _ _ _ _ hwords hrun
  exact ⟨hself.mpr hverbatim, ⟨b, elapsed, t, hb⟩, hmissed hdot⟩

theorem listed_name_selects_other :
    Catalog.list homonyms "app.jar" = .ok ["a.b/C", "a/D", "a/b/C"] ∧
    Pattern.parseExact "a.b/C" = .ok (.exact "a/b/C") ∧
    (Pattern.exact "a/b/C").select ["a.b/C", "a/D", "a/b/C"] = .ok ["a/b/C"] ∧
    wanted homonyms "app.jar" (.class_ "a.b/C") = .ok ["a/b/C"] := by
  decide +kernel

end Program

end ClassBatch
