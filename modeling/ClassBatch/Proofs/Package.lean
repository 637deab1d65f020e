import ClassBatch.Proofs.Spelling

/-! A package selects the classes of which its segments are the first, however it is written. A name
that only begins with the same characters is not selected. -/

namespace ClassBatch

open ClassName Text

namespace ClassName

variable {name other : String}

def segmentsOf (name : String) : List (List Char) :=
  splitAll (· = '/') name.toList

/-- The segments of a package are the first of a name, and not all of them. -/
def IsBelow (package name : String) : Prop :=
  segmentsOf package <+: segmentsOf name ∧ segmentsOf package ≠ segmentsOf name

instance (package name : String) : Decidable (IsBelow package name) :=
  inferInstanceAs (Decidable (segmentsOf package <+: segmentsOf name ∧
    segmentsOf package ≠ segmentsOf name))

lemma segmentsOf_append_slash {rest : List Char} (h : other.toList = name.toList ++ '/' :: rest) :
    segmentsOf other = segmentsOf name ++ splitAll (· = '/') rest := by
  rw [segmentsOf, h, splitAll_append_sep (by decide), segmentsOf]

lemma isBelow_iff (h : ∀ segment ∈ segmentsOf name, segment ≠ []) :
    IsBelow other name ↔ ∃ rest, name.toList = other.toList ++ '/' :: rest ∧ rest ≠ [] := by
  constructor
  · rintro ⟨⟨more, hmore⟩, hne⟩
    have hrest : more ≠ [] := by
      rintro rfl
      exact hne (by rw [← hmore, List.append_nil])
    obtain ⟨start, c, stop, hc, hname, hstart, hstop⟩ :=
      exists_of_splitAll_eq_append hmore.symm (splitAll_ne_nil _ _) hrest
    obtain rfl : start = other.toList := splitAll_injective '/' hstart
    obtain rfl := of_decide_eq_true hc
    refine ⟨stop, hname, ?_⟩
    rintro rfl
    have hempty : [] ∈ segmentsOf name := by
      rw [segmentsOf_append_slash hname]
      exact List.mem_append_right _ List.mem_cons_self
    exact h [] hempty rfl
  · rintro ⟨rest, hname, -⟩
    rw [IsBelow, segmentsOf_append_slash hname]
    refine ⟨List.prefix_append _ _, fun heq => ?_⟩
    exact splitAll_ne_nil _ rest (List.self_eq_append_right.mp heq)

structure IsPackage (name : String) : Prop extends IsCanonical name where
  star : '*' ∉ name.toList
  colon : ':' ∉ name.toList
  class_ : "class".toList ∉ segmentsOf name

namespace IsPackage

variable {text : List Char}

lemma ne_empty (h : IsPackage name) : name ≠ "" := by
  rintro rfl
  exact h.ne_nil rfl

def bare (hw : List.Forall₂ WrittenAs name.toList text) : Spelling name where
  leading := []
  opening := 0
  body := text
  suffixed := false
  closing := 0
  trailing := []
  leading_blank := List.forall_mem_nil _
  written := hw
  trailing_blank := List.forall_mem_nil _

lemma text_bare (hw : List.Forall₂ WrittenAs name.toList text) :
    (bare hw).text = String.ofList text := by
  simp [Spelling.text, Spelling.trimmed, Spelling.core, bare]

lemma not_ends_in_class (h : IsPackage name) : ¬ "/class".toList <:+ name.toList := by
  rintro ⟨start, hstart⟩
  have hlast : splitAll (· = '/') "class".toList = ["class".toList] := by decide
  have hname : name.toList = (String.ofList start).toList ++ '/' :: "class".toList := by
    rw [String.toList_ofList, ← hstart]
    rfl
  apply h.class_
  rw [segmentsOf_append_slash hname, hlast]
  exact List.mem_append_right _ List.mem_cons_self

lemma normalize_text (h : IsPackage name) (hw : List.Forall₂ WrittenAs name.toList text) :
    normalize (String.ofList text) = name := by
  rw [← text_bare hw, (bare hw).normalize_text_iff h.toIsCanonical]
  exact fun hmisreads => h.not_ends_in_class hmisreads.2.1

end IsPackage

end ClassName

namespace Pattern

variable {text mark : List Char}

lemma parsePackage_eq_ite (raw : String) : parsePackage raw =
    if normalize raw = "" then .error .emptyPackage else .ok (.package (normalize raw)) := by
  simp only [parsePackage, ofPackage, checked, compile, String.isEmpty_iff]
  split <;> rfl

def packageMarks : List (List Char) :=
  ["/.*".toList, "/*".toList, ".*".toList]

lemma beforeEnding?_eq_none {ending other : List Char} (hne : ending ≠ other)
    (hlength : ending.length = other.length) (start s : List Char) :
    beforeEnding? (start ++ ending) (s ++ other) = none := by
  rw [Option.eq_none_iff_forall_ne_some]
  intro stem hstem
  rw [beforeEnding?_eq_some, ← List.append_assoc] at hstem
  exact hne (List.append_inj_right' hstem hlength.symm).symm

lemma packageText?_append (hmark : mark ∈ packageMarks) (htext : text.getLast? ≠ some '/') :
    packageText? (text ++ mark) = some text := by
  have hself : beforeEnding? mark (text ++ mark) = some text := beforeEnding?_eq_some.mpr rfl
  have hmarks : ".*".toList ≠ "/*".toList := by decide
  simp only [packageMarks, List.mem_cons, List.not_mem_nil, or_false] at hmark
  rcases hmark with rfl | rfl | rfl
  · rw [packageText?, hself, Option.some_or]
  · have hlong : beforeEnding? "/.*".toList (text ++ "/*".toList) = none :=
      beforeEnding?_eq_none hmarks rfl ['/'] text
    rw [packageText?, hlong, hself, Option.none_or, Option.some_or]
  · have hlong : beforeEnding? "/.*".toList (text ++ ".*".toList) = none := by
      rw [Option.eq_none_iff_forall_ne_some]
      intro stem hstem
      have hslash : text ++ ".*".toList = (stem ++ ['/']) ++ ".*".toList := by
        rw [beforeEnding?_eq_some.mp hstem]
        simp
      rw [List.append_cancel_right hslash, List.getLast?_concat] at htext
      exact htext rfl
    have hshort : beforeEnding? "/*".toList (text ++ ".*".toList) = none :=
      beforeEnding?_eq_none hmarks.symm rfl [] text
    rw [packageText?, hlong, hshort, hself, Option.none_or, Option.none_or]

lemma parse_eq_parsePackage (hmark : mark ∈ packageMarks) (hne : text ≠ [])
    (htext : trimBoth isEdge text = text) (hcolon : ':' ∉ text) :
    parse (String.ofList (text ++ mark)) = parsePackage (String.ofList text) := by
  have hmarks : ∀ mark ∈ packageMarks, (∀ c ∈ mark, isBlank c = false) ∧ ':' ∉ mark ∧
      2 ≤ mark.length ∧ mark.getLast? = some '*' := by simp [packageMarks, isBlank]
  obtain ⟨hblank, hnocolon, hlong, hstar⟩ := hmarks mark hmark
  have htrim : trimBoth isBlank (text ++ mark) = text ++ mark := by
    have hbare : trimBoth isBlank text = text :=
      trimBoth_mono (fun c hc => by rw [isEdge, hc, Bool.or_true]) htext
    exact trimBoth_framed (t := []) hbare hne (List.forall_mem_nil _) hblank
  have hlast : (text ++ mark).getLast? = some '*' := by
    rw [List.getLast?_append, hstar, Option.some_or]
  have hlength : 3 ≤ (text ++ mark).length := by
    have hpos := List.length_pos_of_ne_nil hne
    rw [List.length_append]
    omega
  have hnone : ¬ (text ++ mark = "*".toList ∨ text ++ mark = ".*".toList ∨
      text ++ mark = "all".toList) := by
    rintro (h | h | h)
    · rw [h] at hlength
      exact absurd hlength (by decide)
    · rw [h] at hlength
      exact absurd hlength (by decide)
    · rw [h] at hlast
      exact absurd hlast (by decide)
  have hexpression : afterStart? "re:".toList (text ++ mark) = none := by
    have hneither : ':' ∉ text ++ mark := fun h => (List.mem_append.mp h).elim hcolon hnocolon
    exact afterStart?_of_not_mem (by decide) hneither
  have hslash : text.getLast? ≠ some '/' := by
    intro hslash
    have hedge := (trimBoth_eq_self_iff.mp htext).2 '/' hslash
    cases hedge
  simp only [parse, String.toList_ofList, htrim, if_neg hnone, hexpression,
    packageText?_append hmark hslash]

lemma accepts_below {package name : String} (h : ∀ segment ∈ segmentsOf name, segment ≠ []) :
    (Matcher.below (package ++ "/")).accepts name = decide (IsBelow package name) := by
  rw [Bool.eq_iff_iff, decide_eq_true_eq, isBelow_iff h]
  simp only [Matcher.accepts, Option.any_eq_true, afterStart?_eq_some_iff, String.toList_append,
    List.append_assoc, Bool.not_eq_true', List.isEmpty_eq_false_iff]
  rfl

def within (package : String) (names : List String) : List String :=
  Names.sorted (names.filter fun name => IsBelow package name)

lemma mem_within {package name : String} {names : List String} :
    name ∈ within package names ↔ name ∈ names ∧ IsBelow package name := by
  rw [within, Names.mem_sorted, List.mem_filter, decide_eq_true_eq]

lemma select_package {package : String} {names : List String} (hne : package ≠ "")
    (h : ∀ name ∈ names, ∀ segment ∈ segmentsOf name, segment ≠ []) :
    (Pattern.package package).select names = .ok (within package names) := by
  rw [select_eq_ok]
  refine ⟨.below (package ++ "/"), by simp [compile, hne], ?_⟩
  rw [within, List.filter_congr fun name hname => accepts_below (h name hname)]

end Pattern

namespace ClassName

variable {package inner name : String}

lemma IsBelow.of_isInitial (hinner : segmentsOf package <+: segmentsOf inner)
    (h : IsBelow inner name) : IsBelow package name := by
  refine ⟨hinner.trans h.1, fun heq => h.2 ?_⟩
  have hlength := (heq ▸ hinner).length_le
  exact h.1.eq_of_length_le hlength

lemma IsBelow.comparable (h : IsBelow package name) (h' : IsBelow inner name) :
    segmentsOf package <+: segmentsOf inner ∨ segmentsOf inner <+: segmentsOf package :=
  List.prefix_or_prefix_of_prefix h.1 h'.1

/-- Whatever is written for a package is read as that package, which selects exactly the classes
that have its segments and more. Packages are therefore nested or apart, and a package is no class of
its own. -/
theorem package_selects_below (h : IsPackage package) :
    (∀ text, List.Forall₂ WrittenAs package.toList text →
      Pattern.parsePackage (String.ofList text) = .ok (.package package) ∧
      ∀ mark ∈ Pattern.packageMarks,
        Pattern.parse (String.ofList (text ++ mark)) = .ok (.package package)) ∧
    ∀ names, (∀ name ∈ names, ∀ segment ∈ segmentsOf name, segment ≠ []) →
      (Pattern.package package).select names = .ok (Pattern.within package names) ∧
      (∀ name, name ∈ Pattern.within package names ↔ name ∈ names ∧
        segmentsOf package <+: segmentsOf name ∧ segmentsOf package ≠ segmentsOf name) ∧
      (∀ inner, segmentsOf package <+: segmentsOf inner →
        Pattern.within inner names ⊆ Pattern.within package names) ∧
      (∀ other, ¬ segmentsOf package <+: segmentsOf other →
        ¬ segmentsOf other <+: segmentsOf package →
          (Pattern.within package names).Disjoint (Pattern.within other names)) ∧
      package ∉ Pattern.within package names ∧
      ∀ c rest, c ≠ '/' →
        String.ofList (package.toList ++ c :: rest) ∉ Pattern.within package names := by
  constructor
  · intro text hw
    have hpackage := Pattern.parsePackage_eq_ite (String.ofList text)
    rw [h.normalize_text hw, if_neg h.ne_empty] at hpackage
    refine ⟨hpackage, fun mark hmark => ?_⟩
    have htext : trimBoth isEdge text = text := (IsPackage.bare hw).trimBoth_body h.toIsCanonical
    have hne : text ≠ [] := (IsPackage.bare hw).body_ne_nil h.toIsCanonical
    have hcolon : ':' ∉ text := by
      intro hc
      rcases mem_written hw hc with hc | hc | hc
      · exact h.colon hc
      · exact absurd hc (by decide)
      · exact absurd hc (by decide)
    rw [Pattern.parse_eq_parsePackage hmark hne htext hcolon, hpackage]
  · intro names hnames
    refine ⟨Pattern.select_package h.ne_empty hnames, fun name => Pattern.mem_within, ?_, ?_, ?_,
      ?_⟩
    · intro inner hinner name hname
      rw [Pattern.mem_within] at hname ⊢
      exact ⟨hname.1, hname.2.of_isInitial hinner⟩
    · intro other houter hinner name hname hother
      rw [Pattern.mem_within] at hname hother
      exact (hname.2.comparable hother.2).elim houter hinner
    · intro hself
      exact (Pattern.mem_within.mp hself).2.2 rfl
    · intro c rest hc hsibling
      obtain ⟨hmem, hbelow⟩ := Pattern.mem_within.mp hsibling
      obtain ⟨more, hmore, -⟩ := (isBelow_iff (hnames _ hmem)).mp hbelow
      rw [String.toList_ofList, List.append_cancel_left_eq, List.cons.injEq] at hmore
      exact hc hmore.1

def neighbours : List String :=
  ["org/D", "org/example", "org/example/A", "org/example/sub/B", "org/examples/C", "org/sub/E"]

theorem package_selects_below_of_neighbours :
    IsPackage "org/example" ∧
    (∀ name ∈ neighbours, ∀ segment ∈ segmentsOf name, segment ≠ []) ∧
    Pattern.parse "org.example.*" = .ok (.package "org/example") ∧
    Pattern.parse "org/example/.*" = .ok (.package "org/example") ∧
    Pattern.parsePackage "org\\example" = .ok (.package "org/example") ∧
    (Pattern.package "org/example").select neighbours =
      .ok ["org/example/A", "org/example/sub/B"] ∧
    Pattern.within "org/example/sub" neighbours ⊆ Pattern.within "org/example" neighbours ∧
    (Pattern.within "org/example" neighbours).Disjoint (Pattern.within "org/sub" neighbours) ∧
    "org/example" ∉ Pattern.within "org/example" neighbours ∧
    "org/examples/C" ∉ Pattern.within "org/example" neighbours := by
  have hpackage : IsPackage "org/example" :=
    { IsCanonical.mk (.of_normalize_eq (by decide)) (by decide) (by decide) with
      star := by decide, colon := by decide, class_ := by decide }
  have hnames : ∀ name ∈ neighbours, ∀ segment ∈ segmentsOf name, segment ≠ [] := by decide
  obtain ⟨hwritten, hselect⟩ := package_selects_below hpackage
  obtain ⟨hselected, -, hnested, hapart, hself, hsibling⟩ := hselect neighbours hnames
  have hdotted := (hwritten "org.example".toList (by decide)).2 ".*".toList (by decide)
  have hslashed := (hwritten "org/example".toList (by decide)).2 "/.*".toList (by decide)
  have hbackslashed := (hwritten "org\\example".toList (by decide)).1
  have hwithin : Pattern.within "org/example" neighbours =
      ["org/example/A", "org/example/sub/B"] := by decide
  exact ⟨hpackage, hnames, hdotted, hslashed, hbackslashed, hwithin ▸ hselected,
    hnested "org/example/sub" (by decide), hapart "org/sub" (by decide) (by decide), hself,
    hsibling 's' "/C".toList (by decide)⟩

end ClassName

end ClassBatch
