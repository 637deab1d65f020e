import ClassBatch.Proofs.Selection
import Mathlib.Data.List.Forall2

/-! The many spellings of a class. Each of them selects the class, unless the last segment of its name
reads as the ending of a file. -/

namespace ClassBatch

open Text

namespace ClassName

variable {name : String} {s t : List Char}

structure IsCanonical (name : String) : Prop extends IsVerbatim name where
  backslash : '\x5c' ∉ name.toList
  segments : ∀ segment ∈ splitAll (· = '/') name.toList, segment ≠ []

def WrittenAs (c d : Char) : Prop :=
  d = c ∨ c = '/' ∧ (d = '.' ∨ d = '\x5c')

instance (c d : Char) : Decidable (WrittenAs c d) :=
  inferInstanceAs (Decidable (d = c ∨ c = '/' ∧ (d = '.' ∨ d = '\x5c')))

structure Spelling (name : String) where
  leading : List Char
  opening : Nat
  body : List Char
  suffixed : Bool
  closing : Nat
  trailing : List Char
  leading_blank : ∀ c ∈ leading, isBlank c = true
  written : List.Forall₂ WrittenAs name.toList body
  trailing_blank : ∀ c ∈ trailing, isBlank c = true

namespace Spelling

def core (w : Spelling name) : List Char :=
  if w.suffixed then w.body ++ ".class".toList else w.body

def trimmed (w : Spelling name) : List Char :=
  List.replicate w.opening '/' ++ w.core ++ List.replicate w.closing '/'

def text (w : Spelling name) : String :=
  String.ofList (w.leading ++ w.trimmed ++ w.trailing)

/-- Without an ending, the last separator is a dot before a segment `class`. -/
def Misreads (w : Spelling name) : Prop :=
  w.suffixed = false ∧ "/class".toList <:+ name.toList ∧ ".class".toList <:+ w.body

end Spelling

def isEdge (c : Char) : Bool :=
  c = '/' || isBlank c

lemma IsCanonical.ne_nil (h : IsCanonical name) : name.toList ≠ [] := by
  intro hnil
  have hsegments := h.segments
  rw [hnil, splitAll_nil] at hsegments
  exact hsegments [] List.mem_cons_self rfl

lemma IsCanonical.trimBoth_edge (h : IsCanonical name) : trimBoth isEdge name.toList = name.toList := by
  obtain ⟨hstart, hstop⟩ := trimBoth_eq_self_iff.mp (trimBoth_of_splitAll h.segments)
  rw [trimBoth_eq_self_iff]
  refine ⟨fun c hc => ?_, fun c hc => ?_⟩
  · rw [isEdge, hstart c hc, h.start c hc, Bool.or_false]
  · rw [isEdge, hstop c hc, h.stop c hc, Bool.or_false]

lemma WrittenAs.eq_of_ne {c d : Char} (h : WrittenAs c d) (hc : c ≠ '/') : d = c :=
  h.resolve_right fun hslash => hc hslash.1

lemma map_written (h : List.Forall₂ WrittenAs s t) (hdot : '.' ∉ s) (hbackslash : '\x5c' ∉ s) :
    (t.map fun c => if separator c then '/' else c) = s := by
  induction h with
  | nil => rfl
  | @cons c d s t hcd _ ih =>
    rw [List.mem_cons, not_or] at hdot hbackslash
    rw [List.map_cons, ih hdot.2 hbackslash.2]
    rcases hcd with rfl | ⟨rfl, rfl | rfl⟩
    · have hsep : separator d = false := by
        simp only [separator, Bool.or_eq_false_iff, decide_eq_false_iff_not]
        exact ⟨Ne.symm hdot.1, Ne.symm hbackslash.1⟩
      rw [hsep]
      rfl
    · rfl
    · rfl

lemma head?_written (h : List.Forall₂ WrittenAs s t) (hs : ∀ c, s.head? = some c → c ≠ '/') :
    t.head? = s.head? := by
  cases h with
  | nil => rfl
  | cons hcd _ => rw [List.head?_cons, List.head?_cons, hcd.eq_of_ne (hs _ rfl)]

lemma trimBoth_written (h : List.Forall₂ WrittenAs s t) (hs : trimBoth isEdge s = s) :
    trimBoth isEdge t = t := by
  have hslash : ∀ c, isEdge c = false → c ≠ '/' := by
    rintro c hc rfl
    cases hc
  rw [trimBoth_eq_self_iff] at hs ⊢
  have hstart := head?_written h fun c hc => hslash c (hs.1 c hc)
  have hstop := head?_written (List.forall₂_reverse_iff.mpr h) fun c hc => by
    rw [List.head?_reverse] at hc
    exact hslash c (hs.2 c hc)
  rw [List.head?_reverse, List.head?_reverse] at hstop
  rwa [hstart, hstop]

lemma mem_written {c : Char} (h : List.Forall₂ WrittenAs s t) (hc : c ∈ t) :
    c ∈ s ∨ c = '.' ∨ c = '\x5c' := by
  induction h with
  | nil => cases hc
  | cons hcd _ ih =>
    rcases List.mem_cons.mp hc with rfl | hc
    · rcases hcd with rfl | ⟨-, hsep⟩
      · exact Or.inl List.mem_cons_self
      · exact Or.inr hsep
    · exact (ih hc).imp_left (List.mem_cons_of_mem _)

namespace Spelling

variable (w : Spelling name)

lemma trimBoth_body (h : IsCanonical name) : trimBoth isEdge w.body = w.body :=
  trimBoth_written w.written h.trimBoth_edge

lemma body_ne_nil (h : IsCanonical name) : w.body ≠ [] := by
  intro hnil
  have hlength := w.written.length_eq
  rw [hnil, List.length_nil, List.length_eq_zero_iff] at hlength
  exact h.ne_nil hlength

lemma core_ne_nil (h : IsCanonical name) : w.core ≠ [] := by
  rw [core]
  split
  · exact List.append_ne_nil_of_left_ne_nil (w.body_ne_nil h) _
  · exact w.body_ne_nil h

lemma trimBoth_core (h : IsCanonical name) : trimBoth isEdge w.core = w.core := by
  rw [core]
  split
  · exact trimBoth_framed (t := []) (w.trimBoth_body h) (w.body_ne_nil h) (by simp)
      (by simp [isEdge, isBlank])
  · exact w.trimBoth_body h

lemma trimBoth_text (h : IsCanonical name) : trimBoth isBlank w.text.toList = w.trimmed := by
  have hcore : trimBoth isBlank w.core = w.core :=
    trimBoth_mono (fun c hc => by rw [isEdge, hc, Bool.or_true]) (w.trimBoth_core h)
  have hslashes : ∀ n, ∀ c ∈ List.replicate n '/', isBlank c = false := by
    intro n c hc
    rw [List.eq_of_mem_replicate hc]
    rfl
  rw [text, String.toList_ofList, trimBoth_append w.trailing_blank,
    trimBoth_append_left w.leading_blank]
  exact trimBoth_framed hcore (w.core_ne_nil h) (hslashes _) (hslashes _)

lemma trimBoth_trimmed (h : IsCanonical name) : trimBoth (· = '/') w.trimmed = w.core := by
  have hcore : trimBoth (· = '/') w.core = w.core :=
    trimBoth_mono (fun c hc => by rw [isEdge, hc, Bool.true_or]) (w.trimBoth_core h)
  have hslashes : ∀ n, ∀ c ∈ List.replicate n '/', decide (c = '/') = true := by
    intro n c hc
    rw [List.eq_of_mem_replicate hc]
    rfl
  rw [trimmed, trimBoth_append (hslashes _), trimBoth_append_left (hslashes _), hcore]

lemma map_body (h : IsCanonical name) :
    (w.body.map fun c => if separator c then '/' else c) = name.toList :=
  map_written w.written h.dot h.backslash

lemma normalizeChars_text (h : IsCanonical name) : normalizeChars w.text.toList =
    ((beforeEnding? ".class".toList w.core).getD w.core).map
      fun c => if separator c then '/' else c := by
  rw [normalizeChars, w.trimBoth_text h, w.trimBoth_trimmed h]

lemma normalize_text_iff (h : IsCanonical name) : normalize w.text = name ↔ ¬ w.Misreads := by
  rw [← String.toList_inj, normalize, String.toList_ofList, w.normalizeChars_text h, core]
  cases hsuffixed : w.suffixed with
  | true =>
    have hstem : beforeEnding? ".class".toList (w.body ++ ".class".toList) = some w.body :=
      beforeEnding?_eq_some.mpr rfl
    rw [if_pos rfl, hstem, Option.getD_some, w.map_body h]
    refine iff_of_true rfl fun hmisreads => ?_
    rw [hmisreads.1] at hsuffixed
    cases hsuffixed
  | false =>
    rw [if_neg Bool.false_ne_true]
    cases hending : beforeEnding? ".class".toList w.body with
    | none =>
      rw [Option.getD_none, w.map_body h]
      refine iff_of_true rfl ?_
      rintro ⟨-, -, stem, hstem⟩
      rw [beforeEnding?_eq_some.mpr hstem.symm] at hending
      cases hending
    | some stem =>
      rw [beforeEnding?_eq_some] at hending
      have hname := w.map_body h
      rw [hending, List.map_append] at hname
      rw [Option.getD_some]
      refine iff_of_false ?_ (not_not_intro ⟨hsuffixed, ⟨_, hname⟩, ⟨stem, hending.symm⟩⟩)
      intro heq
      have hlength := congrArg List.length (heq.trans hname.symm)
      rw [List.length_append] at hlength
      exact absurd hlength (by simp)

lemma not_mem_text {c : Char} (hblank : isBlank c = false) (hfixed : c ∉ "/\\.class".toList)
    (hname : c ∉ name.toList) : c ∉ w.text.toList := by
  have hslash : ∀ n, c ∉ List.replicate n '/' := by
    intro n hc
    rw [List.eq_of_mem_replicate hc] at hfixed
    exact hfixed List.mem_cons_self
  have hbody : c ∉ w.body := by
    intro hc
    rcases mem_written w.written hc with hc | rfl | rfl
    · exact hname hc
    · exact hfixed (by decide)
    · exact hfixed (by decide)
  have hcore : c ∉ w.core := by
    rw [core]
    split
    · rw [List.mem_append, not_or]
      exact ⟨hbody, fun hc => hfixed (List.mem_cons_of_mem _ (List.mem_cons_of_mem _ hc))⟩
    · exact hbody
  have hblanks : ∀ s : List Char, (∀ d ∈ s, isBlank d = true) → c ∉ s := by
    intro s hs hc
    rw [hs c hc] at hblank
    cases hblank
  rw [text, String.toList_ofList, trimmed]
  simp only [List.mem_append, not_or]
  exact ⟨⟨hblanks _ w.leading_blank, ⟨hslash _, hcore⟩, hslash _⟩, hblanks _ w.trailing_blank⟩

end Spelling

end ClassName

namespace Pattern

lemma packageText?_of_not_mem {s : List Char} (h : '*' ∉ s) : packageText? s = none := by
  rw [packageText?, beforeEnding?_of_not_mem (by decide) h, beforeEnding?_of_not_mem (by decide) h,
    beforeEnding?_of_not_mem (by decide) h]
  rfl

lemma parseExact_trim (raw : String) : parseExact (trim raw) = parseExact raw := by
  rw [parseExact, parseExact, ofName, ofName, ClassName.normalize, ClassName.normalize, trim,
    String.toList_ofList, ClassName.normalizeChars, ClassName.normalizeChars, trimBoth_trimBoth]

lemma parse_eq_parseExact {raw : String} (hstar : '*' ∉ raw.toList) (hcolon : ':' ∉ raw.toList)
    (hall : trim raw ≠ "all") : parse raw = parseExact raw := by
  have htext : ∀ c ∉ raw.toList, c ∉ trimBoth isBlank raw.toList := fun c hc hmem =>
    hc ((trimBoth_sublist isBlank raw.toList).subset hmem)
  have hnone : ¬ (trimBoth isBlank raw.toList = "*".toList ∨
      trimBoth isBlank raw.toList = ".*".toList ∨ trimBoth isBlank raw.toList = "all".toList) := by
    rintro (h | h | h)
    · exact htext _ hstar (h ▸ by decide)
    · exact htext _ hstar (h ▸ by decide)
    · exact hall (by rw [trim, h, String.ofList_toList])
  have hexpression : afterStart? "re:".toList (trimBoth isBlank raw.toList) = none :=
    afterStart?_of_not_mem (by decide) (htext _ hcolon)
  simp only [parse, if_neg hnone, hexpression, packageText?_of_not_mem (htext _ hstar)]
  exact parseExact_trim raw

end Pattern

namespace ClassName

/-- A spelling of a class selects that class and no other. Only where its end is a dot and `class` it is
read as another name, and only a star, a colon or the word `all` make another pattern of it. -/
theorem spelling_selects {name : String} (h : IsCanonical name) (w : Spelling name) :
    (normalize w.text = name ↔ ¬ w.Misreads) ∧
    (¬ w.Misreads → Pattern.parseExact w.text = .ok (.exact name) ∧
      ('*' ∉ name.toList → ':' ∉ name.toList → trim w.text ≠ "all" →
        Pattern.parse w.text = .ok (.exact name))) ∧
    ∀ names, (Pattern.exact name).select names = .ok (if name ∈ names then [name] else []) := by
  have hne : name ≠ "" := fun hempty => h.ne_nil (by rw [hempty]; rfl)
  refine ⟨w.normalize_text_iff h, ?_, fun names => Pattern.select_exact names hne⟩
  intro hw
  have hnormalize := (w.normalize_text_iff h).mpr hw
  have hexact : Pattern.parseExact w.text = .ok (.exact name) := by
    rw [Pattern.parseExact_eq_ok, hnormalize]
    exact ⟨hne, rfl⟩
  refine ⟨hexact, fun hstar hcolon hall => ?_⟩
  have hnostar : '*' ∉ w.text.toList := w.not_mem_text (by decide) (by decide) hstar
  have hnocolon : ':' ∉ w.text.toList := w.not_mem_text (by decide) (by decide) hcolon
  exact (Pattern.parse_eq_parseExact hnostar hnocolon hall).trans hexact

def mixedSpelling : Spelling "org/example/class" where
  leading := [' ']
  opening := 2
  body := "org\\example.class".toList
  suffixed := true
  closing := 1
  trailing := ['\t']
  leading_blank := by simp [isBlank]
  written := by decide
  trailing_blank := by simp [isBlank]

def dottedSpelling : Spelling "org/example/class" where
  leading := []
  opening := 0
  body := "org.example.class".toList
  suffixed := false
  closing := 0
  trailing := []
  leading_blank := by simp [isBlank]
  written := by decide
  trailing_blank := by simp [isBlank]

theorem spelling_selects_of_mixed :
    IsCanonical "org/example/class" ∧
    mixedSpelling.text = " //org\\example.class.class/\t" ∧
    normalize mixedSpelling.text = "org/example/class" ∧
    Pattern.parse mixedSpelling.text = .ok (.exact "org/example/class") ∧
    dottedSpelling.text = "org.example.class" ∧
    normalize dottedSpelling.text ≠ "org/example/class" := by
  have hname : IsCanonical "org/example/class" :=
    ⟨.of_normalize_eq (by decide), by decide, by decide⟩
  have hmixed : ¬ mixedSpelling.Misreads := fun h => Bool.noConfusion h.1
  have hdotted : dottedSpelling.Misreads := ⟨rfl, by decide, by decide⟩
  obtain ⟨hnormalize, hparse, -⟩ := spelling_selects hname mixedSpelling
  obtain ⟨hother, -⟩ := spelling_selects hname dottedSpelling
  exact ⟨hname, by decide, hnormalize.mpr hmixed,
    (hparse hmixed).2 (by decide) (by decide) (by decide), by decide,
    fun h => hother.mp h hdotted⟩

end ClassName

end ClassBatch
