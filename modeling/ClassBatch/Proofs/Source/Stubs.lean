import ClassBatch.Archive.Writer
import ClassBatch.Proofs.Catalog
import ClassBatch.Proofs.Source.Escapes
import ClassBatch.Source.Stub
import ClassBatch.Unicode.Property
import Mathlib.Data.List.TakeWhile

/-! A stub is a class with a comment in it if the class has a name that Java can write, and the comment
does not end early. A jar may list names of which neither is true. -/

namespace ClassBatch.Source

open Catalog (Member className?)
open Files Text

variable {d : Disk} {path name text : String} {listed : List String} {s : List Char}

section Grammar

def isLetter (c : Char) : Bool :=
  if c.toNat < 0x80 then c.isAlpha else Unicode.letters.contains c

def isDigit (c : Char) : Bool :=
  if c.toNat < 0x80 then c.isDigit else (Unicode.categories ["Nd"]).contains c

def startsIdentifier (c : Char) : Bool :=
  isLetter c || c = '_' || c = '$'

def isIdentifier : List Char → Bool
  | [] => false
  | c :: s => startsIdentifier c && s.all fun c => startsIdentifier c || isDigit c

def endsLine (c : Char) : Bool :=
  c = '\n' || c = '\r'

def IsCommentedClass (text : String) : Prop :=
  ∃ identifier comment, isIdentifier identifier = true ∧ comment.any endsLine = false ∧
    decodeEscapes text.toList = "public class ".toList ++ identifier ++ " \x7b\n\t// ".toList ++
      comment ++ "\n\x7d".toList

end Grammar

lemma decodeEscapes_of_not_mem (h : '\x5c' ∉ s) : decodeEscapes s = s := by
  induction s with
  | nil => exact decodeEscapes_nil
  | cons c s ih =>
    obtain ⟨hc, hs⟩ := not_or.mp (mt List.mem_cons.mpr h)
    rw [decodeEscapes_cons_of_ne (Ne.symm hc), ih hs]

lemma not_mem_simpleChars (s : List Char) : '/' ∉ ClassName.simpleChars s := by
  intro h
  rw [ClassName.simpleChars, List.mem_reverse] at h
  simpa using List.mem_takeWhile_imp h

lemma not_mem_of_isIdentifier (h : isIdentifier s = true) : '/' ∉ s := by
  have hslash : startsIdentifier '/' = false := by decide
  have hdigit : isDigit '/' = false := by decide
  intro hmem
  cases s with
  | nil => cases hmem
  | cons c s =>
    obtain ⟨hc, hs⟩ := Bool.and_eq_true_iff.mp h
    rcases List.mem_cons.mp hmem with rfl | hmem
    · rw [hslash] at hc
      cases hc
    · have hpart := List.all_eq_true.mp hs '/' hmem
      rw [hslash, hdigit] at hpart
      cases hpart

lemma toList_simple (name : String) :
    (ClassName.simple name).toList = ClassName.simpleChars name.toList := by
  rw [ClassName.simple, String.toList_ofList]

lemma toList_stub (name comment : String) : (stub name comment).toList =
    "public class ".toList ++ ClassName.simpleChars name.toList ++ " \x7b\n\t// ".toList ++
      comment.toList ++ "\n\x7d".toList := by
  change ("public class " ++ ClassName.simple name ++ " \x7b\n\t// " ++ comment ++
    "\n\x7d").toList = _
  rw [String.toList_append, String.toList_append, String.toList_append, String.toList_append,
    toList_simple]

lemma opening_inj {start start' rest rest' : List Char} (hstart : '/' ∉ start)
    (hstart' : '/' ∉ start')
    (h : start ++ (" \x7b\n\t// ".toList ++ rest) = start' ++ (" \x7b\n\t// ".toList ++ rest')) :
    start = start' ∧ rest = rest' := by
  have hopen : ∀ before after : List Char, before ++ (" \x7b\n\t// ".toList ++ after) =
      (before ++ " \x7b\n\t".toList) ++ '/' :: ("/ ".toList ++ after) := by
    intro before after
    rw [List.append_assoc]
    rfl
  have hfree : ∀ before : List Char, '/' ∉ before → '/' ∉ before ++ " \x7b\n\t".toList := by
    intro before hbefore
    rw [List.mem_append, not_or]
    exact ⟨hbefore, by decide⟩
  rw [hopen, hopen] at h
  obtain ⟨hsame, hafter⟩ := append_cons_inj (hfree start hstart) (hfree start' hstart') h
  exact ⟨List.append_cancel_right hsame, List.append_cancel_left hafter⟩

lemma mem_of_mem_simpleChars {c : Char} (h : c ∈ ClassName.simpleChars s) : c ∈ s := by
  rw [ClassName.simpleChars, List.mem_reverse] at h
  exact List.mem_reverse.mp ((List.takeWhile_prefix _).subset h)

lemma isCommentedClass_stub_iff {comment : String} (hname : '\x5c' ∉ name.toList)
    (hcomment : '\x5c' ∉ comment.toList) : IsCommentedClass (stub name comment) ↔
      isIdentifier (ClassName.simpleChars name.toList) = true ∧
        comment.toList.any endsLine = false := by
  have hstub : '\x5c' ∉ (stub name comment).toList := by
    rw [toList_stub]
    simp only [List.mem_append, not_or]
    exact ⟨⟨⟨⟨by decide, mt mem_of_mem_simpleChars hname⟩, by decide⟩, hcomment⟩, by decide⟩
  rw [IsCommentedClass, decodeEscapes_of_not_mem hstub, toList_stub]
  constructor
  · rintro ⟨identifier, written, hidentifier, hwritten, h⟩
    simp only [List.append_assoc, List.append_cancel_left_eq] at h
    obtain ⟨hsimple, hrest⟩ := opening_inj (not_mem_simpleChars name.toList)
      (not_mem_of_isIdentifier hidentifier) h
    rw [List.append_cancel_right_eq] at hrest
    exact ⟨hsimple ▸ hidentifier, hrest ▸ hwritten⟩
  · rintro ⟨hidentifier, hlines⟩
    exact ⟨_, _, hidentifier, hlines, rfl⟩

lemma not_mem_of_className? {entry : String} (h : className? entry = some name) :
    '\x5c' ∉ name.toList := by
  obtain ⟨-, stem, -, hname⟩ := Catalog.className?_eq_some.mp h
  rw [hname, List.mem_map]
  rintro ⟨c, -, hc⟩
  rw [Catalog.forward] at hc
  split at hc
  · cases hc
  · exact absurd hc ‹_›

lemma isCommentedClass_iff {told : String} (hlines : told.toList.any endsLine = false)
    (htold : '\x5c' ∉ told.toList) (hname : '\x5c' ∉ name.toList) :
    IsCommentedClass (stub name (told ++ name)) ↔
      isIdentifier (ClassName.simpleChars name.toList) = true ∧
        name.toList.any endsLine = false := by
  have hcomment : '\x5c' ∉ (told ++ name).toList := by
    rw [String.toList_append, List.mem_append, not_or]
    exact ⟨htold, hname⟩
  rw [isCommentedClass_stub_iff hname hcomment, String.toList_append, List.any_append, hlines,
    Bool.false_or]

/-- The stubs of a listed class compile if its name is one that Java can write, and has no line break.
Neither is asked of a name before it is listed. -/
theorem listed_stubs_commented_iff (h : Catalog.list d path = .ok listed) (hname : name ∈ listed) :
    '\x5c' ∉ name.toList ∧
    (IsCommentedClass (failureStub name) ↔
      isIdentifier (ClassName.simple name).toList = true ∧ name.toList.any endsLine = false) ∧
    (IsCommentedClass (timeoutStub name) ↔
      isIdentifier (ClassName.simple name).toList = true ∧ name.toList.any endsLine = false) := by
  obtain ⟨opened, -, rfl⟩ := Catalog.list_eq_ok h
  obtain ⟨m, -, hm⟩ := List.mem_filterMap.mp (Names.mem_sorted.mp hname)
  have hfree := not_mem_of_className? hm
  rw [toList_simple, failureStub, timeoutStub]
  exact ⟨hfree, isCommentedClass_iff (by decide) (by decide) hfree,
    isCommentedClass_iff (by decide) (by decide) hfree⟩

def described : Disk where
  tree := ⟨.dir [("app.jar", .file (Archive.write
    [("org/A$1.class", []), ("module-info.class", []), ("a\n/B.class", [])]) false)]⟩

theorem listed_stubs_commented_of_plain :
    Catalog.list described "app.jar" = .ok ["a\n/B", "module-info", "org/A$1"] ∧
      IsCommentedClass (failureStub "org/A$1") ∧ IsCommentedClass (timeoutStub "org/A$1") := by
  have hlist : Catalog.list described "app.jar" = .ok ["a\n/B", "module-info", "org/A$1"] := by
    decide +kernel
  have hmem : "org/A$1" ∈ ["a\n/B", "module-info", "org/A$1"] := by decide
  obtain ⟨-, hfailure, htimeout⟩ := listed_stubs_commented_iff hlist hmem
  have hidentifier : isIdentifier (ClassName.simple "org/A$1").toList = true := by decide
  have hlines : "org/A$1".toList.any endsLine = false := by decide
  exact ⟨hlist, hfailure.mpr ⟨hidentifier, hlines⟩, htimeout.mpr ⟨hidentifier, hlines⟩⟩

theorem listed_stubs_broken :
    Catalog.list described "app.jar" = .ok ["a\n/B", "module-info", "org/A$1"] ∧
      ¬ IsCommentedClass (failureStub "module-info") ∧
      ¬ IsCommentedClass (timeoutStub "module-info") ∧
      ¬ IsCommentedClass (failureStub "a\n/B") ∧ ¬ IsCommentedClass (timeoutStub "a\n/B") := by
  refine ⟨by decide +kernel, ?_, ?_, ?_, ?_⟩ <;>
    exact mt (isCommentedClass_iff (by decide) (by decide) (by decide)).mp (by decide)

end ClassBatch.Source
