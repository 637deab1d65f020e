import ClassBatch.Archive.Writer
import ClassBatch.Proofs.Tool.Scratch

/-! A class is listed with slashes, and its family is looked up by the names that the entries have. The
two agree on every entry without a backslash, and on no other. -/

namespace ClassBatch.Tool.Fernflower

open Catalog (Member inFamily className?)
open Files Text

variable {t : Fernflower} {d d' : Disk} {name path dir : String} {e : DecompileError}
  {members : List (String × Bytes)} {opened : List Member} {m : Member} {listed : List String}

lemma writeMember_ne_classNotFound (name dir : String) (member : String × Bytes) (d : Disk) :
    (writeMember dir member d).1 ≠ .error (.classNotFound name) := by
  intro h
  rw [writeMember] at h
  split at h
  · cases h
  · split at h
    · cases h
    · split at h <;> cases h

lemma writeFamily_ne_classNotFound (name dir : String) (members : List (String × Bytes))
    (d : Disk) : (writeFamily dir members d).1 ≠ .error (.classNotFound name) := by
  induction members generalizing d with
  | nil =>
    intro h
    cases h
  | cons member members ih =>
    have hmember := writeMember_ne_classNotFound name dir member d
    rw [writeFamily]
    rcases hw : writeMember dir member d with ⟨e | ⟨⟩, d₁⟩
    · rw [hw] at hmember
      exact hmember
    · exact ih d₁

lemma readFamily_of_classNotFound (h : t.prepare name d = (.error (.classNotFound name), d')) :
    Catalog.readFamily d' t.classJar name = .ok [] := by
  rw [prepare] at h
  rcases hin : resetDir t.input d with ⟨e | ⟨⟩, d₁⟩ <;> rw [hin] at h
  · obtain ⟨cause, rfl⟩ := resetDir_error hin
    cases h
  · dsimp only at h
    rcases hout : resetDir t.output d₁ with ⟨e | ⟨⟩, d₂⟩ <;> rw [hout] at h
    · obtain ⟨cause, rfl⟩ := resetDir_error hout
      cases h
    · dsimp only at h
      cases hfamily : Catalog.readFamily d₂ t.classJar name with
      | error e =>
        rw [hfamily] at h
        rcases familyError_cases e with he | ⟨reason, he⟩ <;> dsimp only at h <;> rw [he] at h <;>
          cases h
      | ok family =>
        rw [hfamily] at h
        cases family with
        | nil =>
          cases h
          exact hfamily
        | cons member family =>
          exact absurd (congrArg Prod.fst h) (writeFamily_ne_classNotFound name t.input _ d₂)

end ClassBatch.Tool.Fernflower

namespace ClassBatch.Catalog

open Files Text Tool

variable {d d' : Disk} {name path : String} {members : List (String × Bytes)} {opened : List Member}
  {m : Member} {listed : List String} {t : Fernflower}

lemma mem_members_of_className? (hholds : Holds name opened members) (hm : m ∈ opened)
    (hlisted : className? m.name = some name) :
    ('\x5c' ∉ m.name.toList → ∃ data, m.read = .ok data ∧ (m.name, data) ∈ members) ∧
      ('\x5c' ∈ m.name.toList → m.name ∉ members.map Prod.fst) := by
  constructor
  · intro hplain
    exact hholds.exists_data hm ((inFamily_of_className? hlisted).mpr hplain)
  · intro hslash hmem
    obtain ⟨member, hmember, hname⟩ := List.mem_map.mp hmem
    obtain ⟨m', -, hfamily, hname', -⟩ := hholds.exists_entry hmember
    rw [hname', hname] at hfamily
    exact (inFamily_of_className? hlisted).mp hfamily hslash

lemma backslash_of_classNotFound {start : Disk} (hjar : openJar d path = .ok (opened.map Except.ok))
    (h : t.prepare name start = (.error (.classNotFound name), d'))
    (hsame : d'.read t.classJar = d.read path) (hm : m ∈ opened)
    (hlisted : className? m.name = some name) : '\x5c' ∈ m.name.toList := by
  obtain ⟨archive, harchive, hmembers⟩ := openJar_eq_ok_iff.mp hjar
  have hjar' : openJar d' t.classJar = .ok (opened.map Except.ok) :=
    openJar_eq_ok_iff.mpr ⟨archive, hsame.trans harchive, hmembers⟩
  have hempty := Fernflower.readFamily_of_classNotFound h
  rw [readFamily_eq_family hjar'] at hempty
  by_contra hplain
  obtain ⟨data, -, hmem⟩ := (mem_members_of_className? (family_ok hempty) hm hlisted).1 hplain
  cases hmem

/-- Listing and looking up agree, for every jar and every listed class, on the entries that have no
backslash in their names. -/
theorem listed_class_in_family (h : list d path = .ok listed) (hname : name ∈ listed) :
    ∃ opened : List Member, openJar d path = .ok (opened.map Except.ok) ∧
      (∃ m ∈ opened, className? m.name = some name) ∧
      ((∃ m ∈ opened, inFamily name m.name = true ∧ ∃ cause, m.read = .error cause ∧
          readFamily d path name = .error (.unreadable m.name path cause)) ∨
        ∃ members, readFamily d path name = .ok members ∧
          ∀ m ∈ opened, className? m.name = some name →
            ('\x5c' ∉ m.name.toList → ∃ data, m.read = .ok data ∧ (m.name, data) ∈ members) ∧
              ('\x5c' ∈ m.name.toList → m.name ∉ members.map Prod.fst)) ∧
      ∀ (t : Fernflower) (start d' : Disk),
        t.prepare name start = (.error (.classNotFound name), d') → d'.read t.classJar = d.read path →
          ∀ m ∈ opened, className? m.name = some name → '\x5c' ∈ m.name.toList := by
  obtain ⟨opened, hjar, rfl⟩ := list_eq_ok h
  refine ⟨opened, hjar, ?_, ?_, ?_⟩
  · obtain ⟨m, hm, hlisted⟩ := List.mem_filterMap.mp (Names.mem_sorted.mp hname)
    exact ⟨m, hm, hlisted⟩
  · rw [readFamily_eq_family hjar]
    rcases family_cases path name opened with hunread | ⟨members, hfamily, hholds⟩
    · exact Or.inl hunread
    · exact Or.inr ⟨members, hfamily, fun m hm => mem_members_of_className? hholds hm⟩
  · intro t start d' hmissing hsame m hm
    exact backslash_of_classNotFound hjar hmissing hsame hm

def nested : Disk where
  tree := ⟨.dir [("app.jar", .file (Archive.write [("a/B$1.class", [2]), ("a/B.class", [1])]) false)]⟩

theorem listed_class_in_family_of_nested : list nested "app.jar" = .ok ["a/B", "a/B$1"] ∧
    readFamily nested "app.jar" "a/B" = .ok [("a/B$1.class", [2]), ("a/B.class", [1])] ∧
    ∃ opened : List Member, openJar nested "app.jar" = .ok (opened.map Except.ok) ∧
      ∃ m ∈ opened, className? m.name = some "a/B" := by
  have hlist : list nested "app.jar" = .ok ["a/B", "a/B$1"] := by decide +kernel
  obtain ⟨opened, hjar, hm, -⟩ := listed_class_in_family hlist List.mem_cons_self
  exact ⟨hlist, by decide +kernel, opened, hjar, hm⟩

def backslashed : Disk where
  tree := ⟨.dir [("app.jar", .file (Archive.write [("a\x5cB.class", [1])]) false),
    ("scratch", .dir [])]⟩

theorem family_of_backslashed_missing : list backslashed "app.jar" = .ok ["a/B"] ∧
    readFamily backslashed "app.jar" "a/B" = .ok [] ∧
    (Fernflower.prepare ⟨"java", "fernflower.jar", "app.jar", "scratch"⟩ "a/B" backslashed).1 =
      .error (.classNotFound "a/B") := by
  refine ⟨?_, ?_, ?_⟩ <;> decide +kernel

end ClassBatch.Catalog
