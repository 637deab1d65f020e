import ClassBatch.Archive.Writer
import ClassBatch.Proofs.Tool.Scratch

/-! The input of Fernflower is the family of a class as its jar has it, and hostile names of entries
do not lead out of the directory for it. -/

namespace ClassBatch.Tool.Fernflower

open Catalog (Member inFamily isContained isSlash Holds)
open Files Files.Disk Files.Path Text

variable {t : Fernflower} {d d' : Disk} {inner scratch below : List String} {name entry : String}
  {content archive : Bytes} {members written more : List (String × Bytes)} {opened : List Member}

lemma content?_of_holds (h : Holds name opened members) :
    content? inner members (inner ++ below) = some content ↔
      ∃ before m after, opened = before ++ m :: after ∧ inFamily name m.name = true ∧
        below = names m.name ∧ m.read = .ok content ∧ ∀ m' ∈ after, m'.name ≠ m.name := by
  rw [content?, h.reverse.find?_eq_some_iff fun entry => inner ++ names entry = inner ++ below]
  simp only [List.find?_eq_some_iff_append, Bool.and_eq_true, decide_eq_true_eq,
    List.append_cancel_left_eq]
  constructor
  · rintro ⟨m, ⟨⟨hfamily, rfl⟩, after, before, hopened, hafter⟩, hread⟩
    refine ⟨before.reverse, m, after.reverse, ?_, hfamily, rfl, hread, ?_⟩
    · rw [List.reverse_eq_iff.mp hopened]
      simp
    · intro m' hm' hname
      have hother := hafter m' (List.mem_reverse.mp hm')
      rw [hname, hfamily] at hother
      simp at hother
  · rintro ⟨before, m, after, rfl, hfamily, rfl, hread, hafter⟩
    refine ⟨m, ⟨⟨hfamily, rfl⟩, after.reverse, before.reverse, by simp, ?_⟩, hread⟩
    intro m' hm'
    have hname := names_injective.ne (hafter m' (List.mem_reverse.mp hm'))
    simp [hname]

def Inside (scratch place : List String) : Prop :=
  scratch ++ ["in"] <+: place ∨ scratch ++ ["out"] <+: place

lemma prepare_cases (name : String) (h : d.isDir t.scratch = true) :
    ∃ scratch, d.locate t.scratch = .ok scratch ∧
    ((∃ cause d', t.prepare name d = (.error (ioError cause), d') ∧ Emptied (Inside scratch) d d') ∨
      ∃ d₁, Emptied (Inside scratch) d d₁ ∧ Ready t scratch d₁ ∧
        (∀ place content, scratch ++ ["in"] <+: place →
          d₁.tree.look place ≠ some (.file content)) ∧
        t.prepare name d = match Catalog.readFamily d₁ t.classJar name with
          | .error e => (.error (familyError e), d₁)
          | .ok [] => (.error (.classNotFound name), d₁)
          | .ok family => writeFamily t.input family d₁) := by
  obtain ⟨scratch, hplace, hdir⟩ := isDir_eq_true h
  obtain ⟨hfollow, hland⟩ := locate_eq_ok hplace
  refine ⟨scratch, hplace, ?_⟩
  have hin : Reaches t.input (components t.scratch.toList) "in" d :=
    ⟨components_in t, Tree.treads_of_follow hfollow hdir, hland ▸ hdir⟩
  have hemptied := hin.resetDir_emptied
  rw [← hland] at hemptied
  rw [prepare]
  rcases hreset : resetDir t.input d with ⟨e | ⟨⟩, d₁⟩ <;> rw [hreset] at hemptied
  · obtain ⟨cause, rfl⟩ := resetDir_error hreset
    exact Or.inl ⟨cause, d₁, rfl, hemptied.mono fun _ => Or.inl⟩
  · obtain ⟨hin₁, hdir₁, hempty₁⟩ := hin.resetDir_ok hreset
    rw [← hland] at hdir₁ hempty₁
    have hland₁ : scratch = land d₁.here (components t.scratch.toList) := by
      rw [hemptied.here, hland]
    have hout : Reaches t.output (components t.scratch.toList) "out" d₁ :=
      ⟨components_out t, hin₁.treads, hin₁.dir⟩
    have hemptied' := hout.resetDir_emptied
    rw [← hland₁] at hemptied'
    dsimp only
    rcases hreset' : resetDir t.output d₁ with ⟨e | ⟨⟩, d₂⟩ <;> rw [hreset'] at hemptied'
    · obtain ⟨cause, rfl⟩ := resetDir_error hreset'
      exact Or.inl ⟨cause, d₂, rfl,
        (hemptied.mono fun _ => Or.inl).trans (hemptied'.mono fun _ => Or.inr)⟩
    · obtain ⟨hout₂, -, -⟩ := hout.resetDir_ok hreset'
      -- emptying the second directory leaves the first as it is
      have hapart : ¬ scratch ++ ["out"] <+: scratch ++ ["in"] := by
        rw [List.prefix_append_right_inj]
        decide
      refine Or.inr ⟨d₂, (hemptied.mono fun _ => Or.inl).trans (hemptied'.mono fun _ => Or.inr),
        ⟨?_, hout₂.treads, ?_⟩, ?_, rfl⟩
      · rw [hemptied'.here, hland₁]
      · rw [hemptied'.outside _ hapart, hdir₁]
      · intro place content hp hfile
        exact hempty₁ place content hp (hemptied'.file place content hfile)

lemma head?_toList_append {s : String} {c : Char} (h : s.toList.head? = some c) (t : String) :
    (s ++ t).toList.head? = some c := by
  rw [String.toList_append, List.head?_append, h, Option.some_or]

lemma zipChain_head? (cause : Archive.ZipError) :
    ∃ c, c ≠ 'j' ∧ cause.chain.toList.head? = some c := by
  have hmessage : ∃ c, c ≠ 'j' ∧ cause.message.toList.head? = some c := by
    have hinvalid : ∀ reason, (Archive.ZipError.invalid reason).toList.head? = some 'i' :=
      head?_toList_append (by decide)
    have hunsupported : ∀ reason, (Archive.ZipError.unsupported reason).toList.head? = some 'u' :=
      head?_toList_append (by decide)
    cases cause with
    | cutShort => exact ⟨'f', by decide, by decide⟩
    | badChecksum => exact ⟨'I', by decide, by decide⟩
    | corruptData => exact ⟨'c', by decide, by decide⟩
    | manyDisks | aesLength | passwordRequired | unknownMethod =>
      exact ⟨'u', by decide, hunsupported _⟩
    | _ => exact ⟨'i', by decide, hinvalid _⟩
  obtain ⟨c, hc, hhead⟩ := hmessage
  refine ⟨c, hc, ?_⟩
  rw [Archive.ZipError.chain]
  split
  · exact head?_toList_append (head?_toList_append hhead _) _
  · exact hhead

lemma chain_head?_ne (e : CatalogError) : e.chain.toList.head? ≠ some 'j' := by
  have hother : ∀ {s : String} {c : Char}, c ≠ 'j' → s.toList.head? = some c →
      s.toList.head? ≠ some 'j' := by
    intro s c hc hs
    rwa [hs, ne_eq, Option.some.injEq]
  have hfailed : 'F' ≠ 'j' := by decide
  cases e with
  | closed cause =>
    obtain ⟨c, hc, hhead⟩ := zipChain_head? cause
    exact hother hc hhead
  | unopened path cause =>
    have hopen : ("Failed to open jar: " ++ path).toList.head? = some 'F' :=
      head?_toList_append (by decide) path
    exact hother hfailed (head?_toList_append (head?_toList_append hopen _) _)
  | unmapped path =>
    have hmap : ("Failed to mmap jar: " ++ path).toList.head? = some 'F' :=
      head?_toList_append (by decide) path
    exact hother hfailed (head?_toList_append hmap _)
  | malformed path cause =>
    have hparse : ("Failed to read zip structure: " ++ path).toList.head? = some 'F' :=
      head?_toList_append (by decide) path
    exact hother hfailed (head?_toList_append (head?_toList_append hparse _) _)
  | unreadable entry path cause =>
    have hread : ("Failed to read " ++ entry).toList.head? = some 'F' :=
      head?_toList_append (by decide) entry
    exact hother hfailed (head?_toList_append (head?_toList_append (head?_toList_append
      (head?_toList_append hread _) _) _) _)

lemma read_of_extracted {path : String} (hempty : ∀ place content, inner <+: place →
      d.tree.look place ≠ some (.file content))
    (hx : Extracted inner written d d') (h : d.read path = .ok archive) :
    d'.read path = .ok archive := by
  obtain ⟨place, hplace, hfile, hname⟩ := read_eq_ok_iff.mp h
  refine read_eq_ok_iff.mpr ⟨place, ?_, ?_, hname⟩
  · rw [locate] at hplace ⊢
    split at hplace
    · cases hplace
    · split at hplace
      · cases hplace
      · split at hplace
        · cases hplace
        · rename_i hne hnul hlong
          rw [if_neg hne, if_neg hnul, if_neg hlong, hx.here]
          exact Tree.follow_mono hx.dir hplace
  · rw [hx.outside _ fun hbelow => hempty place archive hbelow.1 hfile, hfile]

structure Confined (t : Fernflower) (name : String) (scratch : List String) (d d' : Disk) : Prop where
  outside : ∀ place, ¬ Inside scratch place → d'.tree.look place = d.tree.look place
  file : ∀ place content, d'.tree.look place = some (.file content) →
    d.tree.look place = some (.file content) ∨
      ∃ entry, inFamily name entry = true ∧ place = scratch ++ ["in"] ++ names entry

namespace Confined

lemma of_emptied (h : Emptied (Inside scratch) d d') : Confined t name scratch d d' :=
  ⟨h.outside, fun place content hfile => Or.inl (h.file place content hfile)⟩

lemma extracted {d₁ : Disk} (h : Emptied (Inside scratch) d d₁) (hholds : Holds name opened members)
    (hwritten : members = written ++ more) (hx : Extracted (scratch ++ ["in"]) written d₁ d') :
    Confined t name scratch d d' := by
  refine ⟨fun place hp => ?_, fun place content hfile => ?_⟩
  · rw [hx.outside place fun hbelow => hp (Or.inl hbelow.1), h.outside place hp]
  · rcases (hx.file place content).mp hfile with hcontent | ⟨-, hfile₁⟩
    · obtain ⟨member, hfind, -⟩ := Option.map_eq_some_iff.mp hcontent
      have hmember : member ∈ members := by
        rw [hwritten, List.mem_append]
        exact Or.inl (List.mem_reverse.mp (List.mem_of_find?_eq_some hfind))
      obtain ⟨m, -, hfamily, hname, -⟩ := hholds.exists_entry hmember
      have hplace := List.find?_some hfind
      exact Or.inr ⟨member.1, hname ▸ hfamily, (of_decide_eq_true hplace).symm⟩
    · exact Or.inl (h.file place content hfile₁)

end Confined

def Mirrors (t : Fernflower) (name : String) (scratch : List String) (d' : Disk) : Prop :=
  ∃ opened, Catalog.openJar d' t.classJar = .ok (opened.map Except.ok) ∧
    (∃ m ∈ opened, inFamily name m.name = true) ∧
    ∀ below content, d'.tree.look (scratch ++ ["in"] ++ below) = some (.file content) ↔
      ∃ before m after, opened = before ++ m :: after ∧ inFamily name m.name = true ∧
        below = names m.name ∧ m.read = .ok content ∧ ∀ m' ∈ after, m'.name ≠ m.name

lemma mirrors_of_extracted (hempty : ∀ place content, scratch ++ ["in"] <+: place →
      d.tree.look place ≠ some (.file content))
    (hread : Catalog.readFamily d t.classJar name = .ok members) (hne : members ≠ [])
    (hx : Extracted (scratch ++ ["in"]) members d d') : Mirrors t name scratch d' := by
  obtain ⟨opened, hjar, hholds⟩ := Catalog.readFamily_eq_ok hread
  obtain ⟨archive, harchive, hmembers⟩ := Catalog.openJar_eq_ok_iff.mp hjar
  refine ⟨opened, Catalog.openJar_eq_ok_iff.mpr
    ⟨archive, read_of_extracted hempty hx harchive, hmembers⟩, ?_, ?_⟩
  · obtain ⟨member, hmember⟩ := List.exists_mem_of_ne_nil members hne
    obtain ⟨m, hm, hfamily, -⟩ := hholds.exists_entry hmember
    exact ⟨m, hm, hfamily⟩
  · intro below content
    rw [hx.file, ← content?_of_holds hholds]
    -- before the family was put there, no file stood below the directory
    refine or_iff_left ?_
    rintro ⟨-, hfile⟩
    exact hempty _ content (List.prefix_append _ _) hfile

/-- Whatever its entries are called, a jar gives nothing out but files that stand side by side below the
input directory. The scratch directory is made together with the instance. -/
theorem extraction_confined (t : Fernflower) (name : String) (d : Disk)
    (h : d.isDir t.scratch = true) :
    (∀ entry, isContained entry = true ↔ '\x00' ∉ entry.toList ∧
      ∀ segment ∈ splitAll isSlash entry.toList,
        segment ≠ [] ∧ segment ≠ ['.'] ∧ segment ≠ ['.', '.']) ∧
    (∀ entry, inFamily name entry = true → isWithin t.input (join t.input entry) = true ∧
      ∃ simple, names entry = (names name).dropLast ++ [simple]) ∧
    (∀ entry, (t.prepare name d).1 ≠
      .error (.backend ("jar entry " ++ entry ++ " resolves outside the scratch directory"))) ∧
    ∃ scratch, d.locate t.scratch = .ok scratch ∧
      Confined t name scratch d (t.prepare name d).2 ∧
      ((t.prepare name d).1 = .ok () → Mirrors t name scratch (t.prepare name d).2) := by
  refine ⟨fun entry => Catalog.isContained_iff, fun entry hentry => ⟨isWithin_of_isContained t.input
    (Catalog.inFamily_iff.mp hentry).1, Catalog.names_of_inFamily hentry⟩, ?_⟩
  obtain ⟨scratch, hplace, ⟨cause, d', he, hemptied⟩ | ⟨d₁, hemptied, hready, hempty, he⟩⟩ :=
    prepare_cases name h
  · rw [he]
    exact ⟨nofun, scratch, hplace, Confined.of_emptied hemptied, nofun⟩
  · rw [he]
    cases hread : Catalog.readFamily d₁ t.classJar name with
    | error e =>
      refine ⟨fun entry hentry => ?_, scratch, hplace, Confined.of_emptied hemptied, nofun⟩
      dsimp only at hentry
      rcases familyError_cases e with he | ⟨reason, he⟩ <;> rw [he] at hentry
      · refine chain_head?_ne e ?_
        rw [DecompileError.backend.inj (Except.error.inj hentry)]
        exact head?_toList_append (head?_toList_append (by decide) entry) _
      · cases hentry
    | ok family =>
      obtain ⟨opened, -, hholds⟩ := Catalog.readFamily_eq_ok hread
      have hall : ∀ member ∈ family, isContained member.1 = true := by
        intro member hmember
        obtain ⟨m, -, hfamily, hname, -⟩ := hholds.exists_entry hmember
        exact hname ▸ (Catalog.inFamily_iff.mp hfamily).1
      cases family with
      | nil => exact ⟨nofun, scratch, hplace, Confined.of_emptied hemptied, nofun⟩
      | cons member family =>
        obtain ⟨written, more, d', hwritten, hx, hend⟩ := writeFamily_spec hready hall
        refine ⟨fun entry hentry => ?_, scratch, hplace, ?_, fun hok => ?_⟩
        · rcases hend with ⟨he, -⟩ | ⟨cause, he⟩ <;> dsimp only at hentry <;> rw [he] at hentry <;>
            cases hentry
        · have hconfined := Confined.extracted (t := t) hemptied hholds hwritten hx
          rcases hend with ⟨he, -⟩ | ⟨cause, he⟩ <;> dsimp only <;> rw [he] <;> exact hconfined
        · rcases hend with ⟨he, rfl⟩ | ⟨cause, he⟩ <;> dsimp only at hok ⊢ <;> rw [he] at hok ⊢
          · rw [List.append_nil] at hwritten
            exact mirrors_of_extracted hempty hread (List.cons_ne_nil _ _) (hwritten ▸ hx)
          · cases hok

def hostile : Disk where
  tree := ⟨.dir [
    ("app.jar", .file (Archive.write
      [("a/B.class", [1]), ("../B.class", [9]), ("a/B$1.class", [3]), ("a/B.class", [2])]) false),
    ("scratch", .dir [("in", .dir [("left", .file [7] false)])])]⟩

theorem extraction_confined_of_hostile :
    let t : Fernflower := ⟨"java", "fernflower.jar", "app.jar", "scratch"⟩
    hostile.isDir t.scratch = true ∧ (t.prepare "a/B" hostile).1 = .ok () ∧
      (t.prepare "a/B" hostile).2.tree.look ["scratch", "in", "a", "B.class"] = some (.file [2]) ∧
      ∃ scratch, hostile.locate t.scratch = .ok scratch ∧
        Confined t "a/B" scratch hostile (t.prepare "a/B" hostile).2 ∧
        Mirrors t "a/B" scratch (t.prepare "a/B" hostile).2 := by
  intro t
  have hdir : hostile.isDir t.scratch = true := by decide +kernel
  have hok : (t.prepare "a/B" hostile).1 = .ok () := by decide +kernel
  obtain ⟨-, -, -, scratch, hplace, hconfined, hmirrors⟩ :=
    extraction_confined t "a/B" hostile hdir
  exact ⟨hdir, hok, by decide +kernel, scratch, hplace, hconfined, hmirrors hok⟩

end ClassBatch.Tool.Fernflower
