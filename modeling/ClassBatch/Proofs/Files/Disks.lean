import ClassBatch.Files.Disk
import ClassBatch.Proofs.Files.Trees

/-! A disk by paths. A path that goes through directories leads where its components say, and making
directories along it changes nothing that was there before. -/

namespace ClassBatch.Files

open Text (Bytes)

def land (place : List String) : List Component → List String
  | [] => place
  | .root :: rest => land [] rest
  | .current :: rest => land place rest
  | .parent :: rest => land place.dropLast rest
  | .normal name :: rest => land (place ++ [String.ofList name]) rest

def Treads (p : List String → Prop) (place : List String) : List Component → Prop
  | [] => True
  | .root :: rest => Treads p [] rest
  | .current :: rest => Treads p place rest
  | .parent :: rest => Treads p place.dropLast rest
  | .normal name :: rest =>
    p (place ++ [String.ofList name]) ∧ Treads p (place ++ [String.ofList name]) rest

section Components

variable {p p' : List String → Prop} {place : List String} {path rest : List Component}

lemma land_append (place : List String) (path rest : List Component) :
    land place (path ++ rest) = land (land place path) rest := by
  induction path generalizing place with
  | nil => rfl
  | cons component path ih => cases component <;> exact ih _

lemma treads_append : Treads p place (path ++ rest) ↔
    Treads p place path ∧ Treads p (land place path) rest := by
  induction path generalizing place with
  | nil => simp [Treads, land]
  | cons component path ih =>
    cases component with
    | normal name => exact (and_congr_right fun _ => ih).trans and_assoc.symm
    | _ => exact ih

lemma Treads.mono (hp : ∀ place, p place → p' place) (h : Treads p place path) :
    Treads p' place path := by
  induction path generalizing place with
  | nil => trivial
  | cons component path ih =>
    cases component with
    | normal name => exact ⟨hp _ h.1, ih h.2⟩
    | _ => exact ih h

lemma treads_of_forall (h : ∀ place, p place) (place : List String) (path : List Component) :
    Treads p place path := by
  induction path generalizing place with
  | nil => trivial
  | cons component path ih =>
    cases component with
    | normal name => exact ⟨h _, ih _⟩
    | _ => exact ih _

end Components

namespace Tree

variable {t t' : Tree} {place target : List String} {path : List Component}

lemma follow_eq_ok (h : t.follow place path = .ok target) : target = land place path := by
  fun_induction follow t place path with
  | case1 place => exact (Except.ok.inj h).symm
  | case2 | case3 | case4 => rename_i ih; exact ih h
  | case5 place name => exact (Except.ok.inj h).symm
  | case6 place name rest _ _ _ _ ih => exact ih h
  | case7 | case8 => cases h

lemma treads_of_follow (h : t.follow place path = .ok target) (hdir : t.look target = some .dir) :
    Treads (fun place => t.look place = some .dir) place path := by
  fun_induction follow t place path with
  | case1 place => trivial
  | case2 | case3 | case4 => rename_i ih; exact ih h
  | case5 place name =>
    cases h
    exact ⟨hdir, trivial⟩
  | case6 place name rest _ entries locked hfind ih =>
    exact ⟨look_eq_dir_iff.mpr ⟨entries, locked, hfind⟩, ih h⟩
  | case7 | case8 => cases h

lemma follow_append_normal (h : Treads (fun place => t.look place = some .dir) place path)
    (name : List Char) : t.follow place (path ++ [.normal name]) =
      .ok (land place path ++ [String.ofList name]) := by
  induction path generalizing place with
  | nil => rfl
  | cons component path ih =>
    cases component with
    | normal first =>
      obtain ⟨entries, locked, hfind⟩ := look_eq_dir_iff.mp h.1
      rw [List.cons_append, follow, hfind]
      · exact ih h.2
      · simp
    | _ => exact ih h

lemma follow_mono (hmono : ∀ place, t.look place = some .dir → t'.look place = some .dir)
    (h : t.follow place path = .ok target) : t'.follow place path = .ok target := by
  fun_induction follow t place path with
  | case1 place => exact h
  | case2 | case3 | case4 => rename_i ih; exact ih h
  | case5 place name => exact h
  | case6 place name rest hrest entries locked hfind ih =>
    have hdir := look_eq_dir_iff.mpr ⟨entries, locked, hfind⟩
    obtain ⟨entries', locked', hfind'⟩ := look_eq_dir_iff.mp (hmono _ hdir)
    rw [follow, hfind']
    · exact ih h
    · exact hrest
  | case7 | case8 => cases h

end Tree

namespace Disk

structure Grows (region : List String → Prop) (d d' : Disk) : Prop where
  here : d'.here = d.here
  look : ∀ place, d'.tree.look place = d.tree.look place ∨
    region place ∧ d.tree.look place = none ∧ d'.tree.look place = some .dir

variable {region : List String → Prop} {d d' d'' : Disk} {place : List String}
  {path rest : List Component} {name : String} {content : Bytes}

namespace Grows

lemma refl (region : List String → Prop) (d : Disk) : Grows region d d :=
  ⟨rfl, fun _ => Or.inl rfl⟩

lemma dir (h : Grows region d d') (hp : d.tree.look place = some .dir) :
    d'.tree.look place = some .dir := by
  rcases h.look place with he | ⟨-, -, he⟩
  · rw [he, hp]
  · exact he

lemma file_iff (h : Grows region d d') :
    d'.tree.look place = some (.file content) ↔ d.tree.look place = some (.file content) := by
  rcases h.look place with he | ⟨-, hnone, he⟩
  · rw [he]
  · simp [hnone, he]

lemma eq_of_not (h : Grows region d d') (hp : ¬ region place) :
    d'.tree.look place = d.tree.look place :=
  (h.look place).resolve_right fun hr => hp hr.1

lemma trans (h : Grows region d d') (h' : Grows region d' d'') : Grows region d d'' := by
  refine ⟨h'.here.trans h.here, fun place => ?_⟩
  rcases h.look place with he | ⟨hr, hnone, he⟩
  · rw [← he]
    exact h'.look place
  · exact Or.inr ⟨hr, hnone, h'.dir he⟩

end Grows

lemma grows_createDir {tree : Tree} (hr : region (place ++ [name]))
    (hfind : d.tree.find (place ++ [name]) = .error .notFound)
    (h : d.tree.createDir (place ++ [name]) = .ok tree) : Grows region d { d with tree } := by
  obtain ⟨hnone, hlook⟩ := Tree.look_createDir (Tree.look_parent_of_createDir hfind h) h
  refine ⟨rfl, fun other => ?_⟩
  rw [hlook]
  split
  · rename_i he
    exact Or.inr ⟨he ▸ hr, he ▸ hnone, rfl⟩
  · exact Or.inl rfl

lemma look_createDir_self {tree : Tree} (hfind : d.tree.find (place ++ [name]) = .error .notFound)
    (h : d.tree.createDir (place ++ [name]) = .ok tree) : tree.look (place ++ [name]) = some .dir := by
  rw [(Tree.look_createDir (Tree.look_parent_of_createDir hfind h) h).2, if_pos rfl]

lemma createAlong_grows (h : Treads (fun place => region place ∨ d.tree.look place = some .dir)
    place path) : Grows region d (d.createAlong place path).2 := by
  induction path generalizing d place with
  | nil =>
    rw [createAlong]
    split <;> exact Grows.refl region d
  | cons component path ih =>
    cases component with
    | normal name =>
      rw [createAlong]
      split
      · exact ih h.2
      · exact Grows.refl region d
      · rename_i hfind
        split
        · rename_i tree htree
          have hnone : d.tree.look (place ++ [String.ofList name]) ≠ some .dir := by
            rw [Tree.look_eq_none_iff.mpr ⟨_, hfind⟩]
            nofun
          have hgrows := grows_createDir (h.1.resolve_right hnone) hfind htree
          exact hgrows.trans (ih (h.2.mono fun other => Or.imp_right hgrows.dir))
        · exact Grows.refl region d
      · exact Grows.refl region d
    | _ => exact ih h

lemma createAlong_none (h : (d.createAlong place path).1 = none) :
    Treads (fun other => (d.createAlong place path).2.tree.look other = some .dir) place path ∧
      (d.createAlong place path).2.tree.look (land place path) = some .dir := by
  induction path generalizing d place with
  | nil =>
    rw [createAlong] at h ⊢
    split at h
    · rename_i hdir
      rw [if_pos hdir]
      exact ⟨trivial, Tree.isDir_iff.mp hdir⟩
    · cases h
  | cons component path ih =>
    cases component with
    | normal name =>
      have hgrows : ∀ d : Disk, Grows (fun _ => True) d
          (d.createAlong (place ++ [String.ofList name]) path).2 := fun d =>
        createAlong_grows (treads_of_forall (fun _ => Or.inl trivial) _ _)
      rw [createAlong] at h ⊢
      split at h
      · rename_i entries locked hfind
        have hdir := Tree.look_eq_dir_iff.mpr ⟨entries, locked, hfind⟩
        exact ⟨⟨(hgrows d).dir hdir, (ih h).1⟩, (ih h).2⟩
      · cases h
      · rename_i hfind
        split at h
        · rename_i tree htree
          exact ⟨⟨(hgrows _).dir (look_createDir_self hfind htree), (ih h).1⟩, (ih h).2⟩
        · cases h
      · cases h
    | _ => exact ih h

lemma createAlong_append (h : Treads (fun place => d.tree.look place = some .dir) place path)
    (rest : List Component) :
    d.createAlong place (path ++ rest) = d.createAlong (land place path) rest := by
  induction path generalizing place with
  | nil => rfl
  | cons component path ih =>
    cases component with
    | normal name =>
      obtain ⟨entries, locked, hfind⟩ := Tree.look_eq_dir_iff.mp h.1
      rw [List.cons_append, createAlong, hfind]
      exact ih h.2
    | _ => exact ih h

variable {s : String}

lemma createDirs_cases (hs : s ≠ "") :
    d.createDirs s = (some .badName, d) ∨
      d.createDirs s = d.createAlong d.here (Path.components s.toList) := by
  have hempty : s.isEmpty = false := by simpa using hs
  rw [createDirs, hempty, if_neg Bool.false_ne_true]
  split
  · exact Or.inl rfl
  · exact Or.inr rfl

lemma locate_eq_ok (h : d.locate s = .ok place) :
    d.tree.follow d.here (Path.components s.toList) = .ok place ∧
      place = land d.here (Path.components s.toList) := by
  rw [locate] at h
  split at h
  · cases h
  · split at h
    · cases h
    · split at h
      · cases h
      · exact ⟨h, Tree.follow_eq_ok h⟩

lemma isDir_eq_true (h : d.isDir s = true) :
    ∃ place, d.locate s = .ok place ∧ d.tree.look place = some .dir := by
  rw [isDir, node] at h
  cases hplace : d.locate s with
  | error e => rw [hplace] at h; cases h
  | ok place =>
    rw [hplace] at h
    simp only [bind, Except.bind] at h
    refine ⟨place, rfl, Tree.look_eq_dir_iff.mpr ?_⟩
    cases hfind : d.tree.find place with
    | error e => rw [hfind] at h; cases h
    | ok node =>
      cases node with
      | dir entries locked => exact ⟨entries, locked, rfl⟩
      | file content executable =>
        rw [hfind] at h
        cases hname : Path.namesDirectory s <;> rw [hname] at h <;> cases h

lemma change_eq_ok {act : Tree → List String → Except FileError Tree}
    (h : d.change s act = .ok d') : ∃ tree,
      act d.tree (land d.here (Path.components s.toList)) = .ok tree ∧ d' = { d with tree } := by
  rw [change] at h
  cases hplace : d.locate s with
  | error e => rw [hplace] at h; cases h
  | ok place =>
    rw [hplace] at h
    simp only [bind, Except.bind] at h
    rw [← (locate_eq_ok hplace).2]
    split at h
    · split at h <;> cases h
    · cases htree : act d.tree place with
      | error e => rw [htree] at h; cases h
      | ok tree =>
        rw [htree] at h
        cases h
        exact ⟨tree, rfl, rfl⟩

lemma createDir_eq_ok (h : d.createDir s = .ok d') : ∃ place tree,
    d.locate s = .ok place ∧ d.tree.createDir place = .ok tree ∧ d' = { d with tree } := by
  rw [createDir] at h
  cases hplace : d.locate s with
  | error e => rw [hplace] at h; cases h
  | ok place =>
    rw [hplace] at h
    cases htree : d.tree.createDir place with
    | error e => simp only [bind, Except.bind, htree] at h; cases h
    | ok tree =>
      simp only [bind, Except.bind, htree] at h
      cases h
      exact ⟨place, tree, rfl, htree, rfl⟩

lemma write_eq_ok (h : d.write s content = .ok d') : ∃ tree,
    d.tree.write (land d.here (Path.components s.toList)) content = .ok tree ∧
      d' = { d with tree } :=
  change_eq_ok h

lemma read_eq_ok_iff : d.read s = .ok content ↔ ∃ place, d.locate s = .ok place ∧
    d.tree.look place = some (.file content) ∧ Path.namesDirectory s = false := by
  rw [read, node]
  cases hplace : d.locate s with
  | error e => simp [bind, Except.bind]
  | ok place =>
    simp only [bind, Except.bind, Except.ok.injEq, exists_eq_left', Tree.look_eq_file_iff]
    cases d.tree.find place with
    | error e => simp
    | ok node => cases node <;> cases Path.namesDirectory s <;> simp [Node.isDir, pure, Except.pure]

end Disk

end ClassBatch.Files
