import ClassBatch.Proofs.Files.Disks

/-! What stands at a place while changes are made at other places. A change shows at the place where
a path leads and below it, and where its directories are missing on the way. -/

namespace ClassBatch.Files

open Text (Bytes)

def trail (place : List String) : List Component → List (List String)
  | [] => []
  | .root :: rest => trail [] rest
  | .current :: rest => trail place rest
  | .parent :: rest => trail place.dropLast rest
  | .normal name :: rest =>
    (place ++ [String.ofList name]) :: trail (place ++ [String.ofList name]) rest

lemma treads_iff {p : List String → Prop} {place : List String} {path : List Component} :
    Treads p place path ↔ ∀ other ∈ trail place path, p other := by
  induction path generalizing place with
  | nil => simp [Treads, trail]
  | cons component path ih =>
    cases component with
    | normal name => simp [Treads, trail, ih]
    | _ => exact ih

lemma trail_append (place : List String) (path rest : List Component) :
    trail place (path ++ rest) = trail place path ++ trail (land place path) rest := by
  induction path generalizing place with
  | nil => rfl
  | cons component path ih =>
    cases component with
    | normal name => exact congrArg _ (ih _)
    | _ => exact ih _

lemma prefix_land {place : List String} {path : List Component}
    (hdown : ∀ c ∈ path, c ≠ .root ∧ c ≠ .parent) :
    place <+: land place path ∧ ∀ other ∈ trail place path, other <+: land place path := by
  induction path generalizing place with
  | nil => exact ⟨List.prefix_refl _, by simp [trail]⟩
  | cons component path ih =>
    obtain ⟨hcomponent, hpath⟩ := List.forall_mem_cons.mp hdown
    cases component with
    | root => exact absurd rfl hcomponent.1
    | parent => exact absurd rfl hcomponent.2
    | current => exact ih hpath
    | normal name =>
      obtain ⟨hplace, htrail⟩ := @ih (place ++ [String.ofList name]) hpath
      exact ⟨(List.prefix_append _ _).trans hplace, List.forall_mem_cons.mpr ⟨hplace, htrail⟩⟩

namespace Node

variable {name : String} {node node' inner : Node} {place other rest : List String}
  {entries : List (String × Node)} {change : Option Node → Except FileError (Option Node)}

lemma find_withEntry_of_ne {first : String} (hfirst : first ≠ name)
    (entries : List (String × Node)) (locked : Bool) (new : Option Node) (others : List String) :
    (withEntry name entries locked new).find (first :: others) =
      (dir entries locked).find (first :: others) := by
  cases new with
  | none => rw [withEntry, find, find, lookup_eraseEntry, if_neg hfirst]
  | some node => rw [withEntry, find, find, lookup_setEntry, if_neg hfirst]

lemma map_find_alter {α : Type} {view : Node → α}
    (hview : ∀ entries entries' locked, view (dir entries locked) = view (dir entries' locked))
    (h : node.alter change place = .ok node') (hother : ¬ place <+: other) :
    (node'.find other).toOption.map view = (node.find other).toOption.map view := by
  induction place generalizing node node' other with
  | nil => exact absurd List.nil_prefix hother
  | cons name rest ih =>
    obtain ⟨entries, locked, rfl, ⟨rfl, new, -, -, rfl⟩ | ⟨-, inner, inner', hlookup, hinner, rfl⟩⟩ :=
      alter_cons_eq_ok h
    · cases other with
      | nil => cases new <;> exact congrArg some (hview _ _ _)
      | cons first others =>
        have hfirst : first ≠ name := fun he =>
          hother (List.cons_prefix_cons.mpr ⟨he.symm, List.nil_prefix⟩)
        rw [find_withEntry_of_ne hfirst]
    · -- only the entry of the first name is replaced, by a node that looks the same elsewhere
      cases other with
      | nil => exact congrArg some (hview _ _ _)
      | cons first others =>
        by_cases hfirst : first = name
        · subst hfirst
          have hothers := ih hinner fun hp => hother (List.cons_prefix_cons.mpr ⟨rfl, hp⟩)
          rw [find, find, lookup_setEntry, if_pos rfl, hlookup]
          split
          · rfl
          · exact hothers
        · exact congrArg (fun result => result.toOption.map view)
            (find_withEntry_of_ne hfirst entries locked (some inner') others)

lemma look_alter (h : node.alter change place = .ok node') (hother : ¬ place <+: other) :
    node'.look other = node.look other :=
  map_find_alter (fun _ _ _ => rfl) h hother

end Node

lemma Tree.alter_eq_ok {t t' : Tree} {place : List String}
    {change : Option Node → Except FileError (Option Node)} (h : t.alter place change = .ok t') :
    t.root.alter change place = .ok t'.root := by
  rw [alter] at h
  split at h
  · cases h
  · cases hnode : t.root.alter change place with
    | error e => rw [hnode] at h; cases h
    | ok node =>
      rw [hnode] at h
      cases h
      rfl

lemma Tree.look_alter {t t' : Tree} {place other : List String}
    {change : Option Node → Except FileError (Option Node)} (h : t.alter place change = .ok t')
    (hother : ¬ place <+: other) : t'.look other = t.look other :=
  Node.look_alter (alter_eq_ok h) hother

lemma Tree.look_removeDir {t : Tree} {place other : List String} (hother : ¬ place <+: other) :
    (t.removeDir place).2.look other = t.look other := by
  rw [removeDir]
  cases hstrip : t.stripDir place with
  | error e => rfl
  | ok t₁ =>
    have hlook := Tree.look_alter hstrip hother
    dsimp only
    cases hdrop : t₁.dropDir place with
    | error e => exact hlook
    | ok t₂ => exact (Tree.look_alter hdrop hother).trans hlook

lemma Tree.exists_alter_of_createDir {t t' : Tree} {place : List String}
    (h : t.createDir place = .ok t') : ∃ change, t.alter place change = .ok t' := by
  rw [createDir] at h
  split at h
  · cases h
  · exact ⟨_, h⟩

namespace Disk

structure Keeps (place : List String) (d d' : Disk) : Prop where
  here : d'.here = d.here
  look : d'.tree.look place = d.tree.look place

/-- The place is where a path leads or below it, or it is missing on the way there. -/
def Takes (d : Disk) (path : String) (place : List String) : Prop :=
  land d.here (Path.components path.toList) <+: place ∨
    place ∈ trail d.here (Path.components path.toList) ∧ d.tree.look place = none

variable {place : List String} {d d' d'' : Disk} {path : String} {content : Bytes}

namespace Keeps

lemma refl (place : List String) (d : Disk) : Keeps place d d :=
  ⟨rfl, rfl⟩

lemma trans (h : Keeps place d d') (h' : Keeps place d' d'') : Keeps place d d'' :=
  ⟨h'.here.trans h.here, h'.look.trans h.look⟩

lemma takes_iff (h : Keeps place d d') : d'.Takes path place ↔ d.Takes path place := by
  rw [Takes, Takes, h.here, h.look]

lemma of_tree {tree : Tree} (h : tree.look place = d.tree.look place) :
    Keeps place d { d with tree } :=
  ⟨rfl, h⟩

end Keeps

lemma createDirs_keeps (h : place ∈ trail d.here (Path.components path.toList) →
    d.tree.look place ≠ none) : Keeps place d (d.createDirs path).2 := by
  by_cases hpath : path = ""
  · subst hpath
    exact Keeps.refl place d
  · rcases createDirs_cases hpath with he | he
    · rw [he]
      exact Keeps.refl place d
    · rw [he]
      have hgrows : Grows (· ∈ trail d.here (Path.components path.toList)) d
          (d.createAlong d.here (Path.components path.toList)).2 :=
        createAlong_grows (treads_iff.mpr fun other hother => Or.inl hother)
      refine ⟨hgrows.here, ?_⟩
      rcases hgrows.look place with hsame | ⟨htrail, hnone, -⟩
      · exact hsame
      · exact absurd hnone (h htrail)

lemma change_keeps {act : Tree → List String → Except FileError Tree}
    (hact : ∀ {t t' : Tree} {target : List String}, act t target = .ok t' →
      ¬ target <+: place → t'.look place = t.look place)
    (hplace : ¬ land d.here (Path.components path.toList) <+: place)
    (h : d.change path act = .ok d') : Keeps place d d' := by
  obtain ⟨tree, htree, rfl⟩ := change_eq_ok h
  exact Keeps.of_tree (hact htree hplace)

lemma write_keeps (hplace : ¬ land d.here (Path.components path.toList) <+: place)
    (h : d.write path content = .ok d') : Keeps place d d' :=
  change_keeps Tree.look_alter hplace h

lemma removeFile_keeps (hplace : ¬ land d.here (Path.components path.toList) <+: place)
    (h : d.removeFile path = .ok d') : Keeps place d d' :=
  change_keeps Tree.look_alter hplace h

lemma createDir_keeps (hplace : ¬ land d.here (Path.components path.toList) <+: place)
    (h : d.createDir path = .ok d') : Keeps place d d' := by
  obtain ⟨target, tree, hlocate, htree, rfl⟩ := createDir_eq_ok h
  rw [← (locate_eq_ok hlocate).2] at hplace
  obtain ⟨change, halter⟩ := Tree.exists_alter_of_createDir htree
  exact Keeps.of_tree (Tree.look_alter halter hplace)

lemma removeDir_keeps (hplace : ¬ land d.here (Path.components path.toList) <+: place) :
    Keeps place d (d.removeDir path).2 := by
  rw [removeDir]
  cases hlocate : d.locate path with
  | error e => exact Keeps.refl place d
  | ok target =>
    rw [← (locate_eq_ok hlocate).2] at hplace
    exact Keeps.of_tree (Tree.look_removeDir hplace)

end Disk

end ClassBatch.Files
