import ClassBatch.Proofs.Files.Disks

/-! A file that was written is read back as it was written, from a working directory that exists. -/

namespace ClassBatch.Files

open Text (Bytes)

namespace Node

variable {node node' : Node} {parent place : List String} {name : String}
  {change : Option Node → Except FileError (Option Node)}

lemma fits_of_look (h : node.look place ≠ none) : ∀ other ∈ place, fits other = true := by
  induction place generalizing node with
  | nil => simp
  | cons first place ih =>
    obtain ⟨kind, hkind⟩ := Option.ne_none_iff_exists'.mp h
    obtain ⟨entries, locked, next, rfl, hfits, hlookup, hnext⟩ := look_cons_eq_some hkind
    exact List.forall_mem_cons.mpr ⟨hfits, ih (Option.ne_none_iff_exists'.mpr ⟨kind, hnext⟩)⟩

lemma look_of_alter_of_fits (hfits : ∀ other ∈ parent, fits other = true)
    (h : node.alter change (parent ++ [name]) = .ok node') : node.look parent = some .dir := by
  induction parent generalizing node node' with
  | nil =>
    cases node with
    | file content executable => cases h
    | dir entries locked => rfl
  | cons first parent ih =>
    obtain ⟨hfirst, hparent⟩ := List.forall_mem_cons.mp hfits
    obtain ⟨entries, locked, rfl, ⟨hnil, -⟩ | ⟨-, inner, inner', hlookup, hinner, -⟩⟩ :=
      alter_cons_eq_ok h
    · exact absurd hnil (by simp)
    · rw [look_dir_cons, if_pos hfirst, hlookup]
      exact ih hparent hinner

end Node

namespace Tree

variable {t t' : Tree} {place target : List String} {path : List Component} {content : Bytes}

lemma look_of_write (hfits : ∀ other ∈ place.dropLast, Node.fits other = true)
    (h : t.write place content = .ok t') : t.look place ≠ some .dir ∧
      ∀ other, t'.look other = if other = place then some (.file content) else t.look other := by
  rcases List.eq_nil_or_concat place with rfl | ⟨parent, name, rfl⟩
  · cases h
  · rw [List.concat_eq_append] at *
    rw [List.dropLast_concat] at hfits
    obtain ⟨node, hnode⟩ := exists_alter h
    exact look_write (Node.look_of_alter_of_fits hfits hnode) h

end Tree

namespace Disk

variable {d d' : Disk} {path : String} {place : List String} {content : Bytes}

lemma locate_of_follow {tree : Tree} (h : d.locate path = .ok place)
    (hfollow : tree.follow d.here (Path.components path.toList) = .ok place) :
    { d with tree }.locate path = .ok place := by
  rw [locate] at h ⊢
  split_ifs at h ⊢
  exact hfollow

lemma look_of_write (hplace : d.locate path = .ok place)
    (hfits : ∀ other ∈ place.dropLast, Node.fits other = true) (h : d.write path content = .ok d') :
    Path.namesDirectory path = false ∧ d'.locate path = .ok place ∧
      ∀ other, d'.tree.look other =
        if other = place then some (.file content) else d.tree.look other := by
  rw [write, change, hplace] at h
  simp only [bind, Except.bind] at h
  split at h
  · split at h <;> cases h
  · rename_i hname
    cases htree : d.tree.write place content with
    | error e => rw [htree] at h; cases h
    | ok tree =>
      rw [htree] at h
      cases h
      obtain ⟨hnot, hlook⟩ := Tree.look_of_write hfits htree
      -- a directory stays one, so the path leads where it led before
      have hfollow : tree.follow d.here (Path.components path.toList) = .ok place := by
        refine Tree.follow_mono ?_ (locate_eq_ok hplace).1
        intro other hother
        have hne : other ≠ place := by
          rintro rfl
          exact hnot hother
        rw [hlook, if_neg hne, hother]
      exact ⟨by simpa using hname, locate_of_follow hplace hfollow, hlook⟩

lemma exists_locate_of_write (h : d.write path content = .ok d') :
    ∃ place, d.locate path = .ok place := by
  rw [write, change] at h
  cases hplace : d.locate path with
  | error e => rw [hplace] at h; cases h
  | ok place => exact ⟨place, rfl⟩

lemma has_of_write {parent : List String} {name : String}
    (hplace : d.locate path = .ok (parent ++ [name]))
    (hfits : ∀ other ∈ parent, Node.fits other = true) (h : d.write path content = .ok d') :
    d'.has path = true := by
  obtain ⟨hname, hplace', hlook⟩ := look_of_write hplace (by rwa [List.dropLast_concat]) h
  have hfile : d'.tree.look (parent ++ [name]) = some (.file content) := by rw [hlook, if_pos rfl]
  obtain ⟨executable, hfind⟩ := Tree.look_eq_file_iff.mp hfile
  rw [has, node, hplace']
  simp only [bind, Except.bind, hfind, hname, Bool.false_and, Bool.false_eq_true, if_false]
  rfl

end Disk

end ClassBatch.Files
