import ClassBatch.Proofs.Files.Keeping
import ClassBatch.Proofs.Files.Paths

/-! Parts of a tree. What is found or changed below a place depends on what stands there alone, and
changes elsewhere leave it. -/

namespace ClassBatch.Files

open Text (Bytes)

namespace Node

variable {name leaf : String} {node node' inner : Node} {place other parent rest : List String}
  {entries : List (String × Node)} {change : Option Node → Except FileError (Option Node)}

lemma find_append (h : node.find parent = .ok inner) (rest : List String) :
    node.find (parent ++ rest) = inner.find rest := by
  induction parent generalizing node with
  | nil =>
    cases h
    rfl
  | cons name parent ih =>
    obtain ⟨entries, locked, next, rfl, hfits, hlookup, hnext⟩ := find_cons_eq_ok h
    rw [List.cons_append, find_dir_cons entries locked name _ hfits, hlookup]
    exact ih hnext

lemma alter_below (change : Option Node → Except FileError (Option Node))
    (h : node.find parent = .ok inner) (hrest : rest ≠ []) : ∃ build : Node → Node,
      node.alter change (parent ++ rest) = (inner.alter change rest).map build ∧
      ∀ inner', (build inner').find parent = .ok inner' := by
  induction parent generalizing node with
  | nil =>
    cases h
    refine ⟨id, ?_, fun inner' => rfl⟩
    cases hinner : inner.alter change rest with
    | error e => exact hinner
    | ok inner' => exact hinner
  | cons name parent ih =>
    obtain ⟨entries, locked, next, rfl, hfits, hlookup, hnext⟩ := find_cons_eq_ok h
    obtain ⟨build, halter, hfind⟩ := ih hnext
    refine ⟨fun inner' => dir (setEntry name (build inner') entries) locked, ?_, fun inner' => ?_⟩
    · rw [List.cons_append, alter_cons locked (by simp [hrest]) hlookup, halter]
      cases inner.alter change rest <;> rfl
    · rw [find_dir_cons _ locked name parent hfits, lookup_setEntry, if_pos rfl]
      exact hfind inner'

lemma find_alter (h : node.alter change place = .ok node') (hother : ¬ place <+: other)
    (hplace : ¬ other <+: place) : node'.find other = node.find other := by
  induction place generalizing node node' other with
  | nil => exact absurd List.nil_prefix hother
  | cons name rest ih =>
    cases other with
    | nil => exact absurd List.nil_prefix hplace
    | cons first others =>
      rw [List.cons_prefix_cons] at hother hplace
      obtain ⟨entries, locked, rfl, ⟨rfl, new, -, -, rfl⟩ | ⟨-, inner, inner', hlookup, hinner, rfl⟩⟩ :=
        alter_cons_eq_ok h
      · have hfirst : first ≠ name := fun he => hother ⟨he.symm, List.nil_prefix⟩
        exact find_withEntry_of_ne hfirst entries locked new others
      · by_cases hfirst : first = name
        · subst hfirst
          have hothers := ih hinner (fun hp => hother ⟨rfl, hp⟩) fun hp => hplace ⟨rfl, hp⟩
          rw [find, find, lookup_setEntry, if_pos rfl, hlookup]
          simp only [hothers]
        · exact find_withEntry_of_ne hfirst entries locked (some inner') others

lemma cases_of_map_kind {result result' : Except FileError Node}
    (h : result'.map kind = result.map kind) :
    (∃ e, result = .error e ∧ result' = .error e) ∨
    (∃ entries entries' locked locked', result = .ok (dir entries locked) ∧
      result' = .ok (dir entries' locked')) ∨
    ∃ content executable executable', result = .ok (file content executable) ∧
      result' = .ok (file content executable') := by
  cases result with
  | error e =>
    cases result' with
    | error e' =>
      cases h
      exact Or.inl ⟨_, rfl, rfl⟩
    | ok node' => cases h
  | ok node =>
    cases result' with
    | error e' => cases h
    | ok node' =>
      cases node with
      | dir entries locked =>
        cases node' with
        | dir entries' locked' => exact Or.inr (Or.inl ⟨_, _, _, _, rfl, rfl⟩)
        | file content' executable' => cases h
      | file content executable =>
        cases node' with
        | dir entries' locked' => cases h
        | file content' executable' =>
          cases h
          exact Or.inr (Or.inr ⟨_, _, _, rfl, rfl⟩)

lemma map_kind_find_congr (h : ∀ place, node'.look place = node.look place)
    (place : List String) : (node'.find place).map kind = (node.find place).map kind := by
  induction place generalizing node node' with
  | nil =>
    have hkind := h []
    rw [look_nil, look_nil, Option.some.injEq] at hkind
    exact congrArg Except.ok hkind
  | cons name rest ih =>
    have hkind := h []
    rw [look_nil, look_nil, Option.some.injEq] at hkind
    cases node' with
    | file content' executable' =>
      cases node with
      | file content executable => rfl
      | dir entries locked => cases hkind
    | dir entries' locked' =>
      cases node with
      | file content executable => cases hkind
      | dir entries locked =>
        cases hfits : fits name with
        | false => simp [find, hfits]
        | true =>
          rw [find_dir_cons entries' locked' name rest hfits,
            find_dir_cons entries locked name rest hfits]
          have hbelow : ∀ place, (entries'.lookup name).bind (look place) =
              (entries.lookup name).bind (look place) := by
            intro place
            have hplace := h (name :: place)
            rwa [look_dir_cons, look_dir_cons, if_pos hfits, if_pos hfits] at hplace
          cases hlookup' : entries'.lookup name with
          | none =>
            cases hlookup : entries.lookup name with
            | none => rfl
            | some inner => simpa [hlookup, hlookup'] using hbelow []
          | some inner' =>
            cases hlookup : entries.lookup name with
            | none => simpa [hlookup, hlookup'] using hbelow []
            | some inner => exact ih fun place => by simpa [hlookup, hlookup'] using hbelow place

end Node

namespace Tree

variable {t t' : Tree} {inner : Node} {place other parent rest : List String}
  {path : List Component} {change : Option Node → Except FileError (Option Node)}

lemma find_append (h : t.find parent = .ok inner) (rest : List String) :
    t.find (parent ++ rest) = inner.find rest :=
  Node.find_append h rest

lemma look_append (h : t.find parent = .ok inner) (rest : List String) :
    t.look (parent ++ rest) = inner.look rest :=
  congrArg (fun result => result.toOption.map Node.kind) (find_append h rest)

lemma alter_below (change : Option Node → Except FileError (Option Node))
    (h : t.find parent = .ok inner) (hrest : rest ≠ []) : ∃ build : Node → Tree,
      t.alter (parent ++ rest) change = (inner.alter change rest).map build ∧
      ∀ inner', (build inner').find parent = .ok inner' := by
  obtain ⟨build, halter, hfind⟩ := Node.alter_below change h hrest
  have hne : (parent ++ rest).isEmpty = false := by simp [hrest]
  refine ⟨fun inner' => ⟨build inner'⟩, ?_, hfind⟩
  rw [alter, hne, if_neg Bool.false_ne_true, halter]
  cases inner.alter change rest <;> rfl

section Entries

variable {name : String} {entries : List (String × Node)} {locked : Bool}

lemma alter_entry (h : t.find parent = .ok (.dir entries locked)) (hfits : Node.fits name = true)
    (change : Option Node → Except FileError (Option Node)) :
    ∃ build : Option Node → Tree,
      t.alter (parent ++ [name]) change =
        (change (entries.lookup name) >>= Node.allow locked (entries.lookup name)).map build ∧
      ∀ new, (build new).find parent = .ok (Node.withEntry name entries locked new) := by
  obtain ⟨build, halter, hfind⟩ := alter_below change h (List.cons_ne_nil name [])
  refine ⟨fun new => build (Node.withEntry name entries locked new), ?_, fun new => hfind _⟩
  rw [halter, Node.alter_singleton hfits]
  cases change (entries.lookup name) >>= Node.allow locked (entries.lookup name) <;> rfl

lemma removeDir_entry {inner : List (String × Node)} {inside : Bool}
    (h : t.find parent = .ok (.dir entries)) (hfits : Node.fits name = true)
    (hlookup : entries.lookup name = some (.dir inner inside)) :
    if (Node.strip (.dir inner inside)).isFilled then
      (t.removeDir (parent ++ [name])).1 = some .denied ∧
        (t.removeDir (parent ++ [name])).2.find parent =
          .ok (.dir (Node.setEntry name (Node.strip (.dir inner inside)) entries))
    else
      (t.removeDir (parent ++ [name])).1 = none ∧
        ∃ entries', (t.removeDir (parent ++ [name])).2.find parent = .ok (.dir entries') ∧
          entries'.lookup name = none := by
  obtain ⟨build, halter, hfind⟩ := t.alter_entry h hfits _
  rw [hlookup] at halter
  have hstrip : t.stripDir (parent ++ [name]) =
    .ok (build (some (Node.strip (.dir inner inside)))) := halter
  have hleft := hfind (some (Node.strip (.dir inner inside)))
  obtain ⟨build', halter', hfind'⟩ := alter_entry hleft hfits
    fun node => if node.any Node.isFilled then .error .denied else .ok none
  rw [Node.lookup_setEntry, if_pos rfl, Option.any_some] at halter'
  split
  · rename_i hfilled
    have hdrop : (build (some (Node.strip (.dir inner inside)))).dropDir (parent ++ [name]) =
        .error .denied := by
      rw [dropDir, halter', if_pos hfilled]
      rfl
    rw [removeDir, hstrip]
    dsimp only
    rw [hdrop]
    exact ⟨rfl, hleft⟩
  · rename_i hfilled
    have hdrop : (build (some (Node.strip (.dir inner inside)))).dropDir (parent ++ [name]) =
        .ok (build' none) := by
      rw [dropDir, halter', if_neg hfilled]
      rfl
    rw [removeDir, hstrip]
    dsimp only
    rw [hdrop]
    refine ⟨rfl, _, hfind' none, ?_⟩
    rw [Node.lookup_eraseEntry, if_pos rfl]

lemma removeDir_entry_none (h : t.find parent = .ok (.dir entries locked))
    (hfits : Node.fits name = true) (hlookup : entries.lookup name = none) :
    t.removeDir (parent ++ [name]) = (some .notFound, t) := by
  obtain ⟨build, halter, -⟩ := t.alter_entry h hfits _
  rw [hlookup] at halter
  have hstrip : t.stripDir (parent ++ [name]) = .error .notFound := halter
  rw [removeDir, hstrip]

lemma exists_removeFile_of_write {content : Bytes} (hparent : t.look parent = some .dir)
    (hfits : Node.fits name = true) (hnone : t.look (parent ++ [name]) = none)
    (h : t.write (parent ++ [name]) content = .ok t') :
    ∃ t'', t'.removeFile (parent ++ [name]) = .ok t'' := by
  obtain ⟨entries, locked, hparent⟩ := look_eq_dir_iff.mp hparent
  have hlookup : entries.lookup name = none := by
    rw [look_append hparent, Node.look_dir_cons, if_pos hfits] at hnone
    cases hlookup : entries.lookup name with
    | none => rfl
    | some node => simp [hlookup] at hnone
  obtain ⟨build, halter, hfind⟩ := t.alter_entry hparent hfits _
  rw [hlookup] at halter
  have hwrite : t.write (parent ++ [name]) content =
    (Node.allow locked none (some (.file content false))).map build := halter
  cases locked with
  | true =>
    have hdenied : t.write (parent ++ [name]) content = .error .denied := hwrite
    rw [hdenied] at h
    cases h
  | false =>
    have hmade : t.write (parent ++ [name]) content =
      .ok (build (some (.file content false))) := hwrite
    rw [hmade] at h
    cases h
    obtain ⟨build', halter', -⟩ := alter_entry (hfind (some (.file content false))) hfits _
    rw [Node.lookup_setEntry, if_pos rfl] at halter'
    exact ⟨_, halter'⟩

lemma createDir_entry (h : t.find parent = .ok (.dir entries)) (hfits : Node.fits name = true)
    (hlookup : entries.lookup name = none) :
    ∃ t', t.createDir (parent ++ [name]) = .ok t' ∧
      t'.find parent = .ok (.dir (Node.setEntry name (.dir []) entries)) := by
  have hempty : (parent ++ [name]).isEmpty = false := by simp
  obtain ⟨build, halter, hfind⟩ := t.alter_entry h hfits _
  rw [hlookup] at halter
  rw [createDir, hempty, if_neg Bool.false_ne_true]
  exact ⟨build (some (.dir [])), halter, hfind _⟩

end Entries

lemma find_alter (h : t.alter place change = .ok t') (hother : ¬ place <+: other)
    (hplace : ¬ other <+: place) : t'.find other = t.find other :=
  Node.find_alter (alter_eq_ok h) hother hplace

lemma find_removeDir (hother : ¬ place <+: other) (hplace : ¬ other <+: place) :
    (t.removeDir place).2.find other = t.find other := by
  rw [removeDir]
  cases hstrip : t.stripDir place with
  | error e => rfl
  | ok t₁ =>
    have hfind := find_alter hstrip hother hplace
    dsimp only
    cases hdrop : t₁.dropDir place with
    | error e => exact hfind
    | ok t₂ => exact (find_alter hdrop hother hplace).trans hfind

lemma map_kind_find_congr (h : ∀ place, t'.look place = t.look place) (place : List String) :
    (t'.find place).map Node.kind = (t.find place).map Node.kind :=
  Node.map_kind_find_congr h place

lemma map_kind_find_of_dir (h : t.look place = some .dir) :
    (t.find place).map Node.kind = .ok .dir := by
  obtain ⟨entries, locked, hfind⟩ := look_eq_dir_iff.mp h
  rw [hfind]
  rfl

lemma follow_congr (h : ∀ other ∈ trail place path,
      (t'.find other).map Node.kind = (t.find other).map Node.kind) :
    t'.follow place path = t.follow place path := by
  induction path generalizing place with
  | nil => rfl
  | cons component path ih =>
    cases component with
    | normal name =>
      cases path with
      | nil => rfl
      | cons next path =>
        obtain ⟨hname, hpath⟩ := List.forall_mem_cons.mp h
        have hrest := ih hpath
        rw [follow, follow]
        · rcases Node.cases_of_map_kind hname with ⟨e, he, he'⟩ |
            ⟨entries, entries', locked, locked', he, he'⟩ | ⟨content, executable, executable', he, he'⟩
          · rw [he, he']
          · rw [he, he']
            exact hrest
          · rw [he, he']
        · simp
        · simp
    | _ => exact ih h

end Tree

lemma prefix_land_of_mem_trail {place other : List String} {s : List Char}
    (hdown : .parent ∉ Path.components s) (hother : other ∈ trail place (Path.components s)) :
    other <+: land place (Path.components s) := by
  obtain ⟨rest, hroot, hs | hs⟩ := Path.components_cases s <;> rw [hs] at hdown hother ⊢
  · have hrest : ∀ c ∈ rest, c ≠ .root ∧ c ≠ .parent := fun c hc =>
      ⟨hroot c hc, fun he => hdown (List.mem_cons_of_mem _ (he ▸ hc))⟩
    exact (prefix_land hrest).2 other hother
  · have hrest : ∀ c ∈ rest, c ≠ .root ∧ c ≠ .parent := fun c hc =>
      ⟨hroot c hc, fun he => hdown (he ▸ hc)⟩
    exact (prefix_land hrest).2 other hother

namespace Disk

variable {d d' : Disk} {path : String} {inner : List String}

def fault? (path : String) : Option FileError :=
  if path.isEmpty then some .notFound
  else if path.toList.contains '\x00' then some .badName
  else if path.utf8ByteSize > maxPathLength then some .nameTooLong
  else none

lemma locate_eq (d : Disk) (path : String) : d.locate path =
    match fault? path with
    | some e => .error e
    | none => d.tree.follow d.here (Path.components path.toList) := by
  rw [locate, fault?]
  split_ifs <;> rfl

lemma createDirs_eq (d : Disk) (h : fault? path = none) :
    d.createDirs path = d.createAlong d.here (Path.components path.toList) := by
  rw [fault?] at h
  rw [createDirs]
  split_ifs at h ⊢
  rfl

lemma locate_congr (hhere : d'.here = d.here)
    (h : ∀ other ∈ trail d.here (Path.components path.toList),
      (d'.tree.find other).map Node.kind = (d.tree.find other).map Node.kind) :
    d'.locate path = d.locate path := by
  rw [locate_eq, locate_eq, hhere, Tree.follow_congr h]

lemma node_eq_ok {node : Node} (h : d.node path = .ok node) :
    ∃ place, d.locate path = .ok place ∧ d.tree.find place = .ok node := by
  rw [Disk.node] at h
  cases hplace : d.locate path with
  | error e => rw [hplace] at h; cases h
  | ok place =>
    rw [hplace] at h
    simp only [bind, Except.bind] at h
    cases hfind : d.tree.find place with
    | error e => rw [hfind] at h; cases h
    | ok found =>
      rw [hfind] at h
      dsimp only at h
      split at h
      · cases h
      · cases h
        exact ⟨place, rfl, hfind⟩

lemma has_eq_false (h : d.tree.look (land d.here (Path.components path.toList)) = none) :
    d.has path = false := by
  rw [has]
  cases hnode : d.node path with
  | error e => rfl
  | ok node =>
    obtain ⟨place, hplace, hfind⟩ := node_eq_ok hnode
    obtain ⟨e, he⟩ := Tree.look_eq_none_iff.mp h
    rw [← (locate_eq_ok hplace).2, hfind] at he
    cases he

lemma node_of_dir {place : List String} {entries : List (String × Node)} {locked : Bool}
    (hplace : d.locate path = .ok place) (hfind : d.tree.find place = .ok (.dir entries locked)) :
    d.node path = .ok (.dir entries locked) := by
  rw [Disk.node, hplace]
  simp only [bind, Except.bind, hfind, Node.isDir, Bool.not_true, Bool.and_false,
    Bool.false_eq_true, if_false]
  rfl

lemma read_congr (hhere : d'.here = d.here) (h : ∀ place, d'.tree.look place = d.tree.look place) :
    d'.read path = d.read path := by
  have hkinds := Tree.map_kind_find_congr h
  rw [read, read, node, node, locate_congr hhere fun other _ => hkinds other]
  cases d.locate path with
  | error e => rfl
  | ok place =>
    simp only [bind, Except.bind]
    rcases Node.cases_of_map_kind (hkinds place) with ⟨e, he, he'⟩ |
      ⟨entries, entries', locked, locked', he, he'⟩ |
      ⟨content, executable, executable', he, he'⟩
    · rw [he, he']
    · rw [he, he']
      cases Path.namesDirectory path <;> rfl
    · rw [he, he']
      cases Path.namesDirectory path <;> rfl

/-- The same stands at a place of both disks, whatever else there is. -/
def Shares (inner : List String) (d d' : Disk) : Prop :=
  ∃ node, d.tree.find inner = .ok node ∧ d'.tree.find inner = .ok node

lemma Shares.find_eq (h : Shares inner d d') (rest : List String) :
    d'.tree.find (inner ++ rest) = d.tree.find (inner ++ rest) := by
  obtain ⟨node, hnode, hnode'⟩ := h
  rw [Tree.find_append hnode, Tree.find_append hnode']

def ShareChange (inner : List String) (d d' : Disk) (result result' : Except FileError Tree) :
    Prop :=
  (∃ e, result = .error e ∧ result' = .error e) ∨
  ∃ tree tree', result = .ok tree ∧ result' = .ok tree' ∧
    Shares inner { d with tree } { d' with tree := tree' }

section Sharing

variable {rest : List String} (h : Shares inner d d') (hrest : rest ≠ [])

include h hrest

lemma Shares.alter (change : Option Node → Except FileError (Option Node)) :
    ShareChange inner d d' (d.tree.alter (inner ++ rest) change)
      (d'.tree.alter (inner ++ rest) change) := by
  obtain ⟨node, hnode, hnode'⟩ := h
  obtain ⟨build, halter, hfind⟩ := Tree.alter_below change hnode hrest
  obtain ⟨build', halter', hfind'⟩ := Tree.alter_below change hnode' hrest
  rw [halter, halter']
  cases node.alter change rest with
  | error e => exact Or.inl ⟨e, rfl, rfl⟩
  | ok node₁ => exact Or.inr ⟨_, _, rfl, rfl, node₁, hfind node₁, hfind' node₁⟩

lemma Shares.writeTree (content : Bytes) :
    ShareChange inner d d' (d.tree.write (inner ++ rest) content)
      (d'.tree.write (inner ++ rest) content) :=
  h.alter hrest _

lemma Shares.createDir :
    ShareChange inner d d' (d.tree.createDir (inner ++ rest))
      (d'.tree.createDir (inner ++ rest)) := by
  have hempty : (inner ++ rest).isEmpty = false := by simp [hrest]
  rw [Tree.createDir, Tree.createDir, hempty, if_neg Bool.false_ne_true]
  exact h.alter hrest _

end Sharing

lemma Shares.createAlong (h : Shares inner d d') (place names : List String) :
    (d'.createAlong (inner ++ place) (names.map Path.named)).1 =
        (d.createAlong (inner ++ place) (names.map Path.named)).1 ∧
      Shares inner (d.createAlong (inner ++ place) (names.map Path.named)).2
        (d'.createAlong (inner ++ place) (names.map Path.named)).2 := by
  induction names generalizing d d' place with
  | nil =>
    have hdir : d'.tree.isDir (inner ++ place) = d.tree.isDir (inner ++ place) := by
      rw [Tree.isDir, Tree.isDir, h.find_eq]
    rw [List.map_nil, Disk.createAlong, Disk.createAlong, hdir]
    split <;> exact ⟨rfl, h⟩
  | cons name names ih =>
    rw [List.map_cons, Path.named, Disk.createAlong, Disk.createAlong, String.ofList_toList,
      List.append_assoc, h.find_eq]
    cases hfind : d.tree.find (inner ++ (place ++ [name])) with
    | ok node =>
      cases node with
      | dir entries locked => exact ih h (place ++ [name])
      | file content executable => exact ⟨rfl, h⟩
    | error e =>
      cases e with
      | notFound =>
        rcases h.createDir (by simp : place ++ [name] ≠ []) with
          ⟨e, he, he'⟩ | ⟨tree, tree', he, he', hshares⟩
        · rw [he, he']
          exact ⟨rfl, h⟩
        · rw [he, he']
          exact ih hshares (place ++ [name])
      | _ => exact ⟨rfl, h⟩

lemma Shares.write (content : Bytes) (h : Shares inner d d')
    (hlocate : d'.locate path = d.locate path)
    (hplace : ∀ place, d.locate path = .ok place → ∃ rest, rest ≠ [] ∧ place = inner ++ rest) :
    (∃ e, d.write path content = .error e ∧ d'.write path content = .error e) ∨
    ∃ d₁ d₁', d.write path content = .ok d₁ ∧ d'.write path content = .ok d₁' ∧
      Shares inner d₁ d₁' := by
  rw [Disk.write, Disk.write, change, change, hlocate]
  cases hlocated : d.locate path with
  | error e => exact Or.inl ⟨e, rfl, rfl⟩
  | ok place =>
    obtain ⟨rest, hrest, rfl⟩ := hplace place hlocated
    simp only [bind, Except.bind, h.find_eq]
    split
    · split <;> exact Or.inl ⟨_, rfl, rfl⟩
    · rcases h.writeTree hrest content with ⟨e, he, he'⟩ | ⟨tree, tree', he, he', hshares⟩
      · rw [he, he']
        exact Or.inl ⟨e, rfl, rfl⟩
      · rw [he, he']
        exact Or.inr ⟨_, _, rfl, rfl, hshares⟩

lemma createAlong_induct {p : Tree → Prop} {region : List String → Prop} {place : List String}
    {components : List Component}
    (hp : ∀ t t' place, region place → p t → t.createDir place = .ok t' → p t')
    (hregion : ∀ entered ∈ trail place components, region entered) (h : p d.tree) :
    p (d.createAlong place components).2.tree := by
  induction components generalizing d place with
  | nil =>
    rw [createAlong]
    split <;> exact h
  | cons component components ih =>
    cases component with
    | normal name =>
      obtain ⟨hname, hrest⟩ := List.forall_mem_cons.mp hregion
      rw [createAlong]
      split
      · exact ih hrest h
      · exact h
      · split
        · rename_i tree htree
          exact ih hrest (hp _ _ _ hname h htree)
        · exact h
      · exact h
    | _ => exact ih hregion h

lemma createAlong_find {place other : List String} {components : List Component}
    (h : ∀ entered ∈ trail place components, ¬ entered <+: other ∧ ¬ other <+: entered) :
    (d.createAlong place components).2.tree.find other = d.tree.find other := by
  refine createAlong_induct (p := fun tree => tree.find other = d.tree.find other) ?_ h rfl
  intro t t' entered hentered ht hcreate
  obtain ⟨change, halter⟩ := Tree.exists_alter_of_createDir hcreate
  rw [Tree.find_alter halter hentered.1 hentered.2, ht]

lemma write_find {other : List String} {content : Bytes} (h : d.write path content = .ok d')
    (hother : ¬ land d.here (Path.components path.toList) <+: other)
    (hplace : ¬ other <+: land d.here (Path.components path.toList)) :
    d'.tree.find other = d.tree.find other := by
  obtain ⟨tree, htree, rfl⟩ := write_eq_ok h
  exact Tree.find_alter htree hother hplace

end Disk

end ClassBatch.Files
