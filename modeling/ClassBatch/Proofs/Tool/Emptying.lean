import ClassBatch.Proofs.Files.Locks
import ClassBatch.Proofs.Tool.Extraction
import ClassBatch.Proofs.Tool.Sparing

/-! The two directories of a Fernflower instance are made anew for each call. Whatever they held,
they are empty then, or they can not be made on any disk. -/

namespace ClassBatch.Tool.Fernflower

open Files Files.Disk Files.Path

/-- The instance was just made, with a scratch directory that holds nothing. -/
def New (t : Fernflower) (d : Disk) : Prop :=
  d.node t.scratch = .ok (.dir [])

structure Usable (t : Fernflower) (scratch : List String) (d : Disk) : Prop where
  locate : d.locate t.scratch = .ok scratch
  dir : d.tree.look scratch = some .dir
  unlocked : d.tree.isLocked scratch = false
  loose : d.tree.Loose (scratch ++ ["in"])
  apart : ∀ place ∈ trail d.here (components t.scratch.toList), ¬ Below scratch place
  held : ∀ place, Below scratch place → d.tree.look place ≠ none → Inside scratch place
  clear : ∀ leaf ∈ ["in", "out"], ∀ content,
    d.tree.look (scratch ++ [leaf]) ≠ some (.file content)

variable {t : Fernflower} {d d' d₁ d₂ : Disk} {scratch place : List String}
  {path leaf name : String} {members : List (String × Text.Bytes)}

lemma below_append_singleton (scratch : List String) (leaf : String) :
    Below scratch (scratch ++ [leaf]) :=
  ⟨List.prefix_append _ _, by simp⟩

lemma inside_of_within (hleaf : leaf ∈ ["in", "out"]) (h : scratch ++ [leaf] <+: place) :
    Inside scratch place := by
  rcases List.mem_cons.mp hleaf with rfl | hleaf
  · exact Or.inl h
  · rw [List.mem_singleton.mp hleaf] at h
    exact Or.inr h

lemma below_of_within (h : scratch ++ [leaf] <+: place) : Below scratch place := by
  refine ⟨(List.prefix_append _ _).trans h, ?_⟩
  rintro rfl
  have hlength := h.length_le
  simp at hlength

lemma leaf_eq_of_within {other : String} (h : scratch ++ [leaf] <+: scratch ++ [other]) :
    leaf = other := by
  rw [List.prefix_append_right_inj] at h
  exact (List.cons_prefix_cons.mp h).1

namespace Usable

lemma land (h : Usable t scratch d) :
    Files.land d.here (components t.scratch.toList) = scratch :=
  (locate_eq_ok h.locate).2.symm

lemma treads (h : Usable t scratch d) :
    Treads (fun place => d.tree.look place = some .dir) d.here (components t.scratch.toList) :=
  Tree.treads_of_follow (locate_eq_ok h.locate).1 h.dir

lemma ready (h : Usable t scratch d) (hin : d.tree.look (scratch ++ ["in"]) = some .dir) :
    Ready t scratch d :=
  ⟨h.land, h.treads, hin⟩

lemma reaches (h : Usable t scratch d)
    (hpath : components path.toList = components t.scratch.toList ++ [named leaf]) :
    Reaches path (components t.scratch.toList) leaf d :=
  ⟨hpath, h.treads, by rw [h.land, h.dir]⟩

lemma locate_leaf (h : Usable t scratch d)
    (hpath : components path.toList = components t.scratch.toList ++ [named leaf])
    (hfault : fault? path = none) : d.locate path = .ok (scratch ++ [leaf]) := by
  rw [locate_eq, hfault, (h.reaches hpath).follow_eq, h.land]

lemma of_look (h : Usable t scratch d) (hhere : d'.here = d.here)
    (hlook : ∀ place, ¬ Below scratch place → d'.tree.look place = d.tree.look place)
    (unlocked : d'.tree.isLocked scratch = false) (loose : d'.tree.Loose (scratch ++ ["in"]))
    (held : ∀ place, Below scratch place → d'.tree.look place ≠ none → Inside scratch place)
    (clear : ∀ leaf ∈ ["in", "out"], ∀ content,
      d'.tree.look (scratch ++ [leaf]) ≠ some (.file content)) : Usable t scratch d' := by
  have htreads := treads_iff.mp h.treads
  refine ⟨?_, ?_, unlocked, loose, hhere ▸ h.apart, held, clear⟩
  · rw [← h.locate]
    apply locate_congr hhere
    intro other hother
    have hdir := htreads other hother
    have hdir' : d'.tree.look other = some .dir := by rw [hlook other (h.apart other hother), hdir]
    rw [Tree.map_kind_find_of_dir hdir, Tree.map_kind_find_of_dir hdir']
  · rw [hlook scratch fun hbelow => hbelow.2 rfl, h.dir]

end Usable

lemma New.usable (h : New t d) : ∃ scratch, Usable t scratch d := by
  obtain ⟨scratch, hplace, hfind⟩ := node_eq_ok h
  obtain ⟨hdir, hunlocked⟩ := Tree.exists_entries_iff.mp ⟨[], hfind⟩
  have hnone : ∀ place, Below scratch place → d.tree.look place = none := by
    rintro place ⟨⟨rest, rfl⟩, hne⟩
    rw [Tree.look_append hfind]
    cases rest with
    | nil => exact absurd (List.append_nil scratch) hne
    | cons name rest => simp [Node.look_dir_cons]
  refine ⟨scratch, hplace, hdir, hunlocked, ?_, ?_, ?_, ?_⟩
  · intro node hnode
    obtain ⟨e, he⟩ := Tree.look_eq_none_iff.mp (hnone _ (below_append_singleton scratch "in"))
    rw [he] at hnode
    cases hnode
  · -- the way to the directory passes through what is there, and inside nothing is
    intro place hplace' hbelow
    have htreads := treads_iff.mp (Tree.treads_of_follow (locate_eq_ok hplace).1 hdir)
    have hthere := htreads place hplace'
    rw [hnone place hbelow] at hthere
    cases hthere
  · intro place hbelow hthere
    exact absurd (hnone place hbelow) hthere
  · intro leaf _ content
    rw [hnone _ (below_append_singleton scratch leaf)]
    nofun

section Emptying

structure Renewed (scratch : List String) (leaf : String) (d d' : Disk) : Prop where
  here : d'.here = d.here
  unlocked : d'.tree.isLocked scratch = false
  find : d'.tree.find (scratch ++ [leaf]) = .ok (.dir [])
  look : ∀ other, ¬ scratch ++ [leaf] <+: other → d'.tree.look other = d.tree.look other
  apart : ∀ other, ¬ scratch ++ [leaf] <+: other → ¬ other <+: scratch ++ [leaf] →
    d'.tree.find other = d.tree.find other

structure Vacated (scratch : List String) (leaf : String) (d d' : Disk) : Prop where
  here : d'.here = d.here
  find : ∃ entries, d'.tree.find scratch = .ok (.dir entries) ∧ entries.lookup leaf = none
  look : ∀ other, ¬ scratch ++ [leaf] <+: other → d'.tree.look other = d.tree.look other
  apart : ∀ other, ¬ scratch ++ [leaf] <+: other → ¬ other <+: scratch ++ [leaf] →
    d'.tree.find other = d.tree.find other

def Stuck (scratch : List String) (leaf : String) (d : Disk) : Prop :=
  ∃ node, d.tree.find (scratch ++ [leaf]) = .ok node ∧ node.strip.isFilled = true

lemma fits_leaf (hleaf : leaf ∈ ["in", "out"]) : Node.fits leaf = true := by
  rcases List.mem_cons.mp hleaf with rfl | hleaf
  · decide
  · rw [List.mem_singleton.mp hleaf]
    decide

lemma find_leaf {entries : List (String × Node)} (hleaf : leaf ∈ ["in", "out"])
    (hfind : d.tree.find scratch = .ok (.dir entries)) : d.tree.find (scratch ++ [leaf]) =
      match entries.lookup leaf with
      | some node => .ok node
      | none => .error .notFound := by
  rw [Tree.find_append hfind, Node.find_dir_cons _ _ _ _ (fits_leaf hleaf)]
  cases entries.lookup leaf <;> rfl

lemma removeDir_cases (hleaf : leaf ∈ ["in", "out"]) (h : Usable t scratch d)
    (hplace : d.locate path = .ok (scratch ++ [leaf])) :
    (Stuck scratch leaf d ∧ ∃ d₁ entries, d.removeDir path = (some .denied, d₁) ∧
      d₁.tree.find scratch = .ok (.dir entries) ∧
      ∀ other, ¬ scratch ++ [leaf] <+: other → ¬ other <+: scratch ++ [leaf] →
        d₁.tree.find other = d.tree.find other) ∨
    ¬ Stuck scratch leaf d ∧ ∃ d₁, Vacated scratch leaf d d₁ ∧
      (d.removeDir path = (none, d₁) ∨ d.removeDir path = (some .notFound, d₁)) := by
  obtain ⟨entries, hfind⟩ := Tree.exists_entries_iff.mpr ⟨h.dir, h.unlocked⟩
  have hfits := fits_leaf hleaf
  have hthere := find_leaf hleaf hfind
  cases hlookup : entries.lookup leaf with
  | none =>
    rw [hlookup] at hthere
    have hremove : d.removeDir path = (some .notFound, d) := by
      rw [removeDir, hplace]
      dsimp only
      rw [Tree.removeDir_entry_none hfind hfits hlookup]
    refine Or.inr ⟨?_, d, ⟨rfl, ⟨entries, hfind, hlookup⟩, fun _ _ => rfl, fun _ _ _ => rfl⟩,
      Or.inr hremove⟩
    rintro ⟨node, hnode, -⟩
    rw [hthere] at hnode
    cases hnode
  | some node =>
    rw [hlookup] at hthere
    cases node with
    | file content executable =>
      have hfile := Tree.look_eq_file_iff.mpr ⟨executable, hthere⟩
      exact absurd hfile (h.clear leaf hleaf content)
    | dir inner locked =>
      have hentry := Tree.removeDir_entry hfind hfits hlookup
      have hremove : d.removeDir path = ((d.tree.removeDir (scratch ++ [leaf])).1,
          { d with tree := (d.tree.removeDir (scratch ++ [leaf])).2 }) := by
        rw [removeDir, hplace]
      split at hentry
      · rename_i hfilled
        refine Or.inl ⟨⟨_, hthere, hfilled⟩, ⟨_, d.here⟩, _, ?_, hentry.2,
          fun other => Tree.find_removeDir⟩
        rw [hremove, hentry.1]
      · rename_i hfilled
        obtain ⟨hgone, entries', hfind', hnone⟩ := hentry
        refine Or.inr ⟨?_, ⟨(d.tree.removeDir (scratch ++ [leaf])).2, d.here⟩,
          ⟨rfl, ⟨entries', hfind', hnone⟩, fun other => Tree.look_removeDir,
          fun other => Tree.find_removeDir⟩, Or.inl (by rw [hremove, hgone])⟩
        rintro ⟨node, hnode, hstuck⟩
        rw [hthere] at hnode
        cases hnode
        exact hfilled hstuck

lemma createDirs_renewed (hleaf : leaf ∈ ["in", "out"]) (h : Usable t scratch d)
    (hpath : components path.toList = components t.scratch.toList ++ [named leaf])
    (hfault : fault? path = none) (hv : Vacated scratch leaf d d₁) :
    ∃ d₂, d₁.createDirs path = (none, d₂) ∧ Renewed scratch leaf d d₂ := by
  obtain ⟨entries, hfind, hlookup⟩ := hv.find
  have hfits := fits_leaf hleaf
  have hway : Treads (fun place => d₁.tree.look place = some .dir) d₁.here
      (components t.scratch.toList) := by
    rw [hv.here]
    refine treads_iff.mpr fun other hother => ?_
    rw [hv.look other fun hp => h.apart other hother (below_of_within hp)]
    exact treads_iff.mp h.treads other hother
  obtain ⟨tree, htree, hfind'⟩ := Tree.createDir_entry hfind hfits hlookup
  have hself : tree.find (scratch ++ [leaf]) = .ok (.dir []) := by
    rw [Tree.find_append hfind', Node.find_dir_cons _ _ _ _ hfits, Node.lookup_setEntry, if_pos rfl]
    rfl
  have hnone : d₁.tree.find (scratch ++ [leaf]) = .error .notFound := by
    rw [Tree.find_append hfind, Node.find_dir_cons _ _ _ _ hfits, hlookup]
  have hland : Files.land d₁.here (components t.scratch.toList) = scratch := by
    rw [hv.here, h.land]
  obtain ⟨change, halter⟩ := Tree.exists_alter_of_createDir htree
  refine ⟨{ d₁ with tree }, ?_, hv.here, (Tree.exists_entries_iff.mp ⟨_, hfind'⟩).2, hself, ?_, ?_⟩
  · rw [createDirs_eq d₁ hfault, hpath, createAlong_append hway, hland, named, createAlong,
      String.ofList_toList, hnone]
    dsimp only
    rw [htree]
    dsimp only
    rw [createAlong, Tree.isDir, hself]
    rfl
  · intro other hother
    exact (Tree.look_alter halter hother).trans (hv.look other hother)
  · intro other hother hplace
    exact (Tree.find_alter halter hother hplace).trans (hv.apart other hother hplace)

lemma resetDir_of_fault {e : FileError} (hpath : path ≠ "") (hfault : fault? path = some e)
    (d : Disk) : resetDir path d = (.error (ioError e), d) := by
  have hfound : e ≠ .notFound := by
    rintro rfl
    have hempty : path.isEmpty = false := by simpa using hpath
    rw [fault?, hempty, if_neg Bool.false_ne_true] at hfault
    split_ifs at hfault <;> cases hfault
  have hremove : d.removeDir path = (some e, d) := by
    rw [removeDir, locate_eq, hfault]
  rw [resetDir, hremove]
  cases e with
  | notFound => exact absurd rfl hfound
  | _ => rfl

lemma resetDir_renewed (hleaf : leaf ∈ ["in", "out"]) (h : Usable t scratch d)
    (hpath : components path.toList = components t.scratch.toList ++ [named leaf])
    (hfault : fault? path = none) (hstuck : ¬ Stuck scratch leaf d) :
    ∃ d₁, resetDir path d = (.ok (), d₁) ∧ Renewed scratch leaf d d₁ := by
  rcases removeDir_cases hleaf h (h.locate_leaf hpath hfault) with ⟨hyes, -⟩ | ⟨-, d₁, hv, hremove⟩
  · exact absurd hyes hstuck
  · obtain ⟨d₂, hcreate, hrenewed⟩ := createDirs_renewed hleaf h hpath hfault hv
    refine ⟨d₂, ?_, hrenewed⟩
    rw [resetDir]
    rcases hremove with hremove | hremove <;> rw [hremove] <;> dsimp only <;> rw [hcreate]

lemma Usable.renewed (hleaf : leaf ∈ ["in", "out"]) (h : Usable t scratch d)
    (hr : Renewed scratch leaf d d₁) : Usable t scratch d₁ := by
  refine h.of_look hr.here (fun place hp => hr.look place fun hin => hp (below_of_within hin))
    hr.unlocked ?_ ?_ ?_
  · rcases eq_or_ne leaf "in" with rfl | hne
    · intro node hnode
      rw [hr.find] at hnode
      cases hnode
      exact ⟨fun _ => rfl, trivial⟩
    · rw [Tree.Loose, hr.apart _ (fun hp => hne (leaf_eq_of_within hp))
        fun hp => hne (leaf_eq_of_within hp).symm]
      exact h.loose
  · intro place hbelow hthere
    by_cases hin : scratch ++ [leaf] <+: place
    · exact inside_of_within hleaf hin
    · rw [hr.look place hin] at hthere
      exact h.held place hbelow hthere
  · intro other hother content
    by_cases hin : scratch ++ [leaf] <+: scratch ++ [other]
    · obtain rfl := leaf_eq_of_within hin
      rw [(Tree.exists_entries_iff.mp ⟨[], hr.find⟩).1]
      nofun
    · rw [hr.look _ hin]
      exact h.clear other hother content

lemma Usable.not_stuck (h : Usable t scratch d) : ¬ Stuck scratch "in" d := by
  rintro ⟨node, hnode, hstuck⟩
  rw [Node.isFilled_strip_of_loose node (h.loose node hnode)] at hstuck
  cases hstuck

lemma Usable.removeDir_of_stuck (h : Usable t scratch d) (hfault : fault? t.output = none)
    (hstuck : Stuck scratch "out" d) :
    ∃ d₁, d.removeDir t.output = (some .denied, d₁) ∧ Usable t scratch d₁ := by
  have hpath := components_out t
  have hleaf : "out" ∈ ["in", "out"] := by decide
  rcases removeDir_cases hleaf h (h.locate_leaf hpath hfault) with
    ⟨-, d₁, entries, hremove, hfind, hapart⟩ | ⟨hnot, -⟩
  · refine ⟨d₁, hremove, ?_⟩
    obtain ⟨e, d₂, -, he, hemptied⟩ : ∃ e d₂, e ≠ FileError.notFound ∧
        d.removeDir t.output = (some e, d₂) ∧ Emptied (scratch ++ ["out"] <+: ·) d d₂ := by
      rcases (h.reaches hpath).removeDir_cases with ⟨_, he, -⟩ | ⟨he, -⟩ | hdenied
      · rw [hremove] at he
        cases he
      · rw [hremove] at he
        cases he
      · rwa [h.land] at hdenied
    rw [hremove] at he
    cases he
    refine h.of_look hemptied.here (fun place hp => hemptied.outside place fun hin =>
      hp (below_of_within hin)) (Tree.exists_entries_iff.mp ⟨entries, hfind⟩).2 ?_ ?_ ?_
    · rw [Tree.Loose, hapart _ (fun hp => absurd (leaf_eq_of_within hp) (by decide))
        fun hp => absurd (leaf_eq_of_within hp) (by decide)]
      exact h.loose
    · intro place hbelow hthere
      by_cases hin : scratch ++ ["out"] <+: place
      · exact inside_of_within hleaf hin
      · rw [hemptied.outside place hin] at hthere
        exact h.held place hbelow hthere
    · exact fun leaf hleaf content hfile => h.clear leaf hleaf content (hemptied.file _ _ hfile)
  · exact absurd hstuck hnot

lemma ne_denied_of_fault {e : FileError} (h : fault? path = some e) : e ≠ .denied := by
  rintro rfl
  rw [fault?] at h
  split_ifs at h <;> cases h

lemma Usable.removeDir_eq_denied_iff (h : Usable t scratch d) :
    (d.removeDir t.output).1 = some .denied ↔
      fault? t.output = none ∧ Stuck scratch "out" d := by
  cases hfault : fault? t.output with
  | some e =>
    rw [removeDir, locate_eq, hfault]
    simp [ne_denied_of_fault hfault]
  | none =>
    rw [eq_self, true_and]
    refine ⟨fun hdenied => ?_, fun hstuck => ?_⟩
    · rcases removeDir_cases (by decide) h (h.locate_leaf (components_out t) hfault) with
        ⟨hstuck, -⟩ | ⟨-, d₁, -, he | he⟩
      · exact hstuck
      all_goals rw [he] at hdenied; cases hdenied
    · obtain ⟨d₁, he, -⟩ := h.removeDir_of_stuck hfault hstuck
      rw [he]

lemma fault?_input (h : fault? t.output = none) : fault? t.input = none := by
  obtain ⟨start, hin, hout⟩ : ∃ start, t.input = start ++ "in" ∧ t.output = start ++ "out" := by
    have habsolute : ∀ leaf ∈ ["in", "out"], isAbsolute leaf = false := by decide
    rw [input, output, join, join, habsolute "in" (by decide), habsolute "out" (by decide)]
    split_ifs
    · exact ⟨"", rfl, rfl⟩
    · exact ⟨t.scratch, rfl, rfl⟩
    · exact ⟨t.scratch ++ "/", rfl, rfl⟩
  have hsize : "in".utf8ByteSize = 2 ∧ "out".utf8ByteSize = 3 := by decide
  rw [hout, fault?] at h
  rw [hin, fault?]
  split_ifs at h with hempty hnul hlong
  rw [if_neg (by simp), if_neg ?_, if_neg ?_]
  · rw [String.utf8ByteSize_append] at hlong ⊢
    omega
  · simpa using hnul

structure Cleared (scratch : List String) (d d' : Disk) : Prop where
  here : d'.here = d.here
  input : d'.tree.find (scratch ++ ["in"]) = .ok (.dir [])
  output : d'.tree.find (scratch ++ ["out"]) = .ok (.dir [])
  look : ∀ place, ¬ Inside scratch place → d'.tree.look place = d.tree.look place

lemma Renewed.cleared (hin : Renewed scratch "in" d d₁) (hout : Renewed scratch "out" d₁ d₂) :
    Cleared scratch d d₂ := by
  refine ⟨hout.here.trans hin.here, ?_, hout.find, fun place hp => ?_⟩
  · rw [hout.apart (scratch ++ ["in"]) (fun hp => absurd (leaf_eq_of_within hp) (by decide))
      fun hp => absurd (leaf_eq_of_within hp) (by decide), hin.find]
  · rw [hout.look place fun h => hp (Or.inr h), hin.look place fun h => hp (Or.inl h)]

lemma Renewed.stuck_iff (h : Renewed scratch "in" d d₁) :
    Stuck scratch "out" d₁ ↔ Stuck scratch "out" d := by
  rw [Stuck, Stuck, h.apart _ (fun hp => absurd (leaf_eq_of_within hp) (by decide))
    fun hp => absurd (leaf_eq_of_within hp) (by decide)]

lemma Cleared.look_eq (h : Usable t scratch d) (h' : Usable t scratch d')
    (hc : Cleared scratch d d₁) (hc' : Cleared scratch d' d₂)
    (hlook : ∀ place, ¬ Below scratch place → d'.tree.look place = d.tree.look place)
    (place : List String) : d₂.tree.look place = d₁.tree.look place := by
  by_cases hin : Inside scratch place
  · rcases hin with ⟨rest, rfl⟩ | ⟨rest, rfl⟩
    · rw [Tree.look_append hc.input, Tree.look_append hc'.input]
    · rw [Tree.look_append hc.output, Tree.look_append hc'.output]
  · rw [hc.look place hin, hc'.look place hin]
    by_cases hbelow : Below scratch place
    · rw [not_not.mp (mt (h.held place hbelow) hin), not_not.mp (mt (h'.held place hbelow) hin)]
    · exact hlook place hbelow

lemma Usable.prepare_cases (h : Usable t scratch d) (name : String) :
    match fault? t.input, fault? t.output with
    | some e, _ => t.prepare name d = (.error (ioError e), d)
    | none, some e => ∃ d₁, Renewed scratch "in" d d₁ ∧
        t.prepare name d = (.error (ioError e), d₁)
    | none, none =>
      (Stuck scratch "out" d ∧ ∃ d₁, Usable t scratch d₁ ∧
        t.prepare name d = (.error (ioError .denied), d₁)) ∨
      ¬ Stuck scratch "out" d ∧ ∃ d₂, Cleared scratch d d₂ ∧ Usable t scratch d₂ ∧
        t.prepare name d = match Catalog.readFamily d₂ t.classJar name with
          | .error e => (.error (familyError e), d₂)
          | .ok [] => (.error (.classNotFound name), d₂)
          | .ok family => writeFamily t.input family d₂ := by
  have hinput := components_in t
  have houtput := components_out t
  cases hin : fault? t.input with
  | some e =>
    dsimp only
    rw [prepare, resetDir_of_fault (h.reaches hinput).path_ne hin]
  | none =>
    obtain ⟨d₁, hreset, hr⟩ := resetDir_renewed (by decide) h hinput hin h.not_stuck
    have h₁ := h.renewed (by decide) hr
    rw [prepare, hreset]
    dsimp only
    cases hout : fault? t.output with
    | some e =>
      refine ⟨d₁, hr, ?_⟩
      rw [resetDir_of_fault (h.reaches houtput).path_ne hout]
    | none =>
      by_cases hstuck : Stuck scratch "out" d
      · obtain ⟨d₂, hremove, h₂⟩ := h₁.removeDir_of_stuck hout (hr.stuck_iff.mpr hstuck)
        refine Or.inl ⟨hstuck, d₂, h₂, ?_⟩
        rw [resetDir, hremove]
      · obtain ⟨d₂, hreset', hr'⟩ :=
          resetDir_renewed (by decide) h₁ houtput hout (mt hr.stuck_iff.mp hstuck)
        refine Or.inr ⟨hstuck, d₂, hr.cleared hr', h₁.renewed (by decide) hr', ?_⟩
        generalize resetDir t.output d₁ = outcome at hreset' ⊢
        subst hreset'
        rfl

end Emptying

section Filling

variable {names : List String} (h : Ready t scratch d)

include h

lemma createAlong_ready (hpath : components path.toList = components t.input.toList ++ names.map named) :
    d.createAlong d.here (components path.toList) =
      d.createAlong (scratch ++ ["in"]) (names.map named) := by
  rw [hpath, createAlong_append h.treads_input, h.land_input]

lemma createDirs_ready (path : String) : Ready t scratch (d.createDirs path).2 := by
  have hgrows : Grows (fun _ => True) d (d.createDirs path).2 := by
    rw [createDirs]
    split_ifs
    · exact Grows.refl _ d
    · exact Grows.refl _ d
    · exact createAlong_grows (treads_of_forall (fun _ => Or.inl trivial) _ _)
  exact ⟨hgrows.here ▸ h.land, hgrows.here ▸ h.treads.mono fun _ => hgrows.dir, hgrows.dir h.input⟩

lemma createDirs_yields (hy : d.tree.Yields scratch (scratch ++ ["in"]))
    (hpath : components path.toList = components t.input.toList ++ names.map named) :
    (d.createDirs path).2.tree.Yields scratch (scratch ++ ["in"]) := by
  rw [createDirs]
  split_ifs
  · exact hy
  · exact hy
  · rw [createAlong_ready h hpath]
    have hregion := treads_named (p := fun place => ∃ rest, rest ≠ [] ∧
      place = scratch ++ ["in"] ++ rest) (scratch ++ ["in"]) names
      fun first _ _ hfirst => ⟨first, hfirst, rfl⟩
    refine createAlong_induct ?_ (treads_iff.mp hregion) hy
    rintro tree tree' _ ⟨rest, hrest, rfl⟩ hyields hcreate
    exact hyields.createDir (List.prefix_append _ _) hrest hcreate

end Filling

lemma writeMember_ready {entry : String} (h : Ready t scratch d)
    (hentry : Catalog.isContained entry = true) (data : Text.Bytes) :
    Ready t scratch (writeMember t.input (entry, data) d).2 := by
  rcases h.writeMember_spec hentry data with ⟨cause, d', he, hx⟩ | ⟨d', he, hx⟩ <;> rw [he] <;>
    exact h.extracted hx

lemma writeMember_yields {entry : String} (h : Ready t scratch d)
    (hy : d.tree.Yields scratch (scratch ++ ["in"])) (hentry : Catalog.isContained entry = true)
    (data : Text.Bytes) : (writeMember t.input (entry, data) d).2.tree.Yields scratch
      (scratch ++ ["in"]) := by
  have hplain := Catalog.plain_of_isContained hentry
  have hparent := components_parent_join (input_getLast? t) (by decide) (by decide) hplain
  have hdirs := createDirs_yields h hy hparent
  have hready := createDirs_ready h ((parent? (join t.input entry)).getD "")
  rw [writeMember]
  split
  · exact hy
  · rcases hc : d.createDirs ((parent? (join t.input entry)).getD "") with ⟨_ | e, d₁⟩ <;>
      rw [hc] at hdirs hready
    · dsimp only at hready hdirs ⊢
      cases hwrite : d₁.write (join t.input entry) data with
      | error e => exact hdirs
      | ok d₂ =>
        obtain ⟨tree, htree, rfl⟩ := write_eq_ok hwrite
        rw [hready.land_member hentry] at htree
        exact hdirs.write (List.prefix_append _ _) (names_ne_nil entry) htree
    · exact hdirs

lemma writeFamily_yields (h : Ready t scratch d) (hy : d.tree.Yields scratch (scratch ++ ["in"]))
    (hall : ∀ member ∈ members, Catalog.isContained member.1 = true) :
    (writeFamily t.input members d).2.tree.Yields scratch (scratch ++ ["in"]) := by
  induction members generalizing d with
  | nil => exact hy
  | cons member members ih =>
    rw [List.forall_mem_cons] at hall
    have hready := writeMember_ready h hall.1 member.2
    have hyields := writeMember_yields h hy hall.1 member.2
    rw [writeFamily]
    rcases hw : writeMember t.input member d with ⟨e | ⟨⟩, d₁⟩ <;> rw [hw] at hready hyields
    · exact hyields
    · exact ih hready hyields hall.2

lemma Usable.extracted (h : Usable t scratch d) (hy : d'.tree.Yields scratch (scratch ++ ["in"]))
    (hx : Extracted (scratch ++ ["in"]) members d d') : Usable t scratch d' := by
  have hout : ∀ place, ¬ Below scratch place → ¬ Below (scratch ++ ["in"]) place :=
    fun place hp hbelow => hp (below_of_within hbelow.1)
  refine h.of_look hx.here (fun place hp => hx.outside place (hout place hp)) hy.unlocked hy.loose
    ?_ ?_
  · intro place hbelow hthere
    by_cases hin : Below (scratch ++ ["in"]) place
    · exact Or.inl hin.1
    · rw [hx.outside place hin] at hthere
      exact h.held place hbelow hthere
  · intro leaf hleaf content
    have hnot : ¬ Below (scratch ++ ["in"]) (scratch ++ [leaf]) := by
      rintro ⟨hwithin, hne⟩
      rw [leaf_eq_of_within hwithin] at hne
      exact hne rfl
    rw [hx.outside _ hnot]
    exact h.clear leaf hleaf content

lemma Cleared.ready (h : Usable t scratch d₁) (hc : Cleared scratch d d₁) : Ready t scratch d₁ :=
  h.ready (Tree.exists_entries_iff.mp ⟨[], hc.input⟩).1

lemma Cleared.yields (h : Usable t scratch d₁) (hc : Cleared scratch d d₁) :
    d₁.tree.Yields scratch (scratch ++ ["in"]) :=
  ⟨h.unlocked, h.loose, (Tree.exists_entries_iff.mp ⟨[], hc.input⟩).1⟩

lemma Usable.prepare (h : Usable t scratch d) (name : String) :
    Usable t scratch (t.prepare name d).2 := by
  have hcases := h.prepare_cases name
  split at hcases
  · rw [hcases]
    exact h
  · obtain ⟨d₁, hr, he⟩ := hcases
    rw [he]
    exact h.renewed (by decide) hr
  · rcases hcases with ⟨-, d₁, h₁, he⟩ | ⟨-, d₂, hc, h₂, he⟩
    · rw [he]
      exact h₁
    · rw [he]
      cases hread : Catalog.readFamily d₂ t.classJar name with
      | error e => exact h₂
      | ok family =>
        cases family with
        | nil => exact h₂
        | cons member family =>
          have hall := contained_of_readFamily hread
          have hyields := writeFamily_yields (hc.ready h₂) (hc.yields h₂) hall
          obtain ⟨written, more, d', -, hx, hend⟩ := writeFamily_spec (hc.ready h₂) hall
          rcases hend with ⟨hwrite, -⟩ | ⟨cause, hwrite⟩ <;> dsimp only at hyields ⊢ <;>
            rw [hwrite] at hyields ⊢ <;> exact h₂.extracted hyields hx

end ClassBatch.Tool.Fernflower
