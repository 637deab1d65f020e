import ClassBatch.Proofs.Catalog
import ClassBatch.Proofs.Files.Disks
import ClassBatch.Tool.Fernflower

/-! What Fernflower does to the disk before it runs. Its two directories are emptied, and the family of
a class is put into one of them; nothing else changes. -/

namespace ClassBatch.Tool.Fernflower

open Catalog (Member inFamily isContained)
open Files Files.Disk Files.Path Text

def Below (inner place : List String) : Prop :=
  inner <+: place ∧ place ≠ inner

variable {t : Fernflower} {d d' d'' : Disk} {inner outer scratch place : List String}
  {way : List Component} {path leaf name entry : String} {data content : Bytes}
  {members written more : List (String × Bytes)}

section Emptying

structure Reaches (path : String) (way : List Component) (leaf : String) (d : Disk) : Prop where
  components : components path.toList = way ++ [named leaf]
  treads : Treads (fun place => d.tree.look place = some .dir) d.here way
  dir : d.tree.look (land d.here way) = some .dir

structure Emptied (region : List String → Prop) (d d' : Disk) : Prop where
  here : d'.here = d.here
  outside : ∀ place, ¬ region place → d'.tree.look place = d.tree.look place
  file : ∀ place content, d'.tree.look place = some (.file content) →
    d.tree.look place = some (.file content)

namespace Emptied

lemma refl (region : List String → Prop) (d : Disk) : Emptied region d d :=
  ⟨rfl, fun _ _ => rfl, fun _ _ h => h⟩

lemma of_cleared {d₁ : Disk} (hhere : d₁.here = d.here)
    (hlook : ∀ place, d₁.tree.look place = if inner <+: place then none else d.tree.look place)
    (h : Grows (inner <+: ·) d₁ d') : Emptied (inner <+: ·) d d' := by
  refine ⟨h.here.trans hhere, ?_, ?_⟩
  · intro place hp
    rw [h.eq_of_not hp, hlook, if_neg hp]
  · intro place content hfile
    have hfile₁ := h.file_iff.mp hfile
    rw [hlook] at hfile₁
    split at hfile₁
    · cases hfile₁
    · exact hfile₁

lemma mono {region region' : List String → Prop} (hr : ∀ place, region place → region' place)
    (h : Emptied region d d') : Emptied region' d d' :=
  ⟨h.here, fun place hp => h.outside place (mt (hr place) hp), h.file⟩

lemma trans {region : List String → Prop} (h : Emptied region d d') (h' : Emptied region d' d'') :
    Emptied region d d'' :=
  ⟨h'.here.trans h.here, fun place hp => (h'.outside place hp).trans (h.outside place hp),
    fun place content hfile => h.file place content (h'.file place content hfile)⟩

end Emptied

namespace Reaches

variable (h : Reaches path way leaf d)

include h

lemma path_ne : path ≠ "" := by
  rintro rfl
  have hnil : [] = way ++ [named leaf] := h.components
  simp at hnil

lemma follow_eq : d.tree.follow d.here (Path.components path.toList) =
    .ok (land d.here way ++ [leaf]) := by
  rw [h.components, named, Tree.follow_append_normal h.treads, String.ofList_toList]

lemma removeDir_cases :
    (∃ d₁, d.removeDir path = (none, d₁) ∧ d₁.here = d.here ∧ ∀ place, d₁.tree.look place =
      if land d.here way ++ [leaf] <+: place then none else d.tree.look place) ∨
    (d.removeDir path = (some .notFound, d) ∧
      ∀ place, land d.here way ++ [leaf] <+: place → d.tree.look place = none) ∨
    ∃ e d₁, e ≠ .notFound ∧ d.removeDir path = (some e, d₁) ∧
      Emptied (land d.here way ++ [leaf] <+: ·) d d₁ := by
  have hempty : path.isEmpty = false := by simpa using h.path_ne
  rw [removeDir, locate, hempty, if_neg Bool.false_ne_true]
  split_ifs
  · exact Or.inr (Or.inr ⟨.badName, d, by decide, rfl, Emptied.refl _ _⟩)
  · exact Or.inr (Or.inr ⟨.nameTooLong, d, by decide, rfl, Emptied.refl _ _⟩)
  · rw [h.follow_eq]
    dsimp only
    rcases Tree.removeDir_cases leaf h.dir with
      ⟨tree, he, hlook⟩ | ⟨he, hnone⟩ | ⟨e, tree, hne, he, houtside, hseen⟩
    · rw [he]
      exact Or.inl ⟨_, rfl, rfl, hlook⟩
    · rw [he]
      refine Or.inr (Or.inl ⟨rfl, ?_⟩)
      rintro place ⟨rest, rfl⟩
      cases rest with
      | nil => rw [List.append_nil, hnone]
      | cons next rest =>
        refine Tree.look_append_eq_none ?_ next rest
        rw [hnone]
        exact Option.some_ne_none _ |>.symm
    · rw [he]
      exact Or.inr (Or.inr ⟨e, _, hne, rfl, rfl, houtside, fun place content => hseen place _⟩)

lemma resetDir_cases :
    (∃ e d₁, resetDir path d = (.error (ioError e), d₁) ∧
      Emptied (land d.here way ++ [leaf] <+: ·) d d₁) ∨
    ∃ d₁ : Disk, d₁.here = d.here ∧
      (∀ place, d₁.tree.look place =
        if land d.here way ++ [leaf] <+: place then none else d.tree.look place) ∧
      resetDir path d = match d₁.createDirs path with
        | (some e, d₂) => (.error (ioError e), d₂)
        | (none, d₂) => (.ok (), d₂) := by
  rw [resetDir]
  rcases h.removeDir_cases with ⟨d₁, he, hhere, hlook⟩ | ⟨he, hnone⟩ | ⟨e, d₁, hne, he, hemptied⟩
  · rw [he]
    exact Or.inr ⟨d₁, hhere, hlook, rfl⟩
  · rw [he]
    refine Or.inr ⟨d, rfl, fun place => ?_, rfl⟩
    split
    · exact hnone place ‹_›
    · rfl
  · rw [he]
    cases e with
    | notFound => exact absurd rfl hne
    | _ => exact Or.inl ⟨_, d₁, rfl, hemptied⟩

lemma createDirs_grows {d₁ : Disk} (hhere : d₁.here = d.here) (hlook : ∀ place,
    d₁.tree.look place = if land d.here way ++ [leaf] <+: place then none else d.tree.look place) :
    Grows (land d.here way ++ [leaf] <+: ·) d₁ (d₁.createDirs path).2 := by
  rcases d₁.createDirs_cases h.path_ne with he | he
  · rw [he]
    exact Grows.refl _ _
  · rw [he, hhere, h.components]
    apply createAlong_grows
    -- a way that turns back may lead through the removed directory, which is then made again
    refine treads_append.mpr ⟨h.treads.mono fun place hp => ?_, Or.inl ?_, trivial⟩
    · by_cases hin : land d.here way ++ [leaf] <+: place
      · exact Or.inl hin
      · exact Or.inr (by rw [hlook, if_neg hin, hp])
    · rw [String.ofList_toList]

lemma createDirs_none {d₁ d₂ : Disk} (hhere : d₁.here = d.here)
    (hc : d₁.createDirs path = (none, d₂)) :
    Treads (fun place => d₂.tree.look place = some .dir) d.here way ∧
      d₂.tree.look (land d.here way ++ [leaf]) = some .dir := by
  rcases d₁.createDirs_cases h.path_ne with he | he
  · rw [hc] at he
    cases he
  · rw [hc, hhere, h.components] at he
    have hnone : (d₁.createAlong d.here (way ++ [named leaf])).1 = none := by rw [← he]
    obtain ⟨htreads, hdir⟩ := createAlong_none hnone
    rw [← he] at htreads hdir
    refine ⟨(treads_append.mp htreads).1, ?_⟩
    rw [land_append] at hdir
    simpa [land, named] using hdir

lemma resetDir_emptied : Emptied (land d.here way ++ [leaf] <+: ·) d (resetDir path d).2 := by
  rcases h.resetDir_cases with ⟨e, d₁, he, hemptied⟩ | ⟨d₁, hhere, hlook, he⟩
  · rw [he]
    exact hemptied
  · have hgrows := h.createDirs_grows hhere hlook
    rw [he]
    rcases hc : d₁.createDirs path with ⟨_ | e, d₂⟩ <;> rw [hc] at hgrows <;>
      exact Emptied.of_cleared hhere hlook hgrows

lemma resetDir_ok (hok : resetDir path d = (.ok (), d')) :
    Reaches path way leaf d' ∧ d'.tree.look (land d.here way ++ [leaf]) = some .dir ∧
      ∀ place content, land d.here way ++ [leaf] <+: place →
        d'.tree.look place ≠ some (.file content) := by
  rcases h.resetDir_cases with ⟨e, d₁, he, -⟩ | ⟨d₁, hhere, hlook, he⟩
  · rw [hok] at he
    cases he
  · have hgrows := h.createDirs_grows hhere hlook
    rw [hok] at he
    rcases hc : d₁.createDirs path with ⟨_ | e, d₂⟩ <;> rw [hc] at he hgrows <;> cases he
    obtain ⟨htreads, hdir⟩ := h.createDirs_none hhere hc
    have hhere' : d'.here = d.here := hgrows.here.trans hhere
    have hparent : d'.tree.look (land d.here way) = some .dir :=
      Node.look_of_append (by rw [show Node.look _ _ = _ from hdir]; nofun)
    refine ⟨⟨h.components, hhere' ▸ htreads, hhere' ▸ hparent⟩, hdir, ?_⟩
    intro place content hin hfile
    have hfile₁ := hgrows.file_iff.mp hfile
    rw [hlook, if_pos hin] at hfile₁
    cases hfile₁

end Reaches

lemma resetDir_error {e : DecompileError} (h : resetDir path d = (.error e, d')) :
    ∃ cause, e = ioError cause := by
  rw [resetDir] at h
  split at h
  · split at h
    · exact ⟨_, (Except.error.inj (Prod.mk.inj h).1).symm⟩
    · cases h
  · split at h
    · exact ⟨_, (Except.error.inj (Prod.mk.inj h).1).symm⟩
    · cases h
  · exact ⟨_, (Except.error.inj (Prod.mk.inj h).1).symm⟩

lemma familyError_cases (e : CatalogError) :
    familyError e = .backend e.chain ∨ ∃ reason, familyError e = .panicked reason := by
  rw [familyError]
  split
  · exact Or.inr ⟨_, rfl⟩
  · exact Or.inl rfl

end Emptying

section Writing

def content? (inner : List String) (members : List (String × Bytes)) (place : List String) :
    Option Bytes :=
  (members.reverse.find? fun member => inner ++ names member.1 = place).map Prod.snd

lemma content?_append (inner : List String) (written more : List (String × Bytes))
    (place : List String) : content? inner (written ++ more) place =
      (content? inner more place).or (content? inner written place) := by
  rw [content?, content?, content?, List.reverse_append, List.find?_append]
  cases more.reverse.find? fun member => inner ++ names member.1 = place <;> rfl

lemma content?_singleton (inner : List String) (member : String × Bytes) (place : List String) :
    content? inner [member] place =
      if place = inner ++ names member.1 then some member.2 else none := by
  rw [content?, List.reverse_singleton, List.find?_singleton]
  by_cases h : place = inner ++ names member.1
  · rw [if_pos h, if_pos (by simp [h])]
    rfl
  · rw [if_neg h, if_neg (by simpa [eq_comm] using h)]
    rfl

structure Extracted (inner : List String) (members : List (String × Bytes)) (d d' : Disk) :
    Prop where
  here : d'.here = d.here
  outside : ∀ place, ¬ Below inner place → d'.tree.look place = d.tree.look place
  dir : ∀ place, d.tree.look place = some .dir → d'.tree.look place = some .dir
  file : ∀ place content, d'.tree.look place = some (.file content) ↔
    content? inner members place = some content ∨
      content? inner members place = none ∧ d.tree.look place = some (.file content)

namespace Extracted

lemma of_grows (h : Grows (Below inner) d d') : Extracted inner [] d d' := by
  refine ⟨h.here, fun place => h.eq_of_not, fun place => h.dir, fun place content => ?_⟩
  rw [h.file_iff]
  simp [content?]

lemma trans (h : Extracted inner written d d') (h' : Extracted inner more d' d'') :
    Extracted inner (written ++ more) d d'' := by
  refine ⟨h'.here.trans h.here, fun place hp => (h'.outside place hp).trans (h.outside place hp),
    fun place hp => h'.dir place (h.dir place hp), fun place content => ?_⟩
  rw [h'.file, h.file, content?_append]
  cases content? inner more place <;> simp

lemma write {tree : Tree} (h : Grows (Below inner) d d')
    (hnot : d'.tree.look (inner ++ names entry) ≠ some .dir)
    (hlook : ∀ place, tree.look place =
      if place = inner ++ names entry then some (.file data) else d'.tree.look place) :
    Extracted inner [(entry, data)] d { d' with tree } := by
  refine ⟨h.here, ?_, ?_, ?_⟩
  · intro place hp
    have hne : place ≠ inner ++ names entry := by
      rintro rfl
      exact hp ⟨List.prefix_append _ _, by simpa using names_ne_nil entry⟩
    rw [hlook, if_neg hne, h.eq_of_not hp]
  · intro place hp
    have hdir := h.dir hp
    have hne : place ≠ inner ++ names entry := by
      rintro rfl
      exact hnot hdir
    rw [hlook, if_neg hne, hdir]
  · intro place content
    rw [hlook, content?_singleton]
    split
    · simp
    · simp [h.file_iff]

end Extracted

structure Ready (t : Fernflower) (scratch : List String) (d : Disk) : Prop where
  land : land d.here (components t.scratch.toList) = scratch
  treads : Treads (fun place => d.tree.look place = some .dir) d.here (components t.scratch.toList)
  input : d.tree.look (scratch ++ ["in"]) = some .dir

lemma components_in (t : Fernflower) :
    components t.input.toList = components t.scratch.toList ++ [named "in"] :=
  components_join t.scratch (by decide)

lemma components_out (t : Fernflower) :
    components t.output.toList = components t.scratch.toList ++ [named "out"] :=
  components_join t.scratch (by decide)

lemma land_named (place : List String) (below : List String) :
    land place (below.map named) = place ++ below := by
  induction below generalizing place with
  | nil => simp [Files.land]
  | cons name below ih =>
    rw [List.map_cons, named, Files.land, ih, String.ofList_toList, List.append_assoc,
      List.singleton_append]

lemma treads_named {p : List String → Prop} (place : List String) (below : List String)
    (h : ∀ first rest, below = first ++ rest → first ≠ [] → p (place ++ first)) :
    Treads p place (below.map named) := by
  induction below generalizing place with
  | nil => trivial
  | cons name below ih =>
    rw [List.map_cons, named, Treads, String.ofList_toList]
    refine ⟨h [name] below rfl (by simp), ih _ fun first rest he hne => ?_⟩
    rw [List.append_assoc]
    exact h (name :: first) rest (by rw [he, List.cons_append]) (by simp)

namespace Ready

lemma extracted (h : Ready t scratch d) (he : Extracted inner members d d') :
    Ready t scratch d' :=
  ⟨he.here ▸ h.land, he.here ▸ h.treads.mono he.dir, he.dir _ h.input⟩

variable (h : Ready t scratch d)

include h

lemma land_input : Files.land d.here (components t.input.toList) = scratch ++ ["in"] := by
  rw [components_in, land_append, h.land]
  rfl

lemma treads_input :
    Treads (fun place => d.tree.look place = some .dir) d.here (components t.input.toList) := by
  rw [components_in]
  refine treads_append.mpr ⟨h.treads, ?_, trivial⟩
  rw [h.land]
  exact h.input

lemma land_member (hentry : isContained entry = true) :
    Files.land d.here (components (join t.input entry).toList) = scratch ++ ["in"] ++ names entry := by
  rw [components_join _ (Catalog.plain_of_isContained hentry), land_append, h.land_input, land_named]

end Ready

lemma input_getLast? (t : Fernflower) : t.input.toList.getLast? = some 'n' := by
  rw [input, join]
  split
  · rfl
  · split <;> simp [String.toList_append]

lemma below?_append (root rest : List Component) : below? root (root ++ rest) = some rest := by
  induction root with
  | nil => rfl
  | cons component root ih => rw [List.cons_append, below?, if_pos rfl, ih]

lemma isWithin_of_isContained (dir : String) (h : isContained entry = true) :
    isWithin dir (join dir entry) = true := by
  rw [isWithin, components_join dir (Catalog.plain_of_isContained h), below?_append]
  simp [named, Catalog.isNormal]

namespace Ready

variable (h : Ready t scratch d)

include h

lemma writeMember_spec (hentry : isContained entry = true) (data : Bytes) :
    (∃ cause d', writeMember t.input (entry, data) d = (.error (ioError cause), d') ∧
      Extracted (scratch ++ ["in"]) [] d d') ∨
    ∃ d', writeMember t.input (entry, data) d = (.ok (), d') ∧
      Extracted (scratch ++ ["in"]) [(entry, data)] d d' := by
  have hplain := Catalog.plain_of_isContained hentry
  obtain ⟨start, last, hnames⟩ : ∃ start last, names entry = start ++ [last] :=
    ⟨_, _, (List.dropLast_append_getLast (names_ne_nil entry)).symm⟩
  have hparent := components_parent_join (input_getLast? t) (by decide) (by decide) hplain
  rw [hnames, List.dropLast_concat] at hparent
  rw [writeMember, isWithin_of_isContained t.input hentry]
  dsimp only
  rw [Bool.not_true, if_neg Bool.false_ne_true]
  generalize (parent? (join t.input entry)).getD "" = parent at hparent
  have hne : parent ≠ "" := by
    rintro rfl
    rw [components_in] at hparent
    have hnil : [] = components t.scratch.toList ++ [named "in"] ++ start.map named := hparent
    simp at hnil
  have hcreate : Grows (Below (scratch ++ ["in"])) d (d.createDirs parent).2 ∧
      ((d.createDirs parent).1 = none →
        (d.createDirs parent).2.tree.look (scratch ++ ["in"] ++ start) = some .dir) := by
    rcases d.createDirs_cases hne with he | he
    · rw [he]
      exact ⟨Grows.refl _ _, nofun⟩
    · rw [he, hparent, createAlong_append h.treads_input, h.land_input]
      refine ⟨createAlong_grows (treads_named _ _ fun first rest _ hfirst => Or.inl ?_),
        fun hnone => ?_⟩
      · exact ⟨List.prefix_append _ _, by simpa using hfirst⟩
      · have hdir := (createAlong_none hnone).2
        rwa [land_named] at hdir
  rcases hc : d.createDirs parent with ⟨_ | cause, d₁⟩ <;> rw [hc] at hcreate
  · obtain ⟨hgrows, hdir⟩ := hcreate
    dsimp only
    cases hw : d₁.write (join t.input entry) data with
    | error cause => exact Or.inl ⟨cause, d₁, rfl, Extracted.of_grows hgrows⟩
    | ok d₂ =>
      obtain ⟨tree, htree, rfl⟩ := write_eq_ok hw
      have hready : Ready t scratch d₁ := h.extracted (Extracted.of_grows hgrows)
      have hplace : scratch ++ ["in"] ++ names entry = scratch ++ ["in"] ++ start ++ [last] := by
        rw [hnames, List.append_assoc _ start]
      rw [hready.land_member hentry, hplace] at htree
      obtain ⟨hnot, hlook⟩ := Tree.look_write (hdir rfl) htree
      rw [← hplace] at hnot hlook
      exact Or.inr ⟨_, rfl, Extracted.write hgrows hnot hlook⟩
  · exact Or.inl ⟨cause, d₁, rfl, Extracted.of_grows hcreate.1⟩

end Ready

lemma writeFamily_spec (h : Ready t scratch d)
    (hall : ∀ member ∈ members, isContained member.1 = true) :
    ∃ written more d', members = written ++ more ∧ Extracted (scratch ++ ["in"]) written d d' ∧
      (writeFamily t.input members d = (.ok (), d') ∧ more = [] ∨
        ∃ cause, writeFamily t.input members d = (.error (ioError cause), d')) := by
  induction members generalizing d with
  | nil => exact ⟨[], [], d, rfl, Extracted.of_grows (Grows.refl _ _), Or.inl ⟨rfl, rfl⟩⟩
  | cons member members ih =>
    rw [List.forall_mem_cons] at hall
    rw [writeFamily]
    rcases h.writeMember_spec hall.1 member.2 with ⟨cause, d₁, he, hx⟩ | ⟨d₁, he, hx⟩
    · rw [he]
      exact ⟨[], member :: members, d₁, rfl, hx, Or.inr ⟨cause, rfl⟩⟩
    · rw [he]
      obtain ⟨written, more, d', rfl, hx', hend⟩ := ih (h.extracted hx) hall.2
      exact ⟨member :: written, more, d', rfl, hx.trans hx', hend⟩

end Writing

end ClassBatch.Tool.Fernflower
