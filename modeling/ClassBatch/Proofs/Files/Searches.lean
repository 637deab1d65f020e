import ClassBatch.Files.Tree
import ClassBatch.Proofs.Names

/-! Searching a tree for a file by its name. The search takes the first place in the listing that
fits, so that it finds a file whenever there is one, in whatever order directories list their
entries. -/

namespace ClassBatch.Files.Node

section Places

inductive Holds : Node → List String → Node → Prop
  | here (node : Node) : Holds node [] node
  | under {name : String} {child found : Node} {entries : List (String × Node)} {locked : Bool}
      {place : List String} (entry : (name, child) ∈ entries) (rest : Holds child place found) :
      Holds (dir entries locked) (name :: place) found

def HoldsFile (wanted : String) (node : Node) (place : List String) : Prop :=
  place.getLast? = some wanted ∧
    ∃ content executable, node.Holds place (file content executable)

/-- The same tree, with the entries of some directories listed in another order. -/
inductive Reordered : Node → Node → Prop
  | refl (node : Node) : Reordered node node
  | listed {entries entries' : List (String × Node)} {locked : Bool}
      (order : entries.Perm entries') : Reordered (dir entries locked) (dir entries' locked)
  | inside {name : String} {child child' : Node} {before after : List (String × Node)}
      {locked : Bool} (inner : Reordered child child') :
      Reordered (dir (before ++ (name, child) :: after) locked)
        (dir (before ++ (name, child') :: after) locked)
  | trans {node node' node'' : Node} (first : Reordered node node')
      (second : Reordered node' node'') : Reordered node node''

def Proper (node : Node) : Prop :=
  ∀ place entries locked, node.Holds place (dir entries locked) →
    (Names.keys entries).Nodup ∧ ∀ name ∈ Names.keys entries, fits name = true

end Places

variable {wanted name : String} {node node' child found : Node} {place rest : List String}
  {entries : List (String × Node)} {listed : List String × Bool} {folder : Bool}

def isWanted (wanted : String) (listed : List String × Bool) : Bool :=
  !listed.2 && listed.1.getLast? == some wanted

lemma isWanted_iff : isWanted wanted listed = true ↔
    listed.2 = false ∧ listed.1.getLast? = some wanted := by
  rw [isWanted, Bool.and_eq_true, Bool.not_eq_true', beq_iff_eq]

lemma entryPlaces_eq_flatMap (entries : List (String × Node)) :
    entryPlaces entries = entries.flatMap fun (name, child) =>
      ([name], child.isDir) :: child.places.map fun (place, folder) => (name :: place, folder) := by
  induction entries with
  | nil => rfl
  | cons entry entries ih => rw [entryPlaces, ih, List.flatMap_cons]

lemma mem_entryPlaces_cons : (name :: rest, folder) ∈ entryPlaces entries ↔
    ∃ child, (name, child) ∈ entries ∧
      (rest = [] ∧ folder = child.isDir ∨ (rest, folder) ∈ child.places) := by
  rw [entryPlaces_eq_flatMap, List.mem_flatMap]
  constructor
  · rintro ⟨⟨first, child⟩, hentry, hmem⟩
    rcases List.mem_cons.mp hmem with heq | hmem
    · cases heq
      exact ⟨child, hentry, Or.inl ⟨rfl, rfl⟩⟩
    · obtain ⟨⟨below, kind⟩, hbelow, heq⟩ := List.mem_map.mp hmem
      cases heq
      exact ⟨child, hentry, Or.inr hbelow⟩
  · rintro ⟨child, hentry, hrest⟩
    refine ⟨(name, child), hentry, ?_⟩
    rcases hrest with ⟨rfl, rfl⟩ | hbelow
    · exact List.mem_cons_self
    · exact List.mem_cons_of_mem _ (List.mem_map.mpr ⟨(rest, folder), hbelow, rfl⟩)

lemma ne_nil_of_mem_entryPlaces (h : listed ∈ entryPlaces entries) : listed.1 ≠ [] := by
  rw [entryPlaces_eq_flatMap, List.mem_flatMap] at h
  obtain ⟨⟨name, child⟩, -, hmem⟩ := h
  rcases List.mem_cons.mp hmem with rfl | hmem
  · exact List.cons_ne_nil name []
  · obtain ⟨⟨below, kind⟩, -, rfl⟩ := List.mem_map.mp hmem
    exact List.cons_ne_nil name below

lemma mem_places_iff : (place, folder) ∈ node.places ↔
    place ≠ [] ∧ ∃ found, node.Holds place found ∧ found.isDir = folder := by
  constructor
  · intro h
    induction place generalizing node with
    | nil =>
      cases node with
      | file content executable => cases h
      | dir entries locked => exact absurd rfl (ne_nil_of_mem_entryPlaces h)
    | cons name rest ih =>
      cases node with
      | file content executable => cases h
      | dir entries locked =>
        refine ⟨List.cons_ne_nil name rest, ?_⟩
        obtain ⟨child, hentry, ⟨rfl, rfl⟩ | hbelow⟩ := mem_entryPlaces_cons.mp h
        · exact ⟨child, .under hentry (.here child), rfl⟩
        · obtain ⟨-, found, hfound, hkind⟩ := ih hbelow
          exact ⟨found, .under hentry hfound, hkind⟩
  · rintro ⟨hne, found, hholds, hkind⟩
    induction hholds with
    | here node => exact absurd rfl hne
    | @under name child found entries locked rest entry hrest ih =>
      refine mem_entryPlaces_cons.mpr ⟨child, entry, ?_⟩
      by_cases hempty : rest = []
      · subst hempty
        cases hrest
        exact Or.inl ⟨rfl, hkind.symm⟩
      · exact Or.inr (ih hempty hkind)

lemma holdsFile_iff : node.HoldsFile wanted place ↔
    (place, false) ∈ node.places ∧ place.getLast? = some wanted := by
  rw [HoldsFile, mem_places_iff]
  constructor
  · rintro ⟨hlast, content, executable, hholds⟩
    refine ⟨⟨?_, _, hholds, rfl⟩, hlast⟩
    rintro rfl
    cases hlast
  · rintro ⟨⟨-, found, hholds, hkind⟩, hlast⟩
    cases found with
    | file content executable => exact ⟨hlast, content, executable, hholds⟩
    | dir entries locked => cases hkind

lemma find?_map_cons (wanted name : String) (entries : List (String × Node)) :
    ((entryPlaces entries).map fun (place, folder) => (name :: place, folder)).find?
        (isWanted wanted) =
      ((entryPlaces entries).find? (isWanted wanted)).map
        fun (place, folder) => (name :: place, folder) := by
  rw [List.find?_map]
  refine congrArg _ ?_
  rw [← List.head?_filter, ← List.head?_filter]
  refine congrArg _ (List.filter_congr fun listed hmem => ?_)
  rw [Function.comp_apply, isWanted, isWanted,
    List.getLast?_cons_of_ne_nil (ne_nil_of_mem_entryPlaces hmem)]

lemma searchEntries_eq_find? (wanted : String) (entries : List (String × Node)) :
    searchEntries wanted entries =
      ((entryPlaces entries).find? (isWanted wanted)).map Prod.fst := by
  fun_induction searchEntries wanted entries with
  | case1 => rfl
  | case2 content executable rest =>
    have hwanted : isWanted wanted ([wanted], false) = true := isWanted_iff.mpr ⟨rfl, rfl⟩
    rw [entryPlaces, List.cons_append, isDir, List.find?_cons_of_pos hwanted]
    rfl
  | case3 name content executable rest hne ih =>
    have hother : ¬ isWanted wanted ([name], false) = true := by simpa [isWanted] using hne
    rw [entryPlaces, List.cons_append, isDir, List.find?_cons_of_neg hother, places, ih]
    rfl
  | case4 name inner locked rest place hfound ih =>
    rw [entryPlaces, List.cons_append, isDir, List.find?_cons_of_neg (by simp [isWanted]), places,
      List.find?_append, find?_map_cons]
    obtain ⟨listed, hlisted, rfl⟩ := Option.map_eq_some_iff.mp (ih.symm.trans hfound)
    rw [hlisted]
    rfl
  | case5 name inner locked rest hnone ihInner ih =>
    rw [entryPlaces, List.cons_append, isDir, List.find?_cons_of_neg (by simp [isWanted]), places,
      List.find?_append, find?_map_cons, Option.map_eq_none_iff.mp (ihInner.symm.trans hnone), ih]
    rfl

lemma search_eq_find? (wanted : String) (node : Node) :
    node.search wanted = (node.places.find? (isWanted wanted)).map Prod.fst := by
  cases node with
  | file content executable => rfl
  | dir entries locked => rw [search, places, searchEntries_eq_find?]

lemma holdsFile_of_search (h : node.search wanted = some place) : node.HoldsFile wanted place := by
  rw [search_eq_find?] at h
  obtain ⟨⟨place, folder⟩, hfind, rfl⟩ := Option.map_eq_some_iff.mp h
  obtain ⟨rfl, hlast⟩ := isWanted_iff.mp (List.find?_some hfind)
  exact holdsFile_iff.mpr ⟨List.mem_of_find?_eq_some hfind, hlast⟩

lemma search_isSome_iff : (node.search wanted).isSome = true ↔
    ∃ place, node.HoldsFile wanted place := by
  constructor
  · intro h
    obtain ⟨place, hplace⟩ := Option.isSome_iff_exists.mp h
    exact ⟨place, holdsFile_of_search hplace⟩
  · rintro ⟨place, hholds⟩
    obtain ⟨hmem, hlast⟩ := holdsFile_iff.mp hholds
    rw [search_eq_find?, Option.isSome_map, List.find?_isSome]
    exact ⟨(place, false), hmem, isWanted_iff.mpr ⟨rfl, hlast⟩⟩

lemma Reordered.symm (h : Reordered node node') : Reordered node' node := by
  induction h with
  | refl node => exact .refl node
  | listed order => exact .listed order.symm
  | inside _ ih => exact .inside ih
  | trans _ _ ihFirst ihSecond => exact .trans ihSecond ihFirst

lemma Reordered.holds {content : Text.Bytes} {executable : Bool} (h : Reordered node node')
    (hholds : node.Holds place (file content executable)) :
    node'.Holds place (file content executable) := by
  induction h generalizing place with
  | refl node => exact hholds
  | listed order =>
    cases hholds with
    | under entry rest => exact .under (order.mem_iff.mp entry) rest
  | @inside name child child' before after locked _ ih =>
    cases hholds with
    | under entry rest =>
      rcases List.mem_append.mp entry with hbefore | hafter
      · exact .under (List.mem_append_left _ hbefore) rest
      · rcases List.mem_cons.mp hafter with heq | hafter
        · cases heq
          exact .under (List.mem_append_right before List.mem_cons_self) (ih rest)
        · exact .under (List.mem_append_right before (List.mem_cons_of_mem _ hafter)) rest
  | trans _ _ ihFirst ihSecond => exact ihSecond (ihFirst hholds)

lemma Reordered.holdsFile_iff (h : Reordered node node') :
    node'.HoldsFile wanted place ↔ node.HoldsFile wanted place := by
  constructor
  · rintro ⟨hlast, content, executable, hholds⟩
    exact ⟨hlast, content, executable, h.symm.holds hholds⟩
  · rintro ⟨hlast, content, executable, hholds⟩
    exact ⟨hlast, content, executable, h.holds hholds⟩

lemma Holds.find_eq (h : node.Holds place found) (hproper : node.Proper) :
    node.find place = .ok found := by
  induction h with
  | here node => cases node <;> rfl
  | @under name child found entries locked rest entry _ ih =>
    obtain ⟨hnodup, hfits⟩ := hproper [] entries locked (.here _)
    have hname : name ∈ Names.keys entries := List.mem_map.mpr ⟨(name, child), entry, rfl⟩
    have hchild : child.Proper := fun place inner inside hinner =>
      hproper (name :: place) inner inside (.under entry hinner)
    rw [find, hfits name hname, Names.lookup_of_mem hnodup entry]
    exact ih hchild

/-- However the directories of a tree are listed, the search comes upon a file of the wanted name if
there is one anywhere, and upon nothing else. If there is only one, the order does not matter. -/
theorem search_finds_file (wanted : String) {tree listed : Node} (h : Reordered tree listed) :
    ((listed.search wanted).isSome = true ↔ ∃ place, tree.HoldsFile wanted place) ∧
    (∀ place, listed.search wanted = some place → tree.HoldsFile wanted place ∧
      (tree.Proper → ∃ content executable, tree.find place = .ok (file content executable))) ∧
    ∀ place, tree.HoldsFile wanted place →
      (∀ other, tree.HoldsFile wanted other → other = place) →
      listed.search wanted = some place := by
  have hfiles : ∀ place, listed.HoldsFile wanted place ↔ tree.HoldsFile wanted place :=
    fun place => h.holdsFile_iff
  have hsome : (listed.search wanted).isSome = true ↔ ∃ place, tree.HoldsFile wanted place := by
    rw [search_isSome_iff]
    exact exists_congr hfiles
  refine ⟨hsome, fun place hplace => ?_, fun place hplace honly => ?_⟩
  · obtain ⟨hlast, content, executable, hholds⟩ :=
      (hfiles place).mp (holdsFile_of_search hplace)
    exact ⟨⟨hlast, content, executable, hholds⟩,
      fun hproper => ⟨content, executable, hholds.find_eq hproper⟩⟩
  · obtain ⟨other, hother⟩ := Option.isSome_iff_exists.mp (hsome.mpr ⟨place, hplace⟩)
    rw [hother, honly other ((hfiles other).mp (holdsFile_of_search hother))]

def namesakes : Node :=
  .dir [("A.java", .dir []),
    ("org", .dir [("A.java", .dir [("A.java", .file [] false)]), ("B.java", .file [] false)])]

def namesakesRelisted : Node :=
  .dir [("org", .dir [("B.java", .file [] false), ("A.java", .dir [("A.java", .file [] false)])]),
    ("A.java", .dir [])]

theorem search_finds_file_among_namesakes :
    Reordered namesakes namesakesRelisted ∧
      namesakes.HoldsFile "A.java" ["org", "A.java", "A.java"] ∧
      namesakesRelisted.search "A.java" = some ["org", "A.java", "A.java"] := by
  have horder : Reordered namesakes namesakesRelisted :=
    .trans (@Reordered.inside "org" _ _ [("A.java", .dir [])] [] _ (.listed (.swap _ _ _)))
      (.listed (.swap _ _ _))
  have hholds : namesakes.HoldsFile "A.java" ["org", "A.java", "A.java"] :=
    holdsFile_iff.mpr ⟨by decide, rfl⟩
  have honly : ∀ other, namesakes.HoldsFile "A.java" other →
      other = ["org", "A.java", "A.java"] := by
    intro other hother
    obtain ⟨hmem, hlast⟩ := holdsFile_iff.mp hother
    have hfits : (other, false) ∈ namesakes.places.filter (isWanted "A.java") :=
      List.mem_filter.mpr ⟨hmem, isWanted_iff.mpr ⟨rfl, hlast⟩⟩
    have hlisted : namesakes.places.filter (isWanted "A.java") =
        [(["org", "A.java", "A.java"], false)] := by
      decide
    rw [hlisted, List.mem_singleton] at hfits
    exact congrArg Prod.fst hfits
  exact ⟨horder, hholds, (search_finds_file "A.java" horder).2.2 _ hholds honly⟩

end ClassBatch.Files.Node
