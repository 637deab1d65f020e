import ClassBatch.Catalog
import ClassBatch.Proofs.Text

/-! Paths made of plain segments: they are joined to a directory without any of them being lost or
reinterpreted. -/

namespace ClassBatch.Files.Path

open Text
open Catalog (isPlain)

def names (path : String) : List String :=
  (splitAll (· = '/') path.toList).map String.ofList

def Plain (path : String) : Prop :=
  ∀ segment ∈ splitAll (· = '/') path.toList, isPlain segment = true

instance (path : String) : Decidable (Plain path) :=
  inferInstanceAs (Decidable (∀ segment ∈ splitAll (· = '/') path.toList, isPlain segment = true))

def named (name : String) : Component :=
  .normal name.toList

variable {first : Bool} {segment : List Char} {segments : List (List Char)} {s : List Char}
  {base path : String}

lemma isPlain_iff : isPlain segment = true ↔
    segment ≠ [] ∧ segment ≠ ['.'] ∧ segment ≠ ['.', '.'] := by
  simp [isPlain, and_assoc]

lemma ne_slash_of_mem (h : segment ∈ splitAll (· = '/') s) : ∀ c ∈ segment, c ≠ '/' :=
  fun c hc => of_decide_eq_false (not_sep_of_mem_splitAll h c hc)

lemma component?_of_isPlain (h : isPlain segment = true) (first : Bool) :
    component? first segment = some (.normal segment) := by
  obtain ⟨hempty, hdot, hdots⟩ := isPlain_iff.mp h
  simp [component?, hempty, hdot, hdots]

lemma filterMap_component?_of_isPlain (h : ∀ segment ∈ segments, isPlain segment = true)
    (first : Bool) : segments.filterMap (component? first) = segments.map Component.normal := by
  rw [← List.filterMap_eq_map]
  apply List.filterMap_congr
  intro segment hs
  exact component?_of_isPlain (h segment hs) first

lemma components_of_isPlain (h : ∀ segment ∈ splitAll (· = '/') s, isPlain segment = true) :
    components s = (splitAll (· = '/') s).map Component.normal := by
  obtain ⟨first, rest, hs⟩ := exists_splitAll_eq_cons (· = '/') s
  rw [hs, List.forall_mem_cons] at h
  have hhead : s.head? ≠ some '/' := head?_ne_of_splitAll hs (isPlain_iff.mp h.1).1 '/' rfl
  simp only [components, hs, hhead, if_false, component?_of_isPlain h.1,
    filterMap_component?_of_isPlain h.2, Option.toList_some, List.map_cons, List.singleton_append]

lemma components_eq_names (h : Plain path) : components path.toList = (names path).map named := by
  rw [components_of_isPlain h, names, List.map_map]
  apply List.map_congr_left
  intro segment _
  simp [named]

lemma components_append_separator (hs : s ≠ []) (rest : List Char) :
    components (s ++ '/' :: rest) =
      components s ++ (splitAll (· = '/') rest).filterMap (component? false) := by
  obtain ⟨first, parts, hparts⟩ := exists_splitAll_eq_cons (· = '/') s
  have happend : splitAll (· = '/') (s ++ '/' :: rest) =
      first :: (parts ++ splitAll (· = '/') rest) := by
    rw [splitAll_append_sep (by decide), hparts, List.cons_append]
  have hhead : (s ++ '/' :: rest).head? = s.head? := List.head?_append_of_ne_nil s hs
  simp only [components, happend, hparts, hhead, List.filterMap_append]
  split
  · rw [List.cons_append]
  · rw [List.append_assoc]

lemma components_cases (s : List Char) : ∃ rest, (∀ c ∈ rest, c ≠ .root) ∧
    (components s = .root :: rest ∨ components s = rest) := by
  have hcomponent : ∀ {first segment c}, component? first segment = some c → c ≠ .root := by
    intro first segment c h
    rw [component?] at h
    split_ifs at h <;> cases h <;> nofun
  obtain ⟨segment, segments, hs⟩ := exists_splitAll_eq_cons (· = '/') s
  have htail : ∀ c ∈ segments.filterMap (component? false), c ≠ .root := by
    intro c hc
    obtain ⟨_, -, h⟩ := List.mem_filterMap.mp hc
    exact hcomponent h
  rw [components, hs]
  dsimp only
  split
  · exact ⟨_, htail, Or.inl rfl⟩
  · refine ⟨_, fun c hc => ?_, Or.inr rfl⟩
    rcases List.mem_append.mp hc with hc | hc
    · exact hcomponent (Option.mem_toList.mp hc)
    · exact htail c hc

lemma names_injective : Function.Injective names := by
  intro path other h
  have hlist : Function.Injective String.ofList := fun a b hab => by
    simpa using congrArg String.toList hab
  have hsegments := List.map_injective_iff.mpr hlist h
  rw [← String.toList_inj, ← intercalate_splitAll '/' path.toList, hsegments, intercalate_splitAll]

lemma names_ne_nil (path : String) : names path ≠ [] := by
  simp [names, splitAll_ne_nil]

lemma isAbsolute_of_plain (h : Plain path) : isAbsolute path = false := by
  obtain ⟨first, rest, hs⟩ := exists_splitAll_eq_cons (· = '/') path.toList
  have hfirst := h first (hs ▸ List.mem_cons_self)
  have hhead := head?_ne_of_splitAll hs (isPlain_iff.mp hfirst).1 '/' rfl
  simpa [isAbsolute] using hhead

lemma components_join (base : String) (h : Plain path) :
    components (join base path).toList = components base.toList ++ (names path).map named := by
  have hnames := components_eq_names h
  rw [join, isAbsolute_of_plain h, Bool.false_or]
  by_cases hbase : base = ""
  · subst hbase
    have hnil : components "".toList = [] := rfl
    rw [hnil, List.nil_append, ← hnames]
    rfl
  · have hne : base.toList ≠ [] := by simpa using hbase
    have hempty : base.isEmpty = false := by simpa using hbase
    have hrest : (splitAll (· = '/') path.toList).filterMap (component? false) =
        (names path).map named := by
      rw [filterMap_component?_of_isPlain h, ← components_of_isPlain h, hnames]
    rw [hempty, if_neg Bool.false_ne_true]
    split
    · rename_i hlast
      obtain ⟨start, hstart⟩ := List.getLast?_eq_some_iff.mp hlast
      rw [String.toList_append, hstart, List.append_assoc, List.singleton_append]
      cases start with
      | nil =>
        -- joined to the root, the path loses nothing although the separator comes first
        obtain ⟨first, rest, hs⟩ := exists_splitAll_eq_cons (· = '/') path.toList
        rw [List.nil_append, ← hrest, components, splitAll_cons_of_sep (by decide)]
        rfl
      | cons c start =>
        rw [components_append_separator (List.cons_ne_nil c start), hrest,
          components_append_separator (List.cons_ne_nil c start)]
        simp [component?]
    · have hseparator : "/".toList = ['/'] := rfl
      rw [String.toList_append, String.toList_append, hseparator, List.append_assoc,
        List.singleton_append, components_append_separator hne, hrest]

lemma dropTail_of_isPlain (h : isPlain segment = true) (hs : ∀ c ∈ segment, c ≠ '/')
    (t : List Char) : dropTail (segment.reverse ++ t) = segment.reverse ++ t := by
  obtain ⟨hempty, hdot, -⟩ := isPlain_iff.mp h
  have hmem : ∀ c ∈ segment.reverse, c ≠ '/' := fun c hc => hs c (List.mem_reverse.mp hc)
  cases hr : segment.reverse with
  | nil => exact absurd (List.reverse_eq_nil_iff.mp hr) hempty
  | cons c rest =>
    rw [hr, List.forall_mem_cons] at hmem
    by_cases hc : c = '.'
    · subst hc
      cases rest with
      | nil => exact absurd (List.reverse_eq_iff.mp hr) hdot
      | cons d rest =>
        have hd := hmem.2 d List.mem_cons_self
        simp [dropTail, hd]
    · simp [dropTail, hc, hmem.1]

lemma parent?_append {start : List Char} (hstart : start ≠ [])
    (htail : dropTail start.reverse = start.reverse) (h : isPlain segment = true)
    (hs : ∀ c ∈ segment, c ≠ '/') :
    parent? (String.ofList (start ++ '/' :: segment)) = some (String.ofList start) := by
  have hreverse : (start ++ '/' :: segment).reverse = segment.reverse ++ '/' :: start.reverse := by
    simp
  have hne : segment.reverse ≠ [] := by simpa using (isPlain_iff.mp h).1
  have hslash : segment.reverse ++ '/' :: start.reverse ≠ ['/'] := by
    intro he
    have hlength := congrArg List.length he
    have hpos := List.length_pos_of_ne_nil hne
    simp only [List.length_append, List.length_cons, List.length_nil] at hlength
    omega
  have hdrop : (segment.reverse ++ '/' :: start.reverse).dropWhile (· ≠ '/') =
      '/' :: start.reverse := by
    rw [List.dropWhile_append_of_pos]
    · simp
    · intro c hc
      simpa using hs c (List.mem_reverse.mp hc)
  have hstable : dropTail ('/' :: start.reverse) = start.reverse := by
    simp [dropTail, hstart, htail]
  simp only [parent?, String.toList_ofList, hreverse, dropTail_of_isPlain h hs, hdrop, hstable]
  simp [hslash]

lemma components_parent_join {last : Char} (hbase : base.toList.getLast? = some last)
    (hslash : last ≠ '/') (hdot : last ≠ '.') (h : Plain path) :
    components ((parent? (join base path)).getD "").toList =
      components base.toList ++ (names path).dropLast.map named := by
  obtain ⟨start, hstart⟩ := List.getLast?_eq_some_iff.mp hbase
  have hne : base.toList ≠ [] := by rw [hstart]; simp
  have hnonempty : base.isEmpty = false := by simpa using hne
  have htail : dropTail base.toList.reverse = base.toList.reverse := by
    rw [hstart, List.reverse_append, List.reverse_singleton, List.singleton_append]
    simp [dropTail, hslash, hdot]
  have hjoin : join base path = String.ofList (base.toList ++ '/' :: path.toList) := by
    rw [join, isAbsolute_of_plain h, hnonempty, hbase, Bool.or_self, if_neg Bool.false_ne_true,
      if_neg (by simpa using hslash), ← String.toList_inj]
    simp
  obtain ⟨parts, part, hs, hcases⟩ := splitAll_eq_concat (· = '/') path.toList
  have hplain : ∀ segment ∈ parts ++ [part], isPlain segment = true := hs ▸ h
  have hpart := hplain part (by simp)
  have hsep : ∀ c ∈ part, c ≠ '/' := ne_slash_of_mem (hs ▸ List.mem_append_right _ (by simp))
  have hnames : (names path).dropLast = parts.map String.ofList := by
    rw [names, hs, List.map_append, List.map_singleton, List.dropLast_concat]
  rw [hjoin, hnames, List.map_map]
  rcases hcases with ⟨rfl, hpath⟩ | ⟨dir, c, hc, hpath, hdir⟩
  · rw [hpath, parent?_append hne htail hpart hsep]
    simp
  · obtain rfl : c = '/' := by simpa using hc
    have hdirs : ∀ segment ∈ parts, isPlain segment = true := fun segment hm =>
      hplain segment (List.mem_append_left _ hm)
    obtain ⟨parts', part', hs', hcases'⟩ := splitAll_eq_concat (· = '/') dir
    have hpart' := hdirs part' (by rw [← hdir, hs']; simp)
    have hsep' : ∀ c ∈ part', c ≠ '/' :=
      ne_slash_of_mem (hs' ▸ List.mem_append_right _ (by simp))
    have htail' : dropTail (base.toList ++ '/' :: dir).reverse =
        (base.toList ++ '/' :: dir).reverse := by
      rcases hcases' with ⟨-, rfl⟩ | ⟨dir', c', -, rfl, -⟩
      · have := dropTail_of_isPlain hpart' hsep' ('/' :: base.toList.reverse)
        simpa using this
      · have := dropTail_of_isPlain hpart' hsep' (c' :: (dir'.reverse ++ '/' :: base.toList.reverse))
        simpa using this
    have hassoc : base.toList ++ '/' :: path.toList =
        (base.toList ++ '/' :: dir) ++ '/' :: part := by
      rw [hpath]
      simp
    rw [hassoc, parent?_append (by simp) htail' hpart hsep, Option.getD_some,
      String.toList_ofList, components_append_separator hne, hdir,
      filterMap_component?_of_isPlain hdirs]
    congr 1
    apply List.map_congr_left
    intro segment _
    simp [named]

end ClassBatch.Files.Path
