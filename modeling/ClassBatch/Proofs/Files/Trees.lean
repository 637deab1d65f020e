import ClassBatch.Files.Tree
import Mathlib.Data.List.Basic
import Mathlib.Data.List.Infix

/-! Trees of files seen through what stands at each place. A change shows at its own place and, if it
removes something, at the places below. -/

namespace ClassBatch.Files

open Text (Bytes)

inductive Kind
  | file (content : Bytes)
  | dir
deriving DecidableEq

def Node.kind : Node → Kind
  | file content _ => .file content
  | dir .. => .dir

def Node.look (place : List String) (node : Node) : Option Kind :=
  (node.find place).toOption.map kind

namespace Node

variable {name other : String} {node node' : Node} {entries : List (String × Node)}
  {parent place rest : List String} {change : Option Node → Except FileError (Option Node)}
  {inner : Node}

lemma lookup_cons_eq_ite (kept : String) (node : Node) (entries : List (String × Node))
    (other : String) : ((kept, node) :: entries).lookup other =
      if other = kept then some node else entries.lookup other := by
  by_cases h : other = kept
  · simp [h]
  · have hbeq : (other == kept) = false := beq_eq_false_iff_ne.mpr h
    rw [List.lookup_cons, hbeq, if_neg h]

lemma lookup_setEntry (name : String) (node : Node) (entries : List (String × Node))
    (other : String) :
    (setEntry name node entries).lookup other =
      if other = name then some node else entries.lookup other := by
  induction entries with
  | nil => exact lookup_cons_eq_ite name node [] other
  | cons entry entries ih =>
    obtain ⟨kept, node'⟩ := entry
    rw [setEntry, lookup_cons_eq_ite]
    by_cases hkept : kept = name
    · rw [if_pos hkept, lookup_cons_eq_ite, hkept]
      split <;> rfl
    · rw [if_neg hkept, lookup_cons_eq_ite, ih]
      by_cases h : other = kept
      · rw [if_pos h, if_neg (h ▸ hkept), if_pos h]
      · rw [if_neg h, if_neg h]

lemma lookup_eraseEntry (name : String) (entries : List (String × Node)) (other : String) :
    (eraseEntry name entries).lookup other =
      if other = name then none else entries.lookup other := by
  induction entries with
  | nil => simp [eraseEntry]
  | cons entry entries ih =>
    obtain ⟨kept, node'⟩ := entry
    rw [eraseEntry] at ih ⊢
    rw [List.filter_cons, lookup_cons_eq_ite]
    by_cases hkept : kept = name
    · rw [if_neg (by simpa using hkept), ih, hkept]
      split <;> rfl
    · rw [if_pos (by simpa using hkept), lookup_cons_eq_ite, ih]
      by_cases h : other = kept
      · rw [if_pos h, if_neg (h ▸ hkept), if_pos h]
      · rw [if_neg h, if_neg h]

@[simp] lemma look_nil (node : Node) : node.look [] = some node.kind := by
  cases node <;> rfl

lemma find_dir_cons (entries : List (String × Node)) (locked : Bool) (name : String)
    (rest : List String) (hfits : fits name = true) : (dir entries locked).find (name :: rest) =
      match entries.lookup name with
      | some node => node.find rest
      | none => .error .notFound := by
  rw [find, hfits]
  rfl

lemma look_dir_cons (entries : List (String × Node)) (locked : Bool) (name : String)
    (rest : List String) : (dir entries locked).look (name :: rest) =
      if fits name then (entries.lookup name).bind (look rest) else none := by
  rw [look, find]
  cases fits name with
  | false => rfl
  | true =>
    cases entries.lookup name with
    | none => rfl
    | some node => rfl

lemma find_cons_eq_ok (h : node.find (name :: rest) = .ok inner) :
    ∃ entries locked next, node = dir entries locked ∧ fits name = true ∧
      entries.lookup name = some next ∧ next.find rest = .ok inner := by
  cases node with
  | file content executable => cases h
  | dir entries locked =>
    cases hfits : fits name with
    | false => simp [find, hfits] at h
    | true =>
      rw [find_dir_cons entries locked name rest hfits] at h
      cases hlookup : entries.lookup name with
      | none => rw [hlookup] at h; cases h
      | some next =>
        rw [hlookup] at h
        exact ⟨entries, locked, next, rfl, rfl, hlookup, h⟩

lemma look_cons_eq_some {kind : Kind} (h : node.look (name :: rest) = some kind) :
    ∃ entries locked next, node = dir entries locked ∧ fits name = true ∧
      entries.lookup name = some next ∧ next.look rest = some kind := by
  obtain ⟨inner, hfind, hkind⟩ := Option.map_eq_some_iff.mp h
  have hok : node.find (name :: rest) = .ok inner := by
    cases hresult : node.find (name :: rest) with
    | error e => rw [hresult] at hfind; cases hfind
    | ok found => rw [hresult] at hfind; exact congrArg Except.ok (Option.some.inj hfind)
  obtain ⟨entries, locked, next, rfl, hfits, hlookup, hnext⟩ := find_cons_eq_ok hok
  refine ⟨entries, locked, next, rfl, hfits, hlookup, ?_⟩
  rw [look, hnext, ← hkind]
  rfl

lemma look_of_append (h : node.look (parent ++ name :: rest) ≠ none) :
    node.look parent = some .dir := by
  induction parent generalizing node with
  | nil =>
    cases node with
    | file content executable => exact absurd rfl h
    | dir entries locked => rfl
  | cons first parent ih =>
    obtain ⟨kind, hkind⟩ := Option.ne_none_iff_exists'.mp h
    obtain ⟨entries, locked, next, rfl, hfits, hlookup, hnext⟩ := look_cons_eq_some hkind
    rw [look_dir_cons, if_pos hfits, hlookup]
    exact ih (Option.ne_none_iff_exists'.mpr ⟨kind, hnext⟩)

lemma look_withEntry (name : String) (entries : List (String × Node)) (locked : Bool)
    (new : Option Node) (hfits : fits name = true) (place : List String) :
    (withEntry name entries locked new).look place =
      if [name] <+: place then new.bind (look (place.drop 1))
      else (dir entries locked).look place := by
  have hentries : ∃ entries', withEntry name entries locked new = dir entries' locked ∧
      ∀ other, entries'.lookup other = if other = name then new else entries.lookup other := by
    cases new with
    | none => exact ⟨_, rfl, lookup_eraseEntry name entries⟩
    | some node => exact ⟨_, rfl, lookup_setEntry name node entries⟩
  obtain ⟨entries', hnew, hlookup⟩ := hentries
  rw [hnew]
  cases place with
  | nil => rfl
  | cons other rest =>
    rw [look_dir_cons, look_dir_cons, hlookup]
    by_cases ho : other = name
    · subst ho
      simp [hfits]
    · have hno : ¬ [name] <+: other :: rest := fun hp => ho (List.cons_prefix_cons.mp hp).1.symm
      rw [if_neg ho, if_neg hno]

lemma look_setEntry_dir (name : String) (node : Node) (entries : List (String × Node))
    (locked : Bool) (hfits : fits name = true) (place : List String) :
    (dir (setEntry name node entries) locked).look place =
      if [name] <+: place then node.look (place.drop 1) else (dir entries locked).look place :=
  look_withEntry name entries locked (some node) hfits place

lemma bind_allow_eq_ok {locked : Bool} {old new : Option Node}
    {result : Except FileError (Option Node)} (h : result >>= allow locked old = .ok new) :
    result = .ok new := by
  cases result with
  | error e => cases h
  | ok wanted =>
    simp only [bind, Except.bind, allow] at h
    split at h
    · cases h
    · exact h

lemma bind_allow_eq_error {locked : Bool} {old : Option Node} {e : FileError}
    {result : Except FileError (Option Node)} (h : result >>= allow locked old = .error e) :
    result = .error e ∨ e = .denied := by
  cases result with
  | error e' =>
    cases h
    exact Or.inl rfl
  | ok wanted =>
    simp only [bind, Except.bind, allow] at h
    split at h
    · cases h
      exact Or.inr rfl
    · cases h

lemma alter_singleton (hfits : fits name = true) (entries : List (String × Node)) (locked : Bool) :
    (dir entries locked).alter change [name] =
      (change (entries.lookup name) >>= allow locked (entries.lookup name)).map
        (withEntry name entries locked) := by
  rw [alter, hfits]
  rfl

lemma alter_cons (locked : Bool) (hrest : rest ≠ []) (hlookup : entries.lookup name = some inner) :
    (dir entries locked).alter change (name :: rest) =
      (inner.alter change rest).map fun inner' => dir (setEntry name inner' entries) locked := by
  rw [alter, hlookup]
  · dsimp only
    cases alter change rest inner <;> rfl
  · exact hrest

lemma alter_cons_eq_ok (h : node.alter change (name :: rest) = .ok node') :
    ∃ entries locked, node = dir entries locked ∧
      ((rest = [] ∧ ∃ new, change (entries.lookup name) = .ok new ∧
          allow locked (entries.lookup name) new = .ok new ∧
          node' = withEntry name entries locked new) ∨
        rest ≠ [] ∧ ∃ inner inner', entries.lookup name = some inner ∧
          inner.alter change rest = .ok inner' ∧
          node' = dir (setEntry name inner' entries) locked) := by
  cases node with
  | file content executable => cases rest <;> cases h
  | dir entries locked =>
    refine ⟨entries, locked, rfl, ?_⟩
    rcases eq_or_ne rest [] with rfl | hrest
    · cases hfits : fits name with
      | false => simp [alter, hfits] at h
      | true =>
        rw [alter_singleton hfits] at h
        cases hnew : change (entries.lookup name) >>= allow locked (entries.lookup name) with
        | error e => rw [hnew] at h; cases h
        | ok new =>
          rw [hnew] at h
          cases h
          have hchange := bind_allow_eq_ok hnew
          rw [hchange] at hnew
          exact Or.inl ⟨rfl, new, hchange, hnew, rfl⟩
    · cases hlookup : entries.lookup name with
      | none => rw [alter, hlookup] at h; cases h; exact hrest
      | some inner =>
        rw [alter_cons locked hrest hlookup] at h
        cases hinner : inner.alter change rest with
        | error e => rw [hinner] at h; cases h
        | ok inner' =>
          rw [hinner] at h
          cases h
          exact Or.inr ⟨hrest, inner, inner', rfl, hinner, rfl⟩

lemma alter_append (change : Option Node → Except FileError (Option Node)) (name : String)
    (hparent : node.look parent = some .dir) :
    fits name = false ∧ node.alter change (parent ++ [name]) = .error .nameTooLong ∨
    ∃ old locked build, (∀ rest, old.bind (look rest) = node.look (parent ++ name :: rest)) ∧
      node.alter change (parent ++ [name]) = (change old >>= allow locked old).map build ∧
      ∀ new place, (build new).look place =
        if parent ++ [name] <+: place then new.bind (look (place.drop (parent.length + 1)))
        else node.look place := by
  induction parent generalizing node with
  | nil =>
    cases node with
    | file content executable => cases hparent
    | dir entries locked =>
      cases hfits : fits name with
      | false =>
        refine Or.inl ⟨rfl, ?_⟩
        rw [List.nil_append, alter, hfits]
        rfl
      | true =>
        refine Or.inr ⟨entries.lookup name, locked, withEntry name entries locked, fun rest => ?_,
          alter_singleton hfits entries locked,
          fun new place => look_withEntry name entries locked new hfits place⟩
        rw [List.nil_append, look_dir_cons, if_pos hfits]
  | cons first parent ih =>
    obtain ⟨entries, locked, inner, rfl, hfirst, hlookup, hinner⟩ := look_cons_eq_some hparent
    have hrest : parent ++ [name] ≠ [] :=
      List.append_ne_nil_of_right_ne_nil parent (List.cons_ne_nil name [])
    rw [List.cons_append, alter_cons locked hrest hlookup]
    rcases ih hinner with ⟨hfits, hnext⟩ | ⟨old, inside, build, hold, hnext, hlook⟩
    · exact Or.inl ⟨hfits, by rw [hnext]; rfl⟩
    · refine Or.inr ⟨old, inside, fun new => dir (setEntry first (build new) entries) locked,
        fun rest => ?_, ?_, fun new place => ?_⟩
      · rw [hold, List.cons_append, look_dir_cons, if_pos hfirst, hlookup, Option.bind_some]
      · rw [hnext]
        cases change old >>= allow inside old <;> rfl
      · -- only places below `first` can have changed, and those as the inner node has
        rw [look_setEntry_dir _ _ _ _ hfirst]
        cases place with
        | nil => simp
        | cons other rest =>
          by_cases ho : other = first
          · subst ho
            simp [hlook, look_dir_cons, hfirst, hlookup]
          · simp [Ne.symm ho]

lemma look_of_alter (hfind : node.find (parent ++ [name]) = .error .notFound)
    (h : node.alter change (parent ++ [name]) = .ok node') : node.look parent = some .dir := by
  induction parent generalizing node node' with
  | nil =>
    cases node with
    | file content executable => cases h
    | dir entries locked => rfl
  | cons first parent ih =>
    obtain ⟨entries, locked, rfl, ⟨hnil, -⟩ | ⟨-, inner, inner', hlookup, hinner, -⟩⟩ :=
      alter_cons_eq_ok h
    · exact absurd hnil (by simp)
    · rw [List.cons_append, find, hlookup] at hfind
      rw [look_dir_cons, hlookup]
      cases hfits : fits first with
      | false => rw [hfits] at hfind; cases hfind
      | true =>
        rw [hfits] at hfind
        exact ih hfind hinner

section Stripping

lemma lookup_stripEntries {locked : Bool} {entries : List (String × Node)} {left : Node}
    (h : (stripEntries locked entries).lookup other = some left) :
    ∃ node, entries.lookup other = some node ∧ (left = node ∨ left = strip node) := by
  induction entries with
  | nil =>
    rw [stripEntries] at h
    cases h
  | cons entry entries ih =>
    obtain ⟨name, node⟩ := entry
    rw [stripEntries] at h
    rw [lookup_cons_eq_ite]
    split at h
    · rw [lookup_cons_eq_ite] at h
      split at h
      · cases h
        exact ⟨node, if_pos ‹_›, Or.inr rfl⟩
      · exact ⟨left, (if_neg ‹_›).trans h, Or.inl rfl⟩
    · rw [lookup_eraseEntry] at h
      split at h
      · cases h
      · obtain ⟨node, hnode, hleft⟩ := ih h
        exact ⟨node, (if_neg ‹_›).trans hnode, hleft⟩

lemma look_of_strip {kind : Kind} (h : (strip node).look place = some kind) :
    node.look place = some kind := by
  induction place generalizing node with
  | nil => cases node <;> exact h
  | cons name rest ih =>
    cases node with
    | file content executable => exact h
    | dir entries locked =>
      obtain ⟨stripped, inside, left, hstripped, hfits, hleft, hlook⟩ := look_cons_eq_some h
      rw [strip] at hstripped
      cases hstripped
      rw [look_dir_cons, if_pos hfits]
      obtain ⟨next, hnext, rfl | rfl⟩ := lookup_stripEntries hleft
      · rw [hnext]
        exact hlook
      · rw [hnext]
        exact ih hlook

end Stripping

end Node

namespace Tree

variable {t t' : Tree} {parent place : List String} {name : String} {content : Bytes}

def look (t : Tree) (place : List String) : Option Kind :=
  t.root.look place

lemma look_eq_dir_iff : t.look place = some .dir ↔
    ∃ entries locked, t.find place = .ok (.dir entries locked) := by
  rw [look, Node.look, find]
  cases Node.find place t.root with
  | error e => simp [Except.toOption]
  | ok node => cases node <;> simp [Except.toOption, Node.kind]

lemma look_eq_file_iff : t.look place = some (.file content) ↔
    ∃ executable, t.find place = .ok (.file content executable) := by
  rw [look, Node.look, find]
  cases Node.find place t.root with
  | error e => simp [Except.toOption]
  | ok node => cases node <;> simp [Except.toOption, Node.kind]

lemma look_eq_none_iff : t.look place = none ↔ ∃ e, t.find place = .error e := by
  rw [look, Node.look, find]
  cases Node.find place t.root with
  | error e => simp [Except.toOption]
  | ok node => simp [Except.toOption]

lemma isDir_iff : t.isDir place = true ↔ t.look place = some .dir := by
  rw [look, Node.look, isDir, find]
  cases Node.find place t.root with
  | error e => simp [Except.toOption]
  | ok node => cases node <;> simp [Except.toOption, Node.kind, Node.isDir]

lemma read_eq_ok_iff : t.read place = .ok content ↔ t.look place = some (.file content) := by
  rw [look_eq_file_iff, read]
  cases t.find place with
  | error e => simp [bind, Except.bind]
  | ok node => cases node <;> simp [bind, Except.bind, pure, Except.pure]

lemma look_append_eq_none (h : t.look place ≠ some .dir) (name : String) (rest : List String) :
    t.look (place ++ name :: rest) = none := by
  by_contra hne
  exact h (Node.look_of_append hne)

lemma alter_append (change : Option Node → Except FileError (Option Node)) (name : String)
    (hparent : t.look parent = some .dir) :
    t.alter (parent ++ [name]) change = .error .nameTooLong ∨
    ∃ old locked build, (∀ rest, old.bind (Node.look rest) = t.look (parent ++ name :: rest)) ∧
      t.alter (parent ++ [name]) change = (change old >>= Node.allow locked old).map build ∧
      ∀ new place, (build new).look place =
        if parent ++ [name] <+: place then new.bind (Node.look (place.drop (parent.length + 1)))
        else t.look place := by
  have hne : (parent ++ [name]).isEmpty = false := by simp
  rw [alter, hne, if_neg Bool.false_ne_true]
  rcases t.root.alter_append change name hparent with ⟨-, h⟩ | ⟨old, locked, build, hold, h, hlook⟩
  · exact Or.inl (by rw [h]; rfl)
  · refine Or.inr ⟨old, locked, fun new => ⟨build new⟩, hold, ?_, hlook⟩
    rw [h]
    cases change old >>= Node.allow locked old <;> rfl

lemma alter_append_ok {change : Option Node → Except FileError (Option Node)}
    (hparent : t.look parent = some .dir) (h : t.alter (parent ++ [name]) change = .ok t') :
    ∃ old new, (∀ rest, old.bind (Node.look rest) = t.look (parent ++ name :: rest)) ∧
      change old = .ok new ∧ ∀ place, t'.look place =
        if parent ++ [name] <+: place then new.bind (Node.look (place.drop (parent.length + 1)))
        else t.look place := by
  rcases alter_append change name hparent with he | ⟨old, locked, build, hold, he, hlook⟩
  · rw [he] at h
    cases h
  · rw [he] at h
    cases hnew : change old >>= Node.allow locked old with
    | error e => rw [hnew] at h; cases h
    | ok new =>
      rw [hnew] at h
      cases h
      exact ⟨old, new, hold, Node.bind_allow_eq_ok hnew, hlook new⟩

lemma alter_append_error {change : Option Node → Except FileError (Option Node)} {e : FileError}
    (hparent : t.look parent = some .dir) (h : t.alter (parent ++ [name]) change = .error e) :
    e = .nameTooLong ∨ e = .denied ∨
      ∃ old, old.bind (Node.look []) = t.look (parent ++ [name]) ∧ change old = .error e := by
  rcases alter_append change name hparent with he | ⟨old, locked, build, hold, he, -⟩
  · rw [he] at h
    cases h
    exact Or.inl rfl
  · rw [he] at h
    cases hnew : change old >>= Node.allow locked old with
    | ok new => rw [hnew] at h; cases h
    | error e' =>
      rw [hnew] at h
      cases h
      rcases Node.bind_allow_eq_error hnew with hchange | he
      · exact Or.inr (Or.inr ⟨old, hold [], hchange⟩)
      · exact Or.inr (Or.inl he)

lemma exists_alter {change : Option Node → Except FileError (Option Node)}
    (h : t.alter (parent ++ [name]) change = .ok t') :
    ∃ node, t.root.alter change (parent ++ [name]) = .ok node := by
  have hne : (parent ++ [name]).isEmpty = false := by simp
  rw [alter, hne, if_neg Bool.false_ne_true] at h
  cases hnode : t.root.alter change (parent ++ [name]) with
  | error e => rw [hnode] at h; cases h
  | ok node => exact ⟨node, rfl⟩

lemma look_leaf {kind : Kind} {leaf : Node}
    (hleaf : ∀ rest, leaf.look rest = if rest = [] then some kind else none)
    (hold : t.look (parent ++ [name]) ≠ some .dir)
    (hlook : ∀ place, t'.look place = if parent ++ [name] <+: place then
      leaf.look (place.drop (parent.length + 1)) else t.look place) (place : List String) :
    t'.look place = if place = parent ++ [name] then some kind else t.look place := by
  rw [hlook, hleaf]
  by_cases hp : parent ++ [name] <+: place
  · obtain ⟨rest, rfl⟩ := hp
    have hdrop : (parent ++ [name] ++ rest).drop (parent.length + 1) = rest := by simp
    rw [if_pos (List.prefix_append _ _), hdrop]
    cases rest with
    | nil => simp
    | cons next rest =>
      rw [if_neg (List.cons_ne_nil _ _), if_neg (by simp), look_append_eq_none hold]
  · have hne : place ≠ parent ++ [name] := by
      rintro rfl
      exact hp (List.prefix_refl _)
    rw [if_neg hp, if_neg hne]

lemma look_write (hparent : t.look parent = some .dir)
    (h : t.write (parent ++ [name]) content = .ok t') :
    t.look (parent ++ [name]) ≠ some .dir ∧
      ∀ place, t'.look place =
        if place = parent ++ [name] then some (.file content) else t.look place := by
  have hleaf : ∀ executable rest, (Node.file content executable).look rest =
      if rest = [] then some (.file content) else none := by
    intro executable rest
    cases rest <;> rfl
  obtain ⟨old, new, hold, hnew, hlook⟩ := alter_append_ok hparent h
  cases old with
  | none =>
    cases hnew
    have hnot : t.look (parent ++ [name]) ≠ some .dir := by rw [← hold []]; nofun
    exact ⟨hnot, look_leaf (hleaf false) hnot hlook⟩
  | some node =>
    cases node with
    | dir entries locked => cases hnew
    | file previous executable =>
      cases hnew
      have hnot : t.look (parent ++ [name]) ≠ some .dir := by rw [← hold []]; nofun
      exact ⟨hnot, look_leaf (hleaf executable) hnot hlook⟩

lemma look_createDir (hparent : t.look parent = some .dir)
    (h : t.createDir (parent ++ [name]) = .ok t') :
    t.look (parent ++ [name]) = none ∧
      ∀ place, t'.look place = if place = parent ++ [name] then some .dir else t.look place := by
  have hne : (parent ++ [name]).isEmpty = false := by simp
  rw [createDir, hne, if_neg Bool.false_ne_true] at h
  obtain ⟨old, new, hold, hnew, hlook⟩ := alter_append_ok hparent h
  cases old with
  | some node => cases hnew
  | none =>
    cases hnew
    have hleaf : ∀ rest, (Node.dir []).look rest = if rest = [] then some .dir else none := by
      intro rest
      cases rest with
      | nil => rfl
      | cons next rest => simp [Node.look_dir_cons]
    exact ⟨(hold []).symm, look_leaf hleaf (by rw [← hold []]; nofun) hlook⟩

lemma look_erased {change : Option Node → Except FileError (Option Node)}
    (hchange : ∀ old new, change old = .ok new → new = none) (hparent : t.look parent = some .dir)
    (h : t.alter (parent ++ [name]) change = .ok t') (place : List String) :
    t'.look place = if parent ++ [name] <+: place then none else t.look place := by
  obtain ⟨old, new, -, hnew, hlook⟩ := alter_append_ok hparent h
  obtain rfl := hchange old new hnew
  exact hlook place

lemma look_removeFile (hparent : t.look parent = some .dir)
    (h : t.removeFile (parent ++ [name]) = .ok t') (place : List String) :
    t'.look place = if parent ++ [name] <+: place then none else t.look place := by
  refine look_erased ?_ hparent h place
  rintro (_ | _ | _) new hnew <;> cases hnew
  rfl

lemma look_dropDir (hparent : t.look parent = some .dir)
    (h : t.dropDir (parent ++ [name]) = .ok t') (place : List String) :
    t'.look place = if parent ++ [name] <+: place then none else t.look place := by
  refine look_erased (fun old new hnew => ?_) hparent h place
  split at hnew <;> cases hnew
  rfl

lemma look_eq_none_of_stripDir (hparent : t.look parent = some .dir)
    (h : t.stripDir (parent ++ [name]) = .error .notFound) : t.look (parent ++ [name]) = none := by
  rcases alter_append_error hparent h with he | he | ⟨old, hold, hchange⟩
  · cases he
  · cases he
  · rw [← hold]
    cases old with
    | none => rfl
    | some node => cases node <;> cases hchange

lemma look_stripDir (hparent : t.look parent = some .dir)
    (h : t.stripDir (parent ++ [name]) = .ok t') :
    (∀ place, ¬ parent ++ [name] <+: place → t'.look place = t.look place) ∧
      ∀ place kind, t'.look place = some kind → t.look place = some kind := by
  obtain ⟨old, new, hold, hnew, hlook⟩ := alter_append_ok hparent h
  refine ⟨fun place hp => by rw [hlook, if_neg hp], fun place kind hkind => ?_⟩
  rw [hlook] at hkind
  split at hkind
  · rename_i hp
    obtain ⟨rest, rfl⟩ := hp
    have hdrop : (parent ++ [name] ++ rest).drop (parent.length + 1) = rest := by simp
    rw [hdrop] at hkind
    rw [List.append_assoc, List.singleton_append, ← hold]
    cases old with
    | none => cases hnew
    | some node =>
      cases node with
      | file content executable => cases hnew
      | dir entries locked =>
        cases hnew
        exact Node.look_of_strip hkind
  · exact hkind

lemma dropDir_ne_notFound (hparent : t.look parent = some .dir) :
    t.dropDir (parent ++ [name]) ≠ .error .notFound := by
  intro h
  rcases alter_append_error hparent h with he | he | ⟨old, -, hchange⟩
  · cases he
  · cases he
  · split at hchange <;> cases hchange

lemma removeDir_cases (name : String) (hparent : t.look parent = some .dir) :
    (∃ t', t.removeDir (parent ++ [name]) = (none, t') ∧ ∀ place, t'.look place =
      if parent ++ [name] <+: place then none else t.look place) ∨
    (t.removeDir (parent ++ [name]) = (some .notFound, t) ∧ t.look (parent ++ [name]) = none) ∨
    ∃ e t', e ≠ .notFound ∧ t.removeDir (parent ++ [name]) = (some e, t') ∧
      (∀ place, ¬ parent ++ [name] <+: place → t'.look place = t.look place) ∧
      ∀ place kind, t'.look place = some kind → t.look place = some kind := by
  rw [removeDir]
  cases hstrip : t.stripDir (parent ++ [name]) with
  | error e =>
    by_cases hfound : e = .notFound
    · subst hfound
      exact Or.inr (Or.inl ⟨rfl, look_eq_none_of_stripDir hparent hstrip⟩)
    · exact Or.inr (Or.inr ⟨e, t, hfound, rfl, fun _ _ => rfl, fun _ _ h => h⟩)
  | ok t₁ =>
    obtain ⟨houtside, hseen⟩ := look_stripDir hparent hstrip
    have hparent₁ : t₁.look parent = some .dir := by
      rw [houtside parent fun hp => absurd hp.length_le (by simp), hparent]
    dsimp only
    cases hdrop : t₁.dropDir (parent ++ [name]) with
    | error e =>
      refine Or.inr (Or.inr ⟨e, t₁, ?_, rfl, houtside, hseen⟩)
      rintro rfl
      exact dropDir_ne_notFound hparent₁ hdrop
    | ok t₂ =>
      refine Or.inl ⟨t₂, rfl, fun place => ?_⟩
      rw [look_dropDir hparent₁ hdrop]
      split
      · rfl
      · exact houtside place ‹_›

lemma look_parent_of_createDir (hfind : t.find (parent ++ [name]) = .error .notFound)
    (h : t.createDir (parent ++ [name]) = .ok t') : t.look parent = some .dir := by
  have hne : (parent ++ [name]).isEmpty = false := by simp
  rw [createDir, hne, if_neg Bool.false_ne_true] at h
  obtain ⟨node, hnode⟩ := exists_alter h
  exact Node.look_of_alter hfind hnode

end Tree

end ClassBatch.Files
