import ClassBatch.Proofs.Files.Subtrees

/-! Locked directories. Only what stands below one can keep a directory from being removed, and what is
made anew is never locked. -/

namespace ClassBatch.Files

open Text (Bytes)

namespace Node

variable {name : String} {node node' : Node} {place : List String} {entries : List (String × Node)}
  {change : Option Node → Except FileError (Option Node)}

def isLocked : Node → Bool
  | dir _ locked => locked
  | file .. => false

mutual

/-- No directory with something in it is locked. -/
def Loose : Node → Prop
  | file .. => True
  | dir entries locked => (locked = true → entries = []) ∧ EntriesLoose entries

def EntriesLoose : List (String × Node) → Prop
  | [] => True
  | (_, node) :: rest => Loose node ∧ EntriesLoose rest

end

mutual

lemma isFilled_strip_of_loose : (node : Node) → Loose node → (strip node).isFilled = false
  | file .., _ => rfl
  | dir [] _, _ => rfl
  | dir (entry :: entries) locked, h => by
    have hlocked : locked = false := by
      cases locked with
      | false => rfl
      | true => exact absurd (h.1 rfl) (List.cons_ne_nil _ _)
    rw [strip, hlocked, stripEntries_of_loose _ h.2]
    rfl

lemma stripEntries_of_loose : (entries : List (String × Node)) → EntriesLoose entries →
    stripEntries false entries = []
  | [], _ => rfl
  | (name, node) :: rest, h => by
    rw [stripEntries, isFilled_strip_of_loose node h.1, stripEntries_of_loose rest h.2]
    rfl

end

lemma entriesLoose_iff : EntriesLoose entries ↔ ∀ entry ∈ entries, Loose entry.2 := by
  induction entries with
  | nil => simp [EntriesLoose]
  | cons entry entries ih => simp [EntriesLoose, ih]

lemma loose_of_lookup (h : EntriesLoose entries) (hlookup : entries.lookup name = some node) :
    Loose node := by
  obtain ⟨before, after, rfl, -⟩ := List.lookup_eq_some_iff.mp hlookup
  exact entriesLoose_iff.mp h (name, node) (by simp)

lemma entriesLoose_setEntry (h : EntriesLoose entries) (hnode : Loose node) :
    EntriesLoose (setEntry name node entries) := by
  induction entries with
  | nil => exact ⟨hnode, trivial⟩
  | cons entry entries ih =>
    rw [setEntry]
    split
    · exact ⟨hnode, h.2⟩
    · exact ⟨h.1, ih h.2⟩

def Loosens (change : Option Node → Except FileError (Option Node)) : Prop :=
  ∀ old new, (∀ node, old = some node → Loose node) → change old = .ok (some new) → Loose new

lemma loose_withEntry {locked : Bool} {new : Option Node} (h : Loose (dir entries locked))
    (hallow : allow locked (entries.lookup name) new = .ok new)
    (hnew : ∀ node, new = some node → Loose node) : Loose (withEntry name entries locked new) := by
  cases new with
  | none =>
    refine ⟨fun hlocked => ?_, entriesLoose_iff.mpr fun entry hentry => ?_⟩
    · rw [h.1 hlocked]
      rfl
    · exact entriesLoose_iff.mp h.2 entry (List.mem_of_mem_filter hentry)
  | some node =>
    refine ⟨fun hlocked => ?_, entriesLoose_setEntry h.2 (hnew node rfl)⟩
    rw [hlocked, h.1 hlocked] at hallow
    cases hallow

lemma loose_alter (hchange : Loosens change) (h : Loose node)
    (halter : node.alter change place = .ok node') : Loose node' := by
  induction place generalizing node node' with
  | nil =>
    cases halter
    exact h
  | cons name rest ih =>
    obtain ⟨entries, locked, rfl, ⟨rfl, new, hnew, hallow, rfl⟩ |
      ⟨-, inner, inner', hlookup, hinner, rfl⟩⟩ := alter_cons_eq_ok halter
    · refine loose_withEntry h hallow fun node hsome => ?_
      exact hchange _ _ (fun old hold => loose_of_lookup h.2 hold) (hsome ▸ hnew)
    · have hinner' := ih (loose_of_lookup h.2 hlookup) hinner
      refine ⟨fun hlocked => ?_, entriesLoose_setEntry h.2 hinner'⟩
      rw [h.1 hlocked] at hlookup
      cases hlookup

end Node

namespace Tree

variable {t t' : Tree} {place other inner rest : List String}
  {change : Option Node → Except FileError (Option Node)}

def isLocked (t : Tree) (place : List String) : Bool :=
  (t.find place).toOption.any Node.isLocked

def Loose (t : Tree) (place : List String) : Prop :=
  ∀ node, t.find place = .ok node → node.Loose

lemma isLocked_alter (h : t.alter place change = .ok t') (hother : ¬ place <+: other) :
    t'.isLocked other = t.isLocked other := by
  have hview : (t'.find other).toOption.map Node.isLocked = (t.find other).toOption.map Node.isLocked :=
    Node.map_find_alter (fun _ _ _ => rfl) (alter_eq_ok h) hother
  have hany := congrArg (Option.any id) hview
  rwa [Option.any_map, Option.any_map] at hany

lemma exists_entries_iff : (∃ entries, t.find place = .ok (.dir entries)) ↔
    t.look place = some .dir ∧ t.isLocked place = false := by
  rw [look_eq_dir_iff, isLocked]
  constructor
  · rintro ⟨entries, hfind⟩
    rw [hfind]
    exact ⟨⟨entries, false, rfl⟩, rfl⟩
  · rintro ⟨⟨entries, locked, hfind⟩, hlocked⟩
    rw [hfind] at hlocked
    obtain rfl : locked = false := hlocked
    exact ⟨entries, hfind⟩

lemma loose_alter (hchange : Node.Loosens change) (h : t.Loose inner)
    (hdir : t.look inner = some .dir) (hrest : rest ≠ [])
    (halter : t.alter (inner ++ rest) change = .ok t') : t'.Loose inner := by
  obtain ⟨entries, locked, hfind⟩ := look_eq_dir_iff.mp hdir
  obtain ⟨build, hbelow, hbuild⟩ := alter_below change hfind hrest
  rw [halter] at hbelow
  cases hinner : (Node.dir entries locked).alter change rest with
  | error e => rw [hinner] at hbelow; cases hbelow
  | ok node =>
    rw [hinner] at hbelow
    cases hbelow
    intro found hfound
    rw [hbuild] at hfound
    cases hfound
    exact Node.loose_alter hchange (h _ hfind) hinner

end Tree

structure Tree.Yields (outer inner : List String) (t : Tree) : Prop where
  unlocked : t.isLocked outer = false
  loose : t.Loose inner
  dir : t.look inner = some .dir

namespace Tree.Yields

variable {t t' : Tree} {outer inner rest : List String} {content : Bytes}
  {change : Option Node → Except FileError (Option Node)} (h : Yields outer inner t)
  (houter : outer <+: inner) (hrest : rest ≠ [])

include h houter hrest

lemma alter (hchange : Node.Loosens change) (halter : t.alter (inner ++ rest) change = .ok t') :
    Yields outer inner t' := by
  have hinner : ¬ inner ++ rest <+: inner := fun hp => by
    have hlength := hp.length_le
    rw [List.length_append] at hlength
    exact hrest (List.eq_nil_of_length_eq_zero (by omega))
  refine ⟨?_, Tree.loose_alter hchange h.loose h.dir hrest halter, ?_⟩
  · rw [Tree.isLocked_alter halter fun hp => hinner (hp.trans houter), h.unlocked]
  · rw [Tree.look_alter halter hinner, h.dir]

lemma createDir (hcreate : t.createDir (inner ++ rest) = .ok t') : Yields outer inner t' := by
  have hempty : (inner ++ rest).isEmpty = false :=
    List.isEmpty_eq_false_iff.mpr (List.append_ne_nil_of_right_ne_nil inner hrest)
  rw [Tree.createDir, hempty, if_neg Bool.false_ne_true] at hcreate
  refine h.alter houter hrest (fun old new _ hnew => ?_) hcreate
  cases old <;> cases hnew
  exact ⟨fun _ => rfl, trivial⟩

lemma write (hwrite : t.write (inner ++ rest) content = .ok t') : Yields outer inner t' := by
  refine h.alter houter hrest (fun old new _ hnew => ?_) hwrite
  rcases old with _ | ⟨_ | _⟩ <;> cases hnew <;> trivial

end Tree.Yields

end ClassBatch.Files
