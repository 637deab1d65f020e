import ClassBatch.Proofs.Tool.Emptying

/-! Calls of one Fernflower instance, one after another. Each call fills its directories by its
class alone, so it ends as it would with an instance that was never used. -/

namespace ClassBatch.Tool

open Files Files.Disk Files.Path

def Launch.Agree (path : String) : Launch → Launch → Prop
  | .refused _, .refused _ => True
  | .stopped _, .stopped _ => True
  | .finished result d, .finished result' d' => result = result' ∧ d.node path = d'.node path
  | _, _ => False

lemma Java.run_agree {launcher : Launcher} {program path : String} {arguments : List String}
    {cancelled : Option Nat} {d d' : Disk} (label : String)
    (h : (launcher ⟨program, arguments, cancelled.map fun c => interval * roundAt c⟩ d).Agree path
      (launcher ⟨program, arguments, cancelled.map fun c => interval * roundAt c⟩ d')) :
    ∃ result d₁ d₁', run launcher program arguments cancelled label d = (result, d₁) ∧
      run launcher program arguments cancelled label d' = (result, d₁') ∧
      ∀ output, result = .ok output → d₁'.node path = d₁.node path := by
  rw [run, run]
  generalize launcher ⟨program, arguments, cancelled.map fun c => interval * roundAt c⟩ d = launch
    at h ⊢
  generalize launcher ⟨program, arguments, cancelled.map fun c => interval * roundAt c⟩ d' = launch'
    at h ⊢
  have herror : ∀ {cause : DecompileError} {output : Output},
      (Except.error cause : Except DecompileError Output) ≠ .ok output := by simp
  cases launch with
  | refused cause =>
    cases launch' with
    | refused cause' => exact ⟨_, d, d', rfl, rfl, fun _ hok => absurd hok herror⟩
    | _ => exact h.elim
  | stopped d₁ =>
    cases launch' with
    | stopped d₁' => exact ⟨_, d₁, d₁', rfl, rfl, fun _ hok => absurd hok herror⟩
    | _ => exact h.elim
  | finished result d₁ =>
    cases launch' with
    | finished result' d₁' =>
      obtain ⟨rfl, hnode⟩ := h
      dsimp only
      cases (watch (rounds (some (result.status, result.millis)) cancelled)).2 with
      | none => exact ⟨_, d₁, d₁', rfl, rfl, fun _ hok => absurd hok herror⟩
      | some verdict =>
        cases verdict with
        | exited status => exact ⟨_, d₁, d₁', rfl, rfl, fun _ _ => hnode.symm⟩
        | _ => exact ⟨_, d₁, d₁', rfl, rfl, fun _ hok => absurd hok herror⟩
    | _ => exact h.elim

namespace Fernflower

/-- For an instance, Java does what its arguments and the contents of the two directories make it
do, and in the scratch directory it changes nothing but what is below the output directory. -/
structure Tame (t : Fernflower) (launcher : Launcher) : Prop where
  same : ∀ limit d d' input output, d.node t.input = .ok input → d'.node t.input = .ok input →
    d.node t.output = .ok output → d'.node t.output = .ok output →
    (launcher ⟨t.java, t.arguments, limit⟩ d).Agree t.output
      (launcher ⟨t.java, t.arguments, limit⟩ d')
  kept : ∀ limit d d' scratch, (launcher ⟨t.java, t.arguments, limit⟩ d).disk? = some d' →
    d.locate t.scratch = .ok scratch → d.tree.look scratch = some .dir →
    d'.here = d.here ∧ d'.locate t.scratch = .ok scratch ∧
      d'.tree.find (scratch ++ ["in"]) = d.tree.find (scratch ++ ["in"]) ∧
      ∀ place, scratch <+: place → ¬ Below (scratch ++ ["out"]) place →
        d'.tree.look place = d.tree.look place ∧ d'.tree.isLocked place = d.tree.isLocked place

def after (t : Fernflower) (launcher : Launcher) (calls : List (String × Option Nat)) (d : Disk) :
    Disk :=
  calls.foldl (fun d call => (t.decompile launcher call.2 call.1 d).2) d

/-- Two disks differ in the scratch directory at most. -/
structure Beside (t : Fernflower) (d d' : Disk) : Prop where
  here : d'.here = d.here
  look : ∀ scratch, d.locate t.scratch = .ok scratch →
    ∀ place, ¬ scratch <+: place → d'.tree.look place = d.tree.look place

variable {t : Fernflower} {launcher : Launcher} {d d' d₁ d₂ : Disk} {scratch place : List String}
  {path leaf name : String} {members : List (String × Text.Bytes)}

section Filling

structure Alike (scratch : List String) (d d' : Disk) : Prop where
  here : d'.here = d.here
  input : Shares (scratch ++ ["in"]) d d'
  output : d.tree.find (scratch ++ ["out"]) = .ok (.dir []) ∧
    d'.tree.find (scratch ++ ["out"]) = .ok (.dir [])

def Twin {α : Type} (scratch : List String) (outcome outcome' : α × Disk) : Prop :=
  ∃ result d d', outcome = (result, d) ∧ outcome' = (result, d') ∧ Alike scratch d d'

lemma apart_of_input (h : scratch ++ ["in"] <+: place) :
    ¬ place <+: scratch ++ ["out"] ∧ ¬ scratch ++ ["out"] <+: place := by
  have hapart : ¬ scratch ++ ["in"] <+: scratch ++ ["out"] :=
    fun hp => absurd (leaf_eq_of_within hp) (by decide)
  exact ⟨fun hp => hapart (h.trans hp),
    fun hp => hapart (List.prefix_of_prefix_length_le h hp (by simp))⟩

variable {names : List String} (h : Ready t scratch d) (h' : Ready t scratch d')
  (ha : Alike scratch d d')
  (hpath : components path.toList = components t.input.toList ++ names.map named)

include h h' ha hpath

lemma createDirs_alike : Twin scratch (d.createDirs path) (d'.createDirs path) := by
  have halong : ∀ {d₁ : Disk}, Ready t scratch d₁ →
      d₁.createAlong d₁.here (components path.toList) =
        d₁.createAlong (scratch ++ ["in"] ++ []) (names.map named) := by
    intro d₁ h₁
    rw [createAlong_ready h₁ hpath, List.append_nil]
  have hhere : ∀ d₁ : Disk,
      (d₁.createAlong (scratch ++ ["in"] ++ []) (names.map named)).2.here = d₁.here := fun d₁ =>
    (createAlong_grows (treads_of_forall (fun _ => Or.inl trivial) _ _) :
      Grows (fun _ => True) d₁ _).here
  have hout : ∀ d₁ : Disk,
      (d₁.createAlong (scratch ++ ["in"] ++ []) (names.map named)).2.tree.find
        (scratch ++ ["out"]) = d₁.tree.find (scratch ++ ["out"]) := by
    intro d₁
    apply createAlong_find
    rw [List.append_nil]
    have hbelow := treads_named (p := (scratch ++ ["in"] <+: ·)) (scratch ++ ["in"]) names
      fun first _ _ _ => List.prefix_append _ first
    exact fun entered hentered => apart_of_input (treads_iff.mp hbelow entered hentered)
  rw [createDirs, createDirs]
  split_ifs
  · exact ⟨_, d, d', rfl, rfl, ha⟩
  · exact ⟨_, d, d', rfl, rfl, ha⟩
  · rw [halong h, halong h']
    obtain ⟨hresult, hshares⟩ := ha.input.createAlong [] names
    refine ⟨_, _, (d'.createAlong (scratch ++ ["in"] ++ []) (names.map named)).2, rfl,
      Prod.ext hresult rfl, ?_, hshares, ?_, ?_⟩
    · rw [hhere, hhere, ha.here]
    · rw [hout, ha.output.1]
    · rw [hout, ha.output.2]

lemma locate_alike : d'.locate path = d.locate path := by
  apply locate_congr ha.here
  intro other hother
  rw [hpath, trail_append, List.mem_append, h.land_input] at hother
  rcases hother with hway | hbelow
  · have hway' : other ∈ trail d'.here (components t.input.toList) := by rwa [ha.here]
    rw [Tree.map_kind_find_of_dir (treads_iff.mp h.treads_input other hway),
      Tree.map_kind_find_of_dir (treads_iff.mp h'.treads_input other hway')]
  · have hnamed := treads_named (p := (scratch ++ ["in"] <+: ·)) (scratch ++ ["in"]) names
      fun first _ _ _ => List.prefix_append _ first
    obtain ⟨rest, rfl⟩ := treads_iff.mp hnamed other hbelow
    rw [ha.input.find_eq]

lemma write_alike (hne : names ≠ []) (data : Text.Bytes) :
    (∃ e, d.write path data = .error e ∧ d'.write path data = .error e) ∨
    ∃ d₁ d₁', d.write path data = .ok d₁ ∧ d'.write path data = .ok d₁' ∧
      Alike scratch d₁ d₁' := by
  have hland : ∀ {d₁ : Disk}, Ready t scratch d₁ →
      land d₁.here (components path.toList) = scratch ++ ["in"] ++ names := by
    intro d₁ h₁
    rw [hpath, land_append, h₁.land_input, land_named]
  have hout : ∀ {d₁ d₂ : Disk}, Ready t scratch d₁ → d₁.write path data = .ok d₂ →
      d₂.here = d₁.here ∧
        d₂.tree.find (scratch ++ ["out"]) = d₁.tree.find (scratch ++ ["out"]) := by
    intro d₁ d₂ h₁ hwrite
    have hapart : ¬ land d₁.here (components path.toList) <+: scratch ++ ["out"] ∧
        ¬ scratch ++ ["out"] <+: land d₁.here (components path.toList) := by
      rw [hland h₁]
      exact apart_of_input (List.prefix_append _ _)
    refine ⟨?_, write_find hwrite hapart.1 hapart.2⟩
    obtain ⟨tree, -, rfl⟩ := write_eq_ok hwrite
    rfl
  have hplace : ∀ place, d.locate path = .ok place →
      ∃ rest, rest ≠ [] ∧ place = scratch ++ ["in"] ++ rest := by
    intro place hlocate
    exact ⟨names, hne, by rw [(locate_eq_ok hlocate).2, hland h]⟩
  rcases ha.input.write data (locate_alike h h' ha hpath) hplace with
    herror | ⟨d₁, d₁', hwrite, hwrite', hshares⟩
  · exact Or.inl herror
  · obtain ⟨hhere, hfind⟩ := hout h hwrite
    obtain ⟨hhere', hfind'⟩ := hout h' hwrite'
    refine Or.inr ⟨d₁, d₁', hwrite, hwrite', ?_, hshares, ?_, ?_⟩
    · rw [hhere, hhere', ha.here]
    · rw [hfind, ha.output.1]
    · rw [hfind', ha.output.2]

end Filling

lemma writeMember_alike {entry : String} (h : Ready t scratch d) (h' : Ready t scratch d')
    (ha : Alike scratch d d') (hentry : Catalog.isContained entry = true) (data : Text.Bytes) :
    Twin scratch (writeMember t.input (entry, data) d)
      (writeMember t.input (entry, data) d') := by
  have hplain := Catalog.plain_of_isContained hentry
  have hparent := components_parent_join (input_getLast? t) (by decide) (by decide) hplain
  have htarget := components_join t.input hplain
  rw [writeMember, writeMember, isWithin_of_isContained t.input hentry]
  dsimp only
  rw [Bool.not_true, if_neg Bool.false_ne_true, if_neg Bool.false_ne_true]
  generalize (parent? (join t.input entry)).getD "" = parent at hparent
  have hready := createDirs_ready h parent
  have hready' := createDirs_ready h' parent
  obtain ⟨result, d₁, d₁', hc, hc', ha₁⟩ := createDirs_alike h h' ha hparent
  rw [hc] at hready ⊢
  rw [hc'] at hready' ⊢
  cases result with
  | some e => exact ⟨_, d₁, d₁', rfl, rfl, ha₁⟩
  | none =>
    dsimp only
    rcases write_alike hready hready' ha₁ htarget (names_ne_nil entry) data with
      ⟨e, he, he'⟩ | ⟨d₂, d₂', he, he', ha₂⟩
    · rw [he, he']
      exact ⟨_, d₁, d₁', rfl, rfl, ha₁⟩
    · rw [he, he']
      exact ⟨_, d₂, d₂', rfl, rfl, ha₂⟩

lemma writeFamily_alike (h : Ready t scratch d) (h' : Ready t scratch d')
    (ha : Alike scratch d d') (hall : ∀ member ∈ members, Catalog.isContained member.1 = true) :
    Twin scratch (writeFamily t.input members d) (writeFamily t.input members d') := by
  induction members generalizing d d' with
  | nil => exact ⟨_, d, d', rfl, rfl, ha⟩
  | cons member members ih =>
    rw [List.forall_mem_cons] at hall
    have hready := writeMember_ready h hall.1 member.2
    have hready' := writeMember_ready h' hall.1 member.2
    obtain ⟨result, d₁, d₁', hw, hw', ha₁⟩ := writeMember_alike h h' ha hall.1 member.2
    rw [hw] at hready
    rw [hw'] at hready'
    rw [writeFamily, writeFamily, hw, hw']
    cases result with
    | error e => exact ⟨_, d₁, d₁', rfl, rfl, ha₁⟩
    | ok _ => exact ih hready hready' ha₁ hall.2

section Calling

variable (h : Usable t scratch d) (h' : Usable t scratch d') (hhere : d'.here = d.here)
  (hlook : ∀ place, ¬ Below scratch place → d'.tree.look place = d.tree.look place)

include h h' hhere hlook

lemma Cleared.readFamily_eq (hc : Cleared scratch d d₁) (hc' : Cleared scratch d' d₂)
    (classJar name : String) :
    Catalog.readFamily d₂ classJar name = Catalog.readFamily d₁ classJar name := by
  have hread : d₂.read classJar = d₁.read classJar := by
    apply read_congr
    · rw [hc'.here, hc.here, hhere]
    · exact Cleared.look_eq h h' hc hc' hlook
  rw [Catalog.readFamily, Catalog.readFamily, Catalog.openJar, Catalog.openJar, hread]

variable (hfree : (d.removeDir t.output).1 ≠ some .denied)
  (hfree' : (d'.removeDir t.output).1 ≠ some .denied)

include hfree hfree'

lemma prepare_alike (name : String) : ∃ result d₁ d₁', t.prepare name d = (result, d₁) ∧
    t.prepare name d' = (result, d₁') ∧
    (result = .ok () → fault? t.input = none ∧ fault? t.output = none ∧
      Alike scratch d₁ d₁') := by
  have hcases := h.prepare_cases name
  have hcases' := h'.prepare_cases name
  rw [ne_eq, h.removeDir_eq_denied_iff, not_and] at hfree
  rw [ne_eq, h'.removeDir_eq_denied_iff, not_and] at hfree'
  cases hin : fault? t.input with
  | some e =>
    simp only [hin] at hcases hcases'
    exact ⟨_, d, d', hcases, hcases', nofun⟩
  | none =>
    cases hout : fault? t.output with
    | some e =>
      simp only [hin, hout] at hcases hcases'
      obtain ⟨d₁, -, he⟩ := hcases
      obtain ⟨d₁', -, he'⟩ := hcases'
      exact ⟨_, d₁, d₁', he, he', nofun⟩
    | none =>
      simp only [hin, hout] at hcases hcases'
      obtain ⟨-, d₂, hc, h₂, he⟩ := hcases.resolve_left fun hstuck => hfree hout hstuck.1
      obtain ⟨-, d₂', hc', h₂', he'⟩ := hcases'.resolve_left fun hstuck => hfree' hout hstuck.1
      rw [Cleared.readFamily_eq h h' hhere hlook hc hc' t.classJar name] at he'
      rw [he, he']
      cases hfamily : Catalog.readFamily d₂ t.classJar name with
      | error e => exact ⟨_, d₂, d₂', rfl, rfl, nofun⟩
      | ok family =>
        cases family with
        | nil => exact ⟨_, d₂, d₂', rfl, rfl, nofun⟩
        | cons member family =>
          have ha : Alike scratch d₂ d₂' := by
            refine ⟨?_, ⟨.dir [], hc.input, hc'.input⟩, hc.output, hc'.output⟩
            rw [hc.here, hc'.here, hhere]
          obtain ⟨result, d₃, d₃', hw, hw', ha'⟩ := writeFamily_alike (hc.ready h₂)
            (hc'.ready h₂') ha (contained_of_readFamily hfamily)
          exact ⟨result, d₃, d₃', hw, hw', fun _ => ⟨rfl, rfl, ha'⟩⟩

lemma decompile_alike (htame : Tame t launcher) (cancelled : Option Nat) (name : String) :
    (t.decompile launcher cancelled name d').1 = (t.decompile launcher cancelled name d).1 := by
  obtain ⟨result, d₁, d₁', hp, hp', hok⟩ := prepare_alike h h' hhere hlook hfree hfree' name
  have husable := h.prepare name
  have husable' := h'.prepare name
  rw [hp] at husable
  rw [hp'] at husable'
  rw [decompile, decompile, hp, hp']
  cases result with
  | error e => rfl
  | ok _ =>
    obtain ⟨hin, hout, ha⟩ := hok rfl
    obtain ⟨input, hfind, hfind'⟩ := ha.input
    have hinput := components_in t
    have houtput := components_out t
    cases input with
    | file content executable =>
      have hfile : d₁.tree.look (scratch ++ ["in"]) = some (.file content) :=
        Tree.look_eq_file_iff.mpr ⟨executable, hfind⟩
      exact absurd hfile (husable.clear "in" (by decide) content)
    | dir entries locked =>
      have hagree := htame.same (cancelled.map fun c => Java.interval * Java.roundAt c) d₁ d₁' _ _
        (node_of_dir (husable.locate_leaf hinput hin) hfind)
        (node_of_dir (husable'.locate_leaf hinput hin) hfind')
        (node_of_dir (husable.locate_leaf houtput hout) ha.output.1)
        (node_of_dir (husable'.locate_leaf houtput hout) ha.output.2)
      obtain ⟨output, d₂, d₂', hj, hj', hnode⟩ := Java.run_agree name hagree
      dsimp only
      rw [hj, hj']
      cases output with
      | error e => rfl
      | ok output =>
        have hsource : t.readSource name d₂' = t.readSource name d₂ := by
          rw [readSource, readSource, hnode output rfl]
        dsimp only
        rw [hsource]

end Calling

lemma Usable.decompile_of_denied (h : Usable t scratch d)
    (hdenied : (d.removeDir t.output).1 = some .denied) (cancelled : Option Nat) (name : String) :
    (t.decompile launcher cancelled name d).1 = .error (ioError .denied) := by
  obtain ⟨hout, hstuck⟩ := h.removeDir_eq_denied_iff.mp hdenied
  have hcases := h.prepare_cases name
  simp only [fault?_input hout, hout, hstuck, true_and, not_true_eq_false, false_and,
    or_false] at hcases
  obtain ⟨d₁, -, he⟩ := hcases
  rw [Fernflower.decompile, he]

lemma Usable.not_denied (h : Usable t scratch d)
    (hloose : ∀ node, d.node t.output = .ok node → node.Loose) :
    (d.removeDir t.output).1 ≠ some .denied := by
  intro hdenied
  obtain ⟨hout, node, hfind, hstuck⟩ := h.removeDir_eq_denied_iff.mp hdenied
  cases node with
  | file content executable => cases hstuck
  | dir entries locked =>
    have hnode := node_of_dir (h.locate_leaf (components_out t) hout) hfind
    rw [Node.isFilled_strip_of_loose _ (hloose _ hnode)] at hstuck
    cases hstuck

lemma New.not_denied (hnew : New t d) (h : Usable t scratch d) :
    (d.removeDir t.output).1 ≠ some .denied := by
  refine h.not_denied fun node hnode => ?_
  obtain ⟨place, hplace, hfind⟩ := node_eq_ok hnode
  obtain ⟨scratch', hplace', hfind'⟩ := node_eq_ok hnew
  obtain rfl : scratch' = scratch := Except.ok.inj (hplace'.symm.trans h.locate)
  have hland : place = scratch' ++ ["out"] := by
    rw [(locate_eq_ok hplace).2, components_out, land_append, h.land]
    rfl
  rw [hland, Tree.find_append hfind', Node.find_dir_cons _ _ _ _ (fits_leaf (by decide))] at hfind
  cases hfind

lemma Tame.usable (htame : Tame t launcher) {limit : Option Nat} (h : Usable t scratch d)
    (hd : (launcher ⟨t.java, t.arguments, limit⟩ d).disk? = some d') : Usable t scratch d' := by
  obtain ⟨hhere, hlocate, hinput, hkept⟩ := htame.kept limit d d' scratch hd h.locate h.dir
  have hout : ∀ {place}, ¬ Inside scratch place → ¬ Below (scratch ++ ["out"]) place :=
    fun hnot hbelow => hnot (Or.inr hbelow.1)
  have hself := hkept scratch (List.prefix_refl _) fun hp => (below_of_within hp.1).2 rfl
  refine ⟨hlocate, ?_, ?_, ?_, hhere ▸ h.apart, ?_, ?_⟩
  · rw [hself.1, h.dir]
  · rw [hself.2, h.unlocked]
  · rw [Tree.Loose, hinput]
    exact h.loose
  · intro place hbelow hthere
    by_contra hnot
    rw [(hkept place hbelow.1 (hout hnot)).1] at hthere
    exact hnot (h.held place hbelow hthere)
  · intro leaf hleaf content
    have hself : ¬ Below (scratch ++ ["out"]) (scratch ++ [leaf]) := by
      rintro ⟨hwithin, hne⟩
      rw [leaf_eq_of_within hwithin] at hne
      exact hne rfl
    rw [(hkept _ (List.prefix_append _ _) hself).1]
    exact h.clear leaf hleaf content

lemma Usable.decompile (htame : Tame t launcher) (h : Usable t scratch d)
    (cancelled : Option Nat) (name : String) :
    Usable t scratch (t.decompile launcher cancelled name d).2 := by
  have hprepare := h.prepare name
  rw [Fernflower.decompile]
  rcases hp : t.prepare name d with ⟨result, d₁⟩
  rw [hp] at hprepare
  cases result with
  | error e => exact hprepare
  | ok _ =>
    dsimp only at hprepare ⊢
    rw [Java.run]
    cases hl : launcher ⟨t.java, t.arguments,
        cancelled.map fun c => Java.interval * Java.roundAt c⟩ d₁ with
    | refused cause => exact hprepare
    | stopped d₂ => exact htame.usable hprepare (by rw [hl]; rfl)
    | finished result d₂ =>
      have h₂ : Usable t scratch d₂ := htame.usable hprepare (by rw [hl]; rfl)
      dsimp only
      split <;> exact h₂

lemma Usable.after (htame : Tame t launcher) (h : Usable t scratch d)
    (calls : List (String × Option Nat)) : Usable t scratch (t.after launcher calls d) := by
  induction calls generalizing d with
  | nil => exact h
  | cons call calls ih => exact ih (h.decompile htame call.2 call.1)

/-- After whatever calls, the next one gives what it gives with a new instance, unless Java has left
something that can not be removed; then it fails for that reason alone. Only the path of the scratch
directory tells two instances apart, so the new one has its directory at the same path. -/
theorem calls_carry_nothing_over (t : Fernflower) (launcher : Launcher) (htame : Tame t launcher)
    (d d' : Disk) (calls : List (String × Option Nat)) (hnew : New t d) (hnew' : New t d')
    (hbeside : Beside t (t.after launcher calls d) d') (cancelled : Option Nat) (name : String) :
    let left := t.after launcher calls d
    ((left.removeDir t.output).1 ≠ some .denied →
      (t.decompile launcher cancelled name left).1 =
        (t.decompile launcher cancelled name d').1) ∧
    ((left.removeDir t.output).1 = some .denied →
      (t.decompile launcher cancelled name left).1 = .error (ioError .denied)) ∧
    ((∀ node, left.node t.output = .ok node → node.Loose) →
      (left.removeDir t.output).1 ≠ some .denied) := by
  intro left
  obtain ⟨scratch, h₀⟩ := hnew.usable
  obtain ⟨scratch', h'⟩ := hnew'.usable
  have h : Usable t scratch left := h₀.after htame calls
  obtain rfl : scratch' = scratch := by rw [← h.land, ← h'.land, hbeside.here]
  refine ⟨fun hfree => ?_, fun hdenied => h.decompile_of_denied hdenied cancelled name, h.not_denied⟩
  refine (decompile_alike h h' hbeside.here (fun place hp => ?_) hfree (hnew'.not_denied h') htame
    cancelled name).symm
  by_cases hplace : place = scratch'
  · rw [hplace, h.dir, h'.dir]
  · exact hbeside.look scratch' h.locate place fun hwithin => hp ⟨hwithin, hplace⟩

lemma after_keeps (hspares : Spares launcher place) (h : ¬ d.Takes t.scratch place)
    (calls : List (String × Option Nat)) : Keeps place d (t.after launcher calls d) := by
  induction calls generalizing d with
  | nil => exact Keeps.refl place d
  | cons call calls ih =>
    have hcall := decompile_keeps hspares call.2 call.1 h
    exact hcall.trans (ih (mt hcall.takes_iff.mp h))

def scratched : Fernflower :=
  ⟨"java", "fernflower.jar", "app.jar", "/scratch"⟩

def leaving (name : String) (node : Node) : Launcher := fun _ d =>
  match d.tree.find (["scratch", "in"] ++ ["a", "B.class"]) with
  | .error _ => .finished ⟨.code 0, [], [], 0⟩ d
  | .ok _ =>
    match d.tree.alter (["scratch", "out"] ++ [name]) fun _ => .ok (some node) with
    | .error e => .refused e
    | .ok tree => .finished ⟨.code 0, [], [], 0⟩ { d with tree }

lemma locate_output {node : Node} (h : d.tree.find ["scratch", "out"] = .ok node) :
    d.locate "/scratch/out" = .ok ["scratch", "out"] := by
  have hthere : d.tree.look (["scratch"] ++ ["out"]) ≠ none := by
    intro hnone
    obtain ⟨e, he⟩ := Tree.look_eq_none_iff.mp hnone
    rw [List.singleton_append, h] at he
    cases he
  have htreads : Treads (fun place => d.tree.look place = some .dir) d.here
      [.root, .normal "scratch".toList] := ⟨Node.look_of_append hthere, trivial⟩
  exact Tree.follow_append_normal htreads "out".toList

lemma node_output_of_shares (h : Shares ["scratch", "out"] d d') :
    d.node "/scratch/out" = d'.node "/scratch/out" := by
  obtain ⟨node, hfind, hfind'⟩ := h
  rw [Disk.node, Disk.node, locate_output hfind, locate_output hfind']
  simp only [bind, Except.bind, hfind, hfind']

lemma shares_of_node {inner : List String} {node : Node}
    (hland : ∀ place, land place (components path.toList) = inner) (h : d.node path = .ok node)
    (h' : d'.node path = .ok node) : Shares inner d d' := by
  obtain ⟨place, hplace, hfind⟩ := node_eq_ok h
  obtain ⟨place', hplace', hfind'⟩ := node_eq_ok h'
  rw [(locate_eq_ok hplace).2, hland] at hfind
  rw [(locate_eq_ok hplace').2, hland] at hfind'
  exact ⟨node, hfind, hfind'⟩

variable {node : Node}

lemma leaving_disk {request : Request} (h : (leaving name node request d).disk? = some d') :
    d' = d ∨ ∃ change tree, d.tree.alter (["scratch", "out"] ++ [name]) change = .ok tree ∧
      d' = { d with tree } := by
  rw [leaving] at h
  cases hfind : d.tree.find (["scratch", "in"] ++ ["a", "B.class"]) with
  | error e =>
    rw [hfind] at h
    cases h
    exact Or.inl rfl
  | ok found =>
    cases halter : d.tree.alter (["scratch", "out"] ++ [name]) fun _ => .ok (some node) with
    | error e => simp only [hfind, halter] at h; cases h
    | ok tree =>
      simp only [hfind, halter] at h
      cases h
      exact Or.inr ⟨_, tree, halter, rfl⟩

lemma tame_leaving (name : String) (node : Node) : Tame scratched (leaving name node) := by
  constructor
  · intro limit d d' input output hin hin' hout hout'
    have hinput : Shares ["scratch", "in"] d d' := shares_of_node (fun _ => rfl) hin hin'
    have houtput : Shares ["scratch", "out"] d d' := shares_of_node (fun _ => rfl) hout hout'
    rw [leaving, leaving, hinput.find_eq]
    cases d.tree.find (["scratch", "in"] ++ ["a", "B.class"]) with
    | error e => exact ⟨rfl, node_output_of_shares houtput⟩
    | ok found =>
      rcases houtput.alter (by simp : [name] ≠ []) fun _ => .ok (some node) with
        ⟨e, he, he'⟩ | ⟨tree, tree', he, he', hshares⟩
      · dsimp only
        rw [he, he']
        trivial
      · dsimp only
        rw [he, he']
        exact ⟨rfl, node_output_of_shares hshares⟩
  · intro limit d d' scratch hd hlocate hdir
    obtain rfl : ["scratch"] = scratch := Except.ok.inj hlocate
    rcases leaving_disk hd with rfl | ⟨change, tree, halter, rfl⟩
    · exact ⟨rfl, hlocate, rfl, fun _ _ _ => ⟨rfl, rfl⟩⟩
    · refine ⟨rfl, rfl, Tree.find_alter halter (by simp) (by simp), fun place _ hplace => ?_⟩
      have hout : ¬ ["scratch", "out"] ++ [name] <+: place :=
        fun hwithin => hplace (below_of_within hwithin)
      exact ⟨Tree.look_alter halter hout, Tree.isLocked_alter halter hout⟩

lemma spares_leaving (h : ¬ ["scratch"] <+: place) : Spares (leaving name node) place := by
  intro request d d' hd
  rcases leaving_disk hd with rfl | ⟨change, tree, halter, rfl⟩
  · exact Keeps.refl place _
  · exact Keeps.of_tree (Tree.look_alter halter fun hp => h ((List.prefix_append _ _).trans hp))

lemma beside_after_leaving (calls : List (String × Option Nat)) :
    Beside scratched (scratched.after (leaving name node) calls d) d := by
  have hkeeps : ∀ place, ¬ ["scratch"] <+: place →
      Keeps place d (scratched.after (leaving name node) calls d) := by
    intro place hplace
    refine after_keeps (spares_leaving hplace) ?_ calls
    rintro (hland | ⟨htrail, -⟩)
    · exact hplace hland
    · exact hplace (List.mem_singleton.mp htrail ▸ List.prefix_refl _)
  refine ⟨(hkeeps [] (by simp)).here.symm, fun scratch hscratch place hplace => ?_⟩
  obtain rfl : ["scratch"] = scratch := Except.ok.inj hscratch
  exact (hkeeps place hplace).look.symm

lemma node_output {entries : List (String × Node)} {locked : Bool}
    (h : d.tree.find ["scratch", "out"] = .ok (.dir entries locked)) :
    d.node scratched.output = .ok (.dir entries locked) :=
  node_of_dir (locate_output h) h

def namesakes : Disk where
  tree := ⟨.dir [
    ("app.jar", .file (Archive.write [("a/B.class", [1]), ("c/B.class", [2])]) false),
    ("scratch", .dir [])]⟩

lemma new_namesakes : New scratched namesakes :=
  rfl

lemma decompile_of_finished (hp : t.prepare name d = (.ok (), d₁))
    (hl : launcher ⟨t.java, t.arguments, none⟩ d₁ = .finished ⟨.code 0, [], [], 0⟩ d₂) :
    (t.decompile launcher none name d).1 = t.readSource name d₂ := by
  have hwatch : (Java.watch (Java.rounds (some (.code 0, 0)) none)).2 =
      some (.exited (.code 0)) := by decide +kernel
  simp only [decompile, hp, Java.run, Option.map_none, hl, hwatch]
  rfl

lemma output_of_prepare (hnew : New scratched d) (hp : scratched.prepare name d = (.ok (), d₁)) :
    d₁.tree.find ["scratch", "out"] = .ok (.dir []) := by
  obtain ⟨scratch, h⟩ := hnew.usable
  obtain rfl : ["scratch"] = scratch := Except.ok.inj h.locate
  have hfree := hnew.not_denied h
  obtain ⟨result, d₂, d₃, he, -, hok⟩ := prepare_alike h h rfl (fun _ _ => rfl) hfree hfree name
  rw [hp] at he
  cases he
  exact (hok rfl).2.2.output.1

lemma decompile_namesake : (scratched.decompile (leaving "B.java" (.file [66] false)) none "c/B"
    namesakes).1 = .error (.noOutput "c/B") := by
  have hprepare : (scratched.prepare "c/B" namesakes).1 = .ok () := by decide +kernel
  have hlook : (scratched.prepare "c/B" namesakes).2.tree.look
      (["scratch", "in"] ++ ["a", "B.class"]) = none := by decide +kernel
  obtain ⟨e, he⟩ := Tree.look_eq_none_iff.mp hlook
  rcases hp : scratched.prepare "c/B" namesakes with ⟨result, d₁⟩
  rw [hp] at hprepare he
  obtain rfl : result = .ok () := hprepare
  have hout := output_of_prepare new_namesakes hp
  have hleft : leaving "B.java" (.file [66] false) ⟨scratched.java, scratched.arguments, none⟩ d₁ =
      .finished ⟨.code 0, [], [], 0⟩ d₁ := by
    rw [leaving, he]
  rw [decompile_of_finished hp hleft, readSource, node_output hout]
  dsimp only
  rw [Node.search, Node.searchEntries]

lemma decompile_sealed : (scratched.decompile
    (leaving "a" (.dir [("B.java", .file [66] false)] true)) none "a/B" namesakes).1 = .ok "B" := by
  have hprepare : (scratched.prepare "a/B" namesakes).1 = .ok () := by decide +kernel
  have hlook : (scratched.prepare "a/B" namesakes).2.tree.look
      (["scratch", "in"] ++ ["a", "B.class"]) = some (.file [1]) := by decide +kernel
  obtain ⟨executable, he⟩ := Tree.look_eq_file_iff.mp hlook
  rcases hp : scratched.prepare "a/B" namesakes with ⟨result, d₁⟩
  rw [hp] at hprepare he
  obtain rfl : result = .ok () := hprepare
  have hout := output_of_prepare new_namesakes hp
  obtain ⟨build, halter, hfind⟩ := Tree.alter_entry hout (by decide : Node.fits "a" = true)
    fun _ => .ok (some (.dir [("B.java", .file [66] false)] true))
  have hleft := hfind (some (.dir [("B.java", .file [66] false)] true))
  have hlaunch : leaving "a" (.dir [("B.java", .file [66] false)] true)
      ⟨scratched.java, scratched.arguments, none⟩ d₁ = .finished ⟨.code 0, [], [], 0⟩
        ⟨build (some (.dir [("B.java", .file [66] false)] true)), d₁.here⟩ := by
    rw [leaving, he]
    dsimp only
    rw [halter]
    rfl
  rw [decompile_of_finished hp hlaunch, readSource, node_output hleft]
  simp only [Node.setEntry, Node.search, Node.searchEntries]
  decide +kernel

theorem calls_carry_nothing_over_of_namesakes :
    let single := leaving "B.java" (.file [66] false)
    let left := scratched.after single [("a/B", none)] namesakes
    left.tree.look ["scratch", "out", "B.java"] = some (.file [66]) ∧
      (scratched.decompile single none "c/B" left).1 = .error (.noOutput "c/B") := by
  intro single left
  have hfree : (left.removeDir scratched.output).1 ≠ some .denied := by decide +kernel
  obtain ⟨hsame, -⟩ := calls_carry_nothing_over scratched single (tame_leaving _ _) namesakes
    namesakes [("a/B", none)] rfl rfl (beside_after_leaving _) none "c/B"
  exact ⟨by decide +kernel, (hsame hfree).trans decompile_namesake⟩

/-- A locked directory that Java left with a source in it fails the next call, though a new instance
gives the source. -/
theorem locked_directory_carries_over :
    let sealing := leaving "a" (.dir [("B.java", .file [66] false)] true)
    let left := scratched.after sealing [("a/B", none)] namesakes
    Tame scratched sealing ∧ New scratched namesakes ∧ Beside scratched left namesakes ∧
      (scratched.decompile sealing none "a/B" left).1 =
        .error (.io "Permission denied (os error 13)") ∧
      (scratched.decompile sealing none "a/B" namesakes).1 = .ok "B" := by
  intro sealing left
  have htame : Tame scratched sealing := tame_leaving _ _
  obtain ⟨scratch, h⟩ := new_namesakes.usable
  have hdenied : (left.removeDir scratched.output).1 = some .denied := by decide +kernel
  exact ⟨htame, rfl, beside_after_leaving _,
    (h.after htame [("a/B", none)]).decompile_of_denied hdenied none "a/B", decompile_sealed⟩

end Fernflower

end ClassBatch.Tool
