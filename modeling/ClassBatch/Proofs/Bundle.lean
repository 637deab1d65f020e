import ClassBatch.Proofs.Archive.Outgrown
import ClassBatch.Proofs.Batch.Accounts
import ClassBatch.Proofs.Batch.Courses

/-! What becomes of the sources of a batch. They go by the names that were selected, and the ending
of an entry repairs a last segment that was empty or made of dots. -/

namespace ClassBatch

open Files
open Text (Bytes)

namespace Program

variable {d : Disk} {jar name : String} {p : Pattern} {names : List String}

lemma selectClasses_eq_ok (h : selectClasses d jar p = .ok names) : ∃ listed m,
    Catalog.list d jar = .ok listed ∧ p.compile = .ok m ∧
      names = Names.sorted (listed.filter m.accepts) := by
  rw [selectClasses] at h
  cases hlist : Catalog.list d jar with
  | error cause => rw [hlist] at h; cases h
  | ok listed =>
    rw [hlist] at h
    cases hcompile : p.compile with
    | error cause =>
      simp only [Except.mapError, bind, Except.bind, Pattern.select, hcompile, Except.map] at h
      cases h
    | ok m =>
      simp only [Except.mapError, bind, Except.bind, Pattern.select, hcompile, Except.map] at h
      cases h
      exact ⟨listed, m, rfl, rfl, rfl⟩

lemma ordered_of_selectClasses (h : selectClasses d jar p = .ok names) : Names.Ordered names := by
  obtain ⟨listed, m, -, -, rfl⟩ := selectClasses_eq_ok h
  exact Names.sorted_ordered _

lemma isListable_of_selectClasses (h : selectClasses d jar p = .ok names) (hname : name ∈ names) :
    Catalog.IsListable name := by
  obtain ⟨listed, m, hlist, -, rfl⟩ := selectClasses_eq_ok h
  exact Catalog.isListable_of_mem hlist (List.mem_of_mem_filter (Names.mem_sorted.mp hname))

end Program

namespace Bundle

variable {d d' : Disk} {path name : String} {sources : List (String × String)} {saved : Saved}

lemma save_eq_ok (h : save d sources path = (.ok saved, d')) :
    saved = Bundle.saved path sources ∧
      ∃ made : Disk, made.write path (content sources) = .ok d' := by
  rw [save] at h
  rcases hmade : d.createDirs ((Path.parent? path).getD "") with ⟨fault | _, made⟩
  · cases hwrite : made.write path (content sources) with
    | error e => simp only [hmade, hwrite] at h; cases h
    | ok written =>
      simp only [hmade, hwrite] at h
      cases h
      exact ⟨rfl, made, hwrite⟩
  · simp only [hmade] at h
    cases h

lemma content_of_length (h : sources.length ≠ 1) :
    content sources = Archive.write (entries sources) := by
  match sources with
  | [] | _ :: _ :: _ => rfl
  | [_] => exact absurd rfl h

lemma saved_of_length (h : sources.length ≠ 1) :
    Bundle.saved path sources = .archive path sources.length := by
  match sources with
  | [] | _ :: _ :: _ => rfl
  | [_] => exact absurd rfl h

lemma entries_names (sources : List (String × String)) :
    (entries sources).map Prod.fst = (sources.map Prod.fst).map (· ++ ".java") := by
  rw [entries, List.map_map, List.map_map]
  rfl

lemma isInternal_append_ending (h : Catalog.IsListable name) :
    Catalog.IsInternal (name ++ ".java") := by
  have hbackslash : '\x5c' ∉ ".java".toList := by decide
  have hnul : '\x00' ∉ ".java".toList := by decide
  have hending : ∀ c ∈ ".java".toList, decide (c = '/') = false := by simp
  have hlong : 2 < ".java".toList.length := by decide
  refine ⟨?_, ?_, ?_⟩
  · rw [String.toList_append, List.mem_append, or_iff_left hbackslash]
    exact h.backslash
  · rw [String.toList_append, List.mem_append, or_iff_left hnul]
    exact h.nul
  · rw [Path.Plain, String.toList_append, Catalog.isPlain_splitAll_append hending hlong]
    exact h.plain

section Batches

open Batch

variable {jar : String} {p : Pattern} {names : List String} {config : Config} {fresh : Bool}
  {actions : List Action} {s : System} {l : Ledger}

lemma sources_names (l : Ledger) : l.sources.map Prod.fst = Names.keys l.results :=
  l.keys_sources

/-- However a batch over selected classes went, the entries of its archive may be unpacked anywhere:
their names are plain relative paths, and no two of them are the same. The archive lists just these
names as far as they fit in it, if it is read at all. -/
theorem archive_entries_safe (hselect : Program.selectClasses d jar p = .ok names)
    (hmany : 2 ≤ names.length) (hrun : (System.initial config fresh names).steps actions = some s)
    (hover : s.watch = .over (.completed l)) :
    let entries := entries l.sources
    (∀ disk path saved disk', save disk l.sources path = (.ok saved, disk') →
      saved = .archive path names.length ∧
        ∃ made : Disk, made.write path (Archive.write entries) = .ok disk') ∧
    entries.length = names.length ∧ (entries.map Prod.fst).Nodup ∧
    (∀ name ∈ entries.map Prod.fst, Catalog.IsInternal name ∧ Path.isAbsolute name = false) ∧
    (Archive.Fits entries → ∀ listed, Archive.entries (Archive.write entries) = .ok listed →
      listed.map Archive.Entry.name = entries.map Prod.fst) := by
  intro entries
  have hordered := Program.ordered_of_selectClasses hselect
  have hnames : l.sources.map Prod.fst = names := by
    rw [sources_names, (System.complete_of_over hrun hover).2, hordered.sorted_eq]
  have hlength : l.sources.length = names.length := by
    rw [← hnames, List.length_map]
  have hentries : entries.map Prod.fst = names.map (· ++ ".java") := by
    rw [entries_names, hnames]
  have hjava : ∀ file ∈ entries, ∃ stem, file.1 = stem ++ ".java" := by
    intro file hfile
    obtain ⟨⟨name, text⟩, -, rfl⟩ := List.mem_map.mp hfile
    exact ⟨name, rfl⟩
  refine ⟨?_, ?_, ?_, ?_, fun hfits listed hlisted =>
    Archive.names_of_entries_write hfits hjava hlisted⟩
  · intro disk path saved disk' hsave
    obtain ⟨rfl, made, hwrite⟩ := save_eq_ok hsave
    rw [content_of_length (by omega)] at hwrite
    rw [saved_of_length (by omega), hlength]
    exact ⟨rfl, made, hwrite⟩
  · rw [← hlength]
    exact List.length_map _
  · rw [hentries]
    exact hordered.nodup.map fun _ _ h => (String.append_left_inj _).mp h
  · intro entry hentry
    rw [hentries] at hentry
    obtain ⟨name, hname, rfl⟩ := List.mem_map.mp hentry
    have hinternal := isInternal_append_ending (Program.isListable_of_selectClasses hselect hname)
    exact ⟨hinternal, Path.isAbsolute_of_plain hinternal.plain⟩

def dottedBatch : List Action :=
  List.flatten [
    [.submit "b/..", .schedule "b/..", .submit "b/.C", .schedule "b/.C", .launch, .fire "b/.."],
    List.replicate 7 (.advance .timer "b/.." false),
    [.take "b/.C", .check "b/.C", .equip "b/.C" .made, .call "b/.C",
      .reply "b/.C" (.source "class C {}"), .time "b/.C" (Duration.ofSeconds 1)],
    List.replicate 7 (.advance .worker "b/.C" false),
    [.cancel "b/..", .lock, .testAbort, .testComplete, .sweep, .sweep, .sweep, .close,
      .complete false]]

lemma selectClasses_dotted :
    Program.selectClasses Catalog.dotted "app.jar" (.package "b") = .ok ["b/..", "b/.C"] := by
  decide +kernel

theorem archive_entries_safe_of_dotted : ∃ s l,
    (System.initial Config.default false ["b/..", "b/.C"]).steps dottedBatch = some s ∧
      s.watch = .over (.completed l) ∧
      (entries l.sources).map Prod.fst = ["b/...java", "b/.C.java"] ∧
      Catalog.IsInternal "b/...java" ∧
      ∀ listed, Archive.entries (Archive.write (entries l.sources)) = .ok listed →
        listed.map Archive.Entry.name = ["b/...java", "b/.C.java"] := by
  obtain ⟨s, hs⟩ : ∃ s, (System.initial Config.default false ["b/..", "b/.C"]).steps dottedBatch =
      some s := Option.isSome_iff_exists.mp (by decide)
  have hfinal : ((System.initial Config.default false ["b/..", "b/.C"]).steps dottedBatch).any
      (fun s =>
        let files := entries s.settlement.ledger.sources
        s.watch = .over (.completed s.settlement.ledger) ∧
        files.map Prod.fst = ["b/...java", "b/.C.java"] ∧
        (∀ file ∈ files, (Text.encode file.1).length < 256 ^ 2) ∧
        (∀ file ∈ files, (Archive.deflateStored file.2).length < Archive.zip64Mark) ∧
        (Archive.write files).length < 2 ^ 61) = true := by
    decide +kernel
  rw [hs, Option.any_some, decide_eq_true_eq] at hfinal
  obtain ⟨hover, hentries, hnames, hdata, hsize⟩ := hfinal
  obtain ⟨-, -, -, hsafe, hlisted⟩ := archive_entries_safe selectClasses_dotted (by decide) hs hover
  have hentry : "b/...java" ∈ (entries s.settlement.ledger.sources).map Prod.fst := by
    rw [hentries]
    exact List.mem_cons_self
  rw [hentries] at hlisted
  exact ⟨s, s.settlement.ledger, hs, hover, hentries, (hsafe _ hentry).1,
    hlisted ⟨hnames, hdata, hsize⟩⟩

end Batches

section Outgrown

open Archive

variable {n : Nat}

lemma entries_content_faulty {l : Batch.Ledger} (h : 3 * n + 11 = 65540)
    (hkeys : Names.keys l.results = ["A", faultyName n])
    (htexts : ∀ source ∈ l.sources, (deflateStored (Text.encode source.2)).length < 2 ^ 31) :
    ∃ listed, Archive.entries (content l.sources) = .ok listed ∧
      listed.map Entry.name = ["A.java", "a/.."] := by
  have hnames : l.sources.map Prod.fst = ["A", faultyName n] := (sources_names l).trans hkeys
  obtain ⟨first, second, hsources⟩ : ∃ first second,
      l.sources = [("A", first), (faultyName n, second)] := by
    obtain ⟨⟨_, first⟩, rest, hl, rfl, hrest⟩ := List.map_eq_cons_iff.mp hnames
    obtain ⟨⟨_, second⟩, rest, rfl, rfl, hnil⟩ := List.map_eq_cons_iff.mp hrest
    exact ⟨first, second, by rw [hl, List.map_eq_nil_iff.mp hnil]⟩
  have hfiles : Bundle.entries [("A", first), (faultyName n, second)] =
      [("A.java", Text.encode first), (faultyName n ++ ".java", Text.encode second)] := by
    rw [← (by decide : "A" ++ ".java" = "A.java")]
    rfl
  rw [hsources] at htexts ⊢
  rw [content_of_length (by simp), hfiles]
  have hfirst := htexts ("A", first) List.mem_cons_self
  have hsecond := htexts (faultyName n, second) (List.mem_cons_of_mem _ List.mem_cons_self)
  exact entries_write_faulty hfirst hsecond h

/-- Whatever is recorded for the two classes of this jar, one of the names that their archive lists ends
in two dots. -/
theorem archive_lists_dots :
    Program.selectClasses (faultyJar 21843) "app.jar" .all = .ok ["A", faultyName 21843] ∧
    (∀ l : Batch.Ledger, Names.keys l.results = ["A", faultyName 21843] →
      (∀ source ∈ l.sources, (deflateStored (Text.encode source.2)).length < 2 ^ 31) →
      ∃ listed, Archive.entries (content l.sources) = .ok listed ∧
        listed.map Entry.name = ["A.java", "a/.."]) ∧
    ¬ Catalog.IsInternal "a/.." :=
  ⟨selectClasses_faulty (by decide) (by decide),
    fun _ hkeys htexts => entries_content_faulty (by decide) hkeys htexts,
    fun h => absurd h.plain (by decide)⟩

end Outgrown

end Bundle

end ClassBatch
