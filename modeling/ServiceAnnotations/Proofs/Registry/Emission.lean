import ServiceAnnotations.Proofs.Registry.Index
import ServiceAnnotations.Proofs.Registry.Step
import ServiceAnnotations.Proofs.Registry.Store

/-! # What is written when providers are emitted

Each row of the index visits one file. The visits of a run do not disturb one another, since different
interfaces have different files. -/
namespace ServiceAnnotations.Registry
open Text

variable {τ σ : Type}

theorem servicePath_injective {i j : Bytes} (h : servicePath i = servicePath j) : i = j :=
  List.append_cancel_left h

/-- A row of the index, and what came of reading the file of its interface. -/
structure Visit where
  interface : Bytes
  providers : List Bytes
  reading : Reading

namespace Visit

def path (v : Visit) : Bytes := servicePath v.interface

def row (v : Visit) : Bytes × List Bytes := (v.interface, v.providers)

def isComplete (v : Visit) : Bool := v.reading.names.containsAll v.providers

def merged (v : Visit) : List Bytes := (v.providers.foldl NameSet.insert v.reading.names).toList

theorem isComplete_iff {v : Visit} :
    v.isComplete = true ↔ ∀ n ∈ v.providers, n ∈ v.reading.names.toList :=
  NameSet.containsAll_iff

theorem ascending_merged (v : Visit) : v.merged.Pairwise (· < ·) := NameSet.ascending_toList _

theorem mem_merged_iff {v : Visit} {n : Bytes} :
    n ∈ v.merged ↔ n ∈ v.reading.names.toList ∨ n ∈ v.providers :=
  NameSet.mem_toList_foldl_insert

end Visit

def Run.afterReading (s : Settings) (path : Bytes) (reading : Reading) (files : σ) (r : Run τ σ) :
    Run τ σ :=
  (((r.note s (.workingOn path)).setFiles files).record (.read path (some reading))).tell s
    (reading.diagnostic path)

theorem readExisting_run {h : Host τ σ} {path : Bytes} {reading : Reading} {r : Run τ σ}
    (hread : (h.read path r.files).1 = .ok reading) (s : Settings) :
    (readExisting h .attentive s path).run r = (.ok reading.names,
      ((r.setFiles (h.read path r.files).2).record (.read path (some reading))).tell s
        (reading.diagnostic path)) := by
  simp only [readExisting, Step.tell_attentive, Step.run_callHost_bind, hread, Step.run_modify_bind, Step.run_pure]

variable {h : Host τ σ} {v : Visit} {r : Run τ σ}

private theorem emitRow_row (h : Host τ σ) (s : Settings) (v : Visit) :
    emitRow h .attentive s v.row = (do
      modify (·.note s (.workingOn v.path))
      let existing ← readExisting h .attentive s v.path
      if existing.containsAll v.providers then modify (·.note s (.upToDate v.path))
      else
        modify (·.note s (.newContent (v.providers.foldl NameSet.insert existing).toList))
        writeService h .attentive v.path (v.providers.foldl NameSet.insert existing).toList) := by
  simp only [emitRow, Step.note_attentive]
  rfl

/-- A file that lists all providers is read and left as it is. -/
theorem emitRow_run_complete (s : Settings) (hread : (h.read v.path r.files).1 = .ok v.reading)
    (hall : v.isComplete = true) :
    (emitRow h .attentive s v.row).run r =
      (.ok (), (r.afterReading s v.path v.reading (h.read v.path r.files).2).note s (.upToDate v.path)) := by
  have hex := readExisting_run (r := r.note s (.workingOn v.path)) (by simpa using hread) s
  rw [emitRow_row, Step.run_modify_bind, Step.run_bind_ok hex]
  simp only [Visit.isComplete] at hall
  simp [hall, Run.afterReading]

theorem writeService_run {path : Bytes} {names : List Bytes}
    (hwrite : (h.write path (writeNames names) r.files).1 = none) :
    (writeService h .attentive path names).run r =
      (.ok (), ((r.setFiles (h.write path (writeNames names) r.files).2).record (.wrote path none)).record
        (.loggedWrite path names.length)) := by
  simp only [writeService, Step.say_attentive, Step.run_callHost_bind, hwrite, Step.run_modify_bind, Step.run_modify]

/-- Any other file is written once, after it has been read. -/
theorem emitRow_run_incomplete (s : Settings) (hread : (h.read v.path r.files).1 = .ok v.reading)
    (hall : v.isComplete = false) :
    (emitRow h .attentive s v.row).run r = (writeService h .attentive v.path v.merged).run
      ((r.afterReading s v.path v.reading (h.read v.path r.files).2).note s (.newContent v.merged)) := by
  have hex := readExisting_run (r := r.note s (.workingOn v.path)) (by simpa using hread) s
  rw [emitRow_row, Step.run_modify_bind, Step.run_bind_ok hex]
  simp only [Visit.isComplete] at hall
  simp only [hall, Bool.false_eq_true, if_false, Step.run_modify_bind]
  simp [Run.afterReading, Visit.merged]

theorem emitRow_run_write (s : Settings) (hread : (h.read v.path r.files).1 = .ok v.reading)
    (hall : v.isComplete = false)
    (hwrite : (h.write v.path (writeNames v.merged) (h.read v.path r.files).2).1 = none) :
    (emitRow h .attentive s v.row).run r =
      (.ok (), ((((r.afterReading s v.path v.reading (h.read v.path r.files).2).note s
        (.newContent v.merged)).setFiles
          (h.write v.path (writeNames v.merged) (h.read v.path r.files).2).2).record
            (.wrote v.path none)).record (.loggedWrite v.path v.merged.length)) := by
  let r₁ := (r.afterReading s v.path v.reading (h.read v.path r.files).2).note s (.newContent v.merged)
  have hwrite₁ : (h.write v.path (writeNames v.merged) r₁.files).1 = none := by
    simpa [r₁, Run.afterReading] using hwrite
  rw [emitRow_run_incomplete s hread hall, writeService_run hwrite₁]
  simp [r₁, Run.afterReading]

/-- What has become of a run after the files of `vs` have been visited. Each was read in a state that
satisfies `ok`, while its content was still what it was before. -/
structure Visited (store : FileStore h) (ok : σ → Prop) (vs : List Visit) (r r' : Run τ σ) : Prop where
  index : r'.index = r.index
  readings : r'.readings = r.readings ++ vs.map fun v => (v.path, some v.reading)
  opened : r'.opened = r.opened ++ (vs.filter (!·.isComplete)).map Visit.path
  read : ∀ v ∈ vs, ∃ files, ok files ∧ store.content files v.path = store.content r.files v.path ∧
    (h.read v.path files).1 = .ok v.reading
  complete : ∀ v ∈ vs, v.isComplete = true →
    store.content r'.files v.path = store.content r.files v.path
  written : ∀ v ∈ vs, v.isComplete = false →
    store.content r'.files v.path = some (writeNames v.merged)
  other : ∀ path, path ∉ vs.map Visit.path → store.content r'.files path = store.content r.files path

theorem visited_complete (store : FileStore h) (s : Settings) {ok : σ → Prop} (hr : ok r.files)
    (hread : (h.read v.path r.files).1 = .ok v.reading) (hall : v.isComplete = true) :
    Visited store ok [v] r ((r.afterReading s v.path v.reading (h.read v.path r.files).2).note s
      (.upToDate v.path)) where
  index := by simp [Run.afterReading]
  readings := by simp [Run.afterReading, Event.reading?]
  opened := by simp [Run.afterReading, Event.opened?, hall]
  read := by simpa using ⟨r.files, hr, rfl, hread⟩
  complete := by simp [Run.afterReading, store.content_read]
  written := by simp [hall]
  other := by simp [Run.afterReading, store.content_read]

theorem visited_write (store : FileStore h) (s : Settings) {ok : σ → Prop} (hr : ok r.files)
    (hread : (h.read v.path r.files).1 = .ok v.reading) (hall : v.isComplete = false)
    (hwrite : (h.write v.path (writeNames v.merged) (h.read v.path r.files).2).1 = none) :
    Visited store ok [v] r (((((r.afterReading s v.path v.reading (h.read v.path r.files).2).note s
      (.newContent v.merged)).setFiles
        (h.write v.path (writeNames v.merged) (h.read v.path r.files).2).2).record
          (.wrote v.path none)).record (.loggedWrite v.path v.merged.length)) where
  index := by simp [Run.afterReading]
  readings := by simp [Run.afterReading, Event.reading?]
  opened := by simp [Run.afterReading, Event.opened?, hall]
  read := by simpa using ⟨r.files, hr, rfl, hread⟩
  complete := by simp [hall]
  written := by simpa [hall] using store.content_write hwrite
  other := by
    intro path hpath
    have hne : path ≠ v.path := by simpa using hpath
    have hw := store.content_write_of_ne (writeNames v.merged) (h.read v.path r.files).2 hne
    simpa [store.content_read] using hw

/-- A visit leaves the files in a state from which all can still be written. -/
theorem emitRow_visited (store : FileStore h) (s : Settings) {ok : σ → Prop} (hok : h.Writes ok)
    (row : Bytes × List Bytes) (r : Run τ σ) (hr : ok r.files) :
    ∃ reading r', (emitRow h .attentive s row).run r = (.ok (), r') ∧ ok r'.files ∧
      Visited store ok [⟨row.1, row.2, reading⟩] r r' := by
  obtain ⟨reading, hread⟩ := hok.read (servicePath row.1) hr
  let v : Visit := ⟨row.1, row.2, reading⟩
  have hafter := hok.ok_read v.path hr
  cases hall : v.isComplete with
  | true =>
    refine ⟨reading, _, emitRow_run_complete (v := v) s hread hall, ?_,
      visited_complete store s hr hread hall⟩
    simpa [Run.afterReading] using hafter
  | false =>
    have hwrite := hok.write v.path (writeNames v.merged) hafter
    refine ⟨reading, _, emitRow_run_write (v := v) s hread hall hwrite, ?_,
      visited_write store s hr hread hall hwrite⟩
    simpa using hok.ok_write v.path _ hafter

theorem Visited.cons {store : FileStore h} {ok : σ → Prop} {vs : List Visit} {r r₁ r₂ : Run τ σ}
    (h₁ : Visited store ok [v] r r₁) (h₂ : Visited store ok vs r₁ r₂)
    (hv : v.path ∉ vs.map Visit.path) : Visited store ok (v :: vs) r r₂ := by
  have hkept : ∀ u ∈ vs, store.content r₁.files u.path = store.content r.files u.path := by
    intro u hu
    apply h₁.other
    rintro hin
    rw [List.map_singleton, List.mem_singleton] at hin
    exact hv (hin ▸ List.mem_map_of_mem hu)
  exact {
    index := h₂.index.trans h₁.index
    readings := by simp [h₂.readings, h₁.readings]
    opened := by
      rw [h₂.opened, h₁.opened, List.append_assoc, ← List.map_append, ← List.filter_append]
      rfl
    read := by
      intro u hu
      rcases List.mem_cons.mp hu with rfl | hu
      · exact h₁.read u (by simp)
      · exact hkept u hu ▸ h₂.read u hu
    complete := by
      intro u hu hall
      rcases List.mem_cons.mp hu with rfl | hu
      · exact (h₂.other _ hv).trans (h₁.complete u (by simp) hall)
      · exact (h₂.complete u hu hall).trans (hkept u hu)
    written := by
      intro u hu hall
      rcases List.mem_cons.mp hu with rfl | hu
      · exact (h₂.other _ hv).trans (h₁.written u (by simp) hall)
      · exact h₂.written u hu hall
    other := by
      intro path hpath
      rw [List.map_cons, List.mem_cons, not_or] at hpath
      exact (h₂.other path hpath.2).trans (h₁.other path (by simpa using hpath.1)) }

/-- The rows of an index, which have different interfaces, are visited one after another. -/
theorem emitRows_visited (store : FileStore h) (s : Settings) {ok : σ → Prop} (hok : h.Writes ok)
    {rows : List (Bytes × List Bytes)} (hrows : (rows.map Prod.fst).Pairwise (· < ·))
    (r : Run τ σ) (hr : ok r.files) :
    ∃ vs r', (emitRows h .attentive s rows).run r = (.ok (), r') ∧ ok r'.files ∧ vs.map Visit.row = rows ∧
      Visited store ok vs r r' := by
  induction rows generalizing r with
  | nil =>
    refine ⟨[], r, rfl, hr, rfl, ?_⟩
    constructor <;> simp
  | cons row rows ih =>
    obtain ⟨hhead, htail⟩ := List.pairwise_cons.mp hrows
    obtain ⟨reading, r₁, hrun₁, hr₁, hv₁⟩ := emitRow_visited store s hok row r hr
    obtain ⟨vs, r₂, hrun₂, hr₂, hvs, hv₂⟩ := ih htail r₁ hr₁
    refine ⟨⟨row.1, row.2, reading⟩ :: vs, r₂, ?_, hr₂, by simp [Visit.row, hvs], hv₁.cons hv₂ ?_⟩
    · rw [emitRows, Step.run_bind_ok hrun₁, hrun₂]
    · intro hin
      obtain ⟨u, hu, hpath⟩ := List.mem_map.mp hin
      have hname : u.interface = row.1 := servicePath_injective hpath
      have hmem : u.interface ∈ rows.map Prod.fst := by
        rw [← hvs, List.map_map]
        exact List.mem_map_of_mem (f := Prod.fst ∘ Visit.row) hu
      exact List.lt_irrefl _ (hname ▸ hhead _ hmem)

/-- Emitting visits the file of every row, when writing succeeds. -/
theorem emit_visited (store : FileStore h) (s : Settings) {ok : σ → Prop} (hok : h.Writes ok)
    (r : Run τ σ) (hphase : r.phase = .collecting) (hr : ok r.files) :
    ∃ vs r', (emit h .attentive s).run r = (.ok none, r'.setPhase .done) ∧ ok r'.files ∧ vs.map Visit.row = r.index.rows ∧
      Visited store ok vs r r' := by
  obtain ⟨vs, r', hrun, hok', hvs, hv⟩ :=
    emitRows_visited store s hok r.index.ascending_rows (r.setPhase .emitting) hr
  have hemit : (emit h .attentive s).run r = (.ok none, r'.setPhase .done) := by
    rw [Step.run_emit_attentive h s hphase, Run.settle_of_ok hrun]
  exact ⟨vs, r', hemit, hok', hvs, ⟨hv.index, hv.readings, hv.opened, hv.read, hv.complete, hv.written, hv.other⟩⟩

/-- Emitting reads the service file of each interface of the index once. A file that lists all its
providers is not opened for writing and keeps its bytes; into any other file go the names that it
lists and the providers, each once and in ascending order. Files of no interface are left alone, and
files are opened for writing in ascending order of their interfaces. -/
theorem emit_merges (store : FileStore h) (s : Settings) {ok : σ → Prop} (hok : h.Writes ok)
    (r : Run τ σ) (hphase : r.phase = .collecting) (hr : ok r.files) :
    ∃ (vs : List Visit) (written : List Bytes) (r' : Run τ σ),
      (emit h .attentive s).run r = (.ok none, r') ∧ r'.phase = .done ∧ r'.index = r.index ∧
      vs.map Visit.row = r.index.rows ∧
      r'.readings = r.readings ++ vs.map (fun v => (v.path, some v.reading)) ∧
      r'.opened = r.opened ++ written.map servicePath ∧ written.Pairwise (· < ·) ∧
      (∀ v ∈ vs, v.reading.Shows (store.content r.files v.path)) ∧
      (∀ v ∈ vs, (∀ n ∈ v.providers, n ∈ v.reading.names.toList) →
        v.interface ∉ written ∧ store.content r'.files v.path = store.content r.files v.path) ∧
      (∀ v ∈ vs, (¬ ∀ n ∈ v.providers, n ∈ v.reading.names.toList) →
        v.interface ∈ written ∧
        ∃ names : List Bytes, names.Pairwise (· < ·) ∧
          (∀ n, n ∈ names ↔ n ∈ v.reading.names.toList ∨ n ∈ v.providers) ∧
          store.content r'.files v.path = some (writeNames names)) ∧
      ∀ path, (∀ row ∈ r.index.rows, path ≠ servicePath row.1) →
        path ∉ written.map servicePath ∧ store.content r'.files path = store.content r.files path := by
  obtain ⟨vs, r', hemit, -, hrows, hv⟩ := emit_visited store s hok r hphase hr
  let written := (vs.filter (!·.isComplete)).map Visit.interface
  have hnames : vs.map Visit.interface = r.index.rows.map Prod.fst := by
    simp [← hrows, Visit.row, Function.comp_def]
  have hsorted : (vs.map Visit.interface).Pairwise (· < ·) := hnames ▸ r.index.ascending_rows
  have hnodup : (vs.map Visit.interface).Nodup :=
    hsorted.imp fun {i j} (hlt : i < j) (heq : i = j) => List.lt_irrefl j (heq ▸ hlt)
  have hmem : ∀ v ∈ vs, v.interface ∈ written ↔ v.isComplete = false := by
    intro v hvin
    simp only [written, List.mem_map, List.mem_filter, Bool.not_eq_true']
    constructor
    · rintro ⟨u, ⟨hu, hcomplete⟩, hname⟩
      have huv : u = v := List.inj_on_of_nodup_map hnodup hu hvin hname
      exact huv ▸ hcomplete
    · intro hcomplete
      exact ⟨v, ⟨hvin, hcomplete⟩, rfl⟩
  have hshows : ∀ v ∈ vs, v.reading.Shows (store.content r.files v.path) := by
    intro v hvin
    obtain ⟨files, -, hsame, hread⟩ := hv.read v hvin
    exact hsame ▸ store.shows_read hread
  refine ⟨vs, written, r'.setPhase .done, hemit, rfl, hv.index, hrows, hv.readings, ?_, ?_, hshows, ?_, ?_, ?_⟩
  · have hpaths : written.map servicePath = (vs.filter (!·.isComplete)).map Visit.path := by
      simp only [written, List.map_map]
      rfl
    exact hpaths ▸ hv.opened
  · exact hsorted.sublist (List.filter_sublist.map _)
  · intro v hvin hall
    have hcomplete := Visit.isComplete_iff.mpr hall
    exact ⟨by simp [hmem v hvin, hcomplete], hv.complete v hvin hcomplete⟩
  · intro v hvin hall
    have hcomplete : v.isComplete = false := by
      simpa using mt Visit.isComplete_iff.mp hall
    refine ⟨(hmem v hvin).mpr hcomplete, v.merged, v.ascending_merged, ?_, hv.written v hvin hcomplete⟩
    exact fun n => Visit.mem_merged_iff
  · intro path hpath
    have hnot : path ∉ vs.map Visit.path := by
      rintro hin
      obtain ⟨v, hvin, rfl⟩ := List.mem_map.mp hin
      exact hpath v.row (hrows ▸ List.mem_map_of_mem hvin) rfl
    refine ⟨?_, hv.other path hnot⟩
    intro hin
    obtain ⟨i, hi, rfl⟩ := List.mem_map.mp hin
    obtain ⟨v, hvin, rfl⟩ := List.mem_map.mp hi
    exact hnot (List.mem_map_of_mem (f := Visit.path) (List.mem_of_mem_filter hvin))

/-- Two interfaces with files. The file of the first one lists its provider before a comment, that of
the second one lists another provider, behind a comment, and a third file belongs to no interface. -/
def commentedRun : Run Bytes MemoryFiles where
  index := Index.add (Index.add ∅ "A" "p") "B" "q"
  files := ⟨.ofList [(servicePath "A", "p # kept\n"), (servicePath "B", "# new\rr"), ("notes", "p\n")], {}⟩

theorem emit_merges_commented :
    commentedRun.phase = .collecting ∧ commentedRun.files.Writable ∧
      ∃ r', (emit (memoryHost {}) .attentive {}).run commentedRun = (.ok none, r') ∧ r'.opened = [servicePath "B"] ∧
        r'.files.contents.get? (servicePath "A") = some (Bytes.ofString "p # kept\n") ∧
        r'.files.contents.get? (servicePath "B") = some (Bytes.ofString "q\nr\n") ∧
        r'.files.contents.get? (Bytes.ofString "notes") = some (Bytes.ofString "p\n") := by
  have hfiles : commentedRun.files.Writable := fun _ => ⟨rfl, rfl, rfl, rfl⟩
  obtain ⟨_, _, r', hemit, -, -, -, -, -, -, -, -, -, hother⟩ :=
    emit_merges (MemoryFiles.store {}) {} (MemoryFiles.writes_memoryHost {}) commentedRun rfl hfiles
  have hr' : r' = ((emit (memoryHost {}) .attentive {}).run commentedRun).2 := by rw [hemit]
  refine ⟨rfl, hfiles, r', hemit, ?_, ?_, ?_, ?_⟩
  · rw [hr']; decide +kernel
  · rw [hr']; decide +kernel
  · rw [hr']; decide +kernel
  · exact (hother _ (by decide)).2.trans (by decide)

end ServiceAnnotations.Registry
