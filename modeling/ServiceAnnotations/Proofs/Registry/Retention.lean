import ServiceAnnotations.Proofs.Registry.Emission
import ServiceAnnotations.Proofs.Registry.ServiceFile

/-! # What becomes of the names in service files when writing fails

Creating a file empties it. If what comes after that fails, the names that it listed are gone, and the
failure is reported; in every other case they are still there. -/
namespace ServiceAnnotations.Registry
open Text

variable {τ σ : Type} {h : Host τ σ}

/-- A file that could not be created is as it was. What becomes of a file that was created and could not
be written or closed is left open. -/
def FileStore.KeepsUncreated (store : FileStore h) : Prop :=
  ∀ {path data files failure}, (h.write path data files).1 = some ⟨.create, failure⟩ →
    store.content (h.write path data files).2 path = store.content files path

/-- The file at a path lists all of the given names. -/
def FileStore.Lists (store : FileStore h) (files : σ) (path : Bytes) (names : NameSet) : Prop :=
  ∃ data listed, store.content files path = some data ∧ readNames data = some listed ∧
    ∀ n ∈ names.toList, n ∈ listed.toList

/-- What is reported of a failed write. -/
def WriteFailure.diagnostic (w : WriteFailure) (path : Bytes) : Diagnostic :=
  match w.failure with
  | .error cause => .notWritten path (w.stage.message cause)
  | .broken _ => .fatal w.failure.message

/-- A failed write is reported at once, or ends the emission with its failure. -/
theorem writeService_run_failed {path : Bytes} {names : List Bytes} {r : Run τ σ} {w : WriteFailure}
    (hwrite : (h.write path (writeNames names) r.files).1 = some w) :
    ∃ outcome r', (writeService h .attentive path names).run r = (outcome, r') ∧
      r'.files = (h.write path (writeNames names) r.files).2 ∧ r'.readings = r.readings ∧
      r'.writes = r.writes ++ [(path, some w)] ∧
      ((outcome = .ok () ∧ r'.errors = r.errors ++ [⟨w.diagnostic path, none, none⟩]) ∨
        (outcome = .error w.failure ∧ r'.errors = r.errors ∧
          w.diagnostic path = .fatal w.failure.message)) := by
  obtain ⟨stage, failure⟩ := w
  simp only [writeService, Step.report_attentive, Step.run_callHost_bind, hwrite, Step.run_modify_bind]
  cases failure with
  | error cause =>
    exact ⟨_, _, rfl, rfl, by simp [Event.reading?], by simp [Event.write?],
      .inl ⟨rfl, by simp [WriteFailure.diagnostic, Diagnostic.severity, Event.error?]⟩⟩
  | broken cause =>
    exact ⟨_, _, rfl, rfl, by simp [Event.reading?], by simp [Event.write?],
      .inr ⟨rfl, by simp [Event.error?], rfl⟩⟩

def LossReported (path : Bytes) (writes : List (Bytes × Option WriteFailure)) (errors : List (Message τ)) :
    Prop :=
  ∃ w, w.stage ≠ .create ∧ (path, some w) ∈ writes ∧ ⟨w.diagnostic path, none, none⟩ ∈ errors

def rowPaths (rows : List (Bytes × List Bytes)) : List Bytes := rows.map fun row => servicePath row.1

/-- What emitting rows does on any host, where `rs`, `es` and `ws` are what it adds to the readings, the
errors and the writes. A file that was read still lists its names, or else their loss
was reported. -/
structure Retains (store : FileStore h) (rows : List (Bytes × List Bytes))
    (rs : List (Bytes × Option Reading)) (es : List (Message τ))
    (ws : List (Bytes × Option WriteFailure)) (r r' : Run τ σ) :
    Prop where
  readings : r'.readings = r.readings ++ rs
  errors : r'.errors = r.errors ++ es
  writes : r'.writes = r.writes ++ ws
  visited : ∀ x ∈ rs, x.1 ∈ rowPaths rows
  other : ∀ path, path ∉ rowPaths rows → store.content r'.files path = store.content r.files path
  kept : ∀ row ∈ rows, (∀ n ∈ row.2, Utf8.isValid n = true) → ∀ data old,
    (servicePath row.1, some (.content data)) ∈ rs → readNames data = some old →
    store.content r.files (servicePath row.1) = some data ∧
      (store.Lists r'.files (servicePath row.1) old ∨ LossReported (servicePath row.1) ws es)

theorem emitRow_run_broken {row : Bytes × List Bytes} {r : Run τ σ} {cause : Bytes} (s : Settings)
    (hread : (h.read (servicePath row.1) r.files).1 = .error cause) :
    (emitRow h .attentive s row).run r = (.error (.broken cause),
      ((r.note s (.workingOn (servicePath row.1))).setFiles (h.read (servicePath row.1) r.files).2).record
        (.read (servicePath row.1) none)) := by
  have hex : (readExisting h .attentive s (servicePath row.1)).run (r.note s (.workingOn (servicePath row.1))) =
      (.error (.broken cause), ((r.note s (.workingOn (servicePath row.1))).setFiles
        (h.read (servicePath row.1) r.files).2).record (.read (servicePath row.1) none)) := by
    simp only [readExisting, Step.run_callHost_bind, Run.files_note, hread, Step.run_modify_bind,
      Step.run_throw]
  rw [emitRow, Step.note_attentive, Step.run_modify_bind, Step.run_bind_error hex]

theorem severity_diagnostic_ne_error (reading : Reading) (path : Bytes) :
    (reading.diagnostic path).severity ≠ .error := by
  cases reading with
  | content data =>
    simp only [Reading.diagnostic]
    cases readNames data <;> simp [Diagnostic.severity]
  | absent | notOpened cause | notRead cause => simp [Reading.diagnostic, Diagnostic.severity]

theorem errors_afterReading (s : Settings) (path : Bytes) (reading : Reading) (files : σ) (r : Run τ σ) :
    (r.afterReading s path reading files).errors = r.errors := by
  have hnote : (r.note s (.workingOn path)).errors = r.errors :=
    Run.errors_note _ _ _ (by simp [Diagnostic.severity])
  rw [Run.afterReading, Run.errors_tell _ _ _ (severity_diagnostic_ne_error reading path)]
  simp [Event.error?, hnote]

/-- The names of a file and valid providers, written together, still list the names of the file. -/
theorem exists_readNames_merged {v : Visit} {data : Bytes} {old : NameSet}
    (hvalid : ∀ n ∈ v.providers, Utf8.isValid n = true) (hreading : v.reading = .content data)
    (hold : readNames data = some old) :
    ∃ back : NameSet, readNames (writeNames v.merged) = some back ∧ ∀ n ∈ old.toList, n ∈ back.toList := by
  have hnames : v.reading.names = old := by simp [hreading, Reading.names, hold]
  have hlistable : ∀ n ∈ old.toList, Listable n := fun n hn => listable_of_mem_readNames hold hn
  have hmerged : ∀ n ∈ v.merged, Utf8.isValid n = true := by
    intro n hn
    rcases Visit.mem_merged_iff.mp hn with hn | hn
    · exact (hlistable n (hnames ▸ hn)).valid
    · exact hvalid n hn
  obtain ⟨back, hback, hmem⟩ := mem_readNames_writeNames hmerged
  refine ⟨back, hback, fun n hn => hmem n ?_ (hlistable n hn)⟩
  exact Visit.mem_merged_iff.mpr (.inl (hnames ▸ hn))

section
variable (store : FileStore h) (hstore : store.KeepsUncreated) (s : Settings)

/-- A visit is known by what it adds and by what it leaves in its own file. -/
theorem Retains.of_visit {v : Visit} {es : List (Message τ)} {ws : List (Bytes × Option WriteFailure)}
    {r r' : Run τ σ}
    (hread : v.reading.Shows (store.content r.files v.path))
    (hreadings : r'.readings = r.readings ++ [(v.path, some v.reading)])
    (herrors : r'.errors = r.errors ++ es) (hwrites : r'.writes = r.writes ++ ws)
    (hother : ∀ path, path ≠ v.path → store.content r'.files path = store.content r.files path)
    (hown : (∀ n ∈ v.providers, Utf8.isValid n = true) → ∀ data old, v.reading = .content data →
      readNames data = some old → store.Lists r'.files v.path old ∨ LossReported v.path ws es) :
    Retains store [v.row] [(v.path, some v.reading)] es ws r r' where
  readings := hreadings
  errors := herrors
  writes := hwrites
  visited := by simp [rowPaths, Visit.path, Visit.row]
  other := by simpa [rowPaths, Visit.path, Visit.row] using hother
  kept := by
    intro row hrow hvalid data old hin hold
    obtain rfl : row = v.row := by simpa using hrow
    obtain ⟨-, hreading⟩ := Prod.mk.inj (List.mem_singleton.mp hin)
    replace hreading : v.reading = .content data := (Option.some.inj hreading).symm
    have hcontent : store.content r.files v.path = some data := by
      simpa [hreading, Reading.Shows] using hread
    exact ⟨hcontent, hown hvalid data old hreading hold⟩

/-- A file that is as it was lists what it listed. -/
theorem FileStore.Lists.of_unchanged {v : Visit} {r : Run τ σ} {files : σ} {data : Bytes} {old : NameSet}
    (hread : v.reading.Shows (store.content r.files v.path)) (hreading : v.reading = .content data)
    (hold : readNames data = some old)
    (hsame : store.content files v.path = store.content r.files v.path) : store.Lists files v.path old :=
  ⟨data, old, hsame.trans (by simpa [hreading, Reading.Shows] using hread), hold, fun _ hn => hn⟩

include hstore in
/-- The file of an incomplete visit is written. If that fails after the file was created, there is a
report. -/
theorem settle_writeService_retains {v : Visit} {r : Run τ σ} (r₁ : Run τ σ)
    (hread : v.reading.Shows (store.content r.files v.path))
    (hreadings : r₁.readings = r.readings ++ [(v.path, some v.reading)]) (herrors : r₁.errors = r.errors)
    (hwrites : r₁.writes = r.writes) (hfiles : store.content r₁.files = store.content r.files) :
    ∃ es ws, Retains store [v.row] [(v.path, some v.reading)] es ws r
      (r₁.settle (writeService h .attentive v.path v.merged)) := by
  have hother : ∀ path, path ≠ v.path →
      store.content (h.write v.path (writeNames v.merged) r₁.files).2 path = store.content r.files path :=
    fun path hne => (store.content_write_of_ne _ _ hne).trans (by rw [hfiles])
  rcases hwrite : (h.write v.path (writeNames v.merged) r₁.files).1 with _ | w
  · rw [Run.settle_of_ok (writeService_run hwrite)]
    refine ⟨[], [(v.path, none)], Retains.of_visit store hread (by simpa [Event.reading?] using hreadings)
      (by simpa [Event.error?] using herrors) (by simpa [Event.write?] using hwrites) hother ?_⟩
    intro hvalid data old hreading hold
    obtain ⟨back, hback, hmem⟩ := exists_readNames_merged hvalid hreading hold
    exact .inl ⟨_, back, store.content_write hwrite, hback, hmem⟩
  · obtain ⟨outcome, r₂, hrun, hfiles₂, hreadings₂, hwrites₂, hcases⟩ := writeService_run_failed hwrite
    -- Whether the emission goes on or ends here, the failure is the one error that is added.
    have hsettled : (r₁.settle (writeService h .attentive v.path v.merged)).files = r₂.files ∧
        (r₁.settle (writeService h .attentive v.path v.merged)).readings = r₂.readings ∧
        (r₁.settle (writeService h .attentive v.path v.merged)).writes = r₂.writes ∧
        (r₁.settle (writeService h .attentive v.path v.merged)).errors =
          r₁.errors ++ [⟨w.diagnostic v.path, none, none⟩] := by
      rcases hcases with ⟨rfl, herrors₂⟩ | ⟨rfl, herrors₂, hfatal⟩
      · rw [Run.settle_of_ok hrun]
        exact ⟨rfl, rfl, rfl, herrors₂⟩
      · rw [Run.settle_of_error hrun]
        exact ⟨rfl, by simp, by simp, by simp [herrors₂, hfatal]⟩
    obtain ⟨hfiles', hreadings', hwrites', herrors'⟩ := hsettled
    refine ⟨[⟨w.diagnostic v.path, none, none⟩], [(v.path, some w)],
      Retains.of_visit store hread (by rw [hreadings', hreadings₂, hreadings]) (by rw [herrors', herrors])
        (by rw [hwrites', hwrites₂, hwrites]) (by rw [hfiles', hfiles₂]; exact hother) ?_⟩
    intro hvalid data old hreading hold
    rw [hfiles', hfiles₂]
    by_cases hstage : w.stage = .create
    · obtain ⟨stage, failure⟩ := w
      obtain rfl : stage = .create := hstage
      exact .inl (.of_unchanged store hread hreading hold ((hstore hwrite).trans (by rw [hfiles])))
    · exact .inr ⟨w, hstage, by simp, by simp⟩

include hstore in
theorem settle_emitRow_retains (row : Bytes × List Bytes) (r : Run τ σ) :
    ∃ rs es ws, Retains store [row] rs es ws r (r.settle (emitRow h .attentive s row)) := by
  have hkept := store.content_read (servicePath row.1) r.files
  rcases hread : (h.read (servicePath row.1) r.files).1 with cause | reading
  · have hnote := Run.errors_note r (.workingOn (servicePath row.1)) s (by simp [Diagnostic.severity])
    rw [Run.settle_of_error (emitRow_run_broken s hread)]
    exact ⟨[(servicePath row.1, none)], [⟨.fatal (Failure.broken cause).message, none, none⟩], [],
      { readings := by simp [Event.reading?]
        errors := by simp [Event.error?, hnote]
        writes := by simp [Event.write?]
        visited := by simp [rowPaths]
        other := by simp [hkept]
        kept := by simp }⟩
  obtain ⟨v, rfl, rfl⟩ : ∃ v : Visit, v.row = row ∧ v.reading = reading :=
    ⟨⟨row.1, row.2, reading⟩, rfl, rfl⟩
  have hshows : v.reading.Shows (store.content r.files v.path) := store.shows_read hread
  replace hkept : store.content (h.read v.path r.files).2 = store.content r.files := hkept
  cases hall : v.isComplete with
  | true =>
    rw [Run.settle_of_ok (emitRow_run_complete s hread hall)]
    refine ⟨_, [], [], Retains.of_visit store hshows ?_ ?_ ?_ ?_ ?_⟩
    · simp [Run.afterReading, Event.reading?]
    · rw [Run.errors_note _ _ _ (by simp [Diagnostic.severity]), errors_afterReading, List.append_nil]
    · simp [Run.afterReading, Event.write?]
    · simp [Run.afterReading, hkept]
    · intro _ data old hreading hold
      exact .inl (.of_unchanged store hshows hreading hold (by simp [Run.afterReading, hkept]))
  | false =>
    rw [Run.settle, emitRow_run_incomplete s hread hall, ← Run.settle]
    obtain ⟨es, ws, hv⟩ := settle_writeService_retains store hstore
      ((r.afterReading s v.path v.reading (h.read v.path r.files).2).note s (.newContent v.merged))
      hshows (by simp [Run.afterReading, Event.reading?])
      (by rw [Run.errors_note _ _ _ (by simp [Diagnostic.severity]), errors_afterReading])
      (by simp [Run.afterReading, Event.write?]) (by simpa [Run.afterReading] using hkept)
    exact ⟨_, es, ws, hv⟩

theorem LossReported.mono {path : Bytes} {ws ws' : List (Bytes × Option WriteFailure)}
    {es es' : List (Message τ)} (hloss : LossReported path ws es) (hws : ws ⊆ ws') (hes : es ⊆ es') :
    LossReported path ws' es' := by
  obtain ⟨w, hstage, hwrote, herror⟩ := hloss
  exact ⟨w, hstage, hws hwrote, hes herror⟩

/-- A visit before others, to a file that the others leave alone. -/
theorem Retains.cons {row : Bytes × List Bytes} {rows : List (Bytes × List Bytes)}
    {rs₁ rs₂ : List (Bytes × Option Reading)} {es₁ es₂ : List (Message τ)}
    {ws₁ ws₂ : List (Bytes × Option WriteFailure)} {r r₁ r₂ : Run τ σ} (h₁ : Retains store [row] rs₁ es₁ ws₁ r r₁)
    (h₂ : Retains store rows rs₂ es₂ ws₂ r₁ r₂) (hrow : servicePath row.1 ∉ rowPaths rows) :
    Retains store (row :: rows) (rs₁ ++ rs₂) (es₁ ++ es₂) (ws₁ ++ ws₂) r r₂ where
  readings := by rw [h₂.readings, h₁.readings, List.append_assoc]
  errors := by rw [h₂.errors, h₁.errors, List.append_assoc]
  writes := by rw [h₂.writes, h₁.writes, List.append_assoc]
  visited := by
    intro x hx
    rcases List.mem_append.mp hx with hx | hx
    · have hpath : x.1 = servicePath row.1 := by simpa [rowPaths] using h₁.visited x hx
      simp [rowPaths, hpath]
    · exact List.mem_cons_of_mem _ (h₂.visited x hx)
  other := by
    intro path hpath
    rw [rowPaths, List.map_cons, List.mem_cons, not_or] at hpath
    exact (h₂.other path hpath.2).trans (h₁.other path (by simpa [rowPaths] using hpath.1))
  kept := by
    intro row' hrow' hvalid data old hin hold
    rcases List.mem_cons.mp hrow' with rfl | hrow'
    · -- The file of the first row is not read again, and stays as its own visit left it.
      have hin₁ : (servicePath row'.1, some (Reading.content data)) ∈ rs₁ := by
        rcases List.mem_append.mp hin with hin | hin
        · exact hin
        · exact absurd (h₂.visited _ hin) hrow
      obtain ⟨hcontent, hcases⟩ := h₁.kept row' List.mem_cons_self hvalid data old hin₁ hold
      refine ⟨hcontent, hcases.imp ?_ fun hloss => hloss.mono (by simp) (by simp)⟩
      rintro ⟨data', listed, hdata', hlisted, hsub⟩
      exact ⟨data', listed, (h₂.other _ hrow).trans hdata', hlisted, hsub⟩
    · have hmem : servicePath row'.1 ∈ rowPaths rows :=
        List.mem_map_of_mem (f := fun row => servicePath row.1) hrow'
      have hne : servicePath row'.1 ∉ rowPaths [row] := by
        intro heq
        obtain heq : servicePath row'.1 = servicePath row.1 := by simpa [rowPaths] using heq
        exact hrow (heq ▸ hmem)
      have hin₂ : (servicePath row'.1, some (Reading.content data)) ∈ rs₂ := by
        rcases List.mem_append.mp hin with hin | hin
        · exact absurd (h₁.visited _ hin) hne
        · exact hin
      obtain ⟨hcontent, hcases⟩ := h₂.kept row' hrow' hvalid data old hin₂ hold
      exact ⟨(h₁.other _ hne).symm.trans hcontent,
        hcases.imp_right fun hloss => hloss.mono (by simp) (by simp)⟩

theorem Retains.refl (rows : List (Bytes × List Bytes)) (r : Run τ σ) : Retains store rows [] [] [] r r :=
  ⟨by simp, by simp, by simp, by simp, by simp, by simp⟩

include hstore in
/-- Rows with different interfaces are visited one after another, up to the one where the host breaks
down. -/
theorem settle_emitRows_retains {rows : List (Bytes × List Bytes)}
    (hrows : (rows.map Prod.fst).Pairwise (· < ·)) (r : Run τ σ) :
    ∃ rs es ws, Retains store rows rs es ws r (r.settle (emitRows h .attentive s rows)) := by
  induction rows generalizing r with
  | nil => exact ⟨[], [], [], .refl store [] r⟩
  | cons row rows ih =>
    obtain ⟨hhead, htail⟩ := List.pairwise_cons.mp hrows
    have hnot : servicePath row.1 ∉ rowPaths rows := by
      intro hin
      obtain ⟨row', hrow', hpath⟩ := List.mem_map.mp hin
      have hname : row'.1 = row.1 := servicePath_injective hpath
      exact List.lt_irrefl _ (hname ▸ hhead _ (List.mem_map_of_mem hrow'))
    obtain ⟨rs₁, es₁, ws₁, h₁⟩ := settle_emitRow_retains store hstore s row r
    rcases hrun : (emitRow h .attentive s row).run r with ⟨_ | _, r₁⟩
    · -- The other rows are left out.
      have hall : r.settle (emitRows h .attentive s (row :: rows)) = r.settle (emitRow h .attentive s row) := by
        rw [emitRows, Run.settle_of_error (Step.run_bind_error hrun _), Run.settle_of_error hrun]
      rw [hall]
      exact ⟨_, _, _, h₁.cons store (.refl store rows _) hnot⟩
    · have hall : r.settle (emitRows h .attentive s (row :: rows)) = r₁.settle (emitRows h .attentive s rows) := by
        rw [Run.settle, emitRows, Step.run_bind_ok hrun, ← Run.settle]
      rw [Run.settle_of_ok hrun] at h₁
      obtain ⟨rs₂, es₂, ws₂, h₂⟩ := ih htail r₁
      rw [hall]
      exact ⟨_, _, _, h₁.cons store h₂ hnot⟩

include hstore in
/-- On any host, whatever fails: a service file that was read keeps listing every name that it listed,
unless it was created anew in this emission and could not be written or closed. Then the file was opened for
writing and this failure is among the errors reported. Providers have to be valid text, or else the file
cannot be read any more. -/
theorem emit_retains_names (r : Run τ σ) (hphase : r.phase = .collecting) :
    let r' := ((emit h .attentive s).run r).2
    ∃ rs es ws os, r'.readings = r.readings ++ rs ∧ r'.errors = r.errors ++ es ∧
      r'.writes = r.writes ++ ws ∧ r'.opened = r.opened ++ os ∧
      ∀ interface providers, (interface, providers) ∈ r.index.rows →
        (∀ n ∈ providers, Utf8.isValid n = true) →
        ∀ data old, (servicePath interface, some (.content data)) ∈ rs → readNames data = some old →
          store.content r.files (servicePath interface) = some data ∧
          ((∃ data' listed, store.content r'.files (servicePath interface) = some data' ∧
              readNames data' = some listed ∧ ∀ n ∈ old.toList, n ∈ listed.toList) ∨
            ∃ w, w.stage ≠ .create ∧ (servicePath interface, some w) ∈ ws ∧ servicePath interface ∈ os ∧
              ⟨w.diagnostic (servicePath interface), none, none⟩ ∈ es) := by
  intro r'
  obtain ⟨rs, es, ws, hv⟩ :=
    settle_emitRows_retains store hstore s r.index.ascending_rows (r.setPhase .emitting)
  have hemit : r' = ((r.setPhase .emitting).settle (emitRows h .attentive s r.index.rows)).setPhase .done := by
    rw [show r' = ((emit h .attentive s).run r).2 from rfl, Step.run_emit_attentive h s hphase]
  have hwrites : r'.writes = r.writes ++ ws := by
    rw [hemit]
    exact hv.writes
  refine ⟨rs, es, ws, ws.filterMap fun w => (Event.wrote w.1 w.2 : Event τ).opened?, ?_, ?_, hwrites, ?_, ?_⟩
  · rw [hemit]
    exact hv.readings
  · rw [hemit]
    exact hv.errors
  · rw [Run.opened_eq_writes, hwrites, List.filterMap_append, ← Run.opened_eq_writes]
  · intro interface providers hrow hvalid data old hread hold
    obtain ⟨hcontent, hlists | ⟨w, hstage, hwrote, herror⟩⟩ := hv.kept _ hrow hvalid data old hread hold
    · rw [hemit]
      exact ⟨hcontent, .inl hlists⟩
    · refine ⟨hcontent, .inr ⟨w, hstage, hwrote, List.mem_filterMap.mpr ⟨_, hwrote, ?_⟩, herror⟩⟩
      simp [Event.opened?, hstage]

end

theorem MemoryFiles.keepsUncreated_store (f : TypeFacts) : (store f).KeepsUncreated := by
  intro path data m failure hwrite
  simp only [memoryHost, write] at hwrite ⊢
  split at hwrite
  · rfl
  · split at hwrite
    · simp at hwrite
    · simp at hwrite

/-- Two files that list a name each. The first one cannot be created, the second one cannot be written. -/
def fullDiskRun : Run Bytes MemoryFiles where
  index := Index.add (Index.add ∅ "A" "p") "B" "q"
  files :=
    { contents := .ofList [(servicePath "A", "old # kept\n"), (servicePath "B", "old\n")]
      faults := { creating := .ofList [(servicePath "A", "denied")]
                  writing := .ofList [(servicePath "B", "disk full")] } }

theorem emit_retains_names_uncreated :
    let r' := ((emit (memoryHost {}) .attentive {}).run fullDiskRun).2
    fullDiskRun.phase = .collecting ∧ (MemoryFiles.store {}).KeepsUncreated ∧
      r'.opened = [servicePath "B"] ∧
      r'.errors.map (·.diagnostic.text) =
        ["FatalError: Unable to create META-INF/services/A, denied",
          "FatalError: Unable to create META-INF/services/B, registry write: disk full"] ∧
      ∃ data listed, r'.files.contents.get? (servicePath "A") = some data ∧ readNames data = some listed ∧
        Bytes.ofString "old" ∈ listed.toList := by
  intro r'
  have hopened : r'.opened = [servicePath "B"] := by decide +kernel
  obtain ⟨rs, es, ws, os, hreadings, -, -, hos, hkept⟩ := emit_retains_names (MemoryFiles.store {})
    (MemoryFiles.keepsUncreated_store {}) {} fullDiskRun rfl
  have hrs : rs = r'.readings := by
    rw [show r'.readings = _ from hreadings]
    rfl
  obtain rfl : os = [servicePath "B"] := by
    rw [← hopened, show r'.opened = _ from hos]
    rfl
  have hin : (servicePath "A", some (Reading.content "old # kept\n")) ∈ rs := by
    rw [hrs]
    decide +kernel
  have hold : (readNames "old # kept\n").map NameSet.toList = some [Bytes.ofString "old"] := by decide +kernel
  obtain ⟨old, hold, hnames⟩ := Option.map_eq_some_iff.mp hold
  obtain ⟨-, ⟨data, listed, hdata, hlisted, hsub⟩ | ⟨w, -, -, hmem, -⟩⟩ :=
    hkept "A" ["p"] (by decide +kernel) (by decide +kernel) _ old hin hold
  · exact ⟨rfl, MemoryFiles.keepsUncreated_store {}, hopened, by decide +kernel, data, listed, hdata, hlisted,
      hsub _ (by simp [hnames])⟩
  · exact absurd hmem (by decide +kernel)

/-- A provider whose name is no valid text. -/
def invalidNameRun : Run Bytes MemoryFiles where
  index := Index.add ∅ "A" [0xff]
  files := { contents := .ofList [(servicePath "A", "old\n")] }

/-- A file that was read does not list its names any more when it was emptied and could not be written, nor
when a provider without a valid name was written beside them. -/
theorem emit_loses_names :
    ∃ old, readNames "old\n" = some old ∧ old.toList = [Bytes.ofString "old"] ∧
      ((servicePath "B", some (Reading.content "old\n")) ∈ ((emit (memoryHost {}) .attentive {}).run fullDiskRun).2.readings ∧
        ¬ (MemoryFiles.store {}).Lists ((emit (memoryHost {}) .attentive {}).run fullDiskRun).2.files (servicePath "B") old) ∧
      (servicePath "A", some (Reading.content "old\n")) ∈ ((emit (memoryHost {}) .attentive {}).run invalidNameRun).2.readings ∧
        invalidNameRun.files.Writable ∧
        ¬ (MemoryFiles.store {}).Lists ((emit (memoryHost {}) .attentive {}).run invalidNameRun).2.files (servicePath "A") old := by
  have hold : (readNames "old\n").map NameSet.toList = some [Bytes.ofString "old"] := by decide +kernel
  have hemptied : (MemoryFiles.store {}).content ((emit (memoryHost {}) .attentive {}).run fullDiskRun).2.files
      (servicePath "B") = some [] := by decide +kernel
  have hinvalid : (MemoryFiles.store {}).content ((emit (memoryHost {}) .attentive {}).run invalidNameRun).2.files
      (servicePath "A") = some (writeNames ["old", [0xff]]) := by decide +kernel
  obtain ⟨old, hold, hnames⟩ := Option.map_eq_some_iff.mp hold
  refine ⟨old, hold, hnames, ⟨by decide +kernel, ?_⟩, by decide +kernel, fun _ => ⟨rfl, rfl, rfl, rfl⟩, ?_⟩
  · rintro ⟨data, listed, hdata, hlisted, hsub⟩
    obtain rfl : [] = data := Option.some.inj (hemptied.symm.trans hdata)
    have hempty : (readNames []).map NameSet.toList = some [] := by decide +kernel
    rw [hlisted, Option.map_some, Option.some.injEq] at hempty
    simpa [hempty] using hsub "old" (by simp [hnames])
  · rintro ⟨data, listed, hdata, hlisted, -⟩
    obtain rfl := Option.some.inj (hinvalid.symm.trans hdata)
    have hnone : (readNames (writeNames ["old", [0xff]])).isNone = true := by decide +kernel
    simp [hlisted] at hnone

end ServiceAnnotations.Registry
