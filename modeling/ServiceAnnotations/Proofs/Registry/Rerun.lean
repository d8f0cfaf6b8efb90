import ServiceAnnotations.Proofs.Registry.Reliable

/-! # Running again

A run leaves files behind that list everything it collected. Over them, a run that collects the same
has nothing to write. -/
namespace ServiceAnnotations.Registry

variable {τ σ : Type}

theorem Reading.listable_of_mem_names {reading : Reading} {n : Bytes}
    (hn : n ∈ reading.names.toList) : Listable n := by
  cases reading with
  | content data =>
    simp only [Reading.names] at hn
    cases hnames : readNames data with
    | none => simp [hnames] at hn
    | some names =>
      rw [hnames] at hn
      exact listable_of_mem_readNames hnames hn
  | _ => simp [Reading.names] at hn

/-- Names that a service file can list are read back from it. -/
theorem Reading.mem_names_ofContent {names : List Bytes} (hnames : ∀ n ∈ names, Listable n) {n : Bytes}
    (hn : n ∈ names) : n ∈ (Reading.ofContent (some (writeNames names))).names.toList := by
  rw [Reading.ofContent, Reading.names, readNames_writeNames hnames]
  exact NameSet.mem_toList_ofNames.mpr hn

/-- A visited file lists the providers it was visited for. -/
theorem Visited.mem_names {h : Host τ σ} {store : FileStore h} {ok : σ → Prop} {vs : List Visit}
    {r r' : Run τ σ} (hv : Visited store ok vs r r') {v : Visit} (hvin : v ∈ vs)
    (hreading : v.reading = .ofContent (store.content r.files v.path))
    (hproviders : ∀ p ∈ v.providers, Listable p) :
    ∀ p ∈ v.providers, p ∈ (Reading.ofContent (store.content r'.files v.path)).names.toList := by
  intro p hp
  cases hcomplete : v.isComplete with
  | true =>
    rw [hv.complete v hvin hcomplete, ← hreading]
    exact Visit.isComplete_iff.mp hcomplete p hp
  | false =>
    rw [hv.written v hvin hcomplete]
    refine Reading.mem_names_ofContent ?_ (Visit.mem_merged_iff.mpr (.inr hp))
    intro n hn
    rcases Visit.mem_merged_iff.mp hn with hn | hn
    · exact Reading.listable_of_mem_names hn
    · exact hproviders n hn

/-- Over the files that a run leaves behind, a second run that is shown the same declarations, in any
order and any rounds, opens no file for writing and changes none. Nothing fails in either run, and the
names of all providers can be listed. -/
theorem rerun_opens_nothing {h : Host τ σ} (store : FileStore h) {ok : σ → Prop}
    {exact erased : τ → τ → Bool} (hrel : store.Reliable ok exact erased) (s : Settings)
    {rounds rounds' : List (Round τ)} {shown shown' : List (List (Element τ))} {last last' : Round τ}
    (hrounds : List.Forall₂ (Round.Shows s) rounds shown) (hlast : last.isLast = .ok true)
    (hrounds' : List.Forall₂ (Round.Shows s) rounds' shown') (hlast' : last'.isLast = .ok true)
    (hsame : ∀ e, e ∈ shown'.flatten ↔ e ∈ shown.flatten) (hshown : ∀ e ∈ shown.flatten, e.Sound)
    (hnames : ∀ e ∈ shown.flatten, ∀ i p, e.Provides s exact erased i p → Listable p)
    (files : σ) (hfiles : ok files) :
    let r := answerAll h .attentive s (rounds.map .process ++ [.process last]) { files }
    r.phase = .done ∧ ok r.files ∧ ∀ files', ok files' → store.content files' = store.content r.files →
      let r' := answerAll h .attentive s (rounds'.map .process ++ [.process last']) { files := files' }
      r'.phase = .done ∧ r'.opened = [] ∧ store.content r'.files = store.content r.files := by
  intro r
  obtain ⟨vs, r₁, r₂, hr, hok, hv, -, hkept, hreading, hprovides⟩ :=
    answerAll_session_reliable hrel hrounds hlast hshown files hfiles
  have hr' : r = r₂.setPhase .done := hr
  rw [hr']
  refine ⟨rfl, hok, fun files' hfiles' hcontent => ?_⟩
  obtain ⟨vs', r₁', r₂', hr', -, hv', hopened', hkept', hreading', hprovides'⟩ :=
    answerAll_session_reliable hrel hrounds' hlast' (fun e he => hshown e ((hsame e).mp he)) files' hfiles'
  have hcomplete : ∀ v' ∈ vs', v'.isComplete = true := by
    intro v' hvin'
    refine Visit.isComplete_iff.mpr fun p hp => ?_
    obtain ⟨e, he, hep⟩ := (hprovides' v'.interface p).mp ⟨v', hvin', rfl, hp⟩
    obtain ⟨v, hvin, hinterface, hpv⟩ := (hprovides v'.interface p).mpr ⟨e, (hsame e).mp he, hep⟩
    have hlistable : ∀ q ∈ v.providers, Listable q := by
      intro q hq
      obtain ⟨d, hd, hdq⟩ := (hprovides v.interface q).mp ⟨v, hvin, rfl, hq⟩
      exact hnames d hd _ _ hdq
    have hlisted := hv.mem_names hvin (hkept ▸ hreading v hvin) hlistable p hpv
    have hpath : v.path = v'.path := by simp [Visit.path, hinterface]
    rwa [hreading' v' hvin', hcontent, ← hpath]
  rw [hr']
  refine ⟨rfl, ?_, ?_⟩
  · have hnone : vs'.filter (!·.isComplete) = [] := by
      simpa [List.filter_eq_nil_iff] using hcomplete
    rw [Run.opened_setPhase, hv'.opened, hopened', hnone]
    rfl
  · rw [← hcontent]
    funext path
    by_cases hpath : path ∈ vs'.map Visit.path
    · obtain ⟨v', hvin', rfl⟩ := List.mem_map.mp hpath
      exact (hv'.complete v' hvin' (hcomplete v' hvin')).trans (by rw [hkept'])
    · exact (hv'.other path hpath).trans (by rw [hkept'])

/-- A host on which one type conforms to an interface and another one to some instance of one. -/
def twoFacts : TypeFacts := { exact := [("p", "A")], raw := [("q", "B")] }

def twoRun (shown : List (List (Element Bytes))) (files : MemoryFiles) : Run Bytes MemoryFiles :=
  answerAll (memoryHost twoFacts) .attentive { verify := true }
    ((shown.map (Round.of (.ok false))).map .process ++ [.process (Round.of (.ok true) [])]) { files }

def twoShown : List (List (Element Bytes)) :=
  [[plainProvider "p" (.type (plainType "A")), plainProvider "q" (.type (plainType "B"))]]

/-- The same declarations, the other way round and in rounds of their own. -/
def twoShownAgain : List (List (Element Bytes)) :=
  [[plainProvider "q" (.type (plainType "B"))], [], [plainProvider "p" (.type (plainType "A"))]]

def twoFiles : MemoryFiles := ⟨.ofList [(servicePath "A", "# old\r\nz # kept")], {}⟩

theorem sound_plainProvider (name i : Bytes) : (plainProvider name (.type (plainType i))).Sound where
  decl := ⟨.concrete, rfl⟩
  outer := by simp [plainProvider]
  named := by
    simp [plainProvider, Element.annots, Annot.interfaces?, Annot.value?, Value.types?, plainType]

theorem eq_of_provides_plainProvider {s : Settings} {exact erased : Bytes → Bytes → Bool}
    {name i j p : Bytes} (h : (plainProvider name (.type (plainType i))).Provides s exact erased j p) :
    p = name := by
  obtain ⟨provider, _, _, _, -, ht, -, -, -, -, -, hp⟩ := h
  obtain rfl := Option.some.inj ht
  exact (Except.ok.inj hp).symm

theorem rerun_opens_nothing_two :
    (twoRun twoShown twoFiles).opened = [servicePath "A", servicePath "B"] ∧
      (twoRun twoShown twoFiles).files.contents.get? (servicePath "A") = some (Bytes.ofString "p\nz\n") ∧
      (twoRun twoShownAgain (twoRun twoShown twoFiles).files).opened = [] := by
  have hfiles : twoFiles.Faultless := ⟨fun _ => ⟨rfl, rfl, rfl, rfl⟩, fun _ => ⟨rfl, rfl⟩⟩
  have hnames : ∀ e ∈ twoShown.flatten, ∀ i p, e.Provides { verify := true }
      (fun t i => twoFacts.exact.contains (t, i))
      (fun t i => twoFacts.exact.contains (t, i) || twoFacts.raw.contains (t, i)) i p → Listable p := by
    simp only [twoShown, List.flatten_cons, List.flatten_nil, List.append_nil, List.mem_cons,
      List.not_mem_nil, or_false]
    rintro e (rfl | rfl) i p hp
    · rw [eq_of_provides_plainProvider hp]; decide
    · rw [eq_of_provides_plainProvider hp]; decide
  have hshown : List.Forall₂ (Round.Shows { verify := true }) (twoShown.map (Round.of (.ok false)))
      twoShown := .cons ⟨rfl, rfl⟩ .nil
  have hagain : List.Forall₂ (Round.Shows { verify := true }) (twoShownAgain.map (Round.of (.ok false)))
      twoShownAgain := .cons ⟨rfl, rfl⟩ (.cons ⟨rfl, rfl⟩ (.cons ⟨rfl, rfl⟩ .nil))
  have hlast : (Round.of (.ok true) ([] : List (Element Bytes))).isLast = .ok true := rfl
  obtain ⟨-, hok, hrerun⟩ := rerun_opens_nothing (MemoryFiles.store twoFacts)
    (MemoryFiles.reliable_store twoFacts ⟨rfl, rfl, rfl⟩) { verify := true } hshown hlast hagain hlast
    (by simp [twoShown, twoShownAgain, or_comm]) (by simp [twoShown, sound_plainProvider]) hnames
    twoFiles hfiles
  obtain ⟨-, hopened, -⟩ := hrerun _ hok rfl
  exact ⟨by decide +kernel, by decide +kernel, hopened⟩

end ServiceAnnotations.Registry
