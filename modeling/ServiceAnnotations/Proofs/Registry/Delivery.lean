import ServiceAnnotations.Proofs.Registry.Rerun

/-! # The order of delivery

When nothing fails, a run depends on the set of declarations that it is shown, not on their order, on
repetitions, or on how they are divided into rounds. The index is a set of pairs, and what is written
follows from the index and the files alone. -/
namespace ServiceAnnotations.Registry

variable {τ σ : Type}

theorem tight_foldl_addTo {fs : List (Finding τ)} {idx : Index} (hidx : idx.Tight) :
    (fs.foldl Finding.addTo idx).Tight := by
  rw [foldl_addTo]
  exact hidx.addAll _

theorem tight_answerAll (h : Host τ σ) (s : Settings) {qs : List (Request τ)} {r : Run τ σ}
    (hqs : ∀ q ∈ qs, q.Gathers) (hphase : r.phase = .collecting) (hr : r.index.Tight) :
    (answerAll h .attentive s qs r).index.Tight := by
  induction qs generalizing r with
  | nil => exact hr
  | cons q qs ih =>
    obtain ⟨fs, hfs⟩ := answer_examines h s q r (hqs q List.mem_cons_self) hphase
    have hr' : (answer h .attentive s r q).index.Tight := by
      rw [hfs.index]
      exact tight_foldl_addTo hr
    exact ih (fun q hq => hqs q (List.mem_cons_of_mem _ hq)) (hfs.phase.trans hphase) hr'

theorem gathers_process {s : Settings} {rounds : List (Round τ)} {shown : List (List (Element τ))}
    (hrounds : List.Forall₂ (Round.Shows s) rounds shown) :
    ∀ q ∈ rounds.map Request.process, q.Gathers := by
  induction hrounds with
  | nil => simp
  | cons hround _ ih => simpa [Request.Gathers, hround.1] using ih

def Visit.over (content : Bytes → Option Bytes) (row : Bytes × List Bytes) : Visit where
  interface := row.1
  providers := row.2
  reading := .ofContent (content (servicePath row.1))

section
variable {h : Host τ σ} {store : FileStore h} {ok : σ → Prop}

theorem emit_reliable {exact erased : τ → τ → Bool} (hrel : store.Reliable ok exact erased)
    (s : Settings) (r : Run τ σ) (hphase : r.phase = .collecting) (hr : ok r.files) :
    ∃ r', (emit h .attentive s).run r = (.ok none, r'.setPhase .done) ∧
      Visited store ok (r.index.rows.map (Visit.over (store.content r.files))) r r' := by
  obtain ⟨vs, r', hemit, -, hrows, hv⟩ := emit_visited store s hrel.toWrites r hphase hr
  have hvs : vs = r.index.rows.map (Visit.over (store.content r.files)) := by
    rw [← hrows, List.map_map]
    refine (List.map_id vs).symm.trans (List.map_congr_left fun v hvin => ?_)
    obtain ⟨files, hok, hsame, hread⟩ := hv.read v hvin
    rw [hrel.reads v.path hok, hsame] at hread
    have hreading : v.reading = .ofContent (store.content r.files v.path) := (Except.ok.inj hread).symm
    exact congrArg (Visit.mk v.interface v.providers) hreading
  exact ⟨r', hemit, hvs ▸ hv⟩

/-- The same visits leave the same behind in files with the same contents. -/
theorem Visited.content_eq {vs : List Visit} {r₁ r₁' r₂ r₂' : Run τ σ}
    (hv : Visited store ok vs r₁ r₂) (hv' : Visited store ok vs r₁' r₂')
    (hsame : store.content r₁'.files = store.content r₁.files) :
    store.content r₂'.files = store.content r₂.files := by
  funext path
  by_cases hpath : path ∈ vs.map Visit.path
  · obtain ⟨v, hvin, rfl⟩ := List.mem_map.mp hpath
    cases hcomplete : v.isComplete with
    | true => rw [hv.complete v hvin hcomplete, hv'.complete v hvin hcomplete, hsame]
    | false => rw [hv.written v hvin hcomplete, hv'.written v hvin hcomplete]
  · rw [hv.other path hpath, hv'.other path hpath, hsame]

end

theorem answerAll_last {h : Host τ σ} {s : Settings} {qs : List (Request τ)} {last : Round τ}
    {r r' : Run τ σ} (hlast : last.isLast = .ok true)
    (hemit : (emit h .attentive s).run (answerAll h .attentive s qs r) = (.ok none, r')) :
    answerAll h .attentive s (qs ++ [.process last]) r = r' := by
  rw [answerAll_append]
  exact answer_last hlast hemit

/-- Two runs over the same files that are shown the same set of declarations have the same index, leave
the same contents behind and open the same files for writing in the same order, when nothing fails. -/
theorem delivery_irrelevant {h : Host τ σ} (store : FileStore h) {ok : σ → Prop}
    {exact erased : τ → τ → Bool} (hrel : store.Reliable ok exact erased) (s : Settings)
    {rounds rounds' : List (Round τ)} {shown shown' : List (List (Element τ))} {last last' : Round τ}
    (hrounds : List.Forall₂ (Round.Shows s) rounds shown) (hlast : last.isLast = .ok true)
    (hrounds' : List.Forall₂ (Round.Shows s) rounds' shown') (hlast' : last'.isLast = .ok true)
    (hsame : ∀ e, e ∈ shown'.flatten ↔ e ∈ shown.flatten) (hshown : ∀ e ∈ shown.flatten, e.Sound)
    {files files' : σ} (hfiles : ok files) (hfiles' : ok files')
    (hcontent : store.content files' = store.content files) :
    let collected := answerAll h .attentive s (rounds.map .process) { files }
    let collected' := answerAll h .attentive s (rounds'.map .process) { files := files' }
    let r := answerAll h .attentive s (rounds.map .process ++ [.process last]) { files }
    let r' := answerAll h .attentive s (rounds'.map .process ++ [.process last']) { files := files' }
    collected'.index.rows = collected.index.rows ∧
      r.phase = .done ∧ r'.phase = .done ∧ r.index = collected.index ∧ r'.index = r.index ∧
      store.content r'.files = store.content r.files ∧ r'.opened = r.opened := by
  intro collected collected' r r'
  obtain ⟨hphase, hok, hkept, hopened, hlists⟩ :=
    answerAll_process_reliable hrel hrounds hshown { files } rfl hfiles
  obtain ⟨hphase', hok', hkept', hopened', hlists'⟩ := answerAll_process_reliable hrel hrounds'
    (fun e he => hshown e ((hsame e).mp he)) { files := files' } rfl hfiles'
  have hindex : collected'.index = collected.index := by
    have htight := tight_answerAll h s (gathers_process hrounds) (r := { files }) rfl Index.tight_empty
    have htight' :=
      tight_answerAll h s (gathers_process hrounds') (r := { files := files' }) rfl Index.tight_empty
    refine htight'.ext_lists htight fun i p => ?_
    rw [hlists i p, hlists' i p]
    simp only [hsame]
  obtain ⟨r₂, hemit, hv⟩ := emit_reliable hrel s collected hphase hok
  obtain ⟨r₂', hemit', hv'⟩ := emit_reliable hrel s collected' hphase' hok'
  have hr : r = r₂.setPhase .done := answerAll_last hlast hemit
  have hr' : r' = r₂'.setPhase .done := answerAll_last hlast' hemit'
  have hcollected : store.content collected'.files = store.content collected.files :=
    hkept'.trans (hcontent.trans hkept.symm)
  rw [hindex, hcollected] at hv'
  have hwritten : store.content r₂'.files = store.content r₂.files := hv.content_eq hv' hcollected
  have hnone : collected'.opened = collected.opened := hopened'.trans hopened.symm
  have hopened₂ : r₂'.opened = r₂.opened := by rw [hv'.opened, hv.opened, hnone]
  rw [hr, hr']
  exact ⟨by rw [hindex], rfl, rfl, hv.index, hv'.index.trans (hindex.trans hv.index.symm), hwritten, hopened₂⟩

/-- The declarations of `twoShown`, some of them repeatedly, in rounds of which one is empty. -/
def twoShownOften : List (List (Element Bytes)) :=
  [[plainProvider "q" (.type (plainType "B"))], [],
    [plainProvider "q" (.type (plainType "B")), plainProvider "p" (.type (plainType "A")),
      plainProvider "p" (.type (plainType "A"))]]

theorem delivery_irrelevant_two :
    (twoRun twoShown twoFiles).index.rows =
        [(Bytes.ofString "A", [Bytes.ofString "p"]), (Bytes.ofString "B", [Bytes.ofString "q"])] ∧
      (twoRun twoShownOften twoFiles).index = (twoRun twoShown twoFiles).index ∧
      (twoRun twoShownOften twoFiles).files.contents.get? (servicePath "A") =
        some (Bytes.ofString "p\nz\n") ∧
      (twoRun twoShownOften twoFiles).opened = [servicePath "A", servicePath "B"] := by
  have hfiles : twoFiles.Faultless := ⟨fun _ => ⟨rfl, rfl, rfl, rfl⟩, fun _ => ⟨rfl, rfl⟩⟩
  have hshown : List.Forall₂ (Round.Shows { verify := true }) (twoShown.map (Round.of (.ok false)))
      twoShown := .cons ⟨rfl, rfl⟩ .nil
  have hoften : List.Forall₂ (Round.Shows { verify := true }) (twoShownOften.map (Round.of (.ok false)))
      twoShownOften := .cons ⟨rfl, rfl⟩ (.cons ⟨rfl, rfl⟩ (.cons ⟨rfl, rfl⟩ .nil))
  have hlast : (Round.of (.ok true) ([] : List (Element Bytes))).isLast = .ok true := rfl
  obtain ⟨-, -, -, -, hindex, hcontent, hopened⟩ :=
    delivery_irrelevant (MemoryFiles.store twoFacts) (MemoryFiles.reliable_store twoFacts ⟨rfl, rfl, rfl⟩)
      { verify := true } hshown hlast hoften hlast (by simp [twoShown, twoShownOften, or_comm])
      (by simp [twoShown, sound_plainProvider]) hfiles hfiles rfl
  rw [← twoRun, ← twoRun] at hcontent
  have hfile := congrFun hcontent (servicePath "A")
  simp only [MemoryFiles.store] at hfile
  have hopens : (twoRun twoShownOften twoFiles).opened = (twoRun twoShown twoFiles).opened := hopened
  refine ⟨by decide +kernel, hindex, ?_, ?_⟩
  · rw [hfile]
    decide +kernel
  · rw [hopens]
    decide +kernel

end ServiceAnnotations.Registry
