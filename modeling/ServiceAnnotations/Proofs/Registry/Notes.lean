import ServiceAnnotations.Proofs.Registry.Collection

/-! # Notes decide nothing

A registrar that reports notes is compared with one that does not. As long as the host takes the notes,
every step of the one, with its notes left out, is a step of the other, on any host and whatever else
fails. So a run is known from the quiet run, which depends on the options only by what is there of
`verify` and `debug`. -/
namespace ServiceAnnotations.Registry

variable {τ σ α β : Type}

def Message.isNote (m : Message τ) : Bool := m.diagnostic.severity = .note

def Event.message? : Event τ → Option (Message τ)
  | .message m => some m
  | _ => none

def Event.query? : Event τ → Option (Query τ)
  | .asked q => some q
  | _ => none

def Event.isNote (e : Event τ) : Bool := e.message?.any Message.isNote

namespace Run

def messages (r : Run τ σ) : List (Message τ) := r.events.filterMap Event.message?

def queries (r : Run τ σ) : List (Query τ) := r.events.filterMap Event.query?

def withoutNotes (r : Run τ σ) : Run τ σ := { r with events := r.events.filter (!·.isNote) }

end Run

/-- A host takes what it is told if it does not break down over it, nor change. -/
def Listener.Takes (l : Listener τ σ) (e : Event τ) : Prop := ∀ files, l e files = (none, files)

def NotesTaken (l : Listener τ σ) (events : List (Event τ)) : Prop :=
  ∀ e ∈ events, e.isNote = true → l.Takes e

/-- Events that go like those of a quiet run up to the first note that the host does not take. -/
def FollowsToNote (l : Listener τ σ) (events quiet : List (Event τ)) : Prop :=
  ∃ before e after, events = before ++ e :: after ∧ NotesTaken l before ∧ e.isNote = true ∧ ¬ l.Takes e ∧
    before.filter (!·.isNote) <+: quiet

def Settings.quiet (s : Settings) : Settings := { s with debug := false }

section
variable (r : Run τ σ)

theorem withoutNotes_withoutNotes : r.withoutNotes.withoutNotes = r.withoutNotes := by
  simp [Run.withoutNotes]

@[simp] theorem phase_withoutNotes : r.withoutNotes.phase = r.phase := rfl
@[simp] theorem index_withoutNotes : r.withoutNotes.index = r.index := rfl
@[simp] theorem files_withoutNotes : r.withoutNotes.files = r.files := rfl

@[simp] theorem queries_withoutNotes : r.withoutNotes.queries = r.queries := by
  rw [Run.queries, Run.queries, Run.withoutNotes, List.filterMap_filter]
  refine congrArg (List.filterMap · r.events) (funext fun e => ?_)
  cases e with
  | message m => simp [Event.query?]
  | _ => rfl

@[simp] theorem opened_withoutNotes : r.withoutNotes.opened = r.opened := by
  rw [Run.opened, Run.opened, Run.withoutNotes, List.filterMap_filter]
  refine congrArg (List.filterMap · r.events) (funext fun e => ?_)
  cases e with
  | message m => simp [Event.opened?]
  | _ => rfl

theorem messages_withoutNotes : r.withoutNotes.messages = r.messages.filter (!·.isNote) := by
  rw [Run.messages, Run.messages, Run.withoutNotes, List.filterMap_filter, List.filter_filterMap]
  refine congrArg (List.filterMap · r.events) (funext fun e => ?_)
  cases e with
  | message m => simp [Event.isNote, Event.message?, Option.filter]
  | _ => rfl

theorem withoutNotes_record {e : Event τ} (he : e.isNote = false) :
    (r.record e).withoutNotes = r.withoutNotes.record e := by
  simp [Run.withoutNotes, Run.record, he]

theorem withoutNotes_record_note {e : Event τ} (he : e.isNote = true) :
    (r.record e).withoutNotes = r.withoutNotes := by
  simp [Run.withoutNotes, Run.record, he]

theorem queries_record (e : Event τ) : (r.record e).queries = r.queries ++ e.query?.toList := by
  cases h : e.query? <;> simp [Run.queries, Run.record, h]

theorem NotesTaken.of_prefix {l : Listener τ σ} {es es' : List (Event τ)} (h : NotesTaken l es')
    (hes : es <+: es') : NotesTaken l es :=
  fun e he => h e (hes.subset he)

theorem FollowsToNote.mono {l : Listener τ σ} {es es' quiet quiet' : List (Event τ)}
    (h : FollowsToNote l es quiet) (hes : es <+: es') (hquiet : quiet <+: quiet') :
    FollowsToNote l es' quiet' := by
  obtain ⟨before, e, after, rfl, htaken, he, hnot, hbefore⟩ := h
  obtain ⟨more, rfl⟩ := hes
  exact ⟨before, e, after ++ more, by simp, htaken, he, hnot, hbefore.trans hquiet⟩

end

/-- A step that goes like another one, its notes left out, up to the first note that the host does not
take. It asks nothing unless types are checked, and the other one reports no note. -/
structure Step.Quiets (l : Listener τ σ) (verify : Bool) (x y : Step τ σ α) : Prop where
  run : ∀ r, NotesTaken l (x.run r).2.events →
    y.run r.withoutNotes = ((x.run r).1, (x.run r).2.withoutNotes)
  follows : ∀ r, NotesTaken l r.events → ¬ NotesTaken l (x.run r).2.events →
    FollowsToNote l (x.run r).2.events (y.run r.withoutNotes).2.events
  grows : ∀ r, r.events <+: (x.run r).2.events
  quietGrows : ∀ r, r.withoutNotes = r → r.events <+: (y.run r).2.events
  asks : verify = false → ∀ r, (x.run r).2.queries = r.queries
  silent : ∀ r, r.withoutNotes = r → (y.run r).2.withoutNotes = (y.run r).2

namespace Step.Quiets
variable {l : Listener τ σ} {v : Bool}

/-- A step that reports no note goes like itself. -/
theorem of_noteless {x : Step τ σ α}
    (hrun : ∀ r, x.run r.withoutNotes = ((x.run r).1, (x.run r).2.withoutNotes))
    (hgrows : ∀ r, ∃ es, (x.run r).2.events = r.events ++ es ∧ ∀ e ∈ es, e.isNote = false)
    (hasks : v = false → ∀ r, (x.run r).2.queries = r.queries) : Quiets l v x x where
  run r _ := hrun r
  follows r htaken hnot := by
    obtain ⟨es, hes, hnoteless⟩ := hgrows r
    refine absurd (fun e he hnote => ?_) hnot
    rcases List.mem_append.mp (hes ▸ he) with he | he
    · exact htaken e he hnote
    · simp [hnoteless e he] at hnote
  grows r := by
    obtain ⟨es, hes, -⟩ := hgrows r
    exact hes ▸ List.prefix_append _ _
  quietGrows r _ := by
    obtain ⟨es, hes, -⟩ := hgrows r
    exact hes ▸ List.prefix_append _ _
  asks := hasks
  silent r hr := by
    have hx := hrun r
    rw [hr] at hx
    exact (congrArg Prod.snd hx).symm

theorem of_pure (a : α) : Quiets l v (pure a : Step τ σ α) (pure a) :=
  of_noteless (fun _ => rfl) (fun _ => ⟨[], by simp, by simp⟩) fun _ _ => rfl

theorem of_throw (f : Failure) : Quiets l v (throw f : Step τ σ α) (throw f) :=
  of_noteless (fun _ => rfl) (fun _ => ⟨[], by simp, by simp⟩) fun _ _ => rfl

theorem of_orBroken (x : Except Bytes α) : Quiets l v (orBroken x : Step τ σ α) (orBroken x) := by
  cases x with
  | error cause => exact of_throw _
  | ok a => exact of_pure a

theorem of_liftM (x : Except Failure α) : Quiets l v (liftM x : Step τ σ α) (liftM x) := by
  cases x with
  | error f => exact of_throw f
  | ok a => exact of_pure a

theorem of_callHost (call : σ → α × σ) : Quiets l v (callHost call : Step τ σ α) (callHost call) :=
  of_noteless (fun _ => rfl) (fun _ => ⟨[], by simp [Run.setFiles], by simp⟩) fun _ _ => rfl

/-- A change of a run that leaves its events alone. -/
theorem of_modify {f : Run τ σ → Run τ σ} (hf : ∀ r, (f r).withoutNotes = f r.withoutNotes)
    (hevents : ∀ r, (f r).events = r.events) : Quiets l v (modify f : Step τ σ Unit) (modify f) :=
  of_noteless (fun r => congrArg (Prod.mk _) (hf r).symm) (fun r => ⟨[], by simp [hevents], by simp⟩)
    fun _ r => congrArg (List.filterMap Event.query?) (hevents r)

private theorem quietGrows_bind {x : α → Step τ σ β} {y : Step τ σ α} {m : α → Step τ σ β}
    (hm : ∀ a, Quiets l v (x a) (m a)) {r : Run τ σ} (hr : (y.run r).2.withoutNotes = (y.run r).2) :
    (y.run r).2.events <+: ((y >>= m).run r).2.events := by
  rcases hrun : y.run r with ⟨f | a, r'⟩
  · simp [run_bind_error hrun]
  · rw [hrun] at hr
    rw [run_bind_ok hrun]
    exact (hm a).quietGrows r' hr

theorem bind {x y : Step τ σ α} {k m : α → Step τ σ β} (hx : Quiets l v x y)
    (hk : ∀ a, Quiets l v (k a) (m a)) : Quiets l v (x >>= k) (y >>= m) where
  run r htaken := by
    have hy := hx.run r
    rcases hrun : x.run r with ⟨f | a, r'⟩
    all_goals rw [hrun] at hy
    · rw [run_bind_error hrun] at htaken ⊢
      exact run_bind_error (hy htaken) m
    · rw [run_bind_ok hrun] at htaken ⊢
      rw [run_bind_ok (hy (htaken.of_prefix ((hk a).grows r')))]
      exact (hk a).run r' htaken
  follows r htaken hnot := by
    have hy := hx.run r
    have hfollows := hx.follows r htaken
    have hquiet := quietGrows_bind hk (hx.silent r.withoutNotes (withoutNotes_withoutNotes r))
    rcases hrun : x.run r with ⟨f | a, r'⟩
    all_goals rw [hrun] at hy hfollows
    all_goals by_cases htaken' : NotesTaken l r'.events
    · rw [run_bind_error hrun] at hnot
      exact absurd htaken' hnot
    · rw [run_bind_error hrun]
      exact (hfollows htaken').mono (List.prefix_refl _) hquiet
    · rw [run_bind_ok hrun] at hnot ⊢
      rw [run_bind_ok (hy htaken')]
      exact (hk a).follows r' htaken' hnot
    · rw [run_bind_ok hrun]
      exact (hfollows htaken').mono ((hk a).grows r') hquiet
  grows r := by
    have hgrown := hx.grows r
    rcases hrun : x.run r with ⟨f | a, r'⟩
    all_goals rw [hrun] at hgrown
    · rwa [run_bind_error hrun]
    · rw [run_bind_ok hrun]
      exact hgrown.trans ((hk a).grows r')
  quietGrows r hr := (hx.quietGrows r hr).trans (quietGrows_bind hk (hx.silent r hr))
  asks hv r := by
    have hasked := hx.asks hv r
    rcases hrun : x.run r with ⟨f | a, r'⟩
    all_goals rw [hrun] at hasked
    · rwa [run_bind_error hrun]
    · rw [run_bind_ok hrun]
      exact ((hk a).asks hv r').trans hasked
  silent r hr := by
    have hsilent := hx.silent r hr
    rcases hrun : y.run r with ⟨f | a, r'⟩
    all_goals rw [hrun] at hsilent
    · rwa [run_bind_error hrun]
    · rw [run_bind_ok hrun]
      exact (hk a).silent r' hsilent

theorem get_bind {k m : Run τ σ → Step τ σ β} (hk : ∀ r, Quiets l v (k r) (m r.withoutNotes)) :
    Quiets l v (get >>= k) (get >>= m) where
  run r := (hk r).run r
  follows r := (hk r).follows r
  grows r := (hk r).grows r
  quietGrows r hr := by
    have hgrown := (hk r).quietGrows r hr
    rwa [hr] at hgrown
  asks hv r := (hk r).asks hv r
  silent r hr := by
    have hsilent := (hk r).silent r hr
    rwa [hr] at hsilent

/-- How the steps end can be looked at. -/
theorem of_lift {x y : Step τ σ α} (hx : Quiets l v x y) :
    Quiets l v (ExceptT.lift x.run : Step τ σ (Except Failure α)) (ExceptT.lift y.run) where
  run r htaken := by
    have hlift (z : Step τ σ α) (r : Run τ σ) :
        (ExceptT.lift z.run : Step τ σ (Except Failure α)).run r = (.ok (z.run r).1, (z.run r).2) := rfl
    rw [hlift, hlift, hx.run r htaken]
  follows := hx.follows
  grows := hx.grows
  quietGrows := hx.quietGrows
  asks := hx.asks
  silent := hx.silent

/-- An event that is not a reported note. -/
theorem record {e : Event τ} (he : e.isNote = false) (hquery : v = false → e.query? = none) :
    Quiets l v (modify (·.record e) : Step τ σ Unit) (modify (·.record e)) :=
  of_noteless (fun r => congrArg (Prod.mk _) (withoutNotes_record r he).symm)
    (fun r => ⟨[e], rfl, by simp [he]⟩) fun hv r => (queries_record r e).trans (by simp [hquery hv])

/-- A question may be asked where types are checked. -/
theorem ask (q : Query τ) (call : σ → Except Failure Bool × σ) :
    Quiets l true (Registry.ask q call) (Registry.ask q call) :=
  .bind (record rfl (fun hv => by cases hv)) fun _ => .bind (of_callHost call) of_liftM

theorem say {e : Event τ} (he : e.isNote = false) (hquery : e.query? = none) :
    Quiets l v (Registry.say l e) (Registry.say l e) := by
  refine .bind (record he fun _ => hquery) fun _ => .bind (of_callHost _) fun broken => ?_
  cases broken with
  | none => exact of_pure ()
  | some cause => exact of_throw _

/-- A note that is taken leaves nothing else behind. -/
theorem say_note {e : Event τ} (he : e.isNote = true) : Quiets l v (Registry.say l e) (pure ()) where
  run r htaken := by
    rw [run_say] at htaken ⊢
    have htakes : l e r.files = (none, r.files) :=
      htaken e (List.mem_append_right _ List.mem_cons_self) he r.files
    rw [htakes]
    exact congrArg (Prod.mk _) (withoutNotes_record_note r he).symm
  follows r htaken hnot := by
    rw [run_say] at hnot ⊢
    refine ⟨r.events, e, [], rfl, htaken, he, fun htakes => hnot fun e' he' hnote => ?_, List.prefix_refl _⟩
    rcases List.mem_append.mp he' with he' | he'
    · exact htaken e' he' hnote
    · exact List.mem_singleton.mp he' ▸ htakes
  grows r := by
    rw [run_say]
    exact List.prefix_append _ _
  quietGrows r _ := List.prefix_refl _
  asks _ r := by
    have hquery : e.query? = none := by
      cases e with
      | asked q => cases he
      | _ => rfl
    rw [run_say]
    exact (queries_record r e).trans (by simp [hquery])
  silent r hr := hr

theorem report {d : Diagnostic} (hd : d.severity ≠ .note) (element : Option (Element τ))
    (annot : Option (Annot τ)) :
    Quiets l v (Registry.report l d element annot) (Registry.report l d element annot) :=
  say (by simp [Event.isNote, Event.message?, Message.isNote, hd]) rfl

theorem note (s : Settings) {d : Diagnostic} (hd : d.severity = .note) :
    Quiets l v (Registry.note l s d) (Registry.note l s.quiet d) := by
  refine .bind (say rfl rfl) fun _ => ?_
  cases hdebug : s.debug with
  | false => simpa [hdebug, Settings.quiet] using of_pure ()
  | true =>
    have hnote : Event.isNote (.message ⟨d, none, none⟩ : Event τ) = true := by
      simp [Event.isNote, Event.message?, Message.isNote, hd]
    simpa [hdebug, Settings.quiet, Registry.report] using say_note hnote

theorem tell (s : Settings) (d : Diagnostic) :
    Quiets l v (Registry.tell l s d) (Registry.tell l s.quiet d) := by
  unfold Registry.tell
  split
  · exact note s ‹_›
  · exact report ‹_› none none

theorem fatal (cause : Bytes) : Quiets l v (Registry.fatal l cause) (Registry.fatal l cause) :=
  .bind (say rfl rfl) fun _ => report (by simp [Diagnostic.severity]) none none

theorem guarded {x y : Step τ σ Unit} (hx : Quiets l v x y) :
    Quiets l v (Registry.guarded l x) (Registry.guarded l y) := by
  rw [guarded_eq_lift l x, guarded_eq_lift l y]
  refine .bind (of_lift hx) fun outcome => ?_
  cases outcome with
  | ok _ => exact of_pure ()
  | error f => exact fatal f.message

end Step.Quiets

section
variable (h : Host τ σ) (l : Listener τ σ) (s : Settings)

theorem check_quiets (suppressName shownName : Bytes) (verify : Bool) (e : Element τ) (token : τ)
    (interface : TypeRef τ) (annot : Option (Annot τ)) :
    Step.Quiets l verify (check h l suppressName shownName verify e token interface annot)
      (check h l suppressName shownName verify e token interface annot) := by
  unfold check
  cases verify with
  | false => exact .of_pure _
  | true =>
    refine .bind (.ask _ _) fun isExact => ?_
    cases isExact with
    | true => exact .of_pure _
    | false =>
      refine .bind (.ask _ _) fun isErased => ?_
      cases isErased with
      | false => exact .of_pure _
      | true =>
        have hwarning : (Diagnostic.rawType interface.frame.qualifiedName shownName).severity ≠ .note := by
          simp [Diagnostic.severity]
        by_cases hsuppressed : e.suppressesRawTypes suppressName = true
        · simpa [hsuppressed] using .of_pure _
        · simpa [hsuppressed] using .bind (.report hwarning _ _) fun _ => .of_pure _

theorem collectInterfaces_quiets (e : Element τ) (provider : TypeRef τ) (annot : Annot τ)
    (interfaces : List (TypeRef τ)) :
    Step.Quiets l s.verify (collectInterfaces h l s e provider annot interfaces)
      (collectInterfaces h l s.quiet e provider annot interfaces) := by
  induction interfaces with
  | nil => exact .of_pure _
  | cons interface rest ih =>
    unfold collectInterfaces
    refine .bind (.note s rfl) fun _ => .bind (.note s rfl) fun _ => ?_
    refine .bind (check_quiets h l _ _ _ _ _ _ _) fun verdict => ?_
    have hadd : Step.Quiets l s.verify
        (do
          let interfaceName ← orBroken interface.binaryName
          let providerName ← orBroken provider.binaryName
          modify (·.addProvider interfaceName providerName)
          collectInterfaces h l s e provider annot rest)
        (do
          let interfaceName ← orBroken interface.binaryName
          let providerName ← orBroken provider.binaryName
          modify (·.addProvider interfaceName providerName)
          collectInterfaces h l s.quiet e provider annot rest) := by
      refine .bind (.of_orBroken _) fun interfaceName => .bind (.of_orBroken _) fun providerName => ?_
      exact .bind (.of_modify (fun _ => rfl) fun _ => rfl) fun _ => ih
    cases verdict with
    | reject => exact .bind (.report (by simp [Diagnostic.severity]) _ _) fun _ => ih
    | ok | rawOk => exact hadd

theorem collectElement_quiets (e : Element τ) :
    Step.Quiets l s.verify (collectElement h l s e) (collectElement h l s.quiet e) := by
  unfold collectElement
  refine .bind (.of_orBroken _) fun kind => ?_
  dsimp only [Settings.quiet]
  split
  · exact .of_pure _
  · split
    · split
      · exact .report (by simp [Diagnostic.severity]) _ _
      · exact .report (by simp [Diagnostic.severity]) _ _
      · exact collectInterfaces_quiets h l s e _ _ _
    · exact .of_pure _

theorem collectElements_quiets (elements : List (Element τ)) :
    Step.Quiets l s.verify (collectElements h l s elements) (collectElements h l s.quiet elements) := by
  induction elements with
  | nil => exact .of_pure _
  | cons e rest ih => exact .bind (collectElement_quiets h l s e) fun _ => ih

theorem readExisting_quiets (path : Bytes) :
    Step.Quiets l s.verify (readExisting h l s path) (readExisting h l s.quiet path) := by
  unfold readExisting
  refine .bind (.of_callHost _) fun answer => ?_
  cases answer with
  | error cause => exact .bind (.record rfl fun _ => rfl) fun _ => .of_throw _
  | ok reading =>
    exact .bind (.record rfl fun _ => rfl) fun _ => .bind (.tell s _) fun _ => .of_pure _

theorem writeService_quiets (v : Bool) (path : Bytes) (names : List Bytes) :
    Step.Quiets l v (writeService h l path names) (writeService h l path names) := by
  unfold writeService
  refine .bind (.of_callHost _) fun failure => .bind (.record rfl fun _ => rfl) fun _ => ?_
  rcases failure with _ | ⟨stage, cause | cause⟩
  · exact .say rfl rfl
  · exact .report (by simp [Diagnostic.severity]) _ _
  · exact .of_throw _

theorem emitRow_quiets (row : Bytes × List Bytes) :
    Step.Quiets l s.verify (emitRow h l s row) (emitRow h l s.quiet row) := by
  unfold emitRow
  refine .bind (.note s rfl) fun _ => .bind (readExisting_quiets h l s _) fun existing => ?_
  dsimp only
  split
  · exact .note s rfl
  · exact .bind (.note s rfl) fun _ => writeService_quiets h l _ _ _

theorem emitRows_quiets (rows : List (Bytes × List Bytes)) :
    Step.Quiets l s.verify (emitRows h l s rows) (emitRows h l s.quiet rows) := by
  induction rows with
  | nil => exact .of_pure _
  | cons row rest ih => exact .bind (emitRow_quiets h l s row) fun _ => ih

theorem collect_quiets (elements : List (Element τ)) :
    Step.Quiets l s.verify (collect h l s elements) (collect h l s.quiet elements) := by
  refine .get_bind fun r => ?_
  rw [phase_withoutNotes]
  split
  · exact .bind (.guarded (collectElements_quiets h l s elements)) fun _ => .of_pure _
  · exact .of_pure _

theorem setPhase_quiets (v : Bool) (phase : Phase) :
    Step.Quiets l v (modify (·.setPhase phase) : Step τ σ Unit) (modify (·.setPhase phase)) :=
  .of_modify (fun _ => rfl) fun _ => rfl

theorem emit_quiets : Step.Quiets l s.verify (emit h l s) (emit h l s.quiet) := by
  refine .get_bind fun r => ?_
  rw [phase_withoutNotes, index_withoutNotes]
  split
  · refine .bind (setPhase_quiets l _ _) fun _ => ?_
    refine .bind (.of_lift (.guarded (emitRows_quiets h l s r.index.rows))) fun outcome => ?_
    exact .bind (setPhase_quiets l _ _) fun _ => .bind (.of_liftM outcome) fun _ => .of_pure _
  · exact .of_pure _

theorem allowed_quiets (v : Bool) (refusal : Option IllegalCall) :
    Step.Quiets l v (allowed refusal : Step τ σ Unit) (allowed refusal) := by
  cases refusal with
  | none => exact .of_pure _
  | some i => exact .of_throw _

theorem processRound_quiets (round : Round τ) :
    Step.Quiets l s.verify (processRound h l s round) (processRound h l s.quiet round) := by
  refine .guarded (.bind (.of_orBroken _) fun isLast => ?_)
  cases isLast with
  | true => exact .bind (emit_quiets h l s) (allowed_quiets l _)
  | false =>
    refine .bind (.note s rfl) fun _ => .bind (.of_orBroken _) fun shown => ?_
    exact .bind (collect_quiets h l s shown) (allowed_quiets l _)

theorem handle_quiets (q : Request τ) :
    Step.Quiets l s.verify (handle h l s q) (handle h l s.quiet q) := by
  cases q with
  | process round => exact .bind (processRound_quiets h l s round) fun _ => .of_pure _
  | collect elements => exact .bind (collect_quiets h l s elements) fun _ => .of_pure _
  | emit => exact .bind (emit_quiets h l s) fun _ => .of_pure _

variable {h l s}

theorem answer_quiet {q : Request τ} {r : Run τ σ} (htaken : NotesTaken l (answer h l s r q).events) :
    answer h l s.quiet r.withoutNotes q = (answer h l s r q).withoutNotes ∧
      reply h l s.quiet r.withoutNotes q = reply h l s r q := by
  have hrun := (handle_quiets h l s q).run r htaken
  rw [answer, reply, reply, hrun]
  exact ⟨rfl, rfl⟩

theorem answerAll_grows (qs : List (Request τ)) (r : Run τ σ) : r.events <+: (answerAll h l s qs r).events := by
  induction qs generalizing r with
  | nil => exact List.prefix_refl _
  | cons q qs ih => exact ((handle_quiets h l s q).grows r).trans (ih (answer h l s r q))

/-- A run without its notes is the quiet run, if the host takes the notes. -/
theorem answerAll_quiet {qs : List (Request τ)} {r : Run τ σ}
    (htaken : NotesTaken l (answerAll h l s qs r).events) :
    answerAll h l s.quiet qs r.withoutNotes = (answerAll h l s qs r).withoutNotes := by
  induction qs generalizing r with
  | nil => rfl
  | cons q qs ih =>
    obtain ⟨hanswer, -⟩ := answer_quiet (htaken.of_prefix (answerAll_grows qs (answer h l s r q)))
    rw [answerAll, List.foldl_cons, hanswer]
    exact ih htaken

/-- Up to the first note that the host does not take, a run goes like the quiet run. -/
theorem answerAll_follows {qs : List (Request τ)} {r : Run τ σ} (htaken : NotesTaken l r.events)
    (hnot : ¬ NotesTaken l (answerAll h l s qs r).events) :
    FollowsToNote l (answerAll h l s qs r).events (answerAll h l s.quiet qs r.withoutNotes).events := by
  induction qs generalizing r with
  | nil => exact absurd htaken hnot
  | cons q qs ih =>
    by_cases htaken' : NotesTaken l (answer h l s r q).events
    · obtain ⟨hanswer, -⟩ := answer_quiet htaken'
      rw [answerAll, answerAll, List.foldl_cons, List.foldl_cons, hanswer]
      exact ih htaken' hnot
    · exact ((handle_quiets h l s q).follows r htaken htaken').mono
        (answerAll_grows qs (answer h l s r q)) (answerAll_grows qs (answer h l s.quiet r.withoutNotes q))

theorem queries_answerAll (hs : s.verify = false) (qs : List (Request τ)) (r : Run τ σ) :
    (answerAll h l s qs r).queries = r.queries := by
  induction qs generalizing r with
  | nil => rfl
  | cons q qs ih => exact (ih (answer h l s r q)).trans ((handle_quiets h l s q).asks hs r)

end

namespace Options

def loud : ByteMap Bytes := .ofList [("verify", []), ("debug", "no")]

def verifying : ByteMap Bytes := .ofList [("verify", "yes")]

/-- A provider of an interface that it conforms to and of one that it does not, on a host that cannot write
the file. -/
def requests : List (Request Bytes) :=
  [.process (.of (.ok false) [plainProvider "p" (.list [.type (plainType "A"), .type (plainType "B")])]),
    .process (.of (.ok true) [])]

def host : Host Bytes MemoryFiles := memoryHost { exact := [("p", "A")] }

def files : MemoryFiles where
  faults := { writing := .ofList [(servicePath "A", "disk full")] }

def touchy (severity : Severity) : Listener Bytes MemoryFiles := fun e files =>
  (e.message?.bind fun m => if m.diagnostic.severity = severity then some "told" else none, files)

def run (l : Listener Bytes MemoryFiles) (options : ByteMap Bytes) : Run Bytes MemoryFiles :=
  answerAll host l (.ofOptions options "AutoService" "SuppressWarnings") requests { files }

theorem notesTaken_touchy {severity : Severity} (hseverity : severity ≠ .note)
    (events : List (Event Bytes)) : NotesTaken (touchy severity) events := by
  intro e _ hnote files
  cases e with
  | message m =>
    have hm : m.diagnostic.severity = .note := by simpa [Event.isNote, Event.message?, Message.isNote] using hnote
    simp [touchy, Event.message?, hm, hseverity.symm]
  | _ => cases hnote

end Options

open Options in
/-- A host that breaks down over the first note hears of the failure, and nothing is collected. -/
example : (run (touchy .note) loud).index.rows = [] ∧ (run (touchy .note) verifying).index.rows.length = 1 ∧
    (run (touchy .note) loud).messages.map (·.diagnostic.text) =
      ["processing round for AutoService", "FatalError: panic: told"] := by
  decide +kernel

end ServiceAnnotations.Registry
