import ServiceAnnotations.Proofs.Registry.Collection
import ServiceAnnotations.Proofs.Registry.Emission

/-! # The life of a registrar

A registrar collects until it emits, and then it is done. That holds on every host, whatever fails and
also if the host breaks down over what it is told: what a step may do to the phase and the files opened is
said once for every way it can end. -/
namespace ServiceAnnotations.Registry

variable {τ σ α β : Type}

def Listener.BreaksOver (l : Listener τ σ) (e : Event τ) (cause : Bytes) : Prop :=
  ∃ files, (l e files).1 = some cause

/-- What a step may do to a run that does not end its phase: files of interfaces are opened for writing. -/
structure Run.Opens (r : Run τ σ) (interfaces : List Bytes) (r' : Run τ σ) : Prop where
  phase : r'.phase = r.phase
  opened : r'.opened = r.opened ++ interfaces.map servicePath

theorem Run.Opens.refl (r : Run τ σ) : r.Opens [] r := ⟨rfl, by simp⟩

theorem Run.Opens.trans {r r₁ r₂ : Run τ σ} {is js : List Bytes} (h₁ : r.Opens is r₁)
    (h₂ : r₁.Opens js r₂) : r.Opens (is ++ js) r₂ where
  phase := h₂.phase.trans h₁.phase
  opened := by rw [h₂.opened, h₁.opened, List.map_append, List.append_assoc]

def Step.Opens (interfaces : List Bytes) (x : Step τ σ α) : Prop :=
  ∀ r : Run τ σ, ∃ is : List Bytes, is.Sublist interfaces ∧ r.Opens is (x.run r).2

namespace Step.Opens
variable {is js : List Bytes}

theorem mono {x : Step τ σ α} (hx : Opens is x) (his : is.Sublist js) : Opens js x := by
  intro r
  obtain ⟨ks, hks, hr⟩ := hx r
  exact ⟨ks, hks.trans his, hr⟩

theorem of_keeps {x : Step τ σ α} (hx : ∀ r : Run τ σ, r.Opens [] (x.run r).2) : Opens [] x :=
  fun r => ⟨[], .refl _, hx r⟩

theorem keeps {x : Step τ σ α} (hx : Opens [] x) (r : Run τ σ) : r.Opens [] (x.run r).2 := by
  obtain ⟨is, his, hr⟩ := hx r
  obtain rfl := List.sublist_nil.mp his
  exact hr

theorem of_pure (a : α) : Opens [] (pure a : Step τ σ α) := of_keeps fun r => .refl r

theorem of_throw (f : Failure) : Opens [] (throw f : Step τ σ α) := of_keeps fun r => .refl r

theorem of_orBroken (x : Except Bytes α) : Opens [] (orBroken x : Step τ σ α) := by
  cases x with
  | error cause => exact of_throw _
  | ok a => exact of_pure a

theorem of_liftM (x : Except Failure α) : Opens [] (liftM x : Step τ σ α) := by
  cases x with
  | error f => exact of_throw f
  | ok a => exact of_pure a

theorem of_callHost (call : σ → α × σ) : Opens [] (callHost call : Step τ σ α) :=
  of_keeps fun _ => ⟨rfl, by simp⟩

theorem addProvider (interface provider : Bytes) :
    Opens [] (modify (·.addProvider interface provider) : Step τ σ Unit) :=
  of_keeps fun _ => ⟨rfl, by simp⟩

theorem record {e : Event τ} (he : e.opened? = none) : Opens [] (modify (·.record e) : Step τ σ Unit) :=
  of_keeps fun _ => ⟨rfl, by simp [he]⟩

theorem bind {x : Step τ σ α} {k : α → Step τ σ β} (hx : Opens is x) (hk : ∀ a, Opens js (k a)) :
    Opens (is ++ js) (x >>= k) := by
  intro r
  obtain ⟨is', his, h₁⟩ := hx r
  rcases hrun : x.run r with ⟨f | a, r₁⟩
  all_goals rw [hrun] at h₁
  · rw [run_bind_error hrun]
    exact ⟨is', his.trans (List.sublist_append_left _ _), h₁⟩
  · obtain ⟨js', hjs, h₂⟩ := hk a r₁
    rw [run_bind_ok hrun]
    exact ⟨is' ++ js', his.append hjs, h₁.trans h₂⟩

/-- Behind a step that opens nothing. -/
theorem after {x : Step τ σ α} {k : α → Step τ σ β} (hx : Opens [] x) (hk : ∀ a, Opens js (k a)) :
    Opens js (x >>= k) :=
  bind hx hk

theorem say (l : Listener τ σ) {e : Event τ} (he : e.opened? = none) : Opens [] (Registry.say l e) := by
  refine .after (record he) fun _ => .after (of_callHost _) fun broken => ?_
  cases broken with
  | none => exact of_pure ()
  | some cause => exact of_throw _

theorem report (l : Listener τ σ) (d : Diagnostic) (element : Option (Element τ)) (annot : Option (Annot τ)) :
    Opens [] (Registry.report l d element annot) :=
  say l rfl

theorem note (l : Listener τ σ) (s : Settings) (d : Diagnostic) : Opens [] (Registry.note l s d) := by
  refine .after (say l rfl) fun _ => ?_
  split
  · exact report l d none none
  · exact of_pure ()

theorem tell (l : Listener τ σ) (s : Settings) (d : Diagnostic) : Opens [] (Registry.tell l s d) := by
  unfold Registry.tell
  split
  · exact note l s d
  · exact report l d none none

theorem fatal (l : Listener τ σ) (cause : Bytes) : Opens [] (Registry.fatal l cause) :=
  .after (say l rfl) fun _ => report l _ none none

/-- The report of a failure opens nothing. -/
theorem settled (l : Listener τ σ) (x : Step τ σ Unit) (r : Run τ σ) :
    (x.run r).2.Opens [] ((guarded l x).run r).2 := by
  rw [run_guarded]
  rcases x.run r with ⟨f | _, r'⟩
  · exact (fatal l f.message).keeps r'
  · exact .refl r'

theorem guarded (l : Listener τ σ) {x : Step τ σ Unit} (hx : Opens is x) :
    Opens is (Registry.guarded l x) := by
  intro r
  obtain ⟨js, hjs, hr⟩ := hx r
  exact ⟨js, hjs, by simpa using hr.trans (settled l x r)⟩

end Step.Opens

section
variable (h : Host τ σ) (l : Listener τ σ) (s : Settings)

theorem ask_opens (q : Query τ) (call : σ → Except Failure Bool × σ) : Step.Opens [] (ask q call) :=
  .after (.record rfl) fun _ => .after (.of_callHost call) .of_liftM

theorem check_opens (suppressName shownName : Bytes) (verify : Bool) (e : Element τ) (token : τ)
    (interface : TypeRef τ) (annot : Option (Annot τ)) :
    Step.Opens [] (check h l suppressName shownName verify e token interface annot) := by
  unfold check
  split
  · exact .of_pure _
  · refine .after (ask_opens _ _) fun isExact => ?_
    split
    · exact .of_pure _
    · refine .after (ask_opens _ _) fun isErased => ?_
      split
      · exact .of_pure _
      · split
        · exact .of_pure _
        · exact .after (.report l _ _ _) fun _ => .of_pure _

theorem collectInterfaces_opens (e : Element τ) (provider : TypeRef τ) (annot : Annot τ)
    (interfaces : List (TypeRef τ)) :
    Step.Opens [] (collectInterfaces h l s e provider annot interfaces) := by
  induction interfaces with
  | nil => exact .of_pure _
  | cons interface rest ih =>
    unfold collectInterfaces
    refine .after (.note l s _) fun _ => .after (.note l s _) fun _ => ?_
    refine .after (check_opens h l _ _ _ _ _ _ _) fun verdict => ?_
    have hadd : Step.Opens []
        (do
          let interfaceName ← orBroken interface.binaryName
          let providerName ← orBroken provider.binaryName
          modify (·.addProvider interfaceName providerName)
          collectInterfaces h l s e provider annot rest) := by
      refine .after (.of_orBroken _) fun i => .after (.of_orBroken _) fun p => ?_
      exact .after (.addProvider i p) fun _ => ih
    cases verdict with
    | reject => exact .after (.report l _ _ _) fun _ => ih
    | ok | rawOk => exact hadd

theorem collectElement_opens (e : Element τ) : Step.Opens [] (collectElement h l s e) := by
  unfold collectElement
  refine .after (.of_orBroken _) fun kind => ?_
  split
  · exact .of_pure _
  · split
    · split
      · exact .report l _ _ _
      · exact .report l _ _ _
      · exact collectInterfaces_opens h l s e _ _ _
    · exact .of_pure _

theorem collectElements_opens (elements : List (Element τ)) :
    Step.Opens [] (collectElements h l s elements) := by
  induction elements with
  | nil => exact .of_pure _
  | cons e rest ih => exact .after (collectElement_opens h l s e) fun _ => ih

theorem readExisting_opens (path : Bytes) : Step.Opens [] (readExisting h l s path) := by
  unfold readExisting
  refine .after (.of_callHost _) fun answer => ?_
  cases answer with
  | error cause => exact .after (.record rfl) fun _ => .of_throw _
  | ok reading => exact .after (.record rfl) fun _ => .after (.tell l s _) fun _ => .of_pure _

theorem wrote_opens (i : Bytes) (failure : Option WriteFailure) :
    Step.Opens [i] (modify (·.record (.wrote (servicePath i) failure)) : Step τ σ Unit) := by
  intro r
  by_cases hfailure : failure.any (·.stage = .create) = true
  · exact ⟨[], List.nil_sublist _, rfl, by simp [Event.opened?, hfailure]⟩
  · exact ⟨[i], .refl _, rfl, by simp [Event.opened?, hfailure]⟩

/-- A file is opened for writing unless creating it fails, also when the host breaks down later. -/
theorem writeService_opens (i : Bytes) (names : List Bytes) :
    Step.Opens [i] (writeService h l (servicePath i) names) := by
  refine .after (.of_callHost _) fun failure => .bind (wrote_opens i failure) fun _ => ?_
  rcases failure with _ | ⟨stage, cause | cause⟩
  · exact .say l rfl
  · exact .report l _ _ _
  · exact .of_throw _

theorem emitRow_opens (row : Bytes × List Bytes) : Step.Opens [row.1] (emitRow h l s row) := by
  refine .after (.note l s _) fun _ => .after (readExisting_opens h l s _) fun existing => ?_
  dsimp only
  split
  · exact (Step.Opens.note l s _).mono (List.nil_sublist _)
  · exact .after (.note l s _) fun _ => writeService_opens h l row.1 _

/-- Files are opened in the order of the rows, each at most once, up to the row where the host breaks
down. -/
theorem emitRows_opens (rows : List (Bytes × List Bytes)) :
    Step.Opens (rows.map Prod.fst) (emitRows h l s rows) := by
  induction rows with
  | nil => exact .of_pure _
  | cons row rest ih => exact .bind (emitRow_opens h l s row) fun _ => ih

theorem collect_opens (elements : List (Element τ)) : Step.Opens [] (collect h l s elements) := by
  intro r
  by_cases hphase : r.phase = .collecting
  · have hguarded := (Step.Opens.guarded l (collectElements_opens h l s elements)).keeps r
    refine ⟨[], .refl _, ?_⟩
    rw [Step.run_collect h l s elements hphase]
    rcases hrun : (guarded l (collectElements h l s elements)).run r with ⟨f | _, r'⟩
    all_goals rw [hrun] at hguarded
    · exact hguarded
    · exact hguarded
  · rw [Step.run_collect_refused h l s elements hphase]
    exact ⟨[], .refl _, .refl r⟩

/-- Emitting ends the collecting, also when the host breaks down on the way. -/
theorem emit_opens {r : Run τ σ} (hphase : r.phase = .collecting) :
    ((emit h l s).run r).2.phase = .done ∧
      ∃ is : List Bytes, is.Pairwise (· < ·) ∧ ((emit h l s).run r).2.opened = r.opened ++ is.map servicePath := by
  obtain ⟨is, his, hopens⟩ :=
    Step.Opens.guarded l (emitRows_opens h l s r.index.rows) (r.setPhase .emitting)
  have hsorted : is.Pairwise (· < ·) := r.index.ascending_rows.sublist his
  rw [Step.run_emit h l s hphase]
  rcases hrun : (guarded l (emitRows h l s r.index.rows)).run (r.setPhase .emitting) with ⟨f | _, r'⟩
  all_goals rw [hrun] at hopens
  · exact ⟨rfl, is, hsorted, hopens.opened⟩
  · exact ⟨rfl, is, hsorted, hopens.opened⟩

theorem run_allowed (refusal : Option IllegalCall) (r : Run τ σ) :
    ((allowed refusal : Step τ σ Unit).run r).2 = r := by
  cases refusal <;> rfl

theorem run_bind_allowed (x : Step τ σ (Option IllegalCall)) (r : Run τ σ) :
    ((x >>= allowed).run r).2 = (x.run r).2 := by
  rcases hrun : x.run r with ⟨f | refusal, r'⟩
  · rw [Step.run_bind_error hrun]
  · rw [Step.run_bind_ok hrun, run_allowed]

theorem allowed_opens (refusal : Option IllegalCall) : Step.Opens [] (allowed refusal : Step τ σ Unit) := by
  cases refusal with
  | none => exact .of_pure _
  | some i => exact .of_throw _

theorem takeRound_opens {round : Round τ} (hround : round.isLast ≠ .ok true) :
    Step.Opens [] (takeRound h l s round) := by
  rcases hlast : round.isLast with cause | _ | _
  · rw [Step.takeRound_broken h l s hlast]
    exact .of_throw _
  · rcases hshown : round.annotated s.annotName with cause | shown
    · rw [Step.takeRound_unshown h l s hlast hshown]
      exact .after (.note l s _) fun _ => .of_throw _
    · rw [Step.takeRound_shown h l s hlast hshown]
      exact .after (.note l s _) fun _ => .after (collect_opens h l s shown) allowed_opens
  · exact absurd hlast hround

/-- A request that gathers leaves the phase as it is and opens nothing. -/
theorem answer_gathers {q : Request τ} (hq : q.Gathers) (r : Run τ σ) : r.Opens [] (answer h l s r q) := by
  cases q with
  | process round =>
    rw [answer_process]
    exact (Step.Opens.guarded l (takeRound_opens h l s hq)).keeps r
  | collect elements =>
    rw [answer_collect]
    exact (collect_opens h l s elements).keeps r
  | emit => exact hq.elim

/-- A request that does not gather makes a collecting registrar emit. -/
theorem answer_emits {q : Request τ} (hq : ¬ q.Gathers) {r : Run τ σ} (hphase : r.phase = .collecting) :
    (answer h l s r q).phase = .done ∧
      ∃ is : List Bytes, is.Pairwise (· < ·) ∧ (answer h l s r q).opened = r.opened ++ is.map servicePath := by
  obtain ⟨hdone, is, hsorted, hopened⟩ := emit_opens h l s hphase
  cases q with
  | process round =>
    have hlast : round.isLast = .ok true := by simpa [Request.Gathers] using hq
    have hsettled := Step.Opens.settled l (takeRound h l s round) r
    rw [Step.takeRound_last h l s hlast, run_bind_allowed] at hsettled
    rw [answer_process, processRound, Step.takeRound_last h l s hlast]
    exact ⟨hsettled.phase.trans hdone, is, hsorted, by simpa [hopened] using hsettled.opened⟩
  | collect elements => exact absurd trivial hq
  | emit =>
    rw [answer_emit]
    exact ⟨hdone, is, hsorted, hopened⟩

theorem answerAll_gathers {qs : List (Request τ)} (hqs : ∀ q ∈ qs, q.Gathers) (r : Run τ σ) :
    r.Opens [] (answerAll h l s qs r) := by
  induction qs generalizing r with
  | nil => exact .refl r
  | cons q qs ih =>
    have hrest := ih (fun q hq => hqs q (List.mem_cons_of_mem _ hq)) (answer h l s r q)
    exact (answer_gathers h l s (hqs q List.mem_cons_self) r).trans hrest

end

/-- Whether the host is told of an event. Of what it was asked for itself it is not told. -/
def Event.isTold : Event τ → Bool
  | .message _ | .logged _ | .loggedFailure _ | .loggedWrite _ _ => true
  | .asked _ | .read _ _ | .wrote _ _ => false

/-- What becomes of the host over events that it is told of. -/
def Listener.after (l : Listener τ σ) (events : List (Event τ)) (files : σ) : σ :=
  events.foldl (fun files e => (l e files).2) files

/-- A run that goes on with nothing but events that the host is told of. -/
structure Run.Tells (l : Listener τ σ) (r : Run τ σ) (es : List (Event τ)) (r' : Run τ σ) : Prop where
  phase : r'.phase = r.phase
  index : r'.index = r.index
  files : r'.files = l.after es r.files
  events : r'.events = r.events ++ es
  told : ∀ e ∈ es, e.isTold = true

section
variable {l : Listener τ σ} {r r₁ r₂ : Run τ σ} {es es' : List (Event τ)}

theorem Run.Tells.refl (l : Listener τ σ) (r : Run τ σ) : r.Tells l [] r := ⟨rfl, rfl, rfl, by simp, by simp⟩

theorem Run.Tells.trans (h₁ : r.Tells l es r₁) (h₂ : r₁.Tells l es' r₂) : r.Tells l (es ++ es') r₂ where
  phase := h₂.phase.trans h₁.phase
  index := h₂.index.trans h₁.index
  files := by rw [h₂.files, h₁.files, Listener.after, Listener.after, Listener.after, List.foldl_append]
  events := by rw [h₂.events, h₁.events, List.append_assoc]
  told e he := (List.mem_append.mp he).elim (h₁.told e) (h₂.told e)

theorem Run.Tells.opened (h : r.Tells l es r₁) : r₁.opened = r.opened := by
  have hnone : es.filterMap Event.opened? = [] := by
    refine List.filterMap_eq_nil_iff.mpr fun e he => ?_
    have htold := h.told e he
    cases e <;> first | rfl | cases htold
  rw [Run.opened, h.events, List.filterMap_append, hnone, List.append_nil, Run.opened]

theorem Run.Tells.files_eq (h : r.Tells l es r₁) (hl : ∀ e files, (l e files).2 = files) :
    r₁.files = r.files := by
  have hafter : l.after es r.files = r.files := by
    unfold Listener.after
    induction es <;> simp [hl]
  rw [h.files, hafter]

theorem Run.Tells.errors (h : r.Tells l es r₁) : r₁.errors = r.errors ++ es.filterMap Event.error? := by
  rw [Run.errors, h.events, List.filterMap_append, Run.errors]

theorem say_tells {e : Event τ} (he : e.isTold = true) {outcome : Except Failure Unit}
    (hrun : (say l e).run r = (outcome, r₁)) : r.Tells l [e] r₁ := by
  rw [Step.run_say] at hrun
  obtain ⟨-, rfl⟩ := Prod.mk.inj hrun
  exact ⟨rfl, rfl, rfl, rfl, by simpa using he⟩

/-- A note is logged, and then reported if it is wanted and the host has not broken down. -/
theorem note_tells {s : Settings} {d : Diagnostic} {outcome : Except Failure Unit}
    (hrun : (note l s d).run r = (outcome, r₁)) :
    ∃ es, es <+: [.logged d, .message ⟨d, none, none⟩] ∧ r.Tells l es r₁ := by
  rcases hlog : (say l (.logged d)).run r with ⟨f | _, r'⟩
  all_goals have hlogged := say_tells rfl hlog
  · rw [note, Step.run_bind_error hlog] at hrun
    obtain ⟨-, rfl⟩ := Prod.mk.inj hrun
    exact ⟨_, List.prefix_append [_] [_], hlogged⟩
  · rw [note, Step.run_bind_ok hlog] at hrun
    split at hrun
    · exact ⟨_, List.prefix_refl _, hlogged.trans (say_tells rfl hrun)⟩
    · obtain ⟨-, rfl⟩ := Prod.mk.inj hrun
      exact ⟨_, List.prefix_append [_] [_], hlogged⟩

/-- A step that tells the host something fails only if the host breaks down over it. -/
theorem say_error {e : Event τ} {f : Failure} (hrun : (say l e).run r = (.error f, r₁)) :
    ∃ cause, f = .broken cause ∧ l.BreaksOver e cause := by
  rw [Step.run_say] at hrun
  rcases hbroken : (l e r.files).1 with _ | cause
  all_goals rw [hbroken] at hrun
  · cases hrun
  · obtain ⟨hf, -⟩ := Prod.mk.inj hrun
    exact ⟨cause, (Except.error.inj hf).symm, r.files, hbroken⟩

theorem note_error {s : Settings} {d : Diagnostic} {f : Failure} (hrun : (note l s d).run r = (.error f, r₁)) :
    ∃ cause, f = .broken cause ∧
      (l.BreaksOver (.logged d) cause ∨ l.BreaksOver (.message ⟨d, none, none⟩) cause) := by
  rcases hlogged : (say l (.logged d)).run r with ⟨f' | _, r'⟩
  · rw [note, Step.run_bind_error hlogged] at hrun
    obtain ⟨cause, rfl, hbreaks⟩ := say_error hlogged
    exact ⟨cause, (Except.error.inj (Prod.mk.inj hrun).1).symm, .inl hbreaks⟩
  · rw [note, Step.run_bind_ok hlogged] at hrun
    split at hrun
    · obtain ⟨cause, rfl, hbreaks⟩ := say_error hrun
      exact ⟨cause, rfl, .inr hbreaks⟩
    · cases hrun

end

/-- A run whose last event is the report of a failure, over which the host breaks down in this way. -/
def Run.BreaksOff (l : Listener τ σ) (r : Run τ σ) (f : Failure) : Prop :=
  ∃ cause broken e, f = .broken broken ∧ (e = .loggedFailure cause ∨ e = .message ⟨.fatal cause, none, none⟩) ∧
    l.BreaksOver e broken ∧ r.events.getLast? = some e

/-- One failure is reported, unless the host breaks down over its log entry. -/
def Run.ReportsFailure (l : Listener τ σ) (r : Run τ σ) (cause : Bytes) (r' : Run τ σ) : Prop :=
  r'.errors = r.errors ++ [⟨.fatal cause, none, none⟩] ∨
    r'.errors = r.errors ∧ ∃ broken, l.BreaksOver (.loggedFailure cause) broken

section
variable {l : Listener τ σ}

theorem fatal_tells {cause : Bytes} {r r' : Run τ σ} {outcome : Except Failure Unit}
    (hrun : (fatal l cause).run r = (outcome, r')) :
    (∃ es, r.Tells l es r') ∧ r.ReportsFailure l cause r' := by
  rcases hlog : (say l (.loggedFailure cause)).run r with ⟨f | _, r₁⟩
  all_goals have hlogged := say_tells rfl hlog
  · rw [fatal, Step.run_bind_error hlog] at hrun
    obtain ⟨-, rfl⟩ := Prod.mk.inj hrun
    obtain ⟨broken, -, hbreaks⟩ := say_error hlog
    exact ⟨⟨_, hlogged⟩, .inr ⟨by simp [hlogged.errors, Event.error?], broken, hbreaks⟩⟩
  · rw [fatal, Step.run_bind_ok hlog] at hrun
    have hboth := hlogged.trans (say_tells rfl hrun)
    exact ⟨⟨_, hboth⟩, .inl hboth.errors⟩

theorem fatal_error {cause : Bytes} {r r' : Run τ σ} {f : Failure}
    (hrun : (fatal l cause).run r = (.error f, r')) : r'.BreaksOff l f := by
  rcases hlog : (say l (.loggedFailure cause)).run r with ⟨f' | _, r₁⟩
  · rw [fatal, Step.run_bind_error hlog] at hrun
    obtain ⟨hf, rfl⟩ := Prod.mk.inj hrun
    obtain ⟨broken, rfl, hbreaks⟩ := say_error hlog
    exact ⟨cause, broken, _, (Except.error.inj hf).symm, .inl rfl, hbreaks,
      by simp [(say_tells rfl hlog).events]⟩
  · rw [fatal, Step.run_bind_ok hlog] at hrun
    obtain ⟨broken, rfl, hbreaks⟩ := say_error hrun
    exact ⟨cause, broken, _, rfl, .inr rfl, hbreaks, by simp [(say_tells rfl hrun).events]⟩

theorem guarded_error {x : Step τ σ Unit} {r r' : Run τ σ} {f : Failure}
    (hrun : (guarded l x).run r = (.error f, r')) : r'.BreaksOff l f := by
  rw [Step.run_guarded] at hrun
  rcases hx : x.run r with ⟨f' | _, r₁⟩
  all_goals rw [hx] at hrun
  · exact fatal_error hrun
  · cases hrun

/-- A request breaks off only over the report of a failure. -/
theorem handle_error {h : Host τ σ} {s : Settings} {q : Request τ} {r r' : Run τ σ} {f : Failure}
    (hrun : (handle h l s q).run r = (.error f, r')) : r'.BreaksOff l f := by
  have hmap {γ δ : Type} {x : Except Failure γ × Run τ σ} {g : γ → δ}
      (hx : (x.1.map g, x.2) = (.error f, r')) : x = (.error f, r') := by
    rcases x with ⟨f' | a, r₁⟩ <;> cases hx
    rfl
  cases q with
  | process round =>
    rw [handle_run_process] at hrun
    exact guarded_error (hmap hrun)
  | collect elements =>
    rw [handle_run_collect] at hrun
    replace hrun := hmap hrun
    by_cases hphase : r.phase = .collecting
    · rw [Step.run_collect h l s elements hphase] at hrun
      rcases hx : (guarded l (collectElements h l s elements)).run r with ⟨f' | _, r₁⟩
      all_goals rw [hx] at hrun
      all_goals cases hrun
      exact guarded_error hx
    · rw [Step.run_collect_refused h l s elements hphase] at hrun
      cases hrun
  | emit =>
    rw [handle_run_emit] at hrun
    replace hrun := hmap hrun
    by_cases hphase : r.phase = .collecting
    · rw [Step.run_emit h l s hphase] at hrun
      rcases hx : (guarded l (emitRows h l s r.index.rows)).run (r.setPhase .emitting) with ⟨f' | _, r₁⟩
      all_goals rw [hx] at hrun
      all_goals cases hrun
      exact (guarded_error hx : r₁.BreaksOff l f)
    · rw [Step.run_emit_refused h l s hphase] at hrun
      cases hrun

end

section
variable {h : Host τ σ} {l : Listener τ σ} {s : Settings} {r : Run τ σ}

/-- A request has the reply that it would have on an attentive host, unless it breaks off. -/
theorem reply_eq_or {q : Request τ} {good : Reply}
    (hgood : ∀ answered r', (handle h l s q).run r = (.ok answered, r') → answered = good) :
    reply h l s r q = good ∨ ∃ f, reply h l s r q = .brokenOff f ∧ (answer h l s r q).BreaksOff l f := by
  rcases hrun : (handle h l s q).run r with ⟨f | answered, r'⟩
  · refine .inr ⟨f, by rw [reply, hrun], ?_⟩
    rw [answer, hrun]
    exact handle_error hrun
  · exact .inl (by rw [reply, hrun, ← hgood answered r' hrun])

theorem reply_process (round : Round τ) :
    reply h l s r (.process round) = .claimed ∨ ∃ f, reply h l s r (.process round) = .brokenOff f ∧
      (answer h l s r (.process round)).BreaksOff l f := by
  refine reply_eq_or fun answered r' hrun => ?_
  rw [handle_run_process] at hrun
  rcases hround : (processRound h l s round).run r with ⟨f | _, r₁⟩
  all_goals rw [hround] at hrun
  · cases hrun
  · exact (Except.ok.inj (Prod.mk.inj hrun).1).symm

theorem reply_collect (hphase : r.phase = .collecting) (elements : List (Element τ)) :
    reply h l s r (.collect elements) = .accepted ∨ ∃ f, reply h l s r (.collect elements) = .brokenOff f ∧
      (answer h l s r (.collect elements)).BreaksOff l f := by
  refine reply_eq_or fun answered r' hrun => ?_
  rw [handle_run_collect, Step.run_collect h l s elements hphase] at hrun
  rcases hround : (guarded l (collectElements h l s elements)).run r with ⟨f | _, r₁⟩
  all_goals rw [hround] at hrun
  · cases hrun
  · exact (Except.ok.inj (Prod.mk.inj hrun).1).symm

theorem reply_emit (hphase : r.phase = .collecting) :
    reply h l s r .emit = .accepted ∨ ∃ f, reply h l s r .emit = .brokenOff f ∧
      (answer h l s r .emit).BreaksOff l f := by
  refine reply_eq_or fun answered r' hrun => ?_
  rw [handle_run_emit, Step.run_emit h l s hphase] at hrun
  rcases hround : (guarded l (emitRows h l s r.index.rows)).run (r.setPhase .emitting) with ⟨f | _, r₁⟩
  all_goals rw [hround] at hrun
  · cases hrun
  · exact (Except.ok.inj (Prod.mk.inj hrun).1).symm

end

section
variable (h : Host τ σ) (l : Listener τ σ) (s : Settings) {r : Run τ σ}

theorem collect_done (hr : r.phase = .done) (elements : List (Element τ)) :
    (collect h l s elements).run r = (.ok (some ⟨.collect, .done⟩), r) := by
  rw [Step.run_collect_refused h l s elements (by simp [hr]), hr]

theorem emit_done (hr : r.phase = .done) : (emit h l s).run r = (.ok (some ⟨.emit, .done⟩), r) := by
  rw [Step.run_emit_refused h l s (by simp [hr]), hr]

/-- What goes wrong in a round that comes too late: the host breaks down, or the registrar is done. -/
theorem takeRound_done (hr : r.phase = .done) (round : Round τ) :
    ∃ f r' es, (takeRound h l s round).run r = (.error f, r') ∧ r.Tells l es r' ∧ r'.errors = r.errors ∧
      (round.isLast = .ok true → f.message = IllegalCall.message ⟨.emit, .done⟩) ∧
      (round.isLast = .ok false → (∃ shown, round.annotated s.annotName = .ok shown) →
        f.message = IllegalCall.message ⟨.collect, .done⟩ ∨ ∃ cause, f = .broken cause ∧
          (l.BreaksOver (.logged (.round s.annotName)) cause ∨
            l.BreaksOver (.message ⟨.round s.annotName, none, none⟩) cause)) := by
  rcases hlast : round.isLast with cause | _ | _
  · rw [Step.takeRound_broken h l s hlast]
    exact ⟨_, r, [], rfl, .refl l r, rfl, by simp, by simp⟩
  · rcases hrun : (note l s (.round s.annotName)).run r with ⟨f | _, r₁⟩
    all_goals
      obtain ⟨es, hes, htells⟩ := note_tells hrun
      have herrors : r₁.errors = r.errors := by
        have hnone : es.filterMap Event.error? = [] :=
          List.sublist_nil.mp (hes.sublist.filterMap Event.error?)
        rw [htells.errors, hnone, List.append_nil]
    · have hbreaks := note_error hrun
      have htake : (takeRound h l s round).run r = (.error f, r₁) := by
        rcases hshown : round.annotated s.annotName with cause | shown
        · rw [Step.takeRound_unshown h l s hlast hshown, Step.run_bind_error hrun]
        · rw [Step.takeRound_shown h l s hlast hshown, Step.run_bind_error hrun]
      exact ⟨f, r₁, es, htake, htells, herrors, by simp, fun _ _ => .inr hbreaks⟩
    · rcases hshown : round.annotated s.annotName with cause | shown
      · rw [Step.takeRound_unshown h l s hlast hshown, Step.run_bind_ok hrun]
        exact ⟨_, r₁, es, rfl, htells, herrors, by simp, by simp⟩
      · have hrefused := Step.run_bind_ok (collect_done h l s (htells.phase.trans hr) shown) allowed
        rw [Step.takeRound_shown h l s hlast hshown, Step.run_bind_ok hrun, hrefused]
        exact ⟨_, r₁, es, rfl, htells, herrors, by simp, fun _ _ => .inl rfl⟩
  · rw [Step.takeRound_last h l s hlast, Step.run_bind_ok (emit_done h l s hr)]
    exact ⟨_, r, [], rfl, .refl l r, rfl, fun _ => rfl, by simp⟩

/-- A round that comes too late is reported as one failure, and changes nothing else. -/
theorem processRound_done (hr : r.phase = .done) (round : Round τ) :
    ∃ cause, (∃ es, r.Tells l es (answer h l s r (.process round))) ∧
      r.ReportsFailure l cause (answer h l s r (.process round)) ∧
      (round.isLast = .ok true → cause = IllegalCall.message ⟨.emit, .done⟩) ∧
      (round.isLast = .ok false → (∃ shown, round.annotated s.annotName = .ok shown) →
        cause = IllegalCall.message ⟨.collect, .done⟩ ∨ ∃ broken, cause = (Failure.broken broken).message ∧
          (l.BreaksOver (.logged (.round s.annotName)) broken ∨
            l.BreaksOver (.message ⟨.round s.annotName, none, none⟩) broken)) := by
  obtain ⟨f, r₁, es, htake, htells, herrors, hlast, hround⟩ := takeRound_done h l s hr round
  rcases hrun : (fatal l f.message).run r₁ with ⟨outcome, r'⟩
  obtain ⟨⟨es', htells'⟩, hreports⟩ := fatal_tells hrun
  have hanswer : answer h l s r (.process round) = r' := by
    rw [answer_process, processRound, Step.run_guarded, htake]
    exact congrArg Prod.snd hrun
  rw [hanswer]
  refine ⟨f.message, ⟨_, htells.trans htells'⟩, ?_, hlast, fun hround' hshown => ?_⟩
  · rwa [Run.ReportsFailure, herrors] at hreports
  · refine (hround hround' hshown).imp_right ?_
    rintro ⟨broken, rfl, hbreaks⟩
    exact ⟨broken, rfl, hbreaks⟩

/-- A registrar that is done only tells the host something. -/
theorem answer_done (hr : r.phase = .done) (q : Request τ) : ∃ es, r.Tells l es (answer h l s r q) := by
  cases q with
  | process round =>
    obtain ⟨-, htells, -⟩ := processRound_done h l s hr round
    exact htells
  | collect elements =>
    rw [answer_collect, collect_done h l s hr]
    exact ⟨[], .refl l r⟩
  | emit =>
    rw [answer_emit, emit_done h l s hr]
    exact ⟨[], .refl l r⟩

theorem answerAll_done (hr : r.phase = .done) (qs : List (Request τ)) :
    ∃ es, r.Tells l es (answerAll h l s qs r) := by
  induction qs generalizing r with
  | nil => exact ⟨[], .refl l r⟩
  | cons q qs ih =>
    obtain ⟨es, htells⟩ := answer_done h l s hr q
    obtain ⟨es', htells'⟩ := ih (htells.phase.trans hr)
    exact ⟨es ++ es', htells.trans htells'⟩

/-- A round whose host breaks down when it is asked whether the round is the last one. -/
theorem processRound_broken {round : Round τ} {cause : Bytes} (hlast : round.isLast = .error cause)
    (r : Run τ σ) :
    (∃ es, r.Tells l es (answer h l s r (.process round))) ∧
      r.ReportsFailure l (Failure.broken cause).message (answer h l s r (.process round)) := by
  rcases hrun : (fatal l (Failure.broken cause).message).run r with ⟨outcome, r'⟩
  have hanswer : answer h l s r (.process round) = r' := by
    rw [answer_process, processRound, Step.run_guarded, Step.takeRound_broken h l s hlast]
    exact congrArg Prod.snd hrun
  rw [hanswer]
  exact fatal_tells hrun

theorem exists_first_emission {qs : List (Request τ)} (hqs : ∃ q ∈ qs, ¬ q.Gathers) :
    ∃ before q after, qs = before ++ q :: after ∧ (∀ q ∈ before, q.Gathers) ∧ ¬ q.Gathers := by
  induction qs with
  | nil => simp at hqs
  | cons q qs ih =>
    by_cases hq : q.Gathers
    · obtain ⟨before, q', after, rfl, hbefore, hq'⟩ := ih (by simpa [hq] using hqs)
      exact ⟨q :: before, q', after, rfl, by simpa [hq] using hbefore, hq'⟩
    · exact ⟨[], q, qs, rfl, by simp, hq⟩

/-- A registrar that was asked to emit is done, and has opened each file at most once. -/
theorem answerAll_emitted {qs : List (Request τ)} (hqs : ∃ q ∈ qs, ¬ q.Gathers)
    (hphase : r.phase = .collecting) (hopened : r.opened = []) :
    (answerAll h l s qs r).phase = .done ∧ (answerAll h l s qs r).opened.Nodup := by
  obtain ⟨before, q, after, rfl, hbefore, hq⟩ := exists_first_emission hqs
  have hgathered := answerAll_gathers h l s hbefore r
  obtain ⟨hdone, is, hsorted, hopens⟩ := answer_emits h l s hq (hgathered.phase.trans hphase)
  obtain ⟨es, htells⟩ := answerAll_done h l s hdone after
  have hafter : answerAll h l s (before ++ q :: after) r =
      answerAll h l s after (answer h l s (answerAll h l s before r) q) := by
    rw [answerAll_append]
    rfl
  rw [hafter]
  refine ⟨htells.phase.trans hdone, ?_⟩
  rw [htells.opened, hopens, hgathered.opened, hopened, List.map_nil, List.nil_append, List.nil_append]
  exact hsorted.nodup.map fun _ _ => servicePath_injective

end

/-- Requests to a host that breaks down on the second of two files while the registrar emits. -/
def brokenRequests : List (Request Bytes) :=
  [.collect [plainProvider "p" (.type (plainType "A")), plainProvider "q" (.type (plainType "B"))], .emit,
    .collect [plainProvider "r" (.type (plainType "A"))], .process (.of (.ok true) []),
    .process (.of (.ok false) []), .process ⟨.error "round", fun _ => .ok []⟩, .emit]

def brokenFiles : MemoryFiles where
  faults := { breaking := .ofList [(servicePath "B", "disk")] }

/-- A host that breaks down over every report of a failure but the first, whose text is that of a panic. -/
def touchyListener : Listener Bytes MemoryFiles := fun e files =>
  (match e with
    | .message ⟨.fatal cause, _, _⟩ => if cause = Bytes.ofString "panic: disk" then none else some "told"
    | _ => none, files)

end ServiceAnnotations.Registry
