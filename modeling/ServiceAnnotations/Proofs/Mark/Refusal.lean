import ServiceAnnotations.Proofs.Mark.Completeness

/-! # Where tokens are refused

A fault is met as soon as there is one: at the first token with which the tokens so far are no front of a tree any
more. -/
namespace ServiceAnnotations.Mark

/-- How reading the tokens `ts` in front of `ending` stops with a fault. The tokens before it are the front of some
list that is `whole`; those up to it are the front of no list that `fits`, where more may follow. -/
inductive StopsAt (nested : Bool) (whole fits : Tokens → Prop) (ts : Tokens) (ending : Lexeme) : ParseError → Prop
  | token {before after : Tokens} {t : Position × Token} (wanted : Wanted) (hts : ts = before ++ t :: after)
      (hcounts : nested = true → t.2 ≠ .endOfLine) (hgoes : ∃ more, whole (before ++ more))
      (hstuck : ∀ more, ¬ fits (before ++ t :: more)) :
      StopsAt nested whole fits ts ending ⟨some t.1, .unexpected t.2 wanted⟩
  | endOfInput {pos : Position} (wanted : Wanted) (hending : ending = .token pos .endOfInput)
      (hgoes : ∃ more, whole (ts ++ more)) (hstuck : ¬ fits ts) :
      StopsAt nested whole fits ts ending ⟨some pos, .unexpected .endOfInput wanted⟩
  | failure {place : Option Position} {error : LexError} (hending : ending = .failure place error)
      (hgoes : ∃ more, whole (ts ++ more)) : StopsAt nested whole fits ts ending ⟨place, .lexical error⟩

section
variable {nested : Bool} {whole fits : Tokens → Prop} {ts : Tokens} {ending : Lexeme} {e : ParseError}

/-- Which token comes next does not depend on what is behind one that counts. -/
theorem upcoming_append_cons (before : Tokens) {t : Position × Token} (ht : nested = true → t.2 ≠ .endOfLine)
    (more after : Tokens) : upcoming nested (before ++ t :: more) = upcoming nested (before ++ t :: after) := by
  cases nested with
  | false => cases before <;> rfl
  | true =>
    induction before with
    | nil => simp [upcoming, settled, ht rfl]
    | cons p before ih =>
      by_cases hp : p.2 = .endOfLine
      · simpa [upcoming, settled, hp] using ih
      · simp [upcoming, settled, hp]

theorem StopsAt.flat (h : StopsAt true whole fits ts ending e) : StopsAt false whole fits ts ending e := by
  cases h with
  | token wanted hts _ hgoes hstuck => exact .token wanted hts nofun hgoes hstuck
  | endOfInput wanted hending hgoes hstuck => exact .endOfInput wanted hending hgoes hstuck
  | failure hending hgoes => exact .failure hending hgoes

/-- Reading a part stops where the whole does: a list that fits behind `front` has a part that fits, and any part
can be gone on with. -/
theorem StopsAt.behind {whole' fits' : Tokens → Prop} (front : Tokens) (h : StopsAt nested whole' fits' ts ending e)
    (hwhole : ∀ us, whole' us → ∃ more, whole (front ++ us ++ more))
    (hfits : ∀ us, upcoming nested us = upcoming nested ts → fits (front ++ us) → fits' us) :
    StopsAt nested whole fits (front ++ ts) ending e := by
  have hgo : ∀ us, (∃ more, whole' (us ++ more)) → ∃ more, whole (front ++ us ++ more) := by
    rintro us ⟨more, hmore⟩
    obtain ⟨more', hmore'⟩ := hwhole _ hmore
    exact ⟨more ++ more', by simpa only [List.append_assoc] using hmore'⟩
  cases h with
  | @token before after t wanted hts hcounts hgoes hstuck =>
    refine .token wanted (by rw [hts, List.append_assoc]) hcounts (hgo _ hgoes) fun more hmore => ?_
    rw [List.append_assoc] at hmore
    exact hstuck more (hfits _ (hts ▸ upcoming_append_cons before hcounts more after) hmore)
  | endOfInput wanted hending hgoes hstuck =>
    exact .endOfInput wanted hending (hgo _ hgoes) fun hts => hstuck (hfits _ rfl hts)
  | failure hending hgoes => exact .failure hending (hgo _ hgoes)

end

namespace Input

/-- Either a token that counts comes next, or line ends up to the end or an error. -/
theorem next_cases {i : Input} {nested : Bool} {ending : Lexeme} {ts : Tokens} (hfinal : ending.IsFinal)
    (hi : i.Stands nested ending ts) :
    (∃ (s : Spot nested) (t : Token) (rest : Tokens), ts = s.tokens t ++ rest ∧ (nested = true → t ≠ .endOfLine) ∧
      i.next nested = .ok ((s.pos, t), ⟨(s.pos, t) :: rest, ending⟩)) ∨
    ∃ s : Spot nested, ts = lineEnds s.gap ∧
      ((∃ pos, ending = .token pos .endOfInput ∧ i.next nested = .ok ((pos, .endOfInput), ⟨[], ending⟩)) ∨
        ∃ place error, ending = .failure place error ∧ i.next nested = .error ⟨place, .lexical error⟩) := by
  rw [next_eq hi]
  cases hsettled : settled nested ts with
  | cons p rest =>
    obtain ⟨s, hpos, hts⟩ := exists_spot_of_settled hsettled
    have hcounts : nested = true → p.2 ≠ .endOfLine := by
      rintro rfl hp
      have hne : ts.dropWhile (·.2 = .endOfLine) ≠ [] := by
        rw [settled, if_pos rfl] at hsettled
        simp [hsettled]
      have hhead := List.head_dropWhile_not (·.2 = .endOfLine) (l := ts) hne
      rw [settled, if_pos rfl] at hsettled
      simp [hsettled, hp] at hhead
    exact .inl ⟨s, p.2, rest, hts, hcounts, by rw [hpos]; rfl⟩
  | nil =>
    refine .inr ?_
    have hgap : ∃ s : Spot nested, ts = lineEnds s.gap := by
      cases nested with
      | false => exact ⟨⟨[], .start, fun _ => rfl⟩, hsettled⟩
      | true =>
        refine ⟨⟨ts.map Prod.fst, .start, fun h => by cases h⟩, ?_⟩
        rw [settled, if_pos rfl, List.dropWhile_eq_nil_iff] at hsettled
        rw [lineEnds, List.map_map]
        refine (List.map_id ts).symm.trans (List.map_congr_left fun t ht => Prod.ext rfl ?_)
        simpa using hsettled t ht
    obtain ⟨s, rfl⟩ := hgap
    refine ⟨s, rfl, ?_⟩
    cases ending with
    | token pos t =>
      obtain rfl := hfinal pos t rfl
      exact .inl ⟨pos, rfl, rfl⟩
    | failure place error => exact .inr ⟨place, error, rfl, rfl⟩

end Input

@[simp] theorem upcoming_lineEnds {nested : Bool} (s : Spot nested) : upcoming nested (lineEnds s.gap) = none := by
  cases nested with
  | false => simp [s.flat rfl, lineEnds, upcoming]
  | true =>
    have hsettled := settled_lineEnds_append s.gap []
    rw [List.append_nil] at hsettled
    rw [upcoming, hsettled]
    rfl

/-- Lists that fit start with a token that `starts`, and line ends before it are the front of a whole one. -/
structure Opens (nested : Bool) (starts : Token → Prop) (whole fits : Tokens → Prop) : Prop where
  first : ∀ ts, fits ts → ∃ t, upcoming nested ts = some t ∧ starts t
  proper : ¬ starts .endOfInput
  gap : ∀ s : Spot nested, ∃ more, whole (lineEnds s.gap ++ more)

section
variable {nested : Bool} {starts : Token → Prop} {whole fits : Tokens → Prop} {ts : Tokens} {ending : Lexeme}
  {e : ParseError} {i : Input} (hfinal : ending.IsFinal)
include hfinal

/-- A reader that wants the first token of what it reads stops there, or at a fault behind it. -/
theorem Opens.stopsAt {α : Type} {k : (Position × Token) × Input → Except ParseError α}
    (hopens : Opens nested starts whole fits) (hi : i.Stands nested ending ts)
    (hk : ∀ t i', ¬ starts t.2 → ∃ wanted, k (t, i') = unexpected t wanted) (h : (i.next nested >>= k) = .error e) :
    StopsAt nested whole fits ts ending e ∨
      ∃ (s : Spot nested) (t : Token) (rest : Tokens), ts = s.tokens t ++ rest ∧ starts t ∧
        k ((s.pos, t), ⟨(s.pos, t) :: rest, ending⟩) = .error e := by
  obtain ⟨s, t, rest, rfl, hcounts, hnext⟩ | ⟨s, rfl, ⟨pos, hending, hnext⟩ | ⟨place, error, hending, hnext⟩⟩ :=
    Input.next_cases hfinal hi
  · rw [hnext, ok_bind] at h
    by_cases hstarts : starts t
    · exact .inr ⟨s, t, rest, rfl, hstarts, h⟩
    · obtain ⟨wanted, hwanted⟩ := hk (s.pos, t) ⟨(s.pos, t) :: rest, ending⟩ hstarts
      rw [hwanted] at h
      cases h
      have hsplit : s.tokens t ++ rest = lineEnds s.gap ++ (s.pos, t) :: rest := by simp [Spot.tokens]
      refine .inl (.token wanted hsplit hcounts (hopens.gap s) fun more hmore => ?_)
      obtain ⟨u, hu, hstarts'⟩ := hopens.first _ hmore
      have hup : upcoming nested (lineEnds s.gap ++ (s.pos, t) :: more) = some t := by
        rw [← upcoming_spot_append s hcounts more, Spot.tokens, List.append_assoc, List.singleton_append]
      obtain rfl := Option.some.inj (hup.symm.trans hu)
      exact hstarts hstarts'
  · rw [hnext, ok_bind] at h
    obtain ⟨wanted, hwanted⟩ := hk (pos, .endOfInput) ⟨[], ending⟩ hopens.proper
    rw [hwanted] at h
    cases h
    refine .inl (.endOfInput wanted hending (hopens.gap s) fun hfits => ?_)
    obtain ⟨t, ht, -⟩ := hopens.first _ hfits
    rw [upcoming_lineEnds] at ht
    cases ht
  · rw [hnext] at h
    cases h
    exact .inl (.failure hending (hopens.gap s))

end

def Whole {T : Type} (tokens : T → Tokens) (ts : Tokens) : Prop := ∃ x, tokens x = ts

/-- Lists that start with those of a tree, which what follows does not go on with. -/
def Begins {T : Type} (tokens : T → Tokens) (stops : T → Tokens → Prop) (ts : Tokens) : Prop :=
  ∃ x rest, tokens x ++ rest = ts ∧ stops x rest

def WholeToken (nested : Bool) (kind : Token → Prop) (ts : Tokens) : Prop :=
  ∃ (s : Spot nested) (t : Token), kind t ∧ s.tokens t = ts

def BeginsToken (nested : Bool) (kind : Token → Prop) (ts : Tokens) : Prop :=
  ∃ (s : Spot nested) (t : Token) (rest : Tokens), kind t ∧ s.tokens t ++ rest = ts

def Token.IsWord (t : Token) : Prop := ∃ name, t = .word name

def Token.IsInt (t : Token) : Prop := ∃ n, t = .int n

theorem opens_token (nested : Bool) {kind : Token → Prop} {t : Token} (ht : kind t)
    (hline : ¬ kind .endOfLine) (hend : ¬ kind .endOfInput) :
    Opens nested kind (WholeToken nested kind) (BeginsToken nested kind) where
  first := by
    rintro _ ⟨s, u, rest, hu, rfl⟩
    exact ⟨u, upcoming_spot_append s (fun _ hline' => hline (hline' ▸ hu)) rest, hu⟩
  proper := hend
  gap s := ⟨[(s.pos, t)], s, t, ht, rfl⟩

theorem RefTree.opens (nested : Bool) :
    Opens nested Token.IsWord (Whole (T := RefTree nested) tokens)
      (Begins (T := RefTree nested) tokens StopsBefore) where
  first := by
    rintro _ ⟨r, rest, rfl, -⟩
    obtain ⟨s, more, htokens, -⟩ := r.exists_first
    exact ⟨_, by rw [htokens, List.append_assoc, upcoming_spot_append s (by simp)], r.first, rfl⟩
  proper := nofun
  gap s := ⟨[(s.pos, .word "")], .plain s "", rfl⟩

section
variable {nested : Bool} {whole fits : Tokens → Prop} {ts : Tokens} {ending : Lexeme} {e : ParseError} {i : Input}
  (hfinal : ending.IsFinal)
include hfinal

theorem parseWord_stopsAt (hopens : Opens nested Token.IsWord whole fits) (hi : i.Stands nested ending ts)
    (h : parseWord nested i = .error e) : StopsAt nested whole fits ts ending e := by
  refine (hopens.stopsAt hfinal hi (fun t i' ht => ⟨.word, ?_⟩) h).resolve_right ?_
  · simp only
    split
    · exact absurd ⟨_, ‹_›⟩ ht
    · rfl
  · rintro ⟨s, _, rest, -, ⟨name, rfl⟩, hok⟩
    cases hok

theorem parseReference_stopsAt (hi : i.Stands nested ending ts) (h : parseReference nested i = .error e) :
    StopsAt nested (Whole (T := RefTree nested) RefTree.tokens)
      (Begins (T := RefTree nested) RefTree.tokens RefTree.StopsBefore) ts ending e := by
  rcases bind_eq_error_iff.mp h with hword | ⟨⟨⟨pos, name⟩, i₁⟩, hword, h₁⟩
  · exact parseWord_stopsAt hfinal (RefTree.opens nested) hi hword
  obtain ⟨s, rest, rfl, rfl, rfl⟩ := parseWord_sound hfinal hi hword
  simp only at h₁
  obtain ⟨dot, t, rest, rfl, hcounts, hnext⟩ | ⟨dot, rfl, ⟨pos, hending, hnext⟩ | ⟨place, error, hending, hnext⟩⟩ :=
    Input.next_cases hfinal (Input.stands_mk nested ending rest)
  · rw [hnext, ok_bind] at h₁
    simp only at h₁
    split at h₁
    · rename_i ht
      subst ht
      rcases bind_eq_error_iff.mp h₁ with hmember | ⟨r, -, hok⟩
      · have hopens : Opens nested Token.IsWord _ _ :=
          opens_token nested ⟨"", rfl⟩ (by simp [Token.IsWord]) (by simp [Token.IsWord])
        have hstop := parseWord_stopsAt hfinal hopens (Input.stands_mk nested ending rest) hmember
        rw [← List.append_assoc]
        refine hstop.behind _ ?_ ?_
        · rintro _ ⟨member, _, ⟨name', rfl⟩, rfl⟩
          exact ⟨[], .qualified s name dot member name', by simp [RefTree.tokens]⟩
        · rintro us - ⟨r, rest', htokens, hstops⟩
          rw [List.append_assoc] at htokens
          cases r with
          | plain s' name' =>
            obtain ⟨-, -, rfl⟩ := spot_append_inj (by simp) (by simp) htokens
            exact absurd (upcoming_spot_append dot (by simp) us) hstops
          | qualified s' package dot' member name' =>
            simp only [RefTree.tokens, List.append_assoc] at htokens
            obtain ⟨-, -, htokens⟩ := spot_append_inj (by simp) (by simp) htokens
            obtain ⟨-, -, rfl⟩ := spot_append_inj (by simp) (by simp) htokens
            exact ⟨member, _, rest', ⟨name', rfl⟩, rfl⟩
      · cases hok
    · cases h₁
  · rw [hnext] at h₁
    cases h₁
  · rw [hnext] at h₁
    cases h₁
    refine .failure hending ⟨[(dot.pos, .rune '.'), (dot.pos, .word "")], ?_⟩
    exact ⟨.qualified s name dot ⟨[], dot.pos, fun _ => rfl⟩ "", by simp [RefTree.tokens, Spot.tokens, lineEnds]⟩

end

def WholeItems (b : Bracket) (ts : Tokens) : Prop :=
  ∃ (xs : ItemsTree) (closed : Spot true), xs.tokens ++ closed.tokens (.rune b.closing) = ts

def BeginsItems (b : Bracket) (ts : Tokens) : Prop :=
  ∃ (xs : ItemsTree) (closed : Spot true) (rest : Tokens), xs.tokens ++ (closed.tokens (.rune b.closing) ++ rest) = ts

theorem ValueTree.upcoming_append (v : ValueTree) (rest : Tokens) :
    upcoming true (v.tokens ++ rest) = some v.first := by
  obtain ⟨s, more, htokens, -⟩ := v.exists_first
  rw [htokens, List.append_assoc, upcoming_spot_append s fun _ => v.first_ne_endOfLine]

theorem ValueTree.opens :
    Opens true (fun t => t.startsValue = true) (Whole ValueTree.tokens) (Begins ValueTree.tokens StopsBefore) where
  first := by
    rintro _ ⟨v, rest, rfl, -⟩
    exact ⟨v.first, v.upcoming_append rest, v.startsValue_first⟩
  proper := nofun
  gap s := ⟨[(s.pos, .yes)], .atom s .yes, rfl⟩

/-- What may stand behind an item: the bracket that closes all of them, or a comma and more of them. -/
inductive WholeBehind (b : Bracket) : Tokens → Prop
  | closed (s : Spot true) : WholeBehind b (s.tokens (.rune b.closing))
  | comma (s : Spot true) {rest : Tokens} (hrest : WholeItems b rest) : WholeBehind b (s.tokens (.rune ',') ++ rest)

inductive BeginsBehind (b : Bracket) : Tokens → Prop
  | closed (s : Spot true) (rest : Tokens) : BeginsBehind b (s.tokens (.rune b.closing) ++ rest)
  | comma (s : Spot true) {rest : Tokens} (hrest : BeginsItems b rest) : BeginsBehind b (s.tokens (.rune ',') ++ rest)

theorem BeginsBehind.opens (b : Bracket) :
    Opens true (fun t => t = .rune ',' ∨ t = .rune b.closing) (WholeBehind b) (BeginsBehind b) where
  first := by
    intro ts h
    cases h with
    | closed s rest => exact ⟨_, upcoming_spot_append s (by simp) rest, .inr rfl⟩
    | comma s => exact ⟨_, upcoming_spot_append s (by simp) _, .inl rfl⟩
  proper := by simp
  gap s := ⟨_, .closed s⟩

theorem WholeBehind.behind_item {b : Bracket} (x : ItemTree) {us : Tokens} (h : WholeBehind b us) :
    WholeItems b (x.tokens ++ us) := by
  cases h with
  | closed s => exact ⟨.last x, s, rfl⟩
  | comma s hrest =>
    obtain ⟨ys, closed, rfl⟩ := hrest
    exact ⟨.more x s ys, closed, by simp [ItemsTree.tokens]⟩

theorem BeginsItems.behind_item {b : Bracket} {x : ItemTree} {us : Tokens} (h : BeginsItems b (x.tokens ++ us))
    (hx : x.StopsBefore us) : BeginsBehind b us := by
  obtain ⟨xs, closed, rest, htokens⟩ := h
  cases xs with
  | none => exact absurd (closes_spot_append b closed rest) (htokens ▸ x.not_closes_append us)
  | last y =>
    have hy := (closes_spot_append b closed rest).followsItem.stopsBefore y
    obtain ⟨-, rfl⟩ := ItemTree.append_inj y x hy hx htokens
    exact .closed closed rest
  | more y comma ys =>
    simp only [ItemsTree.tokens, List.append_assoc] at htokens
    obtain ⟨-, rfl⟩ := ItemTree.append_inj y x ((comma_followsItem comma _).stopsBefore y) hx htokens
    exact .comma comma ⟨ys, closed, rest, rfl⟩

/-- Items that do not end right away start with one. -/
theorem BeginsItems.item {b : Bracket} {us : Tokens} (h : BeginsItems b us)
    (hopen : upcoming true us ≠ some (.rune b.closing)) : Begins ItemTree.tokens ItemTree.StopsBefore us := by
  obtain ⟨xs, closed, rest, rfl⟩ := h
  cases xs with
  | none => exact absurd (upcoming_spot_append closed (by simp) rest) hopen
  | last x => exact ⟨x, _, rfl, (closes_spot_append b closed rest).followsItem.stopsBefore x⟩
  | more x comma ys =>
    refine ⟨x, _, ?_, (comma_followsItem comma (ys.tokens ++ (closed.tokens (.rune b.closing) ++ rest))).stopsBefore x⟩
    simp [ItemsTree.tokens]

section
variable {us : Tokens}

/-- A value that begins with a word is a reference. -/
theorem begins_reference {name : String} (hus : upcoming true us = some (.word name))
    (h : Begins ValueTree.tokens ValueTree.StopsBefore us) :
    Begins (T := RefTree true) RefTree.tokens RefTree.StopsBefore us := by
  obtain ⟨v, rest, rfl, hstops⟩ := h
  rw [v.upcoming_append] at hus
  cases v with
  | ref r => exact ⟨r, rest, rfl, hstops⟩
  | atom s a => exact absurd (Option.some.inj hus) (a.token_ne_word name)
  | _ => cases hus

/-- A value that begins with a minus sign is a negative number. -/
theorem begins_behind_minus (s : Spot true)
    (h : Begins ValueTree.tokens ValueTree.StopsBefore (s.tokens (.rune '-') ++ us)) :
    BeginsToken true Token.IsInt us := by
  obtain ⟨v, rest, htokens, -⟩ := h
  have hfirst := v.upcoming_append rest
  rw [htokens, upcoming_spot_append s (by simp)] at hfirst
  cases v with
  | negative minus number n =>
    rw [ValueTree.tokens, List.append_assoc] at htokens
    obtain ⟨-, -, rfl⟩ := spot_append_inj (by simp) (by simp) htokens
    exact ⟨number, _, rest, ⟨n, rfl⟩, rfl⟩
  | atom s' a => exact absurd (Option.some.inj hfirst).symm (a.token_ne_rune '-')
  | _ => cases hfirst

/-- A value that begins with a brace is a list of items. -/
theorem begins_behind_brace (s : Spot true)
    (h : Begins ValueTree.tokens ValueTree.StopsBefore (s.tokens (.rune '\x7b') ++ us)) : BeginsItems .brace us := by
  obtain ⟨v, rest, htokens, -⟩ := h
  have hfirst := v.upcoming_append rest
  rw [htokens, upcoming_spot_append s (by simp)] at hfirst
  cases v with
  | list opened xs closed =>
    simp only [ValueTree.tokens, List.append_assoc] at htokens
    obtain ⟨-, -, rfl⟩ := spot_append_inj (by simp) (by simp) htokens
    exact ⟨xs, closed, rest, rfl⟩
  | atom s' a => exact absurd (Option.some.inj hfirst).symm (a.token_ne_rune '\x7b')
  | _ => cases hfirst

/-- An item begins with a value, be it the key of another one. -/
theorem begins_value (h : Begins ItemTree.tokens ItemTree.StopsBefore us) :
    Begins ValueTree.tokens ValueTree.StopsBefore us := by
  obtain ⟨x, rest, rfl, hstops⟩ := h
  cases x with
  | plain v => exact ⟨v, rest, rfl, hstops.1⟩
  | keyed key name colon v =>
    -- a key is a name in front of a colon
    have hcolon : upcoming true (colon.tokens (.rune ':') ++ (v.tokens ++ rest)) ≠ some (.rune '.') := by
      simp [upcoming_spot_append]
    refine ⟨.ref (.plain key name), colon.tokens (.rune ':') ++ (v.tokens ++ rest), ?_, hcolon⟩
    simp [ItemTree.tokens, ValueTree.tokens, RefTree.tokens]

/-- An item that begins with a name and a colon goes on with the value for this key. -/
theorem begins_behind_key {key colon : Spot true} {name : String}
    (h : Begins ItemTree.tokens ItemTree.StopsBefore
      (key.tokens (.word name) ++ (colon.tokens (.rune ':') ++ us))) :
    Begins ValueTree.tokens ValueTree.StopsBefore us := by
  obtain ⟨x, rest, htokens, hstops⟩ := h
  cases x with
  | plain v => exact absurd htokens (ValueTree.append_ne_key hstops)
  | keyed key' name' colon' v =>
    simp only [ItemTree.tokens, List.append_assoc] at htokens
    obtain ⟨-, -, htokens⟩ := spot_append_inj (by simp) (by simp) htokens
    obtain ⟨-, -, rfl⟩ := spot_append_inj (by simp) (by simp) htokens
    exact ⟨v, rest, rfl, hstops⟩

end

/-- Values read with the given fuel, which is enough, stop at the first token that does not fit. -/
def ValueStops (ending : Lexeme) (fuel : Nat) : Prop :=
  ∀ {i : Input} {ts : Tokens} {e : ParseError}, i.Stands true ending ts → 3 * ts.length + 1 ≤ fuel →
    parseValue fuel i = .error e →
      StopsAt true (Whole ValueTree.tokens) (Begins ValueTree.tokens ValueTree.StopsBefore) ts ending e

def ItemStops (ending : Lexeme) (fuel : Nat) : Prop :=
  ∀ {i : Input} {ts : Tokens} {e : ParseError}, i.Stands true ending ts → 3 * ts.length + 2 ≤ fuel →
    parseItem fuel i = .error e →
      StopsAt true (Whole ItemTree.tokens) (Begins ItemTree.tokens ItemTree.StopsBefore) ts ending e

def ItemsStop (ending : Lexeme) (fuel : Nat) : Prop :=
  ∀ {b : Bracket} {i : Input} {ts : Tokens} {e : ParseError}, i.Stands true ending ts → 3 * ts.length + 3 ≤ fuel →
    parseItems b.closing fuel i = .error e → StopsAt true (WholeItems b) (BeginsItems b) ts ending e

section
variable {ending : Lexeme} (hfinal : ending.IsFinal) {fuel : Nat}
include hfinal

theorem valueStops_succ (hitems : ItemsStop ending fuel) : ValueStops ending (fuel + 1) := by
  intro i ts e hi hfuel h
  rw [parseValue] at h
  obtain hstop | ⟨s, t, rest, rfl, hstarts, h₁⟩ := ValueTree.opens.stopsAt hfinal hi (fun t i' ht => ⟨.value, by
    simp only
    split <;> first | rfl | simp_all [Token.startsValue]⟩) h
  · exact hstop
  simp only [List.length_append] at hfuel
  have hlength := s.length_tokens_pos t
  -- Behind the first token a reference, a number or items are read; the other values are complete.
  simp only at h₁
  split at h₁
  · rename_i name
    obtain href | ⟨r, -, hok⟩ := bind_eq_error_iff.mp h₁
    · have hstop := parseReference_stopsAt hfinal (Input.stands_spot s (by simp) rest ending) href
      refine hstop.behind [] ?_ fun us hus => begins_reference (hus.trans (upcoming_spot_append s (by simp) rest))
      rintro _ ⟨r, rfl⟩
      exact ⟨[], .ref r, by simp [ValueTree.tokens]⟩
    · cases hok
  · cases h₁
  · cases h₁
  · cases h₁
  · cases h₁
  · cases h₁
  · cases h₁
  · have hopens : Opens true Token.IsInt _ _ :=
      opens_token true ⟨0, rfl⟩ (by simp [Token.IsInt]) (by simp [Token.IsInt])
    obtain hstop | ⟨number, _, rest', rfl, ⟨n, rfl⟩, hok⟩ :=
      hopens.stopsAt hfinal (Input.stands_mk true ending rest) (fun t i' ht => ⟨.int, by
        simp only
        split
        · exact absurd ⟨_, ‹_›⟩ ht
        · rfl⟩) h₁
    · refine hstop.behind _ ?_ fun us _ => begins_behind_minus s
      rintro _ ⟨number, _, ⟨n, rfl⟩, rfl⟩
      exact ⟨[], .negative s number n, by simp [ValueTree.tokens]⟩
    · cases hok
  · obtain hxs | ⟨xs, -, hok⟩ := bind_eq_error_iff.mp h₁
    · have hstop := hitems (b := .brace) (Input.stands_mk true ending rest) (by omega) hxs
      refine hstop.behind _ ?_ fun us _ => begins_behind_brace s
      rintro _ ⟨xs, closed, rfl⟩
      exact ⟨[], .list s xs closed, by simp [ValueTree.tokens, Bracket.closing]⟩
    · cases hok
  · -- no other token starts a value
    clear h
    cases t with
    | text value => cases value <;> simp_all
    | rune c =>
      simp only [Token.startsValue, Bool.or_eq_true, decide_eq_true_eq] at hstarts
      rcases hstarts with rfl | rfl <;> simp_all
    | endOfLine | endOfInput => cases hstarts
    | _ => simp_all

theorem itemStops_succ (hvalue : ValueStops ending fuel) : ItemStops ending (fuel + 1) := by
  intro i ts e hi hfuel h
  rw [parseItem] at h
  obtain hv | ⟨⟨value, i₁⟩, hv, h₁⟩ := bind_eq_error_iff.mp h
  · have hstop := hvalue hi (by omega) hv
    refine hstop.behind [] ?_ fun us _ => begins_value
    rintro _ ⟨v, rfl⟩
    exact ⟨[], .plain v, by simp [ItemTree.tokens]⟩
  obtain ⟨v, rest, rfl, rfl, hstops, hi₁⟩ := (nested_sound hfinal fuel).1 hi hv
  simp only at h₁
  split at h₁
  · rename_i name pos hexpr
    obtain ⟨key, rfl, rfl⟩ := eq_plain_of_expr hexpr
    obtain ⟨colon, t, rest, rfl, hcounts, hnext⟩ |
        ⟨colon, rfl, ⟨pos, hending, hnext⟩ | ⟨place, error, hending, hnext⟩⟩ :=
      Input.next_cases hfinal hi₁
    · rw [hnext, ok_bind] at h₁
      simp only at h₁
      split at h₁
      · rename_i ht
        subst ht
        obtain hv' | ⟨r, -, hok⟩ := bind_eq_error_iff.mp h₁
        · simp only [List.length_append] at hfuel
          have hlength := colon.length_tokens_pos (.rune ':')
          have hstop := hvalue (Input.stands_mk true ending rest) (by omega) hv'
          rw [← List.append_assoc]
          refine hstop.behind _ ?_ fun us _ hfits => begins_behind_key (by rwa [List.append_assoc] at hfits)
          rintro _ ⟨v, rfl⟩
          exact ⟨[], .keyed key name colon v, by simp [ItemTree.tokens, ValueTree.tokens, RefTree.tokens]⟩
        · cases hok
      · cases h₁
    · rw [hnext] at h₁
      cases h₁
    · rw [hnext] at h₁
      cases h₁
      refine .failure hending ⟨[(colon.pos, .rune ':'), (colon.pos, .yes)], ?_⟩
      exact ⟨.keyed key name colon (.atom ⟨[], colon.pos, fun _ => rfl⟩ .yes), by
        simp [ItemTree.tokens, ValueTree.tokens, RefTree.tokens, Spot.tokens, lineEnds, Atom.token]⟩
  · cases h₁

theorem itemsStop_succ (hitem : ItemStops ending fuel) (hitems : ItemsStop ending fuel) :
    ItemsStop ending (fuel + 1) := by
  intro b i ts e hi hfuel h
  rw [parseItems] at h
  obtain hnext | ⟨⟨t, i₁⟩, hnext, h₁⟩ := bind_eq_error_iff.mp h
  · obtain ⟨s, t, rest, -, -, hok⟩ | ⟨s, rfl, ⟨pos, -, hok⟩ | ⟨place, error, hending, hfail⟩⟩ :=
      Input.next_cases hfinal hi
    · cases hnext.symm.trans hok
    · cases hnext.symm.trans hok
    · cases hnext.symm.trans hfail
      exact .failure hending ⟨[(s.pos, .rune b.closing)], .none, s, rfl⟩
  obtain ⟨hi₁, -⟩ := Input.next_eq_ok hfinal hi hnext
  simp only at h₁
  split at h₁
  · cases h₁
  rename_i ht
  have hopen : upcoming true ts ≠ some (.rune b.closing) := fun hup => ht (Input.upcoming_of_next hi hnext hup)
  obtain hx | ⟨⟨x, i₂⟩, hx, h₂⟩ := bind_eq_error_iff.mp h₁
  · have hstop := hitem hi₁ (by omega) hx
    refine hstop.behind [] ?_ fun us hus hfits => hfits.item (hus ▸ hopen)
    rintro _ ⟨x, rfl⟩
    exact ⟨_, .last x, ⟨[], .start, fun _ => rfl⟩, rfl⟩
  obtain ⟨x, rest, rfl, rfl, hstops, hi₂⟩ := (nested_sound hfinal fuel).2.1 hi₁ hx
  have hstop : StopsAt true (WholeBehind b) (BeginsBehind b) rest ending e := by
    obtain hstop | ⟨comma, u, rest, rfl, hu, h₃⟩ := (BeginsBehind.opens b).stopsAt hfinal hi₂ (fun u i' hu => by
      obtain ⟨hcomma, hclosed⟩ := not_or.mp hu
      exact ⟨.comma b.closing, by simp only [hcomma, hclosed, if_false]⟩) h₂
    · exact hstop
    simp only at h₃
    split at h₃
    · rename_i hcomma
      subst hcomma
      obtain hys | ⟨ys, -, hok⟩ := bind_eq_error_iff.mp h₃
      · simp only [List.length_append] at hfuel
        have hlength := comma.length_tokens_pos (.rune ',')
        have hstop := hitems (Input.stands_mk true ending rest) (by omega) hys
        refine hstop.behind _ (fun us hus => ⟨[], ?_⟩) fun us _ hus => ?_
        · rw [List.append_nil]
          exact .comma comma hus
        · generalize hall : comma.tokens (.rune ',') ++ us = all at hus
          cases hus with
          | closed s rest' =>
            obtain ⟨-, hclosing, -⟩ := spot_append_inj (by simp) (by simp) hall
            cases b <;> cases hclosing
          | comma s hrest =>
            obtain ⟨-, -, rfl⟩ := spot_append_inj (by simp) (by simp) hall
            exact hrest
      · cases hok
    · rename_i hcomma
      rw [if_pos (hu.resolve_left hcomma)] at h₃
      cases h₃
  refine hstop.behind _ (fun us hus => ⟨[], ?_⟩) fun us hus hfits => hfits.behind_item (hstops.congr hus)
  rw [List.append_nil]
  exact hus.behind_item x

/-- Whatever is read within brackets stops at the first token that does not fit. -/
theorem nested_stops (fuel : Nat) : ValueStops ending fuel ∧ ItemStops ending fuel ∧ ItemsStop ending fuel := by
  induction fuel with
  | zero => exact ⟨fun _ h => absurd h (by omega), fun _ h => absurd h (by omega), fun _ h => absurd h (by omega)⟩
  | succ fuel ih =>
    obtain ⟨hvalue, hitem, hitems⟩ := ih
    exact ⟨valueStops_succ hfinal hitems, itemStops_succ hfinal hvalue, itemsStop_succ hfinal hitem hitems⟩

end

/-- Lists that start with an annotation and the end of its line, or of all. -/
def BeginsMark (ts : Tokens) : Prop := ∃ (m : MarkTree) (rest : Tokens), m.tokens ++ rest = ts ∧ Ends rest

/-- What follows an empty line is a list of annotations of its own. -/
theorem whole_behind_lineEnd {pos : Position} {us : Tokens}
    (h : Whole FileTree.tokens ((pos, .endOfLine) :: us)) : Whole FileTree.tokens us := by
  obtain ⟨f, hf⟩ := h
  cases f with
  | lineEnd p f => exact ⟨f, (List.cons.inj hf).2⟩
  | _ => simp [FileTree.tokens, MarkTree.tokens] at hf

/-- What follows the line of an annotation is a list of annotations of its own. -/
theorem whole_behind_mark (m : MarkTree) {pos : Position} {us : Tokens}
    (h : Whole FileTree.tokens (m.tokens ++ (pos, .endOfLine) :: us)) : Whole FileTree.tokens us := by
  obtain ⟨f, hf⟩ := h
  have hm := (ends_lineEnd pos us).stopsBefore m
  cases f with
  | mark m' p' f =>
    obtain ⟨-, hrest⟩ := MarkTree.append_inj ((ends_lineEnd p' f.tokens).stopsBefore m') hm hf
    exact ⟨f, (List.cons.inj hrest).2⟩
  | lastMark m' =>
    have hf' : m'.tokens ++ [] = m.tokens ++ (pos, .endOfLine) :: us := by simpa [FileTree.tokens] using hf
    cases (MarkTree.append_inj (ends_nil.stopsBefore m') hm hf').2
  | _ => simp [FileTree.tokens, MarkTree.tokens] at hf

/-- A list of annotations that begins with the sign of an annotation begins with one. -/
theorem beginsMark_of_whole {us : Tokens} (hup : upcoming false us = some (.rune '@'))
    (h : Whole FileTree.tokens us) : BeginsMark us := by
  obtain ⟨f, rfl⟩ := h
  cases f with
  | mark m p f => exact ⟨m, _, rfl, ends_lineEnd p f.tokens⟩
  | lastMark m => exact ⟨m, [], List.append_nil _, ends_nil⟩
  | _ => cases hup

theorem Input.peek_eq_error {ending : Lexeme} {ts : Tokens} {e : ParseError}
    (h : (Input.mk ts ending).peek = .error e) :
    ts = [] ∧ ∃ place error, ending = .failure place error ∧ e = ⟨place, .lexical error⟩ := by
  cases ts with
  | cons => cases h
  | nil =>
    cases ending with
    | token => cases h
    | failure place error =>
      cases h
      exact ⟨rfl, place, error, rfl, rfl⟩

section
variable {ending : Lexeme} (hfinal : ending.IsFinal) {fuel : Nat} {ts : Tokens} {e : ParseError}
include hfinal

theorem parseArgs_stopsAt (hfuel : 3 * ts.length ≤ fuel) (h : parseArgs fuel ⟨ts, ending⟩ = .error e) :
    StopsAt false (Whole ArgsTree.tokens) (Begins ArgsTree.tokens ArgsTree.StopsBefore) ts ending e := by
  have hgiven : ∀ (b : Bracket) (pos : Position) (rest : Tokens), ts = (pos, .rune b.opening) :: rest →
      parseItems b.closing fuel ⟨rest, ending⟩ = .error e →
      StopsAt false (Whole ArgsTree.tokens) (Begins ArgsTree.tokens ArgsTree.StopsBefore) ts ending e := by
    rintro b pos rest rfl hxs
    rw [List.length_cons] at hfuel
    have hstop := (nested_stops hfinal fuel).2.2 (Input.stands_mk true ending rest) (by omega) hxs
    let opened : Spot false := ⟨[], pos, fun _ => rfl⟩
    refine hstop.flat.behind (opened.tokens (.rune b.opening)) ?_ ?_
    · rintro _ ⟨xs, closed, rfl⟩
      exact ⟨[], .given b opened xs closed, by simp [ArgsTree.tokens]⟩
    · rintro us - ⟨a, rest', htokens, hstops⟩
      cases a with
      | absent =>
        obtain rfl : rest' = opened.tokens (.rune b.opening) ++ us := htokens
        exact absurd (upcoming_spot_append opened (by simp) us) (hstops b)
      | given b' opened' xs closed =>
        simp only [ArgsTree.tokens, List.append_assoc] at htokens
        obtain ⟨-, hb, rfl⟩ := spot_append_inj (by simp) (by simp) htokens
        obtain rfl := Bracket.opening_injective (Token.rune.inj hb)
        exact ⟨xs, closed, rest', rfl⟩
  obtain hpeek | ⟨t, hpeek, h₁⟩ := bind_eq_error_iff.mp h
  · obtain ⟨rfl, place, error, hending, rfl⟩ := Input.peek_eq_error hpeek
    exact .failure hending ⟨[], .absent, rfl⟩
  have hsplit : ∀ c, t.2 = .rune c → ∃ rest, ts = (t.1, .rune c) :: rest := by
    intro c ht
    obtain ⟨rest, rfl⟩ := (Input.peek_eq_ok hfinal hpeek).resolve_left (by simp [ht])
    exact ⟨rest, by rw [← ht]⟩
  split at h₁
  · obtain ⟨rest, rfl⟩ := hsplit '(' ‹_›
    obtain hxs | ⟨xs, -, hok⟩ := bind_eq_error_iff.mp h₁
    · exact hgiven .paren t.1 rest rfl hxs
    · cases hok
  · obtain ⟨rest, rfl⟩ := hsplit '\x7b' ‹_›
    obtain hxs | ⟨xs, -, hok⟩ := bind_eq_error_iff.mp h₁
    · exact hgiven .brace t.1 rest rfl hxs
    · cases hok
  · cases h₁

theorem parseMark_stopsAt {pos : Position} (hfuel : 3 * ts.length ≤ fuel)
    (h : parseMark fuel pos ⟨(pos, .rune '@') :: ts, ending⟩ = .error e) :
    StopsAt false (Whole MarkTree.tokens) BeginsMark ((pos, .rune '@') :: ts) ending e := by
  obtain htype | ⟨⟨type, i₁⟩, htype, h₁⟩ := bind_eq_error_iff.mp h
  · have hstop := parseReference_stopsAt hfinal (Input.stands_mk false ending ts) htype
    refine hstop.behind [(pos, .rune '@')] ?_ ?_
    · rintro _ ⟨r, rfl⟩
      exact ⟨[], ⟨pos, r, .absent⟩, by simp [MarkTree.tokens, ArgsTree.tokens]⟩
    · rintro us - ⟨m, rest, htokens, hends⟩
      obtain ⟨-, rfl⟩ := List.cons.inj htokens
      exact ⟨m.type, _, (List.append_assoc ..).symm, (hends.stopsBefore m).1⟩
  obtain ⟨type, rest, rfl, rfl, hstops, hi₁⟩ := parseReference_sound hfinal (Input.stands_mk ..) htype
  obtain rfl := Input.stands_false_iff.mp hi₁
  rw [List.length_append] at hfuel
  obtain hargs | ⟨⟨args, i₂⟩, hargs, h₂⟩ := bind_eq_error_iff.mp h₁
  · have hstop := parseArgs_stopsAt hfinal (by omega) hargs
    refine hstop.behind ((pos, .rune '@') :: type.tokens) ?_ ?_
    · rintro _ ⟨a, rfl⟩
      exact ⟨[], ⟨pos, type, a⟩, by simp [MarkTree.tokens]⟩
    · rintro us hus ⟨m, rest', htokens, hends⟩
      simp only [MarkTree.tokens, List.cons_append, List.append_assoc, List.cons.injEq] at htokens
      obtain ⟨-, rfl⟩ := RefTree.append_inj (hends.stopsBefore m).1 (hstops.congr hus) htokens.2
      exact ⟨m.args, rest', rfl, (hends.stopsBefore m).2⟩
  obtain ⟨args, rest, rfl, rfl, hstops', rfl⟩ := parseArgs_sound hfinal hargs
  obtain hpeek | ⟨t, hpeek, h₃⟩ := bind_eq_error_iff.mp h₂
  · obtain ⟨rfl, place, error, hending, rfl⟩ := Input.peek_eq_error hpeek
    exact .failure hending ⟨[], ⟨pos, type, args⟩, by simp [MarkTree.tokens]⟩
  split at h₃
  · cases h₃
  · cases h₃
  rename_i hline hend
  cases h₃
  obtain ⟨rest, rfl⟩ := (Input.peek_eq_ok hfinal hpeek).resolve_left hend
  have hsplit : (pos, .rune '@') :: (type.tokens ++ (args.tokens ++ t :: rest)) =
      (MarkTree.mk pos type args).tokens ++ t :: rest := by simp [MarkTree.tokens]
  have hcounts : false = true → t.2 ≠ .endOfLine := fun h => by cases h
  refine .token .lineEnd hsplit hcounts ⟨[], _, (List.append_nil _).symm⟩ ?_
  rintro more ⟨m, rest', htokens, hends⟩
  have hup : ∀ us : Tokens, upcoming false (us ++ t :: more) = upcoming false (us ++ t :: rest) :=
    fun us => upcoming_append_cons us hcounts more rest
  have hmark : (MarkTree.mk pos type args).StopsBefore (t :: more) := by
    refine ⟨hstops.congr (hup _), ?_⟩
    cases args with
    | absent => exact hstops'
    | given => trivial
  obtain ⟨-, rfl⟩ := MarkTree.append_inj (hends.stopsBefore m) hmark htokens
  rcases hends with hends | hends
  · cases hends
  · exact hline (Option.some.inj hends)

/-- Reading annotations stops at the first token with which no list of annotations goes on. -/
theorem parseMarks_stopsAt (hts : ∀ t ∈ ts, t.2 ≠ .endOfInput) (hfuel : 3 * ts.length < fuel)
    (h : parseMarks fuel ⟨ts, ending⟩ = .error e) :
    StopsAt false (Whole FileTree.tokens) (Whole FileTree.tokens) ts ending e := by
  induction fuel generalizing ts with
  | zero => omega
  | succ fuel ih =>
    obtain hpeek | ⟨t, hpeek, h₁⟩ := bind_eq_error_iff.mp h
    · obtain ⟨rfl, place, error, hending, rfl⟩ := Input.peek_eq_error hpeek
      exact .failure hending ⟨[], .done, rfl⟩
    have hsplit := Input.peek_eq_ok hfinal hpeek
    obtain ⟨pos, t⟩ := t
    simp only at h₁ hsplit
    split at h₁
    · cases h₁
    · obtain ⟨rest, rfl⟩ := hsplit.resolve_left (by simp)
      rw [List.length_cons] at hfuel
      have hstop := ih (fun t ht => hts t (List.mem_cons_of_mem _ ht)) (by omega) h₁
      refine hstop.behind [(pos, .endOfLine)] ?_ fun us _ => whole_behind_lineEnd
      rintro _ ⟨f, rfl⟩
      exact ⟨[], .lineEnd pos f, by simp [FileTree.tokens]⟩
    · obtain ⟨rest, rfl⟩ := hsplit.resolve_left (by simp)
      rw [List.length_cons] at hfuel
      obtain hmark | ⟨⟨mark, i₁⟩, hmark, h₂⟩ := bind_eq_error_iff.mp h₁
      · have hstop := parseMark_stopsAt hfinal (by omega) hmark
        refine hstop.behind [] ?_ fun us hup => beginsMark_of_whole hup
        rintro _ ⟨m, rfl⟩
        exact ⟨[], .lastMark m, by simp [FileTree.tokens]⟩
      obtain hmarks | ⟨marks, -, hok⟩ := bind_eq_error_iff.mp h₂
      swap
      · cases hok
      obtain ⟨m, -, ⟨htokens, rfl⟩ | ⟨p, rest₂, htokens, rfl⟩⟩ :=
        parseMark_sound hfinal (fun t ht => hts t (List.mem_cons_of_mem _ ht)) hmark
      · have hempty : ∀ t ∈ ([] : Tokens), t.2 ≠ .endOfInput := by simp
        have hlast := ih hempty (by simp; omega) hmarks
        rw [htokens]
        cases hlast with
        | token _ hts => simp at hts
        | endOfInput _ _ _ hstuck => exact absurd ⟨.done, rfl⟩ hstuck
        | failure hending _ => exact .failure hending ⟨[], .lastMark m, by simp [FileTree.tokens]⟩
      · have hlength := congrArg List.length htokens
        simp only [List.length_cons, List.length_append] at hlength
        have hstop := ih (fun t ht => hts t (by simp [htokens, ht])) (by omega) hmarks
        rw [htokens, List.append_cons]
        refine hstop.behind (m.tokens ++ [(p, .endOfLine)]) ?_ fun us _ hus => ?_
        · rintro _ ⟨f, rfl⟩
          exact ⟨[], .mark m p f, by simp [FileTree.tokens]⟩
        · rw [List.append_assoc, List.singleton_append] at hus
          exact whole_behind_mark m hus
    · rename_i hend hline hsign
      obtain ⟨rest, rfl⟩ := hsplit.resolve_left hend
      cases h₁
      have hsplit : (pos, t) :: rest = [] ++ (pos, t) :: rest := rfl
      refine .token .mark hsplit (fun h => by cases h) ⟨[], .done, rfl⟩ ?_
      clear hsplit
      rintro more ⟨f, hf⟩
      cases f <;> simp_all [FileTree.tokens, MarkTree.tokens]

end

end ServiceAnnotations.Mark
