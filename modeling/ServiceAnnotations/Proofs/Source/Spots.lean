import Mathlib.Data.List.DropRight
import ServiceAnnotations.Proofs.Text.Utf8
import ServiceAnnotations.Source.Token

/-! # Tokens stand at their spots

The spot of a token counts what is before it in the file: lines, bytes, and the bytes of its own line. -/
namespace ServiceAnnotations.Source
open Text

namespace Spot

variable {s : Spot}

/-- A spot apart from where the part of the file around it comes from. -/
def bare (s : Spot) : Spot := { s with origin := none }

theorem afterAll_cons (s : Spot) (c : Char) (cs : List Char) : s.afterAll (c :: cs) = (s.after c).afterAll cs := rfl

theorem afterAll_append (s : Spot) (cs ds : List Char) : s.afterAll (cs ++ ds) = (s.afterAll cs).afterAll ds :=
  List.foldl_append

theorem bare_after (s : Spot) (c : Char) : (s.after c).bare = s.bare.after c := by
  unfold after
  split <;> rfl

theorem bare_afterAll (s : Spot) (cs : List Char) : (s.afterAll cs).bare = s.bare.afterAll cs := by
  induction cs generalizing s with
  | nil => rfl
  | cons c cs ih => rw [afterAll_cons, ih, bare_after, afterAll_cons]

/-- A comment may tell where what follows comes from, and nothing else. -/
theorem bare_following (text : List Char) (next : Spot) : (following text next).bare = next.bare := by
  unfold following
  simp only
  repeat' split
  all_goals rfl

/-- A spot behind characters counts their line ends, their bytes, and the bytes of the last line. -/
structure Behind (s : Spot) (before : List Char) : Prop where
  line : s.line = 1 + before.count '\n'
  column : s.column = 1 + (Bytes.ofChars (before.rtakeWhile (· ≠ '\n'))).length
  offset : s.offset = (Bytes.ofChars before).length

theorem Behind.after {before : List Char} (h : s.Behind before) (c : Char) : (s.after c).Behind (before ++ [c]) := by
  obtain ⟨hline, hcolumn, hoffset⟩ := h
  have hlength : (Bytes.ofChars [c]).length = c.utf8Size := by simp [String.length_utf8EncodeChar]
  unfold Spot.after
  by_cases hc : c = '\n'
  · subst hc
    exact ⟨by simp [hline, Nat.add_assoc], by simp, by simp [hoffset, String.length_utf8EncodeChar]⟩
  · rw [if_neg hc]
    refine ⟨by simp [hline, hc], ?_, ?_⟩
    · rw [List.rtakeWhile_concat, if_pos (by simpa using hc), Bytes.ofChars_append, List.length_append, hlength,
        ← Nat.add_assoc]
      exact congrArg (· + _) hcolumn
    · rw [Bytes.ofChars_append, List.length_append, hlength]
      exact congrArg (· + _) hoffset

theorem Behind.afterAll {before : List Char} (h : s.Behind before) (cs : List Char) :
    (s.afterAll cs).Behind (before ++ cs) := by
  induction cs generalizing s before with
  | nil =>
    rw [List.append_nil]
    exact h
  | cons c cs ih =>
    rw [afterAll_cons, List.append_cons]
    exact ih (h.after c)

/-- The first spot of a file. -/
theorem behind_nil : Behind {} [] := ⟨rfl, rfl, rfl⟩

end Spot

theorem stripReturns_eq {cs : List Char} (h : '\r' ∉ cs) (kept : List Char) :
    stripReturns kept cs = kept.reverse ++ cs := by
  induction cs generalizing kept with
  | nil => rw [stripReturns, List.append_nil]
  | cons c cs ih =>
    obtain ⟨hc, hcs⟩ := List.ne_and_not_mem_of_not_mem_cons h
    rw [stripReturns, if_neg (by simp [hc.symm]), ih hcs, List.reverse_cons, List.append_assoc, List.singleton_append]

theorem tokenAt_ne_comment (c : Char) (cs : List Char) : (tokenAt c cs).1 ≠ .comment := by
  unfold tokenAt
  split
  · simp only
    split <;> exact nofun
  · repeat' split
    all_goals exact nofun

/-- How a token comes about that is read from a spot on: as the end of a line, as a comment or as a word or sign at the
front of the text, or behind some of the text. A comment is what is written there, if no carriage return is. -/
inductive ReadFrom (fuel : Nat) (spot : Spot) (c : Char) (cs : List Char) (t : Token) : Prop
  | lineEnd {before after : List Char} (text : c :: cs = before ++ after) (kind : t.kind = .lineEnd)
      (place : t.spot = spot.afterAll before)
  | comment {raw after : List Char} (text : c :: cs = raw ++ after) (kind : t.kind = .comment) (place : t.spot = spot)
      (kept : '\r' ∉ raw → t.text = raw)
  | front (eq : t = ⟨(tokenAt c cs).1, (c :: cs).take (tokenAt c cs).2, spot⟩)
  | later {before after : List Char} {next : Spot} {pending : Bool} (text : c :: cs = before ++ after)
      (place : next.bare = (spot.afterAll before).bare) (mem : t ∈ tokensFrom fuel next pending after)

section
variable {fuel : Nat} {spot : Spot} {pending : Bool} {c : Char} {cs : List Char} {t : Token}

theorem ReadFrom.after (h : t ∈ tokensFrom fuel (spot.after c) pending cs) : ReadFrom fuel spot c cs t :=
  .later (show c :: cs = [c] ++ cs from rfl) rfl h

/-- Reading from a character on is one of a few things. -/
theorem readFrom_of_mem (h : t ∈ tokensFrom (fuel + 1) spot pending (c :: cs)) : ReadFrom fuel spot c cs t := by
  rw [tokensFrom] at h
  split at h
  · -- a line end
    split at h
    · obtain rfl | h := List.mem_cons.mp h
      · exact .lineEnd (List.nil_append _).symm rfl rfl
      · exact .after h
    · exact .after h
  split at h
  · exact .after h
  split at h
  · -- a comment of one line
    simp only at h
    generalize htext : (c :: cs).takeWhile (· != '\n') = text at h
    have hsplit := (List.prefix_iff_eq_append.mp (htext ▸ List.takeWhile_prefix _ : text <+: c :: cs)).symm
    have hkept : '\r' ∉ text → text.filter (· != '\r') = text := fun hreturn =>
      List.filter_eq_self.mpr fun d hd => bne_iff_ne.mpr fun hr => hreturn (hr ▸ hd)
    split at h
    · rename_i hrest
      obtain rfl | h := List.mem_cons.mp h
      · exact .comment hsplit rfl rfl hkept
      · rw [hrest] at hsplit
        exact .later hsplit rfl h
    · rename_i lineEnd rest hrest
      obtain rfl | h := List.mem_cons.mp h
      · exact .comment hsplit rfl rfl hkept
      rw [hrest] at hsplit
      obtain h | h := List.mem_append.mp h
      · split at h
        · obtain rfl := List.mem_singleton.mp h
          exact .lineEnd hsplit rfl rfl
        · cases h
      · refine .later (hsplit.trans (List.append_cons ..)) ?_ h
        rw [Spot.afterAll_append]
        split
        · exact Spot.bare_following _ _
        · rfl
  split at h
  · -- a block comment
    simp only at h
    generalize htext : (c :: cs).take (2 + blockLength (cs.drop 1)) = text at h
    have hsplit := (List.prefix_iff_eq_append.mp (htext ▸ List.take_prefix _ _ : text <+: c :: cs)).symm
    split at h
    · obtain rfl | h := List.mem_cons.mp h
      · exact .comment hsplit rfl rfl fun hreturn => stripReturns_eq hreturn []
      obtain rfl | h := List.mem_cons.mp h
      · have hline := congrArg (· ++ (c :: cs).drop text.length)
          (List.takeWhile_append_dropWhile (p := (· != '\n')) (l := text))
        exact .lineEnd (hsplit.trans (hline.symm.trans (List.append_assoc ..))) rfl rfl
      · exact .later hsplit (Spot.bare_following _ _) h
    · obtain rfl | h := List.mem_cons.mp h
      · exact .comment hsplit rfl rfl fun hreturn => stripReturns_eq hreturn []
      · exact .later hsplit (Spot.bare_following _ _) h
  · obtain h | h := List.mem_cons.mp h
    · exact .front h
    · exact .later (List.take_append_drop _ _).symm rfl h

end

/-- Behind the end of a text there is at most the end of its last line. -/
theorem eq_of_mem_tokensFrom_nil {fuel : Nat} {spot : Spot} {pending : Bool} {t : Token}
    (h : t ∈ tokensFrom fuel spot pending []) : t = ⟨.lineEnd, [], spot⟩ := by
  cases fuel with
  | zero => cases h
  | succ fuel =>
    unfold tokensFrom at h
    split at h
    · exact List.mem_singleton.mp h
    · cases h

/-- A token stands in a text that is read from a spot on: what is before it leads to its spot. A comment is what is
written there, if no carriage return is. -/
def StandsBehind (spot : Spot) (cs : List Char) (t : Token) : Prop :=
  ∃ before raw after, cs = before ++ (raw ++ after) ∧ t.spot.bare = (spot.afterAll before).bare ∧
    (t.kind = .comment → '\r' ∉ raw → t.text = raw)

theorem standsBehind_of_kind {spot : Spot} {t : Token} (before after : List Char) (hspot : t.spot = spot.afterAll before)
    (hkind : t.kind ≠ .comment) : StandsBehind spot (before ++ after) t :=
  ⟨before, [], after, rfl, congrArg Spot.bare hspot, fun h => absurd h hkind⟩

theorem tokensFrom_stand (fuel : Nat) (spot : Spot) (pending : Bool) (cs : List Char) :
    ∀ t ∈ tokensFrom fuel spot pending cs, StandsBehind spot cs t := by
  intro t ht
  induction fuel generalizing spot pending cs with
  | zero => simp [tokensFrom] at ht
  | succ fuel ih =>
    cases cs with
    | nil =>
      obtain rfl := eq_of_mem_tokensFrom_nil ht
      exact standsBehind_of_kind [] [] rfl nofun
    | cons c cs =>
      cases readFrom_of_mem ht with
      | lineEnd text kind place => exact text ▸ standsBehind_of_kind _ _ place (by simp [kind])
      | comment text kind place kept => exact ⟨[], _, _, text, congrArg Spot.bare place, fun _ => kept⟩
      | front eq =>
        subst eq
        exact standsBehind_of_kind [] _ rfl (tokenAt_ne_comment c cs)
      | @later text _ next _ hsplit place mem =>
        obtain ⟨before, raw, after, rfl, hspot, htext⟩ := ih _ _ _ mem
        refine ⟨text ++ before, raw, after, hsplit.trans (List.append_assoc ..).symm, ?_, htext⟩
        rw [hspot, Spot.bare_afterAll, place, ← Spot.bare_afterAll, ← Spot.afterAll_append]

/-- A token of a file has the spot behind all that is before it. A comment without carriage returns has the text that is
written there. -/
theorem tokens_stand {source : List Char} {t : Token} (h : t ∈ tokens source) :
    ∃ before raw after, source = before ++ (raw ++ after) ∧ t.spot.Behind before ∧
      (t.kind = .comment → '\r' ∉ raw → t.text = raw) := by
  obtain ⟨before, raw, after, rfl, hspot, htext⟩ := tokensFrom_stand _ _ _ _ t h
  obtain ⟨hline, hcolumn, hoffset⟩ := Spot.behind_nil.afterAll before
  exact ⟨before, raw, after, rfl, ⟨(congrArg Spot.line hspot).trans hline, (congrArg Spot.column hspot).trans hcolumn,
    (congrArg Spot.offset hspot).trans hoffset⟩, htext⟩

end ServiceAnnotations.Source
