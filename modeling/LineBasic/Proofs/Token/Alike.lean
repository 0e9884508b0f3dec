import Mathlib
import LineBasic.Proofs.Step.Agree
import LineBasic.Proofs.Token.Ahead

/-!
Scanners that cannot be told apart. Two scanners are alike if they hold the same token
and the same tokens are left to them, though the one may read the characters of a text
and the other a list. Each operation of a scanner answers the same from both, fails for
the same reason, and leaves them alike.
-/
namespace LineBasic

open Step

namespace Scanner

/-- The scanners hold the same token, or none, and the same tokens are left to them. -/
structure Alike (one other : Scanner) : Prop where
  held : one.held = other.held
  left : one.source.left = other.source.left

/-- The scanners are alike, and at most so many tokens come before the next ending. -/
def AlikeUpTo (count : Nat) (one other : Scanner) : Prop := one.Alike other ∧ one.upcoming.length ≤ count

/-- The scanners are alike and hold no token. -/
def Freed (one other : Scanner) : Prop := one.Alike other ∧ one.held = none

/-- What the scanners are after a token that so many others may follow. -/
def FreedUpTo (count : Nat) (one other : Scanner) : Prop := AlikeUpTo count one other ∧ one.held = none

variable {one other : Scanner} {count : Nat} {token : Token}

theorem alike_ofText (text : String) : (ofText text).Alike (ofTokens (Lexer.tokens text.toList)) :=
  ⟨rfl, by simp [ofText, ofTokens, TokenSource.left, CharStream.ofText]⟩

theorem Alike.ahead_eq (alike : one.Alike other) : one.ahead = other.ahead := by
  rw [ahead, ahead, alike.held, alike.left]

theorem Alike.upcoming_eq (alike : one.Alike other) : one.upcoming = other.upcoming := by
  rw [upcoming, upcoming, alike.ahead_eq]

theorem Alike.upTo (alike : one.Alike other) : AlikeUpTo one.upcoming.length one other := ⟨alike, le_rfl⟩

theorem AlikeUpTo.mono {low high : Nat} (below : low ≤ high) (alike : AlikeUpTo low one other) :
    AlikeUpTo high one other :=
  ⟨alike.1, alike.2.trans below⟩

/-- Scanners that are alike give the same token, and are alike afterwards. -/
theorem Alike.next_eq (alike : one.Alike other) :
    ∃ token one' other', next one = .ok token one' ∧ next other = .ok token other' ∧ Freed one' other' ∧
      (token.isEnding = true ∨ token.isEnding = false ∧ one.upcoming = token :: one'.upcoming) := by
  obtain ⟨token, one', taken, free, standing⟩ := next_upcoming one
  obtain ⟨again, first, rest, _⟩ := Scanner.next_eq one
  obtain ⟨other', second, rest', free'⟩ := Scanner.next_eq other
  rw [taken] at first
  cases first
  rw [← alike.ahead_eq] at second rest'
  have left : one'.source.left = other'.source.left := by
    have same := rest.trans rest'.symm
    simpa only [ahead, free, free', Option.toList_none, List.nil_append] using same
  exact ⟨_, one', other', taken, second, ⟨⟨free.trans free'.symm, left⟩, free⟩, standing.imp_left And.left⟩

section
variable {α : Type} {after stopped : Scanner → Scanner → Prop}

theorem agree_next : Agree Alike Freed stopped next next := by
  intro one other alike
  obtain ⟨token, one', other', taken, taken', freed, _⟩ := alike.next_eq
  exact .inl ⟨token, one', other', taken, taken', freed⟩

/-- What goes on after a token, which is an ending or one of those that were to come. -/
theorem agree_next_bind {onward onward' : Token → Step Scanner α}
    (ended : ∀ token, token.isEnding = true → Agree Freed after stopped (onward token) (onward' token))
    (taken : ∀ token, token.isEnding = false → 0 < count →
      Agree (FreedUpTo (count - 1)) after stopped (onward token) (onward' token)) :
    Agree (AlikeUpTo count) after stopped (next >>= onward) (next >>= onward') := by
  rintro one other ⟨alike, bounded⟩
  obtain ⟨token, one', other', first, first', freed, ends | ⟨more, listed⟩⟩ := alike.next_eq
  · rw [bind_apply, bind_apply, first, first']
    exact ended token ends freed
  · rw [listed, List.length_cons] at bounded
    rw [bind_apply, bind_apply, first, first']
    exact taken token more (by omega) ⟨⟨freed.1, by omega⟩, freed.2⟩

theorem agree_pushBack (token : Token) : Agree Alike Alike Alike (pushBack token) (pushBack token) := by
  intro one other alike
  unfold pushBack
  rw [← alike.held]
  cases one.held with
  | none => exact .inl ⟨(), _, _, rfl, rfl, rfl, alike.left⟩
  | some held => exact .inr ⟨_, one, other, rfl, rfl, alike⟩

/-- An ending that was given back is the next token. -/
theorem agree_pushBack_ending (ends : token.isEnding = true) :
    Agree Freed (AlikeUpTo count) stopped (pushBack token) (pushBack token) := by
  rintro one other ⟨alike, free⟩
  have free' : other.held = none := alike.held ▸ free
  refine .inl ⟨(), _, _, pushBack_eq free token, pushBack_eq free' token, ⟨rfl, alike.left⟩, ?_⟩
  rw [upcoming_hold free, if_pos ends]
  exact Nat.zero_le count

theorem agree_pushBack_taken (some : 0 < count) :
    Agree (FreedUpTo (count - 1)) (AlikeUpTo count) stopped (pushBack token) (pushBack token) := by
  rintro one other ⟨⟨alike, bounded⟩, free⟩
  have free' : other.held = none := alike.held ▸ free
  refine .inl ⟨(), _, _, pushBack_eq free token, pushBack_eq free' token, ⟨rfl, alike.left⟩, ?_⟩
  rw [upcoming_hold free]
  split_ifs
  · exact Nat.zero_le count
  · rw [List.length_cons]
    omega

theorem agree_hasMore : Agree Alike Alike Alike hasMore hasMore := by
  have taken : Agree Alike Alike Alike next next := agree_next.mono (fun _ _ alike => alike) fun _ _ freed => freed.1
  exact taken.bind fun token => (agree_pushBack token).bind fun _ => agree_pure _ fun _ _ alike => alike

/-- Enough turns take all tokens before the next ending. -/
theorem agree_drain {bound bound' : Nat} (enough : count < bound) (enough' : count < bound') :
    Agree (AlikeUpTo count) Alike stopped (drain bound) (drain bound') := by
  induction bound generalizing count bound' with
  | zero => omega
  | succ bound ih =>
    obtain ⟨bound', rfl⟩ : ∃ below, bound' = below + 1 := ⟨bound' - 1, by omega⟩
    unfold drain
    refine agree_next_bind (fun token ends => ?_) fun token more some => ?_
    · simp only [ends, ↓reduceIte]
      exact agree_pure _ fun _ _ freed => freed.1
    · simp only [more, Bool.false_eq_true, ↓reduceIte]
      have later := ih (by omega : count - 1 < bound) (by omega : count - 1 < bound')
      exact (later.mono (fun _ _ freed => freed.1) fun _ _ alike => alike).bind fun _ =>
        agree_pure _ fun _ _ alike => alike

theorem agree_remaining : Agree Alike Alike stopped remaining remaining := by
  intro one other alike
  have enough := Nat.lt_succ_of_le one.length_upcoming_le_size
  have enough' := Nat.lt_succ_of_le other.length_upcoming_le_size
  rw [← alike.upcoming_eq] at enough'
  exact agree_drain enough enough' alike.upTo

end

end Scanner

end LineBasic
