import Mathlib
import LineBasic.Proofs.Expr.Scan
import LineBasic.Proofs.Token.Alike

/-!
Readers of expressions cannot tell scanners apart that are alike. The depth that bounds a
reading comes from the size of the source, which may differ, but it is enough for the
tokens to come (`agree_readWithin`). So a scanner over a text and one over its list of
tokens may stand for each other, whatever is asked of them and in whatever order
(`tokenize_interchangeable`).
-/
namespace LineBasic

open Step

namespace Expr

open Scanner

variable {count depth depth' : Nat}

/-- A literal is read without the scanner. -/
theorem agree_literal (text : String) :
    Agree (FreedUpTo count) (AlikeUpTo count) Alike
      (do return .constant (← Step.ofExcept (Decimal.readLiteral text)) : Step Scanner Expr)
      (do return .constant (← Step.ofExcept (Decimal.readLiteral text))) :=
  (agree_ofExcept _ fun _ _ freed => freed.1.1).bind fun _ => agree_pure _ fun _ _ freed => freed.1

theorem agree_fail {before : Scanner → Scanner → Prop} (alike : ∀ one other, before one other → one.Alike other)
    {after : Scanner → Scanner → Prop} (cause : Fault) :
    Agree before after Alike (Step.fail cause : Step Scanner Expr) (Step.fail cause) :=
  agree_throw _ alike

/-- Depths do not matter to what is read from scanners that are alike, as long as they are
    enough for the tokens to come. -/
def AgreeWithin (count : Nat) : Prop :=
  ∀ (threshold : Nat) {depth depth' : Nat}, 2 * count + 2 ≤ depth → 2 * count + 2 ≤ depth' →
    Agree (AlikeUpTo count) (AlikeUpTo (count - 1)) Alike (readWithin depth threshold) (readWithin depth' threshold)

theorem agree_readTerm (within : ∀ fewer < count, AgreeWithin fewer) (enough : 2 * count + 1 ≤ depth)
    (enough' : 2 * count + 1 ≤ depth') :
    Agree (AlikeUpTo count) (AlikeUpTo (count - 1)) Alike (readTerm depth) (readTerm depth') := by
  obtain ⟨depth, rfl⟩ : ∃ below, depth = below + 1 := ⟨depth - 1, by omega⟩
  obtain ⟨depth', rfl⟩ : ∃ below, depth' = below + 1 := ⟨depth' - 1, by omega⟩
  unfold readTerm termOf
  refine agree_next_bind (fun token ends => ?_) fun token more some => ?_
  · simp only [Token.isEnding_iff.1 ends]
    exact agree_fail (fun _ _ freed => freed.1) _
  · cases kind : token.kind with
    | word =>
      dsimp only
      split_ifs
      · exact agree_fail (fun _ _ freed => freed.1.1) _
      · exact agree_pure _ fun _ _ freed => freed.1
    | number => exact agree_literal _
    | operator =>
      dsimp only
      by_cases minus : token.text = "-"
      · simp only [if_pos minus]
        refine Agree.mono (@agree_next_bind (count - 1) _ _ _ _ _ (fun numeral ends => ?_) fun numeral _ _ => ?_)
          (fun _ _ freed => freed.1) fun _ _ alike => alike
        · simp only [Token.isEnding_iff.1 ends]
          exact agree_fail (fun _ _ freed => freed.1) _
        · split_ifs
          · exact agree_fail (fun _ _ freed => freed.1.1) _
          · exact (agree_literal _).mono (fun _ _ freed => freed) fun _ _ => AlikeUpTo.mono (Nat.sub_le _ _)
      · simp only [if_neg minus]
        split_ifs with opens
        · have inner := within (count - 1) (by omega) 0 (by omega : 2 * (count - 1) + 2 ≤ depth)
            (by omega : 2 * (count - 1) + 2 ≤ depth')
          refine (inner.mono (fun _ _ freed => freed.1) fun _ _ alike => alike).bind fun expression => ?_
          refine agree_next_bind (fun closing ends => ?_) fun closing _ _ => ?_
          · simp only [if_neg (Token.isSign_of_isEnding ends ")")]
            exact agree_fail (fun _ _ freed => freed.1) _
          · split_ifs
            · exact agree_pure _ fun _ _ freed => freed.1.mono (by omega)
            · exact agree_fail (fun _ _ freed => freed.1.1) _
        · exact agree_fail (fun _ _ freed => freed.1.1) _
    | ending | other name => exact agree_fail (fun _ _ freed => freed.1.1) _

/-- What is on the left is joined as it is, whatever it was read from. -/
theorem agree_readJoined (within : ∀ fewer < count, AgreeWithin fewer) (threshold : Nat)
    (enough : 2 * count + 1 ≤ depth) (enough' : 2 * count + 1 ≤ depth') (left : Expr) :
    Agree (AlikeUpTo count) (AlikeUpTo count) Alike (readJoined depth threshold left)
      (readJoined depth' threshold left) := by
  induction depth generalizing count depth' left with
  | zero => omega
  | succ depth ih =>
    obtain ⟨depth', rfl⟩ : ∃ below, depth' = below + 1 := ⟨depth' - 1, by omega⟩
    unfold readJoined joinOf
    refine agree_next_bind (fun token ends => ?_) fun token more some => ?_
    · have loose : (token.precedence : Int) ≤ threshold := by
        rw [Token.precedence_of_isEnding ends]
        omega
      simp only [if_pos loose]
      exact (agree_pushBack_ending ends).bind fun _ => agree_pure _ fun _ _ alike => alike
    · by_cases loose : (token.precedence : Int) ≤ threshold
      · simp only [if_pos loose]
        exact (agree_pushBack_taken some).bind fun _ => agree_pure _ fun _ _ alike => alike
      · obtain ⟨operator, joins⟩ := Token.operator?_of_precedence (by omega : 0 < token.precedence)
        simp only [if_neg loose, rightThreshold_eq joins, joins]
        have right := within (count - 1) (by omega) operator.rightLevel (by omega : 2 * (count - 1) + 2 ≤ depth)
          (by omega : 2 * (count - 1) + 2 ≤ depth')
        refine (right.mono (fun _ _ freed => freed.1) fun _ _ alike => alike).bind fun expression => ?_
        have onward := ih (fun fewer less => within fewer (by omega)) (by omega : 2 * (count - 1 - 1) + 1 ≤ depth)
          (by omega : 2 * (count - 1 - 1) + 1 ≤ depth') (.binary operator left expression)
        exact onward.mono (fun _ _ alike => alike) fun _ _ => AlikeUpTo.mono (by omega)

theorem agree_readWithin (count : Nat) : AgreeWithin count := by
  induction count using Nat.strong_induction_on with
  | _ count ih =>
    intro threshold depth depth' enough enough'
    obtain ⟨depth, rfl⟩ : ∃ below, depth = below + 1 := ⟨depth - 1, by omega⟩
    obtain ⟨depth', rfl⟩ : ∃ below, depth' = below + 1 := ⟨depth' - 1, by omega⟩
    unfold readWithin
    have term := agree_readTerm ih (by omega : 2 * count + 1 ≤ depth) (by omega : 2 * count + 1 ≤ depth')
    refine term.bind fun left => ?_
    exact agree_readJoined (fun fewer less => ih fewer (by omega)) threshold
      (by omega : 2 * (count - 1) + 1 ≤ depth) (by omega : 2 * (count - 1) + 1 ≤ depth') left

theorem agree_read (threshold : Nat) : Agree Alike Alike Alike (read threshold) (read threshold) := by
  intro one other alike
  have enough : 2 * one.upcoming.length + 2 ≤ depthFor one := by
    have := one.length_upcoming_le_size
    unfold depthFor
    omega
  have enough' : 2 * one.upcoming.length + 2 ≤ depthFor other := by
    have := other.length_upcoming_le_size
    rw [alike.upcoming_eq]
    unfold depthFor
    omega
  rw [read_apply, read_apply]
  have reads := agree_readWithin _ threshold enough enough'
  exact reads.mono (fun _ _ alike => alike) (fun _ _ alike => alike.1) alike.upTo

end Expr

/-! ### Requests -/

/-- What a scanner can be asked for. -/
inductive Request where
  | next
  | pushBack (token : Token)
  | hasMore
  | remaining
  /-- An expression whose operators all bind tighter than the threshold. -/
  | expression (threshold : Nat)
  deriving DecidableEq, Repr

/-- What a scanner answers to a request. -/
inductive Response where
  | token (token : Token)
  | held
  | more (more : Bool)
  | tokens (tokens : List Token)
  | expression (expression : Expr)
  deriving DecidableEq, Repr

namespace Request

/-- Answers a request. A scanner given a token back answers only that it holds it. -/
def serve : Request → Step Scanner Response
  | .next => do return .token (← Scanner.next)
  | .pushBack token => do
    Scanner.pushBack token
    return .held
  | .hasMore => do return .more (← Scanner.hasMore)
  | .remaining => do return .tokens (← Scanner.remaining)
  | .expression threshold => do return .expression (← Expr.read threshold)

/-- The responses to some requests, one after another. After a failure the next request
    is served all the same. -/
def responses : List Request → Scanner → List (Except Stop Response)
  | [], _ => []
  | request :: later, scanner =>
    (request.serve.outcome scanner).1 :: responses later (request.serve.outcome scanner).2

theorem agree_serve (request : Request) : Agree Scanner.Alike Scanner.Alike Scanner.Alike request.serve request.serve := by
  cases request with
  | next => exact Scanner.agree_next.bind fun _ => agree_pure _ fun _ _ freed => freed.1
  | pushBack token => exact (Scanner.agree_pushBack token).bind fun _ => agree_pure _ fun _ _ alike => alike
  | hasMore => exact Scanner.agree_hasMore.bind fun _ => agree_pure _ fun _ _ alike => alike
  | remaining => exact Scanner.agree_remaining.bind fun _ => agree_pure _ fun _ _ alike => alike
  | expression threshold => exact (Expr.agree_read threshold).bind fun _ => agree_pure _ fun _ _ alike => alike

theorem responses_eq {one other : Scanner} (alike : one.Alike other) (requests : List Request) :
    responses requests one = responses requests other := by
  induction requests generalizing one other with
  | nil => rfl
  | cons request later ih =>
    obtain ⟨same, reached⟩ := (agree_serve request).outcome alike
    rw [responses, responses, same, ih reached]

end Request

/-- A scanner over a text and one over the list of its tokens give the same responses to
    all requests, whatever tokens they are given back and whichever requests fail. -/
theorem tokenize_interchangeable (text : String) :
    ∃ listed, tokenize text = .ok listed ∧ ∀ requests : List Request,
      Request.responses requests (Scanner.ofTokens listed) = Request.responses requests (Scanner.ofText text) :=
  ⟨_, tokenize_eq text, fun requests => (Request.responses_eq (Scanner.alike_ofText text) requests).symm⟩

end LineBasic
