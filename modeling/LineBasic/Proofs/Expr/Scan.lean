import Mathlib
import LineBasic.Proofs.Expr.Causes
import LineBasic.Proofs.Expr.Reading

/-!
Reading an expression as a walk over the tokens. Between two tokens all that matters is
how many brackets are open and what has to come next: a term, the numeral after a minus
sign, or an operator. A token that cannot come next ends the walk at once, and where
the tokens end the position tells what is missing. A reading fails exactly where the
walk does and for the same reason (`wrong_upcoming`), whatever the precedences of the
operators. So nothing but the tokens before the next ending decides how it ends, and two
scanners before the same tokens are read alike (`isolated_readAll_eq`). It fails for the
form or the numerals (`stopsOnly_readAll`): its bound is never reached, and no second token
is ever given back.
-/
namespace LineBasic

namespace Expr

/-! ### The walk -/

/-- What has to come next in an expression. -/
inductive Place where
  | term
  /-- The numeral after the minus sign of a term. -/
  | numeral
  | operator
  deriving DecidableEq, Repr

/-- Between two tokens of an expression: how many brackets are open, and what comes next. -/
structure Position where
  brackets : Nat
  place : Place
  deriving DecidableEq, Repr

namespace Position

/-- The position after a token, if the token can come next. -/
def take (position : Position) (token : Token) : Except Stop Position :=
  match position.place with
  | .term =>
    match token.kind with
    | .word =>
      if reserved.contains token.text then .error (.fault .malformed) else .ok { position with place := .operator }
    | .number => (Decimal.readLiteral token.text).map fun _ => { position with place := .operator }
    | .operator =>
      if token.text = "-" then .ok { position with place := .numeral }
      else if token.text = "(" then .ok ⟨position.brackets + 1, .term⟩
      else .error (.fault .malformed)
    | _ => .error (.fault .malformed)
  | .numeral =>
    if token.kind = .number then
      (Decimal.readLiteral ("-" ++ token.text)).map fun _ => { position with place := .operator }
    else .error (.fault .invalidNumber)
  | .operator =>
    if token.operator?.isSome then .ok { position with place := .term }
    else if token.isSign ")" then
      match position.brackets with
      | 0 => .error (.fault .malformed)
      | inner + 1 => .ok ⟨inner, .operator⟩
    else .error (.fault .malformed)

/-- The position after some tokens, if each of them can come next. -/
def through (position : Position) (tokens : List Token) : Except Stop Position := tokens.foldlM take position

/-- What is wrong with an expression that ends here. -/
def missing : Position → Option Stop
  | ⟨_, .term⟩ => some (.fault .malformed)
  | ⟨_, .numeral⟩ => some (.fault .invalidNumber)
  | ⟨0, .operator⟩ => none
  | ⟨_ + 1, .operator⟩ => some (.fault .malformed)

/-- What is wrong with the tokens from a position to the end of an expression. -/
def verdict (position : Position) (tokens : List Token) : Option Stop :=
  match position.through tokens with
  | .ok reached => reached.missing
  | .error stop => some stop

theorem through_cons (position : Position) (token : Token) (later : List Token) :
    position.through (token :: later) =
      match position.take token with
      | .ok reached => reached.through later
      | .error stop => .error stop := by
  unfold through
  rw [List.foldlM_cons]
  cases position.take token <;> rfl

theorem through_append (position : Position) (before after : List Token) :
    position.through (before ++ after) =
      match position.through before with
      | .ok reached => reached.through after
      | .error stop => .error stop := by
  unfold through
  rw [List.foldlM_append]
  cases List.foldlM take position before <;> rfl

theorem verdict_cons (position : Position) (token : Token) (later : List Token) :
    position.verdict (token :: later) =
      match position.take token with
      | .ok reached => reached.verdict later
      | .error stop => some stop := by
  rw [verdict, through_cons]
  cases position.take token <;> rfl

theorem verdict_of_take {position reached : Position} {token : Token} (taken : position.take token = .ok reached)
    (later : List Token) : position.verdict (token :: later) = reached.verdict later := by
  rw [verdict_cons, taken]

theorem verdict_of_take_error {position : Position} {token : Token} {stop : Stop}
    (refused : position.take token = .error stop) (later : List Token) :
    position.verdict (token :: later) = some stop := by
  rw [verdict_cons, refused]

theorem ofReading_of_take {position : Position} {token : Token} {stop : Stop}
    (refused : position.take token = .error stop) : stop.OfReading := by
  have literal : ∀ {text : String} {reached : Position},
      (Decimal.readLiteral text).map (fun _ => reached) = .error stop → stop.OfReading := by
    intro text reached unread
    cases read : Decimal.readLiteral text with
    | ok value =>
      rw [read] at unread
      cases unread
    | error cause =>
      rw [read] at unread
      cases unread
      exact (Decimal.readLiteral_error read).ofReading
  obtain ⟨brackets, place⟩ := position
  cases place with
  | term =>
    unfold take at refused
    dsimp only at refused
    split at refused
    · split_ifs at refused
      cases refused
      exact .malformed
    · exact literal refused
    · split_ifs at refused
      cases refused
      exact .malformed
    · cases refused
      exact .malformed
  | numeral =>
    unfold take at refused
    dsimp only at refused
    split_ifs at refused
    · exact literal refused
    · cases refused
      exact .invalidNumber
  | operator =>
    unfold take at refused
    dsimp only at refused
    split_ifs at refused
    · cases brackets with
      | zero =>
        cases refused
        exact .malformed
      | succ inner => cases refused
    · cases refused
      exact .malformed

/-- What is wrong with the tokens of an expression is its form or a numeral. -/
theorem ofReading_of_verdict {position : Position} {tokens : List Token} {stop : Stop}
    (wrong : position.verdict tokens = some stop) : stop.OfReading := by
  induction tokens generalizing position with
  | nil =>
    obtain ⟨_ | brackets, place⟩ := position <;> cases place <;> cases wrong
    · exact .malformed
    · exact .invalidNumber
    · exact .malformed
    · exact .invalidNumber
    · exact .malformed
  | cons token later ih =>
    rw [verdict_cons] at wrong
    cases taken : position.take token with
    | ok reached =>
      rw [taken] at wrong
      exact ih wrong
    | error cause =>
      rw [taken] at wrong
      cases wrong
      exact ofReading_of_take taken

/-- Where an operator has to come, one that joins expressions leads to its right operand. -/
theorem take_of_precedence {token : Token} (binds : 0 < token.precedence) (brackets : Nat) :
    take ⟨brackets, .operator⟩ token = .ok ⟨brackets, .term⟩ := by
  obtain ⟨operator, joins⟩ := Token.operator?_of_precedence binds
  simp [take, joins]

theorem operator?_of_precedence_eq_zero {token : Token} (loose : token.precedence = 0) : token.operator? = none := by
  cases joins : token.operator? with
  | none => rfl
  | some operator =>
    have := operator.one_le_precedence
    rw [Token.precedence_of_operator? joins] at loose
    omega

theorem take_of_closes {token : Token} (loose : token.precedence = 0) (closes : token.isSign ")" = true)
    (brackets : Nat) : take ⟨brackets + 1, .operator⟩ token = .ok ⟨brackets, .operator⟩ := by
  simp [take, operator?_of_precedence_eq_zero loose, closes]

theorem take_of_unopened {token : Token} (loose : token.precedence = 0) (closes : token.isSign ")" = true) :
    take ⟨0, .operator⟩ token = .error (.fault .malformed) := by
  simp [take, operator?_of_precedence_eq_zero loose, closes]

theorem take_of_neither {token : Token} (loose : token.precedence = 0) (other : token.isSign ")" ≠ true)
    (brackets : Nat) : take ⟨brackets, .operator⟩ token = .error (.fault .malformed) := by
  simp [take, operator?_of_precedence_eq_zero loose, other]

end Position

/-! ### Reading walks -/

open Position

theorem ends_three (rest : List Token) : Ends 3 rest := by
  intro token _
  rcases Nat.eq_zero_or_pos token.precedence with none | binds
  · omega
  · obtain ⟨operator, joins⟩ := Token.operator?_of_precedence binds
    rw [Token.precedence_of_operator? joins]
    exact operator.precedence_le_three

/-- A reading that starts where `place` has to come walks on: it answers at a place for
    an operator, before fewer tokens, of which the first does not bind tighter than the
    threshold, or it fails as the walk does. The open brackets do not matter. -/
def Walks (place : Place) (threshold : Nat) (tokens : List Token) (count : Nat) :
    EStateM.Result Stop Scanner Expr → Prop
  | .ok _ after =>
    (∀ brackets, verdict ⟨brackets, place⟩ tokens = verdict ⟨brackets, .operator⟩ after.upcoming) ∧
      after.upcoming.length < count ∧ Ends threshold after.upcoming
  | .error stop _ => ∀ brackets, verdict ⟨brackets, place⟩ tokens = some stop

variable {place inner : Place} {threshold low count fewer : Nat} {tokens later : List Token}

/-- A walk that starts earlier, if what comes before leads to it. -/
theorem Walks.mono {result : EStateM.Result Stop Scanner Expr} (walks : Walks inner threshold later fewer result)
    (led : ∀ brackets, verdict ⟨brackets, place⟩ tokens = verdict ⟨brackets, inner⟩ later) (below : fewer ≤ count) :
    Walks place threshold tokens count result := by
  cases result with
  | ok expression after =>
    obtain ⟨onward, short, ends⟩ := walks
    exact ⟨fun brackets => (led brackets).trans (onward brackets), short.trans_le below, ends⟩
  | error stop after => exact fun brackets => (led brackets).trans (walks brackets)

/-- A reading as a part of a longer one: the walk of the whole comes to that of the part. -/
theorem Walks.bind {first : Step Scanner Expr} {scanner : Scanner}
    (walks : Walks inner low later fewer (first scanner))
    (part : ∀ brackets, ∃ within, verdict ⟨brackets, place⟩ tokens = verdict ⟨within, inner⟩ later)
    {next : Expr → Step Scanner Expr}
    (onward : ∀ expression after,
      (∀ brackets, verdict ⟨brackets, inner⟩ later = verdict ⟨brackets, .operator⟩ after.upcoming) →
      after.upcoming.length < fewer → Ends low after.upcoming →
      Walks place threshold tokens count (next expression after)) :
    Walks place threshold tokens count ((first >>= next) scanner) := by
  rw [Step.bind_apply]
  cases done : first scanner with
  | ok expression after =>
    rw [done] at walks
    exact onward expression after walks.1 walks.2.1 walks.2.2
  | error stop after =>
    rw [done] at walks
    intro brackets
    obtain ⟨within, same⟩ := part brackets
    rw [same, walks within]

/-- A literal leads from the place of a term or a numeral to one for an operator. -/
theorem walks_literal {text : String} {token : Token} {scanner : Scanner}
    (taken : ∀ brackets, take ⟨brackets, place⟩ token =
      (Decimal.readLiteral text).map fun _ => ⟨brackets, .operator⟩)
    (led : ∀ brackets, verdict ⟨brackets, .term⟩ tokens = verdict ⟨brackets, place⟩ (token :: scanner.upcoming))
    (short : scanner.upcoming.length < count) :
    Walks .term 3 tokens count
      ((do return .constant (← Step.ofExcept (Decimal.readLiteral text)) : Step Scanner Expr) scanner) := by
  cases read : Decimal.readLiteral text with
  | ok value =>
    refine ⟨fun brackets => ?_, short, ends_three _⟩
    rw [led, verdict_of_take (by rw [taken, read]; rfl)]
  | error stop =>
    intro brackets
    rw [led]
    exact verdict_of_take_error (by rw [taken, read]; rfl) _

/-- Readings of whole expressions walk from the place of a term. -/
def WalksWithin (count : Nat) : Prop :=
  ∀ (threshold : Nat) (scanner : Scanner), scanner.upcoming.length = count → ∀ depth, 2 * count + 2 ≤ depth →
    Walks .term threshold scanner.upcoming count (readWithin depth threshold scanner)

theorem walks_readTerm {scanner : Scanner} (within : ∀ fewer < scanner.upcoming.length, WalksWithin fewer) {depth : Nat}
    (enough : 2 * scanner.upcoming.length + 1 ≤ depth) :
    Walks .term 3 scanner.upcoming scanner.upcoming.length (readTerm depth scanner) := by
  obtain ⟨depth, rfl⟩ : ∃ below, depth = below + 1 := ⟨depth - 1, by omega⟩
  obtain ⟨token, after, taken, free, ⟨ends, listed⟩ | ⟨more, listed⟩⟩ := scanner.next_upcoming
  · have kind := Token.isEnding_iff.1 ends
    simp only [readTerm, termOf, Step.bind_apply, taken, kind]
    rw [listed]
    exact fun brackets => rfl
  · rw [listed, List.length_cons] at within enough
    unfold readTerm termOf
    rw [Step.bind_apply, taken, listed]
    dsimp only
    cases kind : token.kind with
    | word =>
      dsimp only
      split_ifs with known
      · exact fun brackets => verdict_of_take_error (by simp only [take, kind, if_pos known]) _
      · refine ⟨fun brackets => verdict_of_take ?_ _, Nat.lt_succ_self _, ends_three _⟩
        simp only [take, kind, if_neg known]
    | number =>
      exact walks_literal (fun brackets => by simp [take, kind]) (fun _ => rfl) (by simp)
    | operator =>
      dsimp only
      by_cases minus : token.text = "-"
      · simp only [if_pos minus]
        have signed : ∀ brackets, take ⟨brackets, .term⟩ token = .ok ⟨brackets, .numeral⟩ := by
          simp [take, kind, minus]
        obtain ⟨numeral, last, takenNext, _, ⟨ends, listedNext⟩ | ⟨_, listedNext⟩⟩ := after.next_upcoming
        · have kindNext := Token.isEnding_iff.1 ends
          simp only [Step.bind_apply, takenNext, kindNext, listedNext]
          exact fun brackets => verdict_of_take (signed brackets) _
        · rw [Step.bind_apply, takenNext, listedNext]
          dsimp only
          by_cases other : numeral.kind ≠ .number
          · simp only [if_pos other]
            intro brackets
            rw [verdict_of_take (signed brackets)]
            exact verdict_of_take_error (by simp [take, other]) _
          · simp only [if_neg other]
            rw [not_not] at other
            have denotes : ∀ brackets, take ⟨brackets, .numeral⟩ numeral =
                (Decimal.readLiteral ("-" ++ numeral.text)).map fun _ => ⟨brackets, .operator⟩ := by simp [take, other]
            refine walks_literal denotes (fun brackets => ?_) ?_
            · exact verdict_of_take (signed brackets) _
            · simp
      · by_cases opens : token.text = "("
        · simp only [if_neg minus, if_pos opens]
          have opened : ∀ brackets, take ⟨brackets, .term⟩ token = .ok ⟨brackets + 1, .term⟩ := by
            simp [take, kind, opens]
          have whole := within after.upcoming.length (Nat.lt_succ_self _) 0 after rfl depth (by omega)
          refine whole.bind (fun brackets => ⟨brackets + 1, verdict_of_take (opened brackets) _⟩) ?_
          intro expression last led short ends
          have led : ∀ brackets, verdict ⟨brackets, .term⟩ (token :: after.upcoming) =
              verdict ⟨brackets + 1, .operator⟩ last.upcoming := fun brackets => by
            rw [verdict_of_take (opened brackets), led]
          obtain ⟨closing, beyond, takenNext, _, ⟨ended, listedNext⟩ | ⟨_, listedNext⟩⟩ := last.next_upcoming
          · simp only [Step.bind_apply, takenNext, if_neg (Token.isSign_of_isEnding ended ")")]
            intro brackets
            rw [led, listedNext]
            rfl
          · have loose : closing.precedence = 0 := Nat.le_zero.1 (ends closing (by rw [listedNext]; rfl))
            simp only [Step.bind_apply, takenNext]
            by_cases closes : closing.isSign ")" = true
            · rw [if_pos closes]
              refine ⟨fun brackets => ?_, ?_, ends_three _⟩
              · rw [led, listedNext, verdict_of_take (take_of_closes loose closes brackets)]
              · rw [listedNext, List.length_cons] at short
                simp only [List.length_cons]
                omega
            · rw [if_neg closes]
              intro brackets
              rw [led, listedNext]
              exact verdict_of_take_error (take_of_neither loose closes _) _
        · simp only [if_neg minus, if_neg opens]
          exact fun brackets => verdict_of_take_error (by simp [take, kind, minus, opens]) _
    | ending | other name => exact fun brackets => verdict_of_take_error (by simp [take, kind]) _

/-- Joining walks on from a place for an operator. -/
theorem walks_readJoined {scanner : Scanner} (within : ∀ fewer < scanner.upcoming.length, WalksWithin fewer)
    (threshold : Nat) {depth : Nat} (enough : 2 * scanner.upcoming.length + 1 ≤ depth) (left : Expr) :
    Walks .operator threshold scanner.upcoming (scanner.upcoming.length + 1)
      (readJoined depth threshold left scanner) := by
  induction depth using Nat.strong_induction_on generalizing scanner left with
  | _ depth ih =>
    obtain ⟨depth, rfl⟩ : ∃ below, depth = below + 1 := ⟨depth - 1, by omega⟩
    obtain ⟨token, after, taken, free, drawn⟩ := scanner.next_upcoming
    by_cases loose : (token.precedence : Int) ≤ threshold
    · have kept : ({ after with held := some token } : Scanner).upcoming = scanner.upcoming := by
        rw [Scanner.upcoming_hold free]
        rcases drawn with ⟨ends, listed⟩ | ⟨more, listed⟩ <;> simp [*]
      simp only [readJoined, joinOf, Step.bind_apply, taken, if_pos loose, Scanner.pushBack_eq free, Step.pure_apply]
      refine ⟨fun brackets => by rw [kept], by rw [kept]; omega, ?_⟩
      rw [kept]
      intro first member
      rcases drawn with ⟨ends, listed⟩ | ⟨more, listed⟩
      · rw [listed] at member
        cases member
      · rw [listed] at member
        cases member
        exact_mod_cast loose
    · have binds : 0 < token.precedence := by omega
      obtain ⟨operator, joins⟩ := Token.operator?_of_precedence binds
      rcases drawn with ⟨ends, listed⟩ | ⟨more, listed⟩
      · exact absurd (Token.precedence_of_isEnding ends) (Nat.ne_of_gt binds)
      · rw [listed, List.length_cons] at within enough ⊢
        unfold readJoined joinOf
        rw [Step.bind_apply, taken]
        simp only [if_neg loose, rightThreshold_eq joins, joins]
        have right := within after.upcoming.length (Nat.lt_succ_self _) operator.rightLevel after rfl depth (by omega)
        refine right.bind (fun brackets => ⟨brackets, verdict_of_take (take_of_precedence binds brackets) _⟩) ?_
        intro expression last led short ends
        have onward := ih depth (by omega) (fun others (fewer : others < last.upcoming.length) =>
          within others (by omega)) (by omega) (.binary operator left expression)
        exact onward.mono (fun brackets => by rw [verdict_of_take (take_of_precedence binds brackets), led]) (by omega)

theorem walks_readWithin (count : Nat) : WalksWithin count := by
  induction count using Nat.strong_induction_on with
  | _ count ih =>
    rintro threshold scanner rfl depth enough
    obtain ⟨depth, rfl⟩ : ∃ below, depth = below + 1 := ⟨depth - 1, by omega⟩
    unfold readWithin
    have term := walks_readTerm ih (by omega : 2 * scanner.upcoming.length + 1 ≤ depth)
    refine term.bind (fun brackets => ⟨brackets, rfl⟩) fun left after led short _ => ?_
    have joined := walks_readJoined (fun others fewer => ih others (by omega)) threshold
      (by omega : 2 * after.upcoming.length + 1 ≤ depth) left
    exact joined.mono led (by omega)

/-- What is wrong with the tokens of an expression, from its start. -/
def wrong (tokens : List Token) : Option Stop := verdict ⟨0, .term⟩ tokens

/-- A whole reading fails as the walk over the tokens before the next ending does, and
    answers where the walk gets through. -/
theorem wrong_upcoming (scanner : Scanner) :
    wrong scanner.upcoming =
      match readAll.isolated scanner with
      | .ok _ => none
      | .error stop => some stop := by
  have enough : 2 * scanner.upcoming.length + 2 ≤ depthFor scanner := by
    have := scanner.length_upcoming_le_size
    unfold depthFor
    omega
  have walks : Walks .term 0 scanner.upcoming scanner.upcoming.length (readWithin (depthFor scanner) 0 scanner) :=
    walks_readWithin _ 0 scanner rfl _ enough
  unfold wrong Step.isolated
  rw [readAll, Step.bind_apply, read_apply]
  cases done : readWithin (depthFor scanner) 0 scanner with
  | error stop after =>
    rw [done] at walks
    exact walks 0
  | ok expression after =>
    rw [done] at walks
    obtain ⟨led, _, ends⟩ := walks
    obtain ⟨last, asked⟩ := after.hasMore_upcoming
    simp only [Step.bind_apply, asked, led]
    cases listed : after.upcoming with
    | nil => rfl
    | cons token later =>
      have loose : token.precedence = 0 := Nat.le_zero.1 (ends token (by rw [listed]; rfl))
      by_cases closes : token.isSign ")" = true
      · exact verdict_of_take_error (take_of_unopened loose closes) _
      · exact verdict_of_take_error (take_of_neither loose closes _) _

/-- Reading stops only for the reasons of reading. -/
theorem stopsOnly_readAll : Step.StopsOnly Stop.OfReading readAll := by
  intro scanner stop reached ended
  have failed := wrong_upcoming scanner
  rw [Step.isolated, ended] at failed
  exact ofReading_of_verdict failed

/-- A whole reading depends on the tokens ahead only. -/
theorem isolated_readAll_eq {tokens : List Token} {one other : Scanner} (before : one.IsBefore tokens)
    (before' : other.IsBefore tokens) : readAll.isolated one = readAll.isolated other := by
  have reads : ∀ {scanner : Scanner}, scanner.IsBefore tokens → ∀ {expression : Expr},
      readAll.isolated scanner = .ok expression → Derives 0 tokens expression := by
    intro scanner before expression answered
    rw [← readAll_iff_derives before]
    unfold Step.isolated at answered
    cases done : readAll scanner with
    | ok answer after =>
      rw [done] at answered
      cases answered
      exact ⟨after, rfl⟩
    | error stop after =>
      rw [done] at answered
      cases answered
  have failed := wrong_upcoming one
  rw [before.upcoming_eq, ← before'.upcoming_eq, wrong_upcoming other] at failed
  cases done : readAll.isolated one with
  | ok expression =>
    cases done' : readAll.isolated other with
    | ok expression' => rw [derives_unique (reads before done) (reads before' done')]
    | error stop' => simp [done, done'] at failed
  | error stop =>
    cases done' : readAll.isolated other with
    | ok expression' => simp [done, done'] at failed
    | error stop' =>
      rw [done, done'] at failed
      cases failed
      rfl

theorem upcoming_ofTokens (tokens : List Token) :
    (Scanner.ofTokens tokens).upcoming = tokens.takeWhile fun token => !token.isEnding := rfl

/-- Of a list of tokens those before the first ending are an expression exactly if the
    walk gets through them. -/
theorem exists_ofTokens_iff (tokens : List Token) :
    (∃ expression, ofTokens tokens = .ok expression) ↔
      wrong (tokens.takeWhile fun token => !token.isEnding) = none := by
  rw [← upcoming_ofTokens, wrong_upcoming, ofTokens]
  cases readAll.isolated (Scanner.ofTokens tokens) <;> simp

theorem ofTokens_eq_error_iff (tokens : List Token) (stop : Stop) :
    ofTokens tokens = .error stop ↔ wrong (tokens.takeWhile fun token => !token.isEnding) = some stop := by
  rw [← upcoming_ofTokens, wrong_upcoming, ofTokens]
  cases readAll.isolated (Scanner.ofTokens tokens) <;> simp

end Expr

end LineBasic
