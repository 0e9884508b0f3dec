import Mathlib
import LineBasic.Proofs.Expr.Causes
import LineBasic.Proofs.Expr.Scan

/-!
Where the reading of an expression fails. Tokens that can be continued to an expression
are viable: they are those that a walk gets through (`viable_iff`), since from every
position there is a way to the end. So a reading fails at the first token that cannot
be continued, whatever comes after it, and the place of that token tells the cause
(`ofTokens_eq_error_cases`). If there is no such token, the expression is unfinished.
-/
namespace LineBasic.Expr

open Position

/-! ### Places -/

/-- What has to come after a token that stands where `place` had to come. -/
def Place.after : Place → Token → Place
  | .term, token => if token.isSign "-" then .numeral else if token.isSign "(" then .term else .operator
  | .numeral, _ => .operator
  | .operator, token => if token.operator?.isSome then .term else .operator

/-- What has to come after some tokens of an expression. -/
def placeAfter (tokens : List Token) : Place := tokens.foldl Place.after .term

theorem placeAfter_concat (before : List Token) (last : Token) :
    placeAfter (before ++ [last]) = (placeAfter before).after last := by
  rw [placeAfter, List.foldl_append]
  rfl

/-- The tokens end in a minus sign in the place of a term. -/
def EndsInMinus (tokens : List Token) : Prop :=
  ∃ before minus, tokens = before ++ [minus] ∧ placeAfter before = .term ∧ minus.isSign "-" = true

/-- A numeral has to come only after a minus sign in the place of a term. -/
theorem placeAfter_eq_numeral_iff (tokens : List Token) : placeAfter tokens = .numeral ↔ EndsInMinus tokens := by
  constructor
  · intro numeral
    rcases List.eq_nil_or_concat tokens with rfl | ⟨before, last, rfl⟩
    · cases numeral
    · rw [List.concat_eq_append] at numeral ⊢
      rw [placeAfter_concat] at numeral
      cases place : placeAfter before with
      | term =>
        rw [place, Place.after] at numeral
        split_ifs at numeral with minus
        exact ⟨before, last, rfl, place, minus⟩
      | numeral =>
        rw [place, Place.after] at numeral
        cases numeral
      | operator =>
        rw [place, Place.after] at numeral
        split_ifs at numeral
  · rintro ⟨before, minus, rfl, term, sign⟩
    rw [placeAfter_concat, term, Place.after, if_pos sign]

variable {tokens : List Token} {position reached : Position} {token : Token} {stop : Stop}

/-- A token that can come next leads to the place after it. -/
theorem Position.place_of_take (taken : position.take token = .ok reached) :
    reached.place = position.place.after token := by
  obtain ⟨brackets, place⟩ := position
  have constant : ∀ {text : String},
      ((Decimal.readLiteral text).map fun _ => (⟨brackets, .operator⟩ : Position)) = .ok reached →
        reached.place = .operator := by
    intro text read
    cases denotes : Decimal.readLiteral text with
    | ok value =>
      rw [denotes] at read
      cases read
      rfl
    | error stop =>
      rw [denotes] at read
      cases read
  cases place with
  | term =>
    cases kind : token.kind with
    | word =>
      simp only [take, kind] at taken
      split_ifs at taken
      cases taken
      simp [Place.after, Token.isSign, kind]
    | number =>
      simp only [take, kind] at taken
      rw [constant taken]
      simp [Place.after, Token.isSign, kind]
    | operator =>
      simp only [take, kind] at taken
      split_ifs at taken with minus opens
      · cases taken
        simp [Place.after, Token.isSign, kind, minus]
      · cases taken
        simp [Place.after, Token.isSign, kind, opens]
    | ending | other name =>
      simp only [take, kind] at taken
      cases taken
  | numeral =>
    simp only [take] at taken
    split_ifs at taken
    exact constant taken
  | operator =>
    simp only [take, Place.after] at taken ⊢
    split_ifs at taken ⊢ with joins closes
    · cases taken
      rfl
    · cases brackets with
      | zero => cases taken
      | succ inner =>
        cases taken
        rfl

theorem Position.place_of_through (walked : position.through tokens = .ok reached) :
    reached.place = tokens.foldl Place.after position.place := by
  induction tokens generalizing position with
  | nil =>
    cases walked
    rfl
  | cons token later ih =>
    rw [through_cons] at walked
    cases taken : position.take token with
    | error stop =>
      rw [taken] at walked
      cases walked
    | ok next =>
      rw [taken] at walked
      rw [ih walked, place_of_take taken, List.foldl_cons]

/-! ### Continuing -/

/-- The tokens can be continued to an expression, or are one. -/
def Viable (tokens : List Token) : Prop :=
  ∃ later : List Token, (∀ token ∈ later, token.isEnding = false) ∧
    ∃ expression, ofTokens (tokens ++ later) = .ok expression

theorem takeWhile_of_proper {tokens : List Token} (proper : ∀ token ∈ tokens, token.isEnding = false) :
    (tokens.takeWhile fun token => !token.isEnding) = tokens :=
  List.takeWhile_eq_self_iff.2 fun token member => by simp [proper token member]

/-- The open brackets are closed one after another. -/
theorem verdict_closings (brackets : Nat) :
    verdict ⟨brackets, .operator⟩ (List.replicate brackets ⟨.operator, ")"⟩) = none := by
  induction brackets with
  | zero => rfl
  | succ brackets ih =>
    rw [List.replicate_succ, verdict_of_take (take_of_closes (by decide) (by decide) brackets), ih]

/-- From every position there is a way to the end of an expression. -/
theorem exists_verdict_none (position : Position) :
    ∃ later : List Token, (∀ token ∈ later, token.isEnding = false) ∧ position.verdict later = none := by
  obtain ⟨brackets, place⟩ := position
  have closings : ∀ token ∈ List.replicate brackets (⟨.operator, ")"⟩ : Token), token.isEnding = false :=
    fun token member => List.eq_of_mem_replicate member ▸ rfl
  cases place with
  | operator => exact ⟨_, closings, verdict_closings brackets⟩
  | term =>
    have taken : take ⟨brackets, .term⟩ ⟨.word, "x"⟩ = .ok ⟨brackets, .operator⟩ := by
      simp only [take]
      rw [if_neg (by decide)]
    refine ⟨⟨.word, "x"⟩ :: _, List.forall_mem_cons.2 ⟨rfl, closings⟩, ?_⟩
    rw [verdict_of_take taken, verdict_closings]
  | numeral =>
    have taken : take ⟨brackets, .numeral⟩ ⟨.number, "1"⟩ = .ok ⟨brackets, .operator⟩ := by
      have read : Decimal.readLiteral ("-" ++ "1") = .ok (-1) := by decide +kernel
      simp only [take, read]
      rfl
    refine ⟨⟨.number, "1"⟩ :: _, List.forall_mem_cons.2 ⟨rfl, closings⟩, ?_⟩
    rw [verdict_of_take taken, verdict_closings]

theorem verdict_append (position : Position) (before after : List Token) :
    position.verdict (before ++ after) =
      match position.through before with
      | .ok reached => reached.verdict after
      | .error stop => some stop := by
  rw [verdict, through_append]
  cases position.through before <;> rfl

/-- The tokens that can be continued are those that the walk gets through. -/
theorem viable_iff (proper : ∀ token ∈ tokens, token.isEnding = false) :
    Viable tokens ↔ ∃ reached, through ⟨0, .term⟩ tokens = .ok reached := by
  have whole : ∀ later : List Token, (∀ token ∈ later, token.isEnding = false) →
      ((∃ expression, ofTokens (tokens ++ later) = .ok expression) ↔ verdict ⟨0, .term⟩ (tokens ++ later) = none) := by
    intro later properLater
    have all : ∀ token ∈ tokens ++ later, token.isEnding = false := List.forall_mem_append.2 ⟨proper, properLater⟩
    rw [exists_ofTokens_iff, takeWhile_of_proper all, wrong]
  constructor
  · rintro ⟨later, properLater, read⟩
    have passed := (whole later properLater).1 read
    rw [verdict_append] at passed
    cases walked : through ⟨0, .term⟩ tokens with
    | ok reached => exact ⟨reached, rfl⟩
    | error stop =>
      rw [walked] at passed
      cases passed
  · rintro ⟨reached, walked⟩
    obtain ⟨later, properLater, ends⟩ := exists_verdict_none reached
    refine ⟨later, properLater, (whole later properLater).2 ?_⟩
    rw [verdict_append, walked]
    exact ends

/-! ### Failing -/

/-- A walk fails at one token, after those that it gets through. -/
theorem Position.exists_refused (failed : position.through tokens = .error stop) :
    ∃ before token later reached, tokens = before ++ token :: later ∧ position.through before = .ok reached ∧
      reached.take token = .error stop := by
  induction tokens generalizing position with
  | nil => cases failed
  | cons token later ih =>
    rw [through_cons] at failed
    cases taken : position.take token with
    | error cause =>
      rw [taken] at failed
      cases failed
      exact ⟨[], token, later, position, rfl, rfl, taken⟩
    | ok next =>
      rw [taken] at failed
      obtain ⟨before, refused, rest, reached, rfl, walked, refusal⟩ := ih failed
      exact ⟨token :: before, refused, rest, reached, rfl, by rw [through_cons, taken]; exact walked, refusal⟩

/-- The token is refused as a number in its place: it is a numeral that is no value in
    the place of a term, or anything that is no numeral of a value after a minus sign. -/
def RefusedNumber (place : Place) (token : Token) : Prop :=
  place = .term ∧ token.kind = .number ∧ (¬ ∃ value, Decimal.readLiteral token.text = .ok value) ∨
    place = .numeral ∧ ¬ (token.kind = .number ∧ ∃ value, Decimal.readLiteral ("-" ++ token.text) = .ok value)

/-- What is missing where the tokens end. -/
theorem Position.missing_eq_some (lacks : position.missing = some stop) :
    stop = .fault .invalidNumber ∧ position.place = .numeral ∨
      stop = .fault .malformed ∧ position.place ≠ .numeral := by
  rcases position with ⟨_ | brackets, _ | _ | _⟩ <;> cases lacks <;> simp

/-- Why a token cannot come next. -/
theorem Position.take_error_cases (refused : position.take token = .error stop)
    (short : token.kind = .number → token.text.length ≤ digitLimit) :
    stop = .fault .invalidNumber ∧ RefusedNumber position.place token ∨
      stop = .fault .malformed ∧ ¬ RefusedNumber position.place token := by
  obtain ⟨brackets, place⟩ := position
  have constant : ∀ {text : String},
      ((Decimal.readLiteral text).map fun _ => (⟨brackets, .operator⟩ : Position)) = .error stop →
        Decimal.readLiteral text = .error stop := by
    intro text read
    cases denotes : Decimal.readLiteral text with
    | ok value =>
      rw [denotes] at read
      cases read
    | error cause =>
      rw [denotes] at read
      cases read
      rfl
  cases place with
  | term =>
    cases kind : token.kind with
    | number =>
      simp only [take, kind] at refused
      have unread := constant refused
      exact .inl ⟨Decimal.readLiteral_error_of_short (short kind) unread, .inl ⟨rfl, kind, by simp [unread]⟩⟩
    | word | operator | ending | other =>
      refine .inr ⟨?_, by simp [RefusedNumber, kind]⟩
      simp only [take, kind] at refused
      try split_ifs at refused
      all_goals
        cases refused
        rfl
  | numeral =>
    simp only [take] at refused
    split_ifs at refused with kind
    · have unread := constant refused
      exact .inl ⟨Decimal.readLiteral_minus_error_of_short (short kind) unread, .inr ⟨rfl, by simp [unread]⟩⟩
    · cases refused
      exact .inl ⟨rfl, .inr ⟨rfl, fun accepted => kind accepted.1⟩⟩
  | operator =>
    refine .inr ⟨?_, by simp [RefusedNumber]⟩
    simp only [take] at refused
    split_ifs at refused
    · cases brackets with
      | zero =>
        cases refused
        rfl
      | succ inner => cases refused
    · cases refused
      rfl

/-- What leads to a position can be continued, as can every part that it starts with. -/
theorem viable_take {before : List Token} (proper : ∀ token ∈ before, token.isEnding = false)
    (passed : through ⟨0, .term⟩ before = .ok reached) (count : Nat) : Viable (before.take count) := by
  rw [viable_iff fun token member => proper token (List.mem_of_mem_take member)]
  rw [← List.take_append_drop count before, through_append] at passed
  cases started : through ⟨0, .term⟩ (before.take count) with
  | ok middle => exact ⟨middle, rfl⟩
  | error cause =>
    rw [started] at passed
    cases passed

/-- A token that cannot come next ends the reading, whatever follows. -/
theorem ofTokens_of_refused {before : List Token} (proper : ∀ token ∈ before, token.isEnding = false)
    (more : token.isEnding = false) (passed : through ⟨0, .term⟩ before = .ok reached)
    (refused : reached.take token = .error stop) (others : List Token) :
    ofTokens (before ++ token :: others) = .error stop := by
  have split : ((before ++ token :: others).takeWhile fun token => !token.isEnding) =
      before ++ token :: others.takeWhile fun token => !token.isEnding := by
    rw [List.takeWhile_append_of_pos fun token member => by simp [proper token member],
      List.takeWhile_cons_of_pos (by simp [more])]
  rw [ofTokens_eq_error_iff, split, wrong, verdict_append, passed]
  exact verdict_of_take_error refused _

/-- The reading of tokens that are no expression fails at the first that cannot be
    continued, whatever follows it, and by the number rules exactly if it is refused as
    a number. Where all can be continued, a numeral or something else is missing at
    their end. -/
theorem ofTokens_eq_error_cases (proper : ∀ token ∈ tokens, token.isEnding = false)
    (short : ∀ token ∈ tokens, token.kind = .number → token.text.length ≤ digitLimit)
    (failed : ofTokens tokens = .error stop) :
    (stop = .fault .invalidNumber ∨ stop = .fault .malformed) ∧
      (¬ Viable tokens → ∃ i token, tokens[i]? = some token ∧ (∀ j < i, Viable (tokens.take (j + 1))) ∧
        ¬ Viable (tokens.take (i + 1)) ∧ (∀ others, ofTokens (tokens.take (i + 1) ++ others) = .error stop) ∧
        (stop = .fault .invalidNumber ↔ RefusedNumber (placeAfter (tokens.take i)) token)) ∧
      (Viable tokens → (stop = .fault .invalidNumber ↔ EndsInMinus tokens)) := by
  have failing : verdict ⟨0, .term⟩ tokens = some stop := by
    rwa [ofTokens_eq_error_iff, takeWhile_of_proper proper] at failed
  rw [verdict] at failing
  cases walked : through ⟨0, .term⟩ tokens with
  | ok reached =>
    rw [walked] at failing
    have viable : Viable tokens := (viable_iff proper).2 ⟨reached, walked⟩
    have place : reached.place = placeAfter tokens := place_of_through walked
    rw [← placeAfter_eq_numeral_iff, ← place]
    rcases missing_eq_some failing with ⟨rfl, numeral⟩ | ⟨rfl, other⟩
    · exact ⟨.inl rfl, fun dead => absurd viable dead, fun _ => by simp [numeral]⟩
    · exact ⟨.inr rfl, fun dead => absurd viable dead, fun _ => by simp [other]⟩
  | error cause =>
    rw [walked] at failing
    cases failing
    obtain ⟨before, token, later, reached, rfl, passed, refused⟩ := exists_refused walked
    have properBefore : ∀ token ∈ before, token.isEnding = false := fun token member => proper token (by simp [member])
    have properToken : token.isEnding = false := proper token (by simp)
    have fails := ofTokens_of_refused properBefore properToken passed refused
    have dead : ∀ others : List Token, (∀ token ∈ others, token.isEnding = false) →
        ¬ Viable (before ++ token :: others) := by
      rintro others properOthers ⟨rest, _, expression, read⟩
      rw [List.append_assoc, List.cons_append, fails] at read
      cases read
    have properLater : ∀ token ∈ later, token.isEnding = false := fun token member => proper token (by simp [member])
    have first : (before ++ token :: later).take (before.length + 1) = before ++ [token] := by
      rw [List.take_length_add_append]
      rfl
    have cause := take_error_cases refused (short token (by simp))
    rw [place_of_through passed] at cause
    refine ⟨?_, fun _ => ⟨before.length, token, by simp, ?_, ?_, ?_, ?_⟩,
      fun viable => absurd viable (dead later properLater)⟩
    · rcases cause with ⟨same, _⟩ | ⟨same, _⟩
      · exact .inl same
      · exact .inr same
    · intro j earlier
      rw [List.take_append_of_le_length earlier]
      exact viable_take properBefore passed _
    · rw [first]
      exact dead [] (by simp)
    · intro others
      rw [first, List.append_assoc]
      exact fails others
    · rw [List.take_left]
      rcases cause with ⟨rfl, number⟩ | ⟨rfl, other⟩
      · exact iff_of_true rfl number
      · exact iff_of_false (by simp) other

/-- The tokens of `( a + - b`. -/
def wordAfterMinus : List Token :=
  [⟨.operator, "("⟩, ⟨.word, "a"⟩, ⟨.operator, "+"⟩, ⟨.operator, "-"⟩, ⟨.word, "b"⟩]

/-- The `b` is no numeral, so that nothing that starts with these tokens is an expression. -/
theorem ofTokens_eq_error_cases_wordAfterMinus :
    ofTokens wordAfterMinus = .error (.fault .invalidNumber) ∧
      ∀ others, ofTokens (wordAfterMinus ++ others) = .error (.fault .invalidNumber) := by
  have failed : ofTokens wordAfterMinus = .error (.fault .invalidNumber) := by decide +kernel
  obtain ⟨_, stuck, unfinished⟩ := ofTokens_eq_error_cases (by decide) (by decide) failed
  refine ⟨failed, fun others => ?_⟩
  by_cases viable : Viable wordAfterMinus
  · have numeral := (placeAfter_eq_numeral_iff _).2 ((unfinished viable).1 rfl)
    exact absurd numeral (by decide)
  · obtain ⟨i, _, _, _, _, fails, _⟩ := stuck viable
    have continued := fails (wordAfterMinus.drop (i + 1) ++ others)
    rwa [← List.append_assoc, List.take_append_drop] at continued

end LineBasic.Expr
