import DynamicSql.Proofs.Expr.Grammar

/-!
# Readers by level

Each level of the grammar has a reader, and what a phrase of the level goes on with has another. The
equations here say what they have in common: a phrase begins with one of the next tighter level
(`read_eq`), and goes on behind the operators of its level (`goOn_join`, `goOn_compare`).
-/

namespace DynamicSql

namespace TokenStream

/-! ## Readers that succeed -/

variable {α : Type} {s t rest : TokenStream} {a : α}

/-- Whether a reader gives a result and leaves a rest. -/
def Reading.Gives (r : Reading α s) (a : α) (rest : TokenStream) : Prop :=
  ∃ h, r = .ok (a, ⟨rest, h⟩)

/-- Whether a reader that may read nothing gives a result and leaves a rest. -/
def Extending.Gives (r : Extending α s) (a : α) (rest : TokenStream) : Prop :=
  ∃ h, r = .ok (a, ⟨rest, h⟩)

/-- Going on with a smaller rest gives what it gives there. -/
lemma Extending.Gives.narrow {r : Extending α t} (hr : r.Gives a rest) (h : t.size < s.size) :
    (r.narrow h).Gives a rest := by
  obtain ⟨_, rfl⟩ := hr
  exact ⟨_, rfl⟩

/-- Going on with a rest gives what it gives there. -/
lemma Extending.Gives.widen {r : Extending α t} (hr : r.Gives a rest) (h : t.size ≤ s.size) :
    (r.widen h).Gives a rest := by
  obtain ⟨_, rfl⟩ := hr
  exact ⟨_, rfl⟩

/-- A reader that reads nothing leaves what it was given. -/
lemma size_le_size (s : TokenStream) : s.size ≤ s.size := Nat.le_refl _

end TokenStream

namespace Grammar.Level

open TokenStream

/-! ## Levels and operators -/

variable {level : Level} {t : Token} {op : BinaryOperator} {left : Expr} {s after : TokenStream}
  {stop : Nat}

/-- The reader of a level. -/
def read : Level → (s : TokenStream) → Reading Expr s
  | or, s => readOr s
  | and, s => readAnd s
  | compare, s => readCompare s
  | sum, s => readSum s
  | product, s => readProduct s
  | unary, s => readUnary s
  | access, s => readAccess s
  | primary, s => readPrimary s

/-- Reads what a phrase of a level goes on with behind `left`. -/
def goOn : Level → Expr → (s : TokenStream) → Extending Expr s
  | or, left, s => continueOr left s
  | and, left, s => continueAnd left s
  | compare, left, s => continueCompare left s
  | sum, left, s => continueSum left s
  | product, left, s => continueProduct left s
  | unary, e, s => .ok (e, ⟨s, size_le_size s⟩)
  | access, object, s => continueAccess object s
  | primary, e, s => .ok (e, ⟨s, size_le_size s⟩)

/-- A phrase begins with one of the next tighter level, where it is not an operator before its
operand and not a single operand. -/
theorem read_eq (hunary : level ≠ .unary) (hprimary : level ≠ .primary) (s : TokenStream) :
    level.read s =
      (level.tighter.read s).bind fun x => (level.goOn x.1 x.2.1).narrow x.2.2 := by
  cases level with
  | unary => exact absurd rfl hunary
  | primary => exact absurd rfl hprimary
  | or => rw [read, readOr, tighter, read]; rcases readAnd s with e | ⟨left, rest, h⟩ <;> rfl
  | and => rw [read, readAnd, tighter, read]; rcases readCompare s with e | ⟨left, rest, h⟩ <;> rfl
  | compare =>
      rw [read, readCompare, tighter, read]; rcases readSum s with e | ⟨left, rest, h⟩ <;> rfl
  | sum => rw [read, readSum, tighter, read]; rcases readProduct s with e | ⟨left, rest, h⟩ <;> rfl
  | product =>
      rw [read, readProduct, tighter, read]; rcases readUnary s with e | ⟨left, rest, h⟩ <;> rfl
  | access =>
      rw [read, readAccess, tighter, read]; rcases readPrimary s with e | ⟨object, rest, h⟩ <;> rfl

/-- What comes behind a token and a smaller rest is behind the token. -/
lemma le_size_token {rest : TokenStream} (h : rest.size < after.size) :
    rest.size ≤ (TokenStream.token t stop after).size :=
  Nat.le_succ_of_le (Nat.le_of_lt h)

/-- A phrase goes on behind an operator that may be repeated, and then again. -/
theorem goOn_join (hlevel : level ≠ .compare) (hop : level.operator? t = some op) :
    level.goOn left (.token t stop after) =
      (level.tighter.read after).bind fun x =>
        (level.goOn (.binary op left x.1) x.2.1).widen (le_size_token x.2.2) := by
  cases level with
  | or =>
      cases t <;> cases hop
      rw [goOn, continueOr, tighter, read]
      rcases readAnd after with e | ⟨right, rest, h⟩ <;> rfl
  | and =>
      cases t <;> cases hop
      rw [goOn, continueAnd, tighter, read]
      rcases readCompare after with e | ⟨right, rest, h⟩ <;> rfl
  | compare => exact absurd rfl hlevel
  | sum =>
      have hop' : additive? t = some op := by cases t <;> cases hop <;> rfl
      rw [goOn, continueSum, hop', tighter, read]
      rcases readProduct after with e | ⟨right, rest, h⟩ <;> rfl
  | product =>
      have hop' : multiplicative? t = some op := by cases t <;> cases hop <;> rfl
      rw [goOn, continueProduct, hop', tighter, read]
      rcases readUnary after with e | ⟨right, rest, h⟩ <;> rfl
  | unary => cases t <;> cases hop
  | access => cases t <;> cases hop
  | primary => cases t <;> cases hop

/-- A comparison ends with its second operand. -/
theorem goOn_compare (hop : Level.compare.operator? t = some op) :
    Level.compare.goOn left (.token t stop after) =
      (Level.sum.read after).bind fun x =>
        .ok (.binary op left x.1, ⟨x.2.1, le_size_token x.2.2⟩) := by
  have hop' : comparison? t = some op := by cases t <;> cases hop <;> rfl
  rw [goOn, continueCompare, hop', read]
  rcases readSum after with e | ⟨right, rest, h⟩ <;> rfl

/-- Without an operator of its level a phrase does not go on, unless it may have accesses. -/
theorem goOn_of_operator?_eq_none (hlevel : level ≠ .access)
    (hop : ∀ t stop after, s = .token t stop after → level.operator? t = none) :
    level.goOn left s = .ok (left, ⟨s, size_le_size s⟩) := by
  cases level with
  | or =>
      rw [goOn, continueOr]
      rintro stop after rfl
      cases hop _ _ _ rfl
  | and =>
      rw [goOn, continueAnd]
      rintro stop after rfl
      cases hop _ _ _ rfl
  | compare =>
      cases s with
      | token t stop after =>
          have hnone : comparison? t = none := by
            have h := hop t stop after rfl
            cases t <;> first | rfl | cases h
          rw [goOn, continueCompare, hnone]
      | ended stop => rw [goOn, continueCompare]; rintro _ _ _ ⟨⟩
      | fault e stop => rw [goOn, continueCompare]; rintro _ _ _ ⟨⟩
  | sum =>
      cases s with
      | token t stop after =>
          have hnone : additive? t = none := by
            have h := hop t stop after rfl
            cases t <;> first | rfl | cases h
          rw [goOn, continueSum, hnone]
      | ended stop => rw [goOn, continueSum]; rintro _ _ _ ⟨⟩
      | fault e stop => rw [goOn, continueSum]; rintro _ _ _ ⟨⟩
  | product =>
      cases s with
      | token t stop after =>
          have hnone : multiplicative? t = none := by
            have h := hop t stop after rfl
            cases t <;> first | rfl | cases h
          rw [goOn, continueProduct, hnone]
      | ended stop => rw [goOn, continueProduct]; rintro _ _ _ ⟨⟩
      | fault e stop => rw [goOn, continueProduct]; rintro _ _ _ ⟨⟩
  | unary => rfl
  | access => exact absurd rfl hlevel
  | primary => rfl

/-! ## Operands -/

/-- An operand may have operators before it. -/
theorem read_sign {sign : UnaryOperator} (hsign : sign? t = some sign) :
    Level.unary.read (.token t stop after) =
      (Level.unary.read after).bind fun x =>
        .ok (.unary sign x.1, ⟨x.2.1, Nat.lt_succ_of_lt x.2.2⟩) := by
  have hop : unary? t = some sign := by cases t <;> cases hsign <;> rfl
  rw [read, readUnary, hop, read]
  rcases readUnary after with e | ⟨operand, rest, h⟩ <;> rfl

/-- An operand without operators before it has what is accessed in it. -/
theorem read_access_of_sign?_eq_none
    (hsign : ∀ t stop after, s = .token t stop after → sign? t = none) :
    Level.unary.read s = Level.access.read s := by
  rw [read, readUnary.eq_def, read]
  cases s with
  | token t stop after =>
      have hnone : unary? t = none := by
        have h := hsign t stop after rfl
        cases t <;> first | rfl | cases h
      simp only [hnone]
  | ended stop => rfl
  | fault e stop => rfl

/-- A literal or a name is an operand. -/
theorem read_atom {e : Expr} (hatom : atom? t = some e) :
    Level.primary.read (.token t stop after) = .ok (e, ⟨after, Nat.lt_succ_self _⟩) := by
  cases t <;> cases hatom <;> rw [read, readPrimary]

/-- An expression in parentheses is an operand. -/
theorem read_parens :
    Level.primary.read (.token .leftParen stop after) =
      (Level.or.read after).bind fun x =>
        (x.2.1.expect isRightParen "')'").bind fun rest =>
          .ok (x.1, ⟨rest.1, Nat.lt_succ_of_lt (Nat.lt_trans rest.2 x.2.2)⟩) := by
  rw [read, read, readPrimary]
  rcases readOr after with e | ⟨inner, rest, h⟩
  · rfl
  · simp only [Except.bind]
    rcases rest.expect isRightParen "')'" with e | ⟨rest', h'⟩ <;> rfl

/-- Nothing else is an operand. -/
theorem read_primary_otherwise
    (hs : ∀ t stop after, s = .token t stop after → atom? t = none ∧ t ≠ .leftParen) :
    Level.primary.read s = .error (s.unexpected "a literal, a name or '('") := by
  rw [read, readPrimary.eq_def]
  cases s with
  | token t stop after =>
      obtain ⟨hatom, hparen⟩ := hs t stop after rfl
      cases t <;> first | rfl | exact absurd rfl hparen | cases hatom
  | ended stop => rfl
  | fault e stop => rfl

/-! ## Accesses -/

variable {object : Expr} {name : Text} {p q : Nat}

/-- Accesses go on behind an index. -/
theorem goOn_index :
    Level.access.goOn object (.token .leftBracket stop after) =
      (Level.or.read after).bind fun x =>
        (x.2.1.expect isRightBracket "']'").bind fun rest =>
          (Level.access.goOn (.index object x.1) rest.1).widen
            (le_size_token (Nat.lt_trans rest.2 x.2.2)) := by
  rw [goOn, continueAccess, read]
  rcases readOr after with e | ⟨position, rest, h⟩
  · rfl
  · simp only [Except.bind]
    rcases rest.expect isRightBracket "']'" with e | ⟨rest', h'⟩ <;> rfl

/-- Accesses go on behind a call. -/
theorem goOn_call :
    Level.access.goOn object
        (.token .dot p (.token (.name name) q (.token .leftParen stop after))) =
      (readArguments after).bind fun x =>
        (Level.access.goOn (.call object name x.1) x.2.1).widen
          (Nat.le_succ_of_le (Nat.le_succ_of_le (le_size_token x.2.2))) := by
  rw [goOn, continueAccess]
  rcases readArguments after with e | ⟨arguments, rest, h⟩ <;> rfl

/-- Accesses go on behind a field, which has no parenthesis behind it. -/
theorem goOn_field (hcall : ∀ stop behind, after ≠ .token .leftParen stop behind) :
    Level.access.goOn object (.token .dot p (.token (.name name) q after)) =
      (Level.access.goOn (.field object name) after).widen
        (Nat.le_succ_of_le (Nat.le_succ _)) := by
  rw [goOn, continueAccess]
  · rfl
  · exact hcall

/-- A point needs a name behind it. -/
theorem goOn_dot (hname : ∀ name stop behind, after ≠ .token (.name name) stop behind) :
    Level.access.goOn object (.token .dot stop after) =
      .error (after.unexpected "a name after '.'") := by
  rw [goOn, continueAccess]
  · intro name q r behind h
    exact hname _ _ _ h
  · exact hname

/-- Without a bracket or a point there is no access. -/
theorem goOn_access_otherwise
    (hs : ∀ t stop after, s = .token t stop after → t ≠ .leftBracket ∧ t ≠ .dot) :
    Level.access.goOn object s = .ok (object, ⟨s, size_le_size s⟩) := by
  rw [goOn, continueAccess]
  · rintro stop after rfl
    exact (hs _ _ _ rfl).1 rfl
  · rintro p name q stop after rfl
    exact (hs _ _ _ rfl).2 rfl
  · rintro p name q after rfl
    exact (hs _ _ _ rfl).2 rfl
  · rintro stop after rfl
    exact (hs _ _ _ rfl).2 rfl

/-! ## Arguments -/

/-- A parenthesis is behind no arguments. -/
theorem readArguments_rightParen :
    readArguments (.token .rightParen stop after) = .ok ([], ⟨after, Nat.lt_succ_self _⟩) := by
  rw [readArguments]

/-- What is no parenthesis is an argument, and others may follow. -/
theorem readArguments_otherwise (hs : ∀ stop after, s ≠ .token .rightParen stop after) :
    readArguments s =
      (Level.or.read s).bind fun x =>
        (continueArguments x.2.1).bind fun y =>
          .ok (x.1 :: y.1, ⟨y.2.1, Nat.lt_trans y.2.2 x.2.2⟩) := by
  rw [readArguments, read]
  · rcases readOr s with e | ⟨argument, rest, h⟩
    · rfl
    · simp only [Except.bind]
      rcases continueArguments rest with e | ⟨arguments, rest', h'⟩ <;> rfl
  · exact hs

end Grammar.Level

end DynamicSql
