import DynamicSql.Proofs.Expr.Soundness
import Mathlib.Data.List.TakeWhile
import Mathlib.Logic.ExistsUnique

/-!
# All phrases are read

A phrase is read whole if nothing behind it goes on with a part of it. How tightly a token holds on
to what stands before it is its *strength*; behind a phrase of a level only tokens of less strength
than its *bound* may stand. Then the reader of the level takes the phrase and whatever the level
goes on with (`complete`).

* `parse_iff_derives`: a text is parsed as an expression exactly if its tokens stand for it.
-/

namespace DynamicSql

namespace Grammar

open TokenStream Level

/-! ## Strength -/

/-- How tightly a token holds on to a phrase before it. Nothing holds on more tightly than an
opening parenthesis, which makes a call of a field. -/
def strength : Token → Nat
  | .or => 1
  | .and => 2
  | .equal | .notEqual | .less | .greater | .lessEqual | .greaterEqual => 3
  | .plus | .minus => 4
  | .star | .slash | .percent => 5
  | .leftBracket | .dot => 6
  | .leftParen => 7
  | _ => 0

/-- How tightly the first token of a stream holds on to a phrase before it. -/
def streamStrength : TokenStream → Nat
  | token t _ _ => strength t
  | _ => 0

/-- The strength from which a phrase of a level goes on. -/
def Level.onset : Level → Nat
  | or => 1
  | and => 2
  | compare => 3
  | sum => 4
  | product => 5
  | unary | access => 6
  | primary => 7

/-- The strength from which a part of a phrase of a level would go on; a comparison is not compared
again. -/
def Level.bound : Level → Nat
  | compare => 3
  | level => level.tighter.onset

variable {level : Level} {t : Token} {op : BinaryOperator} {left e : Expr}
  {s after rest final : TokenStream} {stop : Nat} {ts us : List Token}

/-- The operators of a level have the strength from which its phrases go on. -/
lemma strength_of_operator? (h : level.operator? t = some op) : strength t = level.onset := by
  cases level <;> cases t <;> first | rfl | cases h

/-- A phrase does not go on with what is too weak for its level. -/
lemma goOn_of_weak (h : streamStrength s < level.onset) (e : Expr) :
    (level.goOn e s).Gives e s := by
  by_cases haccess : level = .access
  · subst haccess
    refine ⟨Nat.le_refl _, goOn_access_otherwise ?_⟩
    rintro t stop after rfl
    constructor
    · rintro rfl
      exact absurd h (Nat.lt_irrefl 6)
    · rintro rfl
      exact absurd h (Nat.lt_irrefl 6)
  · refine ⟨Nat.le_refl _, goOn_of_operator?_eq_none haccess ?_⟩
    rintro t stop after rfl
    rcases hop : level.operator? t with _ | op
    · rfl
    · rw [streamStrength, strength_of_operator? hop] at h
      exact absurd h (Nat.lt_irrefl _)

/-- What a level is bounded by does not go on with phrases of the next tighter level. -/
lemma bound_le_onset (level : Level) : level.bound ≤ level.tighter.onset := by
  cases level <;> decide

/-- The next tighter level may stand before whatever the level may stand before. -/
lemma bound_le_bound (level : Level) : level.bound ≤ level.tighter.bound := by
  cases level <;> decide

/-! ## Phrases -/

/-- Whether the reader of a level takes a phrase whole, and goes on behind it. -/
def Complete (level : Level) (ts : List Token) (e : Expr) : Prop :=
  ∀ (s rest final : TokenStream) (f : Expr), s.Reads ts rest → streamStrength rest < level.bound →
    (level.goOn e rest).Gives f final → (level.read s).Gives f final

/-- A phrase is read if nothing goes on with it. -/
lemma Complete.gives (h : Complete level ts e) (hreads : s.Reads ts rest)
    (hbound : streamStrength rest < level.bound) (honset : streamStrength rest < level.onset) :
    (level.read s).Gives e rest :=
  h s rest rest e hreads hbound (goOn_of_weak honset e)

/-- A phrase is read in front of what holds on to nothing. -/
lemma Complete.gives_of_eq_zero (h : Complete level ts e) (hreads : s.Reads ts rest)
    (hrest : streamStrength rest = 0) : (level.read s).Gives e rest := by
  refine h.gives hreads ?_ ?_
  · rw [hrest]
    cases level <;> decide
  · rw [hrest]
    cases level <;> decide

/-- Going on behind what is read of the next tighter level. -/
lemma read_of_tighter {f : Expr} (hunary : level ≠ .unary) (hprimary : level ≠ .primary)
    (htighter : (level.tighter.read s).Gives e rest) (hgoOn : (level.goOn e rest).Gives f final) :
    (level.read s).Gives f final := by
  obtain ⟨hlt, hread⟩ := htighter
  rw [read_eq hunary hprimary, hread]
  exact hgoOn.narrow hlt

/-- A level fails where the next tighter one does. -/
lemma fails_of_tighter (hunary : level ≠ .unary) (hprimary : level ≠ .primary)
    (h : ∃ err, level.tighter.read s = .error err) : ∃ err, level.read s = .error err := by
  obtain ⟨err, h⟩ := h
  exact ⟨err, by rw [read_eq hunary hprimary, h]; rfl⟩

/-- An access begins with a literal, a name or an opening parenthesis. -/
lemma access_fails (hatom : atom? t = none) (hparen : t ≠ .leftParen) :
    ∃ err, Level.access.read (token t stop after) = .error err := by
  refine fails_of_tighter nofun nofun ⟨_, read_primary_otherwise ?_⟩
  intro t' stop' after' heq
  obtain ⟨rfl, -, -⟩ := TokenStream.token.inj heq
  exact ⟨hatom, hparen⟩

/-- What is read as an access does not begin with an operator. -/
lemma sign?_of_gives (h : (Level.access.read s).Gives e rest) {t : Token} {stop : Nat}
    {after : TokenStream} (hs : s = token t stop after) : sign? t = none := by
  subst hs
  rcases hsign : sign? t with _ | op
  · rfl
  · have hfails : ∃ err, Level.access.read (token t stop after) = .error err := by
      apply access_fails
      · cases t <;> first | rfl | cases hsign
      · rintro rfl
        cases hsign
    obtain ⟨err, hfails⟩ := hfails
    obtain ⟨_, hread⟩ := h
    rw [hfails] at hread
    cases hread

/-- A phrase of the next tighter level is read. -/
lemma complete_pass (hlevel : level ≠ .primary) (h : Complete level.tighter ts e) :
    Complete level ts e := by
  intro s rest final f hreads hbound hgoOn
  have htighter : (level.tighter.read s).Gives e rest :=
    h.gives hreads (Nat.lt_of_lt_of_le hbound (bound_le_bound level))
      (Nat.lt_of_lt_of_le hbound (bound_le_onset level))
  by_cases hunary : level = .unary
  · subst hunary
    obtain ⟨hlt, heq⟩ := hgoOn
    cases heq
    rw [read_access_of_sign?_eq_none fun t stop after => sign?_of_gives htighter]
    exact htighter
  · exact read_of_tighter hunary hlevel htighter hgoOn

/-- A further operand behind an operator is read. -/
lemma complete_join {right : Expr} (hlevel : level ≠ .compare) (hop : level.operator? t = some op)
    (hleft : Complete level ts left) (hright : Complete level.tighter us right) :
    Complete level (ts ++ t :: us) (.binary op left right) := by
  intro s rest final f hreads hbound hgoOn
  obtain ⟨between, hts, hreads⟩ := reads_append.1 hreads
  obtain ⟨stop, after, rfl, hus⟩ := reads_cons.1 hreads
  have hstrength : streamStrength (token t stop after) < level.bound := by
    rw [streamStrength, strength_of_operator? hop]
    cases level <;> first | decide | exact absurd rfl hlevel | (cases t <;> cases hop)
  obtain ⟨hlt, hread⟩ := hright.gives hus (Nat.lt_of_lt_of_le hbound (bound_le_bound level))
    (Nat.lt_of_lt_of_le hbound (bound_le_onset level))
  refine hleft _ _ _ _ hts hstrength ?_
  rw [goOn_join hlevel hop, hread]
  exact hgoOn.widen (le_size_token hlt)

/-- A comparison is read. -/
lemma complete_compare {right : Expr} (hop : Level.compare.operator? t = some op)
    (hleft : Complete .sum ts left) (hright : Complete .sum us right) :
    Complete .compare (ts ++ t :: us) (.binary op left right) := by
  intro s rest final f hreads hbound hgoOn
  obtain ⟨between, hts, hreads⟩ := reads_append.1 hreads
  obtain ⟨stop, after, rfl, hus⟩ := reads_cons.1 hreads
  have honset : streamStrength rest < Level.compare.onset := hbound
  obtain ⟨_, hend⟩ := goOn_of_weak honset (.binary op left right)
  obtain ⟨_, heq⟩ := hgoOn
  rw [hend] at heq
  cases heq
  have hstrength : streamStrength (token t stop after) = 3 := strength_of_operator? hop
  have hsum : (Level.sum.read s).Gives left (token t stop after) :=
    hleft.gives hts (by rw [hstrength]; decide) (by rw [hstrength]; decide)
  obtain ⟨hlt, hread⟩ := hright.gives hus (Nat.lt_of_lt_of_le hbound (by decide))
    (Nat.lt_of_lt_of_le hbound (by decide))
  refine read_of_tighter nofun nofun hsum ?_
  rw [goOn_compare hop, hread]
  exact ⟨le_size_token hlt, rfl⟩

/-- An operator before its operand is read. -/
lemma complete_unary {sign : UnaryOperator} {operand : Expr} (hsign : sign? t = some sign)
    (h : Complete .unary ts operand) : Complete .unary (t :: ts) (.unary sign operand) := by
  intro s rest final f hreads hbound hgoOn
  obtain ⟨stop, after, rfl, hts⟩ := reads_cons.1 hreads
  obtain ⟨_, heq⟩ := hgoOn
  cases heq
  obtain ⟨hlt, hread⟩ := h.gives hts hbound hbound
  rw [read_sign hsign, hread]
  exact ⟨Nat.lt_succ_of_lt hlt, rfl⟩

/-- An index is read. -/
lemma complete_index {object position : Expr} (hobject : Complete .access ts object)
    (hposition : Complete .or us position) :
    Complete .access (ts ++ .leftBracket :: (us ++ [.rightBracket])) (.index object position) := by
  intro s rest final f hreads hbound hgoOn
  obtain ⟨between, hts, hbetween⟩ := reads_append.1 hreads
  obtain ⟨p, after, rfl, hafter⟩ := reads_cons.1 hbetween
  obtain ⟨closing, hus, hclosing⟩ := reads_append.1 hafter
  obtain ⟨q, behind, rfl, hbehind⟩ := reads_cons.1 hclosing
  obtain rfl := reads_nil.1 hbehind
  obtain ⟨hlt, hread⟩ := hposition.gives_of_eq_zero hus rfl
  refine hobject _ _ _ _ hts (Nat.lt_succ_self 6) ?_
  rw [goOn_index, hread]
  exact hgoOn.widen (le_size_token (Nat.lt_trans (Nat.lt_succ_self _) hlt))

/-- A field is read. -/
lemma complete_field {object : Expr} {name : Text} (hobject : Complete .access ts object) :
    Complete .access (ts ++ [.dot, .name name]) (.field object name) := by
  intro s rest final f hreads hbound hgoOn
  obtain ⟨between, hts, hbetween⟩ := reads_append.1 hreads
  obtain ⟨p, after, rfl, hafter⟩ := reads_cons.1 hbetween
  obtain ⟨q, behind, rfl, hbehind⟩ := reads_cons.1 hafter
  obtain rfl := reads_nil.1 hbehind
  refine hobject _ _ _ _ hts (Nat.lt_succ_self 6) ?_
  rw [goOn_field]
  · exact hgoOn.widen _
  · -- A parenthesis would make the field a call, but it is too strong to stand here.
    rintro stop arguments rfl
    exact absurd hbound (Nat.lt_irrefl 7)

/-- Whether the reader of arguments takes all of them, and the parenthesis behind them. -/
def CompleteArguments (ts : List Token) (es : List Expr) : Prop :=
  ∀ s rest : TokenStream, s.Reads (ts ++ [.rightParen]) rest → (readArguments s).Gives es rest

/-- A call is read. -/
lemma complete_call {object : Expr} {method : Text} {arguments : List Expr}
    (hobject : Complete .access ts object) (harguments : CompleteArguments us arguments) :
    Complete .access (ts ++ .dot :: .name method :: .leftParen :: (us ++ [.rightParen]))
      (.call object method arguments) := by
  intro s rest final f hreads hbound hgoOn
  obtain ⟨between, hts, hbetween⟩ := reads_append.1 hreads
  obtain ⟨p, after, rfl, hafter⟩ := reads_cons.1 hbetween
  obtain ⟨q, opening, rfl, hopening⟩ := reads_cons.1 hafter
  obtain ⟨r, inner, rfl, hinner⟩ := reads_cons.1 hopening
  obtain ⟨hlt, hread⟩ := harguments _ _ hinner
  refine hobject _ _ _ _ hts (Nat.lt_succ_self 6) ?_
  rw [goOn_call, hread]
  exact hgoOn.widen (by simp only [size]; omega)

/-- A literal or a name is read. -/
lemma complete_atom (hatom : atom? t = some e) : Complete .primary [t] e := by
  intro s rest final f hreads hbound hgoOn
  obtain ⟨stop, after, rfl, hafter⟩ := reads_cons.1 hreads
  obtain rfl := reads_nil.1 hafter
  obtain ⟨_, heq⟩ := hgoOn
  cases heq
  exact ⟨Nat.lt_succ_self _, read_atom hatom⟩

/-- An expression in parentheses is read. -/
lemma complete_parens (h : Complete .or ts e) :
    Complete .primary (.leftParen :: (ts ++ [.rightParen])) e := by
  intro s rest final f hreads hbound hgoOn
  obtain ⟨p, after, rfl, hafter⟩ := reads_cons.1 hreads
  obtain ⟨closing, hts, hclosing⟩ := reads_append.1 hafter
  obtain ⟨q, behind, rfl, hbehind⟩ := reads_cons.1 hclosing
  obtain rfl := reads_nil.1 hbehind
  obtain ⟨_, heq⟩ := hgoOn
  cases heq
  obtain ⟨hlt, hread⟩ := h.gives_of_eq_zero hts rfl
  rw [read_parens, hread]
  exact ⟨_, rfl⟩

/-! ## Arguments -/

/-- No arguments are read. -/
lemma completeArguments_none : CompleteArguments [] [] := by
  intro s rest hreads
  obtain ⟨stop, after, rfl, hafter⟩ := reads_cons.1 hreads
  obtain rfl := reads_nil.1 hafter
  rw [readArguments_rightParen]
  exact ⟨_, rfl⟩

/-- What is read as an expression does not begin with a closing parenthesis. -/
lemma ne_rightParen_of_gives (h : (Level.or.read s).Gives e rest) (stop : Nat)
    (after : TokenStream) : s ≠ token .rightParen stop after := by
  rintro rfl
  have hunary : ∃ err, Level.unary.read (token .rightParen stop after) = .error err := by
    rw [read_access_of_sign?_eq_none]
    · exact access_fails rfl nofun
    · intro t stop' after' heq
      obtain ⟨rfl, -, -⟩ := TokenStream.token.inj heq
      rfl
  have hproduct := @fails_of_tighter .product _ nofun nofun hunary
  have hsum := @fails_of_tighter .sum _ nofun nofun hproduct
  have hcompare := @fails_of_tighter .compare _ nofun nofun hsum
  have hand := @fails_of_tighter .and _ nofun nofun hcompare
  obtain ⟨err, hor⟩ := @fails_of_tighter .or _ nofun nofun hand
  obtain ⟨_, hread⟩ := h
  rw [hor] at hread
  cases hread

/-- A last argument is read. -/
lemma completeArguments_last (h : Complete .or ts e) : CompleteArguments ts [e] := by
  intro s rest hreads
  obtain ⟨closing, hts, hclosing⟩ := reads_append.1 hreads
  obtain ⟨stop, after, rfl, hafter⟩ := reads_cons.1 hclosing
  obtain rfl := reads_nil.1 hafter
  have hargument := h.gives_of_eq_zero hts rfl
  rw [readArguments_otherwise (ne_rightParen_of_gives hargument)]
  obtain ⟨hlt, hread⟩ := hargument
  rw [hread]
  simp only [Except.bind]
  rw [continueArguments]
  exact ⟨_, rfl⟩

/-- An argument before others is read. -/
lemma completeArguments_more {es : List Expr} (h : Complete .or ts e)
    (harguments : CompleteArguments us es) :
    CompleteArguments (ts ++ .comma :: us) (e :: es) := by
  intro s rest hreads
  rw [List.append_assoc] at hreads
  obtain ⟨between, hts, hbetween⟩ := reads_append.1 hreads
  obtain ⟨stop, after, rfl, hafter⟩ := reads_cons.1 hbetween
  have hargument := h.gives_of_eq_zero hts rfl
  rw [readArguments_otherwise (ne_rightParen_of_gives hargument)]
  obtain ⟨hlt, hread⟩ := hargument
  obtain ⟨hlt', hread'⟩ := harguments _ _ hafter
  rw [hread]
  simp only [Except.bind]
  rw [continueArguments, hread']
  exact ⟨_, rfl⟩

mutual

/-- **All phrases are read**, each as the expression it stands for. -/
theorem complete : {level : Level} → {ts : List Token} → {e : Expr} →
    Derives level ts e → Complete level ts e
  | _, _, _, .pass hlevel h => complete_pass hlevel (complete h)
  | _, _, _, .join hlevel hop hleft hright =>
      complete_join hlevel hop (complete hleft) (complete hright)
  | _, _, _, .compare hop hleft hright => complete_compare hop (complete hleft) (complete hright)
  | _, _, _, .unary hop h => complete_unary hop (complete h)
  | _, _, _, .index hobject hposition => complete_index (complete hobject) (complete hposition)
  | _, _, _, .field hobject => complete_field (complete hobject)
  | _, _, _, .call hobject harguments =>
      complete_call (complete hobject) (completeArguments harguments)
  | _, _, _, .atom hatom => complete_atom hatom
  | _, _, _, .parens h => complete_parens (complete h)

/-- All arguments are read. -/
theorem completeArguments : {ts : List Token} → {es : List Expr} → Arguments ts es →
    CompleteArguments ts es
  | _, _, .none => completeArguments_none
  | _, _, .last h => completeArguments_last (complete h)
  | _, _, .more h harguments => completeArguments_more (complete h) (completeArguments harguments)

end

/-! ## Whole streams -/

/-- A whole stream is an expression if it is read and leaves nothing. -/
lemma readAll_eq_ok_iff : s.readAll = .ok e ↔ ∃ stop, (Level.or.read s).Gives e (ended stop) := by
  rw [readAll.eq_def, Level.read]
  constructor
  · intro h
    split at h
    · cases h
    · rcases hread : readOr s with err | ⟨e', rest, hlt⟩
      · rw [hread] at h
        cases h
      · rw [hread] at h
        cases rest with
        | ended stop =>
            cases h
            exact ⟨stop, hlt, rfl⟩
        | token t stop after => cases h
        | fault err stop => cases h
  · rintro ⟨stop, hlt, hread⟩
    split
    · exact absurd hlt (Nat.not_lt_zero _)
    · rw [hread]

/-- Only a stream without tokens is empty. -/
lemma readAll_eq_empty_iff : s.readAll = .error .empty ↔ ∃ stop, s = ended stop := by
  rw [readAll.eq_def]
  split
  · next stop => exact ⟨fun _ => ⟨stop, rfl⟩, fun _ => rfl⟩
  · next hended =>
    have hsound := sound .or s
    rw [Sound, Level.read] at hsound
    constructor
    · intro h
      rcases hread : readOr s with err | ⟨e, rest, hlt⟩
      · rw [hread] at h hsound
        cases h
        exact absurd rfl hsound
      · rw [hread] at h
        cases rest with
        | ended stop => cases h
        | token t stop after => cases h
        | fault err stop => cases h
    · rintro ⟨stop, rfl⟩
      exact absurd rfl (hended stop)

/-! ## Texts -/

/-- Where no white space is, only nothing is the end. -/
lemma ofStart_eq_ended_iff {start : Nat} {s : Text} :
    (∃ stop, Lexed.ofStart start s = .ended stop) ↔ s = [] := by
  constructor
  · rintro ⟨stop, h⟩
    have hfound := Lexed.found_ofStart start s
    rw [h] at hfound
    cases hfound
    rfl
  · rintro rfl
    exact ⟨start, rfl⟩

/-- A text has no tokens if it is white space. -/
lemma lexes_nil_iff {start : Nat} {s : Text} : Lexes start s [] ↔ Text.allBlank s = true := by
  have hlexes : Lexes start s [] ↔ ∃ stop, Lexed.next start s = .ended stop := by
    constructor
    · rintro (h | h)
      exact ⟨_, h⟩
    · rintro ⟨stop, h⟩
      exact .ended h
  rw [hlexes, Text.allBlank, List.all_eq_true, ← List.dropWhile_eq_nil_iff]
  exact ofStart_eq_ended_iff

/-- A text is parsed as what its tokens stand for. -/
lemma parse_eq_ok_iff {s : Text} {e : Expr} :
    Expr.parse s = .ok e ↔ ∃ ts, Lexes 0 s ts ∧ Derives .or ts e := by
  rw [Expr.parse, readAll_eq_ok_iff]
  constructor
  · rintro ⟨stop, hlt, hread⟩
    have hsound := sound .or (ofText 0 s)
    rw [Sound, hread] at hsound
    obtain ⟨ts, hreads, hderives⟩ := hsound
    exact ⟨ts, lexes_iff.2 ⟨stop, hreads⟩, hderives⟩
  · rintro ⟨ts, hlexes, hderives⟩
    obtain ⟨stop, hreads⟩ := lexes_iff.1 hlexes
    exact ⟨stop, (complete hderives).gives_of_eq_zero hreads rfl⟩

/-- Tokens stand for one expression at most. -/
lemma derives_unique {e' : Expr} (h : Derives .or ts e) (h' : Derives .or ts e') : e = e' := by
  obtain ⟨_, hread⟩ := (complete h).gives_of_eq_zero (reads_ofTokens ts) rfl
  obtain ⟨_, hread'⟩ := (complete h').gives_of_eq_zero (reads_ofTokens ts) rfl
  rw [hread] at hread'
  cases hread'
  rfl

/-- **Texts are parsed by their grammar.** A text is parsed as an expression exactly if it is
divided into tokens up to its end and these stand for the expression; it is refused as empty exactly
if it has no tokens, which is if it is white space. No tokens stand for more than one expression. -/
theorem parse_iff_derives :
    (∀ (s : Text) (e : Expr), Expr.parse s = .ok e ↔
      ∃ ts, Lexes 0 s ts ∧ Derives .or ts e) ∧
    (∀ s : Text, Expr.parse s = .error .empty ↔ Lexes 0 s []) ∧
    (∀ s : Text, Lexes 0 s [] ↔ Text.allBlank s = true) ∧
    ∀ ts : List Token, (∃ e, Derives .or ts e) ↔ ∃! e, Derives .or ts e := by
  refine ⟨fun s e => parse_eq_ok_iff, fun s => ?_, fun s => lexes_nil_iff, fun ts => ?_⟩
  · rw [Expr.parse, readAll_eq_empty_iff, lexes_iff]
    exact exists_congr fun stop => reads_nil.symm
  · constructor
    · rintro ⟨e, hderives⟩
      exact ⟨e, hderives, fun e' hderives' => derives_unique hderives' hderives⟩
    · exact ExistsUnique.exists

end Grammar

end DynamicSql
