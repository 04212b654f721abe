import DynamicSql.Proofs.Expr.Levels

/-!
# Only phrases are read

What a reader takes is a phrase of its level that stands for the expression it gives. The readers
call each other on what is left of a stream, so the induction is on the size of the stream: what
holds of all smaller streams holds of the tightest level, and from there of one level after the
other (`sound`).
-/

namespace DynamicSql.Grammar

open TokenStream Level

/-! ## What readers meet -/

section meets

variable {α β : Type} {p q : TokenStream → Prop} {r : Except ParseError (α × Subtype p)}
  {P : α → TokenStream → Prop} {Q : β → TokenStream → Prop}

/-- Whether a reader gives something as described, or else an error that is not about an empty
text. -/
def Meets (r : Except ParseError (α × Subtype p)) (P : α → TokenStream → Prop) : Prop :=
  match r with
  | .ok (a, rest) => P a rest
  | .error err => err ≠ .empty

/-- A reader meets less than it meets. -/
lemma Meets.imp {P' : α → TokenStream → Prop} (hr : Meets r P)
    (h : ∀ a rest, P a rest → P' a rest) : Meets r P' := by
  rcases r with err | ⟨a, rest, hrest⟩
  · exact hr
  · exact h a rest hr

/-- One reader after the other meets what the second does where the first has left off. -/
lemma Meets.bind {k : α × Subtype p → Except ParseError (β × Subtype q)} (hr : Meets r P)
    (hk : ∀ a rest h, P a rest → Meets (k (a, ⟨rest, h⟩)) Q) : Meets (r.bind k) Q := by
  rcases r with err | ⟨a, rest, h⟩
  · exact hr
  · exact hk a rest h hr

variable {s t : TokenStream}

/-- Going on with a smaller rest meets the same there. -/
lemma Meets.narrow {r : Extending α t} (hr : Meets r P) (h : t.size < s.size) :
    Meets (r.narrow h) P := by
  rcases r with err | ⟨a, rest, hrest⟩
  · exact hr
  · exact hr

/-- Going on with a rest meets the same there. -/
lemma Meets.widen {r : Extending α t} (hr : Meets r P) (h : t.size ≤ s.size) :
    Meets (r.widen h) P := by
  rcases r with err | ⟨a, rest, hrest⟩
  · exact hr
  · exact hr

/-- A reading of a rest meets the same there. -/
lemma Meets.widened {r : Reading α t} (hr : Meets r P) (h : t.size ≤ s.size) :
    Meets (Reading.widen h r) P := by
  rcases r with err | ⟨a, rest, hrest⟩
  · exact hr
  · exact hr

end meets

variable {level : Level} {s : TokenStream} {left : Expr} {n : Nat}

/-- A token that is not as expected is no empty text. -/
lemma unexpected_ne_empty (s : TokenStream) (expected : String) :
    s.unexpected expected ≠ .empty := by
  cases s <;> nofun

/-- An expected token is the first of the stream. -/
lemma expect_cases (kind : Token → Bool) (expected : String) (s : TokenStream) :
    (∃ t stop after h, s = token t stop after ∧ kind t = true ∧
      s.expect kind expected = .ok ⟨after, h⟩) ∨
      s.expect kind expected = .error (s.unexpected expected) := by
  cases s with
  | token t stop after =>
      by_cases h : kind t = true
      · exact .inl ⟨t, stop, after, Nat.lt_succ_self _, rfl, h, by rw [expect, if_pos h]⟩
      · exact .inr (by rw [expect, if_neg h])
  | ended stop => exact .inr rfl
  | fault e stop => exact .inr rfl

/-! ## Phrases -/

/-- Whether the reader of a level takes only phrases of the level. -/
def Sound (level : Level) (s : TokenStream) : Prop :=
  Meets (level.read s) fun e rest => ∃ ts, s.Reads ts rest ∧ Derives level ts e

/-- Whether what a level goes on with makes phrases of the level from those of another. -/
def Extends (level other : Level) (left : Expr) (s : TokenStream) : Prop :=
  Meets (level.goOn left s) fun e rest =>
    ∃ us, s.Reads us rest ∧ ∀ ts, Derives other ts left → Derives level (ts ++ us) e

/-- A level that goes on with nothing has the phrases of the other. -/
lemma extends_of_eq {other : Level} (h : level.goOn left s = .ok (left, ⟨s, size_le_size s⟩))
    (hpass : ∀ ts, Derives other ts left → Derives level ts left) : Extends level other left s := by
  rw [Extends, h]
  refine ⟨[], reads_nil.2 rfl, fun ts hts => ?_⟩
  rw [List.append_nil]
  exact hpass ts hts

/-- What makes phrases of a level from its own makes them from those of the next tighter one. -/
lemma Extends.pass {rest : TokenStream} (h : Extends level level left rest)
    (hlevel : level ≠ .primary) : Extends level level.tighter left rest := by
  refine Meets.imp h fun e rest' h => ?_
  obtain ⟨us, hus, hphrase⟩ := h
  exact ⟨us, hus, fun ts hts => hphrase ts (.pass hlevel hts)⟩

/-- What makes phrases behind some tokens of a stream makes them from its start. -/
lemma Extends.behind {other : Level} {next : Expr} {behind : TokenStream} {us : List Token}
    (h : Extends level other next behind) (hus : s.Reads us behind)
    (hnext : ∀ ts, Derives other ts left → Derives other (ts ++ us) next) :
    Meets (level.goOn next behind) fun e rest =>
      ∃ vs, s.Reads vs rest ∧ ∀ ts, Derives other ts left → Derives level (ts ++ vs) e := by
  refine Meets.imp h fun e rest h => ?_
  obtain ⟨vs, hvs, hphrase⟩ := h
  refine ⟨us ++ vs, reads_append.2 ⟨behind, hus, hvs⟩, fun ts hleft => ?_⟩
  rw [← List.append_assoc]
  exact hphrase _ (hnext ts hleft)

/-- A level is sound if the next tighter one is, and what it goes on with makes phrases. -/
lemma sound_of_tighter (hunary : level ≠ .unary) (hprimary : level ≠ .primary)
    (htighter : Sound level.tighter s)
    (hextends : ∀ left rest, rest.size < s.size → Extends level level.tighter left rest) :
    Sound level s := by
  rw [Sound, read_eq hunary hprimary]
  refine htighter.bind fun left rest hlt h => Meets.narrow ?_ hlt
  obtain ⟨ts, hts, hleft⟩ := h
  refine (hextends left rest hlt).imp fun e rest' h => ?_
  obtain ⟨us, hus, hphrase⟩ := h
  exact ⟨ts ++ us, reads_append.2 ⟨rest, hts, hus⟩, hphrase ts hleft⟩

/-- Repeated operators make phrases of their level. -/
theorem extends_join (hcompare : level ≠ .compare) (haccess : level ≠ .access)
    (hsmaller : ∀ s, s.size < n → Sound level.tighter s) (left : Expr) (s : TokenStream)
    (hs : s.size ≤ n) : Extends level level left s := by
  induction hsize : s.size using Nat.strongRecOn generalizing s left with
  | ind m ih =>
  subst hsize
  cases s with
  | token t stop after =>
      rcases hop : level.operator? t with _ | op
      · refine extends_of_eq (goOn_of_operator?_eq_none haccess ?_) fun ts hts => hts
        intro t' stop' after' heq
        obtain ⟨rfl, -, -⟩ := TokenStream.token.inj heq
        exact hop
      · have hafter : after.size < (TokenStream.token t stop after).size := Nat.lt_succ_self _
        rw [Extends, goOn_join hcompare hop]
        refine (hsmaller after (Nat.lt_of_lt_of_le hafter hs)).bind
          fun right rest hrest h => Meets.widen ?_ _
        obtain ⟨us, hus, hright⟩ := h
        have hagain : Extends level level (.binary op left right) rest :=
          ih rest.size (Nat.lt_trans hrest hafter) (.binary op left right) rest (by omega) rfl
        exact hagain.behind (token_reads_cons.2 hus) fun ts hleft => .join hcompare hop hleft hright
  | ended stop =>
      exact extends_of_eq (goOn_of_operator?_eq_none haccess nofun) fun ts hts => hts
  | fault e stop =>
      exact extends_of_eq (goOn_of_operator?_eq_none haccess nofun) fun ts hts => hts

/-- A level whose operators are repeated is sound if the next tighter one is. -/
lemma sound_join (hcompare : level ≠ .compare) (haccess : level ≠ .access) (hunary : level ≠ .unary)
    (hprimary : level ≠ .primary) (htighter : Sound level.tighter s)
    (hsmaller : ∀ s', s'.size < s.size → Sound level.tighter s') : Sound level s := by
  refine sound_of_tighter hunary hprimary htighter fun left rest h => ?_
  exact (extends_join hcompare haccess hsmaller left rest (Nat.le_of_lt h)).pass hprimary

/-- A comparison of sums is a phrase. -/
theorem extends_compare (hsmaller : ∀ s, s.size < n → Sound .sum s) (left : Expr)
    (s : TokenStream) (hs : s.size ≤ n) : Extends .compare .sum left s := by
  have hpass (ts : List Token) (h : Derives .sum ts left) : Derives .compare ts left :=
    .pass nofun h
  cases s with
  | token t stop after =>
      rcases hop : Level.compare.operator? t with _ | op
      · refine extends_of_eq (goOn_of_operator?_eq_none nofun ?_) hpass
        intro t' stop' after' heq
        obtain ⟨rfl, -, -⟩ := TokenStream.token.inj heq
        exact hop
      · rw [Extends, goOn_compare hop]
        refine (hsmaller after (Nat.lt_of_lt_of_le (Nat.lt_succ_self _) hs)).bind
          fun right rest hrest h => ?_
        obtain ⟨us, hus, hright⟩ := h
        exact ⟨t :: us, token_reads_cons.2 hus, fun ts hleft => .compare hop hleft hright⟩
  | ended stop => exact extends_of_eq (goOn_of_operator?_eq_none nofun nofun) hpass
  | fault e stop => exact extends_of_eq (goOn_of_operator?_eq_none nofun nofun) hpass

/-! ## Brackets -/

/-- What comes behind an expected token meets what it does there. -/
lemma Meets.expect {β : Type} {q : TokenStream → Prop} {Q : β → TokenStream → Prop}
    {kind : Token → Bool} {expected : String}
    {k : { rest : TokenStream // rest.size < s.size } → Except ParseError (β × Subtype q)}
    (hk : ∀ t stop after h, s = token t stop after → kind t = true → Meets (k ⟨after, h⟩) Q) :
    Meets ((s.expect kind expected).bind k) Q := by
  rcases expect_cases kind expected s with ⟨t, stop, after, h, hs, ht, heq⟩ | heq
  · rw [heq]
    exact hk t stop after h hs ht
  · rw [heq]
    exact unexpected_ne_empty s expected

/-- Only a closing bracket is one. -/
lemma eq_rightBracket {t : Token} (h : isRightBracket t = true) : t = .rightBracket := by
  cases t <;> first | rfl | cases h

/-- Only a closing parenthesis is one. -/
lemma eq_rightParen {t : Token} (h : isRightParen t = true) : t = .rightParen := by
  cases t <;> first | rfl | cases h

/-- Whether the reader of arguments takes only arguments and the parenthesis behind them. -/
def SoundArguments (s : TokenStream) : Prop :=
  Meets (readArguments s) fun es rest =>
    ∃ ts, s.Reads (ts ++ [.rightParen]) rest ∧ Arguments ts es

/-- Only arguments are read up to the parenthesis behind them. -/
theorem sound_arguments (hor : ∀ s, s.size < n → Sound .or s) (s : TokenStream) (hs : s.size < n) :
    SoundArguments s := by
  induction hsize : s.size using Nat.strongRecOn generalizing s with
  | ind m ih =>
  subst hsize
  by_cases hparen : ∃ stop after, s = token .rightParen stop after
  · obtain ⟨stop, after, rfl⟩ := hparen
    rw [SoundArguments, readArguments_rightParen]
    exact ⟨[], token_reads_cons.2 (reads_nil.2 rfl), .none⟩
  · rw [SoundArguments, readArguments_otherwise fun stop after h => hparen ⟨stop, after, h⟩]
    refine (hor s hs).bind fun argument rest hrest h => ?_
    obtain ⟨ts, hts, hargument⟩ := h
    have hcontinue : Meets (continueArguments rest) fun es rest' =>
        ∃ us, rest.Reads us rest' ∧ ∃ vs, ts ++ us = vs ++ [.rightParen] ∧
          Arguments vs (argument :: es) := by
      rw [continueArguments.eq_def]
      split
      · exact ⟨[.rightParen], token_reads_cons.2 (reads_nil.2 rfl), ts, rfl, .last hargument⟩
      · next stop after =>
        have hlt : after.size < s.size := Nat.lt_trans (Nat.lt_succ_self _) hrest
        refine ((ih after.size hlt after (Nat.lt_trans hlt hs) rfl).widened _).imp
          fun es rest' h => ?_
        obtain ⟨us, hus, harguments⟩ := h
        exact ⟨.comma :: (us ++ [.rightParen]), token_reads_cons.2 hus, ts ++ .comma :: us,
          by simp, .more hargument harguments⟩
      · exact unexpected_ne_empty _ _
    refine hcontinue.bind fun es rest' hrest' h => ?_
    obtain ⟨us, hus, vs, heq, harguments⟩ := h
    exact ⟨vs, heq ▸ reads_append.2 ⟨rest, hts, hus⟩, harguments⟩

/-- Accesses make phrases of their level. -/
theorem extends_access (hor : ∀ s, s.size < n → Sound .or s) (object : Expr) (s : TokenStream)
    (hs : s.size ≤ n) : Extends .access .access object s := by
  induction hsize : s.size using Nat.strongRecOn generalizing s object with
  | ind m ih =>
  subst hsize
  by_cases hindex : ∃ stop after, s = token .leftBracket stop after
  · obtain ⟨stop, after, rfl⟩ := hindex
    have hafter : after.size < (token .leftBracket stop after).size := Nat.lt_succ_self _
    rw [Extends, goOn_index]
    refine (hor after (Nat.lt_of_lt_of_le hafter hs)).bind fun position rest hrest h =>
      Meets.expect fun t q behind hbehind hstream ht => Meets.widen ?_ _
    obtain ⟨us, hus, hposition⟩ := h
    obtain rfl := eq_rightBracket ht
    subst hstream
    have hlt : behind.size < (token .leftBracket stop after).size :=
      Nat.lt_trans (Nat.lt_trans hbehind hrest) hafter
    have hagain : Extends .access .access (.index object position) behind :=
      ih behind.size hlt (.index object position) behind (by omega) rfl
    have hreads : after.Reads (us ++ [.rightBracket]) behind :=
      reads_append.2 ⟨_, hus, token_reads_cons.2 (reads_nil.2 rfl)⟩
    exact hagain.behind (token_reads_cons.2 hreads) fun ts hobject => .index hobject hposition
  by_cases hdot : ∃ stop after, s = token .dot stop after
  · obtain ⟨stop, after, rfl⟩ := hdot
    by_cases hname : ∃ name p behind, after = token (.name name) p behind
    · obtain ⟨name, p, behind, rfl⟩ := hname
      by_cases hcall : ∃ q arguments, behind = token .leftParen q arguments
      · obtain ⟨q, arguments, rfl⟩ := hcall
        simp only [size] at hs ih
        rw [Extends, goOn_call]
        refine (sound_arguments hor arguments (by omega)).bind
          fun es rest hrest h => Meets.widen ?_ _
        obtain ⟨us, hus, harguments⟩ := h
        have hagain : Extends .access .access (.call object name es) rest :=
          ih rest.size (by omega) (.call object name es) rest (by omega) rfl
        refine hagain.behind ?_ fun ts hobject => .call hobject harguments
        exact token_reads_cons.2 (token_reads_cons.2 (token_reads_cons.2 hus))
      · simp only [size] at hs ih
        rw [Extends, goOn_field fun q arguments h => hcall ⟨q, arguments, h⟩]
        have hagain : Extends .access .access (.field object name) behind :=
          ih behind.size (by omega) (.field object name) behind (by omega) rfl
        have hreads : (token .dot stop (token (.name name) p behind)).Reads
            [.dot, .name name] behind :=
          token_reads_cons.2 (token_reads_cons.2 (reads_nil.2 rfl))
        exact (hagain.behind hreads fun ts hobject => .field hobject).widen _
    · rw [Extends, goOn_dot fun name p behind h => hname ⟨name, p, behind, h⟩]
      exact unexpected_ne_empty _ _
  · refine extends_of_eq (goOn_access_otherwise ?_) fun ts hts => hts
    intro t stop after hstream
    constructor
    · rintro rfl
      exact hindex ⟨stop, after, hstream⟩
    · rintro rfl
      exact hdot ⟨stop, after, hstream⟩

/-- A single operand is a phrase. -/
theorem sound_primary (hor : ∀ s, s.size < n → Sound .or s) (s : TokenStream) (hs : s.size ≤ n) :
    Sound .primary s := by
  by_cases hatom : ∃ t stop after e, s = token t stop after ∧ atom? t = some e
  · obtain ⟨t, stop, after, e, rfl, hatom⟩ := hatom
    rw [Sound, read_atom hatom]
    exact ⟨[t], token_reads_cons.2 (reads_nil.2 rfl), .atom hatom⟩
  by_cases hparen : ∃ stop after, s = token .leftParen stop after
  · obtain ⟨stop, after, rfl⟩ := hparen
    have hafter : after.size < (token .leftParen stop after).size := Nat.lt_succ_self _
    rw [Sound, read_parens]
    refine (hor after (Nat.lt_of_lt_of_le hafter hs)).bind fun e rest hrest h =>
      Meets.expect fun t q behind hbehind hstream ht => ?_
    obtain ⟨ts, hts, hinner⟩ := h
    obtain rfl := eq_rightParen ht
    subst hstream
    have hreads : after.Reads (ts ++ [.rightParen]) behind :=
      reads_append.2 ⟨_, hts, token_reads_cons.2 (reads_nil.2 rfl)⟩
    exact ⟨.leftParen :: (ts ++ [.rightParen]), token_reads_cons.2 hreads, .parens hinner⟩
  · rw [Sound, read_primary_otherwise]
    · exact unexpected_ne_empty _ _
    · intro t stop after hstream
      constructor
      · rcases h : atom? t with _ | e
        · rfl
        · exact absurd ⟨t, stop, after, e, hstream, h⟩ hatom
      · rintro rfl
        exact hparen ⟨stop, after, hstream⟩

/-- An operand with operators before it is a phrase. -/
theorem sound_unary (hunary : ∀ s, s.size < n → Sound .unary s) (s : TokenStream) (hs : s.size ≤ n)
    (haccess : Sound .access s) : Sound .unary s := by
  by_cases hsign : ∃ t stop after op, s = token t stop after ∧ sign? t = some op
  · obtain ⟨t, stop, after, op, rfl, hop⟩ := hsign
    rw [Sound, read_sign hop]
    refine (hunary after (Nat.lt_of_lt_of_le (Nat.lt_succ_self _) hs)).bind fun e rest hrest h => ?_
    obtain ⟨ts, hts, hoperand⟩ := h
    exact ⟨t :: ts, token_reads_cons.2 hts, .unary hop hoperand⟩
  · rw [Sound, read_access_of_sign?_eq_none]
    · refine haccess.imp fun e rest h => ?_
      obtain ⟨ts, hts, hphrase⟩ := h
      exact ⟨ts, hts, .pass nofun hphrase⟩
    · intro t stop after hstream
      rcases h : sign? t with _ | op
      · rfl
      · exact absurd ⟨t, stop, after, op, hstream, h⟩ hsign

/-- **Only phrases are read.** Whatever the reader of a level takes from a stream is a phrase of the
level that stands for the expression it gives; and no reader fails as on an empty text. -/
theorem sound (level : Level) (s : TokenStream) : Sound level s := by
  induction hsize : s.size using Nat.strongRecOn generalizing s level with
  | ind m ih =>
  subst hsize
  have hsmaller (level : Level) (s' : TokenStream) (h : s'.size < s.size) : Sound level s' :=
    ih s'.size h level s' rfl
  have hprimary : Sound .primary s := sound_primary (hsmaller .or) s (Nat.le_refl _)
  have haccess : Sound .access s := sound_of_tighter nofun nofun hprimary fun left rest h =>
    (extends_access (hsmaller .or) left rest (Nat.le_of_lt h)).pass nofun
  have hunary : Sound .unary s := sound_unary (hsmaller .unary) s (Nat.le_refl _) haccess
  have hproduct : Sound .product s :=
    sound_join nofun nofun nofun nofun hunary (hsmaller .unary)
  have hsum : Sound .sum s :=
    sound_join nofun nofun nofun nofun hproduct (hsmaller .product)
  have hcompare : Sound .compare s := sound_of_tighter nofun nofun hsum fun left rest h =>
    extends_compare (hsmaller .sum) left rest (Nat.le_of_lt h)
  have hand : Sound .and s :=
    sound_join nofun nofun nofun nofun hcompare (hsmaller .compare)
  have hor : Sound .or s :=
    sound_join nofun nofun nofun nofun hand (hsmaller .and)
  cases level with
  | or => exact hor
  | and => exact hand
  | compare => exact hcompare
  | sum => exact hsum
  | product => exact hproduct
  | unary => exact hunary
  | access => exact haccess
  | primary => exact hprimary

end DynamicSql.Grammar
