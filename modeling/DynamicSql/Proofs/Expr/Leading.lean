import DynamicSql.Proofs.Expr.Path

/-!
# The name that leads an expression

An expression whose text begins with a name has that name at the end of its left spine, and with
another name in front of the same text it is the same expression with the other name there
(`parse_withLeading`). As evaluation looks at names only by their values, both have one value if the
two names have, and all further names are the same (`Bindings.eval_withLeading`).
-/

namespace DynamicSql

namespace Expr

/-! ## Names -/

mutual

/-- The names in an expression, from left to right. -/
def names : Expr → List Text
  | .ref name => [name]
  | .field object _ => object.names
  | .index object position => object.names ++ position.names
  | .unary _ operand => operand.names
  | .binary _ left right => left.names ++ right.names
  | .call object _ arguments => object.names ++ allNames arguments
  | .float _ | .integer _ | .string _ | .boolean _ | .null => []

/-- The names in several expressions. -/
def allNames : List Expr → List Text
  | [] => []
  | e :: rest => e.names ++ allNames rest

end

/-- The name at the end of the left spine, if a name is there. -/
def leading? : Expr → Option Text
  | .ref name => some name
  | .field object _ => object.leading?
  | .index object _ => object.leading?
  | .binary _ left _ => left.leading?
  | .call object _ _ => object.leading?
  | _ => none

/-- The expression with another name at the end of its left spine. -/
def withLeading (name : Text) : Expr → Expr
  | .ref _ => .ref name
  | .field object step => .field (object.withLeading name) step
  | .index object position => .index (object.withLeading name) position
  | .binary op left right => .binary op (left.withLeading name) right
  | .call object method arguments => .call (object.withLeading name) method arguments
  | e => e

/-- The leading name is the first one. -/
lemma names_of_leading? {name : Text} : (e : Expr) → e.leading? = some name →
    ∃ rest, e.names = name :: rest
  | .ref other, h => by
      obtain rfl := Option.some.inj h
      exact ⟨[], rfl⟩
  | .field object _, h => names_of_leading? object h
  | .index object position, h => by
      obtain ⟨rest, hrest⟩ := names_of_leading? object h
      exact ⟨rest ++ position.names, by rw [names, hrest, List.cons_append]⟩
  | .binary _ left right, h => by
      obtain ⟨rest, hrest⟩ := names_of_leading? left h
      exact ⟨rest ++ right.names, by rw [names, hrest, List.cons_append]⟩
  | .call object _ arguments, h => by
      obtain ⟨rest, hrest⟩ := names_of_leading? object h
      exact ⟨rest ++ allNames arguments, by rw [names, hrest, List.cons_append]⟩

/-- Further names stand behind those of the left spine. -/
lemma tail_names_append (left : Expr) {name : Text} (h : left.leading? = some name)
    (others : List Text) : (left.names ++ others).tail = left.names.tail ++ others := by
  obtain ⟨rest, hrest⟩ := names_of_leading? left h
  rw [hrest]
  rfl

/-! ## Values -/

section values

variable {b b' : Bindings}

/-- What an operator gives is decided by the values of its operands. -/
lemma eval_binary_congr (op : BinaryOperator) {left left' right right' : Expr}
    (hleft : left.eval b = left'.eval b') (hright : right.eval b = right'.eval b') :
    (binary op left right).eval b = (binary op left' right').eval b' := by
  cases op <;> simp only [eval, hleft, hright]

mutual

/-- **The value of an expression** is decided by the values of its names. -/
theorem eval_congr : (e : Expr) → (∀ name ∈ e.names, b.value name = b'.value name) →
    e.eval b = e.eval b'
  | .float _, _ | .integer _, _ | .string _, _ | .boolean _, _ | .null, _ => rfl
  | .ref name, h => by
      rw [eval, eval, h name List.mem_cons_self]
  | .field object _, h => by
      rw [eval, eval, eval_congr object h]
  | .index object position, h => by
      rw [names, List.forall_mem_append] at h
      rw [eval, eval, eval_congr object h.1, eval_congr position h.2]
  | .unary op operand, h => by
      rw [eval, eval, eval_congr operand h]
  | .binary op left right, h => by
      rw [names, List.forall_mem_append] at h
      exact eval_binary_congr op (eval_congr left h.1) (eval_congr right h.2)
  | .call object method arguments, h => by
      rw [names, List.forall_mem_append] at h
      rw [eval, eval, eval_congr object h.1, evalAll_congr arguments h.2]

/-- The values of several expressions are decided by the values of their names. -/
theorem evalAll_congr : (es : List Expr) → (∀ name ∈ allNames es, b.value name = b'.value name) →
    evalAll b es = evalAll b' es
  | [], _ => rfl
  | e :: rest, h => by
      rw [allNames, List.forall_mem_append] at h
      rw [evalAll, evalAll, eval_congr e h.1, evalAll_congr rest h.2]

end

variable {name other : Text} (hv : b.value name = b'.value other)

include hv in
/-- **Another leading name of the same value** gives the same value. -/
theorem eval_withLeading : (e : Expr) → e.leading? = some name →
    (∀ n ∈ e.names.tail, b.value n = b'.value n) → (e.withLeading other).eval b' = e.eval b
  | .ref n, h, _ => by
      obtain rfl := Option.some.inj h
      rw [withLeading, eval, eval, hv]
  | .field object _, h, hothers => by
      rw [withLeading, eval, eval, eval_withLeading object h hothers]
  | .index object position, h, hothers => by
      rw [names, tail_names_append object h, List.forall_mem_append] at hothers
      rw [withLeading, eval, eval, eval_withLeading object h hothers.1,
        eval_congr position hothers.2]
  | .binary op left right, h, hothers => by
      rw [names, tail_names_append left h, List.forall_mem_append] at hothers
      have hleft := eval_withLeading left h hothers.1
      exact eval_binary_congr op hleft (eval_congr right hothers.2).symm
  | .call object method arguments, h, hothers => by
      rw [names, tail_names_append object h, List.forall_mem_append] at hothers
      rw [withLeading, eval, eval, eval_withLeading object h hothers.1,
        evalAll_congr arguments hothers.2]

end values

end Expr

/-! ## Phrases -/

namespace Grammar

variable {level : Level} {ts us : List Token} {e : Expr}

/-- A phrase has tokens. -/
theorem Derives.ne_nil : {level : Level} → {ts : List Token} → {e : Expr} → Derives level ts e →
    ts ≠ []
  | _, _, _, .pass _ h => h.ne_nil
  | _, _, _, .join .. | _, _, _, .compare .. | _, _, _, .index .. | _, _, _, .field ..
  | _, _, _, .call .. => List.append_ne_nil_of_right_ne_nil _ (List.cons_ne_nil _ _)
  | _, _, _, .unary .. | _, _, _, .atom .. | _, _, _, .parens .. => List.cons_ne_nil _ _

/-- A token that a longer list begins with begins the phrase that leads it. -/
lemma Derives.exists_of_append {t : Token} {vs : List Token} (h : Derives level ts e)
    (heq : ts ++ vs = t :: us) : ∃ ts', ts = t :: ts' ∧ us = ts' ++ vs :=
  (List.append_eq_cons_iff.1 heq).resolve_left fun hnil => h.ne_nil hnil.1

/-- **A phrase that begins with a name** is led by it, and may be led by any other name. -/
theorem Derives.withLeading {name : Text} : {level : Level} → {ts us : List Token} → {e : Expr} →
    Derives level ts e → ts = .name name :: us → e.leading? = some name ∧
      ∀ other, Derives level (.name other :: us) (e.withLeading other)
  | _, _, _, _, .pass hlevel h, heq => by
      obtain ⟨hleading, hother⟩ := h.withLeading heq
      exact ⟨hleading, fun other => .pass hlevel (hother other)⟩
  | _, _, _, _, .join hlevel hop hleft hright, heq => by
      obtain ⟨ts, hts, rfl⟩ := hleft.exists_of_append heq
      obtain ⟨hleading, hother⟩ := hleft.withLeading hts
      exact ⟨hleading, fun other => .join hlevel hop (hother other) hright⟩
  | _, _, _, _, .compare hop hleft hright, heq => by
      obtain ⟨ts, hts, rfl⟩ := hleft.exists_of_append heq
      obtain ⟨hleading, hother⟩ := hleft.withLeading hts
      exact ⟨hleading, fun other => .compare hop (hother other) hright⟩
  | _, _, _, _, .unary hop _, heq => by
      -- it would begin with the operator
      obtain ⟨rfl, -⟩ := List.cons.inj heq
      cases hop
  | _, _, _, _, .index h hposition, heq => by
      obtain ⟨ts, hts, rfl⟩ := h.exists_of_append heq
      obtain ⟨hleading, hother⟩ := h.withLeading hts
      exact ⟨hleading, fun other => .index (hother other) hposition⟩
  | _, _, _, _, .field h, heq => by
      obtain ⟨ts, hts, rfl⟩ := h.exists_of_append heq
      obtain ⟨hleading, hother⟩ := h.withLeading hts
      exact ⟨hleading, fun other => .field (hother other)⟩
  | _, _, _, _, .call h harguments, heq => by
      obtain ⟨ts, hts, rfl⟩ := h.exists_of_append heq
      obtain ⟨hleading, hother⟩ := h.withLeading hts
      exact ⟨hleading, fun other => .call (hother other) harguments⟩
  | _, _, _, _, .atom hatom, heq => by
      obtain ⟨rfl, rfl⟩ := List.cons.inj heq
      obtain rfl := Option.some.inj hatom
      exact ⟨rfl, fun other => .atom rfl⟩
  | _, _, _, _, .parens _, heq => by
      cases (List.cons.inj heq).1

end Grammar

/-! ## Tokens -/

namespace Lexed

variable {start stop : Nat} {s rest : Text}

/-- No symbol is a name. -/
lemma symbol?_ne_name {name : Text} : symbol? s ≠ some (.name name, rest) := by
  unfold symbol?
  split <;> nofun

/-- A word that stands for a name is that name, and no keyword. -/
lemma eq_of_wordToken {word name : Text} (h : wordToken word = .name name) :
    word = name ∧ Table.lookup word keywords = none := by
  unfold wordToken at h
  rcases hlookup : Table.lookup word keywords with _ | u
  · rw [hlookup] at h
    exact ⟨Token.name.inj h, rfl⟩
  · rw [hlookup] at h
    obtain rfl : u = .name name := h
    have hkeywords : ∀ e ∈ keywords, e.2 ≠ .name name := by simp [keywords]
    exact absurd rfl (hkeywords _ (Table.mem_of_lookup hlookup))

/-- A name that leads a text is an identifier. -/
lemma isIdentifier_of_leads {name : Text} (h : Leads s (.name name) rest) :
    isIdentifier name = true := by
  generalize ht : Token.name name = t at h
  cases h with
  | symbol h => exact absurd (ht ▸ h) symbol?_ne_name
  | @word c s hc =>
      obtain ⟨hname, hlookup⟩ := eq_of_wordToken ht.symm
      have hc' := Text.continuesName_of_startsName hc
      rw [← hname, isIdentifier, hlookup, List.takeWhile_cons, if_pos hc', Text.isName, hc,
        List.all_takeWhile]
      rfl
  | string | pointed | whole => cases ht

/-- What is read as a name is an identifier. -/
lemma isIdentifier_of_ofStart {name : Text} (h : ofStart start s = .token (.name name) stop rest) :
    isIdentifier name = true :=
  isIdentifier_of_leads (leads_of_ofStart h)

end Lexed

namespace Grammar

variable {start : Nat} {s name : Text} {ts : List Token}

/-- A text is divided into the same tokens at every position. -/
theorem Lexes.moved (h : Lexes start s ts) (start' : Nat) : Lexes start' s ts := by
  induction h generalizing start' with
  | ended h => exact lexes_nil_iff.2 (lexes_nil_iff.1 (.ended h))
  | token h _ ih =>
      obtain ⟨stop', hnext⟩ := Lexed.exists_of_leads (Lexed.leads_of_ofStart h) _
      exact .token hnext (ih stop')

/-- **A text that is a single name** is an identifier. -/
theorem isIdentifier_of_lexes (h : Lexes start s [.name name]) : isIdentifier name = true := by
  cases h with
  | token h _ => exact Lexed.isIdentifier_of_ofStart h

/-- The tokens of a text that begins with an identifier. -/
theorem lexes_append_iff {rest : Text} (hname : isIdentifier name = true)
    (hrest : ∀ c ∈ rest.head?, Text.continuesName c = false) :
    Lexes start (name ++ rest) ts ↔ ∃ us, ts = .name name :: us ∧ Lexes start rest us := by
  have hbegins : Lexed.Begins (name ++ rest) (.name name) rest := by
    rw [← Path.wordToken_of_isIdentifier hname]
    exact Lexed.begins_word (Bool.and_eq_true .. ▸ hname).1 hrest
  constructor
  · intro h
    obtain ⟨stop, hnext⟩ := hbegins start
    cases h with
    | ended h => cases hnext.symm.trans h
    | token h hus =>
        -- where the rest starts depends on the name, what is read from it does not
        obtain ⟨rfl, rfl, rfl⟩ := Lexed.token.inj (hnext.symm.trans h)
        exact ⟨_, rfl, hus.moved start⟩
  · rintro ⟨us, rfl, hus⟩
    exact .of_begins hbegins hus.moved start

end Grammar

/-! ## Texts that begin with a name -/

section text

variable {name other rest : Text} (hname : isIdentifier name = true)
  (hother : isIdentifier other = true) (hrest : ∀ c ∈ rest.head?, Text.continuesName c = false)

include hname hother hrest

open Grammar in
/-- **Another name in front of the same text** is another leading name. -/
theorem Expr.parse_withLeading {e : Expr} (h : Expr.parse (name ++ rest) = .ok e) :
    e.leading? = some name ∧ Expr.parse (other ++ rest) = .ok (e.withLeading other) := by
  obtain ⟨ts, hts, hderives⟩ := parse_eq_ok_iff.1 h
  obtain ⟨us, rfl, hus⟩ := (lexes_append_iff hname hrest).1 hts
  obtain ⟨hleading, hderives⟩ := hderives.withLeading rfl
  exact ⟨hleading, parse_eq_ok_iff.2
    ⟨_, (lexes_append_iff hother hrest).2 ⟨us, rfl, hus⟩, hderives other⟩⟩

/-- **Another name of the same value** in front of the same text gives the same value. -/
theorem Bindings.eval_withLeading {b b' : Bindings} (hv : b.value name = b'.value other)
    (hothers : ∀ e, Expr.parse (name ++ rest) = .ok e →
      ∀ n ∈ e.names.tail, b.value n = b'.value n) (w : Value) :
    b.eval (name ++ rest) = .ok w ↔ b'.eval (other ++ rest) = .ok w := by
  unfold Bindings.eval
  rcases h : Expr.parse (name ++ rest) with cause | e
  · rcases h' : Expr.parse (other ++ rest) with cause' | e'
    · simp only [reduceCtorEq]
    · have hback := (Expr.parse_withLeading hother hname hrest h').2
      rw [h] at hback
      cases hback
  · obtain ⟨hleading, h'⟩ := Expr.parse_withLeading hname hother hrest h
    rw [h']
    simp only [Expr.eval_withLeading hv e hleading (hothers e h)]

end text

end DynamicSql
