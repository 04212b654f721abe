import DynamicSql.Proofs.Expr.Leading
import DynamicSql.Proofs.Expr.Parens
import DynamicSql.Proofs.Expr.Spelling
import DynamicSql.Proofs.Placeholder.Grammar

/-!
# Expressions as properties

An expression in parentheses is read as the property of a placeholder up to the parenthesis that
matches, where every parenthesis counts, those in strings too. The parentheses that are tokens match
in every expression, so an expression is read as a whole if those in its strings match as well
(`closes_of_lexes`), and exactly if its parentheses match as they are written (`parse_enclosed`).
-/

namespace DynamicSql

namespace Placeholder

open Grammar

/-! ## Texts whose parentheses match -/

variable {depth : Nat} {s t : Text}

lemma count_parens_open (s : Text) : (Text.parens s).count '(' = s.count '(' :=
  List.count_filter rfl

lemma count_parens_close (s : Text) : (Text.parens s).count ')' = s.count ')' :=
  List.count_filter rfl

/-- Parentheses match by themselves, whatever stands between them. -/
lemma closes_parens_iff : Closes depth (Text.parens s) ↔ Closes depth s := by
  constructor
  · rintro ⟨hclosed, hnested⟩
    rw [count_parens_open, count_parens_close] at hclosed
    refine ⟨hclosed, fun u hu => ?_⟩
    have hprefix := hnested (Text.parens u) (hu.filter _)
    rwa [count_parens_open, count_parens_close] at hprefix
  · rintro ⟨hclosed, hnested⟩
    rw [← count_parens_open, ← count_parens_close] at hclosed
    refine ⟨hclosed, fun u hu => ?_⟩
    obtain ⟨v, hv⟩ := hu
    obtain ⟨u', v', rfl, rfl, -⟩ := List.filter_eq_append_iff.1 hv.symm
    have hprefix := hnested u' (List.prefix_append u' v')
    rwa [← count_parens_open, ← count_parens_close] at hprefix

/-- What closes all of its own parentheses may stand before what closes others. -/
lemma Closes.append (hs : Closes 0 s) (ht : Closes depth t) : Closes depth (s ++ t) := by
  have hclosed := hs.closed
  constructor
  · have := ht.closed
    rw [List.count_append, List.count_append]
    omega
  · rintro u ⟨v, huv⟩
    rcases List.append_eq_append_iff.1 huv with ⟨s', rfl, -⟩ | ⟨u', rfl, rfl⟩
    · have := hs.nested u (List.prefix_append u s')
      omega
    · have := ht.nested u' (List.prefix_append u' v)
      rw [List.count_append, List.count_append]
      omega

/-- Parentheses around what closes all of its own match. -/
lemma Closes.enclose (h : Closes 0 s) : Closes 0 ('(' :: (s ++ [')'])) := by
  have hempty : Closes 0 [] := closes_nil_iff.2 rfl
  have hone : Closes 1 [')'] := (closes_cons_iff rfl).2 hempty
  exact (closes_cons_iff rfl).2 (h.append hone)

/-! ## Expressions -/

/-- The parentheses in the strings of some tokens match, string by string. -/
def StringsClose (ts : List Token) : Prop := ∀ s, Token.string s ∈ ts → Closes 0 s

section tokens

variable {ts us : List Token} {t : Token}

lemma stringsClose_append_iff :
    StringsClose (ts ++ us) ↔ StringsClose ts ∧ StringsClose us := by
  simp only [StringsClose, List.mem_append, or_imp, forall_and]

lemma StringsClose.tail (h : StringsClose (t :: ts)) : StringsClose ts :=
  fun s hs => h s (List.mem_cons_of_mem t hs)

/-- Tokens in a row. -/
lemma closes_tokens_append (hts : Closes 0 (ts.flatMap Token.parens))
    (hus : Closes 0 (us.flatMap Token.parens)) : Closes 0 ((ts ++ us).flatMap Token.parens) := by
  rw [List.flatMap_append]
  exact hts.append hus

/-- A token that holds no parentheses before others. -/
lemma closes_tokens_cons (ht : t.parens = []) (hts : Closes 0 (ts.flatMap Token.parens)) :
    Closes 0 ((t :: ts).flatMap Token.parens) := by
  rwa [List.flatMap_cons, ht, List.nil_append]

/-- Tokens between parentheses. -/
lemma closes_tokens_enclose (hts : Closes 0 (ts.flatMap Token.parens)) :
    Closes 0 ((Token.leftParen :: (ts ++ [.rightParen])).flatMap Token.parens) := by
  rw [List.flatMap_cons, List.flatMap_append]
  exact hts.enclose

/-- Operators between operands are no parentheses. -/
lemma parens_of_operator? {level : Level} {op : BinaryOperator} (h : level.operator? t = some op) :
    t.parens = [] := by
  unfold Level.operator? at h
  split at h
  case h_14 => cases h
  all_goals rfl

/-- Operators before operands are no parentheses. -/
lemma parens_of_sign? {op : UnaryOperator} (h : sign? t = some op) : t.parens = [] := by
  unfold sign? at h
  split at h
  case h_3 => cases h
  all_goals rfl

/-- The parentheses of a literal or a name are those of a string. -/
lemma closes_of_atom? {e : Expr} (h : atom? t = some e) (hstrings : StringsClose [t]) :
    Closes 0 t.parens := by
  cases t with
  | string s => exact closes_parens_iff.2 (hstrings s List.mem_cons_self)
  | leftParen | rightParen => cases h
  | _ => exact closes_nil_iff.2 rfl

end tokens

mutual

/-- **The parentheses of a phrase match** if those in its strings do. -/
theorem closes_of_derives : {level : Level} → {ts : List Token} → {e : Expr} →
    Derives level ts e → StringsClose ts → Closes 0 (ts.flatMap Token.parens)
  | _, _, _, .pass _ h, hstrings => closes_of_derives h hstrings
  | _, _, _, .join _ hop hleft hright, hstrings => by
      obtain ⟨hts, hus⟩ := stringsClose_append_iff.1 hstrings
      exact closes_tokens_append (closes_of_derives hleft hts)
        (closes_tokens_cons (parens_of_operator? hop) (closes_of_derives hright hus.tail))
  | _, _, _, .compare hop hleft hright, hstrings => by
      obtain ⟨hts, hus⟩ := stringsClose_append_iff.1 hstrings
      exact closes_tokens_append (closes_of_derives hleft hts)
        (closes_tokens_cons (parens_of_operator? hop) (closes_of_derives hright hus.tail))
  | _, _, _, .unary hop h, hstrings =>
      closes_tokens_cons (parens_of_sign? hop) (closes_of_derives h hstrings.tail)
  | _, _, _, .index h hposition, hstrings => by
      obtain ⟨hts, hus⟩ := stringsClose_append_iff.1 hstrings
      obtain ⟨hus, -⟩ := stringsClose_append_iff.1 hus.tail
      have hbracket : Closes 0 ([Token.rightBracket].flatMap Token.parens) := closes_nil_iff.2 rfl
      exact closes_tokens_append (closes_of_derives h hts)
        (closes_tokens_cons rfl (closes_tokens_append (closes_of_derives hposition hus) hbracket))
  | _, _, _, .field h, hstrings => by
      obtain ⟨hts, -⟩ := stringsClose_append_iff.1 hstrings
      exact closes_tokens_append (closes_of_derives h hts) (closes_nil_iff.2 rfl)
  | _, _, _, .call h harguments, hstrings => by
      obtain ⟨hts, hus⟩ := stringsClose_append_iff.1 hstrings
      obtain ⟨hus, -⟩ := stringsClose_append_iff.1 hus.tail.tail.tail
      have hcall := closes_tokens_enclose (closes_of_arguments harguments hus)
      exact closes_tokens_append (closes_of_derives h hts)
        (closes_tokens_cons rfl (closes_tokens_cons rfl hcall))
  | _, _, _, .atom hatom, hstrings => by
      rw [List.flatMap_singleton]
      exact closes_of_atom? hatom hstrings
  | _, _, _, .parens h, hstrings => by
      obtain ⟨hts, -⟩ := stringsClose_append_iff.1 hstrings.tail
      exact closes_tokens_enclose (closes_of_derives h hts)

/-- The parentheses of arguments match if those in their strings do. -/
theorem closes_of_arguments : {ts : List Token} → {es : List Expr} →
    Arguments ts es → StringsClose ts → Closes 0 (ts.flatMap Token.parens)
  | _, _, .none, _ => closes_nil_iff.2 rfl
  | _, _, .last h, hstrings => closes_of_derives h hstrings
  | _, _, .more h harguments, hstrings => by
      obtain ⟨hts, hus⟩ := stringsClose_append_iff.1 hstrings
      exact closes_tokens_append (closes_of_derives h hts)
        (closes_tokens_cons rfl (closes_of_arguments harguments hus.tail))

end

/-- A text is divided into tokens in one way. -/
lemma lexes_unique {start : Nat} {ts us : List Token} (h : Lexes start s ts)
    (h' : Lexes start s us) : ts = us := by
  induction h generalizing us with
  | ended h =>
      cases h' with
      | ended => rfl
      | token h' _ => cases h.symm.trans h'
  | token h _ ih =>
      cases h' with
      | ended h' => cases h.symm.trans h'
      | token h' hrest =>
          obtain ⟨rfl, rfl, rfl⟩ := Lexed.token.inj (h.symm.trans h')
          rw [ih hrest]

section expression

variable {e : Text} {tree : Expr}

/-- **The parentheses of an expression match** as they are written if those in its strings do. -/
theorem closes_of_lexes {ts : List Token} (h : Expr.parse e = .ok tree) (hlexes : Lexes 0 e ts)
    (hstrings : StringsClose ts) : Closes 0 e := by
  obtain ⟨us, hus, hderives⟩ := parse_eq_ok_iff.1 h
  obtain rfl := lexes_unique hus hlexes
  rw [← closes_parens_iff, parens_of_lexes hlexes]
  exact closes_of_derives hderives hstrings

/-- An expression is more than white space. -/
lemma trim_ne_nil_of_parse (h : Expr.parse e = .ok tree) : Text.trim e ≠ [] := by
  intro hnil
  obtain ⟨ts, hlexes, hderives⟩ := parse_eq_ok_iff.1 h
  have hblank : Lexes 0 e [] := lexes_nil_iff.2 (Text.allBlank_of_trim_eq_nil hnil)
  exact hderives.ne_nil (lexes_unique hlexes hblank)

end expression

/-! ## Attributes at the end of a content -/

section items

variable {items : List Text} {attributes : List Attribute}

/-- White space behind an attribute does not matter. -/
lemma writes_trimEnd {a : Attribute} {item : Text} (h : a.Writes item) :
    a.Writes (Text.trimEnd item) := by
  obtain ⟨name, value, rfl, hfirst, hname, hstated⟩ := h
  have hequals : Text.trimEnd ('=' :: value) = '=' :: Text.trimEnd value := Text.trimEnd_cons rfl _
  refine ⟨name, Text.trimEnd value, ?_, hfirst, hname, ?_⟩
  · rw [Text.trimEnd_append, hequals, if_neg (List.cons_ne_nil _ _)]
  · rwa [Text.trim_trimEnd]

/-- White space at the end of an item does not make it blank or not blank. -/
lemma allBlank_trimEnd (item : Text) : Text.allBlank (Text.trimEnd item) = Text.allBlank item := by
  rw [Bool.eq_iff_iff]
  constructor
  · intro h
    refine Text.allBlank_of_trim_eq_nil ?_
    rw [← Text.trim_trimEnd, Text.trim, Text.trimStart,
      List.dropWhile_eq_nil_iff.2 (List.all_eq_true.1 h)]
    rfl
  · intro h
    rw [Text.trimEnd_of_all_isBlank h]
    rfl

/-- Items behind commas without the white space at their end are items that write the same. -/
lemma exists_items_trimEnd (hcomma : ∀ item ∈ items, ',' ∉ item)
    (hwrites : List.Forall₂ Attribute.Writes attributes (items.filter (!Text.allBlank ·))) :
    ∃ items' : List Text, Text.trimEnd (items.flatMap (',' :: ·)) = items'.flatMap (',' :: ·) ∧
      (∀ item ∈ items', ',' ∉ item) ∧
        List.Forall₂ Attribute.Writes attributes (items'.filter (!Text.allBlank ·)) := by
  rcases List.eq_nil_or_concat items with rfl | ⟨init, last, rfl⟩
  · exact ⟨[], rfl, hcomma, hwrites⟩
  · rw [List.concat_eq_append] at hcomma hwrites ⊢
    rw [List.forall_mem_append, List.forall_mem_singleton] at hcomma
    have hlast : Text.trimEnd (',' :: last) = ',' :: Text.trimEnd last := Text.trimEnd_cons rfl _
    refine ⟨init ++ [Text.trimEnd last], ?_, ?_, ?_⟩
    · rw [List.flatMap_append, List.flatMap_append, List.flatMap_singleton, List.flatMap_singleton,
        Text.trimEnd_append, hlast, if_neg (List.cons_ne_nil _ _)]
    · rw [List.forall_mem_append, List.forall_mem_singleton]
      exact ⟨hcomma.1, fun hmem => hcomma.2 ((Text.trimEnd_prefix last).subset hmem)⟩
    · rw [List.filter_append, List.filter_singleton] at hwrites ⊢
      have hinit := List.forall₂_take_append _ _ _ hwrites
      have hlast := List.forall₂_drop_append _ _ _ hwrites
      rw [← List.take_append_drop (init.filter (!Text.allBlank ·)).length attributes]
      refine List.rel_append hinit ?_
      rw [allBlank_trimEnd]
      cases hblank : Text.allBlank last with
      | true => rwa [hblank] at hlast
      | false =>
          rw [hblank] at hlast
          obtain ⟨a, rest, hwrites, hrest, heq⟩ := List.forall₂_cons_right_iff.1 hlast
          rw [heq]
          exact .cons (writes_trimEnd hwrites) hrest

end items

/-! ## Contents with an expression in parentheses -/

section content

variable {e list : Text} {p : Placeholder}

/-- Nothing is trimmed off a content that begins with a parenthesis, but at the end of its list. -/
lemma trim_enclosed (e list : Text) :
    Text.trim ('(' :: e ++ ')' :: list) = '(' :: (e ++ ')' :: Text.trimEnd list) := by
  have hopen : Text.trimStart ('(' :: e ++ ')' :: list) = '(' :: (e ++ ')' :: list) :=
    Text.trimStart_cons rfl _
  have hclose : Text.trimEnd (')' :: list) = ')' :: Text.trimEnd list := Text.trimEnd_cons rfl _
  rw [Text.trim, hopen, Text.trimEnd_cons rfl, Text.trimEnd_append, hclose,
    if_neg (List.cons_ne_nil _ _)]

/-- What is read as the property stands between parentheses that match. -/
lemma exists_closes_of_parse (h : parse ('(' :: e ++ ')' :: list) = .ok p) :
    ∃ s, Closes 0 s ∧ p.property = Text.trim s := by
  obtain ⟨property, type, attributes, ⟨head, typePart, items, htrim, hhead, -⟩, rfl⟩ :=
    parse_eq_ok_iff_says.1 h
  rw [trim_enclosed] at htrim
  cases hhead with
  | @plain _ hcomma hcolon hparen hgiven =>
      -- the content begins with a parenthesis
      have hne : head ≠ [] := by
        rintro rfl
        exact hgiven rfl
      obtain ⟨c, head, rfl⟩ := List.exists_cons_of_ne_nil hne
      obtain ⟨rfl, -⟩ := List.cons.inj htrim
      exact absurd rfl hparen
  | enclosed hcloses => exact ⟨_, hcloses, rfl⟩

end content

/-- **Expressions in parentheses as properties.** Let a content be an expression in parentheses and
a list of attributes behind commas, some of which may be missing or blank. If the parentheses of the
expression match as they are written, the content is read, and its property is the expression
without white space at its ends, and its attributes are those of the list. If they do not match,
whatever the content may be read as has another property. They match if in each string of the
expression they match. -/
theorem parse_enclosed {e : Text} {tree : Expr} {items : List Text} {attributes : List Attribute}
    (h : Expr.parse e = .ok tree) (hcomma : ∀ item ∈ items, ',' ∉ item)
    (hwrites : List.Forall₂ Attribute.Writes attributes (items.filter (!Text.allBlank ·))) :
    let content := '(' :: e ++ ')' :: items.flatMap (',' :: ·)
    (Closes 0 e → parse content = .ok (ofParts (Text.trim e) none attributes)) ∧
    (¬Closes 0 e → ∀ p, parse content = .ok p → p.property ≠ Text.trim e) ∧
    ∃ ts, Lexes 0 e ts ∧ (StringsClose ts → Closes 0 e) := by
  intro content
  refine ⟨fun hcloses => ?_, fun hcloses p hparse heq => ?_, ?_⟩
  · obtain ⟨items', htrim, hcomma', hwrites'⟩ := exists_items_trimEnd hcomma hwrites
    refine parse_eq_ok_iff_says.2 ⟨Text.trim e, none, attributes,
      ⟨'(' :: e ++ [')'], [], items', ?_, ?_, .absent, hcomma', hwrites'⟩, rfl⟩
    · rw [trim_enclosed, htrim]
      simp
    · exact .enclosed hcloses (trim_ne_nil_of_parse h) rfl
  · obtain ⟨s, hs, hproperty⟩ := exists_closes_of_parse hparse
    have hparens : Text.parens s = Text.parens e := by
      rw [← Text.parens_trim, ← hproperty, heq, Text.parens_trim]
    rw [← closes_parens_iff, ← hparens, closes_parens_iff] at hcloses
    exact hcloses hs
  · obtain ⟨ts, hlexes, -⟩ := parse_eq_ok_iff.1 h
    exact ⟨ts, hlexes, closes_of_lexes h hlexes⟩

/-- A comparison with a string. -/
lemma parse_comparison {body content : Text} (h : Token.Quotes '\'' body content) :
    let e := "x == ".toList ++ ('\'' :: body ++ ['\''])
    Lexes 0 e [.name "x".toList, .equal, .string content] ∧
      Expr.parse e = .ok (.binary .equal (.ref "x".toList) (.string content)) := by
  intro e
  have hfree : ∀ t : Token, t.inLetters? ≠ some "x".toList := by
    intro t h
    have hword := (Lexed.wordToken_of_inLetters? h).2
    cases (hword ▸ h : (wordToken "x".toList).inLetters? = some "x".toList)
  let spellings : List Spelling := [
    ⟨.name "x".toList, "x".toList, " ".toList, .name (by decide) hfree, by decide⟩,
    ⟨.equal, "==".toList, " ".toList, .symbols rfl, by decide⟩,
    ⟨.string content, '\'' :: body ++ ['\''], [], .string (.inr rfl) h, rfl⟩]
  have happart : Spelling.Apart spellings := by
    simp [Spelling.Apart, spellings]
  have htext : [] ++ spellings.flatMap Spelling.text = e := by
    simp [spellings, Spelling.text, e]
  have hlexes : Lexes 0 ([] ++ spellings.flatMap Spelling.text) _ := happart.lexes_flatMap rfl 0
  rw [htext] at hlexes
  have hatom {t : Token} {e : Expr} (h : atom? t = some e) : Derives .sum [t] e :=
    .pass (by decide) (.pass (by decide) (.pass (by decide) (.pass (by decide) (.atom h))))
  have hderives : Derives .compare ([.name "x".toList] ++ .equal :: [.string content]) _ :=
    .compare rfl (hatom rfl) (hatom rfl)
  exact ⟨hlexes, parse_eq_ok_iff.2 ⟨_, hlexes, .pass (by decide) (.pass (by decide) hderives)⟩⟩

/-- A string with parentheses that match, behind it a scale, and an item without anything. -/
theorem parse_enclosed_string :
    parse "(x == '(a)'), numericScale = 2 ,\t".toList =
      .ok { property := "x == '(a)'".toList, numericScale := some 2 } := by
  have hquotes : Token.Quotes '\'' "(a)".toList "(a)".toList :=
    .raw (by decide) (by decide) (.raw (by decide) (by decide)
      (.raw (by decide) (by decide) .nil))
  obtain ⟨hlexes, hparse⟩ := parse_comparison hquotes
  have hwrites : Attribute.Writes (.numericScale 2) " numericScale = 2 ".toList := by
    refine ⟨" numericScale ".toList, " 2 ".toList, rfl, by decide, rfl, ?_⟩
    exact .numericScale (.inl rfl) (by decide : ['2'] ≠ []) rfl (by decide)
  have hcomma : ∀ item ∈ [" numericScale = 2 ".toList, "\t".toList], ',' ∉ item := by decide
  obtain ⟨hread, -, ts, hts, hcloses⟩ := parse_enclosed hparse hcomma (.cons hwrites .nil)
  obtain rfl := lexes_unique hts hlexes
  refine hread (hcloses fun s hs => ?_)
  simp only [List.mem_cons, List.not_mem_nil, reduceCtorEq, false_or, or_false,
    Token.string.injEq] at hs
  subst hs
  have hclose : matchingParen? 0 "(a))".toList = some ("(a)".toList, []) := rfl
  exact (matchingParen?_eq_some_iff.1 hclose).2

/-- A string with one parenthesis: the expression is one, but it is not read as a property. -/
theorem not_parse_enclosed :
    Expr.parse "x == ')'".toList =
        .ok (.binary .equal (.ref "x".toList) (.string ")".toList)) ∧
      parse "(x == ')')".toList = .error (.unexpected "')".toList) :=
  ⟨(parse_comparison (.raw (by decide) (by decide) .nil)).2, rfl⟩

end Placeholder

end DynamicSql
