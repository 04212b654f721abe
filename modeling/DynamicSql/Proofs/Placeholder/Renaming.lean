import DynamicSql.Proofs.Expr.Leading
import DynamicSql.Proofs.Placeholder.Reference

/-!
# Renamed placeholders

When an entry of a loop has been run, a placeholder that an alias leads is led by the name for the
entry instead. Whatever else the content says, this is the same placeholder with the same value
(`renamed_same`): only the name at the start of its property has changed, and that name stands for
the same.

The property of a content that begins with a name is that name and the text behind it up to a comma
or colon (`parse_name_append`). There may be white space and further names in it.
-/

namespace DynamicSql

namespace Placeholder

/-! ## A name at the start of a content -/

/-- What belongs to the property of the text behind the name that it begins with. -/
def propertyEnd (rest : Text) : Text :=
  Text.trimEnd ((Text.trimEnd rest).takeWhile (!endsProperty ·))

/-- What stands behind the property. -/
def behindProperty (rest : Text) : Text := (Text.trimEnd rest).dropWhile (!endsProperty ·)

/-- The property goes on as the text does. -/
lemma head?_propertyEnd {rest : Text} {c : Char} (h : c ∈ (propertyEnd rest).head?) :
    c ∈ rest.head? := by
  have hprefix : propertyEnd rest <+: rest :=
    ((Text.trimEnd_prefix _).trans (List.takeWhile_prefix _)).trans (Text.trimEnd_prefix rest)
  obtain ⟨s, hs⟩ := hprefix
  rw [← hs, List.head?_append, Option.mem_def.1 h]
  rfl

section name

variable {name : Text} (hname : Text.isName name = true)

include hname

/-- Nothing is trimmed from a name. -/
lemma trim_name_append (s : Text) : Text.trim (name ++ s) = name ++ Text.trimEnd s := by
  have hend : Text.trimEnd name = name := by
    refine Text.trimEnd_of_getLast? fun d hd => ?_
    exact Text.isBlank_of_continuesName (Text.continuesName_of_mem hname (List.mem_of_getLast? hd))
  rw [Text.trim, Text.trimStart_name_append hname, Text.trimEnd_append]
  split
  · next hblank => rw [hblank, hend, List.append_nil]
  · rfl

/-- **A content that begins with a name** is read as its property and what stands behind it. -/
theorem parse_name_append (rest : Text) :
    parse (name ++ rest) = readBehind (name ++ propertyEnd rest) (behindProperty rest) := by
  obtain ⟨c, s, hcons, hc, -⟩ := Text.exists_of_isName hname
  have hkind : ∀ d ∈ name, (!endsProperty d) = true := by
    intro d hd
    have hsolid := Reference.isSolid_of_continuesName (Text.continuesName_of_mem hname hd)
    rw [isSolid, Bool.and_eq_true] at hsolid
    exact hsolid.2
  have hparen : (name ++ Text.trimEnd rest).head? ≠ some '(' := by
    rw [hcons, List.cons_append, List.head?_cons, ne_eq, Option.some.injEq]
    rintro rfl
    exact absurd hc (by decide)
  have hne : (name ++ propertyEnd rest).isEmpty = false := by
    rw [hcons]
    rfl
  rw [parse, splitProperty_of_trim (trim_name_append hname rest) hparen,
    List.takeWhile_append_of_pos hkind, List.dropWhile_append_of_pos hkind,
    trim_name_append hname, ← propertyEnd, ← behindProperty, hne, if_neg Bool.false_ne_true]
  rfl

end name

/-! ## Renaming -/

section behind

variable (property other behind : Text)

/-- What is read behind a property is read behind every other. -/
lemma exists_readBehind_iff :
    (∃ p, readBehind property behind = .ok p) ↔ ∃ p, readBehind other behind = .ok p := by
  rw [readBehind_eq property other behind]
  cases readBehind other behind with
  | error fault => simp [Except.map]
  | ok p => simp [Except.map]

/-- What is read behind two properties differs in those only. -/
lemma of_readBehind_eq_ok {p p' : Placeholder} (h : readBehind property behind = .ok p)
    (h' : readBehind other behind = .ok p') :
    p = p.withProperty property ∧ p' = p.withProperty other := by
  have hself := readBehind_eq property property behind
  have hother := readBehind_eq other property behind
  rw [h] at hself hother
  rw [h'] at hother
  exact ⟨Except.ok.inj hself, Except.ok.inj hother⟩

end behind

/-- Another name of the same value in front of the same text is read as a placeholder that differs
in the property only and has the same value. -/
theorem append_same {name other rest : Text} (hname : isIdentifier name = true)
    (hother : isIdentifier other = true) (hrest : ∀ c ∈ rest.head?, endsAlias c = true)
    {b b' : Bindings} {v : Value} (hv : b.get? name = some v) (hv' : b'.get? other = some v)
    (hothers : ∀ p e, parse (name ++ rest) = .ok p → Expr.parse p.property = .ok e →
      ∀ n ∈ e.names.tail, b.find? n = b'.find? n) :
    ((∃ p, parse (name ++ rest) = .ok p) ↔ ∃ p', parse (other ++ rest) = .ok p') ∧
      ∀ p p', parse (name ++ rest) = .ok p → parse (other ++ rest) = .ok p' →
        (∃ s, p.property = name ++ s ∧ p' = p.withProperty (other ++ s)) ∧
          ∀ w, p.resolve b = .ok w ↔ p'.resolve b' = .ok w := by
  have hname' : Text.isName name = true := (Bool.and_eq_true .. ▸ hname).1
  have hother' : Text.isName other = true := (Bool.and_eq_true .. ▸ hother).1
  have hends : ∀ c ∈ (propertyEnd rest).head?, endsAlias c = true :=
    fun c hc => hrest c (head?_propertyEnd hc)
  have hvalue (n : Text) (h : b.find? n = b'.find? n) : b.value n = b'.value n := by
    rw [Bindings.value, Bindings.value, h]
  have hleading : b.value name = b'.value other := by
    rw [Bindings.value, Bindings.value, Bindings.find?, Bindings.find?, hv, hv']
    rfl
  -- behind either name, the property ends in the same place
  rw [parse_name_append hname'] at hothers ⊢
  rw [parse_name_append hother']
  refine ⟨exists_readBehind_iff _ _ _, ?_⟩
  intro p p' hp hp'
  obtain ⟨hself, rfl⟩ := of_readBehind_eq_ok _ _ _ hp hp'
  have hproperty : p.property = name ++ propertyEnd rest := by
    rw [hself]
    rfl
  refine ⟨⟨propertyEnd rest, hproperty, rfl⟩, fun w => ?_⟩
  have hresolve := resolve_append hname' hends p hv
  rw [← hself] at hresolve
  rw [hresolve, resolve_append hother' hends p hv']
  refine Bindings.eval_withLeading hname hother
    (fun c hc => (not_continuesName_of_endsAlias (hends c hc)).1) hleading (fun e he n hn => ?_) w
  exact hvalue n (hothers p e hp (by rw [hproperty]; exact he) n hn)

/-- **A renamed placeholder is the same with the same value.** A content is read if it is read when
renamed, all of it but the property is the same, and so is its value, if there is one, where all
names of the property but the first are the same. -/
theorem renamed_same {name : Text} (hname : Grammar.Lexes 0 name [.name name]) (id : Nat)
    {content renamed : Text}
    (hrenamed : renameAlias? name (syntheticName name id) content = some renamed)
    {b b' : Bindings} {v : Value} (hv : b.get? name = some v)
    (hv' : b'.get? (syntheticName name id) = some v)
    (hothers : ∀ p e, parse content = .ok p → Expr.parse p.property = .ok e →
      ∀ other ∈ e.names.tail, b.find? other = b'.find? other) :
    ((∃ p, parse content = .ok p) ↔ ∃ p', parse renamed = .ok p') ∧
      ∀ p p', parse content = .ok p → parse renamed = .ok p' →
        (∃ s, p.property = name ++ s ∧ p' = p.withProperty (syntheticName name id ++ s)) ∧
          ∀ w, p.resolve b = .ok w ↔ p'.resolve b' = .ok w := by
  have hidentifier := Grammar.isIdentifier_of_lexes hname
  have hisName : Text.isName name = true := (Bool.and_eq_true .. ▸ hidentifier).1
  obtain ⟨rest, htrim, hends, rfl⟩ := renameAlias?_eq_some hrenamed
  have hcontent : parse content = parse (name ++ rest) := by
    rw [← htrim, parse, parse, splitProperty, splitProperty, Text.trim_trimStart]
  rw [hcontent] at hothers ⊢
  exact append_same hidentifier (isIdentifier_syntheticName hisName id) hends hv hv' hothers

open Grammar in
/-- White space before the alias is dropped, and the position holds another name. -/
theorem renamed_same_position :
    let content : Text := " row[n + 1], jdbcType=VARCHAR".toList
    let renamed : Text := syntheticName "row".toList 3 ++ "[n + 1], jdbcType=VARCHAR".toList
    let v : Value := .array [.string "x".toList, .string "y".toList]
    let b : Bindings := Table.empty.insert "n".toList (.integer 0)
    Lexes 0 "row".toList [.name "row".toList] ∧
      renameAlias? "row".toList (syntheticName "row".toList 3) content = some renamed ∧
      ∃ p p', parse content = .ok p ∧ parse renamed = .ok p' ∧
        p.resolve (b.insert "row".toList v) = .ok (.string "y".toList) ∧
        p'.resolve (b.insert (syntheticName "row".toList 3) v) = .ok (.string "y".toList) := by
  intro content renamed v b
  have hname : Lexes 0 "row".toList [.name "row".toList] := .token rfl (.ended rfl)
  have hrenamed : renameAlias? "row".toList (syntheticName "row".toList 3) content =
      some renamed := by decide +kernel
  have hparse : parse content =
      .ok { property := "row[n + 1]".toList, jdbcType := some "VARCHAR".toList } := by
    decide +kernel
  have hexpr : Expr.parse "row[n + 1]".toList =
      .ok (.index (.ref "row".toList) (.binary .add (.ref "n".toList) (.integer 1))) := by
    have hlexes : Lexes 0 "row[n + 1]".toList [.name "row".toList, .leftBracket, .name "n".toList,
        .plus, .integer 1, .rightBracket] :=
      .token rfl (.token rfl (.token rfl (.token rfl (.token rfl (.token rfl (.ended rfl))))))
    have hoperand {t : Token} {e : Expr} (h : atom? t = some e) : Derives .product [t] e :=
      .pass nofun (.pass nofun (.pass nofun (.atom h)))
    have hleft : Derives .sum [.name "n".toList] (.ref "n".toList) := .pass nofun (hoperand rfl)
    have hsum : Derives .sum ([.name "n".toList] ++ .plus :: [.integer 1]) _ :=
      .join nofun rfl hleft (hoperand rfl)
    have hposition : Derives .or _ _ := .pass nofun (.pass nofun (.pass nofun hsum))
    exact parse_eq_ok_iff.2
      ⟨_, hlexes, .of_unary (.pass nofun (.index (.pass nofun (.atom rfl)) hposition))⟩
  have hb (other : Text) (hne : "n".toList ≠ other) :
      Bindings.find? (b.insert other v) "n".toList = some (.integer 0) := by
    rw [Bindings.find?, Table.get?_insert, if_neg hne, Table.get?_insert, if_pos rfl]
    rfl
  have hothers : ∀ p e, parse content = .ok p → Expr.parse p.property = .ok e →
      ∀ other ∈ e.names.tail, Bindings.find? (b.insert "row".toList v) other =
        Bindings.find? (b.insert (syntheticName "row".toList 3) v) other := by
    intro p e hp he
    rw [hparse] at hp
    obtain rfl := Except.ok.inj hp
    rw [hexpr] at he
    obtain rfl := Except.ok.inj he
    intro other hother
    obtain rfl : other = "n".toList := List.mem_singleton.1 hother
    rw [hb _ (by decide), hb _ (by decide +kernel)]
  have hbound (name : Text) : (b.insert name v).get? name = some v := by
    rw [Table.get?_insert, if_pos rfl]
  obtain ⟨hiff, hsame⟩ := renamed_same hname 3 hrenamed (hbound _) (hbound _) hothers
  obtain ⟨p', hp'⟩ := hiff.1 ⟨_, hparse⟩
  have hvalue := (hsame _ p' hparse hp').2 (.string "y".toList)
  have hresolve : resolve { property := "row[n + 1]".toList, jdbcType := some "VARCHAR".toList }
      (b.insert "row".toList v) = .ok (.string "y".toList) := by
    rw [resolve, if_pos (by decide +kernel), Bindings.eval, hexpr]
    rfl
  exact ⟨hname, hrenamed, _, p', hparse, hp', hresolve, hvalue.1 hresolve⟩

end Placeholder

end DynamicSql
