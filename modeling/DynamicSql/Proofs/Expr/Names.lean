import DynamicSql.Proofs.Expr.Leading

/-!
# Names and bindings

The names that an expression looks up are identifiers. So a text that is bound to a value and is
evaluated as an expression gives this value if it is an identifier, and otherwise it does not see
the binding (`Bindings.eval_insert`, `Bindings.forall_eval_iff`).
-/

namespace DynamicSql

namespace Grammar

/-! ## Names are tokens -/

mutual

/-- A name in an expression is one of its tokens. -/
theorem Derives.mem_of_mem_names {name : Text} : {level : Level} → {ts : List Token} → {e : Expr} →
    Derives level ts e → name ∈ e.names → .name name ∈ ts
  | _, _, _, .pass _ h, hname => h.mem_of_mem_names hname
  | _, _, _, .join _ _ hleft hright, hname | _, _, _, .compare _ hleft hright, hname => by
      rw [Expr.names, List.mem_append] at hname
      rw [List.mem_append, List.mem_cons]
      exact hname.imp hleft.mem_of_mem_names fun h => .inr (hright.mem_of_mem_names h)
  | _, _, _, .unary _ h, hname => List.mem_cons_of_mem _ (h.mem_of_mem_names hname)
  | _, _, _, .index hobject hposition, hname => by
      rw [Expr.names, List.mem_append] at hname
      rw [List.mem_append, List.mem_cons, List.mem_append]
      exact hname.imp hobject.mem_of_mem_names fun h =>
        .inr (.inl (hposition.mem_of_mem_names h))
  | _, _, _, .field hobject, hname => List.mem_append_left _ (hobject.mem_of_mem_names hname)
  | _, _, _, .call hobject harguments, hname => by
      rw [Expr.names, List.mem_append] at hname
      rw [List.mem_append]
      refine hname.imp hobject.mem_of_mem_names fun h => ?_
      have hmem := harguments.mem_of_mem_names h
      simp [hmem]
  | _, _, _, .atom (t := t) hatom, hname => by
      cases t <;> cases hatom <;> simp_all [Expr.names]
  | _, _, _, .parens h, hname =>
      List.mem_cons_of_mem _ (List.mem_append_left _ (h.mem_of_mem_names hname))

/-- A name in arguments is one of their tokens. -/
theorem Arguments.mem_of_mem_names {name : Text} : {ts : List Token} → {es : List Expr} →
    Arguments ts es → name ∈ Expr.allNames es → .name name ∈ ts
  | _, _, .none, hname => nomatch hname
  | _, _, .last h, hname => by
      rw [Expr.allNames, Expr.allNames, List.append_nil] at hname
      exact h.mem_of_mem_names hname
  | _, _, .more h hrest, hname => by
      rw [Expr.allNames, List.mem_append] at hname
      rw [List.mem_append, List.mem_cons]
      exact hname.imp h.mem_of_mem_names fun h => .inr (hrest.mem_of_mem_names h)

end

/-- A token that is a name is an identifier. -/
theorem isIdentifier_of_mem {start : Nat} {s name : Text} {ts : List Token} (h : Lexes start s ts)
    (hname : .name name ∈ ts) : isIdentifier name = true := by
  induction h with
  | ended => cases hname
  | token hnext _ ih =>
      obtain rfl | hname := List.mem_cons.1 hname
      · exact Lexed.isIdentifier_of_ofStart hnext
      · exact ih hname

end Grammar

/-- **The names of an expression** are identifiers. -/
theorem Expr.isIdentifier_of_mem_names {s name : Text} {e : Expr} (h : Expr.parse s = .ok e)
    (hname : name ∈ e.names) : isIdentifier name = true := by
  obtain ⟨ts, hlexes, hderives⟩ := Grammar.parse_eq_ok_iff.1 h
  exact Grammar.isIdentifier_of_mem hlexes (hderives.mem_of_mem_names hname)

namespace Bindings

variable {name : Text} {b : Bindings} {v : Value}

/-- What is bound to a name is the value of the name. -/
lemma value_of_get? (h : b.get? name = some v) : b.value name = v := by
  rw [value, find?, h]
  rfl

/-- Other names keep their values if one is bound that is not the parameter's. -/
lemma value_insert_of_ne {other : Text} (hother : other ≠ name)
    (hparameter : parameterName ≠ name) : Bindings.value (b.insert name v) other = b.value other := by
  simp only [value, find?, parameterField?, parameter, Table.get?_insert, if_neg hother,
    if_neg hparameter]

/-- **A text that is bound** is evaluated to its value if it is an identifier, and otherwise as if it
were not bound. -/
theorem eval_insert (b : Bindings) (name : Text) (v : Value) :
    Bindings.eval (b.insert name v) name = if isIdentifier name then .ok v else b.eval name := by
  split
  · rename_i hname
    rw [eval_name _ hname, value_of_get? (by rw [Table.get?_insert, if_pos rfl])]
  · rename_i hname
    have hne {other : Text} (hother : isIdentifier other = true) : other ≠ name := by
      rintro rfl
      exact hname hother
    simp only [Bindings.eval]
    rcases h : Expr.parse name with cause | e
    · rfl
    · exact Expr.eval_congr e fun other hother =>
        value_insert_of_ne (hne (Expr.isIdentifier_of_mem_names h hother)) (hne (by decide))

/-- **The texts that are evaluated to what they are bound to**, under all bindings, are the
identifiers. -/
theorem forall_eval_iff {name : Text} :
    (∀ (b : Bindings) (v : Value), b.get? name = some v → b.eval name = .ok v) ↔
      isIdentifier name = true := by
  constructor
  · -- A text that is none is evaluated alike with two values.
    intro h
    by_contra hname
    have hvalue (v : Value) : Bindings.eval Table.empty name = .ok v := by
      have hinsert := eval_insert Table.empty name v
      rw [if_neg hname, h _ v (by rw [Table.get?_insert, if_pos rfl])] at hinsert
      exact hinsert.symm
    exact nomatch (hvalue .null).symm.trans (hvalue (.boolean true))
  · intro hname b v hbound
    rw [eval_name b hname, value_of_get? hbound]

end Bindings

end DynamicSql
