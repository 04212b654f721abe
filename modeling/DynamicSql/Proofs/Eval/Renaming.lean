import DynamicSql.Proofs.Expr.Leading

/-!
# Evaluation and names

An expression sees the bindings only through the names in it, and these only by what is found under
them. So names may be replaced throughout an expression: its value is then that of the expression as
it was, if under every new name is found what was found under the old one (`eval_mapNames`).

* `eval_of_names`: the value is the same under bindings that agree on the names of the expression,
  and the same when a name is exchanged for one under which the same is found.
-/

namespace DynamicSql

namespace Expr

/-! ## Other names -/

mutual

/-- The expression with its names replaced. -/
def mapNames (f : Text → Text) : Expr → Expr
  | .ref name => .ref (f name)
  | .field object step => .field (object.mapNames f) step
  | .index object position => .index (object.mapNames f) (position.mapNames f)
  | .unary op operand => .unary op (operand.mapNames f)
  | .binary op left right => .binary op (left.mapNames f) (right.mapNames f)
  | .call object method arguments => .call (object.mapNames f) method (mapAllNames f arguments)
  | .float x => .float x
  | .integer n => .integer n
  | .string s => .string s
  | .boolean b => .boolean b
  | .null => .null

/-- Several expressions with their names replaced. -/
def mapAllNames (f : Text → Text) : List Expr → List Expr
  | [] => []
  | e :: rest => e.mapNames f :: mapAllNames f rest

end

/-- The expression with one name exchanged for another, wherever it stands. -/
def rename (name other : Text) (e : Expr) : Expr :=
  e.mapNames fun n => if n = name then other else n

mutual

/-- The names that are replaced are those of the expression. -/
theorem names_mapNames (f : Text → Text) : (e : Expr) → (e.mapNames f).names = e.names.map f
  | .float _ | .integer _ | .string _ | .boolean _ | .null => rfl
  | .ref name => rfl
  | .field object _ => by
      rw [mapNames, names, names, names_mapNames f object]
  | .index object position => by
      rw [mapNames, names, names, List.map_append, names_mapNames f object,
        names_mapNames f position]
  | .unary _ operand => by
      rw [mapNames, names, names, names_mapNames f operand]
  | .binary _ left right => by
      rw [mapNames, names, names, List.map_append, names_mapNames f left, names_mapNames f right]
  | .call object _ arguments => by
      rw [mapNames, names, names, List.map_append, names_mapNames f object,
        allNames_mapAllNames f arguments]

/-- The names of several expressions. -/
theorem allNames_mapAllNames (f : Text → Text) :
    (es : List Expr) → allNames (mapAllNames f es) = (allNames es).map f
  | [] => rfl
  | e :: rest => by
      rw [mapAllNames, allNames, allNames, List.map_append, names_mapNames f e,
        allNames_mapAllNames f rest]

end

/-! ## Values -/

section values

variable {b b' : Bindings} {f : Text → Text}

mutual

/-- **The value under other names** is the value, if these stand for the same. -/
theorem eval_mapNames : (e : Expr) → (∀ name ∈ e.names, b.value name = b'.value (f name)) →
    (e.mapNames f).eval b' = e.eval b
  | .float _, _ | .integer _, _ | .string _, _ | .boolean _, _ | .null, _ => rfl
  | .ref name, h => by
      rw [mapNames, eval, eval, h name List.mem_cons_self]
  | .field object _, h => by
      rw [mapNames, eval, eval, eval_mapNames object h]
  | .index object position, h => by
      rw [names, List.forall_mem_append] at h
      rw [mapNames, eval, eval, eval_mapNames object h.1, eval_mapNames position h.2]
  | .unary op operand, h => by
      rw [mapNames, eval, eval, eval_mapNames operand h]
  | .binary op left right, h => by
      rw [names, List.forall_mem_append] at h
      -- whether the right side is evaluated, the value of the left side decides
      exact eval_binary_congr op (eval_mapNames left h.1) (eval_mapNames right h.2)
  | .call object method arguments, h => by
      rw [names, List.forall_mem_append] at h
      rw [mapNames, eval, eval, eval_mapNames object h.1, evalAll_mapAllNames arguments h.2]

/-- The values of several expressions under other names. -/
theorem evalAll_mapAllNames : (es : List Expr) →
    (∀ name ∈ allNames es, b.value name = b'.value (f name)) →
      evalAll b' (mapAllNames f es) = evalAll b es
  | [], _ => rfl
  | e :: rest, h => by
      rw [allNames, List.forall_mem_append] at h
      rw [mapAllNames, evalAll, evalAll, eval_mapNames e h.1, evalAll_mapAllNames rest h.2]

end

/-- **Evaluation sees names only.** What an expression gives, be it a value or an error, is decided
by what is found under the names in it: a binding, or else a field of the parameter. So it gives the
same under bindings where the same is found under each of its names. And a name may be exchanged for
another throughout: the expression gives the same where under the other name is found what was found
under the first, and under all the rest what was found under them. -/
theorem eval_of_names (e : Expr) (b b' : Bindings) :
    ((∀ name ∈ e.names, b.find? name = b'.find? name) → e.eval b = e.eval b') ∧
    ∀ name other : Text,
      (e.rename name other).names = e.names.map (fun n => if n = name then other else n) ∧
      (b.find? name = b'.find? other →
        (∀ n ∈ e.names, n ≠ name → b.find? n = b'.find? n) →
          (e.rename name other).eval b' = e.eval b) := by
  have hvalue {n n' : Text} (h : b.find? n = b'.find? n') : b.value n = b'.value n' := by
    rw [Bindings.value, Bindings.value, h]
  constructor
  · intro hnames
    apply eval_congr
    intro n hn
    exact hvalue (hnames n hn)
  · intro name other
    refine ⟨names_mapNames _ e, ?_⟩
    intro hname hothers
    apply eval_mapNames
    intro n hn
    show b.value n = b'.value (if n = name then other else n)
    split
    · next heq =>
      subst heq
      exact hvalue hname
    · next hne => exact hvalue (hothers n hn hne)

/-- The position is a field of the parameter in one place and bound in the others, and the row has
another name in the last. -/
theorem eval_of_names_row :
    let e : Expr := .index (.ref "row".toList) (.ref "n".toList)
    let renamed : Expr := .index (.ref "item".toList) (.ref "n".toList)
    let row : Value := .array [.string "x".toList, .string "y".toList]
    let b : Bindings :=
      (Bindings.ofCall (.object [("n".toList, .integer 1)]) none).insert "row".toList row
    let b' : Bindings := (Table.empty.insert "n".toList (.integer 1)).insert "row".toList row
    let b'' : Bindings := (Table.empty.insert "n".toList (.integer 1)).insert "item".toList row
    (∀ name ∈ e.names, b.find? name = b'.find? name) ∧ b.contains "n".toList = false ∧
      e.eval b = e.eval b' ∧
      b.find? "row".toList = b''.find? "item".toList ∧
      e.rename "row".toList "item".toList = renamed ∧ renamed.eval b'' = e.eval b ∧
      e.eval b = .ok (.string "y".toList) := by
  intro e renamed row b b' b''
  have hnames : ∀ name ∈ e.names, b.find? name = b'.find? name := by
    intro name hname
    obtain rfl | hname := List.mem_cons.1 hname
    · rfl
    · obtain rfl := List.mem_singleton.1 hname
      rfl
  have hrow : b.find? "row".toList = b''.find? "item".toList := rfl
  have hothers : ∀ n ∈ e.names, n ≠ "row".toList → b.find? n = b''.find? n := by
    intro n hn hne
    obtain rfl | hn := List.mem_cons.1 hn
    · exact absurd rfl hne
    · obtain rfl := List.mem_singleton.1 hn
      rfl
  have hvalue := ((eval_of_names e b b'').2 _ _).2 hrow hothers
  exact ⟨hnames, rfl, (eval_of_names e b b').1 hnames, hrow, rfl, hvalue, rfl⟩

end values

end Expr

end DynamicSql
