import DynamicSql.Eval
import DynamicSql.Proofs.Results

/-!
# Errors of parsed expressions

Evaluation parses the text of an expression first, and nothing else does. So once a text has been
parsed, its evaluation may fail, but never with the error that a text is no expression
(`Bindings.eval_parsed`).
-/

namespace DynamicSql

variable {α β : Type}

/-- Whether a result is anything but the error that a text is no expression. -/
def Parsed (r : Except EvalError α) : Prop := ∀ e cause, r ≠ .error (.unparsable e cause)

namespace Parsed

lemma ok (a : α) : Parsed (.ok a) := nofun

/-- What goes on after a result fails in one of the two parts. -/
lemma bind {r : Except EvalError α} {f : α → Except EvalError β} (hr : Parsed r)
    (hf : ∀ a, Parsed (f a)) : Parsed (r.bind f) := by
  intro e cause h
  obtain h | ⟨a, -, h⟩ := bind_eq_error_iff.1 h
  · exact hr e cause h
  · exact hf a e cause h

/-- A result that is changed fails as before. -/
lemma map {r : Except EvalError α} {f : α → β} (hr : Parsed r) : Parsed (r.map f) :=
  fun e cause h => hr e cause (map_eq_error_iff.1 h)

end Parsed

/-! ## Operations on values -/

namespace Eval

lemma parsed_field (name : Text) (v : Value) : Parsed (field name v) := by
  cases v <;> exact nofun

lemma parsed_index (v i : Value) : Parsed (index v i) := by
  unfold index
  split <;> exact nofun

lemma parsed_unary (op : UnaryOperator) (v : Value) : Parsed (unary op v) := by
  unfold unary
  split
  · exact nofun
  · split <;> exact nofun
  · exact nofun
  · exact nofun

lemma parsed_integers (op : BinaryOperator) (a b : Int64) : Parsed (integers op a b) := by
  unfold integers
  split
  · exact nofun
  · split
    · exact nofun
    · split <;> exact nofun

lemma parsed_arithmetic (op : BinaryOperator) (v w : Value) : Parsed (arithmetic op v w) := by
  unfold arithmetic
  split
  · exact parsed_integers _ _ _
  all_goals exact nofun

lemma parsed_compare (op : BinaryOperator) (v w : Value) : Parsed (compare op v w) := by
  unfold compare
  split <;> exact nofun

lemma parsed_add (v w : Value) : Parsed (add v w) := by
  unfold add
  split
  · exact nofun
  · exact nofun
  · exact parsed_arithmetic _ _ _

lemma parsed_binary (op : BinaryOperator) (v w : Value) : Parsed (binary op v w) := by
  unfold binary
  split
  case h_7 => exact parsed_add v w
  case h_3 | h_4 | h_5 | h_6 => exact parsed_compare _ _ _
  case h_8 | h_9 | h_10 | h_11 => exact parsed_arithmetic _ _ _
  all_goals exact nofun

/-! ## Calls -/

section call

variable {name : Text} {arguments : List Value}

lemma parsed_noArguments {r : Except EvalError Value} (hr : Parsed r) :
    Parsed (noArguments name arguments r) := by
  unfold noArguments
  split
  · exact hr
  · exact nofun

lemma parsed_oneArgument {f : Value → Except EvalError Value} (hf : ∀ v, Parsed (f v)) :
    Parsed (oneArgument name arguments f) := by
  unfold oneArgument
  split
  · exact hf _
  · exact nofun

lemma parsed_stringArgument {f : Text → Except EvalError Value} (hf : ∀ s, Parsed (f s)) :
    Parsed (stringArgument name arguments f) := by
  refine parsed_oneArgument fun v => ?_
  split
  · exact hf _
  · exact nofun

lemma parsed_matchesPattern (s source : Text) : Parsed (matchesPattern s source) := by
  unfold matchesPattern
  split <;> exact nofun

lemma parsed_call (object : Value) : Parsed (call name object arguments) := by
  unfold call
  split
  case h_1 | h_2 =>
    refine parsed_noArguments ?_
    split
    all_goals
      intro e cause h
      cases h
  case h_3 | h_4 | h_5 => exact parsed_noArguments (Parsed.ok _)
  case h_6 | h_7 | h_8 | h_10 => exact parsed_stringArgument fun _ => Parsed.ok _
  case h_9 => exact parsed_oneArgument fun _ => Parsed.ok _
  case h_11 => exact parsed_stringArgument fun _ => parsed_matchesPattern _ _
  case h_12 =>
    intro e cause h
    cases h

end call

end Eval

/-! ## Expressions -/

namespace Expr

variable (b : Bindings)

mutual

/-- The evaluation of an expression fails, if it does, for another reason than its text. -/
theorem eval_parsed : (x : Expr) → Parsed (x.eval b)
  | .float _ | .integer _ | .string _ | .boolean _ | .null | .ref _ => nofun
  | .field object name => by
      rw [eval]
      exact (eval_parsed object).bind (Eval.parsed_field name)
  | .index object position => by
      rw [eval]
      exact (eval_parsed object).bind fun o => (eval_parsed position).bind (Eval.parsed_index o)
  | .unary op operand => by
      rw [eval]
      exact (eval_parsed operand).bind (Eval.parsed_unary op)
  | .binary op left right => by
      have hleft := eval_parsed left
      have hright := eval_parsed right
      have htruth : Parsed ((right.eval b).bind fun r => .ok (Value.boolean r.truthy)) :=
        hright.bind fun _ => Parsed.ok _
      by_cases hand : op = .and
      · subst hand
        rw [eval]
        refine hleft.bind fun l => ?_
        split
        · exact htruth
        · exact Parsed.ok _
      · by_cases hor : op = .or
        · subst hor
          rw [eval]
          refine hleft.bind fun l => ?_
          split
          · exact Parsed.ok _
          · exact htruth
        · rw [eval]
          · exact hleft.bind fun l => hright.bind (Eval.parsed_binary op l)
          · exact hand
          · exact hor
  | .call object method arguments => by
      rw [eval]
      exact (eval_parsed object).bind fun o => (evalAll_parsed arguments).bind fun values =>
        Eval.parsed_call o

/-- The evaluation of several expressions fails, if it does, for another reason than their text. -/
theorem evalAll_parsed : (xs : List Expr) → Parsed (evalAll b xs)
  | [] => nofun
  | x :: rest => by
      rw [evalAll]
      exact (eval_parsed x).bind fun _ => (evalAll_parsed rest).map

end

end Expr

/-- **A text that has been parsed never fails as a text.** -/
theorem Bindings.eval_parsed (b : Bindings) {e : Text} {x : Expr} (h : Expr.parse e = .ok x) :
    Parsed (b.eval e) := by
  rw [Bindings.eval, h]
  exact Expr.eval_parsed b x

end DynamicSql
