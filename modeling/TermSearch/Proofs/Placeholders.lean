import Mathlib.Algebra.Ring.Nat
import Mathlib.Data.List.Basic
import TermSearch.Sql.Select

/-! Placeholders in the texts of expressions and statements. A text has one placeholder for each parameter, whatever
the expression is. -/
namespace TermSearch.Sql

theorem count_append (s t : String) :
    (s ++ t).toList.count '?' = s.toList.count '?' + t.toList.count '?' := by
  rw [String.toList_append, List.count_append]

theorem count_intercalate {operator : String} (h : operator.toList.count '?' = 0) (texts : List String) :
    (operator.intercalate texts).toList.count '?' = (texts.map fun t => t.toList.count '?').sum := by
  induction texts with
  | nil => simp
  | cons t texts ih =>
    cases texts with
    | nil => simp
    | cons next rest =>
      rw [String.intercalate_cons_cons, count_append, count_append, ih, h]
      simp

theorem count_placeholders (n : Nat) : (placeholders n).toList.count '?' = n := by
  have hmark : "?".toList.count '?' = 1 := by decide +kernel
  rw [placeholders, count_intercalate (by decide +kernel), List.map_replicate, hmark, List.sum_replicate_nat,
    Nat.mul_one]

theorem count_metaLikeText (n : Nat) : (metaLikeText n).toList.count '?' = n + 1 := by
  have hhead : "EXISTS (SELECT 1 FROM record_meta m WHERE m.record_id = r.id".toList.count '?' = 0 := by
    decide +kernel
  have hkeys : (if n = 0 then "" else " AND m.meta_key IN (" ++ placeholders n ++ ")").toList.count '?' = n := by
    by_cases hn : n = 0
    · rw [if_pos hn, hn]
      rfl
    · have hopen : " AND m.meta_key IN (".toList.count '?' = 0 := by decide +kernel
      have hclose : ")".toList.count '?' = 0 := by decide +kernel
      simp only [if_neg hn, count_append, count_placeholders, hopen, hclose, Nat.zero_add, Nat.add_zero]
  have htail : " AND m.meta_value LIKE ? ESCAPE '\\')".toList.count '?' = 1 := by decide +kernel
  unfold metaLikeText
  simp only [count_append, hhead, hkeys, htail, Nat.zero_add]

theorem count_toString (n : Nat) : (toString n).toList.count '?' = 0 := by
  rw [Nat.toString_eq_ofList_toDigits, String.toList_ofList, List.count_eq_zero]
  intro h
  have hdigit := Nat.isDigit_of_mem_toDigits (by decide) (by decide) h
  exact absurd hdigit (by decide)

theorem count_column (column : Column) : column.text.toList.count '?' = 0 := by
  cases column <;> decide +kernel

/-- A condition on a column has the placeholders of what stands behind the column. -/
theorem count_column_append (column : Column) (ending : String) :
    (column.text ++ ending).toList.count '?' = ending.toList.count '?' := by
  rw [count_append, count_column, Nat.zero_add]

mutual

/-- The text of an expression has one placeholder for each of its parameters. -/
theorem Expr.count_text : ∀ e : Expr, e.text.toList.count '?' = e.params.length
  | .number n => count_toString n
  | .like column _ => by
    have hlike : " LIKE ? ESCAPE '\\'".toList.count '?' = 1 := by decide +kernel
    exact (count_column_append column _).trans hlike
  | .metaLike keys _ => by
    rw [Expr.text, count_metaLikeText, Expr.params, List.length_append, List.length_map]
    rfl
  | .among column options => by
    have hopen : " IN (".toList.count '?' = 0 := by decide +kernel
    have hclose : ")".toList.count '?' = 0 := by decide +kernel
    simp only [Expr.text, count_append, count_column, hopen, hclose, count_placeholders, Expr.params, List.length_map,
      Nat.zero_add, Nat.add_zero]
  | .isEmptyText column => by
    have hempty : " = ''".toList.count '?' = 0 := by decide +kernel
    exact (count_column_append column _).trans hempty
  | .not e => by
    have hnot : "NOT ".toList.count '?' = 0 := by decide +kernel
    simp only [Expr.text, count_append, hnot, Nat.zero_add, Expr.params, Expr.count_text e]
  | .conj es => Expr.count_textJoin " AND " (by decide +kernel) es
  | .disj es => Expr.count_textJoin " OR " (by decide +kernel) es
  | .sum es => Expr.count_textJoin " + " (by decide +kernel) es
  | .group e => by
    have hopen : "(".toList.count '?' = 0 := by decide +kernel
    have hclose : ")".toList.count '?' = 0 := by decide +kernel
    simp only [Expr.text, count_append, hopen, hclose, Nat.zero_add, Nat.add_zero, Expr.params, Expr.count_text e]

theorem Expr.count_textJoin (operator : String) (h : operator.toList.count '?' = 0) :
    ∀ es : List Expr, (Expr.textJoin operator es).toList.count '?' = (Expr.paramsOfAll es).length
  | [] => rfl
  | [e] => by rw [Expr.textJoin, Expr.paramsOfAll, Expr.paramsOfAll, List.append_nil, Expr.count_text e]
  | e :: next :: rest => by
    have hrest := Expr.count_textJoin operator h (next :: rest)
    rw [Expr.paramsOfAll, List.length_append, ← hrest, ← Expr.count_text e, Expr.textJoin, count_append, count_append,
      h, Nat.add_zero]

end

theorem count_orderTexts (q : Select) :
    (", ".intercalate q.orderTexts).toList.count '?' = q.titleFirst.length := by
  have htest : "r.title LIKE ? ESCAPE '\\'".toList.count '?' = 1 := by decide +kernel
  have htests : (" OR ".intercalate (q.titleFirst.map fun _ => "r.title LIKE ? ESCAPE '\\'")).toList.count '?' =
      q.titleFirst.length := by
    rw [count_intercalate (by decide +kernel), List.map_map, Function.comp_def, htest, List.map_const',
      List.sum_replicate_nat, Nat.mul_one]
  have htitles : ((if q.titleFirst.isEmpty then []
      else ["CASE WHEN " ++ " OR ".intercalate (q.titleFirst.map fun _ => "r.title LIKE ? ESCAPE '\\'") ++
        " THEN 0 ELSE 1 END"]).map fun t => t.toList.count '?').sum = q.titleFirst.length := by
    cases hempty : q.titleFirst.isEmpty with
    | true => rw [List.isEmpty_iff.mp hempty]; rfl
    | false =>
      have hopen : "CASE WHEN ".toList.count '?' = 0 := by decide +kernel
      have hclose : " THEN 0 ELSE 1 END".toList.count '?' = 0 := by decide +kernel
      simp only [Bool.false_eq_true, if_false, List.map_cons, List.map_nil, List.sum_cons, List.sum_nil, count_append,
        htests, hopen, hclose, Nat.zero_add, Nat.add_zero]
  have hrank : ((if q.byMatchCount then ["match_count DESC"] else []).map fun t => t.toList.count '?').sum = 0 := by
    cases q.byMatchCount <;> decide +kernel
  have hlast : (["r.published_at DESC", "r.id"].map fun t => t.toList.count '?').sum = 0 := by decide +kernel
  rw [count_intercalate (by decide +kernel), Select.orderTexts, List.map_append, List.map_append, List.sum_append,
    List.sum_append, htitles, hrank, hlast, Nat.add_zero]

/-- The text of a statement has one placeholder for each of its parameters. -/
theorem Select.count_text (q : Select) : q.text.toList.count '?' = q.params.length := by
  have hjoin : (Expr.textJoin " AND " q.conditions).toList.count '?' = (Expr.paramsOfAll q.conditions).length :=
    Expr.count_textJoin " AND " (by decide +kernel) q.conditions
  have hselect : "SELECT ".toList.count '?' = 0 := by decide +kernel
  have hcolumns : Select.columnsText.toList.count '?' = 0 := by decide +kernel
  have hcomma : ", ".toList.count '?' = 0 := by decide +kernel
  have hwhere : " AS match_count FROM records r WHERE ".toList.count '?' = 0 := by decide +kernel
  have horder : " ORDER BY ".toList.count '?' = 0 := by decide +kernel
  have hwindow : (if q.window.isSome then " LIMIT ? OFFSET ?" else "").toList.count '?' =
      if q.window.isSome then 2 else 0 := by
    cases q.window.isSome <;> decide +kernel
  have hparams : q.params.length = q.matchCount.params.length + (Expr.paramsOfAll q.conditions).length +
      q.titleFirst.length + if q.window.isSome then 2 else 0 := by
    rw [Select.params, List.length_append, List.length_append, List.length_append, List.length_map]
    cases q.window <;> rfl
  rw [hparams, Select.text]
  simp only [count_append, hselect, hcolumns, hcomma, hwhere, horder, hwindow, hjoin, count_orderTexts,
    q.matchCount.count_text, Nat.zero_add, Nat.add_zero]

end TermSearch.Sql
