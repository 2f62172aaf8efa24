import TermSearch.Proofs.ConditionText
import TermSearch.Proofs.SelectMeaning
import TermSearch.Proofs.StatementReading

/-! The texts of compiled statements, read again. Main statement: with its parameters in their order, the text of the
statement of a plan is read as a statement that has the same columns, selects and counts the same rows, compares them
by the same keys, and shows the same part of them. -/
namespace TermSearch.Sql

open Query (Plan Scope)

/-- No word of a statement that stands outside of conditions is read within one. -/
theorem Reading.clause_not_mem {tokens : List Token} {s s' : Reading} (h : tokens.foldlM Reading.step s = some s')
    (k : Clause) : .clause k ∉ tokens := by
  induction tokens generalizing s with
  | nil => exact List.not_mem_nil
  | cons t tokens ih =>
    rw [List.foldlM_cons] at h
    obtain ⟨middle, hstep, hrest⟩ := Option.bind_eq_some_iff.mp h
    rw [List.mem_cons, not_or]
    refine ⟨?_, ih hrest⟩
    rintro rfl
    obtain ⟨progress, level, outer⟩ := s
    cases progress <;> cases hstep

theorem cutAt?_append {t : Token} {before : List Token} (h : t ∉ before) (behind : List Token) :
    cutAt? t (before ++ t :: behind) = some (before, behind) := by
  induction before with
  | nil => simp [cutAt?]
  | cons u before ih =>
    obtain ⟨hne, hrest⟩ : t ≠ u ∧ t ∉ before := by simpa using h
    rw [List.cons_append, cutAt?, if_neg (Ne.symm hne), ih hrest]
    rfl

theorem cutAt?_eq_none {t : Token} {tokens : List Token} (h : t ∉ tokens) : cutAt? t tokens = none := by
  induction tokens with
  | nil => rfl
  | cons u tokens ih =>
    obtain ⟨hne, hrest⟩ : t ≠ u ∧ t ∉ tokens := by simpa using h
    rw [cutAt?, if_neg (Ne.symm hne), ih hrest]
    rfl

theorem takeColumns_cons {t : Token} (h : ResultColumn.ofToken? t = none) (rest : List Token) :
    takeColumns (t :: rest) = ([], t :: rest) := by
  unfold takeColumns
  split
  · rename_i heq
    obtain ⟨rfl, rfl⟩ := List.cons.inj heq
    rw [h]
  · rfl

/-- A statement whose count is zero or a sum of tests, and whose conditions are operands. -/
structure Select.IsReadable (q : Select) : Prop where
  matchCount : q.matchCount = .number 0 ∨
    ∃ e es, q.matchCount = .group (.sum (e :: es)) ∧ ∀ a ∈ e :: es, a.IsAddend
  conditions : ∃ e es, q.conditions = e :: es ∧ ∀ a ∈ e :: es, ∃ c, a.ReadsAs c

section Sums

/-- The tokens of an addend, and the condition that they make. -/
theorem Expr.IsAddend.exists_tokens {e : Expr} (h : e.IsAddend) : ∃ bound c, BindsTo e.text.toList e.params bound ∧
    Condition.ofAddend? bound = some c ∧ (∀ k, .clause k ∉ bound) ∧
    ∀ metadata row, c.count metadata row = e.value metadata row := by
  obtain ⟨c, hnumber, ⟨bound, hbinds, hhead, hreads⟩, hholds⟩ : ∃ c, (∀ n, c ≠ .number n) ∧ e.ReadsAsEnclosed c := by
    cases h with
    | like column operand =>
      exact ⟨.like (.record column) operand, fun n => by simp, readsAs_group_like column operand⟩
    | metaLike keys operand => exact ⟨metaCondition keys operand, fun n => by simp [metaCondition], readsAs_metaLike keys operand⟩
  have hlast := hreads .initial rfl (by decide)
  obtain ⟨t, ht, henclosing⟩ := hhead
  refine ⟨bound, c, hbinds, ?_, Reading.clause_not_mem hlast, fun metadata row => ?_⟩
  · have hany : bound.head?.any Token.isEnclosing = true := by
      rw [Option.mem_def.mp ht, Option.any_some, henclosing]
    rw [Condition.ofAddend?, if_pos hany, hlast]
    rfl
  · have hcount : c.count metadata row = Expr.ofBool (c.holds metadata row none) := by
      cases c with
      | number n => exact absurd rfl (hnumber n)
      | _ => rfl
    rw [hcount, hholds]
    cases h <;> rw [Expr.isTrue, Expr.value] <;> simp only [Expr.value, Expr.ofBool_ne_zero]

theorem bindsTo_plus : BindsTo " + ".toList [] [.clause .plus] :=
  ⟨by decide, rfl, [.clause .plus], fun _ _ _ => rfl, rfl⟩

/-- The tokens of a sum are those of its addends, with the sign of the sum between them. -/
theorem exists_sumTokens {e : Expr} {es : List Expr} (h : ∀ a ∈ e :: es, a.IsAddend) :
    ∃ bound others cs, BindsTo (Expr.textJoin " + " (e :: es)).toList (Expr.paramsOfAll (e :: es))
        ([.clause .plus].intercalate (bound :: others)) ∧
      (bound :: others).mapM Condition.ofAddend? = some cs ∧ (∀ b ∈ bound :: others, .clause .plus ∉ b) ∧
      (∀ k ≠ .plus, .clause k ∉ [Token.clause .plus].intercalate (bound :: others)) ∧
      ∀ metadata row, Condition.total metadata row cs = Expr.total metadata row (e :: es) := by
  induction es generalizing e with
  | nil =>
    obtain ⟨bound, c, hbinds, hc, hclause, hcount⟩ := (h e List.mem_cons_self).exists_tokens
    refine ⟨bound, [], [c], ?_, by simp [hc], by simpa using hclause _, ?_, fun metadata row => ?_⟩
    · rw [Expr.textJoin, Expr.paramsOfAll, Expr.paramsOfAll, List.append_nil, List.intercalate_singleton]
      exact hbinds
    · rw [List.intercalate_singleton]
      exact fun k _ => hclause k
    · rw [Condition.total, Condition.total, Expr.total, Expr.total, hcount]
  | cons next es ih =>
    obtain ⟨bound, c, hbinds, hc, hclause, hcount⟩ := (h e List.mem_cons_self).exists_tokens
    obtain ⟨first, others, cs, hrest, hcs, hplus, hothers, htotal⟩ := ih fun a ha => h a (List.mem_cons_of_mem _ ha)
    refine ⟨bound, first :: others, c :: cs, ?_, ?_, List.forall_mem_cons.mpr ⟨hclause _, hplus⟩, ?_,
      fun metadata row => ?_⟩
    · have htail := bindsTo_plus.prepend hrest (separated_of_getLast _ rfl (by decide))
      rw [Expr.textJoin, Expr.paramsOfAll, List.intercalate_cons_cons, String.toList_append, String.toList_append,
        List.append_assoc, List.append_assoc]
      exact hbinds.append htail (separated_of_head _ rfl (by decide))
    · rw [List.mapM_cons, hc, hcs]
      rfl
    · intro k hk
      rw [List.intercalate_cons_cons, List.mem_append, List.mem_append, List.mem_singleton]
      rintro ((hmem | hmem) | hmem)
      · exact hclause k hmem
      · exact hk (Token.clause.inj hmem)
      · exact hothers k hk hmem
    · rw [Condition.total, htotal, hcount]
      rfl

theorem bindsTo_zero : BindsTo "0".toList [] [.number 0] := ⟨by decide, rfl, [.number 0], scans_zero, rfl⟩

/-- The tokens of the match count of a statement. No column is named at their beginning. -/
theorem Select.IsReadable.exists_countTokens {q : Select} (h : q.IsReadable) : ∃ bound cs,
    BindsTo q.matchCount.text.toList q.matchCount.params bound ∧ readSum bound = some cs ∧
      takeColumns bound = ([], bound) ∧ .clause .naming ∉ bound ∧
      ∀ metadata row, Condition.total metadata row cs = q.matchCount.value metadata row := by
  rcases h.matchCount with hzero | ⟨e, es, hsum, haddends⟩
  · rw [hzero]
    exact ⟨[.number 0], [.number 0], bindsTo_zero, rfl, rfl, by decide, fun _ _ => rfl⟩
  · obtain ⟨bound, others, cs, hbinds, hcs, hplus, hothers, htotal⟩ := exists_sumTokens haddends
    have hclosed := hbinds.append bindsTo_closing (separated_of_head _ rfl (by decide))
    rw [List.append_nil] at hclosed
    refine ⟨.opening :: ([.clause .plus].intercalate (bound :: others) ++ [.closing]), cs, ?_, ?_,
      takeColumns_cons rfl _, ?_, ?_⟩
    · rw [hsum, Expr.text, Expr.text, String.append_assoc, String.toList_append, String.toList_append]
      exact bindsTo_opening.prepend hclosed (separated_of_getLast _ rfl (by decide))
    · rw [readSum, List.getLast?_concat, if_pos rfl, List.dropLast_concat,
        List.splitOn_intercalate _ hplus (List.cons_ne_nil _ _), hcs]
    · simpa using hothers .naming (by decide)
    · intro metadata row
      rw [htotal, hsum, Expr.value, Expr.value]

end Sums

/-- The tokens of expressions with an operator between them, and the condition that they make. -/
theorem exists_joinTokens (o : Operator) {e : Expr} {es : List Expr} (h : ∀ a ∈ e :: es, ∃ c, a.ReadsAs c) :
    ∃ bound c, BindsTo (Expr.textJoin o.text (e :: es)).toList (Expr.paramsOfAll (e :: es)) bound ∧
      Condition.ofTokens bound = some c ∧ (∀ k, .clause k ∉ bound) ∧
      ∀ metadata row, c.holds metadata row none =
        es.foldl (fun b e => o.combine b (e.isTrue metadata row)) (e.isTrue metadata row) := by
  obtain ⟨first, hfirst, hholds⟩ := h e List.mem_cons_self
  obtain ⟨c, ⟨bound, hbinds, hreads⟩, hfold⟩ :=
    exists_isChain (fun e he => h e (List.mem_cons_of_mem _ he)) (hfirst.chain (o := o))
  obtain ⟨last, level, hlast, -, -, -, -, hwhole⟩ := hreads false false [] (by decide)
  refine ⟨bound, c, ?_, ?_, Reading.clause_not_mem hlast, fun metadata row => ?_⟩
  · rw [toList_textJoin]
    exact hbinds
  · have hinitial : bound.foldlM Reading.step .initial = _ := hlast
    rw [Condition.ofTokens, hinitial, ← hwhole]
    rfl
  · rw [hfold, hholds]

section Order

variable {metadata : List MetaRow} {rest : List OrderTerm} {a b : ResultRow} {as bs : List Int}

theorem neg_beq_neg (x y : Int) : (-x == -y) = (x == y) := by
  rw [Bool.eq_iff_iff, beq_iff_eq, beq_iff_eq, Int.neg_inj]

theorem mayPrecede_id : mayPrecede metadata [⟨.id, false⟩] a b = keyLe [a.row.id] [b.row.id] := by
  simp [mayPrecede, OrderTerm.isBefore, OrderKey.value, isBefore, keyLe]

/-- Times in falling order, with missing ones behind, are compared like their keys. -/
theorem mayPrecede_published (h : mayPrecede metadata rest a b = keyLe as bs) :
    mayPrecede metadata (⟨.published, true⟩ :: rest) a b =
      keyLe (Select.timeKey a.row.published ++ as) (Select.timeKey b.row.published ++ bs) := by
  rw [mayPrecede, h]
  simp only [OrderTerm.isBefore, OrderKey.value, if_true]
  cases a.row.published with
  | none => cases b.row.published <;> simp [isBefore, Select.timeKey, keyLe]
  | some x =>
    cases b.row.published with
    | none => simp [isBefore, Select.timeKey, keyLe]
    | some y => simp [isBefore, Select.timeKey, keyLe, neg_beq_neg]

theorem mayPrecede_matchCount (h : mayPrecede metadata rest a b = keyLe as bs) :
    mayPrecede metadata (⟨.matchCount, true⟩ :: rest) a b = keyLe (-a.matchCount :: as) (-b.matchCount :: bs) := by
  rw [mayPrecede, h]
  simp [OrderTerm.isBefore, OrderKey.value, isBefore, keyLe, neg_beq_neg]

theorem mayPrecede_choice {c : Condition} {holds : ResultRow → Bool}
    (hc : ∀ r : ResultRow, c.holds metadata r.row none = holds r) (h : mayPrecede metadata rest a b = keyLe as bs) :
    mayPrecede metadata (⟨.choice c 0 1, false⟩ :: rest) a b =
      keyLe ((if holds a then 0 else 1) :: as) ((if holds b then 0 else 1) :: bs) := by
  rw [mayPrecede, h]
  simp only [OrderTerm.isBefore, OrderKey.value, hc]
  cases holds a <;> cases holds b <;> simp [isBefore, keyLe]

/-- The keys of a row behind the one by its title. -/
def Select.lastKey (q : Select) (r : ResultRow) : List Int :=
  (if q.byMatchCount then [-r.matchCount] else []) ++ (timeKey r.row.published ++ [r.row.id])

theorem scans_lastTerms : Scans "r.published_at DESC, r.id".toList
    [.clause .published, .clause .descending, .comma, .id .record] := by
  intro done rest hrest
  have hword : Token.ofWord? "r.id".toList = some (.id .record) := rfl
  exact Eq.trans rfl (run_word hword (hrest.head rfl (by decide)))

theorem bindsTo_lastTerms : BindsTo "r.published_at DESC, r.id".toList []
    [.clause .published, .clause .descending, .comma, .id .record] :=
  ⟨by decide, rfl, _, scans_lastTerms, rfl⟩

theorem bindsTo_matchCountTerm :
    BindsTo "match_count DESC, ".toList [] [.clause .matchCount, .clause .descending, .comma] :=
  ⟨by decide, rfl, [.clause .matchCount, .clause .descending, .comma], fun _ _ _ => rfl, rfl⟩

/-- The terms of an order that stand behind the choice by titles. -/
def Select.lastTexts (q : Select) : List String :=
  (if q.byMatchCount then ["match_count DESC"] else []) ++ ["r.published_at DESC", "r.id"]

theorem Select.exists_lastTokens (q : Select) : ∃ bound terms, BindsTo (", ".intercalate q.lastTexts).toList [] bound ∧
    (bound.splitOn .comma).mapM OrderTerm.ofTokens? = some terms ∧ readOrder bound = some terms ∧
    .clause .limit ∉ bound ∧ ∀ metadata a b, mayPrecede metadata terms a b = keyLe (q.lastKey a) (q.lastKey b) := by
  have hlast (metadata : List MetaRow) (a b : ResultRow) :
      mayPrecede metadata [⟨.published, true⟩, ⟨.id, false⟩] a b = _ := mayPrecede_published mayPrecede_id
  cases hcount : q.byMatchCount with
  | false =>
    refine ⟨[.clause .published, .clause .descending, .comma, .id .record], [⟨.published, true⟩, ⟨.id, false⟩], ?_,
      by decide +kernel, by decide +kernel, by decide, fun metadata a b => ?_⟩
    · have htext : (", ".intercalate q.lastTexts).toList = "r.published_at DESC, r.id".toList := by
        rw [Select.lastTexts, hcount]
        decide
      rw [htext]
      exact bindsTo_lastTerms
    · rw [Select.lastKey, Select.lastKey, hcount]
      exact hlast metadata a b
  | true =>
    refine ⟨[.clause .matchCount, .clause .descending, .comma] ++
        [.clause .published, .clause .descending, .comma, .id .record],
      [⟨.matchCount, true⟩, ⟨.published, true⟩, ⟨.id, false⟩], ?_, by decide +kernel, by decide +kernel, by decide,
      fun metadata a b => ?_⟩
    · have htext : (", ".intercalate q.lastTexts).toList =
          "match_count DESC, ".toList ++ "r.published_at DESC, r.id".toList := by
        rw [Select.lastTexts, hcount]
        decide
      rw [htext]
      exact bindsTo_matchCountTerm.append bindsTo_lastTerms (separated_of_getLast _ rfl (by decide))
    · rw [Select.lastKey, Select.lastKey, hcount]
      exact mayPrecede_matchCount (hlast metadata a b)

theorem bindsTo_choice : BindsTo "CASE WHEN ".toList [] [.clause .choice, .clause .whenTrue] :=
  ⟨by decide, rfl, [.clause .choice, .clause .whenTrue], fun _ _ _ => rfl, rfl⟩

theorem bindsTo_choiceEnd : BindsTo " THEN 0 ELSE 1 END, ".toList []
    [.clause .thenTake, .number 0, .clause .elseTake, .number 1, .clause .choiceEnd, .comma] :=
  ⟨by decide, rfl, [.clause .thenTake, .number 0, .clause .elseTake, .number 1, .clause .choiceEnd, .comma],
    fun _ _ _ => rfl, rfl⟩

/-- The operand of a title test as it stands in an order. -/
def titleTest : String := "r.title LIKE ? ESCAPE '\\'"

theorem textJoin_titleTests (operands : List String) : Expr.textJoin Operator.or.text (operands.map (Expr.like .title)) =
    " OR ".intercalate (operands.map fun _ => titleTest) := by
  induction operands with
  | nil => rfl
  | cons operand operands ih =>
    cases operands with
    | nil => simp [Expr.textJoin, Expr.text, Column.text, titleTest]
    | cons next operands =>
      rw [List.map_cons, List.map_cons, Expr.textJoin, ← List.map_cons, ih]
      exact (String.intercalate_cons_cons ..).symm

theorem params_titleTests (operands : List String) :
    Expr.paramsOfAll (operands.map (Expr.like .title)) = operands.map .text := by
  induction operands with
  | nil => rfl
  | cons operand operands ih =>
    rw [List.map_cons, Expr.paramsOfAll, ih]
    rfl

theorem foldl_titleTests (metadata : List MetaRow) (row : RecordRow) (b : Bool) (operands : List String) :
    (operands.map (Expr.like .title)).foldl (fun b e => Operator.or.combine b (e.isTrue metadata row)) b =
      (b || operands.any fun operand => like operand row.title) := by
  induction operands generalizing b with
  | nil => simp
  | cons operand operands ih =>
    rw [List.map_cons, List.foldl_cons, ih, Expr.isTrue_like, List.any_cons, Operator.combine, Bool.or_assoc]
    rfl

theorem toList_orderTexts {q : Select} (h : q.titleFirst ≠ []) : (", ".intercalate q.orderTexts).toList =
    "CASE WHEN ".toList ++ ((" OR ".intercalate (q.titleFirst.map fun _ => titleTest)).toList ++
      (" THEN 0 ELSE 1 END, ".toList ++ (", ".intercalate q.lastTexts).toList)) := by
  have hend : " THEN 0 ELSE 1 END, ".toList = " THEN 0 ELSE 1 END".toList ++ ", ".toList := by decide
  obtain ⟨first, rest, hlast⟩ : ∃ first rest, q.lastTexts = first :: rest := by
    unfold Select.lastTexts
    cases q.byMatchCount <;> exact ⟨_, _, rfl⟩
  have htexts : q.orderTexts =
      ("CASE WHEN " ++ " OR ".intercalate (q.titleFirst.map fun _ => titleTest) ++ " THEN 0 ELSE 1 END") ::
        q.lastTexts := by
    simp [Select.orderTexts, Select.lastTexts, titleTest, h]
  rw [htexts, hlast, String.intercalate_cons_cons, hend]
  simp only [String.toList_append, List.append_assoc]

/-- The tokens of the order of a statement, and the terms that they make. -/
theorem Select.exists_orderTokens (q : Select) : ∃ bound terms,
    BindsTo (", ".intercalate q.orderTexts).toList (q.titleFirst.map .text) bound ∧ readOrder bound = some terms ∧
    .clause .limit ∉ bound ∧ ∀ metadata a b, mayPrecede metadata terms a b = keyLe (q.rowKey a) (q.rowKey b) := by
  obtain ⟨last, terms, hlast, hsplit, hread, hlimit, hterms⟩ := q.exists_lastTokens
  cases htitles : q.titleFirst with
  | nil =>
    refine ⟨last, terms, ?_, hread, hlimit, fun metadata a b => ?_⟩
    · have htexts : q.orderTexts = q.lastTexts := by simp [Select.orderTexts, Select.lastTexts, htitles]
      rw [htexts]
      exact hlast
    · rw [hterms, Select.rowKey, Select.rowKey, htitles]
      simp only [Select.lastKey, List.isEmpty_nil, if_true, List.nil_append, List.append_assoc]
  | cons operand operands =>
    have hreads : ∀ a ∈ Expr.like .title operand :: operands.map (Expr.like .title), ∃ c, a.ReadsAs c := by
      rw [← List.map_cons]
      exact List.forall_mem_map.mpr fun operand _ => ⟨_, readsAs_like .title operand⟩
    obtain ⟨bound, c, hbinds, hc, hclause, hholds⟩ := exists_joinTokens .or hreads
    rw [← List.map_cons, textJoin_titleTests, params_titleTests] at hbinds
    have hbehind := bindsTo_choiceEnd.prepend hlast (separated_of_getLast _ rfl (by decide))
    have htests := hbinds.append hbehind (separated_of_head _ rfl (by decide))
    rw [List.append_nil] at htests
    refine ⟨.clause .choice :: .clause .whenTrue :: (bound ++ .clause .thenTake :: .number 0 :: .clause .elseTake ::
      .number 1 :: .clause .choiceEnd :: .comma :: last), ⟨.choice c 0 1, false⟩ :: terms, ?_, ?_, ?_,
      fun metadata a b => ?_⟩
    · rw [toList_orderTexts (by simp [htitles]), htitles]
      exact bindsTo_choice.prepend htests (separated_of_getLast _ rfl (by decide))
    · rw [readOrder, cutAt?_append (hclause .thenTake)]
      simp only [Option.bind_eq_bind, Option.bind_some, hc, hsplit]
      rfl
    · simpa using ⟨hclause .limit, hlimit⟩
    · have hany (r : ResultRow) : c.holds metadata r.row none =
          (operand :: operands).any fun operand => like operand r.row.title := by
        rw [hholds, foldl_titleTests, Expr.isTrue_like, List.any_cons]
        rfl
      rw [mayPrecede_choice hany (hterms metadata a b), Select.rowKey, Select.rowKey, htitles]
      simp only [Select.lastKey, List.isEmpty_cons, Bool.false_eq_true, if_false, List.append_assoc, List.cons_append,
        List.nil_append]

end Order

theorem bindsTo_orderHead : BindsTo " ORDER BY ".toList [] [.clause .order, .clause .orderKey] :=
  ⟨by decide, rfl, [.clause .order, .clause .orderKey], fun _ _ _ => rfl, rfl⟩

theorem bindsTo_window (w : Window) : BindsTo " LIMIT ? OFFSET ?".toList [w.limit, w.offset]
    [.clause .limit, .value w.limit, .clause .offset, .value w.offset] :=
  ⟨by decide, rfl, [.clause .limit, .placeholder, .clause .offset, .placeholder], fun _ _ _ => rfl, rfl⟩

/-- What stands behind the conditions of a statement. -/
def Select.endText (q : Select) : String :=
  " ORDER BY " ++ ", ".intercalate q.orderTexts ++ (if q.window.isSome then " LIMIT ? OFFSET ?" else "")

def Select.endParams (q : Select) : List Param :=
  q.titleFirst.map .text ++ (match q.window with | some w => [w.limit, w.offset] | none => [])

theorem Select.exists_endTokens (q : Select) : ∃ bound terms,
    BindsTo q.endText.toList q.endParams (.clause .order :: bound) ∧ Statement.readEnd bound = some (terms, q.window) ∧
    ∀ metadata a b, mayPrecede metadata terms a b = keyLe (q.rowKey a) (q.rowKey b) := by
  obtain ⟨order, terms, horder, hread, hlimit, hterms⟩ := q.exists_orderTokens
  have hhead := bindsTo_orderHead.prepend horder (separated_of_getLast _ rfl (by decide))
  cases hwindow : q.window with
  | none =>
    refine ⟨.clause .orderKey :: order, terms, ?_, ?_, hterms⟩
    · rw [Select.endText, Select.endParams, hwindow, Option.isSome_none, if_neg Bool.false_ne_true, String.append_empty,
        String.toList_append, List.append_nil]
      exact hhead
    · rw [Statement.readEnd, cutWindow?, cutAt?_eq_none hlimit]
      simp only [Option.bind_eq_bind, Option.bind_some, hread]
      rfl
  | some w =>
    refine ⟨.clause .orderKey :: (order ++ [.clause .limit, .value w.limit, .clause .offset, .value w.offset]), terms,
      ?_, ?_, hterms⟩
    · rw [Select.endText, Select.endParams, hwindow, Option.isSome_some, if_pos rfl, String.toList_append,
        String.toList_append]
      exact hhead.append (bindsTo_window w) (separated_of_head _ rfl (by decide))
    · rw [Statement.readEnd, cutWindow?, cutAt?_append hlimit]
      simp only [Option.bind_eq_bind, Option.bind_some, hread]
      rfl

/-- The columns of a result, as they stand in the text of a statement. -/
def recordColumns : List ResultColumn :=
  [.id, .text .type, .text .title, .text .excerpt, .text .body, .text .password, .published]

def columnTokens : List Token :=
  [.id .record, .comma, .text (.record .type), .comma, .text (.record .title), .comma, .text (.record .excerpt), .comma,
    .text (.record .body), .comma, .text (.record .password), .comma, .clause .published, .comma]

theorem bindsTo_columns : BindsTo ("SELECT ".toList ++ (Select.columnsText.toList ++ ", ".toList)) []
    (.select :: columnTokens) :=
  ⟨by decide, by decide +kernel, .select :: columnTokens, fun _ _ _ => rfl, rfl⟩

theorem bindsTo_table : BindsTo " AS match_count FROM records r WHERE ".toList []
    [.clause .naming, .clause .matchCount, .source, .clause .recordTable, .clause .recordAlias, .restrict] :=
  ⟨by decide, rfl,
    [.clause .naming, .clause .matchCount, .source, .clause .recordTable, .clause .recordAlias, .restrict],
    fun _ _ _ => rfl, rfl⟩

theorem takeColumns_columnTokens (rest : List Token) (h : takeColumns rest = ([], rest)) :
    takeColumns (columnTokens ++ rest) = (recordColumns, rest) := by
  simp only [columnTokens, List.cons_append, List.nil_append, takeColumns, ResultColumn.ofToken?, h, recordColumns]

/-- A statement has the columns of a record, and selects, counts, compares and shows rows as a compiled one does. -/
structure Statement.Means (s : Statement) (q : Select) : Prop where
  columns : s.columns = recordColumns
  matchCount : ∀ metadata row, s.matchCount metadata row = q.matchCount.value metadata row
  condition : ∀ metadata row, s.condition.holds metadata row none = Expr.allNonzero metadata row q.conditions
  order : ∀ metadata a b, mayPrecede metadata s.order a b = keyLe (q.rowKey a) (q.rowKey b)
  window : s.window = q.window

/-- The text of a statement is read with its parameters, and with its meaning. -/
theorem Select.IsReadable.exists_readStatement {q : Select} (h : q.IsReadable) :
    ∃ s, readStatement q.text q.params = some s ∧ s.Means q := by
  obtain ⟨counting, addends, hcount, haddends, hcolumns, hnaming, hsum⟩ := h.exists_countTokens
  obtain ⟨e, es, hconditions, hreads⟩ := h.conditions
  obtain ⟨selecting, c, hselect, hc, hclause, hholds⟩ := exists_joinTokens .and hreads
  obtain ⟨ending, terms, hend, hread, hterms⟩ := q.exists_endTokens
  have htext : q.text.toList = ("SELECT ".toList ++ (Select.columnsText.toList ++ ", ".toList)) ++
      (q.matchCount.text.toList ++ (" AS match_count FROM records r WHERE ".toList ++
        ((Expr.textJoin Operator.and.text (e :: es)).toList ++ q.endText.toList))) := by
    rw [Select.text, hconditions, Select.endText]
    simp only [String.toList_append, List.append_assoc]
    rfl
  have hparams : q.params = q.matchCount.params ++ (Expr.paramsOfAll (e :: es) ++ q.endParams) := by
    cases hwindow : q.window <;> simp [Select.params, Select.endParams, hconditions, hwindow]
  have hfirst : q.endText.toList.head? = some ' ' := by
    rw [Select.endText, String.append_assoc, String.toList_append]
    rfl
  have hbehind := hselect.append hend (separated_of_head _ hfirst (by decide))
  have htable := bindsTo_table.prepend hbehind (separated_of_getLast _ rfl (by decide))
  have hcounting := hcount.append htable (separated_of_head _ rfl (by decide))
  have hbinds := bindsTo_columns.prepend hcounting (separated_of_getLast _ rfl (by decide))
  rw [← htext, ← hparams] at hbinds
  refine ⟨⟨recordColumns, addends, c, terms, q.window⟩, ?_, rfl, hsum, fun metadata row => ?_, hterms, rfl⟩
  · have hcut (behind : List Token) : cutAt? (.clause .naming) (columnTokens ++ (counting ++ .clause .naming :: behind)) =
        some (columnTokens ++ counting, behind) := by
      rw [← List.append_assoc]
      exact cutAt?_append (by simpa [columnTokens] using hnaming) _
    rw [readStatement, hbinds.readTokens, Option.bind_some, List.cons_append, Statement.ofTokens]
    simp only [List.cons_append, List.nil_append, hcut, Option.bind_eq_bind, Option.bind_some,
      takeColumns_columnTokens counting hcolumns, haddends, afterTable?, cutAt?_append (hclause .order), hread, hc]
    rfl
  · rw [hholds, foldl_combine_and, hconditions, Expr.allNonzero, Expr.isTrue]

theorem readsAs_among (column : Column) (o : String) (rest : List String) :
    (Expr.among column (o :: rest)).ReadsAs (.among (.record column) (o :: rest)) := by
  refine ⟨?_, fun metadata row => ?_⟩
  · have htext : (Expr.among column (o :: rest)).text.toList =
        column.text.toList ++ (" IN (".toList ++ ((placeholders (o :: rest).length).toList ++ ")".toList)) := by
      rw [Expr.text]
      simp only [String.toList_append, List.append_assoc]
    rw [htext]
    exact (names_column column).among o rest
  · rw [Expr.isTrue, Expr.value, Expr.ofBool_ne_zero]
    rfl

theorem readsAs_isEmptyText (column : Column) :
    (Expr.isEmptyText column).ReadsAs (.among (.record column) [""]) := by
  refine ⟨?_, fun metadata row => ?_⟩
  · rw [Expr.text, String.toList_append]
    exact (names_column column).equalsEmpty
  · rw [Expr.isTrue, Expr.value, Expr.ofBool_ne_zero, Condition.holds, TextColumn.get, Option.any_some]
    rw [Bool.eq_iff_iff]
    simp

/-- The statements of plans are readable. -/
theorem isReadable_ofPlan {plan : Plan} {metaKeys : List String} {scope : Scope} {window : Option Window} {q : Select}
    (h : plan.IsProper) (hq : ofPlan plan metaKeys scope window = .ok q) : q.IsReadable := by
  obtain ⟨counter, condition, hcounter, hcondition, rfl⟩ := ofPlan_eq_ok_iff.mp hq
  refine ⟨?_, condition, (if scope.types.isEmpty then [] else [.among .type scope.types]) ++
    (if scope.includeProtected then [] else [.isEmptyText .password]), rfl, ?_⟩
  · cases hranking : plan.ranking with
    | none =>
      rw [hranking] at hcounter
      exact .inl (Except.ok.inj hcounter).symm
    | some tests =>
      obtain ⟨es, hes, haddends⟩ := exists_mapM_ofTest (h.ranking tests hranking) metaKeys
      rw [hranking, ofRanking, hes] at hcounter
      obtain rfl := Except.ok.inj hcounter
      cases es with
      | nil => exact .inl rfl
      | cons e es => exact .inr ⟨e, es, rfl, haddends⟩
  · obtain ⟨same, hsame, hproper⟩ := exists_ofPredicate h.predicate metaKeys
    obtain rfl := Except.ok.inj (hsame.symm.trans hcondition)
    intro a ha
    simp only [List.mem_cons, List.mem_append] at ha
    rcases ha with rfl | htypes | hpassword
    · exact hproper.exists_readsAs
    · cases htypes' : scope.types with
      | nil => simp [htypes'] at htypes
      | cons first rest =>
        rw [htypes', List.isEmpty_cons, if_neg Bool.false_ne_true, List.mem_singleton] at htypes
        exact htypes ▸ ⟨_, readsAs_among .type first rest⟩
    · cases hscope : scope.includeProtected with
      | true => simp [hscope] at hpassword
      | false =>
        rw [hscope, if_neg Bool.false_ne_true, List.mem_singleton] at hpassword
        exact hpassword ▸ ⟨_, readsAs_isEmptyText .password⟩

/-- The text of the statement of a plan is read with its parameters, and with its meaning. -/
theorem exists_readStatement_ofPlan {plan : Plan} {metaKeys : List String} {scope : Scope} {window : Option Window}
    {q : Select} (h : plan.IsProper) (hq : ofPlan plan metaKeys scope window = .ok q) :
    ∃ s, readStatement q.text q.params = some s ∧ s.Means q := (isReadable_ofPlan h hq).exists_readStatement

end TermSearch.Sql
