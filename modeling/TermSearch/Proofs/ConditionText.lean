import TermSearch.Proofs.CompiledCondition
import TermSearch.Proofs.ConditionTokens

/-! The texts of compiled predicates, read again. Every compiled predicate is an operand: wherever it stands, its text
is read as one condition with its own parameters, so that nesting changes neither. -/
namespace TermSearch.Sql

open Query (Field Predicate)
open Store (Tables)

theorem bindsTo_opening : BindsTo "(".toList [] [.opening] :=
  ⟨by decide, rfl, [.opening], fun _ _ _ => rfl, rfl⟩

theorem bindsTo_closing : BindsTo ")".toList [] [.closing] :=
  ⟨by decide, rfl, [.closing], fun _ _ _ => rfl, rfl⟩

def Operator.text : Operator → String
  | and => " AND "
  | or => " OR "

theorem bindsTo_operator (o : Operator) : BindsTo o.text.toList [] [.operator o] := by
  cases o with
  | and => exact ⟨by decide, rfl, [.operator .and], fun _ _ _ => rfl, rfl⟩
  | or => exact ⟨by decide, rfl, [.operator .or], fun _ _ _ => rfl, rfl⟩

theorem separated_operator (a : List Char) (o : Operator) : Separated a o.text.toList := by
  cases o <;> exact separated_of_head a rfl (by decide)

theorem operator_separated (o : Operator) (b : List Char) : Separated o.text.toList b := by
  cases o <;> exact separated_of_getLast b rfl (by decide)

/-- A text that is read as a whole condition where an operand is due. Some conditions are such only within
`EXISTS`. -/
def IsOperand (inExist : Bool) (chars : List Char) (params : List Param) (c : Condition) : Prop :=
  ∃ bound, BindsTo chars params bound ∧ ∀ s : Reading, s.progress = .start →
    (inExist = true → s.level.inExist = true) → bound.foldlM Reading.step s = some (s.complete c)

/-- An operand that no operator around it takes apart, for it begins as such. -/
def IsEnclosed (inExist : Bool) (chars : List Char) (params : List Param) (c : Condition) : Prop :=
  ∃ bound, BindsTo chars params bound ∧ (∃ t ∈ bound.head?, t.isEnclosing = true) ∧ ∀ s : Reading, s.progress = .start →
    (inExist = true → s.level.inExist = true) → bound.foldlM Reading.step s = some (s.complete c)

/-- A level on which nothing but one operator has been read. -/
def Level.IsOf (l : Level) : Operator → Prop
  | .and => l.either = none
  | .or => l.both = none

/-- Operands with one operator between them, read from an opened parenthesis on. -/
def IsChain (o : Operator) (inExist : Bool) (chars : List Char) (params : List Param) (c : Condition) : Prop :=
  ∃ bound, BindsTo chars params bound ∧ ∀ ofExist within outer, (inExist = true → within = true) →
    ∃ last level, bound.foldlM Reading.step ⟨.start, ⟨ofExist, within, none, none, 0⟩, outer⟩ =
        some ⟨.complete last, level, outer⟩ ∧
      level.ofExist = ofExist ∧ level.inExist = within ∧ level.nots = 0 ∧ level.IsOf o ∧ level.whole last = c

theorem Level.isOf_after {l : Level} {o : Operator} (h : l.IsOf o) (c : Condition) : (l.after c o).IsOf o := by
  cases o with
  | and => exact h
  | or => rfl

/-- Behind an operator an operand is joined to all that stands before it. -/
theorem Level.whole_after {l : Level} {o : Operator} (h : l.IsOf o) (c d : Condition) :
    (l.after c o).whole d = .join o (l.whole c) d := by
  cases o with
  | and =>
    have hnone : l.either = none := h
    simp only [after, whole, conjunction, hnone]
  | or => rfl

variable {o : Operator} {inExist : Bool} {chars : List Char} {params : List Param} {c : Condition}

theorem IsEnclosed.isOperand (h : IsEnclosed inExist chars params c) : IsOperand inExist chars params c := by
  obtain ⟨bound, hbinds, -, hreads⟩ := h
  exact ⟨bound, hbinds, hreads⟩

theorem IsOperand.chain (h : IsOperand inExist chars params c) : IsChain o inExist chars params c := by
  obtain ⟨bound, hbinds, hreads⟩ := h
  refine ⟨bound, hbinds, fun ofExist within outer hwithin => ?_⟩
  refine ⟨c, _, hreads _ rfl hwithin, rfl, rfl, rfl, ?_, rfl⟩
  cases o <;> rfl

theorem IsChain.snoc {chars' : List Char} {params' : List Param} {c' : Condition}
    (h : IsChain o inExist chars params c) (h' : IsOperand inExist chars' params' c') :
    IsChain o inExist (chars ++ (o.text.toList ++ chars')) (params ++ params') (.join o c c') := by
  obtain ⟨bound, hbinds, hreads⟩ := h
  obtain ⟨bound', hbinds', hreads'⟩ := h'
  have htail := (bindsTo_operator o).prepend hbinds' (operator_separated o chars')
  have hsep : Separated chars (o.text.toList ++ chars') :=
    (separated_operator chars o).append_right (bindsTo_operator o).1
  refine ⟨bound ++ ([.operator o] ++ bound'), hbinds.append htail hsep, fun ofExist within outer hwithin => ?_⟩
  obtain ⟨last, level, hfold, hof, hin, hnots, hpure, hwhole⟩ := hreads ofExist within outer hwithin
  have hinAfter : (level.after last o).inExist = within := by cases o <;> exact hin
  have hnotsAfter : (level.after last o).nots = 0 := by cases o <;> exact hnots
  have hnext := hreads' ⟨.start, level.after last o, outer⟩ rfl fun hinner => hinAfter.trans (hwithin hinner)
  rw [Reading.complete, hnotsAfter] at hnext
  refine ⟨c', { level.after last o with nots := 0 }, ?_, ?_, hinAfter, rfl, ?_, ?_⟩
  · rw [List.foldlM_append, hfold]
    exact hnext
  · cases o <;> exact hof
  · have hafter := Level.isOf_after hpure last
    cases o <;> exact hafter
  · have hjoin := Level.whole_after hpure last c'
    rw [hwhole] at hjoin
    exact hjoin

/-- Behind an opened parenthesis a chain is read up to its end, and is an operand of the level around it. -/
theorem IsChain.closed (h : IsChain o inExist chars params c) :
    ∃ bound, BindsTo (chars ++ ")".toList) params bound ∧
      ∀ ofExist within level outer, (inExist = true → within = true) →
        bound.foldlM Reading.step ⟨.start, ⟨ofExist, within, none, none, 0⟩, level :: outer⟩ =
          some (Reading.complete ⟨.start, level, outer⟩ (if ofExist then .exist c else c)) := by
  obtain ⟨bound, hbinds, hreads⟩ := h
  have hclosed := hbinds.append bindsTo_closing (separated_of_head chars rfl (by decide))
  rw [List.append_nil] at hclosed
  refine ⟨bound ++ [.closing], hclosed, fun ofExist within level outer hwithin => ?_⟩
  obtain ⟨last, inner, hfold, hof, -, -, -, hwhole⟩ := hreads ofExist within (level :: outer) hwithin
  have hpop : Reading.step ⟨.complete last, inner, level :: outer⟩ .closing =
      some (Reading.complete ⟨.start, level, outer⟩
        (if inner.ofExist then .exist (inner.whole last) else inner.whole last)) := rfl
  rw [List.foldlM_append, hfold, ← hof, ← hwhole]
  change (Reading.step ⟨.complete last, inner, level :: outer⟩ .closing).bind some = _
  rw [hpop, Option.bind_some]

/-- A chain between parentheses is an operand. -/
theorem IsChain.group (h : IsChain o inExist chars params c) :
    IsEnclosed inExist ("(".toList ++ (chars ++ ")".toList)) params c := by
  obtain ⟨bound, hbinds, hreads⟩ := h.closed
  refine ⟨[.opening] ++ bound, bindsTo_opening.prepend hbinds (separated_of_getLast _ rfl (by decide)),
    ⟨.opening, rfl, rfl⟩, ?_⟩
  rintro ⟨progress, level, outer⟩ rfl hwithin
  refine hreads false (level.inExist || false) level outer fun hinner => ?_
  rw [Bool.or_false]
  exact hwithin hinner

theorem bindsTo_exist : BindsTo "EXISTS (SELECT 1 FROM record_meta m WHERE ".toList []
    [.exist, .opening, .select, .number 1, .source, .metaTable, .metaAlias, .restrict] :=
  ⟨by decide, rfl, [.exist, .opening, .select, .number 1, .source, .metaTable, .metaAlias, .restrict],
    fun _ _ _ => rfl, rfl⟩

/-- A chain over metadata rows within `EXISTS` is an operand outside of it. -/
theorem IsChain.exist (h : IsChain o true chars params c) :
    IsEnclosed false ("EXISTS (SELECT 1 FROM record_meta m WHERE ".toList ++ (chars ++ ")".toList)) params
      (.exist c) := by
  obtain ⟨bound, hbinds, hreads⟩ := h.closed
  refine ⟨_ ++ bound, bindsTo_exist.prepend hbinds (separated_of_getLast _ rfl (by decide)), ⟨.exist, rfl, rfl⟩, ?_⟩
  rintro ⟨progress, level, outer⟩ rfl -
  exact hreads true (level.inExist || true) level outer fun _ => Bool.or_true _

theorem bindsTo_not : BindsTo "NOT ".toList [] [.not] :=
  ⟨by decide, rfl, [.not], fun _ _ _ => rfl, rfl⟩

theorem IsOperand.not (h : IsOperand inExist chars params c) :
    IsOperand inExist ("NOT ".toList ++ chars) params (.not c) := by
  obtain ⟨bound, hbinds, hreads⟩ := h
  refine ⟨[.not] ++ bound, bindsTo_not.prepend hbinds (separated_of_getLast _ rfl (by decide)), ?_⟩
  rintro ⟨progress, level, outer⟩ rfl hwithin
  exact hreads ⟨.start, { level with nots := level.nots + 1 }, outer⟩ rfl hwithin

theorem isOperand_number {n : Nat} (hne : chars ≠ []) (hcount : chars.count '?' = 0)
    (hscan : Scans chars [.number n]) : IsOperand false chars [] (.number n) := by
  refine ⟨[.number n], ⟨hne, hcount, [.number n], hscan, rfl⟩, ?_⟩
  rintro ⟨progress, level, outer⟩ rfl -
  rfl

theorem scans_zero : Scans "0".toList [.number 0] :=
  fun _ _ h => run_word rfl (h.head rfl (by decide))

theorem scans_one : Scans "1".toList [.number 1] :=
  fun _ _ h => run_word rfl (h.head rfl (by decide))

/-- The name of a column in front of a blank, at a place where the column may be named. -/
structure Names (inExist : Bool) (name : List Char) (column : TextColumn) : Prop where
  count : name.count '?' = 0
  scan : ∀ done rest, Scan.run done .between (name ++ ' ' :: rest) =
    Scan.run (.text column :: done) .between (' ' :: rest)
  step : ∀ level outer, (inExist = true → level.inExist = true) →
    Reading.step ⟨.start, level, outer⟩ (.text column) = some ⟨.text column, level, outer⟩

theorem names_column (column : Column) : Names false column.text.toList (.record column) := by
  cases column <;> exact ⟨by decide, fun _ _ => rfl, fun _ _ _ => rfl⟩

theorem names_metaKey : Names true "m.meta_key".toList .metaKey :=
  ⟨by decide, fun _ _ => rfl, fun _ _ h => if_pos (h rfl)⟩

theorem names_metaValue : Names true "m.meta_value".toList .metaValue :=
  ⟨by decide, fun _ _ => rfl, fun _ _ h => if_pos (h rfl)⟩

variable {name : List Char} {column : TextColumn}

theorem Names.like (h : Names inExist name column) (operand : String) :
    IsOperand inExist (name ++ " LIKE ? ESCAPE '\\'".toList) [.text operand] (.like column operand) := by
  refine ⟨[.text column, .like, .value (.text operand), .escape, .literal ['\\']],
    ⟨List.append_ne_nil_of_right_ne_nil _ (by decide), ?_,
      [.text column, .like, .placeholder, .escape, .literal ['\\']], ?_, rfl⟩, ?_⟩
  · rw [List.count_append, h.count]
    rfl
  · intro done rest hrest
    rw [List.append_assoc]
    refine (h.scan done _).trans ?_
    refine run_ending (hrest.head (x := textMark) ?_ (by decide))
    rw [List.getLast?_append_of_ne_nil _ (by decide)]
    rfl
  · rintro ⟨progress, level, outer⟩ rfl hwithin
    rw [List.foldlM_cons, h.step level outer hwithin]
    rfl

theorem Names.equalsEmpty (h : Names inExist name column) :
    IsOperand inExist (name ++ " = ''".toList) [] (.among column [""]) := by
  refine ⟨[.text column, .equals, .literal []],
    ⟨List.append_ne_nil_of_right_ne_nil _ (by decide), ?_, [.text column, .equals, .literal []], ?_, rfl⟩, ?_⟩
  · rw [List.count_append, h.count]
    rfl
  · intro done rest hrest
    rw [List.append_assoc]
    refine (h.scan done _).trans ?_
    refine run_ending (hrest.head (x := textMark) ?_ (by decide))
    rw [List.getLast?_append_of_ne_nil _ (by decide)]
    rfl
  · rintro ⟨progress, level, outer⟩ rfl hwithin
    rw [List.foldlM_cons, h.step level outer hwithin]
    rfl

/-- The test by which a metadata row belongs to the record. -/
theorem isOperand_equal : IsOperand true "m.record_id = r.id".toList [] (.equal .metadata .record) := by
  refine ⟨[.id .metadata, .equals, .id .record],
    ⟨by decide, rfl, [.id .metadata, .equals, .id .record], ?_, rfl⟩, ?_⟩
  · intro done rest hrest
    have hword : Token.ofWord? "r.id".toList = some (.id .record) := rfl
    exact Eq.trans rfl (run_word hword (hrest.head rfl (by decide)))
  · rintro ⟨progress, level, outer⟩ rfl hwithin
    have hstep : Reading.step ⟨.start, level, outer⟩ (.id .metadata) = some ⟨.id .metadata, level, outer⟩ :=
      if_pos (Or.inr (hwithin rfl))
    rw [List.foldlM_cons, hstep]
    rfl

theorem toList_placeholders (n : Nat) :
    (placeholders (n + 2)).toList = "?, ".toList ++ (placeholders (n + 1)).toList := by
  rw [placeholders, List.replicate_succ, List.replicate_succ, String.intercalate_cons_cons, String.append_assoc,
    String.toList_append, String.toList_append]
  rfl

/-- The placeholders of a list, up to the parenthesis behind it. -/
theorem exists_options (o : String) (rest : List String) : ∃ bound,
    BindsTo ((placeholders (o :: rest).length).toList ++ ")".toList) ((o :: rest).map .text) bound ∧
      ∀ column before level outer, bound.foldlM Reading.step ⟨.options column before, level, outer⟩ =
        some (Reading.complete ⟨.start, level, outer⟩ (.among column (before ++ o :: rest))) := by
  induction rest generalizing o with
  | nil =>
    have htext : (placeholders 1).toList ++ ")".toList = "?)".toList := by decide
    rw [List.length_singleton, htext]
    refine ⟨[.value (.text o), .closing], ⟨by decide, rfl, [.placeholder, .closing], fun _ _ _ => rfl, rfl⟩, ?_⟩
    exact fun _ _ _ _ => rfl
  | cons next rest ih =>
    obtain ⟨bound, hbinds, hreads⟩ := ih next
    have hfirst : BindsTo "?, ".toList [.text o] [.value (.text o), .comma] :=
      ⟨by decide, rfl, [.placeholder, .comma], fun _ _ _ => rfl, rfl⟩
    have htext : (placeholders (o :: next :: rest).length).toList ++ ")".toList =
        "?, ".toList ++ ((placeholders (next :: rest).length).toList ++ ")".toList) := by
      rw [List.length_cons, List.length_cons, toList_placeholders, List.append_assoc]
    rw [htext]
    refine ⟨_, hfirst.append hbinds (separated_of_getLast _ rfl (by decide)), fun column before level outer => ?_⟩
    have hnext := hreads column (before ++ [o]) level outer
    rw [List.append_assoc, List.singleton_append] at hnext
    exact hnext

theorem Names.among (h : Names inExist name column) (o : String) (rest : List String) : IsOperand inExist
      (name ++ (" IN (".toList ++ ((placeholders (o :: rest).length).toList ++ ")".toList)))
      ((o :: rest).map .text) (.among column (o :: rest)) := by
  obtain ⟨bound, hbinds, hreads⟩ := exists_options o rest
  have hhead : BindsTo (name ++ " IN (".toList) [] [.text column, .isIn, .opening] := by
    refine ⟨List.append_ne_nil_of_right_ne_nil _ (by decide), ?_, [.text column, .isIn, .opening], ?_, rfl⟩
    · rw [List.count_append, h.count]
      rfl
    · intro done rest _
      rw [List.append_assoc]
      exact h.scan done _
  have hsep : Separated (name ++ " IN (".toList) ((placeholders (o :: rest).length).toList ++ ")".toList) := by
    refine separated_of_getLast _ (x := '(') ?_ (by decide)
    rw [List.getLast?_append_of_ne_nil _ (by decide)]
    rfl
  rw [← List.append_assoc]
  refine ⟨_, hhead.prepend hbinds hsep, ?_⟩
  rintro ⟨progress, level, outer⟩ rfl hwithin
  rw [List.cons_append, List.foldlM_cons, h.step level outer hwithin]
  exact hreads column [] level outer

/-- An expression whose text is an operand with the meaning of the expression. -/
def Expr.ReadsAs (e : Expr) (c : Condition) : Prop :=
  IsOperand false e.text.toList e.params c ∧
    ∀ metadata row, c.holds metadata row none = e.isTrue metadata row

/-- An expression that is read with its meaning, and that no operator around it takes apart. -/
def Expr.ReadsAsEnclosed (e : Expr) (c : Condition) : Prop :=
  IsEnclosed false e.text.toList e.params c ∧
    ∀ metadata row, c.holds metadata row none = e.isTrue metadata row

theorem Expr.ReadsAsEnclosed.readsAs {e : Expr} (h : e.ReadsAsEnclosed c) : e.ReadsAs c := ⟨h.1.isOperand, h.2⟩

theorem Expr.isTrue_like (metadata : List MetaRow) (row : RecordRow) (column : Column) (operand : String) :
    (Expr.like column operand).isTrue metadata row = Sql.like operand (row.get column) := by
  rw [Expr.isTrue, Expr.value, Expr.ofBool_ne_zero]

theorem readsAs_like (column : Column) (operand : String) :
    (Expr.like column operand).ReadsAs (.like (.record column) operand) := by
  refine ⟨?_, fun metadata row => ?_⟩
  · rw [Expr.text, String.toList_append]
    exact (names_column column).like operand
  · exact (Expr.isTrue_like metadata row column operand).symm

theorem readsAs_group_like (column : Column) (operand : String) :
    (Expr.group (.like column operand)).ReadsAsEnclosed (.like (.record column) operand) := by
  obtain ⟨hlike, hholds⟩ := readsAs_like column operand
  refine ⟨?_, hholds⟩
  rw [Expr.text, String.append_assoc, String.toList_append, String.toList_append]
  exact (hlike.chain (o := .and)).group

theorem toList_existHead : "EXISTS (SELECT 1 FROM record_meta m WHERE m.record_id = r.id".toList =
    "EXISTS (SELECT 1 FROM record_meta m WHERE ".toList ++ "m.record_id = r.id".toList := by decide

theorem toList_existTail : " AND m.meta_value LIKE ? ESCAPE '\\')".toList = Operator.and.text.toList ++
    ("m.meta_value".toList ++ (" LIKE ? ESCAPE '\\'".toList ++ ")".toList)) := by decide

/-- Without keys, a test on metadata is a chain of two operands within `EXISTS`. -/
theorem toList_metaLikeText_zero : (metaLikeText 0).toList =
    "EXISTS (SELECT 1 FROM record_meta m WHERE ".toList ++ (("m.record_id = r.id".toList ++
      (Operator.and.text.toList ++ ("m.meta_value".toList ++ " LIKE ? ESCAPE '\\'".toList))) ++ ")".toList) := by
  unfold metaLikeText
  rw [if_pos rfl, String.append_empty, String.toList_append, toList_existHead, toList_existTail]
  simp only [List.append_assoc]

/-- With keys, it is a chain of three. -/
theorem toList_metaLikeText_succ (n : Nat) : (metaLikeText (n + 1)).toList =
    "EXISTS (SELECT 1 FROM record_meta m WHERE ".toList ++ ((("m.record_id = r.id".toList ++
      (Operator.and.text.toList ++
        ("m.meta_key".toList ++ (" IN (".toList ++ ((placeholders (n + 1)).toList ++ ")".toList))))) ++
      (Operator.and.text.toList ++ ("m.meta_value".toList ++ " LIKE ? ESCAPE '\\'".toList))) ++ ")".toList) := by
  have hkeys : " AND m.meta_key IN (".toList =
      Operator.and.text.toList ++ ("m.meta_key".toList ++ " IN (".toList) := by decide
  unfold metaLikeText
  rw [if_neg (Nat.succ_ne_zero n), String.toList_append, String.toList_append, String.toList_append,
    String.toList_append, toList_existHead, hkeys, toList_existTail]
  simp only [List.append_assoc]

def metaCondition (keys : List String) (operand : String) : Condition :=
  let own : Condition := .equal .metadata .record
  .exist (.join .and (if keys.isEmpty then own else .join .and own (.among .metaKey keys))
    (.like .metaValue operand))

theorem holds_metaCondition (metadata : List MetaRow) (row : RecordRow) (keys : List String) (operand : String) :
    (metaCondition keys operand).holds metadata row none = (Expr.metaLike keys operand).isTrue metadata row := by
  rw [Expr.isTrue, Expr.value, Expr.ofBool_ne_zero, metaCondition, Condition.holds]
  refine congrArg metadata.any (funext fun m => ?_)
  cases keys with
  | nil => simp [Condition.holds, Operator.combine, IdColumn.get, TextColumn.get]
  | cons key keys => simp [Condition.holds, Operator.combine, IdColumn.get, TextColumn.get]

theorem readsAs_metaLike (keys : List String) (operand : String) :
    (Expr.metaLike keys operand).ReadsAsEnclosed (metaCondition keys operand) := by
  refine ⟨?_, fun metadata row => holds_metaCondition metadata row keys operand⟩
  have hown : IsChain .and true _ _ _ := isOperand_equal.chain
  have hvalue := names_metaValue.like operand
  cases keys with
  | nil =>
    have htext : (Expr.metaLike [] operand).text.toList = _ := toList_metaLikeText_zero
    rw [htext]
    exact (hown.snoc hvalue).exist
  | cons key keys =>
    have hkeys := names_metaKey.among key keys
    have htext : (Expr.metaLike (key :: keys) operand).text.toList = _ := toList_metaLikeText_succ keys.length
    rw [htext]
    exact ((hown.snoc hkeys).snoc hvalue).exist

theorem readsAs_number {n : Nat} (h : n = 0 ∨ n = 1) : (Expr.number n).ReadsAs (.number n) := by
  refine ⟨?_, fun metadata row => ?_⟩
  · rcases h with rfl | rfl
    · exact isOperand_number (by decide) rfl scans_zero
    · exact isOperand_number (by decide) rfl scans_one
  · rcases h with rfl | rfl <;> rfl

theorem Expr.ReadsAs.not {e : Expr} (h : e.ReadsAs c) : (Expr.not e).ReadsAs (.not c) := by
  obtain ⟨hoperand, hholds⟩ := h
  refine ⟨?_, fun metadata row => ?_⟩
  · rw [Expr.text, String.toList_append]
    exact hoperand.not
  · rw [Condition.holds, hholds, Expr.isTrue_not]

theorem toList_textJoin (o : Operator) (e : Expr) (es : List Expr) : (Expr.textJoin o.text (e :: es)).toList =
    e.text.toList ++ es.flatMap fun e => o.text.toList ++ e.text.toList := by
  induction es generalizing e with
  | nil => rw [Expr.textJoin, List.flatMap_nil, List.append_nil]
  | cons next es ih =>
    rw [Expr.textJoin, String.toList_append, String.toList_append, ih, List.flatMap_cons, List.append_assoc,
      List.append_assoc]

/-- Expressions joined to a chain make a longer chain. -/
theorem exists_isChain {es : List Expr} (h : ∀ e ∈ es, ∃ c, e.ReadsAs c) (hc : IsChain o false chars params c) :
    ∃ d, IsChain o false (chars ++ es.flatMap fun e => o.text.toList ++ e.text.toList)
        (params ++ Expr.paramsOfAll es) d ∧
      ∀ metadata row, d.holds metadata row none =
        es.foldl (fun b e => o.combine b (e.isTrue metadata row)) (c.holds metadata row none) := by
  induction es generalizing chars params c with
  | nil =>
    rw [List.flatMap_nil, Expr.paramsOfAll, List.append_nil, List.append_nil]
    exact ⟨c, hc, fun _ _ => rfl⟩
  | cons e es ih =>
    obtain ⟨first, hfirst, hholds⟩ := h e List.mem_cons_self
    obtain ⟨d, hd, hfold⟩ := ih (fun e he => h e (List.mem_cons_of_mem _ he)) (hc.snoc hfirst)
    rw [List.flatMap_cons, Expr.paramsOfAll, ← List.append_assoc chars, ← List.append_assoc params]
    refine ⟨d, hd, fun metadata row => ?_⟩
    rw [hfold, Condition.holds, hholds]
    rfl

theorem foldl_combine_and (metadata : List MetaRow) (row : RecordRow) (b : Bool) (es : List Expr) :
    es.foldl (fun b e => Operator.and.combine b (e.isTrue metadata row)) b =
      (b && Expr.allNonzero metadata row es) := by
  induction es generalizing b with
  | nil => exact (Bool.and_true b).symm
  | cons e es ih => rw [List.foldl_cons, ih, Expr.allNonzero, Operator.combine, Expr.isTrue, Bool.and_assoc]

theorem foldl_combine_or (metadata : List MetaRow) (row : RecordRow) (b : Bool) (es : List Expr) :
    es.foldl (fun b e => Operator.or.combine b (e.isTrue metadata row)) b =
      (b || Expr.anyNonzero metadata row es) := by
  induction es generalizing b with
  | nil => exact (Bool.or_false b).symm
  | cons e es ih => rw [List.foldl_cons, ih, Expr.anyNonzero, Operator.combine, Expr.isTrue, Bool.or_assoc]

/-- Expressions joined by an operator between parentheses are an operand. -/
theorem exists_isOperand_join (o : Operator) {e : Expr} {es : List Expr} (h : ∀ c ∈ e :: es, ∃ d, c.ReadsAs d) :
    ∃ d, IsOperand false ("(" ++ Expr.textJoin o.text (e :: es) ++ ")").toList (Expr.paramsOfAll (e :: es)) d ∧
      ∀ metadata row, d.holds metadata row none =
        es.foldl (fun b e => o.combine b (e.isTrue metadata row)) (e.isTrue metadata row) := by
  obtain ⟨first, hfirst, hholds⟩ := h e List.mem_cons_self
  obtain ⟨d, hd, hfold⟩ := exists_isChain (fun e he => h e (List.mem_cons_of_mem _ he)) (hfirst.chain (o := o))
  rw [String.append_assoc, String.toList_append, String.toList_append, toList_textJoin]
  refine ⟨d, hd.group.isOperand, fun metadata row => ?_⟩
  rw [hfold, hholds]

/-- Every condition that predicates are compiled into is read with its meaning, wherever it stands. -/
theorem Expr.IsCondition.exists_readsAs {e : Expr} (h : e.IsCondition) : ∃ c, e.ReadsAs c := by
  induction h with
  | zero => exact ⟨_, readsAs_number (Or.inl rfl)⟩
  | one => exact ⟨_, readsAs_number (Or.inr rfl)⟩
  | like column operand => exact ⟨_, (readsAs_group_like column operand).readsAs⟩
  | metaLike keys operand => exact ⟨_, (readsAs_metaLike keys operand).readsAs⟩
  | not _ ih =>
    obtain ⟨c, hc⟩ := ih
    exact ⟨_, hc.not⟩
  | conj _ ih =>
    obtain ⟨d, hd, hholds⟩ := exists_isOperand_join .and ih
    refine ⟨d, hd, fun metadata row => ?_⟩
    rw [hholds, foldl_combine_and]
    exact (Expr.ofBool_ne_zero _).symm
  | disj _ ih =>
    obtain ⟨d, hd, hholds⟩ := exists_isOperand_join .or ih
    refine ⟨d, hd, fun metadata row => ?_⟩
    rw [hholds, foldl_combine_or]
    exact (Expr.ofBool_ne_zero _).symm

/-- An operand is read from its text alone. -/
theorem IsOperand.readCondition {text : String} (h : IsOperand false text.toList params c) :
    Sql.readCondition text params = some c := by
  obtain ⟨bound, hbinds, hreads⟩ := h
  have hlast := hreads .initial rfl (by decide)
  rw [Sql.readCondition, hbinds.readTokens, Option.bind_some, Condition.ofTokens, hlast]
  rfl

/-- The text of a compiled predicate has one placeholder for each parameter, and is read with the parameters in their
order. What is read is true of the row of a record exactly when the record satisfies the predicate, where the database
reads the patterns and the searched texts as they stand. -/
theorem readCondition_ofPredicate {t : Tables} {row : RecordRow} {record : Record}
    (hrow : t.recordOf row = .ok record) {p : Predicate} (hp : p.IsProper) (metaKeys : List String) :
    ∃ e, ofPredicate metaKeys p = .ok e ∧ e.text.toList.count '?' = e.params.length ∧
      ∃ c, readCondition e.text e.params = some c ∧ ∃ b, p.eval metaKeys record.toDraft = .ok b ∧
        (IsLegiblePredicate p → IsLegibleRecord record → c.holds t.metadata row none = b) := by
  obtain ⟨e, he, hcondition⟩ := exists_ofPredicate hp metaKeys
  obtain ⟨c, hoperand, hholds⟩ := hcondition.exists_readsAs
  obtain ⟨b, hb⟩ := hp.eval_isOk metaKeys record
  have hcount : e.text.toList.count '?' = e.params.length := by
    obtain ⟨_, ⟨-, hcount, -⟩, -⟩ := hoperand
    exact hcount
  refine ⟨e, he, hcount, c, hoperand.readCondition, b, hb, fun hlegible hrecord => ?_⟩
  have hiff : e.isTrue t.metadata row = true ↔ p.Holds metaKeys record :=
    isTrue_ofPredicate_iff hrow hrecord hlegible he
  rw [← hholds, Predicate.Holds, hb, Except.ok.injEq] at hiff
  exact Bool.eq_iff_iff.mpr hiff

def tideRow : RecordRow := ⟨1, "post", "Moon", "", "", "", none⟩

def tideTables : Tables := ⟨[tideRow], [⟨1, "topic", "tide"⟩], 1⟩

/-- A predicate with an empty node and two nested negations. -/
def tidePredicate : Predicate :=
  .not (.all [.test ⟨.known .title, .containing "sun"⟩, .not (.any []),
    .not (.not (.test ⟨.known .metadata, .containing "tide"⟩))])

def tideRecord : Record := ⟨some 1, "Moon", "", "", "post", "", none, [("topic", ["tide"])]⟩

theorem recordOf_tideRow : tideTables.recordOf tideRow = .ok tideRecord := rfl

theorem isLegiblePredicate_tidePredicate : IsLegiblePredicate tidePredicate := by
  have hpattern : IsLegiblePattern (.containing "sun") ∧ IsLegiblePattern (.containing "tide") :=
    ⟨forall_isLegible_of_all (by decide +kernel), forall_isLegible_of_all (by decide +kernel)⟩
  refine .not (.all ?_)
  simp only [List.forall_mem_cons]
  exact ⟨.test _ hpattern.1, .not (.any (by simp)), .not (.not (.test _ hpattern.2)), by simp⟩

theorem isLegibleRecord_tideRecord : IsLegibleRecord tideRecord := by
  have htexts : ∀ s ∈ Field.all.flatMap fun field => field.textsOf [] tideRecord, IsLegible s :=
    forall_isLegible_of_all (by decide +kernel)
  exact fun field s hs => htexts s (List.mem_flatMap_of_mem (by cases field <;> decide) hs)

theorem readCondition_tidePredicate :
    (tideTables.recordOf tideRow = .ok tideRecord ∧ tidePredicate.IsProper ∧ IsLegiblePredicate tidePredicate ∧
      IsLegibleRecord tideRecord) ∧
    ∃ e, ofPredicate ["topic", "place"] tidePredicate = .ok e ∧ e.text.toList.count '?' = e.params.length ∧
      ∃ c, readCondition e.text e.params = some c ∧ ∃ b, tidePredicate.eval ["topic", "place"] tideRecord.toDraft = .ok b ∧
        c.holds tideTables.metadata tideRow none = b := by
  have hlegible := isLegiblePredicate_tidePredicate
  obtain ⟨e, he, hcount, c, hc, b, hb, hholds⟩ :=
    readCondition_ofPredicate recordOf_tideRow hlegible.isProper ["topic", "place"]
  exact ⟨⟨recordOf_tideRow, hlegible.isProper, hlegible, isLegibleRecord_tideRecord⟩, e, he, hcount, c, hc, b, hb,
    hholds hlegible isLegibleRecord_tideRecord⟩

/-- On a record with a title, the text of a test for a segment is read otherwise than the test is evaluated. -/
def IsMisread (segment title : String) : Prop := ∃ record e c b,
  tideTables.recordOf { tideRow with title := title } = .ok record ∧
    ofPredicate [] (.test ⟨.known .title, .containing segment⟩) = .ok e ∧ readCondition e.text e.params = some c ∧
    (Predicate.test ⟨.known .title, .containing segment⟩).eval [] record.toDraft = .ok b ∧
    c.holds tideTables.metadata { tideRow with title := title } none ≠ b

theorem isMisread_of_like_ne {segment title : String}
    (h : like (likeOperand (.containing segment)) title ≠ (Query.Pattern.containing segment).accepts title) :
    IsMisread segment title := by
  obtain ⟨hoperand, -⟩ := (readsAs_group_like .title (likeOperand (.containing segment))).readsAs
  refine ⟨{ tideRecord with title := title }, _, _, (Query.Pattern.containing segment).accepts title, rfl, rfl,
    hoperand.readCondition, ?_, ?_⟩
  · rw [Predicate.eval, Query.Test.holds_known, Query.Field.textsOf, List.any_cons, List.any_nil, Bool.or_false]
  · rwa [Condition.holds, TextColumn.get, Option.any_some]

/-- A test is misread where a segment or a title has a null character or a character that the database takes for the
replacement character. -/
theorem exists_readCondition_ne_eval : IsMisread "moon\x00x" "Full Moon" ∧ IsMisread "x" "a\x00x" ∧
    IsMisread "\ufffe" "\ufffd" ∧ IsMisread "\ufffd" "\uffff" :=
  ⟨isMisread_of_like_ne (by decide +kernel), isMisread_of_like_ne (by decide +kernel),
    isMisread_of_like_ne (by decide +kernel), isMisread_of_like_ne (by decide +kernel)⟩

end TermSearch.Sql
