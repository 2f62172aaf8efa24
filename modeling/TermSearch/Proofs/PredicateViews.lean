import TermSearch.Proofs.ShownLines

/-! The two views of a tree. The text tells lines, depths and headings apart, whatever the patterns say, as long as no
pattern goes over several lines and at most two levels are shown without indentation; the document has a key for each
kind of node. Main statement: at a depth of minus one and above two trees have the same text exactly where they have
the same document, and at every lower depth there are trees with the same text and different documents. -/
namespace TermSearch.Report

open Document (Value)
open Query (Field FieldName Predicate Pattern)

namespace Heading

/-- The first word of a heading ends where the first space stands. -/
theorem ne_space_of_mem_word {h : Heading} (hh : h.IsPrintable) : ∀ c ∈ h.word.toList, (c != ' ') = true := by
  cases h with
  | test negated field pattern =>
    obtain ⟨⟨known, rfl⟩, -⟩ := hh
    cases known <;> simp [word, FieldName.text, Field.name]
  | not => simp [word]
  | all empty => simp [word]
  | any empty => simp [word]

theorem head?_rest (h : Heading) : ∀ c ∈ h.rest.toList.head?, (c != ' ') = false := by
  cases h with
  | test negated field pattern => cases negated <;> simp [rest]
  | not => simp [rest]
  | all empty => cases empty <;> simp [rest]
  | any empty => cases empty <;> simp [rest]

theorem head?_text {h : Heading} (hh : h.IsPrintable) : ∀ c ∈ h.text.toList.head?, (c == ' ') = false := by
  cases h with
  | test negated field pattern =>
    obtain ⟨⟨known, rfl⟩, -⟩ := hh
    cases known <;> simp [text, word, FieldName.text, Field.name]
  | not => simp [text, word, rest]
  | all empty => simp [text, word]
  | any empty => simp [text, word]

theorem lineEnd_not_mem_text {h : Heading} (hh : h.IsPrintable) : '\n' ∉ h.text.toList := by
  cases h with
  | test negated field pattern =>
    obtain ⟨⟨known, rfl⟩, hpattern⟩ := hh
    cases known <;> cases negated <;> simp [text, word, rest, FieldName.text, Field.name, hpattern]
  | not => simp [text, word, rest]
  | all empty => cases empty <;> simp [text, word, rest]
  | any empty => cases empty <;> simp [text, word, rest]

/-- A heading is known from its text. -/
theorem text_inj {h other : Heading} (hh : h.IsPrintable) (hother : other.IsPrintable) (heq : h.text = other.text) :
    h = other := by
  have hchars : h.word.toList ++ h.rest.toList = other.word.toList ++ other.rest.toList := by
    simpa [text] using congrArg String.toList heq
  obtain ⟨hword, hrest⟩ :=
    append_inj_of_forall (ne_space_of_mem_word hh) (ne_space_of_mem_word hother) (head?_rest h) (head?_rest other) hchars
  rw [String.toList_inj] at hword
  -- no field has the name of an inner node
  have hnames : Field.ofName? "NOT" = none ∧ Field.ofName? "AND" = none ∧ Field.ofName? "OR" = none := by decide
  have hfield := congrArg Field.ofName? hword
  cases h with
  | test negated field pattern =>
    obtain ⟨⟨known, rfl⟩, -⟩ := hh
    cases other with
    | test negated' field' pattern' =>
      obtain ⟨⟨known', rfl⟩, -⟩ := hother
      obtain rfl : known = known' := by simpa [word, FieldName.text] using hfield
      cases negated <;> cases negated' <;> simp_all [rest, String.toList_inj]
    | _ => simp [word, FieldName.text, hnames] at hfield
  | not =>
    cases other with
    | test => obtain ⟨⟨known, rfl⟩, -⟩ := hother; simp [word, FieldName.text, hnames] at hfield
    | not => rfl
    | _ => simp [word] at hword
  | all empty =>
    cases other with
    | test => obtain ⟨⟨known, rfl⟩, -⟩ := hother; simp [word, FieldName.text, hnames] at hfield
    | all empty' => cases empty <;> cases empty' <;> simp_all [rest]
    | _ => simp [word] at hword
  | any empty =>
    cases other with
    | test => obtain ⟨⟨known, rfl⟩, -⟩ := hother; simp [word, FieldName.text, hnames] at hfield
    | any empty' => cases empty <;> cases empty' <;> simp_all [rest]
    | _ => simp [word] at hword

end Heading

section Lines

variable {lines others : List Line}

/-- A line is known from its text where its depth is known or not negative. -/
theorem Line.eq_of_text_eq {l other : Line} (hl : l.heading.IsPrintable) (hother : other.heading.IsPrintable)
    (heq : l.text = other.text) (hdepths : l.depth = other.depth ∨ 0 ≤ l.depth ∧ 0 ≤ other.depth) : l = other := by
  have hchars : List.replicate (2 * l.depth).toNat ' ' ++ l.heading.text.toList =
      List.replicate (2 * other.depth).toNat ' ' ++ other.heading.text.toList := by
    simpa [Line.text, pad] using congrArg String.toList heq
  obtain ⟨hpad, hheading⟩ := append_inj_of_forall (p := (· == ' ')) (by simp) (by simp)
    (Heading.head?_text hl) (Heading.head?_text hother) hchars
  have hlengths := congrArg List.length hpad
  rw [List.length_replicate, List.length_replicate] at hlengths
  have hdepth : l.depth = other.depth := by omega
  have hheading := Heading.text_inj hl hother (String.toList_inj.mp hheading)
  cases l
  cases other
  rw [Line.mk.injEq]
  exact ⟨hdepth, hheading⟩

theorem Line.lineEnd_not_mem_text {l : Line} (hl : l.heading.IsPrintable) :
    ∀ c ∈ l.text.toList, (c == '\n') = false := by
  intro c hc
  refine beq_false_of_ne ?_
  rintro rfl
  rw [Line.text, String.toList_append, List.mem_append] at hc
  rcases hc with hc | hc
  · simp [pad] at hc
  · exact Heading.lineEnd_not_mem_text hl hc

/-- The lines are the stretches between line ends. -/
theorem splitWhen_textOf (h : ∀ l ∈ lines, l.heading.IsPrintable) :
    Text.splitWhen (· == '\n') (textOf lines).toList = (lines.map fun l => l.text.toList) ++ [[]] := by
  induction lines with
  | nil => rfl
  | cons l lines ih =>
    obtain ⟨hl, hlines⟩ := List.forall_mem_cons.mp h
    have hchars : (textOf (l :: lines)).toList = l.text.toList ++ '\n' :: (textOf lines).toList := by
      simp [textOf_cons]
    rw [hchars, Text.splitWhen_append_cons (by rfl), Text.splitWhen_of_none (Line.lineEnd_not_mem_text hl), ih hlines]
    rfl

theorem map_text_eq_of_textOf_eq (hlines : ∀ l ∈ lines, l.heading.IsPrintable)
    (hothers : ∀ l ∈ others, l.heading.IsPrintable) (heq : textOf lines = textOf others) :
    lines.map Line.text = others.map Line.text := by
  have hpieces := splitWhen_textOf hlines
  rw [heq, splitWhen_textOf hothers, List.append_left_inj] at hpieces
  have htexts := congrArg (List.map String.ofList) hpieces
  simpa [List.map_map, Function.comp_def] using htexts.symm

/-- Lines of depths that are not negative are known from their texts. -/
theorem eq_of_map_text_eq (hlines : ∀ l ∈ lines, 0 ≤ l.depth ∧ l.heading.IsPrintable)
    (hothers : ∀ l ∈ others, 0 ≤ l.depth ∧ l.heading.IsPrintable) (heq : lines.map Line.text = others.map Line.text) :
    lines = others := by
  induction lines generalizing others with
  | nil => exact (List.map_eq_nil_iff.mp heq.symm).symm
  | cons l lines ih =>
    obtain ⟨other, others, rfl, htext, htexts⟩ := List.map_eq_cons_iff.mp heq.symm
    obtain ⟨hl, hlines⟩ := List.forall_mem_cons.mp hlines
    obtain ⟨hother, hothers⟩ := List.forall_mem_cons.mp hothers
    rw [Line.eq_of_text_eq hl.2 hother.2 htext.symm (.inr ⟨hl.1, hother.1⟩), ih hlines hothers htexts.symm]

end Lines

section Trees

variable {p q : Predicate} {depth : Int}

/-- Where only the first line may have a negative depth, the lines are known from the text. -/
theorem linesOf_eq_of_predicateText_eq (hp : p.IsPrintable) (hq : q.IsPrintable) (hdepth : -1 ≤ depth)
    (h : predicateText depth p = predicateText depth q) : linesOf depth p = linesOf depth q := by
  rw [predicateText_eq_textOf hp, predicateText_eq_textOf hq, Except.ok.injEq] at h
  have htexts := map_text_eq_of_textOf_eq (fun l hl => (le_depth_of_mem_linesOf hp l hl).2)
    (fun l hl => (le_depth_of_mem_linesOf hq l hl).2) h
  obtain ⟨heading, below, hshows, hprintable, hbelow⟩ := exists_shows hp
  obtain ⟨heading', below', hshows', hprintable', hbelow'⟩ := exists_shows hq
  rw [hshows.linesOf_eq, hshows'.linesOf_eq, List.map_cons, List.map_cons, List.cons.injEq] at htexts
  have hlower : ∀ {children : List Predicate}, (∀ c ∈ children, c.IsPrintable) →
      ∀ l ∈ linesOfAll (depth + 1) children, 0 ≤ l.depth ∧ l.heading.IsPrintable := fun hchildren l hl => by
    obtain ⟨hle, hheading⟩ := le_depth_of_mem_linesOfAll hchildren l hl
    exact ⟨by omega, hheading⟩
  rw [hshows.linesOf_eq, hshows'.linesOf_eq, eq_of_map_text_eq (hlower hbelow) (hlower hbelow') htexts.2,
    Line.eq_of_text_eq hprintable hprintable' htexts.1 (.inl rfl)]

/-- Trees with the same lines are shown alike. -/
theorem plain_eq_of_linesOf_eq (hp : p.IsPrintable) (hq : q.IsPrintable) (h : linesOf depth p = linesOf depth q) :
    p.plain = q.plain := by
  have hlines : linesOfAll depth [p] = linesOfAll depth [q] := by
    rw [linesOfAll, linesOfAll, h]
    rfl
  have hall : Predicate.plainAll [p] = Predicate.plainAll [q] :=
    plainAll_eq_of_linesOfAll_eq (List.forall_mem_singleton.mpr hp) (List.forall_mem_singleton.mpr hq) hlines
  exact (List.cons.inj hall).1

end Trees

section Documents

/-- A tree and what is made of it: one entry, under a key for the kind of its node. -/
inductive ShownAs : Predicate → Value → Prop
  | test (t : Query.Test) : ShownAs (.test t) (entry "contains" (testDocument t))
  | not {child : Predicate} {document : Value} (h : predicateDocument child = .ok document) :
      ShownAs (.not child) (entry "not" document)
  | all {children : List Predicate} {documents : List Value}
      (h : List.Forall₂ (fun c document => predicateDocument c = .ok document) children documents) :
      ShownAs (.all children) (entry "and" (.list documents))
  | any {children : List Predicate} {documents : List Value}
      (h : List.Forall₂ (fun c document => predicateDocument c = .ok document) children documents) :
      ShownAs (.any children) (entry "or" (.list documents))

theorem shownAs_of_eq_ok {p : Predicate} {document : Value} (h : predicateDocument p = .ok document) :
    ShownAs p document := by
  cases p with
  | test t => exact Except.ok.inj h ▸ .test t
  | not child =>
    rw [predicateDocument, bind_eq_ok_iff] at h
    obtain ⟨d, hd, hentry⟩ := h
    exact Except.ok.inj hentry ▸ .not hd
  | all children =>
    rw [predicateDocument, predicateDocuments_eq_mapM, bind_eq_ok_iff] at h
    obtain ⟨ds, hds, hentry⟩ := h
    exact Except.ok.inj hentry ▸ .all (mapM_eq_ok_iff.mp hds)
  | any children =>
    rw [predicateDocument, predicateDocuments_eq_mapM, bind_eq_ok_iff] at h
    obtain ⟨ds, hds, hentry⟩ := h
    exact Except.ok.inj hentry ▸ .any (mapM_eq_ok_iff.mp hds)
  | foreign typeName => cases h

/-- The key of a document tells the kind of the node. -/
theorem node_of_shownAs {p : Predicate} {key : String} {content : Value} (h : ShownAs p (entry key content)) :
    (key = "contains" → ∃ t, p = .test t ∧ content = testDocument t) ∧
    (key = "not" → ∃ child, p = .not child ∧ predicateDocument child = .ok content) ∧
    (key = "and" → ∃ children documents, p = .all children ∧ content = .list documents ∧
      List.Forall₂ (fun c document => predicateDocument c = .ok document) children documents) ∧
    (key = "or" → ∃ children documents, p = .any children ∧ content = .list documents ∧
      List.Forall₂ (fun c document => predicateDocument c = .ok document) children documents) := by
  generalize hentry : entry key content = document at h
  cases h <;> simp_all [entry]

theorem plainAll_eq_of_documents {ps qs : List Predicate} {documents : List Value}
    (h : ∀ p ∈ ps, ∀ {q document}, q.IsPrintable → predicateDocument p = .ok document →
      predicateDocument q = .ok document → p.plain = q.plain) (hqs : ∀ q ∈ qs, q.IsPrintable)
    (hp : List.Forall₂ (fun c document => predicateDocument c = .ok document) ps documents)
    (hq : List.Forall₂ (fun c document => predicateDocument c = .ok document) qs documents) :
    Predicate.plainAll ps = Predicate.plainAll qs := by
  induction hp generalizing qs with
  | nil =>
    cases hq
    rfl
  | cons hfirst _ ih =>
    cases hq with
    | cons hfirst' hrest' =>
      obtain ⟨hchild, hrest⟩ := List.forall_mem_cons.mp h
      obtain ⟨hq, hqs⟩ := List.forall_mem_cons.mp hqs
      rw [Predicate.plainAll, Predicate.plainAll, hchild hq hfirst hfirst', ih hrest hqs hrest']

/-- Trees with the same document are shown alike. -/
theorem plain_eq_of_document_eq {p q : Predicate} {document : Value} (hp : p.IsPrintable) (hq : q.IsPrintable)
    (hdp : predicateDocument p = .ok document) (hdq : predicateDocument q = .ok document) : p.plain = q.plain := by
  replace hdq := shownAs_of_eq_ok hdq
  induction hp generalizing q document with
  | test field _ =>
    obtain rfl := Except.ok.inj hdp
    obtain ⟨t, rfl, hsame⟩ := (node_of_shownAs hdq).1 rfl
    obtain ⟨field', -⟩ := hq
    simp only [testDocument, FieldName.text, Value.list.injEq, Value.text.injEq, List.cons.injEq, and_true] at hsame
    have hfield : field = field' := by simpa using congrArg Field.ofName? hsame.1
    rw [Predicate.plain, Predicate.plain, hfield, hsame.2]
  | not _ ih =>
    cases shownAs_of_eq_ok hdp with
    | not hd =>
      obtain ⟨child, rfl, hd'⟩ := (node_of_shownAs hdq).2.1 rfl
      cases hq with
      | not hq => rw [Predicate.plain, Predicate.plain, ih hq hd (shownAs_of_eq_ok hd')]
  | all _ ih =>
    cases shownAs_of_eq_ok hdp with
    | all hd =>
      obtain ⟨children, documents, rfl, hsame, hd'⟩ := (node_of_shownAs hdq).2.2.1 rfl
      obtain rfl := Value.list.inj hsame
      cases hq with
      | all hq =>
        rw [Predicate.plain, Predicate.plain, plainAll_eq_of_documents (fun c hc q document hq hdp hdq =>
          ih c hc hq hdp (shownAs_of_eq_ok hdq)) hq hd hd']
  | any _ ih =>
    cases shownAs_of_eq_ok hdp with
    | any hd =>
      obtain ⟨children, documents, rfl, hsame, hd'⟩ := (node_of_shownAs hdq).2.2.2 rfl
      obtain rfl := Value.list.inj hsame
      cases hq with
      | any hq =>
        rw [Predicate.plain, Predicate.plain, plainAll_eq_of_documents (fun c hc q document hq hdp hdq =>
          ih c hc hq hdp (shownAs_of_eq_ok hdq)) hq hd hd']

theorem predicateDocuments_plainAll {children : List Predicate}
    (h : ∀ c ∈ children, predicateDocument c.plain = predicateDocument c) :
    predicateDocuments (Predicate.plainAll children) = predicateDocuments children := by
  induction children with
  | nil => rfl
  | cons child rest ih =>
    obtain ⟨hchild, hrest⟩ := List.forall_mem_cons.mp h
    rw [Predicate.plainAll, predicateDocuments, predicateDocuments, hchild, ih hrest]

/-- The document shows nothing of the patterns but their texts. -/
theorem predicateDocument_plain (p : Predicate) : predicateDocument p.plain = predicateDocument p := by
  induction p using Predicate.inductionOn with
  | test t => rfl
  | not child ih => rw [Predicate.plain, predicateDocument, predicateDocument, ih]
  | all children ih => rw [Predicate.plain, predicateDocument, predicateDocument, predicateDocuments_plainAll ih]
  | any children ih => rw [Predicate.plain, predicateDocument, predicateDocument, predicateDocuments_plainAll ih]
  | foreign typeName => rfl

end Documents

section Views

variable {p q : Predicate} {depth : Int}

theorem predicateDocument_eq_iff (hp : p.IsPrintable) (hq : q.IsPrintable) :
    predicateDocument p = predicateDocument q ↔ p.plain = q.plain := by
  constructor
  · intro h
    obtain ⟨document, hdocument⟩ := isWalk_predicateDocument.exists_of_isProper hp.isProper ()
    exact plain_eq_of_document_eq hp hq hdocument (h ▸ hdocument)
  · intro h
    rw [← predicateDocument_plain p, h, predicateDocument_plain]

theorem predicateText_eq_of_plain_eq (hp : p.IsPrintable) (hq : q.IsPrintable) (h : p.plain = q.plain) (depth : Int) :
    predicateText depth p = predicateText depth q := by
  rw [predicateText_eq_textOf hp, predicateText_eq_textOf hq, ← linesOf_plain p, h, linesOf_plain]

theorem predicateText_eq_iff (hp : p.IsPrintable) (hq : q.IsPrintable) (hdepth : -1 ≤ depth) :
    predicateText depth p = predicateText depth q ↔ p.plain = q.plain :=
  ⟨fun h => plain_eq_of_linesOf_eq hp hq (linesOf_eq_of_predicateText_eq hp hq hdepth h),
    fun h => predicateText_eq_of_plain_eq hp hq h depth⟩

end Views

section Unindented

/-- The test of the title for a word. -/
def titleTest (word : String) : Predicate := .test ⟨.known .title, .containing word⟩

/-- Two tests, the second one beside the choice that holds the first. -/
def sunBeside : Predicate := .all [.any [titleTest "moon"], titleTest "sun"]

/-- Two tests, both of them below the choice. -/
def sunBelow : Predicate := .all [.any [titleTest "moon", titleTest "sun"]]

theorem isPrintable_titleTest {word : String} (h : '\n' ∉ (Pattern.containing word).text.toList) :
    (titleTest word).IsPrintable := .test .title h

theorem isPrintable_sunBeside : sunBeside.IsPrintable := by
  refine .all (List.forall_mem_cons.mpr ⟨.any (List.forall_mem_singleton.mpr ?_), List.forall_mem_singleton.mpr ?_⟩)
  all_goals exact isPrintable_titleTest (by decide)

theorem isPrintable_sunBelow : sunBelow.IsPrintable := by
  refine .all (List.forall_mem_singleton.mpr (.any (List.forall_mem_cons.mpr
    ⟨?_, List.forall_mem_singleton.mpr ?_⟩)))
  all_goals exact isPrintable_titleTest (by decide)

theorem document_sunBeside_ne : predicateDocument sunBeside ≠ predicateDocument sunBelow := by
  rw [ne_eq, predicateDocument_eq_iff isPrintable_sunBeside isPrintable_sunBelow]
  simp [sunBeside, sunBelow, titleTest, Predicate.plain, Predicate.plainAll]

theorem pad_of_nonpos {depth : Int} (h : depth ≤ 0) : pad depth = "" := by
  rw [pad, Int.toNat_of_nonpos (by omega)]
  rfl

/-- Where three levels are shown without indentation, nothing tells which of the two a test stands below. -/
theorem predicateText_sunBeside {depth : Int} (h : depth < -1) :
    predicateText depth sunBeside = predicateText depth sunBelow := by
  have hpads : pad depth = "" ∧ pad (depth + 1) = "" ∧ pad (depth + 1 + 1) = "" :=
    ⟨pad_of_nonpos (by omega), pad_of_nonpos (by omega), pad_of_nonpos (by omega)⟩
  rw [predicateText_eq_textOf isPrintable_sunBeside, predicateText_eq_textOf isPrintable_sunBelow]
  simp [sunBeside, sunBelow, titleTest, linesOf, linesOfAll, textOf, Line.text, hpads]

end Unindented

/-- Of trees of tests that name fields and are shown without line ends both views are made. At a depth of minus one and
above two such trees have one text exactly where they have one document; at lower depths this is not so. -/
theorem views_agree_iff (depth : Int) :
    (∀ p : Predicate, p.IsPrintable →
      (∃ text, predicateText depth p = .ok text) ∧ ∃ document, predicateDocument p = .ok document) ∧
    ((∀ p q : Predicate, p.IsPrintable → q.IsPrintable →
      (predicateText depth p = predicateText depth q ↔ predicateDocument p = predicateDocument q)) ↔ -1 ≤ depth) := by
  refine ⟨fun p hp => ⟨⟨_, predicateText_eq_textOf hp depth⟩, ?_⟩, ?_, ?_⟩
  · exact isWalk_predicateDocument.exists_of_isProper hp.isProper ()
  · intro hagree
    by_contra hdepth
    have hsame := predicateText_sunBeside (Int.not_le.mp hdepth)
    exact document_sunBeside_ne ((hagree _ _ isPrintable_sunBeside isPrintable_sunBelow).mp hsame)
  · intro hdepth p q hp hq
    rw [predicateText_eq_iff hp hq hdepth, predicateDocument_eq_iff hp hq]

/-- At a depth of minus two, where the first three levels are not indented, different trees have the same text. -/
theorem exists_same_text_of_different_documents :
    sunBeside.IsPrintable ∧ sunBelow.IsPrintable ∧
    predicateText (-2) sunBeside = .ok "AND\nOR\nTITLE ~ %moon%\nTITLE ~ %sun%\n" ∧
    predicateText (-2) sunBelow = .ok "AND\nOR\nTITLE ~ %moon%\nTITLE ~ %sun%\n" ∧
    predicateDocument sunBeside ≠ predicateDocument sunBelow :=
  ⟨isPrintable_sunBeside, isPrintable_sunBelow, by rfl, by rfl, document_sunBeside_ne⟩

end TermSearch.Report
