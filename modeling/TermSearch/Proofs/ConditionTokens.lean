import Mathlib.Data.List.Basic
import TermSearch.Proofs.ConditionReading

/-! Texts with placeholders, piece by piece. Pieces that are put together give the tokens of the pieces, as long as no
token reaches from one into the next, and each piece takes its own parameters. -/
namespace TermSearch.Sql

/-- A character that ends a word and does not continue a text between marks. -/
def isSeparator (c : Char) : Bool := !isWordChar c && c != textMark

/-- No token reaches from one text into the next. -/
def Separated (a b : List Char) : Prop :=
  ∀ x ∈ a.getLast?, ∀ y ∈ b.head?, isSeparator x = true ∨ isSeparator y = true

/-- A text is cut into some tokens wherever it stands. -/
def Scans (chars : List Char) (tokens : List Token) : Prop :=
  ∀ done rest, Separated chars rest → Scan.run done .between (chars ++ rest) =
    Scan.run (tokens.reverse ++ done) .between rest

theorem Separated.append_left {a b c : List Char} (hb : b ≠ []) (h : Separated (a ++ b) c) : Separated b c := by
  intro x hx
  refine h x ?_
  rw [List.getLast?_append_of_ne_nil a hb]
  exact hx

theorem Separated.append_right {a b c : List Char} (hb : b ≠ []) (h : Separated a b) : Separated a (b ++ c) := by
  intro x hx y hy
  rw [List.head?_append_of_ne_nil b hb] at hy
  exact h x hx y hy

theorem Scans.append {a b : List Char} {ts us : List Token} (ha : Scans a ts) (hb : Scans b us) (hne : b ≠ [])
    (h : Separated a b) : Scans (a ++ b) (ts ++ us) := by
  intro done rest hrest
  rw [List.append_assoc, ha _ _ (h.append_right hne), hb _ _ (hrest.append_left hne), List.reverse_append,
    List.append_assoc]

theorem run_start {done : List Token} {s : Scan} {token : Token} {rest : List Char}
    (hfinish : s.finish done = some (token :: done))
    (hstep : ∀ c, isSeparator c = true → s.step done c = (s.finish done).bind fun done => Scan.start done c)
    (hrest : ∀ c ∈ rest.head?, isSeparator c = true) :
    Scan.run done s rest = Scan.run (token :: done) .between rest := by
  cases rest with
  | nil => rw [Scan.run, Scan.run, hfinish, Scan.finish]
  | cons c rest => rw [Scan.run, Scan.run, hstep c (hrest c rfl), hfinish, Option.bind_some, Scan.step]

theorem run_word {done : List Token} {chars rest : List Char} {token : Token}
    (hword : Token.ofWord? chars = some token) (hrest : ∀ c ∈ rest.head?, isSeparator c = true) :
    Scan.run done (.word chars) rest = Scan.run (token :: done) .between rest := by
  refine run_start (by rw [Scan.finish, hword]; rfl) (fun c hc => ?_) hrest
  have hword : isWordChar c = false := by
    simp only [isSeparator, Bool.and_eq_true, Bool.not_eq_true'] at hc
    exact hc.1
  rw [Scan.step, hword]
  rfl

theorem run_ending {done : List Token} {chars rest : List Char} (hrest : ∀ c ∈ rest.head?, isSeparator c = true) :
    Scan.run done (.ending chars) rest = Scan.run (.literal chars :: done) .between rest := by
  refine run_start rfl (fun c hc => ?_) hrest
  have hmark : (c == textMark) = false := by
    simp only [isSeparator, Bool.and_eq_true, bne_iff_ne] at hc
    exact beq_false_of_ne hc.2
  rw [Scan.step, hmark]
  rfl

theorem Separated.head {a rest : List Char} {x : Char} (h : Separated a rest) (hx : x ∈ a.getLast?)
    (hsep : isSeparator x = false) : ∀ y ∈ rest.head?, isSeparator y = true := by
  intro y hy
  exact (h x hx y hy).resolve_left (by rw [hsep]; decide)

theorem bindTokens_append {ts us ts' us' : List Token} {ps qs : List Param} (ht : bindTokens ts ps = some ts')
    (hu : bindTokens us qs = some us') : bindTokens (ts ++ us) (ps ++ qs) = some (ts' ++ us') := by
  fun_induction bindTokens ts ps generalizing ts' with
  | case1 =>
    obtain rfl := Option.some.inj ht
    exact hu
  | case2 => cases ht
  | case3 rest p params ih =>
    obtain ⟨bound, hbound, rfl⟩ := Option.map_eq_some_iff.mp ht
    rw [List.cons_append, List.cons_append, bindTokens, ih hbound]
    rfl
  | case4 => cases ht
  | case5 t rest params hcons hnil ih =>
    obtain ⟨bound, hbound, rfl⟩ := Option.map_eq_some_iff.mp ht
    have hother : t = .placeholder → False := by
      cases params with
      | nil => exact hnil rfl
      | cons p params => exact hcons p params rfl
    rw [List.cons_append, bindTokens, ih hbound]
    · rfl
    · exact fun _ _ _ => hother
    · exact fun _ => hother

/-- A text with as many placeholders as parameters is cut into tokens, which become the given ones. -/
def BindsTo (chars : List Char) (params : List Param) (bound : List Token) : Prop :=
  chars ≠ [] ∧ chars.count '?' = params.length ∧
    ∃ tokens, Scans chars tokens ∧ bindTokens tokens params = some bound

theorem BindsTo.append {a b : List Char} {ps qs : List Param} {us vs : List Token} (ha : BindsTo a ps us)
    (hb : BindsTo b qs vs) (h : Separated a b) : BindsTo (a ++ b) (ps ++ qs) (us ++ vs) := by
  obtain ⟨hane, hacount, ts, hascan, habind⟩ := ha
  obtain ⟨hbne, hbcount, ts', hbscan, hbbind⟩ := hb
  refine ⟨List.append_ne_nil_of_left_ne_nil hane b, ?_, ts ++ ts', hascan.append hbscan hbne h,
    bindTokens_append habind hbbind⟩
  rw [List.count_append, hacount, hbcount, List.length_append]

theorem BindsTo.prepend {a b : List Char} {ps : List Param} {us vs : List Token} (ha : BindsTo a [] us)
    (hb : BindsTo b ps vs) (h : Separated a b) : BindsTo (a ++ b) ps (us ++ vs) := ha.append hb h

/-- A text that stands alone is cut into its tokens. -/
theorem BindsTo.readTokens {text : String} {params : List Param} {bound : List Token}
    (h : BindsTo text.toList params bound) : readTokens text params = some bound := by
  obtain ⟨-, -, tokens, hscan, hbind⟩ := h
  have hend := hscan [] [] fun x _ y hy => by cases hy
  rw [List.append_nil, List.append_nil, Scan.run, Scan.finish, Option.map_some, List.reverse_reverse] at hend
  rw [Sql.readTokens, hend]
  exact hbind

theorem separated_of_getLast {a : List Char} (b : List Char) {x : Char} (hx : a.getLast? = some x)
    (hsep : isSeparator x = true) : Separated a b := by
  intro y hy z _
  obtain rfl := Option.some.inj (hx.symm.trans hy)
  exact Or.inl hsep

theorem separated_of_head (a : List Char) {b : List Char} {y : Char} (hy : b.head? = some y)
    (hsep : isSeparator y = true) : Separated a b := by
  intro x _ z hz
  obtain rfl := Option.some.inj (hy.symm.trans hz)
  exact Or.inr hsep

end TermSearch.Sql
