import TermSearch.Proofs.RegisteredPages
import TermSearch.Route.Request

/-! Request texts. Variables are written one after another with ampersands between them; more ampersands than are
needed may stand behind each, and question marks in front of all. Main statement: such a text is read as the dictionary
of its variables exactly where the first key does not start with a question mark. -/
namespace TermSearch.Route

/-- A variable as it is written in a request, with the ampersands behind it that separate nothing. A key has neither
ampersands nor equals signs, a value has no ampersands; both may be empty. -/
structure WrittenVariable where
  key : String
  value : String
  extra : Nat := 0
  ampersand_not_mem_key : '&' ∉ key.toList := by decide
  equals_not_mem_key : '=' ∉ key.toList := by decide
  ampersand_not_mem_value : '&' ∉ value.toList := by decide

namespace WrittenVariable

def pair (v : WrittenVariable) : String × String := (v.key, v.value)

def text (v : WrittenVariable) : String := v.key ++ "=" ++ v.value ++ String.ofList (List.replicate v.extra '&')

/-- The variable without the question marks in front of its key. -/
def unmarked (v : WrittenVariable) : WrittenVariable where
  key := String.ofList (v.key.toList.dropWhile (· == '?'))
  value := v.value
  extra := v.extra
  ampersand_not_mem_key := by
    rw [String.toList_ofList]
    exact fun h => v.ampersand_not_mem_key ((List.dropWhile_sublist _).subset h)
  equals_not_mem_key := by
    rw [String.toList_ofList]
    exact fun h => v.equals_not_mem_key ((List.dropWhile_sublist _).subset h)
  ampersand_not_mem_value := v.ampersand_not_mem_value

end WrittenVariable

/-- A request text: question marks, and variables with ampersands between them. -/
def requestText (marks : Nat) (written : List WrittenVariable) : String :=
  String.ofList (List.replicate marks '?') ++ "&".intercalate (written.map WrittenVariable.text)

/-- The dictionary of some pairs: each key at the place of its first pair, with the value of its last. -/
def lastValues (pairs : List (String × String)) : Variables :=
  (pairs.map Prod.fst).eraseDups.map fun key =>
    (key, ((pairs.filter fun p => p.1 == key).getLast?.map Prod.snd).getD "")

theorem ofPairs_eq_lastValues (pairs : List (String × String)) : Assoc.ofPairs pairs = lastValues pairs := by
  have hmap := Assoc.eq_map_keys (Assoc.nodup_keys_ofPairs pairs) ""
  simp only [Assoc.keys_ofPairs, Assoc.find?_ofPairs] at hmap
  exact hmap

theorem head?_keys_lastValues (p : String × String) (pairs : List (String × String)) :
    (Assoc.keys (lastValues (p :: pairs))).head? = some p.1 := by
  rw [lastValues, List.map_cons, List.eraseDups_cons, List.map_cons]
  rfl

/-- The pairs between ampersands. -/
def pairsOf (s : List Char) : List (String × String) :=
  ((Text.splitWhen (· == '&') s).filter (! ·.isEmpty)).map pairOf

theorem parseRequest_eq (text : String) :
    parseRequest text = lastValues (pairsOf (text.toList.dropWhile (· == '?'))) :=
  ofPairs_eq_lastValues _

@[simp] theorem pairsOf_nil : pairsOf [] = [] := rfl

/-- An ampersand separates the pairs in front of it from those behind it. -/
theorem pairsOf_append_ampersand (s rest : List Char) : pairsOf (s ++ '&' :: rest) = pairsOf s ++ pairsOf rest := by
  rw [pairsOf, Text.splitWhen_append_cons (by rfl), List.filter_append, List.map_append]
  rfl

theorem pairsOf_ampersand (rest : List Char) : pairsOf ('&' :: rest) = pairsOf rest :=
  pairsOf_append_ampersand [] rest

theorem pairsOf_replicate (n : Nat) : pairsOf (List.replicate n '&') = [] := by
  induction n with
  | zero => rfl
  | succ n ih => rw [List.replicate_succ, pairsOf_ampersand, ih]

/-- Ampersands behind a text separate nothing. -/
theorem pairsOf_append_replicate (s : List Char) (n : Nat) : pairsOf (s ++ List.replicate n '&') = pairsOf s := by
  cases n with
  | zero => rw [List.replicate_zero, List.append_nil]
  | succ n => rw [List.replicate_succ, pairsOf_append_ampersand, pairsOf_replicate, List.append_nil]

theorem pairOf_append_equals {key value : List Char} (h : '=' ∉ key) :
    pairOf (key ++ '=' :: value) = (String.ofList key, String.ofList value) := by
  have hkey : ∀ c ∈ key, (c != '=') = true := fun c hc => bne_iff_ne.mpr fun heq => h (heq ▸ hc)
  rw [pairOf, cutAtEquals, List.takeWhile_append_of_pos hkey, List.dropWhile_append_of_pos hkey]
  simp

namespace WrittenVariable

theorem toList_text (v : WrittenVariable) :
    v.text.toList = (v.key.toList ++ '=' :: v.value.toList) ++ List.replicate v.extra '&' := by
  simp [text]

theorem pairsOf_text (v : WrittenVariable) : pairsOf v.text.toList = [v.pair] := by
  have hwhole : Text.splitWhen (· == '&') (v.key.toList ++ '=' :: v.value.toList) =
      [v.key.toList ++ '=' :: v.value.toList] := by
    refine Text.splitWhen_of_none fun c hc => beq_false_of_ne ?_
    rintro rfl
    rcases List.mem_append.mp hc with hc | hc
    · exact v.ampersand_not_mem_key hc
    · exact v.ampersand_not_mem_value (List.mem_of_ne_of_mem (by decide) hc)
  rw [toList_text, pairsOf_append_replicate, pairsOf, hwhole]
  simp [pairOf_append_equals v.equals_not_mem_key, pair]

theorem unmarked_key_eq_iff {v : WrittenVariable} : v.unmarked.key = v.key ↔ v.key.toList.head? ≠ some '?' := by
  rw [unmarked, ← String.toList_inj, String.toList_ofList]
  cases hkey : v.key.toList with
  | nil => simp
  | cons c rest =>
    rw [List.dropWhile_cons, List.head?_cons, ne_eq, Option.some.injEq]
    split
    · rename_i hmark
      have hlength := (List.dropWhile_sublist (· == '?') (l := rest)).length_le
      refine iff_of_false (fun heq => ?_) (not_not_intro (beq_iff_eq.mp hmark))
      have hlengths := congrArg List.length heq
      rw [List.length_cons] at hlengths
      omega
    · rename_i hmark
      exact iff_of_true rfl fun heq => hmark (beq_iff_eq.mpr heq)

theorem unmarked_eq_self {v : WrittenVariable} (h : v.key.toList.head? ≠ some '?') : v.unmarked = v := by
  have hkey := unmarked_key_eq_iff.mpr h
  cases v
  simp_all [unmarked]

end WrittenVariable

/-- The variables of a text are those that are written in it. -/
theorem pairsOf_intercalate (written : List WrittenVariable) :
    pairsOf ("&".intercalate (written.map WrittenVariable.text)).toList = written.map WrittenVariable.pair := by
  induction written with
  | nil => rfl
  | cons v rest ih =>
    cases rest with
    | nil => simpa using v.pairsOf_text
    | cons next rest =>
      rw [List.map_cons, List.map_cons, String.intercalate_cons_cons, String.toList_append, String.toList_append,
        List.append_assoc]
      exact (pairsOf_append_ampersand _ _).trans (congrArg₂ (· ++ ·) v.pairsOf_text ih)

/-- The text of some variables begins with the first key and an equals sign. -/
theorem toList_intercalate_cons (v : WrittenVariable) (rest : List WrittenVariable) :
    ("&".intercalate ((v :: rest).map WrittenVariable.text)).toList = v.key.toList ++ '=' ::
      ("&".intercalate ((v.value ++ String.ofList (List.replicate v.extra '&')) ::
        rest.map WrittenVariable.text)).toList := by
  rw [List.map_cons, WrittenVariable.text, String.append_assoc, String.append_assoc, String.intercalate_cons_append,
    String.intercalate_cons_append, String.toList_append, String.toList_append]
  rfl

/-- The question marks in front of a text are dropped, and with them those in front of its first key. -/
theorem dropWhile_requestText (marks : Nat) (written : List WrittenVariable) :
    (requestText marks written).toList.dropWhile (· == '?') =
      ("&".intercalate ((written.modifyHead WrittenVariable.unmarked).map WrittenVariable.text)).toList := by
  have hmarks : ∀ c ∈ List.replicate marks '?', (c == '?') = true := by simp
  rw [requestText, String.toList_append, String.toList_ofList, List.dropWhile_append_of_pos hmarks]
  cases written with
  | nil => rfl
  | cons v rest =>
    rw [List.modifyHead_cons, toList_intercalate_cons, toList_intercalate_cons, List.dropWhile_append]
    simp [WrittenVariable.unmarked]

/-- A request text is read as the dictionary of its variables, each key at the place where it stands first and with the
value that stands last, exactly where the first key does not start with a question mark. -/
theorem parseRequest_requestText_iff (marks : Nat) (written : List WrittenVariable) :
    parseRequest (requestText marks written) = lastValues (written.map WrittenVariable.pair) ↔
      ∀ first ∈ written.head?, first.key.toList.head? ≠ some '?' := by
  rw [parseRequest_eq, dropWhile_requestText, pairsOf_intercalate]
  cases written with
  | nil => simp
  | cons v rest =>
    rw [List.modifyHead_cons, List.map_cons, List.map_cons, List.head?_cons]
    constructor
    · rintro hsame first hfirst
      obtain rfl := Option.some.inj hfirst
      have hkeys := congrArg (fun vars => (Assoc.keys vars).head?) hsame
      simp only [head?_keys_lastValues] at hkeys
      exact WrittenVariable.unmarked_key_eq_iff.mp (Option.some.inj hkeys)
    · intro hfirst
      rw [WrittenVariable.unmarked_eq_self (hfirst v rfl)]

example : parseRequest (requestText 2 [{ key := "", value := "?x=1", extra := 1 }, { key := "s", value := "a%1Fb" },
    { key := "", value := "", extra := 2 }]) = [("", ""), ("s", "a%1Fb")] := by decide +kernel

end TermSearch.Route
