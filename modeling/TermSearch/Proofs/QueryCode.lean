import Mathlib.Data.List.Basic
import TermSearch.Route.Request

/-! Percent codes of queries on their way through a request. A code is a code of the bytes of the query, which can be
read back; hiding and restoring slashes changes one byte into another. Main statement: a query comes back as its plain
code unless it has the control character whose code stands in for that of a slash. -/
namespace TermSearch.Route

/-- An item, or another one in the place of a given one. -/
def replaced {α : Type} [DecidableEq α] (old new x : α) : α := if x = old then new else x

/-- Replacing one item by another and then the other by the one only does the latter. -/
theorem replaced_replaced {α : Type} [DecidableEq α] (old new x : α) :
    replaced new old (replaced old new x) = replaced new old x := by
  unfold replaced
  by_cases hx : x = old
  · rw [if_pos hx, if_pos rfl, hx, ite_self]
  · rw [if_neg hx]

/-- The code of a byte: the unreserved character that it is, or its two digits behind a percent sign. -/
def octetCode (b : UInt8) : List Char :=
  if isUnreserved (Char.ofNat b.toNat) then [Char.ofNat b.toNat] else byteCode b

/-- The bytes of a text. -/
def utf8 (s : List Char) : List UInt8 := s.flatMap String.utf8EncodeChar

def hexValue (c : Char) : Nat := if c.toNat < 58 then c.toNat - 48 else c.toNat - 55

/-- The bytes of a code. -/
def octets : List Char → List UInt8
  | '%' :: high :: low :: rest => UInt8.ofNat (hexValue high * 16 + hexValue low) :: octets rest
  | c :: rest => UInt8.ofNat c.toNat :: octets rest
  | [] => []

theorem toNat_lt_of_isUnreserved {c : Char} (h : isUnreserved c = true) : c.toNat < 128 := by
  unfold isUnreserved Char.isAlphanum Char.isAlpha Char.isUpper Char.isLower Char.isDigit at h
  simp only [Bool.or_eq_true, Bool.and_eq_true, decide_eq_true_eq, beq_iff_eq, UInt32.le_iff_toNat_le, ge_iff_le] at h
  change ((((((65 ≤ c.toNat ∧ c.toNat ≤ 90) ∨ (97 ≤ c.toNat ∧ c.toNat ≤ 122)) ∨ (48 ≤ c.toNat ∧ c.toNat ≤ 57)) ∨
    c = '_') ∨ c = '.') ∨ c = '-') ∨ c = '~' at h
  rcases h with (((hletter | rfl) | rfl) | rfl) | rfl
  · omega
  all_goals decide

theorem toNat_ofNat_toNat (b : UInt8) : (Char.ofNat b.toNat).toNat = b.toNat := by
  have hb := b.toNat_lt
  rw [Char.ofNat, dif_pos (.inl (by omega))]
  rfl

theorem upperHexDigit_spec : ∀ n < 16, isUnreserved (upperHexDigit n) = true ∧ upperHexDigit n ≠ 'f' ∧
    hexValue (upperHexDigit n) = n := by
  decide +kernel

theorem ne_of_isUnreserved {c d : Char} (hc : isUnreserved c = true) (hd : isUnreserved d = false) : c ≠ d := by
  rintro rfl
  rw [hc] at hd
  cases hd

/-- The code of a byte is an unreserved character, or a percent sign with two digits. -/
theorem octetCode_cases (b : UInt8) :
    (isUnreserved (Char.ofNat b.toNat) = true ∧ octetCode b = [Char.ofNat b.toNat]) ∨
      ∃ high low, high < 16 ∧ low < 16 ∧ high * 16 + low = b.toNat ∧
        octetCode b = ['%', upperHexDigit high, upperHexDigit low] := by
  unfold octetCode
  split
  · exact .inl ⟨by assumption, rfl⟩
  · have hb := b.toNat_lt
    exact .inr ⟨b.toNat / 16, b.toNat % 16, by omega, by omega, by omega, rfl⟩

theorem octets_octetCode (b : UInt8) (rest : List Char) : octets (octetCode b ++ rest) = b :: octets rest := by
  rcases octetCode_cases b with ⟨hplain, hcode⟩ | ⟨high, low, hhigh, hlow, hvalue, hcode⟩
  · have hpercent : Char.ofNat b.toNat ≠ '%' := ne_of_isUnreserved hplain (by decide)
    rw [hcode, List.singleton_append, octets, toNat_ofNat_toNat, UInt8.ofNat_toNat]
    exact fun _ _ _ hc _ => hpercent hc
  · obtain ⟨-, -, hh⟩ := upperHexDigit_spec high hhigh
    obtain ⟨-, -, hl⟩ := upperHexDigit_spec low hlow
    rw [hcode]
    simp [octets, hh, hl, hvalue]

theorem octets_flatMap (bytes : List UInt8) : octets (bytes.flatMap octetCode) = bytes := by
  induction bytes with
  | nil => rfl
  | cons b bytes ih => rw [List.flatMap_cons, octets_octetCode, ih]

theorem flatMap_octetCode_inj {bytes others : List UInt8} :
    bytes.flatMap octetCode = others.flatMap octetCode ↔ bytes = others := by
  refine ⟨fun h => ?_, fun h => by rw [h]⟩
  rw [← octets_flatMap bytes, h, octets_flatMap]

theorem octetCode_inj {b other : UInt8} (h : octetCode b = octetCode other) : b = other := by
  have hlists : [b].flatMap octetCode = [other].flatMap octetCode := by
    rw [List.flatMap_singleton, List.flatMap_singleton, h]
  exact List.head_eq_of_cons_eq (flatMap_octetCode_inj.mp hlists)

/-- A code is made of characters that stand for themselves and percent signs. -/
theorem ne_of_mem_flatMap {d : Char} (hd : isUnreserved d = false) (hpercent : d ≠ '%') {bytes : List UInt8} :
    ∀ c ∈ bytes.flatMap octetCode, c ≠ d := by
  intro c hc
  obtain ⟨b, -, hcode⟩ := List.mem_flatMap.mp hc
  rcases octetCode_cases b with ⟨hplain, heq⟩ | ⟨high, low, hhigh, hlow, -, heq⟩
  · rw [heq, List.mem_singleton] at hcode
    rw [hcode]
    exact ne_of_isUnreserved hplain hd
  · simp only [heq, List.mem_cons, List.not_mem_nil, or_false] at hcode
    rcases hcode with rfl | rfl | rfl
    · exact hpercent.symm
    · exact ne_of_isUnreserved (upperHexDigit_spec high hhigh).1 hd
    · exact ne_of_isUnreserved (upperHexDigit_spec low hlow).1 hd

theorem swapCode_of_ne (old new : Char) {c : Char} (hc : c ≠ '%') (rest : List Char) :
    swapCode old new (c :: rest) = c :: swapCode old new rest := by
  rw [swapCode]
  exact fun _ _ _ h _ => hc h

/-- Swapping codes changes one byte into another, and never cuts through the code of a byte. -/
theorem swapCode_octetCode {o n : Char} {old new : UInt8} (hold : octetCode old = ['%', o, 'F'])
    (hnew : octetCode new = ['%', n, 'F']) (b : UInt8) (rest : List Char) :
    swapCode o n (octetCode b ++ rest) = octetCode (replaced old new b) ++ swapCode o n rest := by
  unfold replaced
  by_cases hb : b = old
  · rw [if_pos hb, hb, hold, hnew]
    simp [swapCode]
  · rw [if_neg hb]
    rcases octetCode_cases b with ⟨hplain, hcode⟩ | ⟨high, low, hhigh, hlow, -, hcode⟩
    · rw [hcode]
      exact swapCode_of_ne o n (ne_of_isUnreserved hplain (by decide)) rest
    · obtain ⟨hh, -, -⟩ := upperHexDigit_spec high hhigh
      obtain ⟨hl, hupper, -⟩ := upperHexDigit_spec low hlow
      have hother : ¬ (upperHexDigit high = o ∧ (upperHexDigit low = 'F' ∨ upperHexDigit low = 'f')) := by
        rintro ⟨rfl, hlast | hlast⟩
        · exact hb (octetCode_inj (by rw [hcode, hold, hlast]))
        · exact hupper hlast
      rw [hcode]
      simp only [List.cons_append, List.nil_append]
      -- digits are no percent signs, so that no code begins within this one
      rw [swapCode, if_neg hother, swapCode_of_ne o n (ne_of_isUnreserved hh (by decide)),
        swapCode_of_ne o n (ne_of_isUnreserved hl (by decide))]

theorem swapCode_flatMap {o n : Char} {old new : UInt8} (hold : octetCode old = ['%', o, 'F'])
    (hnew : octetCode new = ['%', n, 'F']) (bytes : List UInt8) : swapCode o n (bytes.flatMap octetCode) =
      (bytes.map (replaced old new)).flatMap octetCode := by
  induction bytes with
  | nil => rfl
  | cons b bytes ih => rw [List.flatMap_cons, swapCode_octetCode hold hnew, ih, List.map_cons, List.flatMap_cons]

/-- The bytes of a character below 128 are this number, and those of other characters are 128 and above. -/
theorem utf8EncodeChar_cases (c : Char) : (c.toNat < 128 ∧ String.utf8EncodeChar c = [UInt8.ofNat c.toNat]) ∨
    (128 ≤ c.toNat ∧ ∀ b ∈ String.utf8EncodeChar c, 128 ≤ b.toNat) := by
  have hval : c.val.toNat = c.toNat := rfl
  unfold String.utf8EncodeChar
  simp only [hval]
  split
  · exact .inl ⟨by omega, rfl⟩
  · refine .inr ⟨by omega, ?_⟩
    split
    · simp only [List.mem_cons, List.not_mem_nil, or_false]
      rintro b (rfl | rfl) <;> simp only [UInt8.toNat_ofNat'] <;> omega
    · split <;> simp only [List.mem_cons, List.not_mem_nil, or_false]
      · rintro b (rfl | rfl | rfl) <;> simp only [UInt8.toNat_ofNat'] <;> omega
      · rintro b (rfl | rfl | rfl | rfl) <;> simp only [UInt8.toNat_ofNat'] <;> omega

theorem octetCode_of_le {b : UInt8} (h : 128 ≤ b.toNat) : octetCode b = byteCode b := by
  refine if_neg fun hplain => ?_
  have hlt := toNat_lt_of_isUnreserved hplain
  rw [toNat_ofNat_toNat] at hlt
  omega

/-- The code of a character is the code of its bytes. -/
theorem charCode_eq (c : Char) : charCode c = (String.utf8EncodeChar c).flatMap octetCode := by
  unfold charCode
  rcases utf8EncodeChar_cases c with ⟨hc, hbytes⟩ | ⟨hc, hbytes⟩
  · have hvalue : Char.ofNat (UInt8.ofNat c.toNat).toNat = c := by
      rw [UInt8.toNat_ofNat', Nat.mod_eq_of_lt (by omega), Char.ofNat_toNat]
    rw [hbytes, List.flatMap_singleton, List.flatMap_singleton, octetCode, hvalue]
  · have hreserved : ¬ isUnreserved c = true := fun hplain => by
      have hlt := toNat_lt_of_isUnreserved hplain
      omega
    rw [if_neg hreserved]
    exact List.flatMap_congr fun b hb => (octetCode_of_le (hbytes b hb)).symm

theorem percentEncode_eq (s : List Char) : percentEncode s = (utf8 s).flatMap octetCode := by
  rw [utf8, List.flatMap_assoc]
  exact List.flatMap_congr fun c _ => charCode_eq c

theorem utf8_inj {s other : List Char} : utf8 s = utf8 other ↔ s = other := by
  refine ⟨fun h => ?_, fun h => by rw [h]⟩
  have hencode : s.utf8Encode = other.utf8Encode := congrArg List.toByteArray h
  have hdecode : some s.toArray = some other.toArray := by
    rw [← List.utf8Decode?_utf8Encode, hencode, List.utf8Decode?_utf8Encode]
  simpa using hdecode

/-- The character whose code stands in for that of a slash. -/
def standIn : Char := '\x1f'

/-- What comes of a query on its way: where slashes are hidden, the character that stands in for them becomes one. -/
def carried (allowSlash : Bool) (query : String) : String :=
  if allowSlash then String.ofList (query.toList.map (replaced standIn '/')) else query

theorem eq_standIn_of_mem {c : Char} (h : 0x1F ∈ String.utf8EncodeChar c) : c = standIn := by
  rcases utf8EncodeChar_cases c with ⟨hc, hbytes⟩ | ⟨-, hbytes⟩
  · rw [hbytes, List.mem_singleton] at h
    have hvalue : c.toNat = 31 := by
      have htoNat := congrArg UInt8.toNat h
      rw [UInt8.toNat_ofNat', Nat.mod_eq_of_lt (by omega)] at htoNat
      exact htoNat.symm
    rw [← Char.ofNat_toNat c, hvalue]
    rfl
  · exact absurd (hbytes 0x1F h) (by decide)

/-- Replacing the character replaces its byte. -/
theorem utf8_map_standIn (s : List Char) :
    utf8 (s.map (replaced standIn '/')) = (utf8 s).map (replaced 0x1F 0x2F) := by
  unfold utf8
  rw [List.flatMap_map, List.map_flatMap]
  refine List.flatMap_congr fun c _ => ?_
  by_cases hc : c = standIn
  · rw [hc]
    decide +kernel
  · have hsame : ∀ b ∈ String.utf8EncodeChar c, replaced 0x1F 0x2F b = id b := by
      intro b hb
      refine if_neg fun hstandIn => hc (eq_standIn_of_mem ?_)
      rwa [hstandIn] at hb
    rw [replaced, if_neg hc, List.map_congr_left hsame, List.map_id]

theorem hideSlashes_flatMap (bytes : List UInt8) :
    hideSlashes (bytes.flatMap octetCode) = (bytes.map (replaced 0x2F 0x1F)).flatMap octetCode :=
  swapCode_flatMap (by decide +kernel) (by decide +kernel) bytes

theorem restoreSlashes_flatMap (bytes : List UInt8) :
    restoreSlashes (bytes.flatMap octetCode) = (bytes.map (replaced 0x1F 0x2F)).flatMap octetCode :=
  swapCode_flatMap (by decide +kernel) (by decide +kernel) bytes

/-- Hiding and restoring slashes makes slashes of the characters that stand in for them. -/
theorem restoreSlashes_hideSlashes (s : List Char) :
    restoreSlashes (hideSlashes (percentEncode s)) = percentEncode (s.map (replaced standIn '/')) := by
  rw [percentEncode_eq, percentEncode_eq, hideSlashes_flatMap, restoreSlashes_flatMap, List.map_map, utf8_map_standIn]
  exact congrArg (List.flatMap octetCode) (List.map_congr_left fun b _ => replaced_replaced 0x2F 0x1F b)

/-- The characters that stand in for slashes have the code of a slash that is hidden. -/
theorem hideSlashes_map_standIn (s : List Char) :
    hideSlashes (percentEncode (s.map (replaced standIn '/'))) = hideSlashes (percentEncode s) := by
  rw [percentEncode_eq, percentEncode_eq, utf8_map_standIn, hideSlashes_flatMap, hideSlashes_flatMap, List.map_map]
  exact congrArg (List.flatMap octetCode) (List.map_congr_left fun b _ => replaced_replaced 0x1F 0x2F b)

theorem percentEncode_inj {s other : List Char} : percentEncode s = percentEncode other ↔ s = other := by
  rw [percentEncode_eq, percentEncode_eq, flatMap_octetCode_inj, utf8_inj]

theorem carried_eq_iff {allowSlash : Bool} {query : String} :
    carried allowSlash query = query ↔ (allowSlash = true → standIn ∉ query.toList) := by
  cases allowSlash with
  | false => simp [carried]
  | true =>
    have hmap : carried true query = query ↔ query.toList.map (replaced standIn '/') = query.toList.map id := by
      rw [carried, if_pos rfl, List.map_id, ← String.toList_inj, String.toList_ofList]
    rw [hmap, List.map_inj_left]
    constructor
    · intro hsame _ hmem
      exact absurd (hsame standIn hmem) (by decide)
    · intro hnot c hc
      refine if_neg fun heq => hnot rfl ?_
      rwa [heq] at hc

/-- The code of a query is restored to the plain code of what comes of the query. -/
theorem restoreQuery_encodeQuery (allowSlash : Bool) (query : String) :
    restoreQuery allowSlash (encodeQuery allowSlash query) = encodeQuery false (carried allowSlash query) := by
  cases allowSlash with
  | false => rfl
  | true =>
    simp only [restoreQuery, encodeQuery, carried, if_true, String.toList_ofList, restoreSlashes_hideSlashes]
    rfl

theorem encodeQuery_false_inj {query other : String} :
    encodeQuery false query = encodeQuery false other ↔ query = other := by
  simp only [encodeQuery, Bool.false_eq_true, if_false, String.ofList_inj, percentEncode_inj, String.toList_inj]

/-- Two queries have one code exactly when the same comes of them. -/
theorem encodeQuery_inj {allowSlash : Bool} {query other : String} :
    encodeQuery allowSlash query = encodeQuery allowSlash other ↔
      carried allowSlash query = carried allowSlash other := by
  have hcarried : ∀ q, encodeQuery allowSlash (carried allowSlash q) = encodeQuery allowSlash q := by
    intro q
    cases allowSlash with
    | false => rfl
    | true => simp only [encodeQuery, carried, if_true, String.toList_ofList, hideSlashes_map_standIn]
  constructor
  · intro h
    rw [← encodeQuery_false_inj, ← restoreQuery_encodeQuery, h, restoreQuery_encodeQuery]
  · intro h
    rw [← hcarried query, h, hcarried]

/-- A query leaves no character in its code that stands neither for itself nor in front of digits. -/
theorem ne_of_mem_encodeQuery {d : Char} (hd : isUnreserved d = false) (hpercent : d ≠ '%') (allowSlash : Bool)
    (query : String) : ∀ c ∈ (encodeQuery allowSlash query).toList, c ≠ d := by
  unfold encodeQuery
  rw [String.toList_ofList, percentEncode_eq]
  split
  · rw [hideSlashes_flatMap]
    exact ne_of_mem_flatMap hd hpercent
  · exact ne_of_mem_flatMap hd hpercent

/-- No code has an ampersand, so that a request is not cut within it. -/
theorem ne_ampersand_of_mem_encodeQuery (allowSlash : Bool) (query : String) :
    ∀ c ∈ (encodeQuery allowSlash query).toList, c ≠ '&' :=
  ne_of_mem_encodeQuery (by decide) (by decide) allowSlash query

/-- Only the empty query has the empty code. -/
theorem encodeQuery_eq_empty_iff {allowSlash : Bool} {query : String} :
    encodeQuery allowSlash query = "" ↔ query = "" := by
  have hnil : encodeQuery allowSlash "" = "" := by cases allowSlash <;> rfl
  refine ⟨fun h => ?_, fun h => h ▸ hnil⟩
  have hcarried := encodeQuery_inj.mp (h.trans hnil.symm)
  cases allowSlash with
  | false => exact hcarried
  | true =>
    have hmap : query.toList.map (replaced standIn '/') = [] := String.ofList_inj.mp hcarried
    exact String.toList_inj.mp (List.map_eq_nil_iff.mp hmap)

/-- A request of the query variable alone is read as this variable and its value. -/
theorem parseRequest_query {value : String} (hvalue : ∀ c ∈ value.toList, c ≠ '&') :
    parseRequest (queryVariable ++ "=" ++ value) = [(queryVariable, value)] := by
  have htext : (queryVariable ++ "=" ++ value).toList = 's' :: '=' :: value.toList := by
    rw [String.toList_append]
    rfl
  have hwhole : Text.splitWhen (· == '&') ('s' :: '=' :: value.toList) = ['s' :: '=' :: value.toList] := by
    refine Text.splitWhen_of_none fun c hc => beq_false_of_ne ?_
    rcases List.mem_cons.mp hc with rfl | hc
    · decide
    · rcases List.mem_cons.mp hc with rfl | hc
      · decide
      · exact hvalue c hc
  have hpair : pairOf ('s' :: '=' :: value.toList) = (queryVariable, value) :=
    congrArg (Prod.mk queryVariable) String.ofList_toList
  have hmark : ('s' :: '=' :: value.toList).dropWhile (· == '?') = 's' :: '=' :: value.toList := rfl
  simp only [parseRequest, htext, hmark, hwhole, List.filter_cons, List.isEmpty_cons, Bool.not_false, if_true,
    List.filter_nil, List.map_cons, List.map_nil, hpair]
  rfl

theorem find?_resolve (settings : RequestSettings) {vars : Variables} {value : String}
    (h : Assoc.find? queryVariable vars = some value) :
    Assoc.find? queryVariable (resolve settings vars) = some (restoreQuery settings.allowSlash value) := by
  rw [resolve, h]
  simp

/-- A query that is encoded, handed over in a request and resolved comes back as the plain code of what comes of it.
This is its own plain code unless slashes are hidden and it has the character that stands in for them. Two queries have
one code exactly when they differ in this character and slashes only. -/
theorem resolve_encodeQuery_iff (settings : RequestSettings) (query : String) :
    Assoc.find? queryVariable (resolve settings
        (parseRequest (queryVariable ++ "=" ++ encodeQuery settings.allowSlash query))) =
      some (encodeQuery false (carried settings.allowSlash query)) ∧
    (encodeQuery false (carried settings.allowSlash query) = encodeQuery false query ↔
      (settings.allowSlash = true → standIn ∉ query.toList)) ∧
    ∀ other, encodeQuery settings.allowSlash query = encodeQuery settings.allowSlash other ↔
      carried settings.allowSlash query = carried settings.allowSlash other := by
  have hparse := parseRequest_query (ne_ampersand_of_mem_encodeQuery settings.allowSlash query)
  have hfind : Assoc.find? queryVariable [(queryVariable, encodeQuery settings.allowSlash query)] =
      some (encodeQuery settings.allowSlash query) := rfl
  refine ⟨?_, ?_, fun other => encodeQuery_inj⟩
  · rw [hparse, find?_resolve settings hfind, restoreQuery_encodeQuery]
  · rw [encodeQuery_false_inj, carried_eq_iff]

/-- The control character comes back as a slash, with which it shares its code. -/
theorem exists_query_not_restored : encodeQuery true (String.singleton standIn) = encodeQuery true "/" ∧
    Assoc.find? queryVariable (resolve {} (parseRequest (queryVariable ++ "=" ++
      encodeQuery true (String.singleton standIn)))) = some "%2F" ∧
    encodeQuery false (String.singleton standIn) = "%1F" := by
  decide +kernel

end TermSearch.Route
