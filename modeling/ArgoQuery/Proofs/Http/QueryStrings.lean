import ArgoQuery.Http.Message
import ArgoQuery.Proofs.Text.ByteOrder
import Mathlib.Tactic.IntervalCases

/-!
# A query string says which pairs it is of

A name or a value is encoded character by character, and what encodes it is read back byte by byte
(`formBytes_formEncode`). None of it is a mark of the query string, so the marks that are there come
from nowhere else: `formEncodePairs_injective`. The pairs are added to what an address has, so a
request says by its address which pairs it was made from: `Request.url_of_toAddress`,
`Url.eq_of_withPairs_eq`.
-/

namespace ArgoQuery

/-- Parts without a mark are known from what joins them with the mark. -/
theorem eq_of_intercalate_eq {Item : Type} [BEq Item] [LawfulBEq Item] {mark : Item}
    {parts others : List (List Item)} (clean : ∀ part ∈ parts, mark ∉ part)
    (clean' : ∀ part ∈ others, mark ∉ part) (nonempty : parts ≠ []) (nonempty' : others ≠ [])
    (same : [mark].intercalate parts = [mark].intercalate others) : parts = others :=
  calc parts = ([mark].intercalate parts).splitOn mark :=
        (List.splitOn_intercalate mark clean nonempty).symm
    _ = ([mark].intercalate others).splitOn mark := by rw [same]
    _ = others := List.splitOn_intercalate mark clean' nonempty'

namespace Text

/-- Listing bytes from a place on appends them to those that were taken before, which are kept last
first. -/
theorem toList_loop_eq_append (bytes : ByteArray) (place : Nat) (taken : List UInt8) :
    ByteArray.toList.loop bytes place taken = taken.reverse ++ bytes.data.toList.drop place := by
  fun_induction ByteArray.toList.loop bytes place taken with
  | case1 place taken inside ih =>
    rw [ih, List.drop_eq_getElem_cons (i := place) (by simpa using inside)]
    simp [ByteArray.get!, inside]
  | case2 place taken outside =>
    rw [List.drop_of_length_le (by simpa using outside), List.append_nil]

/-- The listed bytes of a text are its UTF-8 bytes. -/
@[simp]
theorem toList_toUTF8 (text : String) : text.toUTF8.toList = bytes text := by
  rw [ByteArray.toList, toList_loop_eq_append]
  rfl

/-- Texts of the same bytes are the same. -/
theorem bytes_injective : Function.Injective bytes := by
  intro first second same
  exact String.toByteArray_inj.mp (ByteArray.ext (Array.toList_inj.mp same))

end Text

namespace Http

/-- The value of a hexadecimal digit in upper case. -/
def hexValue (digit : Char) : Nat :=
  if digit.isDigit then digit.toNat - '0'.toNat else digit.toNat - 'A'.toNat + 10

/-- The bytes that the text of a name or a value stands for. -/
def formBytes : List Char → List UInt8
  | [] => []
  | '%' :: high :: low :: rest =>
    UInt8.ofNat (16 * hexValue high + hexValue low) :: formBytes rest
  | c :: rest => UInt8.ofNat (if c = '+' then 32 else c.toNat) :: formBytes rest

/-- A hexadecimal digit has the value that it is written for. -/
theorem hexValue_upperHexDigit {digit : Nat} (small : digit < 16) :
    hexValue (upperHexDigit digit) = digit := by
  interval_cases digit <;> decide

/-- A percent sign with two hexadecimal digits stands for their byte. -/
theorem formBytes_percent (byte : UInt8) (rest : List Char) :
    formBytes ('%' :: upperHexDigit (byte.toNat / 16) :: upperHexDigit (byte.toNat % 16) :: rest) =
      byte :: formBytes rest := by
  have bound : byte.toNat < 256 := byte.toNat_lt
  rw [formBytes, hexValue_upperHexDigit (by omega), hexValue_upperHexDigit (by omega),
    Nat.div_add_mod, UInt8.ofNat_toNat]

/-- Any other character stands for its own byte, and a plus for a space. -/
theorem formBytes_cons {c : Char} (literal : c ≠ '%') (rest : List Char) :
    formBytes (c :: rest) = UInt8.ofNat (if c = '+' then 32 else c.toNat) :: formBytes rest := by
  rw [formBytes]
  intro high low after same
  exact absurd same literal

/-- What encodes the bytes one by one is read as these bytes. -/
theorem formBytes_percentEncoded (c : Char) (rest : List Char) :
    formBytes (percentEncoded c ++ rest) = String.utf8EncodeChar c ++ formBytes rest := by
  have each (bytes : List UInt8) : formBytes ((bytes.flatMap fun byte =>
      ['%', upperHexDigit (byte.toNat / 16), upperHexDigit (byte.toNat % 16)]) ++ rest) =
      bytes ++ formBytes rest := by
    induction bytes with
    | nil => rfl
    | cons byte bytes ih =>
      rw [List.flatMap_cons, List.append_assoc, List.cons_append, List.cons_append,
        List.cons_append, List.nil_append, formBytes_percent, ih, List.cons_append]
  rw [percentEncoded, each, Text.toList_toUTF8, Text.bytes_eq_flatMap]
  simp

/-- The characters that stand in names and values. -/
def isFormCharacter (c : Char) : Bool :=
  c.isAlphanum || "*-._".toList.contains c || c == '+' || c == '%'

/-- Whatever a character is written as consists of characters of forms. -/
theorem isFormCharacter_of_mem_formEncoded {c written : Char} (member : written ∈ formEncoded c) :
    isFormCharacter written = true := by
  rw [formEncoded] at member
  split_ifs at member with kept space
  · rw [List.mem_singleton] at member
    rw [member, isFormCharacter, kept]
    rfl
  · rw [List.mem_singleton] at member
    rw [member]
    decide
  · rw [percentEncoded, List.mem_flatMap] at member
    obtain ⟨byte, -, member⟩ := member
    have digit {value : Nat} (small : value < 16) :
        isFormCharacter (upperHexDigit value) = true := by
      interval_cases value <;> decide
    have bound : byte.toNat < 256 := byte.toNat_lt
    simp only [List.mem_cons, List.not_mem_nil, or_false] at member
    rcases member with rfl | rfl | rfl
    · decide
    · exact digit (by omega)
    · exact digit (by omega)

/-- Letters and digits are ASCII characters. -/
theorem toNat_lt_of_isAlphanum {c : Char} (kept : c.isAlphanum = true) : c.toNat < 128 := by
  have bound : c.val ≤ 'z'.val := by
    rcases (Bool.or_eq_true ..).mp kept with letter | digit
    · rcases (Bool.or_eq_true ..).mp letter with upper | lower
      · exact UInt32.le_trans (of_decide_eq_true upper).2 (by decide)
      · exact of_decide_eq_true ((Bool.and_eq_true ..).mp lower).2
    · exact UInt32.le_trans (of_decide_eq_true ((Bool.and_eq_true ..).mp digit).2) (by decide)
  exact Nat.lt_of_le_of_lt (UInt32.le_iff_toNat_le.mp bound) (by decide)

/-- A character that stands for itself is one byte, and none that would be read otherwise. -/
theorem literal_of_kept {c : Char} (kept : (c.isAlphanum || "*-._".toList.contains c) = true) :
    c.toNat < 128 ∧ c ≠ '%' ∧ c ≠ '+' := by
  rw [Bool.or_eq_true, List.contains_iff_mem] at kept
  rcases kept with letter | sign
  · refine ⟨toNat_lt_of_isAlphanum letter, ?_, ?_⟩
    · rintro rfl
      exact absurd letter (by decide)
    · rintro rfl
      exact absurd letter (by decide)
  · simp only [String.reduceToList, List.mem_cons, List.not_mem_nil, or_false] at sign
    rcases sign with rfl | rfl | rfl | rfl <;> decide

/-- What encodes a character is read as its bytes. -/
theorem formBytes_formEncoded (c : Char) (rest : List Char) :
    formBytes (formEncoded c ++ rest) = String.utf8EncodeChar c ++ formBytes rest := by
  rw [formEncoded]
  split_ifs with kept space
  · obtain ⟨small, percent, plus⟩ := literal_of_kept kept
    have alone : String.utf8EncodeChar c = [UInt8.ofNat c.toNat] :=
      if_pos (Nat.le_of_lt_succ small)
    rw [List.singleton_append, formBytes_cons percent, if_neg plus, alone, List.singleton_append]
  · subst space
    rw [List.singleton_append, formBytes_cons (by decide)]
    rfl
  · exact formBytes_percentEncoded c rest

/-- The bytes of a text are read back from its form. -/
@[simp]
theorem formBytes_formEncode (text : String) : formBytes (formEncode text) = Text.bytes text := by
  have each (characters : List Char) : formBytes (characters.flatMap formEncoded) =
      characters.flatMap String.utf8EncodeChar := by
    induction characters with
    | nil => rfl
    | cons c rest ih => rw [List.flatMap_cons, formBytes_formEncoded, ih, List.flatMap_cons]
  rw [formEncode, each, Text.bytes_eq_flatMap]

/-- Texts of one form are the same. -/
theorem formEncode_injective : Function.Injective formEncode := by
  intro text other same
  refine Text.bytes_injective ?_
  rw [← formBytes_formEncode, same, formBytes_formEncode]

/-- A character that forms do not have is not in the form of a text. -/
theorem not_mem_formEncode {mark : Char} (reserved : isFormCharacter mark = false) (text : String) :
    mark ∉ formEncode text := by
  intro member
  obtain ⟨c, -, written⟩ := List.mem_flatMap.mp member
  exact absurd (isFormCharacter_of_mem_formEncoded written) (Bool.eq_false_iff.mp reserved)

/-- A name and a value as they stand in a query string. -/
def formEncodePair (pair : String × String) : List Char :=
  formEncode pair.1 ++ '=' :: formEncode pair.2

/-- Pairs of one form are the same. A name has no equals sign in its form, so it ends at the first
one. -/
theorem formEncodePair_injective : Function.Injective formEncodePair := by
  intro pair other same
  have clean (pair : String × String) :
      ∀ part ∈ [formEncode pair.1, formEncode pair.2], '=' ∉ part := by
    simp only [List.forall_mem_cons]
    exact ⟨not_mem_formEncode (by decide) _, not_mem_formEncode (by decide) _, nofun⟩
  have joined (pair : String × String) :
      formEncodePair pair = ['='].intercalate [formEncode pair.1, formEncode pair.2] := by
    rw [formEncodePair]
    simp
  rw [joined, joined] at same
  have parts := eq_of_intercalate_eq (clean pair) (clean other) (List.cons_ne_nil _ _)
    (List.cons_ne_nil _ _) same
  obtain ⟨name, value⟩ : formEncode pair.1 = formEncode other.1 ∧
      formEncode pair.2 = formEncode other.2 := by simpa using parts
  exact Prod.ext (formEncode_injective name) (formEncode_injective value)

/-- Nothing in a pair ends it. -/
theorem not_mem_formEncodePair (pair : String × String) : '&' ∉ formEncodePair pair := by
  have clean (text : String) : '&' ∉ formEncode text := not_mem_formEncode (by decide) text
  rw [formEncodePair, List.mem_append, List.mem_cons]
  exact not_or.mpr ⟨clean _, not_or.mpr ⟨by decide, clean _⟩⟩

/-- Pairs are written one after the other with ampersands between them. -/
theorem formEncodePairs_eq (pairs : List (String × String)) :
    formEncodePairs pairs = ['&'].intercalate (pairs.map formEncodePair) := rfl

/-- Only no pairs at all are written as nothing. -/
@[simp]
theorem formEncodePairs_eq_nil_iff {pairs : List (String × String)} :
    formEncodePairs pairs = [] ↔ pairs = [] := by
  cases pairs with
  | nil => exact iff_of_true rfl rfl
  | cons pair rest =>
    refine iff_of_false (fun empty => ?_) (List.cons_ne_nil _ _)
    rw [formEncodePairs_eq] at empty
    cases rest <;> simp [formEncodePair] at empty

/-- Different pairs have different query strings. -/
theorem formEncodePairs_injective : Function.Injective formEncodePairs := by
  intro pairs others same
  by_cases empty : pairs = []
  · rw [empty]
    exact (formEncodePairs_eq_nil_iff.mp (same ▸ formEncodePairs_eq_nil_iff.mpr empty)).symm
  · have empty' : others ≠ [] := fun empty' =>
      empty (formEncodePairs_eq_nil_iff.mp (same ▸ formEncodePairs_eq_nil_iff.mpr empty'))
    have clean (pairs : List (String × String)) : ∀ part ∈ pairs.map formEncodePair, '&' ∉ part :=
      List.forall_mem_map.mpr fun pair _ => not_mem_formEncodePair pair
    refine List.map_injective_iff.mpr formEncodePair_injective ?_
    exact eq_of_intercalate_eq (clean pairs) (clean others) (by simpa using empty)
      (by simpa using empty') same

/-- The pairs go behind the query that an address has. -/
theorem Url.query_withPairs (url : Url) {pairs : List (String × String)} (nonempty : pairs ≠ []) :
    (url.withPairs pairs).query =
      some ((match url.query with
        | none | some [] => []
        | some given => given ++ ['&']) ++ formEncodePairs pairs) := by
  have added : (formEncodePairs pairs).isEmpty = false := by
    simpa using formEncodePairs_eq_nil_iff.not.mpr nonempty
  rw [withPairs]
  rcases url.query with _ | _ | ⟨c, rest⟩ <;> simp [added]

/-- An address says which pairs were added to another one. -/
theorem Url.eq_of_withPairs_eq {url : Url} {pairs others : List (String × String)}
    (nonempty : pairs ≠ []) (nonempty' : others ≠ [])
    (same : url.withPairs pairs = url.withPairs others) : pairs = others := by
  have queries := congrArg Url.query same
  rw [query_withPairs url nonempty, query_withPairs url nonempty'] at queries
  exact formEncodePairs_injective (List.append_cancel_left (Option.some.inj queries))

/-- A request that is sent goes to its address, the pairs added. -/
theorem Request.url_of_toAddress {method : Method} {address : String}
    {pairs : List (String × String)} {headers : Headers} {body : Option Json} {request : Request}
    (nonempty : pairs ≠ []) (sent : toAddress method address pairs headers body = .ok request) :
    ∃ url, Url.ofText? address = some url ∧ request.url = url.withPairs pairs := by
  rw [toAddress] at sent
  cases read : Url.ofText? address with
  | none => simp [read] at sent
  | some url =>
    have extended : (if pairs.isEmpty then url else url.withPairs pairs) = url.withPairs pairs :=
      if_neg (by simpa using nonempty)
    simp only [read, extended] at sent
    split_ifs at sent
    cases sent
    exact ⟨url, rfl, rfl⟩

end Http

end ArgoQuery
