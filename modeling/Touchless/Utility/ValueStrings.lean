import Touchless.Utility.ValueReadBack
import Touchless.Utility.ValueSyntax

/-!
# Strings of what has been read

Of a text in UTF-8, the reader makes strings in UTF-8 only if it combines the halves of surrogate
pairs. It does so from the first half on: it requires the second one behind it. A second half alone
it takes for a code point and writes the three bytes of a surrogate (`not_unicode_lowSurrogate`).
This is the only way to strings that are not well formed (`unicode_fromJSON_iff`).

A member that a later one with the same key replaces leaves its key behind, but not its value, so
the strings in that value do not count (`Tree.kept`).
-/

namespace Touchless.Value

/-! ### Strings in UTF-8 -/

/-- Are the value itself and its keys well-formed UTF-8? -/
def unicodeType : Value → Bool
  | string s => decide (Utf8.WellFormed s)
  | hash entries => entries.all fun p ↦ decide (Utf8.WellFormed p.1)
  | _ => true

/-- Every string and every key in the value is well-formed UTF-8. -/
def Unicode (value : Value) : Prop := value.everywhere unicodeType = true

theorem unicode_array {elements : List Value} :
    (array elements).Unicode ↔ ∀ element ∈ elements, element.Unicode := by
  simp only [Unicode, everywhere, unicodeType, Bool.true_and, everywhereElements_iff]

theorem unicode_hash {entries : List (Bytes × Value)} :
    (hash entries).Unicode ↔ ∀ p ∈ entries, Utf8.WellFormed p.1 ∧ p.2.Unicode := by
  simp only [Unicode, everywhere, unicodeType, Bool.and_eq_true, everywhereEntries_iff,
    List.all_eq_true, decide_eq_true_eq, forall_and]

/-! ### What is kept of a text -/

/-- The second half of a surrogate pair, without the first one. -/
def Piece.LoneLow : Piece → Prop
  | unit u _ => 0xDC00 ≤ u ∧ u ≤ 0xDFFF
  | _ => False

/-- One of the characters is a second half without the first one. -/
def Literal.LoneLow (literal : Literal) : Prop := ∃ piece ∈ literal, piece.LoneLow

namespace Tree

mutual

/-- The strings and keys that stay in the value: all but those in the value of a member that is
replaced. -/
def kept : Tree → List Literal
  | string literal => [literal]
  | array elements _ => keptElements elements
  | object members _ => keptMembers members
  | _ => []

/-- The strings and keys of the elements. -/
def keptElements : List (Bytes × Tree) → List Literal
  | [] => []
  | (_, element) :: elements => kept element ++ keptElements elements

/-- The keys of the members, and the strings and keys of the values that no later member replaces.
-/
def keptMembers : List (Bytes × Literal × Bytes × Bytes × Tree) → List Literal
  | [] => []
  | (_, key, _, _, element) :: members =>
    key :: ((if members.any fun m ↦ m.2.1.flatMap Piece.bytes = key.flatMap Piece.bytes then []
      else kept element) ++ keptMembers members)

end

/-! ### The strings stand in the text -/

mutual

/-- A string that is kept stands in the text. -/
theorem isInfix_quoted : ∀ (tree : Tree) {literal : Literal}, literal ∈ tree.kept →
    quoted literal <:+: tree.text
  | null, _, h | bool _, _, h | number _ _, _, h => by simp [kept] at h
  | string literal, _, h => by
    rw [kept, List.mem_singleton] at h
    exact ⟨[], [], by rw [h, text, List.nil_append, List.append_nil]⟩
  | array elements close, _, h => by
    rw [kept] at h
    rw [text]
    exact ((isInfix_quoted_elements elements h).trans
      (List.prefix_append _ _).isInfix).trans (List.suffix_cons _ _).isInfix
  | object members close, _, h => by
    rw [kept] at h
    rw [text]
    exact ((isInfix_quoted_members members h).trans
      (List.prefix_append _ _).isInfix).trans (List.suffix_cons _ _).isInfix

theorem isInfix_quoted_elements : ∀ (elements : List (Bytes × Tree)) {literal : Literal},
    literal ∈ keptElements elements → quoted literal <:+: textElements elements
  | [], _, h => by simp [keptElements] at h
  | (gap, element) :: elements, _, h => by
    rw [keptElements, List.mem_append] at h
    rw [textElements]
    refine List.IsInfix.trans ?_ (List.suffix_append gap _).isInfix
    rcases h with h | h
    · exact (isInfix_quoted element h).trans (List.prefix_append _ _).isInfix
    · exact (isInfix_quoted_elements elements h).trans (List.suffix_append _ _).isInfix

theorem isInfix_quoted_members : ∀ (members : List (Bytes × Literal × Bytes × Bytes × Tree))
    {literal : Literal}, literal ∈ keptMembers members → quoted literal <:+: textMembers members
  | [], _, h => by simp [keptMembers] at h
  | (gap, key, before, after, element) :: members, literal, h => by
    rw [keptMembers, List.mem_cons, List.mem_append] at h
    rw [textMembers]
    refine List.IsInfix.trans ?_ (List.suffix_append gap _).isInfix
    rcases h with rfl | h
    · exact (List.prefix_append _ _).isInfix
    have hvalue : text element ++ textMembers members <:+:
        quoted key ++ (before ++ 0x3A :: (after ++ (text element ++ textMembers members))) :=
      ⟨quoted key ++ before ++ 0x3A :: after, [], by simp⟩
    refine List.IsInfix.trans ?_ hvalue
    rcases h with h | h
    · have hkept : literal ∈ kept element := by
        split_ifs at h
        · exact absurd h List.not_mem_nil
        · exact h
      exact (isInfix_quoted element hkept).trans (List.prefix_append _ _).isInfix
    · exact (isInfix_quoted_members members h).trans (List.suffix_append _ _).isInfix

end

/-! ### The strings can be read -/

mutual

theorem valid_of_mem_kept {floats : FloatText} : ∀ (tree : Tree) {rest : Bytes},
    Takes floats tree rest → ∀ literal ∈ tree.kept, literal.Valid
  | null, _, _ | bool _, _, _ | number _ _, _, _ => by simp [kept]
  | string literal, _, .string h => by
    intro literal' hmem
    rw [kept, List.mem_singleton] at hmem
    rwa [hmem]
  | array elements close, _, .array h _ => by
    rw [kept]
    exact valid_of_mem_keptElements elements h
  | object members close, _, .object h _ => by
    rw [kept]
    exact valid_of_mem_keptMembers members h

theorem valid_of_mem_keptElements {floats : FloatText} : ∀ (elements : List (Bytes × Tree))
    {first : Bool} {rest : Bytes}, TakesElements floats first elements rest →
    ∀ literal ∈ keptElements elements, literal.Valid
  | [], _, _, _ => by simp [keptElements]
  | (_, element) :: elements, _, _, .cons _ h hs => by
    rw [keptElements, List.forall_mem_append]
    exact ⟨valid_of_mem_kept element h, valid_of_mem_keptElements elements hs⟩

theorem valid_of_mem_keptMembers {floats : FloatText} :
    ∀ (members : List (Bytes × Literal × Bytes × Bytes × Tree)) {first : Bool} {rest : Bytes},
    TakesMembers floats first members rest → ∀ literal ∈ keptMembers members, literal.Valid
  | [], _, _, _ => by simp [keptMembers]
  | (_, key, _, _, element) :: members, _, _, .cons _ hkey _ _ h hs => by
    rw [keptMembers, List.forall_mem_cons, List.forall_mem_append]
    refine ⟨hkey, ?_, valid_of_mem_keptMembers members hs⟩
    split_ifs
    · simp
    · exact valid_of_mem_kept element h

end

end Tree

/-! ### Bytes of a string -/

section Bytes

variable {state : Utf8.State} {text : Bytes}

/-- A backslash stands between two characters. -/
theorem run_backslash (h : Utf8.run state (0x5C :: text) = some .start) :
    state = .start ∧ Utf8.run .start text = some .start := by
  obtain ⟨hstate, hrest⟩ := @Utf8.run_append_ascii 0x5C state [] .start text (by decide) h
  exact ⟨Option.some.inj hstate, hrest⟩

theorem run_unicodeEscape {u : ℕ} {escape : Bytes} (h : Json.UnicodeEscape u escape)
    (hrun : Utf8.run state (escape ++ text) = some .start) :
    state = .start ∧ Utf8.run .start text = some .start := by
  obtain ⟨digits, rfl, hdigits⟩ := h.bytes
  obtain ⟨hstate, hrest⟩ := run_backslash hrun
  have hascii : ∀ b ∈ 0x75 :: digits, b.toNat ≤ 0x7F :=
    List.forall_mem_cons.2 ⟨by decide, fun b hb ↦ (hdigits b hb).2⟩
  rw [List.append_eq, Utf8.run_append, Utf8.run_start_ascii hascii, Option.bind_some] at hrest
  exact ⟨hstate, hrest⟩

/-- A character that is written with a backslash stands between two characters. -/
theorem Piece.run_escape {piece : Piece} (h : piece.Valid) (hplain : ∀ c, piece ≠ .plain c)
    (htext : Utf8.run state (piece.text ++ text) = some .start) :
    state = .start ∧ Utf8.run .start text = some .start := by
  cases piece with
  | plain c => exact absurd rfl (hplain c)
  | short c e =>
    obtain ⟨hstate, hrest⟩ := run_backslash htext
    rw [List.append_eq, List.singleton_append, Utf8.run_cons,
      Utf8.step_start_ascii (Json.shortEscapes_byte h).2, Option.bind_some] at hrest
    exact ⟨hstate, hrest⟩
  | unit u escape => exact run_unicodeEscape h.1 htext
  | pair high low escape escape' =>
    rw [Piece.text, List.append_assoc] at htext
    obtain ⟨hstate, hsecond⟩ := run_unicodeEscape h.1 htext
    exact ⟨hstate, (run_unicodeEscape h.2.1 hsecond).2⟩

/-- A code unit that is no surrogate, and a pair, are the bytes of a character. -/
theorem run_utf8 {v : ℕ} (hscalar : v < 0xD800 ∨ 0xDFFF < v ∧ v < 0x110000) (bytes : Bytes) :
    Utf8.run .start ((utf8 v).getD [] ++ bytes) = Utf8.run .start bytes := by
  obtain ⟨c, rfl⟩ := Utf8.exists_char hscalar
  rw [utf8_toNat, Option.getD_some, Utf8.run_encode]

/-- In a text in UTF-8, the bytes of a character lead to where its text does, unless it is a second
half alone; then they lead nowhere. -/
theorem Piece.run_bytes {piece : Piece} (h : piece.Valid)
    (htext : Utf8.run state (piece.text ++ text) = some .start) :
    ∃ state', Utf8.run state' text = some .start ∧
      (piece.LoneLow → ∀ bytes, Utf8.run state (piece.bytes ++ bytes) = none) ∧
      (¬piece.LoneLow → ∀ bytes, Utf8.run state (piece.bytes ++ bytes) =
        Utf8.run state' bytes) := by
  cases piece with
  | plain c =>
    rw [Piece.text, List.singleton_append, Utf8.run_cons, Option.bind_eq_some_iff] at htext
    obtain ⟨state', hstep, hrest⟩ := htext
    refine ⟨state', hrest, False.elim, fun _ bytes ↦ ?_⟩
    rw [Piece.bytes, List.singleton_append, Utf8.run_cons, hstep, Option.bind_some]
  | short c e =>
    obtain ⟨rfl, hrest⟩ := run_escape h (by simp) htext
    exact ⟨.start, hrest, False.elim, fun _ bytes ↦ Utf8.run_encode c bytes⟩
  | unit u escape =>
    obtain ⟨rfl, hrest⟩ := run_escape h (by simp) htext
    obtain ⟨hescape, hhigh⟩ := h
    have hlt := hescape.lt
    refine ⟨.start, hrest, fun hlow bytes ↦ ?_, fun hlow bytes ↦ ?_⟩
    · have hrange : 0xDC00 ≤ u ∧ u ≤ 0xDFFF := hlow
      have hbytes : (unit u escape).bytes = Utf8.bytes3 u := by
        rw [Piece.bytes, utf8, if_neg (by omega), if_neg (by omega), if_pos (by omega)]
        rfl
      rw [hbytes, Utf8.run_surrogate (by omega)]
    · have hrange : ¬(0xDC00 ≤ u ∧ u ≤ 0xDFFF) := hlow
      exact run_utf8 (by omega) bytes
  | pair high low escape escape' =>
    obtain ⟨rfl, hrest⟩ := run_escape h (by simp) htext
    obtain ⟨-, -, hhigh, hlow⟩ := h
    obtain ⟨hfirst, hlast⟩ := combineSurrogates_le hhigh hlow
    have hscalar : combineSurrogates high low < 0xD800 ∨
        0xDFFF < combineSurrogates high low ∧ combineSurrogates high low < 0x110000 := by
      omega
    exact ⟨.start, hrest, False.elim, fun _ bytes ↦ run_utf8 hscalar bytes⟩

/-- **The bytes of a string in a text in UTF-8** are in UTF-8 unless a second half stands alone. -/
theorem Literal.run_bytes_iff {literal : Literal} (hvalid : literal.Valid)
    (htext : Utf8.run state (literal.flatMap Piece.text) = some .start) :
    Utf8.run state (literal.flatMap Piece.bytes) = some .start ↔ ¬literal.LoneLow := by
  induction literal generalizing state with
  | nil => simpa [LoneLow] using htext
  | cons piece literal ih =>
    obtain ⟨hpiece, hliteral⟩ := List.forall_mem_cons.1 hvalid
    rw [List.flatMap_cons] at htext ⊢
    obtain ⟨state', hrest, hlone, hother⟩ := Piece.run_bytes hpiece htext
    have hcons : LoneLow (piece :: literal) ↔ piece.LoneLow ∨ LoneLow literal :=
      List.exists_mem_cons_iff _ _ _
    rw [hcons, not_or]
    by_cases hlow : piece.LoneLow
    · rw [hlone hlow]
      exact iff_of_false (by simp) fun h ↦ h.1 hlow
    · rw [hother hlow, and_iff_right hlow]
      exact ih hliteral hrest

end Bytes

/-! ### Strings of a value -/

/-- A string that is kept is well formed. -/
def Literal.Unicode (literal : Literal) : Prop := Utf8.WellFormed (literal.flatMap Piece.bytes)

namespace Tree

theorem key_mem_keptMembers {members : List (Bytes × Literal × Bytes × Bytes × Tree)} :
    ∀ m ∈ members, m.2.1 ∈ keptMembers members := by
  induction members with
  | nil => simp
  | cons member members ih =>
    intro m hm
    rcases List.mem_cons.1 hm with rfl | hm
    · exact List.mem_cons_self
    · exact List.mem_cons_of_mem _ (List.mem_append_right _ (ih m hm))

theorem unicode_parseNumber {floats : FloatText} (stream : Bytes) :
    Yields (fun r ↦ r.1.Unicode) (parseNumber floats stream) := by
  have hinteger : ∀ positive n, (readInteger positive n).Unicode := by
    intro positive n
    simp only [readInteger]
    split_ifs <;> rfl
  exact Yields.skip fun _ ↦ Yields.skip fun _ ↦ Yields.skip fun _ ↦ Yields.skip fun _ ↦
    Yields.ite (yields_pure rfl) (yields_pure (hinteger _ _))

variable {floats : FloatText}

mutual

/-- **The strings and keys of the value are those that are kept.** -/
theorem unicode_value_iff : ∀ (tree : Tree) {rest : Bytes}, Takes floats tree rest →
    (tree.value.Unicode ↔ ∀ literal ∈ tree.kept, literal.Unicode)
  | null, _, _ => by simp [value, kept, Value.Unicode, everywhere, unicodeType]
  | bool _, _, _ => by simp [value, kept, Value.Unicode, everywhere, unicodeType]
  | number text v, _, .number _ h => by
    have hunicode : v.Unicode := unicode_parseNumber _ _ h
    simp [value, kept, hunicode]
  | string literal, _, _ => by
    rw [value, kept, List.forall_mem_singleton]
    simp [Value.Unicode, everywhere, unicodeType, Literal.Unicode]
  | array elements _, _, .array h _ => by
    rw [value, kept, unicode_array]
    exact unicode_valueElements_iff elements h
  | object members _, _, .object h _ => by
    have hmembers := unicode_valueMembers_iff members h (SortedAssoc.sorted_nil)
    rw [value, kept, unicode_hash, hmembers]
    simp

theorem unicode_valueElements_iff : ∀ (elements : List (Bytes × Tree)) {first : Bool}
    {rest : Bytes}, TakesElements floats first elements rest →
    ((∀ element ∈ valueElements elements, element.Unicode) ↔
      ∀ literal ∈ keptElements elements, literal.Unicode)
  | [], _, _, _ => by simp [valueElements, keptElements]
  | (_, element) :: elements, _, _, .cons _ h hs => by
    rw [valueElements, keptElements, List.forall_mem_cons, List.forall_mem_append,
      unicode_value_iff element h, unicode_valueElements_iff elements hs]

/-- An entry from before the members stays unless one of them has its key. -/
theorem unicode_valueMembers_iff : ∀ (members : List (Bytes × Literal × Bytes × Bytes × Tree))
    {first : Bool} {rest : Bytes}, TakesMembers floats first members rest →
    ∀ {entries : List (Bytes × Value)}, SortedAssoc.Sorted entries →
    ((∀ p ∈ valueMembers members entries, Utf8.WellFormed p.1 ∧ p.2.Unicode) ↔
      (∀ literal ∈ keptMembers members, literal.Unicode) ∧
      ∀ p ∈ entries, (∀ m ∈ members, m.2.1.flatMap Piece.bytes ≠ p.1) →
        Utf8.WellFormed p.1 ∧ p.2.Unicode)
  | [], _, _, _, entries, _ => by simp [valueMembers, keptMembers]
  | (gap, key, before, after, element) :: members, _, _, .cons _ _ _ _ h hs, entries, hsorted => by
    have helement := unicode_value_iff element h
    have hmembers := unicode_valueMembers_iff members hs
      (hsorted.insert (key.flatMap Piece.bytes) element.value)
    have hreplaced : ((members.any fun m ↦ m.2.1.flatMap Piece.bytes = key.flatMap Piece.bytes) =
        true) ↔ ∃ m ∈ members, m.2.1.flatMap Piece.bytes = key.flatMap Piece.bytes := by
      simp
    rw [valueMembers, hmembers, keptMembers, List.forall_mem_cons, List.forall_mem_append]
    constructor
    · rintro ⟨hkept, hentries⟩
      have hself := hentries (key.flatMap Piece.bytes, element.value)
        ((SortedAssoc.mem_insert_iff hsorted).2 (.inl rfl))
      refine ⟨⟨?_, fun literal hliteral ↦ ?_, hkept⟩, fun p hp hkey ↦ ?_⟩
      · -- a member that replaces this one has the same key
        by_cases hlater : ∃ m ∈ members, m.2.1.flatMap Piece.bytes = key.flatMap Piece.bytes
        · obtain ⟨m, hm, hkey⟩ := hlater
          have hunicode := hkept m.2.1 (key_mem_keptMembers m hm)
          rwa [Literal.Unicode, hkey] at hunicode
        · exact (hself fun m hm hkey ↦ hlater ⟨m, hm, hkey⟩).1
      · split_ifs at hliteral with hlater
        · exact absurd hliteral List.not_mem_nil
        · rw [hreplaced] at hlater
          exact helement.1 (hself fun m hm hkey ↦ hlater ⟨m, hm, hkey⟩).2 literal hliteral
      · obtain ⟨hfirst, hrest⟩ := List.forall_mem_cons.1 hkey
        exact hentries p ((SortedAssoc.mem_insert_iff hsorted).2 (.inr ⟨hp, hfirst.symm⟩)) hrest
    · rintro ⟨⟨hkey, hvalue, hkept⟩, hentries⟩
      refine ⟨hkept, fun p hp hnone ↦ ?_⟩
      rcases (SortedAssoc.mem_insert_iff hsorted).1 hp with rfl | ⟨hp, hne⟩
      · rw [if_neg (hreplaced.not.2 fun ⟨m, hm, hkey⟩ ↦ hnone m hm hkey)] at hvalue
        exact ⟨hkey, helement.2 hvalue⟩
      · exact hentries p hp (List.forall_mem_cons.2 ⟨hne.symm, hnone⟩)

end

/-- A string of a text in UTF-8 is a piece of it in UTF-8. -/
theorem run_text_of_mem_kept {tree : Tree} {before rest : Bytes} {literal : Literal}
    (htext : Utf8.WellFormed (before ++ (tree.text ++ rest))) (h : literal ∈ tree.kept) :
    Utf8.run .start (literal.flatMap Piece.text) = some .start := by
  obtain ⟨left, right, hinfix⟩ := isInfix_quoted tree h
  have hsplit : before ++ (tree.text ++ rest) =
      (before ++ left) ++ 0x22 :: (literal.flatMap Piece.text ++ 0x22 :: (right ++ rest)) := by
    rw [← hinfix, quoted]
    simp only [List.append_assoc, List.cons_append, List.nil_append]
  rw [hsplit, ← Utf8.run_start_iff] at htext
  have hopen := (Utf8.run_append_ascii (by decide) htext).2
  exact (Utf8.run_append_ascii (by decide) hopen).1

end Tree

/-- **When the strings of what is read are in UTF-8**: the text has no escape of a second half of a
surrogate pair without the first one, in any string or key that stays in the value. -/
theorem unicode_fromJSON_iff (floats : FloatText) {text : Bytes} (htext : Utf8.WellFormed text) :
    (fromJSON floats text).Unicode ↔
      ∀ (before : Bytes) (tree : Tree) (rest : Bytes), text = before ++ (tree.text ++ rest) →
        Blank before → Takes floats tree rest → ∀ literal ∈ tree.kept, ¬literal.LoneLow := by
  -- for a tree that the text is taken as, the value is its value
  have htree : ∀ {before : Bytes} {tree : Tree} {rest : Bytes},
      text = before ++ (tree.text ++ rest) → Takes floats tree rest →
      (tree.value.Unicode ↔ ∀ literal ∈ tree.kept, ¬literal.LoneLow) := by
    intro before tree rest hsplit h
    rw [tree.unicode_value_iff h]
    refine forall₂_congr fun literal hliteral ↦ ?_
    rw [Literal.Unicode, ← Utf8.run_start_iff]
    exact Literal.run_bytes_iff (tree.valid_of_mem_kept h literal hliteral)
      (Tree.run_text_of_mem_kept (hsplit ▸ htext) hliteral)
  have hfuel : 2 * text.length ≤ 2 * text.length + 1 := Nat.le_succ _
  constructor
  · intro hunicode before tree rest hsplit hbefore h
    have hvalue : parseValue floats (2 * text.length + 1) text = .ok (tree.value, rest) :=
      (parseValue_eq_ok_iff hfuel).2 ⟨before, tree, hbefore, hsplit, rfl, h⟩
    rw [fromJSON, readFrom, hvalue] at hunicode
    exact (htree hsplit h).1 hunicode
  · intro hkept
    rw [fromJSON, readFrom]
    cases hread : parseValue floats (2 * text.length + 1) text with
    | error e => rfl
    | ok result =>
      obtain ⟨value, rest⟩ := result
      obtain ⟨before, tree, hbefore, hsplit, rfl, h⟩ := (parseValue_eq_ok_iff hfuel).1 hread
      exact (htree hsplit h).2 (hkept before tree rest hsplit hbefore h)

/-- A pair of surrogates in a key and in a string, and a second half alone in a value that is
replaced. -/
def pairedText : Bytes :=
  ascii "\x7b\"\\uD83D\\uDE00\": \"\\uDC00\", \"\\uD83D\\uDE00\": \"\\uD83D\\uDE00\"\x7d"

theorem unicode_fromJSON_iff_pairedText :
    (fromJSON noFloatText pairedText).Unicode ∧
      ∀ (before : Bytes) (tree : Tree) (rest : Bytes), pairedText = before ++ (tree.text ++ rest) →
        Blank before → Takes noFloatText tree rest → ∀ literal ∈ tree.kept, ¬literal.LoneLow := by
  have hunicode : (fromJSON noFloatText pairedText).Unicode := by
    unfold Unicode
    decide +kernel
  exact ⟨hunicode, (unicode_fromJSON_iff noFloatText (by decide +kernel)).1 hunicode⟩

/-- The escape of a second half alone is read as the three bytes of a surrogate. -/
theorem not_unicode_lowSurrogate :
    ¬∀ (floats : FloatText) (text : Bytes), Utf8.WellFormed text →
      (fromJSON floats text).Unicode := by
  intro h
  have hread := h noFloatText (ascii "\"\\uDC00\"") (by decide +kernel)
  unfold Unicode at hread
  revert hread
  decide +kernel

end Touchless.Value
