import Touchless.Utility.ValueStrict
import Touchless.Utility.ValueTermination

/-!
# When what is read is a text of JSON

Every text that denotes a value is read (`exists_takes`), and what is read has one extent: of a
stream, the reader takes one value, so a value of the grammar that stands there ends where the
reader takes it to end (`Denotes.text_eq`). Hence a tree whose text denotes a value was read
strictly (`strict_denotes`), and the reader follows the grammar exactly where it reads strictly
(`readsJson_readValue_iff`). It does not where a comma is missing (`not_readsJson_missingComma`).
-/

namespace Touchless.Value

open Json

variable {floats : FloatText} {text rest : Bytes} {value : Value} {literal : Literal}
  {s : List Char}

/-! ### Texts of the grammar are read -/

theorem follows_isElements (h : IsElements false text) (rest : Bytes) :
    Follows (text ++ 0x5D :: rest) := by
  cases h with
  | nil h => exact follows_close (by decide) (.inl h) rest
  | cons hseparator _ _ => exact follows_close (by decide) (.inr ⟨_, _, hseparator, rfl⟩) rest

theorem follows_isMembers (h : IsMembers false text) (rest : Bytes) :
    Follows (text ++ 0x7D :: rest) := by
  cases h with
  | nil h => exact follows_close (by decide) (.inl h) rest
  | cons hseparator _ _ _ _ _ =>
    exact follows_close (by decide) (.inr ⟨_, _, hseparator, rfl⟩) rest

/-- The pieces that a string of the grammar is read as. -/
theorem exists_quoted (h : RendersString s text) :
    ∃ literal : Literal, literal.Valid ∧ Tree.quoted literal = text := by
  obtain ⟨chars, rfl, hadds⟩ := adds_rendersString h
  obtain ⟨literal, hvalid, hquoted, -⟩ := parseString_eq_ok (parseString_adds hadds [])
  exact ⟨literal, hvalid, by rw [hquoted, List.append_nil]⟩

mutual

/-- **A text that denotes a value is read**, if nothing behind it could belong to a number. -/
theorem exists_takes : ∀ {text : Bytes} {value : Value}, Denotes text value →
    ∀ {rest : Bytes}, Follows rest → ∃ tree : Tree, tree.text = text ∧ Takes floats tree rest
  | _, _, .null, _, _ => ⟨.null, by rw [Tree.text], .null⟩
  | _, _, .true, _, _ => ⟨.bool true, by rw [Tree.text, if_pos rfl], .bool⟩
  | _, _, .false, _, _ => ⟨.bool false, by rw [Tree.text, if_neg Bool.false_ne_true], .bool⟩
  | _, _, .number htext _, rest, hrest => by
    obtain ⟨hsign, hint, hfraction, hexponent⟩ := id htext
    exact ⟨.number _ _, by rw [Tree.text],
      .number htext (parseNumber_append hsign hint hfraction hexponent hrest)⟩
  | _, _, .string h, _, _ => by
    obtain ⟨literal, hvalid, rfl⟩ := exists_quoted h
    exact ⟨.string literal, by rw [Tree.text], .string hvalid⟩
  | _, _, .array h, rest, _ => by
    obtain ⟨_, elements, close, hstream, -, htakes, hclose⟩ := exists_readsElements h rest
    refine ⟨.array elements close, ?_, .array htakes hclose⟩
    rw [Tree.text, List.cons.injEq]
    exact ⟨rfl, (List.append_cancel_right (by simpa using hstream)).symm⟩
  | _, _, .object h, rest, _ => by
    obtain ⟨_, members, close, hstream, -, htakes, hclose⟩ := exists_readsMembers h rest []
    refine ⟨.object members close, ?_, .object htakes hclose⟩
    rw [Tree.text, List.cons.injEq]
    exact ⟨rfl, (List.append_cancel_right (by simpa using hstream)).symm⟩

theorem exists_readsElements : ∀ {first : Bool} {text : Bytes} {elements : List Value},
    DenotesElements first text elements → ∀ rest : Bytes,
    ∃ values, ReadsElements floats first (text ++ 0x5D :: rest) values rest
  | _, _, _, .nil h, _ => ⟨[], readsElements_close.prepend (gap_blank (blank_whitespace h))⟩
  | _, _, _, .cons hseparator h hs, rest => by
    obtain ⟨tree, rfl, htakes⟩ := exists_takes h (follows_isElements hs.isElements rest)
    obtain ⟨values, helements⟩ := exists_readsElements hs rest
    refine ⟨tree.value :: values, ?_⟩
    rw [List.append_assoc, List.append_assoc]
    exact (helements.cons htakes).prepend (gap_separates hseparator)

theorem exists_readsMembers : ∀ {first : Bool} {text : Bytes}
    {entries entries' : List (Bytes × Value)}, DenotesMembers first text entries entries' →
    ∀ (rest : Bytes) (done : List (Bytes × Value)),
    ∃ done', ReadsMembers floats first (text ++ 0x7D :: rest) done done' rest
  | _, _, _, _, .nil h, _, done =>
    ⟨done, readsMembers_close.prepend (gap_blank (blank_whitespace h))⟩
  | _, _, _, _, .cons hseparator hkey hbefore hafter h hs, rest, done => by
    obtain ⟨tree, rfl, htakes⟩ := exists_takes h (follows_isMembers hs.isMembers rest)
    obtain ⟨key, hvalid, rfl⟩ := exists_quoted hkey
    obtain ⟨done', hmembers⟩ := exists_readsMembers hs rest
      (SortedAssoc.insert (key.flatMap Piece.bytes) tree.value done)
    refine ⟨done', ?_⟩
    simp only [List.append_assoc, List.cons_append]
    exact (hmembers.cons hvalid (blank_whitespace hbefore) (blank_whitespace hafter)
      htakes).prepend (gap_separates hseparator)

end

/-! ### What is read has one extent -/

section Extents

variable {first first' : Bool} {gap gap' text' tail tail' : Bytes} {tree : Tree}

theorem Gap.not_starts (h : Gap first gap) : ∀ c ∈ gap, ¬Starts c := by
  rintro c hc ⟨hblank, hcomma, -⟩
  rcases h c hc with h | ⟨-, rfl⟩
  · exact hblank h
  · exact hcomma rfl

/-- What stands before a value ends where the value begins. -/
theorem gap_inj (h : Gap first gap) (h' : Gap first' gap')
    (hstarts : ∃ c more, text = c :: more ∧ Starts c)
    (hstarts' : ∃ c more, text' = c :: more ∧ Starts c)
    (heq : gap ++ (text ++ tail) = gap' ++ (text' ++ tail')) :
    gap = gap' ∧ text ++ tail = text' ++ tail' := by
  obtain ⟨c, more, rfl, hc⟩ := hstarts
  obtain ⟨c', more', rfl, hc'⟩ := hstarts'
  have hspan := @span_append (fun c ↦ !decide (Starts c)) gap (c :: more ++ tail)
    (fun d hd ↦ by simp [h.not_starts d hd]) (by simpa using hc)
  have hspan' := @span_append (fun c ↦ !decide (Starts c)) gap' (c' :: more' ++ tail')
    (fun d hd ↦ by simp [h'.not_starts d hd]) (by simpa using hc')
  exact ⟨by rw [← hspan.1, heq, hspan'.1], by rw [← hspan.2, heq, hspan'.2]⟩

theorem Takes.rest_eq {tree' : Tree} {rest' : Bytes} (h : Takes floats tree rest)
    (h' : Takes floats tree' rest') (heq : tree.text ++ rest = tree'.text ++ rest') :
    rest = rest' := by
  have hread := parseValue_takes tree h _ (le_refl _)
  rw [heq, parseValue_takes tree' h' _ (le_refl _)] at hread
  exact (Prod.mk.inj (Except.ok.inj hread)).2.symm

theorem Denotes.starts (h : Denotes text value) : ∃ c tail, text = c :: tail ∧ Starts c := by
  obtain ⟨tree, rfl, htakes⟩ := @exists_takes noFloatText _ _ h [] follows_nil
  exact htakes.head

/-- A value of the grammar ends where the reader takes it to end. -/
theorem Denotes.text_eq (h : Denotes text value) (htakes : Takes floats tree (tail ++ rest))
    (hfollows : Follows (tail' ++ rest)) (heq : tree.text ++ tail = text ++ tail') :
    tree.text = text ∧ tail = tail' := by
  obtain ⟨tree', rfl, htakes'⟩ := @exists_takes floats _ _ h _ hfollows
  have hrest := htakes.rest_eq htakes' (by rw [← List.append_assoc, heq, List.append_assoc])
  obtain rfl := List.append_cancel_right hrest
  exact ⟨List.append_cancel_right heq, rfl⟩

theorem quoted_inj (hvalid : literal.Valid) (h : RendersString s text)
    (heq : Tree.quoted literal ++ tail = text ++ tail') :
    Tree.quoted literal = text ∧ tail = tail' := by
  obtain ⟨literal', hvalid', rfl⟩ := exists_quoted h
  have hquoted : ∀ (literal : Literal) (tail : Bytes), Tree.quoted literal ++ tail =
      0x22 :: (literal.flatMap Piece.text ++ 0x22 :: tail) := by
    simp [Tree.quoted]
  have hread := parseString_adds hvalid.adds tail
  rw [← hquoted, heq, hquoted, parseString_adds hvalid'.adds] at hread
  obtain rfl := (Prod.mk.inj (Except.ok.inj hread)).2
  exact ⟨List.append_cancel_right heq, rfl⟩

end Extents

/-! ### Texts of the grammar are read strictly -/

/-- The first character decides what a text denotes. -/
theorem denotes_cons {c : UInt8} {tail : Bytes} (h : Denotes (c :: tail) value) :
    (c = 0x6E ∨ c = 0x74 ∨ c = 0x66) ∨
    (c = 0x2D ∨ isDigit c = true) ∧ DenotesNumber (c :: tail) value ∨
    (c = 0x22 ∧ ∃ s, RendersString s (c :: tail)) ∨
    (c = 0x5B ∧ ∃ text elements, tail = text ++ [0x5D] ∧ DenotesElements true text elements) ∨
    (c = 0x7B ∧ ∃ text entries, tail = text ++ [0x7D] ∧ DenotesMembers true text [] entries) := by
  generalize htext : c :: tail = text at h
  cases h with
  | null => exact .inl (.inl (List.cons.inj htext).1)
  | true => exact .inl (.inr (.inl (List.cons.inj htext).1))
  | false => exact .inl (.inr (.inr (List.cons.inj htext).1))
  | number hnumber h =>
    obtain ⟨d, digits, rfl, hd⟩ := isNumber_head hnumber
    obtain ⟨rfl, rfl⟩ := List.cons.inj htext
    exact .inr (.inl ⟨hd, h⟩)
  | string h =>
    obtain ⟨chars, rfl, -⟩ := adds_rendersString h
    exact .inr (.inr (.inl ⟨(List.cons.inj htext).1, _, h⟩))
  | array h =>
    obtain ⟨rfl, rfl⟩ := List.cons.inj htext
    exact .inr (.inr (.inr (.inl ⟨rfl, _, _, rfl, h⟩)))
  | object h =>
    obtain ⟨rfl, rfl⟩ := List.cons.inj htext
    exact .inr (.inr (.inr (.inr ⟨rfl, _, _, rfl, h⟩)))

/-- What stands before a bracket or a brace holds no value. -/
theorem gap_ne_append {first : Bool} {gap before tail : Bytes} (h : Gap first gap)
    (hstarts : ∃ c more, text = c :: more ∧ Starts c) : gap ≠ before ++ (text ++ tail) := by
  obtain ⟨c, more, rfl, hc⟩ := hstarts
  rintro rfl
  exact h.not_starts c (by simp) hc

theorem starts_rendersString (h : RendersString s text) :
    ∃ c more, text = c :: more ∧ Starts c := by
  obtain ⟨chars, rfl, -⟩ := adds_rendersString h
  exact ⟨0x22, _, rfl, by decide⟩

mutual

/-- **Where the text denotes a value**, it is read strictly. -/
theorem strict_denotes : ∀ (tree : Tree) {rest : Bytes}, Takes floats tree rest →
    ∀ {value : Value}, Denotes tree.text value → tree.Strict
  | .null, _, _, _, _ => by rw [Tree.Strict]; trivial
  | .bool _, _, _, _, _ => by rw [Tree.Strict]; trivial
  | .number text _, _, .number htext _, _, h => by
    rw [Tree.Strict]
    rw [Tree.text] at h
    obtain ⟨c, tail, rfl, hc⟩ := isNumber_head htext
    rcases denotes_cons h with hword | ⟨-, hnumber⟩ | ⟨rfl, -⟩ | ⟨rfl, -⟩ | ⟨rfl, -⟩
    · rcases hword with rfl | rfl | rfl <;> exact absurd hc (by decide)
    · exact hnumber.fits
    all_goals exact absurd hc (by decide)
  | .string literal, _, .string hvalid, _, h => by
    rw [Tree.Strict]
    rw [Tree.text, Tree.quoted] at h
    rcases denotes_cons h with hword | ⟨hdigit, -⟩ | ⟨-, s, hs⟩ | ⟨hbracket, -⟩ | ⟨hbrace, -⟩
    · exact absurd hword (by decide)
    · exact absurd hdigit (by decide)
    · exact proper_quoted hvalid hs
    · exact absurd hbracket (by decide)
    · exact absurd hbrace (by decide)
  | .array elements close, _, .array htakes hclose, _, h => by
    rw [Tree.Strict]
    rw [Tree.text] at h
    rcases denotes_cons h with hword | ⟨hdigit, -⟩ | ⟨hquote, -⟩ | ⟨-, body, values, hbody, hs⟩ |
      ⟨hbrace, -⟩
    · exact absurd hword (by decide)
    · exact absurd hdigit (by decide)
    · exact absurd hquote (by decide)
    · rw [← List.append_assoc] at hbody
      obtain rfl := List.append_cancel_right hbody
      exact strictElements_denotes elements htakes hclose hs
    · exact absurd hbrace (by decide)
  | .object members close, _, .object htakes hclose, _, h => by
    rw [Tree.Strict]
    rw [Tree.text] at h
    rcases denotes_cons h with hword | ⟨hdigit, -⟩ | ⟨hquote, -⟩ | ⟨hbracket, -⟩ |
      ⟨-, body, entries, hbody, hs⟩
    · exact absurd hword (by decide)
    · exact absurd hdigit (by decide)
    · exact absurd hquote (by decide)
    · exact absurd hbracket (by decide)
    · rw [← List.append_assoc] at hbody
      obtain rfl := List.append_cancel_right hbody
      exact strictMembers_denotes members htakes hclose hs

theorem strictElements_denotes : ∀ (elements : List (Bytes × Tree)) {first : Bool}
    {close rest : Bytes}, TakesElements floats first elements (close ++ 0x5D :: rest) →
    Gap (first && elements.isEmpty) close →
    ∀ {values : List Value}, DenotesElements first (Tree.textElements elements ++ close) values →
    Tree.StrictElements first elements ∧ Separated 0 close
  | [], first, close, rest, .nil, hclose, values, h => by
    rw [Tree.textElements, List.nil_append] at h
    rw [Tree.StrictElements]
    cases h with
    | nil hwhite => exact ⟨trivial, separated_whitespace hwhite⟩
    | cons _ h _ => exact absurd rfl (gap_ne_append hclose h.starts)
  | (gap, element) :: elements, first, close, rest, .cons hgap htakes hs, hclose, values, h => by
    rw [Tree.textElements, List.append_assoc, List.append_assoc] at h
    generalize hbody : gap ++ (element.text ++ (Tree.textElements elements ++ close)) = body at h
    cases h with
    | nil hwhite =>
      have hblank : Gap true body := gap_blank (blank_whitespace hwhite)
      exact absurd hbody.symm (gap_ne_append hblank htakes.head)
    | cons hseparator h hs' =>
      rw [List.isEmpty_cons, Bool.and_false] at hclose
      obtain ⟨rfl, hrest⟩ := gap_inj hgap (gap_separates hseparator) htakes.head h.starts hbody
      rw [← List.append_assoc] at htakes
      obtain ⟨rfl, rfl⟩ := h.text_eq htakes (follows_isElements hs'.isElements rest) hrest
      rw [List.append_assoc] at htakes
      obtain ⟨helements, hcommas⟩ := strictElements_denotes elements hs hclose hs'
      rw [Tree.StrictElements]
      exact ⟨⟨(separated_iff hgap).2 hseparator, strict_denotes element htakes h, helements⟩,
        hcommas⟩

theorem strictMembers_denotes : ∀ (members : List (Bytes × Literal × Bytes × Bytes × Tree))
    {first : Bool} {close rest : Bytes},
    TakesMembers floats first members (close ++ 0x7D :: rest) →
    Gap (first && members.isEmpty) close →
    ∀ {entries entries' : List (Bytes × Value)},
    DenotesMembers first (Tree.textMembers members ++ close) entries entries' →
    Tree.StrictMembers first members ∧ Separated 0 close
  | [], first, close, rest, .nil, hclose, entries, entries', h => by
    rw [Tree.textMembers, List.nil_append] at h
    rw [Tree.StrictMembers]
    cases h with
    | nil hwhite => exact ⟨trivial, separated_whitespace hwhite⟩
    | cons _ hkey _ _ _ _ => exact absurd rfl (gap_ne_append hclose (starts_rendersString hkey))
  | (gap, key, before, after, element) :: members, first, close, rest,
      .cons hgap hvalid hbefore hafter htakes hs, hclose, entries, entries', h => by
    have hquote : ∃ c more, Tree.quoted key = c :: more ∧ Starts c := ⟨0x22, _, rfl, by decide⟩
    have hcolon : ∃ c more, ([0x3A] : Bytes) = c :: more ∧ Starts c := ⟨0x3A, [], rfl, by decide⟩
    simp only [Tree.textMembers, List.append_assoc, List.cons_append] at h
    generalize hbody : gap ++ (Tree.quoted key ++ (before ++ 0x3A :: (after ++
      (element.text ++ (Tree.textMembers members ++ close))))) = body at h
    cases h with
    | nil hwhite =>
      have hblank : Gap true body := gap_blank (blank_whitespace hwhite)
      exact absurd hbody.symm (gap_ne_append hblank hquote)
    | cons hseparator hkey hbefore' hafter' h hs' =>
      rw [List.isEmpty_cons, Bool.and_false] at hclose
      obtain ⟨rfl, hname⟩ := gap_inj hgap (gap_separates hseparator) hquote
        (starts_rendersString hkey) hbody
      obtain ⟨rfl, hbetween⟩ := quoted_inj hvalid hkey hname
      have hgaps : ∀ {blanks : Bytes}, Whitespace blanks → Gap true blanks := fun h ↦
        gap_blank (blank_whitespace h)
      obtain ⟨rfl, hvalue⟩ := gap_inj (@gap_blank true _ hbefore) (hgaps hbefore') hcolon hcolon
        hbetween
      obtain ⟨rfl, hrest⟩ := gap_inj (@gap_blank true _ hafter) (hgaps hafter') htakes.head
        h.starts (List.cons.inj hvalue).2
      rw [← List.append_assoc] at htakes
      obtain ⟨rfl, rfl⟩ := h.text_eq htakes (follows_isMembers hs'.isMembers rest) hrest
      rw [List.append_assoc] at htakes
      obtain ⟨hmembers, hcommas⟩ := strictMembers_denotes members hs hclose hs'
      rw [Tree.StrictMembers]
      exact ⟨⟨(separated_iff hgap).2 hseparator, proper_quoted hvalid hkey,
        ⟨(whitespace_iff hbefore).1 hbefore', (whitespace_iff hafter).1 hafter'⟩,
        strict_denotes element htakes h, hmembers⟩, hcommas⟩

end

/-! ### What is read -/

/-- White space and one value of the grammar have been read, and the result is what it denotes. -/
def ReadsJson (stream : Bytes) (value : Value) (rest : Bytes) : Prop :=
  ∃ before text, stream = before ++ (text ++ rest) ∧ Whitespace before ∧ IsValue text ∧
    Denotes text value

theorem readValue_takes {before : Bytes} {tree : Tree} (hbefore : Blank before)
    (h : Takes floats tree rest) :
    readValue floats (before ++ (tree.text ++ rest)) = .ok (tree.value, rest) :=
  (parseValue_eq_ok_iff (Nat.le_succ _)).2 ⟨before, tree, hbefore, rfl, rfl, h⟩

/-- **A tree that is read** is a value of the grammar if it is strict. -/
theorem readsJson_takes_iff (hfloats : ReadsNearest floats) {before : Bytes} {tree : Tree}
    (hbefore : Blank before) (h : Takes floats tree rest) :
    ReadsJson (before ++ (tree.text ++ rest)) tree.value rest ↔ 0x0C ∉ before ∧ tree.Strict := by
  constructor
  · rintro ⟨before', text, heq, hwhite, -, hdenotes⟩
    obtain ⟨rfl, htext⟩ := gap_inj (@gap_blank true _ hbefore)
      (@gap_blank true _ (blank_whitespace hwhite)) h.head hdenotes.starts heq
    obtain rfl := List.append_cancel_right htext
    exact ⟨(whitespace_iff hbefore).1 hwhite, strict_denotes tree h hdenotes⟩
  · rintro ⟨hfeed, hstrict⟩
    have hdenotes := denotes_strict hfloats h hstrict
    exact ⟨before, tree.text, rfl, (whitespace_iff hbefore).2 hfeed, hdenotes.isValue, hdenotes⟩

/-- Two integers in an array, with a gap between them. -/
def pairTree (n m : ℤ) (gap : Bytes) : Tree :=
  .array [([], .number (decimalInt n) (ofInteger n)), (gap, .number (decimalInt m) (ofInteger m))]
    []

section Pair

variable {n m : ℤ} {gap : Bytes}

theorem takes_pairTree (hgap : Gap false gap)
    (hfollows : Follows (gap ++ (decimalInt m ++ 0x5D :: rest))) :
    Takes floats (pairTree n m gap) rest := by
  have hclose : Follows (0x5D :: rest) := follows_cons (by decide)
  refine .array (.cons (gap_blank blank_nil) (.number (isNumber_decimalInt n) ?_)
    (.cons hgap (.number (isNumber_decimalInt m) (parseNumber_decimalInt m hclose)) .nil))
    (gap_blank blank_nil)
  simp only [Tree.textElements, Tree.text, List.append_nil, List.nil_append, List.append_assoc]
  exact parseNumber_decimalInt n hfollows

/-- Of two integers, it is the separator that matters. -/
theorem strict_pairTree (hn : -2 ^ 63 ≤ n ∧ n < 2 ^ 64) (hm : -2 ^ 63 ≤ m ∧ m < 2 ^ 64) :
    (pairTree n m gap).Strict ↔ Separated 1 gap := by
  have hfits : ∀ {k : ℤ}, -2 ^ 63 ≤ k ∧ k < 2 ^ 64 → Fits (decimalInt k) := fun hk ↦
    (denotesNumber_rendersInteger hk.1 hk.2 (.decimal _)).2.fits
  have hnone : Separated 0 [] := separated_whitespace (by simp [Whitespace])
  simp only [pairTree, Tree.Strict, Tree.StrictElements, if_true, if_false, Bool.false_eq_true,
    hfits hn, hfits hm, hnone, true_and, and_true]

end Pair

/-- **When the reader follows the grammar**: in what it takes for a value there is no form feed in
the white space, one comma between elements or members and none elsewhere, and strings and numbers
are those of the grammar and of the types. -/
theorem readsJson_readValue_iff (hfloats : ReadsNearest floats) (stream : Bytes) :
    (∀ (value : Value) (rest : Bytes), readValue floats stream = .ok (value, rest) →
      ReadsJson stream value rest) ↔
    ∀ (before : Bytes) (tree : Tree) (rest : Bytes), stream = before ++ (tree.text ++ rest) →
      Blank before → Takes floats tree rest → 0x0C ∉ before ∧ tree.Strict := by
  constructor
  · rintro hread before tree rest rfl hbefore h
    exact (readsJson_takes_iff hfloats hbefore h).1 (hread _ _ (readValue_takes hbefore h))
  · intro hstrict value rest hread
    obtain ⟨before, tree, hbefore, rfl, rfl, h⟩ := (parseValue_eq_ok_iff (Nat.le_succ _)).1 hread
    exact (readsJson_takes_iff hfloats hbefore h).2 (hstrict before tree rest rfl hbefore h)

/-- Two integers with a comma between them, and something behind the array. -/
theorem readsJson_readValue_iff_pair :
    (∀ (value : Value) (rest : Bytes),
      readValue nearestFloatText (ascii "[1, 2]x") = .ok (value, rest) →
        ReadsJson (ascii "[1, 2]x") value rest) ∧
    ∀ (before : Bytes) (tree : Tree) (rest : Bytes),
      ascii "[1, 2]x" = before ++ (tree.text ++ rest) → Blank before →
        Takes nearestFloatText tree rest → 0x0C ∉ before ∧ tree.Strict := by
  have htakes : Takes nearestFloatText (pairTree 1 2 [0x2C, 0x20]) [0x78] :=
    takes_pairTree (by simp [Gap]) (follows_cons (by decide))
  have hstrict : (pairTree 1 2 [0x2C, 0x20]).Strict :=
    (strict_pairTree (by decide) (by decide)).2 (by decide)
  have hsound : ∀ (value : Value) (rest : Bytes),
      readValue nearestFloatText (ascii "[1, 2]x") = .ok (value, rest) →
        ReadsJson (ascii "[1, 2]x") value rest := by
    have htext : ascii "[1, 2]x" = [] ++ ((pairTree 1 2 [0x2C, 0x20]).text ++ [0x78]) := by
      decide +kernel
    intro value rest h
    rw [htext, readValue_takes blank_nil htakes] at h
    cases h
    rw [htext]
    exact (readsJson_takes_iff readsNearest_nearestFloatText blank_nil htakes).2 ⟨by simp, hstrict⟩
  exact ⟨hsound, (readsJson_readValue_iff readsNearest_nearestFloatText _).1 hsound⟩

/-- Without the comma, two elements are read all the same. -/
theorem not_readsJson_missingComma :
    ¬∀ floats : FloatText, ReadsNearest floats →
      ∀ (stream : Bytes) (value : Value) (rest : Bytes),
        readValue floats stream = .ok (value, rest) → ReadsJson stream value rest := by
  intro h
  have hread : readValue nearestFloatText (ascii "[1 2]") = .ok (array [int 1, int 2], []) := rfl
  have hjson := h _ readsNearest_nearestFloatText _ _ _ hread
  have htakes : Takes nearestFloatText (pairTree 1 2 [0x20]) [] :=
    takes_pairTree (by simp [Gap]) (follows_cons (by decide))
  have hstrict := ((readsJson_takes_iff readsNearest_nearestFloatText blank_nil htakes).1 hjson).2
  have hcommas := ((strict_pairTree (by decide) (by decide)).1 hstrict).1
  exact absurd hcommas (by decide)

end Touchless.Value
